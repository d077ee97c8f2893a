import HistoryExpansion.Shell.Items

/-!
# Values as they could be typed

A text as a shell would read it back: in single quotes, with backslashes, or with its control
characters written by letters.
-/

namespace HistoryExpansion.Shell

/-- Whether a character cannot be shown as it is. -/
def isControl (c : Char) : Bool :=
  c.toNat < 0x20 || c == '\x7f'

/-- A text between quotes that letters for control characters may stand in. -/
def escapedQuoted (text : String) : String :=
  let written (c : Char) : String :=
    if c = '\'' then "\\'"
    else if c = '\\' then "\\\\"
    else if c = '\x07' then "\\a"
    else if c = '\x08' then "\\b"
    else if c = '\x1b' then "\\E"
    else if c = '\x0c' then "\\f"
    else if c = '\n' then "\\n"
    else if c = '\x0d' then "\\r"
    else if c = '\t' then "\\t"
    else if c = '\x0b' then "\\v"
    else if isControl c then
      "\\" ++ String.ofList ([c.toNat / 64, c.toNat / 8 % 8, c.toNat % 8].map fun digit =>
        Char.ofNat (0x30 + digit))
    else String.ofList [c]
  "$'" ++ String.join (text.toList.map written) ++ "'"

/-- A text between single quotes. -/
def singleQuoted (text : String) : String :=
  "'" ++ String.join (text.toList.map fun c =>
    if c = '\'' then "'\\''" else String.ofList [c]) ++ "'"

/-- A text between quotes. -/
def shellQuoted (text : String) : String :=
  if text.toList.any isControl then escapedQuoted text else singleQuoted text

/-- Whether a character may stand without a backslash. -/
def isPlainChar (c : Char) : Bool :=
  c.isAlphanum || "%+,-./:=@_".toList.contains c || c.toNat > 0x7f

/-- A text with backslashes before the characters that mean something. -/
def backslashed (text : String) : String :=
  if text = "" then "''"
  else if text.toList.any isControl then escapedQuoted text
  else
    String.join (text.toList.zipIdx.map fun (c, i) =>
      let isPlain := isPlainChar c || (i > 0 && (c == '~' || c == '#'))
      if isPlain then String.ofList [c] else String.ofList ['\\', c])

/-- A text between double quotes, as the values of variables are listed. -/
def doubleQuoted (text : String) : String :=
  if text.toList.any fun c => isControl c && c != '\t' && c != '\n' then escapedQuoted text
  else
    "\"" ++ String.join (text.toList.map fun c =>
      if "\"\\$\x60".toList.contains c then String.ofList ['\\', c] else String.ofList [c]) ++ "\""

/-- A text as it is listed where quotes are left out if nothing needs them. -/
def quotedIfNeeded (text : String) : String :=
  if text = "" then ""
  else if text.toList.any isControl then escapedQuoted text
  else if text.toList.all fun c => isPlainChar c || c == '~' || c == '#' || c == '^' then text
  else singleQuoted text

/-- Whether a character means something to a shell, by the character before it if there is one. -/
def isMeaningful (before : Option Char) (c : Char) : Bool :=
  " '\"\\|&;()<>!\x7b\x7d*[?]^$\x60".toList.contains c ||
    (c == '~' && (before.isNone || before == some '=' || before == some ':')) ||
    (c == '#' && before.isNone)

/-- A text as the words of a command are shown before it is run. -/
def tracedWord (text : String) : String :=
  let chars := text.toList
  if text = "" then "''"
  else if chars.any isControl then escapedQuoted text
  else if (none :: chars.map some).zip chars |>.any fun (before, c) => isMeaningful before c then
    singleQuoted text
  else text

end HistoryExpansion.Shell
