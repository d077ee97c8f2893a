import HistoryExpansion.Shell.Builtin.Variable
import HistoryExpansion.Shell.Permissions

/-!
# Commands for settings

The options of the shell, its arguments, the names that stand for other texts, and the permissions
and limits of what it makes and starts.
-/

namespace HistoryExpansion.Shell.Builtin

/-! ## Options -/

/-- The option that a letter stands for, set or not. -/
def setOption? (letter : Char) (on : Bool) (options : Options) : Option Options :=
  match letter with
  | 'a' => some { options with exportsAll := on }
  | 'e' => some { options with endsOnFailure := on }
  | 'f' => some { options with keepsPatterns := on }
  | 'n' => some { options with onlyReads := on }
  | 'u' => some { options with needsValues := on }
  | 'x' => some { options with traces := on }
  | 'C' => some { options with keepsFiles := on }
  | c => if "bhilmpsvV".toList.contains c then some options else none

/-- The letter of an option that is given by its name. -/
def optionLetter? : String → Option Char
  | "allexport" => some 'a'
  | "errexit" => some 'e'
  | "noglob" => some 'f'
  | "noexec" => some 'n'
  | "nounset" => some 'u'
  | "xtrace" => some 'x'
  | "noclobber" => some 'C'
  | "notify" => some 'b'
  | "verbose" => some 'v'
  | "monitor" => some 'm'
  | "vi" => some 'V'
  | _ => none

/-- The options with one of a name set or not. -/
def setNamed? (dialect : Dialect) (name : String) (on : Bool) (options : Options) :
    Option Options :=
  match optionLetter? name, dialect with
  | some letter, _ => setOption? letter on options
  | none, .plain => none
  | none, .extended =>
    if name = "pipefail" then some { options with pipesFail := on }
    else if ["braceexpand", "emacs", "errtrace", "functrace", "hashall", "histexpand", "history",
        "ignoreeof", "interactive-comments", "keyword", "nolog", "onecmd", "physical", "posix",
        "privileged"].contains name then some options
    else none

/-- The options of a shell of the plain dialect by their names, in the order of their listing. -/
def plainOptionNames : List String :=
  ["errexit", "noglob", "ignoreeof", "interactive", "monitor", "noexec", "stdin", "xtrace",
    "verbose", "vi", "emacs", "noclobber", "allexport", "notify", "nounset", "privileged", "nolog",
    "debug"]

/-- The options of a shell of the extended dialect by their names. -/
def extendedOptionNames : List String :=
  ["allexport", "braceexpand", "emacs", "errexit", "errtrace", "functrace", "hashall", "histexpand",
    "history", "ignoreeof", "interactive-comments", "keyword", "monitor", "noclobber", "noexec",
    "noglob", "nolog", "notify", "nounset", "onecmd", "physical", "pipefail", "posix", "privileged",
    "verbose", "vi", "xtrace"]

/-- Whether an option of a name is set. -/
def isOptionOn (options : Options) (name : String) : Bool :=
  match name with
  | "allexport" => options.exportsAll
  | "errexit" => options.endsOnFailure
  | "noglob" => options.keepsPatterns
  | "noexec" => options.onlyReads
  | "nounset" => options.needsValues
  | "xtrace" => options.traces
  | "noclobber" => options.keepsFiles
  | "pipefail" => options.pipesFail
  | "braceexpand" => true
  | "hashall" => true
  | "interactive-comments" => true
  | _ => false

/-- The options with whether they are set. -/
def showOptions (asCommands : Bool) : Effect Nat := do
  let own ← own
  let extended := own.dialect.isExtended
  let names := if extended then extendedOptionNames else plainOptionNames
  let row (name : String) : String :=
    let on := isOptionOn own.options name
    if asCommands then (if on then "set -o " else "set +o ") ++ name ++ "\n"
    else if extended then filledTo 15 name ++ "\t" ++ (if on then "on" else "off") ++ "\n"
    else filledTo 16 name ++ (if on then "on" else "off") ++ "\n"
  let title := if extended ∨ asCommands then "" else "Current option settings\n"
  printingText (title ++ String.join (names.map row))

/-- How the options and the arguments are set. -/
def setUsage : String :=
  "set: usage: set [-abefhkmnptuvxBCEHPT] [-o option-name] [--] [-] [arg ...]\n"

/-- Sets options, and arguments if there are words behind them. -/
def setWords : (fuel : Nat) → List String → Effect Nat
  | 0, _ => return 0
  | _, [] => return 0
  | fuel + 1, word :: rest => do
    let replace (arguments : List String) : Effect Nat := do
      changeOwn fun own => { own with arguments := arguments }
      return 0
    match word.toList with
    | ['-', '-'] => replace rest
    | ['-'] => if rest.isEmpty then return 0 else replace rest
    | sign :: letter :: letters =>
      if sign = '-' ∨ sign = '+' then
        lettersOf fuel sign (letter :: letters) rest
      else replace (word :: rest)
    | _ => replace (word :: rest)
where
  /-- Sets the options of letters; the letter `o` takes the name of one from the next word. -/
  lettersOf (fuel : Nat) (sign : Char) : List Char → List String → Effect Nat
    | [], rest => setWords fuel rest
    | 'o' :: letters, rest => do
      match rest with
      | [] => showOptions (sign == '+')
      | name :: rest =>
        let own ← own
        match setNamed? own.dialect name (sign == '-') own.options with
        | some options =>
          changeOwn fun own => { own with options := options }
          lettersOf fuel sign letters rest
        | none =>
          failAs ("Illegal option " ++ String.ofList [sign] ++ "o " ++ name)
            (name ++ ": invalid option name") 2
    | c :: letters, rest => do
      let own ← own
      let known := if own.dialect.isExtended ∧ "kptBEHPT".toList.contains c then some own.options
        else setOption? c (sign == '-') own.options
      match known with
      | some options =>
        if c = 'm' ∧ sign = '-' ∧ !own.dialect.isExtended then
          complain "can't access tty; job control turned off"
        changeOwn fun own => { own with options := options }
        lettersOf fuel sign letters rest
      | none =>
        complainAs ("Illegal option " ++ String.ofList [sign, c])
          (String.ofList [sign, c] ++ ": invalid option")
        if own.dialect.isExtended then writeText 2 setUsage
        throw (.failed 2)

/-- Sets options and arguments, or shows the variables. -/
def set : Builtin := fun arguments => do
  if arguments.isEmpty then
    if ← isExtended then showValues else showVariables "" fun binding => binding.value.isSome
  else setWords (arguments.length + 1) arguments

/-! ## Further options -/

/-- The further options of the extended dialect, with whether they are set from the start. -/
def furtherOptions : List (String × Bool) :=
  [("autocd", false), ("assoc_expand_once", false), ("cdable_vars", false), ("cdspell", false),
    ("checkhash", false), ("checkjobs", false), ("checkwinsize", true), ("cmdhist", true),
    ("compat31", false), ("compat32", false), ("compat40", false), ("compat41", false),
    ("compat42", false), ("compat43", false), ("compat44", false), ("complete_fullquote", true),
    ("direxpand", false), ("dirspell", false), ("dotglob", false), ("execfail", false),
    ("expand_aliases", false), ("extdebug", false), ("extglob", false), ("extquote", true),
    ("failglob", false), ("force_fignore", true), ("globasciiranges", true),
    ("globskipdots", true), ("globstar", false), ("gnu_errfmt", false), ("histappend", false),
    ("histreedit", false), ("histverify", false), ("hostcomplete", true), ("huponexit", false),
    ("inherit_errexit", false), ("interactive_comments", true), ("lastpipe", false),
    ("lithist", false), ("localvar_inherit", false), ("localvar_unset", false),
    ("login_shell", false), ("mailwarn", false), ("no_empty_cmd_completion", false),
    ("nocaseglob", false), ("nocasematch", false), ("noexpand_translation", false),
    ("nullglob", false), ("patsub_replacement", true), ("progcomp", true),
    ("progcomp_alias", false), ("promptvars", true), ("restricted_shell", false),
    ("shift_verbose", false), ("sourcepath", true), ("varredir_close", false),
    ("xpg_echo", false)]

/-- Whether a further option is set. Options that are set from the start are noted once they are
not. -/
def isFurtherOn (options : Options) (name : String) : Bool :=
  options.further.contains name != (furtherOptions.lookup name).getD false

/-- Sets further options or shows them. -/
def furtherSettings : Builtin := fun arguments => do
  let flags := arguments.takeWhile (·.startsWith "-")
  let names := arguments.drop flags.length
  let letters := flags.flatMap fun word => word.toList.drop 1
  match names.find? fun name => (furtherOptions.lookup name).isNone with
  | some name =>
    complain (name ++ ": invalid shell option name")
    return 1
  | none =>
    let options := (← own).options
    if (letters.contains 's' ∨ letters.contains 'u') ∧ !names.isEmpty then
      let on := letters.contains 's'
      for name in names do
        changeOwn fun own =>
          let others := own.options.further.filter (· ≠ name)
          let further :=
            if on != (furtherOptions.lookup name).getD false then name :: others else others
          { own with options := { own.options with further := further } }
      return 0
    else
      let rows := furtherOptions.filter fun (name, _) =>
        (names.isEmpty || names.contains name) &&
          (!letters.contains 's' || isFurtherOn options name) &&
          (!letters.contains 'u' || !isFurtherOn options name)
      let row (name : String) : String :=
        let on := isFurtherOn options name
        if letters.contains 'p' then (if on then "shopt -s " else "shopt -u ") ++ name ++ "\n"
        else filledTo 15 name ++ "\t" ++ (if on then "on" else "off") ++ "\n"
      if !letters.contains 'q' then
        let _ ← printingText (String.join (rows.map fun (name, _) => row name))
      return if names.all (isFurtherOn options) then 0 else 1

/-! ## Permissions and limits -/

/-- Shows the permissions that new files are denied, or sets them. -/
def umask : Builtin := fun arguments => do
  let own ← own
  let letters := arguments.takeWhile fun word => word = "-S" ∨ word = "-p"
  let allowed := PermissionChange.without 0o777 own.mask
  match arguments.drop letters.length with
  | [] =>
    let shown :=
      if letters.contains "-S" then permissionClauses allowed
      else (if letters.contains "-p" then "umask " else "") ++ inOctal 4 own.mask
    printingText (shown ++ "\n")
  | word :: _ =>
    let change (mask : Nat) : Effect Nat := do
      changeOwn fun own => { own with mask := mask }
      if own.dialect.isExtended ∧ letters.contains "-S" then
        printingText (permissionClauses (PermissionChange.without 0o777 mask) ++ "\n")
      else return 0
    let isNumber := (word.toList.head?.map isDigit).getD false
    match PermissionChange.read? word with
    | some (.exactly mask) =>
      if mask ≤ 0o777 ∨ !own.dialect.isExtended then change (mask % 0o1000)
      else failAs "" (word ++ ": octal number out of range")
    | some (.inTurn clauses) =>
      change (PermissionChange.without 0o777
        ((PermissionChange.inTurn clauses).apply false 0 allowed % 0o1000))
    | none =>
      if isNumber then failAs ("Illegal number: " ++ word) (word ++ ": octal number out of range")
      else
        failAs ("Illegal mode: " ++ word)
          (betweenMarks (String.ofList (word.toList.take 1)) ++ ": invalid symbolic mode operator")

/-- Shows the limits of what the shell starts. -/
def limits : Builtin := fun arguments => do
  let letters := arguments.flatMap fun word =>
    if word.startsWith "-" then word.toList.drop 1 else []
  let values := arguments.filter fun word => !word.startsWith "-"
  let shown := letters.filter fun c => c ≠ 'S' ∧ c ≠ 'H'
  match shown.find? fun c => !"acdflmnpstvwrxiqeu".toList.contains c with
  | some c => failAs ("Illegal option -" ++ String.ofList [c]) ("-" ++ String.ofList [c] ++
      ": invalid option") 2
  | none =>
    if !values.isEmpty then return 0
    let value :=
      match shown.getLast? with
      | some 'c' => "0"
      | some 'n' => "1048576"
      | some 's' => "8192"
      | some 'l' => "8192"
      | some 'p' => "8"
      | _ => "unlimited"
    printingText (value ++ "\n")

/-! ## Other names -/

/-- The names that stand for other texts, in the order in which they are listed. -/
def sortedAliases : Effect (List (String × String)) := do
  let own ← own
  let oldestFirst := own.aliases.reverse
  return if own.dialect.isExtended then oldestFirst.mergeSort fun a b => a.1 ≤ b.1
    else oldestFirst.mergeSort fun a b => namePlace .plain a.1 ≤ namePlace .plain b.1

/-- How a name that stands for another text is shown. -/
def aliasRow (dialect : Dialect) (pair : String × String) : String :=
  match dialect with
  | .plain => pair.1 ++ "=" ++ inQuotes pair.2 ++ "\n"
  | .extended => "alias " ++ pair.1 ++ "=" ++ singleQuoted pair.2 ++ "\n"

/-- Lets names stand for other texts, or shows them. -/
def setAliases : Builtin := fun arguments => do
  let dialect := (← own).dialect
  let words := arguments.filter (· ≠ "-p")
  if words.isEmpty then
    printingText (String.join ((← sortedAliases).map (aliasRow dialect)))
  else
    let mut status := 0
    for word in words do
      let name := String.ofList (word.toList.takeWhile (· ≠ '='))
      if word.toList.contains '=' ∧ name ≠ "" then
        let text := String.ofList (word.toList.drop (name.length + 1))
        let known := ((← own).aliases.lookup name).isSome
        changeOwn fun own =>
          { own with
            aliases :=
              if known then own.aliases.map fun pair => if pair.1 = name then (name, text) else pair
              else (name, text) :: own.aliases }
      else
        match (← own).aliases.lookup word with
        | some text => let _ ← printingText (aliasRow dialect (word, text))
        | none =>
          if dialect.isExtended then complain (word ++ ": not found")
          else writeText 2 ("alias: " ++ word ++ " not found\n")
          status := 1
    return status

/-- Lets names stand for themselves again. -/
def removeAliases : Builtin := fun arguments => do
  let extended ← isExtended
  if arguments.contains "-a" then
    changeOwn fun own => { own with aliases := [] }
    return 0
  let mut status := 0
  for word in arguments do
    if ((← own).aliases.lookup word).isSome then
      changeOwn fun own => { own with aliases := own.aliases.filter (·.1 ≠ word) }
    else
      if extended then complain (word ++ ": not found")
      else writeText 2 ("unalias: " ++ word ++ " not found\n")
      status := 1
  return status

end HistoryExpansion.Shell.Builtin
