import HistoryExpansion.Shell.Utility.Arguments
import HistoryExpansion.Shell.Utility.Attributes
import HistoryExpansion.Shell.Utility.Blocks
import HistoryExpansion.Shell.Utility.Calculation
import HistoryExpansion.Shell.Utility.Compare
import HistoryExpansion.Shell.Utility.Copies
import HistoryExpansion.Shell.Utility.Difference
import HistoryExpansion.Shell.Utility.Dump
import HistoryExpansion.Shell.Utility.Encoding
import HistoryExpansion.Shell.Utility.Files
import HistoryExpansion.Shell.Utility.Lines
import HistoryExpansion.Shell.Utility.Listing
import HistoryExpansion.Shell.Utility.Order
import HistoryExpansion.Shell.Utility.Precedence
import HistoryExpansion.Shell.Utility.Sed
import HistoryExpansion.Shell.Utility.Surroundings
import HistoryExpansion.Shell.Utility.Text

/-!
# The programs of a system

The utilities by their names, and the disk of a system that has them.
-/

namespace HistoryExpansion.Shell

/-- The utilities. -/
def utilities : List (String × Utility) :=
  [("[", Utility.test), ("arch", Utility.arch), ("base32", Utility.base32),
    ("base64", Utility.base64), ("basename", Utility.basename), ("cat", Utility.cat),
    ("chgrp", Utility.chown), ("chmod", Utility.chmod), ("chown", Utility.chown),
    ("cksum", Utility.cksum), ("cmp", Utility.cmp), ("comm", Utility.comm), ("cp", Utility.cp),
    ("cut", Utility.cut), ("date", Utility.date), ("dd", Utility.dd), ("diff", Utility.diff),
    ("dirname", Utility.dirname), ("du", Utility.du), ("echo", Utility.echo),
    ("egrep", Utility.egrep), ("expand", Utility.expand), ("expr", Utility.expr),
    ("factor", Utility.factor), ("false", Utility.fail), ("fgrep", Utility.fgrep),
    ("fold", Utility.fold), ("grep", Utility.grep), ("groups", Utility.groups),
    ("head", Utility.head), ("id", Utility.userNumbers), ("install", Utility.install),
    ("join", Utility.join), ("link", Utility.link), ("ln", Utility.ln),
    ("logname", Utility.logname), ("ls", Utility.ls), ("md5sum", Utility.digests),
    ("mkdir", Utility.mkdir), ("mktemp", Utility.mktemp), ("mv", Utility.mv), ("nl", Utility.nl),
    ("nproc", Utility.nproc), ("numfmt", Utility.numfmt), ("od", Utility.od),
    ("paste", Utility.paste), ("printenv", Utility.printenv), ("printf", Utility.printf),
    ("pwd", Utility.pwd), ("readlink", Utility.readlink), ("realpath", Utility.realpath),
    ("rev", Utility.rev), ("rm", Utility.rm), ("rmdir", Utility.rmdir), ("sed", Utility.sed),
    ("seq", Utility.seq), ("sha1sum", Utility.digests), ("sha224sum", Utility.digests),
    ("sha256sum", Utility.digests), ("sha384sum", Utility.digests),
    ("sha512sum", Utility.digests), ("shuf", Utility.shuf), ("sleep", Utility.sleep),
    ("sort", Utility.sort), ("split", Utility.split), ("stat", Utility.stat),
    ("sum", Utility.sum), ("sync", Utility.sync), ("tac", Utility.tac), ("tail", Utility.tail),
    ("tee", Utility.tee), ("test", Utility.test), ("touch", Utility.touch), ("tr", Utility.tr),
    ("true", Utility.succeed), ("truncate", Utility.truncate), ("tsort", Utility.tsort),
    ("tty", Utility.tty), ("uname", Utility.uname), ("unexpand", Utility.unexpand),
    ("uniq", Utility.uniq), ("unlink", Utility.unlink), ("users", Utility.users),
    ("wc", Utility.wc), ("which", Utility.which), ("who", Utility.users),
    ("whoami", Utility.whoami), ("yes", Utility.yes)]

/-- The shells. -/
def shells : List String :=
  ["sh", "dash", "bash"]

/-- The programs that do more than read and write: shells, the one that sets variables for another
program, and the one that sends signals. -/
def runners : List String :=
  shells ++ ["env", "kill", "timeout", "nohup", "nice", "stdbuf", "setsid", "find", "xargs",
    "awk", "mawk"]

/-- The directories that programs are looked for in. -/
def usualPaths : List Location :=
  [["usr", "local", "sbin"], ["usr", "local", "bin"], ["usr", "sbin"], ["usr", "bin"], ["sbin"],
    ["bin"]]

/-- The users of a system: their names, numbers, titles, directories and shells. -/
def userTable : String :=
  let row (name number title home shell : String) : String :=
    String.intercalate ":" [name, "x", number, number, title, home, shell] ++ "\n"
  let service (name number home : String) : String := row name number name home "/usr/sbin/nologin"
  row "root" "0" "root" "/root" "/bin/bash" ++ service "daemon" "1" "/usr/sbin" ++
    service "bin" "2" "/bin" ++ service "sys" "3" "/dev" ++
    "sync:x:4:65534:sync:/bin:/bin/sync\n" ++ "games:x:5:60:games:/usr/games:/usr/sbin/nologin\n" ++
    "man:x:6:12:man:/var/cache/man:/usr/sbin/nologin\n" ++ service "lp" "7" "/var/spool/lpd" ++
    service "mail" "8" "/var/mail" ++ service "news" "9" "/var/spool/news" ++
    service "uucp" "10" "/var/spool/uucp" ++ service "proxy" "13" "/bin" ++
    service "www-data" "33" "/var/www" ++ service "backup" "34" "/var/backups" ++
    row "list" "38" "Mailing List Manager" "/var/list" "/usr/sbin/nologin" ++
    row "irc" "39" "ircd" "/run/ircd" "/usr/sbin/nologin" ++
    "_apt:x:42:65534::/nonexistent:/usr/sbin/nologin\n" ++
    row "nobody" "65534" "nobody" "/nonexistent" "/usr/sbin/nologin"

/-- A system's disk: its programs, a place for temporary files and the device that takes
everything. -/
def systemEntries : List (Location × Entry) :=
  let directories : List Location :=
    [["bin"], ["dev"], ["dev", "fd"], ["etc"], ["home"], ["root"], ["sbin"], ["tmp"], ["usr"],
      ["usr", "bin"], ["usr", "local"], ["usr", "local", "bin"], ["usr", "local", "sbin"],
        ["usr", "sbin"]]
  let programs := runners ++ utilities.map Prod.fst
  let devices : List (Location × Entry) :=
    [(["dev", "full"], .device .full), (["dev", "null"], .device .null),
      (["dev", "zero"], .device .zero), (["etc", "passwd"], .file (Utf8.ofString userTable))]
  directories.map (fun place => (place, .directory)) ++ devices ++
    [["bin"], ["usr", "bin"]].flatMap fun place =>
      programs.map fun name => (place ++ [name], .program name)

end HistoryExpansion.Shell
