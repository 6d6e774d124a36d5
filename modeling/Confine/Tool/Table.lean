import Confine.Tool.Awk
import Confine.Tool.Clock
import Confine.Tool.Column
import Confine.Tool.Digest
import Confine.Tool.Edit
import Confine.Tool.Find
import Confine.Tool.Letter
import Confine.Tool.Link
import Confine.Tool.Name
import Confine.Tool.Number
import Confine.Tool.Order
import Confine.Tool.Program
import Confine.Tool.Search
import Confine.Tool.Stream
import Confine.Tool.Time

set_option autoImplicit false

/-! # The table of tools

Which tools there are, by their names. -/

namespace Confine.Tool

/-- The tools that pass on, show or count what they read. -/
def streamTools : List (String × Utility) :=
  [ ("cat", cat), ("tee", tee), ("head", head), ("tail", tail), ("yes", yes), ("wc", wc),
    ("tac", tac), ("cut", cut), ("paste", paste), ("nl", nl), ("fold", fold), ("rev", rev),
    ("expand", expand), ("tr", tr), ("od", od), ("cmp", cmp), ("dd", dd), ("base64", base64),
    ("sort", sort), ("uniq", uniq), ("comm", comm), ("grep", grep), ("egrep", egrep),
    ("fgrep", fgrep), ("sed", sed), ("awk", awk), ("mawk", awk), ("md5sum", digesting Text.Digest.four),
    ("sha1sum", digesting Text.Digest.five), ("sha256sum", digesting Text.Digest.eight),
    ("cksum", cksum) ]

/-- The tools for files and their names. -/
def fileTools : List (String × Utility) :=
  [ ("mkdir", mkdir), ("touch", touch), ("truncate", truncate), ("rmdir", rmdir), ("rm", rm),
    ("cp", cp), ("mv", mv), ("chmod", chmod), ("ls", ls), ("basename", basename),
    ("dirname", dirname), ("pwd", pwd), ("realpath", realpath), ("readlink", readlink),
    ("mktemp", mktemp), ("ln", ln), ("link", link), ("unlink", unlink), ("find", find),
    ("stat", stat) ]

/-- The tools that run programs, keep time, compute, or tell about the system. -/
def otherTools : List (String × Utility) :=
  [ ("sleep", sleep), ("timeout", timeout), ("env", env), ("printenv", printenv),
    ("nohup", nohup), ("nice", nice), ("which", which), ("xargs", xargs), ("true", ending 0),
    ("false", ending 1), ("echo", echo), ("printf", printf), ("test", test false),
    ("[", test true), ("kill", kill), ("seq", seq), ("expr", expr), ("whoami", whoami),
    ("nproc", nproc), ("tty", tty), ("id", identity), ("uname", uname),
    ("hostname", saying "localhost"), ("date", date), ("sync", ending 0) ]

/-- The tools with their names. -/
def table : List (String × Utility) :=
  streamTools ++ fileTools ++ otherTools

end Confine.Tool
