import Knotwork.Command.Arguments
import Knotwork.Path

/-!
Invocations: what the program is asked to do. Arguments are read by a parser that is told what each
command takes.
-/

namespace Knotwork

inductive Command where
  | version
  | compile (script : Path) (output : Option Path) (format : Option Text) (toOutput : Bool)
      (entry : Option Text) (settings : Option Path) (skipChecks : Bool)
  | check (script : Path) (entry : Option Text) (settings : Option Path)
  | visualize (script : Path) (format : Text) (output : Option Path) (noLabels collapse : Bool)
      (entry : Option Text)
deriving DecidableEq

structure Invocation where
  verbosity : Nat := 0
  log : Bool := false
  command : Command
deriving DecidableEq

namespace Arguments

def OptionRule.entry : OptionRule := { name := "entry", spellings := ["--entry"], value := some .word }

def OptionRule.output : OptionRule :=
  { name := "output", spellings := ["--output", "-o"], value := some .path }

def OptionRule.format : OptionRule :=
  { name := "format", spellings := ["--format", "-f"], value := some .word }

def OptionRule.settings : OptionRule :=
  { name := "config", spellings := ["--config", "-c"], value := some .path }

-- The word is the name of a command, and what follows is for the command.
def Signature.program : Signature :=
  { options :=
      [{ name := "verbose", spellings := ["-v", "--verbose"] },
       { name := "log", spellings := ["--log"] }]
    words := [.word]
    mixed := false }

def Signature.version : Signature := { options := [], words := [] }

def Signature.compile : Signature :=
  { options :=
      [.output, .format, .entry, .settings, { name := "stdout", spellings := ["--stdout"] },
       { name := "no-validate", spellings := ["--no-validate"] }]
    words := [.path] }

def Signature.check : Signature := { options := [.entry, .settings], words := [.path] }

def Signature.visualize : Signature :=
  { options :=
      [.format, .output, .entry, { name := "no-labels", spellings := ["--no-labels"] },
       { name := "collapse", spellings := ["--collapse"] }]
    words := [.path] }

end Arguments

namespace Invocation

open Arguments

def script (parsed : Parsed) : Path := Path.ofText (parsed.words.headD [])

def pathOf (parsed : Parsed) (name : Text) : Option Path := (parsed.value? name).map Path.ofText

section

variable (parse : Signature → List Text → Except NoInvocation Parsed)

def readNamed (name : Text) (arguments : List Text) : Except NoInvocation Command :=
  if name = "version" then do
    let _ ← parse .version arguments
    return .version
  else if name = "compile" then do
    let parsed ← parse .compile arguments
    return .compile (script parsed) (pathOf parsed "output") (parsed.value? "format")
      (parsed.flag "stdout") (parsed.value? "entry") (pathOf parsed "config")
      (parsed.flag "no-validate")
  else if name = "check" then do
    let parsed ← parse .check arguments
    return .check (script parsed) (parsed.value? "entry") (pathOf parsed "config")
  else if name = "visualize" then do
    let parsed ← parse .visualize arguments
    return .visualize (script parsed) ((parsed.value? "format").getD "dot")
      (pathOf parsed "output") (parsed.flag "no-labels") (parsed.flag "collapse")
      (parsed.value? "entry")
  else .error .usage

def read (arguments : List Text) : Except NoInvocation Invocation := do
  let parsed ← parse .program arguments
  match parsed.words with
  | [] => throw .usage
  | name :: rest => do
      let command ← readNamed parse name rest
      return { verbosity := parsed.count "verbose", log := parsed.flag "log", command }

end

end Invocation

end Knotwork
