import Knotwork.Fault
import Knotwork.Table

/-!
Variables: their names, and the disciplines under which their values change.
-/

namespace Knotwork

def reservedMarks : List Char := ['=', ',', '|']

def reservedIn (name : Text) : List Char := reservedMarks.filter fun mark => name.contains mark

/-- A name that may stand in the identity of a node: not empty, and without reserved characters.
The error shows the text in which the name was found. -/
def checkName (grammar : Grammar) (source name : Text) : Except ParseError Text :=
  if name = [] then .error { grammar, fault := .emptyName, line := source }
  else match reservedIn name with
    | [] => .ok name
    | reserved => .error { grammar, fault := .reservedInName name reserved, line := source }

/-- How the value of a variable may change: freely, from false to true only, or freely but back to
false on every change of scene. -/
inductive Discipline where
  | global
  | flag
  | sceneLocal
deriving DecidableEq

def Discipline.word : Discipline → Text
  | .global => "global"
  | .flag => "flag"
  | .sceneLocal => "local"

structure Declarations where
  globals : List Text := []
  flags : List Text := []
  locals : List Text := []
deriving DecidableEq

namespace Declarations

def names (declarations : Declarations) : List Text :=
  firstOfEach (declarations.globals ++ declarations.flags ++ declarations.locals)

/-- The discipline of each declared name. A name declared more than once has the strictest one: a
flag is stricter than a local variable, and that stricter than a global one. -/
def disciplines (declarations : Declarations) : Table Discipline :=
  Table.ofPairs
    (declarations.globals.map (·, .global) ++ declarations.locals.map (·, .sceneLocal) ++
      declarations.flags.map (·, .flag))

def namesUnder (declarations : Declarations) (discipline : Discipline) : List Text :=
  Text.sort <| (declarations.disciplines.entries.filter fun entry => entry.2 = discipline).map
    Prod.fst

def isFlag (declarations : Declarations) (name : Text) : Bool :=
  decide (declarations.disciplines.find? name = some .flag)

end Declarations

end Knotwork
