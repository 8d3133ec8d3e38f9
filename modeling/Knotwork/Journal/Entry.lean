import Knotwork.Table
import Knotwork.Value.Json

/-!
Entries of the journal, which are written as lines of JSON.
-/

namespace Knotwork

abbrev Weight := Int

namespace Weight

def debug : Weight := 10
def info : Weight := 20
def warning : Weight := 30
def error : Weight := 40
def critical : Weight := 50

def word (weight : Weight) : Text :=
  if weight = debug then "DEBUG"
  else if weight = info then "INFO"
  else if weight = warning then "WARNING"
  else if weight = error then "ERROR"
  else if weight = critical then "CRITICAL"
  else "Level " ++ Text.ofInt weight

end Weight

structure Entry where
  weight : Weight
  source : Text
  message : List Nat
  fields : Table Value := Table.empty

namespace Entry

def sourceName (entry : Entry) : Text := if entry.source = [] then "root" else entry.source

/-- The members of the line of an entry, with their values in JSON. Fields follow the message; a field
that is named like a member takes its place, and the fields for weight and time are left out. -/
def members (entry : Entry) : Table Text :=
  let head : Table Text := Table.ofPairs
    [("level", (Value.text entry.weight.word).toJsonLine),
     ("logger", (Value.text entry.sourceName).toJsonLine),
     ("message", Value.jsonCodes entry.message)]
  head.insertAll ((entry.fields.entries.filter fun field =>
    field.1 ≠ "level".toList && field.1 ≠ "timestamp".toList).map fun (key, value) =>
      (key, value.toJsonLine))

def render (entry : Entry) : Text :=
  let members : List Text := entry.members.entries.map fun (key, value) =>
    (Value.text key).toJsonLine ++ ": " ++ value
  ['{'] ++ Text.joinWith ", " members ++ ['}', '\n']

end Entry

end Knotwork
