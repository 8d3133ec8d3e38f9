import Knotwork.Script.Reader
import Knotwork.Story.Explore
import Knotwork.Story.Report

/-!
Compiling: from the text of a script to its checked graph.
-/

namespace Knotwork

structure CompileOptions where
  entry : Text := Script.defaultEntry
  validate : Bool := true
  defaults : Table Text := Table.empty
deriving DecidableEq

def Report.violations (report : Report) : List Text :=
  report.failures.map fun check => check.name ++ ": " ++ check.message

def Graph.withDefaults (graph : Graph) (defaults : Table Text) : Graph :=
  { graph with metadata := defaults.insertAll graph.metadata.entries }

namespace Script

def compile (script : Script) (options : CompileOptions := {}) : Except StoryError Graph := do
  let graph ← script.graph options.entry
  let graph := graph.withDefaults options.defaults
  let report := graph.report script.declarations
  if options.validate && report.anyFailed then throw (.corrupted report.violations)
  return graph

end Script

def compile (source : Text) (options : CompileOptions := {}) : Except StoryError Graph :=
  match Script.read source with
  | .error error => .error (.script error)
  | .ok script => script.compile options

end Knotwork
