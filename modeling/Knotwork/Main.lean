import Knotwork.Command.Execute
import Knotwork.Library.Standard

/-!
The program: reads the files that its arguments may mean, runs, and writes what has changed.
-/

namespace Knotwork.Program

def wordsOf (argument : Text) : List Text :=
  [argument, argument.drop 2] ++ ((Text.cut? ['='] argument).map Prod.snd).toList

def candidates (arguments : List Text) : List Path :=
  (arguments.flatMap wordsOf).flatMap fun word =>
    let path := Path.ofText word
    [path, path.parent.child "bigif.yaml", (path.parent.child "logs").child "debug.jsonl"]

def asString (text : Text) : String := String.ofList text

def readFolder : List Path → IO Folder
  | [] => return {}
  | path :: rest => do
      let folder ← readFolder rest
      try
        let content ← IO.FS.readFile (asString path.render)
        match folder.locate path with
        | .ok place => return { folder with files := Folder.setFile place content.toList folder.files }
        | .error _ => return { folder with files := (path, content.toList) :: folder.files }
      catch _ => return folder

def readEnvironment : IO Environment := do
  let names : List String := ["BIGIF_ENTRY_KNOT", "BIGIF_OUTPUT_FORMAT"]
  let pairs ← names.filterMapM fun name => do
    return (← IO.getEnv name).map fun value => (name.toList, value.toList)
  return Table.ofPairs pairs

def showItem : Shown → IO Unit
  | .line text => IO.println (asString text)
  | .feedback document => IO.println (asString document.render)
  | .table title rows => do
      IO.println (asString title)
      for (metric, value) in rows do
        IO.println (asString ("  " ++ metric ++ "  " ++ value))

def writeChanges (before after : Folder) : IO Unit := do
  for (place, content) in after.files do
    if before.file? place ≠ some content then
      IO.FS.createDirAll (asString place.parent.render)
      IO.FS.writeFile (asString place.render) (asString content)

end Knotwork.Program

open Knotwork Program in
def main (arguments : List String) : IO UInt32 := do
  let words := arguments.map String.toList
  let before ← readFolder (candidates words)
  let outcome := run Library.standard before (← readEnvironment) words
  writeChanges before outcome.session.folder
  outcome.session.shown.forM showItem
  IO.print (asString outcome.session.output)
  if outcome.code = 2 then
    IO.eprintln "Usage: bigif [-v] [--log] version|compile|check|visualize [ARGS]..."
  return UInt32.ofNat outcome.code
