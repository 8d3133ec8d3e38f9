import Knotwork.Artifact.Format
import Knotwork.Command.Invocation
import Knotwork.Command.Session
import Knotwork.Diagram.Dot
import Knotwork.Diagram.Mermaid
import Knotwork.Story.Compile
import Knotwork.Story.Summary

/-!
Executing commands.
-/

namespace Knotwork

namespace Run

def loadScript (invocation : Invocation) (script : Path) : Run Text := do
  if !(← orCrash .folder ((← get).folder.leadsToFile script)) then
    failWith ("Script " ++ Text.inQuotes script.render ++ " not found")
  if invocation.log then
    let session ← get
    let (journal, folder, error?) := session.journal.configure session.folder invocation.verbosity
      true (some (script.parent.child "logs"))
    set { session with journal, folder }
    match error? with
    | some (.folder error) => crash (.folder error)
    | _ => pure ()
  let text ← orCrash .folder ((← get).folder.read script)
  return text.plainNewlines

def loadSettings (script : Path) (file : Option Path) (entry : Option Text) : Run Settings := do
  let session ← get
  let chosen ← orCrash .folder (Settings.choose session.folder script file)
  let library ← read
  match Settings.load library.load session.folder session.environment chosen with
  | .error { problem := .outOfReach error, .. } => crash (.folder error)
  | .error error => failWith (library.escape error.message)
  | .ok settings =>
      return match entry with
        | some (c :: rest) => { settings with entry := .text (c :: rest) }
        | _ => settings

def reportError {α : Type} (error : StoryError) (feedback : Run Unit) : Run α := do
  note Weight.debug "bigif.cli" "compile_failed"
    [("stage", .text error.stage), ("error", .text error.message)]
  print ("[red]Error (" ++ error.stage ++ "):[/red] " ++ (← read).escape error.message)
  feedback
  throw (.exit 1)

def showFeedback (document : Feedback) : Run Unit := do
  print []
  present (.feedback document)
  ((← read).trace document.render).forM record

def failCompiling {α : Type} (error : StoryError) : Run α :=
  reportError error (match error.feedback? with
    | none => pure ()
    | some document => showFeedback document)

def parse (text : Text) : Run Script :=
  match Script.read text with
  | .error error => failCompiling (.script error)
  | .ok script => do
      note Weight.debug "bigif.parser" "script_parsed"
        [("knots", .nat script.knots.length),
         ("variables", .nat script.declarations.names.length),
         ("metadata_keys", Value.texts (Text.sort script.metadata.keys))]
      return script

/-- The name of the entry. No knot is found under a value that is no name, and there is no advice on
it, since only bytes can be compared with names; collections cannot even be looked up. -/
def entryName (script : Script) : Value → Run Text
  | .text name => pure name
  | .list _ | .map _ | .collection _ => crash .wrongKind
  | .bytes bytes =>
      let entry := Value.plain (.bytes bytes)
      reportError (.missingEntry entry script.knotNames)
        (showFeedback (StoryError.adviceOnEntry entry [] script.knotNames))
  | value => do
      if value.isTooLong then crash .integerTooLong
      reportError (.missingEntry value.plain script.knotNames) do
        print []
        crash .wrongKind

def explore (script : Script) (entry : Value) : Run Graph := do
  let name ← entryName script entry
  let source : Text := "bigif.graph.builder"
  if (script.knot? name).isSome then
    note Weight.debug source "graph_build_started"
      [("entry", .text name), ("knots", .nat script.knots.length),
       ("variables", .nat script.declarations.disciplines.size),
       ("locals", .nat (script.declarations.namesUnder .sceneLocal).length)]
  let exploration := script.explore name
  (script.droppedChoices exploration).forM fun (knot, choice) =>
    note Weight.debug source "choice_dropped" [("knot", .text knot), ("choice", .text choice)]
  match exploration.graph script name with
  | .error error => failCompiling error
  | .ok graph => do
      note Weight.info source "story_graph_built"
        [("entry", .text name), ("nodes", .nat graph.nodes.size), ("edges", .nat graph.edgeTotal)]
      return graph

def compile (text : Text) (settings : Settings) : Run Graph := do
  let script ← parse text
  let graph ← explore script settings.entry
  let graph := graph.withDefaults settings.metadata
  if settings.validate then
    let report := graph.report script.declarations
    let source : Text := "bigif.compiler"
    if report.anyFailed then
      note Weight.error source "graph_validation_failed"
        [("violations", Value.texts report.violations)]
      failCompiling (.corrupted report.violations)
    note Weight.debug source "graph_validated" [("summary", .text report.summary)]
  return graph

def chooseFormat (value : Value) : Run Format :=
  match value with
  | .text name => do
      match Format.ofName name with
      | .ok format => pure format
      | .error error => failWith ((← read).escape error.message)
  | .list _ | .map _ | .collection _ => crash .wrongKind
  | value => do
      -- A value that is no text is not the name of a format, whatever it looks like.
      let error : Format.Unknown := ⟨value.plain⟩
      failWith ((← read).escape (if value.isTooLong then Value.tooLongMessage else error.message))

def publish (format : Format) (graph : Graph) (directory : Path) : Run Path := do
  match format.publish graph directory (← get).folder with
  | .error (.folder error) => crash (.folder error)
  | .error (.key error) => crash (.unknownKey error)
  | .ok (path, folder) => do
      modify fun session => { session with folder }
      match format with
      | .json =>
          note Weight.info "bigif.export.json_exporter" "json_export_complete"
            [("nodes", .nat graph.nodes.size), ("output", .text path.render)]
      | .twee =>
          note Weight.info "bigif.export.twee_exporter" "twee_export_complete"
            [("passages", .nat graph.nodes.size), ("links", .nat graph.edgeTotal),
             ("output", .text path.render)]
      return path

def mark : Severity → Text
  | .pass => "[green]✓[/green]"
  | .warn => "[yellow]![/yellow]"
  | _ => "[red]✗[/red]"

def showSummary (script : Path) (summary : Summary) : Run Unit := do
  let title := match summary.title with
    | some (c :: rest) => c :: rest
    | _ => script.name
  print []
  present (.table ("Story Graph: " ++ title)
    [("Knots", Text.ofNat summary.knotCount), ("Variables", Text.ofNat summary.variableCount),
     ("Reachable nodes", Text.ofNat summary.nodeCount), ("Edges", Text.ofNat summary.edgeTotal),
     ("Ending nodes", Text.ofNat summary.endings.length),
     ("Max states per knot", Text.ofNat summary.mostStates)])
  print []
  let escape := (← read).escape
  summary.unreachable.forM fun name =>
    print ("  [yellow]![/yellow] Knot '" ++ escape name ++ "' is never reached")
  summary.deadEnds.forM fun id =>
    print ("  [yellow]![/yellow] Dead end without END: " ++ escape id)
  summary.report.checks.forM fun check =>
    print ("  " ++ mark check.severity ++ " " ++ check.name ++ ": " ++ escape check.message)
  print []
  print ("Checks: " ++ summary.report.summary)

def diagramFormats : List Text := ["dot", "mermaid"]

def execute (invocation : Invocation) : Run Unit :=
  match invocation.command with
  | .version => print "BigIF v0.3.0"
  | .compile script output format toOutput entry file skipChecks => do
      let text ← loadScript invocation script
      let settings ← loadSettings script file entry
      let format ← chooseFormat (match format with
        | some (c :: rest) => .text (c :: rest)
        | _ => settings.format)
      let graph ← compile text { settings with validate := settings.validate && !skipChecks }
      if toOutput then
        emit (← orCrash .unknownKey (format.render graph))
      else
        let path ← publish format graph (output.getD settings.outputDir)
        print ("[green]✓[/green] Compiled [bold]" ++ script.name ++ "[/bold]: " ++
          Text.ofNat graph.nodes.size ++ " nodes, " ++ Text.ofNat graph.edgeTotal ++ " edges")
        print ("  Output: " ++ path.render)
  | .check script entry file => do
      let text ← loadScript invocation script
      let settings ← loadSettings script file entry
      let parsed ← parse text
      let graph ← explore parsed settings.entry
      let summary := graph.summarize parsed
      note Weight.info "bigif.inspection" "graph_inspected"
        [("nodes", .nat summary.nodeCount),
         ("unreachable_knots", .nat summary.unreachable.length),
         ("dead_ends", .nat summary.deadEnds.length)]
      showSummary script summary
      if summary.report.anyFailed then throw (.exit 1)
  | .visualize script format output noLabels collapse entry => do
      if !diagramFormats.contains format then
        failWith ("Unknown format " ++ Text.inQuotes format ++ ". Supported: " ++
          Text.joinWith ", " diagramFormats)
      let text ← loadScript invocation script
      let settings ← loadSettings script none entry
      let graph ← compile text settings
      let diagram ← orCrash .unknownKey (graph.diagram collapse)
      note Weight.info "bigif.visualization" "viz_graph_built"
        [("nodes", .nat diagram.boxes.length), ("edges", .nat diagram.arcs.length),
         ("scenes", .nat diagram.scenes.length), ("collapse_states", .bool collapse)]
      let markup ← if format = "dot" then pure (diagram.toDot !noLabels)
        else orCrash .unknownKey (diagram.toMermaid !noLabels)
      match output with
      | none => emit markup
      | some path => do
          changeFolder fun folder => folder.ensure path.parent
          changeFolder fun folder => folder.write path (markup ++ ['\n'])
          print ("[green]✓[/green] Wrote " ++ format ++ " markup to " ++ path.render)

end Run

structure Outcome where
  code : Nat
  crash : Option Crash := none
  session : Session
deriving DecidableEq

def run (library : Library) (folder : Folder) (environment : Environment) (arguments : List Text) :
    Outcome :=
  let start : Session := { folder, environment }
  match Invocation.read library.parse arguments with
  | .error .usage => { code := 2, session := start }
  | .error .help => { code := 0, session := start }
  | .ok invocation =>
      match ((Run.execute invocation).run library).run start with
      | (.ok _, session) => { code := 0, session }
      | (.error (.exit code), session) => { code, session }
      | (.error (.crash crash), session) => { code := 1, crash := some crash, session }

end Knotwork
