import Knotwork.Story.Basic

/-!
Reports: the invariants that every story keeps, checked one by one.
-/

namespace Knotwork

inductive Severity where
  | fail
  | warn
  | pass
  | other (word : Text)
deriving DecidableEq

namespace Severity

def word : Severity → Text
  | .fail => "fail"
  | .warn => "warn"
  | .pass => "pass"
  | .other word => word

def ofWord (word : Text) : Severity :=
  if word = "fail" then .fail else if word = "warn" then .warn
  else if word = "pass" then .pass else .other word

end Severity

structure Check where
  name : Text
  severity : Severity
  message : Text := []
deriving DecidableEq

structure Report where
  checks : List Check
deriving DecidableEq

namespace Report

def failures (report : Report) : List Check := report.checks.filter fun c => c.severity = .fail

def anyFailed (report : Report) : Bool := report.checks.any fun c => c.severity = .fail

def anyWarned (report : Report) : Bool := report.checks.any fun c => c.severity = .warn

def count (report : Report) (severity : Severity) : Nat :=
  (report.checks.filter fun c => c.severity = severity).length

def summary (report : Report) : Text :=
  let part (severity : Severity) (label : Text) : Option Text :=
    if report.count severity = 0 then none
    else some (Text.ofNat (report.count severity) ++ label)
  Text.joinWith ", "
    ([part .fail " failed", part .warn " warnings", part .pass " passed"].filterMap id)

end Report

namespace Check

def ofOffenders (name : Text) (offenders : List Text) (problem fine : Text) : Check :=
  match offenders with
  | [] => { name, severity := .pass, message := fine }
  | _ =>
      { name, severity := .fail
        message :=
          Text.ofNat offenders.length ++ " " ++ problem ++ ": " ++
            Text.joinWith ", " (offenders.take 3) ++
            if 3 < offenders.length then
              " (+" ++ Text.ofNat (offenders.length - 3) ++ " more)"
            else [] }

def arrow (source target : Text) : Text := source ++ " -> " ++ target

def entryNode (graph : Graph) : Check :=
  let name : Text := "entry_node"
  match graph.nodes.find? graph.entry with
  | none =>
      { name, severity := .fail
        message := "Entry node " ++ Text.inQuotes graph.entry ++ " is not in the graph" }
  | some node =>
      if node.state.values.any id then
        { name, severity := .fail
          message :=
            "Entry node " ++ Text.inQuotes graph.entry ++
              " does not start with every variable false" }
      else { name, severity := .pass, message := "Entry: " ++ node.id }

def noDanglingEdges (graph : Graph) : Check :=
  ofOffenders "no_dangling_edges"
    (graph.edges.filterMap fun (node, edge) =>
      if graph.nodes.contains edge.target then none else some (arrow node.id edge.target))
    "dangling edge(s)" "All edge targets exist"

def identityConsistency (graph : Graph) : Check :=
  ofOffenders "identity_consistency"
    (graph.nodes.entries.filterMap fun (key, node) =>
      if key = node.id && node.id = Identity.encode node.knot node.state then none else some key)
    "node(s) keyed by a non-canonical id" "All node ids are canonical"

def completeStates (graph : Graph) (declarations : Declarations) : Check :=
  ofOffenders "complete_states"
    (graph.nodes.values.filterMap fun node =>
      if declarations.names.all node.state.contains then none else some node.id)
    "node(s) missing declared variables"
    ("All nodes carry " ++ Text.ofNat declarations.names.length ++ " declared variable(s)")

def flagMonotonicity (graph : Graph) (declarations : Declarations) : Check :=
  let flags := declarations.namesUnder .flag
  ofOffenders "flag_monotonicity"
    (graph.edges.flatMap fun (node, edge) =>
      match graph.nodes.find? edge.target with
      | none => []
      | some target =>
          (flags.filter fun flag => node.state.value flag && !target.state.value flag).map
            fun flag => flag ++ " on " ++ arrow node.id target.id)
    "flag reset(s)" (Text.ofNat flags.length ++ " flag(s) never reset")

def localPurge (graph : Graph) (declarations : Declarations) : Check :=
  let locals := declarations.namesUnder .sceneLocal
  ofOffenders "local_purge"
    (graph.edges.filterMap fun (node, edge) =>
      match graph.nodes.find? edge.target with
      | none => none
      | some target =>
          if target.scene = node.scene then none
          else match locals.filter target.state.value with
            | [] => none
            | leaked =>
                some (Text.joinWith [','] leaked ++ " on " ++ arrow node.id target.id))
    "local variable(s) surviving a scene change"
    (Text.ofNat locals.length ++ " local(s) purged on scene change")

def reachableEndings (graph : Graph) : Check :=
  let name : Text := "reachable_endings"
  match (graph.nodes.values.filter Node.isEnd).length with
  | 0 => { name, severity := .warn, message := "No ending is reachable from the entry node" }
  | count =>
      { name, severity := .pass, message := Text.ofNat count ++ " ending node(s) reachable" }

end Check

def Graph.report (graph : Graph) (declarations : Declarations) : Report :=
  { checks :=
      [Check.entryNode graph, Check.noDanglingEdges graph, Check.identityConsistency graph,
       Check.completeStates graph declarations, Check.flagMonotonicity graph declarations,
       Check.localPurge graph declarations, Check.reachableEndings graph] }

end Knotwork
