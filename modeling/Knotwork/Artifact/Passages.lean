import Knotwork.Digest.NameId
import Knotwork.Story.Summary
import Knotwork.Text.Cut

/-!
Passages: a story as source for a passage-based player. Every node becomes a passage. The state of a
node is fixed, so passages need no variables, only links.
-/

namespace Knotwork

namespace Passage

def start : Text := "Start"

def reserved : List Text :=
  ["StoryTitle", "StoryData", "StoryInit", "StoryCaption", "StoryMenu", "StoryBanner",
   "StorySubtitle", "StoryAuthor", "StoryInterface", "StoryShare", "PassageReady", "PassageDone",
   "PassageHeader", "PassageFooter"]

def isSpecial (c : Char) : Bool := ['[', ']', '{', '}', '|', '<', '>'].contains c

def baseName (knot : Text) : Text := knot.map fun c => if isSpecial c then '_' else c

def candidate (base : Text) (n : Nat) : Text :=
  if n = 0 then base else base ++ " (" ++ Text.ofNat (n + 1) ++ ")"

/-- The first candidate that is not in use. There is one among as many as there are names in use, and
one more. -/
def freshName (used : List Text) (base : Text) : Text :=
  candidate base (((List.range (used.length + 1)).find? fun n =>
    !used.contains (candidate base n)).getD 0)

def nameNodes (names : Table Text) (used : List Text) : List Node → Table Text
  | [] => names
  | node :: rest =>
      if names.contains node.id then nameNodes names used rest
      else
        let name := freshName used (baseName node.knot)
        nameNodes (names.insert node.id name) (name :: used) rest

def escapeMacros (content : Text) : Text :=
  Text.replace ['>', '>'] "&gt;&gt;" (Text.replace ['<', '<'] "&lt;&lt;" content)

def labelMarks : List Text := ["->", "<-", "|", "[", "]"]

def link (label target : Text) : Text :=
  if labelMarks.any fun mark => Text.hasMark mark label then
    "<<link \"" ++ Text.replace ['"'] "\\\"" label ++ "\" \"" ++ target ++ "\">><</link>>"
  else "[[" ++ label ++ "->" ++ target ++ "]]"

def ofEdge (names : Table Text) (edge : Edge) : Except Table.UnknownKey Text := do
  let target ← names.get edge.target
  return link (if edge.text = [] then target else edge.text) target

def tags (name : Text) (node : Node) : List Text :=
  (if name = start then [("start" : Text)] else []) ++
    if node.isEnd then [("ending" : Text)] else []

def ofNode (names : Table Text) (node : Node) : Except Table.UnknownKey (List Text) := do
  let name ← names.get node.id
  let marks := match tags name node with
    | [] => []
    | tags => " [" ++ Text.joinWith " " tags ++ "]"
  let links ← node.edges.mapM (ofEdge names)
  return (":: " ++ name ++ marks) ::
    (if node.content = [] then [] else [escapeMacros node.content]) ++ links

end Passage

namespace Graph

def title (metadata : Table Text) : Text :=
  ((metadata.entries.find? fun (key, value) => isTitleKey key && value ≠ []).map
    Prod.snd).getD "Untitled"

def namedPassages (graph : Graph) : Table Text :=
  Passage.nameNodes (Table.empty.insert graph.entry Passage.start)
    (Passage.start :: Passage.reserved) graph.nodes.values

def storyId (graph : Graph) : Text :=
  Digest.renderId (Digest.nameId Digest.locationSpace
    ("bigif:" ++ title graph.metadata ++ ":" ++ graph.entry))

def passageHeader (graph : Graph) : List Text :=
  [":: StoryTitle\n" ++ title graph.metadata, [],
   ":: StoryData\n\x7b\"ifid\": \"" ++ graph.storyId ++
     "\", \"format\": \"SugarCube\", \"format-version\": \"2.37.3\"\x7d", []]

def renderPassages (graph : Graph) : Except Table.UnknownKey Text := do
  let passages ← graph.nodes.values.mapM (Passage.ofNode graph.namedPassages)
  return Text.joinWith ['\n']
    (graph.passageHeader ++ passages.flatMap fun lines => lines ++ [[]])

end Graph

end Knotwork
