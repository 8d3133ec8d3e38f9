import Knotwork.Journal.Entry
import Knotwork.Journal.Template
import Knotwork.Library.Markdown.Block

/-!
The trace of showing feedback. A Markdown reader tries its rules for blocks in turn, and notes in the
journal each rule that it tries, with the place in the document.
-/

namespace Knotwork

def Markdown.Attempt.entry (attempt : Markdown.Attempt) : Entry :=
  { weight := Weight.debug
    source := "markdown_it.rules_block." ++ attempt.rule.name
    message := Template.codes <|
      "entering " ++ attempt.rule.name ++ ": StateBlock(line=" ++ Text.ofNat attempt.line ++
        ",level=" ++ Text.ofNat attempt.level ++ ",tokens=" ++ Text.ofNat attempt.pieces ++ "), " ++
        Text.ofNat attempt.start ++ ", " ++ Text.ofNat attempt.last ++ ", " ++
        if attempt.silent then "True" else "False" }

def Markdown.trace (document : Text) : List Entry := (attempts document).map Attempt.entry

end Knotwork
