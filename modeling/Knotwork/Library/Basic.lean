import Knotwork.Command.Arguments
import Knotwork.Journal.Entry

/-!
What the program takes from libraries: reading settings files and command lines, showing text on a
console, and passing events on to the journal. A run is told for any library; `Library.standard` is
the one that the program is run with.
-/

namespace Knotwork

inductive Markup.Fault where
  | unmatched
  | badParameters
  | numberMissing
deriving DecidableEq

structure Library where
  -- The value of a settings file, or a report of what is wrong with it.
  load : Text → Except Text Value
  parse : Arguments.Signature → List Text → Except NoInvocation Arguments.Parsed
  -- What a console shows for marked-up text.
  display : Text → Except Markup.Fault Text
  -- Marked-up text that is shown as some plain text.
  escape : Text → Text
  -- What is written for text that is meant for other programs.
  echo : Text → Text
  -- The entries that showing a document in Markdown leaves in the journal.
  trace : Text → List Entry
  -- What becomes of an entry that the program tells, under the threshold of its weight.
  pass : Weight → Entry → Option Entry

end Knotwork
