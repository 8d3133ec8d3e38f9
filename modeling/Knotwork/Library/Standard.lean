import Knotwork.Library.Arguments
import Knotwork.Library.Console.Markup
import Knotwork.Library.Console.Sequence
import Knotwork.Library.Trace
import Knotwork.Library.Yaml.Content

/-!
The library that the program is run with.
-/

namespace Knotwork

def Library.standard : Library where
  load text := (Yaml.read text).mapError Yaml.Problem.message
  parse := Arguments.parse
  display := Markup.plain
  escape := Markup.escape
  echo := Console.outputLine
  trace := Markdown.trace
  pass threshold entry := if threshold ≤ entry.weight then some entry else none

end Knotwork
