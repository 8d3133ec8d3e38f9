import Knotwork.Library.Markdown.Line

/-!
Blocks of HTML in a Markdown document: how they start, and how they end.
-/

namespace Knotwork.Markdown

/-- How a block of HTML ends: with a line that has one of some texts, or before an empty line. The last
kind of block does not end a paragraph. -/
inductive HtmlBlock where
  | upTo (ends : List Text)
  | element
  | tag
deriving DecidableEq

def rawElements : List Text := ["script", "pre", "style", "textarea"]

def blockElements : List String :=
  ["address", "article", "aside", "base", "basefont", "blockquote", "body", "caption", "center",
   "col", "colgroup", "dd", "details", "dialog", "dir", "div", "dl", "dt", "fieldset", "figcaption",
   "figure", "footer", "form", "frame", "frameset", "h1", "h2", "h3", "h4", "h5", "h6", "head",
   "header", "hr", "html", "iframe", "legend", "li", "link", "main", "menu", "menuitem", "nav",
   "noframes", "ol", "optgroup", "option", "p", "param", "search", "section", "summary", "table",
   "tbody", "td", "tfoot", "th", "thead", "title", "tr", "track", "ul"]

def small (t : Text) : Text :=
  -- The long s and the sign for kelvin count as letters.
  t.map fun c => if c = '\u017f' then 's' else if c = '\u212a' then 'k' else c.toLower

def elementName (t : Text) : Text × Text :=
  t.span fun c => !(Text.isBlank c || c = '>' || c = '/')

def tagName (t : Text) : Text × Text := t.span fun c => c.isAlphanum || c = '-'

def afterValue? (t : Text) : Option Text :=
  match t with
  | '"' :: rest => (Text.cut? ['"'] rest).map Prod.snd
  | '\'' :: rest => (Text.cut? ['\''] rest).map Prod.snd
  | _ =>
      let isBare (c : Char) : Bool := 32 < c.toNat && !"\"'=<>`".toList.contains c
      let value := t.takeWhile isBare
      if value = [] then none else some (t.drop value.length)

def afterAttributes? : Nat → Text → Option Text
  | 0, _ => none
  | bound + 1, t =>
      let isStart (c : Char) : Bool := c.isAlpha || c = '_' || c = ':'
      let isPart (c : Char) : Bool := c.isAlphanum || "_:.-".toList.contains c
      let rest := t.dropWhile Text.isBlank
      if rest.length = t.length || !(rest.head?.any isStart) then some rest
      else
        let behind := rest.dropWhile isPart
        match behind.dropWhile Text.isBlank with
        | '=' :: value => do
            let behind ← afterValue? (value.dropWhile Text.isBlank)
            afterAttributes? bound behind
        | _ => afterAttributes? bound behind

def isLoneTag (t : Text) : Bool :=
  let ends (t : Text) : Bool := match t with
    | '>' :: rest => rest.all Text.isBlank
    | _ => false
  match t with
  | '/' :: rest =>
      let (name, rest) := tagName rest
      name.head?.any Char.isAlpha && ends (rest.dropWhile Text.isBlank)
  | _ =>
      let (name, rest) := tagName t
      name.head?.any Char.isAlpha && match afterAttributes? (rest.length + 1) rest with
        | some ('/' :: rest) => ends rest
        | some rest => ends rest
        | none => false

def endsName (slash : Bool) (t : Text) : Bool :=
  match t with
  | [] => true
  | '/' :: '>' :: _ => slash
  | c :: _ => c = '>' || Text.isBlank c

def htmlBlock? (t : Text) : Option HtmlBlock :=
  match t with
  | '<' :: rest =>
      let (name, behind) := elementName rest
      let (closed, behindClosed) := elementName (Text.dropMark ['/'] rest)
      if rawElements.contains (small name) && endsName false behind then
        some (.upTo (rawElements.map fun name => "</" ++ name ++ ['>']))
      else if "!--".toList.isPrefixOf rest then some (.upTo ["-->"])
      else if rest.head? = some '?' then some (.upTo ["?>"])
      else if rest.head? = some '!' && rest.tail.head?.any Char.isUpper then some (.upTo [">"])
      else if "![CDATA[".toList.isPrefixOf rest then some (.upTo ["]]>"])
      else if blockElements.any (fun name => name.toList = small closed) &&
          endsName true behindClosed then some .element
      else if isLoneTag rest then some .tag
      else none
  | _ => none

def HtmlBlock.endsWith (block : HtmlBlock) (t : Text) : Bool :=
  match block with
  | .upTo ends => ends.any fun last => Text.hasMark last (small t)
  | .element | .tag => t.isEmpty

end Knotwork.Markdown
