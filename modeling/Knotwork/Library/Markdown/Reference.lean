import Knotwork.Library.Markdown.Progress

/-!
References of a Markdown document: a label in brackets, a colon, a destination, and perhaps a title.
A reference may take several lines.
-/

namespace Knotwork.Markdown

structure ReferenceCursor where
  progress : Progress
  next : Nat
  rest : Text

namespace ReferenceCursor

def more (cursor : ReferenceCursor) : ReferenceCursor × Bool :=
  let progress := cursor.progress
  let i := cursor.next
  let line := progress.lineAt i
  if progress.last ≤ i || line.isEmpty then (cursor, false)
  else
    let (looked, ends) :=
      if progress.isCode i || line.indent < 0 then (progress, false)
      else progress.look false i progress.last Rule.endParagraph
    if ends then ({ cursor with progress := looked }, false)
    else ({ progress := looked, next := i + 1, rest := cursor.rest ++ line.content ++ ['\n'] }, true)

def afterLine (cursor : ReferenceCursor) (rest : Text) : ReferenceCursor :=
  (more { cursor with rest }).1

def label : Nat → Text → ReferenceCursor → ReferenceCursor × Option Text
  | 0, _, cursor => (cursor, none)
  | bound + 1, read, cursor =>
      match cursor.rest with
      | [] => (cursor, none)
      | '[' :: _ => (cursor, none)
      | ']' :: rest => ({ cursor with rest }, some read.reverse)
      | '\n' :: rest => label bound ('\n' :: read) (cursor.afterLine rest)
      | '\\' :: '\n' :: rest => label bound ('\n' :: '\\' :: read) (cursor.afterLine rest)
      | '\\' :: c :: rest => label bound (c :: '\\' :: read) { cursor with rest }
      | c :: rest => label bound (c :: read) { cursor with rest }

def skipBlanks : Nat → ReferenceCursor → Bool → ReferenceCursor × Bool
  | 0, cursor, moved => (cursor, moved)
  | bound + 1, cursor, moved =>
      match cursor.rest with
      | [] => (cursor, moved)
      | c :: rest =>
          if c = '\n' then skipBlanks bound (cursor.afterLine rest) true
          else if isSpace c then skipBlanks bound { cursor with rest } true
          else (cursor, moved)

def title (mark : Char) : Nat → Bool → ReferenceCursor → ReferenceCursor × Option Bool
  | 0, _, cursor => (cursor, none)
  | bound + 1, hasText, cursor =>
      match cursor.rest with
      | [] =>
          let (longer, found) := cursor.more
          if found then title mark bound hasText longer else (longer, none)
      | c :: rest =>
          if c = mark then ({ cursor with rest }, some hasText)
          else if c = '(' && mark = ')' then (cursor, none)
          else
            let taken := if c = '\\' then rest.drop 1 else rest
            title mark bound true { cursor with rest := taken }

end ReferenceCursor

def bracketedDestination? : Text → Option (Text × Text)
  | [] => none
  | '\n' :: _ => none
  | '<' :: _ => none
  | '>' :: rest => some ([], rest)
  | '\\' :: c :: rest => (bracketedDestination? rest).map fun (t, behind) => ('\\' :: c :: t, behind)
  | c :: rest => (bracketedDestination? rest).map fun (t, behind) => (c :: t, behind)

def bareDestination? : Nat → Text → Option (Text × Text)
  | depth, [] => if depth = 0 then some ([], []) else none
  | depth, '\\' :: c :: rest =>
      if c = ' ' then if depth = 0 then some ([], '\\' :: c :: rest) else none
      else (bareDestination? depth rest).map fun (t, behind) => ('\\' :: c :: t, behind)
  | depth, c :: rest =>
      if c.toNat ≤ 32 || c = '\x7f' || (c = ')' && depth = 0) then
        if depth = 0 then some ([], c :: rest) else none
      else if c = '(' && 32 ≤ depth then none
      else
        let inner := if c = '(' then depth + 1 else if c = ')' then depth - 1 else depth
        (bareDestination? inner rest).map fun (t, behind) => (c :: t, behind)

def destination? (t : Text) : Option (Text × Text) :=
  match t with
  | '<' :: rest => bracketedDestination? rest
  | _ => (bareDestination? 0 t).filter fun (destination, _) => destination ≠ []

def isPunctuation (c : Char) : Bool := 33 ≤ c.toNat && c.toNat ≤ 126 && !c.isAlphanum

def unescaped : Text → Text
  | [] => []
  | '\\' :: c :: rest => if isPunctuation c then c :: unescaped rest else '\\' :: c :: unescaped rest
  | c :: rest => c :: unescaped rest

def isSafe (destination : Text) : Bool :=
  let t := (unescaped destination).trim.map Char.toLower
  let starts (first : String) : Bool := first.toList.isPrefixOf t
  !(["vbscript:", "javascript:", "file:", "data:"].any starts) ||
    ["data:image/gif;", "data:image/png;", "data:image/jpeg;", "data:image/webp;"].any starts

def endsLine (t : Text) : Bool :=
  match t.dropWhile isSpace with
  | [] => true
  | c :: _ => c = '\n'

def reference (progress : Progress) (start : Nat) : Progress × Bool :=
  let content := (progress.lineAt start).content
  if progress.isCode start || content.head? ≠ some '[' then (progress, false)
  else
    let bound := (progress.lines.foldl (fun n line => n + line.text.length + 2) 2)
    let cursor : ReferenceCursor := ⟨progress, start + 1, content.tail ++ ['\n']⟩
    match cursor.label bound [] with
    | (cursor, none) => (cursor.progress, false)
    | (cursor, some label) =>
        match cursor.rest with
        | ':' :: rest =>
            let (cursor, _) := ReferenceCursor.skipBlanks bound { cursor with rest } false
            match destination? cursor.rest with
            | none => (cursor.progress, false)
            | some (destination, behind) =>
                if !isSafe destination then (cursor.progress, false)
                else
                  let (spaced, moved) :=
                    ReferenceCursor.skipBlanks bound { cursor with rest := behind } false
                  let (titled, found) := match spaced.rest with
                    | c :: rest =>
                        if c = '"' || c = '\'' || c = '(' then
                          ReferenceCursor.title (if c = '(' then ')' else c) bound false
                            { spaced with rest }
                        else (spaced, none)
                    | [] => (spaced, none)
                  let found := found.filter fun _ => moved || titled.next ≠ spaced.next
                  let seen := titled.progress
                  let isNamed := label.trim ≠ []
                  let finish (next : Nat) : Progress × Bool :=
                    if isNamed then ({ seen with line := next }, true) else (seen, false)
                  if found.isSome && endsLine titled.rest then finish titled.next
                  else if found ≠ some false && endsLine behind then finish cursor.next
                  else (seen, false)
        | _ => (cursor.progress, false)

end Knotwork.Markdown
