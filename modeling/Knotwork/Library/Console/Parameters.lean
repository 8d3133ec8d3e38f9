import Knotwork.Text.Blank
import Knotwork.Text.Printable

/-!
Parameters of tags for actions. They are a name, with values in round brackets if there are some, or a
value alone. Values are literals: numbers, texts, a few words, and collections of them.
-/

namespace Knotwork.Console

/-- What a literal is, as far as it matters to what stands around it: a real number, an imaginary one,
a number with a sign or a sum, a text, bytes, another value that can be a key, or one that cannot. -/
inductive LiteralKind where
  | real
  | imaginary
  | signed
  | text
  | bytes
  | plain
  | collection
deriving DecidableEq

abbrev ReadLiteral := Option (LiteralKind × Text)

def skipLiteralBlanks (inBrackets : Bool) : Text → Text
  | [] => []
  | '\\' :: '\n' :: next :: rest => skipLiteralBlanks inBrackets (next :: rest)
  | c :: rest =>
      if c = ' ' || c = '\t' || c = '\x0c' || (c = '\n' && inBrackets) then
        skipLiteralBlanks inBrackets rest
      else if c = '#' then skipRemark inBrackets rest
      else c :: rest
where
  skipRemark (inBrackets : Bool) : Text → Text
    | [] => []
    | c :: rest =>
        if c = '\n' then (if inBrackets then skipLiteralBlanks inBrackets rest else c :: rest)
        else skipRemark inBrackets rest

def isWordChar (c : Char) : Bool :=
  c.isAlphanum || c = '_' || (128 ≤ c.toNat && Text.isPrintable c &&
    !(0x2000 ≤ c.toNat && c.toNat < 0x2c00) && !(0x3000 ≤ c.toNat && c.toNat < 0x3005) &&
    !(0x1f000 ≤ c.toNat && c.toNat < 0x1fb00))

def digitRun (isDigit : Char → Bool) : Text → Text × Text
  | [] => ([], [])
  | '_' :: c :: rest =>
      if isDigit c then
        let (run, rest) := digitRun isDigit rest
        (c :: run, rest)
      else ([], '_' :: c :: rest)
  | c :: rest =>
      if isDigit c then
        let (run, rest) := digitRun isDigit rest
        (c :: run, rest)
      else ([], c :: rest)

def firstRun (isDigit : Char → Bool) (t : Text) : Text × Text :=
  match t with
  | '_' :: _ => ([], t)
  | _ => digitRun isDigit t

def endNumber (kind : LiteralKind) (t : Text) : ReadLiteral :=
  match t with
  | c :: rest =>
      if c = 'j' || c = 'J' then
        (if rest.head?.any isWordChar then none else some (.imaginary, rest))
      else if isWordChar c then none
      else some (kind, t)
  | [] => some (kind, t)

def readBased (isDigit : Char → Bool) (t : Text) : ReadLiteral :=
  match digitRun isDigit t with
  | ([], _) => none
  | (_, rest) => if rest.head?.any isWordChar then none else some (.real, rest)

def readExponent (t : Text) : Text :=
  match t with
  | e :: rest =>
      if e = 'e' || e = 'E' then
        let body := match rest with
          | c :: more => if c = '+' || c = '-' then more else rest
          | [] => []
        match firstRun Char.isDigit body with
        | ([], _) => t
        | (_, rest) => rest
      else t
  | [] => []

def readNumber (t : Text) : ReadLiteral :=
  let isIn (low high : Char) (c : Char) : Bool := low ≤ c && c ≤ high
  match t with
  | '0' :: c :: rest =>
      if c = 'x' || c = 'X' then
        readBased (fun c => c.isDigit || isIn 'a' 'f' c || isIn 'A' 'F' c) rest
      else if c = 'o' || c = 'O' then readBased (isIn '0' '7') rest
      else if c = 'b' || c = 'B' then readBased (isIn '0' '1') rest
      else decimalNumber t
  | _ => decimalNumber t
where
  decimalNumber (t : Text) : ReadLiteral :=
    let (whole, rest) := firstRun Char.isDigit t
    let (fraction, hasPoint, rest) := match rest with
      | '.' :: more =>
          let (digits, rest) := firstRun Char.isDigit more
          (digits, true, rest)
      | _ => ([], false, rest)
    if whole = [] && fraction = [] then none
    else
      let last := readExponent rest
      let isInteger := !hasPoint && last.length = rest.length
      let isImaginary := last.head? = some 'j' || last.head? = some 'J'
      if isInteger && !isImaginary && whole.head? = some '0' && whole.any (· ≠ '0') then none
      else endNumber .real last

def readMarks (t : Text) : Option (Bool × Bool × Text) :=
  let isQuote (t : Text) : Bool := t.head? = some '\'' || t.head? = some '"'
  let bare (c : Char) : Char := c.toLower
  match t with
  | [] => none
  | c :: rest =>
      if isQuote t then some (false, false, t)
      else if isQuote rest then
        match bare c with
        | 'r' => some (true, false, rest)
        | 'u' => some (false, false, rest)
        | 'b' => some (false, true, rest)
        | _ => none
      else match rest with
        | d :: more =>
            if isQuote more && ((bare c = 'b' && bare d = 'r') || (bare c = 'r' && bare d = 'b')) then
              some (true, true, more)
            else none
        | [] => none

def escapeLength (isBytes : Bool) (c : Char) : Nat :=
  if c = 'x' then 2 else if isBytes then 0 else if c = 'u' then 4 else if c = 'U' then 8 else 0

def isEscapeValid (isBytes : Bool) (c : Char) (rest : Text) : Bool :=
  let count := escapeLength isBytes c
  let digits := rest.take count
  let isHex (c : Char) : Bool :=
    c.isDigit || ('a' ≤ c && c ≤ 'f') || ('A' ≤ c && c ≤ 'F')
  (isBytes || c ≠ 'N') && digits.length = count && digits.all isHex &&
    (c ≠ 'U' || count = 0 || "0010".toList.isPrefixOf digits || "000".toList.isPrefixOf digits)

def readText (isRaw isBytes : Bool) (quotes : Text) : Text → Option Text
  | [] => none
  | '\\' :: c :: rest =>
      if isRaw || isEscapeValid isBytes c rest then readText isRaw isBytes quotes rest else none
  | c :: rest =>
      if quotes.isPrefixOf (c :: rest) then some ((c :: rest).drop quotes.length)
      else if c = '\n' && quotes.length = 1 then none
      else if isBytes && 128 ≤ c.toNat then none
      else readText isRaw isBytes quotes rest

def readQuotedText (t : Text) : ReadLiteral := do
  let (isRaw, isBytes, t) ← readMarks t
  let quote := t.headD '\''
  let quotes := if (List.replicate 3 quote).isPrefixOf t then List.replicate 3 quote else [quote]
  let rest ← readText isRaw isBytes quotes (t.drop quotes.length)
  return (if isBytes then .bytes else .text, rest)

def isHashable (kind : LiteralKind) : Bool := kind ≠ .collection

def tupleKind (kinds : List LiteralKind) : LiteralKind :=
  if kinds.all isHashable then .plain else .collection

inductive Members where
  | unknown
  | pairs
  | items
deriving DecidableEq

def endsThere (t : Text) : Bool :=
  match skipLiteralBlanks false t with
  | [] => true
  | c :: rest => c = '\n' && skipLiteralBlanks true rest = []

mutual

def readSum (inBrackets : Bool) : Nat → Text → ReadLiteral
  | 0, _ => none
  | bound + 1, t => do
      let (first, rest) ← match t with
        | c :: more =>
            if c = '+' || c = '-' then do
              let (kind, rest) ← readAtom inBrackets bound (skipLiteralBlanks inBrackets more)
              match kind with
              | .real => some (LiteralKind.signed, rest)
              | .imaginary => some (LiteralKind.plain, rest)
              | _ => none
            else readAtom inBrackets bound t
        | [] => none
      match skipLiteralBlanks inBrackets rest with
      | c :: more =>
          if c = '+' || c = '-' then
            if first = .real || first = .signed then do
              let (second, rest) ← readAtom inBrackets bound (skipLiteralBlanks inBrackets more)
              if second = .imaginary then some (.plain, rest) else none
            else none
          else some (first, c :: more)
      | [] => some (first, [])

def readAtom (inBrackets : Bool) : Nat → Text → ReadLiteral
  | 0, _ => none
  | bound + 1, t =>
      match t with
      | [] => none
      | '(' :: rest => readTuple true [] bound (skipLiteralBlanks true rest)
      | '{' :: rest => readMembers .unknown bound (skipLiteralBlanks true rest)
      | '.' :: '.' :: '.' :: rest => some (.plain, rest)
      | c :: _ =>
          if c.isDigit || c = '.' then readNumber t
          else match readQuotedText t with
            | some (kind, rest) => readTexts inBrackets kind bound rest
            | none =>
                let word := t.takeWhile isWordChar
                let rest := t.drop word.length
                if word = "True" || word = "False" || word = "None" then some (.plain, rest)
                else if word = "set" then
                  match skipLiteralBlanks inBrackets rest with
                  | '(' :: rest =>
                      match skipLiteralBlanks true rest with
                      | ')' :: rest => some (.collection, rest)
                      | _ => none
                  | _ => none
                else none

def readTexts (inBrackets : Bool) (kind : LiteralKind) : Nat → Text → ReadLiteral
  | 0, _ => none
  | bound + 1, t =>
      let next := skipLiteralBlanks inBrackets t
      if (readMarks next).isSome then
        match readQuotedText next with
        | some (other, rest) => if other = kind then readTexts inBrackets kind bound rest else none
        | none => none
      else some (kind, t)

def readTuple (isStart : Bool) (kinds : List LiteralKind) : Nat → Text → ReadLiteral
  | 0, _ => none
  | bound + 1, t =>
      match t with
      | ')' :: rest => some (tupleKind kinds, rest)
      | _ => do
          let (kind, rest) ← readSum true bound t
          match skipLiteralBlanks true rest with
          | ')' :: rest =>
              if isStart then some (kind, rest) else some (tupleKind (kind :: kinds), rest)
          | ',' :: rest => readTuple false (kind :: kinds) bound (skipLiteralBlanks true rest)
          | _ => none

def readMembers (members : Members) : Nat → Text → ReadLiteral
  | 0, _ => none
  | bound + 1, t =>
      match t with
      | '}' :: rest => some (.collection, rest)
      | _ => do
          let (kind, rest) ← readSum true bound t
          guard (isHashable kind)
          let (members, rest) ← match skipLiteralBlanks true rest with
            | ':' :: rest => do
                guard (members ≠ .items)
                let (_, rest) ← readSum true bound (skipLiteralBlanks true rest)
                some (Members.pairs, skipLiteralBlanks true rest)
            | rest => do
                guard (members ≠ .pairs)
                some (Members.items, rest)
          match rest with
          | '}' :: rest => some (.collection, rest)
          | ',' :: rest => readMembers members bound (skipLiteralBlanks true rest)
          | _ => none

def readBare : Nat → Text → Option Unit
  | 0, _ => none
  | bound + 1, t => do
      let (_, rest) ← readSum false bound t
      match skipLiteralBlanks false rest with
      | [] => some ()
      | ',' :: rest =>
          if endsThere rest then some () else readBare bound (skipLiteralBlanks false rest)
      | rest => guard (endsThere rest)

end

def isLiteral (t : Text) : Bool :=
  (readBare (4 * t.length + 4) (skipLiteralBlanks true t)).isSome

def actionValues? (t : Text) : Option Text :=
  let name := t.takeWhile fun c => isWordChar c || c = '.'
  match t.drop name.length with
  | [] => some ['(', ')']
  | rest =>
      if rest.head? = some '(' && rest.getLast? = some ')' && 1 < rest.length &&
          !rest.contains '\n' then some rest
      else none

def areParametersValid (parameters : Text) : Bool :=
  let parameters := parameters.trim
  isLiteral ((actionValues? parameters).getD parameters)

end Knotwork.Console
