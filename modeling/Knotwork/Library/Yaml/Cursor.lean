import Knotwork.Text.Cut
import Knotwork.Value.Moment

/-!
Walking through the text of a settings file, and what can be wrong with it.
-/

namespace Knotwork.Yaml

inductive Problem where
  | malformed
  | codeOutOfRange
  | noInteger (base : Nat)
  | noDecimal (word : Text)
  | tooManyDigits (count : Nat)
  | moment (error : MomentError)
deriving DecidableEq

def Problem.message : Problem → Text
  | .malformed => "not valid YAML"
  | .codeOutOfRange => "chr() arg not in range(0x110000)"
  | .noInteger base => "invalid literal for int() with base " ++ Text.ofNat base ++ ": ''"
  | .noDecimal word => "could not convert string to float: " ++ Text.quoted word
  | .tooManyDigits count =>
      "Exceeds the limit (4300 digits) for integer string conversion: value has " ++
        Text.ofNat count ++ " digits; use sys.set_int_max_str_digits() to increase the limit"
  | .moment error => error.message

def isBreak (c : Char) : Bool :=
  c = '\n' || c.toNat = 0x85 || c.toNat = 0x2028 || c.toNat = 0x2029

def isEnd (c : Char) : Bool := c = '\n' || c.toNat = 0x85 || c = '\x00'

def isGap (c : Char) : Bool := isEnd c || c = ' ' || c = '\t'

def isAllowed (c : Char) : Bool :=
  let code := c.toNat
  code = 9 || code = 10 || (0x20 ≤ code && code ≤ 0x7e) || code = 0x85 ||
    (0xa0 ≤ code && code ≤ 0xfffd) || 0x10000 ≤ code

structure Cursor where
  rest : Text
  index : Nat := 0
  line : Nat := 0
  column : Nat := 0
deriving DecidableEq

namespace Cursor

def ahead (cursor : Cursor) (distance : Nat) : Char := cursor.rest.getD distance '\x00'

def peek (cursor : Cursor) : Char := cursor.ahead 0

def step (cursor : Cursor) : Cursor :=
  match cursor.rest with
  | [] => cursor
  | c :: rest =>
      if isBreak c then { rest, index := cursor.index + 1, line := cursor.line + 1, column := 0 }
      -- A byte order mark takes no column.
      else if c.toNat = 0xfeff then { cursor with rest, index := cursor.index + 1 }
      else { cursor with rest, index := cursor.index + 1, column := cursor.column + 1 }

def forward : Nat → Cursor → Cursor
  | 0, cursor => cursor
  | count + 1, cursor => forward count cursor.step

def takeWhile (cursor : Cursor) (test : Char → Bool) : Text × Cursor :=
  let taken := cursor.rest.takeWhile test
  (taken, cursor.forward taken.length)

def skipWhile (cursor : Cursor) (test : Char → Bool) : Cursor := (cursor.takeWhile test).2

/-- The line break at the present place, and the place behind it. Two kinds of break are kept as they
are, the others are line feeds. -/
def lineBreak? (cursor : Cursor) : Option (Char × Cursor) :=
  let c := cursor.peek
  if !isBreak c then none
  else some (if c.toNat = 0x85 then '\n' else c, cursor.step)

def isDivider (cursor : Cursor) : Bool :=
  let start := cursor.rest.take 3
  (start = "---" || start = "...") && isGap (cursor.ahead 3)

end Cursor

/-- The breaks after the first of some breaks, as folding leaves them: a single line feed is a space,
further ones stay. -/
def fold (first : Char) (others : Text) : Text :=
  (if first ≠ '\n' then [first] else if others = [] then [' '] else []) ++ others

end Knotwork.Yaml
