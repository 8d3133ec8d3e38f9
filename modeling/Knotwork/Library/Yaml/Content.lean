import Knotwork.Library.Yaml.Meaning
import Knotwork.Library.Yaml.Node
import Knotwork.Text.Lines

/-!
The values of nodes. A map takes up the members of the maps that it merges, and has no key twice. What
is wrong is told level by level, from the top of the tree.
-/

namespace Knotwork.Yaml

def fraction? : Value → Option (Int × Nat)
  | .bool value => some (if value then 1 else 0, 1)
  | .int value => some (value, 1)
  | .float value =>
      match Decimal.Binary.ofFloat value with
      | .finite negative mantissa exponent =>
          let (numerator, denominator) := Decimal.Binary.fraction mantissa exponent
          some (if negative then -Int.ofNat numerator else numerator, denominator)
      | _ => none
  | _ => none

mutual

def sameKey (first second : Value) : Bool :=
  match first, second with
  | .null, .null => true
  | .text a, .text b => a == b
  | .bytes a, .bytes b => a == b
  | .moment a, .moment b => a == b
  | .list a, .list b => sameKeys a b
  | first, second =>
      match fraction? first, fraction? second with
      | some (n, d), some (m, e) => n * e == m * d
      | none, none =>
          match first, second with
          | .float a, .float b => Decimal.Binary.ofFloat a == Decimal.Binary.ofFloat b
          | _, _ => false
      | _, _ => false

def sameKeys (first second : List Value) : Bool :=
  match first, second with
  | [], [] => true
  | a :: first, b :: second => sameKey a b && sameKeys first second
  | _, _ => false

end

def isKey : Value → Bool
  | .map _ | .collection _ => false
  | .list items => items.all fun
      | .list _ | .map _ | .collection _ => false
      | _ => true
  | _ => true

def enterMember (key value : Value) : List (Value × Value) → List (Value × Value)
  | [] => [(key, value)]
  | (k, old) :: rest =>
      if sameKey k key then (k, value) :: rest else (k, old) :: enterMember key value rest

namespace Node

def standardKind (name : Text) : Text := "tag:yaml.org,2002:" ++ name

def scalarValue (kind : Kind) (text : Text) : Except Problem Value :=
  match kind with
  | .byContent => readScalar text
  | .asText => .ok (.text text)
  | .named name =>
      if name = standardKind "str" then .ok (.text text)
      else if name = standardKind "null" then .ok .null
      else if name = standardKind "int" then
        if isInteger text then readInteger text else .error .malformed
      else if name = standardKind "float" then
        if isDecimal text || isInteger text then readDecimal text else .error .malformed
      else if name = standardKind "bool" then
        match lookOf text with
        | .truth value => .ok (.bool value)
        | _ => .error .malformed
      else if name = standardKind "binary" then readBytes text
      else if name = standardKind "timestamp" then
        match Moment.read? text with
        | some moment => readMoment moment
        | none => .error .malformed
      else .error .malformed

def hasOwnKind : Node → Bool
  | .scalar .. => true
  | .list kind _ =>
      kind = .byContent || ["seq", "omap", "pairs"].any fun name => kind = .named (standardKind name)
  | .map kind _ => kind = .byContent || ["map", "set"].any fun name => kind = .named (standardKind name)

def pairs (items : List Value) : Except Problem (List (Value × Value)) :=
  items.mapM fun
    | .map [member] => .ok member
    | _ => .error .malformed

def listValue (kind : Kind) (items : List Value) : Except Problem Value :=
  if kind = .named (standardKind "omap") then return .map (← pairs items)
  else if kind = .named (standardKind "pairs") then do
    let shown := (← pairs items).map fun (key, value) => Value.literalAs true (.list [key, value])
    return .collection
      { kind := "list", literal := ['['] ++ Text.joinWith ", " shown ++ [']']
        isEmpty := items.isEmpty, isTooLong := Value.anyTooLong items }
  else .ok (.list items)

def mapValue (kind : Kind) (members : List (Value × Value)) : Value :=
  if kind = .named (standardKind "set") then
    let keys := members.map Prod.fst
    .collection
      { kind := "set"
        literal := if keys.isEmpty then "set()"
          else ['{'] ++ Text.joinWith ", " (keys.map (Value.literalAs true)) ++ ['}']
        isEmpty := keys.isEmpty, isTooLong := Value.anyTooLong keys }
  else .map members

def isMark (look : Look) : Node → Bool
  | .scalar .byContent text => lookOf text = look
  | _ => false

def plainKey (node : Node) : Node :=
  match node with
  | .scalar _ text => if node.isMark .standard then .scalar .asText text else node
  | _ => node

/-- The members of a map: those that it merges, and its own. At most one mark asks for merging, unless
there is nothing in the maps that it names. -/
def merged : Nat → List (Node × Node) → Except Problem (List (Node × Node) × List (Node × Node))
  | 0, _ => .error .malformed
  | _ + 1, [] => .ok ([], [])
  | bound + 1, (key, value) :: rest =>
      let all (members : List (Node × Node)) : Except Problem (List (Node × Node)) := do
        let (others, own) ← merged bound members
        return others ++ own
      if key.isMark .merge then do
        let found ← match value with
          | .map _ members => all members
          | .list _ items => do
              let parts ← items.mapM fun
                | .map _ members => all members
                | _ => throw .malformed
              pure parts.reverse.flatten
          | .scalar .. => throw .malformed
        let (others, own) ← merged bound rest
        if found ≠ [] && (rest.any fun member => member.1.isMark .merge) then throw .malformed
        return (found ++ others, own)
      else do
        let (others, own) ← merged bound rest
        return (others, (key.plainKey, value) :: own)

mutual

def value : Nat → Node → Except Problem Value
  | 0, _ => .error .malformed
  | _ + 1, .scalar kind text => scalarValue kind text
  | depth + 1, .list kind items => do listValue kind (← values depth items)
  | depth + 1, .map kind members => do
      let (others, own) ← merged (depth + 1) members
      return mapValue kind (← memberValues depth [] (others ++ own))

def values : Nat → List Node → Except Problem (List Value)
  | 0, _ => .error .malformed
  | _ + 1, [] => .ok []
  | depth + 1, item :: items => return (← value depth item) :: (← values depth items)

def memberValues : Nat → List (Value × Value) → List (Node × Node) →
    Except Problem (List (Value × Value))
  | 0, _, _ => .error .malformed
  | _ + 1, found, [] => .ok found
  | depth + 1, found, (key, node) :: rest => do
      memberValues depth (enterMember (← value depth key) (← value depth node) found) rest

end

def checkInner (node : Node) : Except Problem (List Node) :=
  if !node.hasOwnKind then .error .malformed
  else match node with
    | .scalar kind text => (scalarValue kind text).map fun _ => []
    | _ => .ok [node]

def checkMembers (depth : Nat) (distinct : Bool) :
    List Value → List (Node × Node) → Except Problem (List Node)
  | _, [] => .ok []
  | keys, (key, node) :: rest => do
      let _ ← key.checkInner
      let key ← value depth key
      unless isKey key do throw .malformed
      let later ← node.checkInner
      if distinct && keys.any (sameKey key) then throw .malformed
      return later ++ (← checkMembers depth distinct (key :: keys) rest)

def checkLevel (depth : Nat) : Node → Except Problem (List Node)
  | .scalar .. => .ok []
  | .list _ items => return (← items.mapM checkInner).flatten
  | .map _ members => do
      let (others, own) ← merged depth members
      checkMembers depth others.isEmpty [] (others ++ own)

def checkLevels (depth : Nat) : Nat → List Node → Except Problem Unit
  | 0, _ => .error .malformed
  | _ + 1, [] => .ok ()
  | bound + 1, node :: rest => do
      checkLevels depth bound (rest ++ (← checkLevel depth node))

mutual

def size : Node → Nat
  | .scalar .. => 1
  | .list _ items => sizes items + 1
  | .map _ members => memberSizes members + 1

def sizes : List Node → Nat
  | [] => 0
  | item :: items => size item + sizes items + 1

def memberSizes : List (Node × Node) → Nat
  | [] => 0
  | (key, value) :: members => size key + size value + memberSizes members + 1

end

def content (node : Node) : Except Problem Value := do
  let bound := 2 * node.size + 2
  checkLevels bound bound (← node.checkInner)
  node.value bound

end Node

def read (source : Text) : Except Problem Value := do
  match ← Reading.readDocument (← tokensOf source.plainNewlines) with
  | none => return .null
  | some node => node.content

end Knotwork.Yaml
