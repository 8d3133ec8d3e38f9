import Knotwork.State

/-!
Identities of nodes. A node is identified by its knot and its whole state, written as the name of the
knot, a bar, and the variables with their values in dictionary order.
-/

namespace Knotwork.Identity

def encode (knot : Text) (state : State) : Text :=
  knot ++ ['|'] ++ Text.joinWith [','] (state.sorted.map State.renderEntry)

inductive Malformed where
  | noKnot (identity : Text)
  | badEntry (entry identity : Text)
deriving DecidableEq

def Malformed.message : Malformed → Text
  | .noKnot identity => "Not a canonical node id: " ++ Text.quoted identity
  | .badEntry entry identity =>
      "Malformed state entry " ++ Text.quoted entry ++ " in node id " ++ Text.quoted identity

def decodeEntry (identity entry : Text) : Except Malformed (Text × Bool) :=
  match Text.cut? ['='] entry with
  | none => .error (.badEntry entry identity)
  | some (name, word) =>
      match Text.toBool? word with
      | none => .error (.badEntry entry identity)
      | some value => .ok (name, value)

def decode (identity : Text) : Except Malformed (Text × State) :=
  match Text.cut? ['|'] identity with
  | none => .error (.noKnot identity)
  | some (knot, encoded) =>
      if knot = [] then .error (.noKnot identity)
      else if encoded = [] then .ok (knot, Table.empty)
      else do
        let entries ← (Text.splitOn [','] encoded).mapM (decodeEntry identity)
        return (knot, Table.ofPairs entries)

end Knotwork.Identity
