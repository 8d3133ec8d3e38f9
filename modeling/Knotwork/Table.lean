import Knotwork.Text.Order
import Knotwork.Text.Quoted

/-!
Tables: maps from text that keep the order in which keys were first entered.
-/

namespace Knotwork

structure Table (α : Type) where
  entries : List (Text × α)
  distinct : (entries.map Prod.fst).Nodup
deriving DecidableEq

namespace Table

variable {α β : Type}

def enter (key : Text) (value : α) : List (Text × α) → List (Text × α)
  | [] => [(key, value)]
  | (k, v) :: rest => if k = key then (k, value) :: rest else (k, v) :: enter key value rest

theorem mem_keys_enter (key other : Text) (value : α) (entries : List (Text × α)) :
    other ∈ (enter key value entries).map Prod.fst ↔
      other = key ∨ other ∈ entries.map Prod.fst := by
  induction entries with
  | nil => simp [enter]
  | cons entry rest ih =>
      obtain ⟨k, v⟩ := entry
      simp only [enter]
      split
      · rename_i same
        subst same
        simp
      · simp only [List.map_cons, List.mem_cons, ih]
        grind

theorem nodup_keys_enter (key : Text) (value : α) (entries : List (Text × α))
    (distinct : (entries.map Prod.fst).Nodup) :
    ((enter key value entries).map Prod.fst).Nodup := by
  induction entries with
  | nil => simp [enter]
  | cons entry rest ih =>
      obtain ⟨k, v⟩ := entry
      simp only [List.map_cons, List.nodup_cons] at distinct
      simp only [enter]
      split
      · simpa using distinct
      · rename_i differs
        simp only [List.map_cons, List.nodup_cons, mem_keys_enter]
        exact ⟨fun member => member.elim differs distinct.1, ih distinct.2⟩

def empty : Table α := ⟨[], by simp⟩

instance : Inhabited (Table α) := ⟨empty⟩

def insert (table : Table α) (key : Text) (value : α) : Table α :=
  ⟨enter key value table.entries, nodup_keys_enter key value table.entries table.distinct⟩

def insertAll (table : Table α) (pairs : List (Text × α)) : Table α :=
  pairs.foldl (fun result pair => result.insert pair.1 pair.2) table

def ofPairs (pairs : List (Text × α)) : Table α := empty.insertAll pairs

def find? (table : Table α) (key : Text) : Option α := table.entries.lookup key

structure UnknownKey where
  key : Text
deriving DecidableEq

def UnknownKey.message (error : UnknownKey) : Text := Text.quoted error.key

def get (table : Table α) (key : Text) : Except UnknownKey α :=
  match table.find? key with
  | some value => .ok value
  | none => .error ⟨key⟩

def keys (table : Table α) : List Text := table.entries.map Prod.fst

def values (table : Table α) : List α := table.entries.map Prod.snd

def contains (table : Table α) (key : Text) : Bool := (table.find? key).isSome

def size (table : Table α) : Nat := table.entries.length

def sorted (table : Table α) : List (Text × α) :=
  sortBy (fun first second => Text.atMost first.1 second.1) table.entries

def same [DecidableEq α] (first second : Table α) : Bool :=
  decide (first.sorted = second.sorted)

end Table

end Knotwork
