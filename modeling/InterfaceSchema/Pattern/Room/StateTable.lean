import Std.Data.HashMap

/-!
# Tables of states

States that lead on alike need to be built only once, so they are looked up before they are built.
The table has a fixed number of slots. What a state is found by is its key; the key gives the slot,
and a state takes its slot over from the one before it. A state that has lost its slot is not found
any more.
-/

namespace InterfaceSchema

/-- The FNV-1a hash of numbers, with 64 bits. -/
def fnv1a (ns : List Nat) : UInt64 :=
  ns.foldl (fun hash n => (hash ^^^ n.toUInt64) * 1099511628211) 14695981039346656037

/-- States by their slots, each with its key. -/
structure StateTable where
  slots : Nat
  entries : Std.HashMap Nat (List Nat × Nat)

namespace StateTable

/-- A table without states. -/
def empty (slots : Nat) : StateTable := ⟨slots, ∅⟩

/-- The slot of a key. -/
def slot (t : StateTable) (key : List Nat) : Nat := (fnv1a key).toNat % t.slots

/-- The state with the key, if it has its slot still. -/
def find? (t : StateTable) (key : List Nat) : Option Nat :=
  (t.entries[t.slot key]?).bind fun entry => if entry.1 = key then some entry.2 else none

/-- Puts a state into its slot. -/
def insert (t : StateTable) (key : List Nat) (state : Nat) : StateTable :=
  { t with entries := t.entries.insert (t.slot key) (key, state) }

end StateTable

end InterfaceSchema
