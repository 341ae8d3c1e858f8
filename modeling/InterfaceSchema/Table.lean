/-!
# Tables

A table holds one value for each of its names and remembers the order in which the names first came
in. Putting a value under a name it holds replaces the value where it stands.

* `keys_put`: a put adds its name at the end, or not at all;
* `get?_put`: after a put, its name holds its value and every other name holds what it held;
* `get?_erase`: an erased name holds nothing, every other name what it held.
-/

namespace InterfaceSchema

/-! ## 1. Entries in a list -/

namespace Entries

variable {κ α : Type} [BEq κ] [LawfulBEq κ] [DecidableEq κ]

/-- Replaces the value of the first entry with the key, or adds an entry at the end. -/
def put (key : κ) (value : α) : List (κ × α) → List (κ × α)
  | [] => [(key, value)]
  | (k, v) :: rest => if k = key then (k, value) :: rest else (k, v) :: put key value rest

theorem lookup_cons (key k : κ) (value : α) (rest : List (κ × α)) :
    ((k, value) :: rest).lookup key = if key = k then some value else rest.lookup key := by
  by_cases h : key = k
  · simp [h]
  · simp [List.lookup_cons, beq_eq_false_iff_ne.2 h, h]

theorem map_fst_put (key : κ) (value : α) : ∀ entries : List (κ × α),
    (put key value entries).map (·.1) =
      if key ∈ entries.map (·.1) then entries.map (·.1) else entries.map (·.1) ++ [key]
  | [] => rfl
  | (k, v) :: rest => by
    by_cases h : k = key
    · simp [put, h]
    · have h' : ¬ key = k := fun e => h e.symm
      have ih := map_fst_put key value rest
      simp only [put, h, if_false, List.map_cons, ih, List.mem_cons, h', false_or]
      split <;> simp

theorem lookup_put (key other : κ) (value : α) : ∀ entries : List (κ × α),
    (put key value entries).lookup other = if other = key then some value else entries.lookup other
  | [] => by simp [put, lookup_cons]
  | (k, v) :: rest => by
    have ih := lookup_put key other value rest
    by_cases hk : k = key
    · subst hk
      simp only [put, if_true, lookup_cons]
      split <;> rfl
    · by_cases ho : other = k
      · have : ¬ other = key := fun e => hk (ho ▸ e)
        simp [put, hk, ho]
      · simp [put, hk, lookup_cons, ho, ih]

/-- Without the entries of a key the other keys are found as before. -/
theorem lookup_filter_ne (key other : κ) : ∀ entries : List (κ × α),
    (entries.filter fun e => e.1 != key).lookup other =
      if other = key then none else entries.lookup other
  | [] => by simp
  | (k, v) :: rest => by
    have ih := lookup_filter_ne key other rest
    by_cases hk : k = key
    · subst hk
      rw [List.filter_cons_of_neg (by simp), ih, lookup_cons]
      split <;> rfl
    · rw [List.filter_cons_of_pos (by simpa using hk), lookup_cons, lookup_cons, ih]
      by_cases ho : other = k <;> simp [ho, hk]

theorem mem_map_fst_iff (key : κ) : ∀ entries : List (κ × α),
    key ∈ entries.map (·.1) ↔ ∃ v, entries.lookup key = some v
  | [] => by simp
  | (k, v) :: rest => by
    have ih := mem_map_fst_iff key rest
    by_cases h : key = k <;> simp [h, lookup_cons, ih]

end Entries

/-! ## 2. Tables -/

/-- Values by name, one for each name, in the order of first insertion. -/
structure Table (α : Type) where
  entries : List (String × α)
  distinct : (entries.map (·.1)).Nodup

namespace Table

variable {α : Type}

/-- Nothing under any name. -/
def empty : Table α := ⟨[], List.nodup_nil⟩

instance : EmptyCollection (Table α) := ⟨empty⟩

/-- The names that hold a value, in the order of first insertion. -/
def keys (t : Table α) : List String :=
  t.entries.map (·.1)

/-- The value under a name. -/
def get? (t : Table α) (name : String) : Option α :=
  t.entries.lookup name

/-- Holds the value under the name from now on. -/
def put (t : Table α) (name : String) (value : α) : Table α where
  entries := Entries.put name value t.entries
  distinct := by
    rw [Entries.map_fst_put]
    split
    · exact t.distinct
    · rename_i h
      exact List.nodup_append.2 ⟨t.distinct, by simp, by
        intro a ha b hb
        simp only [List.mem_singleton] at hb
        exact fun e => h (hb ▸ e ▸ ha)⟩

/-- Holds nothing under the name from now on. -/
def erase (t : Table α) (name : String) : Table α where
  entries := t.entries.filter fun e => e.1 != name
  distinct := by
    have h : (t.entries.filter fun e => e.1 != name).map (·.1) =
        (t.entries.map (·.1)).filter fun n => n != name := by
      rw [List.filter_map]; rfl
    rw [h]
    exact t.distinct.filter _

/-- The table after putting the pairs one after the other. -/
def ofList (pairs : List (String × α)) : Table α :=
  pairs.foldl (fun t p => t.put p.1 p.2) empty

/-- Equality of tables without regard to order: as many names, and the same value under each. -/
def same [BEq α] (a b : Table α) : Bool :=
  a.entries.length == b.entries.length &&
    a.entries.all fun e => match b.get? e.1 with
      | some v => e.2 == v
      | none => false

instance [BEq α] : BEq (Table α) := ⟨same⟩

/-! ## 3. What each operation does to the view -/

theorem keys_put (t : Table α) (name : String) (value : α) :
    (t.put name value).keys = if name ∈ t.keys then t.keys else t.keys ++ [name] :=
  Entries.map_fst_put name value t.entries

theorem get?_put (t : Table α) (name key : String) (value : α) :
    (t.put name value).get? key = if key = name then some value else t.get? key :=
  Entries.lookup_put name key value t.entries

@[simp] theorem get?_empty (key : String) : (empty : Table α).get? key = none := rfl

@[simp] theorem keys_empty : (empty : Table α).keys = [] := rfl

theorem get?_erase (t : Table α) (name key : String) :
    (t.erase name).get? key = if key = name then none else t.get? key :=
  Entries.lookup_filter_ne name key t.entries

/-- A name is among the keys exactly when it holds a value. -/
theorem mem_keys_iff (t : Table α) (name : String) :
    name ∈ t.keys ↔ ∃ v, t.get? name = some v :=
  Entries.mem_map_fst_iff name t.entries

end Table

end InterfaceSchema
