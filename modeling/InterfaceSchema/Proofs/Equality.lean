import InterfaceSchema.Proofs.FirstOccurrences
import InterfaceSchema.Resource
import Mathlib.Data.List.Perm.Subperm

/-!
# Equality up to order

Tables and the records of literals are equal when every name holds equal values in both, whatever
order the names stand in.

* `Table.beq_iff`: tables of plain values are equal exactly when they hold the same under every
  name;
* `Table.keys_ofList`, `Table.get?_ofList`: a table filled one by one has its names in the order of
  their first occurrences, and holds under each what came last;
* `Literal.same_record_iff`: when two records are equal, name by name;
* `Literal.same_refl`: every literal equals itself, and with it every input of a resource.
-/

namespace InterfaceSchema

/-! ## 1. Tables -/

namespace Entries

variable {α : Type}

/-- Where no name stands twice, the pairs are what the names hold. -/
theorem mem_iff_lookup {name : String} {value : α} : ∀ {entries : List (String × α)},
    (entries.map (·.1)).Nodup → ((name, value) ∈ entries ↔ entries.lookup name = some value)
  | [], _ => by simp
  | (n, v) :: rest, h => by
    rw [List.map_cons, List.nodup_cons] at h
    rw [List.mem_cons, lookup_cons, mem_iff_lookup h.2]
    by_cases hn : name = n
    · subst hn
      have hnone : rest.lookup name ≠ some value :=
        fun hv => h.1 ((mem_map_fst_iff name rest).2 ⟨value, hv⟩)
      simp [hnone, eq_comm]
    · simp [hn]

theorem mem_of_lookup {name : String} {value : α} {entries : List (String × α)}
    (h : entries.lookup name = some value) : (name, value) ∈ entries := by
  obtain ⟨before, after, rfl, _⟩ := List.lookup_eq_some_iff.1 h
  simp

end Entries

namespace Table

variable {α : Type}

theorem mem_entries_iff (t : Table α) {name : String} {value : α} :
    (name, value) ∈ t.entries ↔ t.get? name = some value :=
  Entries.mem_iff_lookup t.distinct

theorem get?_eq_none_iff (t : Table α) {name : String} : t.get? name = none ↔ name ∉ t.keys := by
  rw [mem_keys_iff, Option.eq_none_iff_forall_ne_some, not_exists]

theorem ofList_concat (pairs : List (String × α)) (p : String × α) :
    ofList (pairs ++ [p]) = (ofList pairs).put p.1 p.2 := by
  rw [ofList, List.foldl_append, List.foldl_cons, List.foldl_nil, ofList]

/-- Filling a table one by one: the names stand where they first came in. -/
theorem keys_ofList (pairs : List (String × α)) :
    (ofList pairs).keys = (pairs.map (·.1)).eraseDups := by
  induction pairs using List.reverseRecOn with
  | nil => rfl
  | append_singleton pairs p ih =>
    rw [ofList_concat, keys_put, ih, List.map_append, List.map_singleton]
    split
    · rename_i h
      rw [eraseDups_append_of_subset (by simpa using h)]
    · rename_i h
      rw [eraseDups_concat_of_not_mem (by simpa using h)]

/-- Filling a table one by one: what came last under a name counts. -/
theorem get?_ofList (pairs : List (String × α)) (name : String) :
    (ofList pairs).get? name = pairs.reverse.lookup name := by
  induction pairs using List.reverseRecOn with
  | nil => rfl
  | append_singleton pairs p ih =>
    rw [ofList_concat, get?_put, ih, List.reverse_append, List.reverse_singleton,
      List.singleton_append, Entries.lookup_cons]

variable [BEq α] [LawfulBEq α]

/-- As many names, and what the one table holds, the other holds too. -/
theorem beq_iff_found (a b : Table α) : (a == b) = true ↔ a.keys.length = b.keys.length ∧
    ∀ name value, a.get? name = some value → b.get? name = some value := by
  show a.same b = true ↔ _
  rw [same, Bool.and_eq_true, beq_iff_eq, List.all_eq_true, keys, keys, List.length_map,
    List.length_map]
  refine and_congr_right fun _ => ⟨fun h name value hv => ?_, fun h e he => ?_⟩
  · have hfound := h (name, value) (a.mem_entries_iff.2 hv)
    cases hb : b.get? name with
    | none =>
      rw [hb] at hfound
      cases hfound
    | some v =>
      rw [hb] at hfound
      exact congrArg some (eq_of_beq hfound).symm
  · rw [h e.1 e.2 (a.mem_entries_iff.1 he)]
    exact beq_self_eq_true e.2

/-- **Tables are equal exactly when every name holds the same in both.** -/
theorem beq_iff (a b : Table α) : (a == b) = true ↔ ∀ name, a.get? name = b.get? name := by
  rw [beq_iff_found]
  constructor
  · rintro ⟨hlen, hfound⟩ name
    have hsub : a.keys ⊆ b.keys := by
      intro n hn
      obtain ⟨v, hv⟩ := (a.mem_keys_iff n).1 hn
      exact (b.mem_keys_iff n).2 ⟨v, hfound n v hv⟩
    -- as many names, none of them twice: the names of the one are those of the other
    have hperm : a.keys.Perm b.keys :=
      (List.subperm_of_subset a.distinct hsub).perm_of_length_le (Nat.le_of_eq hlen.symm)
    cases ha : a.get? name with
    | some v => exact (hfound name v ha).symm
    | none =>
      rw [get?_eq_none_iff, hperm.mem_iff, ← get?_eq_none_iff] at ha
      exact ha.symm
  · intro h
    have hperm : a.keys.Perm b.keys :=
      (List.perm_ext_iff_of_nodup a.distinct b.distinct).2 fun n => by
        rw [← keys, ← keys, mem_keys_iff, mem_keys_iff, h]
    exact ⟨hperm.length_eq, fun name value hv => h name ▸ hv⟩

end Table

/-! ## 2. Literals -/

namespace Literal

/-- What holds of every part holds of the whole: induction over the shape of a literal. -/
@[induction_eliminator]
theorem byParts {motive : Literal → Prop} (null : motive .null) (bool : ∀ b, motive (.bool b))
    (integer : ∀ n, motive (.integer n)) (decimal : ∀ w, motive (.decimal w))
    (text : ∀ s, motive (.text s))
    (list : ∀ items, (∀ a ∈ items, motive a) → motive (.list items))
    (record : ∀ members, (∀ m ∈ members, motive m.2) → motive (.record members)) :
    ∀ a, motive a
  | .null => null
  | .bool b => bool b
  | .integer n => integer n
  | .decimal w => decimal w
  | .text s => text s
  | .list items => list items fun a _ => byParts null bool integer decimal text list record a
  | .record members => record members fun m _ =>
    byParts null bool integer decimal text list record m.2
termination_by a => sizeOf a
decreasing_by
  all_goals simp_wf
  · have := List.sizeOf_lt_of_mem ‹_ ∈ items›
    omega
  · have := List.sizeOf_lt_of_mem ‹m ∈ members›
    have : sizeOf m = 1 + sizeOf m.1 + sizeOf m.2 := rfl
    omega

/-- The comparison of members passes over what is among `seen` and over what an earlier member has
    hidden, so it compares what the names hold. -/
theorem sameMembers_iff (other : List (String × Literal)) :
    ∀ (members : List (String × Literal)) (seen : List String),
      sameMembers seen members other = true ↔ ∀ name, name ∉ seen →
        ∀ value, members.lookup name = some value →
          ∃ w, other.lookup name = some w ∧ value.same w = true
  | [], seen => by simp [sameMembers]
  | (key, value) :: rest, seen => by
    have ih := sameMembers_iff other rest (key :: seen)
    rw [sameMembers, Bool.and_eq_true, ih, Bool.or_eq_true, List.contains_iff_mem]
    simp only [Entries.lookup_cons]
    constructor
    · rintro ⟨hkey, hrest⟩ name hname v hv
      by_cases hn : name = key
      · subst hn
        rw [if_pos rfl, Option.some_inj] at hv
        subst hv
        have hfound := hkey.resolve_left hname
        cases hw : other.lookup name with
        | none =>
          rw [hw] at hfound
          cases hfound
        | some w =>
          rw [hw] at hfound
          exact ⟨w, rfl, hfound⟩
      · rw [if_neg hn] at hv
        exact hrest name (by simp [hn, hname]) v hv
    · intro h
      refine ⟨?_, fun name hname v hv => ?_⟩
      · refine or_iff_not_imp_left.2 fun hkey => ?_
        obtain ⟨w, hw, hsame⟩ := h key hkey value (if_pos rfl)
        rw [hw]
        exact hsame
      · rw [List.mem_cons, not_or] at hname
        exact h name hname.2 v (by rw [if_neg hname.1]; exact hv)

/-- **Records are equal when every name holds equal literals in both**: the order of the members and
    what an earlier member hides do not count. -/
theorem same_record_iff (a b : List (String × Literal)) :
    same (.record a) (.record b) = true ↔
      (∀ name v, a.lookup name = some v → ∃ w, b.lookup name = some w ∧ v.same w = true) ∧
      ∀ name w, b.lookup name = some w → ∃ v, a.lookup name = some v := by
  rw [same, Bool.and_eq_true, sameMembers_iff, List.all_eq_true]
  simp only [Option.isSome_iff_exists]
  refine and_congr (by simp) ⟨fun h name w hw => ?_, fun h m hm => ?_⟩
  · obtain ⟨m, hm, rfl⟩ := List.mem_map.1 ((Entries.mem_map_fst_iff name b).2 ⟨w, hw⟩)
    exact h m hm
  · obtain ⟨w, hw⟩ := (Entries.mem_map_fst_iff m.1 b).1 (List.mem_map_of_mem hm)
    exact h m.1 w hw

theorem sameItems_iff : ∀ as bs : List Literal,
    sameItems as bs = true ↔ List.Forall₂ (fun a b => same a b = true) as bs
  | [], [] => by simp [sameItems]
  | [], b :: bs => by simp [sameItems]
  | a :: as, [] => by simp [sameItems]
  | a :: as, b :: bs => by
    rw [sameItems, Bool.and_eq_true, sameItems_iff as bs, List.forall₂_cons]

theorem same_refl (a : Literal) : a.same a = true := by
  induction a with
  | null => rfl
  | bool b => simp [same]
  | integer n => simp [same]
  | decimal w => exact BinaryFormat.same_refl _ _
  | text s => simp [same]
  | list items ih => rw [same, sameItems_iff, List.forall₂_same]; exact ih
  | record members ih =>
    rw [same_record_iff]
    exact ⟨fun name v hv => ⟨v, hv, ih (name, v) (Entries.mem_of_lookup hv)⟩,
      fun name w hw => ⟨w, hw⟩⟩

instance : ReflBEq Literal := ⟨same_refl _⟩

end Literal

/-! ## 3. Resources -/

deriving instance ReflBEq for ResourceInput

/-- Resources that differ in their exceptions at most are equal when these are. -/
theorem Resource.beq_exceptions (r : Resource) (t t' : Table ExceptionDef) :
    ({ r with exceptions := t } == { r with exceptions := t' }) = (t == t') := by
  show instBEqResource.beq _ _ = _
  simp [instBEqResource.beq]

end InterfaceSchema
