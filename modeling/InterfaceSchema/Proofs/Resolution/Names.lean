import InterfaceSchema.Proofs.Resolution.Verdict
import Mathlib.Data.Nat.Find

/-!
# Which name is refused

Before any reference is followed, the names are checked one after the other against the base types
and against the names before them. The first name that offends is refused, and the references have
no say in it.

* `Offends`: the name at a position is a base type's, or stands at an earlier position as well;
* `wellNamed_iff_not_offends`: a well-named list is one without offences;
* `nameError?_append_of_none`: a check that has passed some types knows their names and nothing
  else;
* `nameError?_of_least`: so the check refuses the least position that offends;
* `resolveOrder_least_offence`: and so does the resolution, whatever else is wrong with the list.
-/

namespace InterfaceSchema

variable {types : List TypeDef} {position : Nat} {t : TypeDef}

/-! ## 1. Offences -/

/-- The name at the position is a base type's, or stands at an earlier position as well. -/
def Offends (types : List TypeDef) (position : Nat) : Prop :=
  ∃ t, types[position]? = some t ∧
    (isBaseName t.name = true ∨ ∃ j < position, DeclaredAt types j t.name)

instance (name : String) : Decidable (DeclaredAt types position name) :=
  decidable_of_iff (types[position]?.map (·.name) = some name) Option.map_eq_some_iff

instance : Decidable (Offends types position) :=
  inferInstanceAs (Decidable (∃ t ∈ types[position]?, isBaseName t.name = true ∨
    ∃ j < position, DeclaredAt types j t.name))

/-- The error of a name that offends. -/
def nameErrorOf (name : String) : SchemaError :=
  if isBaseName name then .reservedName name else .duplicateType name

/-- A list is well-named exactly where no position offends. -/
theorem wellNamed_iff_not_offends : WellNamed types ↔ ∀ i, ¬ Offends types i := by
  constructor
  · rintro hn i ⟨t, ht, hbase | ⟨j, hj, hat⟩⟩
    · exact hn.ne_base ⟨t, List.mem_of_getElem? ht, rfl⟩ hbase
    · exact Nat.ne_of_lt hj (hn.at_inj hat ⟨t, ht, rfl⟩)
  · intro hnone
    refine ⟨fun t ht => ?_, ?_⟩
    · obtain ⟨i, hi⟩ := List.getElem?_of_mem ht
      exact Bool.eq_false_iff.2 fun hbase => hnone i ⟨t, hi, Or.inl hbase⟩
    · rw [List.Nodup, List.pairwise_iff_getElem]
      intro j i hj hi hlt hname
      rw [List.length_map] at hj hi
      rw [List.getElem_map, List.getElem_map] at hname
      exact hnone i ⟨types[i], List.getElem?_eq_getElem hi,
        Or.inr ⟨j, hlt, types[j], List.getElem?_eq_getElem hj, hname⟩⟩

theorem getElem?_of_take {i : Nat} (h : (types.take position)[i]? = some t) :
    i < position ∧ types[i]? = some t := by
  rw [List.getElem?_take] at h
  split at h
  · exact ⟨‹_›, h⟩
  · cases h

/-- A position that offends in a beginning of the list is one before its end that offends. -/
theorem offends_of_take {i : Nat} (h : Offends (types.take position) i) :
    i < position ∧ Offends types i := by
  obtain ⟨t, ht, hwhy⟩ := h
  obtain ⟨hlt, ht⟩ := getElem?_of_take ht
  refine ⟨hlt, t, ht, hwhy.imp_right ?_⟩
  rintro ⟨j, hj, u, hu, hname⟩
  exact ⟨j, hj, u, (getElem?_of_take hu).2, hname⟩

/-! ## 2. The check -/

/-- **A check that has passed some types goes on with their names among those it has seen.** -/
theorem nameError?_append_of_none (rest : List TypeDef) : ∀ (passed : List TypeDef)
    (seen : List String), nameError? seen passed = none →
    nameError? seen (passed ++ rest) = nameError? ((passed.map (·.name)).reverse ++ seen) rest
  | [], _, _ => rfl
  | t :: passed, seen, h => by
    simp only [List.cons_append, nameError?] at h ⊢
    split at h
    · cases h
    · rename_i hbase
      split at h
      · cases h
      · rename_i hseen
        rw [if_neg hbase, if_neg hseen, nameError?_append_of_none rest passed (t.name :: seen) h,
          List.map_cons, List.reverse_cons, List.append_assoc]
        rfl

/-- **The check refuses the least position that offends**, for being reserved before anything
    else. -/
theorem nameError?_of_least (ht : types[position]? = some t) (h : Offends types position)
    (hleast : ∀ j < position, ¬ Offends types j) :
    nameError? [] types = some (nameErrorOf t.name) := by
  have hpassed : nameError? [] (types.take position) = none := by
    rw [nameError?_eq_none_iff_wellNamed, wellNamed_iff_not_offends]
    intro j hj
    obtain ⟨hlt, hoff⟩ := offends_of_take hj
    exact hleast j hlt hoff
  have hsplit : types = types.take position ++ t :: types.drop (position + 1) := by
    obtain ⟨hlt, rfl⟩ := List.getElem?_eq_some_iff.1 ht
    rw [List.getElem_cons_drop, List.take_append_drop]
  rw [hsplit, nameError?_append_of_none _ _ [] hpassed, List.append_nil]
  simp only [nameError?, nameErrorOf]
  by_cases hbase : isBaseName t.name = true
  · rw [if_pos hbase, if_pos hbase]
  · obtain ⟨u, hu, hwhy⟩ := h
    rw [ht] at hu
    cases hu
    obtain ⟨j, hj, v, hv, hname⟩ := hwhy.resolve_left hbase
    have hseen : t.name ∈ ((types.take position).map (·.name)).reverse := by
      rw [List.mem_reverse, List.mem_map]
      refine ⟨v, List.mem_of_getElem? (i := j) ?_, hname⟩
      rw [List.getElem?_take, if_pos hj]
      exact hv
    rw [if_neg hbase, if_neg hbase, if_pos hseen]

/-! ## 3. The answer -/

/-- **The first name that offends is refused, whatever the references are.** Where some position
    offends, the resolution fails at the least of them: its name is reserved if it is a base type's,
    and declared twice otherwise. Where none does, no name is ever refused. -/
theorem resolveOrder_least_offence (types : List TypeDef) :
    ((∃ i, Offends types i) → ∃ i t, types[i]? = some t ∧ Offends types i ∧
      (∀ j < i, ¬ Offends types j) ∧
      (isBaseName t.name = true → resolveOrder types = .error (.reservedName t.name)) ∧
      (isBaseName t.name = false → resolveOrder types = .error (.duplicateType t.name))) ∧
    ((∀ i, ¬ Offends types i) → ∀ name, resolveOrder types ≠ .error (.reservedName name) ∧
      resolveOrder types ≠ .error (.duplicateType name)) := by
  classical
  refine ⟨fun hsome => ?_, fun hnone name => ?_⟩
  · obtain ⟨t, ht, hwhy⟩ := Nat.find_spec hsome
    have hleast : ∀ j < Nat.find hsome, ¬ Offends types j := fun j hj => Nat.find_min hsome hj
    have hrefused := resolveOrder_of_nameError (nameError?_of_least ht ⟨t, ht, hwhy⟩ hleast)
    refine ⟨Nat.find hsome, t, ht, ⟨t, ht, hwhy⟩, hleast, fun hbase => ?_, fun hbase => ?_⟩
    · rw [hrefused, nameErrorOf, if_pos hbase]
    · rw [hrefused, nameErrorOf, if_neg (Bool.eq_false_iff.1 hbase)]
  · have hn : WellNamed types := wellNamed_iff_not_offends.2 hnone
    constructor <;> intro h
    · exact resolveOrder_error_breaks h hn
    · exact resolveOrder_error_breaks h hn

/-- A dangling `Gone` and the loop of `Ring` stand before all offences. The second `Point` is
    refused where it comes before `Int32`, and `Int32` where it comes first; without offences no
    name is. -/
theorem resolveOrder_least_offence_mixed :
    let point : TypeDef := ⟨⟨"Point", "Gone", none⟩, .synonym⟩
    let ring : TypeDef := ⟨⟨"Ring", "Ring", none⟩, .synonym⟩
    let int : TypeDef := ⟨⟨"Int32", "Int64", none⟩, .synonym⟩
    (Offends [point, ring, point, int] 2 ∧
      resolveOrder [point, ring, point, int] = .error (.duplicateType "Point")) ∧
    (Offends [point, ring, int, point] 2 ∧
      resolveOrder [point, ring, int, point] = .error (.reservedName "Int32")) ∧
    (∀ i, ¬ Offends [point, ring] i) ∧
      resolveOrder [point, ring] ≠ .error (.duplicateType "Point") := by
  intro point ring int
  have hpoint : Offends [point, ring, point, int] 2 := by decide
  have hint : Offends [point, ring, int, point] 2 := by decide
  have hnone : ∀ i, ¬ Offends [point, ring] i :=
    wellNamed_iff_not_offends.1 ⟨by decide, by decide⟩
  have hpassed : ∀ j < 2, ¬ Offends [point, ring, point, int] j := by decide
  have hpassed' : ∀ j < 2, ¬ Offends [point, ring, int, point] j := by decide
  refine ⟨⟨hpoint, ?_⟩, ⟨hint, ?_⟩, hnone,
    ((resolveOrder_least_offence [point, ring]).2 hnone "Point").2⟩
  · obtain ⟨i, t, ht, hoff, hleast, _, hdouble⟩ :=
      (resolveOrder_least_offence [point, ring, point, int]).1 ⟨2, hpoint⟩
    have e : i = 2 := Nat.le_antisymm (Nat.le_of_not_lt fun h => hleast 2 h hpoint)
      (Nat.le_of_not_lt fun h => hpassed i h hoff)
    subst e
    cases ht
    exact hdouble rfl
  · obtain ⟨i, t, ht, hoff, hleast, hreserved, _⟩ :=
      (resolveOrder_least_offence [point, ring, int, point]).1 ⟨2, hint⟩
    have e : i = 2 := Nat.le_antisymm (Nat.le_of_not_lt fun h => hleast 2 h hint)
      (Nat.le_of_not_lt fun h => hpassed' i h hoff)
    subst e
    cases ht
    exact hreserved rfl

end InterfaceSchema
