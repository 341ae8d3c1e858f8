import InterfaceSchema.Proofs.FirstOccurrences
import InterfaceSchema.TypeDef

/-!
# Dependencies

The dependencies of a type are read off its references one after the other: a name is noted when it
comes for the first time, unless it is a base type's. What is noted is never moved, so the
dependencies stand as their first references do, wherever in the type these are.

* `noteReference`, `foldl_noteReference`: the references are read one by one;
* `TypeDef.dependencies_first_references`: which names are dependencies, and in which order.
-/

namespace InterfaceSchema

/-- Notes a name at the end, unless it is a base type's or has been noted. -/
def noteReference (noted : List String) (r : String) : List String :=
  if !isBaseName r && !noted.contains r then noted ++ [r] else noted

/-- **To read the references one by one** is to drop the base types among them, and then all
    repetitions. -/
theorem foldl_noteReference (references : List String) :
    references.foldl noteReference [] =
      (references.filter fun r => !isBaseName r).eraseDups := by
  induction references using List.reverseRecOn with
  | nil => rfl
  | append_singleton before r ih =>
    rw [List.foldl_append, List.foldl_cons, List.foldl_nil, ih, List.filter_append, noteReference]
    cases hb : isBaseName r with
    | true => simp [hb]
    | false =>
      have hone : [r].filter (fun r => !isBaseName r) = [r] := by simp [hb]
      rw [hone]
      by_cases hr : r ∈ before.filter fun r => !isBaseName r
      · rw [eraseDups_append_of_subset (by simpa using hr)]
        simp [List.mem_eraseDups.2 hr]
      · rw [eraseDups_concat_of_not_mem hr]
        simp [mt List.mem_eraseDups.1 hr]

namespace TypeDef

/-- **The dependencies of a type are its references without base types, each once, in the order of
    first reference.** They are what reading the references one by one has noted. -/
theorem dependencies_first_references (t : TypeDef) :
    t.dependencies = t.references.foldl noteReference [] ∧
    t.dependencies.Nodup ∧
    (∀ r, r ∈ t.dependencies ↔ r ∈ t.references ∧ isBaseName r = false) ∧
    ∀ a ∈ t.dependencies, ∀ b ∈ t.dependencies,
      (t.dependencies.idxOf a < t.dependencies.idxOf b ↔
        t.references.idxOf a < t.references.idxOf b) := by
  refine ⟨(foldl_noteReference t.references).symm, nodup_dependencies t,
    fun _ => mem_dependencies, fun a ha b hb => ?_⟩
  have kept : ∀ c ∈ t.dependencies, (!isBaseName c) = true := by
    intro c hc
    rw [(mem_dependencies.1 hc).2]
    rfl
  rw [dependencies, idxOf_eraseDups_lt_iff]
  exact idxOf_filter_lt_iff (p := fun r => !isBaseName r) (kept a ha) (kept b hb) t.references

/-- A parcel refers to places and items several times, and to its labels before the last of these:
    each counts where it comes first, and the base type nowhere. -/
theorem dependencies_first_references_parcel :
    let parcel : TypeDef := ⟨⟨"Parcel", "Item", none⟩,
      .struct [.new "weight" (.named "Int32"), .new "origin" (.named "Place"),
        .new "tags" (.map "Label" "Item"), .new "target" (.named "Place")]⟩
    parcel.references = ["Item", "Int32", "Place", "Item", "Label", "Place"] ∧
      parcel.dependencies = ["Item", "Place", "Label"] ∧
      ("Place" ∈ parcel.dependencies ∧ "Label" ∈ parcel.dependencies) ∧
      (parcel.dependencies.idxOf "Place" < parcel.dependencies.idxOf "Label" ↔
        parcel.references.idxOf "Place" < parcel.references.idxOf "Label") := by
  intro parcel
  have hmem : "Place" ∈ parcel.dependencies ∧ "Label" ∈ parcel.dependencies := by decide
  obtain ⟨_, _, _, horder⟩ := dependencies_first_references parcel
  exact ⟨rfl, by decide, hmem, horder _ hmem.1 _ hmem.2⟩

end TypeDef

end InterfaceSchema
