import InterfaceSchema.Proofs.Resolution.Verdict
import InterfaceSchema.Proofs.Schema.Finalize

/-!
# Drafts with the same types

Two drafts that declare the same types in different orders are both finished or both refused. What
may differ is the order of the types and, among several defects, which one is reported; but names
are always checked before references, and where there is only one kind of defect in the references,
that kind is reported whatever the order (`finalize_perm`).
-/

namespace InterfaceSchema

variable {d e : Draft} {error : SchemaError}

/-- **A draft that fails still fails when its types are rearranged**, and for a name or for a
    reference as before. -/
theorem finalize_error_of_perm (h : e.types.Perm d.types) (hd : d.finalize = .error error) :
    ∃ error', e.finalize = .error error' ∧ error'.Breaks e.types ∧
      error'.isOfReference = error.isOfReference := by
  have hbreaks : error.Breaks d.types := resolveOrder_error_breaks (finalize_error_iff.1 hd)
  cases he : e.finalize with
  | ok s =>
    obtain ⟨order, horder, _⟩ := finalize_ok_iff.1 he
    obtain ⟨hn, hc, ha⟩ := conditions_of_resolveOrder horder
    exact (hbreaks.elim (hn.of_perm h.symm) (hc.of_perm h.symm) (ha.of_perm h.symm)).elim
  | error error' =>
    have hbreaks' : error'.Breaks e.types := resolveOrder_error_breaks (finalize_error_iff.1 he)
    refine ⟨error', rfl, hbreaks', ?_⟩
    rw [Bool.eq_iff_iff, ← hbreaks.wellNamed_iff, ← hbreaks'.wellNamed_iff]
    exact ⟨fun hn => hn.of_perm h.symm, fun hn => hn.of_perm h⟩

theorem finalize_ok_of_perm (h : e.types.Perm d.types) (hd : ∃ s, d.finalize = .ok s) :
    ∃ s, e.finalize = .ok s := by
  obtain ⟨s, hs⟩ := hd
  cases he : e.finalize with
  | ok s => exact ⟨s, rfl⟩
  | error error =>
    obtain ⟨_, hfail, _⟩ := finalize_error_of_perm h.symm he
    rw [hs] at hfail
    cases hfail

/-- **The verdict does not depend on the order of declaration.** Drafts whose types are
    rearrangements of one another are finished together, with rearrangements of the same types; they
    fail together over names, and together over references, and then both over a dangling one where
    no type reaches itself, and both over a loop where none dangles. -/
theorem finalize_perm (h : d.types.Perm e.types) :
    ((∃ s, d.finalize = .ok s) ↔ ∃ s, e.finalize = .ok s) ∧
    (∀ s s', d.finalize = .ok s → e.finalize = .ok s' → s.types.Perm s'.types) ∧
    ∀ error, d.finalize = .error error → ∃ error', e.finalize = .error error' ∧
      error'.isOfReference = error.isOfReference ∧
      (error.isOfReference = true →
        (Acyclic d.types →
          (∃ referrer reference, error = .danglingReference referrer reference) ∧
          ∃ referrer reference, error' = .danglingReference referrer reference) ∧
        (Complete d.types → (∃ path, error = .cycle path) ∧ ∃ path, error' = .cycle path)) := by
  refine ⟨⟨finalize_ok_of_perm h.symm, finalize_ok_of_perm h⟩, fun s s' hs hs' => ?_,
    fun error hd => ?_⟩
  · exact ((types_perm_of_finalize hs).trans h).trans (types_perm_of_finalize hs').symm
  · have hbreaks : error.Breaks d.types := resolveOrder_error_breaks (finalize_error_iff.1 hd)
    obtain ⟨error', he, hbreaks', hkind⟩ := finalize_error_of_perm h.symm hd
    refine ⟨error', he, hkind, fun href => ⟨fun ha => ?_, fun hc => ?_⟩⟩
    · exact ⟨hbreaks.dangling href ha, hbreaks'.dangling (hkind.trans href) (ha.of_perm h.symm)⟩
    · exact ⟨hbreaks.cycle href hc, hbreaks'.cycle (hkind.trans href) (hc.of_perm h.symm)⟩

/-- A loop beside a sound type, and two dangling references without a loop, each backwards too. -/
theorem finalize_perm_backwards :
    let a : TypeDef := ⟨⟨"A", "B", none⟩, .synonym⟩
    let b : TypeDef := ⟨⟨"B", "Array", none⟩, .array "A"⟩
    let c : TypeDef := ⟨⟨"C", "String", none⟩, .synonym⟩
    let loop : Draft := Draft.build "loop" [.type a, .type b, .type c]
    let f : TypeDef := ⟨⟨"F", "Gone", none⟩, .synonym⟩
    let g : TypeDef := ⟨⟨"G", "Map", none⟩, .map "String" "Lost"⟩
    let gap : Draft := Draft.build "gap" [.type f, .type g]
    (Complete loop.types ∧ loop.finalize = .error (.cycle ["A", "B", "A"]) ∧
      ∃ path, loop.reverse.finalize = .error (.cycle path)) ∧
    Acyclic gap.types ∧ gap.finalize = .error (.danglingReference "F" "Gone") ∧
      ∃ referrer reference,
        gap.reverse.finalize = .error (.danglingReference referrer reference) := by
  intro a b c loop f g gap
  have hloop : loop.finalize = .error (.cycle ["A", "B", "A"]) := rfl
  have hgap : gap.finalize = .error (.danglingReference "F" "Gone") := rfl
  have hcomplete : Complete loop.types := by
    unfold Complete Declared
    decide
  have hnone : ∀ t ∈ gap.types, ∀ r ∈ t.references, ¬ Declared gap.types r := by
    unfold Declared
    decide
  have hacyclic : Acyclic gap.types := by
    intro t _ hself
    obtain ⟨r, ⟨⟨u, hu, _, hr⟩, hd, _⟩, _⟩ := Relation.TransGen.head'_iff.1 hself
    exact hnone u hu r hr hd
  obtain ⟨error, he, _, hkind⟩ :=
    (finalize_perm (d := loop) (e := loop.reverse) (List.reverse_perm _).symm).2.2 _ hloop
  obtain ⟨_, path, rfl⟩ := (hkind rfl).2 hcomplete
  obtain ⟨error, he', _, hkind'⟩ :=
    (finalize_perm (d := gap) (e := gap.reverse) (List.reverse_perm _).symm).2.2 _ hgap
  obtain ⟨_, referrer, reference, rfl⟩ := (hkind' rfl).1 hacyclic
  exact ⟨⟨hcomplete, hloop, path, he⟩, hacyclic, hgap, referrer, reference, he'⟩

end InterfaceSchema
