import InterfaceSchema.Proofs.Resolution.InOrder
import InterfaceSchema.Proofs.Resolution.Verdict
import InterfaceSchema.Proofs.Schema.Finalize

/-!
# Finalizing twice

A finished schema has its types in order, and a list in order is what the order of resolution keeps
as it is. So a schema that is declared once more and finalized again comes out the same
(`resolveOrder_eq_range_iff_finalize_again`).
-/

namespace InterfaceSchema

variable {types : List TypeDef} {order : List Nat} {d : Draft} {s : Schema}

/-- **The types of a settled order that leaves out nothing are in order.** -/
theorem Settled.inOrder_arrange (hs : Settled types order) : InOrder (arrange types order) := by
  intro i t ht r hr
  rw [getElem?_arrange hs.lt] at ht
  obtain ⟨p, hp, ht⟩ := Option.bind_eq_some_iff.1 ht
  rcases hs.reference_earlier i p t hp ht r hr with hb | ⟨j, hj, q, hq, u, hu, hname⟩
  · exact Or.inl hb
  · refine Or.inr ⟨j, hj, u, ?_, hname⟩
    rw [getElem?_arrange hs.lt, hq]
    exact hu

/-- The types of a finished schema are well-named and in order. -/
theorem inOrder_of_finalize (h : d.finalize = .ok s) : WellNamed s.types ∧ InOrder s.types := by
  have hperm := types_perm_of_finalize h
  obtain ⟨order, horder, rfl⟩ := finalize_ok_iff.1 h
  obtain ⟨hn, hs, _⟩ := settled_of_resolveOrder horder
  exact ⟨hn.of_perm hperm, hs.inOrder_arrange⟩

/-- A draft whose types are in order is finished with its types as they are. -/
theorem finalize_of_inOrder (hn : WellNamed d.types) (ho : InOrder d.types) :
    d.finalize = .ok ⟨d.header, d.types, d.resources⟩ := by
  refine finalize_ok_iff.2 ⟨List.range d.types.length, resolveOrder_of_inOrder hn ho, ?_⟩
  rw [arrange_range]

/-- **The lists that resolution keeps are the well-named ones in which each type refers only to base
    types and to types before it; and what is finished is kept**: a draft in which the types of a
    finished schema are declared in their order, among whatever else, is finished with these types
    in this order. -/
theorem resolveOrder_eq_range_iff_finalize_again :
    (∀ types : List TypeDef, resolveOrder types = .ok (List.range types.length) ↔
      (types.map (·.name)).Nodup ∧ (∀ t ∈ types, isBaseName t.name = false) ∧
      ∀ (i : Nat) (t : TypeDef), types[i]? = some t → ∀ r ∈ t.references,
        isBaseName r = true ∨ ∃ j < i, ∃ u, types[j]? = some u ∧ u.name = r) ∧
    ∀ (d : Draft) (s : Schema), d.finalize = .ok s → s.redraft.finalize = .ok s ∧
      ∀ (name : String) (calls : List Draft.Call), calls.filterMap Draft.Call.type? = s.types →
        ∃ again, (Draft.build name calls).finalize = .ok again ∧ again.types = s.types := by
  refine ⟨fun types => ⟨fun h => ?_, fun h => ?_⟩, fun d s h => ?_⟩
  · obtain ⟨hn, ho⟩ := inOrder_of_resolveOrder h
    exact ⟨hn.nodup, hn.notBase, ho⟩
  · obtain ⟨hnodup, hbase, ho⟩ := h
    exact resolveOrder_of_inOrder ⟨hbase, hnodup⟩ ho
  · obtain ⟨hn, ho⟩ := inOrder_of_finalize h
    refine ⟨finalize_of_inOrder (d := s.redraft) hn ho, fun name calls hcalls => ?_⟩
    have htypes : (Draft.build name calls).types = s.types :=
      (Draft.types_build name calls).trans hcalls
    rw [← htypes] at hn ho
    exact ⟨_, finalize_of_inOrder hn ho, htypes⟩

/-- `Line` is declared before the `Point` it needs; the finished schema has them the other way
    round, and keeps them so under another header and between other declarations. -/
theorem resolveOrder_eq_range_iff_finalize_again_line :
    let line : TypeDef := ⟨⟨"Line", "Struct", none⟩, .struct [.new "ends" (.array "Point")]⟩
    let point : TypeDef := ⟨⟨"Point", "Struct", none⟩, .struct [.new "x" (.named "Int32")]⟩
    let d : Draft := Draft.build "geometry" [.type line, .type point]
    let s : Schema := ⟨d.header, [point, line], []⟩
    d.finalize = .ok s ∧ s.redraft.finalize = .ok s ∧
      ∃ again, (Draft.build "copy" [.version 2, .type point, .comment "again", .type line]).finalize
        = .ok again ∧ again.types = [point, line] := by
  intro line point d s
  have h : d.finalize = .ok s := rfl
  obtain ⟨hsame, hagain⟩ := resolveOrder_eq_range_iff_finalize_again.2 d s h
  exact ⟨h, hsame, hagain "copy" [.version 2, .type point, .comment "again", .type line] rfl⟩

end InterfaceSchema
