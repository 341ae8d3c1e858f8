import InterfaceSchema.Proofs.Equality
import InterfaceSchema.Schema

/-!
# Equality is an equivalence

Numbers with several words for one value, literals, tables: where equality is not identity, it is
still reflexive, symmetric and transitive, and so is the equality of everything that is made of
them.

* `equivBEq_of_view`: what is compared by a view of it is compared as the views are;
* `Literal.same_symm`, `Literal.same_trans`: the laws for literals, by induction over their parts;
* `TypeBody.beq_iff`: equal bodies are the same but for their bounds or their fields;
* `equivalence_sameResult`: the laws for what finalizing gives.
-/

namespace InterfaceSchema

/-! ## 1. Equality by parts -/

section Lists

variable {α : Type} {R : α → α → Prop} {as bs : List α}

theorem forall₂_symm (h : ∀ a ∈ as, ∀ b, R a b → R b a) (hab : List.Forall₂ R as bs) :
    List.Forall₂ R bs as :=
  (((List.forall₂_and_left as bs).2 ⟨h, hab⟩).imp fun _ b ⟨hsymm, hr⟩ => hsymm b hr).flip

theorem forall₂_trans : ∀ {as bs cs : List α}, (∀ a ∈ as, ∀ b c, R a b → R b c → R a c) →
    List.Forall₂ R as bs → List.Forall₂ R bs cs → List.Forall₂ R as cs
  | [], _, _, _, .nil, .nil => .nil
  | a :: _, _, _, h, .cons hab habs, .cons hbc hbcs =>
    .cons (h a List.mem_cons_self _ _ hab hbc)
      (forall₂_trans (fun x hx => h x (List.mem_cons_of_mem a hx)) habs hbcs)

theorem beq_iff_forall₂ [BEq α] : ∀ {as bs : List α},
    (as == bs) = true ↔ List.Forall₂ (fun a b => (a == b) = true) as bs
  | [], [] => by simp
  | [], b :: bs => by simp
  | a :: as, [] => by simp
  | a :: as, b :: bs => by
    rw [List.cons_beq_cons, Bool.and_eq_true, List.forall₂_cons, beq_iff_forall₂]

end Lists

section Parts

variable {α β : Type} [BEq α] [BEq β]

/-- What is compared by a view of it is compared as the views are. -/
theorem equivBEq_of_view [EquivBEq β] (view : α → β) (h : ∀ a b, (a == b) = (view a == view b)) :
    EquivBEq α where
  rfl {a} := by
    rw [h]
    exact BEq.rfl
  symm hab := by
    rw [h] at hab ⊢
    exact BEq.symm hab
  trans hab hbc := by
    rw [h] at hab hbc ⊢
    exact BEq.trans hab hbc

variable [EquivBEq α]

theorem equivalence_beq : Equivalence fun a b : α => (a == b) = true :=
  ⟨fun _ => BEq.rfl, BEq.symm, BEq.trans⟩

instance equivBEq_list : EquivBEq (List α) where
  symm h := beq_iff_forall₂.2 (forall₂_symm (fun _ _ _ => BEq.symm) (beq_iff_forall₂.1 h))
  trans h h' := beq_iff_forall₂.2
    (forall₂_trans (fun _ _ _ _ => BEq.trans) (beq_iff_forall₂.1 h) (beq_iff_forall₂.1 h'))

instance equivBEq_option : EquivBEq (Option α) :=
  equivBEq_of_view Option.toList fun a b => by cases a <;> cases b <;> simp

instance equivBEq_prod [EquivBEq β] : EquivBEq (α × β) where
  rfl := Bool.and_eq_true_iff.2 ⟨BEq.rfl, BEq.rfl⟩
  symm hab := by
    obtain ⟨h1, h2⟩ := Bool.and_eq_true_iff.1 hab
    exact Bool.and_eq_true_iff.2 ⟨BEq.symm h1, BEq.symm h2⟩
  trans hab hbc := by
    obtain ⟨h1, h2⟩ := Bool.and_eq_true_iff.1 hab
    obtain ⟨h3, h4⟩ := Bool.and_eq_true_iff.1 hbc
    exact Bool.and_eq_true_iff.2 ⟨BEq.trans h1 h3, BEq.trans h2 h4⟩

end Parts

/-! ## 2. Numbers, literals and tables -/

/-- What equal numbers have in common: the width, and a word that stands for the value. -/
def Number.standard : Number → BaseType × Nat
  | int8 value => (.int8, value.toBitVec.toNat)
  | int16 value => (.int16, value.toBitVec.toNat)
  | int32 value => (.int32, value.toBitVec.toNat)
  | int64 value => (.int64, value.toBitVec.toNat)
  | float32 word => (.float32, BinaryFormat.binary32.canonical word.toNat)
  | float64 word => (.float64, BinaryFormat.binary64.canonical word.toNat)

theorem Number.beq_iff (a b : Number) : (a == b) = true ↔ a.standard = b.standard := by
  have h32 : 0 < BinaryFormat.binary32.fractionBits := by decide
  have h64 : 0 < BinaryFormat.binary64.fractionBits := by decide
  cases a <;> cases b <;>
    simp [BEq.beq, same, standard, BinaryFormat.same_iff, h32, h64, BitVec.toNat_inj,
      Int8.toBitVec_inj, Int16.toBitVec_inj, Int32.toBitVec_inj, Int64.toBitVec_inj]

instance : EquivBEq Number :=
  equivBEq_of_view Number.standard fun a b => by rw [Bool.eq_iff_iff, Number.beq_iff, beq_iff_eq]

namespace Literal

/-- What equals a literal: a number of its value, a list or record of equal parts, or itself. -/
theorem same_iff (a b : Literal) : a.same b = true ↔ match a with
    | .decimal v => ∃ w, b = .decimal w ∧ BinaryFormat.binary64.same v.toNat w.toNat = true
    | .list as => ∃ bs, b = .list bs ∧ List.Forall₂ (fun x y => x.same y = true) as bs
    | .record as => ∃ bs, b = .record bs ∧ same (.record as) (.record bs) = true
    | leaf => leaf = b := by
  cases a <;> cases b <;> simp [same, sameItems_iff]

theorem same_symm (a : Literal) : ∀ b, a.same b = true → b.same a = true := by
  induction a with
  | null | bool | integer | text =>
    intro b h
    obtain rfl := (same_iff _ b).1 h
    exact same_refl _
  | decimal v =>
    intro b h
    obtain ⟨w, rfl, hw⟩ := (same_iff _ b).1 h
    exact (BinaryFormat.same_comm _ _ _).trans hw
  | list items ih =>
    intro b h
    obtain ⟨bs, rfl, hbs⟩ := (same_iff _ b).1 h
    exact (same_iff _ _).2 ⟨items, rfl, forall₂_symm ih hbs⟩
  | record members ih =>
    intro b h
    obtain ⟨bs, rfl, hbs⟩ := (same_iff _ b).1 h
    obtain ⟨hto, hfrom⟩ := (same_record_iff members bs).1 hbs
    refine (same_record_iff bs members).2 ⟨fun name w hw => ?_, fun name v hv => ?_⟩
    · obtain ⟨v, hv⟩ := hfrom name w hw
      obtain ⟨w', hw', hsame⟩ := hto name v hv
      obtain rfl : w' = w := Option.some.inj (hw'.symm.trans hw)
      exact ⟨v, hv, ih (name, v) (Entries.mem_of_lookup hv) w' hsame⟩
    · obtain ⟨w, hw, _⟩ := hto name v hv
      exact ⟨w, hw⟩

theorem same_trans (a : Literal) : ∀ b c, a.same b = true → b.same c = true → a.same c = true := by
  induction a with
  | null | bool | integer | text =>
    intro b c hab hbc
    obtain rfl := (same_iff _ b).1 hab
    exact hbc
  | decimal v =>
    intro b c hab hbc
    obtain ⟨w, rfl, hw⟩ := (same_iff _ b).1 hab
    obtain ⟨x, rfl, hx⟩ := (same_iff _ c).1 hbc
    exact BinaryFormat.same_trans _ hw hx
  | list items ih =>
    intro b c hab hbc
    obtain ⟨bs, rfl, hbs⟩ := (same_iff _ b).1 hab
    obtain ⟨cs, rfl, hcs⟩ := (same_iff _ c).1 hbc
    exact (same_iff _ _).2 ⟨cs, rfl, forall₂_trans ih hbs hcs⟩
  | record members ih =>
    intro b c hab hbc
    obtain ⟨bs, rfl, hbs⟩ := (same_iff _ b).1 hab
    obtain ⟨cs, rfl, hcs⟩ := (same_iff _ c).1 hbc
    obtain ⟨hto, hfrom⟩ := (same_record_iff members bs).1 hbs
    obtain ⟨hto', hfrom'⟩ := (same_record_iff bs cs).1 hcs
    refine (same_record_iff members cs).2 ⟨fun name v hv => ?_, fun name x hx => ?_⟩
    · obtain ⟨w, hw, hvw⟩ := hto name v hv
      obtain ⟨x, hx, hwx⟩ := hto' name w hw
      exact ⟨x, hx, ih (name, v) (Entries.mem_of_lookup hv) w x hvw hwx⟩
    · obtain ⟨w, hw⟩ := hfrom' name x hx
      exact hfrom name w hw

instance : EquivBEq Literal where
  symm h := same_symm _ _ h
  trans h h' := same_trans _ _ _ h h'

end Literal

instance {α : Type} [BEq α] [LawfulBEq α] : EquivBEq (Table α) where
  rfl := (Table.beq_iff _ _).2 fun _ => rfl
  symm h := (Table.beq_iff _ _).2 fun name => ((Table.beq_iff _ _).1 h name).symm
  trans h h' := (Table.beq_iff _ _).2 fun name =>
    ((Table.beq_iff _ _).1 h name).trans ((Table.beq_iff _ _).1 h' name)

/-! ## 3. Descriptions -/

instance : EquivBEq Field :=
  equivBEq_of_view (fun f => (f.name, f.kind, f.optional, f.defaultValue, f.comment)) fun _ _ => rfl

instance : EquivBEq NumberBounds :=
  equivBEq_of_view (fun b => (b.min, b.max)) fun _ _ => rfl

namespace TypeBody

/-- Equal bodies are the same but for their bounds or their fields. -/
theorem beq_iff (a b : TypeBody) : (a == b) = true ↔ match a with
    | .number x => ∃ y, b = .number y ∧ (x == y) = true
    | .struct fs => ∃ gs, b = .struct gs ∧ (fs == gs) = true
    | other => other = b := by
  show instBEqTypeBody.beq a b = true ↔ _
  cases a <;> cases b <;> simp [instBEqTypeBody.beq]

instance : EquivBEq TypeBody where
  rfl {a} := by
    rw [beq_iff]
    cases a with
    | number x => exact ⟨x, rfl, BEq.rfl⟩
    | struct fs => exact ⟨fs, rfl, BEq.rfl⟩
    | _ => rfl
  symm {a b} h := by
    rw [beq_iff] at h
    cases a with
    | number x =>
      obtain ⟨y, rfl, hxy⟩ := h
      exact (beq_iff _ _).2 ⟨x, rfl, BEq.symm hxy⟩
    | struct fs =>
      obtain ⟨gs, rfl, hfg⟩ := h
      exact (beq_iff _ _).2 ⟨fs, rfl, BEq.symm hfg⟩
    | _ =>
      obtain rfl := h
      exact (beq_iff _ _).2 rfl
  trans {a b c} h h' := by
    rw [beq_iff] at h
    cases a with
    | number x =>
      obtain ⟨y, rfl, hxy⟩ := h
      obtain ⟨z, rfl, hyz⟩ := (beq_iff _ _).1 h'
      exact (beq_iff _ _).2 ⟨z, rfl, BEq.trans hxy hyz⟩
    | struct fs =>
      obtain ⟨gs, rfl, hfg⟩ := h
      obtain ⟨hs, rfl, hgh⟩ := (beq_iff _ _).1 h'
      exact (beq_iff _ _).2 ⟨hs, rfl, BEq.trans hfg hgh⟩
    | _ =>
      obtain rfl := h
      exact h'

end TypeBody

instance : EquivBEq TypeDef :=
  equivBEq_of_view (fun t => (t.info, t.body)) fun _ _ => rfl

instance : EquivBEq ResourceInput :=
  equivBEq_of_view (fun i => (i.name, i.typeName, i.pathParam, i.queryParam, i.header, i.optional,
    i.defaultValue, i.comment)) fun _ _ => rfl

instance : EquivBEq Resource :=
  equivBEq_of_view (fun r => (r.typeName, r.method, r.path, r.name, r.comment, r.inputs, r.outputs,
    r.auth, r.expected, r.exceptions)) fun _ _ => rfl

instance : EquivBEq Schema :=
  equivBEq_of_view (fun s => (s.header, s.types, s.resources)) fun _ _ => rfl

/-- Results of finalizing are equal when both are schemas and these are equal, or both are errors
    and these are the same. -/
theorem sameResult_iff (x y : Except SchemaError Schema) : sameResult x y = true ↔ match x with
    | .ok s => ∃ s', y = .ok s' ∧ (s == s') = true
    | .error e => .error e = y := by
  cases x <;> cases y <;> simp [sameResult]

theorem equivalence_sameResult : Equivalence fun x y => sameResult x y = true where
  refl x := by
    cases x with
    | ok s => exact BEq.refl s
    | error e => exact BEq.refl e
  symm {x y} h := by
    rw [sameResult_iff] at h
    cases x with
    | ok s =>
      obtain ⟨s', rfl, hs⟩ := h
      exact BEq.symm hs
    | error e =>
      obtain rfl := h
      exact BEq.refl e
  trans {x y z} h h' := by
    rw [sameResult_iff] at h
    cases x with
    | ok s =>
      obtain ⟨s', rfl, hs⟩ := h
      obtain ⟨s'', rfl, hs'⟩ := (sameResult_iff _ _).1 h'
      exact BEq.trans hs hs'
    | error e =>
      obtain rfl := h
      exact h'

end InterfaceSchema
