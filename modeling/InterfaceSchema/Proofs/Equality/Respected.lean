import InterfaceSchema.Number.Hashing
import InterfaceSchema.Proofs.Equality.Equivalence
import InterfaceSchema.Proofs.Resolution.Dependencies

/-!
# What equal types have in common

Equal types may differ in the words of their bounds and in the order of the members of a default.
Neither shows in what is read off a type: its name, its kind and the names it refers to. So a list
of types is resolved as any list equal to it.

Equal numbers feed the same to a hasher. The converse is as good as what the floats feed: numbers
that feed the same are equal, or they are floats of one width that collide.

* `Number.Collide`, `Number.fed_eq_iff`: which numbers feed the same;
* `TypeDef.beq_iff`, `TypeDef.kind_of_beq`, `TypeDef.references_of_beq`: equal types, read;
* `resolveOrder_of_beq`: equal lists have one answer;
* `equality_respected`: equality of every kind of description is an equivalence, and nothing that
  is read off types tells equal ones apart.
-/

namespace InterfaceSchema

/-! ## 1. Hashing equal numbers -/

section Hashing

variable {Fed : Type} {floats : FloatHash Fed} {a b : Number}

/-- Two floats of one width that are not equal, and yet feed the same. -/
def Number.Collide (floats : FloatHash Fed) (a b : Number) : Prop :=
  (a == b) = false ∧
    ((∃ u v, a = .float32 u ∧ b = .float32 v ∧ floats.binary32 u = floats.binary32 v) ∨
      ∃ u v, a = .float64 u ∧ b = .float64 v ∧ floats.binary64 u = floats.binary64 v)

/-- What equals a number: itself, or a float that stands for the same. -/
theorem Number.beq_iff_match (a b : Number) : (a == b) = true ↔ match a with
    | .float32 u => ∃ v, b = .float32 v ∧ BinaryFormat.binary32.same u.toNat v.toNat = true
    | .float64 u => ∃ v, b = .float64 v ∧ BinaryFormat.binary64.same u.toNat v.toNat = true
    | whole => whole = b := by
  cases a <;> cases b <;> simp [BEq.beq, same]

/-- What feeds the same as a number: itself, or a float of its width that feeds the same. -/
theorem Number.fed_eq_iff_match (a b : Number) : a.fed floats = b.fed floats ↔ match a with
    | .float32 u => ∃ v, b = .float32 v ∧ floats.binary32 u = floats.binary32 v
    | .float64 u => ∃ v, b = .float64 v ∧ floats.binary64 u = floats.binary64 v
    | whole => whole = b := by
  cases a <;> cases b <;> simp [fed, Int8.toInt_inj, Int16.toInt_inj, Int32.toInt_inj,
    Int64.toInt_inj]

theorem Number.fed_eq_of_beq (hfloats : floats.Respects) (h : (a == b) = true) :
    a.fed floats = b.fed floats := by
  rw [beq_iff_match] at h
  rw [fed_eq_iff_match]
  cases a with
  | float32 u =>
    obtain ⟨v, rfl, hsame⟩ := h
    exact ⟨v, rfl, hfloats.binary32 u v hsame⟩
  | float64 u =>
    obtain ⟨v, rfl, hsame⟩ := h
    exact ⟨v, rfl, hfloats.binary64 u v hsame⟩
  | _ => exact h

/-- **Which numbers feed the same**: those that are equal, and floats that collide. -/
theorem Number.fed_eq_iff (hfloats : floats.Respects) :
    a.fed floats = b.fed floats ↔ (a == b) = true ∨ Number.Collide floats a b := by
  constructor
  · intro h
    cases hequal : a == b with
    | true => exact Or.inl rfl
    | false =>
      refine Or.inr ⟨hequal, ?_⟩
      rw [fed_eq_iff_match] at h
      cases a with
      | float32 u =>
        obtain ⟨v, rfl, huv⟩ := h
        exact Or.inl ⟨u, v, rfl, rfl, huv⟩
      | float64 u =>
        obtain ⟨v, rfl, huv⟩ := h
        exact Or.inr ⟨u, v, rfl, rfl, huv⟩
      | _ =>
        -- an integer that is fed the same is the same number
        obtain rfl := h
        rw [BEq.rfl] at hequal
        cases hequal
  · rintro (h | ⟨_, ⟨u, v, rfl, rfl, huv⟩ | ⟨u, v, rfl, rfl, huv⟩⟩)
    · exact fed_eq_of_beq hfloats h
    · exact (fed_eq_iff_match _ _).2 ⟨v, rfl, huv⟩
    · exact (fed_eq_iff_match _ _).2 ⟨v, rfl, huv⟩

end Hashing

/-! ## 2. Reading equal types -/

theorem map_eq_of_forall₂ {α β : Type} {R : α → α → Prop} {f : α → β} {as bs : List α}
    (hf : ∀ a b, R a b → f a = f b) (h : List.Forall₂ R as bs) : as.map f = bs.map f := by
  rw [← List.forall₂_eq_eq_eq, List.forall₂_map_left_iff, List.forall₂_map_right_iff]
  exact h.imp hf

theorem Field.references_of_beq (f g : Field) (h : (f == g) = true) :
    f.references = g.references := by
  have hparts : instBEqField.beq f g = true := h
  simp only [instBEqField.beq, Bool.and_eq_true, beq_iff_eq] at hparts
  obtain ⟨_, hkind, _⟩ := hparts
  unfold references
  rw [hkind]

theorem NumberBounds.baseType_of_beq {a b : NumberBounds} (h : (a == b) = true) :
    a.min.map Number.baseType = b.min.map Number.baseType ∧
      a.max.map Number.baseType = b.max.map Number.baseType := by
  have hbound : ∀ m n : Option Number, (m == n) = true →
      m.map Number.baseType = n.map Number.baseType := by
    rintro (_ | m) (_ | n) hmn
    · rfl
    · cases hmn
    · cases hmn
    · exact congrArg some (Number.baseType_eq_of_beq hmn)
  have hparts : instBEqNumberBounds.beq a b = true := h
  simp only [instBEqNumberBounds.beq, Bool.and_eq_true] at hparts
  exact ⟨hbound _ _ hparts.1, hbound _ _ hparts.2⟩

namespace TypeDef

theorem beq_iff (t u : TypeDef) :
    (t == u) = true ↔ t.info = u.info ∧ (t.body == u.body) = true := by
  show instBEqTypeDef.beq t u = true ↔ _
  simp [instBEqTypeDef.beq]

/-- The kind of a bounded number: its supertype if that is a scalar, else the width of a bound. -/
theorem kind_number (info : TypeInfo) (b : NumberBounds) : kind ⟨info, .number b⟩ =
    (((BaseType.ofName? info.supertype).filter (·.isPrimitive)).or
      ((b.min.map Number.baseType).or (b.max.map Number.baseType))).getD .any := by
  unfold kind supertype
  cases (BaseType.ofName? info.supertype).filter (·.isPrimitive) with
  | some base => rfl
  | none =>
    obtain ⟨min, max⟩ := b
    cases min <;> cases max <;> rfl

variable {t u : TypeDef}

theorem name_of_beq (h : (t == u) = true) : t.name = u.name :=
  congrArg TypeInfo.name ((beq_iff t u).1 h).1

theorem kind_of_beq (h : (t == u) = true) : t.kind = u.kind := by
  obtain ⟨info, body⟩ := t
  obtain ⟨info', body'⟩ := u
  obtain ⟨rfl, hbody⟩ := (beq_iff _ _).1 h
  rw [TypeBody.beq_iff] at hbody
  cases body with
  | number a =>
    obtain ⟨b, rfl, hab⟩ := hbody
    obtain ⟨hmin, hmax⟩ := NumberBounds.baseType_of_beq hab
    rw [kind_number, kind_number, hmin, hmax]
  | struct fs =>
    obtain ⟨gs, rfl, _⟩ := hbody
    rfl
  | _ =>
    obtain rfl := hbody
    rfl

theorem references_of_beq (h : (t == u) = true) : t.references = u.references := by
  obtain ⟨info, body⟩ := t
  obtain ⟨info', body'⟩ := u
  obtain ⟨rfl, hbody⟩ := (beq_iff _ _).1 h
  rw [TypeBody.beq_iff] at hbody
  cases body with
  | number a =>
    obtain ⟨b, rfl, _⟩ := hbody
    rfl
  | struct fs =>
    obtain ⟨gs, rfl, hfg⟩ := hbody
    have hmap : fs.map (·.references) = gs.map (·.references) :=
      map_eq_of_forall₂ Field.references_of_beq (beq_iff_forall₂.1 hfg)
    show info.supertype :: fs.flatMap (·.references) = info.supertype :: gs.flatMap (·.references)
    rw [List.flatMap_def, List.flatMap_def, hmap]
  | _ =>
    obtain rfl := hbody
    rfl

theorem dependencies_of_beq (h : (t == u) = true) : t.dependencies = u.dependencies := by
  unfold dependencies
  rw [references_of_beq h]

theorem skeleton_of_beq (h : (t == u) = true) : t.skeleton = u.skeleton := by
  unfold skeleton
  rw [name_of_beq h, dependencies_of_beq h]

end TypeDef

/-! ## 3. Equal lists of types -/

variable {types types' : List TypeDef}

/-- **Equal lists of types have one answer**: the same order or the same error. -/
theorem resolveOrder_of_beq (h : List.Forall₂ (fun t u => (t == u) = true) types types') :
    resolveOrder types = resolveOrder types' := by
  have hsame : types.map TypeDef.skeleton = types'.map TypeDef.skeleton :=
    map_eq_of_forall₂ (fun _ _ => TypeDef.skeleton_of_beq) h
  unfold resolveOrder
  rw [← resolve_skeleton types, hsame, resolve_skeleton]

/-- **Equality is an equivalence, and what is read off types respects it.** It is one for numbers,
    fields, types, resources and results of finalizing, whatever words a bound has, and in whatever
    order the members of a default or the exceptions of a resource stand. Equal numbers feed the
    same to a hasher, and numbers that feed the same are equal unless they are floats of one width
    that collide; numbers of different widths are never equal. Types that are equal one by one have
    the same names, kinds, references and dependencies, and are resolved alike. -/
theorem equality_respected {Fed : Type} (floats : FloatHash Fed) (hfloats : floats.Respects) :
    (Equivalence fun a b : Number => (a == b) = true) ∧
    (Equivalence fun f g : Field => (f == g) = true) ∧
    (Equivalence fun t u : TypeDef => (t == u) = true) ∧
    (Equivalence fun r s : Resource => (r == s) = true) ∧
    (Equivalence fun x y : Except SchemaError Schema => sameResult x y = true) ∧
    (∀ a b : Number, a.fed floats = b.fed floats ↔
      (a == b) = true ∨ Number.Collide floats a b) ∧
    (∀ a b : Number, a.baseType ≠ b.baseType → (a == b) = false) ∧
    ∀ types types' : List TypeDef, List.Forall₂ (fun t u => (t == u) = true) types types' →
      types.map (·.name) = types'.map (·.name) ∧
      types.map (·.kind) = types'.map (·.kind) ∧
      types.map (·.references) = types'.map (·.references) ∧
      types.map (·.dependencies) = types'.map (·.dependencies) ∧
      resolveOrder types = resolveOrder types' := by
  refine ⟨equivalence_beq, equivalence_beq, equivalence_beq, equivalence_beq,
    equivalence_sameResult, fun a b => Number.fed_eq_iff hfloats, fun a b hwidth => ?_,
    fun types types' h => ⟨?_, ?_, ?_, ?_, resolveOrder_of_beq h⟩⟩
  · rw [Bool.eq_false_iff]
    exact fun h => hwidth (Number.baseType_eq_of_beq h)
  · exact map_eq_of_forall₂ (fun _ _ => TypeDef.name_of_beq) h
  · exact map_eq_of_forall₂ (fun _ _ => TypeDef.kind_of_beq) h
  · exact map_eq_of_forall₂ (fun _ _ => TypeDef.references_of_beq) h
  · exact map_eq_of_forall₂ (fun _ _ => TypeDef.dependencies_of_beq) h

/-- No number and `-1.5 * 2^51` are not equal. Packed they feed the same: the exponent of the second
    is all ones without its leading bits, and no sign is packed for it. -/
theorem fed_packed_nan :
    let nan : Number := .float64 0x7ff8000000000000
    let large : Number := .float64 0xc328000000000000
    FloatHash.packed.Respects ∧ nan.fed .packed = large.fed .packed ∧ (nan == large) = false :=
  ⟨FloatHash.respects_packed, by decide +kernel, by decide +kernel⟩

/-- Bounds without a number in two words and zeros of both signs; the members of a default and of a
    record in it, in two orders. -/
theorem equality_respected_rearranged :
    let inner : Literal := .record [("x", .null), ("y", .decimal 0x8000000000000000)]
    let inner' : Literal := .record [("y", .decimal 0), ("x", .null)]
    let types : List TypeDef :=
      [⟨⟨"Ratio", "Share", none⟩, .number ⟨some (.float64 0x7ff8000000000001), some (.float32 0)⟩⟩,
        ⟨⟨"Share", "Struct", none⟩, .struct [.build "of" (.named "String")
          [.defaultValue (.record [("a", .integer 1), ("b", inner)])]]⟩]
    let types' : List TypeDef :=
      [⟨⟨"Ratio", "Share", none⟩,
          .number ⟨some (.float64 0xfff8000000000000), some (.float32 0x80000000)⟩⟩,
        ⟨⟨"Share", "Struct", none⟩, .struct [.build "of" (.named "String")
          [.defaultValue (.record [("b", inner'), ("a", .integer 1)])]]⟩]
    List.Forall₂ (fun t u => (t == u) = true) types types' ∧
      types.map (·.kind) = types'.map (·.kind) ∧
      (Number.float64 0x7ff8000000000001).fed .packed =
        (Number.float64 0xfff8000000000000).fed .packed ∧
      resolveOrder types' = .ok [1, 0] ∧ resolveOrder types = .ok [1, 0] := by
  intro inner inner' types types'
  have hequal : List.Forall₂ (fun t u => (t == u) = true) types types' :=
    .cons (by decide) (.cons (by decide) .nil)
  obtain ⟨_, _, _, _, _, hfed, _, hlists⟩ :=
    equality_respected FloatHash.packed FloatHash.respects_packed
  obtain ⟨_, hkind, _, _, horder⟩ := hlists types types' hequal
  exact ⟨hequal, hkind, (hfed _ _).2 (Or.inl (by decide)), rfl, horder⟩

end InterfaceSchema
