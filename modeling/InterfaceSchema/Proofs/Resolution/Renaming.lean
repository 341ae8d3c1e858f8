import InterfaceSchema.Proofs.Folds
import InterfaceSchema.Resolution
import Mathlib.Data.List.Basic
import Mathlib.Logic.Equiv.Basic

/-!
# Names are opaque

Nothing depends on what a name looks like. Where all names of a list are replaced by others, so that
different names stay different and the names of base types stay what they are, the walk goes the
same way: it emits the same positions, or it stops at the same error under the new names.

* `Renaming`: the replacements that are meant;
* `TypeDef.references_rename`, `positionOf?_rename`: the references of a type and the look-up of a
  declaration follow the names;
* `Renamed`: two walks that stand at the same place under the two sets of names (`Renamed.enter`,
  `Renamed.emit`, `Renamed.loopAt`);
* `visit_renamed`: visits keep them so, from whatever walks they start;
* `resolveOrder_rename`: the answers are the same up to the names.
-/

namespace InterfaceSchema

variable {ρ : String → String} {types : List TypeDef} {w w' : Walk} {name : String}

/-! ## 1. New names -/

/-- Different names stay different, and the names of base types stay what they are. -/
structure Renaming (ρ : String → String) : Prop where
  injective : Function.Injective ρ
  base : ∀ b : BaseType, ρ b.name = b.name

/-- The kind of a field under new names. -/
def FieldKind.rename (ρ : String → String) : FieldKind → FieldKind
  | .named typeName => .named (ρ typeName)
  | .array items => .array (ρ items)
  | .map keys items => .map (ρ keys) (ρ items)

/-- The field, of new types under its old name. -/
def Field.rename (ρ : String → String) (field : Field) : Field :=
  { field with kind := field.kind.rename ρ }

/-- The shape under new names. -/
def TypeBody.rename (ρ : String → String) : TypeBody → TypeBody
  | .synonym => .synonym
  | .string constraints => .string constraints
  | .number bounds => .number bounds
  | .struct fields => .struct (fields.map (Field.rename ρ))
  | .array items => .array (ρ items)
  | .map keys items => .map (ρ keys) (ρ items)
  | .enum elements => .enum elements
  | .union variants => .union (variants.map ρ)

/-- The type under new names: its own, its supertype's and those its shape refers to. -/
def TypeDef.rename (ρ : String → String) (t : TypeDef) : TypeDef where
  info := { t.info with name := ρ t.name, supertype := ρ t.supertype }
  body := t.body.rename ρ

/-- The error under new names. -/
def SchemaError.rename (ρ : String → String) : SchemaError → SchemaError
  | danglingReference referrer reference => .danglingReference (ρ referrer) (ρ reference)
  | duplicateType name => .duplicateType (ρ name)
  | cycle path => .cycle (path.map ρ)
  | reservedName name => .reservedName (ρ name)

/-! ## 2. Declarations under new names -/

@[simp] theorem TypeDef.name_rename (ρ : String → String) (t : TypeDef) :
    (t.rename ρ).name = ρ t.name := rfl

theorem Field.references_rename (ρ : String → String) (field : Field) :
    (field.rename ρ).references = field.references.map ρ := by
  show (field.kind.rename ρ).references = field.kind.references.map ρ
  cases field.kind <;> rfl

theorem TypeBody.references_rename (ρ : String → String) (body : TypeBody) :
    (body.rename ρ).references = body.references.map ρ := by
  cases body with
  | struct fields =>
    show (fields.map (Field.rename ρ)).flatMap Field.references =
      (fields.flatMap Field.references).map ρ
    rw [List.flatMap_map, List.map_flatMap]
    exact List.flatMap_congr fun field _ => field.references_rename ρ
  | _ => rfl

/-- **A type refers to the new names where it referred to the old ones**, in the same order. -/
theorem TypeDef.references_rename (ρ : String → String) (t : TypeDef) :
    (t.rename ρ).references = t.references.map ρ :=
  congrArg (ρ t.supertype :: ·) (t.body.references_rename ρ)

theorem getElem?_map_rename (ρ : String → String) (types : List TypeDef) (position : Nat) :
    ((types.map (TypeDef.rename ρ))[position]?.map TypeDef.references).getD [] =
      ((types[position]?.map TypeDef.references).getD []).map ρ := by
  rw [List.getElem?_map]
  cases types[position]? with
  | none => rfl
  | some t => exact t.references_rename ρ

namespace Renaming

variable (hρ : Renaming ρ)

include hρ

/-- New names are the same where the old ones are. -/
theorem beq (a b : String) : (ρ a == ρ b) = (a == b) := by
  rw [Bool.eq_iff_iff, beq_iff_eq, beq_iff_eq]
  exact hρ.injective.eq_iff

theorem isBaseName (name : String) : isBaseName (ρ name) = isBaseName name := by
  rw [Bool.eq_iff_iff, isBaseName_iff, isBaseName_iff]
  constructor
  · rintro ⟨b, hb⟩
    exact ⟨b, hρ.injective ((hρ.base b).trans hb)⟩
  · rintro ⟨b, rfl⟩
    exact ⟨b, (hρ.base b).symm⟩

/-- A declaration is found under its new name where it was found under the old one. -/
theorem positionOf?_rename (types : List TypeDef) (name : String) :
    positionOf? (types.map (TypeDef.rename ρ)) (ρ name) = positionOf? types name := by
  unfold positionOf?
  rw [List.findIdx?_map]
  congr 1
  funext t
  exact hρ.beq t.name name

/-- **The check of the names refuses the same declaration for the same reason.** -/
theorem nameError?_rename : ∀ (types : List TypeDef) (seen : List String),
    nameError? (seen.map ρ) (types.map (TypeDef.rename ρ)) =
      (nameError? seen types).map (SchemaError.rename ρ)
  | [], _ => rfl
  | t :: rest, seen => by
    have ih := nameError?_rename rest (t.name :: seen)
    rw [List.map_cons]
    unfold nameError?
    rw [TypeDef.name_rename, hρ.isBaseName]
    by_cases hb : InterfaceSchema.isBaseName t.name = true
    · rw [if_pos hb, if_pos hb]
      rfl
    · rw [if_neg hb, if_neg hb]
      by_cases hseen : t.name ∈ seen
      · rw [if_pos ((List.mem_map_of_injective hρ.injective).2 hseen), if_pos hseen]
        rfl
      · rw [if_neg fun h => hseen ((List.mem_map_of_injective hρ.injective).1 h), if_neg hseen]
        exact ih

end Renaming

/-! ## 3. Walks under new names -/

/-- The second walk stands where the first does, under the new names. -/
structure Renamed (ρ : String → String) (w w' : Walk) : Prop where
  mark? : ∀ name, w'.mark? (ρ name) = w.mark? name
  stack : w'.stack = w.stack.map ρ
  ordered : w'.ordered = w.ordered

theorem Renaming.start (hρ : Renaming ρ) : Renamed ρ .start .start where
  mark? name := by rw [Walk.mark?_start, Walk.mark?_start, hρ.isBaseName]
  stack := rfl
  ordered := rfl

namespace Renamed

theorem enter (hρ : Renaming ρ) (h : Renamed ρ w w') (name : String) :
    Renamed ρ (w.enter name) (w'.enter (ρ name)) where
  mark? key := by
    rw [Walk.mark?_enter, Walk.mark?_enter, h.mark?]
    simp only [hρ.injective.eq_iff]
  stack := by
    show w'.stack ++ [ρ name] = (w.stack ++ [name]).map ρ
    rw [h.stack, List.map_append]
    rfl
  ordered := h.ordered

theorem emit (hρ : Renaming ρ) (h : Renamed ρ w w') (name : String) (position : Nat) :
    Renamed ρ (w.emit name position) (w'.emit (ρ name) position) where
  mark? key := by
    rw [Walk.mark?_emit, Walk.mark?_emit, h.mark?]
    simp only [hρ.injective.eq_iff]
  stack := by
    show w'.stack.dropLast = w.stack.dropLast.map ρ
    rw [h.stack, List.map_dropLast]
  ordered := congrArg (· ++ [position]) h.ordered

/-- A name has the same place on both stacks, so it closes the same loop. -/
theorem loopAt (hρ : Renaming ρ) (h : Renamed ρ w w') (name : String) :
    w'.loopAt (ρ name) = (w.loopAt name).map ρ := by
  have hplace : w'.placeOf? (ρ name) = w.placeOf? name := by
    unfold Walk.placeOf? List.idxOf?
    rw [h.stack, List.findIdx?_map]
    congr 1
    funext key
    exact hρ.beq key name
  unfold Walk.loopAt
  rw [hplace, h.stack, List.map_append, List.map_drop]
  rfl

end Renamed

/-- The second walk has stopped at the error of the first, under the new names. -/
abbrev RenamedError (ρ : String → String) (stop stop' : Stop) : Prop :=
  stop'.error = stop.error.rename ρ

/-- Two answers of the walk that are the same up to the names. -/
abbrev SameUpTo (ρ : String → String) : Except Stop Walk → Except Stop Walk → Prop :=
  Agree (Renamed ρ) (RenamedError ρ)

/-- Where the visits agree, to follow a reference does. -/
theorem follow_renamed (hρ : Renaming ρ) (types : List TypeDef)
    {visit visit' : String → Nat → Walk → Except Stop Walk} (h : Renamed ρ w w')
    (top reference : String)
    (hvisit : ∀ position,
      SameUpTo ρ (visit reference position w) (visit' (ρ reference) position w')) :
    SameUpTo ρ (follow types visit top w reference)
      (follow (types.map (TypeDef.rename ρ)) visit' (ρ top) w' (ρ reference)) := by
  unfold follow
  rw [hρ.isBaseName, hρ.positionOf?_rename]
  by_cases hb : isBaseName reference = true
  · rw [if_pos hb, if_pos hb]
    exact h
  · rw [if_neg hb, if_neg hb]
    cases positionOf? types reference with
    | some position => exact hvisit position
    | none => exact rfl

/-- **Visits agree under the new names**, whatever walks they start from: each mark, each reference
    and each place on the stack is met under its new name. -/
theorem visit_renamed (hρ : Renaming ρ) (types : List TypeDef) : ∀ (room : Nat) (name : String)
    (position : Nat) (w w' : Walk), Renamed ρ w w' →
    SameUpTo ρ (visit types room name position w)
      (visit (types.map (TypeDef.rename ρ)) room (ρ name) position w')
  | 0, name, _, _, _, h => congrArg SchemaError.cycle (h.loopAt hρ name)
  | room + 1, name, position, w, w', h => by
    have hsame : w'.mark? (ρ name) = w.mark? name := h.mark? name
    cases hm : w.mark? name with
    | some mark =>
      rw [hm] at hsame
      cases mark with
      | resolved =>
        rw [visit_of_resolved room position hm, visit_of_resolved room position hsame]
        exact h
      | visiting =>
        rw [visit_of_visiting room position hm, visit_of_visiting room position hsame]
        exact congrArg SchemaError.cycle (h.loopAt hρ name)
    | none =>
      rw [hm] at hsame
      rw [visit_of_mark?_eq_none room position hm, visit_of_mark?_eq_none room position hsame,
        getElem?_map_rename]
      refine (foldlM_agrees_map ρ (Renamed ρ) _ (w.enter name) (w'.enter (ρ name))
        (fun v v' r _ hv => ?_) (h.enter hρ name)).bind fun last last' hlast =>
          hlast.emit hρ name position
      exact follow_renamed hρ types hv name r fun p => visit_renamed hρ types room r p v v' hv

theorem resolveAt_renamed (hρ : Renaming ρ) (types : List TypeDef) (h : Renamed ρ w w')
    (position : Nat) : SameUpTo ρ (resolveAt types w position)
      (resolveAt (types.map (TypeDef.rename ρ)) w' position) := by
  unfold resolveAt
  rw [List.getElem?_map, List.length_map]
  cases types[position]? with
  | none => exact h
  | some t =>
    have hvisit := visit_renamed hρ types (types.length + 1) t.name position w w' h
    simp only [Option.map_some, TypeDef.name_rename]
    generalize visit types (types.length + 1) t.name position w = x at hvisit ⊢
    generalize visit (types.map (TypeDef.rename ρ)) (types.length + 1) (ρ t.name) position w' = y
      at hvisit ⊢
    cases x <;> cases y <;> exact hvisit

/-! ## 4. Answers under new names -/

theorem resolve_renamed (hρ : Renaming ρ) (types : List TypeDef) :
    SameUpTo ρ (resolve types) (resolve (types.map (TypeDef.rename ρ))) := by
  have hname := hρ.nameError?_rename types []
  unfold resolve
  rw [List.length_map]
  rw [List.map_nil] at hname
  rw [hname]
  cases nameError? [] types with
  | some error => exact rfl
  | none =>
    have hrun := foldlM_agrees_map id (Renamed ρ) (List.range types.length) .start .start
      (fun w w' position _ h => resolveAt_renamed hρ types h position) hρ.start
    rw [List.map_id] at hrun
    exact hrun

/-- **Names are opaque**: under other names, of which different ones stay different and those of
    base types stay what they are, a list of types has the same order, or the same error about the
    new names. -/
theorem resolveOrder_rename (hρ : Renaming ρ) (types : List TypeDef) :
    resolveOrder (types.map (TypeDef.rename ρ)) =
      (resolveOrder types).mapError (SchemaError.rename ρ) := by
  have h := resolve_renamed hρ types
  unfold resolveOrder
  generalize resolve types = x at h ⊢
  generalize resolve (types.map (TypeDef.rename ρ)) = y at h ⊢
  cases x with
  | ok w =>
    cases y with
    | ok w' => exact congrArg Except.ok h.ordered
    | error stop => exact h.elim
  | error stop =>
    cases y with
    | ok w' => exact h.elim
    | error stop' => exact congrArg Except.error h

/-- `Point` and `int32` change places, in an order and in a loop; `Int32` is a base type's name and
    has nothing to do with either. -/
theorem resolveOrder_rename_exchange :
    let ρ : String → String := Equiv.swap "Point" "int32"
    let line : TypeDef :=
      ⟨⟨"Line", "Struct", none⟩,
        .struct [.new "ends" (.map "Int32" "Point"), .new "at" (.named "int32")]⟩
    let point : TypeDef := ⟨⟨"Point", "Array", none⟩, .array "int32"⟩
    let number : TypeDef := ⟨⟨"int32", "Int32", none⟩, .synonym⟩
    let ring : TypeDef := ⟨⟨"int32", "Int32", none⟩, .union ["Line"]⟩
    Renaming ρ ∧
      (resolveOrder [line, point, number] = .ok [2, 1, 0] ∧
        resolveOrder ([line, point, number].map (TypeDef.rename ρ)) = .ok [2, 1, 0]) ∧
      resolveOrder [point, line, ring] = .error (.cycle ["Point", "int32", "Line", "Point"]) ∧
      resolveOrder ([point, line, ring].map (TypeDef.rename ρ)) =
        .error (.cycle ["int32", "Point", "Line", "int32"]) := by
  intro ρ line point number ring
  have hρ : Renaming ρ := ⟨Equiv.injective _, fun b => by cases b <;> rfl⟩
  refine ⟨hρ, ⟨rfl, ?_⟩, rfl, ?_⟩
  · rw [resolveOrder_rename hρ]
    rfl
  · rw [resolveOrder_rename hρ]
    rfl

end InterfaceSchema
