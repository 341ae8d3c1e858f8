import InterfaceSchema.Proofs.Folds
import InterfaceSchema.TypeDef.Recipe

/-!
# Types told from their calls

A type is described by calls in any order. Of the calls for one attribute the last one counts, the
calls for fields, elements, variants and allowed strings add up, and no call touches what another
kind of call says. So the type that a recipe builds can be read off the calls without running them.

* `Call.header`, `Call.parts`, `Call.last?`: what the calls say, read off;
* `StringPart.pattern?`, `StructPart.added`, `EnumPart.symbol` and their like: what one part says;
* `StringConstraints.foldl_apply` and its like: a body after all parts;
* `Recipe.describe_eq`: header and body are built apart, each from its own calls;
* `Recipe.body_string_eq_synonym_iff`: a string is a synonym as long as no call constrains it;
* `Recipe.build_calls`: the types of all eight shapes, and what they refer to.
-/

namespace InterfaceSchema

/-! ## 1. What calls say -/

namespace Call

variable {Part α : Type}

/-- The header that the calls describe: the last comment stands. -/
def header (supertype name : String) (calls : List (Call Part)) : TypeInfo :=
  ⟨name, supertype, (calls.filterMap comment?).getLast?⟩

/-- The calls without the comments. -/
def parts (calls : List (Call Part)) : List Part :=
  calls.filterMap part?

/-- The value that was set last. -/
def last? (value? : Part → Option α) (calls : List (Call Part)) : Option α :=
  ((parts calls).filterMap value?).getLast?

theorem parts_eq_nil_iff (calls : List (Call Part)) :
    parts calls = [] ↔ ∀ call ∈ calls, call.part? = none := by
  rw [parts, List.filterMap_eq_nil_iff]

end Call

/-- The pattern that a part sets. -/
def StringPart.pattern? : StringPart → Option String
  | .pattern text => some text
  | .minSize _ | .maxSize _ | .value _ => none

/-- The least size that a part sets. -/
def StringPart.minSize? : StringPart → Option Int32
  | .minSize size => some size
  | .pattern _ | .maxSize _ | .value _ => none

/-- The greatest size that a part sets. -/
def StringPart.maxSize? : StringPart → Option Int32
  | .maxSize size => some size
  | .pattern _ | .minSize _ | .value _ => none

/-- The string that a part allows. -/
def StringPart.value? : StringPart → Option String
  | .value text => some text
  | .pattern _ | .minSize _ | .maxSize _ => none

/-- The least number that a part sets. -/
def NumberPart.min? : NumberPart → Option Number
  | .min bound => some bound
  | .max _ => none

/-- The greatest number that a part sets. -/
def NumberPart.max? : NumberPart → Option Number
  | .max bound => some bound
  | .min _ => none

/-- The type of the items that a part sets. -/
def ArrayPart.items? : ArrayPart → Option String
  | .items typeName => some typeName

/-- The type of the keys that a part sets. -/
def MapPart.keys? : MapPart → Option String
  | .keys typeName => some typeName
  | .items _ => none

/-- The type of the items that a part sets. -/
def MapPart.items? : MapPart → Option String
  | .items typeName => some typeName
  | .keys _ => none

/-- The field that a part adds: the one given, or a required one with an inline collection, without
    default and comment. -/
def StructPart.added : StructPart → Field
  | .field f => f
  | .arrayField name items => ⟨name, .array items, false, none, none⟩
  | .mapField name keys items => ⟨name, .map keys items, false, none, none⟩

/-- The symbol of the element that a part adds. -/
def EnumPart.symbol : EnumPart → String
  | .element symbol => symbol
  | .elementWithComment symbol _ => symbol

/-- The comment of the element that a part adds. -/
def EnumPart.comment? : EnumPart → Option String
  | .element _ => none
  | .elementWithComment _ comment => some comment

/-- The variant that a part adds. -/
def UnionPart.added : UnionPart → String
  | .variant typeName => typeName

/-- The names that the field of a part refers to. The items of a map come before its keys. -/
def StructPart.references : StructPart → List String
  | .field f =>
    match f.kind with
    | .named typeName => [typeName]
    | .array items => [items]
    | .map keys items => [items, keys]
  | .arrayField _ items => [items]
  | .mapField _ keys items => [items, keys]

/-! ## 2. Bodies after all parts -/

/-- A part sets one constraint or allows one string more, and leaves the other constraints alone. -/
theorem StringConstraints.apply_eq (c : StringConstraints) (part : StringPart) : c.apply part =
    { pattern := part.pattern?.or c.pattern
      minSize := part.minSize?.or c.minSize
      maxSize := part.maxSize?.or c.maxSize
      values := c.values ++ part.value?.toList } := by
  cases part <;> simp [apply, StringPart.pattern?, StringPart.minSize?, StringPart.maxSize?,
    StringPart.value?]

theorem StringConstraints.foldl_apply (parts : List StringPart) : parts.foldl apply .none =
    { pattern := (parts.filterMap StringPart.pattern?).getLast?
      minSize := (parts.filterMap StringPart.minSize?).getLast?
      maxSize := (parts.filterMap StringPart.maxSize?).getLast?
      values := parts.filterMap StringPart.value? } := by
  have hpattern := foldl_keepsLast pattern (fun c p => congrArg pattern (apply_eq c p)) parts .none
  have hmin := foldl_keepsLast minSize (fun c p => congrArg minSize (apply_eq c p)) parts .none
  have hmax := foldl_keepsLast maxSize (fun c p => congrArg maxSize (apply_eq c p)) parts .none
  have hvalues := foldl_collects (fun c p => congrArg values (apply_eq c p)) parts .none
  simp only [none, Option.or_none, List.nil_append] at hpattern hmin hmax hvalues
  rw [← hpattern, ← hmin, ← hmax, ← hvalues]
  rfl

/-- A part sets one bound and leaves the other alone. -/
theorem NumberBounds.apply_eq (b : NumberBounds) (part : NumberPart) : b.apply part =
    { min := part.min?.or b.min, max := part.max?.or b.max } := by
  cases part <;> rfl

theorem NumberBounds.foldl_apply (parts : List NumberPart) : parts.foldl apply ⟨none, none⟩ =
    { min := (parts.filterMap NumberPart.min?).getLast?
      max := (parts.filterMap NumberPart.max?).getLast? } := by
  have hmin := foldl_keepsLast NumberBounds.min
    (fun b p => congrArg NumberBounds.min (apply_eq b p)) parts ⟨none, none⟩
  have hmax := foldl_keepsLast NumberBounds.max
    (fun b p => congrArg NumberBounds.max (apply_eq b p)) parts ⟨none, none⟩
  simp only [Option.or_none] at hmin hmax
  rw [← hmin, ← hmax]

/-- A part sets one of the element types and leaves the other alone. -/
theorem MapShape.apply_eq (m : MapShape) (part : MapPart) : m.apply part =
    { keys := part.keys?.getD m.keys, items := part.items?.getD m.items } := by
  cases part <;> rfl

theorem MapShape.foldl_apply (parts : List MapPart) (m : MapShape) : parts.foldl apply m =
    { keys := (parts.filterMap MapPart.keys?).getLast?.getD m.keys
      items := (parts.filterMap MapPart.items?).getLast?.getD m.items } := by
  have hkeys := foldl_keepsLast_getD keys (fun m p => congrArg keys (apply_eq m p)) parts m
  have hitems := foldl_keepsLast_getD items (fun m p => congrArg items (apply_eq m p)) parts m
  rw [← hkeys, ← hitems]

/-- The items of an array are of the type that was set last. -/
theorem ArrayPart.foldl_apply (parts : List ArrayPart) (start : String) :
    parts.foldl apply start = (parts.filterMap ArrayPart.items?).getLast?.getD start :=
  foldl_keepsLast_getD id (fun _ part => by cases part; rfl) parts start

/-- What every part adds one of, stands in the order of the parts. -/
theorem foldl_of_append_singleton {α β : Type} {apply : List β → α → List β} {added : α → β}
    (h : ∀ items part, apply items part = items ++ [added part]) (parts : List α) :
    parts.foldl apply [] = parts.map added := by
  have hall : id (parts.foldl apply []) = [] ++ parts.filterMap fun part => some (added part) :=
    foldl_collects h parts []
  rwa [List.nil_append, List.filterMap_eq_map'] at hall

theorem StructPart.foldl_apply (parts : List StructPart) :
    parts.foldl apply [] = parts.map StructPart.added :=
  foldl_of_append_singleton (fun _ part => by cases part <;> rfl) parts

theorem EnumPart.foldl_apply (parts : List EnumPart) :
    parts.foldl apply [] = parts.map fun part => ⟨part.symbol, part.comment?⟩ :=
  foldl_of_append_singleton (fun _ part => by cases part <;> rfl) parts

theorem UnionPart.foldl_apply (parts : List UnionPart) :
    parts.foldl apply [] = parts.map UnionPart.added :=
  foldl_of_append_singleton (fun _ part => by cases part; rfl) parts

/-! ## 3. Strings -/

/-- Every part constrains the string in one way or another. -/
theorem StringConstraints.isEmpty_foldl (parts : List StringPart) :
    (parts.foldl apply .none).isEmpty = true ↔ parts = [] := by
  rw [foldl_apply]
  simp only [isEmpty, Bool.and_eq_true, Option.isNone_iff_eq_none, List.getLast?_eq_none_iff,
    List.isEmpty_iff, List.filterMap_eq_nil_iff]
  constructor
  · rintro ⟨⟨⟨hpattern, hmin⟩, hmax⟩, hvalues⟩
    refine List.eq_nil_iff_forall_not_mem.2 fun part hpart => ?_
    cases part with
    | pattern text => cases hpattern _ hpart
    | minSize size => cases hmin _ hpart
    | maxSize size => cases hmax _ hpart
    | value text => cases hvalues _ hpart
  · rintro rfl
    simp

theorem StringConstraints.toBody_foldl (parts : List StringPart) :
    (parts.foldl apply .none).toBody = if parts = [] then .synonym else
      .string
        { pattern := (parts.filterMap StringPart.pattern?).getLast?
          minSize := (parts.filterMap StringPart.minSize?).getLast?
          maxSize := (parts.filterMap StringPart.maxSize?).getLast?
          values := parts.filterMap StringPart.value? } := by
  unfold toBody
  simp only [isEmpty_foldl]
  rw [foldl_apply]

/-- Calls that begin with so many comments hold nothing else as long as no more than these are
    made. -/
theorem Call.parts_take_eq_nil_iff {Part : Type} : ∀ (calls : List (Call Part)) (n : Nat),
    n ≤ calls.length → (parts (calls.take n) = [] ↔
      n ≤ (calls.takeWhile fun call => call.part?.isNone).length)
  | _, 0, _ => by simp [parts]
  | [], n + 1, h => by simp at h
  | .part p :: rest, n + 1, _ => by simp [parts, part?]
  | .comment text :: rest, n + 1, h => by
    have ih := parts_take_eq_nil_iff rest n (Nat.le_of_succ_le_succ h)
    simpa [parts, part?] using ih

/-! ## 4. Types after all calls -/

namespace Recipe

/-- **Header and body are built apart**, the header from the comments and the body from the
    parts. -/
theorem describe_eq {Part Body : Type} (apply : Body → Part → Body) (start : Body)
    (toBody : Body → TypeBody) (supertype name : String) (calls : List (Call Part)) :
    describe apply start toBody supertype name calls =
      ⟨Call.header supertype name calls, toBody ((Call.parts calls).foldl apply start)⟩ := by
  unfold describe
  simp only [Call.run_body, Call.run_info, Option.or_none]
  rfl

variable (supertype name : String)

theorem build_string (calls : List (Call StringPart)) : build supertype name (.string calls) =
    { info := Call.header supertype name calls
      body := if Call.parts calls = [] then .synonym else
        .string
          { pattern := Call.last? StringPart.pattern? calls
            minSize := Call.last? StringPart.minSize? calls
            maxSize := Call.last? StringPart.maxSize? calls
            values := (Call.parts calls).filterMap StringPart.value? } } := by
  rw [build, describe_eq, StringConstraints.toBody_foldl]
  rfl

theorem build_synonym (calls : List (Call Empty)) : build supertype name (.synonym calls) =
    ⟨Call.header supertype name calls, .synonym⟩ := by
  rw [build, describe_eq]

theorem build_number (calls : List (Call NumberPart)) : build supertype name (.number calls) =
    ⟨Call.header supertype name calls,
      .number ⟨Call.last? NumberPart.min? calls, Call.last? NumberPart.max? calls⟩⟩ := by
  rw [build, describe_eq, NumberBounds.foldl_apply]
  rfl

theorem build_struct (calls : List (Call StructPart)) : build supertype name (.struct calls) =
    ⟨Call.header supertype name calls, .struct ((Call.parts calls).map (·.added))⟩ := by
  rw [build, describe_eq, StructPart.foldl_apply]

theorem build_array (calls : List (Call ArrayPart)) : build supertype name (.array calls) =
    ⟨Call.header supertype name calls,
      .array ((Call.last? ArrayPart.items? calls).getD anyName)⟩ := by
  rw [build, describe_eq, ArrayPart.foldl_apply]
  rfl

theorem build_map (calls : List (Call MapPart)) : build supertype name (.map calls) =
    ⟨Call.header supertype name calls,
      .map ((Call.last? MapPart.keys? calls).getD anyName)
        ((Call.last? MapPart.items? calls).getD anyName)⟩ := by
  rw [build, describe_eq, MapShape.foldl_apply]
  rfl

theorem build_enum (calls : List (Call EnumPart)) : build supertype name (.enum calls) =
    ⟨Call.header supertype name calls,
      .enum ((Call.parts calls).map fun part => ⟨part.symbol, part.comment?⟩)⟩ := by
  rw [build, describe_eq, EnumPart.foldl_apply]

theorem build_union (calls : List (Call UnionPart)) : build supertype name (.union calls) =
    ⟨Call.header supertype name calls, .union ((Call.parts calls).map (·.added))⟩ := by
  rw [build, describe_eq, UnionPart.foldl_apply]

theorem body_string_eq_synonym_iff (calls : List (Call StringPart)) :
    (build supertype name (.string calls)).body = .synonym ↔ Call.parts calls = [] := by
  rw [build_string]
  by_cases h : Call.parts calls = [] <;> simp [h]

/-- The names that the calls refer to, beside the supertype. -/
def references : Recipe → List String
  | struct calls => (Call.parts calls).flatMap (·.references)
  | union calls => (Call.parts calls).map (·.added)
  | array calls => [(Call.last? ArrayPart.items? calls).getD anyName]
  | map calls =>
    [(Call.last? MapPart.items? calls).getD anyName, (Call.last? MapPart.keys? calls).getD anyName]
  | synonym _ | string _ | number _ | enum _ => []

theorem references_build (r : Recipe) :
    (r.build supertype name).references = supertype :: r.references := by
  cases r with
  | synonym calls => rw [build_synonym]; rfl
  | string calls =>
    rw [build_string]
    by_cases h : Call.parts calls = []
    · rw [if_pos h]; rfl
    · rw [if_neg h]; rfl
  | number calls => rw [build_number]; rfl
  | struct calls =>
    have hpart : ∀ part : StructPart, part.added.references = part.references := by
      intro part
      cases part <;> rfl
    rw [build_struct]
    refine congrArg (supertype :: ·) ?_
    show ((Call.parts calls).map (·.added)).flatMap (·.references) = _
    rw [List.flatMap_map]
    simp only [hpart, references]
  | array calls => rw [build_array]; rfl
  | map calls => rw [build_map]; rfl
  | enum calls => rw [build_enum]; rfl
  | union calls => rw [build_union]; rfl

/-- **A type can be read off the calls that describe it.** Of the calls for one attribute the last
    one counts, and where there is none the attribute keeps what it starts from; fields, elements,
    variants and allowed strings stand in the order of their calls, with every repetition. A string
    is a synonym exactly when every call is a comment, so while calls are added it ceases to be one
    at most once and for good. What the type refers to is its supertype and then what the calls
    name, in their order. -/
theorem build_calls :
    (∀ calls, build supertype name (.synonym calls) =
      ⟨Call.header supertype name calls, .synonym⟩) ∧
    (∀ calls, (build supertype name (.string calls)).info = Call.header supertype name calls ∧
      ((build supertype name (.string calls)).body = .synonym ↔
        ∀ call ∈ calls, call.part? = none) ∧
      ((build supertype name (.string calls)).body ≠ .synonym →
        (build supertype name (.string calls)).body = .string
          { pattern := Call.last? StringPart.pattern? calls
            minSize := Call.last? StringPart.minSize? calls
            maxSize := Call.last? StringPart.maxSize? calls
            values := (Call.parts calls).filterMap StringPart.value? }) ∧
      ∃ turn, ∀ n ≤ calls.length,
        ((take n (.string calls)).build supertype name).body = .synonym ↔ n ≤ turn) ∧
    (∀ calls, build supertype name (.number calls) =
      ⟨Call.header supertype name calls,
        .number ⟨Call.last? NumberPart.min? calls, Call.last? NumberPart.max? calls⟩⟩) ∧
    (∀ calls, build supertype name (.struct calls) =
      ⟨Call.header supertype name calls, .struct ((Call.parts calls).map (·.added))⟩) ∧
    (∀ calls, build supertype name (.array calls) =
      ⟨Call.header supertype name calls,
        .array ((Call.last? ArrayPart.items? calls).getD "Any")⟩) ∧
    (∀ calls, build supertype name (.map calls) =
      ⟨Call.header supertype name calls,
        .map ((Call.last? MapPart.keys? calls).getD "Any")
          ((Call.last? MapPart.items? calls).getD "Any")⟩) ∧
    (∀ calls, build supertype name (.enum calls) =
      ⟨Call.header supertype name calls,
        .enum ((Call.parts calls).map fun part => ⟨part.symbol, part.comment?⟩)⟩) ∧
    (∀ calls, build supertype name (.union calls) =
      ⟨Call.header supertype name calls, .union ((Call.parts calls).map (·.added))⟩) ∧
    ∀ r : Recipe, (r.build supertype name).references = supertype :: r.references := by
  refine ⟨build_synonym supertype name, fun calls => ⟨?_, ?_, fun h => ?_, ?_⟩,
    build_number supertype name, build_struct supertype name, build_array supertype name,
    build_map supertype name, build_enum supertype name, build_union supertype name,
    references_build supertype name⟩
  · rw [build_string]
  · rw [body_string_eq_synonym_iff, Call.parts_eq_nil_iff]
  · rw [ne_eq, body_string_eq_synonym_iff] at h
    rw [build_string, if_neg h]
  · refine ⟨(calls.takeWhile fun call => call.part?.isNone).length, fun n hn => ?_⟩
    rw [take, body_string_eq_synonym_iff, Call.parts_take_eq_nil_iff calls n hn]

/-- A comment alone leaves the string a synonym; the pattern that comes then is replaced, and the
    last comment is too far behind to change what the string has become. -/
theorem build_calls_code :
    let calls : List (Call StringPart) := [.comment "a code", .part (.pattern "[A-Z]+"),
      .part (.value "USD"), .part (.pattern "[A-Z]*"), .part (.value "USD"), .comment "of money"]
    (build "String" "Code" (.string calls)).info = ⟨"Code", "String", some "of money"⟩ ∧
    (build "String" "Code" (.string calls)).body =
      .string ⟨some "[A-Z]*", none, none, ["USD", "USD"]⟩ ∧
    ((take 1 (.string calls)).build "String" "Code").body = .synonym ∧
    ∀ n ≤ 6, 2 ≤ n → ((take n (.string calls)).build "String" "Code").body ≠ .synonym := by
  intro calls
  obtain ⟨hinfo, hsynonym, hstring, turn, hturn⟩ := (build_calls "String" "Code").2.1 calls
  have hbody : (build "String" "Code" (.string calls)).body ≠ .synonym := fun h => by
    cases hsynonym.1 h (.part (.value "USD")) (by simp [calls])
  have hfirst : ((take 1 (.string calls)).build "String" "Code").body = .synonym := rfl
  have hlater : ¬ 2 ≤ turn := fun h => by cases (hturn 2 (by decide)).2 h
  exact ⟨hinfo, hstring hbody, hfirst,
    fun n hn hn2 h => hlater (Nat.le_trans hn2 ((hturn n hn).1 h))⟩

end Recipe

end InterfaceSchema
