import InterfaceSchema.Listing

/-!
# Colours

A coloured text is the plain one with escape sequences in it. Where no text that is listed has an
escape character of its own, taking the sequences out again gives the plain listing, padding
included.

* `stripEscapes`: a text without its escape sequences;
* `stripEscapes_renderAll`: without its sequences a coloured listing is the plain one;
* `TypeDef.shown`, `Resource.shown`: the texts that a listing takes from a type or a resource;
* `isPlain_of_mem_typeRow`, `isPlain_of_mem_resourceParagraph`: a listing has no escape character
  but those of the texts it shows.
-/

namespace InterfaceSchema

namespace Text

/-! ## 1. Escape sequences -/

/-- The numbers of a sequence are digits and semicolons. -/
def isCode (c : Char) : Bool :=
  c.isDigit || c == ';'

/-- What follows the sequence, if the text behind an escape character goes on as one: with a
    bracket, numbers and an `m`. -/
def pastSequence? : List Char → Option (List Char)
  | '[' :: rest =>
    match rest.dropWhile isCode with
    | 'm' :: after => some after
    | _ => none
  | _ => none

theorem length_pastSequence {text after : List Char} (h : pastSequence? text = some after) :
    after.length < text.length := by
  unfold pastSequence? at h
  split at h
  · rename_i rest
    split at h
    · rename_i after' hdrop
      cases h
      have hle : (rest.dropWhile isCode).length ≤ rest.length :=
        (List.dropWhile_suffix isCode).length_le
      rw [hdrop, List.length_cons] at hle
      rw [List.length_cons]
      omega
    · cases h
  · cases h

/-- The text without its escape sequences. -/
def stripEscapes : List Char → List Char
  | [] => []
  | c :: rest =>
    if c = '\x1b' then
      match _h : pastSequence? rest with
      | some after => stripEscapes after
      | none => c :: stripEscapes rest
    else c :: stripEscapes rest
termination_by text => text.length
decreasing_by
  · have := length_pastSequence _h
    rw [List.length_cons]
    omega
  · exact Nat.lt_succ_self _
  · exact Nat.lt_succ_self _

theorem stripEscapes_sequence {text after : List Char} (h : pastSequence? text = some after) :
    stripEscapes ('\x1b' :: text) = stripEscapes after := by
  rw [stripEscapes, if_pos rfl]
  split
  · rename_i found hfound
    rw [h] at hfound
    cases hfound
    rfl
  · rename_i hnone
    rw [h] at hnone
    cases hnone

/-- A text without an escape character stays. -/
theorem stripEscapes_append : ∀ (text rest : List Char), '\x1b' ∉ text →
    stripEscapes (text ++ rest) = text ++ stripEscapes rest
  | [], _, _ => rfl
  | c :: text, rest, h => by
    rw [List.mem_cons, not_or] at h
    rw [List.cons_append, stripEscapes, if_neg (fun e => h.1 e.symm),
      stripEscapes_append text rest h.2, List.cons_append]

theorem stripEscapes_opening (style : Style) (rest : List Char) :
    stripEscapes (style.opening ++ rest) = stripEscapes rest := by
  cases style <;> exact stripEscapes_sequence rfl

theorem stripEscapes_closing (rest : List Char) :
    stripEscapes (closing ++ rest) = stripEscapes rest :=
  stripEscapes_sequence rfl

/-! ## 2. Spans -/

/-- The text of the span, without style and padding. -/
def Span.text : Span → List Char
  | .plain text => text
  | .styled _ _ text => text

/-- The span has no escape character in its text. -/
def Span.IsPlain (s : Span) : Prop :=
  '\x1b' ∉ s.text

theorem not_mem_padRight {c : Char} {width : Nat} {text : List Char} (hc : c ≠ ' ') (h : c ∉ text) :
    c ∉ padRight width text := by
  simp [padRight, h, hc]

/-- **Without the sequences around it a span is as it is without colours**, padded as far. -/
theorem stripEscapes_render {s : Span} (h : s.IsPlain) (rest : List Char) :
    stripEscapes (s.render true ++ rest) = s.render false ++ stripEscapes rest := by
  cases s with
  | plain text => exact stripEscapes_append text rest h
  | styled style width text =>
    have hpadded : '\x1b' ∉ padRight width text := not_mem_padRight (by decide) h
    calc stripEscapes (style.opening ++ padRight width (reopen style text) ++ closing ++ rest)
        = stripEscapes (padRight width text ++ (closing ++ rest)) := by
          rw [reopen_eq_self style text h, List.append_assoc, List.append_assoc,
            stripEscapes_opening]
      _ = padRight width text ++ stripEscapes rest := by
          rw [stripEscapes_append _ _ hpadded, stripEscapes_closing]

theorem stripEscapes_flatMap_render : ∀ spans : List Span, (∀ s ∈ spans, s.IsPlain) →
    stripEscapes (spans.flatMap (·.render true)) = spans.flatMap (·.render false)
  | [], _ => by simp [stripEscapes]
  | s :: spans, h => by
    rw [List.flatMap_cons, List.flatMap_cons, stripEscapes_render (h s List.mem_cons_self),
      stripEscapes_flatMap_render spans fun s' hs' => h s' (List.mem_cons_of_mem s hs')]

/-- **Without its sequences a coloured listing is the plain one.** -/
theorem stripEscapes_renderAll {spans : List Span} (h : ∀ s ∈ spans, s.IsPlain) :
    stripEscapes (renderAll true spans).toList = (renderAll false spans).toList := by
  unfold renderAll
  rw [String.toList_ofList, String.toList_ofList, stripEscapes_flatMap_render spans h]

end Text

open Text

/-! ## 3. What a listing shows -/

/-- The texts of a type that its row shows. -/
def TypeDef.shown (t : TypeDef) : List String :=
  t.name :: t.references

/-- The texts of an input that its line shows. -/
def ResourceInput.shown (input : ResourceInput) : List String :=
  [input.name, input.typeName] ++ input.queryParam.toList ++ input.header.toList

/-- The texts of a resource that its paragraph shows. -/
def Resource.shown (r : Resource) : List String :=
  [r.method, r.path, r.typeName, r.expected] ++ r.name.toList ++
    r.inputs.flatMap (·.shown) ++
    r.outputs.flatMap (fun output => [output.name, output.typeName]) ++
    r.auth.toList.flatMap (fun auth => auth.action.toList ++ auth.resource.toList) ++
    r.exceptions.entries.flatMap (fun entry => [entry.1, entry.2.typeName])

/-- The text has no escape character. -/
def IsPlainText (s : String) : Prop :=
  '\x1b' ∉ s.toList

instance (s : String) : Decidable (IsPlainText s) :=
  inferInstanceAs (Decidable ('\x1b' ∉ s.toList))

theorem isPlainText_append {a b : String} :
    IsPlainText (a ++ b) ↔ IsPlainText a ∧ IsPlainText b := by
  simp [IsPlainText]

theorem isPlainText_intercalate {separator : String} (hs : IsPlainText separator) :
    ∀ {texts : List String}, (∀ s ∈ texts, IsPlainText s) →
      IsPlainText (separator.intercalate texts)
  | [], _ => by simp [IsPlainText]
  | [s], h => by simpa using h
  | s :: s' :: rest, h => by
    have ih : IsPlainText (separator.intercalate (s' :: rest)) :=
      isPlainText_intercalate hs fun u hu => h u (List.mem_cons_of_mem s hu)
    rw [String.intercalate_cons_cons, isPlainText_append, isPlainText_append]
    exact ⟨⟨h s List.mem_cons_self, hs⟩, ih⟩

theorem isPlainText_kind (b : BaseType) : IsPlainText b.name := by
  cases b <;> decide

namespace Listing

theorem isPlain_text_iff (s : String) : (text s).IsPlain ↔ IsPlainText s := Iff.rfl

theorem isPlain_styled_iff (style : Style) (width : Nat) (s : String) :
    (Span.styled style width s.toList).IsPlain ↔ IsPlainText s := Iff.rfl

/-- **A row has no escape character but those of the texts it shows.** -/
theorem isPlain_of_mem_typeRow {t : TypeDef} (h : ∀ s ∈ t.shown, IsPlainText s) (number : Nat) :
    ∀ span ∈ typeRow number t, span.IsPlain := by
  have hname : IsPlainText t.name := h _ List.mem_cons_self
  have hreference : ∀ r ∈ t.references, IsPlainText r := fun r hr => h r (List.mem_cons_of_mem _ hr)
  have hsupertype : IsPlainText t.supertype := hreference _ List.mem_cons_self
  have hdependencies : IsPlainText (", ".intercalate t.dependencies) :=
    isPlainText_intercalate (by decide) fun r hr =>
      hreference r (TypeDef.mem_dependencies.1 hr).1
  have hnumber : '\x1b' ∉ padLeft 3 (Nat.toDigits 10 number) := by
    intro hmem
    rcases List.mem_append.1 hmem with hspace | hdigit
    · cases List.eq_of_mem_replicate hspace
    · cases Nat.isDigit_of_mem_toDigits (by decide) (by decide) hdigit
  have hnil := List.forall_mem_nil Span.IsPlain
  simp only [typeRow, List.forall_mem_append, List.forall_mem_cons, isPlain_text_iff,
    isPlain_styled_iff]
  refine ⟨⟨⟨⟨hnumber, by decide, hname, by decide, isPlainText_kind _, hnil⟩, ?_⟩, ?_⟩,
    by decide, hnil⟩
  · split
    · exact hnil
    · simp only [List.forall_mem_cons, isPlain_text_iff, isPlain_styled_iff]
      exact ⟨by decide, hsupertype, hnil⟩
  · split
    · exact hnil
    · simp only [List.forall_mem_cons, isPlain_text_iff, isPlain_styled_iff]
      exact ⟨by decide, hdependencies, hnil⟩

theorem isPlainText_optionalMark (optional : Bool) : IsPlainText (optionalMark optional) := by
  cases optional <;> decide

theorem isPlainText_carrier {input : ResourceInput} (h : ∀ s ∈ input.shown, IsPlainText s) :
    IsPlainText (carrier input) := by
  simp only [ResourceInput.shown, List.forall_mem_append] at h
  obtain ⟨⟨_, hparam⟩, hheader⟩ := h
  unfold carrier
  split
  · decide
  · cases hp : input.queryParam with
    | some param =>
      have hmem : param ∈ input.queryParam.toList := by simp [hp]
      exact isPlainText_append.2 ⟨by decide, hparam param hmem⟩
    | none =>
      cases hh : input.header with
      | some header =>
        have hmem : header ∈ input.header.toList := by simp [hh]
        exact isPlainText_append.2 ⟨by decide, hheader header hmem⟩
      | none => decide

theorem isPlain_inputLine {input : ResourceInput} (h : ∀ s ∈ input.shown, IsPlainText s) :
    (inputLine input).IsPlain := by
  have hcarrier := isPlainText_carrier h
  simp only [ResourceInput.shown, List.forall_mem_append, List.forall_mem_cons] at h
  obtain ⟨⟨⟨hname, htype, _⟩, _⟩, _⟩ := h
  simp only [inputLine, isPlain_text_iff, isPlainText_append]
  exact ⟨⟨⟨⟨⟨⟨⟨by decide, hname⟩, isPlainText_optionalMark _⟩, by decide⟩, htype⟩, by decide⟩,
    hcarrier⟩, by decide⟩

theorem isPlain_authLine {auth : ResourceAuth} (haction : ∀ s ∈ auth.action.toList, IsPlainText s)
    (hresource : ∀ s ∈ auth.resource.toList, IsPlainText s) :
    ∀ span ∈ authLine auth, span.IsPlain := by
  unfold authLine
  split
  · rename_i action resource ha hr
    rw [ha] at haction
    rw [hr] at hresource
    simp only [List.forall_mem_singleton, isPlain_text_iff, isPlainText_append]
    exact ⟨⟨⟨⟨by decide, haction _ (List.mem_singleton_self _)⟩, by decide⟩,
      hresource _ (List.mem_singleton_self _)⟩, by decide⟩
  · split
    · simp only [List.forall_mem_singleton, isPlain_text_iff]
      decide
    · exact List.forall_mem_nil _

/-- **A paragraph has no escape character but those of the texts it shows.** -/
theorem isPlain_of_mem_resourceParagraph {r : Resource} (h : ∀ s ∈ r.shown, IsPlainText s) :
    ∀ span ∈ resourceParagraph r, span.IsPlain := by
  have hnil := List.forall_mem_nil Span.IsPlain
  simp only [Resource.shown, List.forall_mem_append, List.forall_mem_cons,
    List.forall_mem_flatMap] at h
  obtain ⟨⟨⟨⟨⟨⟨hmethod, hpath, htype, hexpected, _⟩, hname⟩, hinputs⟩, houtputs⟩, hauth⟩,
    hexceptions⟩ := h
  simp only [resourceParagraph, List.forall_mem_append, List.forall_mem_map,
    List.forall_mem_flatMap]
  refine ⟨⟨⟨⟨⟨?_, fun name hn => ?_⟩, fun input hi => isPlain_inputLine (hinputs input hi)⟩,
    fun output ho => ?_⟩, fun auth ha => isPlain_authLine (hauth auth ha).1 (hauth auth ha).2⟩,
    fun entry he => ?_⟩
  · simp only [headLine, List.forall_mem_cons, isPlain_text_iff, isPlain_styled_iff,
      isPlainText_append]
    exact ⟨hmethod, ⟨⟨by decide, hpath⟩, by decide⟩, htype, ⟨⟨by decide, hexpected⟩, by decide⟩,
      hnil⟩
  · simp only [nameLine, isPlain_text_iff, isPlainText_append]
    exact ⟨⟨by decide, hname name hn⟩, by decide⟩
  · obtain ⟨honame, hotype, _⟩ := houtputs output ho
    simp only [outputLine, isPlain_text_iff, isPlainText_append]
    exact ⟨⟨⟨⟨⟨by decide, honame⟩, isPlainText_optionalMark _⟩, by decide⟩, hotype⟩, by decide⟩
  · obtain ⟨hsymbol, hetype, _⟩ := hexceptions entry he
    simp only [exceptionLine, List.forall_mem_cons, isPlain_text_iff, isPlain_styled_iff,
      isPlainText_append]
    exact ⟨by decide, hsymbol, ⟨⟨by decide, hetype⟩, by decide⟩, hnil⟩

end Listing

/-! ## 4. Listings -/

theorem isPlain_of_mem_typeListing {types : List TypeDef}
    (h : ∀ t ∈ types, ∀ s ∈ t.shown, IsPlainText s) (keep : String → Bool) :
    ∀ span ∈ typeListing keep types, span.IsPlain := by
  intro span hspan
  obtain ⟨row, hrow, hspan⟩ := List.mem_flatten.1 hspan
  obtain ⟨⟨t, number⟩, ht, rfl⟩ := List.mem_map.1 hrow
  have hmem : t ∈ types := List.fst_mem_of_mem_zipIdx (List.mem_filter.1 ht).1
  exact Listing.isPlain_of_mem_typeRow (h t hmem) number span hspan

theorem isPlain_of_mem_resourceListing {resources : List Resource}
    (h : ∀ r ∈ resources, ∀ s ∈ r.shown, IsPlainText s) :
    ∀ span ∈ resourceListing resources, span.IsPlain := by
  intro span hspan
  obtain ⟨r, hr, hspan⟩ := List.mem_flatMap.1 hspan
  exact Listing.isPlain_of_mem_resourceParagraph (h r hr) span hspan

end InterfaceSchema
