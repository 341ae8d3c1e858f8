import InterfaceSchema.CommandLine.Run
import InterfaceSchema.Pattern.Parser
import InterfaceSchema.Proofs.Listing.Rows
import InterfaceSchema.Proofs.Schema.DeclarationOrder

/-!
# The listing of types

The command `types` lists the types as they are declared, or as they are resolved, forwards or
backwards, and it can leave out rows. Whatever is asked for, every declared type has one row; the
rows are numbered in the order in which they stand, and a row that is left out takes its number with
it.

* `listedTypes_perm`: whatever is listed, it is the declared types;
* `Command.listing_types_iff`, `Invocation.decide_eq`: which listing there is, and where it goes;
* `Command.Prints`: what it is for a command to print rows;
* `types_prints`: what a run of the command prints, with and without a filter.
-/

namespace InterfaceSchema

open Text Listing

/-! ## 1. What is listed -/

variable {d : Draft} {reverse declared : Bool} {listed : List TypeDef}

theorem types_ite_reverse (d : Draft) (reverse : Bool) :
    (if reverse then d.reverse else d).types = if reverse then d.types.reverse else d.types := by
  cases reverse <;> rfl

theorem types_reverse_perm (d : Draft) (reverse : Bool) :
    (if reverse then d.reverse else d).types.Perm d.types := by
  rw [types_ite_reverse]
  cases reverse with
  | false => exact List.Perm.refl _
  | true => exact List.reverse_perm _

/-- **Whatever is listed, it is the declared types**, each as often as it was declared. -/
theorem listedTypes_perm
    (h : listedTypes (if reverse then d.reverse else d) declared = .ok listed) :
    listed.Perm d.types := by
  refine List.Perm.trans ?_ (types_reverse_perm d reverse)
  unfold listedTypes at h
  cases declared with
  | true =>
    cases h
    exact List.Perm.refl _
  | false =>
    rw [if_neg Bool.false_ne_true] at h
    cases hs : (if reverse then d.reverse else d).finalize with
    | error e => rw [hs] at h; cases h
    | ok s =>
      rw [hs] at h
      cases h
      exact types_perm_of_finalize hs

/-- What can be listed: the types as they are declared, or those of the schema they come to. -/
theorem exists_listedTypes (h : declared = true ∨ ∃ s, d.finalize = .ok s) : ∃ listed,
    listedTypes d declared = .ok listed ∧ (declared = true → listed = d.types) ∧
      (declared = false → ∃ s : Schema, d.finalize = .ok s ∧ listed = s.types) := by
  cases declared with
  | true => exact ⟨d.types, rfl, fun _ => rfl, fun hno => Bool.noConfusion hno⟩
  | false =>
    obtain ⟨s, hs⟩ := h.resolve_left Bool.false_ne_true
    refine ⟨s.types, ?_, fun hno => Bool.noConfusion hno, fun _ => ⟨s, hs, rfl⟩⟩
    unfold listedTypes
    rw [if_neg Bool.false_ne_true, hs]

/-! ## 2. From listings to runs -/

variable {compile : FilterLanguage}

/-- Unless it only explains what was asked for, a command delivers its listing. -/
theorem Invocation.decide_eq {i : Invocation} (hnoOp : i.command.output.noOp = false)
    (compile : FilterLanguage) (d : Draft) (colours : Bool) :
    i.decide compile d colours =
      (i.command.listing compile d).map (i.command.output.deliver colours) := by
  unfold Invocation.decide
  rw [hnoOp, if_neg Bool.false_ne_true]
  cases i.command.listing compile d <;> rfl

/-- With a listing a run does what it is delivered for, and has reported what led to it. -/
theorem Invocation.run_of_listing {i : Invocation} {spans : List Span}
    (hnoOp : i.command.output.noOp = false) (h : i.command.listing compile d = .ok spans)
    (colours : Bool) (files : FileTree) :
    i.run compile d colours files =
      ((i.command.output.deliver colours spans).perform files).after (i.reported compile d) := by
  unfold Invocation.run
  rw [decide_eq hnoOp, h]
  rfl

/-- Types are listed if the filter is an expression and there are types to list. -/
theorem Command.listing_types_iff {request : TypesRequest} {spans : List Span} :
    (types request).listing compile d = .ok spans ↔ ∃ keep listed,
      keptNames compile request.filter = .ok keep ∧
      listedTypes (if request.reverse then d.reverse else d) request.declared = .ok listed ∧
      typeListing keep listed = spans := by
  unfold listing
  dsimp only
  cases keptNames compile request.filter with
  | error e => simp
  | ok keep =>
    cases listedTypes (if request.reverse then d.reverse else d) request.declared with
    | error e => simp
    | ok listed => simp

/-! ## 3. What is printed -/

/-- The command `types`, with its listing on standard output. -/
def Command.typesOf (filter : Option String) (reverse declared : Bool) : Command :=
  .types ⟨⟨none, false⟩, filter, reverse, declared⟩

/-- Every run of the command succeeds, prints the rows and nothing else, and leaves all files alone.
    With colours it prints the same parts in colours. -/
def Command.Prints (compile : FilterLanguage) (c : Command) (d : Draft) (rows : List Row) : Prop :=
  ∃ spans, renderAll false spans = String.ofList (rows.flatMap Row.text) ∧
    ∀ verbose colours files,
      let outcome := (Invocation.mk verbose c).run compile d colours files
      outcome.result = .ok () ∧ outcome.stdout = renderAll colours spans ∧ outcome.files = files

theorem Command.typesOf_prints {filter : Option String} {keep : String → Bool}
    (hkeep : keptNames compile filter = .ok keep)
    (h : listedTypes (if reverse then d.reverse else d) declared = .ok listed) :
    (typesOf filter reverse declared).Prints compile d
      ((rows listed).filter fun r => keep r.entry.name) := by
  have hlisting : (typesOf filter reverse declared).listing compile d =
      .ok (typeListing keep listed) := listing_types_iff.2 ⟨keep, listed, hkeep, h, rfl⟩
  refine ⟨_, renderAll_typeListing keep listed, fun verbose colours files => ?_⟩
  dsimp only
  rw [Invocation.run_of_listing rfl hlisting]
  exact ⟨rfl, rfl, rfl⟩

/-- **The listing of types, whatever is asked for.** Every declared type has one row, which tells its
    name, its kind, its supertype and its dependencies; the rows are numbered from 1 in the order in
    which they stand, and say the same of each type whatever that order is. The types stand as they
    are declared, or backwards; or as the finished schema has them, of the types as declared or of
    these backwards, and then there must be such a schema. With a filter, whatever names it keeps,
    the rows of these names are left, in their order and with their numbers. -/
theorem types_prints (compile : FilterLanguage) (d : Draft) (reverse declared : Bool)
    (h : declared = true ∨ ∃ s, d.finalize = .ok s) :
    ∃ listed : List TypeDef, listed.Perm d.types ∧
      (declared = true → listed = if reverse then d.types.reverse else d.types) ∧
      (declared = false → ∃ s : Schema, (if reverse then d.reverse else d).finalize = .ok s ∧
        listed = s.types) ∧
      (rows listed).map Row.number = List.range' 1 d.types.length ∧
      (rows listed).map Row.entry = listed.map TypeDef.entry ∧
      ((rows listed).map Row.entry).Perm (d.types.map TypeDef.entry) ∧
      (Command.typesOf none reverse declared).Prints compile d (rows listed) ∧
      ∀ text keep, compile text = some keep →
        (Command.typesOf (some text) reverse declared).Prints compile d
          ((rows listed).filter fun r => keep r.entry.name) := by
  obtain ⟨listed, hlisted, hdeclared, hresolved⟩ := exists_listedTypes
    (h.imp_right (finalize_ok_of_perm (types_reverse_perm d reverse)))
  rw [types_ite_reverse] at hdeclared
  have hperm : listed.Perm d.types := listedTypes_perm hlisted
  refine ⟨listed, hperm, hdeclared, hresolved, ?_, map_entry_rows listed, ?_, ?_,
    fun text keep hkeep => ?_⟩
  · rw [map_number_rows, hperm.length_eq]
  · rw [map_entry_rows]
    exact hperm.map _
  · have hkeep : keptNames compile none = .ok fun _ => true := rfl
    have hall := Command.typesOf_prints hkeep hlisted
    rwa [List.filter_true] at hall
  · refine Command.typesOf_prints ?_ hlisted
    unfold keptNames
    simp only [hkeep]

/-- A line that is declared before the points it refers to: among the declared types the points are
    second, among those resolved they are first, and a filter leaves them their number. -/
theorem types_prints_points :
    let line : TypeDef := ⟨⟨"Line", "Array", none⟩, .array "Point"⟩
    let point : TypeDef := ⟨⟨"Point", "Struct", none⟩, .struct []⟩
    let d : Draft := Draft.build "plane" [.type line, .type point]
    (Command.typesOf none false false).Prints Pattern.compile? d
      [⟨1, ⟨"Point", .struct, "Struct", []⟩⟩, ⟨2, ⟨"Line", .array, "Array", ["Point"]⟩⟩] ∧
    (Command.typesOf (some "oi") false true).Prints Pattern.compile? d
      [⟨2, ⟨"Point", .struct, "Struct", []⟩⟩] ∧
    (Command.typesOf (some "oi") false false).Prints Pattern.compile? d
      [⟨1, ⟨"Point", .struct, "Struct", []⟩⟩] := by
  intro line point d
  have hmatch : ((Pattern.compile? "oi").map fun keep => (keep "Point", keep "Line")) =
      some (true, false) := by decide +kernel
  obtain ⟨keep, hkeep, hnames⟩ := Option.map_eq_some_iff.1 hmatch
  obtain ⟨hpoint, hline⟩ := Prod.mk.inj hnames
  have hfinal : d.finalize = .ok ⟨d.header, [point, line], []⟩ := rfl
  obtain ⟨_, _, hdeclared, _, _, _, _, _, hfiltered⟩ :=
    types_prints Pattern.compile? d false true (Or.inl rfl)
  obtain rfl := hdeclared rfl
  obtain ⟨_, _, _, hresolved, _, _, _, hall, hfiltered'⟩ :=
    types_prints Pattern.compile? d false false (Or.inr ⟨_, hfinal⟩)
  obtain ⟨s, hs, rfl⟩ := hresolved rfl
  cases hfinal.symm.trans hs
  have hrows : rows [line, point] = [⟨1, ⟨"Line", .array, "Array", ["Point"]⟩⟩,
      ⟨2, ⟨"Point", .struct, "Struct", []⟩⟩] := rfl
  have hrows' : rows [point, line] = [⟨1, ⟨"Point", .struct, "Struct", []⟩⟩,
      ⟨2, ⟨"Line", .array, "Array", ["Point"]⟩⟩] := rfl
  have hkept : (rows [line, point]).filter (fun r => keep r.entry.name) =
      [⟨2, ⟨"Point", .struct, "Struct", []⟩⟩] := by
    simp [hrows, hpoint, hline]
  have hkept' : (rows [point, line]).filter (fun r => keep r.entry.name) =
      [⟨1, ⟨"Point", .struct, "Struct", []⟩⟩] := by
    simp [hrows', hpoint, hline]
  have hprints := hfiltered "oi" _ hkeep
  have hprints' := hfiltered' "oi" _ hkeep
  exact ⟨hall, hkept ▸ hprints, hkept' ▸ hprints'⟩

end InterfaceSchema
