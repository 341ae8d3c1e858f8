import InterfaceSchema.Proofs.CommandLine.FileTree
import InterfaceSchema.Proofs.Listing.Colours
import InterfaceSchema.Proofs.Listing.Types

/-!
# Where a listing goes

A command lists the same wherever its listing goes. On standard output it may have colours, and
without their escape sequences it is the plain listing; in a file it is always the plain listing.

* `Invocation.withOut`: what is asked for, with a file for the listing;
* `Invocation.run_out`: such a run writes the plain listing wherever it can be written;
* `Invocation.run_plain`: colours and destination do not change the text.
-/

namespace InterfaceSchema

open Text

variable {compile : FilterLanguage} {d : Draft} {i : Invocation} {spans : List Span}
  {colours : Bool} {t : FileTree} {path : String}

/-! ## 1. A file for the listing -/

/-- The command, with a file for its listing. -/
def Command.withOut (path : String) : Command → Command
  | types request => types { request with output := { request.output with out := some path } }
  | resources output => resources { output with out := some path }

/-- What is asked for, with a file for the listing. -/
def Invocation.withOut (path : String) (i : Invocation) : Invocation :=
  { i with command := i.command.withOut path }

theorem Command.output_withOut (path : String) (c : Command) :
    (c.withOut path).output = { c.output with out := some path } := by
  cases c <;> rfl

/-- What is listed does not depend on where it goes. -/
theorem Command.listing_withOut (path : String) (c : Command) :
    (c.withOut path).listing compile d = c.listing compile d := by
  cases c <;> rfl

/-! ## 2. The text of a listing -/

/-- A listing has no escape character but those of the texts that are declared. -/
theorem Command.isPlain_of_mem_listing (htypes : ∀ t ∈ d.types, ∀ s ∈ t.shown, IsPlainText s)
    (hresources : ∀ r ∈ d.resources, ∀ s ∈ r.shown, IsPlainText s) {c : Command}
    (h : c.listing compile d = .ok spans) : ∀ span ∈ spans, span.IsPlain := by
  cases c with
  | types request =>
    obtain ⟨keep, listed, _, hlisted, rfl⟩ := listing_types_iff.1 h
    exact isPlain_of_mem_typeListing
      (fun t ht => htypes t ((listedTypes_perm hlisted).mem_iff.1 ht)) keep
  | resources output =>
    unfold listing at h
    cases hs : d.finalize with
    | error e => rw [hs] at h; cases h
    | ok s =>
      rw [hs] at h
      cases h
      obtain ⟨_, _, rfl⟩ := finalize_ok_iff.1 hs
      exact isPlain_of_mem_resourceListing hresources

/-- A run that succeeds has a listing, unless it only explains what was asked for. -/
theorem Invocation.listing_of_run (hnoOp : i.command.output.noOp = false)
    (h : (i.run compile d colours t).result = .ok ()) :
    ∃ spans, i.command.listing compile d = .ok spans := by
  cases hlisting : i.command.listing compile d with
  | ok spans => exact ⟨spans, rfl⟩
  | error e =>
    unfold run at h
    rw [decide_eq hnoOp, hlisting] at h
    cases h

/-- With a file for its listing a run stores the plain one. -/
theorem Invocation.run_of_out (hnoOp : i.command.output.noOp = false)
    (h : i.command.listing compile d = .ok spans) (hout : i.command.output.out = some path)
    (colours : Bool) (t : FileTree) :
    i.run compile d colours t =
      ((Action.store path (renderAll false spans)).perform t).after (i.reported compile d) := by
  rw [run_of_listing hnoOp h, OutputSettings.deliver, hout]

/-- Without one it prints its listing. -/
theorem Invocation.run_of_no_out (hnoOp : i.command.output.noOp = false)
    (h : i.command.listing compile d = .ok spans) (hout : i.command.output.out = none)
    (colours : Bool) (t : FileTree) :
    i.run compile d colours t =
      ((Action.print (renderAll colours spans)).perform t).after (i.reported compile d) := by
  rw [run_of_listing hnoOp h, OutputSettings.deliver, hout]

/-- **A run with a file for its listing writes the plain listing** wherever that can be written. -/
theorem Invocation.run_out (hnoOp : i.command.output.noOp = false)
    (h : i.command.listing compile d = .ok spans) (hpath : t.CanWrite path) (colours : Bool) :
    let outcome := (i.withOut path).run compile d colours t
    outcome.result = .ok () ∧ outcome.stdout = "" ∧
      outcome.files.read? path = some (renderAll false spans) := by
  have houtput := Command.output_withOut path i.command
  have hnoOp' : (i.withOut path).command.output.noOp = false :=
    (congrArg OutputSettings.noOp houtput).trans hnoOp
  have hout : (i.withOut path).command.output.out = some path :=
    congrArg OutputSettings.out houtput
  have hlisting : (i.withOut path).command.listing compile d = .ok spans :=
    (Command.listing_withOut path i.command).trans h
  obtain ⟨after, hafter, hread⟩ := hpath.read?_store (renderAll false spans)
  dsimp only
  rw [run_of_out hnoOp' hlisting hout, hafter]
  exact ⟨rfl, rfl, hread⟩

/-! ## 3. Colours and destination -/

/-- **Colours and destination never change the text.** Where no declared text that can be listed has
    an escape character, a command that succeeds, with colours or without, succeeds either way and
    leaves the same files; what it prints with colours is, without the escape sequences, what it
    prints without. With any path that can be written to for its listing it succeeds and prints
    nothing, whether there are colours or not, and the file has the text that was printed without
    them. -/
theorem Invocation.run_plain (htypes : ∀ t ∈ d.types, ∀ s ∈ t.shown, IsPlainText s)
    (hresources : ∀ r ∈ d.resources, ∀ s ∈ r.shown, IsPlainText s)
    (hnoOp : i.command.output.noOp = false)
    (hrun : (i.run compile d colours t).result = .ok ()) :
    let coloured := i.run compile d true t
    let plain := i.run compile d false t
    coloured.result = .ok () ∧ plain.result = .ok () ∧ coloured.files = plain.files ∧
      stripEscapes coloured.stdout.toList = plain.stdout.toList ∧
      (i.command.output.out = none → ∀ path, t.CanWrite path → ∀ colours,
        let written := (i.withOut path).run compile d colours t
        written.result = .ok () ∧ written.stdout = "" ∧
          written.files.read? path = some plain.stdout) := by
  obtain ⟨spans, hspans⟩ := listing_of_run hnoOp hrun
  have hplain : ∀ span ∈ spans, span.IsPlain :=
    Command.isPlain_of_mem_listing htypes hresources hspans
  dsimp only
  cases hout : i.command.output.out with
  | some file =>
    -- The listing goes to a file already: nothing is printed, and colours make no difference.
    rw [run_of_out hnoOp hspans hout] at hrun
    obtain ⟨after, hafter, _⟩ := (FileTree.store_iff.1 hrun).read?_store (renderAll false spans)
    rw [run_of_out hnoOp hspans hout, run_of_out hnoOp hspans hout, hafter]
    refine ⟨rfl, rfl, rfl, ?_, fun hnone => by cases hnone⟩
    show stripEscapes "".toList = "".toList
    rw [String.toList_empty, stripEscapes]
  | none =>
    rw [run_of_no_out hnoOp hspans hout, run_of_no_out hnoOp hspans hout]
    exact ⟨rfl, rfl, rfl, stripEscapes_renderAll hplain,
      fun _ path hpath colours => run_out hnoOp hspans hpath colours⟩

/-- The list of one type: with colours, without, and in a file whose directory is not there yet. -/
theorem Invocation.run_plain_point :
    let point : TypeDef := ⟨⟨"Point", "Struct", none⟩, .struct []⟩
    let d : Draft := Draft.build "plane" [.type point]
    let i : Invocation := ⟨false, Command.typesOf none false false⟩
    let t : FileTree := ⟨[], []⟩
    let row := "  1  Point          Struct  \n"
    let written := (i.withOut "sub/list").run Pattern.compile? d true t
    (i.run Pattern.compile? d true t).stdout =
        "  1  \x1b[1mPoint         \x1b[0m \x1b[36mStruct  \x1b[0m\n" ∧
      stripEscapes (i.run Pattern.compile? d true t).stdout.toList = row.toList ∧
      t.CanWrite "sub/list" ∧ written.result = .ok () ∧ written.stdout = "" ∧
      written.files.read? "sub/list" = some row := by
  intro point d i t row written
  have hpath : t.CanWrite "sub/list" := by decide
  have hcoloured : (i.run Pattern.compile? d true t).stdout =
      "  1  \x1b[1mPoint         \x1b[0m \x1b[36mStruct  \x1b[0m\n" := by decide +kernel
  have hrow : (i.run Pattern.compile? d false t).stdout = row := by decide +kernel
  have hresult : (i.run Pattern.compile? d false t).result = .ok () := rfl
  obtain ⟨_, _, _, hstrip, hfile⟩ :=
    Invocation.run_plain (d := d) (by decide) (by decide) rfl hresult
  obtain ⟨hok, hnothing, hread⟩ := hfile rfl "sub/list" hpath true
  exact ⟨hcoloured, hrow ▸ hstrip, hpath, hok, hnothing, hrow ▸ hread⟩

end InterfaceSchema
