import InterfaceSchema.Proofs.Listing.Types

/-!
# Runs that are refused

Whatever can fail before a run does anything is decided first: the filter, then the types. A run
that is refused for either prints nothing and leaves all files as they are. Only a run that is to
show what was asked for is never refused.

* `Command.HasBadFilter`, `Command.resolved?`: what a command can be refused for;
* `Command.listing_of_badFilter`, `Command.listing_of_unresolved`, `Command.exists_listing`: its
  listing fails for the filter first, then for the types that it resolves, and for nothing else;
* `Action.message_perform`: no failure to write reads like a failure to finalize;
* `Invocation.Refused`, `Invocation.run_refused`: which runs are refused, and with what error.
-/

namespace InterfaceSchema

open Text

variable {compile : FilterLanguage} {d : Draft} {c : Command} {ts : List TypeDef}
  {cause : SchemaError}

/-! ## 1. What can be wrong -/

/-- The filter of a command. -/
def Command.filter? : Command → Option String
  | types request => request.filter
  | resources _ => none

/-- The command has a filter that is no expression. -/
def Command.HasBadFilter (compile : FilterLanguage) (c : Command) : Prop :=
  ∃ text, c.filter? = some text ∧ compile text = none

/-- The types that a command resolves; none where it lists them as they are declared. -/
def Command.resolved? (d : Draft) : Command → Option (List TypeDef)
  | types request =>
    if request.declared then none
    else some (if request.reverse then d.types.reverse else d.types)
  | resources _ => some d.types

theorem Command.resolved?_types (request : TypesRequest) (d : Draft) :
    (types request).resolved? d = if request.declared then none
      else some (if request.reverse then d.types.reverse else d.types) := rfl

/-! ## 2. Listings that fail -/

theorem Command.listing_of_badFilter (h : c.HasBadFilter compile) (d : Draft) :
    c.listing compile d = .error .invalidFilter := by
  obtain ⟨text, hfilter, hcompile⟩ := h
  cases c with
  | resources output => cases hfilter
  | types request =>
    have htext : request.filter = some text := hfilter
    have hkeep : keptNames compile request.filter = .error .invalidFilter := by
      unfold keptNames
      rw [htext]
      simp only [hcompile]
    unfold listing
    simp only [hkeep]

/-- A filter that is not bad keeps some names. -/
theorem Command.exists_keptNames {request : TypesRequest}
    (h : ¬ (types request).HasBadFilter compile) :
    ∃ keep, keptNames compile request.filter = .ok keep := by
  unfold keptNames
  cases hfilter : request.filter with
  | none => exact ⟨_, rfl⟩
  | some text =>
    cases hcompile : compile text with
    | some keep => exact ⟨keep, by simp only [hcompile]⟩
    | none => exact absurd ⟨text, hfilter, hcompile⟩ h

/-- Behind the filter a listing of types has what is to be listed, or its error. -/
theorem Command.listing_of_keptNames {request : TypesRequest} {keep : String → Bool}
    (h : keptNames compile request.filter = .ok keep) (d : Draft) :
    (types request).listing compile d =
      (listedTypes (if request.reverse then d.reverse else d) request.declared).map
        (typeListing keep) := by
  unfold listing
  simp only [h]
  cases listedTypes (if request.reverse then d.reverse else d) request.declared <;> rfl

theorem listedTypes_of_unresolved (h : resolveOrder d.types = .error cause) :
    listedTypes d false = .error (.notFinalized cause) := by
  have hd : d.finalize = .error cause := finalize_error_iff.2 h
  unfold listedTypes
  rw [if_neg Bool.false_ne_true, hd]

/-- **Types that are to be resolved and cannot be** are reported with the defect that they have. -/
theorem Command.listing_of_unresolved (hfilter : ¬ c.HasBadFilter compile)
    (hresolved : c.resolved? d = some ts) (h : resolveOrder ts = .error cause) :
    c.listing compile d = .error (.notFinalized cause) := by
  cases c with
  | resources output =>
    cases hresolved
    have hd : d.finalize = .error cause := finalize_error_iff.2 h
    unfold listing
    simp only [hd]
  | types request =>
    obtain ⟨keep, hkeep⟩ := exists_keptNames hfilter
    rw [resolved?_types] at hresolved
    cases hdeclared : request.declared with
    | true =>
      rw [hdeclared, if_pos rfl] at hresolved
      cases hresolved
    | false =>
      rw [hdeclared, if_neg Bool.false_ne_true] at hresolved
      cases hresolved
      rw [← types_ite_reverse] at h
      rw [listing_of_keptNames hkeep, hdeclared, listedTypes_of_unresolved h]
      rfl

/-- **There is nothing else that a listing can fail for.** -/
theorem Command.exists_listing (hfilter : ¬ c.HasBadFilter compile)
    (h : ∀ ts, c.resolved? d = some ts → ∃ order, resolveOrder ts = .ok order) :
    ∃ spans, c.listing compile d = .ok spans := by
  cases c with
  | resources output =>
    obtain ⟨order, horder⟩ := h d.types rfl
    have hd : d.finalize = .ok _ := finalize_ok_iff.2 ⟨order, horder, rfl⟩
    unfold listing
    simp only [hd]
    exact ⟨_, rfl⟩
  | types request =>
    obtain ⟨keep, hkeep⟩ := exists_keptNames hfilter
    have hfinal : request.declared = true ∨
        ∃ s, (if request.reverse then d.reverse else d).finalize = .ok s := by
      cases hdeclared : request.declared with
      | true => exact Or.inl rfl
      | false =>
        obtain ⟨order, horder⟩ := h _ (by rw [resolved?_types, hdeclared, if_neg Bool.false_ne_true])
        rw [← types_ite_reverse] at horder
        exact Or.inr ⟨_, finalize_ok_iff.2 ⟨order, horder, rfl⟩⟩
    obtain ⟨listed, hlisted, _⟩ := exists_listedTypes hfinal
    rw [listing_of_keptNames hkeep, hlisted]
    exact ⟨_, rfl⟩

/-! ## 3. Runs that fail -/

/-- An action fails where a directory or a file cannot be written, and says so. -/
theorem Action.message_perform {task : Action} {t : FileTree} {e : RunError}
    (h : (task.perform t).result = .error e) : ∃ path,
      e.message = "failed to create " ++ path ∨ e.message = "failed to write " ++ path := by
  cases task with
  | explain text => cases h
  | print text => cases h
  | store path text =>
    unfold perform at h
    dsimp only at h
    split at h
    · cases h
      exact ⟨_, Or.inl rfl⟩
    · split at h
      · cases h
      · cases h
        exact ⟨path, Or.inr rfl⟩

/-- The run fails and says so with the message. -/
def Invocation.FailsWith (compile : FilterLanguage) (i : Invocation) (d : Draft) (colours : Bool)
    (t : FileTree) (message : String) : Prop :=
  ∃ e, (i.run compile d colours t).result = .error e ∧ e.message = message

/-- The run fails with the error, nothing is printed, and the files are as they were. -/
structure Invocation.Refused (compile : FilterLanguage) (i : Invocation) (d : Draft)
    (colours : Bool) (t : FileTree) (e : RunError) : Prop where
  result : (i.run compile d colours t).result = .error e
  stdout : (i.run compile d colours t).stdout = ""
  files : (i.run compile d colours t).files = t

namespace Invocation

variable {i : Invocation} {colours : Bool} {t : FileTree} {e : RunError}

/-- A command without a listing is refused. -/
theorem refused_of_listing (hnoOp : i.command.output.noOp = false)
    (h : i.command.listing compile d = .error e) : i.Refused compile d colours t e := by
  have hrun : i.run compile d colours t = ⟨.error e, "", "", i.reported compile d, t⟩ := by
    unfold run
    rw [decide_eq hnoOp, h]
    rfl
  constructor <;> rw [hrun]

theorem Refused.failsWith (h : i.Refused compile d colours t e) :
    i.FailsWith compile d colours t e.message :=
  ⟨e, h.result, rfl⟩

/-- A command with a listing does not fail as one without types to list would. -/
theorem not_failsWith_of_listing {spans : List Span} (hnoOp : i.command.output.noOp = false)
    (h : i.command.listing compile d = .ok spans) :
    ¬ i.FailsWith compile d colours t "failed to finalize sample schema" := by
  rintro ⟨e, he, hmessage⟩
  rw [run_of_listing hnoOp h] at he
  obtain ⟨path, hpath | hpath⟩ := Action.message_perform he
  all_goals
    rw [hmessage] at hpath
    have hchars := congrArg (fun s => s.toList.take 11) hpath
    rw [String.toList_append, List.take_append_of_le_length (by decide)] at hchars
    exact absurd hchars (by decide)

/-- To show what was asked for needs no listing. -/
theorem run_of_noOp (h : i.command.output.noOp = true) :
    let outcome := i.run compile d colours t
    outcome.result = .ok () ∧ outcome.stdout = "" ∧ outcome.files = t := by
  unfold run decide
  rw [if_pos h]
  exact ⟨rfl, rfl, rfl⟩

/-- **Which runs are refused, and with what error.** A run that is to show what was asked for
    succeeds, prints nothing and leaves all files as they are, whatever else was asked for. Any
    other is refused for a filter that is no expression, whatever the types are; else it is refused
    for the types that it resolves, with the defect that these have, and fails with that message
    only then; and it never does where it resolves none. -/
theorem run_refused (compile : FilterLanguage) (i : Invocation) (d : Draft) (colours : Bool)
    (t : FileTree) :
    (i.command.output.noOp = true →
      let outcome := i.run compile d colours t
      outcome.result = .ok () ∧ outcome.stdout = "" ∧ outcome.files = t) ∧
    (i.command.output.noOp = false →
      (i.command.HasBadFilter compile → i.Refused compile d colours t .invalidFilter ∧
        i.FailsWith compile d colours t "invalid --filter expression") ∧
      (¬ i.command.HasBadFilter compile →
        (∀ ts, i.command.resolved? d = some ts →
          (i.FailsWith compile d colours t "failed to finalize sample schema" ↔
            ∃ cause, resolveOrder ts = .error cause) ∧
          ∀ cause, resolveOrder ts = .error cause →
            i.Refused compile d colours t (.notFinalized cause)) ∧
        (i.command.resolved? d = none →
          ¬ i.FailsWith compile d colours t "failed to finalize sample schema"))) := by
  refine ⟨run_of_noOp, fun hnoOp => ⟨fun hbad => ?_, fun hgood => ⟨fun ts hresolved => ?_,
    fun hdeclared => ?_⟩⟩⟩
  · have hrefused : i.Refused compile d colours t .invalidFilter :=
      refused_of_listing hnoOp (Command.listing_of_badFilter hbad d)
    exact ⟨hrefused, hrefused.failsWith⟩
  · have hrefused : ∀ cause, resolveOrder ts = .error cause →
        i.Refused compile d colours t (.notFinalized cause) := fun cause hcause =>
      refused_of_listing hnoOp (Command.listing_of_unresolved hgood hresolved hcause)
    refine ⟨⟨fun hfails => ?_, fun ⟨cause, hcause⟩ => (hrefused cause hcause).failsWith⟩, hrefused⟩
    cases horder : resolveOrder ts with
    | error cause => exact ⟨cause, rfl⟩
    | ok order =>
      have hall : ∀ us, i.command.resolved? d = some us → ∃ order, resolveOrder us = .ok order := by
        intro us hus
        cases hresolved.symm.trans hus
        exact ⟨order, horder⟩
      obtain ⟨spans, hspans⟩ := Command.exists_listing hgood hall
      exact absurd hfails (not_failsWith_of_listing hnoOp hspans)
  · have hnone : ∀ ts, i.command.resolved? d = some ts → ∃ order, resolveOrder ts = .ok order := by
      intro ts hts
      cases hdeclared.symm.trans hts
    obtain ⟨spans, hspans⟩ := Command.exists_listing hgood hnone
    exact not_failsWith_of_listing hnoOp hspans

/-- A loop of `Ring` and a dangling `Gone`, with an unclosed filter and a listing for a directory
    that is a file: to show all this succeeds; else the filter is refused first; without it the
    order of declaration tells which defect is reported; and as they are declared the types can be
    listed. -/
theorem run_refused_ring :
    let ring : TypeDef := ⟨⟨"Ring", "Array", none⟩, .array "Ring"⟩
    let lost : TypeDef := ⟨⟨"Lost", "Gone", none⟩, .synonym⟩
    let d : Draft := Draft.build "rings" [.type ring, .type lost]
    let t : FileTree := ⟨[(["out"], .file "kept")], []⟩
    let ask (noOp : Bool) (filter : Option String) (reverse declared : Bool) : Invocation :=
      ⟨false, .types ⟨⟨some "out/list", noOp⟩, filter, reverse, declared⟩⟩
    ((ask true (some "(") true false).run Pattern.compile? d true t).result = .ok () ∧
    ((ask true (some "(") true false).run Pattern.compile? d true t).stdout = "" ∧
    ((ask true (some "(") true false).run Pattern.compile? d true t).files = t ∧
    (ask false (some "(") true false).Refused Pattern.compile? d true t .invalidFilter ∧
    (ask false none false false).Refused Pattern.compile? d true t
      (.notFinalized (.cycle ["Ring", "Ring"])) ∧
    (ask false none true false).Refused Pattern.compile? d true t
      (.notFinalized (.danglingReference "Lost" "Gone")) ∧
    ¬ (ask false none false true).FailsWith Pattern.compile? d true t
      "failed to finalize sample schema" := by
  intro ring lost d t ask
  have hcompile : (Pattern.compile? "(").isNone = true := by decide +kernel
  have hbad : (ask false (some "(") true false).command.HasBadFilter Pattern.compile? :=
    ⟨"(", rfl, Option.isNone_iff_eq_none.1 hcompile⟩
  have hgood : ∀ reverse declared,
      ¬ (ask false none reverse declared).command.HasBadFilter Pattern.compile? := by
    rintro reverse declared ⟨text, htext, _⟩
    cases htext
  obtain ⟨hshown, _⟩ := run_refused Pattern.compile? (ask true (some "(") true false) d true t
  obtain ⟨_, hfilter⟩ := run_refused Pattern.compile? (ask false (some "(") true false) d true t
  obtain ⟨_, hring⟩ := run_refused Pattern.compile? (ask false none false false) d true t
  obtain ⟨_, hlost⟩ := run_refused Pattern.compile? (ask false none true false) d true t
  obtain ⟨_, hdeclared⟩ := run_refused Pattern.compile? (ask false none false true) d true t
  obtain ⟨hok, hnothing, hfiles⟩ := hshown rfl
  exact ⟨hok, hnothing, hfiles, ((hfilter rfl).1 hbad).1,
    (((hring rfl).2 (hgood _ _)).1 [ring, lost] rfl).2 _ rfl,
    (((hlost rfl).2 (hgood _ _)).1 [lost, ring] rfl).2 _ rfl,
    ((hdeclared rfl).2 (hgood _ _)).2 rfl⟩

end Invocation

end InterfaceSchema
