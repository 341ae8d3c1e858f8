import InterfaceSchema.Proofs.Resolution.Throughout
import InterfaceSchema.Proofs.Schema.Contents
import Mathlib.Data.List.Nodup

/-!
# What finalizing reports

The events of a draft tell the whole course of its finalizing, and where it fails they tell how far
it has come: the types that were emitted up to there make a list in order of their own, and nobody
who is to blame for the error is among them.

* `traceOf`: one event for each name, at its place;
* `lastWalk`, `Logged`: the log of the walk as the resolution leaves it is the trace of the types
  that it has emitted (`logged_lastWalk`);
* `IsFront`, `Settled.isFront`: distinct declared names, each after everything it refers to;
* `events_eq`, `traced_of_ok`, `traced_of_error`: the parts of what is reported;
* `events_build`: what is reported of a draft that is finished, and of one that fails.
-/

namespace InterfaceSchema

variable {types : List TypeDef} {order : List Nat} {w : Walk} {name : String} {position : Nat}

/-! ## 1. The log of a walk -/

/-- One event for each name, at its place. -/
def traceOf (names : List String) : List Event :=
  names.mapIdx fun position name => .resolved name position

/-- What an event says before its fields: its level and its message. -/
def Event.heading (e : Event) : EventLevel × String :=
  (e.level, e.message)

/-- The log is the trace of the types that the walk has emitted. -/
structure Logged (types : List TypeDef) (w : Walk) : Prop where
  lt : ∀ p ∈ w.ordered, p < types.length
  log_eq : w.log = traceOf ((arrange types w.ordered).map (·.name))

theorem logged_start (types : List TypeDef) : Logged types .start where
  lt _ h := absurd h List.not_mem_nil
  log_eq := rfl

theorem length_arrange (h : ∀ p ∈ order, p < types.length) :
    (arrange types order).length = order.length := by
  simpa using congrArg List.length (map_some_arrange order h)

/-- **To emit a position adds its event at the end.** -/
theorem Logged.emit (h : Logged types w) (hat : DeclaredAt types position name) :
    Logged types (w.emit name position) := by
  obtain ⟨t, ht, rfl⟩ := hat
  have harrange : arrange types (w.ordered ++ [position]) = arrange types w.ordered ++ [t] := by
    rw [arrange, List.filterMap_append, List.filterMap_cons_some ht, List.filterMap_nil]
  refine ⟨fun p hp => ?_, ?_⟩
  · rcases List.mem_append.1 hp with hp | hp
    · exact h.lt p hp
    · rw [List.mem_singleton] at hp
      exact hp ▸ (List.getElem?_eq_some_iff.1 ht).1
  · show w.log ++ [.resolved t.name w.ordered.length] =
      traceOf ((arrange types (w.ordered ++ [position])).map (·.name))
    rw [harrange, List.map_append, List.map_cons, List.map_nil, traceOf, List.mapIdx_concat,
      List.length_map, length_arrange h.lt, h.log_eq, traceOf]

/-- The walk as the resolution leaves it, finished or stopped. -/
def lastWalk (types : List TypeDef) : Walk :=
  match resolve types with
  | .ok w => w
  | .error stop => stop.walk

theorem resolveEvents_eq (types : List TypeDef) : resolveEvents types = (lastWalk types).log := by
  unfold resolveEvents lastWalk
  cases resolve types <;> rfl

/-- **Every walk is logged**, finished or stopped. -/
theorem logged_lastWalk (types : List TypeDef) : Logged types (lastWalk types) := by
  have h : Yields (Logged types) (fun stop => Logged types stop.walk) (resolve types) :=
    resolve_keeps (fun _ _ h => ⟨h.lt, h.log_eq⟩) (fun _ _ _ hat h => h.emit hat)
      (fun _ h => ⟨h.lt, h.log_eq⟩) (logged_start types)
  unfold lastWalk
  cases hw : resolve types with
  | ok w => exact h.of_ok hw
  | error stop => exact h.of_error hw

/-- An order that is found is what the last walk has emitted. -/
theorem ordered_lastWalk_of_ok (h : resolveOrder types = .ok order) :
    (lastWalk types).ordered = order := by
  unfold resolveOrder at h
  unfold lastWalk
  cases hw : resolve types with
  | ok w =>
    rw [hw] at h
    exact Except.ok.inj h
  | error stop =>
    rw [hw] at h
    cases h

/-- **Where there is no order**, nothing was emitted for an error of names; for any other a walk has
    met the fault, and what it had emitted is what was emitted. -/
theorem ordered_lastWalk_of_error {error : SchemaError} (h : resolveOrder types = .error error) :
    (error.isOfReference = false ∧ (lastWalk types).ordered = []) ∨
    (error.isOfReference = true ∧ WellNamed types ∧ ∃ after, Good types after ∧
      Fault types after error ∧ (lastWalk types).ordered = after.ordered) := by
  unfold resolveOrder at h
  unfold lastWalk
  cases hw : resolve types with
  | ok w =>
    rw [hw] at h
    cases h
  | error stop =>
    rw [hw] at h
    cases h
    rcases resolve_error_cases hw with ⟨hkind, hstart⟩ | ⟨hkind, hn, after, hg, hfault, hafter⟩
    · exact Or.inl ⟨hkind, congrArg Walk.ordered hstart⟩
    · refine Or.inr ⟨hkind, hn, after, hg, hfault, ?_⟩
      show stop.walk.ordered = after.ordered
      rw [hafter]
      rfl

/-! ## 2. The names of an order -/

/-- What stands at a place of the order is named at that place. -/
theorem getElem?_names {k : Nat} (h : ∀ p ∈ order, p < types.length) :
    ((arrange types order).map (·.name))[k]? = some name ↔
      ∃ p, order[k]? = some p ∧ DeclaredAt types p name := by
  rw [List.getElem?_map, getElem?_arrange h]
  simp only [DeclaredAt, Option.map_eq_some_iff, Option.bind_eq_some_iff]
  constructor
  · rintro ⟨t, ⟨p, hp, ht⟩, hname⟩
    exact ⟨p, hp, t, ht, hname⟩
  · rintro ⟨p, hp, t, ht, hname⟩
    exact ⟨t, ⟨p, hp, ht⟩, hname⟩

theorem mem_names_iff : name ∈ (arrange types order).map (·.name) ↔ Emitted types order name := by
  simp only [List.mem_map, arrange, List.mem_filterMap, Emitted, DeclaredAt]
  constructor
  · rintro ⟨t, ⟨p, hp, ht⟩, hname⟩
    exact ⟨p, hp, t, ht, hname⟩
  · rintro ⟨p, hp, t, ht, hname⟩
    exact ⟨t, ⟨p, hp, ht⟩, hname⟩

/-- Distinct declared names, each after everything it refers to. -/
structure IsFront (types : List TypeDef) (names : List String) : Prop where
  nodup : names.Nodup
  declared : ∀ a ∈ names, Declared types a
  earlier : ∀ (k : Nat) (a : String), names[k]? = some a → ∀ r, RefersTo types a r →
    isBaseName r = true ∨ ∃ j < k, names[j]? = some r

theorem isFront_nil (types : List TypeDef) : IsFront types [] where
  nodup := List.nodup_nil
  declared _ h := absurd h List.not_mem_nil
  earlier k a h := by
    rw [List.getElem?_nil] at h
    cases h

/-- **The names of a settled order are distinct, and each comes after everything it refers to**,
    also where the order has left out some positions. -/
theorem Settled.isFront (hn : WellNamed types) (hs : Settled types order) :
    IsFront types ((arrange types order).map (·.name)) where
  nodup := by
    rw [List.map_filterMap]
    refine List.Nodup.filterMap (fun p q name hp hq => ?_) hs.nodup
    rw [Option.mem_def, Option.map_eq_some_iff] at hp hq
    exact hn.at_inj hp hq
  declared a ha := by
    obtain ⟨p, _, hat⟩ := mem_names_iff.1 ha
    exact hat.declared
  earlier k a hk r href := by
    obtain ⟨p, hp, t, ht, rfl⟩ := (getElem?_names hs.lt).1 hk
    rcases hs.reference_earlier k p t hp ht r (hn.mem_references ht href) with
      hb | ⟨j, hj, q, hq⟩
    · exact Or.inl hb
    · exact Or.inr ⟨j, hj, (getElem?_names hs.lt).2 ⟨q, hq⟩⟩

/-! ## 3. The events of a draft -/

/-- The name that the event of a single type reports. -/
def Event.typeName? : Event → Option String
  | .resolved name _ => some name
  | .finalizing .. | .finalized .. | .stored _ => none

/-- The names that are reported as emitted, in order. -/
def Draft.traced (d : Draft) : List String :=
  d.events.filterMap Event.typeName?

theorem filterMap_traceOf (names : List String) :
    (traceOf names).filterMap Event.typeName? = names := by
  unfold traceOf
  induction names using List.reverseRecOn with
  | nil => rfl
  | append_singleton rest name ih =>
    rw [List.mapIdx_concat, List.filterMap_append, ih]
    rfl

theorem heading_traceOf (names : List String) :
    (traceOf names).map Event.heading = List.replicate names.length (.trace, "resolved type") := by
  unfold traceOf
  induction names using List.reverseRecOn with
  | nil => rfl
  | append_singleton rest name ih =>
    rw [List.mapIdx_concat, List.map_append, ih, List.length_append, List.length_singleton,
      List.replicate_succ']
    rfl

/-- What is reported at the end, which only a draft that is finished comes to. -/
def Draft.closing (d : Draft) : List Event :=
  match d.finalize with
  | .ok _ => [.finalized d.header.name d.types.length]
  | .error _ => []

/-- **The events of a draft are its beginning, the trace of what it has emitted, and its end.** -/
theorem events_eq (d : Draft) : d.events =
    .finalizing d.header.name d.types.length d.resources.length ::
      (traceOf ((arrange d.types (lastWalk d.types).ordered).map (·.name)) ++ d.closing) := by
  unfold Draft.events Draft.closing
  rw [resolveEvents_eq, (logged_lastWalk d.types).log_eq]
  cases h : d.finalize with
  | error error => rfl
  | ok s =>
    obtain ⟨order, _, e⟩ := finalize_ok_iff.1 h
    have hname : s.header.name = d.header.name := by rw [e]
    simp only [List.cons_append, hname, (types_perm_of_finalize h).length_eq]

theorem traced_eq (d : Draft) :
    d.traced = (arrange d.types (lastWalk d.types).ordered).map (·.name) := by
  have hclosing : d.closing.filterMap Event.typeName? = [] := by
    unfold Draft.closing
    cases d.finalize <;> rfl
  unfold Draft.traced
  rw [events_eq, List.filterMap_cons_none rfl, List.filterMap_append, filterMap_traceOf, hclosing,
    List.append_nil]

/-- A finished draft has reported its types in the order of the schema. -/
theorem traced_of_ok {d : Draft} {s : Schema} (h : d.finalize = .ok s) :
    d.traced = s.types.map (·.name) := by
  obtain ⟨order, horder, rfl⟩ := finalize_ok_iff.1 h
  rw [traced_eq, ordered_lastWalk_of_ok horder]

/-- **Whatever was emitted up to a failure is clean.** Nothing was where a name was refused; and
    nobody who is to blame was. -/
theorem traced_of_error {d : Draft} {error : SchemaError} (h : d.finalize = .error error) :
    IsFront d.types d.traced ∧ (∀ a ∈ error.culprits, a ∉ d.traced) ∧
      (error.isOfReference = false → d.traced = []) := by
  rw [traced_eq]
  rcases ordered_lastWalk_of_error (finalize_error_iff.1 h) with
    ⟨_, hordered⟩ | ⟨hkind, hn, after, hg, hfault, hordered⟩
  · rw [hordered]
    exact ⟨isFront_nil d.types, fun _ _ => List.not_mem_nil, fun _ => rfl⟩
  · rw [hordered]
    refine ⟨hg.settled.isFront hn, fun a ha hmem => ?_, fun hname => ?_⟩
    · exact hg.not_emitted (hfault.mem_stack ha) (mem_names_iff.1 hmem)
    · rw [hkind] at hname
      cases hname

/-- **The events are faithful on every run.** They begin with the numbers of declared types and
    resources; then come the emitted types, at the places 0, 1, 2 and so on; and the end is reported
    exactly where the draft is finished. A finished draft has reported each of its types at the
    place that it has in the schema. A failing one has reported distinct declared names, each after
    everything it refers to, nobody who is to blame, and nothing at all where a name was refused. -/
theorem events_build (name : String) (calls : List Draft.Call) :
    let d := Draft.build name calls
    let types := calls.filterMap Draft.Call.type?
    let resources := calls.filterMap Draft.Call.resource?
    d.events = .finalizing name types.length resources.length ::
      (traceOf d.traced ++ match d.finalize with
        | .ok _ => [.finalized name types.length]
        | .error _ => []) ∧
    d.events.map Event.heading = (.debug, "finalizing schema") ::
      (List.replicate d.traced.length (.trace, "resolved type") ++ match d.finalize with
        | .ok _ => [(.debug, "schema finalized")]
        | .error _ => []) ∧
    (∀ s, d.finalize = .ok s → d.traced = s.types.map (·.name)) ∧
    ∀ error, d.finalize = .error error → d.traced.Nodup ∧ (∀ a ∈ d.traced, Declared types a) ∧
      (∀ (k : Nat) (a : String), d.traced[k]? = some a → ∀ r, RefersTo types a r →
        isBaseName r = true ∨ ∃ j < k, d.traced[j]? = some r) ∧
      (∀ a ∈ error.culprits, a ∉ d.traced) ∧ (error.isOfReference = false → d.traced = []) := by
  intro d types resources
  have hname : d.header.name = name := congrArg Header.name (Draft.header_build name calls)
  have htypes : d.types = types := Draft.types_build name calls
  have hresources : d.resources = resources := Draft.resources_build name calls
  have hevents : d.events = .finalizing name types.length resources.length ::
      (traceOf d.traced ++ d.closing) := by
    rw [events_eq, ← traced_eq, hname, htypes, hresources]
  refine ⟨?_, ?_, fun s h => traced_of_ok h, fun error h => ?_⟩
  · rw [hevents, Draft.closing, hname, htypes]
  · rw [hevents, List.map_cons, List.map_append, heading_traceOf, Draft.closing]
    cases d.finalize <;> rfl
  · obtain ⟨hfront, hblame, hnames⟩ := traced_of_error h
    rw [htypes] at hfront
    exact ⟨hfront.nodup, hfront.declared, hfront.earlier, hblame, hnames⟩

/-- `Route` reaches the sound `Point` and then the loop of `Ring`: `Point` is reported and nobody
    else is. Without the loop all three are; with a second `Point` behind them none is. -/
theorem events_build_route :
    let point : TypeDef := ⟨⟨"Point", "Int32", none⟩, .synonym⟩
    let route : TypeDef := ⟨⟨"Route", "Map", none⟩, .map "Ring" "Point"⟩
    let loop : TypeDef := ⟨⟨"Ring", "Union", none⟩, .union ["Point", "Ring"]⟩
    let ring : TypeDef := ⟨⟨"Ring", "Union", none⟩, .union ["Point"]⟩
    let stopped := Draft.build "map" [.type route, .version 1, .type loop, .type point]
    let finished := Draft.build "map" [.type route, .type ring, .type point]
    let refused := Draft.build "map" [.type route, .type ring, .type point, .type point]
    (stopped.finalize = .error (.cycle ["Ring", "Ring"]) ∧
      stopped.events = [.finalizing "map" 3 0, .resolved "Point" 0] ∧
      (∀ a ∈ ["Ring", "Ring"], a ∉ stopped.traced) ∧
      ∀ r, RefersTo [route, loop, point] "Point" r → isBaseName r = true ∨ ∃ j < 0,
        stopped.traced[j]? = some r) ∧
    (∃ s, finished.finalize = .ok s ∧ finished.traced = s.types.map (·.name) ∧
      finished.events =
        .finalizing "map" 3 0 :: (traceOf finished.traced ++ [.finalized "map" 3])) ∧
    refused.finalize = .error (.duplicateType "Point") ∧ refused.traced = [] := by
  intro point route loop ring stopped finished refused
  let s : Schema := ⟨⟨"map", none, none, none, none⟩, [point, ring, route], []⟩
  have hstopped : stopped.finalize = .error (.cycle ["Ring", "Ring"]) := rfl
  have hfinished : finished.finalize = .ok s := rfl
  have hrefused : refused.finalize = .error (.duplicateType "Point") := rfl
  have htraced : stopped.traced = ["Point"] := rfl
  obtain ⟨hevents, _, _, herror⟩ :=
    events_build "map" [.type route, .version 1, .type loop, .type point]
  obtain ⟨_, _, hearlier, hblame, _⟩ := herror _ hstopped
  obtain ⟨hall, _, hok, _⟩ := events_build "map" [.type route, .type ring, .type point]
  obtain ⟨_, _, _, hnone⟩ :=
    events_build "map" [.type route, .type ring, .type point, .type point]
  rw [hstopped, htraced] at hevents
  rw [hfinished] at hall
  exact ⟨⟨hstopped, hevents, hblame, hearlier 0 "Point" (congrArg (·[0]?) htraced)⟩,
    ⟨s, hfinished, hok s hfinished, hall⟩, hrefused, (hnone _ hrefused).2.2.2.2 rfl⟩

end InterfaceSchema
