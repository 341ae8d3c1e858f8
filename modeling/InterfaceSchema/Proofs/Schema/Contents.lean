import InterfaceSchema.Proofs.Schema.Finalize

/-!
# What a finished schema holds

A draft is put together by calls in any order. Types and resources add up in the order in which they
were declared; of the calls for one part of the header the last one counts. Finalizing moves the
types and leaves everything else where it is, so what a finished schema holds can be told from the
calls alone.

* `Draft.Call.resource?`, `Draft.Call.version?` and the like: what a call adds or sets;
* `Draft.resources_build`, `Draft.header_build`: what all calls have added and set;
* `finalize_build`: the outcome is that of the declared types, and nothing is lost, doubled or
  altered on the way.
-/

namespace InterfaceSchema

/-! ## 1. What a call adds or sets -/

namespace Draft.Call

/-- The resource that a call declares. -/
def resource? : Draft.Call → Option Resource
  | .resource r => some r
  | .namespaceName _ | .version _ | .base _ | .comment _ | .type _ => none

/-- The namespace that a call sets. -/
def namespaceName? : Draft.Call → Option String
  | .namespaceName path => some path
  | .version _ | .base _ | .comment _ | .type _ | .resource _ => none

/-- The version that a call sets. -/
def version? : Draft.Call → Option Int32
  | .version number => some number
  | .namespaceName _ | .base _ | .comment _ | .type _ | .resource _ => none

/-- The base path that a call sets. -/
def base? : Draft.Call → Option String
  | .base path => some path
  | .namespaceName _ | .version _ | .comment _ | .type _ | .resource _ => none

/-- The comment that a call sets. -/
def comment? : Draft.Call → Option String
  | .comment text => some text
  | .namespaceName _ | .version _ | .base _ | .type _ | .resource _ => none

end Draft.Call

/-! ## 2. What all calls have added and set -/

namespace Draft

theorem resources_apply (d : Draft) (call : Draft.Call) :
    (d.apply call).resources = d.resources ++ call.resource?.toList := by
  cases call with
  | resource r => rfl
  | _ => exact (List.append_nil _).symm

/-- **A draft has the resources that were declared, in the order of declaration.** -/
theorem resources_build (name : String) (calls : List Draft.Call) :
    (build name calls).resources = calls.filterMap Call.resource? :=
  foldl_collects resources_apply calls (new name)

/-- A call sets a part of the header, or leaves the header alone; the name is never set. -/
theorem header_apply (d : Draft) (call : Draft.Call) : (d.apply call).header =
    { name := d.header.name
      namespaceName := call.namespaceName?.or d.header.namespaceName
      version := call.version?.or d.header.version
      base := call.base?.or d.header.base
      comment := call.comment?.or d.header.comment } := by
  cases call <;> rfl

theorem name_foldl : ∀ (calls : List Draft.Call) (d : Draft),
    (calls.foldl apply d).header.name = d.header.name
  | [], _ => rfl
  | call :: rest, d => by rw [List.foldl_cons, name_foldl rest, header_apply]

/-- A part of the header has, after all calls, the last value that was set, if any was. -/
theorem part_header_build {β : Type} (part : Header → Option β) {new? : Call → Option β}
    (hstep : ∀ (d : Draft) call, part (d.apply call).header = (new? call).or (part d.header))
    (name : String) (hnew : part (new name).header = none) (calls : List Draft.Call) :
    part (build name calls).header = (calls.filterMap new?).getLast? := by
  have hlast : part (build name calls).header =
      (calls.filterMap new?).getLast?.or (part (new name).header) :=
    foldl_keepsLast (fun d => part d.header) hstep calls (new name)
  rw [hlast, hnew, Option.or_none]

/-- **Of the calls for one part of the header the last one counts.** -/
theorem header_build (name : String) (calls : List Draft.Call) : (build name calls).header =
    { name
      namespaceName := (calls.filterMap Call.namespaceName?).getLast?
      version := (calls.filterMap Call.version?).getLast?
      base := (calls.filterMap Call.base?).getLast?
      comment := (calls.filterMap Call.comment?).getLast? } := by
  have hname : (build name calls).header.name = name := name_foldl calls (new name)
  have hnamespace := part_header_build Header.namespaceName
    (fun d call => congrArg Header.namespaceName (header_apply d call)) name rfl calls
  have hversion := part_header_build Header.version
    (fun d call => congrArg Header.version (header_apply d call)) name rfl calls
  have hbase := part_header_build Header.base
    (fun d call => congrArg Header.base (header_apply d call)) name rfl calls
  have hcomment := part_header_build Header.comment
    (fun d call => congrArg Header.comment (header_apply d call)) name rfl calls
  rw [← hnamespace, ← hversion, ← hbase, ← hcomment]
  exact congrArg (fun own => { (build name calls).header with name := own }) hname

end Draft

/-! ## 3. What a finished schema holds -/

/-- **Finalizing loses, doubles and alters nothing.** An error is that of the declared types, and
    neither the header nor the resources have a say in it. A schema has as many types as were
    declared, and at each place the one that the order puts there; it has the resources in the order
    of declaration, and of every part of the header what was said last. -/
theorem finalize_build (name : String) (calls : List Draft.Call) :
    (∀ error, resolveOrder (calls.filterMap Draft.Call.type?) = .error error →
      (Draft.build name calls).finalize = .error error) ∧
    ∀ order, resolveOrder (calls.filterMap Draft.Call.type?) = .ok order →
      ∃ s, (Draft.build name calls).finalize = .ok s ∧
        s.types.length = (calls.filterMap Draft.Call.type?).length ∧
        (∀ k < s.types.length, ∃ p t, order[k]? = some p ∧
          (calls.filterMap Draft.Call.type?)[p]? = some t ∧ s.types[k]? = some t) ∧
        s.resources = calls.filterMap Draft.Call.resource? ∧
        s.header =
          { name
            namespaceName := (calls.filterMap Draft.Call.namespaceName?).getLast?
            version := (calls.filterMap Draft.Call.version?).getLast?
            base := (calls.filterMap Draft.Call.base?).getLast?
            comment := (calls.filterMap Draft.Call.comment?).getLast? } := by
  have htypes := Draft.types_build name calls
  rw [← htypes]
  refine ⟨fun error herror => finalize_error_iff.2 herror, fun order horder => ?_⟩
  obtain ⟨_, hs, hall⟩ := settled_of_resolveOrder horder
  have hperm : order.Perm (List.range (Draft.build name calls).types.length) := hs.perm_range hall
  have hbound : ∀ p ∈ order, p < (Draft.build name calls).types.length :=
    fun p hp => List.mem_range.1 (hperm.mem_iff.1 hp)
  refine ⟨_, finalize_ok_iff.2 ⟨order, horder, rfl⟩, (arrange_perm hperm).length_eq,
    fun k hk => ?_, Draft.resources_build name calls, Draft.header_build name calls⟩
  -- the place has a type, so the order has a position there and the declarations a type at it
  have hplace := getElem?_arrange hbound k
  rw [List.getElem?_eq_getElem hk] at hplace
  obtain ⟨p, hp, ht⟩ := Option.bind_eq_some_iff.1 hplace.symm
  exact ⟨p, _, hp, ht, List.getElem?_eq_getElem hk⟩

/-- Calls of all kinds in turn: the version is set twice, the types are declared backwards and one
    resource comes twice. A type with a gap fails the draft, whatever else there is in it. -/
theorem finalize_build_interleaved :
    let line : TypeDef := ⟨⟨"Line", "Array", some "of two ends"⟩, .array "Point"⟩
    let point : TypeDef := ⟨⟨"Point", "Struct", none⟩, .struct []⟩
    let lost : TypeDef := ⟨⟨"Lost", "Gone", none⟩, .synonym⟩
    let get : Resource := .new "Line" "GET" "/line"
    let put : Resource := .new "Line" "PUT" "/line"
    let calls : List Draft.Call :=
      [.version 1, .type line, .resource put, .namespaceName "plane", .resource get, .version 2,
        .type point, .comment "drawn", .resource put]
    (∃ s, (Draft.build "shapes" calls).finalize = .ok s ∧ s.types.length = 2 ∧
      s.types[0]? = some point ∧ s.types[1]? = some line ∧ s.resources = [put, get, put] ∧
      s.header = ⟨"shapes", some "plane", some 2, none, some "drawn"⟩) ∧
    (Draft.build "shapes" (.type lost :: calls)).finalize =
      .error (.danglingReference "Lost" "Gone") := by
  intro line point lost get put calls
  refine ⟨?_, (finalize_build "shapes" (.type lost :: calls)).1 _ rfl⟩
  obtain ⟨s, hs, hlen, hat, hresources, hheader⟩ := (finalize_build "shapes" calls).2 [1, 0] rfl
  obtain ⟨_, _, h0, ht0, hs0⟩ := hat 0 (by rw [hlen]; decide)
  obtain ⟨_, _, h1, ht1, hs1⟩ := hat 1 (by rw [hlen]; decide)
  cases h0
  cases ht0
  cases h1
  cases ht1
  exact ⟨s, hs, hlen, hs0, hs1, hresources, hheader⟩

end InterfaceSchema
