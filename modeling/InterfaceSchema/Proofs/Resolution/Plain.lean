import InterfaceSchema.Proofs.FirstOccurrences
import InterfaceSchema.Proofs.Resolution.Loops

/-!
# The walk without marks

`plainVisit` follows every reference anew: it keeps nothing but the path that led to a declaration,
and so emits a shared dependency once for each way to it. The walk with marks skips what it has
emitted before. This file shows that skipping changes nothing but the repetitions.

* `Settled.plainVisit_ok`: from a path that meets no name of a settled order, the plain visit of a
  position in it succeeds and emits nothing that is not in it;
* `visit_agrees_plainVisit`: from a good walk, both visits give the same error, or what they emit
  is the same up to repetitions;
* `resolveOrder_eq_plainVisit`: so the order is all the plain visits have emitted, without the
  repetitions, and its error is their first.
-/

namespace InterfaceSchema

/-! ## 1. Plain visits -/

/-- The declaration of a name. -/
def declaration? (types : List TypeDef) (name : String) : Option (Fin types.length) :=
  types.findFinIdx? fun t => t.name == name

/-- Fewer names lie off a path that goes on to one of them. -/
theorem countP_not_mem_append_lt {names path : List String} {name : String} (hd : name ∈ names)
    (hp : name ∉ path) :
    names.countP (fun n => n ∉ path ++ [name]) < names.countP (fun n => n ∉ path) := by
  obtain ⟨before, after, rfl⟩ := List.append_of_mem hd
  have hmono : ∀ part : List String,
      part.countP (fun n => n ∉ path ++ [name]) ≤ part.countP (fun n => n ∉ path) :=
    fun part => List.countP_mono_left fun n _ h => by
      simp only [List.mem_append, not_or, decide_eq_true_eq] at h ⊢
      exact h.1
  have hb := hmono before
  have ha := hmono after
  rw [List.countP_append, List.countP_append, List.countP_cons_of_neg (by simp),
    List.countP_cons_of_pos (by simpa using hp)]
  omega

/-- Emits everything the declaration refers to, reference by reference, and then the declaration.
    A declaration whose name lies on the path loops back; a name without a declaration is an error
    of the type that refers to it. -/
def plainVisit (types : List TypeDef) (path : List String) (position : Fin types.length) :
    Except SchemaError (List Nat) :=
  if hp : types[position].name ∈ path then
    .error (.cycle (path.dropWhile (· != types[position].name) ++ [types[position].name]))
  else do
    let parts ← types[position].references.mapM fun reference =>
      if isBaseName reference then .ok []
      else match declaration? types reference with
        | some next => plainVisit types (path ++ [types[position].name]) next
        | none => .error (.danglingReference types[position].name reference)
    return parts.flatten ++ [position.val]
termination_by (types.map (·.name)).countP fun name => name ∉ path
decreasing_by exact countP_not_mem_append_lt (List.mem_map_of_mem (List.getElem_mem _)) hp

/-- What a plain visit does with one reference. -/
def plainFollow (types : List TypeDef) (path : List String) (referrer reference : String) :
    Except SchemaError (List Nat) :=
  if isBaseName reference then .ok []
  else match declaration? types reference with
    | some next => plainVisit types (path ++ [referrer]) next
    | none => .error (.danglingReference referrer reference)

variable {types : List TypeDef} {path : List String} {order : List Nat}
  {position : Fin types.length} {name : String}

theorem plainVisit_of_mem (h : types[position].name ∈ path) : plainVisit types path position =
    .error (.cycle (path.dropWhile (· != types[position].name) ++ [types[position].name])) := by
  rw [plainVisit, dif_pos h]

theorem plainVisit_of_not_mem (h : types[position].name ∉ path) : plainVisit types path position =
    types[position].references.mapM (plainFollow types path types[position].name) >>=
      fun parts => .ok (parts.flatten ++ [position.val]) := by
  rw [plainVisit, dif_neg h]
  rfl

/-! ## 2. Declarations by name, once more -/

theorem positionOf?_eq_map_declaration? (types : List TypeDef) (name : String) :
    positionOf? types name = (declaration? types name).map (·.val) :=
  List.findIdx?_eq_map_findFinIdx?_val

theorem declaredAt_name (position : Fin types.length) :
    DeclaredAt types position types[position].name :=
  ⟨types[position], List.getElem?_eq_getElem position.isLt, rfl⟩

theorem WellNamed.declaration?_of_at (hn : WellNamed types) {p : Nat}
    (h : DeclaredAt types p name) : ∃ next : Fin types.length,
      declaration? types name = some next ∧ next.val = p ∧ types[next].name = name := by
  have hp := hn.positionOf?_eq_some_iff.2 h
  rw [positionOf?_eq_map_declaration?, Option.map_eq_some_iff] at hp
  obtain ⟨next, hnext, rfl⟩ := hp
  exact ⟨next, hnext, rfl, (declaredAt_name next).name_inj h⟩

/-! ## 3. What is settled can be skipped -/

/-- A reference that leads to a base type or into a settled order is followed without an error. -/
theorem plainFollow_ok (hn : WellNamed types) (path : List String) (referrer : String)
    {reference : String}
    (hvisit : ∀ next : Fin types.length, next.val ∈ order →
      ∃ out, plainVisit types (path ++ [referrer]) next = .ok out ∧ out ⊆ order)
    (h : isBaseName reference = true ∨ Emitted types order reference) :
    ∃ out, plainFollow types path referrer reference = .ok out ∧ out ⊆ order := by
  unfold plainFollow
  rcases h with hb | ⟨p, hp, hat⟩
  · rw [if_pos hb]
    exact ⟨[], rfl, List.nil_subset _⟩
  · obtain ⟨next, hnext, rfl, _⟩ := hn.declaration?_of_at hat
    rw [if_neg (hn.ne_base hat.declared), hnext]
    exact hvisit next hp

/-- **From a path that meets no name of a settled order, the plain visit of a position in it finds
    no error and emits nothing new.** -/
theorem Settled.plainVisit_ok (hn : WellNamed types) (hs : Settled types order) :
    ∀ (path : List String) (position : Fin types.length), position.val ∈ order →
      (∀ name, Emitted types order name → name ∉ path) →
      ∃ out, plainVisit types path position = .ok out ∧ out ⊆ order := by
  induction hs with
  | nil => exact fun _ _ h => absurd h List.not_mem_nil
  | @snoc order last t _ ht fresh references ih =>
    intro path position hmem hpath
    have hsub : order ⊆ order ++ [last] := List.subset_append_left _ _
    have hoff : ∀ name, Emitted types order name → name ∉ path :=
      fun name h => hpath name (h.mono hsub)
    rcases List.mem_append.1 hmem with hin | hlast
    · obtain ⟨out, hout, hle⟩ := ih path position hin hoff
      exact ⟨out, hout, List.Subset.trans hle hsub⟩
    · rw [List.mem_singleton] at hlast
      subst hlast
      have hname : t.name = types[position].name :=
        DeclaredAt.name_inj ⟨t, ht, rfl⟩ (declaredAt_name position)
      have hrefs : types[position].references = t.references := by
        have e : types[position.val]? = some types[position] :=
          List.getElem?_eq_getElem position.isLt
        rw [ht] at e
        cases e
        rfl
      rw [plainVisit_of_not_mem (hpath _ ⟨position, by simp, declaredAt_name position⟩), hrefs]
      obtain ⟨parts, hparts, hle⟩ := mapM_ok_of_forall t.references fun r hr =>
        plainFollow_ok hn path types[position].name
          (fun next hnext => ih _ next hnext fun name hem => by
            rw [List.mem_append, List.mem_singleton]
            rintro (h | rfl)
            · exact hoff name hem h
            · exact fresh ((hn.emitted_iff_mem (declaredAt_name position)).1 hem))
          (references r hr)
      rw [hparts]
      refine ⟨parts.flatten ++ [position.val], rfl, ?_⟩
      refine List.append_subset.2 ⟨fun p hp => ?_, List.subset_append_right _ _⟩
      obtain ⟨part, hpart, hp⟩ := List.mem_flatten.1 hp
      exact hsub (hle part hpart hp)

/-! ## 4. Both visits agree -/

variable {w : Walk} {out : List Nat}

/-- A name on the stack closes the loop that the path shows. -/
theorem Good.loopAt_eq_dropWhile (hg : Good types w) {top : String}
    (htop : top ∈ w.stack.getLast?) (hmem : name ∈ w.stack) :
    w.loopAt name = w.stack.dropWhile (· != name) ++ [name] := by
  obtain ⟨before, after, hs, hnew, _⟩ := hg.stack_split htop hmem
  have hpass : ∀ key ∈ before, (key != name) = true := by
    intro key hk
    rw [bne_iff_ne]
    exact fun e => hnew (e ▸ hk)
  rw [(Good.loopAt_eq hs hnew).2, hs, List.dropWhile_append_of_pos hpass,
    List.dropWhile_cons_of_neg (by simp)]

/-- The walk has emitted what the plain visits have, without the repetitions. -/
abbrev SameOrder (out : List Nat) (more : List Nat) (w' : Walk) : Prop :=
  w'.ordered = (out ++ more).eraseDups

/-- The walk has stopped with the error. -/
abbrev SameError (error : SchemaError) (stop : Stop) : Prop :=
  stop.error = error

/-- Where the visits agree, what they do with a reference does. -/
theorem follow_agrees_plainFollow (visit : String → Nat → Walk → Except Stop Walk)
    {top reference : String} (hs : w.stack = path ++ [top]) (hout : w.ordered = out.eraseDups)
    (hvisit : ∀ next : Fin types.length, types[next].name = reference →
      Agree (SameOrder out) SameError (plainVisit types w.stack next) (visit reference next w)) :
    Agree (SameOrder out) SameError (plainFollow types path top reference)
      (follow types visit top w reference) := by
  unfold plainFollow follow
  by_cases hb : isBaseName reference = true
  · rw [if_pos hb, if_pos hb]
    show w.ordered = (out ++ []).eraseDups
    rw [List.append_nil]
    exact hout
  · rw [if_neg hb, if_neg hb, positionOf?_eq_map_declaration?]
    cases hd : declaration? types reference with
    | none => exact rfl
    | some next =>
      have hname : types[next].name = reference := by
        simpa using (List.findFinIdx?_eq_some_iff.1 hd).1
      have h := hvisit next hname
      rw [hs] at h
      exact h

/-- The references of a declaration are followed from one path and one stack, that of the
    declaration, whatever they have emitted in between. -/
theorem foldlM_follow_agrees_mapM (visit : String → Nat → Walk → Except Stop Walk)
    (hn : WellNamed types) (hg : Good types (w.enter types[position].name))
    (hout : w.ordered = out.eraseDups)
    (hvisits : ∀ w' reference p, Extends types (w.enter types[position].name) w' →
      RefersTo types types[position].name reference → DeclaredAt types p reference →
      Visits types w' reference (visit reference p w'))
    (hagree : ∀ w' out (next : Fin types.length), Extends types (w.enter types[position].name) w' →
      RefersTo types types[position].name types[next].name → w'.ordered = out.eraseDups →
      Agree (SameOrder out) SameError (plainVisit types w'.stack next)
        (visit types[next].name next w')) :
    Agree (fun parts last => last.ordered = (out ++ parts.flatten).eraseDups ∧
        Extends types (w.enter types[position].name) last) SameError
      (types[position].references.mapM (plainFollow types w.stack types[position].name))
      (types[position].references.foldlM (follow types visit types[position].name)
        (w.enter types[position].name)) := by
  refine foldlM_agrees_mapM (fun out w' => w'.ordered = out.eraseDups ∧
    Extends types (w.enter types[position].name) w') _ out _ (fun out w' r hr hrel => ?_)
    ⟨hout, .refl hg⟩
  obtain ⟨hout', hext⟩ := hrel
  have href : RefersTo types types[position].name r :=
    refersTo_of_mem (List.getElem?_eq_getElem position.isLt) hr
  have hy := follow_yields hn hext.good hext.mem_getLast? href
    (fun p hp => hvisits w' r p hext href hp)
  have ha := follow_agrees_plainFollow visit hext.stack hout'
    (fun next hnext => hnext ▸ hagree w' out next hext (hnext ▸ href) hout')
  exact (ha.and_yields hy).imp fun more w'' h => ⟨h.1, hext.trans h.2.1⟩

/-- **Skipping what is emitted changes nothing but the repetitions**: from a good walk, whose stack
    is the path, both visits give the same error, or the walk emits what the plain visit does as
    far as it is new. -/
theorem visit_agrees_plainVisit (hn : WellNamed types) : ∀ (room : Nat)
    (position : Fin types.length) (w : Walk) (out : List Nat), Good types w →
    Called types w types[position].name → types.length < room + w.stack.length →
    w.ordered = out.eraseDups →
    Agree (SameOrder out) SameError (plainVisit types w.stack position)
      (visit types room types[position].name position w)
  | 0, position, w, out, hg, _, hroom, _ => by
    have := hg.length_stack_le
    omega
  | room + 1, position, w, out, hg, hc, hroom, hout => by
    have hat := declaredAt_name position
    have ht : types[position.val]? = some types[position] := List.getElem?_eq_getElem position.isLt
    cases hm : w.mark? types[position].name with
    | some mark =>
      cases mark with
      | resolved =>
        have hem := ((hg.resolved_iff _).1 hm).resolve_left (hn.ne_base hat.declared)
        obtain ⟨more, hmore, hsub⟩ := hg.settled.plainVisit_ok hn w.stack position
          ((hn.emitted_iff_mem hat).1 hem) fun name he h => hg.not_emitted h he
        rw [hmore, visit_of_resolved room position hm]
        show w.ordered = (out ++ more).eraseDups
        rw [eraseDups_append_of_subset fun p hp => List.mem_eraseDups.1 (hout ▸ hsub hp)]
        exact hout
      | visiting =>
        have hmem := (hg.visiting_iff _).1 hm
        have htop := List.getLast?_eq_some_getLast (List.ne_nil_of_mem hmem)
        rw [plainVisit_of_mem hmem, visit_of_visiting room position hm,
          ← hg.loopAt_eq_dropWhile htop hmem]
        exact rfl
    | none =>
      have hoff : types[position].name ∉ w.stack := by
        intro h
        rw [(hg.visiting_iff _).2 h] at hm
        cases hm
      have hent := hg.enter hm hat.declared hc
      have hrun := foldlM_follow_agrees_mapM (visit types room) hn hent hout
        (visits_of_entered hn (by omega))
        (fun w' out next hext href hout' => by
          have hlen := hext.length_stack
          exact visit_agrees_plainVisit hn room next w' out hext.good (hext.called href) (by omega)
            hout')
      rw [plainVisit_of_not_mem hoff, visit_of_unmarked room hm ht]
      refine hrun.bind fun parts last hlast => ?_
      obtain ⟨hordered, hext⟩ := hlast
      have hfresh : position.val ∉ out ++ parts.flatten := by
        intro h
        rw [← List.mem_eraseDups, ← hordered] at h
        exact hext.good.not_emitted (List.mem_of_getLast? hext.mem_getLast?) ⟨_, h, hat⟩
      show last.ordered ++ [position.val] = (out ++ (parts.flatten ++ [position.val])).eraseDups
      rw [← List.append_assoc, eraseDups_concat_of_not_mem hfresh, hordered]

/-! ## 5. The order without marks -/

/-- Where a walk agrees with parts that are collected, it answers with them. -/
theorem answer_eq_of_agree {x : Except SchemaError (List (List Nat))} {y : Except Stop Walk}
    (h : Agree (fun parts w => w.ordered = parts.flatten.eraseDups) SameError x y) :
    answer y = x >>= fun parts => .ok parts.flatten.eraseDups := by
  cases x with
  | error e =>
    cases y with
    | error stop => exact congrArg _ h
    | ok w => exact h.elim
  | ok parts =>
    cases y with
    | error stop => exact h.elim
    | ok w => exact congrArg _ h

theorem resolveAt_agrees_plainVisit (hn : WellNamed types) (position : Fin types.length)
    (hg : Good types w) (hidle : w.stack = []) (hout : w.ordered = out.eraseDups) :
    Agree (SameOrder out) SameError (plainVisit types [] position)
      (resolveAt types w position) := by
  have h := visit_agrees_plainVisit hn (types.length + 1) position w out hg
    (called_of_idle hidle _) (by omega) hout
  rw [hidle] at h
  have ht : types[position.val]? = some types[position] :=
    List.getElem?_eq_getElem position.isLt
  cases hv : visit types (types.length + 1) types[position].name position w with
  | ok next =>
    rw [hv] at h
    rw [resolveAt_of_ok ht hv]
    exact h
  | error stop =>
    rw [hv] at h
    rw [resolveAt_of_error ht hv]
    -- both walks are stopped with one error, and `Agree` asks for no more
    cases hp : plainVisit types [] position with
    | error e =>
      rw [hp] at h
      exact h
    | ok more =>
      rw [hp] at h
      exact h.elim

/-- **The order is that of the walk without marks**: all that the plain visits emit, declaration by
    declaration, each position where it comes first; or the first error they meet. -/
theorem resolveOrder_eq_plainVisit (hn : WellNamed types) : resolveOrder types = do
    let parts ← (List.finRange types.length).mapM (plainVisit types [])
    return parts.flatten.eraseDups := by
  have hwalk : walkTo types types.length = (List.finRange types.length).foldlM
      (fun w (position : Fin types.length) => resolveAt types w position) .start := by
    unfold walkTo
    rw [← List.map_coe_finRange_eq_range, List.foldlM_map]
  have hrun : Agree (fun parts w => w.ordered = parts.flatten.eraseDups ∧ Good types w ∧
        w.stack = []) SameError ((List.finRange types.length).mapM (plainVisit types []))
      (walkTo types types.length) := by
    rw [hwalk]
    refine foldlM_agrees_mapM
      (fun out w => w.ordered = out.eraseDups ∧ Good types w ∧ w.stack = []) _ [] .start
      (fun out w position _ hrel => ?_) ⟨rfl, good_start types, rfl⟩
    obtain ⟨hout, hg, hidle⟩ := hrel
    have ha := resolveAt_agrees_plainVisit hn position hg hidle hout
    have hy := resolveAt_yields hn hg hidle position.isLt
    exact (ha.and_yields hy).imp fun more w' h => ⟨h.1, h.2.1.good, h.2.1.stack.trans hidle⟩
  rw [hn.resolveOrder_eq]
  exact answer_eq_of_agree (hrun.imp fun parts w h => h.1)

/-- Both ways from `Top` lead to `Leaf`, and the visit of `Leaf` itself is a third. -/
theorem resolveOrder_eq_plainVisit_diamond :
    let types : List TypeDef :=
      [⟨⟨"Top", "Union", none⟩, .union ["Left", "Right"]⟩, ⟨⟨"Left", "Leaf", none⟩, .synonym⟩,
        ⟨⟨"Right", "Array", none⟩, .array "Leaf"⟩, ⟨⟨"Leaf", "Int8", none⟩, .synonym⟩]
    WellNamed types ∧ resolveOrder types = .ok [3, 1, 2, 0] ∧ resolveOrder types = do
      let parts ← (List.finRange types.length).mapM (plainVisit types [])
      return parts.flatten.eraseDups :=
  ⟨⟨by decide, by decide⟩, rfl, resolveOrder_eq_plainVisit ⟨by decide, by decide⟩⟩

end InterfaceSchema
