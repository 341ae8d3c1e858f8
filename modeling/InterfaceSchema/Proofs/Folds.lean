/-!
# Runs that may stop

A run over a list that stops at the first error is a fold in `Except`. What each step keeps, the
run keeps; and two runs over one list whose steps agree, agree. Calls that are made one after the
other are a run that cannot stop.

* `foldlM_yields`: an invariant that knows what is done, and what holds of an error;
* `foldlM_filter`, `foldlM_eraseDups`: steps that change nothing can be left out;
* `mapM_ok_of_forall`: a run that collects parts succeeds where every step does;
* `foldlM_agrees_map`: a run agrees with one over images of its list;
* `foldlM_agrees_mapM`: a run that carries a state agrees with one that collects parts;
* `foldlM_sameUnless`: two runs whose steps are the same are the same, as far as they are not
  excused by an error of the first;
* `foldl_collects`, `foldl_keepsLast`: after all calls a part holds everything they have added to
  it, or what the last of them has set.
-/

namespace InterfaceSchema

variable {α α' β β' σ ε δ : Type}

/-! ## 1. One run -/

/-- A result has the one property, an error the other. -/
def Yields (onResult : α → Prop) (onError : ε → Prop) : Except ε α → Prop
  | .ok a => onResult a
  | .error e => onError e

theorem Yields.of_ok {onResult : α → Prop} {onError : ε → Prop} {x : Except ε α} {a : α}
    (h : Yields onResult onError x) (hx : x = .ok a) : onResult a := by
  rw [hx] at h
  exact h

theorem Yields.of_error {onResult : α → Prop} {onError : ε → Prop} {x : Except ε α} {e : ε}
    (h : Yields onResult onError x) (hx : x = .error e) : onError e := by
  rw [hx] at h
  exact h

theorem Yields.imp {p q : α → Prop} {stopped halted : ε → Prop} {x : Except ε α}
    (hx : Yields p stopped x) (hp : ∀ a, p a → q a) (he : ∀ e, stopped e → halted e) :
    Yields q halted x := by
  cases x with
  | error e => exact he e hx
  | ok a => exact hp a hx

theorem Yields.bind {p : α → Prop} {q : β → Prop} {stopped : ε → Prop} {x : Except ε α}
    {f : α → Except ε β} (hx : Yields p stopped x) (hf : ∀ a, p a → Yields q stopped (f a)) :
    Yields q stopped (x >>= f) := by
  cases x with
  | error e => exact hx
  | ok a => exact hf a hx

/-- **What every step keeps, the run keeps**; `done` is the part of the list that lies behind. -/
theorem foldlM_yields {step : σ → α → Except ε σ} (kept : List α → σ → Prop)
    {stopped : ε → Prop} : ∀ (rest done : List α) (s : σ),
    (∀ done s x, x ∈ rest → kept done s → Yields (kept (done ++ [x])) stopped (step s x)) →
    kept done s → Yields (kept (done ++ rest)) stopped (rest.foldlM step s)
  | [], done, s, _, h0 => by
    show kept (done ++ []) s
    rw [List.append_nil]
    exact h0
  | x :: rest, done, s, hstep, h0 => by
    rw [List.foldlM_cons]
    refine (hstep done s x List.mem_cons_self h0).bind fun next hnext => ?_
    have ih := foldlM_yields kept rest (done ++ [x]) next
      (fun done s y hy => hstep done s y (List.mem_cons_of_mem _ hy)) hnext
    rw [List.append_assoc] at ih
    exact ih

/-- **Steps that change nothing can be left out.** -/
theorem foldlM_filter {step : σ → α → Except ε σ} (kept : σ → Prop) (p : α → Bool) :
    ∀ (xs : List α) (s : σ),
    (∀ s x, x ∈ xs → kept s → p x = false → step s x = .ok s) →
    (∀ s x next, x ∈ xs → kept s → step s x = .ok next → kept next) →
    kept s → (xs.filter p).foldlM step s = xs.foldlM step s
  | [], _, _, _, _ => rfl
  | x :: rest, s, hidle, hkept, h0 => by
    have ih := fun next => foldlM_filter kept p rest next
      (fun s y hy => hidle s y (List.mem_cons_of_mem _ hy))
      (fun s y next hy => hkept s y next (List.mem_cons_of_mem _ hy))
    rw [List.foldlM_cons]
    cases hp : p x with
    | false =>
      rw [List.filter_cons_of_neg (by simp [hp]), hidle s x List.mem_cons_self h0 hp]
      exact ih s h0
    | true =>
      rw [List.filter_cons_of_pos hp, List.foldlM_cons]
      cases hs : step s x with
      | error e => rfl
      | ok next => exact ih next (hkept s x next List.mem_cons_self h0 hs)

/-- **Where a step that was made once changes nothing when it is made again**, only the first
    occurrences count. -/
theorem foldlM_eraseDups [BEq α] [LawfulBEq α] {step : σ → α → Except ε σ} (kept : σ → Prop)
    (made : α → σ → Prop) (hidle : ∀ s x, kept s → made x s → step s x = .ok s) :
    ∀ (xs : List α) (s : σ),
    (∀ s x next, x ∈ xs → kept s → step s x = .ok next →
      kept next ∧ made x next ∧ ∀ y, made y s → made y next) →
    kept s → xs.eraseDups.foldlM step s = xs.foldlM step s
  | [], _, _, _ => rfl
  | x :: rest, s, hstep, h0 => by
    rw [List.eraseDups_cons, List.foldlM_cons, List.foldlM_cons]
    cases hs : step s x with
    | error e => rfl
    | ok next =>
      obtain ⟨hkept, hmade, _⟩ := hstep s x next List.mem_cons_self h0 hs
      have hrest : ∀ s y next, y ∈ rest → kept s → step s y = .ok next →
          kept next ∧ made y next ∧ ∀ z, made z s → made z next :=
        fun s y next hy => hstep s y next (List.mem_cons_of_mem _ hy)
      show (rest.filter fun y => !y == x).eraseDups.foldlM step next = rest.foldlM step next
      rw [foldlM_eraseDups kept made hidle _ next
        (fun s y next hy => hrest s y next (List.mem_filter.1 hy).1) hkept]
      -- from here on the step of `x` has been made, so the further occurrences are idle
      refine foldlM_filter (fun s => kept s ∧ made x s) _ rest next (fun s y _ h hy => ?_)
        (fun s y after hy h hs => ?_) ⟨hkept, hmade⟩
      · have e : y = x := by simpa using hy
        exact e ▸ hidle s x h.1 h.2
      · obtain ⟨hk, _, hm⟩ := hrest s y after hy h.1 hs
        exact ⟨hk, hm x h.2⟩
  termination_by xs => xs.length
  decreasing_by exact Nat.lt_succ_of_le (List.length_filter_le _ _)

/-- Where every step succeeds, the parts are collected. -/
theorem mapM_ok_of_forall {part : α → Except ε β} {p : β → Prop} : ∀ xs : List α,
    (∀ x ∈ xs, ∃ b, part x = .ok b ∧ p b) → ∃ parts, xs.mapM part = .ok parts ∧ ∀ b ∈ parts, p b
  | [], _ => ⟨[], rfl, by simp⟩
  | x :: rest, h => by
    obtain ⟨b, hb, hp⟩ := h x List.mem_cons_self
    obtain ⟨parts, hparts, hall⟩ :=
      mapM_ok_of_forall rest fun y hy => h y (List.mem_cons_of_mem _ hy)
    refine ⟨b :: parts, ?_, by simpa using ⟨hp, hall⟩⟩
    rw [List.mapM_cons, hb, hparts]
    rfl

/-! ## 2. Two runs -/

/-- Both give results that are related, or both give errors that are. -/
def Agree (results : α → β → Prop) (errors : ε → δ → Prop) : Except ε α → Except δ β → Prop
  | .ok a, .ok b => results a b
  | .error e, .error d => errors e d
  | _, _ => False

theorem Agree.bind {p : α → β → Prop} {q : α' → β' → Prop} {errors : ε → δ → Prop}
    {x : Except ε α} {y : Except δ β} {f : α → Except ε α'} {g : β → Except δ β'}
    (hxy : Agree p errors x y) (hfg : ∀ a b, p a b → Agree q errors (f a) (g b)) :
    Agree q errors (x >>= f) (y >>= g) := by
  cases x with
  | error e =>
    cases y with
    | error d => exact hxy
    | ok b => exact hxy.elim
  | ok a =>
    cases y with
    | error d => exact hxy.elim
    | ok b => exact hfg a b hxy

theorem Agree.imp {p q : α → β → Prop} {errors : ε → δ → Prop} {x : Except ε α} {y : Except δ β}
    (h : Agree p errors x y) (hpq : ∀ a b, p a b → q a b) : Agree q errors x y := by
  cases x with
  | error e =>
    cases y with
    | error d => exact h
    | ok b => exact h.elim
  | ok a =>
    cases y with
    | error d => exact h.elim
    | ok b => exact hpq a b h

/-- What is known of one of the results may be added to what relates both. -/
theorem Agree.and_yields {results : α → β → Prop} {errors : ε → δ → Prop} {p : β → Prop}
    {stopped : δ → Prop} {x : Except ε α} {y : Except δ β} (h : Agree results errors x y)
    (hy : Yields p stopped y) : Agree (fun a b => results a b ∧ p b) errors x y := by
  cases x with
  | error e =>
    cases y with
    | error d => exact h
    | ok b => exact h.elim
  | ok a =>
    cases y with
    | error d => exact h.elim
    | ok b => exact ⟨h, hy⟩

/-- **Where the steps agree, the runs agree**; the second goes over images of what the first goes
    over. -/
theorem foldlM_agrees_map {τ : Type} {step : σ → α → Except ε σ} {step' : τ → β → Except δ τ}
    (f : α → β) (related : σ → τ → Prop) {errors : ε → δ → Prop} :
    ∀ (xs : List α) (s : σ) (s' : τ),
    (∀ s s' x, x ∈ xs → related s s' → Agree related errors (step s x) (step' s' (f x))) →
    related s s' → Agree related errors (xs.foldlM step s) ((xs.map f).foldlM step' s')
  | [], _, _, _, h0 => h0
  | x :: rest, s, s', hstep, h0 => by
    rw [List.map_cons, List.foldlM_cons, List.foldlM_cons]
    refine (hstep s s' x List.mem_cons_self h0).bind fun next next' hnext => ?_
    exact foldlM_agrees_map f related rest next next'
      (fun s s' y hy => hstep s s' y (List.mem_cons_of_mem _ hy)) hnext

/-- **Where the steps agree, the runs agree**: one run carries a state, the other collects parts,
    and the state is related to everything collected so far. -/
theorem foldlM_agrees_mapM {part : α → Except ε (List β)} {step : σ → α → Except δ σ}
    (related : List β → σ → Prop) {errors : ε → δ → Prop} : ∀ (xs : List α) (out : List β) (s : σ),
    (∀ out s x, x ∈ xs → related out s →
      Agree (fun more next => related (out ++ more) next) errors (part x) (step s x)) →
    related out s →
    Agree (fun parts last => related (out ++ parts.flatten) last) errors
      (xs.mapM part) (xs.foldlM step s)
  | [], out, s, _, h0 => by
    show related (out ++ [].flatten) s
    rw [List.flatten_nil, List.append_nil]
    exact h0
  | x :: rest, out, s, hstep, h0 => by
    rw [List.mapM_cons, List.foldlM_cons]
    refine (hstep out s x List.mem_cons_self h0).bind fun more next hnext => ?_
    have ih := foldlM_agrees_mapM related rest (out ++ more) next
      (fun out s y hy => hstep out s y (List.mem_cons_of_mem _ hy)) hnext
    rw [← bind_pure (rest.foldlM step next)]
    refine ih.bind fun parts last hlast => ?_
    show related (out ++ (more :: parts).flatten) last
    rw [List.flatten_cons, ← List.append_assoc]
    exact hlast

/-! ## 3. The same run twice -/

/-- The second is the first, unless the first is an error that is excused. -/
def SameUnless (excused : ε → Prop) (x y : Except ε α) : Prop :=
  y = x ∨ ∃ e, x = .error e ∧ excused e

theorem SameUnless.of_ok {excused : ε → Prop} {x y : Except ε α} {a : α}
    (h : SameUnless excused x y) (hx : x = .ok a) : y = .ok a := by
  rcases h with rfl | ⟨e, he, _⟩
  · exact hx
  · rw [hx] at he
    cases he

theorem SameUnless.of_error {excused : ε → Prop} {x y : Except ε α} {e : ε}
    (h : SameUnless excused x y) (hx : x = .error e) : y = .error e ∨ excused e := by
  rcases h with rfl | ⟨d, hd, hexcused⟩
  · exact Or.inl hx
  · rw [hx] at hd
    cases hd
    exact Or.inr hexcused

/-- Where nothing is excused, the second is the first. -/
theorem SameUnless.eq {x y : Except ε α} (h : SameUnless (fun _ => False) x y) : y = x :=
  h.resolve_right fun ⟨_, _, hnone⟩ => hnone

theorem SameUnless.bind {excused : ε → Prop} {x y : Except ε α} {f g : α → Except ε β}
    (hxy : SameUnless excused x y) (hfg : ∀ a, x = .ok a → SameUnless excused (f a) (g a)) :
    SameUnless excused (x >>= f) (y >>= g) := by
  rcases hxy with rfl | ⟨e, rfl, he⟩
  · cases y with
    | error e => exact Or.inl rfl
    | ok a => exact hfg a rfl
  · exact Or.inr ⟨e, rfl, he⟩

/-- **Where the steps are the same, the runs are**, as long as the steps keep what they need. -/
theorem foldlM_sameUnless {excused : ε → Prop} {step step' : σ → α → Except ε σ}
    (kept : σ → Prop) : ∀ (xs : List α) (s : σ),
    (∀ s x, x ∈ xs → kept s → SameUnless excused (step s x) (step' s x) ∧
      ∀ next, step s x = .ok next → kept next) →
    kept s → SameUnless excused (xs.foldlM step s) (xs.foldlM step' s)
  | [], _, _, _ => Or.inl rfl
  | x :: rest, s, hstep, h0 => by
    rw [List.foldlM_cons, List.foldlM_cons]
    obtain ⟨hsame, hkept⟩ := hstep s x List.mem_cons_self h0
    refine hsame.bind fun next hnext => ?_
    exact foldlM_sameUnless kept rest next
      (fun s y hy => hstep s y (List.mem_cons_of_mem _ hy)) (hkept next hnext)

/-! ## 4. Calls -/

section Calls

variable {step : σ → α → σ} {new? : α → Option β}

/-- **What calls add up, all of them have added.** -/
theorem foldl_collects {part : σ → List β}
    (h : ∀ s x, part (step s x) = part s ++ (new? x).toList) : ∀ (xs : List α) (s : σ),
    part (xs.foldl step s) = part s ++ xs.filterMap new?
  | [], s => (List.append_nil _).symm
  | x :: rest, s => by
    rw [List.foldl_cons, foldl_collects h rest, h, List.append_assoc]
    cases hx : new? x with
    | none => rw [List.filterMap_cons_none hx]; rfl
    | some b => rw [List.filterMap_cons_some hx]; rfl

/-- **What calls replace, the last of them has set.** -/
theorem foldl_keepsLast (part : σ → Option β) (h : ∀ s x, part (step s x) = (new? x).or (part s)) :
    ∀ (xs : List α) (s : σ), part (xs.foldl step s) = (xs.filterMap new?).getLast?.or (part s)
  | [], _ => rfl
  | x :: rest, s => by
    rw [List.foldl_cons, foldl_keepsLast part h rest, h]
    cases hx : new? x with
    | none => rw [List.filterMap_cons_none hx]; rfl
    | some b =>
      rw [List.filterMap_cons_some hx, List.getLast?_cons]
      cases (rest.filterMap new?).getLast? <;> rfl

/-- The same of a part that has a value before any call. -/
theorem foldl_keepsLast_getD (part : σ → β) (h : ∀ s x, part (step s x) = (new? x).getD (part s))
    (xs : List α) (s : σ) :
    part (xs.foldl step s) = (xs.filterMap new?).getLast?.getD (part s) := by
  have hstep : ∀ s x, some (part (step s x)) = (new? x).or (some (part s)) := by
    intro s x
    rw [h]
    cases new? x <;> rfl
  have hlast : some (part (xs.foldl step s)) =
      (xs.filterMap new?).getLast?.or (some (part s)) :=
    foldl_keepsLast (fun s => some (part s)) hstep xs s
  cases hx : (xs.filterMap new?).getLast? with
  | none =>
    rw [hx] at hlast
    exact Option.some.inj hlast
  | some b =>
    rw [hx] at hlast
    exact Option.some.inj hlast

end Calls

end InterfaceSchema
