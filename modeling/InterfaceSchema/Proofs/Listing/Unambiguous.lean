import InterfaceSchema.Proofs.Listing.Colours
import InterfaceSchema.Proofs.Listing.Rows
import InterfaceSchema.Proofs.TypeDef.Dependencies

/-!
# The listing of types can be read back

A row has columns that names may overflow, a supertype that may be left out and a tail of
dependencies that are joined with commas; and a name may look like any of what stands between the
columns. Nevertheless no two listings look alike: where no text that is listed has a space or a line
end in it, the plain listing determines everything that its rows say.

The proof reads a listing from its start. Each part of a row ends where a blank begins, so of two
equal texts that begin with such a part the parts are equal, and what follows them is equal too.

* `IsUnbroken`, `Breaks`, `word_append_inj`: where a word ends;
* `intercalate_append_inj`: where a joined list of words ends;
* `Entry.text_append_inj`: where a row ends;
* `typeListing_eq_iff`: listings are equal if and only if they say the same.
-/

namespace InterfaceSchema

namespace Text

/-! ## 1. Words -/

/-- A space or a line end. -/
def isBreak (c : Char) : Bool :=
  c == ' ' || c == '\n'

/-- The text has no space and no line end in it. It may be empty. -/
def IsUnbroken (word : List Char) : Prop :=
  ∀ c ∈ word, isBreak c = false

instance (word : List Char) : Decidable (IsUnbroken word) :=
  List.decidableBAll (fun c => isBreak c = false) word

/-- The text does not go on with a word: it begins with a blank, or it is at its end. -/
def Breaks (text : List Char) : Prop :=
  text.takeWhile (fun c => !isBreak c) = []

theorem breaks_cons {c : Char} (h : isBreak c = true) (text : List Char) : Breaks (c :: text) := by
  simp [Breaks, h]

theorem breaks_spaces_append : ∀ (k : Nat) {text : List Char}, Breaks text →
    Breaks (List.replicate k ' ' ++ text)
  | 0, _, h => h
  | _ + 1, _, _ => breaks_cons rfl _

theorem isUnbroken_append {u v : List Char} : IsUnbroken (u ++ v) ↔ IsUnbroken u ∧ IsUnbroken v :=
  List.forall_mem_append

variable {u v r s : List Char}

theorem takeWhile_word (hu : IsUnbroken u) (hr : Breaks r) :
    (u ++ r).takeWhile (fun c => !isBreak c) = u := by
  have hink : ∀ c ∈ u, (!isBreak c) = true := fun c hc => by rw [hu c hc, Bool.not_false]
  rw [List.takeWhile_append_of_pos hink, hr, List.append_nil]

/-- **A word ends where a blank begins.** -/
theorem word_append_inj (hu : IsUnbroken u) (hv : IsUnbroken v) (hr : Breaks r) (hs : Breaks s)
    (h : u ++ r = v ++ s) : u = v ∧ r = s := by
  have huv : u = v := by rw [← takeWhile_word hu hr, h, takeWhile_word hv hs]
  subst huv
  exact ⟨rfl, List.append_cancel_left h⟩

/-- **A padded word is read back**, whether it fills its column or overflows it. -/
theorem padRight_append_inj {width : Nat} (hu : IsUnbroken u) (hv : IsUnbroken v) (hr : Breaks r)
    (hs : Breaks s) (h : padRight width u ++ r = padRight width v ++ s) : u = v ∧ r = s := by
  unfold padRight at h
  rw [List.append_assoc, List.append_assoc] at h
  obtain ⟨rfl, hrest⟩ :=
    word_append_inj hu hv (breaks_spaces_append _ hr) (breaks_spaces_append _ hs) h
  exact ⟨rfl, List.append_cancel_left hrest⟩

/-! ## 2. Joined lists of words -/

/-- In a joined list every word but the last is followed by a comma, and then by a space. -/
theorem intercalate_cons_cons_append (w w' : String) (ws : List String) (rest : List Char) :
    (", ".intercalate (w :: w' :: ws)).toList ++ rest =
      (w.toList ++ [',']) ++ ' ' :: ((", ".intercalate (w' :: ws)).toList ++ rest) := by
  simp [String.intercalate_cons_cons]

theorem isUnbroken_comma {w : String} (h : IsUnbroken w.toList) : IsUnbroken (w.toList ++ [',']) :=
  isUnbroken_append.2 ⟨h, by decide⟩

/-- **A joined list of words that ends its line is read back**, even if words have commas. The last
    word is the one with a line end behind it. -/
theorem intercalate_append_inj : ∀ {us vs : List String}, us ≠ [] → vs ≠ [] →
    (∀ w ∈ us, IsUnbroken w.toList) → (∀ w ∈ vs, IsUnbroken w.toList) →
    (", ".intercalate us).toList ++ '\n' :: r = (", ".intercalate vs).toList ++ '\n' :: s →
      us = vs ∧ r = s
  | [], _, hne, _, _, _, _ => absurd rfl hne
  | _, [], _, hne, _, _, _ => absurd rfl hne
  | [u], [v], _, _, hu, hv, h => by
    rw [String.intercalate_singleton, String.intercalate_singleton] at h
    obtain ⟨huv, hrest⟩ := word_append_inj (hu u List.mem_cons_self) (hv v List.mem_cons_self)
      (breaks_cons rfl _) (breaks_cons rfl _) h
    exact ⟨by rw [String.toList_inj.1 huv], (List.cons.inj hrest).2⟩
  -- where one list ends and the other goes on, a line end would have to be a space
  | [u], v :: v' :: vs, _, _, hu, hv, h => by
    rw [String.intercalate_singleton, intercalate_cons_cons_append] at h
    obtain ⟨_, hrest⟩ := word_append_inj (hu u List.mem_cons_self)
      (isUnbroken_comma (hv v List.mem_cons_self)) (breaks_cons rfl _) (breaks_cons rfl _) h
    cases (List.cons.inj hrest).1
  | u :: u' :: us, [v], _, _, hu, hv, h => by
    rw [String.intercalate_singleton, intercalate_cons_cons_append] at h
    obtain ⟨_, hrest⟩ := word_append_inj (isUnbroken_comma (hu u List.mem_cons_self))
      (hv v List.mem_cons_self) (breaks_cons rfl _) (breaks_cons rfl _) h
    cases (List.cons.inj hrest).1
  | u :: u' :: us, v :: v' :: vs, _, _, hu, hv, h => by
    rw [intercalate_cons_cons_append, intercalate_cons_cons_append] at h
    obtain ⟨huv, hrest⟩ := word_append_inj (isUnbroken_comma (hu u List.mem_cons_self))
      (isUnbroken_comma (hv v List.mem_cons_self)) (breaks_cons rfl _) (breaks_cons rfl _) h
    obtain ⟨htail, hrs⟩ := intercalate_append_inj (List.cons_ne_nil u' us) (List.cons_ne_nil v' vs)
      (fun w hw => hu w (List.mem_cons_of_mem u hw)) (fun w hw => hv w (List.mem_cons_of_mem v hw))
      (List.cons.inj hrest).2
    exact ⟨by rw [String.toList_inj.1 (List.append_cancel_right huv), htail], hrs⟩

end Text

open Text

namespace Listing

/-! ## 3. Rows -/

/-- No text of the entry has a blank in it. -/
structure Entry.Unbroken (e : Entry) : Prop where
  name : IsUnbroken e.name.toList
  supertype : IsUnbroken e.supertype.toList
  dependencies : ∀ w ∈ e.dependencies, IsUnbroken w.toList

end Listing

open Listing

theorem TypeDef.entry_unbroken {t : TypeDef} (h : ∀ w ∈ t.shown, IsUnbroken w.toList) :
    t.entry.Unbroken where
  name := h _ List.mem_cons_self
  supertype := h _ (List.mem_cons_of_mem _ List.mem_cons_self)
  dependencies w hw := h w (List.mem_cons_of_mem _ (mem_dependencies.1 hw).1)

namespace Listing

variable {r s : List Char}

/-- Behind the supertype there is a blank, but never the colon of another one. -/
theorem dependencyText_append_ne (ds : List String) :
    dependencyText ds ++ '\n' :: r ≠ ' ' :: ':' :: s := by
  unfold dependencyText
  split
  · exact fun h => by cases h
  · exact fun h => by cases h

theorem breaks_dependencyText (ds : List String) : Breaks (dependencyText ds ++ '\n' :: r) := by
  unfold dependencyText
  split
  · exact breaks_cons rfl _
  · exact breaks_cons rfl _

theorem breaks_supertypeText (kind : BaseType) (supertype : String) (hr : Breaks r) :
    Breaks (supertypeText kind supertype ++ r) := by
  unfold supertypeText
  split
  · exact hr
  · exact breaks_cons rfl _

theorem dependencyText_append_inj {ds es : List String} (hd : ∀ w ∈ ds, IsUnbroken w.toList)
    (he : ∀ w ∈ es, IsUnbroken w.toList)
    (h : dependencyText ds ++ '\n' :: r = dependencyText es ++ '\n' :: s) : ds = es ∧ r = s := by
  unfold dependencyText at h
  split at h
  · rename_i hds
    split at h
    · rename_i hes
      exact ⟨by rw [hds, hes], (List.cons.inj h).2⟩
    · cases (List.cons.inj h).1
  · rename_i hds
    split at h
    · cases (List.cons.inj h).1
    · rename_i hes
      simp only [List.cons_append, List.cons.injEq, true_and] at h
      exact intercalate_append_inj hds hes hd he h

/-- **For one kind the supertype is read back**, although it may be left out: behind the kind there
    is a colon if and only if it is not. -/
theorem supertypeText_append_inj {kind : BaseType} {st st' : String} {ds es : List String}
    (hst : IsUnbroken st.toList) (hst' : IsUnbroken st'.toList)
    (h : supertypeText kind st ++ (dependencyText ds ++ '\n' :: r) =
      supertypeText kind st' ++ (dependencyText es ++ '\n' :: s)) :
    st = st' ∧ dependencyText ds ++ '\n' :: r = dependencyText es ++ '\n' :: s := by
  unfold supertypeText at h
  split at h
  · rename_i hkind
    split at h
    · rename_i hkind'
      exact ⟨by rw [hkind, hkind'], h⟩
    · exact absurd h (dependencyText_append_ne ds)
  · split at h
    · exact absurd h.symm (dependencyText_append_ne es)
    · simp only [List.cons_append, List.cons.injEq, true_and] at h
      obtain ⟨heq, hrest⟩ :=
        word_append_inj hst hst' (breaks_dependencyText ds) (breaks_dependencyText es) h
      exact ⟨String.toList_inj.1 heq, hrest⟩

theorem isUnbroken_kind (b : BaseType) : IsUnbroken b.name.toList := by
  cases b <;> decide

/-- **A row is read back**, and the number in front of it cannot be taken for a part of it: in both
    listings it is the same. -/
theorem Entry.text_append_inj {e f : Entry} {number : Nat} (he : e.Unbroken) (hf : f.Unbroken)
    (h : e.text number ++ r = f.text number ++ s) : e = f ∧ r = s := by
  unfold Entry.text at h
  -- the numbers cancel whatever their width, so the name is the first part that is read
  simp only [List.append_assoc, List.cons_append, List.nil_append, List.append_cancel_left_eq,
    List.cons.injEq, true_and] at h
  obtain ⟨hname, h⟩ := padRight_append_inj he.name hf.name (breaks_cons rfl _) (breaks_cons rfl _) h
  obtain ⟨hkind, h⟩ := padRight_append_inj (isUnbroken_kind e.kind) (isUnbroken_kind f.kind)
    (breaks_supertypeText _ _ (breaks_dependencyText _))
    (breaks_supertypeText _ _ (breaks_dependencyText _)) (List.cons.inj h).2
  have hkind : e.kind = f.kind := BaseType.name_inj (String.toList_inj.1 hkind)
  rw [hkind] at h
  obtain ⟨hsupertype, h⟩ := supertypeText_append_inj he.supertype hf.supertype h
  obtain ⟨hdependencies, hrest⟩ := dependencyText_append_inj he.dependencies hf.dependencies h
  exact ⟨Entry.ext (String.toList_inj.1 hname) hkind hsupertype hdependencies, hrest⟩

/-! ## 4. Listings -/

/-- The rows of the entries, numbered on from `number`. -/
def entriesText (number : Nat) (entries : List Entry) : List Char :=
  (entries.zipIdx number).flatMap fun p => p.1.text p.2

theorem entriesText_cons (number : Nat) (e : Entry) (entries : List Entry) :
    entriesText number (e :: entries) = e.text number ++ entriesText (number + 1) entries := rfl

theorem Entry.text_ne_nil (e : Entry) (number : Nat) : e.text number ≠ [] := by
  simp [Entry.text]

/-- **A listing is read back row by row**, from any number on. -/
theorem entriesText_inj : ∀ {es fs : List Entry} {number : Nat}, (∀ e ∈ es, e.Unbroken) →
    (∀ f ∈ fs, f.Unbroken) → entriesText number es = entriesText number fs → es = fs
  | [], [], _, _, _, _ => rfl
  | [], f :: fs, number, _, _, h => by
    rw [entriesText_cons] at h
    exact absurd (List.append_eq_nil_iff.1 h.symm).1 (f.text_ne_nil number)
  | e :: es, [], number, _, _, h => by
    rw [entriesText_cons] at h
    exact absurd (List.append_eq_nil_iff.1 h).1 (e.text_ne_nil number)
  | e :: es, f :: fs, number, he, hf, h => by
    rw [entriesText_cons, entriesText_cons] at h
    obtain ⟨rfl, hrest⟩ :=
      Entry.text_append_inj (he e List.mem_cons_self) (hf f List.mem_cons_self) h
    rw [entriesText_inj (fun e' h' => he e' (List.mem_cons_of_mem e h'))
      (fun f' h' => hf f' (List.mem_cons_of_mem e h')) hrest]

/-- **The plain listing of all types is that of their entries.** -/
theorem renderAll_allTypes (types : List TypeDef) :
    renderAll false (typeListing (fun _ => true) types) =
      String.ofList (entriesText 1 (types.map TypeDef.entry)) := by
  rw [renderAll_typeListing, List.filter_eq_self.2 fun _ _ => rfl, rows, entriesText,
    List.zipIdx_map, List.flatMap_map, List.flatMap_map]
  rfl

end Listing

/-- **The plain listing determines what it says.** Where no name and no reference of a type has a
    space or a line end in it, two listings of types, each numbered from 1, are the same text if and
    only if there are as many types in both and those at the same place have the same name, kind,
    supertype and dependencies. So nothing that a listing leaves out, and no name or number that
    overflows its column, ever makes different listings look alike. -/
theorem typeListing_eq_iff {ts us : List TypeDef}
    (ht : ∀ t ∈ ts, ∀ w ∈ t.shown, IsUnbroken w.toList)
    (hu : ∀ u ∈ us, ∀ w ∈ u.shown, IsUnbroken w.toList) :
    renderAll false (typeListing (fun _ => true) ts) =
        renderAll false (typeListing (fun _ => true) us) ↔
      ts.map TypeDef.entry = us.map TypeDef.entry := by
  rw [renderAll_allTypes, renderAll_allTypes]
  constructor
  · intro h
    refine entriesText_inj ?_ ?_ (String.ofList_inj.1 h)
    · exact List.forall_mem_map.2 fun t hmem => TypeDef.entry_unbroken (ht t hmem)
    · exact List.forall_mem_map.2 fun u hmem => TypeDef.entry_unbroken (hu u hmem)
  · intro h
    rw [h]

/-- Two unions with the name of a kind, and variants that are named like a colon and an arrow. They
    have the same name, kind and dependencies. One row ends in `Union    : :  <- :, <-`, where the
    colon is the supertype, and the other in `Union     <- :, <-`. -/
theorem typeListing_ne_colon :
    let derived : TypeDef := ⟨⟨"Struct", ":", none⟩, .union ["<-"]⟩
    let plain : TypeDef := ⟨⟨"Struct", "Union", none⟩, .union [":", "<-"]⟩
    renderAll false (typeListing (fun _ => true) [derived]) ≠
      renderAll false (typeListing (fun _ => true) [plain]) := by
  intro derived plain h
  have hentries := (typeListing_eq_iff (by decide)
    (by decide)).1 h
  have hsupertype : derived.supertype = plain.supertype :=
    congrArg Entry.supertype (List.cons.inj hentries).1
  exact absurd hsupertype (by decide)

end InterfaceSchema
