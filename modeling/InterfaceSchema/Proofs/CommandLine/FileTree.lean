import InterfaceSchema.CommandLine.Run
import InterfaceSchema.Proofs.CommandLine.FilePath

/-!
# Files that are written

Whether a text can be written to a path is told from the tree as it is found. Every place on the way
to the file is a directory, or nothing is there yet and its name is not too long; the file's own
place is none of these, and no directory. Then the directories that are missing are made, and the
text is found at the path, whatever text it is.

* `FileTree.placesAlong`, `FileTree.CanHold`: the places on a way, and where a directory can be;
* `FileTree.exists_createAlong`, `FileTree.canHold_of_createAlong`: when a way is made;
* `FileTree.createDirectories_parent`: the directory of a file is the way to it;
* `FileTree.CanWrite`: the paths that can be written to;
* `FileTree.CanWrite.read?_store`: what was stored is read again;
* `FileTree.store_iff`: a text is stored if and only if its path can be written to.
-/

namespace InterfaceSchema

namespace FileTree

variable {t made : FileTree} {place : Place} {segs silent : List String} {path text : String}

/-! ## 1. Places on a way -/

/-- The places that the segments lead to, one after the other. -/
def placesAlong (place : Place) : List String → List Place
  | [] => []
  | segment :: rest => along place segment :: placesAlong (along place segment) rest

/-- The place that the segments lead to. -/
def goal (origin : Place) (segments : List String) : Place :=
  segments.foldl along origin

theorem placesAlong_append (us vs : List String) : ∀ place : Place,
    placesAlong place (us ++ vs) = placesAlong place us ++ placesAlong (goal place us) vs := by
  induction us with
  | nil => exact fun _ => rfl
  | cons u us ih => exact fun place => congrArg (along place u :: ·) (ih (along place u))

theorem goal_mem_placesAlong : ∀ {segs : List String} {place : Place}, segs ≠ [] →
    goal place segs ∈ placesAlong place segs
  | [], _, h => absurd rfl h
  | [_], _, _ => List.mem_cons_self
  | _ :: s :: rest, _, _ =>
    List.mem_cons_of_mem _ (goal_mem_placesAlong (List.cons_ne_nil s rest))

/-- Segments that say nothing lead nowhere. -/
theorem placesAlong_silent (h : ∀ s ∈ silent, FilePath.isSilent s = true) :
    ∀ p ∈ placesAlong place silent, p = place := by
  induction silent with
  | nil => exact List.forall_mem_nil _
  | cons s rest ih =>
    obtain ⟨hs, hrest⟩ := List.forall_mem_cons.1 h
    have hstay : along place s = place := if_pos hs
    rw [placesAlong, hstay]
    exact List.forall_mem_cons.2 ⟨rfl, ih hrest⟩

theorem mem_placesAlong_append_silent (hne : segs ≠ [])
    (h : ∀ s ∈ silent, FilePath.isSilent s = true) {p : Place} :
    p ∈ placesAlong place (segs ++ silent) ↔ p ∈ placesAlong place segs := by
  rw [placesAlong_append, List.mem_append, or_iff_left_of_imp]
  intro hp
  rw [placesAlong_silent h p hp]
  exact goal_mem_placesAlong hne

/-- Segments lead to a directory if and only if all places on the way are directories. -/
theorem directoryAt?_eq_some_iff : ∀ {segs : List String} {origin : Place},
    t.directoryAt? origin segs = some place ↔
      (∀ p ∈ placesAlong origin segs, t.entry? p = some .directory) ∧ goal origin segs = place
  | [], origin => by
    rw [placesAlong, and_iff_right (List.forall_mem_nil _)]
    exact Option.some_inj
  | s :: rest, origin => by
    rw [placesAlong, List.forall_mem_cons, and_assoc, goal, List.foldl_cons, ← goal,
      ← directoryAt?_eq_some_iff]
    unfold directoryAt?
    rw [List.foldlM_cons]
    by_cases h : t.entry? (along origin s) = some .directory
    · rw [if_pos h, and_iff_right h]
      exact Iff.rfl
    · rw [if_neg h]
      exact iff_of_false (fun hno => by cases hno) fun hno => h hno.1

/-! ## 2. Making directories -/

/-- A directory is at the place, or one can be made there. -/
def CanHold (t : FileTree) (place : Place) : Prop :=
  t.entry? place = some .directory ∨ t.entry? place = none ∧ isNamed place = true

instance (t : FileTree) (place : Place) : Decidable (t.CanHold place) :=
  inferInstanceAs (Decidable (_ ∨ _ ∧ _))

/-- The tree has a directory at the places, and is otherwise the other tree. -/
structure AddsDirectories (t made : FileTree) (places : List Place) : Prop where
  home : made.home = t.home
  entry? : ∀ other, made.entry? other =
    if other ∈ places then some .directory else t.entry? other

theorem addsDirectories_withDirectory (h : t.entry? place = none) :
    t.AddsDirectories (t.withDirectory place) [place] := by
  refine ⟨rfl, fun other => ?_⟩
  unfold entry? at h ⊢
  unfold withDirectory
  have hplace : place ≠ [] := fun hempty => by rw [if_pos hempty] at h; cases h
  rw [if_neg hplace] at h
  rw [List.lookup_append, Entries.lookup_cons, List.lookup_nil]
  by_cases hother : other = place
  · rw [hother, if_neg hplace, h, if_pos rfl, if_pos List.mem_cons_self, Option.none_or]
  · rw [if_neg hother, Option.or_none, if_neg (mt List.mem_singleton.1 hother)]

/-- **One step on the way.** Where a directory can be there is one then, and nothing else has
    changed. -/
theorem exists_createAlong_cons {s : String} (h : t.CanHold (along place s)) (rest : List String) :
    ∃ next, createAlong t place (s :: rest) = createAlong next (along place s) rest ∧
      t.AddsDirectories next [along place s] := by
  rw [createAlong]
  rcases h with hthere | ⟨hnone, hnamed⟩
  · rw [hthere]
    refine ⟨t, rfl, rfl, fun other => ?_⟩
    by_cases hother : other = along place s
    · rw [if_pos (List.mem_singleton.2 hother), hother, hthere]
    · rw [if_neg (mt List.mem_singleton.1 hother)]
  · rw [hnone]
    exact ⟨_, if_pos hnamed, addsDirectories_withDirectory hnone⟩

/-- Where no directory can be, the way ends. -/
theorem createAlong_cons_of_not {s : String} (h : ¬ t.CanHold (along place s))
    (rest : List String) : createAlong t place (s :: rest) = (t, false) := by
  rw [createAlong]
  cases hentry : t.entry? (along place s) with
  | none => exact if_neg fun hnamed => h (Or.inr ⟨hentry, hnamed⟩)
  | some entry =>
    cases entry with
    | directory => exact absurd (Or.inl hentry) h
    | file text => rfl

theorem AddsDirectories.canHold_iff (h : t.AddsDirectories made [place]) (hplace : t.CanHold place)
    (other : Place) : made.CanHold other ↔ t.CanHold other := by
  unfold CanHold
  rw [h.entry? other]
  by_cases hother : other = place
  · rw [if_pos (List.mem_singleton.2 hother), hother]
    exact iff_of_true (Or.inl rfl) hplace
  · rw [if_neg (mt List.mem_singleton.1 hother)]

theorem AddsDirectories.trans {next : FileTree} {places : List Place}
    (h : t.AddsDirectories next [place]) (h' : next.AddsDirectories made places) :
    t.AddsDirectories made (place :: places) where
  home := h'.home.trans h.home
  entry? other := by
    rw [h'.entry?, h.entry?]
    by_cases hmem : other ∈ places
    · rw [if_pos hmem, if_pos (List.mem_cons_of_mem _ hmem)]
    · rw [if_neg hmem]
      simp only [List.mem_cons, List.not_mem_nil, or_false, hmem]

/-- **The way of the segments is made** where each of its places can be a directory. -/
theorem exists_createAlong : ∀ {segs : List String} {t : FileTree} {place : Place},
    (∀ p ∈ placesAlong place segs, t.CanHold p) → ∃ made,
      createAlong t place segs = (made, true) ∧ t.AddsDirectories made (placesAlong place segs)
  | [], t, place, _ => ⟨t, rfl, rfl, fun _ => rfl⟩
  | s :: rest, t, place, h => by
    obtain ⟨hs, hrest⟩ := List.forall_mem_cons.1 h
    obtain ⟨next, hnext, hadds⟩ := exists_createAlong_cons hs rest
    obtain ⟨made, hmade, hadds'⟩ :=
      exists_createAlong fun p hp => (hadds.canHold_iff hs p).2 (hrest p hp)
    exact ⟨made, hnext.trans hmade, hadds.trans hadds'⟩

/-- It is made nowhere else. -/
theorem canHold_of_createAlong : ∀ {segs : List String} {t : FileTree} {place : Place},
    createAlong t place segs = (made, true) → ∀ p ∈ placesAlong place segs, t.CanHold p
  | [], _, _, _ => List.forall_mem_nil _
  | s :: rest, t, place, h => by
    by_cases hs : t.CanHold (along place s)
    · obtain ⟨next, hnext, hadds⟩ := exists_createAlong_cons hs rest
      rw [hnext] at h
      exact List.forall_mem_cons.2
        ⟨hs, fun p hp => (hadds.canHold_iff hs p).1 (canHold_of_createAlong h p hp)⟩
    · rw [createAlong_cons_of_not hs] at h
      cases h

/-! ## 3. The directory of a file -/

/-- The places on the way to the file of a path. -/
def way (t : FileTree) (path : String) : List Place :=
  placesAlong (t.origin path) (FilePath.directories path)

/-- The place of the file of a path. -/
def target (t : FileTree) (path : String) : Place :=
  goal (t.origin path) (FilePath.directories path) ++ [FilePath.fileName path]

theorem createDirectories_of_ne (hne : path ≠ "") (husable : FilePath.isUsable path = true) :
    t.createDirectories path = t.createAlong (t.origin path) (FilePath.segments path) := by
  unfold createDirectories
  rw [if_neg hne, if_pos husable]

/-- **To make the directory of a file is to make the way to the file.** -/
theorem createDirectories_parent (hname : FilePath.isFileName (FilePath.fileName path) = true)
    (husable : FilePath.isUsable path = true) : ∃ origin segs,
      t.createDirectories ((FilePath.parent? path).getD "") = t.createAlong origin segs ∧
      ∀ p, p ∈ placesAlong origin segs ↔ p ∈ t.way path := by
  rcases FilePath.parent?_cases hname with ⟨hparent, hdirs⟩ | ⟨hparent, habsolute, hdirs, hsilent⟩ |
    ⟨parent, silent, hparent, hne, habsolute, husable', hdirs, hsilent⟩
  · refine ⟨[], [], ?_, fun p => ?_⟩
    · rw [hparent]
      rfl
    · rw [way, hdirs]
      rfl
  · refine ⟨[], ["", ""], ?_, fun p => ?_⟩
    · rw [hparent, Option.getD_some, createDirectories_of_ne (by decide) (by decide)]
      rfl
    · rw [way, origin, habsolute, if_pos rfl]
      have hgoal : goal [] (FilePath.directories path) ∈
          placesAlong [] (FilePath.directories path) := goal_mem_placesAlong hdirs
      refine ⟨fun hp => ?_, fun hp => ?_⟩
      · rw [placesAlong_silent (by decide) p hp]
        rwa [placesAlong_silent hsilent _ hgoal] at hgoal
      · rw [placesAlong_silent hsilent p hp]
        exact List.mem_cons_self
  · refine ⟨t.origin parent, FilePath.segments parent, ?_, fun p => ?_⟩
    · rw [hparent, Option.getD_some, createDirectories_of_ne hne (husable' husable)]
    · rw [way, hdirs, mem_placesAlong_append_silent (FilePath.segments_ne_nil parent) hsilent,
        origin, origin, habsolute]

/-- The directory of a file is made where the places on the way to it can be directories. -/
theorem exists_createDirectories (hname : FilePath.isFileName (FilePath.fileName path) = true)
    (husable : FilePath.isUsable path = true) (h : ∀ p ∈ t.way path, t.CanHold p) : ∃ made,
      t.createDirectories ((FilePath.parent? path).getD "") = (made, true) ∧
      t.AddsDirectories made (t.way path) := by
  obtain ⟨origin, segs, hcreate, hmem⟩ := createDirectories_parent hname husable
  obtain ⟨made, hmade, hadds⟩ := exists_createAlong fun p hp => h p ((hmem p).1 hp)
  refine ⟨made, hcreate.trans hmade, hadds.home, fun other => ?_⟩
  simp only [hadds.entry?, hmem]

theorem canHold_of_createDirectories (hname : FilePath.isFileName (FilePath.fileName path) = true)
    (husable : FilePath.isUsable path = true)
    (h : t.createDirectories ((FilePath.parent? path).getD "") = (made, true)) :
    ∀ p ∈ t.way path, t.CanHold p := by
  obtain ⟨origin, segs, hcreate, hmem⟩ := createDirectories_parent hname husable
  exact fun p hp => canHold_of_createAlong (hcreate.symm.trans h) p ((hmem p).2 hp)

/-- Where a path leads depends on where it starts. -/
theorem way_congr (h : made.home = t.home) (path : String) : made.way path = t.way path := by
  rw [way, way, origin, origin, h]

theorem target_congr (h : made.home = t.home) (path : String) :
    made.target path = t.target path := by
  rw [target, target, origin, origin, h]

/-! ## 4. Writing and reading -/

/-- Only the place of the file has another entry. -/
theorem entry?_withFile (hplace : place ≠ []) (other : Place) :
    entry? (t.withFile place text) other =
      if other = place then some (.file text) else t.entry? other := by
  unfold entry? withFile
  by_cases h : other = []
  · subst h
    rw [if_pos rfl, if_pos rfl, if_neg (Ne.symm hplace)]
  · rw [if_neg h, if_neg h, Entries.lookup_put]

theorem target_ne_nil (t : FileTree) (path : String) : t.target path ≠ [] :=
  List.append_ne_nil_of_right_ne_nil _ (List.cons_ne_nil _ _)

/-- **When a file can be written**, and what it changes. -/
theorem write?_eq_some_iff : t.write? path text = some made ↔
    FilePath.isUsable path = true ∧ FilePath.isFileName (FilePath.fileName path) = true ∧
      (∀ p ∈ t.way path, t.entry? p = some .directory) ∧
      t.entry? (t.target path) ≠ some .directory ∧ t.withFile (t.target path) text = made := by
  unfold write?
  simp only [Option.ite_none_right_eq_some, Bool.and_eq_true, and_assoc, Option.bind_eq_bind,
    Option.bind_eq_some_iff, directoryAt?_eq_some_iff, Option.ite_none_left_eq_some,
    Option.some.injEq]
  constructor
  · rintro ⟨husable, hname, _, hway, rfl, htarget, hmade⟩
    exact ⟨husable, hname, hway, htarget, hmade⟩
  · rintro ⟨husable, hname, hway, htarget, hmade⟩
    exact ⟨husable, hname, _, hway, rfl, htarget, hmade⟩

/-- **A file is read** at the end of a way of directories. -/
theorem read?_of_entry (hname : FilePath.isFileName (FilePath.fileName path) = true)
    (hway : ∀ p ∈ t.way path, t.entry? p = some .directory)
    (hentry : t.entry? (t.target path) = some (.file text)) : t.read? path = some text := by
  have hplace : along (goal (t.origin path) (FilePath.directories path)) (FilePath.fileName path) =
      t.target path := by
    obtain ⟨_, hsilent, hdots⟩ := FilePath.isFileName_iff.1 hname
    rw [along, if_neg (Bool.eq_false_iff.1 hsilent), if_neg hdots, target]
  unfold read?
  rw [directoryAt?_eq_some_iff.2 ⟨hway, rfl⟩, Option.bind_eq_bind, Option.bind_some, hplace, hentry]

/-! ## 5. Paths that can be written to -/

/-- A text can be written to the path: its last segment is a name for a file; on the way to it there
    are directories, or they can be made; and its own place is no directory, and becomes none on the
    way. -/
structure CanWrite (t : FileTree) (path : String) : Prop where
  usable : FilePath.isUsable path = true
  fileName : FilePath.isFileName (FilePath.fileName path) = true
  way : ∀ p ∈ t.way path, t.CanHold p
  target : t.entry? (t.target path) ≠ some .directory
  apart : t.target path ∉ t.way path

theorem canWrite_iff : t.CanWrite path ↔ FilePath.isUsable path = true ∧
    FilePath.isFileName (FilePath.fileName path) = true ∧ (∀ p ∈ t.way path, t.CanHold p) ∧
    t.entry? (t.target path) ≠ some .directory ∧ t.target path ∉ t.way path :=
  ⟨fun h => ⟨h.usable, h.fileName, h.way, h.target, h.apart⟩,
    fun ⟨husable, hname, hway, htarget, hapart⟩ => ⟨husable, hname, hway, htarget, hapart⟩⟩

instance (t : FileTree) (path : String) : Decidable (t.CanWrite path) :=
  decidable_of_iff _ canWrite_iff.symm

/-- **What storing a text leaves behind**: the directories on the way, and the file. -/
theorem CanWrite.exists_perform_store (h : t.CanWrite path) (text : String) : ∃ after,
    (Action.store path text).perform t = ⟨.ok (), "", "", [.stored path], after⟩ ∧
      after.home = t.home ∧ ∀ other, after.entry? other =
        if other = t.target path then some (.file text)
        else if other ∈ t.way path then some .directory else t.entry? other := by
  obtain ⟨made, hmade, hadds⟩ := exists_createDirectories h.fileName h.usable h.way
  have hway : ∀ p ∈ made.way path, made.entry? p = some .directory := by
    intro p hp
    rw [way_congr hadds.home] at hp
    rw [hadds.entry?, if_pos hp]
  have htarget : made.entry? (made.target path) ≠ some .directory := by
    rw [target_congr hadds.home, hadds.entry?, if_neg h.apart]
    exact h.target
  have hwrite : made.write? path text = some (made.withFile (made.target path) text) :=
    write?_eq_some_iff.2 ⟨h.usable, h.fileName, hway, htarget, rfl⟩
  refine ⟨made.withFile (made.target path) text, ?_, hadds.home, fun other => ?_⟩
  · unfold Action.perform
    simp only [hmade, hwrite]
  · rw [entry?_withFile (target_ne_nil made path), target_congr hadds.home, hadds.entry?]

/-- **What was stored is read again**, whatever text it is. -/
theorem CanWrite.read?_store (h : t.CanWrite path) (text : String) : ∃ after,
    (Action.store path text).perform t = ⟨.ok (), "", "", [.stored path], after⟩ ∧
      after.read? path = some text := by
  obtain ⟨after, hafter, hhome, hentry⟩ := h.exists_perform_store text
  refine ⟨after, hafter, read?_of_entry h.fileName (fun p hp => ?_) ?_⟩
  · rw [way_congr hhome] at hp
    have hne : p ≠ t.target path := fun heq => h.apart (heq ▸ hp)
    rw [hentry, if_neg hne, if_pos hp]
  · rw [target_congr hhome, hentry, if_pos rfl]

/-- **A text is stored if and only if its path can be written to.** -/
theorem store_iff : ((Action.store path text).perform t).result = .ok () ↔ t.CanWrite path := by
  constructor
  · intro h
    unfold Action.perform at h
    dsimp only at h
    split at h
    · cases h
    · rename_i made hmade
      split at h
      · rename_i after hwrite
        obtain ⟨husable, hname, _, htarget, _⟩ := write?_eq_some_iff.1 hwrite
        have hcan := canHold_of_createDirectories hname husable hmade
        obtain ⟨made', hmade', hadds⟩ := exists_createDirectories hname husable hcan
        cases hmade.symm.trans hmade'
        rw [target_congr hadds.home, hadds.entry?] at htarget
        have hapart : t.target path ∉ t.way path := fun hmem => htarget (if_pos hmem)
        rw [if_neg hapart] at htarget
        exact ⟨husable, hname, hcan, htarget, hapart⟩
      · cases h
  · intro h
    obtain ⟨after, hafter, _⟩ := h.read?_store text
    rw [hafter]

end FileTree

end InterfaceSchema
