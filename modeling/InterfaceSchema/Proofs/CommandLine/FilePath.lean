import InterfaceSchema.CommandLine.FileTree

/-!
# Paths

A path is its segments, joined by slashes. The directory of a file is written without the segments
at its end that say nothing; it is found from the same place as the file, and no longer.

* `FilePath.join_segments`, `FilePath.segments_join`: segments and paths determine each other;
* `FilePath.trimEnd_append`: what is left out at the end of a path says nothing;
* `FilePath.parent?_cases`: the directory of a file.
-/

namespace InterfaceSchema

namespace FilePath

variable {path : String} {segs : List String} {name : String}

/-! ## 1. Segments -/

theorem not_mem_of_mem_splitOn {c : Char} : ∀ {text piece : List Char},
    piece ∈ text.splitOn c → c ∉ piece
  | [], piece, h => by
    rw [List.splitOn_nil, List.mem_singleton] at h
    simp [h]
  | d :: text, piece, h => by
    rw [List.splitOn_cons_eq_if_modifyHead] at h
    split at h
    · rcases List.mem_cons.1 h with rfl | h
      · exact List.not_mem_nil
      · exact not_mem_of_mem_splitOn h
    · rename_i hd
      obtain ⟨first, rest, hsplit⟩ := List.exists_cons_of_ne_nil (List.splitOn_ne_nil c text)
      rw [hsplit, List.modifyHead_cons] at h
      rcases List.mem_cons.1 h with rfl | h
      · rw [List.mem_cons, not_or]
        refine ⟨fun heq => hd (beq_iff_eq.2 heq.symm), ?_⟩
        exact not_mem_of_mem_splitOn (hsplit ▸ List.mem_cons_self)
      · exact not_mem_of_mem_splitOn (hsplit ▸ List.mem_cons_of_mem first h)

theorem not_mem_of_mem_segments {s : String} (h : s ∈ segments path) : '/' ∉ s.toList := by
  obtain ⟨piece, hpiece, rfl⟩ := List.mem_map.1 h
  rw [String.toList_ofList]
  exact not_mem_of_mem_splitOn hpiece

theorem segments_ne_nil (path : String) : segments path ≠ [] :=
  mt List.map_eq_nil_iff.1 (List.splitOn_ne_nil _ _)

/-- **A path is its segments, joined by slashes.** -/
theorem join_segments (path : String) : "/".intercalate (segments path) = path := by
  have hid : (String.toList ∘ String.ofList) = id := funext fun _ => String.toList_ofList
  rw [← String.toList_inj, String.toList_intercalate, segments, List.map_map, hid, List.map_id]
  exact List.intercalate_splitOn '/'

/-- **Segments that are joined are read again.** -/
theorem segments_join (hne : segs ≠ []) (h : ∀ s ∈ segs, '/' ∉ s.toList) :
    segments ("/".intercalate segs) = segs := by
  have hid : (String.ofList ∘ String.toList) = id := funext fun _ => String.ofList_toList
  have hsplit : (['/'].intercalate (segs.map String.toList)).splitOn '/' =
      segs.map String.toList :=
    List.splitOn_intercalate '/' (List.forall_mem_map.2 h) (mt List.map_eq_nil_iff.1 hne)
  rw [segments, String.toList_intercalate]
  exact (congrArg _ hsplit).trans (by rw [List.map_map, hid, List.map_id])

theorem directories_append_fileName (path : String) :
    directories path ++ [fileName path] = segments path := by
  rw [directories, fileName, List.getLast?_eq_some_getLast (segments_ne_nil path), Option.getD_some,
    List.dropLast_concat_getLast]

/-! ## 2. Segments that say nothing -/

/-- **What is left out at the end says nothing.** -/
theorem trimEnd_append : ∀ segs : List String, ∃ silent, segs = trimEnd segs ++ silent ∧
    ∀ s ∈ silent, isSilent s = true
  | [] => ⟨[], rfl, List.forall_mem_nil _⟩
  | first :: rest => by
    have hrest : rest = (rest.reverse.dropWhile isSilent).reverse ++
        (rest.reverse.takeWhile isSilent).reverse := by
      rw [← List.reverse_append, List.takeWhile_append_dropWhile, List.reverse_reverse]
    have hsilent : ∀ s ∈ (rest.reverse.takeWhile isSilent).reverse, isSilent s = true :=
      fun s hs => List.all_eq_true.1 List.all_takeWhile s (List.mem_reverse.1 hs)
    unfold trimEnd
    dsimp only
    split
    · rename_i hnone
      rw [hnone.2, List.nil_append] at hrest
      refine ⟨first :: rest, rfl, List.forall_mem_cons.2 ⟨?_, hrest ▸ hsilent⟩⟩
      rw [hnone.1]
      rfl
    · exact ⟨_, congrArg (first :: ·) hrest, hsilent⟩

/-- What is left is not a single empty segment, which would be read as none. -/
theorem trimEnd_ne_empty : trimEnd segs ≠ [""] := by
  cases segs with
  | nil => exact fun h => by cases h
  | cons first rest =>
    unfold trimEnd
    dsimp only
    split
    · exact fun h => by cases h
    · rename_i hsome
      exact fun h => hsome (List.cons.inj h)

/-- Nothing is left only behind a slash that a path begins with. -/
theorem eq_empty_of_trimEnd {first : String} (h : trimEnd (first :: segs) = []) : first = "" := by
  unfold trimEnd at h
  dsimp only at h
  split at h
  · rename_i hnone
    exact hnone.1
  · cases h

/-- Behind a segment that says something nothing is left out. -/
theorem trimEnd_concat (segs : List String) (h : isSilent name = false) :
    trimEnd (segs ++ [name]) = segs ++ [name] := by
  cases segs with
  | nil =>
    unfold trimEnd
    exact if_neg fun hnone => by rw [hnone.1] at h; cases h
  | cons first rest =>
    have hkept : (((rest ++ [name]).reverse).dropWhile isSilent).reverse = rest ++ [name] := by
      rw [List.reverse_concat, List.dropWhile_cons_of_neg (by simp [h]), ← List.reverse_concat,
        List.reverse_reverse]
    rw [List.cons_append]
    unfold trimEnd
    dsimp only
    rw [hkept, if_neg (by simp)]

/-! ## 3. The directory of a file -/

theorem isFileName_iff :
    isFileName name = true ↔ isName name = true ∧ isSilent name = false ∧ name ≠ ".." := by
  simp [isFileName, and_assoc]

/-- The directory of a file is written without what says nothing at the end of it. -/
theorem parent?_eq (h : isFileName (fileName path) = true) : parent? path =
    some (if trimEnd (directories path) = [] then if isAbsolute path then "/" else ""
      else "/".intercalate (trimEnd (directories path))) := by
  have hkept : trimEnd (segments path) = directories path ++ [fileName path] := by
    rw [← directories_append_fileName, trimEnd_concat _ (isFileName_iff.1 h).2.1]
  obtain ⟨first, rest, hcons⟩ : ∃ first rest, directories path ++ [fileName path] = first :: rest :=
    List.exists_cons_of_ne_nil (List.append_ne_nil_of_right_ne_nil _ (List.cons_ne_nil _ _))
  unfold parent?
  rw [hkept, hcons]
  dsimp only
  rw [← hcons, List.dropLast_concat]
  cases trimEnd (directories path) with
  | nil => rfl
  | cons parent parents => rw [if_neg (List.cons_ne_nil _ _)]

theorem isAbsolute_of_segments {s : String} (h : segments path = s :: segs) (hne : segs ≠ []) :
    isAbsolute path = (s == "") := by
  obtain ⟨s', rest, rfl⟩ := List.exists_cons_of_ne_nil hne
  rw [isAbsolute, h]

/-- What a usable path begins with can be used. -/
theorem isUsable_of_append {rest : String} (h : isUsable (path ++ rest) = true) :
    isUsable path = true := by
  simp only [isUsable, Bool.and_eq_true, Bool.not_eq_true', decide_eq_true_eq,
    String.toList_append, String.utf8ByteSize_append, List.contains_eq_mem,
    decide_eq_false_iff_not, List.mem_append, not_or] at h ⊢
  exact ⟨h.1.1, Nat.lt_of_le_of_lt (Nat.le_add_right _ _) h.2⟩

/-- What is left of the directories of a path is read again where it is joined. -/
theorem segments_join_trimEnd (h : trimEnd (directories path) ≠ []) :
    segments ("/".intercalate (trimEnd (directories path))) = trimEnd (directories path) := by
  obtain ⟨silent, hdirs, _⟩ := trimEnd_append (directories path)
  refine segments_join h fun s hs => @not_mem_of_mem_segments path s ?_
  rw [← directories_append_fileName, hdirs]
  exact List.mem_append_left _ (List.mem_append_left _ hs)

/-- What is left of the directories of a path is found from the same place. -/
theorem isAbsolute_join_trimEnd (h : trimEnd (directories path) ≠ []) :
    isAbsolute ("/".intercalate (trimEnd (directories path))) = isAbsolute path := by
  obtain ⟨silent, hdirs, _⟩ := trimEnd_append (directories path)
  have hsegs := directories_append_fileName path
  have hjoined := segments_join_trimEnd h
  have hempty : trimEnd (directories path) ≠ [""] := trimEnd_ne_empty
  cases hkept : trimEnd (directories path) with
  | nil => exact absurd hkept h
  | cons s rest =>
    rw [hkept] at hdirs hempty hjoined
    rw [hdirs, List.append_assoc, List.cons_append] at hsegs
    rw [isAbsolute_of_segments hsegs.symm (by simp)]
    by_cases hrest : rest = []
    · -- a single segment that is not empty starts from home, as the path does
      subst hrest
      have hs : s ≠ "" := fun hs => hempty (by rw [hs])
      rw [isAbsolute, hjoined, beq_false_of_ne hs]
    · rw [isAbsolute_of_segments hjoined hrest]

/-- What is left of the directories of a usable path can be used. -/
theorem isUsable_join_trimEnd (h : trimEnd (directories path) ≠ [])
    (husable : isUsable path = true) :
    isUsable ("/".intercalate (trimEnd (directories path))) = true := by
  obtain ⟨silent, hdirs, _⟩ := trimEnd_append (directories path)
  have hpath : "/".intercalate (trimEnd (directories path)) ++
      ("/" ++ "/".intercalate (silent ++ [fileName path])) = path := by
    rw [← String.append_assoc, ← String.intercalate_append_of_ne_nil h (by simp),
      ← List.append_assoc, ← hdirs, directories_append_fileName, join_segments]
  exact isUsable_of_append (hpath.symm ▸ husable)

/-- **The directory of a file** is found from the same place as the file, over the same segments but
    for some at the end that say nothing. It may need no segment at all, or be the outermost
    directory; else it is written as the file is. -/
theorem parent?_cases (h : isFileName (fileName path) = true) :
    (parent? path = some "" ∧ directories path = []) ∨
    (parent? path = some "/" ∧ isAbsolute path = true ∧ directories path ≠ [] ∧
      ∀ s ∈ directories path, isSilent s = true) ∨
    ∃ parent silent, parent? path = some parent ∧ parent ≠ "" ∧
      isAbsolute parent = isAbsolute path ∧ (isUsable path = true → isUsable parent = true) ∧
      directories path = segments parent ++ silent ∧ ∀ s ∈ silent, isSilent s = true := by
  obtain ⟨silent, hdirs, hsilent⟩ := trimEnd_append (directories path)
  have hparent := parent?_eq h
  by_cases hkept : trimEnd (directories path) = []
  · rw [if_pos hkept] at hparent
    rw [hkept, List.nil_append] at hdirs
    have hsegs := directories_append_fileName path
    cases hcons : directories path with
    | nil =>
      rw [hcons, List.nil_append] at hsegs
      rw [isAbsolute, ← hsegs] at hparent
      exact Or.inl ⟨hparent, rfl⟩
    | cons first rest =>
      rw [hcons] at hkept hsegs
      have habsolute : isAbsolute path = true := by
        rw [isAbsolute_of_segments hsegs.symm (by simp), eq_empty_of_trimEnd hkept,
          beq_self_eq_true]
      rw [habsolute, if_pos rfl] at hparent
      refine Or.inr (Or.inl ⟨hparent, habsolute, List.cons_ne_nil _ _, ?_⟩)
      rw [← hcons, hdirs]
      exact hsilent
  · rw [if_neg hkept] at hparent
    refine Or.inr (Or.inr ⟨_, silent, hparent, fun hempty => ?_, isAbsolute_join_trimEnd hkept,
      isUsable_join_trimEnd hkept, ?_, hsilent⟩)
    · have hsegments := segments_join_trimEnd hkept
      rw [hempty] at hsegments
      exact trimEnd_ne_empty hsegments.symm
    · rw [segments_join_trimEnd hkept]
      exact hdirs

end FilePath

end InterfaceSchema
