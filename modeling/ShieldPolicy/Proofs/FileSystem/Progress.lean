import ShieldPolicy.Proofs.FileSystem.Change

/-!
Operations that are not refused. A directory that is there need not be made, and in an empty
directory a file can be written, moved and removed.
-/

namespace ShieldPolicy.FileSystem

open Location (Below)

variable {fs : FileSystem} {dir p : Path} {out l q : Location} {name other text : String}
  {way : List Path.Component} {e : Entry}

/-! ### What is there -/

theorem enter_parent (entered : fs.enter (way ++ [.name name]) = .ok l) :
    ∃ parent, fs.enter way = .ok parent ∧ name.utf8ByteSize ≤ nameBound ∧
      (fs.entry? (parent ++ [name])).isSome := by
  obtain ⟨reached, ends⟩ := enter_eq_ok_iff.mp entered
  obtain ⟨left, parent, past₁, past₂, first, here, second, -⟩ := reached.split (by simp)
  refine ⟨parent, enter_of_reaches first here, ?_⟩
  cases second with
  | down _ short entry => exact ⟨short, by rw [entry]; rfl⟩
  | missing _ _ entry =>
    rw [entry] at ends
    cases ends
  | follow _ short entry => exact ⟨short, by rw [entry]; rfl⟩

theorem makeDirectory_of_find (found : fs.find p = .ok (l, .directory)) :
    fs.makeDirectory p = .error .alreadyExists := by
  obtain ⟨screened, entered⟩ := find_directory_iff.mp found
  unfold makeDirectory slot
  rw [screened]
  cases last : (steps p).getLast? with
  | none => simp only [bind, Except.bind, last, entered, pure, Except.pure]
  | some step =>
    cases step with
    | root | current | parent => simp only [bind, Except.bind, last, entered, pure, Except.pure]
    | name name =>
      obtain ⟨before, way⟩ : ∃ before, steps p = before ++ [.name name] :=
        List.getLast?_eq_some_iff.mp last
      rw [way] at entered
      obtain ⟨parent, entered, short, there⟩ := enter_parent entered
      simp only [bind, Except.bind, way, List.getLast?_concat, List.dropLast_concat, entered,
        if_neg (Nat.not_lt.mpr short), if_pos there]

theorem list_of_find (found : fs.find p = .ok (l, .directory)) : fs.list p =
    .ok ((fs.children l).map fun name => (name, fs.entry? (l ++ [name]) == some .directory)) := by
  rw [list, found]
  rfl

/-! ### Ways to a directory -/

theorem enter_put (entered : fs.enter way = .ok l) (onward : .root ∉ way.tail)
    (free : fs.entry? q = none) : FileSystem.enter (fs.put q e) way = .ok l := by
  have nonroot : q ≠ [] := by
    rintro rfl
    cases free
  have kept {place : Location} (there : fs.entry? place ≠ none) :
      FileSystem.entry? (fs.put q e) place = fs.entry? place := by
    rw [entry?_put nonroot, if_neg]
    rintro rfl
    exact there free
  obtain ⟨reached, ends⟩ := enter_eq_ok_iff.mp entered
  refine enter_congr entered rfl (fun place member => ?_) ?_
  · obtain ⟨e, entry, -⟩ := reached.past_solid ends onward place member
    exact sameShape_of_eq (kept (by simp [entry]))
  · rw [kept (by simp [ends]), ends]

theorem enter_pruneFile (tree : fs.WellFormed) (entered : fs.enter way = .ok l)
    (onward : .root ∉ way.tail) (nonroot : q ≠ []) (file : fs.entry? q = some (.file text)) :
    FileSystem.enter (fs.prune q) way = .ok l := by
  have kept {place : Location} {e : Entry} (there : fs.entry? place = some e)
      (kind : e.isFile = false) :
      FileSystem.entry? (fs.prune q) place = fs.entry? place := by
    rw [entry?_prune nonroot, if_neg]
    intro within
    by_cases same : q = place
    · subst same
      rw [file] at there
      cases there
      cases kind
    · rw [tree.nothing_below (by rw [file]; simp) ⟨within, same⟩] at there
      cases there
  obtain ⟨reached, ends⟩ := enter_eq_ok_iff.mp entered
  refine enter_congr entered rfl (fun place member => ?_) ?_
  · obtain ⟨e, entry, kind⟩ := reached.past_solid ends onward place member
    exact sameShape_of_eq (kept entry kind)
  · rw [kept ends rfl, ends]

/-! ### One file in a directory -/

variable (present : dir.isEmpty = false) (valid : ValidName name)
  (screened : screen (dir.join ⟨name⟩) = .ok ()) (short : name.utf8ByteSize ≤ nameBound)
  (entered : fs.enter (steps dir) = .ok l)

include present valid screened short entered

theorem slot_join : fs.slot (dir.join ⟨name⟩) = .ok (l, some name) :=
  (slot_join_eq_ok_iff present valid).mpr ⟨screened, entered, short, rfl⟩

theorem removeFile_join (file : fs.entry? (l ++ [name]) = some (.file text)) :
    fs.removeFile (dir.join ⟨name⟩) = .ok (fs.prune (l ++ [name])) := by
  unfold removeFile
  rw [slot_join present valid screened short entered]
  simp only [bind, Except.bind, file, endsOpen_join_name present valid, Bool.false_eq_true, if_false]

theorem writeText_join (free : fs.entry? (l ++ [name]) = none) :
    fs.writeText (dir.join ⟨name⟩) text = .ok (fs.put (l ++ [name]) (.file text)) := by
  have resolved := resolve_join_of_enter present valid screened short entered
    (by simp [free])
  unfold writeText fileSlot
  rw [slot_join present valid screened short entered]
  simp only [bind, Except.bind, endsOpen_join_name present valid, resolved, free, Bool.false_eq_true,
    if_false, reduceCtorEq, pure, Except.pure]

theorem renameFile_join (validOther : ValidName other)
    (screenedOther : screen (dir.join ⟨other⟩) = .ok ()) (shortOther : other.utf8ByteSize ≤ nameBound)
    (entry : fs.entry? (l ++ [name]) = some e)
    (free : fs.entry? (l ++ [other]) ≠ some .directory) :
    fs.renameFile (dir.join ⟨name⟩) (dir.join ⟨other⟩) =
      .ok ((fs.prune (l ++ [name])).put (l ++ [other]) e) := by
  unfold renameFile
  rw [slot_join present valid screened short entered,
    slot_join present validOther screenedOther shortOther entered]
  simp only [bind, Except.bind, entry, endsOpen_join_name present valid,
    endsOpen_join_name present validOther, Bool.or_self, Bool.false_eq_true, if_false, if_neg free]

end ShieldPolicy.FileSystem
