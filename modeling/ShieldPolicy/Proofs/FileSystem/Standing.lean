import ShieldPolicy.Proofs.Path.Spelling

/-!
Directories where there are no links. A path that leads to a directory leads to its place, which
then stands: `LinkFree.stands_of_enter`. What two paths of one directory lead on to is the same,
however they are written: `LinkFree.find_join_congr`.
-/

namespace ShieldPolicy

open Location (stepClamped)

namespace FileSystem

variable {fs : FileSystem} {n : Nat} {start l mid : Location} {way more : List Path.Component}
  {past : List Location} {p q dir dir' : Path} {name : String}

/-- Whether a place and all those above it are directories, with names that can be looked up. -/
structure Stands (fs : FileSystem) (l : Location) : Prop where
  directories : ∀ above, above <+: l → fs.entry? above = some .directory
  short : ∀ name ∈ l, name.utf8ByteSize ≤ nameBound

theorem stands_nil : Stands fs [] where
  directories above front := by
    rw [List.prefix_nil.mp front]
    rfl
  short name member := by cases member

theorem Stands.above (stands : Stands fs l) (front : mid <+: l) : Stands fs mid where
  directories above within := stands.directories above (within.trans front)
  short name member := stands.short name (front.subset member)

theorem Stands.concat (stands : Stands fs l) (short : name.utf8ByteSize ≤ nameBound)
    (here : fs.entry? (l ++ [name]) = some .directory) : Stands fs (l ++ [name]) where
  directories above front := by
    rcases List.prefix_concat_iff.mp front with rfl | above'
    · exact here
    · exact stands.directories above above'
  short other member := by
    rcases List.mem_append.mp member with member | last
    · exact stands.short other member
    · rwa [List.mem_singleton.mp last]

theorem parent_mem_components (absolute : p.isAbsolute) (member : .parent ∈ steps p) :
    .parent ∈ p.components := by
  rw [steps_eq, if_pos absolute] at member
  rw [Path.components_of_absolute absolute]
  rcases List.mem_append.mp member with start | member
  · cases List.mem_singleton.mp start
  obtain ⟨piece, there, step⟩ := List.mem_map.mp member
  refine .tail _ (List.mem_map.mpr ⟨piece, List.mem_filter.mpr ⟨there, ?_⟩, ?_⟩)
  all_goals
    unfold stepOf at step
    split at step
    · cases step
  · simpa using ‹piece ≠ ['.']›
  · exact step

/-! ### Walks without links -/

theorem Reaches.stands (free : fs.LinkFree) (h : Reaches fs n start way past l)
    (from_ : fs.entry? start = some .directory → Stands fs start)
    (ends : fs.entry? l = some .directory) : Stands fs l := by
  induction h with
  | done => exact from_ ends
  | root _ ih => exact ih (fun _ => stands_nil) ends
  | stay here _ ih => exact ih from_ ends
  | up here _ ih =>
    exact ih (fun _ => (from_ here).above (List.dropLast_prefix _)) ends
  | down here short _ _ _ ih => exact ih (fun below => (from_ here).concat short below) ends
  | missing here short entry => exact (from_ here).concat short ends
  | follow _ _ entry => exact absurd entry (free _ _)

theorem reaches_of_stands (onward : .root ∉ way) (down : .parent ∉ way)
    (stands : Stands fs (way.foldl stepClamped start)) :
    ∃ past, Reaches fs n start way past (way.foldl stepClamped start) := by
  have front (way : List Path.Component) (start : Location) (onward : .root ∉ way)
      (down : .parent ∉ way) : start <+: way.foldl stepClamped start := by
    induction way generalizing start with
    | nil => exact List.prefix_refl _
    | cons c way ih =>
      rw [List.mem_cons, not_or] at onward down
      have rest := ih (stepClamped start c) onward.2 down.2
      cases c with
      | root => exact absurd rfl onward.1
      | parent => exact absurd rfl down.1
      | current => exact rest
      | name text => exact (List.prefix_append _ _).trans rest
  induction way generalizing start with
  | nil => exact ⟨_, .done⟩
  | cons c way ih =>
    have here := stands.directories start (front (c :: way) start onward down)
    rw [List.mem_cons, not_or] at onward down
    obtain ⟨past, rest⟩ := ih onward.2 down.2 stands
    have below := stands.above (front way (stepClamped start c) onward.2 down.2)
    cases c with
    | root => exact absurd rfl onward.1
    | parent => exact absurd rfl down.1
    | current => exact ⟨_, .stay here rest⟩
    | name text =>
      exact ⟨_, .down here (below.short text (by simp [stepClamped]))
        (below.directories _ (List.prefix_refl _)) (by simp) rest⟩

theorem LinkFree.walk_append (free : fs.LinkFree) (first : Reaches fs n start way past mid)
    (ends : fs.entry? mid = some .directory) :
    fs.walk true n start (way ++ more) = fs.walk true n mid more := by
  induction first with
  | done => rfl
  | root _ ih => rw [List.cons_append, walk_root, ih ends]
  | stay here _ ih => rw [List.cons_append, walk_current here, ih ends]
  | up here _ ih => rw [List.cons_append, walk_parent here, ih ends]
  | down here short entry solid _ ih =>
    rw [List.cons_append, walk_name here short entry solid, ih ends]
  | missing here short entry =>
    rw [entry] at ends
    cases ends
  | follow _ _ entry => exact absurd entry (free _ _)

/-! ### Directories by their paths -/

theorem LinkFree.enter_place (free : fs.LinkFree) (absolute : p.isAbsolute)
    (entered : fs.enter (steps p) = .ok l) : l = p.place := by
  obtain ⟨reached, -⟩ := enter_eq_ok_iff.mp entered
  rw [reached.eq_foldl free, Path.place, steps_eq, if_pos absolute]
  rfl

theorem LinkFree.stands_of_enter (free : fs.LinkFree) (absolute : p.isAbsolute)
    (entered : fs.enter (steps p) = .ok l) : Stands fs p.place := by
  obtain ⟨reached, ends⟩ := enter_eq_ok_iff.mp entered
  have here := free.enter_place absolute entered
  rw [steps_eq, if_pos absolute] at reached
  cases reached with
  | root rest => exact here ▸ rest.stands free (fun _ => stands_nil) ends

theorem enter_of_stands (absolute : p.isAbsolute)
    (down : .parent ∉ steps p) (stands : Stands fs p.place) :
    fs.enter (steps p) = .ok p.place := by
  have body : steps p = .root :: p.pieces.map stepOf := by
    rw [steps_eq, if_pos absolute]
    rfl
  rw [Path.place] at stands ⊢
  rw [body] at stands down ⊢
  have down : .parent ∉ p.pieces.map stepOf := fun member => down (.tail _ member)
  have stands : Stands fs ((p.pieces.map stepOf).foldl stepClamped []) := stands
  obtain ⟨past, reached⟩ := reaches_of_stands (root_not_mem_map_stepOf p.pieces) down stands
  exact enter_of_reaches (.root reached) (stands.directories _ (List.prefix_refl _))

theorem LinkFree.enter_front (free : fs.LinkFree) (front : Path.Front dir p)
    (entered : fs.enter (steps p) = .ok l) : fs.enter (steps dir) = .ok dir.place := by
  obtain ⟨more, written⟩ := front.steps
  cases more with
  | nil =>
    rw [List.append_nil] at written
    rw [← written] at entered
    exact entered.trans (congrArg _ (free.enter_place front.absolute entered))
  | cons c more =>
    have onward : c ≠ .root := by
      rintro rfl
      have tail := root_not_mem_tail_steps p
      have some : steps dir ≠ [] := by simp [steps_eq, front.absolute]
      rw [← written, List.tail_append_of_ne_nil some] at tail
      exact tail (by simp)
    obtain ⟨reached, -⟩ := enter_eq_ok_iff.mp entered
    rw [← written] at reached
    obtain ⟨-, mid, _, -, first, ends, -, -⟩ := reached.split onward
    have entered := enter_of_reaches first ends
    exact entered.trans (congrArg _ (free.enter_place front.absolute entered))

/-! ### What lies in a directory -/

theorem wholeSteps_join (present : dir.isEmpty = false) (relative : q.isAbsolute = false)
    (some : q.pieces ≠ []) : wholeSteps (dir.join q) = steps dir ++ wholeSteps q := by
  have nonempty : q.text.toList ≠ [] := fun nil => some (by simp [Path.pieces, nil, Text.splitOn])
  have ends : endsOpen (dir.join q) = endsOpen q := by
    rw [endsOpen, Path.text_join present relative, endsOpen]
    obtain ⟨before, last, same⟩ : ∃ before last, q.text.toList = before ++ [last] :=
      ⟨_, _, (List.dropLast_concat_getLast nonempty).symm⟩
    rw [same, ← List.cons_append, ← List.append_assoc, List.getLast?_concat, List.getLast?_concat]
  rw [wholeSteps, steps_join relative present, ends, List.append_assoc, wholeSteps]

theorem LinkFree.enter_of_find_join (free : fs.LinkFree) (absolute : dir.isAbsolute)
    (relative : q.isAbsolute = false) (some : q.pieces ≠ []) {e : Entry}
    (found : fs.find (dir.join q) = .ok (l, e)) : fs.enter (steps dir) = .ok dir.place := by
  have present := Path.isEmpty_of_isAbsolute absolute
  have walk := (resolve_eq_ok_iff.mp (find_eq_ok_iff.mp found).1).2
  obtain ⟨piece, pieces, cut⟩ := List.exists_cons_of_ne_nil some
  obtain ⟨past, reached⟩ := reaches_of_walk_eq walk
  rw [wholeSteps_join present relative some, wholeSteps, steps_eq q, relative, cut] at reached
  obtain ⟨-, mid, _, -, first, ends, -, -⟩ := reached.split (stepOf_ne_root piece)
  have entered := enter_of_reaches first ends
  exact entered.trans (congrArg _ (free.enter_place absolute entered))

/-- What stands in a directory is found by each path of the directory that can be looked at. -/
theorem LinkFree.find_join_congr (free : fs.LinkFree) (absolute : dir.isAbsolute)
    (absolute' : dir'.isAbsolute) (relative : q.isAbsolute = false) (some : q.pieces ≠ [])
    (entered : fs.enter (steps dir) = .ok l) (entered' : fs.enter (steps dir') = .ok l)
    (screened : screen (dir.join q) = .ok ()) (screened' : screen (dir'.join q) = .ok ()) :
    fs.find (dir'.join q) = fs.find (dir.join q) := by
  have onward {dir : Path} (absolute : dir.isAbsolute) (entered : fs.enter (steps dir) = .ok l) :
      fs.walk true linkBound fs.current (wholeSteps (dir.join q)) =
        fs.walk true linkBound l (wholeSteps q) := by
    obtain ⟨reached, ends⟩ := enter_eq_ok_iff.mp entered
    rw [wholeSteps_join (Path.isEmpty_of_isAbsolute absolute) relative some]
    exact free.walk_append reached ends
  rw [find, find, resolve, resolve, screened, screened']
  simp only [bind, Except.bind]
  rw [onward absolute entered, onward absolute' entered']

end FileSystem

end ShieldPolicy
