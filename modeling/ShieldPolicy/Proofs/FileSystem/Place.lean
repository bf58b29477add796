import ShieldPolicy.Proofs.FileSystem.Enter

/-!
The place that a path names where there are no links. `Path.place` takes every step as the system
does, so that a `..` at the root stays there; `place_of_locate?` says that it agrees with
`Path.locate?` wherever that gives a place.
-/

namespace ShieldPolicy

namespace Location

def stepClamped (l : Location) : Path.Component → Location
  | .root => []
  | .current => l
  | .parent => l.dropLast
  | .name text => l ++ [text]

theorem foldl_stepClamped_of_walk? {l l' : Location} {way : List Path.Component}
    (walked : l.walk? way = some l') :
    way.foldl stepClamped l = l' := by
  induction way generalizing l with
  | nil => exact Option.some.inj walked
  | cons c way ih =>
    obtain ⟨next, step, onward⟩ := Option.bind_eq_some_iff.mp walked
    have same : stepClamped l c = next := by
      cases c with
      | root | current | name => exact Option.some.inj step
      | parent =>
        rw [step?] at step
        split at step
        · cases step
        · exact Option.some.inj step
    rw [List.foldl_cons, same, ih onward]

end Location

open Location (stepClamped foldl_stepClamped_of_walk?)

namespace Path

/-- The place that an absolute path names where there are no links. -/
def place (p : Path) : Location := (FileSystem.steps p).foldl stepClamped []

theorem foldl_stepClamped_pieces (pieces : List (List Char)) (l : Location) :
    (pieces.map FileSystem.stepOf).foldl stepClamped l =
      ((pieces.filter fun piece => piece != ['.']).map Component.ofPiece).foldl stepClamped l := by
  induction pieces generalizing l with
  | nil => rfl
  | cons piece rest ih =>
    by_cases dot : piece = ['.']
    · subst dot
      simpa [FileSystem.stepOf, stepClamped] using ih l
    · simpa [FileSystem.stepOf, dot] using ih _

theorem place_eq_foldl_components (p : Path) : p.place = p.components.foldl stepClamped [] := by
  rw [place, FileSystem.steps_eq, components, List.foldl_append, foldl_stepClamped_pieces]
  split
  · rfl
  · split <;> rfl

theorem place_of_locate? {p : Path} {l : Location} (h : p.locate? = some l) : p.place = l := by
  rw [locate?_eq_walk?] at h
  rw [place_eq_foldl_components]
  exact foldl_stepClamped_of_walk? h

end Path

def Entry.isLink : Entry → Bool
  | .link _ => true
  | _ => false

namespace FileSystem

variable {fs fs' : FileSystem} {n : Nat} {start l : Location} {way : List Path.Component}
  {past : List Location} {p : Path} {e : Entry}

def LinkFree (fs : FileSystem) : Prop := ∀ l target, fs.entry? l ≠ some (.link target)

theorem linkFree_of_all (none : fs.entries.all fun x => !x.2.isLink) :
    fs.LinkFree := by
  intro l target entry
  have nonroot : l ≠ [] := by
    rintro rfl
    cases entry
  rw [entry?_of_ne_nil nonroot, List.lookup_eq_some_iff] at entry
  obtain ⟨before, after, same, -⟩ := entry
  have solid := List.all_eq_true.mp none (l, .link target) (by simp [same])
  cases solid

theorem Reaches.eq_foldl (free : fs.LinkFree) (h : Reaches fs n start way past l) :
    l = way.foldl stepClamped start := by
  induction h with
  | done => rfl
  | root _ ih | stay _ _ ih | up _ _ ih | down _ _ _ _ _ ih => exact ih
  | missing => rfl
  | follow _ _ entry => exact absurd entry (free _ _)

/-- Without links an absolute path leads to its place, if it leads anywhere. -/
theorem LinkFree.find_place (free : fs.LinkFree) (absolute : p.isAbsolute)
    (found : fs.find p = .ok (l, e)) : l = p.place := by
  obtain ⟨past, reached⟩ :=
    reaches_of_walk_eq (resolve_eq_ok_iff.mp (find_eq_ok_iff.mp found).1).2
  rw [reached.eq_foldl free, wholeSteps, List.foldl_append, Path.place, steps_eq, if_pos absolute]
  split <;> rfl

end FileSystem

end ShieldPolicy
