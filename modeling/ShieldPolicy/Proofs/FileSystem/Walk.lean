import ShieldPolicy.Proofs.FileSystem.Table

/-!
Following a path. `Reaches` derives the walks that succeed, `walk_eq_ok_iff` says that they are the
ones that `walk` finds. A walk depends on the places of its trail alone: `walk_congr`.
-/

namespace ShieldPolicy

def Entry.shape : Entry → Entry
  | .file _ => .file ""
  | e => e

namespace FileSystem

/-- The steps lead from a place to a location, past these places. -/
inductive Reaches (fs : FileSystem) :
    Nat → Location → List Path.Component → List Location → Location → Prop
  | done {n place} : Reaches fs n place [] [] place
  | root {n place rest past l} (onward : Reaches fs n [] rest past l) :
      Reaches fs n place (.root :: rest) past l
  | stay {n place rest past l} (here : fs.entry? place = some .directory)
      (onward : Reaches fs n place rest past l) :
      Reaches fs n place (.current :: rest) (place :: past) l
  | up {n place rest past l} (here : fs.entry? place = some .directory)
      (onward : Reaches fs n place.dropLast rest past l) :
      Reaches fs n place (.parent :: rest) (place :: past) l
  | down {n place name e rest past l} (here : fs.entry? place = some .directory)
      (short : name.utf8ByteSize ≤ nameBound) (entry : fs.entry? (place ++ [name]) = some e)
      (solid : ∀ target, e ≠ .link target) (onward : Reaches fs n (place ++ [name]) rest past l) :
      Reaches fs n place (.name name :: rest) (place :: (place ++ [name]) :: past) l
  | missing {n place name} (here : fs.entry? place = some .directory)
      (short : name.utf8ByteSize ≤ nameBound) (entry : fs.entry? (place ++ [name]) = none) :
      Reaches fs n place [.name name] [place, place ++ [name]] (place ++ [name])
  | follow {n place name target rest past l} (here : fs.entry? place = some .directory)
      (short : name.utf8ByteSize ≤ nameBound)
      (entry : fs.entry? (place ++ [name]) = some (.link target))
      (onward : Reaches fs n place (wholeSteps ⟨target⟩ ++ rest) past l) :
      Reaches fs (n + 1) place (.name name :: rest) (place :: (place ++ [name]) :: past) l

variable {fs fs' : FileSystem} {n : Nat} {place l q : Location} {name : String}
  {way more rest : List Path.Component} {past past' : List Location}

/-! ### The trail of a walk -/

/-- The places that a walk looks at. `expand` goes on as it does for `walkSteps`. -/
def trailSteps (fs : FileSystem) (expand : Location → List Path.Component → List Location) :
    Location → List Path.Component → List Location
  | _, [] => []
  | place, step :: rest =>
    match step, fs.entry? place with
    | .root, _ => fs.trailSteps expand [] rest
    | .current, some .directory => place :: fs.trailSteps expand place rest
    | .parent, some .directory => place :: fs.trailSteps expand place.dropLast rest
    | .name name, some .directory =>
      if nameBound < name.utf8ByteSize then [place]
      else place :: (place ++ [name]) :: match fs.entry? (place ++ [name]) with
        | none => []
        | some (.link target) => expand place (wholeSteps ⟨target⟩ ++ rest)
        | some _ => fs.trailSteps expand (place ++ [name]) rest
    | _, _ => [place]

def trailWithin (fs : FileSystem) : Nat → Location → List Path.Component → List Location
  | 0 => fs.trailSteps fun _ _ => []
  | links + 1 => fs.trailSteps (fs.trailWithin links)

def trail (fs : FileSystem) (way : List Path.Component) : List Location :=
  fs.trailWithin linkBound fs.current way

/-! ### One step -/

section

attribute [local simp] walk walkSteps trailWithin trailSteps

@[simp] theorem walk_nil : fs.walk true n place [] = .ok place := by
  cases n <;> rfl

@[simp] theorem walk_root : fs.walk true n place (.root :: rest) = fs.walk true n [] rest := by
  cases n <;> rfl

theorem walk_current (here : fs.entry? place = some .directory) :
    fs.walk true n place (.current :: rest) = fs.walk true n place rest := by
  cases n <;> simp [here]

theorem walk_parent (here : fs.entry? place = some .directory) :
    fs.walk true n place (.parent :: rest) = fs.walk true n place.dropLast rest := by
  cases n <;> simp [here]

theorem walk_name (here : fs.entry? place = some .directory)
    (short : name.utf8ByteSize ≤ nameBound) {e : Entry} (entry : fs.entry? (place ++ [name]) = some e)
    (solid : ∀ target, e ≠ .link target) :
    fs.walk true n place (.name name :: rest) = fs.walk true n (place ++ [name]) rest := by
  cases e with
  | link target => exact absurd rfl (solid target)
  | directory | file => cases n <;> simp [here, Nat.not_lt.mpr short, entry]

theorem walk_missing (here : fs.entry? place = some .directory)
    (short : name.utf8ByteSize ≤ nameBound) (entry : fs.entry? (place ++ [name]) = none) :
    fs.walk true n place (.name name :: rest) =
      if rest.isEmpty then .ok (place ++ [name]) else .error .notFound := by
  cases n <;> simp [here, Nat.not_lt.mpr short, entry]

theorem walk_link (here : fs.entry? place = some .directory)
    (short : name.utf8ByteSize ≤ nameBound) {target : String}
    (entry : fs.entry? (place ++ [name]) = some (.link target)) :
    fs.walk true (n + 1) place (.name name :: rest) =
      fs.walk true n place (wholeSteps ⟨target⟩ ++ rest) := by
  simp [here, Nat.not_lt.mpr short, entry]

theorem walk_link_zero (here : fs.entry? place = some .directory)
    (short : name.utf8ByteSize ≤ nameBound) {target : String}
    (entry : fs.entry? (place ++ [name]) = some (.link target)) :
    fs.walk true 0 place (.name name :: rest) = .error .tooManyLinks := by
  simp [here, Nat.not_lt.mpr short, entry]

theorem walk_long (here : fs.entry? place = some .directory)
    (long : nameBound < name.utf8ByteSize) :
    fs.walk true n place (.name name :: rest) = .error .nameTooLong := by
  cases n <;> simp [here, long]

theorem walk_stuck {step : Path.Component} (onward : step ≠ .root)
    (other : fs.entry? place ≠ some .directory) :
    fs.walk true n place (step :: rest) =
      .error (if (fs.entry? place).isSome then .notDirectory else .notFound) := by
  cases step with
  | root => exact absurd rfl onward
  | current | parent | name =>
    cases entry : fs.entry? place with
    | none => cases n <;> simp [entry]
    | some e =>
      cases e with
      | directory => exact absurd entry other
      | file | link => cases n <;> simp [entry]

@[simp] theorem trailWithin_nil : fs.trailWithin n place [] = [] := by
  cases n <;> rfl

@[simp] theorem trailWithin_root :
    fs.trailWithin n place (.root :: rest) = fs.trailWithin n [] rest := by
  cases n <;> rfl

theorem trailWithin_current (here : fs.entry? place = some .directory) :
    fs.trailWithin n place (.current :: rest) = place :: fs.trailWithin n place rest := by
  cases n <;> simp [here]

theorem trailWithin_parent (here : fs.entry? place = some .directory) :
    fs.trailWithin n place (.parent :: rest) = place :: fs.trailWithin n place.dropLast rest := by
  cases n <;> simp [here]

theorem trailWithin_name (here : fs.entry? place = some .directory)
    (short : name.utf8ByteSize ≤ nameBound) {e : Entry} (entry : fs.entry? (place ++ [name]) = some e)
    (solid : ∀ target, e ≠ .link target) :
    fs.trailWithin n place (.name name :: rest) =
      place :: (place ++ [name]) :: fs.trailWithin n (place ++ [name]) rest := by
  cases e with
  | link target => exact absurd rfl (solid target)
  | directory | file => cases n <;> simp [here, Nat.not_lt.mpr short, entry]

theorem trailWithin_missing (here : fs.entry? place = some .directory)
    (short : name.utf8ByteSize ≤ nameBound) (entry : fs.entry? (place ++ [name]) = none) :
    fs.trailWithin n place (.name name :: rest) = [place, place ++ [name]] := by
  cases n <;> simp [here, Nat.not_lt.mpr short, entry]

theorem trailWithin_link (here : fs.entry? place = some .directory)
    (short : name.utf8ByteSize ≤ nameBound) {target : String}
    (entry : fs.entry? (place ++ [name]) = some (.link target)) :
    fs.trailWithin (n + 1) place (.name name :: rest) =
      place :: (place ++ [name]) :: fs.trailWithin n place (wholeSteps ⟨target⟩ ++ rest) := by
  simp [here, Nat.not_lt.mpr short, entry]

theorem trailWithin_link_zero (here : fs.entry? place = some .directory)
    (short : name.utf8ByteSize ≤ nameBound) {target : String}
    (entry : fs.entry? (place ++ [name]) = some (.link target)) :
    fs.trailWithin 0 place (.name name :: rest) = [place, place ++ [name]] := by
  simp [here, Nat.not_lt.mpr short, entry]

theorem trailWithin_long (here : fs.entry? place = some .directory)
    (long : nameBound < name.utf8ByteSize) :
    fs.trailWithin n place (.name name :: rest) = [place] := by
  cases n <;> simp [here, long]

theorem trailWithin_stuck {step : Path.Component} (onward : step ≠ .root)
    (other : fs.entry? place ≠ some .directory) : fs.trailWithin n place (step :: rest) = [place] := by
  cases step with
  | root => exact absurd rfl onward
  | current | parent | name =>
    cases entry : fs.entry? place with
    | none => cases n <;> simp [entry]
    | some e =>
      cases e with
      | directory => exact absurd entry other
      | file | link => cases n <;> simp [entry]

end

/-! ### Walks that succeed -/

theorem Reaches.walk_eq (h : Reaches fs n place way past l) : fs.walk true n place way = .ok l := by
  induction h with
  | done => exact walk_nil
  | root _ ih => rw [walk_root, ih]
  | stay here _ ih => rw [walk_current here, ih]
  | up here _ ih => rw [walk_parent here, ih]
  | down here short entry solid _ ih => rw [walk_name here short entry solid, ih]
  | missing here short entry => rw [walk_missing here short entry]; rfl
  | follow here short entry _ ih => rw [walk_link here short entry, ih]

theorem Reaches.trailWithin_eq (h : Reaches fs n place way past l) :
    fs.trailWithin n place way = past := by
  induction h with
  | done => exact trailWithin_nil
  | root _ ih => rw [trailWithin_root, ih]
  | stay here _ ih => rw [trailWithin_current here, ih]
  | up here _ ih => rw [trailWithin_parent here, ih]
  | down here short entry solid _ ih => rw [trailWithin_name here short entry solid, ih]
  | missing here short entry => exact trailWithin_missing here short entry
  | follow here short entry _ ih => rw [trailWithin_link here short entry, ih]

theorem reaches_of_walk_eq {n : Nat} {place : Location} {way : List Path.Component}
    (h : fs.walk true n place way = .ok l) : ∃ past, Reaches fs n place way past l := by
  match way with
  | [] =>
    rw [walk_nil] at h
    cases h
    exact ⟨_, .done⟩
  | step :: rest =>
    by_cases start : step = .root
    · subst start
      rw [walk_root] at h
      obtain ⟨past, onward⟩ := reaches_of_walk_eq h
      exact ⟨_, .root onward⟩
    by_cases here : fs.entry? place = some .directory
    case neg => rw [walk_stuck start here] at h; cases h
    cases step with
    | root => exact absurd rfl start
    | current =>
      rw [walk_current here] at h
      obtain ⟨past, onward⟩ := reaches_of_walk_eq h
      exact ⟨_, .stay here onward⟩
    | parent =>
      rw [walk_parent here] at h
      obtain ⟨past, onward⟩ := reaches_of_walk_eq h
      exact ⟨_, .up here onward⟩
    | name name =>
      by_cases long : nameBound < name.utf8ByteSize
      · rw [walk_long here long] at h; cases h
      have short := Nat.not_lt.mp long
      cases entry : fs.entry? (place ++ [name]) with
      | none =>
        rw [walk_missing here short entry] at h
        cases rest with
        | nil => cases h; exact ⟨_, .missing here short entry⟩
        | cons => cases h
      | some e =>
        cases e with
        | directory | file =>
          rw [walk_name here short entry (by simp)] at h
          obtain ⟨past, onward⟩ := reaches_of_walk_eq h
          exact ⟨_, .down here short entry (by simp) onward⟩
        | link target =>
          cases n with
          | zero => rw [walk_link_zero here short entry] at h; cases h
          | succ n =>
            rw [walk_link here short entry] at h
            obtain ⟨past, onward⟩ := reaches_of_walk_eq h
            exact ⟨_, .follow here short entry onward⟩
termination_by (n, way.length)

/-- The walks that succeed are those that can be derived, and their trails are the derived ones. -/
theorem walk_eq_ok_iff :
    fs.walk true n place way = .ok l ↔ Reaches fs n place way (fs.trailWithin n place way) l := by
  constructor
  · intro h
    obtain ⟨past, reached⟩ := reaches_of_walk_eq h
    rwa [reached.trailWithin_eq]
  · exact Reaches.walk_eq

/-! ### What a walk depends on -/

def SameShape (fs fs' : FileSystem) (l : Location) : Prop :=
  (fs'.entry? l).map Entry.shape = (fs.entry? l).map Entry.shape

theorem sameShape_of_eq (same : fs'.entry? l = fs.entry? l) : SameShape fs fs' l :=
  congrArg (Option.map Entry.shape) same

theorem SameShape.of_none (same : SameShape fs fs' l) (entry : fs.entry? l = none) :
    fs'.entry? l = none := by
  simpa [SameShape, entry] using same

theorem SameShape.of_directory (same : SameShape fs fs' l) (entry : fs.entry? l = some .directory) :
    fs'.entry? l = some .directory := by
  cases other : fs'.entry? l with
  | none => simp [SameShape, entry, other] at same
  | some e => cases e <;> simp_all [SameShape, Entry.shape]

theorem SameShape.of_link {target : String} (same : SameShape fs fs' l)
    (entry : fs.entry? l = some (.link target)) : fs'.entry? l = some (.link target) := by
  cases other : fs'.entry? l with
  | none => simp [SameShape, entry, other] at same
  | some e => cases e <;> simp_all [SameShape, Entry.shape]

theorem SameShape.of_file {text : String} (same : SameShape fs fs' l)
    (entry : fs.entry? l = some (.file text)) : ∃ text', fs'.entry? l = some (.file text') := by
  cases other : fs'.entry? l with
  | none => simp [SameShape, entry, other] at same
  | some e => cases e <;> simp_all [SameShape, Entry.shape]

theorem SameShape.of_solid {e : Entry} (same : SameShape fs fs' l) (entry : fs.entry? l = some e)
    (solid : ∀ target, e ≠ .link target) :
    ∃ e', fs'.entry? l = some e' ∧ ∀ target, e' ≠ .link target := by
  cases other : fs'.entry? l with
  | none => simp [SameShape, entry, other] at same
  | some e' => cases e <;> cases e' <;> simp_all [SameShape, Entry.shape]

theorem SameShape.symm (same : SameShape fs fs' l) : SameShape fs' fs l := Eq.symm same

theorem SameShape.directory_iff (same : SameShape fs fs' l) :
    fs'.entry? l = some .directory ↔ fs.entry? l = some .directory :=
  ⟨same.symm.of_directory, same.of_directory⟩

theorem SameShape.isSome_eq (same : SameShape fs fs' l) :
    (fs'.entry? l).isSome = (fs.entry? l).isSome := by
  simpa using congrArg Option.isSome same

theorem WellFormed.of_sameShape (tree : fs.WellFormed) (same : ∀ q, SameShape fs fs' q) :
    fs'.WellFormed where
  names present := tree.names (by rwa [(same _).isSome_eq] at present)
  parents present := (same _).directory_iff.mpr
    (tree.parents (by rwa [(same _).isSome_eq] at present))

/-- A walk depends on nothing but the entries on its trail, and not on the texts of files. -/
theorem walk_congr {n : Nat} {place : Location} {way : List Path.Component}
    (same : ∀ q ∈ fs.trailWithin n place way, SameShape fs fs' q) :
    fs'.walk true n place way = fs.walk true n place way ∧
      fs'.trailWithin n place way = fs.trailWithin n place way := by
  match way with
  | [] => simp
  | step :: rest =>
    by_cases start : step = .root
    · subst start
      rw [trailWithin_root] at same
      simpa using walk_congr same
    by_cases here : fs.entry? place = some .directory
    case neg =>
      rw [trailWithin_stuck start here] at same
      have there := same place List.mem_cons_self
      have other := mt there.directory_iff.mp here
      simp only [walk_stuck start here, walk_stuck start other, trailWithin_stuck start here,
        trailWithin_stuck start other, there.isSome_eq, and_self]
    cases step with
    | root => exact absurd rfl start
    | current =>
      rw [trailWithin_current here, List.forall_mem_cons] at same
      have there := same.1.of_directory here
      rw [walk_current here, walk_current there, trailWithin_current here, trailWithin_current there]
      obtain ⟨walk, trail⟩ := walk_congr same.2
      exact ⟨walk, congrArg _ trail⟩
    | parent =>
      rw [trailWithin_parent here, List.forall_mem_cons] at same
      have there := same.1.of_directory here
      rw [walk_parent here, walk_parent there, trailWithin_parent here, trailWithin_parent there]
      obtain ⟨walk, trail⟩ := walk_congr same.2
      exact ⟨walk, congrArg _ trail⟩
    | name name =>
      by_cases long : nameBound < name.utf8ByteSize
      · rw [trailWithin_long here long, List.forall_mem_cons] at same
        have there := same.1.of_directory here
        simp only [walk_long here long, walk_long there long, trailWithin_long here long,
          trailWithin_long there long, and_self]
      have short := Nat.not_lt.mp long
      cases entry : fs.entry? (place ++ [name]) with
      | none =>
        rw [trailWithin_missing here short entry, List.forall_mem_cons, List.forall_mem_cons] at same
        have there := same.1.of_directory here
        have entry' := same.2.1.of_none entry
        simp only [walk_missing here short entry, walk_missing there short entry',
          trailWithin_missing here short entry, trailWithin_missing there short entry', and_self]
      | some e =>
        cases e with
        | directory | file =>
          rw [trailWithin_name here short entry (by simp), List.forall_mem_cons,
            List.forall_mem_cons] at same
          have there := same.1.of_directory here
          obtain ⟨e', entry', solid⟩ := same.2.1.of_solid entry (by simp)
          rw [walk_name here short entry (by simp), walk_name there short entry' solid,
            trailWithin_name here short entry (by simp), trailWithin_name there short entry' solid]
          obtain ⟨walk, trail⟩ := walk_congr same.2.2
          exact ⟨walk, by rw [trail]⟩
        | link target =>
          cases n with
          | zero =>
            rw [trailWithin_link_zero here short entry, List.forall_mem_cons,
              List.forall_mem_cons] at same
            have there := same.1.of_directory here
            have entry' := same.2.1.of_link entry
            simp only [walk_link_zero here short entry, walk_link_zero there short entry',
              trailWithin_link_zero here short entry, trailWithin_link_zero there short entry',
              and_self]
          | succ n =>
            rw [trailWithin_link here short entry, List.forall_mem_cons,
              List.forall_mem_cons] at same
            have there := same.1.of_directory here
            have entry' := same.2.1.of_link entry
            rw [walk_link here short entry, walk_link there short entry',
              trailWithin_link here short entry, trailWithin_link there short entry']
            obtain ⟨walk, trail⟩ := walk_congr same.2.2
            exact ⟨walk, by rw [trail]⟩
termination_by (n, way.length)

end FileSystem

end ShieldPolicy
