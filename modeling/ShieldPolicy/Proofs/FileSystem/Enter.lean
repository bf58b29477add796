import ShieldPolicy.Proofs.FileSystem.Walk

/-!
Ways to directories. `Reaches.append` and `Reaches.split` put a walk together from two and take it
apart again; `enter_of_shrunk` says that taking entries away opens no new way.
-/

namespace ShieldPolicy.FileSystem

variable {fs fs' : FileSystem} {n : Nat} {place l mid : Location} {name : String}
  {way more : List Path.Component} {step : Path.Component} {past past' : List Location}
  {dir p : Path}

/-! ### Steps after the first -/

theorem root_not_mem_tail_wholeSteps (p : Path) : .root ∉ (wholeSteps p).tail := by
  have none := root_not_mem_map_stepOf p.pieces
  rw [wholeSteps, steps_eq]
  split
  · simp only [List.cons_append, List.nil_append, List.tail_cons, List.mem_append, not_or]
    exact ⟨none, by split <;> simp⟩
  · intro member
    have member := List.mem_of_mem_tail member
    simp only [List.nil_append, List.mem_append] at member
    rcases member with member | member
    · exact none member
    · split at member <;> simp at member

theorem root_not_mem_tail_steps (p : Path) : .root ∉ (steps p).tail := by
  have whole := root_not_mem_tail_wholeSteps p
  rw [wholeSteps] at whole
  cases taken : steps p with
  | nil => simp
  | cons step rest =>
    rw [taken] at whole
    simp only [List.cons_append, List.tail_cons, List.mem_append, not_or] at whole ⊢
    exact whole.1

theorem root_not_mem_tail_append (first : .root ∉ way.tail) (second : .root ∉ more) :
    .root ∉ (way ++ more).tail := by
  cases way with
  | nil => exact fun member => second (List.mem_of_mem_tail member)
  | cons step rest => simpa using ⟨first, second⟩

/-! ### Putting walks together -/

theorem Reaches.append (first : Reaches fs n place way past l)
    (ends : fs.entry? l = some .directory) :
    ∃ left, ∀ {more past' l'}, Reaches fs left l more past' l' →
      Reaches fs n place (way ++ more) (past ++ past') l' := by
  induction first with
  | @done n place => exact ⟨n, fun second => second⟩
  | root _ ih =>
    obtain ⟨left, onward⟩ := ih ends
    exact ⟨left, fun second => .root (onward second)⟩
  | stay here _ ih =>
    obtain ⟨left, onward⟩ := ih ends
    exact ⟨left, fun second => .stay here (onward second)⟩
  | up here _ ih =>
    obtain ⟨left, onward⟩ := ih ends
    exact ⟨left, fun second => .up here (onward second)⟩
  | down here short entry solid _ ih =>
    obtain ⟨left, onward⟩ := ih ends
    exact ⟨left, fun second => .down here short entry solid (onward second)⟩
  | missing here short entry => rw [entry] at ends; cases ends
  | follow here short entry _ ih =>
    obtain ⟨left, onward⟩ := ih ends
    refine ⟨left, fun second => .follow here short entry ?_⟩
    have next := onward second
    rwa [List.append_assoc] at next

theorem Reaches.split (onward : step ≠ .root)
    (whole : Reaches fs n place (way ++ step :: more) past l) :
    ∃ left mid past₁ past₂, Reaches fs n place way past₁ mid ∧
      fs.entry? mid = some .directory ∧ Reaches fs left mid (step :: more) past₂ l ∧
      past = past₁ ++ past₂ := by
  generalize same : way ++ step :: more = steps at whole
  have start {n : Nat} {place l : Location} {past : List Location}
      (here : fs.entry? place = some .directory) (h : Reaches fs n place (step :: more) past l) :
      ∃ left mid past₁ past₂, Reaches fs n place [] past₁ mid ∧
        fs.entry? mid = some .directory ∧ Reaches fs left mid (step :: more) past₂ l ∧
        past = past₁ ++ past₂ :=
    ⟨n, place, [], past, .done, here, h, rfl⟩
  induction whole generalizing way with
  | done => simp at same
  | root rest ih =>
    cases way with
    | nil => cases same; exact absurd rfl onward
    | cons first way =>
      cases same
      obtain ⟨left, mid, past₁, past₂, first, ends, second, parts⟩ := ih rfl
      exact ⟨left, mid, past₁, past₂, .root first, ends, second, parts⟩
  | stay here rest ih =>
    cases way with
    | nil => cases same; exact start here (.stay here rest)
    | cons first way =>
      cases same
      obtain ⟨left, mid, past₁, past₂, first, ends, second, rfl⟩ := ih rfl
      exact ⟨left, mid, _, past₂, .stay here first, ends, second, rfl⟩
  | up here rest ih =>
    cases way with
    | nil => cases same; exact start here (.up here rest)
    | cons first way =>
      cases same
      obtain ⟨left, mid, past₁, past₂, first, ends, second, rfl⟩ := ih rfl
      exact ⟨left, mid, _, past₂, .up here first, ends, second, rfl⟩
  | down here short entry solid rest ih =>
    cases way with
    | nil => cases same; exact start here (.down here short entry solid rest)
    | cons first way =>
      cases same
      obtain ⟨left, mid, past₁, past₂, first, ends, second, rfl⟩ := ih rfl
      exact ⟨left, mid, _, past₂, .down here short entry solid first, ends, second, rfl⟩
  | missing here short entry =>
    cases way with
    | nil => cases same; exact start here (.missing here short entry)
    | cons first way => simp at same
  | follow here short entry rest ih =>
    cases way with
    | nil => cases same; exact start here (.follow here short entry rest)
    | cons first way =>
      cases same
      obtain ⟨left, mid, past₁, past₂, first, ends, second, rfl⟩ :=
        ih (List.append_assoc _ way (step :: more))
      exact ⟨left, mid, _, past₂, .follow here short entry first, ends, second, rfl⟩

/-! ### Where a walk ends -/

theorem Reaches.past_solid (h : Reaches fs n place way past l)
    (ends : fs.entry? l = some .directory) (onward : .root ∉ way.tail) :
    ∀ q ∈ past, ∃ e, fs.entry? q = some e ∧ e.isFile = false := by
  induction h with
  | done => simp
  | root _ ih => exact ih ends fun member => onward (List.mem_of_mem_tail member)
  | stay here _ ih | up here _ ih =>
    exact List.forall_mem_cons.mpr
      ⟨⟨_, here, rfl⟩, ih ends fun member => onward (List.mem_of_mem_tail member)⟩
  | @down n place name e rest past l here short entry solid next ih =>
    have rest_onward : .root ∉ rest.tail := fun member => onward (List.mem_of_mem_tail member)
    refine List.forall_mem_cons.mpr ⟨⟨_, here, rfl⟩,
      List.forall_mem_cons.mpr ⟨⟨e, entry, ?_⟩, ih ends rest_onward⟩⟩
    cases e with
    | directory | link => rfl
    | file text =>
      -- From a file no step leads on, and the walk does not end at a file.
      cases next with
      | done => rw [entry] at ends; cases ends
      | root => exact absurd List.mem_cons_self onward
      | stay here | up here | down here | missing here | follow here =>
        rw [entry] at here; cases here
  | missing here short entry => rw [entry] at ends; cases ends
  | follow here short entry _ ih =>
    exact List.forall_mem_cons.mpr ⟨⟨_, here, rfl⟩,
      List.forall_mem_cons.mpr ⟨⟨_, entry, rfl⟩, ih ends
        (root_not_mem_tail_append (root_not_mem_tail_wholeSteps _) onward)⟩⟩

theorem Reaches.placed (tree : fs.WellFormed) (h : Reaches fs n place way past l)
    (onward : way ≠ []) (valid : ∀ name, .name name ∈ way → ValidName name) :
    (fs.entry? l).isSome ∨ ∃ dir name, l = dir ++ [name] ∧ ValidName name ∧
      fs.entry? dir = some .directory := by
  have here_or {n : Nat} {place l : Location} {rest : List Path.Component} {past : List Location}
      (next : Reaches fs n place rest past l) (here : (fs.entry? place).isSome)
      (else_ : rest ≠ [] → (fs.entry? l).isSome ∨ ∃ dir name, l = dir ++ [name] ∧ ValidName name ∧
        fs.entry? dir = some .directory) :
      (fs.entry? l).isSome ∨ ∃ dir name, l = dir ++ [name] ∧ ValidName name ∧
        fs.entry? dir = some .directory := by
    cases rest with
    | nil => cases next; exact .inl here
    | cons => exact else_ (by simp)
  induction h with
  | done => exact absurd rfl onward
  | root next ih =>
    exact here_or next (by simp) fun more => ih more fun _ member => valid _ (.tail _ member)
  | stay here next ih =>
    exact here_or next (by simp [here]) fun more => ih more fun _ member => valid _ (.tail _ member)
  | @up n place rest past l here next ih =>
    refine here_or next ?_ fun more => ih more fun _ member => valid _ (.tail _ member)
    cases parts : place.reverse with
    | nil => simp [List.reverse_eq_nil_iff.mp parts]
    | cons name above =>
      have same : place = above.reverse ++ [name] := by simpa using congrArg List.reverse parts
      rw [same] at here
      rw [same, List.dropLast_concat, tree.parents (by rw [here]; rfl)]
      rfl
  | down here short entry solid next ih =>
    exact here_or next (by simp [entry]) fun more => ih more fun _ member => valid _ (.tail _ member)
  | missing here short entry => exact .inr ⟨_, _, rfl, valid _ List.mem_cons_self, here⟩
  | follow here short entry next ih =>
    refine here_or next (by simp [here]) fun more => ih more fun name member => ?_
    rcases List.mem_append.mp member with member | member
    · rw [wholeSteps] at member
      rcases List.mem_append.mp member with member | member
      · exact validName_of_mem_steps member
      · split at member <;> simp at member
    · exact valid _ (.tail _ member)

/-! ### Directories by their way -/

theorem enter_eq_ok_iff : fs.enter way = .ok l ↔
    Reaches fs linkBound fs.current way (fs.trail way) l ∧ fs.entry? l = some .directory := by
  rw [trail, ← walk_eq_ok_iff, enter]
  cases fs.walk true linkBound fs.current way with
  | error fault => simp [bind, Except.bind]
  | ok place =>
    simp only [bind, Except.bind, Except.ok.injEq]
    constructor
    · intro h
      split at h
      · cases h; exact ⟨rfl, ‹_›⟩
      · cases h
      · cases h
    · rintro ⟨rfl, here⟩
      rw [here]

theorem enter_of_reaches (h : Reaches fs linkBound fs.current way past l)
    (ends : fs.entry? l = some .directory) : fs.enter way = .ok l := by
  rw [enter_eq_ok_iff, trail, h.trailWithin_eq]
  exact ⟨h, ends⟩

theorem directory_of_enter (h : fs.enter way = .ok l) : fs.entry? l = some .directory :=
  (enter_eq_ok_iff.mp h).2

structure Shrunk (fs fs' : FileSystem) : Prop where
  current : fs'.current = fs.current
  entries : ∀ {q e}, fs'.entry? q = some e → e.isFile = false → fs.entry? q = some e

theorem Shrunk.trans {fs'' : FileSystem} (first : Shrunk fs fs') (second : Shrunk fs' fs'') :
    Shrunk fs fs'' :=
  ⟨second.current.trans first.current, fun entry kind =>
    first.entries (second.entries entry kind) kind⟩

theorem Shrunk.refl (fs : FileSystem) : Shrunk fs fs := ⟨rfl, fun entry _ => entry⟩

/-- Where entries were taken away, a way that still leads to a directory is the way it was. -/
theorem enter_of_shrunk (shrunk : Shrunk fs fs') (onward : .root ∉ way.tail)
    (h : fs'.enter way = .ok l) : fs.enter way = .ok l ∧ fs.trail way = fs'.trail way := by
  obtain ⟨reached, ends⟩ := enter_eq_ok_iff.mp h
  have solid := reached.past_solid ends onward
  have same : ∀ q ∈ fs'.trail way, SameShape fs' fs q := by
    intro q member
    obtain ⟨e, entry, kind⟩ := solid q member
    exact sameShape_of_eq (by rw [entry, shrunk.entries entry kind])
  obtain ⟨walk, trail⟩ := walk_congr same
  have walk_ok := reached.walk_eq
  rw [← walk, shrunk.current] at walk_ok
  rw [shrunk.current] at trail
  refine ⟨enter_of_reaches (walk_eq_ok_iff.mp walk_ok) (shrunk.entries ends rfl), ?_⟩
  rw [FileSystem.trail, FileSystem.trail, shrunk.current, trail]

theorem enter_congr (h : fs.enter way = .ok l) (current : fs'.current = fs.current)
    (same : ∀ q ∈ fs.trail way, SameShape fs fs' q) (ends : fs'.entry? l = some .directory) :
    fs'.enter way = .ok l := by
  obtain ⟨walk, trail⟩ := walk_congr same
  rw [(enter_eq_ok_iff.mp h).1.walk_eq, ← current] at walk
  exact enter_of_reaches (walk_eq_ok_iff.mp walk) ends

/-! ### Paths of directories and in directories -/

theorem screen_eq_ok_iff : screen p = .ok () ↔
    p.hasNul = false ∧ p.isEmpty = false ∧ p.text.utf8ByteSize ≤ pathBound := by
  unfold screen
  split
  · simp [*]
  split
  · simp [*]
  split
  · simp [*]
  · simp_all

theorem resolve_eq_ok_iff : fs.resolve p true = .ok l ↔
    screen p = .ok () ∧ fs.walk true linkBound fs.current (wholeSteps p) = .ok l := by
  rw [resolve]
  cases screen p <;> simp [bind, Except.bind]

theorem find_eq_ok_iff {e : Entry} : fs.find p = .ok (l, e) ↔
    fs.resolve p true = .ok l ∧ fs.entry? l = some e := by
  rw [find]
  cases fs.resolve p true with
  | error fault => simp [bind, Except.bind]
  | ok place =>
    simp only [bind, Except.bind, Except.ok.injEq]
    constructor
    · intro h
      split at h
      · cases h; exact ⟨rfl, ‹_›⟩
      · cases h
    · rintro ⟨rfl, entry⟩
      rw [entry]

/-- Where a path leads depends on nothing but the entries on its trail. -/
theorem resolve_congr (current : fs'.current = fs.current)
    (same : ∀ q ∈ fs.trail (wholeSteps p), SameShape fs fs' q) :
    fs'.resolve p true = fs.resolve p true := by
  rw [resolve, resolve, current, (walk_congr same).1]

theorem find_congr (current : fs'.current = fs.current)
    (same : ∀ q ∈ fs.trail (wholeSteps p), SameShape fs fs' q)
    (ends : ∀ l, fs.resolve p true = .ok l → fs'.entry? l = fs.entry? l) :
    fs'.find p = fs.find p := by
  rw [find, find, resolve_congr current same]
  cases resolved : fs.resolve p true with
  | error fault => rfl
  | ok l => simp only [bind, Except.bind, ends l resolved]

/-- A separator at the end makes no difference to a path that leads to a directory. -/
theorem find_directory_iff : fs.find p = .ok (l, .directory) ↔
    screen p = .ok () ∧ fs.enter (steps p) = .ok l := by
  rw [find_eq_ok_iff, resolve_eq_ok_iff, and_assoc, and_congr_right_iff]
  intro _
  rw [wholeSteps]
  split
  · constructor
    · rintro ⟨walk, ends⟩
      obtain ⟨past, reached⟩ := reaches_of_walk_eq walk
      obtain ⟨left, mid, past₁, past₂, first, here, second, -⟩ := reached.split (by simp)
      cases second with
      | stay _ rest => cases rest; exact enter_of_reaches first here
    · intro entered
      obtain ⟨reached, ends⟩ := enter_eq_ok_iff.mp entered
      obtain ⟨left, onward⟩ := reached.append ends
      exact ⟨(onward (.stay ends .done)).walk_eq, ends⟩
  · rw [List.append_nil, walk_eq_ok_iff, enter_eq_ok_iff]
    exact Iff.rfl

theorem slot_join_eq_ok_iff (present : dir.isEmpty = false) (valid : ValidName name)
    {slot : Location × Option String} : fs.slot (dir.join ⟨name⟩) = .ok slot ↔
      screen (dir.join ⟨name⟩) = .ok () ∧ fs.enter (steps dir) = .ok slot.1 ∧
        name.utf8ByteSize ≤ nameBound ∧ slot.2 = some name := by
  obtain ⟨l, last⟩ := slot
  rw [FileSystem.slot, steps_join_name present valid]
  cases screen (dir.join ⟨name⟩) with
  | error fault => simp [bind, Except.bind]
  | ok =>
    simp only [bind, Except.bind, List.getLast?_concat, List.dropLast_concat, true_and]
    cases fs.enter (steps dir) with
    | error fault => simp
    | ok place =>
      by_cases long : nameBound < name.utf8ByteSize
      · simp [long, Nat.not_le.mpr long]
      · simp [long, Nat.not_lt.mp long, eq_comm]

theorem resolve_join_of_enter (present : dir.isEmpty = false) (valid : ValidName name)
    (screened : screen (dir.join ⟨name⟩) = .ok ()) (short : name.utf8ByteSize ≤ nameBound)
    (entered : fs.enter (steps dir) = .ok l)
    (solid : ∀ target, fs.entry? (l ++ [name]) ≠ some (.link target)) :
    fs.resolve (dir.join ⟨name⟩) true = .ok (l ++ [name]) := by
  rw [resolve_eq_ok_iff, wholeSteps, endsOpen_join_name present valid, steps_join_name present valid]
  simp only [Bool.false_eq_true, if_false, List.append_nil]
  obtain ⟨reached, here⟩ := enter_eq_ok_iff.mp entered
  obtain ⟨left, onward⟩ := reached.append here
  refine ⟨screened, ?_⟩
  cases entry : fs.entry? (l ++ [name]) with
  | none => exact (onward (.missing here short entry)).walk_eq
  | some e =>
    have solid : ∀ target, e ≠ .link target := fun target same => solid target (by rw [entry, same])
    exact (onward (.down here short entry solid .done)).walk_eq

end ShieldPolicy.FileSystem
