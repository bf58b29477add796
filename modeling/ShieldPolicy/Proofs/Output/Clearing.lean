import ShieldPolicy.Proofs.Machine.Disk

/-!
Making and emptying a directory. `clearDirectory_run` says what is left in a directory that was
cleared: nothing, or, where the way to the directory leads through what is in one of its own
subdirectories, that one subdirectory, empty.
-/

namespace ShieldPolicy

open FileSystem Disk OnDisk
open Location (Below)

/-! ### What a directory holds -/

namespace FileSystem

def Empty (fs : FileSystem) (dir : Location) : Prop :=
  fs.entry? dir = some .directory ∧ ∀ q, Below dir q → fs.entry? q = none

def HoldsOnly (fs : FileSystem) (dir : Location) (name : String) (e : Entry) : Prop :=
  fs.entry? dir = some .directory ∧
    ∀ q, Below dir q → fs.entry? q = if q = dir ++ [name] then some e else none

def LeadsThrough (fs : FileSystem) (way : List Path.Component) (dir : Location) : Prop :=
  ∃ q ∈ fs.trail way, Below dir q

variable {fs fs' : FileSystem} {out l q : Location} {name : String} {p dir : Path}
  {way : List Path.Component}

theorem LeadsThrough.directory (tree : fs.WellFormed) (entered : fs.enter (steps dir) = .ok out)
    (through : fs.LeadsThrough (steps dir) l) : fs.entry? l = some .directory := by
  obtain ⟨q, member, below⟩ := through
  obtain ⟨reached, ends⟩ := enter_eq_ok_iff.mp entered
  obtain ⟨e, entry, _⟩ := reached.past_solid ends (root_not_mem_tail_steps dir) q member
  exact tree.above below (by simp [entry])

/-- Removing a directory leaves it in place, with nothing in it, exactly where the way to it leads
through what is in it. -/
theorem uprooted_cases (present : dir.isEmpty = false)
    (valid : ValidName name) (slot : fs.slot (dir.join ⟨name⟩) = .ok (out, some name))
    (here : fs.entry? (out ++ [name]) = some .directory) :
    ¬ fs.LeadsThrough (steps dir) (out ++ [name]) ∧
        FileSystem.entry? (fs.uprooted (dir.join ⟨name⟩) (out ++ [name])) (out ++ [name]) = none ∨
      fs.LeadsThrough (steps dir) (out ++ [name]) ∧
        (fs.uprooted (dir.join ⟨name⟩) (out ++ [name])).Empty (out ++ [name]) ∧
        ∀ l, (fs.uprooted (dir.join ⟨name⟩) (out ++ [name])).enter (steps dir) ≠ .ok l := by
  obtain ⟨screened, entered, short, -⟩ := (slot_join_eq_ok_iff present valid).mp slot
  have entered : fs.enter (steps dir) = .ok out := entered
  have thinned := thinned_hollow fs (out ++ [name])
  unfold uprooted
  cases left : (fs.hollow (out ++ [name])).slot (dir.join ⟨name⟩) with
  | ok slot' =>
    obtain ⟨-, entered', -, -⟩ := (slot_join_eq_ok_iff present valid).mp left
    refine .inl ⟨?_, ?_⟩
    · -- The trail is the same and holds nothing that is gone.
      rintro ⟨q, member, below⟩
      obtain ⟨reached, ends⟩ := enter_eq_ok_iff.mp entered'
      rw [(enter_of_shrunk thinned.shrunk (root_not_mem_tail_steps dir) entered').2] at member
      obtain ⟨e, entry, _⟩ := reached.past_solid ends (root_not_mem_tail_steps dir) q member
      rw [entry?_hollow, if_pos below] at entry
      cases entry
    · simp only [Except.toBool, if_true]
      rw [entry?_prune (by simp), if_pos (List.prefix_refl _)]
  | error fault =>
    have nowhere (l : Location) : (fs.hollow (out ++ [name])).enter (steps dir) ≠ .ok l := by
      intro entered'
      have slot' : (fs.hollow (out ++ [name])).slot (dir.join ⟨name⟩) = .ok (l, some name) :=
        (slot_join_eq_ok_iff present valid).mpr ⟨screened, entered', short, rfl⟩
      rw [left] at slot'
      cases slot'
    simp only [Except.toBool, Bool.false_eq_true, if_false]
    refine .inr ⟨?_, ⟨?_, fun q below => ?_⟩, nowhere⟩
    · by_contra around
      refine nowhere out (enter_congr entered rfl (fun q member => sameShape_of_eq ?_) ?_)
      · rw [entry?_hollow, if_neg fun below => around ⟨q, member, below⟩]
      · rw [entry?_hollow, if_neg fun below => ?_]
        · exact directory_of_enter entered
        · exact Location.not_prefix_parent out name below.1
    · rw [entry?_hollow, if_neg (Location.not_below_self _)]
      exact here
    · rw [entry?_hollow, if_pos below]

/-- What came of a directory that was cleared: it is empty, or, where the way to it leads through
what is in one of its entries, that one is left, empty as well. -/
def Cleared (base : FileSystem) (dir : Path) (out : Location) (fs : FileSystem) : Prop :=
  fs.Empty out ∧ (∀ name, ¬ base.LeadsThrough (steps dir) (out ++ [name])) ∨
    ∃ name, base.LeadsThrough (steps dir) (out ++ [name]) ∧ fs.HoldsOnly out name .directory

theorem Cleared.empty_of_enter {base : FileSystem} (cleared : Cleared base dir out fs)
    (shrunk : Shrunk base fs) (entered : fs.enter (steps dir) = .ok l) : fs.Empty out := by
  rcases cleared with ⟨empty, -⟩ | ⟨name, ⟨q, member, below⟩, here, holds⟩
  · exact empty
  · obtain ⟨reached, ends⟩ := enter_eq_ok_iff.mp entered
    rw [(enter_of_shrunk shrunk (root_not_mem_tail_steps dir) entered).2] at member
    obtain ⟨e, entry, -⟩ := reached.past_solid ends (root_not_mem_tail_steps dir) q member
    rw [holds q below.of_child, if_neg below.2.symm] at entry
    cases entry

/-- A directory that was cleared is empty exactly where the way to it does not lead through what is
in one of its own subdirectories. -/
theorem Cleared.empty_iff {base : FileSystem} (cleared : Cleared base dir out fs) :
    fs.Empty out ↔ ∀ name, ¬ base.LeadsThrough (steps dir) (out ++ [name]) := by
  rcases cleared with ⟨empty, around⟩ | ⟨name, through, -, holds⟩
  · exact ⟨fun _ => around, fun _ => empty⟩
  · refine ⟨fun empty => ?_, fun around => absurd through (around name)⟩
    have below := Location.below_child out name
    have gone := holds _ below
    rw [empty.2 _ below, if_pos rfl] at gone
    cases gone

theorem Cleared.holdsOnly {base : FileSystem} (cleared : Cleared base dir out fs) (left : ¬ fs.Empty out) :
    ∃ name, fs.HoldsOnly out name .directory := by
  rcases cleared with ⟨empty, -⟩ | ⟨name, -, holds⟩
  · exact absurd empty left
  · exact ⟨name, holds⟩

theorem list_eq_ok {listed : List (String × Bool)} (h : fs.list p = .ok listed) :
    ∃ l, fs.find p = .ok (l, .directory) ∧ listed.map Prod.fst = fs.children l := by
  obtain ⟨⟨l, e⟩, found, h⟩ := bind_ok h
  cases e with
  | directory =>
    cases h
    exact ⟨l, found, by simp [Function.comp_def]⟩
  | file | link => cases h

theorem present_of_find {e : Entry} (found : fs.find p = .ok (l, e)) : p.isEmpty = false := by
  have screened := (resolve_eq_ok_iff.mp (find_eq_ok_iff.mp found).1).1
  exact (screen_eq_ok_iff.mp screened).2.1

end FileSystem

namespace OnDisk

variable {σ : Type} [Machine (StateM σ)] [OnDisk σ] {s s' : σ} {dir : Path} {out : Location}
  {base : FileSystem} {name : String}

/-! ### Making a directory -/

theorem isDirectory_run {p : Path} {b : Bool}
    (run : (Machine.isDirectory p : StateM σ _) s = (b, s')) : disk s' = disk s := by
  obtain ⟨kind, mid, looked, run⟩ := bind_run run
  have same := (status p s mid kind looked).1
  split at run
  all_goals
    obtain ⟨-, rfl⟩ := pure_run run
    exact same

theorem isFile_run {p : Path} {b : Bool}
    (run : (Machine.isFile p : StateM σ _) s = (b, s')) : disk s' = disk s := by
  obtain ⟨kind, mid, looked, run⟩ := bind_run run
  have same := (status p s mid kind looked).1
  split at run
  all_goals
    obtain ⟨-, rfl⟩ := pure_run run
    exact same

theorem makeFirst_made {ps : List Path} {r : Except FileFault Unit} (sound : (disk s).Sound)
    (run : (Machine.makeFirst ps : StateM σ _) s = (r, s')) : Made (disk s) (disk s') := by
  have accepted {p : Path} {s s' : σ} {tried r : Except FileFault Unit} (sound : (disk s).Sound)
      (run : (Machine.makeFirst.accept p tried : StateM σ _) s = (r, s')) :
      Made (disk s) (disk s') := by
    cases tried with
    | ok =>
      obtain ⟨-, rfl⟩ := pure_run run
      exact sound.made
    | error fault =>
      obtain ⟨there, mid, looked, run⟩ := bind_run run
      have same := isDirectory_run looked
      split at run
      all_goals
        obtain ⟨-, rfl⟩ := pure_run run
        rw [same]
        exact sound.made
  induction ps generalizing s s' r with
  | nil =>
    obtain ⟨-, rfl⟩ := pure_run run
    exact sound.made
  | cons p above ih =>
    unfold Machine.makeFirst at run
    split at run
    · obtain ⟨-, rfl⟩ := pure_run run
      exact sound.made
    obtain ⟨tried, mid, trial, run⟩ := bind_run run
    have first := makeDirectory_made sound trial
    split at run
    · obtain ⟨-, rfl⟩ := pure_run run
      exact first
    · obtain ⟨climbed, top, climb, run⟩ := bind_run run
      have second := ih first.sound climb
      cases climbed with
      | error fault =>
        obtain ⟨-, rfl⟩ := pure_run run
        exact first.trans second
      | ok =>
        obtain ⟨again, last, retrial, run⟩ := bind_run run
        have third := makeDirectory_made second.sound retrial
        exact ((first.trans second).trans third).trans (accepted third.sound run)
    · exact first.trans (accepted first.sound run)

theorem makeDirectories_made {r : Except FileFault Unit} (sound : (disk s).Sound)
    (run : (Machine.makeDirectories dir : StateM σ _) s = (r, s')) : Made (disk s) (disk s') :=
  makeFirst_made sound run

/-! ### Removing what is in a directory -/

theorem slot_of_shrunk {fs : FileSystem} {l : Location} {last : String} (present : dir.isEmpty = false)
    (valid : ValidName name) (entered : base.enter (steps dir) = .ok out) (shrunk : Shrunk base fs)
    (slot : fs.slot (dir.join ⟨name⟩) = .ok (l, some last)) :
    l = out ∧ last = name ∧ fs.enter (steps dir) = .ok out ∧
      base.trail (steps dir) = fs.trail (steps dir) := by
  obtain ⟨-, there, -, same⟩ := (slot_join_eq_ok_iff present valid).mp slot
  obtain ⟨entered', trail⟩ := enter_of_shrunk shrunk (root_not_mem_tail_steps dir) there
  rw [entered] at entered'
  cases entered'
  cases same
  exact ⟨rfl, rfl, there, trail⟩

/-- What came of an entry that was removed: it is gone, or, where the way to the directory leads
through it, it is left empty, and the way leads nowhere. -/
def Discarded (base : FileSystem) (dir : Path) (out : Location) (name : String)
    (fs : FileSystem) : Prop :=
  ¬ base.LeadsThrough (steps dir) (out ++ [name]) ∧ fs.entry? (out ++ [name]) = none ∨
    base.LeadsThrough (steps dir) (out ++ [name]) ∧ fs.Empty (out ++ [name]) ∧
      ∀ l, fs.enter (steps dir) ≠ .ok l

theorem removeEntry_run {isDir : Bool} {r : Except FileFault Unit} (present : dir.isEmpty = false)
    (valid : ValidName name) (entered : base.enter (steps dir) = .ok out)
    (sound : (disk s).Sound) (shrunk : Shrunk base (disk s).files)
    (run : (if isDir then Machine.removeTree (dir.join ⟨name⟩)
      else Machine.removeFile (dir.join ⟨name⟩) : StateM σ _) s = (r, s')) :
    Loses (out ++ [name] <+: ·) (disk s) (disk s') ∧
      (r = .ok () → (disk s).files.enter (steps dir) = .ok out ∧
        Discarded base dir out name (disk s').files) := by
  have place {l : Location} {last : String}
      (slot : (disk s).files.slot (dir.join ⟨name⟩) = .ok (l, some last)) :=
    slot_of_shrunk present valid entered shrunk slot
  -- What is not a directory goes for good: no way leads through it.
  have pruned (other : (disk s).files.entry? (out ++ [name]) ≠ some .directory)
      (there : (disk s).files.enter (steps dir) = .ok out)
      (trail : base.trail (steps dir) = (disk s).files.trail (steps dir)) :
      Discarded base dir out name ((disk s).files.prune (out ++ [name])) := by
    refine .inl ⟨fun through => other ?_, ?_⟩
    · rw [LeadsThrough, trail] at through
      exact LeadsThrough.directory sound.tree there through
    · rw [entry?_prune (by simp), if_pos (List.prefix_refl _)]
  cases isDir with
  | true =>
    refine ⟨?_, ?_⟩
    · rcases removeTree_loses sound run with same | ⟨l, last, slot, loses⟩
      · rw [same]
        exact sound.loses _
      · obtain ⟨rfl, rfl, -⟩ := place slot
        exact loses
    · rintro rfl
      obtain ⟨files, changed, same⟩ := (removeTree _ s s' _ run).1 rfl
      obtain ⟨l, last, slot, removed⟩ := removeTree_eq_ok changed
      obtain ⟨rfl, rfl, there, trail⟩ := place slot
      rw [same]
      refine ⟨there, ?_⟩
      rcases removed with ⟨target, entry, rfl⟩ | ⟨entry, rfl⟩
      · exact pruned (by simp [entry]) there trail
      · simp only [Discarded, LeadsThrough, trail]
        exact uprooted_cases present valid slot entry
  | false =>
    refine ⟨?_, ?_⟩
    · rcases removeFile_loses sound run with same | ⟨l, last, slot, loses⟩
      · rw [same]
        exact sound.loses _
      · obtain ⟨rfl, rfl, -⟩ := place slot
        exact loses
    · rintro rfl
      obtain ⟨files, changed, same⟩ := (removeFile _ s s' _ run).1 rfl
      obtain ⟨l, last, slot, -, other, rfl⟩ := removeFile_eq_ok changed
      obtain ⟨rfl, rfl, there, trail⟩ := place slot
      rw [same]
      exact ⟨there, pruned other there trail⟩

/-- Removing entries one after the other takes away nothing else. Only the last one may be left. -/
theorem removeAll_run {entries : List (String × Bool)} {r : Except FileFault Nat}
    (present : dir.isEmpty = false) (valid : ∀ x ∈ entries, ValidName x.1)
    (entered : base.enter (steps dir) = .ok out) (sound : (disk s).Sound)
    (shrunk : Shrunk base (disk s).files)
    (run : (Machine.removeAll dir entries : StateM σ _) s = (r, s')) :
    Loses (Below out) (disk s) (disk s') ∧ ∀ count, r = .ok count → count = entries.length ∧
      (entries ≠ [] → (disk s).files.enter (steps dir) = .ok out) ∧
      ((∀ x ∈ entries, ¬ base.LeadsThrough (steps dir) (out ++ [x.1]) ∧
          (disk s').files.entry? (out ++ [x.1]) = none) ∨
        ∃ name, base.LeadsThrough (steps dir) (out ++ [name]) ∧
          (disk s').files.Empty (out ++ [name]) ∧
          ∀ x ∈ entries, x.1 ≠ name → (disk s').files.entry? (out ++ [x.1]) = none) := by
  induction entries generalizing s s' r with
  | nil =>
    obtain ⟨rfl, rfl⟩ := pure_run run
    refine ⟨sound.loses _, fun count same => ?_⟩
    cases same
    exact ⟨rfl, fun some => absurd rfl some, .inl nofun⟩
  | cons x rest ih =>
    obtain ⟨name, isDir⟩ := x
    obtain ⟨removed, mid, removal, run⟩ := bind_run run
    obtain ⟨loses, discarded⟩ := removeEntry_run present (valid _ List.mem_cons_self) entered sound
      shrunk removal
    have loses := loses.mono fun q => Location.below_of_child_prefix
    split at run
    · obtain ⟨rfl, rfl⟩ := pure_run run
      exact ⟨loses, nofun⟩
    · obtain ⟨counted, last, tail, run⟩ := bind_run run
      obtain ⟨later, outcome⟩ := ih (fun x member => valid x (.tail _ member)) loses.sound
        (shrunk.trans loses.files.shrunk) tail
      split at run
      · obtain ⟨rfl, rfl⟩ := pure_run run
        exact ⟨loses.trans later, nofun⟩
      · rename_i count
        obtain ⟨rfl, rfl⟩ := pure_run run
        refine ⟨loses.trans later, fun total same => ?_⟩
        cases same
        obtain ⟨rfl, onward, outcome⟩ := outcome count rfl
        obtain ⟨there, discarded⟩ := discarded rfl
        refine ⟨rfl, fun _ => there, ?_⟩
        rcases discarded with ⟨around, gone⟩ | ⟨through, empty, nowhere⟩
        · have gone := later.files.none_of_none gone
          rcases outcome with outcome | ⟨left, through, empty, others⟩
          · exact .inl (List.forall_mem_cons.mpr ⟨⟨around, gone⟩, outcome⟩)
          · exact .inr ⟨left, through, empty, List.forall_mem_cons.mpr ⟨fun _ => gone, others⟩⟩
        · -- The directory cannot be reached any more, so this was the last entry.
          have done : rest = [] := by
            by_contra more
            exact nowhere out (onward more)
          subst done
          obtain ⟨-, rfl⟩ := pure_run tail
          exact .inr ⟨name, through, empty, by simp⟩

theorem clearDirectory_run {r : Except FileFault Nat} (sound : (disk s).Sound)
    (run : (Machine.clearDirectory dir : StateM σ _) s = (r, s')) :
    disk s' = disk s ∧ (∀ count, r ≠ .ok count) ∨
      ∃ out, (disk s).files.find dir = .ok (out, .directory) ∧
        Loses (Below out) (disk s) (disk s') ∧ ∀ count, r = .ok count →
          count = ((disk s).files.children out).length ∧
            Cleared (disk s).files dir out (disk s').files := by
  obtain ⟨listing, mid, looked, run⟩ := bind_run run
  obtain ⟨same, listed⟩ := list dir s mid listing looked
  cases listing with
  | error fault =>
    obtain ⟨rfl, rfl⟩ := pure_run run
    exact .inl ⟨same, nofun⟩
  | ok entries =>
    obtain ⟨names, listed, perm⟩ := listed entries rfl
    obtain ⟨out, found, children⟩ := list_eq_ok listed
    have entered := (find_directory_iff.mp found).2
    have there := directory_of_enter entered
    have listed_iff (name : String) : (∃ x ∈ entries, x.1 = name) ↔
        ((disk s).files.entry? (out ++ [name])).isSome := by
      rw [← mem_children, ← children, List.mem_map]
      exact exists_congr fun x => and_congr_left fun _ => perm.mem_iff
    have valid : ∀ x ∈ entries, ValidName x.1 := fun x member =>
      sound.tree.names ((listed_iff x.1).mp ⟨x, member, rfl⟩)
    obtain ⟨loses, outcome⟩ := removeAll_run (present_of_find found) valid entered (same ▸ sound)
      (same ▸ Shrunk.refl _) run
    rw [same] at loses
    refine .inr ⟨out, found, loses, fun count counted => ?_⟩
    obtain ⟨rfl, -, outcome⟩ := outcome count counted
    refine ⟨by rw [← children, List.length_map, perm.length_eq], ?_⟩
    have stays : (disk s').files.entry? out = some .directory := by
      rcases loses.files.entries out with same | ⟨below, -⟩
      · rw [same, there]
      · exact absurd below (Location.not_below_self out)
    -- An entry that was not there when the directory was listed is not there now.
    have unlisted {name : String} (absent : ¬ ∃ x ∈ entries, x.1 = name) :
        (disk s').files.entry? (out ++ [name]) = none := by
      rw [listed_iff, Option.not_isSome_iff_eq_none] at absent
      exact loses.files.none_of_none absent
    rcases outcome with outcome | ⟨left, through, ⟨here, hollow⟩, others⟩
    · refine .inl ⟨⟨stays, fun q below => ?_⟩, fun name through => ?_⟩
      · obtain ⟨name, within⟩ := Location.below_iff_child.mp below
        refine loses.sound.tree.none_within ?_ within
        by_cases member : ∃ x ∈ entries, x.1 = name
        · obtain ⟨x, member, rfl⟩ := member
          exact (outcome x member).2
        · exact unlisted member
      · have present := LeadsThrough.directory sound.tree entered through
        obtain ⟨x, member, rfl⟩ := (listed_iff name).mpr (by rw [present]; rfl)
        exact (outcome x member).1 through
    · refine .inr ⟨left, through, stays, fun q below => ?_⟩
      obtain ⟨name, within⟩ := Location.below_iff_child.mp below
      by_cases same : name = left
      · subst same
        split
        · rename_i same
          rw [same, here]
        · rename_i other
          exact hollow q ⟨within, Ne.symm other⟩
      · rw [if_neg]
        · refine loses.sound.tree.none_within ?_ within
          by_cases member : ∃ x ∈ entries, x.1 = name
          · obtain ⟨x, member, rfl⟩ := member
            exact others x member same
          · exact unlisted member
        · rintro rfl
          exact same (Location.child_prefix_child.mp within)

end OnDisk

end ShieldPolicy
