import ShieldPolicy.Log
import ShieldPolicy.Machine.World
import ShieldPolicy.Proofs.FileSystem.Change

/-!
Machines with a disk. `OnDisk` says what an operation of a machine has done to its files, whether it
succeeded or failed, and how far a failed one may have come. What is proved of these machines holds
whichever of their operations fails.
-/

namespace ShieldPolicy

open FileSystem

structure Disk where
  files : FileSystem
  journal : Option Location

namespace Disk

variable {d d' d'' : Disk} {files : FileSystem} {part part' : Location → Prop} {l q : Location}

/-- The disk with other files. A log file that is no longer in place is given up. -/
def renew (d : Disk) (files : FileSystem) : Disk where
  files
  journal := d.journal.filter fun l => (files.entry? l).any Entry.isFile

/-- The files form a tree, and the log file is in place. -/
structure Sound (d : Disk) : Prop where
  tree : d.files.WellFormed
  journal : ∀ {l}, d.journal = some l → ∃ text, d.files.entry? l = some (.file text)

theorem journal_renew : (d.renew files).journal = some l ↔
    d.journal = some l ∧ ∃ text, files.entry? l = some (.file text) := by
  rw [renew, Option.filter_eq_some_iff, Option.any_eq_true]
  refine and_congr_right fun _ => ⟨?_, ?_⟩
  · rintro ⟨e, entry, kind⟩
    cases e with
    | file text => exact ⟨text, entry⟩
    | directory | link => cases kind
  · rintro ⟨text, entry⟩
    exact ⟨_, entry, rfl⟩

theorem sound_renew (tree : files.WellFormed) : (d.renew files).Sound :=
  ⟨tree, fun present => (journal_renew.mp present).2⟩

theorem Sound.renew_eq (sound : d.Sound)
    (kept : ∀ {q e}, d.files.entry? q = some e → files.entry? q = some e) :
    d.renew files = { d with files } := by
  cases logged : d.journal with
  | none => simp [renew, logged]
  | some l =>
    obtain ⟨text, entry⟩ := sound.journal logged
    simp [renew, logged, kept entry, Entry.isFile]

/-! ### What stays -/

/-- Whether the same entry stands at a place. The text of the log file does not count. -/
def SameAt (d d' : Disk) (l : Location) : Prop :=
  d'.files.entry? l = d.files.entry? l ∨ d.journal = some l ∧
    ∃ text text', d.files.entry? l = some (.file text) ∧ d'.files.entry? l = some (.file text')

/-- Nothing has changed but a part of the tree, and the text of the log file. -/
structure Spares (part : Location → Prop) (d d' : Disk) : Prop where
  current : d'.files.current = d.files.current
  journal : ∀ {l}, d'.journal = some l → d.journal = some l
  entries : ∀ q, ¬ part q → SameAt d d' q

theorem SameAt.sameShape (same : SameAt d d' l) : SameShape d.files d'.files l := by
  rcases same with same | ⟨-, text, text', entry, entry'⟩
  · exact sameShape_of_eq same
  · simp [SameShape, entry, entry', Entry.shape]

theorem Spares.refl (part : Location → Prop) (d : Disk) : Spares part d d :=
  ⟨rfl, id, fun _ _ => .inl rfl⟩

theorem SameAt.trans (journal : d'.journal = some l → d.journal = some l) (first : SameAt d d' l)
    (second : SameAt d' d'' l) : SameAt d d'' l := by
  rcases first with same | ⟨logged, text, text', entry, entry'⟩
  · rcases second with same' | ⟨logged, text, text', entry, entry'⟩
    · exact .inl (same'.trans same)
    · exact .inr ⟨journal logged, text, text', by rw [← same, entry], entry'⟩
  · rcases second with same | ⟨-, -, text'', -, entry''⟩
    · exact .inr ⟨logged, text, text', entry, by rw [same, entry']⟩
    · exact .inr ⟨logged, text, text'', entry, entry''⟩

theorem Spares.trans (first : Spares part d d') (second : Spares part d' d'') :
    Spares part d d'' where
  current := second.current.trans first.current
  journal logged := first.journal (second.journal logged)
  entries q outside :=
    (first.entries q outside).trans first.journal (second.entries q outside)

theorem Spares.mono (wider : ∀ q, part q → part' q) (spares : Spares part d d') :
    Spares part' d d' :=
  ⟨spares.current, spares.journal, fun q outside => spares.entries q fun within =>
    outside (wider q within)⟩

theorem Spares.within (spares : Spares (fun _ => False) d d') : Spares part d d' :=
  spares.mono fun _ => False.elim

theorem spares_renew (current : files.current = d.files.current)
    (entries : ∀ q, ¬ part q → files.entry? q = d.files.entry? q) : Spares part d (d.renew files) :=
  ⟨current, fun logged => (journal_renew.mp logged).1, fun q outside => .inl (entries q outside)⟩

theorem spares_append {text : String} (logged : d.journal = some l) :
    Spares (fun _ => False) d { d with files := d.files.appendAt l text } := by
  unfold appendAt
  split
  · rename_i before entry
    have nonroot : l ≠ [] := by
      rintro rfl
      cases entry
    refine ⟨rfl, id, fun q _ => ?_⟩
    by_cases same : q = l
    · subst same
      exact .inr ⟨logged, _, _, entry, by rw [entry?_put nonroot, if_pos rfl]⟩
    · exact .inl (by rw [entry?_put nonroot, if_neg same])
  · exact Spares.refl _ _

/-- Nothing was written but the log file, and that only at its end. -/
def Logged (d d' : Disk) : Prop :=
  d' = d ∨ ∃ l text, d.journal = some l ∧ d' = { d with files := d.files.appendAt l text }

theorem Logged.refl (d : Disk) : Logged d d := .inl rfl

theorem Logged.eq_of_no_journal (logged : Logged d d') (closed : d.journal = none) : d' = d := by
  obtain same | ⟨l, text, opened, -⟩ := logged
  · exact same
  · rw [closed] at opened
    cases opened

theorem Logged.spares (logged : Logged d d') : Spares (fun _ => False) d d' := by
  obtain rfl | ⟨l, text, opened, rfl⟩ := logged
  · exact Spares.refl _ _
  · exact spares_append opened

theorem Logged.trans (first : Logged d d') (second : Logged d' d'') : Logged d d'' := by
  obtain rfl | ⟨l, text, opened, rfl⟩ := first
  · exact second
  obtain rfl | ⟨l', text', opened', rfl⟩ := second
  · exact .inr ⟨l, text, opened, rfl⟩
  have same : l' = l := Option.some.inj (opened'.symm.trans opened)
  subst same
  refine .inr ⟨l', text ++ text', opened, ?_⟩
  rw [appendAt_appendAt]

/-- Some of what stood within a part of the tree is gone, and nothing else has changed. -/
structure Loses (part : Location → Prop) (d d' : Disk) : Prop where
  files : Thinned part d.files d'.files
  journal : ∀ {l}, d'.journal = some l → d.journal = some l
  sound : d'.Sound

theorem Sound.loses (sound : d.Sound) (part : Location → Prop) : Loses part d d :=
  ⟨Thinned.refl part d.files, id, sound⟩

theorem Loses.trans (first : Loses part d d') (second : Loses part d' d'') : Loses part d d'' :=
  ⟨first.files.trans second.files, fun logged => first.journal (second.journal logged), second.sound⟩

theorem Loses.mono (wider : ∀ q, part q → part' q) (loses : Loses part d d') :
    Loses part' d d' :=
  ⟨loses.files.mono wider, loses.journal, loses.sound⟩

theorem Loses.spares (loses : Loses part d d') : Spares part d d' :=
  ⟨loses.files.current, loses.journal, fun q outside =>
    .inl ((loses.files.entries q).elim id fun gone => absurd gone.1 outside)⟩

theorem Sound.loses_renew (sound : d.Sound) (thinned : Thinned part d.files files) :
    Loses part d (d.renew files) :=
  ⟨thinned, fun logged => (journal_renew.mp logged).1, sound_renew (thinned.tree sound.tree)⟩

structure Made (d d' : Disk) : Prop where
  files : Grown d.files d'.files
  journal : d'.journal = d.journal
  sound : d'.Sound

theorem Sound.made (sound : d.Sound) : Made d d := ⟨Grown.refl d.files, rfl, sound⟩

theorem Made.trans (first : Made d d') (second : Made d' d'') : Made d d'' :=
  ⟨first.files.trans second.files, second.journal.trans first.journal, second.sound⟩

theorem Made.sameAt (made : Made d d') (present : (d.files.entry? l).isSome) : SameAt d d' l := by
  obtain ⟨e, entry⟩ := Option.isSome_iff_exists.mp present
  exact .inl (by rw [entry, made.files.kept entry])

theorem Sound.made_renew (sound : d.Sound) (grown : Grown d.files files)
    (tree : files.WellFormed) : Made d (d.renew files) := by
  refine ⟨grown, ?_, sound_renew tree⟩
  rw [sound.renew_eq grown.kept]

theorem Sound.of_spares (sound : d.Sound) (spares : Spares (fun _ => False) d d') : d'.Sound where
  tree := sound.tree.of_sameShape fun q => (spares.entries q id).sameShape
  journal logged := by
    obtain ⟨text, entry⟩ := sound.journal (spares.journal logged)
    exact (spares.entries _ id).sameShape.of_file entry

end Disk

/-! ### The operations of a machine -/

section Laws

variable {σ : Type} (disk : σ → Disk)

def Looks {α : Type} (look : FileSystem → Except FileFault α)
    (op : StateM σ (Except FileFault α)) : Prop :=
  ∀ s s' r, op s = (r, s') → disk s' = disk s ∧ ∀ a, r = .ok a → look (disk s).files = .ok a

/-- An operation that changes the files as a whole when it succeeds. When it fails it has changed
nothing, or has come so far that `torn` holds. -/
def Changes (change : FileSystem → Except FileFault FileSystem)
    (torn : FileSystem → FileSystem → Prop) (op : StateM σ (Except FileFault Unit)) : Prop :=
  ∀ s s' r, op s = (r, s') →
    (r = .ok () → ∃ files, change (disk s).files = .ok files ∧ disk s' = (disk s).renew files) ∧
    ∀ fault, r = .error fault →
      disk s' = disk s ∨ ∃ files, torn (disk s).files files ∧ disk s' = (disk s).renew files

def Never (_ _ : FileSystem) : Prop := False

def WrittenInPart (p : Path) (fs fs' : FileSystem) : Prop :=
  ∃ l part, fs.fileSlot p = .ok l ∧ fs' = fs.put l (.file part)

def RemovedInPart (p : Path) (fs fs' : FileSystem) : Prop :=
  ∃ dir name, fs.slot p = .ok (dir, some name) ∧ Thinned (dir ++ [name] <+: ·) fs fs'

end Laws

/-- A machine whose operations work on a disk, and each of which may fail. A file that a failed
operation wrote may hold a part of the text, and of a directory whose removal failed a part may be
gone. Moving a file and removing one are not left halfway. -/
class OnDisk (σ : Type) [Machine (StateM σ)] where
  disk : σ → Disk
  status (p : Path) :
    Looks disk (fun fs => return World.kindOf (← fs.find p).2) (Machine.status p)
  readText (p : Path) : Looks disk (fun fs => fs.readText p) (Machine.readText p)
  /-- The names of a directory come in any order. -/
  list (p : Path) (s s' : σ) (r : Except FileFault (List (String × Bool))) :
    (Machine.list p : StateM σ _) s = (r, s') → disk s' = disk s ∧ ∀ names, r = .ok names →
      ∃ listed, (disk s).files.list p = .ok listed ∧ names.Perm listed
  makeDirectory (p : Path) :
    Changes disk (fun fs => fs.makeDirectory p) Never (Machine.makeDirectory p)
  writeText (p : Path) (text : String) :
    Changes disk (fun fs => fs.writeText p text) (WrittenInPart p) (Machine.writeText p text)
  removeFile (p : Path) : Changes disk (fun fs => fs.removeFile p) Never (Machine.removeFile p)
  removeTree (p : Path) :
    Changes disk (fun fs => fs.removeTree p) (RemovedInPart p) (Machine.removeTree p)
  renameFile (source target : Path) :
    Changes disk (fun fs => fs.renameFile source target) Never (Machine.renameFile source target)
  write (stream : Stream) (text : String) (s s' : σ) :
    (Machine.write stream text : StateM σ Unit) s = ((), s') → disk s' = disk s ∨
      ∃ l, (disk s).journal = some l ∧
        disk s' = { disk s with files := (disk s).files.appendAt l text }
  clock (s s' : σ) (r : String) : (Machine.clock : StateM σ String) s = (r, s') → disk s' = disk s

/-! ### Runs, step by step -/

section Runs

variable {σ α β : Type} {s s' : σ} {a b : α}

theorem bind_run {first : StateM σ α} {next : α → StateM σ β} {b : β}
    (h : (first >>= next) s = (b, s')) : ∃ a mid, first s = (a, mid) ∧ next a mid = (b, s') :=
  ⟨_, _, rfl, h⟩

theorem run_bind {first : StateM σ α} {next : α → StateM σ β} {mid : σ}
    (h : first s = (a, mid)) : (first >>= next) s = next a mid := by
  change next (first s).1 (first s).2 = _
  rw [h]

theorem optional_run (c : Bool) (act : StateM σ Unit) (s : σ) :
    ∃ mid, (mid = s ∨ act s = ((), mid)) ∧
      ∀ next : Unit → StateM σ α, (if c then act >>= next else next ()) s = next () mid := by
  cases c with
  | false => exact ⟨s, .inl rfl, fun _ => rfl⟩
  | true => exact ⟨(act s).2, .inr rfl, fun _ => rfl⟩

theorem pure_run (h : (pure a : StateM σ α) s = (b, s')) : b = a ∧ s' = s := by
  cases h
  exact ⟨rfl, rfl⟩

end Runs

namespace OnDisk

open Disk

variable {σ : Type} [Machine (StateM σ)] [OnDisk σ] {s s' : σ} {p : Path}

theorem log_logged {logger : Logger} {e : Log.Event}
    (run : (logger.log e : StateM σ Unit) s = ((), s')) : Logged (disk s) (disk s') := by
  unfold Logger.log at run
  split at run
  · obtain ⟨time, mid, clocked, run⟩ := bind_run run
    rw [← clock s mid time clocked]
    exact (write _ _ _ _ run).imp_right fun ⟨l, opened, written⟩ => ⟨l, _, opened, written⟩
  · obtain ⟨-, rfl⟩ := pure_run run
    exact Logged.refl _

theorem logAll_logged {logger : Logger} {events : List Log.Event}
    (run : (logger.logAll events : StateM σ Unit) s = ((), s')) : Logged (disk s) (disk s') := by
  induction events generalizing s with
  | nil =>
    obtain ⟨-, rfl⟩ := pure_run run
    exact Logged.refl _
  | cons e rest ih =>
    obtain ⟨⟨⟩, mid, first, run⟩ := bind_run run
    exact (log_logged first).trans (ih run)

theorem log_spares {logger : Logger} {e : Log.Event}
    (run : (logger.log e : StateM σ Unit) s = ((), s')) :
    Spares (fun _ => False) (disk s) (disk s') :=
  (log_logged run).spares

theorem exists_log (logger : Logger) (e : Log.Event) (s : σ) :
    ∃ s', (logger.log e : StateM σ Unit) s = ((), s') ∧ Spares (fun _ => False) (disk s) (disk s') :=
  ⟨_, rfl, log_spares rfl⟩

theorem makeDirectory_made {r : Except FileFault Unit} (sound : (disk s).Sound)
    (run : (Machine.makeDirectory p : StateM σ _) s = (r, s')) : Made (disk s) (disk s') := by
  obtain ⟨done, failed⟩ := makeDirectory p s s' r run
  cases r with
  | ok =>
    obtain ⟨files, changed, same⟩ := done rfl
    rw [same]
    exact sound.made_renew (makeDirectory_grown changed) (sound.tree.makeDirectory changed)
  | error fault =>
    obtain same | ⟨_, torn, _⟩ := failed fault rfl
    · rw [same]
      exact sound.made
    · exact torn.elim

theorem removeTree_loses {r : Except FileFault Unit} (sound : (disk s).Sound)
    (run : (Machine.removeTree p : StateM σ _) s = (r, s')) : disk s' = disk s ∨
      ∃ dir name, (disk s).files.slot p = .ok (dir, some name) ∧
        Loses (dir ++ [name] <+: ·) (disk s) (disk s') := by
  obtain ⟨done, failed⟩ := removeTree p s s' r run
  cases r with
  | ok =>
    obtain ⟨files, changed, same⟩ := done rfl
    obtain ⟨dir, name, slot, thinned⟩ := removeTree_thinned changed
    exact .inr ⟨dir, name, slot, same ▸ sound.loses_renew thinned⟩
  | error fault =>
    obtain same | ⟨files, ⟨dir, name, slot, thinned⟩, same⟩ := failed fault rfl
    · exact .inl same
    · exact .inr ⟨dir, name, slot, same ▸ sound.loses_renew thinned⟩

theorem removeFile_loses {r : Except FileFault Unit} (sound : (disk s).Sound)
    (run : (Machine.removeFile p : StateM σ _) s = (r, s')) : disk s' = disk s ∨
      ∃ dir name, (disk s).files.slot p = .ok (dir, some name) ∧
        Loses (dir ++ [name] <+: ·) (disk s) (disk s') := by
  obtain ⟨done, failed⟩ := removeFile p s s' r run
  cases r with
  | ok =>
    obtain ⟨files, changed, same⟩ := done rfl
    obtain ⟨dir, name, slot, thinned⟩ := removeFile_thinned changed
    exact .inr ⟨dir, name, slot, same ▸ sound.loses_renew thinned⟩
  | error fault =>
    obtain same | ⟨_, torn, _⟩ := failed fault rfl
    · exact .inl same
    · exact torn.elim

end OnDisk

/-! ### Worlds -/

namespace World

theorem settle_eq (w : World) (files : FileSystem) :
    (⟨(settle { w with files }).files, (settle { w with files }).journal⟩ : Disk) =
      (⟨w.files, w.journal⟩ : Disk).renew files := by
  simp only [settle, Disk.renew, Disk.mk.injEq, true_and]
  congr
  funext l
  cases files.entry? l with
  | none => rfl
  | some e => cases e <;> rfl

theorem looks_look {α : Type} (f : FileSystem → Except FileFault α) :
    Looks (fun w : World => ⟨w.files, w.journal⟩) f (look f) := by
  rintro w w' r h
  cases h
  exact ⟨rfl, fun _ => id⟩

theorem changes_change (f : FileSystem → Except FileFault FileSystem)
    (torn : FileSystem → FileSystem → Prop) :
    Changes (fun w : World => ⟨w.files, w.journal⟩) f torn (change f) := by
  rintro w w' r h
  unfold change at h
  split at h
  · rename_i files changed
    cases h
    exact ⟨fun _ => ⟨files, changed, settle_eq w files⟩, nofun⟩
  · cases h
    exact ⟨nofun, fun _ _ => .inl rfl⟩

/-- A world is a disk on which nothing fails but what the files refuse. -/
instance : OnDisk World where
  disk w := ⟨w.files, w.journal⟩
  status _ := looks_look _
  readText _ := looks_look _
  list p w w' r h := by
    cases h
    exact ⟨rfl, fun names listed => ⟨names, listed, .refl _⟩⟩
  makeDirectory _ := changes_change _ _
  writeText _ _ := changes_change _ _
  removeFile _ := changes_change _ _
  removeTree _ := changes_change _ _
  renameFile _ _ := changes_change _ _
  write stream text w w' h := by
    cases h
    cases stream with
    | output | error => exact .inl rfl
    | journal =>
      unfold print
      dsimp only
      split
      · exact .inr ⟨_, ‹_›, rfl⟩
      · exact .inl rfl
  clock w w' r h := by
    cases h
    rfl

end World

end ShieldPolicy
