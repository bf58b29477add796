import ShieldPolicy.Proofs.Machine.Disk

/-!
A world in which operations fail as one pleases. It shows that `OnDisk` leaves room for a failure
of any operation at any time, and for what such a failure may leave behind.
-/

namespace ShieldPolicy

open FileSystem

structure Mishap where
  fault : FileFault
  part : Option String := none
  gone : List Location := []

/-- A world and what goes wrong with the next operations, one after the other. -/
structure FaultyWorld where
  world : World
  mishaps : List (Option Mishap) := []

namespace FaultyWorld

def writeTorn (p : Path) (m : Mishap) (fs : FileSystem) : Option FileSystem :=
  match fs.fileSlot p, m.part with
  | .ok l, some part => some (fs.put l (.file part))
  | _, _ => none

def removeTorn (p : Path) (m : Mishap) (fs : FileSystem) : Option FileSystem :=
  match fs.slot p with
  | .ok (dir, some name) =>
    some (m.gone.foldl (fun fs l => fs.prune (dir ++ [name] ++ l)) fs)
  | _ => none

def attempt {α : Type} (op : StateM World (Except FileFault α))
    (torn : Mishap → FileSystem → Option FileSystem) :
    StateM FaultyWorld (Except FileFault α) := fun s =>
  match s.mishaps with
  | some m :: mishaps =>
    let world := match torn m s.world.files with
      | some files => { s.world with files }.settle
      | none => s.world
    (.error m.fault, { world, mishaps })
  | mishaps => ((op s.world).1, { world := (op s.world).2, mishaps := mishaps.tail })

def attemptWhole {α : Type} (op : StateM World (Except FileFault α)) :
    StateM FaultyWorld (Except FileFault α) :=
  attempt op fun _ _ => none

def always {α : Type} (op : StateM World α) : StateM FaultyWorld α := fun s =>
  ((op s.world).1, { s with world := (op s.world).2 })

instance : Machine (StateM FaultyWorld) where
  status p := attemptWhole (Machine.status p)
  readText p := attemptWhole (Machine.readText p)
  list p := attemptWhole (Machine.list p)
  canonical p := attemptWhole (Machine.canonical p)
  makeDirectory p := attemptWhole (Machine.makeDirectory p)
  writeText p text := attempt (Machine.writeText p text) (writeTorn p)
  removeFile p := attemptWhole (Machine.removeFile p)
  removeTree p := attempt (Machine.removeTree p) (removeTorn p)
  renameFile source target := attemptWhole (Machine.renameFile source target)
  openJournal p := attemptWhole (Machine.openJournal p)
  write stream text := always (Machine.write stream text)
  currentDirectory := attemptWhole Machine.currentDirectory
  clock := always Machine.clock

def disk (s : FaultyWorld) : Disk := OnDisk.disk s.world

theorem looks_attemptWhole {α : Type} {look : FileSystem → Except FileFault α}
    {op : StateM World (Except FileFault α)} (law : Looks OnDisk.disk look op) :
    Looks disk look (attemptWhole op) := by
  rintro s s' r h
  unfold attemptWhole attempt at h
  split at h
  · cases h
    exact ⟨rfl, nofun⟩
  · cases h
    exact law s.world _ _ rfl

theorem changes_attempt {change : FileSystem → Except FileFault FileSystem}
    {torn : FileSystem → FileSystem → Prop} {tear : Mishap → FileSystem → Option FileSystem}
    {op : StateM World (Except FileFault Unit)} (law : Changes OnDisk.disk change torn op)
    (torn_of_tear : ∀ m fs fs', tear m fs = some fs' → torn fs fs') :
    Changes disk change torn (attempt op tear) := by
  rintro s s' r h
  unfold attempt at h
  split at h
  · rename_i m rest _
    cases h
    refine ⟨nofun, fun _ _ => ?_⟩
    cases left : tear m s.world.files with
    | none => exact .inl rfl
    | some files =>
      exact .inr ⟨files, torn_of_tear m _ files left, World.settle_eq s.world files⟩
  · cases h
    exact law s.world _ _ rfl

theorem changes_attemptWhole {change : FileSystem → Except FileFault FileSystem}
    {op : StateM World (Except FileFault Unit)} (law : Changes OnDisk.disk change Never op) :
    Changes disk change Never (attemptWhole op) :=
  changes_attempt law nofun

theorem writtenInPart_of_writeTorn {p : Path} {m : Mishap} {fs fs' : FileSystem}
    (h : writeTorn p m fs = some fs') : WrittenInPart p fs fs' := by
  unfold writeTorn at h
  split at h
  · cases h
    exact ⟨_, _, ‹_›, rfl⟩
  · cases h

theorem thinned_foldl_prune {top : Location} (nonroot : top ≠ []) (gone : List Location)
    (fs : FileSystem) :
    Thinned (top <+: ·) fs (gone.foldl (fun fs l => fs.prune (top ++ l)) fs) := by
  induction gone generalizing fs with
  | nil => exact Thinned.refl _ fs
  | cons l rest ih =>
    have first : Thinned (top ++ l <+: ·) fs (fs.prune (top ++ l)) :=
      thinned_prune (by simp [nonroot])
    exact (first.mono fun _ within => (List.prefix_append _ _).trans within).trans (ih _)

theorem removedInPart_of_removeTorn {p : Path} {m : Mishap} {fs fs' : FileSystem}
    (h : removeTorn p m fs = some fs') : RemovedInPart p fs fs' := by
  unfold removeTorn at h
  split at h
  · rename_i dir name slot
    cases h
    exact ⟨dir, name, slot, thinned_foldl_prune (by simp) _ _⟩
  · cases h

instance : OnDisk FaultyWorld where
  disk
  status p := looks_attemptWhole (OnDisk.status p)
  readText p := looks_attemptWhole (OnDisk.readText p)
  list p s s' r h := by
    have h : attemptWhole (Machine.list p) s = (r, s') := h
    unfold attemptWhole attempt at h
    split at h
    · cases h
      exact ⟨rfl, nofun⟩
    · cases h
      exact OnDisk.list p s.world _ _ rfl
  makeDirectory p := changes_attemptWhole (OnDisk.makeDirectory p)
  writeText p text :=
    changes_attempt (OnDisk.writeText p text) fun _ _ _ => writtenInPart_of_writeTorn
  removeFile p := changes_attemptWhole (OnDisk.removeFile p)
  removeTree p :=
    changes_attempt (OnDisk.removeTree p) fun _ _ _ => removedInPart_of_removeTorn
  renameFile source target := changes_attemptWhole (OnDisk.renameFile source target)
  write stream text s s' h := by
    cases h
    exact OnDisk.write stream text s.world _ rfl
  clock s s' r h := by
    cases h
    rfl

end FaultyWorld

end ShieldPolicy
