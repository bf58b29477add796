import ShieldPolicy.Output
import ShieldPolicy.Proofs.Machine.Disk

/-!
Two runs side by side. Where states are related and no operation tells them apart, `Indifferent`,
the output is written alike from both, whatever the loggers of the two runs write:
`Indifferent.write`.
-/

namespace ShieldPolicy

variable {σ α β γ δ : Type} {R : σ → σ → Prop}

/-- From related states the two runs come to related answers and to related states. -/
def Alongside (R : σ → σ → Prop) (Q : α → β → Prop) (x : StateM σ α) (y : StateM σ β) : Prop :=
  ∀ s t, R s t → Q (x s).1 (y t).1 ∧ R (x s).2 (y t).2

/-- Two outcomes: both results or both failures, which are related. -/
inductive Outcomes {ε ε' : Type} (E : ε → ε' → Prop) (S : α → β → Prop) :
    Except ε α → Except ε' β → Prop where
  | ok {a : α} {b : β} (results : S a b) : Outcomes E S (.ok a) (.ok b)
  | error {e : ε} {e' : ε'} (failures : E e e') : Outcomes E S (.error e) (.error e')

theorem Outcomes.eq {ε : Type} {r r' : Except ε α} (outcomes : Outcomes Eq Eq r r') : r = r' := by
  cases outcomes with
  | ok same => rw [same]
  | error same => rw [same]

theorem Outcomes.imp {ε ε' : Type} {E E' : ε → ε' → Prop} {S S' : α → β → Prop}
    {r : Except ε α} {r' : Except ε' β} (outcomes : Outcomes E S r r')
    (failures : ∀ e e', E e e' → E' e e') (results : ∀ a b, S a b → S' a b) :
    Outcomes E' S' r r' := by
  cases outcomes with
  | ok related => exact .ok (results _ _ related)
  | error related => exact .error (failures _ _ related)

theorem Outcomes.of_rel {ε ε' : Type} {S : α → β → Prop} {r : Except ε α} {r' : Except ε' β}
    (related : Option.Rel S r.toOption r'.toOption) :
    Outcomes (fun _ _ => r.toOption = none) S r r' := by
  cases r with
  | error e =>
    cases r' with
    | error e' => exact .error rfl
    | ok b => cases related
  | ok a =>
    cases r' with
    | error e' => cases related
    | ok b =>
      cases related with
      | some results => exact .ok results

theorem Outcomes.mapError {ε ε' ι ι' : Type} {E : ε → ε' → Prop} {E' : ι → ι' → Prop}
    {S : α → β → Prop} {r : Except ε α} {r' : Except ε' β} {f : ε → ι} {g : ε' → ι'}
    (outcomes : Outcomes E S r r') (failures : ∀ e e', E e e' → E' (f e) (g e')) :
    Outcomes E' S (r.mapError f) (r'.mapError g) := by
  cases outcomes with
  | ok related => exact .ok related
  | error related => exact .error (failures _ _ related)

namespace Alongside

theorem imp {Q P : α → β → Prop} {x : StateM σ α} {y : StateM σ β} (runs : Alongside R Q x y)
    (weaker : ∀ a b, Q a b → P a b) : Alongside R P x y := by
  intro s t start
  obtain ⟨answers, states⟩ := runs s t start
  exact ⟨weaker _ _ answers, states⟩

theorem pure {Q : α → β → Prop} {a : α} {b : β} (related : Q a b) :
    Alongside R Q (Pure.pure a) (Pure.pure b) := fun _ _ start => ⟨related, start⟩

theorem bind {Q : α → β → Prop} {P : γ → δ → Prop} {x : StateM σ α} {y : StateM σ β}
    {f : α → StateM σ γ} {g : β → StateM σ δ} (first : Alongside R Q x y)
    (rest : ∀ a b, Q a b → Alongside R P (f a) (g b)) : Alongside R P (x >>= f) (y >>= g) := by
  intro s t start
  obtain ⟨answers, states⟩ := first s t start
  exact rest _ _ answers _ _ states

theorem onward {P : γ → δ → Prop} {x y : StateM σ α} {f : α → StateM σ γ} {g : α → StateM σ δ}
    {s t : σ} (step : (x s).1 = (y t).1 ∧ R (x s).2 (y t).2)
    (rest : ∀ a, Alongside R P (f a) (g a)) :
    P ((x >>= f) s).1 ((y >>= g) t).1 ∧ R ((x >>= f) s).2 ((y >>= g) t).2 := by
  change P (f (x s).1 (x s).2).1 (g (y t).1 (y t).2).1 ∧ R _ (g (y t).1 (y t).2).2
  rw [← step.1]
  exact rest _ _ _ step.2

theorem same {P : γ → δ → Prop} {x y : StateM σ α} {f : α → StateM σ γ} {g : α → StateM σ δ}
    (first : Alongside R Eq x y) (rest : ∀ a, Alongside R P (f a) (g a)) :
    Alongside R P (x >>= f) (y >>= g) :=
  first.bind fun a _ same => same ▸ rest a

end Alongside

/-- From states related in one way the two runs come to related answers, and to states related in
another way. -/
def Leads (R R' : σ → σ → Prop) (Q : α → β → Prop) (x : StateM σ α) (y : StateM σ β) : Prop :=
  ∀ s t, R s t → Q (x s).1 (y t).1 ∧ R' (x s).2 (y t).2

namespace Leads

variable {R' : σ → σ → Prop} {Q : α → β → Prop} {P : γ → δ → Prop}

theorem pure {a : α} {b : β} (within : ∀ {s t}, R s t → R' s t) (related : Q a b) :
    Leads R R' Q (Pure.pure a) (Pure.pure b) := fun _ _ start => ⟨related, within start⟩

theorem of_alongside {x : StateM σ α} {y : StateM σ β} (within : ∀ {s t}, R s t → R' s t)
    (runs : Alongside R' Q x y) : Leads R R' Q x y := fun s t start => runs s t (within start)

theorem bind {x : StateM σ α} {y : StateM σ β} {f : α → StateM σ γ} {g : β → StateM σ δ}
    (first : Alongside R Q x y) (rest : ∀ a b, Q a b → Leads R R' P (f a) (g b)) :
    Leads R R' P (x >>= f) (y >>= g) := by
  intro s t start
  obtain ⟨answers, states⟩ := first s t start
  exact rest _ _ answers _ _ states

theorem same {x y : StateM σ α} {f : α → StateM σ γ} {g : α → StateM σ δ}
    (first : Alongside R Eq x y) (rest : ∀ a, Leads R R' P (f a) (g a)) :
    Leads R R' P (x >>= f) (y >>= g) :=
  bind first fun a _ same => same ▸ rest a

end Leads

/-- A relation between states that no look at a path tells apart, and that either run may go on
logging in. -/
structure Overlooked [Machine (StateM σ)] (R : σ → σ → Prop) (logger logger' : Logger) : Prop where
  status (p : Path) : Alongside R Eq (Machine.status p) (Machine.status p)
  left (e : Log.Event) {s t : σ} : R s t → R ((logger.log e : StateM σ Unit) s).2 t
  right (e : Log.Event) {s t : σ} : R s t → R s ((logger'.log e : StateM σ Unit) t).2

/-- A relation between states that no operation tells apart. Reading a text is none of these
operations. -/
structure Indifferent [Machine (StateM σ)] (R : σ → σ → Prop) (logger logger' : Logger) : Prop
    extends Overlooked R logger logger' where
  list (p : Path) : Alongside R Eq (Machine.list p) (Machine.list p)
  makeDirectory (p : Path) : Alongside R Eq (Machine.makeDirectory p) (Machine.makeDirectory p)
  removeFile (p : Path) : Alongside R Eq (Machine.removeFile p) (Machine.removeFile p)
  removeTree (p : Path) : Alongside R Eq (Machine.removeTree p) (Machine.removeTree p)
  writeWhole (d : Document) : Alongside R Eq (Output.writeWhole d) (Output.writeWhole d)

namespace Overlooked

variable [Machine (StateM σ)] {logger logger' : Logger} (alike : Overlooked R logger logger')
include alike

/-! ### The log -/

theorem log (e e' : Log.Event) :
    Alongside R Eq (logger.log e : StateM σ Unit) (logger'.log e') :=
  fun _ _ start => ⟨rfl, alike.right e' (alike.left e start)⟩

theorem logAll_left (events : List Log.Event) {s t : σ} (start : R s t) :
    R ((logger.logAll events : StateM σ Unit) s).2 t := by
  induction events generalizing s with
  | nil => exact start
  | cons e rest ih => exact ih (alike.left e start)

theorem logAll_right (events : List Log.Event) {s t : σ} (start : R s t) :
    R s ((logger'.logAll events : StateM σ Unit) t).2 := by
  induction events generalizing t with
  | nil => exact start
  | cons e rest ih => exact ih (alike.right e start)

theorem logAll (events events' : List Log.Event) :
    Alongside R Eq (logger.logAll events : StateM σ Unit) (logger'.logAll events') :=
  fun _ _ start => ⟨rfl, alike.logAll_right events' (alike.logAll_left events start)⟩

/-! ### Files -/

theorem isDirectory (p : Path) :
    Alongside R Eq (Machine.isDirectory p : StateM σ Bool) (Machine.isDirectory p) := by
  refine (alike.status p).same fun kind => ?_
  split <;> exact .pure rfl

theorem isFile (p : Path) : Alongside R Eq (Machine.isFile p : StateM σ Bool) (Machine.isFile p) := by
  refine (alike.status p).same fun kind => ?_
  split <;> exact .pure rfl

end Overlooked

namespace Indifferent

variable [Machine (StateM σ)] {logger logger' : Logger} (alike : Indifferent R logger logger')
include alike

theorem accept (p : Path) (made : Except FileFault Unit) :
    Alongside R Eq (Machine.makeFirst.accept p made : StateM σ _) (Machine.makeFirst.accept p made) := by
  cases made with
  | ok => exact .pure rfl
  | error fault =>
    refine (alike.isDirectory p).same fun found => ?_
    split <;> exact .pure rfl

theorem makeFirst (ways : List Path) :
    Alongside R Eq (Machine.makeFirst ways : StateM σ _) (Machine.makeFirst ways) := by
  induction ways with
  | nil => exact .pure rfl
  | cons p above ih =>
    unfold Machine.makeFirst
    split
    · exact .pure rfl
    refine (alike.makeDirectory p).same fun made => ?_
    split
    · exact .pure rfl
    · refine ih.same fun parent => ?_
      split
      · exact .pure rfl
      · exact (alike.makeDirectory p).same fun made => alike.accept p made
    · exact alike.accept p _

theorem removeAll (dir : Path) (entries : List (String × Bool)) :
    Alongside R Eq (Machine.removeAll dir entries : StateM σ _) (Machine.removeAll dir entries) := by
  induction entries with
  | nil => exact .pure rfl
  | cons entry rest ih =>
    obtain ⟨name, isDir⟩ := entry
    refine Alongside.same ?_ fun removed => ?_
    · split
      · exact alike.removeTree _
      · exact alike.removeFile _
    · split
      · exact .pure rfl
      · refine ih.same fun others => ?_
        split <;> exact .pure rfl

theorem clearDirectory (dir : Path) :
    Alongside R Eq (Machine.clearDirectory dir : StateM σ _) (Machine.clearDirectory dir) := by
  refine (alike.list dir).same fun listed => ?_
  split
  · exact .pure rfl
  · exact alike.removeAll dir _

/-! ### The output -/

theorem write (dir : Path) (document : Option Document) :
    Alongside R Eq (Output.write logger dir document : StateM σ _)
      (Output.write logger' dir document) := by
  refine (alike.makeFirst _).same fun made => ?_
  split
  · exact .pure rfl
  refine (alike.clearDirectory dir).same fun cleared => ?_
  split
  · exact .pure rfl
  refine (alike.log _ _).same fun _ => ?_
  split
  · exact .pure rfl
  refine (alike.writeWhole _).same fun written => ?_
  split
  · exact .pure rfl
  refine (alike.clearDirectory dir).same fun again => ?_
  split
  · exact .pure rfl
  · exact (alike.log _ _).same fun _ => .pure rfl

end Indifferent

end ShieldPolicy
