import ShieldPolicy.Proofs.Generation.Alongside
import ShieldPolicy.Proofs.Generation.Inputs
import ShieldPolicy.Proofs.Host.Keeps
import ShieldPolicy.Proofs.Host.Untouched
import ShieldPolicy.Proofs.Machine.Alike

/-!
Answers from worlds that differ in the text of the log file. A line is answered alike from both,
`Session.answer_alike`, unless the answer looks for a version in the log file.
-/

namespace ShieldPolicy

open Disk OnDisk

section Schema

variable {σ : Type} {R : σ → σ → Prop} [Machine (StateM σ)] {logger logger' : Logger}

theorem Indifferent.schemaDirectory (alike : Indifferent R logger logger') (p : Path) :
    Alongside R Eq (ShieldPolicy.schemaDirectory p : StateM σ Path)
      (ShieldPolicy.schemaDirectory p) := by
  refine (alike.isFile p).same fun isFile => (alike.isDirectory p).same fun isDirectory => ?_
  dsimp only
  split <;> exact .pure rfl

end Schema

open World (indifferent_alike)

variable {u v w w' : World} {logger : Logger}

theorem schemaDirectory_alike (alike : w.Alike u) (p : Path) :
    (schemaDirectory p : StateM World Path) u = ((schemaDirectory p : StateM World Path) w |>.1, u) := by
  have same := ((indifferent_alike .silent .silent).schemaDirectory p w u alike).1
  rw [World.schemaDirectory_congr (rfl : u.files.find? p = u.files.find? p), same]

namespace World

theorem closed_change (f : FileSystem → Except FileFault FileSystem) (closed : w.journal = none) :
    (change f w).2.journal = none := by
  unfold change
  split
  · change Option.filter _ w.journal = none
    rw [closed]
    rfl
  · exact closed

theorem keptBy_closed (logger : Logger) :
    KeptBy (fun w w' : World => w.journal = none → w'.journal = none) logger where
  refl _ := id
  trans first second := second ∘ first
  status _ _ := id
  readText _ _ := id
  list _ _ := id
  makeDirectory _ _ := closed_change _
  writeText _ _ _ := closed_change _
  removeFile _ _ := closed_change _
  removeTree _ _ := closed_change _
  renameFile _ _ _ := closed_change _
  log _ w closed := (log_logged rfl : Logged (disk w) _).alike.journal.trans closed

end World

theorem Generation.run_alike (config : GenerationConfig) (provider : Option Provider) (j : Json)
    (start : u.Alike v) :
    ((Generation.run logger config ⟨provider, .json j⟩ : StateM World _) u).1 =
        ((Generation.run logger config ⟨provider, .json j⟩ : StateM World _) v).1 ∧
      World.Alike ((Generation.run logger config ⟨provider, .json j⟩ : StateM World _) u).2
        ((Generation.run logger config ⟨provider, .json j⟩ : StateM World _) v).2 := by
  have taken : Alongside World.Alike (Outcomes Eq Eq) (ingest (.json j)) (ingest (.json j)) := by
    refine .pure ?_
    cases (ModelDescription.ofJson j).mapError IngestionError.malformed with
    | error e => exact .error rfl
    | ok d => exact .ok rfl
  obtain ⟨outcomes, alike⟩ := (indifferent_alike logger logger).run config provider taken
    (fun d d' same => ModelDescription.sameUses_of_perm (same ▸ .refl _)) u v start
  refine ⟨(outcomes.imp ?_ ?_).eq, alike⟩
  · rintro e _ (_ | rfl) <;> rfl
  · rintro r r' ⟨d, _, rfl, reports⟩
    exact reports.eq_of_perm (.refl _)

/-! ### Requests -/

namespace GeneratorOptions

variable {o : GeneratorOptions} {env : Environment} {settings : GeneratorSettings} {root : Path}

/-- Whether a request looks for the version of its companion in the log file. -/
def ReadsLog (o : GeneratorOptions) (env : Environment) (settings : GeneratorSettings) (w : World) :
    Prop :=
  ∃ manifest ∈ consulted w.files (o.manifests env settings (o.schemaRoot w)),
    ∃ l e, w.files.find manifest = .ok (l, e) ∧ w.journal = some l

theorem provider_alike (logger : Logger) (apart : ¬ o.ReadsLog env settings w) (alike : w.Alike u) :
    ∃ u', (o.provider logger env settings (o.schemaRoot w) : StateM World _) u =
        (providerIn w.files o env settings (o.schemaRoot w), u') ∧ w.Alike u' := by
  have spares : Spares (fun _ => False) (disk w) (disk u) := Disk.Alike.spares alike
  obtain ⟨u', found, -⟩ := provider_run (w := u) (d := disk w) logger spares.journal
    fun manifest member => .of_spares spares fun l e led logged =>
      apart ⟨manifest, member, l, e, led, logged⟩
  exact ⟨u', found, alike.trans (provider_logged found).alike⟩

theorem run_alike (logger : Logger) (apart : ¬ o.ReadsLog env settings w) (left : w.Alike u)
    (right : w.Alike v) :
    ((o.run logger env settings : StateM World _) u).1 =
        ((o.run logger env settings : StateM World _) v).1 ∧
      World.Alike ((o.run logger env settings : StateM World _) u).2
        ((o.run logger env settings : StateM World _) v).2 := by
  obtain ⟨u', found, alike⟩ := provider_alike logger apart left
  obtain ⟨v', found', alike'⟩ := provider_alike logger apart right
  have runs {u u' : World} (alike : w.Alike u)
      (found : (o.provider logger env settings (o.schemaRoot w) : StateM World _) u =
        (providerIn w.files o env settings (o.schemaRoot w), u')) :
      (o.run logger env settings : StateM World _) u =
        (Generation.run logger (o.configuration env settings (o.schemaRoot w))
          ⟨providerIn w.files o env settings (o.schemaRoot w), .json o.dmmf⟩ : StateM World _) u' := by
    unfold GeneratorOptions.run
    rw [run_bind (schemaDirectory_alike alike o.schemaPath)]
    exact run_bind found
  rw [runs left found, runs right found']
  exact Generation.run_alike _ _ _ (alike.symm.trans alike')

end GeneratorOptions

/-! ### Lines -/

namespace Session

def ReadsLog (session : Session) (line : String) (w : World) : Prop :=
  ∃ request options, Request.decoder.parse line = .ok request ∧ request.method = "generate" ∧
    GeneratorOptions.decoder.decode request.params = .ok options ∧
    options.ReadsLog session.environment session.settings w

theorem generate_alike {session : Session} {id params : Json}
    (apart : ∀ options, GeneratorOptions.decoder.decode params = .ok options →
      ¬ options.ReadsLog session.environment session.settings w)
    (left : w.Alike u) (right : w.Alike v) :
    ((session.generate id params : StateM World _) u).1 =
        ((session.generate id params : StateM World _) v).1 ∧
      World.Alike ((session.generate id params : StateM World _) u).2
        ((session.generate id params : StateM World _) v).2 := by
  have indifferent := indifferent_alike session.logger session.logger
  unfold generate
  cases decoded : GeneratorOptions.decoder.decode params with
  | error e => exact ⟨rfl, left.symm.trans right⟩
  | ok options =>
    refine Alongside.onward (options.run_alike session.logger (apart options decoded) left right)
      fun outcome => ?_
    cases outcome with
    | ok report => exact (indifferent.log _ _).same fun _ => .pure rfl
    | error e => exact (indifferent.log _ _).same fun _ => .pure rfl

/-- A line is answered alike from worlds that are alike, unless the answer reads the log file. -/
theorem answer_alike {session : Session} {line : String} (apart : ¬ session.ReadsLog line w)
    (alike : w.Alike v) :
    ((session.answer line : StateM World _) w).1 = ((session.answer line : StateM World _) v).1 ∧
      World.Alike ((session.answer line : StateM World _) w).2
        ((session.answer line : StateM World _) v).2 := by
  have indifferent := indifferent_alike session.logger session.logger
  unfold answer
  cases read : Request.decoder.parse line with
  | error e => exact ((indifferent.log _ _).same fun _ => .pure rfl) w v alike
  | ok request =>
    dsimp only
    unfold answerRequest
    by_cases manifest : request.method = "getManifest"
    · simp only [if_pos manifest]
      exact ((indifferent.log _ _).same fun _ => .pure rfl) w v alike
    by_cases generates : request.method = "generate"
    · simp only [if_neg manifest, if_pos generates]
      exact generate_alike (fun options decoded reads => apart
          ⟨request, options, read, generates, decoded, reads⟩)
        (log_logged rfl).alike (alike.trans (log_logged rfl).alike)
    · simp only [if_neg manifest, if_neg generates]
      exact ((indifferent.log _ _).same fun _ => .pure rfl) w v alike

end Session

end ShieldPolicy
