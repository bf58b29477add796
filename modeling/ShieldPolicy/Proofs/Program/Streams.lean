import ShieldPolicy.Program
import ShieldPolicy.Proofs.Host.Serve
import ShieldPolicy.Proofs.Program.Loading

/-!
The standard streams while the host is served. Standard output is left alone, and standard error
carries the responses; before them stands a line for each part of the log level that is no
directive: `Program.host_streams`.
-/

namespace ShieldPolicy

def Logger.Quiet (logger : Logger) : Prop := logger.stream = .journal ∨ logger = .silent

/-! ### Worlds with the same text on the streams -/

namespace World

variable {w w' : World} {logger : Logger}

def SameConsole (w w' : World) : Prop := w'.output = w.output ∧ w'.error = w.error

theorem sameConsole_change (f : FileSystem → Except FileFault FileSystem) (w : World) :
    SameConsole w (change f w).2 := by
  unfold change
  split <;> exact ⟨rfl, rfl⟩

theorem sameConsole_log (quiet : logger.Quiet) (e : Log.Event) :
    Keeps SameConsole (logger.log e : StateM World Unit) := by
  intro w
  rcases quiet with journal | rfl
  · obtain logged | ⟨text, logged⟩ := log_cases logger e w
    · rw [logged]
      exact ⟨rfl, rfl⟩
    · rw [logged, journal]
      unfold print
      dsimp only
      split <;> exact ⟨rfl, rfl⟩
  · exact ⟨rfl, rfl⟩

theorem keptBy_sameConsole (quiet : logger.Quiet) : KeptBy SameConsole logger where
  refl _ := ⟨rfl, rfl⟩
  trans first second := ⟨second.1.trans first.1, second.2.trans first.2⟩
  status _ _ := ⟨rfl, rfl⟩
  readText _ _ := ⟨rfl, rfl⟩
  list _ _ := ⟨rfl, rfl⟩
  makeDirectory _ := sameConsole_change _
  writeText _ _ := sameConsole_change _
  removeFile _ := sameConsole_change _
  removeTree _ := sameConsole_change _
  renameFile _ _ := sameConsole_change _
  log := sameConsole_log quiet

theorem opens_sameConsole (quiet : logger.Quiet) : Opens SameConsole logger where
  toKeptBy := keptBy_sameConsole quiet
  canonical _ _ := ⟨rfl, rfl⟩
  currentDirectory _ := ⟨rfl, rfl⟩
  openJournal p w := by
    simp only [Machine.openJournal]
    split <;> exact ⟨rfl, rfl⟩

end World

open World

/-! ### Setting up logging -/

namespace LoggingSettings

variable {s : LoggingSettings} {env : Environment}

def complaints (s : LoggingSettings) (env : Environment) : String :=
  if s.enabled then String.join ((s.filter env).1.map (· ++ "\n")) else ""

theorem complain_eq (lines : List String) (w : World) :
    (complain lines : StateM World Unit) w =
      ((), { w with error := w.error ++ String.join (lines.map (· ++ "\n")) }) := by
  induction lines generalizing w with
  | nil =>
    simp only [List.map_nil, String.join_nil, String.append_empty]
    rfl
  | cons line rest ih =>
    have first : (Machine.write .error (line ++ "\n") : StateM World Unit) w =
        ((), w.print (line ++ "\n") .error) := rfl
    rw [complain, run_bind first, ih]
    simp [World.print, String.append_assoc]

theorem join_lines_eq_empty_iff {lines : List String} :
    String.join (lines.map (· ++ "\n")) = "" ↔ lines = [] := by
  cases lines with
  | nil => simp [String.join]
  | cons line rest => simp [String.append_eq_empty_iff]

theorem complaints_parseLenient {level : String} : (Log.Filter.parseLenient level).2 = [] ↔
    ∀ part ∈ Log.Filter.parts level, ∃ d, Log.Directive.parse part = .ok d := by
  unfold Log.Filter.parseLenient
  simp only [List.filterMap_eq_nil_iff, List.forall_mem_map]
  refine forall₂_congr fun part _ => ?_
  cases Log.Directive.parse part <;> simp

/-- Complaints come from parts of the level, while logging is on and no variable holds a filter. -/
theorem complaints_eq_empty_iff (s : LoggingSettings) (env : Environment) :
    s.complaints env = "" ↔ s.enabled = false ∨
      (∃ text f, env.get? "SHIELDGEN_LOG" = some text ∧ Log.Filter.parse text = .ok f) ∨
        ∀ part ∈ Log.Filter.parts s.level, ∃ d, Log.Directive.parse part = .ok d := by
  unfold complaints
  cases s.enabled with
  | false => simp
  | true =>
    rw [if_pos rfl, join_lines_eq_empty_iff, LoggingSettings.filter]
    cases given : (env.get? "SHIELDGEN_LOG").bind fun text => (Log.Filter.parse text).toOption with
    | some f =>
      obtain ⟨text, named, parsed⟩ := Option.bind_eq_some_iff.mp given
      have parsed : Log.Filter.parse text = .ok f := by
        cases held : Log.Filter.parse text with
        | error e =>
          rw [held] at parsed
          cases parsed
        | ok f' =>
          rw [held] at parsed
          rw [Option.some.inj parsed]
      simp [named, parsed]
    | none =>
      have unset : ¬ ∃ text f, env.get? "SHIELDGEN_LOG" = some text ∧
          Log.Filter.parse text = .ok f := by
        rintro ⟨text, f, named, parsed⟩
        rw [named, Option.bind_some, parsed] at given
        cases given
      constructor
      · intro silent
        exact .inr (.inr (complaints_parseLenient.mp silent))
      · rintro (off | set | all)
        · cases off
        · exact absurd set unset
        · exact complaints_parseLenient.mpr all

theorem stream_of_toFile (toFile : s.output = "file") : s.stream env = .ok .journal := if_pos toFile

theorem openLogger_run {filter : Log.Filter} {json : Bool} {outcome : Except SettingsError Logger}
    {w w' : World}
    (run : (s.openLogger env filter json .journal : StateM World _) w = (outcome, w')) :
    (outcome.toOption.getD .silent).Quiet ∧ SameConsole w w' := by
  refine ⟨?_, ((opens_sameConsole (.inr rfl)).openLogger s env filter json .journal).of_run run⟩
  unfold openLogger at run
  rw [if_neg (by decide)] at run
  obtain ⟨opened, mid, -, run⟩ := bind_run run
  cases opened with
  | error e =>
    obtain ⟨rfl, -⟩ := pure_run run
    exact .inr rfl
  | ok =>
    obtain ⟨rfl, -⟩ := pure_run run
    exact .inl rfl

theorem logger_run (toFile : s.output = "file") {outcome : Except SettingsError Logger} {w w' : World}
    (run : (s.logger env : StateM World _) w = (outcome, w')) :
    (outcome.toOption.getD .silent).Quiet ∧ w'.output = w.output ∧
      w'.error = w.error ++ s.complaints env := by
  unfold logger at run
  unfold complaints
  cases enabled : s.enabled with
  | false =>
    rw [enabled] at run
    obtain ⟨rfl, rfl⟩ := pure_run run
    exact ⟨.inr rfl, rfl, (String.append_empty).symm⟩
  | true =>
    rw [enabled] at run
    simp only [Bool.not_true, Bool.false_eq_true, if_false] at run
    rw [run_bind (complain_eq _ w), stream_of_toFile toFile] at run
    rw [if_pos rfl]
    generalize (s.filter env).2 = filter at run
    cases filter with
    | error e =>
      obtain ⟨rfl, rfl⟩ := pure_run run
      exact ⟨.inr rfl, rfl, rfl⟩
    | ok filter =>
      generalize s.isJson env = json at run
      cases json with
      | error e =>
        obtain ⟨rfl, rfl⟩ := pure_run run
        exact ⟨.inr rfl, rfl, rfl⟩
      | ok json =>
        obtain ⟨quiet, output, error⟩ := openLogger_run run
        exact ⟨quiet, output, error⟩

end LoggingSettings

/-! ### Sessions -/

theorem Session.Serves.console {session : Session} {asked : List String} {w ended : World}
    {exchanges : List Session.Exchange} (quiet : session.logger.Quiet)
    (serves : session.Serves .error asked w exchanges ended) :
    ended.output = w.output ∧ ended.error = w.error ++ Session.transcript exchanges := by
  induction serves with
  | done => exact ⟨rfl, by simp [transcript, String.join]⟩
  | blank blank rest ih => exact ih
  | answered x filled answer rest ih =>
    obtain ⟨output, error⟩ := (keeps_answer (keptBy_sameConsole quiet) x.line).of_run answer
    obtain ⟨output', error'⟩ := ih
    refine ⟨output'.trans output, ?_⟩
    rw [error']
    change x.after.error ++ _ ++ _ = _
    rw [error]
    simp [transcript, String.append_assoc]

namespace Program

variable {env : Environment} {i : Invocation} {w : World}

/-- What a run has at hand before it reads any input: the settings of its logging, its logger, and
its workspace or why there is none. The silent logger stands in where logging could not be set up. -/
inductive Prepares (env : Environment) (i : Invocation) (w : World) :
    LoggingSettings → Logger → Except SettingsError Workspace → World → Prop where
  | steps {s : LoggingSettings} {outcome : Except SettingsError Logger}
      {result : Except SettingsError Workspace} {loading opened begun ready : World}
      (settings : (loggingSettings env i : StateM World _) w = (s, loading))
      (logging : (s.logger env : StateM World _) loading = (outcome, opened))
      (starting : ((outcome.toOption.getD .silent).log .starting : StateM World Unit) opened =
        ((), begun))
      (loads : (Workspace.load (outcome.toOption.getD .silent) env i.workspace i.config :
        StateM World _) begun = (result, ready)) :
      Prepares env i w s (outcome.toOption.getD .silent) result ready

theorem loggingSettings_run (hosts : i.servesHost) {s : LoggingSettings} {loading : World}
    (run : (loggingSettings env i : StateM World _) w = (s, loading)) :
    s.output = "file" ∧ SameConsole w loading := by
  obtain ⟨loaded, mid, loads, run⟩ := bind_run run
  have same := ((opens_sameConsole (.inr rfl)).loadSettings env i.workspace i.config).of_run loads
  obtain ⟨settled, rfl⟩ := pure_run run
  rw [if_pos hosts] at settled
  subst settled
  exact ⟨rfl, same⟩

theorem Prepares.console (hosts : i.servesHost) {s : LoggingSettings} {logger : Logger}
    {result : Except SettingsError Workspace} {ready : World}
    (prepares : Prepares env i w s logger result ready) :
    logger.Quiet ∧ ready.output = w.output ∧ ready.error = w.error ++ s.complaints env := by
  cases prepares with
  | steps settings logging starting loads =>
    obtain ⟨toFile, output, error⟩ := loggingSettings_run hosts settings
    obtain ⟨quiet, output', error'⟩ := LoggingSettings.logger_run toFile logging
    obtain ⟨output'', error''⟩ := (sameConsole_log quiet .starting).of_run starting
    obtain ⟨output₃, error₃⟩ := ((opens_sameConsole quiet).load env i.workspace i.config).of_run loads
    refine ⟨quiet, ?_, ?_⟩
    · rw [output₃, output'', output', output]
    · rw [error₃, error'', error', error]

def afterLoading (logger : Logger) (env : Environment) (i : Invocation) :
    Except SettingsError Workspace → StateM World Progress
  | .error e => do
    return .ended (← fail logger i (.settingsFailed (GenerationError.ofLoading e))
      (GenerationError.ofLoading e))
  | .ok ws => execute logger env i ws

theorem start_prepares (env : Environment) (w : World) (hosts : i.servesHost) :
    ∃ s logger result ready, Prepares env i w s logger result ready ∧
      (start env i : StateM World _) w = afterLoading logger env i result ready := by
  obtain ⟨s, loading, settings⟩ : ∃ s loading, (loggingSettings env i : StateM World _) w =
    (s, loading) := ⟨_, _, rfl⟩
  obtain ⟨outcome, opened, logging⟩ : ∃ outcome opened, (s.logger env : StateM World _) loading =
    (outcome, opened) := ⟨_, _, rfl⟩
  obtain ⟨⟨⟩, begun, starting⟩ : ∃ u begun, ((outcome.toOption.getD .silent).log .starting :
    StateM World Unit) opened = (u, begun) := ⟨_, _, rfl⟩
  obtain ⟨result, ready, loads⟩ : ∃ result ready, (Workspace.load (outcome.toOption.getD .silent) env
    i.workspace i.config : StateM World _) begun = (result, ready) := ⟨_, _, rfl⟩
  refine ⟨s, _, result, ready, .steps settings logging starting loads, ?_⟩
  have logged : (runLogged (outcome.toOption.getD .silent) env i : StateM World _) opened =
      afterLoading (outcome.toOption.getD .silent) env i result ready := by
    unfold runLogged
    rw [run_bind starting, run_bind loads]
    cases result <;> rfl
  unfold start
  rw [run_bind settings, run_bind logging]
  cases outcome with
  | error e =>
    rw [← logged]
    simp only [if_pos hosts]
    rfl
  | ok logger => exact logged

theorem execute_host (hosts : i.servesHost) (logger : Logger) (ws : Workspace) :
    (execute logger env i ws : StateM World Progress) = do
      logger.log .servingHost
      return .serving (ws.session logger env) := by
  unfold execute
  cases command : i.command with
  | none => rfl
  | some asked =>
    cases asked with
    | host => rfl
    | manifest | generate =>
      rw [Invocation.servesHost, command] at hosts
      cases hosts

theorem fail_run (hosts : i.servesHost) {logger : Logger} (quiet : logger.Quiet) {event : Log.Event}
    {e : GenerationError} {code : Nat} {w' : World}
    (run : (fail logger i event e : StateM World Nat) w = (code, w')) :
    code = failure ∧ SameConsole w w' := by
  obtain ⟨⟨⟩, last, logged, run⟩ := bind_run run
  simp only [hosts, Bool.not_true, Bool.false_eq_true, if_false] at run
  obtain ⟨rfl, rfl⟩ := pure_run run
  exact ⟨rfl, (sameConsole_log quiet event).of_run logged⟩

theorem succeed_run {logger : Logger} (quiet : logger.Quiet) {code : Nat} {w' : World}
    (run : (succeed logger "" : StateM World Nat) w = (code, w')) :
    code = success ∧ SameConsole w w' := by
  obtain ⟨⟨⟩, last, logged, run⟩ := bind_run run
  obtain ⟨rfl, rfl⟩ := pure_run run
  exact ⟨rfl, (sameConsole_log quiet .completed).of_run logged⟩

def afterServing (session : Session) (i : Invocation) : Except FileFault Unit → StateM World Nat
  | .ok () => succeed session.logger ""
  | .error fault => fail session.logger i (.commandFailed (.protocol fault)) (.protocol fault)

theorem served (hosts : i.servesHost) {session : Session} (quiet : session.logger.Quiet)
    {input : Input} {outcome : Except FileFault Unit} {start served w' : World} {code : Nat}
    (serving : (session.serveInput .error input : StateM World _) start = (outcome, served))
    (run : afterServing session i outcome served = (code, w')) :
    w'.output = start.output ∧ ∃ asked exchanges ended,
      (code = success ∧ Input.Heard input.lines asked (.ok ()) ∨
        code = failure ∧ ∃ fault, Input.Heard input.lines asked (.error fault)) ∧
      session.Serves .error asked start exchanges ended ∧
      w'.error = start.error ++ Session.transcript exchanges := by
  obtain ⟨asked, exchanges, ended, heard, serves, closing⟩ := Session.serveInput_run serving
  obtain ⟨output, error⟩ := serves.console quiet
  have closed : SameConsole ended served := by
    rcases closing with rfl | closes
    · exact ⟨rfl, rfl⟩
    · exact (sameConsole_log quiet .streamClosed).of_run closes
  obtain ⟨codes, last⟩ : (code = success ∧ Input.Heard input.lines asked (.ok ()) ∨
      code = failure ∧ ∃ fault, Input.Heard input.lines asked (.error fault)) ∧
      SameConsole served w' := by
    cases outcome with
    | ok =>
      obtain ⟨done, same⟩ := succeed_run quiet run
      exact ⟨.inl ⟨done, heard⟩, same⟩
    | error fault =>
      obtain ⟨done, same⟩ := fail_run hosts quiet run
      exact ⟨.inr ⟨done, fault, heard⟩, same⟩
  refine ⟨?_, asked, exchanges, ended, codes, serves, ?_⟩
  · rw [last.1, closed.1, output]
  · rw [last.2, closed.2, error]

/-- While the host is served, standard output is left alone, and what is written to standard error
is one line for each response, after a line for each part of the log level that is no directive. The
lines that are answered are those of the whole input, or those before the first that cannot be read,
and then the run fails. There is no response when the settings cannot be loaded, and no such line
when logging is off, a variable holds a filter, or each part of the level is a directive. -/
theorem host_streams {args : List String} {input : Input} {code : Nat} {w' : World}
    (parsed : CommandLine.parse args = .ok i) (hosts : i.servesHost)
    (run : (Program.run env args input : StateM World Nat) w = (code, w')) :
    ∃ s logger result ready, Prepares env i w s logger result ready ∧
      w'.output = w.output ∧
      (∀ e, result = .error e → code = failure ∧ w'.error = w.error ++ s.complaints env) ∧
      (∀ ws, result = .ok ws → ∃ start asked exchanges ended,
        (logger.log .servingHost : StateM World Unit) ready = ((), start) ∧
          (code = success ∧ Input.Heard input.lines asked (.ok ()) ∨
            code = failure ∧ ∃ fault, Input.Heard input.lines asked (.error fault)) ∧
          (ws.session logger env).Serves .error asked start exchanges ended ∧
            w'.error = w.error ++ s.complaints env ++ Session.transcript exchanges) ∧
      (s.complaints env = "" ↔ s.enabled = false ∨
        (∃ text f, env.get? "SHIELDGEN_LOG" = some text ∧ Log.Filter.parse text = .ok f) ∨
          ∀ part ∈ Log.Filter.parts s.level, ∃ d, Log.Directive.parse part = .ok d) := by
  obtain ⟨s, logger, result, ready, prepares, started⟩ := start_prepares env w hosts
  obtain ⟨quiet, output, error⟩ := prepares.console hosts
  have complaints := LoggingSettings.complaints_eq_empty_iff s env
  unfold Program.run runWith at run
  rw [parsed] at run
  dsimp only at run
  obtain ⟨progress, mid, begun, run⟩ := bind_run run
  rw [started] at begun
  cases result with
  | error e =>
    obtain ⟨ended, last, failed, begun⟩ := bind_run begun
    obtain ⟨rfl, rfl⟩ := pure_run begun
    obtain ⟨rfl, rfl⟩ := pure_run run
    obtain ⟨rfl, output', error'⟩ := fail_run hosts quiet failed
    refine ⟨s, logger, _, ready, prepares, output'.trans output, fun _ _ => ⟨rfl, ?_⟩, nofun,
      complaints⟩
    rw [error', error]
  | ok ws =>
    rw [afterLoading, execute_host hosts] at begun
    obtain ⟨⟨⟩, start, serving, begun⟩ := bind_run begun
    obtain ⟨rfl, rfl⟩ := pure_run begun
    obtain ⟨output', error'⟩ := (sameConsole_log quiet .servingHost).of_run serving
    obtain ⟨outcome, last, answering, run⟩ := bind_run run
    have run : afterServing (ws.session logger env) i outcome last = (code, w') := by
      cases outcome <;> exact run
    obtain ⟨output'', asked, exchanges, ended, codes, serves, error''⟩ :=
      served hosts quiet answering run
    refine ⟨s, logger, _, ready, prepares, ?_, nofun, ?_, complaints⟩
    · rw [output'', output', output]
    · rintro ws' same
      cases same
      refine ⟨_, asked, exchanges, ended, serving, codes, serves, ?_⟩
      rw [error'', error', error]

theorem host_streams_malformed : ∃ session start exchanges ended,
    Session.Serves session .error ["\x7b\x7d"] start exchanges ended ∧
      exchanges.map Session.Exchange.line = ["\x7b\x7d"] ∧
      ((Program.run {} ["host"] "\x7b\x7d" : StateM World Nat) {}).2.error =
        Session.transcript exchanges ∧
      ((Program.run {} ["host"] "\x7b\x7d" : StateM World Nat) {}).2.output = "" := by
  have done : ((Program.run {} ["host"] "\x7b\x7d" : StateM World Nat) {}).1 = success := by
    decide +kernel
  have disabled : ((loggingSettings {} { command := some .host } : StateM World _) {}).1.enabled =
      false := by decide +kernel
  have one : Session.lines "\x7b\x7d" = ["\x7b\x7d"] := by decide
  cases run : (Program.run {} ["host"] "\x7b\x7d" : StateM World Nat) {} with
  | mk code w' =>
    rw [run] at done
    obtain ⟨s, logger, result, ready, prepares, output, refused, served, silent⟩ :=
      host_streams (i := { command := some .host }) rfl rfl run
    cases result with
    | error e => exact absurd ((refused e rfl).1.symm.trans done) (by decide)
    | ok ws =>
      obtain ⟨start, asked, exchanges, ended, -, codes, serves, error⟩ := served ws rfl
      have quiet : s.complaints {} = "" := by
        refine silent.mpr (.inl ?_)
        cases prepares with
        | steps settings =>
          rw [settings] at disabled
          exact disabled
      obtain rfl : asked = Session.lines "\x7b\x7d" := by
        rcases codes with ⟨-, heard⟩ | ⟨-, fault, heard⟩ <;> exact heard.of_text.1
      rw [one] at serves
      refine ⟨_, start, exchanges, ended, serves, serves.map_line.trans (by decide), ?_, output⟩
      rw [error, quiet]
      exact (String.empty_append ..).trans (String.empty_append ..)

/-- A byte that begins no character ends the session, and nothing is written. -/
example : ((Program.run {} ["host"] { bytes := [255] } : StateM World Nat) {}).1 = failure ∧
    ((Program.run {} ["host"] { bytes := [255] } : StateM World Nat) {}).2.error = "" := by
  decide +kernel

def homeEnvironment : Environment := { bindings := [("HOME", "/")] }

/-- A part of the log level that is no directive is complained about where there is no request. -/
theorem host_complains :
    (∃ i, CommandLine.parse ["--log-level", "nope=zz"] = .ok i ∧ i.servesHost) ∧
      ((Program.run homeEnvironment ["--log-level", "nope=zz"] "" : StateM World Nat) {}).2.error =
        "ignoring `nope=zz`: " ++ Log.DirectiveError.unknownLevel.message ++ "\n" ∧
      ∀ session start exchanges ended,
        Session.Serves session .error (Session.lines "") start exchanges ended →
          ((Program.run homeEnvironment ["--log-level", "nope=zz"] "" : StateM World Nat) {}).2.error ≠
            Session.transcript exchanges := by
  have error : ((Program.run homeEnvironment ["--log-level", "nope=zz"] "" : StateM World Nat)
      {}).2.error = "ignoring `nope=zz`: " ++ Log.DirectiveError.unknownLevel.message ++ "\n" := by
    decide +kernel
  refine ⟨⟨{ logLevel := some "nope=zz" }, rfl, rfl⟩, error, ?_⟩
  intro session start exchanges ended serves same
  have none : Session.lines "" = [] := by decide
  rw [none] at serves
  cases serves
  rw [error] at same
  revert same
  decide

end Program

end ShieldPolicy
