import ShieldPolicy.Machine.World
import ShieldPolicy.Proofs.Host.Fits
import ShieldPolicy.Proofs.Host.Keeps
import ShieldPolicy.Proofs.Host.Lines

/-!
A session with the host from its first line to its last. Every line that is not blank is answered by
one line, in the same order, and nothing else is written to the host: `Session.serve_answers`.
-/

namespace ShieldPolicy

namespace World

variable {stream other : Stream} {w : World}

def written (w : World) : Stream → String
  | .output => w.output
  | .error => w.error
  | .journal => ""

theorem written_print (text : String) (open_ : stream ≠ .journal) :
    (w.print text stream).written stream = w.written stream ++ text := by
  cases stream with
  | output | error => rfl
  | journal => exact absurd rfl open_

theorem written_print_other (text : String) (apart : other ≠ stream) :
    (w.print text other).written stream = w.written stream := by
  cases other with
  | output | error =>
    cases stream with
    | output | error | journal => first | rfl | exact absurd rfl apart
  | journal =>
    unfold print
    dsimp only
    split <;> rfl

theorem written_change (f : FileSystem → Except FileFault FileSystem) (w : World) :
    (change f w).2.written stream = w.written stream := by
  unfold change
  split <;> rfl

theorem log_cases (logger : Logger) (e : Log.Event) (w : World) :
    (logger.log e : StateM World Unit) w = ((), w) ∨
      ∃ text, (logger.log e : StateM World Unit) w = ((), w.print text logger.stream) := by
  unfold Logger.log
  split
  · exact .inr ⟨_, rfl⟩
  · exact .inl rfl

theorem keptBy_written {logger : Logger} (apart : logger.stream ≠ stream) :
    KeptBy (fun w w' : World => w'.written stream = w.written stream) logger where
  refl _ := rfl
  trans first second := second.trans first
  status _ _ := rfl
  readText _ _ := rfl
  list _ _ := rfl
  makeDirectory _ := written_change _
  writeText _ _ := written_change _
  removeFile _ := written_change _
  removeTree _ := written_change _
  renameFile _ _ := written_change _
  log e w := by
    obtain logged | ⟨text, logged⟩ := log_cases logger e w
    · rw [logged]
    · rw [logged]
      exact written_print_other text apart

end World

namespace Session

variable {session : Session} {stream : Stream} {w w' : World} {asked : List String}

/-- A line and its answer, and the worlds before and after it. -/
structure Exchange where
  line : String
  before : World
  response : Response
  after : World

def transcript (exchanges : List Exchange) : String :=
  String.join (exchanges.map fun x => x.response.write ++ "\n")

/-- Lines are answered in order from one world to another. Blank lines are passed over; each other
line is answered from the world that the one before has left. -/
inductive Serves (session : Session) (stream : Stream) :
    List String → World → List Exchange → World → Prop where
  | done (w : World) : Serves session stream [] w [] w
  | blank {line : String} {lines : List String} {w w' : World} {exchanges : List Exchange}
      (blank : Text.IsBlank line) (rest : Serves session stream lines w exchanges w') :
      Serves session stream (line :: lines) w exchanges w'
  | answered {lines : List String} {w' : World} {exchanges : List Exchange} (x : Exchange)
      (filled : ¬ Text.IsBlank x.line)
      (answer : (session.answer x.line : StateM World Response) x.before = (x.response, x.after))
      (rest : Serves session stream lines (x.after.print (x.response.write ++ "\n") stream)
        exchanges w') :
      Serves session stream (x.line :: lines) x.before (x :: exchanges) w'

/-! ### From the program to exchanges -/

theorem serves_of_answerAll {read : List (Except FileFault String)} {r : Except FileFault Unit}
    (run : (session.answerAll stream read : StateM World _) w = (r, w')) :
    ∃ asked exchanges, Input.Heard read asked r ∧ session.Serves stream asked w exchanges w' := by
  induction read generalizing w with
  | nil =>
    obtain ⟨rfl, rfl⟩ := pure_run run
    exact ⟨[], [], .whole rfl, .done _⟩
  | cons first rest ih =>
    cases first with
    | error fault =>
      obtain ⟨rfl, rfl⟩ := pure_run run
      exact ⟨[], [], .broken rfl, .done _⟩
    | ok line =>
      obtain ⟨⟨⟩, mid, first, run⟩ := bind_run run
      obtain ⟨asked, exchanges, heard, serves⟩ := ih run
      unfold answerOn at first
      by_cases blank : Text.IsBlank line
      · rw [if_pos ((Text.trimChars_isEmpty_iff line).mpr blank)] at first
        obtain ⟨-, rfl⟩ := pure_run first
        exact ⟨line :: asked, exchanges, heard.cons line, .blank blank serves⟩
      · rw [if_neg (fun empty => blank ((Text.trimChars_isEmpty_iff line).mp empty))] at first
        obtain ⟨response, after, answer, first⟩ := bind_run first
        cases first
        exact ⟨line :: asked, _, heard.cons line, .answered ⟨line, w, response, after⟩ blank answer
          serves⟩

/-- Serving is answering, and then closing the session unless a line could not be read. -/
theorem serveInput_run {input : Input} {r : Except FileFault Unit}
    (run : (session.serveInput stream input : StateM World _) w = (r, w')) :
    ∃ asked exchanges ended, Input.Heard input.lines asked r ∧
      session.Serves stream asked w exchanges ended ∧
      (w' = ended ∨ (session.logger.log .streamClosed : StateM World Unit) ended = ((), w')) := by
  obtain ⟨outcome, ended, answers, run⟩ := bind_run run
  obtain ⟨asked, exchanges, heard, serves⟩ := serves_of_answerAll answers
  cases outcome with
  | error fault =>
    obtain ⟨rfl, rfl⟩ := pure_run run
    exact ⟨asked, exchanges, w', heard, serves, .inl rfl⟩
  | ok =>
    obtain ⟨⟨⟩, closed, closes, run⟩ := bind_run run
    obtain ⟨rfl, rfl⟩ := pure_run run
    exact ⟨asked, exchanges, ended, heard, serves, .inr closes⟩

/-! ### What exchanges are -/

theorem Serves.map_line {exchanges : List Exchange}
    (serves : session.Serves stream asked w exchanges w') :
    exchanges.map Exchange.line = asked.filter fun line => ¬ Text.IsBlank line := by
  induction serves with
  | done => rfl
  | blank blank rest ih => simp [blank, ih]
  | answered x filled answer rest ih => simp [filled, ih]

theorem Serves.answers {exchanges : List Exchange}
    (serves : session.Serves stream asked w exchanges w') {x : Exchange} (member : x ∈ exchanges) :
    session.Answers x.line x.before x.response x.after := by
  induction serves with
  | done => cases member
  | blank blank rest ih => exact ih member
  | answered y filled answer rest ih =>
    rcases List.mem_cons.mp member with rfl | later
    · exact answers_of_answer answer
    · exact ih later

theorem Serves.written {exchanges : List Exchange} (apart : session.logger.stream ≠ stream)
    (console : stream ≠ .journal) (serves : session.Serves stream asked w exchanges w') :
    w'.written stream = w.written stream ++ transcript exchanges := by
  induction serves with
  | done => simp [transcript, String.join]
  | blank blank rest ih => exact ih
  | answered x filled answer rest ih =>
    have quiet := (keeps_answer (World.keptBy_written apart) x.line).of_run answer
    rw [ih, World.written_print _ console, quiet]
    simp [transcript, String.append_assoc]

/-- A session answers every line of a text that is not blank by one line, in order, and writes
nothing else. Every answer is a JSON object on one line that fits the line it answers. -/
theorem serve_answers (session : Session) (stream : Stream) (input : String) (w : World)
    (apart : session.logger.stream ≠ stream) (console : stream ≠ .journal) :
    LinesOf input.toList ((lines input).map String.toList) ∧
      ∃ exchanges ended final, session.Serves stream (lines input) w exchanges ended ∧
        exchanges.map Exchange.line = (lines input).filter (fun line => ¬ Text.IsBlank line) ∧
        (session.serveInput stream input : StateM World _) w = (.ok (), final) ∧
        final.written stream = w.written stream ++ transcript exchanges ∧
        ∀ x ∈ exchanges, x.response.IsFramed ∧ session.Fits x.line x.before x.response := by
  refine ⟨lines_spec input, ?_⟩
  obtain ⟨r, final, run⟩ : ∃ r final,
    (session.serveInput stream input : StateM World _) w = (r, final) := ⟨_, _, rfl⟩
  obtain ⟨asked, exchanges, ended, heard, serves, closing⟩ := serveInput_run run
  obtain ⟨rfl, rfl⟩ := heard.of_text
  refine ⟨exchanges, ended, final, serves, serves.map_line, run, ?_, fun x member => ?_⟩
  · -- The end of the session is only logged.
    rw [← serves.written apart console]
    rcases closing with rfl | closes
    · rfl
    · exact ((World.keptBy_written apart).log .streamClosed).of_run closes
  · exact ⟨(serves.answers member).isFramed, (serves.answers member).fits⟩

theorem serve_answers_second_line :
    ∃ exchanges ended final,
      ({} : Session).Serves .output ["\t", "\x7b\"method\": 1\x7d"] {} exchanges ended ∧
      exchanges.map Exchange.line = ["\x7b\"method\": 1\x7d"] ∧
      (({} : Session).serveInput .output "\t\r\n\x7b\"method\": 1\x7d" : StateM World _) {} =
        (.ok (), final) ∧
      final.output = transcript exchanges ∧
      ∀ x ∈ exchanges, x.response.IsFramed ∧ ({} : Session).Fits x.line x.before x.response := by
  have cut : lines "\t\r\n\x7b\"method\": 1\x7d" = ["\t", "\x7b\"method\": 1\x7d"] := by decide
  obtain ⟨-, exchanges, ended, final, serves, lines, run, written, each⟩ :=
    serve_answers {} .output "\t\r\n\x7b\"method\": 1\x7d" {} (by decide) (by decide)
  rw [cut] at serves lines
  refine ⟨exchanges, ended, final, serves, lines.trans (by decide), run, ?_, each⟩
  exact written.trans (String.empty_append ..)

end Session

end ShieldPolicy
