import ShieldPolicy.Proofs.Host.Alike
import ShieldPolicy.Proofs.Host.Serve

/-!
Lines that leave nothing behind. Requests that only read, and those that fail before the output is
written, can be left out of a session without a change to any other answer or to the files:
`Session.serve_without_idle`.
-/

namespace ShieldPolicy

open Disk OnDisk

namespace World

variable {w : World}

theorem print_alike (w : World) (text : String) (stream : Stream) : w.Alike (w.print text stream) :=
  Logged.alike ((OnDisk.write stream text w _ rfl).imp_right fun ⟨l, opened, written⟩ =>
    ⟨l, _, opened, written⟩)

end World

namespace Session

variable {session : Session} {stream : Stream} {asked : List String} {w v ended : World}
  {exchanges kept : List Exchange}

/-! ### Exchanges that change nothing -/

/-- Whether a manifest was asked for, or a request refused or failed before the output stage. -/
inductive Exchange.Idle (x : Exchange) : Prop where
  | manifest {request : Request} (read : Request.decoder.parse x.line = .ok request)
      (method : request.method = "getManifest") : Idle x
  | refused (code : x.response.code? = some (-32700) ∨ x.response.code? = some (-32601) ∨
      x.response.code? = some (-32602)) : Idle x
  | early (code : x.response.code? = some (-32000))
      (stage : x.response.stage? = some "configuration" ∨ x.response.stage? = some "ingestion") :
      Idle x

inductive Sheds : List Exchange → List Exchange → Prop where
  | nil : Sheds [] []
  | drop {x : Exchange} {exchanges kept : List Exchange} (idle : x.Idle)
      (rest : Sheds exchanges kept) : Sheds (x :: exchanges) kept
  | keep {exchanges kept : List Exchange} (x : Exchange) (rest : Sheds exchanges kept) :
      Sheds (x :: exchanges) (x :: kept)

theorem Sheds.subset (sheds : Sheds exchanges kept) : kept ⊆ exchanges := by
  induction sheds with
  | nil => exact List.Subset.refl _
  | drop _ _ ih => exact fun x member => .tail _ (ih member)
  | keep x _ ih => exact List.cons_subset_cons x ih

theorem Exchange.Idle.alike {x : Exchange} (idle : x.Idle)
    (answers : session.Answers x.line x.before x.response x.after) : x.before.Alike x.after := by
  obtain ⟨line, before, response, after⟩ := x
  have whole := answers
  cases answers with
  | malformed _ logged | manifest _ _ logged | unknown _ _ _ logged | unfit _ _ logged =>
    exact (log_logged logged).alike
  | failed read method =>
    cases idle with
    | manifest read' method' =>
      cases read.symm.trans read'
      exact absurd (method.symm.trans method') (by decide)
    | refused code => rcases code with code | code | code <;> cases code
    | early _ stage => exact (whole.logged stage).alike
  | fulfilled read method =>
    cases idle with
    | manifest read' method' =>
      cases read.symm.trans read'
      exact absurd (method.symm.trans method') (by decide)
    | refused code => rcases code with code | code | code <;> cases code
    | early code => cases code

/-! ### Sessions without them -/

theorem Serves.of_filled
    (serves : session.Serves stream (asked.filter fun line => ¬ Text.IsBlank line) w exchanges
      ended) : session.Serves stream asked w exchanges ended := by
  induction asked generalizing w exchanges with
  | nil => exact serves
  | cons line rest ih =>
    by_cases blank : Text.IsBlank line
    · rw [List.filter_cons_of_neg (by simpa using blank)] at serves
      exact .blank blank (ih serves)
    · rw [List.filter_cons_of_pos (by simpa using blank)] at serves
      cases serves with
      | blank blank' => exact absurd blank' blank
      | answered x filled answer rest => exact .answered x filled answer (ih rest)

theorem Serves.answerAll (serves : session.Serves stream asked w exchanges ended) :
    (session.answerAll stream (asked.map .ok) : StateM World _) w = (.ok (), ended) := by
  induction serves with
  | done w => rfl
  | @blank line lines w w' exchanges blank rest ih =>
    have skipped : (session.answerOn stream line : StateM World Unit) w = ((), w) := by
      rw [answerOn, if_pos ((Text.trimChars_isEmpty_iff line).mpr blank)]
      rfl
    exact (run_bind skipped).trans ih
  | answered x filled answer rest ih =>
    have answered : (session.answerOn stream x.line : StateM World Unit) x.before =
        ((), x.after.print (x.response.write ++ "\n") stream) := by
      rw [answerOn, if_neg fun empty => filled ((Text.trimChars_isEmpty_iff _).mp empty)]
      exact run_bind answer
    exact (run_bind answered).trans ih

theorem Serves.serveInput {text : String}
    (serves : session.Serves stream (lines text) w exchanges ended) :
    (session.serveInput stream text : StateM World _) w =
      (.ok (), ((session.close : StateM World Unit) ended).2) := by
  rw [Session.serveInput, Input.lines_ofText, run_bind serves.answerAll]
  rfl

/-- What is left of a session goes on as before, from any world that is alike. -/
theorem Serves.sheds (serves : session.Serves stream asked w exchanges ended)
    (sheds : Sheds exchanges kept) (apart : ∀ x ∈ kept, ¬ session.ReadsLog x.line x.before)
    (alike : w.Alike v) :
    ∃ exchanges' ended', session.Serves stream (kept.map Exchange.line) v exchanges' ended' ∧
      exchanges'.map (fun x => (x.line, x.response)) = kept.map (fun x => (x.line, x.response)) ∧
      ended.Alike ended' := by
  induction serves generalizing kept v with
  | done w =>
    cases sheds
    exact ⟨[], v, .done v, rfl, alike⟩
  | blank blank rest ih => exact ih sheds apart alike
  | answered x filled answer rest ih =>
    have printed := World.print_alike x.after (x.response.write ++ "\n") stream
    cases sheds with
    | drop idle shed =>
      have quiet := idle.alike (answers_of_answer answer)
      exact ih shed apart ((quiet.trans printed).symm.trans alike)
    | @keep _ kept _ shed =>
      obtain ⟨same, answered⟩ := answer_alike (apart x List.mem_cons_self) alike
      rw [answer] at same answered
      obtain ⟨after, answer'⟩ : ∃ after, (session.answer x.line : StateM World Response) v =
        (x.response, after) :=
        ⟨((session.answer x.line : StateM World Response) v).2, Prod.ext same.symm rfl⟩
      rw [answer'] at answered
      obtain ⟨exchanges', ended', serves', responses, alike'⟩ := ih shed
        (fun y member => apart y (List.mem_cons_of_mem x member))
        ((printed.symm.trans answered).trans
          (World.print_alike after (x.response.write ++ "\n") stream))
      refine ⟨⟨x.line, v, x.response, after⟩ :: exchanges', ended',
        .answered ⟨x.line, v, x.response, after⟩ filled answer' serves', ?_, alike'⟩
      rw [List.map_cons, List.map_cons, responses]

theorem Serves.closed (serves : session.Serves stream asked w exchanges ended)
    (closed : w.journal = none) :
    ended.journal = none ∧ ∀ x ∈ exchanges, x.before.journal = none := by
  induction serves with
  | done w => exact ⟨closed, nofun⟩
  | blank blank rest ih => exact ih closed
  | answered x filled answer rest ih =>
    have answered := (keeps_answer (World.keptBy_closed session.logger) x.line).of_run answer closed
    obtain ⟨last, before⟩ := ih ((World.print_alike _ _ _).journal.trans answered)
    refine ⟨last, fun y member => ?_⟩
    rcases List.mem_cons.mp member with rfl | later
    · exact closed
    · exact before y later

/-- Blank lines, requests for the manifest, requests that are refused and those that fail in the
stages of configuration or ingestion may be left out of the input, any of them: the lines that are
left get the same responses in the same order, and the same files are left. With an open log file
this holds but for its text, and where no request that is left looks for a version in it. -/
theorem serve_without_idle {input shorter : String}
    (serves : session.Serves stream (lines input) w exchanges ended) (sheds : Sheds exchanges kept)
    (left : (lines shorter).filter (fun line => ¬ Text.IsBlank line) = kept.map Exchange.line)
    (apart : w.journal = none ∨ ∀ x ∈ kept, ¬ session.ReadsLog x.line x.before) :
    ∃ exchanges' ended', session.Serves stream (lines shorter) w exchanges' ended' ∧
      exchanges'.map (fun x => (x.line, x.response)) = kept.map (fun x => (x.line, x.response)) ∧
      World.Alike ((session.serveInput stream input : StateM World _) w).2
        ((session.serveInput stream shorter : StateM World _) w).2 ∧
      (w.journal = none → ∀ l,
        ((session.serveInput stream shorter : StateM World _) w).2.files.entry? l =
          ((session.serveInput stream input : StateM World _) w).2.files.entry? l) := by
  have apart : ∀ x ∈ kept, ¬ session.ReadsLog x.line x.before := by
    rcases apart with closed | apart
    · rintro x member ⟨_, options, _, _, _, _, _, _, _, _, logged⟩
      cases ((serves.closed closed).2 x (sheds.subset member)).symm.trans logged
    · exact apart
  obtain ⟨exchanges', ended', serves', responses, alike⟩ := serves.sheds sheds apart (.refl w)
  rw [← left] at serves'
  have serves' := serves'.of_filled
  have closing := ((World.indifferent_alike session.logger session.logger).log .streamClosed
    .streamClosed ended ended' alike).2
  refine ⟨exchanges', ended', serves', responses, ?_, fun closed => ?_⟩
  · rw [serves.serveInput, serves'.serveInput]
    exact closing
  · have last : ((session.close : StateM World Unit) ended).2.journal = none :=
      (World.keptBy_closed session.logger).log .streamClosed ended (serves.closed closed).1
    rw [serves.serveInput, serves'.serveInput]
    exact closing.entry?_eq last

def pathlessLine : String := "[1,\"generate\",[[\"\",[],[\"/out\"]],[],\"/s\"]]"

def emptyingLine : String :=
  "[2,\"generate\",[[\"\",[],[\"/out\"],\x7b\"contextPath\":\"/c\"\x7d]," ++
    "[[\"\",[\"prisma-client\"]]],\"/s\",\x7b\"mappings\":[]\x7d]]"

def exchange (session : Session) (line : String) (w : World) : Exchange where
  line
  before := w
  response := ((session.answer line : StateM World Response) w).1
  after := ((session.answer line : StateM World Response) w).2

theorem Serves.exchange {line : String} {rest : List String} (filled : ¬ Text.IsBlank line)
    (serves : session.Serves stream rest
      ((exchange session line w).after.print ((exchange session line w).response.write ++ "\n")
        stream) exchanges ended) :
    session.Serves stream (line :: rest) w (Session.exchange session line w :: exchanges) ended :=
  .answered (Session.exchange session line w) filled rfl serves

theorem serve_without_idle_older : ∃ x ended exchanges' ended',
    ({} : Session).Serves .output (lines (pathlessLine ++ "\n\t\n" ++ emptyingLine)) olderWorld
        [exchange {} pathlessLine olderWorld, x] ended ∧
      ({} : Session).Serves .output (lines emptyingLine) olderWorld exchanges' ended' ∧
      exchanges'.map (fun x => (x.line, x.response)) = [(emptyingLine, x.response)] ∧
      ∀ l, ((({} : Session).serveInput .output emptyingLine : StateM World _)
          olderWorld).2.files.entry? l =
        ((({} : Session).serveInput .output (pathlessLine ++ "\n\t\n" ++ emptyingLine) :
          StateM World _) olderWorld).2.files.entry? l := by
  have stage : (exchange {} pathlessLine olderWorld).response.stage? = some "configuration" := by
    decide +kernel
  have code : (exchange {} pathlessLine olderWorld).response.code? = some (-32000) := by
    decide +kernel
  have all : lines (pathlessLine ++ "\n\t\n" ++ emptyingLine) =
      [pathlessLine, "\t", emptyingLine] := by decide +kernel
  have one : (lines emptyingLine).filter (fun line => ¬ Text.IsBlank line) = [emptyingLine] := by
    decide +kernel
  obtain ⟨x, ended, named, serves⟩ : ∃ x ended, x.line = emptyingLine ∧ ({} : Session).Serves .output
      (lines (pathlessLine ++ "\n\t\n" ++ emptyingLine)) olderWorld
        [exchange {} pathlessLine olderWorld, x] ended := by
    rw [all]
    exact ⟨exchange {} emptyingLine _, _, rfl, .exchange (by decide +kernel)
      (.blank (by decide +kernel) (.exchange (by decide +kernel) (.done _)))⟩
  have left : (lines emptyingLine).filter (fun line => ¬ Text.IsBlank line) =
      [x].map Exchange.line := by
    rw [one, List.map_singleton, named]
  obtain ⟨exchanges', ended', serves', responses, -, same⟩ := serve_without_idle serves
    (.drop (.early code (.inl stage)) (.keep x .nil)) left (.inl rfl)
  rw [List.map_singleton, named] at responses
  exact ⟨x, ended, exchanges', ended', serves, serves', responses, same rfl⟩

end Session

end ShieldPolicy
