import ShieldPolicy.Host.Session
import ShieldPolicy.Proofs.Machine.Disk

/-!
How a session answers a line. `answers_of_answer` says all that an answer can come from, so that
what follows about answers goes by the cases of `Answers`.
-/

namespace ShieldPolicy

def Response.stage? (r : Response) : Option String := do
  (← (← (← r.error).data).get? "stage").text?

theorem Response.stage?_ofRunError (id : Json) (e : GenerationError) :
    (ofRunError id e).stage? = some e.stage.name := rfl

namespace Session

variable {σ : Type} [Machine (StateM σ)] {session : Session} {line : String} {request : Request}
  {id params : Json} {s s' : σ} {response : Response}

/-! ### Requests to generate -/

def outcomeEvent : Except GenerationError GenerationReport → Log.Event
  | .ok report => .requestCompleted report.queries report.mutations
  | .error e => .requestFailed e

def outcomeResponse (id : Json) : Except GenerationError GenerationReport → Response
  | .ok _ => .success id .null
  | .error e => .ofRunError id e

theorem answerRequest_generate {options : GeneratorOptions} (method : request.method = "generate")
    (decoded : GeneratorOptions.decoder.decode request.params = .ok options) :
    (session.answerRequest request : StateM σ Response) = do
      session.logger.log (.requestReceived request.method)
      let outcome ← options.run session.logger session.environment session.settings
      session.logger.log (outcomeEvent outcome)
      return outcomeResponse request.id outcome := by
  unfold answerRequest generate
  simp only [method, String.reduceEq, if_false, if_true, decoded]
  refine bind_congr fun _ => bind_congr fun outcome => ?_
  cases outcome <;> rfl

/-! ### Lines -/

/-- A line is answered from one state to another: as one that cannot be read, or by what its request
asks for. -/
inductive Answers (session : Session) (line : String) (s : σ) : Response → σ → Prop where
  | malformed {e : Json.Error} {s' : σ} (unread : Request.decoder.parse line = .error e)
      (logged : (session.logger.log (.requestMalformed e) : StateM σ Unit) s = ((), s')) :
      Answers session line s (.failure .null .parseError ("parse error: " ++ e.message) none) s'
  | manifest {request : Request} {s' : σ} (read : Request.decoder.parse line = .ok request)
      (method : request.method = "getManifest")
      (logged : (session.logger.log (.requestReceived request.method) : StateM σ Unit) s =
        ((), s')) :
      Answers session line s
        (.success request.id (.ofMembers [("manifest", Manifest.standard.json)])) s'
  | unknown {request : Request} {s' : σ} (read : Request.decoder.parse line = .ok request)
      (other : request.method ≠ "getManifest") (other' : request.method ≠ "generate")
      (logged : (session.logger.log (.requestReceived request.method) : StateM σ Unit) s =
        ((), s')) :
      Answers session line s
        (.failure request.id .methodNotFound ("method not found: " ++ request.method) none) s'
  | unfit {request : Request} {e : Json.Error} {s' : σ}
      (read : Request.decoder.parse line = .ok request) (method : request.method = "generate")
      (logged : (session.logger.log (.requestReceived request.method) : StateM σ Unit) s =
        ((), s'))
      (undecoded : GeneratorOptions.decoder.decode request.params = .error e) :
      Answers session line s
        (.failure request.id .invalidParams ("invalid generator options: " ++ e.message) none) s'
  | failed {request : Request} {options : GeneratorOptions} {e : GenerationError} {begun ended s' : σ}
      (read : Request.decoder.parse line = .ok request) (method : request.method = "generate")
      (logged : (session.logger.log (.requestReceived request.method) : StateM σ Unit) s =
        ((), begun))
      (decoded : GeneratorOptions.decoder.decode request.params = .ok options)
      (ran : (options.run session.logger session.environment session.settings : StateM σ _) begun =
        (.error e, ended))
      (logged' : (session.logger.log (.requestFailed e) : StateM σ Unit) ended = ((), s')) :
      Answers session line s (.ofRunError request.id e) s'
  | fulfilled {request : Request} {options : GeneratorOptions} {report : GenerationReport}
      {begun ended s' : σ} (read : Request.decoder.parse line = .ok request)
      (method : request.method = "generate")
      (logged : (session.logger.log (.requestReceived request.method) : StateM σ Unit) s =
        ((), begun))
      (decoded : GeneratorOptions.decoder.decode request.params = .ok options)
      (ran : (options.run session.logger session.environment session.settings : StateM σ _) begun =
        (.ok report, ended))
      (logged' : (session.logger.log (.requestCompleted report.queries report.mutations) :
        StateM σ Unit) ended = ((), s')) :
      Answers session line s (.success request.id .null) s'

theorem answers_of_answer (run : (session.answer line : StateM σ Response) s = (response, s')) :
    session.Answers line s response s' := by
  unfold answer at run
  cases read : Request.decoder.parse line with
  | error e =>
    rw [read] at run
    obtain ⟨⟨⟩, mid, logged, run⟩ := bind_run run
    obtain ⟨rfl, rfl⟩ := pure_run run
    exact .malformed read logged
  | ok request =>
    rw [read] at run
    dsimp only at run
    by_cases generates : request.method = "generate"
    · cases decoded : GeneratorOptions.decoder.decode request.params with
      | error e =>
        obtain ⟨⟨⟩, begun, logged, run⟩ := bind_run run
        simp only [generates, String.reduceEq, if_false, if_true, generate, decoded] at run
        obtain ⟨rfl, rfl⟩ := pure_run run
        exact .unfit read generates logged decoded
      | ok options =>
        rw [answerRequest_generate generates decoded] at run
        obtain ⟨⟨⟩, begun, logged, run⟩ := bind_run run
        obtain ⟨outcome, ended, ran, run⟩ := bind_run run
        obtain ⟨⟨⟩, last, logged', run⟩ := bind_run run
        obtain ⟨rfl, rfl⟩ := pure_run run
        cases outcome with
        | error e => exact .failed read generates logged decoded ran logged'
        | ok report => exact .fulfilled read generates logged decoded ran logged'
    · obtain ⟨⟨⟩, begun, logged, run⟩ := bind_run run
      by_cases manifest : request.method = "getManifest"
      · simp only [if_pos manifest] at run
        obtain ⟨rfl, rfl⟩ := pure_run run
        exact .manifest read manifest logged
      · simp only [if_neg manifest, if_neg generates] at run
        obtain ⟨rfl, rfl⟩ := pure_run run
        exact .unknown read manifest generates logged

end Session

end ShieldPolicy
