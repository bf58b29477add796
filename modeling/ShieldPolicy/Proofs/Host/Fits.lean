import ShieldPolicy.Proofs.Host.Response

/-!
What an answer tells. It is framed as the protocol asks, `Session.Answers.isFramed`, and its code
and identifier fit the line that it answers, `Session.Answers.fits`.
-/

namespace ShieldPolicy

def Response.code? (r : Response) : Option Int := r.error.map ResponseError.code

/-- A response as the protocol frames it: a JSON object on one line, with a result or an error. -/
structure Response.IsFramed (r : Response) : Prop where
  object : ∃ outcome, Json.Spells (.object [("jsonrpc", .text "2.0"), ("id", r.id), outcome])
      r.write.toList ∧
    ((∃ result, outcome = ("result", result) ∧ r.result = some result ∧ r.error = none) ∨
      ∃ e, outcome = ("error", .object e.jsonMembers) ∧ r.result = none ∧ r.error = some e)
  oneLine : Json.NoControl r.write.toList

namespace Session

variable {σ : Type} [Machine (StateM σ)] {session : Session} {line : String} {s s' : σ}
  {response : Response} {request : Request} {e : GenerationError}

def RunFails (session : Session) (line : String) (s : σ) (e : GenerationError) : Prop :=
  ∃ request options begun ended, Request.decoder.parse line = .ok request ∧
    request.method = "generate" ∧ GeneratorOptions.decoder.decode request.params = .ok options ∧
      (session.logger.log (.requestReceived request.method) : StateM σ Unit) s = ((), begun) ∧
        (options.run session.logger session.environment session.settings : StateM σ _) begun =
          (.error e, ended)

structure Fits (session : Session) (line : String) (s : σ) (r : Response) : Prop where
  id : ∀ {request}, Request.decoder.parse line = .ok request → r.id = request.id
  noId : (∀ request, Request.decoder.parse line ≠ .ok request) → r.id = .null
  malformed : r.code? = some (-32700) ↔ ∃ e, Request.decoder.parse line = .error e
  unknown : r.code? = some (-32601) ↔ ∃ request, Request.decoder.parse line = .ok request ∧
    request.method ≠ "getManifest" ∧ request.method ≠ "generate"
  unfit : r.code? = some (-32602) ↔ ∃ request e, Request.decoder.parse line = .ok request ∧
    request.method = "generate" ∧ GeneratorOptions.decoder.decode request.params = .error e
  failed : r.code? = some (-32000) ↔ ∃ e, session.RunFails line s e
  stage : ∀ {e}, session.RunFails line s e → r.stage? = some e.stage.name
  otherwise : r.result.isSome ↔ r.code? ≠ some (-32700) ∧ r.code? ≠ some (-32601) ∧
    r.code? ≠ some (-32602) ∧ r.code? ≠ some (-32000)

theorem not_runFails (session : Session) (s : σ) (e : GenerationError) {fault : Json.Error}
    (unread : Request.decoder.parse line = .error fault) : ¬ session.RunFails line s e := by
  rintro ⟨request, _, _, _, read, _⟩
  rw [unread] at read
  cases read

theorem runFails_iff (session : Session) (s : σ) (e : GenerationError)
    (read : Request.decoder.parse line = .ok request) :
    session.RunFails line s e ↔ request.method = "generate" ∧ ∃ options,
      GeneratorOptions.decoder.decode request.params = .ok options ∧
        ((options.run session.logger session.environment session.settings : StateM σ _)
          ((session.logger.log (.requestReceived request.method) : StateM σ Unit) s).2).1 =
            .error e := by
  constructor
  · rintro ⟨request', options, begun, ended, read', method, decoded, logged, ran⟩
    obtain rfl : request = request' := Except.ok.inj (read.symm.trans read')
    refine ⟨method, options, decoded, ?_⟩
    rw [logged, ran]
  · rintro ⟨method, options, decoded, ran⟩
    exact ⟨request, options, _, _, read, method, decoded, rfl, Prod.ext ran rfl⟩

theorem runFails_of_ran {options : GeneratorOptions} {begun ended : σ}
    {outcome : Except GenerationError GenerationReport}
    (read : Request.decoder.parse line = .ok request) (method : request.method = "generate")
    (decoded : GeneratorOptions.decoder.decode request.params = .ok options)
    (logged : (session.logger.log (.requestReceived request.method) : StateM σ Unit) s =
      ((), begun))
    (ran : (options.run session.logger session.environment session.settings : StateM σ _) begun =
      (outcome, ended)) : session.RunFails line s e ↔ outcome = .error e := by
  rw [runFails_iff session s e read, logged]
  simp [method, decoded, ran]

theorem Answers.isFramed (answers : session.Answers line s response s') : response.IsFramed := by
  have spelled := Response.spells_write answers.isFinite
  obtain ⟨outcome, members, cases⟩ := answers.members
  rw [members] at spelled
  exact ⟨⟨outcome, spelled, cases⟩, spelled.noControl⟩

theorem Answers.fits (answers : session.Answers line s response s') :
    session.Fits line s response := by
  cases answers with
  | malformed unread =>
    have fails (e : GenerationError) := not_runFails session s e unread
    constructor <;>
      simp [unread, fails, Response.failure, Response.code?, ErrorCode.value]
  | manifest read method =>
    have fails (e : GenerationError) := runFails_iff session s e read
    constructor <;> simp [read, method, fails, Response.success, Response.code?]
  | unknown read other other' =>
    have fails (e : GenerationError) := runFails_iff session s e read
    constructor <;>
      simp [read, other, other', fails, Response.failure, Response.code?, ErrorCode.value]
  | unfit read method _ undecoded =>
    have fails (e : GenerationError) := runFails_iff session s e read
    constructor <;>
      simp [read, method, undecoded, fails, Response.failure, Response.code?, ErrorCode.value]
  | failed read method logged decoded ran =>
    have fails (e : GenerationError) := runFails_of_ran (e := e) read method decoded logged ran
    constructor
    case stage =>
      intro e' failed
      cases (fails e').mp failed
      exact Response.stage?_ofRunError _ _
    all_goals
      simp [read, method, decoded, fails, Response.ofRunError, Response.failure, Response.code?,
        ErrorCode.value]
  | fulfilled read method logged decoded ran =>
    have fails (e : GenerationError) := runFails_of_ran (e := e) read method decoded logged ran
    constructor <;> simp [read, method, decoded, fails, Response.success, Response.code?]

end Session

end ShieldPolicy
