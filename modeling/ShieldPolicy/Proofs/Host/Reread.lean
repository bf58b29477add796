import ShieldPolicy.Proofs.Host.Response
import ShieldPolicy.Proofs.Json.Decoded

/-!
Answers that are read back. An answer comes back as it was sent, with the identifier that its text
holds; only a result of null is taken for none: `Session.answer_reread`.
-/

namespace ShieldPolicy

open Json Reader Decoder

variable {line : String} {levels : Nat}

/-! ### Objects -/

namespace Json

variable {members : List (String × Json)}

abbrev IsPlain (levels : Nat) (j : Json) : Prop := Readable levels j ∧ j.NoReal

theorem isPlain_ofMembers (each : ∀ m ∈ members, IsPlain levels m.2) :
    IsPlain (levels + 1) (ofMembers members) := by
  obtain ⟨ms, made, ascending, each⟩ := forall_ofMembers each
  rw [made]
  exact ⟨.object ascending fun m member => (each m member).1,
    .object fun m member => (each m member).2⟩

theorem IsPlain.reads {j : Json} {most : Nat} (plain : IsPlain levels j) (within : levels ≤ most) :
    Reads most j (some j) := by
  obtain ⟨answer, reads⟩ := exists_reads plain.1
  obtain ⟨more, rfl⟩ := Nat.exists_eq_add_of_le within
  obtain rfl := reads.exact plain.2
  refine ⟨reads.starts, fun more' => ?_, reads.exact⟩
  rw [Nat.add_assoc]
  exact reads.gives (more + more')

end Json

theorem Manifest.isPlain_json (manifest : Manifest) : manifest.json.IsPlain 2 := by
  refine Json.isPlain_ofMembers ?_
  simp only [List.forall_mem_cons]
  refine ⟨⟨.text _, .text _⟩, ⟨.text _, .text _⟩, ⟨.array ?_, .array ?_⟩, nofun⟩
  · intro j member
    obtain ⟨name, -, rfl⟩ := List.mem_map.mp member
    exact .text name
  · intro j member
    obtain ⟨name, -, rfl⟩ := List.mem_map.mp member
    exact .text name

/-! ### Responses -/

/-- What is left of an error when null stands for none. -/
def ResponseError.settled (e : ResponseError) : ResponseError :=
  { e with data := e.data.bind Json.present? }

def Response.settled (r : Response) : Response :=
  { r with result := r.result.bind Json.present?, error := r.error.map ResponseError.settled }

structure ResponseError.IsExact (levels : Nat) (e : ResponseError) : Prop where
  code : Integer64.fits e.code
  data : ∀ {j}, e.data = some j → Reads levels j (some j)

/-- Whether a response holds only what is read back as itself, its identifier apart. -/
structure Response.IsExact (levels : Nat) (r : Response) : Prop where
  result : ∀ {j}, r.result = some j → Reads (levels + 1) j (some j)
  error : ∀ {e}, r.error = some e → e.IsExact levels

theorem ResponseError.gives_decoder {e : ResponseError} (exact_ : e.IsExact levels) :
    Gives (ResponseError.decoder.ofText (levels + 1)) (braced e.members).toList
      (some e.settled) := by
  have code : Gives (integer.ofText levels) (toString e.code).toList _ := gives_integer exact_.code
  have message : Gives (Decoder.text.ofText levels) (writeText e.message).toList _ :=
    gives_textNamed _ e.message
  have data (j : Json) (present : e.data = some j) := gives_optional_any (exact_.data present)
  refine gives_record _ (taken_append (.cons (gives_readMember rfl rfl code)
    (.cons (gives_readMember rfl rfl message) .nil)) (taken_option rfl rfl data)) ?_ ?_
  · rintro state ⟨⟩
    cases e.data <;> rfl
  · unfold settled
    cases e.data <;> rfl

theorem gives_optional_error {e : ResponseError} (exact_ : e.IsExact levels) :
    Gives ((optional ResponseError.decoder).ofText (levels + 1)) (braced e.members).toList
      (some (some e.settled)) := by
  have gives := ResponseError.gives_decoder exact_
  rw [toList_braced] at gives ⊢
  exact gives_optional rfl (by decide) gives

theorem Response.gives_decoder {r : Response} {answer : Option Json} (exact_ : r.IsExact levels)
    (id : Reads (levels + 1) r.id answer) :
    Gives (Response.decoder.ofText (levels + 2)) r.write.toList
      (answer.map fun id => { r.settled with id }) := by
  have protocol : Gives (Decoder.text.ofText (levels + 1)) (writeText r.protocol).toList _ :=
    gives_textNamed _ r.protocol
  have result (j : Json) (present : r.result = some j) := gives_optional_any (exact_.result present)
  have error (e : ResponseError) (present : r.error = some e) :=
    gives_optional_error (exact_.error present)
  have id := gives_any id
  cases answer with
  | none =>
    refine gives_record _ (.cons (gives_readMember rfl rfl protocol)
      (.stuck (gives_readMember rfl rfl id))) ?_ rfl
    rintro state ⟨⟩
  | some j =>
    refine gives_record _ (taken_append (taken_append (.cons (gives_readMember rfl rfl protocol)
      (.cons (gives_readMember rfl rfl id) .nil)) (taken_option rfl rfl result))
      (taken_option rfl ?_ error)) ?_ ?_
    · cases r.result <;> rfl
    · rintro state ⟨⟩
      cases r.result <;> cases r.error <;> rfl
    · unfold settled
      cases r.result <;> cases r.error <;> rfl

theorem Response.decoder_write {r : Response} (exact_ : r.IsExact 125) (id : Readable 126 r.id) :
    (Response.decoder.parse r.write).toOption =
      (Json.parse r.id.write).toOption.map fun id => { r.settled with id } :=
  run_of_gives (gives_decoder exact_ (reads_parse_write id (by decide)))

/-! ### Answers -/

theorem Json.eq_text_of_text? {j : Json} {s : String} (text : j.text? = some s) : j = .text s := by
  cases j with
  | text => rw [Option.some.inj text]
  | null | bool | number | array | object => cases text

theorem Json.eq_null_of_found {j : Json} (found : j.found = .null) : j = .null := by
  cases j with
  | null => rfl
  | number n => cases n <;> cases found
  | bool | text | array | object => cases found

theorem Json.bind_present?_iff {o : Option Json} : o.bind Json.present? = o ↔ o ≠ some .null := by
  cases o with
  | none => simp
  | some j => cases j <;> simp [Json.present?]

theorem Response.isExact_failure {id : Json} {code : ErrorCode} {message : String}
    {data : Option Json} (reads : ∀ j, data = some j → Reads levels j (some j)) :
    (failure id code message data).IsExact levels := by
  refine ⟨nofun, ?_⟩
  rintro e ⟨⟩
  refine ⟨?_, fun {j} present => reads j present⟩
  show Integer64.fits code.value
  cases code <;> decide

namespace Session

variable {σ : Type} [Machine (StateM σ)] {session : Session} {s s' : σ} {response : Response}

theorem Answers.readable_id (answers : session.Answers line s response s') :
    Readable 126 response.id := by
  cases answers with
  | malformed => exact .null
  | manifest read | unknown read | unfit read | failed read | fulfilled read =>
    exact Request.readable_id read

theorem Answers.isExact (answers : session.Answers line s response s') :
    response.IsExact 125 := by
  cases answers with
  | malformed | unknown | unfit => exact Response.isExact_failure nofun
  | failed =>
    refine Response.isExact_failure ?_
    rintro j ⟨⟩
    have plain (stage : String) : (Json.ofMembers [("stage", .text stage)]).IsPlain 1 :=
      Json.isPlain_ofMembers (List.forall_mem_singleton.mpr ⟨.text _, .text _⟩)
    exact (plain _).reads (by decide)
  | manifest =>
    refine ⟨?_, nofun⟩
    rintro j ⟨⟩
    have plain : (Json.ofMembers [("manifest", Manifest.standard.json)]).IsPlain 3 :=
      Json.isPlain_ofMembers (List.forall_mem_singleton.mpr Manifest.standard.isPlain_json)
    exact plain.reads (by decide)
  | fulfilled =>
    refine ⟨?_, nofun⟩
    rintro j ⟨⟩
    have plain : Json.null.IsPlain 0 := ⟨.null, .null⟩
    exact plain.reads (by decide)

theorem Answers.settled (answers : session.Answers line s response s') :
    response.settled = { response with result := response.result.bind Json.present? } := by
  cases answers <;> rfl

theorem Answers.result_none_iff (answers : session.Answers line s response s') :
    response.result = none ↔ response.error.isSome := by
  cases answers with
  | malformed | unknown | unfit | failed => exact ⟨fun _ => rfl, fun _ => rfl⟩
  | manifest | fulfilled => exact ⟨nofun, nofun⟩

theorem Answers.result_null_iff (answers : session.Answers line s response s') :
    response.result = some .null ↔ response.error = none ∧
      ∃ request, Request.decoder.parse line = .ok request ∧ request.method = "generate" := by
  cases answers with
  | malformed | unknown | unfit | failed => exact ⟨nofun, nofun⟩
  | manifest read method =>
    refine ⟨nofun, ?_⟩
    rintro ⟨-, request, read', method'⟩
    cases read.symm.trans read'
    rw [method] at method'
    exact absurd method' (by decide)
  | fulfilled read method => exact ⟨fun _ => ⟨rfl, _, read, method⟩, fun _ => rfl⟩

theorem Answers.decoder_write (answers : session.Answers line s response s') :
    (Response.decoder.parse response.write).toOption =
      (Json.parse response.id.write).toOption.map fun id =>
        { response with id, result := response.result.bind Json.present? } := by
  have known := Response.decoder_write answers.isExact answers.readable_id
  rwa [answers.settled] at known

theorem Answers.exists_empty (answers : session.Answers line s response s')
    (id : response.id = .null) (result : response.result = some .null) :
    ∃ back, Response.decoder.parse response.write = .ok back ∧ back.result = none ∧
      back.error = none := by
  have known := answers.decoder_write
  rw [id, parse_write .null (by decide : 0 ≤ levelBound) .null, result] at known
  exact ⟨_, toOption_eq_some_iff.mp known, rfl, (answers.result_null_iff.mp result).1⟩

/-- An answer is read back with the identifier that its text holds, and without a result of null.
So it comes back as it was sent if that identifier does and it is no answer to a request to generate
that was fulfilled: that one comes back with neither a result nor an error. -/
theorem answer_reread (session : Session) (line : String) (s s' : σ) (response : Response)
    (run : (session.answer line : StateM σ Response) s = (response, s')) :
    (Response.decoder.parse response.write).toOption =
        (Json.parse response.id.write).toOption.map (fun id =>
          { response with id, result := response.result.bind Json.present? }) ∧
      (Response.decoder.parse response.write = .ok response ↔
        response.result ≠ some .null ∧ Json.parse response.id.write = .ok response.id) ∧
      (∀ back, Response.decoder.parse response.write = .ok back →
        ((back.result = none ↔ back.error.isSome) ↔ response.result ≠ some .null)) ∧
      (response.result = some .null ↔ response.error = none ∧
        ∃ request, Request.decoder.parse line = .ok request ∧ request.method = "generate") ∧
      (response.id.NoReal → Json.parse response.id.write = .ok response.id) := by
  have answers := answers_of_answer run
  have known := answers.decoder_write
  refine ⟨known, ?_, fun back read => ?_, answers.result_null_iff,
    parse_write answers.readable_id (by decide)⟩
  · rw [← toOption_eq_some_iff, known, Option.map_eq_some_iff, ← toOption_eq_some_iff,
      ← Json.bind_present?_iff]
    constructor
    · rintro ⟨id, read, same⟩
      obtain rfl : id = response.id := congrArg Response.id same
      exact ⟨congrArg Response.result same, read⟩
    · rintro ⟨result, read⟩
      exact ⟨_, read, by rw [result]⟩
  · rw [← toOption_eq_some_iff, known, Option.map_eq_some_iff] at read
    obtain ⟨id, -, rfl⟩ := read
    show (response.result.bind Json.present? = none ↔ response.error.isSome) ↔ _
    rw [← answers.result_none_iff]
    cases response.result with
    | none => simp
    | some j => cases j <;> simp [Json.present?]

def contextSession : Session where
  settings := { contextPath := some ⟨"/context.ts"⟩ }

def answerTo (line : String) : Response :=
  ((contextSession.answer line : StateM World Response) {}).1

theorem answers_answerTo (line : String) :
    contextSession.Answers line {} (answerTo line)
      ((contextSession.answer line : StateM World Response) {}).2 :=
  answers_of_answer rfl

def manifestLine : String := "\x7b\"id\":\"a\",\"method\":\"getManifest\"\x7d"

theorem answer_reread_manifest :
    Response.decoder.parse (answerTo manifestLine).write = .ok (answerTo manifestLine) := by
  obtain ⟨-, exact_, -, -, whole⟩ :=
    answer_reread contextSession manifestLine ({} : World) _ (answerTo manifestLine) rfl
  have result : (answerTo manifestLine).result.map Json.found = some .map := by decide +kernel
  have named : (answerTo manifestLine).id.text? = some "a" := by decide +kernel
  apply exact_.mpr
  constructor
  · intro null
    rw [null] at result
    cases result
  · apply whole
    rw [Json.eq_text_of_text? named]
    exact .text "a"

def emptyLine : String :=
  "\x7b\"method\":\"generate\",\"params\":\x7b\"generator\":\x7b\"provider\":\x7b\x7d\x7d," ++
    "\"otherGenerators\":[\x7b\"provider\":\x7b\"value\":\"prisma-client\"\x7d\x7d]," ++
    "\"schemaPath\":\"/app/schema.prisma\"," ++
    "\"dmmf\":\x7b\"mappings\":\x7b\"modelOperations\":[]\x7d\x7d\x7d\x7d"

def realLine : String := "\x7b\"id\":1.9e30,\"method\":\"getManifest\"\x7d"

/-- The result of a run that succeeded is lost, and an identifier that is no whole number drifts. -/
theorem answer_reread_loses :
    ((answerTo emptyLine).result.isSome ∧ ∃ back,
        Response.decoder.parse (answerTo emptyLine).write = .ok back ∧
          back.result = none ∧ back.error = none) ∧
      (answerTo realLine).id.write = "1.8999999999999998e+30" ∧ ∃ back,
        Response.decoder.parse (answerTo realLine).write = .ok back ∧
          back.id.write = "1.9e+30" := by
  have text : (answerTo realLine).id.write = "1.8999999999999998e+30" := by decide +kernel
  refine ⟨?_, text, ?_⟩
  · have found : ((answerTo emptyLine).id.found, (answerTo emptyLine).result.map Json.found) =
        (.null, some .null) := by decide +kernel
    obtain ⟨id, found⟩ := Prod.mk.inj found
    obtain ⟨j, result, null⟩ := Option.map_eq_some_iff.mp found
    rw [Json.eq_null_of_found null] at result
    refine ⟨Option.isSome_of_mem result, ?_⟩
    exact (answers_answerTo emptyLine).exists_empty (Json.eq_null_of_found id) result
  · have drifted : (Json.parse "1.8999999999999998e+30").toOption.map Json.write =
        some "1.9e+30" := by decide +kernel
    obtain ⟨id, read, written⟩ := Option.map_eq_some_iff.mp drifted
    have known := (answers_answerTo realLine).decoder_write
    rw [text, read] at known
    exact ⟨_, toOption_eq_some_iff.mp known, written⟩

end Session

end ShieldPolicy
