import ShieldPolicy.Proofs.Host.Answer
import ShieldPolicy.Proofs.Json.Members
import ShieldPolicy.Proofs.Json.Read
import ShieldPolicy.Proofs.Json.Written

/-!
Responses as they are written. The text of an answer spells one JSON object: `Response.spells_write`
and `Session.Answers.isFinite`.
-/

namespace ShieldPolicy

variable {line : String}

/-! ### Responses as JSON -/

def Json.ofInt (i : Int) : Json :=
  .number (if 0 ≤ i then .natural i.toNat else .negative (-i).toNat)

theorem Json.spells_ofInt (i : Int) : Json.Spells (.ofInt i) (toString i).toList := by
  have shown : toString i = if 0 ≤ i then toString i.toNat else "-" ++ toString (-i).toNat :=
    Int.repr_eq_if
  unfold ofInt
  rw [shown]
  split
  · exact spells_natural _
  · exact spells_negative _

def ResponseError.jsonMembers (e : ResponseError) : List (String × Json) :=
  [("code", .ofInt e.code), ("message", .text e.message)] ++ (e.data.map (Prod.mk "data")).toList

def Response.jsonMembers (r : Response) : List (String × Json) :=
  [("jsonrpc", .text r.protocol), ("id", r.id)] ++ (r.result.map (Prod.mk "result")).toList ++
    (r.error.map fun e => ("error", .object e.jsonMembers)).toList

structure Response.IsFinite (r : Response) : Prop where
  id : r.id.IsFinite
  result : ∀ {j}, r.result = some j → j.IsFinite
  data : ∀ {e j}, r.error = some e → e.data = some j → j.IsFinite

section Written

open Json

abbrev Written (members : List (String × Json)) (texts : List (String × String)) : Prop :=
  List.Forall₂ (fun m t => m.1 = t.1 ∧ Spells m.2 t.2.toList) members texts

theorem written_option {α : Type} {o : Option α} {key : String} {j : α → Json} {text : α → String}
    (each : ∀ a, o = some a → Spells (j a) (text a).toList) :
    Written (o.map fun a => (key, j a)).toList (o.map fun a => (key, text a)).toList := by
  cases o with
  | none => exact .nil
  | some a => exact .cons ⟨rfl, each a rfl⟩ .nil

theorem written_append {ms ms' : List (String × Json)} {ts ts' : List (String × String)}
    (front : Written ms ts) (back : Written ms' ts') : Written (ms ++ ms') (ts ++ ts') :=
  List.rel_append front back

theorem ResponseError.written_members {e : ResponseError}
    (finite : ∀ {j}, e.data = some j → j.IsFinite) : Written e.jsonMembers e.members := by
  refine written_append (.cons ⟨rfl, spells_ofInt e.code⟩
    (.cons ⟨rfl, .text (spellsText_writeText e.message)⟩ .nil)) ?_
  exact written_option fun j present => spells_write j (finite present)

theorem Response.spells_write {r : Response} (finite : r.IsFinite) :
    Spells (.object r.jsonMembers) r.write.toList := by
  refine spells_braced (written_append (written_append ?_ ?_) ?_)
  · exact .cons ⟨rfl, .text (spellsText_writeText r.protocol)⟩
      (.cons ⟨rfl, Json.spells_write r.id finite.id⟩ .nil)
  · exact written_option fun j present => Json.spells_write j (finite.result present)
  · exact written_option fun e present =>
      spells_braced (e.written_members fun data => finite.data present data)

end Written

/-! ### Finite values -/

theorem Json.isFinite_ofMembers {members : List (String × Json)}
    (each : ∀ m ∈ members, m.2.IsFinite) : (ofMembers members).IsFinite := by
  obtain ⟨ms, made, -, finite⟩ := forall_ofMembers each
  rw [made, IsFinite]
  exact membersFinite_of_forall finite

theorem Manifest.isFinite_json (manifest : Manifest) : manifest.json.IsFinite := by
  have names (texts : List String) : Json.AreFinite (texts.map .text) := by
    induction texts with
    | nil => trivial
    | cons text texts ih => exact ⟨trivial, ih⟩
  refine Json.isFinite_ofMembers ?_
  simp only [List.forall_mem_cons]
  exact ⟨trivial, trivial, by rw [Json.IsFinite]; exact names _, nofun⟩

/-! ### Answers -/

open Json Json.Reader in
theorem Request.readable_id {request : Request} (read : Request.decoder.parse line = .ok request) :
    Readable 126 request.id := by
  refine holds_of_run (P := fun r : Request => Readable 126 r.id) ?_ read
  refine Json.Decoder.yields_record (fun inner bound f member => ?_) .null _
  obtain rfl : inner = 126 := (Nat.succ.inj bound).symm
  simp only [List.mem_cons, List.not_mem_nil, or_false] at member
  obtain rfl | rfl | rfl := member
  · exact yields_map (yields_value 126) fun id readable r _ => readable
  · exact yields_map (yields_true _) fun method _ r kept => kept
  · exact yields_map (yields_true _) fun params _ r kept => kept

theorem Request.isFinite_id {request : Request} (read : Request.decoder.parse line = .ok request) :
    request.id.IsFinite :=
  (readable_id read).isFinite

theorem Response.isFinite_success {id result : Json} (finite : id.IsFinite)
    (given : result.IsFinite) : (success id result).IsFinite := by
  refine ⟨finite, ?_, ?_⟩
  · rintro j ⟨⟩
    exact given
  · rintro e j ⟨⟩

theorem Response.isFinite_failure {id : Json} {code : ErrorCode} {message : String}
    {data : Option Json} (finite : id.IsFinite) (given : ∀ {j}, data = some j → j.IsFinite) :
    (failure id code message data).IsFinite := by
  refine ⟨finite, ?_, ?_⟩
  · rintro j ⟨⟩
  · rintro e j ⟨⟩ present
    exact given present

namespace Session

variable {σ : Type} [Machine (StateM σ)] {session : Session} {s s' : σ} {response : Response}

theorem Answers.members (answers : session.Answers line s response s') :
    ∃ outcome, response.jsonMembers =
        [("jsonrpc", .text "2.0"), ("id", response.id), outcome] ∧
      ((∃ result, outcome = ("result", result) ∧ response.result = some result ∧
          response.error = none) ∨
        ∃ e, outcome = ("error", .object e.jsonMembers) ∧ response.result = none ∧
          response.error = some e) := by
  cases answers with
  | malformed | unknown | unfit | failed => exact ⟨_, rfl, .inr ⟨_, rfl, rfl, rfl⟩⟩
  | manifest | fulfilled => exact ⟨_, rfl, .inl ⟨_, rfl, rfl, rfl⟩⟩

theorem Answers.isFinite (answers : session.Answers line s response s') : response.IsFinite := by
  cases answers with
  | malformed => exact Response.isFinite_failure trivial nofun
  | manifest read =>
    refine Response.isFinite_success (Request.isFinite_id read) (Json.isFinite_ofMembers ?_)
    simp only [List.forall_mem_cons]
    exact ⟨Manifest.standard.isFinite_json, nofun⟩
  | unknown read => exact Response.isFinite_failure (Request.isFinite_id read) nofun
  | unfit read => exact Response.isFinite_failure (Request.isFinite_id read) nofun
  | failed read =>
    refine Response.isFinite_failure (Request.isFinite_id read) ?_
    rintro j ⟨⟩
    exact ⟨trivial, trivial⟩
  | fulfilled read => exact Response.isFinite_success (Request.isFinite_id read) trivial

end Session

end ShieldPolicy
