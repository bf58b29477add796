import ShieldPolicy.Operation.Description
import ShieldPolicy.Proofs.Json.Agreement

/-!
Descriptions as JSON. A text that repeats no key gives the description that its value gives,
`toOption_ofText`, and the operations of a description are the same whatever the order of its
mappings and of the members of each: `operations_of_reordered`.
-/

namespace ShieldPolicy

open Json Json.Decoder

namespace ModelMapping

inductive Puts (key : String) (j : Json) : (ModelMapping → ModelMapping) → Prop where
  | model (named : key = "model") (model : String) : Puts key j fun m => { m with model }
  | plural (named : key = "plural") (plural : Option String) : Puts key j fun m => { m with plural }
  | member : Puts key j (keep key j)

theorem puts_of_put? {key : String} {j : Json} {put : ModelMapping → ModelMapping}
    (taken : put? fields keep (key, j) = some put) : Puts key j put := by
  unfold fields at taken
  by_cases model : key = "model"
  · subst model
    rw [put?_cons_of_eq rfl] at taken
    cases j with
    | text s =>
      cases taken
      exact .model rfl s
    | _ => cases taken
  rw [put?_cons_of_ne model] at taken
  by_cases plural : key = "plural"
  · subst plural
    rw [put?_cons_of_eq rfl] at taken
    cases j with
    | null =>
      cases taken
      exact .plural rfl none
    | text s =>
      cases taken
      exact .plural rfl (some s)
    | _ => cases taken
  · rw [put?_cons_of_ne plural, put?_nil] at taken
    cases taken
    exact .member

theorem orderless_fields : Orderless fields keep := by
  rintro ⟨key, j⟩ ⟨key', j'⟩ put put' other taken taken' m
  cases puts_of_put? taken with
  | model named model =>
    cases puts_of_put? taken' with
    | model named' => exact absurd (named.trans named'.symm) other
    | plural | member => rfl
  | plural named plural =>
    cases puts_of_put? taken' with
    | plural named' => exact absurd (named.trans named'.symm) other
    | model | member => rfl
  | member =>
    cases puts_of_put? taken' with
    | model | plural => rfl
    | member => simp only [keep, insertMember_comm other]

theorem agrees_fields : ∀ f ∈ fields, f.decoder.Agrees := by
  intro f member
  rcases List.mem_cons.mp member with rfl | member
  · exact agrees_text.required _ _
  · rw [List.mem_singleton.mp member]
    exact Agrees.defaulted agrees_text.optional _ _

theorem agrees_decoder : decoder.Agrees := agrees_openRecord _ orderless_fields agrees_fields

/-- Values that differ at most in the order of the members of one object. -/
inductive SameMembers : Json → Json → Prop where
  | same (j : Json) : SameMembers j j
  | object {members members' : List (String × Json)} (perm : members.Perm members')
      (distinct : (members.map Prod.fst).Nodup) : SameMembers (.object members) (.object members')

theorem toOption_of_sameMembers {j j' : Json} (same : SameMembers j j') :
    (decoder.ofValue j').toOption = (decoder.ofValue j).toOption := by
  cases same with
  | same => rfl
  | object perm distinct => exact toOption_ofMembers_perm orderless_fields perm distinct

theorem mapM_of_sameMembers {items items' : List Json} (each : List.Forall₂ SameMembers items items') :
    (items'.mapM fun j => (decoder.ofValue j).toOption) =
      items.mapM fun j => (decoder.ofValue j).toOption := by
  induction each with
  | nil => rfl
  | cons same _ ih => rw [List.mapM_cons, List.mapM_cons, toOption_of_sameMembers same, ih]

/-- Lists of mappings in another order, the members of each in another order. -/
inductive Reordered : Json → Json → Prop where
  | array {items between items' : List Json} (each : List.Forall₂ SameMembers items between)
      (perm : between.Perm items') : Reordered (.array items) (.array items')

theorem rel_of_reordered {j j' : Json} (reordered : Reordered j j') :
    Option.Rel List.Perm ((list decoder).ofValue j).toOption ((list decoder).ofValue j').toOption := by
  cases reordered with
  | array each perm =>
    simp only [list]
    rw [toOption_mapM, toOption_mapM, ← mapM_of_sameMembers each]
    exact rel_mapM_perm perm

end ModelMapping

namespace ModelDescription

/-- Descriptions that differ at most in the order of their mappings and of the members of each. -/
def Reordered : Json → Json → Prop :=
  Within "mappings" (Within "modelOperations" ModelMapping.Reordered)

theorem agrees_mappingsDecoder : mappingsDecoder.Agrees := by
  refine agrees_record _ orderless_single fun f member => ?_
  rw [List.mem_singleton.mp member]
  exact Agrees.defaulted ModelMapping.agrees_decoder.list _ _

theorem agrees_decoder : decoder.Agrees := by
  refine Agrees.map (agrees_record _ orderless_single fun f member => ?_) _
  rw [List.mem_singleton.mp member]
  exact Agrees.required agrees_mappingsDecoder _ _

theorem toOption_ofText {text : String} {j : Json} (held : parseDistinct text = .ok j) :
    (ofText text).toOption = (ofJson j).toOption := agrees_decoder.parse held

def ofMappings (mappings : List ModelMapping) : ModelDescription :=
  ⟨mappings.flatMap ModelMapping.operations⟩

def mappings (j : Json) : Except Fault (List ModelMapping) :=
  (Decoder.record "Dmmf" [only "mappings" true mappingsDecoder] []).ofValue j

theorem toOption_ofJson (j : Json) : (ofJson j).toOption = (mappings j).toOption.map ofMappings := by
  change (((mappings j).map ofMappings).mapError _).toOption = _
  cases mappings j <;> rfl

theorem rel_mappings {j j' : Json} (reordered : Reordered j j') :
    Option.Rel List.Perm (mappings j).toOption (mappings j').toOption :=
  rel_record .refl (fun _ _ inside => rel_record .refl (fun _ _ => ModelMapping.rel_of_reordered) inside)
    reordered

/-- Neither the order of mappings nor that of their members shows in the operations. -/
theorem operations_of_reordered {j j' : Json} (reordered : Reordered j j') :
    Option.Rel (fun d d' : ModelDescription => d.operations.Perm d'.operations)
      (ofJson j).toOption (ofJson j').toOption := by
  rw [toOption_ofJson, toOption_ofJson]
  have related := rel_mappings reordered
  generalize (mappings j).toOption = ms at related
  generalize (mappings j').toOption = ms' at related
  cases related with
  | none => exact .none
  | some perm => exact .some (perm.flatMap_right _)

end ModelDescription

end ShieldPolicy
