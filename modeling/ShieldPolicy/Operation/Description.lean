import ShieldPolicy.Json.Decoder
import ShieldPolicy.Operation

/-!
# The model description as JSON

A description is an object whose member `mappings` lists under `modelOperations` one object per
model. Apart from `model` and `plural`, each of its members whose value is a text is an operation:
the key is the kind and the text the name.
-/

namespace ShieldPolicy

structure ModelMapping where
  model : String := ""
  plural : Option String := none
  members : List (String × Json) := []
deriving Inhabited

namespace ModelMapping

def fields : List (Json.Decoder.Field ModelMapping) :=
  [ .required "model" .text fun model m => { m with model },
    .defaulted "plural" (.optional .text) fun plural m => { m with plural } ]

def keep (key : String) (value : Json) (m : ModelMapping) : ModelMapping :=
  { m with members := Json.insertMember key value m.members }

def decoder : Json.Decoder ModelMapping := .openRecord "ModelMapping" fields keep {}

/-- One operation for each member that is a text. -/
def operations (m : ModelMapping) : List Operation :=
  m.members.filterMap fun (kind, value) => value.text?.map fun name => ⟨m.model, kind, name⟩

end ModelMapping

namespace ModelDescription

def mappingsDecoder : Json.Decoder (List ModelMapping) :=
  .record "Mappings" [.defaulted "modelOperations" (.list ModelMapping.decoder) fun ms _ => ms] []

def decoder : Json.Decoder ModelDescription :=
  (Json.Decoder.record "Dmmf" [.required "mappings" mappingsDecoder fun ms _ => ms] []).map
    fun mappings => ⟨mappings.flatMap ModelMapping.operations⟩

def ofJson (j : Json) : Except Json.Error ModelDescription := decoder.decode j

def ofText (text : String) : Except Json.Error ModelDescription := decoder.parse text

end ModelDescription

end ShieldPolicy
