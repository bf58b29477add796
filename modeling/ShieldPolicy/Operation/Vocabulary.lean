import ShieldPolicy.Generation.Failure
import ShieldPolicy.Operation

/-!
# Vocabularies of operation kinds

What an operation does follows from its kind. Older clients write single records by kinds such as
`create`, newer ones by `createOne`; all else they share. The vocabulary is chosen by the client's
version, or, where none is known, by the kinds that a description uses.
-/

namespace ShieldPolicy

inductive Bucket where
  | query
  | mutation
  /-- No kind of operation belongs here yet. -/
  | subscription
deriving DecidableEq

inductive Vocabulary where
  /-- The client's majors 2 to 4. -/
  | legacy
  /-- The client's majors 5 and 6. -/
  | current
deriving DecidableEq

namespace Vocabulary

def queryKinds : List String := ["findUnique", "findFirst", "findMany", "aggregate", "groupBy"]

def mutationKinds : Vocabulary → List String
  | .legacy => ["create", "update", "delete", "upsert", "updateMany", "deleteMany"]
  | .current => ["createOne", "updateOne", "deleteOne", "upsertOne", "updateMany", "deleteMany"]

def onlyKinds : Vocabulary → List String
  | .legacy => ["create", "update", "delete", "upsert"]
  | .current => ["createOne", "updateOne", "deleteOne", "upsertOne"]

def bucket? (v : Vocabulary) (kind : String) : Option Bucket :=
  if queryKinds.contains kind then some .query
  else if v.mutationKinds.contains kind then some .mutation
  else none

def ofMajor? (major : Nat) : Option Vocabulary :=
  if 2 ≤ major ∧ major ≤ 4 then some .legacy
  else if 5 ≤ major ∧ major ≤ 6 then some .current
  else none

def majorOf (p : Provider) : Except ConfigurationError (Option Nat) :=
  match p.version with
  | none => .ok none
  | some version =>
    match Provider.majorOf? version with
    | some major => .ok (some major)
    | none => .error (.unsupportedVersion p.name version)

def ofProvider (p : Provider) : Except ConfigurationError (Option Vocabulary) := do
  if !p.isCompanion then throw (.unsupportedProvider p.name)
  match ← majorOf p with
  | none => return none
  | some major =>
    match ofMajor? major with
    | some v => return some v
    | none => throw (.unsupportedVersion p.name (p.version.getD ""))

/-- The vocabulary that these operations use. Operations that both vocabularies know tell nothing;
without any other the newer one is taken. -/
def detect (p : Provider) (operations : List Operation) : Except ConfigurationError Vocabulary :=
  let uses (kinds : List String) : Bool := operations.any fun o => kinds.contains o.kind
  match uses legacy.onlyKinds, uses current.onlyKinds with
  | true, true => .error (.mixedVocabularies p.name)
  | true, false => .ok .legacy
  | false, _ => .ok .current

end Vocabulary

end ShieldPolicy
