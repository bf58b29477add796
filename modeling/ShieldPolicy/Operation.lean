import ShieldPolicy.Names

/-!
# Operations of a data model

The client generator exposes operations of each model: an entry names the model, the kind of
operation and the generated operation itself.
-/

namespace ShieldPolicy

structure Operation where
  model : String
  /-- What the operation does, such as `findUnique` or `createOne`. -/
  kind : String
  /-- The generated operation, usually the kind followed by the model. -/
  name : String
deriving DecidableEq, Inhabited

structure ModelDescription where
  operations : List Operation := []
deriving DecidableEq, Inhabited

def ModelDescription.models (d : ModelDescription) : List String :=
  sortedNames (d.operations.map Operation.model)

end ShieldPolicy
