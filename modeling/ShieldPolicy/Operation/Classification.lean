import ShieldPolicy.Operation.Vocabulary

/-!
# Classification of operations

The operations of a description are sorted into buckets by what they do, and each bucket is then put
in order. What the vocabulary does not know is only counted.
-/

namespace ShieldPolicy

/-- The names of operations by bucket, as they came, and how many were not known. -/
structure OperationBuckets where
  queries : List String := []
  mutations : List String := []
  subscriptions : List String := []
  ignored : Nat := 0
deriving DecidableEq

/-- The names of operations by bucket, each bucket strictly ascending. -/
structure OperationSet where
  queries : List String := []
  mutations : List String := []
  subscriptions : List String := []
deriving DecidableEq

def OperationSet.names (set : OperationSet) : Bucket → List String
  | .query => set.queries
  | .mutation => set.mutations
  | .subscription => set.subscriptions

def OperationSet.isEmpty (set : OperationSet) : Bool :=
  set.queries.isEmpty && set.mutations.isEmpty && set.subscriptions.isEmpty

def OperationBuckets.sorted (buckets : OperationBuckets) : OperationSet where
  queries := sortedNames buckets.queries
  mutations := sortedNames buckets.mutations
  subscriptions := sortedNames buckets.subscriptions

def OperationBuckets.push (buckets : OperationBuckets) (name : String) :
    Option Bucket → OperationBuckets
  | some .query => { buckets with queries := buckets.queries ++ [name] }
  | some .mutation => { buckets with mutations := buckets.mutations ++ [name] }
  | some .subscription => { buckets with subscriptions := buckets.subscriptions ++ [name] }
  | none => { buckets with ignored := buckets.ignored + 1 }

def Vocabulary.classify (v : Vocabulary) (operations : List Operation) : OperationBuckets :=
  operations.foldl (fun buckets o => buckets.push o.name (v.bucket? o.kind)) {}

end ShieldPolicy
