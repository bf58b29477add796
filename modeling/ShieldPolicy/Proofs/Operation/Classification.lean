import Mathlib.Data.List.Dedup
import ShieldPolicy.Generation
import ShieldPolicy.Proofs.Names

/-!
Classified operations. Every operation is in one bucket or is ignored: `classify_eq` says which
names come in which bucket, and `Lists` what the bucket holds once it is in order.
-/

namespace ShieldPolicy

variable {v : Vocabulary} {b : Bucket} {operations : List Operation} {name : String}

namespace Vocabulary

/-! ### The buckets of operations -/

def namesIn (v : Vocabulary) (b : Bucket) (operations : List Operation) : List String :=
  (operations.filter fun o => v.bucket? o.kind == some b).map Operation.name

def unknown (v : Vocabulary) (operations : List Operation) : List Operation :=
  operations.filter fun o => (v.bucket? o.kind).isNone

theorem foldl_push (buckets : OperationBuckets) :
    operations.foldl (fun buckets o => buckets.push o.name (v.bucket? o.kind)) buckets =
      { queries := buckets.queries ++ v.namesIn .query operations
        mutations := buckets.mutations ++ v.namesIn .mutation operations
        subscriptions := buckets.subscriptions ++ v.namesIn .subscription operations
        ignored := buckets.ignored + (v.unknown operations).length } := by
  induction operations generalizing buckets with
  | nil => simp [namesIn, unknown]
  | cons o operations ih =>
    rw [List.foldl_cons, ih]
    cases known : v.bucket? o.kind with
    | none => simp [namesIn, unknown, OperationBuckets.push, known, Nat.add_assoc, Nat.add_comm 1]
    | some b => cases b <;> simp [namesIn, unknown, OperationBuckets.push, known]

theorem classify_eq (v : Vocabulary) (operations : List Operation) : v.classify operations =
    { queries := v.namesIn .query operations
      mutations := v.namesIn .mutation operations
      subscriptions := v.namesIn .subscription operations
      ignored := (v.unknown operations).length } := by
  rw [classify, foldl_push]
  simp

theorem ignored_classify (v : Vocabulary) (operations : List Operation) :
    (v.classify operations).ignored = operations.countP fun o => v.bucket? o.kind = none := by
  rw [classify_eq, List.countP_eq_length_filter]
  refine congrArg List.length (List.filter_congr fun o _ => ?_)
  cases v.bucket? o.kind <;> rfl

/-! ### The names in a bucket -/

/-- The names of the operations in a bucket, strictly ascending by their bytes. -/
structure Lists (v : Vocabulary) (b : Bucket) (operations : List Operation)
    (names : List String) : Prop where
  ascending : names.Pairwise fun a b => utf8 a < utf8 b
  mem_iff : ∀ {name}, name ∈ names ↔ ∃ o ∈ operations, v.bucket? o.kind = some b ∧ o.name = name

theorem mem_namesIn : name ∈ v.namesIn b operations ↔
    ∃ o ∈ operations, v.bucket? o.kind = some b ∧ o.name = name := by
  simp [namesIn, and_assoc]

theorem lists_classify (v : Vocabulary) (b : Bucket) (operations : List Operation) :
    v.Lists b operations ((v.classify operations).sorted.names b) := by
  have sorted : (v.classify operations).sorted.names b = sortedNames (v.namesIn b operations) := by
    rw [classify_eq]
    cases b <;> rfl
  rw [sorted]
  exact ⟨(sortedNames_ascending _).imp utf8_lt, mem_sortedNames.trans mem_namesIn⟩

theorem bucket?_ne_subscription (v : Vocabulary) (kind : String) :
    v.bucket? kind ≠ some .subscription := by
  unfold bucket?
  split
  · nofun
  · split <;> nofun

theorem namesIn_subscription (v : Vocabulary) (operations : List Operation) :
    v.namesIn .subscription operations = [] := by
  refine List.eq_nil_iff_forall_not_mem.mpr fun name member => ?_
  obtain ⟨o, -, known, -⟩ := mem_namesIn.mp member
  exact bucket?_ne_subscription v o.kind known

end Vocabulary

namespace Generation

variable {σ : Type} [Machine (StateM σ)]

/-- What is not known is logged on the way, and nothing else is done besides. -/
theorem classify_eq (logger : Logger) (v : Vocabulary) (operations : List Operation) :
    (classify logger v operations : StateM σ _) = do
      logger.logAll ((v.unknown operations).map .unknownKind)
      return v.classify operations := by
  unfold classify Vocabulary.classify
  generalize ({} : OperationBuckets) = buckets
  induction operations generalizing buckets with
  | nil => rfl
  | cons o operations ih =>
    rw [List.foldlM_cons, List.foldl_cons]
    cases known : v.bucket? o.kind with
    | none =>
      have first : v.unknown (o :: operations) = o :: v.unknown operations := by
        simp [Vocabulary.unknown, known]
      rw [first, List.map_cons, Logger.logAll]
      simp only [Option.isNone_none, if_true, bind_assoc, pure_bind]
      exact bind_congr fun _ => ih _
    | some b =>
      have later : v.unknown (o :: operations) = v.unknown operations := by
        simp [Vocabulary.unknown, known]
      rw [later]
      exact ih _

end Generation

theorem ModelDescription.length_models (d : ModelDescription) :
    d.models.length = (d.operations.map Operation.model).dedup.length := by
  refine ((List.perm_ext_iff_of_nodup (sortedNames_nodup _) (List.nodup_dedup _)).mpr
    fun model => ?_).length_eq
  rw [mem_sortedNames, List.mem_dedup]

end ShieldPolicy
