import ShieldPolicy.Proofs.Operation.Classification

/-!
The vocabulary that is found in a list of operations. Each vocabulary has kinds that the other does
not know, `Peculiar`; any other kind is in the same bucket in both. So a vocabulary loses no
operation when no kind is peculiar to the other: `detect_loses_nothing`.
-/

namespace ShieldPolicy.Vocabulary

variable {v w : Vocabulary} {b : Bucket} {kind : String} {p : Provider} {operations : List Operation}
  {e : ConfigurationError}

/-! ### Kinds that one vocabulary knows alone -/

/-- Whether this vocabulary knows a kind and no other does. -/
def Peculiar (v : Vocabulary) (kind : String) : Prop :=
  (v.bucket? kind).isSome ∧ ∀ w ≠ v, w.bucket? kind = none

theorem exists_ne (v : Vocabulary) : ∃ w, w ≠ v := by
  cases v with
  | legacy => exact ⟨.current, nofun⟩
  | current => exact ⟨.legacy, nofun⟩

theorem onlyKinds_eq (other : w ≠ v) :
    v.onlyKinds = v.mutationKinds.filter fun kind => !w.mutationKinds.contains kind := by
  cases v <;> cases w
  case legacy.legacy | current.current => exact absurd rfl other
  all_goals decide

theorem bucket?_isSome_iff :
    (v.bucket? kind).isSome ↔ kind ∈ queryKinds ∨ kind ∈ v.mutationKinds := by
  rw [bucket?]
  split
  · simp_all
  · split <;> simp_all

theorem not_mem_queryKinds (member : kind ∈ v.mutationKinds) : kind ∉ queryKinds := by
  have apart : ∀ kind ∈ v.mutationKinds, kind ∉ queryKinds := by
    cases v <;> decide
  exact apart kind member

theorem peculiar_iff : v.Peculiar kind ↔ kind ∈ v.onlyKinds := by
  obtain ⟨w, other⟩ := exists_ne v
  rw [onlyKinds_eq other, List.mem_filter]
  constructor
  · rintro ⟨known, alone⟩
    have unknown : ¬ (w.bucket? kind).isSome := by simp [alone w other]
    rw [bucket?_isSome_iff, not_or] at unknown
    exact ⟨(bucket?_isSome_iff.mp known).resolve_left unknown.1, by simpa using unknown.2⟩
  · rintro ⟨member, outside⟩
    refine ⟨bucket?_isSome_iff.mpr (.inr member), fun w' other' => ?_⟩
    have same : w' = w := by
      cases v <;> cases w <;> cases w' <;> first | rfl | contradiction
    rw [same, ← Option.not_isSome_iff_eq_none, bucket?_isSome_iff, not_or]
    exact ⟨not_mem_queryKinds member, by simpa using outside⟩

theorem bucket?_eq (shared : ¬ v.Peculiar kind) (shared' : ¬ w.Peculiar kind) :
    w.bucket? kind = v.bucket? kind := by
  by_cases same : w = v
  · rw [same]
  rw [peculiar_iff, onlyKinds_eq same, List.mem_filter] at shared
  rw [peculiar_iff, onlyKinds_eq (Ne.symm same), List.mem_filter] at shared'
  have both : kind ∈ v.mutationKinds ↔ kind ∈ w.mutationKinds := by
    simp only [Bool.not_eq_true', List.contains_eq_mem, decide_eq_false_iff_not, not_and,
      not_not] at shared shared'
    exact ⟨shared, shared'⟩
  simp only [bucket?, List.contains_eq_mem, both]

theorem bucket?_of_not_peculiar (shared : ¬ w.Peculiar kind) (known : w.bucket? kind = some b) :
    v.bucket? kind = some b := by
  by_cases same : w = v
  · rw [← same, known]
  have shared' : ¬ v.Peculiar kind := by
    intro alone
    rw [alone.2 w same] at known
    cases known
  rw [bucket?_eq shared shared', known]

/-! ### The vocabulary that is found -/

theorem any_contains_iff :
    (operations.any fun o => v.onlyKinds.contains o.kind) = true ↔
      ∃ o ∈ operations, v.Peculiar o.kind := by
  simp only [List.any_eq_true, List.contains_iff_mem, peculiar_iff]

theorem any_contains_eq_false :
    (operations.any fun o => v.onlyKinds.contains o.kind) = false ↔
      ∀ o ∈ operations, ¬ v.Peculiar o.kind := by
  rw [← Bool.not_eq_true, any_contains_iff]
  simp only [not_exists, not_and]

theorem detect_eq_error_iff : detect p operations = .error e ↔
    e = .mixedVocabularies p.name ∧ (∃ o ∈ operations, Peculiar .legacy o.kind) ∧
      ∃ o ∈ operations, Peculiar .current o.kind := by
  rw [← any_contains_iff, ← any_contains_iff]
  unfold detect
  dsimp only
  generalize (operations.any fun o => Vocabulary.legacy.onlyKinds.contains o.kind) = older
  generalize (operations.any fun o => Vocabulary.current.onlyKinds.contains o.kind) = newer
  cases older <;> cases newer <;> simp [eq_comm]

theorem not_peculiar_of_detect (found : detect p operations = .ok v) :
    ∀ o ∈ operations, ∀ w ≠ v, ¬ w.Peculiar o.kind := by
  unfold detect at found
  dsimp only at found
  split at found
  · cases found
  · cases found
    rename_i newer
    intro o member w other
    cases w with
    | legacy => exact absurd rfl other
    | current => exact any_contains_eq_false.mp newer o member
  · cases found
    rename_i older
    intro o member w other
    cases w with
    | legacy => exact any_contains_eq_false.mp older o member
    | current => exact absurd rfl other

/-- What any vocabulary knows, the one that is found has in the same bucket. -/
theorem bucket?_of_detect (found : detect p operations = .ok v) {o : Operation}
    (member : o ∈ operations) (known : w.bucket? o.kind = some b) : v.bucket? o.kind = some b := by
  by_cases same : w = v
  · rw [← same, known]
  · exact bucket?_of_not_peculiar (not_peculiar_of_detect found o member w same) known

theorem bucket?_none_of_detect (found : detect p operations = .ok v) {o : Operation}
    (member : o ∈ operations) (unknown : v.bucket? o.kind = none) : w.bucket? o.kind = none := by
  cases known : w.bucket? o.kind with
  | none => rfl
  | some b =>
    rw [bucket?_of_detect found member known] at unknown
    cases unknown

/-- Detection fails only on a list that uses kinds peculiar to both vocabularies. Otherwise it finds
one that puts every operation in the bucket in which any vocabulary has it: what it ignores is
unknown to both, and neither ignores less. -/
theorem detect_loses_nothing (p : Provider) (operations : List Operation) :
    (∀ e, detect p operations = .error e ↔
      e = .mixedVocabularies p.name ∧ (∃ o ∈ operations, Peculiar .legacy o.kind) ∧
        ∃ o ∈ operations, Peculiar .current o.kind) ∧
    ∀ v, detect p operations = .ok v →
      (∀ o ∈ operations, ∀ w b, bucket? w o.kind = some b → v.bucket? o.kind = some b) ∧
      (v.classify operations).ignored = operations.countP (fun o =>
        bucket? .legacy o.kind = none ∧ bucket? .current o.kind = none) ∧
      ∀ w : Vocabulary, (v.classify operations).ignored ≤ (w.classify operations).ignored := by
  refine ⟨fun e => detect_eq_error_iff, fun v found => ⟨?_, ?_, fun w => ?_⟩⟩
  · exact fun o member w b known => bucket?_of_detect found member known
  · refine (v.ignored_classify operations).trans (List.countP_congr fun o member => ?_)
    simp only [decide_eq_true_eq]
    refine ⟨fun unknown => ?_, fun ⟨older, newer⟩ => ?_⟩
    · exact ⟨bucket?_none_of_detect found member unknown, bucket?_none_of_detect found member unknown⟩
    · cases v with
      | legacy => exact older
      | current => exact newer
  · rw [ignored_classify, ignored_classify]
    refine List.countP_mono_left fun o member unknown => ?_
    exact decide_eq_true (bucket?_none_of_detect found member (of_decide_eq_true unknown))

def olderOperations : List Operation :=
  [⟨"Cart", "upsert", "upsertCart"⟩, ⟨"Cart", "findMany", "carts"⟩, ⟨"Cart", "count", "countCarts"⟩]

theorem detect_loses_nothing_older :
    detect ⟨"prisma-client", none⟩ olderOperations = .ok .legacy ∧
      (classify .legacy olderOperations).ignored = 1 ∧ (classify .current olderOperations).ignored = 2 := by
  have found : detect ⟨"prisma-client", none⟩ olderOperations = .ok .legacy := by decide
  obtain ⟨-, ignored, -⟩ := (detect_loses_nothing _ _).2 _ found
  exact ⟨found, ignored.trans (by decide), by decide⟩

end ShieldPolicy.Vocabulary
