import Mathlib.Data.List.Basic
import ShieldPolicy.Proofs.Names
import ShieldPolicy.Proofs.Policy.ReadBack

/-!
What the text of a policy says. It holds one section for each bucket that is not empty, and the
sections and the specifier are read back from it whatever they are, as long as they break no line:
`text_determines`. So different sets of operations, or different specifiers, have different texts.
-/

namespace ShieldPolicy

variable {buckets buckets' : OperationBuckets} {b : Bucket}

theorem sortedNames_eq_nil_iff {names : List String} : sortedNames names = [] ↔ names = [] := by
  simp only [List.eq_nil_iff_forall_not_mem, mem_sortedNames]

namespace OperationBuckets

def names (buckets : OperationBuckets) : Bucket → List String
  | .query => buckets.queries
  | .mutation => buckets.mutations
  | .subscription => buckets.subscriptions

def Unbroken (buckets : OperationBuckets) : Prop :=
  ∀ b, ∀ name ∈ buckets.names b, '\n' ∉ name.toList

theorem names_sorted (buckets : OperationBuckets) (b : Bucket) :
    buckets.sorted.names b = sortedNames (buckets.names b) := by
  cases b <;> rfl

theorem sorted_congr (same : ∀ b, sortedNames (buckets'.names b) = sortedNames (buckets.names b)) :
    buckets'.sorted = buckets.sorted := by
  have queries := same .query
  have mutations := same .mutation
  have subscriptions := same .subscription
  simp only [names] at queries mutations subscriptions
  simp only [sorted, queries, mutations, subscriptions]

end OperationBuckets

namespace Policy

variable {specifier specifier' : String} {p p' : Policy} {s : PolicySection}

/-! ### Sections -/

/-- One section for each bucket that holds a name, with its names in order. -/
def sectionsFor (buckets : OperationBuckets) : List PolicySection :=
  Bucket.all.filterMap fun b =>
    if buckets.names b = [] then none else some ⟨b, sortedNames (buckets.names b)⟩

theorem filterMap_of?_sorted (buckets : OperationBuckets) :
    Bucket.all.filterMap (PolicySection.of? buckets.sorted) = sectionsFor buckets := by
  refine congrArg (List.filterMap · Bucket.all) (funext fun b => ?_)
  simp only [PolicySection.of?, buckets.names_sorted, List.isEmpty_iff, sortedNames_eq_nil_iff]

theorem mem_all (b : Bucket) : b ∈ Bucket.all := by
  cases b <;> decide

theorem mem_sectionsFor : s ∈ sectionsFor buckets ↔
    buckets.names s.bucket ≠ [] ∧ s.names = sortedNames (buckets.names s.bucket) := by
  simp only [sectionsFor, List.mem_filterMap, Option.ite_none_left_eq_some, Option.some.injEq]
  constructor
  · rintro ⟨b, -, some, rfl⟩
    exact ⟨some, rfl⟩
  · rintro ⟨some, names⟩
    exact ⟨s.bucket, mem_all _, some, by rw [← names]⟩

theorem sectionsFor_eq_nil_iff : sectionsFor buckets = [] ↔ ∀ b, buckets.names b = [] := by
  simp only [sectionsFor, List.filterMap_eq_nil_iff, mem_all, true_implies,
    ite_eq_left_iff, reduceCtorEq, imp_false, not_not]

theorem map_bucket_sectionsFor (buckets : OperationBuckets) :
    (sectionsFor buckets).map PolicySection.bucket =
      Bucket.all.filter fun b => buckets.names b ≠ [] := by
  rw [sectionsFor, List.map_filterMap, ← List.filterMap_eq_filter]
  refine congrArg (List.filterMap · Bucket.all) (funext fun b => ?_)
  by_cases none : buckets.names b = [] <;> simp [none, Option.guard]

theorem ofOperations?_eq_none_iff :
    ofOperations? buckets.sorted specifier = none ↔ ∀ b, buckets.names b = [] := by
  rw [ofOperations?, filterMap_of?_sorted, ← sectionsFor_eq_nil_iff]
  split
  · rename_i nil
    exact iff_of_true rfl nil
  · rename_i some
    exact iff_of_false nofun some

theorem eq_of_ofOperations? (built : ofOperations? buckets.sorted specifier = some p) :
    p = ⟨specifier, sectionsFor buckets⟩ := by
  rw [ofOperations?, filterMap_of?_sorted] at built
  split at built
  · cases built
  · exact (Option.some.inj built).symm

theorem sorted_eq_of_sectionsFor (same : sectionsFor buckets' = sectionsFor buckets) :
    buckets'.sorted = buckets.sorted := by
  refine OperationBuckets.sorted_congr fun b => ?_
  by_cases none : buckets.names b = []
  · by_cases none' : buckets'.names b = []
    · rw [none, none']
    · have member : ⟨b, sortedNames (buckets'.names b)⟩ ∈ sectionsFor buckets :=
        same ▸ mem_sectionsFor.mpr ⟨none', rfl⟩
      exact absurd none (mem_sectionsFor.mp member).1
  · have member : ⟨b, sortedNames (buckets.names b)⟩ ∈ sectionsFor buckets' :=
      same ▸ mem_sectionsFor.mpr ⟨none, rfl⟩
    exact (mem_sectionsFor.mp member).2.symm

/-! ### Lines -/

theorem openLine_injective {b b' : Bucket}
    (same : PolicySection.openLine b = PolicySection.openLine b') : b = b' := by
  have read := bucketOf?_openLine b
  rw [same, bucketOf?_openLine] at read
  exact (Option.some.inj read).symm

theorem count_section (s : PolicySection) (b : Bucket) :
    s.lines.count (PolicySection.openLine b) = if s.bucket = b then 1 else 0 := by
  have name (name : String) : PolicySection.nameLine name ≠ PolicySection.openLine b := by
    intro same
    have same := congrArg String.toList same
    cases b <;> simp [PolicySection.nameLine, PolicySection.openLine, Bucket.key] at same
  have names : (s.names.map PolicySection.nameLine).count (PolicySection.openLine b) = 0 := by
    refine List.count_eq_zero.mpr fun member => ?_
    obtain ⟨text, -, same⟩ := List.mem_map.mp member
    exact name text same
  have close : PolicySection.closeLine ≠ PolicySection.openLine b := by
    cases b <;> decide
  rw [PolicySection.lines, List.count_append, List.count_cons, names, List.count_singleton]
  by_cases same : s.bucket = b
  · simp [same, close]
  · have other : PolicySection.openLine s.bucket ≠ PolicySection.openLine b := fun line =>
      same (openLine_injective line)
    simp [same, other, close]

theorem count_lines (p : Policy) (b : Bucket) :
    p.lines.count (PolicySection.openLine b) = (p.sections.map PolicySection.bucket).count b := by
  have head : [rulesImport, contextImport p.specifier, "", openLine].count
      (PolicySection.openLine b) = 0 := by
    refine List.count_eq_zero.mpr fun member => ?_
    simp only [List.mem_cons, List.not_mem_nil, or_false] at member
    rcases member with same | same | same | same
    · cases b <;> exact absurd same (by decide)
    · have same := congrArg String.toList same
      rw [toList_contextImport] at same
      cases b <;> simp [PolicySection.openLine, contextPrefix] at same
    · cases b <;> exact absurd same (by decide)
    · cases b <;> exact absurd same (by decide)
  have last : [closeLine].count (PolicySection.openLine b) = 0 := by
    cases b <;> decide
  rw [lines, List.count_append, List.count_append, head, last, Nat.zero_add, Nat.add_zero]
  induction p.sections with
  | nil => rfl
  | cons s rest ih =>
    rw [List.flatMap_cons, List.count_append, ih, count_section, List.map_cons, List.count_cons,
      Nat.add_comm]
    simp only [beq_iff_eq]

theorem nodup_buckets (buckets : OperationBuckets) :
    ((sectionsFor buckets).map PolicySection.bucket).Nodup := by
  rw [map_bucket_sectionsFor]
  exact List.Pairwise.filter _ (by decide)

theorem unbroken_sectionsFor (unbroken : buckets.Unbroken) :
    ∀ s ∈ sectionsFor buckets, ∀ name ∈ s.names, '\n' ∉ name.toList := by
  intro s member name named
  rw [(mem_sectionsFor.mp member).2, mem_sortedNames] at named
  exact unbroken s.bucket name named

theorem render_eq_append (p : Policy) : ∃ before, p.render = before ++ "\n" := by
  refine ⟨String.join ((p.lines.dropLast).map fun line => line ++ "\n") ++ closeLine, ?_⟩
  rw [render, lines, List.dropLast_concat, List.map_append, String.ext_iff]
  simp

/-- There is a policy unless every bucket is empty, and its text tells the specifier and, for each
bucket in turn, whether it has a section and which names stand in that. Each line is ended, no
section is empty and none opens twice. So texts differ where specifiers or sets do. -/
theorem text_determines (unbroken : '\n' ∉ specifier.toList) (names : buckets.Unbroken) :
    (ofOperations? buckets.sorted specifier = none ↔ ∀ b, buckets.names b = []) ∧
    ∀ p, ofOperations? buckets.sorted specifier = some p →
      read? p.render = some ⟨specifier, Bucket.all.filterMap fun b =>
        if buckets.names b = [] then none else some ⟨b, buckets.sorted.names b⟩⟩ ∧
      linesOf? p.render = some (p.lines.map String.toList) ∧
      (∃ before, p.render = before ++ "\n") ∧
      (∀ s ∈ p.sections, s.names ≠ []) ∧ (p.sections.map PolicySection.bucket).Nodup ∧
      (∀ b, p.lines.count (PolicySection.openLine b) = if buckets.names b = [] then 0 else 1) ∧
      ∀ specifier' buckets' p', '\n' ∉ specifier'.toList → OperationBuckets.Unbroken buckets' →
        ofOperations? buckets'.sorted specifier' = some p' → p'.render = p.render →
        specifier' = specifier ∧ buckets'.sorted = buckets.sorted := by
  refine ⟨ofOperations?_eq_none_iff, fun p built => ?_⟩
  have same := eq_of_ofOperations? built
  subst same
  have read := read?_render (p := ⟨specifier, sectionsFor buckets⟩) unbroken
    (unbroken_sectionsFor names)
  refine ⟨?_, linesOf?_join (newline_not_mem_lines unbroken (unbroken_sectionsFor names)),
    render_eq_append _, fun s member => ?_, nodup_buckets buckets, fun b => ?_, ?_⟩
  · simp only [OperationBuckets.names_sorted]
    exact read
  · obtain ⟨some, same⟩ := mem_sectionsFor.mp member
    rwa [same, ne_eq, sortedNames_eq_nil_iff]
  · rw [count_lines, (nodup_buckets buckets).count]
    simp [map_bucket_sectionsFor, mem_all]
  · intro specifier' buckets' p' unbroken' names' built' texts
    have same := eq_of_ofOperations? built'
    subst same
    have read' := read?_render (p := ⟨specifier', sectionsFor buckets'⟩) unbroken'
      (unbroken_sectionsFor names')
    rw [texts, read] at read'
    obtain ⟨specifiers, sections⟩ := Policy.mk.inj (Option.some.inj read')
    exact ⟨specifiers.symm, sorted_eq_of_sectionsFor sections.symm⟩

/-- Names that look like what stands around them, or are empty. -/
def trickyBuckets : OperationBuckets where
  queries := ["\x7d,", "", ": allow,", "  mutation: \x7b", "\x7d);"]
  subscriptions := ["'; import x from '", "", ""]

theorem text_determines_tricky : ∃ p, ofOperations? trickyBuckets.sorted "it's" = some p ∧
    read? p.render = some ⟨"it's", [⟨.query, sortedNames trickyBuckets.queries⟩,
      ⟨.subscription, sortedNames trickyBuckets.subscriptions⟩]⟩ := by
  have unbroken : trickyBuckets.Unbroken := by
    intro b
    cases b <;> decide
  have specifier : '\n' ∉ "it's".toList := by decide
  obtain ⟨empty, holds⟩ := text_determines specifier unbroken
  cases built : ofOperations? trickyBuckets.sorted "it's" with
  | none => exact absurd (empty.mp built .query) (by decide)
  | some p => exact ⟨p, rfl, (holds p built).1⟩

end Policy

end ShieldPolicy
