import ShieldPolicy.Proofs.FileSystem.Place
import ShieldPolicy.Proofs.Location.Relative

/-!
How long a way from one location to another is. No step comes nearer to a target than by one,
`length_relative_le_step`, so the steps of `relative` are as few as can be: `relative_shortest`.
-/

namespace ShieldPolicy.Location

variable {base target l l' other : Location} {c : Path.Component} {way : List Path.Component}

/-! ### What two locations share -/

theorem length_le_commonLength (first : other <+: base) (second : other <+: target) :
    other.length ≤ commonLength base target := by
  induction other generalizing base target with
  | nil => exact Nat.zero_le _
  | cons a other ih =>
    obtain ⟨rest, rfl⟩ := first
    obtain ⟨rest', rfl⟩ := second
    rw [List.cons_append, List.cons_append, commonLength, if_pos rfl]
    exact Nat.succ_le_succ (ih (List.prefix_append _ _) (List.prefix_append _ _))

theorem commonLength_concat (l target : Location) (name : String) :
    commonLength l target ≤ commonLength (l ++ [name]) target ∧
      commonLength (l ++ [name]) target ≤ commonLength l target + 1 := by
  induction l generalizing target with
  | nil =>
    refine ⟨by simp [commonLength], ?_⟩
    exact Nat.le_trans (commonLength_le [name] target).1 (Nat.le_add_left _ _)
  | cons a l ih =>
    cases target with
    | nil => simp [commonLength]
    | cons b target =>
      obtain ⟨less, more⟩ := ih target
      rw [List.cons_append, commonLength, commonLength]
      split
      · exact ⟨Nat.succ_le_succ less, Nat.succ_le_succ more⟩
      · exact ⟨Nat.le_refl _, Nat.zero_le _⟩

/-! ### Steps -/

theorem length_relative (base target : Location) : (relative base target).length =
    base.length - commonLength base target + (target.length - commonLength base target) := by
  rw [relative, List.length_append, List.length_replicate, List.length_map, List.length_drop]

theorem length_relative_le_step (plain : c = .parent ∨ ∃ name, c = .name name) :
    (relative l target).length ≤ (relative (stepClamped l c) target).length + 1 := by
  have concat (l : Location) (name : String) :
      (relative l target).length ≤ (relative (l ++ [name]) target).length + 1 ∧
        (relative (l ++ [name]) target).length ≤ (relative l target).length + 1 := by
    obtain ⟨less, more⟩ := commonLength_concat l target name
    obtain ⟨short, short'⟩ := commonLength_le l target
    obtain ⟨-, long⟩ := commonLength_le (l ++ [name]) target
    rw [length_relative, length_relative, List.length_append, List.length_singleton]
    omega
  obtain rfl | ⟨name, rfl⟩ := plain
  · by_cases root : l = []
    · rw [root]
      exact Nat.le_succ _
    · have back := (concat l.dropLast (l.getLast root)).2
      rwa [List.dropLast_concat_getLast] at back
  · exact (concat l name).1

/-- A way takes at least as many steps as it comes nearer to the target. -/
theorem length_relative_le (plain : ∀ c ∈ way, c = .parent ∨ ∃ name, c = .name name) :
    (relative base target).length ≤
      (relative (way.foldl stepClamped base) target).length + way.length := by
  induction way generalizing base with
  | nil => exact Nat.le_refl _
  | cons c way ih =>
    obtain ⟨first, rest⟩ := List.forall_mem_cons.mp plain
    have step : (relative base target).length ≤
        (relative (stepClamped base c) target).length + 1 := length_relative_le_step first
    have onward : (relative (stepClamped base c) target).length ≤
        (relative (way.foldl stepClamped (stepClamped base c)) target).length + way.length := ih rest
    rw [List.foldl_cons, List.length_cons]
    omega

/-! ### The shortest way -/

/-- The steps from one location to another go up to the longest location that both begin with, and
down from there by name; no more is ever taken away than there is. They lead to the target, and no
way of `..` and names that does has fewer, whether a `..` at the root stays there or leads
nowhere. -/
theorem relative_shortest (base target : Location) :
    (∃ shared up down, base = shared ++ up ∧ target = shared ++ down ∧
      (∀ other, other <+: base → other <+: target → other <+: shared) ∧
      relative base target = List.replicate up.length .parent ++ down.map .name ∧
      relative? base target = some (List.replicate up.length ".." ++ down)) ∧
    commonLength base.components target.components ≤ base.components.length ∧
    relative? base target = some ((relative base target).map Path.Component.text) ∧
    base.walk? (relative base target) = some target ∧
    (∀ way : List Path.Component, (∀ c ∈ way, c = .parent ∨ ∃ name, c = .name name) →
      base.walk? way = some target ∨ way.foldl stepClamped base = target →
      (relative base target).length ≤ way.length) ∧
    (relative? base target = some [] ↔ base = target) := by
  refine ⟨?_, (commonLength_le _ _).1, relative?_eq base target, walk?_relative base target, ?_, ?_⟩
  · have same := take_commonLength base target
    have steps : relative base target =
        List.replicate (base.drop (commonLength base target)).length .parent ++
          (target.drop (commonLength base target)).map .name := by
      rw [relative, List.length_drop]
    refine ⟨base.take (commonLength base target), base.drop (commonLength base target),
      target.drop (commonLength base target), (List.take_append_drop _ _).symm, ?_, ?_, steps, ?_⟩
    · rw [same, List.take_append_drop]
    · intro other first second
      rw [List.prefix_take_iff]
      exact ⟨first, length_le_commonLength first second⟩
    · rw [relative?_eq, steps, List.map_append, List.map_replicate, List.map_map]
      exact congrArg (fun down => some (_ ++ down)) (List.map_id _)
  · intro way plain leads
    have reached : way.foldl stepClamped base = target := by
      rcases leads with walked | reached
      · exact foldl_stepClamped_of_walk? walked
      · exact reached
    have least : (relative base target).length ≤
        (relative (way.foldl stepClamped base) target).length + way.length :=
      length_relative_le plain
    rwa [reached, relative_eq_nil_iff.mpr rfl, List.length_nil, Nat.zero_add] at least
  · rw [relative?_eq, Option.some_inj, List.map_eq_nil_iff, relative_eq_nil_iff, eq_comm]

end ShieldPolicy.Location
