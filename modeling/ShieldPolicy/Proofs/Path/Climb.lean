import ShieldPolicy.Proofs.FileSystem.Place

/-!
Paths that climb above the root. Such a path has no place: `locate?_eq_none_iff`. The place of any
other one is spelled by names that entries can have, `validName_of_mem_locate?`.
-/

namespace ShieldPolicy.Path

def Component.isName : Component → Bool
  | .name _ => true
  | _ => false

/-- Whether some first part of the steps goes up more often than it goes down. -/
def ClimbsAboveRoot (p : Path) : Prop :=
  ∃ front, front <+: p.components ∧ front.countP Component.isName < front.count .parent

variable {p : Path} {c : Component} {cs : List Component} {l l' : Location} {name : String}

/-! ### The walk -/

theorem climbs_cons_iff {n k : Nat}
    (room : ∀ front : List Component,
      n + (c :: front).countP Component.isName < (c :: front).count .parent ↔
        k + front.countP Component.isName < front.count .parent) :
    (∃ front, front <+: c :: cs ∧ n + front.countP Component.isName < front.count .parent) ↔
      ∃ front, front <+: cs ∧ k + front.countP Component.isName < front.count .parent := by
  constructor
  · rintro ⟨front, begins, up⟩
    obtain rfl | ⟨rest, rfl, begins'⟩ := List.prefix_cons_iff.mp begins
    · rw [List.count_nil] at up
      exact absurd up (Nat.not_lt_zero _)
    · exact ⟨rest, begins', (room rest).mp up⟩
  · rintro ⟨front, begins, up⟩
    exact ⟨c :: front, List.cons_prefix_cons.mpr ⟨rfl, begins⟩, (room front).mpr up⟩

theorem walk?_eq_none_iff (onward : .root ∉ cs) : l.walk? cs = none ↔
    ∃ front, front <+: cs ∧ l.length + front.countP Component.isName < front.count .parent := by
  induction cs generalizing l with
  | nil =>
    refine iff_of_false (fun none => by cases none) ?_
    rintro ⟨front, begins, up⟩
    rw [List.prefix_nil.mp begins, List.count_nil] at up
    exact Nat.not_lt_zero _ up
  | cons c cs ih =>
    rw [List.mem_cons, not_or] at onward
    rw [Location.walk?]
    cases c with
    | root => exact absurd rfl onward.1
    | current =>
      rw [climbs_cons_iff (k := l.length) fun front => by simp [Component.isName]]
      exact ih onward.2
    | name text =>
      have room (front : List Component) :
          l.length + (.name text :: front).countP Component.isName <
              (.name text :: front).count .parent ↔
            (l ++ [text]).length + front.countP Component.isName < front.count .parent := by
        simp [List.countP_cons, Component.isName]
        omega
      rw [climbs_cons_iff room]
      exact ih onward.2
    | parent =>
      by_cases root : l = []
      · subst root
        refine iff_of_true rfl ⟨[.parent], ?_, ?_⟩
        · exact List.cons_prefix_cons.mpr ⟨rfl, List.nil_prefix⟩
        · decide
      · have below : 0 < l.length := List.length_pos_iff.mpr root
        have up : l.step? .parent = some l.dropLast := by simp [Location.step?, root]
        have room (front : List Component) :
            l.length + (.parent :: front).countP Component.isName <
                (Component.parent :: front).count .parent ↔
              l.dropLast.length + front.countP Component.isName < front.count .parent := by
          simp [Component.isName]
          omega
        rw [up, climbs_cons_iff room]
        exact ih onward.2

theorem locate?_eq_none_iff : p.locate? = none ↔ p.ClimbsAboveRoot := by
  have body := walk?_eq_none_iff (l := [])
    (root_not_mem_map_ofPiece (p.pieces.filter fun piece => piece != ['.']))
  rw [locate?_eq_walk?, ClimbsAboveRoot]
  simp only [List.length_nil, Nat.zero_add] at body
  -- A step in front that stays at the root takes away nothing.
  have stay (c : Component) (cs : List Component) (stays : c = .root ∨ c = .current) :
      (∃ front, front <+: c :: cs ∧ front.countP Component.isName < front.count .parent) ↔
        ∃ front, front <+: cs ∧ front.countP Component.isName < front.count .parent := by
    have room (front : List Component) :
        0 + (c :: front).countP Component.isName < (c :: front).count .parent ↔
          0 + front.countP Component.isName < front.count .parent := by
      rcases stays with rfl | rfl <;> simp [Component.isName]
    have same : (∃ front, front <+: c :: cs ∧ 0 + _ < _) ↔ _ := climbs_cons_iff room
    simpa only [Nat.zero_add] using same
  unfold components
  dsimp only
  split
  · rw [stay _ _ (.inl rfl)]
    exact body
  split
  · rw [stay _ _ (.inr rfl)]
    exact body
  · exact body

/-! ### Names -/

theorem exists_piece_of_mem_components (member : .name name ∈ p.components) :
    ∃ piece ∈ p.pieces, piece ≠ ['.'] ∧ Component.ofPiece piece = .name name := by
  have body : .name name ∈ (p.pieces.filter fun piece => piece != ['.']).map Component.ofPiece := by
    unfold components at member
    dsimp only at member
    split at member
    · exact (List.mem_cons.mp member).resolve_left nofun
    split at member
    · exact (List.mem_cons.mp member).resolve_left nofun
    · exact member
  obtain ⟨piece, kept, same⟩ := List.mem_map.mp body
  obtain ⟨there, other⟩ := List.mem_filter.mp kept
  exact ⟨piece, there, by simpa using other, same⟩

theorem validName_of_mem_components (member : .name name ∈ p.components) : ValidName name := by
  obtain ⟨piece, there, dot, same⟩ := exists_piece_of_mem_components member
  refine FileSystem.validName_of_stepOf (ne_nil_of_mem_pieces there)
    (slash_not_mem_of_mem_pieces there) ?_
  rw [FileSystem.stepOf, if_neg dot, same]

theorem mem_of_walk? (walked : l.walk? cs = some l') (member : name ∈ l') :
    name ∈ l ∨ .name name ∈ cs := by
  induction cs generalizing l with
  | nil =>
    cases walked
    exact .inl member
  | cons c cs ih =>
    obtain ⟨next, step, onward⟩ := Option.bind_eq_some_iff.mp walked
    rcases ih onward with there | later
    · have origin : name ∈ l ∨ .name name = c := by
        cases c with
        | root =>
          cases step
          cases there
        | current =>
          cases step
          exact .inl there
        | parent =>
          rw [Location.step?] at step
          split at step
          · cases step
          · cases step
            exact .inl (List.dropLast_subset l there)
        | name text =>
          cases step
          rcases List.mem_append.mp there with before | last
          · exact .inl before
          · exact .inr (congrArg Component.name (List.mem_singleton.mp last))
      rcases origin with before | rfl
      · exact .inl before
      · exact .inr List.mem_cons_self
    · exact .inr (List.mem_cons_of_mem _ later)

theorem mem_components_of_mem_locate? (located : p.locate? = some l) (member : name ∈ l) :
    .name name ∈ p.components := by
  rw [locate?_eq_walk?] at located
  exact (mem_of_walk? located member).resolve_left nofun

theorem validName_of_mem_locate? (located : p.locate? = some l) (member : name ∈ l) :
    ValidName name :=
  validName_of_mem_components (mem_components_of_mem_locate? located member)

end ShieldPolicy.Path
