import Mathlib.Data.List.Basic
import Mathlib.Data.List.Induction
import ShieldPolicy.Proofs.Names
import ShieldPolicy.Proofs.Path.Steps

/-!
The table behind a file system, read by location. `WellFormed` says that the entries form a tree:
what holds an entry is a directory.
-/

namespace ShieldPolicy

namespace Location

def Below (dir l : Location) : Prop := dir <+: l ∧ dir ≠ l

instance (dir l : Location) : Decidable (Below dir l) := inferInstanceAs (Decidable (_ ∧ _))

theorem below_iff_child {dir l : Location} : Below dir l ↔ ∃ name, dir ++ [name] <+: l := by
  constructor
  · rintro ⟨⟨rest, rfl⟩, different⟩
    cases rest with
    | nil => simp at different
    | cons name rest => exact ⟨name, rest, by simp⟩
  · rintro ⟨name, rest, rfl⟩
    exact ⟨⟨name :: rest, by simp⟩, by simp⟩

theorem below_of_child_prefix {dir l : Location} {name : String} (within : dir ++ [name] <+: l) :
    Below dir l :=
  below_iff_child.mpr ⟨name, within⟩

theorem below_child (dir : Location) (name : String) : Below dir (dir ++ [name]) :=
  below_of_child_prefix (List.prefix_refl _)

theorem not_below_self (dir : Location) : ¬ Below dir dir := fun h => h.2 rfl

theorem not_prefix_parent (dir : Location) (name : String) : ¬ dir ++ [name] <+: dir := by
  intro within
  have shorter := within.length_le
  rw [List.length_append, List.length_singleton] at shorter
  omega

theorem Below.ne_nil {dir l : Location} (h : Below dir l) : l ≠ [] := by
  rintro rfl
  exact h.2 (List.prefix_nil.mp h.1)

theorem Below.of_child {dir l : Location} {name : String} (h : Below (dir ++ [name]) l) :
    Below dir l :=
  below_of_child_prefix h.1

theorem child_unique {dir l : Location} {a b : String} (first : dir ++ [a] <+: l)
    (second : dir ++ [b] <+: l) : a = b := by
  obtain ⟨rest, rfl⟩ := first
  obtain ⟨rest', same⟩ := second
  simp only [List.append_assoc, List.append_cancel_left_eq, List.cons_append, List.nil_append,
    List.cons.injEq] at same
  exact same.1.symm

theorem child_prefix_child {dir : Location} {a b : String} :
    dir ++ [a] <+: dir ++ [b] ↔ a = b :=
  ⟨fun within => child_unique within (List.prefix_refl _), fun same => same ▸ List.prefix_refl _⟩

end Location

namespace FileSystem

open Location (Below)

variable {fs : FileSystem} {l q dir : Location} {e : Entry} {name : String}

/-! ### Reading the table -/

theorem lookup_filter_key (keep : Location → Bool) (entries : List (Location × Entry))
    (l : Location) :
    (entries.filter fun x => keep x.1).lookup l = if keep l then entries.lookup l else none := by
  induction entries with
  | nil => simp
  | cons x rest ih =>
    obtain ⟨k, e⟩ := x
    by_cases same : l = k
    · subst same
      cases kept : keep l <;> simp [kept, ih]
    · have other : (l == k) = false := by simpa using same
      cases kept : keep k <;> simp [kept, ih, List.lookup_cons, other]

theorem isPrefixOf_eq_decide (l q : Location) : l.isPrefixOf q = decide (l <+: q) := by
  rw [Bool.eq_iff_iff, List.isPrefixOf_iff_prefix, decide_eq_true_iff]

@[simp] theorem entry?_nil (fs : FileSystem) : fs.entry? [] = some .directory := rfl

theorem entry?_of_ne_nil (nonroot : l ≠ []) : fs.entry? l = fs.entries.lookup l := if_neg nonroot

theorem entry?_put (nonroot : l ≠ []) :
    FileSystem.entry? (fs.put l e) q = if q = l then some e else fs.entry? q := by
  by_cases root : q = []
  · subst root
    simp [nonroot.symm]
  · rw [entry?_of_ne_nil root, entry?_of_ne_nil root, put]
    by_cases same : q = l
    · simp [same]
    · have other : (q == l) = false := by simpa using same
      rw [if_neg same, List.lookup_cons, other]
      simpa [same] using lookup_filter_key (fun k => decide (k ≠ l)) fs.entries q

theorem entry?_prune (nonroot : l ≠ []) :
    FileSystem.entry? (fs.prune l) q = if l <+: q then none else fs.entry? q := by
  by_cases root : q = []
  · subst root
    simp [nonroot]
  · rw [entry?_of_ne_nil root, entry?_of_ne_nil root, prune,
      lookup_filter_key (fun k => !l.isPrefixOf k)]
    rw [isPrefixOf_eq_decide]
    by_cases within : l <+: q
    · rw [decide_eq_true within, if_pos within]
      rfl
    · rw [decide_eq_false within, if_neg within]
      rfl

theorem entry?_hollow (fs : FileSystem) (l q : Location) :
    FileSystem.entry? (fs.hollow l) q = if Below l q then none else fs.entry? q := by
  by_cases root : q = []
  · subst root
    rw [if_neg fun h => h.ne_nil rfl]
    rfl
  · rw [entry?_of_ne_nil root, entry?_of_ne_nil root, hollow,
      lookup_filter_key (fun k => !l.isPrefixOf k || decide (k = l))]
    rw [isPrefixOf_eq_decide]
    by_cases below : Below l q
    · rw [if_pos below, decide_eq_true below.1, decide_eq_false below.2.symm]
      rfl
    · rw [if_neg below, if_pos]
      by_cases within : l <+: q
      · simp [Classical.not_not.mp fun different => below ⟨within, different⟩]
      · simp [within]

theorem put_put (fs : FileSystem) (l : Location) (e e' : Entry) :
    (fs.put l e').put l e = fs.put l e := by
  simp [put]

@[simp] theorem current_put : (fs.put l e).current = fs.current := rfl

@[simp] theorem current_prune : (fs.prune l).current = fs.current := rfl

@[simp] theorem current_hollow : (fs.hollow l).current = fs.current := rfl

theorem isSome_lookup_iff {entries : List (Location × Entry)} :
    (entries.lookup l).isSome ↔ ∃ e, (l, e) ∈ entries := by
  induction entries with
  | nil => simp
  | cons x rest ih =>
    obtain ⟨k, e⟩ := x
    by_cases same : l = k
    · subst same
      simp only [List.lookup_cons, BEq.rfl, Option.isSome_some, List.mem_cons, true_iff]
      exact ⟨e, Or.inl rfl⟩
    · have other : (l == k) = false := by simpa using same
      simp [List.lookup_cons, other, ih, same]

theorem mem_children : name ∈ fs.children dir ↔ (fs.entry? (dir ++ [name])).isSome := by
  rw [entry?_of_ne_nil (by simp), isSome_lookup_iff, children, mem_sortedNames, List.mem_filterMap]
  constructor
  · rintro ⟨⟨l, e⟩, member, found⟩
    dsimp only at found
    split at found
    · rename_i parent
      subst parent
      rw [List.dropLast_append_getLast? _ found]
      exact ⟨e, member⟩
    · cases found
  · rintro ⟨e, member⟩
    exact ⟨(dir ++ [name], e), member, by simp⟩

theorem children_nodup (fs : FileSystem) (dir : Location) : (fs.children dir).Nodup :=
  sortedNames_nodup _

/-! ### Trees -/

/-- The entries form a tree: they have names, and what holds them is a directory. -/
structure WellFormed (fs : FileSystem) : Prop where
  names : ∀ {l name}, (fs.entry? (l ++ [name])).isSome → ValidName name
  parents : ∀ {l name}, (fs.entry? (l ++ [name])).isSome → fs.entry? l = some .directory

theorem WellFormed.above (tree : fs.WellFormed) (below : Below dir l)
    (present : (fs.entry? l).isSome) : fs.entry? dir = some .directory := by
  obtain ⟨rest, rfl⟩ := below.1
  induction rest using List.reverseRecOn with
  | nil => exact absurd below (by simpa using Location.not_below_self dir)
  | append_singleton rest name ih =>
    rw [← List.append_assoc] at present
    have parent := tree.parents present
    by_cases last : rest = []
    · simpa [last] using parent
    · exact ih ⟨List.prefix_append _ _, by simpa using last⟩ (by simp [parent])

theorem WellFormed.nothing_below (tree : fs.WellFormed) (other : fs.entry? dir ≠ some .directory)
    (below : Below dir l) : fs.entry? l = none := by
  cases entry : fs.entry? l with
  | none => rfl
  | some e => exact absurd (tree.above below (by simp [entry])) other

theorem WellFormed.none_within (tree : fs.WellFormed) (absent : fs.entry? l = none)
    (within : l <+: q) : fs.entry? q = none := by
  by_cases same : l = q
  · rwa [← same]
  · exact tree.nothing_below (by rw [absent]; simp) ⟨within, same⟩

theorem WellFormed.put (tree : fs.WellFormed) (valid : ValidName name)
    (parent : fs.entry? dir = some .directory)
    (keeps : fs.entry? (dir ++ [name]) = some .directory → e = .directory) :
    (fs.put (dir ++ [name]) e).WellFormed := by
  have nonroot : dir ++ [name] ≠ [] := by simp
  constructor
  · intro l other present
    rw [entry?_put nonroot] at present
    split at present
    · rename_i same
      exact (List.append_inj' same rfl).2 |> List.singleton_inj.mp |> fun h => h ▸ valid
    · exact tree.names present
  · intro l other present
    rw [entry?_put nonroot] at present ⊢
    have above : fs.entry? l = some .directory := by
      split at present
      · rename_i same
        rw [(List.append_inj' same rfl).1]
        exact parent
      · exact tree.parents present
    split
    · rename_i same
      rw [keeps (same ▸ above)]
    · exact above

theorem WellFormed.prune (tree : fs.WellFormed) (nonroot : l ≠ []) : (fs.prune l).WellFormed := by
  constructor
  · intro dir name present
    rw [entry?_prune nonroot] at present
    split at present
    · cases present
    · exact tree.names present
  · intro dir name present
    rw [entry?_prune nonroot] at present ⊢
    split at present
    · cases present
    · rename_i outside
      rw [if_neg fun within => outside (within.trans (List.prefix_append _ _))]
      exact tree.parents present

theorem WellFormed.hollow (tree : fs.WellFormed) : (fs.hollow l).WellFormed := by
  constructor
  · intro dir name present
    rw [entry?_hollow] at present
    split at present
    · cases present
    · exact tree.names present
  · intro dir name present
    rw [entry?_hollow] at present ⊢
    split at present
    · cases present
    · rename_i outside
      rw [if_neg]
      · exact tree.parents present
      · intro below
        refine outside ⟨below.1.trans (List.prefix_append _ _), fun same => ?_⟩
        exact Location.not_prefix_parent dir name (same ▸ below.1)

/-! ### Checking a table -/

def tidy (fs : FileSystem) : Bool :=
  fs.entries.all fun x => match x.1.getLast? with
    | none => true
    | some name => decide (ValidName name) && fs.entry? x.1.dropLast == some .directory

theorem wellFormed_of_tidy (tidy : fs.tidy) : fs.WellFormed := by
  have checked {l : Location} {name : String} (present : (fs.entry? (l ++ [name])).isSome) :
      ValidName name ∧ fs.entry? l = some .directory := by
    rw [entry?_of_ne_nil (by simp), isSome_lookup_iff] at present
    obtain ⟨e, member⟩ := present
    have sound := List.all_eq_true.mp tidy _ member
    simpa using sound
  exact ⟨fun present => (checked present).1, fun present => (checked present).2⟩

end FileSystem

end ShieldPolicy
