import Mathlib.Data.List.Induction
import ShieldPolicy.Proofs.Settings.Groups
import ShieldPolicy.Proofs.Text.Pieces
import ShieldPolicy.Settings.Load

/-!
Variables as a layer. A variable sets a leaf by a name made of the names on the way to it,
`ofVariable?`. Where variables set leaves only, each to what can be read there, and no two of them
differ in case alone, their layer sets what they set: `LeafVariables.latest_sets?`.
-/

namespace ShieldPolicy

open Json Setting

/-! ### Paths of names -/

namespace KeyPath

variable {p : KeyPath} {k name : String} {ks keys rest : List String} {fuel : Nat}

def Plain (name : String) : Prop :=
  name ≠ "" ∧ (∀ c ∈ name.toList, isNameChar c) ∧ Text.lowercase name = name

instance (name : String) : Decidable (Plain name) :=
  decidable_of_iff (name ≠ "" ∧ name.toList.all isNameChar ∧ Text.lowercase name = name)
    (by rw [Plain, List.all_eq_true])

def ofNames (k : String) (ks : List String) : KeyPath := ks.foldl .child (.name k)

theorem ofNames_concat : ofNames k (ks ++ [name]) = .child (ofNames k ks) name := by
  rw [ofNames, List.foldl_append]
  rfl

def dotsBefore (names : List String) : List Char := names.flatMap fun name => '.' :: name.toList

theorem length_le_dotsBefore (names : List String) : names.length ≤ (dotsBefore names).length := by
  induction names with
  | nil => exact Nat.le_refl 0
  | cons name rest ih =>
    have split : dotsBefore (name :: rest) = '.' :: (name.toList ++ dotsBefore rest) := rfl
    rw [split, List.length_cons, List.length_cons, List.length_append]
    omega

theorem toList_joinTexts : (Text.joinTexts "." (k :: ks)).toList = k.toList ++ dotsBefore ks := by
  induction ks generalizing k with
  | nil => simp [Text.joinTexts, dotsBefore]
  | cons name rest ih =>
    rw [Text.joinTexts, String.toList_append, ih]
    · simp [dotsBefore]
    · simp

theorem takeWhile_name (plain : Plain name) (ks : List String) :
    (name.toList ++ dotsBefore ks).takeWhile isNameChar = name.toList := by
  rw [List.takeWhile_append_of_pos plain.2.1]
  have stop : (dotsBefore ks).takeWhile isNameChar = [] := by
    cases ks with
    | nil => rfl
    | cons name rest => rfl
  rw [stop, List.append_nil]

theorem toList_isEmpty (plain : Plain name) : name.toList.isEmpty = false := by
  rw [List.isEmpty_eq_false_iff]
  intro none
  exact plain.1 (String.toList_eq_nil_iff.mp none)

theorem extend?_names (plain : ∀ name ∈ ks, Plain name) (enough : ks.length ≤ fuel) :
    extend? fuel p (dotsBefore ks) = some (ks.foldl .child p) := by
  induction ks generalizing p fuel with
  | nil => cases fuel <;> rfl
  | cons name rest ih =>
    cases fuel with
    | zero => simp at enough
    | succ fuel =>
      have first := plain name List.mem_cons_self
      have split : dotsBefore (name :: rest) = '.' :: (name.toList ++ dotsBefore rest) := rfl
      rw [split, extend?]
      simp only [takeWhile_name first, toList_isEmpty first, List.drop_left, String.ofList_toList,
        first.2.2]
      exact ih (fun name member => plain name (.tail _ member)) (Nat.le_of_succ_le_succ enough)

theorem ofKey_names (plain : ∀ name ∈ k :: ks, Plain name) :
    ofKey (Text.joinTexts "." (k :: ks)) = ofNames k ks := by
  have first := plain k List.mem_cons_self
  have enough : ks.length ≤ (k.toList ++ dotsBefore ks).length := by
    have dots := length_le_dotsBefore ks
    rw [List.length_append]
    omega
  unfold ofKey
  rw [toList_joinTexts]
  simp only [takeWhile_name first, toList_isEmpty first, List.drop_left, String.ofList_toList,
    first.2.2]
  rw [extend?_names (fun name member => plain name (.tail _ member)) enough]
  rfl

theorem settled_names (plain : ∀ name ∈ k :: ks, Plain name) :
    (ofNames k ks).settled = ofNames k ks := by
  induction ks using List.reverseRecOn with
  | nil => exact congrArg KeyPath.name (plain k List.mem_cons_self).2.2
  | append_singleton ks name ih =>
    rw [ofNames_concat, settled, (plain name (by simp)).2.2]

theorem within?_names : (ofNames k ks).within? keys = some rest ↔ keys = k :: ks ++ rest := by
  -- A path is read from its end, so the last name comes off first.
  induction ks using List.reverseRecOn generalizing rest with
  | nil =>
    cases keys with
    | nil => simp [ofNames, within?]
    | cons key keys => simp [ofNames, within?]
  | append_singleton ks name ih =>
    rw [ofNames_concat, within?, Option.bind_eq_some_iff]
    constructor
    · rintro ⟨others, found, inner⟩
      have same := ih.mp found
      cases others with
      | nil => cases inner
      | cons key others =>
        dsimp only at inner
        split at inner
        · cases inner
          rename_i named
          subst named
          simp [same]
        · cases inner
    · intro same
      exact ⟨name :: rest, ih.mpr (by simp [same]), if_pos rfl⟩

theorem ofNames_injective {k' : String} {ks' : List String} (same : ofNames k ks = ofNames k' ks') :
    k :: ks = k' :: ks' := by
  have found : (ofNames k ks).within? (k :: ks) = some [] :=
    within?_names.mpr (List.append_nil _).symm
  rw [same, within?_names, List.append_nil] at found
  exact found

end KeyPath

/-! ### Leaves at the end of names -/

namespace Schema

variable {s : Schema} {k name : String} {ks keys rest : List String} {v : Setting}

inductive Reads : Schema → List String → Setting → Prop where
  | here {reads : Setting → Prop} {v : Setting} (read : reads v) : Reads (.leaf reads) [] v
  | inside {f : String → Schema} {key : String} {rest : List String} {v : Setting}
      (read : Reads (f key) rest v) : Reads (.table f) (key :: rest) v

theorem Reads.leaf (reads : s.Reads keys v) : s.Leaf keys := by
  induction reads with
  | here => exact .here
  | inside _ ih => exact .inside ih

theorem reach?_names (reads : s.Reads (k :: ks ++ rest) v) :
    ∃ inner, s.reach? (KeyPath.ofNames k ks) = some inner ∧ inner.Reads rest v := by
  induction ks using List.reverseRecOn generalizing rest with
  | nil =>
    cases reads with
    | inside read => exact ⟨_, rfl, read⟩
  | append_singleton ks name ih =>
    rw [List.cons_append, List.append_assoc, ← List.cons_append] at reads
    obtain ⟨middle, reached, reads⟩ := ih reads
    rw [KeyPath.ofNames_concat, reach?, reached]
    cases reads with
    | inside read => exact ⟨_, rfl, read⟩

theorem fits_text {o : Option String} {text : String} (reads : s.Reads (k :: ks) (.text o text)) :
    ∃ inner, s.reach? (KeyPath.ofNames k ks) = some inner ∧ inner.Fits (.text o text) := by
  rw [← List.append_nil (k :: ks)] at reads
  obtain ⟨inner, reached, reads⟩ := reach?_names reads
  cases reads with
  | here read => exact ⟨_, reached, read, nofun⟩

/-! ### Layers without paths -/

variable {f : String → Schema} {key : String} {layer : List (String × Setting)}

theorem settled_plain (plain : KeyPath.Plain key) : (KeyPath.ofKey key).settled = .name key := by
  have names : ∀ name ∈ [key], KeyPath.Plain name := fun name member =>
    List.mem_singleton.mp member ▸ plain
  exact (congrArg KeyPath.settled (KeyPath.ofKey_names names)).trans (KeyPath.settled_names names)

/-- A layer whose keys are names is what its tables are. -/
theorem fitsLayer_of_plain (plain : ∀ m ∈ layer, KeyPath.Plain m.1)
    (fits : ∀ m ∈ layer, (f m.1).Fits m.2) : (Schema.table f).FitsLayer layer := by
  intro key value member
  rw [settled_plain (plain _ member)]
  exact ⟨_, rfl, fits _ member⟩

end Schema

namespace Settings

open Schema

variable {env : Environment} {keys keys' : List String} {b b' : String × String}
  {m : String × Setting}

/-! ### Names of variables -/

def variableName (keys : List String) : String :=
  "shieldgen__" ++ Text.joinTexts "__" keys

/-- Whether a variable can name a leaf: the path that its name spells is the one to the leaf. -/
structure Spelled (keys : List String) : Prop where
  plain : ∀ name ∈ keys, KeyPath.Plain name
  dots : String.ofList (dotted (Text.joinTexts "__" keys).toList) = Text.joinTexts "." keys

instance (keys : List String) : Decidable (Spelled keys) :=
  decidable_of_iff (_ ∧ _) ⟨fun ⟨plain, dots⟩ => ⟨plain, dots⟩, fun ⟨plain, dots⟩ => ⟨plain, dots⟩⟩

def ofVariable? (env : Environment) (keys : List String) : Option Setting :=
  (env.bindings.find? fun b => Text.lowercase b.1 == variableName keys).map fun b =>
    .text (some "the environment") b.2

def SetsSomething (b : String × String) : Prop :=
  variableStart <+: (Text.lowercase b.1).toList

instance (b : String × String) : Decidable (SetsSomething b) :=
  inferInstanceAs (Decidable (_ <+: _))

/-- Whether the variables for settings set leaves, each to what can be read there, and no two of
them differ in case alone. -/
structure LeafVariables (env : Environment) : Prop where
  leaf : ∀ b ∈ env.bindings, SetsSomething b → ∃ keys, Spelled keys ∧
    Text.lowercase b.1 = variableName keys ∧
    schema.Reads keys (.text (some "the environment") b.2)
  once : ∀ b ∈ env.bindings, ∀ b' ∈ env.bindings, SetsSomething b →
    Text.lowercase b.1 = Text.lowercase b'.1 → b = b'

theorem toList_variableName :
    (variableName keys).toList = variableStart ++ (Text.joinTexts "__" keys).toList := by
  rw [variableName, String.toList_append]
  rfl

theorem variableName_generator_ne (name : String) :
    variableName ["generator", name] ≠ variableName ("logging" :: keys) := by
  intro same
  have heads := congrArg (fun s => s.toList[11]?) same
  cases keys with
  | nil => simp [variableName, Text.joinTexts] at heads
  | cons name rest => simp [variableName, Text.joinTexts] at heads

theorem variableName_modules_ne {name : String} (other : name ≠ "modules")
    (member : name ∈ LoggingSettings.fields.map (·.name)) (module : String) :
    variableName ["logging", name] ≠ variableName ["logging", "modules", module] := by
  intro same
  have heads := congrArg (fun s => s.toList[20]?) same
  rw [LoggingSettings.fields] at member
  fin_cases member
  all_goals first | exact other rfl | simp [variableName, Text.joinTexts, field] at heads

theorem variableName_injective (leaf : schema.Leaf keys) (leaf' : schema.Leaf keys')
    (same : variableName keys = variableName keys') : keys = keys' := by
  have generators {name name' : String}
      (same : variableName ["generator", name] = variableName ["generator", name']) :
      name = name' := by
    simpa [variableName, Text.joinTexts, ← String.toList_inj] using same
  have loggings {name name' : String}
      (same : variableName ["logging", name] = variableName ["logging", name']) : name = name' := by
    simpa [variableName, Text.joinTexts, ← String.toList_inj] using same
  have modules {name name' : String} (same : variableName ["logging", "modules", name] =
      variableName ["logging", "modules", name']) : name = name' := by
    simpa [variableName, Text.joinTexts, ← String.toList_inj] using same
  rcases leaf_cases leaf with ⟨name, -, rfl⟩ | ⟨name, member, other, rfl⟩ | ⟨name, rfl⟩ <;>
    rcases leaf_cases leaf' with ⟨name', -, rfl⟩ | ⟨name', member', other', rfl⟩ | ⟨name', rfl⟩
  · rw [generators same]
  · exact absurd same (variableName_generator_ne name)
  · exact absurd same (variableName_generator_ne name)
  · exact absurd same.symm (variableName_generator_ne name')
  · rw [loggings same]
  · exact absurd same (variableName_modules_ne other member name')
  · exact absurd same.symm (variableName_generator_ne name')
  · exact absurd same.symm (variableName_modules_ne other' member' name)
  · rw [modules same]

/-! ### The layer of the variables -/

def entryFor? (b : String × String) : Option (String × Setting) :=
  (Text.dropStart? variableStart (Text.lowercase b.1).toList).map fun key =>
    (String.ofList (dotted key), .text (some "the environment") b.2)

theorem variableLayer_eq : variableLayer env = (env.bindings.filterMap entryFor?).foldl
    (fun layer m => insertMember m.1 m.2 layer) [] := rfl

theorem entryFor?_of_name (named : Text.lowercase b.1 = variableName keys) :
    entryFor? b = some (String.ofList (dotted (Text.joinTexts "__" keys).toList),
      .text (some "the environment") b.2) := by
  rw [entryFor?, named, toList_variableName, Text.dropStart?_append]
  rfl

theorem setsSomething_of_name (named : Text.lowercase b.1 = variableName keys) :
    SetsSomething b := by
  rw [SetsSomething, named, toList_variableName]
  exact List.prefix_append _ _

theorem Spelled.ofKey {k : String} {ks : List String} (spelled : Spelled (k :: ks)) :
    (KeyPath.ofKey (Text.joinTexts "." (k :: ks))).settled = KeyPath.ofNames k ks := by
  rw [KeyPath.ofKey_names spelled.plain, KeyPath.settled_names spelled.plain]

theorem Spelled.joined_injective {k k' : String} {ks ks' : List String}
    (spelled : Spelled (k :: ks)) (spelled' : Spelled (k' :: ks'))
    (same : Text.joinTexts "." (k :: ks) = Text.joinTexts "." (k' :: ks')) :
    k :: ks = k' :: ks' := by
  refine KeyPath.ofNames_injective ?_
  rw [← spelled.ofKey, ← spelled'.ofKey, same]

theorem Spelled.sets? {k : String} {ks : List String} {o : Option String} {text : String}
    (spelled : Spelled (k :: ks)) :
    sets? keys (Text.joinTexts "." (k :: ks), .text o text) =
      if keys = k :: ks then some (.text o text) else none := by
  rw [Schema.sets?, spelled.ofKey]
  split
  · rename_i same
    rw [KeyPath.within?_names.mpr (same.trans (List.append_nil _).symm)]
    rfl
  · rename_i other
    cases found : (KeyPath.ofNames k ks).within? keys with
    | none => rfl
    | some rest =>
      cases rest with
      | nil => exact absurd ((KeyPath.within?_names.mp found).trans (List.append_nil _)) other
      | cons key rest => rfl

namespace LeafVariables

theorem entry (leaves : LeafVariables env) (member : b ∈ env.bindings)
    (given : entryFor? b = some m) : ∃ k ks, Spelled (k :: ks) ∧
      Text.lowercase b.1 = variableName (k :: ks) ∧
      m = (Text.joinTexts "." (k :: ks), .text (some "the environment") b.2) ∧
      schema.Reads (k :: ks) m.2 := by
  obtain ⟨rest, dropped, rfl⟩ := Option.map_eq_some_iff.mp given
  have sets : SetsSomething b := by
    unfold Text.dropStart? at dropped
    split at dropped
    · exact List.isPrefixOf_iff_prefix.mp ‹_›
    · cases dropped
  obtain ⟨keys, spelled, named, reads⟩ := leaves.leaf b member sets
  rw [named, toList_variableName, Text.dropStart?_append] at dropped
  cases dropped
  cases reads with
  | @inside _ k ks _ read => exact ⟨k, ks, spelled, named, congrArg (·, _) spelled.dots, .inside read⟩

theorem mem_layer (leaves : LeafVariables env) :
    m ∈ variableLayer env ↔ ∃ b ∈ env.bindings, entryFor? b = some m := by
  rw [variableLayer_eq, mem_foldl_insertMember .nil, List.nil_append, List.mem_filterMap]
  intro m member m' member' same
  obtain ⟨b, bound, given⟩ := List.mem_filterMap.mp member
  obtain ⟨b', bound', given'⟩ := List.mem_filterMap.mp member'
  obtain ⟨k, ks, spelled, named, rfl, -⟩ := leaves.entry bound given
  obtain ⟨k', ks', spelled', named', rfl, -⟩ := leaves.entry bound' given'
  have lower : Text.lowercase b.1 = Text.lowercase b'.1 := by
    rw [named, named', spelled.joined_injective spelled' same]
  cases leaves.once b bound b' bound' (setsSomething_of_name named) lower
  exact Option.some_inj.mp (given.symm.trans given')

theorem fitsLayer (leaves : LeafVariables env) : schema.FitsLayer (variableLayer env) := by
  intro key value member
  obtain ⟨b, bound, given⟩ := leaves.mem_layer.mp member
  obtain ⟨k, ks, spelled, -, same, reads⟩ := leaves.entry bound given
  cases same
  rw [spelled.ofKey]
  exact fits_text reads

/-- The layer sets each leaf to what its variable says. -/
theorem latest_sets? (leaves : LeafVariables env) (leaf : schema.Leaf keys) :
    latest (Schema.sets? keys) (variableLayer env) = ofVariable? env keys := by
  -- A variable that sets the leaf has the name of the leaf.
  have named {m : String × Setting} {v : Setting} (member : m ∈ variableLayer env)
      (sets : Schema.sets? keys m = some v) :
      ∃ b ∈ env.bindings, Text.lowercase b.1 = variableName keys ∧
        v = .text (some "the environment") b.2 := by
    obtain ⟨b, bound, given⟩ := leaves.mem_layer.mp member
    obtain ⟨k, ks, spelled, named, rfl, -⟩ := leaves.entry bound given
    rw [spelled.sets?] at sets
    split at sets
    · rename_i same
      cases sets
      exact ⟨b, bound, same ▸ named, rfl⟩
    · cases sets
  rw [ofVariable?]
  cases known : env.bindings.find? fun b => Text.lowercase b.1 == variableName keys with
  | none =>
    refine latest_eq_none fun m member => Option.eq_none_iff_forall_ne_some.mpr fun v sets => ?_
    obtain ⟨b, bound, name, -⟩ := named member sets
    exact List.find?_eq_none.mp known b bound (beq_iff_eq.mpr name)
  | some b =>
    have bound := List.mem_of_find?_eq_some known
    have name : Text.lowercase b.1 = variableName keys := by
      simpa using List.find?_some known
    have sets := setsSomething_of_name name
    obtain ⟨keys', spelled, name', reads⟩ := leaves.leaf b bound sets
    cases variableName_injective leaf reads.leaf (name.symm.trans name')
    cases leaf with
    | @inside _ k ks =>
      have given := entryFor?_of_name name
      rw [spelled.dots] at given
      refine latest_eq_some (leaves.mem_layer.mpr ⟨b, bound, given⟩)
        (spelled.sets?.trans (if_pos rfl)) fun m member v sets' => ?_
      obtain ⟨b', bound', name'', rfl⟩ := named member sets'
      rw [leaves.once b bound b' bound' sets (name.trans name''.symm)]

end LeafVariables

end Settings

end ShieldPolicy
