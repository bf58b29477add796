import Mathlib.Tactic.FinCases
import ShieldPolicy.Proofs.Settings.Overlay
import ShieldPolicy.Settings.Decode

/-!
Merged settings as records. Where each leaf can be read, the settings can, and each of them is what
was read from its leaf, or else its default: `Settings.resolves_of_holds`.
-/

namespace ShieldPolicy

open Json Setting

/-- A setting that is read from a value if there is one, and has its default otherwise. -/
inductive Resolved {α : Type} (read : Setting → Except SettingsError α) (blank : α) :
    Option Setting → α → Prop where
  | set {v : Setting} {a : α} (reads : read v = .ok a) : Resolved read blank (some v) a
  | unset : Resolved read blank none blank

theorem Resolved.of_or {α : Type} {read : Setting → Except SettingsError α} {blank a : α}
    {found standard : Option Setting} (resolved : Resolved read blank (found.or standard) a)
    (same : Resolved read blank standard blank) : Resolved read blank found a := by
  cases found with
  | some v => exact resolved
  | none =>
    rw [Option.none_or] at resolved
    cases resolved with
    | unset => exact .unset
    | set reads =>
      cases same with
      | set reads' =>
        cases reads.symm.trans reads'
        exact .unset

namespace Setting

variable {ρ α : Type} {fields : List (Field ρ)} {members : List (String × Setting)} {r r' : ρ}
  {name key : String} {read : Setting → Except SettingsError α} {put : α → ρ → ρ} {get : ρ → α}

/-! ### Groups of settings -/

def fieldSchema (fields : List (Field ρ)) (key : String) : Schema :=
  match fields.find? fun f => f.name == key with
  | none => .free
  | some f => .leaf fun v => ∃ put, f.read v = .ok put

def Readable (fields : List (Field ρ)) (members : List (String × Setting)) : Prop :=
  ∀ key v f, (key, v) ∈ members → fields.find? (fun f => f.name == key) = some f →
    ∃ put, f.read v = .ok put

def Field.Spares (f : Field ρ) (get : ρ → α) : Prop :=
  ∀ v put, f.read v = .ok put → ∀ r, get (put r) = get r

theorem field_ok {v : Setting} {change : ρ → ρ} (taken : (field name read put).read v = .ok change) :
    ∃ a, read v = .ok a ∧ change = put a := by
  replace taken : (read v).map put = .ok change := taken
  cases known : read v with
  | error e =>
    rw [known] at taken
    cases taken
  | ok a =>
    rw [known] at taken
    cases taken
    exact ⟨a, rfl, rfl⟩

theorem spares_field {β : Type} {read : Setting → Except SettingsError β} {put : β → ρ → ρ}
    (kept : ∀ b r, get (put b r) = get r) : (field name read put).Spares get := by
  intro v change taken r
  obtain ⟨b, -, rfl⟩ := field_ok taken
  exact kept b r

theorem readMembers_none {s : Setting} {rest : List (String × Setting)}
    (unknown : fields.find? (fun f => f.name == key) = none) :
    readMembers fields ((key, s) :: rest) r = readMembers fields rest r := by
  rw [readMembers, unknown]

theorem readMembers_some {s : Setting} {rest : List (String × Setting)} {f : Field ρ}
    {change : ρ → ρ} (known : fields.find? (fun f => f.name == key) = some f)
    (taken : f.read s = .ok change) :
    readMembers fields ((key, s) :: rest) r = readMembers fields rest (change r) := by
  rw [readMembers, known]
  dsimp only
  rw [taken]
  rfl

theorem readMembers_ok (readable : Readable fields members) (r : ρ) :
    ∃ r', readMembers fields members r = .ok r' := by
  induction members generalizing r with
  | nil => exact ⟨r, rfl⟩
  | cons m rest ih =>
    obtain ⟨key, v⟩ := m
    have others : Readable fields rest := fun key v f member => readable key v f (.tail _ member)
    cases known : fields.find? fun f => f.name == key with
    | none =>
      rw [readMembers_none known]
      exact ih others r
    | some f =>
      obtain ⟨change, taken⟩ := readable key v f List.mem_cons_self known
      rw [readMembers_some known taken]
      exact ih others _

theorem readMembers_resolved (get : ρ → α) (readable : Readable fields members)
    (ascending : Ascending members) (taken : readMembers fields members r = .ok r')
    (known : fields.find? (fun f => f.name == name) = some (field name read put))
    (own : ∀ a r, get (put a r) = a) (others : ∀ f ∈ fields, f.name = name ∨ f.Spares get) :
    Resolved read (get r) (members.lookup name) (get r') := by
  induction members generalizing r with
  | nil =>
    cases taken
    exact .unset
  | cons m rest ih =>
    obtain ⟨key, v⟩ := m
    obtain ⟨first, ascends⟩ := List.pairwise_cons.mp ascending
    have rest_readable : Readable fields rest :=
      fun key v f member => readable key v f (.tail _ member)
    rw [lookup_cons]
    cases found : fields.find? fun f => f.name == key with
    | none =>
      have apart : name ≠ key := by
        rintro rfl
        rw [known] at found
        cases found
      rw [readMembers_none found] at taken
      rw [if_neg apart]
      exact ih rest_readable ascends taken
    | some f =>
      obtain ⟨change, changes⟩ := readable key v f List.mem_cons_self found
      rw [readMembers_some found changes] at taken
      have tail := ih rest_readable ascends taken
      by_cases same : name = key
      · subst same
        rw [known] at found
        cases found
        rw [if_pos rfl]
        -- No later member has this name, so what is read here stays.
        have once : rest.lookup name = none := by
          refine List.lookup_eq_none_iff.mpr fun m later => ?_
          exact bne_iff_ne.mpr fun same => String.lt_irrefl _ (same ▸ first m later)
        rw [once] at tail
        obtain ⟨a, reads, rfl⟩ := field_ok changes
        have last : get r' = a := by
          generalize get r' = value at tail
          cases tail
          exact own a r
        exact last ▸ .set reads
      · have apart : f.name ≠ name := by
          have named := List.find?_some (p := fun f : Field ρ => f.name == key) found
          exact fun back => same (back.symm.trans (eq_of_beq named))
        have spares := (others f (List.mem_of_find?_eq_some found)).resolve_left apart
        rw [if_neg same, ← spares v change changes r]
        exact tail

theorem look_member {o : Option String} : look [key] (.table o members) = members.lookup key :=
  Option.bind_fun_some _

structure ReadFrom (fields : List (Field ρ)) (members : List (String × Setting)) (blank r : ρ) :
    Prop where
  readable : Readable fields members
  ascending : Ascending members
  taken : readMembers fields members blank = .ok r

theorem ReadFrom.resolved (group : ReadFrom fields members r r') (get : ρ → α)
    (known : fields.find? (fun f => f.name == name) = some (field name read put))
    (own : ∀ a r, get (put a r) = a) (others : ∀ f ∈ fields, f.name = name ∨ f.Spares get) :
    Resolved read (get r) (members.lookup name) (get r') :=
  readMembers_resolved get group.readable group.ascending group.taken known own others

theorem ReadFrom.look (group : ReadFrom fields members r r') {o : Option String} (get : ρ → α)
    (known : fields.find? (fun f => f.name == name) = some (field name read put))
    (own : ∀ a r, get (put a r) = a) (others : ∀ f ∈ fields, f.name = name ∨ f.Spares get) :
    Resolved read (get r) (look [name] (.table o members)) (get r') :=
  look_member ▸ group.resolved get known own others

/-- A group within a group: what is found below its key is found in the member that it is read
from, and nothing is without one. -/
theorem resolves_below {blank a : α} {o : Option String}
    {Resolves : (List String → Option Setting) → α → Prop}
    (each : ∀ v, (key, v) ∈ members → ∃ a, read v = .ok a ∧ Resolves (Setting.look · v) a)
    (unset : Resolves (fun _ => none) blank)
    (resolved : Resolved read blank (members.lookup key) a) :
    Resolves (fun keys => Setting.look (key :: keys) (.table o members)) a := by
  change Resolves (fun keys => (members.lookup key).bind (Setting.look keys)) a
  cases known : members.lookup key with
  | none =>
    rw [known] at resolved
    cases resolved
    exact unset
  | some v =>
    rw [known] at resolved
    obtain ⟨before, after, same, -⟩ := List.lookup_eq_some_iff.mp known
    obtain ⟨a', reads, resolves⟩ := each v (by simp [same])
    cases resolved with
    | set reads' =>
      cases reads.symm.trans reads'
      exact resolves

/-! ### Tables of texts -/

theorem members?_nil {o : Option String} : members? read (.table o []) = .ok [] := rfl

theorem members?_cons {o : Option String} {v : Setting} {rest : List (String × Setting)} :
    members? read (.table o ((key, v) :: rest)) = (do
      let a ← (read v).mapError (.within key false)
      let others ← members? read (.table o rest)
      return (key, a) :: others) := by
  unfold members?
  dsimp only
  rw [List.mapM_cons]
  cases read v <;> rfl

theorem members?_ok {o : Option String}
    (each : ∀ key v, (key, v) ∈ members → ∃ a, read v = .ok a) :
    ∃ entries, members? read (.table o members) = .ok entries := by
  induction members with
  | nil => exact ⟨[], rfl⟩
  | cons m rest ih =>
    obtain ⟨key, v⟩ := m
    obtain ⟨a, reads⟩ := each key v List.mem_cons_self
    obtain ⟨entries, others⟩ := ih fun key v member => each key v (.tail _ member)
    refine ⟨(key, a) :: entries, ?_⟩
    rw [members?_cons, reads, others]
    rfl

theorem members?_resolved {o : Option String} {entries : List (String × α)}
    (taken : members? read (.table o members) = .ok entries) (name : String) :
    Resolved (fun v => (read v).map some) none (members.lookup name) (entries.lookup name) := by
  induction members generalizing entries with
  | nil =>
    rw [members?_nil] at taken
    cases taken
    exact .unset
  | cons m rest ih =>
    obtain ⟨key, v⟩ := m
    rw [members?_cons] at taken
    cases reads : read v with
    | error e =>
      rw [reads] at taken
      cases taken
    | ok a =>
      rw [reads] at taken
      cases others : members? read (.table o rest) with
      | error e =>
        rw [others] at taken
        cases taken
      | ok entries =>
        rw [others] at taken
        cases taken
        rw [lookup_cons, lookup_cons]
        split
        · exact .set (by rw [reads]; rfl)
        · exact ih others

end Setting

/-! ### The settings of the generator -/

namespace GeneratorSettings

def tableSchema : Schema := .table (fieldSchema fields)

structure Resolves (found : List String → Option Setting) (s : GeneratorSettings) : Prop where
  contextPath : Resolved (optional? path?) none (found ["context_path"]) s.contextPath
  output : Resolved path? ⟨"./generated"⟩ (found ["output"]) s.output
  schema : Resolved (optional? path?) none (found ["schema"]) s.schema
  provider : Resolved text? "prisma-client-js" (found ["provider"]) s.provider
  clientVersion : Resolved (optional? text?) none (found ["client_version"]) s.clientVersion

theorem resolves_of_holds {root : Setting} (holds : tableSchema.Holds root) :
    ∃ s, ofSetting root = .ok s ∧ s.Resolves (look · root) := by
  obtain ⟨o, members, rfl, ascending, each⟩ := holds
  have readable : Readable fields members := by
    intro key v f member known
    have holds := each key v member
    rw [fieldSchema, known] at holds
    exact holds
  obtain ⟨s, taken⟩ := readMembers_ok readable {}
  have group : ReadFrom fields members {} s := ⟨readable, ascending, taken⟩
  refine ⟨s, taken, group.look (·.contextPath) rfl (fun _ _ => rfl) ?_,
    group.look (·.output) rfl (fun _ _ => rfl) ?_, group.look (·.schema) rfl (fun _ _ => rfl) ?_,
    group.look (·.provider) rfl (fun _ _ => rfl) ?_,
    group.look (·.clientVersion) rfl (fun _ _ => rfl) ?_⟩
  all_goals
    intro f member
    fin_cases member <;> first | exact .inl rfl | exact .inr (spares_field fun _ _ => rfl)

end GeneratorSettings

/-! ### The settings of logging -/

namespace LoggingSettings

def keySchema (key : String) : Schema :=
  if key = "modules" then .table fun _ => .leaf fun v => ∃ level, v.text? = .ok level
  else fieldSchema fields key

def tableSchema : Schema := .table keySchema

/-- Each of these settings comes from what is found for it, or else is its default; the level of
each module by itself. -/
structure Resolves (found : List String → Option Setting) (s : LoggingSettings) : Prop where
  enabled : Resolved flag? true (found ["enabled"]) s.enabled
  level : Resolved text? "info" (found ["level"]) s.level
  format : Resolved text? "text" (found ["format"]) s.format
  output : Resolved text? "stderr" (found ["output"]) s.output
  file : Resolved (optional? path?) none (found ["file"]) s.file
  color : Resolved flag? true (found ["color"]) s.color
  modules (name : String) : Resolved (fun v => v.text?.map some) none (found ["modules", name])
    (s.modules.lookup name)

theorem resolves_of_holds {root : Setting} (holds : tableSchema.Holds root) :
    ∃ s, ofSetting root = .ok s ∧ s.Resolves (look · root) := by
  obtain ⟨o, members, rfl, ascending, each⟩ := holds
  have levels {v : Setting} (member : ("modules", v) ∈ members) :
      ∃ o entries, v = .table o entries ∧
        ∀ key x, (key, x) ∈ entries → ∃ level, x.text? = .ok level := by
    have holds := each "modules" v member
    rw [keySchema, if_pos rfl] at holds
    obtain ⟨o, entries, same, -, texts⟩ := holds
    exact ⟨o, entries, same, texts⟩
  have readable : Readable fields members := by
    intro key v f member known
    by_cases same : key = "modules"
    · subst same
      cases known
      obtain ⟨o, entries, rfl, texts⟩ := levels member
      obtain ⟨read, taken⟩ := members?_ok texts
      refine ⟨fun s => { s with modules := read }, ?_⟩
      change (members? text? (.table o entries)).map _ = _
      rw [taken]
      rfl
    · have holds := each key v member
      rw [keySchema, if_neg same, fieldSchema, known] at holds
      exact holds
  obtain ⟨s, taken⟩ := readMembers_ok readable {}
  have group : ReadFrom fields members {} s := ⟨readable, ascending, taken⟩
  have modules : Resolved (members? text?) [] (look ["modules"] (.table o members)) s.modules := by
    refine group.look (·.modules) rfl (fun _ _ => rfl) fun f member => ?_
    fin_cases member <;> first | exact .inl rfl | exact .inr (spares_field fun _ _ => rfl)
  refine ⟨s, taken, group.look (·.enabled) rfl (fun _ _ => rfl) ?_,
    group.look (·.level) rfl (fun _ _ => rfl) ?_, group.look (·.format) rfl (fun _ _ => rfl) ?_,
    group.look (·.output) rfl (fun _ _ => rfl) ?_, group.look (·.file) rfl (fun _ _ => rfl) ?_,
    group.look (·.color) rfl (fun _ _ => rfl) ?_, fun name => ?_⟩
  case refine_7 =>
    rw [look_member] at modules
    change Resolved _ none ((members.lookup "modules").bind (look [name])) _
    generalize known : members.lookup "modules" = found at modules
    generalize s.modules = entries at modules
    cases modules with
    | unset => exact .unset
    | @set v _ reads =>
      obtain ⟨before, after, same, -⟩ := List.lookup_eq_some_iff.mp known
      obtain ⟨o, members, rfl, -⟩ := levels (v := v) (by simp [same])
      rw [Option.bind_some, look_member]
      exact members?_resolved reads name
  all_goals
    intro f member
    fin_cases member <;> first | exact .inl rfl | exact .inr (spares_field fun _ _ => rfl)

end LoggingSettings

/-! ### All settings -/

namespace Settings

def keySchema (key : String) : Schema :=
  if key = "generator" then GeneratorSettings.tableSchema
  else if key = "logging" then LoggingSettings.tableSchema
  else .free

def schema : Schema := .table keySchema

structure Resolves (found : List String → Option Setting) (s : Settings) : Prop where
  generator : s.generator.Resolves fun keys => found ("generator" :: keys)
  logging : s.logging.Resolves fun keys => found ("logging" :: keys)

theorem resolves_unset : Resolves (fun _ => none) {} where
  generator := ⟨.unset, .unset, .unset, .unset, .unset⟩
  logging := ⟨.unset, .unset, .unset, .unset, .unset, .unset, fun _ => .unset⟩

/-- Merged settings are read, each from its place. -/
theorem resolves_of_holds {root : Setting} (holds : schema.Holds root) :
    ∃ s, ofSetting root = .ok s ∧ s.Resolves (look · root) := by
  obtain ⟨o, members, rfl, ascending, each⟩ := holds
  have generators {v : Setting} (member : ("generator", v) ∈ members) :
      ∃ g, GeneratorSettings.ofSetting v = .ok g ∧ g.Resolves (look · v) :=
    GeneratorSettings.resolves_of_holds (each "generator" v member)
  have loggings {v : Setting} (member : ("logging", v) ∈ members) :
      ∃ l, LoggingSettings.ofSetting v = .ok l ∧ l.Resolves (look · v) :=
    LoggingSettings.resolves_of_holds (each "logging" v member)
  have readable : Readable fields members := by
    intro key v f member known
    by_cases generator : key = "generator"
    · subst generator
      cases known
      obtain ⟨g, taken, -⟩ := generators member
      exact ⟨fun s => { s with generator := g }, congrArg (Except.map _) taken⟩
    by_cases logging : key = "logging"
    · subst logging
      cases known
      obtain ⟨l, taken, -⟩ := loggings member
      exact ⟨fun s => { s with logging := l }, congrArg (Except.map _) taken⟩
    · have named := List.find?_some (p := fun f : Setting.Field Settings => f.name == key) known
      have member := List.mem_of_find?_eq_some known
      rw [fields] at member
      fin_cases member
      · exact absurd (eq_of_beq named).symm generator
      · exact absurd (eq_of_beq named).symm logging
  obtain ⟨s, taken⟩ := readMembers_ok readable {}
  have group : ReadFrom fields members {} s := ⟨readable, ascending, taken⟩
  refine ⟨s, taken, ?_, ?_⟩
  · refine resolves_below (fun v => generators) resolves_unset.generator ?_
    refine group.resolved (·.generator) rfl (fun _ _ => rfl) fun f member => ?_
    fin_cases member <;> first | exact .inl rfl | exact .inr (spares_field fun _ _ => rfl)
  · refine resolves_below (fun v => loggings) resolves_unset.logging ?_
    refine group.resolved (·.logging) rfl (fun _ _ => rfl) fun f member => ?_
    fin_cases member <;> first | exact .inl rfl | exact .inr (spares_field fun _ _ => rfl)

/-! ### The leaves of settings -/

variable {s : Settings} {found found' standard : List String → Option Setting} {key name : String}
  {keys rest : List String}

theorem leaf_field {ρ : Type} {fields : List (Setting.Field ρ)}
    (leaf : (fieldSchema fields key).Leaf rest) :
    key ∈ fields.map (·.name) ∧ rest = [] := by
  unfold fieldSchema at leaf
  split at leaf
  · cases leaf
  · rename_i f known
    cases leaf
    have named : f.name = key :=
      eq_of_beq (List.find?_some (p := fun f : Setting.Field ρ => f.name == key) known)
    exact ⟨named ▸ List.mem_map_of_mem (List.mem_of_find?_eq_some known), rfl⟩

/-- Leaves are the settings of the generator, those of logging, and the levels of modules. -/
theorem leaf_cases (leaf : schema.Leaf keys) :
    (∃ name ∈ GeneratorSettings.fields.map (·.name), keys = ["generator", name]) ∨
    (∃ name ∈ LoggingSettings.fields.map (·.name), name ≠ "modules" ∧ keys = ["logging", name]) ∨
    ∃ name, keys = ["logging", "modules", name] := by
  cases leaf with
  | @inside _ key rest leaf =>
    unfold keySchema at leaf
    split at leaf
    · rename_i generator
      subst generator
      cases leaf with
      | inside leaf =>
        obtain ⟨member, rfl⟩ := leaf_field leaf
        exact .inl ⟨_, member, rfl⟩
    split at leaf
    · rename_i logging
      subst logging
      cases leaf with
      | @inside _ name rest leaf =>
        unfold LoggingSettings.keySchema at leaf
        split at leaf
        · rename_i modules
          subst modules
          cases leaf with
          | inside leaf =>
            cases leaf
            exact .inr (.inr ⟨_, rfl⟩)
        · rename_i other
          obtain ⟨member, rfl⟩ := leaf_field leaf
          exact .inr (.inl ⟨name, member, other, rfl⟩)
    · cases leaf

theorem leaf_of_field {ρ : Type} {fields : List (Setting.Field ρ)}
    (member : key ∈ fields.map (·.name)) : (fieldSchema fields key).Leaf [] := by
  unfold fieldSchema
  split
  · rename_i unknown
    obtain ⟨f, held, named⟩ := List.mem_map.mp member
    exact absurd (beq_iff_eq.mpr named) (List.find?_eq_none.mp unknown f held)
  · exact .here

theorem leaf_generator (member : name ∈ GeneratorSettings.fields.map (·.name)) :
    schema.Leaf ["generator", name] := .inside (.inside (leaf_of_field member))

theorem leaf_logging (member : name ∈ LoggingSettings.fields.map (·.name))
    (other : name ≠ "modules") : schema.Leaf ["logging", name] := by
  have leaf : (LoggingSettings.keySchema name).Leaf [] := by
    rw [LoggingSettings.keySchema, if_neg other]
    exact leaf_of_field member
  exact .inside (.inside leaf)

theorem leaf_module (name : String) : schema.Leaf ["logging", "modules", name] :=
  .inside (.inside (.inside .here))

theorem Resolves.congr (resolves : s.Resolves found)
    (same : ∀ keys, schema.Leaf keys → found keys = found' keys) : s.Resolves found' := by
  have generators {name : String} (member : name ∈ GeneratorSettings.fields.map (·.name)) :=
    same _ (leaf_generator member)
  have loggings {name : String} (member : name ∈ LoggingSettings.fields.map (·.name))
      (other : name ≠ "modules") := same _ (leaf_logging member other)
  obtain ⟨⟨contextPath, output, schema, provider, clientVersion⟩,
    ⟨enabled, level, format, out, file, color, modules⟩⟩ := resolves
  rw [generators (by decide)] at contextPath output schema provider clientVersion
  rw [loggings (by decide) (by decide)] at enabled level format out file color
  exact ⟨⟨contextPath, output, schema, provider, clientVersion⟩,
    ⟨enabled, level, format, out, file, color, fun name => same _ (leaf_module name) ▸ modules name⟩⟩

theorem Resolves.of_or (resolves : s.Resolves fun keys => (found keys).or (standard keys))
    (same : Resolves standard {}) : s.Resolves found := by
  obtain ⟨generator, logging⟩ := resolves
  obtain ⟨generator', logging'⟩ := same
  exact ⟨⟨generator.contextPath.of_or generator'.contextPath, generator.output.of_or generator'.output,
      generator.schema.of_or generator'.schema, generator.provider.of_or generator'.provider,
      generator.clientVersion.of_or generator'.clientVersion⟩,
    ⟨logging.enabled.of_or logging'.enabled, logging.level.of_or logging'.level,
      logging.format.of_or logging'.format, logging.output.of_or logging'.output,
      logging.file.of_or logging'.file, logging.color.of_or logging'.color,
      fun name => (logging.modules name).of_or (logging'.modules name)⟩⟩

end Settings

end ShieldPolicy
