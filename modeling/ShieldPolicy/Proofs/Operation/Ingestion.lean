import ShieldPolicy.Proofs.Json.Repeats
import ShieldPolicy.Proofs.Names
import ShieldPolicy.Proofs.Operation.Description

/-!
Which values are descriptions, and which operations each one lists. A description says where its
mappings stand, `HasMappings`, what a mapping has to hold, `IsMapping`, and which operations one
lists, `Lists`. `ingestion_exact` puts these together, for values and for texts.
-/

namespace ShieldPolicy

namespace Json

/-! ### Fields by name or by place -/

/-- A value stands under a key of an object, or alone in a list in the place of that object. -/
inductive HasField (key : String) (j : Json) : Json → Prop where
  | member {members : List (String × Json)} (held : (key, j) ∈ members) :
      HasField key j (.object members)
  | item : HasField key j (.array [j])

inductive LacksField (key : String) : Json → Prop where
  | object {members : List (String × Json)} (absent : key ∉ members.map Prod.fst) :
      LacksField key (.object members)
  | array : LacksField key (.array [])

theorem HasField.keysOnce {key : String} {j v : Json} (held : HasField key j v)
    (once : v.KeysOnce) : j.KeysOnce := by
  cases held with
  | member member =>
    cases once with
    | object once each => exact each _ member
  | item =>
    cases once with
    | array each => exact each j (List.mem_singleton.mpr rfl)

namespace Decoder

variable {ρ : Type} {fields : List (Field ρ)} {other : String → Json → ρ → ρ} {blank r : ρ}
  {members : List (String × Json)} {d : Decoder ρ} {key name : String} {isRequired : Bool}
  {j v : Json}

/-! ### Records of one field -/

theorem putAll?_absent (absent : key ∉ members.map Prod.fst) :
    putAll? [only key isRequired d] (fun _ _ r => r) r members = some r := by
  induction members with
  | nil => rfl
  | cons m rest ih =>
    rw [List.map_cons, List.mem_cons, not_or] at absent
    have apart : m.1 ≠ key := fun same => absent.1 same.symm
    rw [putAll?_cons, put?_only, if_neg apart]
    exact ih absent.2

theorem putAll?_member (once : (members.map Prod.fst).Nodup) (held : (key, j) ∈ members) :
    putAll? [only key isRequired d] (fun _ _ r => r) r members = (d.ofValue j).toOption := by
  induction members with
  | nil => exact absurd held List.not_mem_nil
  | cons m rest ih =>
    obtain ⟨fresh, others⟩ := List.nodup_cons.mp once
    rw [putAll?_cons, put?_only]
    rcases List.mem_cons.mp held with rfl | later
    · rw [if_pos rfl]
      cases (d.ofValue j).toOption with
      | none => rfl
      | some a => exact putAll?_absent fresh
    · have apart : m.1 ≠ key := by
        intro same
        have : key ∈ rest.map Prod.fst := List.mem_map_of_mem later
        exact fresh (same ▸ this)
      rw [if_neg apart]
      exact ih others later

theorem missing?_only {present : List String} :
    (missing? [only key isRequired d] present).isNone = (!isRequired || present.contains key) := by
  cases isRequired with
  | false => rfl
  | true =>
    by_cases held : key ∈ present
    · simp [missing?, only, held]
    · simp [missing?, only, held]

theorem filter_true (o : Option ρ) : (o.filter fun _ => true) = o := by
  cases o <;> rfl

theorem isSome_filter (o : Option ρ) (kept : Bool) :
    (o.filter fun _ => kept).isSome ↔ o.isSome ∧ kept := by
  cases o <;> cases kept <;> simp

theorem toOption_record_of_field (once : v.KeysOnce) (held : HasField key j v) :
    ((record name [only key isRequired d] blank).ofValue v).toOption = (d.ofValue j).toOption := by
  cases held with
  | @member members member =>
    cases once with
    | object once each =>
      have present : key ∈ members.map Prod.fst := List.mem_map_of_mem member
      simp only [record]
      rw [toOption_ofMembers, putAll?_member once member, missing?_only,
        List.contains_iff_mem.mpr present, Bool.or_true]
      exact filter_true _
  | item =>
    rw [toOption_record_item]
    exact filter_true _

theorem toOption_record_of_lacks (lacks : LacksField key v) :
    ((record name [only key isRequired d] blank).ofValue v).toOption =
      if isRequired then none else some blank := by
  cases lacks with
  | object absent =>
    simp only [record]
    rw [toOption_ofMembers, putAll?_absent absent, missing?_only,
      Bool.eq_false_iff.mpr fun held => absent (List.contains_iff_mem.mp held)]
    cases isRequired <;> rfl
  | array => cases isRequired <;> rfl

theorem field_or_lacks
    (taken : ((record name [only key isRequired d] blank).ofValue v).toOption = some r) :
    (∃ j, HasField key j v) ∨ LacksField key v := by
  cases v with
  | object members =>
    by_cases present : key ∈ members.map Prod.fst
    · obtain ⟨⟨k, j⟩, member, rfl⟩ := List.mem_map.mp present
      exact .inl ⟨j, .member member⟩
    · exact .inr (.object present)
  | array items =>
    match items with
    | [] => exact .inr .array
    | [j] => exact .inl ⟨j, .item⟩
    | j :: j' :: rest =>
      rw [toOption_record_item] at taken
      cases read : (d.ofValue j).toOption with
      | none => rw [read] at taken; cases taken
      | some a => rw [read] at taken; cases taken
  | _ => cases taken

/-! ### Records from members -/

theorem isSome_putAll? : (putAll? fields other r members).isSome ↔
    ∀ m ∈ members, (put? fields other m).isSome := by
  induction members generalizing r with
  | nil => simp [putAll?]
  | cons m rest ih =>
    rw [putAll?_cons, List.forall_mem_cons]
    cases put? fields other m with
    | none => simp
    | some put => simpa using ih

/-! ### Items one by one -/

theorem mapM_eq_some_iff {α : Type} {f : Json → Option α} {items : List Json} {as : List α} :
    items.mapM f = some as ↔ List.Forall₂ (fun j a => f j = some a) items as := by
  induction items generalizing as with
  | nil => simp [eq_comm]
  | cons j rest ih =>
    rw [List.mapM_cons]
    constructor
    · intro taken
      obtain ⟨a, first, taken⟩ := Option.bind_eq_some_iff.mp taken
      obtain ⟨others, read, taken⟩ := Option.bind_eq_some_iff.mp taken
      cases taken
      exact .cons first (ih.mp read)
    · intro each
      cases each with
      | cons first others =>
        rw [first, ih.mpr others]
        rfl

theorem isSome_mapM {α : Type} {f : Json → Option α} {items : List Json} :
    (items.mapM f).isSome ↔ ∀ j ∈ items, (f j).isSome := by
  induction items with
  | nil => simp
  | cons j rest ih =>
    rw [List.mapM_cons, List.forall_mem_cons, ← ih]
    cases f j with
    | none => simp
    | some a => cases rest.mapM f <;> simp

end Decoder

end Json

open Json Json.Decoder

namespace ModelMapping

variable {members : List (String × Json)} {m : ModelMapping} {key : String} {j x : Json}

/-! ### One mapping -/

inductive IsMapping : Json → Prop where
  | object {members : List (String × Json)} (model : ∃ s, ("model", .text s) ∈ members)
      (plural : ∀ j, ("plural", j) ∈ members → j = .null ∨ ∃ s, j = .text s) :
      IsMapping (.object members)

/-- The operations that a mapping lists: one for each text under any other key than `model` and
`plural`, the keys in the order of their bytes. -/
inductive Lists : Json → List Operation → Prop where
  | object {members : List (String × Json)} {operations : List Operation}
      (ascending : operations.Pairwise fun o o' => utf8 o.kind < utf8 o'.kind)
      (mem_iff : ∀ o, o ∈ operations ↔ ("model", .text o.model) ∈ members ∧
        o.kind ≠ "model" ∧ o.kind ≠ "plural" ∧ (o.kind, .text o.name) ∈ members) :
      Lists (.object members) operations

theorem put?_model : put? fields keep ("model", j) =
    j.text?.map fun model (m : ModelMapping) => { m with model } := by
  rw [fields, put?_cons_of_eq rfl]
  cases j <;> rfl

theorem put?_plural : put? fields keep ("plural", j) =
    ((Decoder.optional Decoder.text).ofValue j).toOption.map fun plural (m : ModelMapping) => { m with plural } := by
  have other : "plural" ≠ "model" := by decide
  rw [fields, put?_cons_of_ne other, put?_cons_of_eq rfl]
  cases j <;> rfl

theorem put?_other (model : key ≠ "model") (plural : key ≠ "plural") :
    put? fields keep (key, j) = some (keep key j) := by
  rw [fields, put?_cons_of_ne model, put?_cons_of_ne plural, put?_nil]

theorem isSome_put? : (put? fields keep (key, j)).isSome ↔
    (key = "model" → ∃ s, j = .text s) ∧ (key = "plural" → j = .null ∨ ∃ s, j = .text s) := by
  by_cases model : key = "model"
  · subst model
    rw [put?_model]
    cases j <;> simp [text?]
  by_cases plural : key = "plural"
  · subst plural
    rw [put?_plural]
    cases j <;> simp [Decoder.optional, Decoder.text, textNamed, Except.map, Except.toOption]
  · rw [put?_other model plural]
    simp [model, plural]

theorem missing?_fields {present : List String} :
    (missing? fields present).isNone ↔ "model" ∈ present := by
  by_cases held : "model" ∈ present
  · simp [missing?, fields, Field.required, Field.defaulted, held]
  · simp [missing?, fields, Field.required, Field.defaulted, held]

theorem toOption_decoder : (decoder.ofValue (.object members)).toOption =
    (putAll? fields keep {} members).filter fun _ =>
      (missing? fields (members.map Prod.fst)).isNone := by
  change (Decoder.ofMembers fields keep {} members).toOption = _
  exact toOption_ofMembers

theorem isSome_decoder (once : x.KeysOnce) : (decoder.ofValue x).toOption.isSome ↔ IsMapping x := by
  cases x with
  | object members =>
    cases once with
    | object once each =>
      rw [toOption_decoder, isSome_filter, isSome_putAll?, missing?_fields]
      constructor
      · rintro ⟨fit, present⟩
        obtain ⟨⟨k, j⟩, member, same⟩ := List.mem_map.mp present
        subst same
        obtain ⟨s, rfl⟩ := (isSome_put?.mp (fit _ member)).1 rfl
        exact .object ⟨s, member⟩ fun j member => (isSome_put?.mp (fit _ member)).2 rfl
      · rintro ⟨⟨s, model⟩, plural⟩
        refine ⟨fun ⟨k, j⟩ member => isSome_put?.mpr ⟨?_, ?_⟩, List.mem_map_of_mem model⟩
        · rintro rfl
          have same := List.inj_on_of_nodup_map once member model rfl
          exact ⟨s, (Prod.mk.inj same).2⟩
        · rintro rfl
          exact plural j member
  | _ => exact ⟨fun taken => (by cases taken), fun holds => (by cases holds)⟩

/-! ### The members of a mapping, one after the other -/

structure Taken (read : List (String × Json)) (m : ModelMapping) : Prop where
  model : ∀ s, ("model", .text s) ∈ read → m.model = s
  ascending : Ascending m.members
  mem_iff : ∀ kind j, (kind, j) ∈ m.members ↔
    (kind, j) ∈ read ∧ kind ≠ "model" ∧ kind ≠ "plural"

theorem taken_nil : Taken [] {} where
  model s held := absurd held List.not_mem_nil
  ascending := .nil
  mem_iff kind j := by simp

theorem Taken.field {read : List (String × Json)} (taken : Taken read m)
    (named : key = "model" ∨ key = "plural") (kind : String) (j' : Json) :
    (kind, j') ∈ m.members ↔
      (kind, j') ∈ read ++ [(key, j)] ∧ kind ≠ "model" ∧ kind ≠ "plural" := by
  rw [taken.mem_iff, List.mem_append, List.mem_singleton]
  refine and_congr_left fun ⟨model, plural⟩ => ⟨.inl, ?_⟩
  rintro (held | same)
  · exact held
  · have same : kind = key := congrArg Prod.fst same
    rcases named with named | named
    · exact absurd (same.trans named) model
    · exact absurd (same.trans named) plural

theorem Taken.step {read : List (String × Json)} (taken : Taken read m)
    (fresh : key ∉ read.map Prod.fst) {put : ModelMapping → ModelMapping}
    (fits : put? fields keep (key, j) = some put) : Taken (read ++ [(key, j)]) (put m) := by
  have same_model (other : key ≠ "model") {s : String}
      (held : ("model", .text s) ∈ read ++ [(key, j)]) : ("model", .text s) ∈ read := by
    rcases List.mem_append.mp held with held | held
    · exact held
    · have same := List.mem_singleton.mp held
      exact absurd (congrArg Prod.fst same).symm other
  by_cases model : key = "model"
  · subst model
    rw [put?_model] at fits
    obtain ⟨s, read_text, rfl⟩ := Option.map_eq_some_iff.mp fits
    refine ⟨fun s' held => ?_, taken.ascending, taken.field (.inl rfl)⟩
    rcases List.mem_append.mp held with held | held
    · exact absurd (List.mem_map_of_mem held) fresh
    · cases List.mem_singleton.mp held
      cases read_text
      rfl
  by_cases plural : key = "plural"
  · subst plural
    rw [put?_plural] at fits
    obtain ⟨p, -, rfl⟩ := Option.map_eq_some_iff.mp fits
    exact ⟨fun s held => taken.model s (same_model model held), taken.ascending,
      taken.field (.inr rfl)⟩
  · rw [put?_other model plural] at fits
    cases fits
    refine ⟨fun s held => taken.model s (same_model model held), taken.ascending.insertMember, ?_⟩
    intro kind j'
    simp only [keep]
    rw [mem_insertMember taken.ascending, taken.mem_iff, List.mem_append, List.mem_singleton]
    constructor
    · rintro (same | ⟨⟨held, other⟩, -⟩)
      · have named : kind = key := congrArg Prod.fst same
        exact ⟨.inr same, named ▸ model, named ▸ plural⟩
      · exact ⟨.inl held, other⟩
    · rintro ⟨held | same, other⟩
      · refine .inr ⟨⟨held, other⟩, fun named => fresh ?_⟩
        exact named ▸ List.mem_map_of_mem held
      · exact .inl same

theorem Taken.run {read : List (String × Json)} {m' : ModelMapping} (taken : Taken read m)
    (once : ((read ++ members).map Prod.fst).Nodup)
    (all : putAll? fields keep m members = some m') : Taken (read ++ members) m' := by
  induction members generalizing read m with
  | nil =>
    cases all
    rw [List.append_nil]
    exact taken
  | cons member rest ih =>
    obtain ⟨key, j⟩ := member
    rw [putAll?_cons] at all
    obtain ⟨put, fits, all⟩ := Option.bind_eq_some_iff.mp all
    have fresh : key ∉ read.map Prod.fst := by
      intro held
      rw [List.map_append, List.map_cons] at once
      exact (List.nodup_append.mp once).2.2 key held key List.mem_cons_self rfl
    have split : read ++ (key, j) :: rest = (read ++ [(key, j)]) ++ rest := by simp
    rw [split] at once ⊢
    exact ih (taken.step fresh fits) once all

theorem mem_operations {o : Operation} : o ∈ m.operations ↔
    o.model = m.model ∧ (o.kind, .text o.name) ∈ m.members := by
  unfold operations
  rw [List.mem_filterMap]
  constructor
  · rintro ⟨⟨kind, j⟩, member, made⟩
    obtain ⟨name, same, rfl⟩ := Option.map_eq_some_iff.mp made
    cases j with
    | text s =>
      cases same
      exact ⟨rfl, member⟩
    | _ => cases same
  · rintro ⟨model, member⟩
    refine ⟨_, member, ?_⟩
    obtain ⟨model', kind, name⟩ := o
    cases model
    rfl

theorem Taken.operations_ascending {read : List (String × Json)} (taken : Taken read m) :
    m.operations.Pairwise fun o o' => utf8 o.kind < utf8 o'.kind := by
  refine List.Pairwise.filterMap _ ?_ taken.ascending
  rintro ⟨kind, j⟩ ⟨kind', j'⟩ less o made o' made'
  obtain ⟨name, -, rfl⟩ := Option.map_eq_some_iff.mp made
  obtain ⟨name', -, rfl⟩ := Option.map_eq_some_iff.mp made'
  exact utf8_lt less

theorem lists_of_taken (once : x.KeysOnce) (taken : (decoder.ofValue x).toOption = some m) :
    Lists x m.operations := by
  have mapping : IsMapping x := (isSome_decoder once).mp (by rw [taken]; rfl)
  cases mapping with
  | @object members model plural =>
    cases once with
    | object once each =>
      obtain ⟨s, model⟩ := model
      rw [toOption_decoder] at taken
      have all : putAll? fields keep {} members = some m := (Option.filter_eq_some_iff.mp taken).1
      have held : Taken members m := taken_nil.run once all
      refine .object held.operations_ascending fun o => ?_
      rw [mem_operations, held.mem_iff, held.model s model]
      constructor
      · rintro ⟨rfl, member, other, other'⟩
        exact ⟨model, other, other', member⟩
      · rintro ⟨model', other, other', member⟩
        have same := List.inj_on_of_nodup_map once model' model rfl
        cases same
        exact ⟨rfl, member, other, other'⟩

end ModelMapping

namespace ModelDescription

variable {v : Json} {items : List Json} {ms : List ModelMapping}

/-! ### Whole descriptions -/

/-- The mappings of a description, in their order. Without `modelOperations` there is none. -/
inductive HasMappings (v : Json) : List Json → Prop where
  | listed {inside : Json} {items : List Json} (mappings : HasField "mappings" inside v)
      (operations : HasField "modelOperations" (.array items) inside) : HasMappings v items
  | absent {inside : Json} (mappings : HasField "mappings" inside v)
      (lacks : LacksField "modelOperations" inside) : HasMappings v []

theorem HasMappings.keysOnce (held : HasMappings v items) (once : v.KeysOnce) :
    ∀ x ∈ items, x.KeysOnce := by
  cases held with
  | listed mappings operations =>
    cases operations.keysOnce (mappings.keysOnce once) with
    | array each => exact each
  | absent => exact fun x member => absurd member List.not_mem_nil

theorem mappingsDecoder_eq : mappingsDecoder =
    .record "Mappings" [only "modelOperations" false (.list ModelMapping.decoder)] [] := rfl

theorem toOption_mappings (once : v.KeysOnce) (held : HasMappings v items) :
    (mappings v).toOption = items.mapM fun x => (ModelMapping.decoder.ofValue x).toOption := by
  unfold mappings
  cases held with
  | listed outer inner =>
    rw [toOption_record_of_field once outer, mappingsDecoder_eq,
      toOption_record_of_field (outer.keysOnce once) inner]
    exact toOption_mapM items
  | absent outer lacks =>
    rw [toOption_record_of_field once outer, mappingsDecoder_eq, toOption_record_of_lacks lacks]
    rfl

theorem hasMappings_of_taken (once : v.KeysOnce) (taken : (mappings v).toOption = some ms) :
    ∃ items, HasMappings v items := by
  unfold mappings at taken
  obtain ⟨inside, outer⟩ | lacks := field_or_lacks taken
  · rw [toOption_record_of_field once outer, mappingsDecoder_eq] at taken
    obtain ⟨operations, inner⟩ | lacks := field_or_lacks taken
    · rw [toOption_record_of_field (outer.keysOnce once) inner] at taken
      cases operations with
      | array items => exact ⟨items, .listed outer inner⟩
      | _ => cases taken
    · exact ⟨[], .absent outer lacks⟩
  · rw [toOption_record_of_lacks lacks] at taken
    cases taken

theorem ofJson_eq_ok {d : ModelDescription} :
    ofJson v = .ok d ↔ ∃ ms, (mappings v).toOption = some ms ∧ ofMappings ms = d := by
  have same : ofJson v = .ok d ↔ (ofJson v).toOption = some d := by
    cases ofJson v <;> simp [Except.toOption]
  rw [same, toOption_ofJson, Option.map_eq_some_iff]

theorem isSome_mappings (once : v.KeysOnce) (held : HasMappings v items) :
    (mappings v).toOption.isSome ↔ ∀ x ∈ items, ModelMapping.IsMapping x := by
  rw [toOption_mappings once held, isSome_mapM]
  exact forall₂_congr fun x member => ModelMapping.isSome_decoder (held.keysOnce once x member)

theorem lists_of_mappings (once : v.KeysOnce) (held : HasMappings v items)
    (taken : (mappings v).toOption = some ms) :
    List.Forall₂ ModelMapping.Lists items (ms.map ModelMapping.operations) := by
  rw [toOption_mappings once held, mapM_eq_some_iff] at taken
  have each := held.keysOnce once
  clear held
  induction taken with
  | nil => exact .nil
  | cons first others ih =>
    obtain ⟨head, rest⟩ := List.forall_mem_cons.mp each
    exact .cons (ModelMapping.lists_of_taken head first) (ih rest)

/-- A value is a description when its mappings stand where they should and each of them is one; its
operations are then those that the mappings list. A text that holds a value and repeats no key is
the description that the value is. -/
theorem ingestion_exact :
    (∀ v : Json, v.KeysOnce →
      ((∃ d, ofJson v = .ok d) ↔
        ∃ items, HasMappings v items ∧ ∀ x ∈ items, ModelMapping.IsMapping x) ∧
      ∀ d items, ofJson v = .ok d → HasMappings v items →
        ∃ parts, List.Forall₂ ModelMapping.Lists items parts ∧ d.operations = parts.flatten) ∧
    ∀ text v, Json.parse text = .ok v →
      RepeatsKey text ∨ v.KeysOnce ∧ (ofText text).toOption = (ofJson v).toOption := by
  constructor
  · intro v once
    refine ⟨⟨?_, ?_⟩, ?_⟩
    · rintro ⟨d, made⟩
      obtain ⟨ms, taken, -⟩ := ofJson_eq_ok.mp made
      obtain ⟨items, held⟩ := hasMappings_of_taken once taken
      have known : (mappings v).toOption.isSome := by rw [taken]; rfl
      exact ⟨items, held, (isSome_mappings once held).mp known⟩
    · rintro ⟨items, held, each⟩
      obtain ⟨ms, taken⟩ := Option.isSome_iff_exists.mp ((isSome_mappings once held).mpr each)
      exact ⟨ofMappings ms, ofJson_eq_ok.mpr ⟨ms, taken, rfl⟩⟩
    · intro d items made held
      obtain ⟨ms, taken, rfl⟩ := ofJson_eq_ok.mp made
      exact ⟨_, lists_of_mappings once held taken, List.flatMap_def⟩
  · intro text v held
    rcases parseDistinct_or_repeats held with distinct | repeats
    · exact .inr ⟨keysOnce_of_parse held, toOption_ofText distinct⟩
    · exact .inl repeats

/-- A description in the place of an object, whose keys do not ascend and not all of whose members
are texts. -/
def cartText : String :=
  "[\x7b\"modelOperations\":[\x7b\"updateOne\":\"updateOneCart\",\"model\":\"Cart\"," ++
    "\"count\":3,\"plural\":null,\"findMany\":\"findManyCart\"\x7d]\x7d]"

theorem ingestion_exact_cart : ∃ v d items parts, Json.parse cartText = .ok v ∧
    ofJson v = .ok d ∧ (ofText cartText).toOption = some d ∧ HasMappings v items ∧
    List.Forall₂ ModelMapping.Lists items parts ∧ parts.flatten = d.operations ∧
    d.operations = [⟨"Cart", "findMany", "findManyCart"⟩, ⟨"Cart", "updateOne", "updateOneCart"⟩] := by
  have distinct : (parseDistinct cartText).toOption.isSome := by decide +kernel
  have made : (ofText cartText).toOption.map ModelDescription.operations =
      some [⟨"Cart", "findMany", "findManyCart"⟩, ⟨"Cart", "updateOne", "updateOneCart"⟩] := by
    decide +kernel
  cases held : parseDistinct cartText with
  | error e => rw [held] at distinct; cases distinct
  | ok v =>
    have parsed := parse_of_parseDistinct held
    rcases ingestion_exact.2 cartText v parsed with ⟨e, key, failed, -⟩ | ⟨once, same⟩
    · rw [held] at failed
      cases failed
    · obtain ⟨d, read, operations⟩ := Option.map_eq_some_iff.mp made
      have taken : ofJson v = .ok d := by
        rw [read] at same
        cases known : ofJson v with
        | error e => rw [known] at same; cases same
        | ok d' => rw [known] at same; cases same; rfl
      have ⟨exactly, lists⟩ := ingestion_exact.1 v once
      obtain ⟨items, mappings, -⟩ := exactly.mp ⟨d, taken⟩
      obtain ⟨parts, each, flat⟩ := lists d items taken mappings
      exact ⟨v, d, items, parts, parsed, taken, read, mappings, each, flat.symm, operations⟩

end ModelDescription

end ShieldPolicy
