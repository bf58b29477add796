import ShieldPolicy.Proofs.Json.Members
import ShieldPolicy.Settings.Layer

/-!
Layers put on top of each other. A schema says which places below a table are leaves. Where a layer
sets leaves only, and each to what may stand there, the leaves afterwards are those it sets and
otherwise those there were: `adds_overlay`. So each leaf comes from the last layer that sets it:
`adds_layers`.
-/

namespace ShieldPolicy

open Json

/-- What a function finds in the last place of a list where it finds anything. -/
def latest {α β : Type} (f : α → Option β) (l : List α) : Option β := l.reverse.findSome? f

section Latest

variable {α β : Type} {f : α → Option β} {a : α} {l l' : List α}

theorem latest_append : latest f (l ++ l') = (latest f l').or (latest f l) := by
  rw [latest, List.reverse_append, List.findSome?_append]
  rfl

theorem latest_singleton : latest f [a] = f a := by
  simp [latest]

theorem latest_cons : latest f (a :: l) = (latest f l).or (f a) := by
  rw [← List.singleton_append, latest_append, latest_singleton]

theorem latest_eq_none (nowhere : ∀ a ∈ l, f a = none) : latest f l = none :=
  List.findSome?_eq_none_iff.mpr fun a member => nowhere a (List.mem_reverse.mp member)

theorem latest_eq_some {b : β} (member : a ∈ l) (here : f a = some b)
    (only : ∀ a ∈ l, ∀ b', f a = some b' → b' = b) : latest f l = some b := by
  cases found : latest f l with
  | none =>
    have nowhere := List.findSome?_eq_none_iff.mp found a (List.mem_reverse.mpr member)
    rw [here] at nowhere
    cases nowhere
  | some b' =>
    obtain ⟨a', member', here'⟩ := List.exists_of_findSome?_eq_some found
    rw [only a' (List.mem_reverse.mp member') b' here']

end Latest

namespace Setting

variable {root value old v : Setting} {key key' : String} {rest keys : List String}
  {members : List (String × Setting)}

/-! ### Places in merged settings -/

def look : List String → Setting → Option Setting
  | [], s => some s
  | key :: rest, s => (s.member? key).bind (look rest)

theorem member?_withMember : (root.withMember key value).member? key' =
    if key' = key then some value else root.member? key' := by
  cases root with
  | table o members => exact lookup_insertMember
  | _ => exact lookup_cons

theorem look_withMember : look (key' :: rest) (root.withMember key value) =
    if key' = key then look rest value else look (key' :: rest) root := by
  rw [look, member?_withMember]
  split
  · rfl
  · rfl

/-- What becomes of a value that is put on top of another: tables are merged. -/
def onTop (value : Setting) (old : Option Setting) : Setting :=
  match value with
  | .table _ members => putAll members (old.getD empty)
  | v => v

theorem put_eq : put key value root =
    root.withMember (Text.lowercase key) (onTop value (root.member? (Text.lowercase key))) := by
  cases value <;> simp only [put, onTop]

/-! ### Places in a layer -/

/-- The value that keys lead to; of members with one key, the last one that leads on. -/
def at? : List String → Setting → Option Setting
  | [], v => some v
  | key :: rest, .table _ members =>
    latest (fun m => if m.1 = key then at? rest m.2 else none) members
  | _ :: _, _ => none

end Setting

open Setting

/-! ### Schemas -/

/-- What may stand in a place: anything, a value that can be read, or a table. -/
inductive Schema where
  | free
  | leaf (reads : Setting → Prop)
  | table (member : String → Schema)

namespace Schema

variable {s : Schema} {f : String → Schema} {root value new : Setting} {old : Option Setting}
  {key : String} {rest keys : List String} {members : List (String × Setting)}
  {given : List String → Option Setting}

inductive Leaf : Schema → List String → Prop where
  | here {reads : Setting → Prop} : Leaf (.leaf reads) []
  | inside {f : String → Schema} {key : String} {rest : List String} (leaf : Leaf (f key) rest) :
      Leaf (.table f) (key :: rest)

/-- Whether a value of a layer is what may stand in a place. Keys are in lower case. -/
def Fits : Schema → Setting → Prop
  | .free, _ => True
  | .leaf reads, v => reads v ∧ ∀ o members, v ≠ .table o members
  | .table f, v => ∃ o members, v = .table o members ∧
      ∀ key x, (key, x) ∈ members → Text.lowercase key = key ∧ (f key).Fits x

def Holds : Schema → Setting → Prop
  | .free, _ => True
  | .leaf reads, v => reads v
  | .table f, v => ∃ o members, v = .table o members ∧ Ascending members ∧
      ∀ key x, (key, x) ∈ members → (f key).Holds x

/-- Whether the new value may stand in a place and has at each leaf what is given for it, and
otherwise what the old value has there. -/
def Adds (s : Schema) (given : List String → Option Setting) (old : Option Setting)
    (new : Setting) : Prop :=
  s.Holds new ∧ ∀ keys, s.Leaf keys → look keys new = (given keys).or (old.bind (look keys))

def under (key : String) (given : List String → Option Setting) : List String → Option Setting
  | [] => none
  | key' :: rest => if key' = key then given rest else none

theorem holds_empty : (Schema.table f).Holds empty :=
  ⟨none, [], rfl, .nil, fun _ _ member => absurd member List.not_mem_nil⟩

theorem look_empty (leaf : (Schema.table f).Leaf keys) : look keys empty = none := by
  cases leaf
  rfl

theorem Holds.member (holds : (Schema.table f).Holds root) {x : Setting}
    (found : root.member? key = some x) : (f key).Holds x := by
  obtain ⟨o, members, rfl, -, each⟩ := holds
  obtain ⟨before, after, same, -⟩ := List.lookup_eq_some_iff.mp found
  exact each key x (by simp [same])

theorem adds_withMember (holds : (Schema.table f).Holds root)
    (adds : (f key).Adds given (root.member? key) value) :
    (Schema.table f).Adds (under key given) (some root) (root.withMember key value) := by
  obtain ⟨fits, leaves⟩ := adds
  constructor
  · obtain ⟨o, members, rfl, ascending, each⟩ := holds
    refine ⟨o, _, rfl, ascending.insertMember, fun key' x member => ?_⟩
    rcases (mem_insertMember ascending).mp member with same | ⟨member, -⟩
    · cases same
      exact fits
    · exact each key' x member
  · intro keys leaf
    cases leaf with
    | @inside _ key' rest leaf =>
      rw [look_withMember, under]
      split
      · rename_i same
        subst same
        exact leaves rest leaf
      · rfl

/-! ### Values on top of values -/

theorem at?_table_cons {o : Option String} {m : String × Setting} :
    at? (key :: rest) (.table o (m :: members)) =
      (at? (key :: rest) (.table o members)).or (under m.1 (at? · m.2) (key :: rest)) := by
  rw [at?, latest_cons, at?, under]
  simp only [eq_comm]

theorem Adds.congr {given' : List String → Option Setting} (adds : s.Adds given old new)
    (same : ∀ keys, s.Leaf keys → given keys = given' keys) : s.Adds given' old new :=
  ⟨adds.1, fun keys leaf => same keys leaf ▸ adds.2 keys leaf⟩

theorem Adds.of_empty (adds : (Schema.table f).Adds given (some empty) new) :
    (Schema.table f).Adds given none new := by
  refine ⟨adds.1, fun keys leaf => ?_⟩
  rw [adds.2 keys leaf, Option.bind_some, look_empty leaf]
  rfl

theorem Adds.trans {first second : List String → Option Setting} {middle : Setting}
    (before : s.Adds first old middle) (after : s.Adds second (some middle) new) :
    s.Adds (fun keys => (second keys).or (first keys)) old new := by
  refine ⟨after.1, fun keys leaf => ?_⟩
  rw [after.2 keys leaf, Option.bind_some, before.2 keys leaf, Option.or_assoc]

theorem adds_putAll {o : Option String}
    (each : ∀ key x, (key, x) ∈ members → Text.lowercase key = key ∧
      ∀ old : Option Setting, (∀ v, old = some v → (f key).Holds v) →
        (f key).Adds (at? · x) old (onTop x old))
    (holds : (Schema.table f).Holds root) :
    (Schema.table f).Adds (at? · (.table o members)) (some root) (putAll members root) := by
  induction members generalizing root with
  | nil =>
    refine ⟨holds, fun keys leaf => ?_⟩
    cases leaf with
    | inside => rfl
  | cons m rest ih =>
    obtain ⟨key, x⟩ := m
    obtain ⟨lower, adds⟩ := each key x List.mem_cons_self
    have step := adds_withMember holds (adds _ fun v found => holds.member found)
    have others := ih (fun key' x' member => each key' x' (.tail _ member)) step.1
    rw [putAll, put_eq, lower]
    refine (step.trans others).congr fun keys leaf => ?_
    cases leaf with
    | inside => exact (at?_table_cons (m := (key, x))).symm

theorem adds_onTop (fits : s.Fits value) (holds : ∀ v, old = some v → s.Holds v) :
    s.Adds (at? · value) old (onTop value old) := by
  -- On the schema and not on the value: below what is free a value may go on, but has no leaves.
  induction s generalizing value old with
  | free => exact ⟨trivial, nofun⟩
  | leaf reads =>
    obtain ⟨read, noTable⟩ := fits
    have same : onTop value old = value := by
      cases value with
      | table o members => exact absurd rfl (noTable o members)
      | _ => rfl
    rw [same]
    refine ⟨read, fun keys leaf => ?_⟩
    cases leaf
    rfl
  | table f ih =>
    obtain ⟨o, members, rfl, each⟩ := fits
    have start : (Schema.table f).Holds (old.getD empty) := by
      cases old with
      | none => exact holds_empty
      | some v => exact holds v rfl
    have adds := adds_putAll (o := o) (fun key x member =>
      ⟨(each key x member).1, fun old held => ih key (each key x member).2 held⟩) start
    cases old with
    | none => exact adds.of_empty
    | some v => exact adds

end Schema

/-! ### Keys that are paths -/

namespace KeyPath

/-- A path as a value is put there: the last name in lower case. -/
def settled : KeyPath → KeyPath
  | .name key => .name (Text.lowercase key)
  | .child parent key => .child parent (Text.lowercase key)
  | .item parent index => .item parent index

/-- The keys that lead on from where a path leads. -/
def within? : KeyPath → List String → Option (List String)
  | .name _, [] => none
  | .name key, key' :: rest => if key' = key then some rest else none
  | .child parent key, keys => (parent.within? keys).bind fun
    | [] => none
    | key' :: rest => if key' = key then some rest else none
  | .item _ _, _ => none

end KeyPath

namespace Schema

variable {s s' : Schema} {f top : String → Schema} {root value new : Setting}
  {old : Option Setting} {key : String} {rest keys : List String} {p : KeyPath}
  {given : List String → Option Setting}

def member? : Schema → String → Option Schema
  | .free, _ => some .free
  | .leaf _, _ => none
  | .table f, key => some (f key)

/-- What may stand where a path leads. No list has a place but below what is free. -/
def reach? (s : Schema) : KeyPath → Option Schema
  | .name key => s.member? key
  | .child parent key => (s.reach? parent).bind (·.member? key)
  | .item parent _ => (s.reach? parent).bind fun
    | .free => some .free
    | _ => none

theorem within?_name_bind : ((KeyPath.name key).within? keys).bind given = under key given keys := by
  cases keys with
  | nil => rfl
  | cons key' rest =>
    rw [KeyPath.within?, under]
    split
    · rfl
    · rfl

theorem within?_child_bind : ((KeyPath.child p key).within? keys).bind given =
    (p.within? keys).bind (under key given) := by
  rw [KeyPath.within?, Option.bind_assoc]
  refine Option.bind_congr fun keys' _ => ?_
  cases keys' with
  | nil => rfl
  | cons key' rest =>
    dsimp only
    rw [under]
    by_cases same : key' = key
    · rw [if_pos same, if_pos same]
      rfl
    · rw [if_neg same, if_neg same]
      rfl

theorem adds_change (reached : (Schema.table top).reach? p = some s) {change : Setting → Setting}
    (adds : ∀ old : Option Setting, (∀ v, old = some v → s.Holds v) →
      s.Adds given old (change (old.getD (.absent none))))
    (holds : (Schema.table top).Holds root) :
    (Schema.table top).Adds (fun keys => (p.within? keys).bind given) (some root)
      (p.change change root) := by
  -- From the last name on the way outward: what is added at its end is under one more key each time.
  induction p generalizing s change given with
  | name key =>
    cases reached
    have step := adds_withMember holds (adds (root.member? key) fun v found => holds.member found)
    exact step.congr fun keys _ => within?_name_bind.symm
  | child parent key ih =>
    obtain ⟨s', reached, member⟩ := Option.bind_eq_some_iff.mp reached
    have inner : ∀ old : Option Setting, (∀ v, old = some v → s'.Holds v) →
        s'.Adds (under key given) old ((old.getD (.absent none)).asTable.withMember key
          (change (((old.getD (.absent none)).member? key).getD (.absent none)))) := by
      intro old held
      cases s' with
      | free => exact ⟨trivial, nofun⟩
      | leaf reads => cases member
      | table f =>
        cases member
        cases old with
        | none => exact (adds_withMember holds_empty (adds none nofun)).of_empty
        | some v =>
          have holds := held v rfl
          have step := adds_withMember holds (adds (v.member? key) fun x found => holds.member found)
          have same : v.asTable = v := by
            obtain ⟨o, members, rfl, -⟩ := holds
            rfl
          rw [Option.getD_some, same]
          exact step
    have whole : (Schema.table top).Adds (fun keys => (parent.within? keys).bind (under key given))
      (some root) ((KeyPath.child parent key).change change root) := ih reached inner
    exact whole.congr fun keys _ => within?_child_bind.symm
  | item parent index ih =>
    obtain ⟨s', reached, member⟩ := Option.bind_eq_some_iff.mp reached
    cases s' with
    | free =>
      have whole : (Schema.table top).Adds (fun keys => (parent.within? keys).bind fun _ => none)
        (some root) ((KeyPath.item parent index).change change root) :=
        ih reached fun old _ => ⟨trivial, nofun⟩
      refine whole.congr fun keys _ => ?_
      rw [KeyPath.within?]
      cases parent.within? keys <;> rfl
    | leaf reads => cases member
    | table f => cases member

theorem adds_put (reached : (Schema.table top).reach? p.settled = some s) (fits : s.Fits value)
    (holds : (Schema.table top).Holds root) :
    (Schema.table top).Adds (fun keys => (p.settled.within? keys).bind (at? · value)) (some root)
      (p.put value root) := by
  cases p with
  | name key =>
    cases reached
    rw [KeyPath.put, put_eq]
    have step := adds_withMember holds (adds_onTop fits fun v found => holds.member found)
    exact step.congr fun keys _ => within?_name_bind.symm
  | child parent key =>
    obtain ⟨s', reached, member⟩ := Option.bind_eq_some_iff.mp reached
    have inner : ∀ old : Option Setting, (∀ v, old = some v → s'.Holds v) →
        s'.Adds (under (Text.lowercase key) (at? · value)) old
          (Setting.put key value (old.getD (.absent none)).asTable) := by
      intro old held
      rw [put_eq]
      cases s' with
      | free => exact ⟨trivial, nofun⟩
      | leaf reads => cases member
      | table f =>
        cases member
        cases old with
        | none => exact (adds_withMember holds_empty (adds_onTop fits nofun)).of_empty
        | some v =>
          have holds := held v rfl
          have same : v.asTable = v := by
            obtain ⟨o, members, rfl, -⟩ := holds
            rfl
          rw [Option.getD_some, same]
          exact adds_withMember holds (adds_onTop fits fun x found => holds.member found)
    have whole : (Schema.table top).Adds
      (fun keys => (parent.within? keys).bind (under (Text.lowercase key) (at? · value)))
      (some root) ((KeyPath.child parent key).put value root) := adds_change reached inner holds
    exact whole.congr fun keys _ => within?_child_bind.symm
  | item parent index =>
    obtain ⟨s', reached, member⟩ := Option.bind_eq_some_iff.mp reached
    cases s' with
    | free =>
      have whole : (Schema.table top).Adds (fun keys => (parent.within? keys).bind fun _ => none)
        (some root) ((KeyPath.item parent index).put value root) :=
        adds_change reached (fun old _ => ⟨trivial, nofun⟩) holds
      refine whole.congr fun keys _ => ?_
      rw [KeyPath.settled, KeyPath.within?]
      cases parent.within? keys <;> rfl
    | leaf reads => cases member
    | table f => cases member

/-! ### Layers -/

variable {layer : List (String × Setting)} {layers : List (List (String × Setting))}

/-- What an entry of a layer sets in a place. Its key may be a path. -/
def sets? (keys : List String) (entry : String × Setting) : Option Setting :=
  ((KeyPath.ofKey entry.1).settled.within? keys).bind (at? · entry.2)

def FitsLayer (s : Schema) (layer : List (String × Setting)) : Prop :=
  ∀ key value, (key, value) ∈ layer →
    ∃ inner, s.reach? (KeyPath.ofKey key).settled = some inner ∧ inner.Fits value

theorem adds_overlay (fits : (Schema.table top).FitsLayer layer)
    (holds : (Schema.table top).Holds root) :
    (Schema.table top).Adds (fun keys => latest (sets? keys) layer) (some root)
      (root.overlay layer) := by
  induction layer generalizing root with
  | nil => exact ⟨holds, fun keys leaf => rfl⟩
  | cons entry rest ih =>
    obtain ⟨key, value⟩ := entry
    obtain ⟨inner, reached, fitting⟩ := fits key value List.mem_cons_self
    have step := adds_put reached fitting holds
    have others := ih (fun key value member => fits key value (.tail _ member)) step.1
    have whole : (Schema.table top).Adds _ (some root) (root.overlay ((key, value) :: rest)) :=
      step.trans others
    exact whole.congr fun keys _ =>
      (latest_cons (f := sets? keys) (a := (key, value)) (l := rest)).symm

/-- In merged layers each leaf comes from the last layer that sets it. -/
theorem adds_layers (fits : ∀ layer ∈ layers, (Schema.table top).FitsLayer layer)
    (holds : (Schema.table top).Holds root) :
    (Schema.table top).Adds (fun keys => latest (fun layer => latest (sets? keys) layer) layers)
      (some root) (layers.foldl overlay root) := by
  induction layers generalizing root with
  | nil => exact ⟨holds, fun keys leaf => rfl⟩
  | cons layer rest ih =>
    have step := adds_overlay (fits layer List.mem_cons_self) holds
    have others := ih (fun layer member => fits layer (.tail _ member)) step.1
    exact (step.trans others).congr fun keys _ => latest_cons.symm

end Schema

end ShieldPolicy
