import Mathlib.Data.List.Nodup
import ShieldPolicy.Json.Decoder

/-!
Members in any order. Where each key stands once and the fields do not get in each other's way,
`Orderless`, a record is the same whatever the order of its members: `toOption_ofMembers_perm`.
-/

namespace ShieldPolicy.Json

/-! ### Members in their place -/

section Insert

variable {α : Type} {key key' : String} {value value' : α} {members : List (String × α)}
  {m : String × α}

theorem insertMember_perm (fresh : key ∉ members.map Prod.fst) :
    (insertMember key value members).Perm ((key, value) :: members) := by
  induction members with
  | nil => exact .refl _
  | cons m rest ih =>
    obtain ⟨k, v⟩ := m
    rw [List.map_cons, List.mem_cons, not_or] at fresh
    unfold insertMember
    split
    · exact .refl _
    split
    · exact absurd ‹key = k› fresh.1
    · exact ((ih fresh.2).cons _).trans (.swap _ _ _)

theorem insertMember_of_lt {k : String} {v : α} (below : key < k) :
    insertMember key value ((k, v) :: members) = (key, value) :: (k, v) :: members := if_pos below

theorem insertMember_self {v : α} :
    insertMember key value ((key, v) :: members) = (key, value) :: members := by
  rw [insertMember, if_neg (String.lt_irrefl key), if_pos rfl]

theorem insertMember_of_gt {k : String} {v : α} (above : k < key) :
    insertMember key value ((k, v) :: members) = (k, v) :: insertMember key value members := by
  rw [insertMember, if_neg (String.lt_asymm above), if_neg]
  rintro rfl
  exact String.lt_irrefl _ above

theorem lt_or_gt_of_ne (other : key ≠ key') : key < key' ∨ key' < key := by
  rcases String.le_total key key' with le | le
  · exact .inl (String.not_le.mp fun back => other (String.le_antisymm le back))
  · exact .inr (String.not_le.mp fun back => other (String.le_antisymm back le))

theorem insertMember_comm_of_lt (below : key < key') :
    insertMember key value (insertMember key' value' members) =
      insertMember key' value' (insertMember key value members) := by
  induction members with
  | nil =>
    rw [insertMember, insertMember, insertMember_of_lt below, insertMember_of_gt below, insertMember]
  | cons m rest ih =>
    obtain ⟨k, v⟩ := m
    by_cases same : key = k
    · subst same
      rw [insertMember_self, insertMember_of_gt below, insertMember_self, insertMember_of_gt below]
    rcases lt_or_gt_of_ne same with first | last
    · rw [insertMember_of_lt first, insertMember_of_gt below]
      by_cases same' : key' = k
      · subst same'
        rw [insertMember_self, insertMember_of_lt below]
      rcases lt_or_gt_of_ne same' with first' | last'
      · rw [insertMember_of_lt first', insertMember_of_lt below]
      · rw [insertMember_of_gt last', insertMember_of_lt first]
    · have last' := String.lt_trans last below
      rw [insertMember_of_gt last', insertMember_of_gt last, insertMember_of_gt last,
        insertMember_of_gt last', ih]

theorem insertMember_comm (other : key ≠ key') :
    insertMember key value (insertMember key' value' members) =
      insertMember key' value' (insertMember key value members) := by
  rcases lt_or_gt_of_ne other with below | above
  · exact insertMember_comm_of_lt below
  · exact (insertMember_comm_of_lt above).symm

def Ascending (members : List (String × α)) : Prop := members.Pairwise fun m m' => m.1 < m'.1

theorem Ascending.nodup (ascending : Ascending members) : (members.map Prod.fst).Nodup := by
  refine List.pairwise_map.mpr (ascending.imp fun {m m'} less same => ?_)
  rw [same] at less
  exact String.lt_irrefl _ less

theorem mem_insertMember (ascending : Ascending members) :
    m ∈ insertMember key value members ↔ m = (key, value) ∨ m ∈ members ∧ m.1 ≠ key := by
  induction members with
  | nil => simp [insertMember]
  | cons m' rest ih =>
    obtain ⟨k, v⟩ := m'
    obtain ⟨first, others⟩ := List.pairwise_cons.mp ascending
    have apart (less : key < k) : ∀ m ∈ (k, v) :: rest, m.1 ≠ key := by
      intro m member same
      rcases List.mem_cons.mp member with rfl | later
      · exact String.lt_irrefl _ (same ▸ less)
      · exact String.lt_asymm (first m later) (same ▸ less)
    unfold insertMember
    split
    · rename_i less
      rw [List.mem_cons]
      exact or_congr_right ⟨fun member => ⟨member, apart less m member⟩, And.left⟩
    split
    · rename_i same
      subst same
      have other : m ∈ rest → m.1 ≠ key := fun later same =>
        String.lt_irrefl key (same ▸ first m later)
      rw [List.mem_cons, List.mem_cons]
      refine or_congr_right ⟨fun later => ⟨.inr later, other later⟩, ?_⟩
      rintro ⟨rfl | later, different⟩
      · exact absurd rfl different
      · exact later
    · rename_i different
      rw [List.mem_cons, ih others, List.mem_cons]
      constructor
      · rintro (rfl | rfl | ⟨later, other⟩)
        · exact .inr ⟨.inl rfl, fun same => different same.symm⟩
        · exact .inl rfl
        · exact .inr ⟨.inr later, other⟩
      · rintro (rfl | ⟨rfl | later, other⟩)
        · exact .inr (.inl rfl)
        · exact .inl rfl
        · exact .inr (.inr ⟨later, other⟩)

theorem Ascending.insertMember (ascending : Ascending members) :
    Ascending (insertMember key value members) := by
  induction members with
  | nil => exact List.pairwise_singleton _ _
  | cons m' rest ih =>
    obtain ⟨k, v⟩ := m'
    obtain ⟨first, others⟩ := List.pairwise_cons.mp ascending
    unfold Json.insertMember
    split
    · rename_i less
      refine List.pairwise_cons.mpr ⟨fun m member => ?_, ascending⟩
      rcases List.mem_cons.mp member with rfl | later
      · exact less
      · exact String.lt_trans less (first m later)
    split
    · rename_i same
      subst same
      exact List.pairwise_cons.mpr ⟨first, others⟩
    · rename_i notLess different
      have below : k < key := (lt_or_gt_of_ne different).resolve_left notLess
      refine List.pairwise_cons.mpr ⟨fun m member => ?_, ih others⟩
      rcases (mem_insertMember others).mp member with rfl | ⟨later, -⟩
      · exact below
      · exact first m later

theorem forall_ofMembers {P : Json → Prop} {members : List (String × Json)}
    (each : ∀ m ∈ members, P m.2) : ∃ ms, ofMembers members = .object ms ∧ Ascending ms ∧
      ∀ m ∈ ms, P m.2 := by
  have folded (read : List (String × Json)) (ascending : Ascending read)
      (kept : ∀ m ∈ read, P m.2) :
      Ascending (members.foldl (fun acc m => insertMember m.1 m.2 acc) read) ∧
        ∀ m ∈ members.foldl (fun acc m => insertMember m.1 m.2 acc) read, P m.2 := by
    induction members generalizing read with
    | nil => exact ⟨ascending, kept⟩
    | cons m members ih =>
      obtain ⟨first, others⟩ := List.forall_mem_cons.mp each
      refine ih others _ ascending.insertMember fun m' member => ?_
      rcases (mem_insertMember ascending).mp member with rfl | ⟨member, -⟩
      · exact first
      · exact kept m' member
  exact ⟨_, rfl, folded [] .nil fun m member => absurd member List.not_mem_nil⟩

theorem lookup_cons {k : String} {v : α} :
    List.lookup key ((k, v) :: members) = if key = k then some v else members.lookup key := by
  rw [List.lookup_cons]
  by_cases same : key = k
  · rw [if_pos same, beq_iff_eq.mpr same]
  · rw [if_neg same, beq_false_of_ne same]

theorem lookup_insertMember :
    (insertMember key value members).lookup key' =
      if key' = key then some value else members.lookup key' := by
  induction members with
  | nil => exact lookup_cons
  | cons m rest ih =>
    obtain ⟨k, v⟩ := m
    unfold insertMember
    split
    · exact lookup_cons
    split
    · rename_i same
      subst same
      rw [lookup_cons, lookup_cons]
      split
      · rfl
      · rfl
    · rename_i different
      rw [lookup_cons, ih, lookup_cons]
      by_cases same : key' = k
      · have other : key' ≠ key := fun named => different (named.symm.trans same)
        rw [if_pos same, if_pos same, if_neg other]
      · rw [if_neg same, if_neg same]

theorem mem_foldl_insertMember {acc : List (String × α)} (ascending : Ascending acc)
    (once : ∀ m ∈ acc ++ members, ∀ m' ∈ acc ++ members, m.1 = m'.1 → m = m') :
    m ∈ members.foldl (fun acc m => insertMember m.1 m.2 acc) acc ↔ m ∈ acc ++ members := by
  induction members generalizing acc with
  | nil => rw [List.append_nil, List.foldl_nil]
  | cons first rest ih =>
    have step {m : String × α} :
        m ∈ insertMember first.1 first.2 acc ↔ m = first ∨ m ∈ acc ∧ m.1 ≠ first.1 :=
      mem_insertMember ascending
    have before {m : String × α} (member : m ∈ insertMember first.1 first.2 acc ++ rest) :
        m ∈ acc ++ first :: rest := by
      rw [List.mem_append, step] at member
      rw [List.mem_append, List.mem_cons]
      rcases member with (rfl | ⟨member, -⟩) | member
      · exact .inr (.inl rfl)
      · exact .inl member
      · exact .inr (.inr member)
    rw [List.foldl_cons,
      ih ascending.insertMember fun m member m' member' => once m (before member) m' (before member')]
    refine ⟨before, fun member => ?_⟩
    rw [List.mem_append, step]
    rcases List.mem_append.mp member with member | member
    · by_cases same : m.1 = first.1
      · exact .inl (.inl (once m (by simp [member]) first (by simp) same))
      · exact .inl (.inr ⟨member, same⟩)
    rcases List.mem_cons.mp member with same | member
    · exact .inl (.inl same)
    · exact .inr member

end Insert

namespace Decoder

variable {ρ : Type} {fields : List (Field ρ)} {other : String → Json → ρ → ρ} {blank r : ρ}
  {members members' : List (String × Json)}

/-! ### Records from members -/

/-- What a member does to a record, none when it is not what its field expects. -/
def put? (fields : List (Field ρ)) (other : String → Json → ρ → ρ) (m : String × Json) :
    Option (ρ → ρ) :=
  match fields.find? fun f => f.name == m.1 with
  | some f => (f.decoder.ofValue m.2).toOption
  | none => some (other m.1 m.2)

theorem put?_nil (m : String × Json) : put? [] other m = some (other m.1 m.2) := rfl

theorem put?_cons_of_eq {f : Field ρ} {m : String × Json} (named : m.1 = f.name) :
    put? (f :: fields) other m = (f.decoder.ofValue m.2).toOption := by
  unfold put?
  rw [List.find?_cons_of_pos]
  exact beq_iff_eq.mpr named.symm

theorem put?_cons_of_ne {f : Field ρ} {m : String × Json} (apart : m.1 ≠ f.name) :
    put? (f :: fields) other m = put? fields other m := by
  rw [put?, put?, List.find?_cons_of_neg]
  exact fun same => apart (eq_of_beq same).symm

/-- Whether members with other keys can be put into a record in either order. -/
def Orderless (fields : List (Field ρ)) (other : String → Json → ρ → ρ) : Prop :=
  ∀ {m m' put put'}, m.1 ≠ m'.1 → put? fields other m = some put → put? fields other m' = some put' →
    ∀ r, put (put' r) = put' (put r)

def putAll? (fields : List (Field ρ)) (other : String → Json → ρ → ρ) (r : ρ)
    (members : List (String × Json)) : Option ρ :=
  members.foldlM (fun r m => (put? fields other m).map (· r)) r

theorem putAll?_cons {m : String × Json} : putAll? fields other r (m :: members) =
    (put? fields other m).bind fun put => putAll? fields other (put r) members := by
  rw [putAll?, List.foldlM_cons]
  cases put? fields other m <;> rfl

theorem putAll?_perm (orderless : Orderless fields other) (perm : members.Perm members')
    (distinct : (members.map Prod.fst).Nodup) (r : ρ) :
    putAll? fields other r members' = putAll? fields other r members := by
  induction perm generalizing r with
  | nil => rfl
  | cons m _ ih =>
    rw [putAll?_cons, putAll?_cons]
    refine Option.bind_congr fun put _ => ih (List.nodup_cons.mp distinct).2 _
  | swap m m' rest =>
    have apart : m.1 ≠ m'.1 := by
      rintro same
      simp [same] at distinct
    simp only [putAll?_cons]
    cases taken : put? fields other m with
    | none => cases put? fields other m' <;> rfl
    | some put =>
      cases taken' : put? fields other m' with
      | none => rfl
      | some put' => simp only [Option.bind_some, orderless apart taken taken' r]
  | trans first _ ih ih' =>
    rw [ih' ((first.map Prod.fst).nodup_iff.mp distinct), ih distinct]

theorem missing?_congr {present present' : List String}
    (same : ∀ f ∈ fields, f.name ∈ present ↔ f.name ∈ present') :
    missing? fields present = missing? fields present' := by
  unfold missing?
  induction fields with
  | nil => rfl
  | cons f rest ih =>
    have contains : present.contains f.name = present'.contains f.name := by
      rw [Bool.eq_iff_iff, List.contains_iff_mem, List.contains_iff_mem, same f List.mem_cons_self]
    rw [List.find?_cons, List.find?_cons, contains]
    split
    · rfl
    · exact ih fun f member => same f (.tail _ member)

theorem toOption_bind {ε α β : Type} (first : Except ε α) (next : α → Except ε β) :
    (first >>= next).toOption = first.toOption.bind fun a => (next a).toOption := by
  cases first <;> rfl

theorem toOption_foldlM (fields : List (Field ρ)) (other : String → Json → ρ → ρ)
    {step : ρ → String × Json → Except Fault ρ}
    (each : ∀ r m, (step r m).toOption = (put? fields other m).map (· r)) (r : ρ) :
    (members.foldlM step r).toOption = putAll? fields other r members := by
  induction members generalizing r with
  | nil => rfl
  | cons m rest ih =>
    rw [List.foldlM_cons, toOption_bind, putAll?_cons, each]
    cases put? fields other m with
    | none => rfl
    | some put => exact ih (put r)

theorem toOption_ofMembers : (ofMembers fields other blank members).toOption =
    (putAll? fields other blank members).filter fun _ =>
      (missing? fields (members.map Prod.fst)).isNone := by
  unfold ofMembers
  rw [toOption_bind, toOption_foldlM fields other]
  · cases putAll? fields other blank members with
    | none => rfl
    | some r => cases missing? fields (members.map Prod.fst) <;> rfl
  · rintro r ⟨key, j⟩
    rw [put?]
    cases found : fields.find? fun f => f.name == key with
    | none => simp only [found, Except.toOption, pure, Except.pure, Option.map_some]
    | some f =>
      simp only [found]
      cases f.decoder.ofValue j <;> rfl

/-- A record is the same whatever the order of its members. -/
theorem toOption_ofMembers_perm (orderless : Orderless fields other) (perm : members.Perm members')
    (distinct : (members.map Prod.fst).Nodup) :
    (ofMembers fields other blank members').toOption =
      (ofMembers fields other blank members).toOption := by
  rw [toOption_ofMembers, toOption_ofMembers, putAll?_perm orderless perm distinct,
    missing?_congr fun f _ => (perm.map Prod.fst).mem_iff.symm]

/-! ### Records of one field -/

section Single

variable {R : Json → Json → Prop} {P : ρ → ρ → Prop} {f : Field ρ} {d : Decoder ρ} {name key : String}
  {isRequired : Bool} {j j' : Json} {r' : ρ}

theorem orderless_single : Orderless [f] fun _ _ r => r := by
  intro m m' put put' apart taken taken' r
  by_cases first : m.1 = f.name
  · rw [put?_cons_of_ne (fun second => apart (first.trans second.symm)), put?_nil] at taken'
    cases taken'
    rfl
  · rw [put?_cons_of_ne first, put?_nil] at taken
    cases taken
    rfl

/-- Values that differ at most in what stands under a key, which may be left out in a list. -/
inductive Within (key : String) (R : Json → Json → Prop) : Json → Json → Prop where
  | same (j : Json) : Within key R j j
  | member (before after : List (String × Json)) {j j' : Json} (inside : R j j') :
      Within key R (.object (before ++ (key, j) :: after)) (.object (before ++ (key, j') :: after))
  | item (rest : List Json) {j j' : Json} (inside : R j j') :
      Within key R (.array (j :: rest)) (.array (j' :: rest))

/-- The field whose value is the whole record. -/
def only (key : String) (isRequired : Bool) (d : Decoder ρ) : Field ρ :=
  ⟨key, isRequired, d.map fun a _ => a⟩

theorem ofValue_only : (only key isRequired d).decoder.ofValue j = (d.ofValue j).map fun a _ => a :=
  rfl

theorem put?_only (m : String × Json) :
    put? [only key isRequired d] (fun _ _ r => r) m =
      if m.1 = key then (d.ofValue m.2).toOption.map fun a _ => a else some id := by
  split
  · rename_i named
    rw [put?_cons_of_eq named, ofValue_only]
    cases d.ofValue m.2 <;> rfl
  · rename_i apart
    rw [put?_cons_of_ne apart, put?_nil]
    rfl

theorem rel_refl (refl : ∀ r, P r r) (o : Option ρ) : Option.Rel P o o := by
  cases o with
  | none => exact .none
  | some r => exact .some (refl r)

theorem rel_filter (keep : Bool) {first second : Option ρ} (related : Option.Rel P first second) :
    Option.Rel P (first.filter fun _ => keep) (second.filter fun _ => keep) := by
  cases related with
  | none => exact .none
  | some related =>
    cases keep with
    | false => exact .none
    | true => exact .some related

theorem rel_putAll?_only (refl : ∀ r, P r r) (start : P r r') (members : List (String × Json)) :
    Option.Rel P (putAll? [only key isRequired d] (fun _ _ r => r) r members)
      (putAll? [only key isRequired d] (fun _ _ r => r) r' members) := by
  induction members generalizing r r' with
  | nil => exact .some start
  | cons m rest ih =>
    rw [putAll?_cons, putAll?_cons, put?_only]
    split
    · cases (d.ofValue m.2).toOption with
      | none => exact .none
      | some a => exact ih (refl a)
    · exact ih start

theorem rel_putAll?_member (refl : ∀ r, P r r)
    (values : Option.Rel P (d.ofValue j).toOption (d.ofValue j').toOption)
    (before after : List (String × Json)) :
    Option.Rel P
      (putAll? [only key isRequired d] (fun _ _ r => r) blank (before ++ (key, j) :: after))
      (putAll? [only key isRequired d] (fun _ _ r => r) blank (before ++ (key, j') :: after)) := by
  induction before generalizing blank with
  | nil =>
    rw [List.nil_append, List.nil_append, putAll?_cons, putAll?_cons, put?_only, put?_only,
      if_pos rfl, if_pos rfl]
    generalize (d.ofValue j).toOption = first at values
    generalize (d.ofValue j').toOption = second at values
    cases values with
    | none => exact .none
    | some related => exact rel_putAll?_only refl related after
  | cons m rest ih =>
    rw [List.cons_append, List.cons_append, putAll?_cons, putAll?_cons]
    cases put? _ _ m with
    | none => exact .none
    | some put => exact ih

theorem toOption_record_item (rest : List Json) :
    ((record name [only key isRequired d] blank).ofValue (.array (j :: rest))).toOption =
      (d.ofValue j).toOption.filter fun _ => rest.isEmpty := by
  simp only [record, ofItems, ofValue_only]
  cases d.ofValue j with
  | error fault => rfl
  | ok a => cases rest <;> rfl

theorem rel_record (refl : ∀ r, P r r)
    (each : ∀ j j', R j j' → Option.Rel P (d.ofValue j).toOption (d.ofValue j').toOption)
    (within : Within key R j j') :
    Option.Rel P ((record name [only key isRequired d] blank).ofValue j).toOption
      ((record name [only key isRequired d] blank).ofValue j').toOption := by
  cases within with
  | same => exact rel_refl refl _
  | @member before after j j' inside =>
    have keys : (before ++ (key, j') :: after).map Prod.fst =
        (before ++ (key, j) :: after).map Prod.fst := by
      simp only [List.map_append, List.map_cons]
    simp only [record]
    rw [toOption_ofMembers, toOption_ofMembers, keys]
    exact rel_filter _ (rel_putAll?_member refl (each j j' inside) before after)
  | item rest inside =>
    rw [toOption_record_item, toOption_record_item]
    exact rel_filter _ (each _ _ inside)

end Single

/-! ### Items in any order -/

section Items

variable {α : Type} {d : Decoder α} {items items' : List Json}

theorem toOption_mapM (items : List Json) :
    (items.mapM d.ofValue).toOption = items.mapM fun j => (d.ofValue j).toOption := by
  induction items with
  | nil => rfl
  | cons j rest ih =>
    rw [List.mapM_cons, List.mapM_cons, toOption_bind, ← ih]
    cases d.ofValue j with
    | error fault => rfl
    | ok a => cases rest.mapM d.ofValue <;> rfl

theorem rel_mapM_perm {f : Json → Option α} (perm : items.Perm items') :
    Option.Rel List.Perm (items.mapM f) (items'.mapM f) := by
  induction perm with
  | nil => exact .some (.refl _)
  | @cons j rest rest' _ ih =>
    rw [List.mapM_cons, List.mapM_cons]
    generalize rest.mapM f = as at ih
    generalize rest'.mapM f = as' at ih
    cases f j with
    | none => exact .none
    | some a =>
      cases ih with
      | none => exact .none
      | some related => exact .some (related.cons a)
  | swap j j' rest =>
    simp only [List.mapM_cons]
    cases f j <;> cases f j' <;> try exact .none
    cases rest.mapM f with
    | none => exact .none
    | some as => exact .some (.swap _ _ _)
  | @trans items middle items' _ _ ih ih' =>
    generalize items.mapM f = as at ih
    generalize middle.mapM f = as' at ih ih'
    generalize items'.mapM f = as'' at ih'
    cases ih with
    | none => exact ih'
    | some related =>
      cases ih' with
      | some related' => exact .some (related.trans related')

end Items

end Decoder

end ShieldPolicy.Json
