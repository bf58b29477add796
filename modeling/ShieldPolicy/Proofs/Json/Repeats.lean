import ShieldPolicy.Proofs.Json.Agreement

/-!
Objects that hold each key once. Every value that a text holds is made of such objects,
`keysOnce_of_parse`, and the reader that allows no repeated key refuses a text that holds a value
for nothing but a repeated key: `parseDistinct_or_repeats`.
-/

namespace ShieldPolicy.Json

/-- Whether every object in a value holds each key once. -/
inductive KeysOnce : Json → Prop where
  | null : KeysOnce .null
  | bool (b : Bool) : KeysOnce (.bool b)
  | number (n : Number) : KeysOnce (.number n)
  | text (s : String) : KeysOnce (.text s)
  | array {items : List Json} (each : ∀ j ∈ items, KeysOnce j) : KeysOnce (.array items)
  | object {members : List (String × Json)} (once : (members.map Prod.fst).Nodup)
      (each : ∀ m ∈ members, KeysOnce m.2) : KeysOnce (.object members)

namespace Reader

variable {α β : Type} {P : α → Prop} {reader : Reader α} {next : α → Reader β} {c mid c' : Cursor}
  {a : α} {b : β} {j : Json} {levels : Nat}

/-! ### Values that are read -/

def MembersOnce (members : List (String × Json)) : Prop :=
  Ascending members ∧ ∀ m ∈ members, m.2.KeysOnce

theorem MembersOnce.insertMember {key : String} {members : List (String × Json)}
    (once : MembersOnce members) (value : j.KeysOnce) :
    MembersOnce (insertMember key j members) := by
  refine ⟨once.1.insertMember, fun m member => ?_⟩
  rcases (mem_insertMember once.1).mp member with rfl | ⟨member, -⟩
  · exact value
  · exact once.2 m member

theorem yields_keysOnce (levels : Nat) : Yields KeysOnce (value levels) := by
  have scalar {ch : Char} {read : Reader Json} (known : scalar? ch = some read) :
      Yields KeysOnce read :=
    yields_scalar? .null .bool (fun n _ => .number n) .text known
  induction levels with
  | zero => exact yields_valueWith scalar (yields_failAhead _) (yields_failAhead _)
  | succ levels ih =>
    refine yields_valueWith scalar ?_ ?_
    · refine yields_after fun _ => yields_bind (P := fun js => ∀ j ∈ js, j.KeysOnce) ?_
        fun items each => yields_pure (.array each)
      exact yields_after fun c => yields_itemsWithin ih _ true
    · refine yields_after fun _ => yields_bind (P := MembersOnce) ?_
        fun members once => yields_pure (.object once.1.nodup once.2)
      have none : MembersOnce [] := ⟨.nil, fun m member => absurd member List.not_mem_nil⟩
      refine yields_after fun c => yields_membersWithin (fun key read once => ?_) _ true none
      exact yields_after fun _ => yields_bind ih fun j value => yields_pure (once.insertMember value)

/-! ### Readers that allow no repeated key -/

/-- Reads what is asked for, unless it stops at a repeated key. -/
inductive ReadsOrRepeats (reader : Reader α) (c : Cursor) (a : α) (c' : Cursor) : Prop where
  | reads (read : reader c = (.ok a, c'))
  | repeats {e : Error} {stop : Cursor} {key : String} (failed : reader c = (.error e, stop))
      (fault : e.fault = .duplicateField key)

namespace ReadsOrRepeats

theorem bind (first : ReadsOrRepeats reader c a mid) (rest : ReadsOrRepeats (next a) mid b c') :
    ReadsOrRepeats (reader >>= next) c b c' := by
  cases first with
  | reads first =>
    have whole : (reader >>= next) c = next a mid := bind_of_ok first
    cases rest with
    | reads rest => exact .reads (whole.trans rest)
    | repeats failed fault => exact .repeats (whole.trans failed) fault
  | repeats failed fault => exact .repeats (bind_of_error failed) fault

theorem placed (inside : ReadsOrRepeats reader c a c') :
    ReadsOrRepeats (Reader.placed reader) c a c' := by
  cases inside with
  | reads read => exact .reads (placed_of_ok read)
  | @repeats e stop key failed fault =>
    obtain ⟨kind, place⟩ := e
    have same : Reader.placed reader c = (.error ⟨kind, some (place.getD stop.here)⟩, stop) := by
      rw [Reader.placed, failed]
      cases place <;> rfl
    exact .repeats same fault

theorem closedBy {closing : Reader Unit} (inside : ReadsOrRepeats reader c a mid)
    (close : closing mid = (.ok (), c')) : ReadsOrRepeats (Reader.closedBy reader closing) c a c' := by
  cases inside with
  | reads read => exact .reads (closedBy_of_ok read close)
  | @repeats e stop key failed fault =>
    have same : Reader.closedBy reader closing c = (.error e, (closing stop).2) := by
      rw [Reader.closedBy, failed]
      rfl
    exact .repeats same fault

end ReadsOrRepeats

theorem valueWith_or_repeats {list list' object object' : Reader Json}
    (lists : ∀ {c j c'}, list c = (.ok j, c') → ReadsOrRepeats list' c j c')
    (objects : ∀ {c j c'}, object c = (.ok j, c') → ReadsOrRepeats object' c j c')
    (read : valueWith list object c = (.ok j, c')) :
    ReadsOrRepeats (valueWith list' object') c j c' := by
  unfold valueWith
  obtain ⟨ch, scalar, head, known, taken⟩ | ⟨head, mid, taken, close⟩ | ⟨head, mid, taken, close⟩ :=
    valueWith_ok read
  · refine .bind (.reads (peekSolid_of_head head)) ?_
    dsimp only
    rw [known]
    exact .reads (placed_of_ok taken)
  · exact .bind (.reads (peekSolid_of_head head)) ((lists taken).closedBy close).placed
  · exact .bind (.reads (peekSolid_of_head head)) ((objects taken).closedBy close).placed

theorem itemsWithin_or_repeats {item item' : Reader α}
    (each : ∀ {c a c'}, item c = (.ok a, c') → ReadsOrRepeats item' c a c') {fuel : Nat}
    {first : Bool} {as : List α} (read : itemsWithin item fuel first c = (.ok as, c')) :
    ReadsOrRepeats (itemsWithin item' fuel first) c as c' := by
  induction fuel generalizing first c c' as with
  | zero => cases read
  | succ fuel ih =>
    unfold itemsWithin at read ⊢
    obtain ⟨more, mid, another, read⟩ := bind_ok read
    refine .bind (.reads another) ?_
    cases more with
    | false =>
      cases read
      exact .reads rfl
    | true =>
      obtain ⟨a, next, taken, read⟩ := bind_ok read
      obtain ⟨rest, last, others, read⟩ := bind_ok read
      exact .bind (each taken) (.bind (ih others) (.reads read))

theorem membersWithin_or_repeats {σ : Type} {member member' : String → σ → Reader σ}
    (each : ∀ {key s c s' c'}, member key s c = (.ok s', c') →
      ReadsOrRepeats (member' key s) c s' c')
    {fuel : Nat} {first : Bool} {s s' : σ}
    (read : membersWithin member fuel first s c = (.ok s', c')) :
    ReadsOrRepeats (membersWithin member' fuel first s) c s' c' := by
  induction fuel generalizing first c c' s with
  | zero => cases read
  | succ fuel ih =>
    unfold membersWithin at read ⊢
    obtain ⟨more, mid, another, read⟩ := bind_ok read
    refine .bind (.reads another) ?_
    cases more with
    | false =>
      cases read
      exact .reads rfl
    | true =>
      obtain ⟨⟨⟩, start, quote, read⟩ := bind_ok read
      obtain ⟨key, next, named, read⟩ := bind_ok read
      obtain ⟨s₁, last, taken, read⟩ := bind_ok read
      exact .bind (.reads quote) (.bind (.reads named) (.bind (each taken) (ih read)))

theorem distinctValue_or_repeats (read : value levels c = (.ok j, c')) :
    ReadsOrRepeats (distinctValue levels) c j c' := by
  induction levels generalizing c j c' with
  | zero => exact .reads read
  | succ levels ih =>
    rw [value] at read
    rw [distinctValue]
    have member {key : String} {read read' : List (String × Json)} {c c' : Cursor}
        (taken : (do
          colon
          return insertMember key (← value levels) read : Reader _) c = (.ok read', c')) :
        ReadsOrRepeats (distinctMember (distinctValue levels) key read) c read' c' := by
      obtain ⟨⟨⟩, mid, after, taken⟩ := bind_ok taken
      obtain ⟨j, next, inside, taken⟩ := bind_ok taken
      unfold distinctMember
      split
      · exact .repeats rfl rfl
      · exact .bind (.reads after) (.bind (ih inside) (.reads taken))
    refine valueWith_or_repeats ?_ ?_ read
    · intro c j c' read
      obtain ⟨⟨⟩, mid, start, read⟩ := bind_ok read
      obtain ⟨js, next, inside, read⟩ := bind_ok read
      have all : ReadsOrRepeats (items (distinctValue levels)) mid js next :=
        .bind (.reads rfl) (itemsWithin_or_repeats ih inside)
      exact .bind (.reads start) (.bind all (.reads read))
    · intro c j c' read
      obtain ⟨⟨⟩, mid, start, read⟩ := bind_ok read
      obtain ⟨ms, next, inside, read⟩ := bind_ok read
      have all : ReadsOrRepeats (members (distinctMember (distinctValue levels)) []) mid ms next :=
        .bind (.reads rfl) (membersWithin_or_repeats (fun taken => member taken) inside)
      exact .bind (.reads start) (.bind all (.reads read))

end Reader

/-! ### Whole texts -/

variable {text : String} {j : Json}

theorem keysOnce_of_parse (held : parse text = .ok j) : j.KeysOnce :=
  Reader.holds_of_run (Reader.yields_keysOnce levelBound) held

def RepeatsKey (text : String) : Prop :=
  ∃ e key, parseDistinct text = .error e ∧ e.fault = .duplicateField key

theorem parseDistinct_or_repeats (held : parse text = .ok j) :
    parseDistinct text = .ok j ∨ RepeatsKey text := by
  obtain ⟨c, c', taken, ended⟩ := Reader.run_ok_iff.mp held
  cases Reader.distinctValue_or_repeats taken with
  | reads read => exact .inl (Reader.run_ok_iff.mpr ⟨c, c', read, ended⟩)
  | @repeats e stop key failed fault =>
    have whole : parseDistinct text = .error e :=
      congrArg Prod.fst (Reader.bind_of_error failed)
    exact .inr ⟨e, key, whole, fault⟩

end ShieldPolicy.Json
