import ShieldPolicy.Proofs.Json.Members
import ShieldPolicy.Proofs.Json.Read
import ShieldPolicy.Proofs.Json.Skip

/-!
The two faces of a decoder. On a text in which no object repeats a key, decoding while reading and
decoding the value that the text holds come to the same: `Decoder.Agrees`. One lemma per decoder.
-/

namespace ShieldPolicy.Json

namespace Reader

variable {α β : Type} {reader : Reader α} {c mid c' : Cursor} {a : α} {j : Json} {levels : Nat}

/-! ### Texts without repeated keys -/

def distinctMember (value : Reader Json) (key : String) (read : List (String × Json)) :
    Reader (List (String × Json)) := do
  if key ∈ read.map Prod.fst then failUnplaced (.duplicateField key)
  else
    colon
    return insertMember key (← value) read

/-- A value in which so many levels may be opened and no object repeats a key. -/
def distinctValue : Nat → Reader Json
  | 0 => valueWith (failAhead .tooDeep) (failAhead .tooDeep)
  | levels + 1 =>
    valueWith
      (do advance; return .array (← items (distinctValue levels)))
      (do advance; return .object (← members (distinctMember (distinctValue levels)) []))

theorem distinctMember_ok {value : Reader Json} {key : String} {read read' : List (String × Json)}
    (taken : distinctMember value key read c = (.ok read', c')) :
    key ∉ read.map Prod.fst ∧ ∃ mid j, colon c = (.ok (), mid) ∧ value mid = (.ok j, c') ∧
      read' = insertMember key j read := by
  unfold distinctMember at taken
  split at taken
  · cases taken
  · rename_i fresh
    obtain ⟨⟨⟩, mid, after, taken⟩ := bind_ok taken
    obtain ⟨j, stop, value, taken⟩ := bind_ok taken
    cases taken
    exact ⟨fresh, mid, j, after, value, rfl⟩

inductive Distinct (levels : Nat) (c : Cursor) : Json → Cursor → Prop where
  | null {c' : Cursor} (head : c.dropSpace.rest.head? = some 'n')
      (word : word ['u', 'l', 'l'] c.dropSpace.advance = (.ok (), c')) : Distinct levels c .null c'
  | bool {b : Bool} {ch : Char} {c' : Cursor} (head : c.dropSpace.rest.head? = some ch)
      (letter : ch = 't' ∨ ch = 'f') : Distinct levels c (.bool b) c'
  | number {n : Number} {ch : Char} {c' : Cursor} (head : c.dropSpace.rest.head? = some ch)
      (start : ch = '-' ∨ ch.isDigit) : Distinct levels c (.number n) c'
  | text {s : String} {c' : Cursor} (head : c.dropSpace.rest.head? = some '"')
      (text : text c.dropSpace.advance = (.ok s, c')) : Distinct levels c (.text s) c'
  | list {inner : Nat} {js : List Json} {mid c' : Cursor} (deeper : levels = inner + 1)
      (head : c.dropSpace.rest.head? = some '[')
      (inside : items (distinctValue inner) c.dropSpace.advance = (.ok js, mid))
      (close : listEnd mid = (.ok (), c')) : Distinct levels c (.array js) c'
  | object {inner : Nat} {ms : List (String × Json)} {mid c' : Cursor}
      (deeper : levels = inner + 1) (head : c.dropSpace.rest.head? = some '\x7b')
      (inside : members (distinctMember (distinctValue inner)) [] c.dropSpace.advance =
        (.ok ms, mid))
      (close : objectEnd mid = (.ok (), c')) : Distinct levels c (.object ms) c'

theorem distinct_of_scalar {ch : Char} {read : Reader Json}
    (head : c.dropSpace.rest.head? = some ch) (known : scalar? ch = some read)
    (taken : read c.dropSpace = (.ok j, c')) : Distinct levels c j c' := by
  have word {expected : List Char} {value : Json}
      (same : read = (do advance; word expected; return value)) :
      j = value ∧ Reader.word expected c.dropSpace.advance = (.ok (), c') := by
    rw [same, bind_of_ok (advance_eq _)] at taken
    obtain ⟨⟨⟩, mid, word, taken⟩ := bind_ok taken
    cases taken
    exact ⟨rfl, word⟩
  unfold scalar? at known
  split at known
  · obtain ⟨rfl, rest⟩ := word (Option.some.inj known).symm
    exact .null (‹ch = 'n'› ▸ head) rest
  split at known
  · obtain ⟨rfl, -⟩ := word (Option.some.inj known).symm
    exact .bool head (.inl ‹_›)
  split at known
  · obtain ⟨rfl, -⟩ := word (Option.some.inj known).symm
    exact .bool head (.inr ‹_›)
  split at known
  · cases known
    rw [bind_of_ok (advance_eq _)] at taken
    obtain ⟨n, mid, number, taken⟩ := bind_ok taken
    cases taken
    exact .number head (.inl ‹_›)
  split at known
  · cases known
    obtain ⟨n, mid, number, taken⟩ := bind_ok taken
    cases taken
    exact .number head (.inr ‹_›)
  split at known
  · cases known
    rw [bind_of_ok (advance_eq _)] at taken
    obtain ⟨s, mid, text, taken⟩ := bind_ok taken
    cases taken
    exact .text (‹ch = '"'› ▸ head) text
  · cases known

theorem distinct_of_distinctValue (read : distinctValue levels c = (.ok j, c')) :
    Distinct levels c j c' := by
  cases levels with
  | zero =>
    obtain ⟨ch, scalar, head, known, taken⟩ | ⟨-, mid, taken, -⟩ | ⟨-, mid, taken, -⟩ :=
      valueWith_ok read
    · exact distinct_of_scalar head known taken
    · cases taken
    · cases taken
  | succ inner =>
    obtain ⟨ch, scalar, head, known, taken⟩ | ⟨head, mid, taken, close⟩ | ⟨head, mid, taken, close⟩ :=
      valueWith_ok read
    · exact distinct_of_scalar head known taken
    · rw [bind_of_ok (advance_eq _)] at taken
      obtain ⟨js, mid', inside, taken⟩ := bind_ok taken
      cases taken
      exact .list rfl head inside close
    · rw [bind_of_ok (advance_eq _)] at taken
      obtain ⟨ms, mid', inside, taken⟩ := bind_ok taken
      cases taken
      exact .object rfl head inside close

theorem distinctValue_dropSpace : distinctValue levels c.dropSpace = distinctValue levels c := by
  have same (list object : Reader Json) :
      valueWith list object c.dropSpace = valueWith list object c := by
    unfold valueWith
    rw [bind_of_ok (peekSolid_eq c), bind_of_ok (peekSolid_eq _), Cursor.dropSpace_dropSpace]
  cases levels with
  | zero => exact same _ _
  | succ levels => exact same _ _

theorem placed_of_ok (read : reader c = (.ok a, c')) : placed reader c = (.ok a, c') := by
  rw [placed, read]

theorem closedBy_of_ok {closing : Reader Unit} (inside : reader c = (.ok a, mid))
    (close : closing mid = (.ok (), c')) : closedBy reader closing c = (.ok a, c') := by
  rw [closedBy, inside]
  simp only [close]

theorem closedBy_of_not_closed {closing : Reader Unit} {e : Error} {stop : Cursor}
    (inside : reader c = (.ok a, mid)) (open_ : closing mid = (.error e, stop)) :
    closedBy reader closing c = (.error e, stop) := by
  rw [closedBy, inside]
  simp only [open_]

theorem closedBy_bind_of_ok {next : α → Reader β} {closing : Reader Unit}
    (read : reader c = (.ok a, mid)) :
    closedBy (reader >>= next) closing c = closedBy (next a) closing mid := by
  unfold closedBy
  rw [bind_of_ok read]

theorem valueWith_mono {list list' object object' : Reader Json}
    (lists : ∀ {c j c'}, list c = (.ok j, c') → list' c = (.ok j, c'))
    (objects : ∀ {c j c'}, object c = (.ok j, c') → object' c = (.ok j, c'))
    (read : valueWith list object c = (.ok j, c')) : valueWith list' object' c = (.ok j, c') := by
  unfold valueWith
  obtain ⟨ch, scalar, head, known, taken⟩ | ⟨head, mid, taken, close⟩ | ⟨head, mid, taken, close⟩ :=
    valueWith_ok read
  · rw [bind_of_ok (peekSolid_of_head head)]
    dsimp only
    rw [known]
    exact placed_of_ok taken
  · rw [bind_of_ok (peekSolid_of_head head)]
    exact placed_of_ok (closedBy_of_ok (lists taken) close)
  · rw [bind_of_ok (peekSolid_of_head head)]
    exact placed_of_ok (closedBy_of_ok (objects taken) close)

theorem itemsWithin_mono {item item' : Reader α}
    (each : ∀ {c a c'}, item c = (.ok a, c') → item' c = (.ok a, c')) {fuel : Nat} {first : Bool}
    {as : List α} (read : itemsWithin item fuel first c = (.ok as, c')) :
    itemsWithin item' fuel first c = (.ok as, c') := by
  induction fuel generalizing first c c' as with
  | zero => cases read
  | succ fuel ih =>
    unfold itemsWithin at read ⊢
    obtain ⟨more, mid, another, read⟩ := bind_ok read
    rw [bind_of_ok another]
    cases more with
    | false =>
      cases read
      rfl
    | true =>
      obtain ⟨a, next, taken, read⟩ := bind_ok read
      obtain ⟨rest, last, others, read⟩ := bind_ok read
      change (item' >>= fun a => itemsWithin item' fuel false >>= fun rest => pure (a :: rest)) mid = _
      rw [bind_of_ok (each taken), bind_of_ok (ih others)]
      exact read

theorem membersWithin_more {σ : Type} {member : String → σ → Reader σ} {fuel : Nat} {first : Bool}
    {s : σ} {key : String} {start stop : Cursor} (another : anotherMember first c = (.ok true, mid))
    (quote : advance mid = (.ok (), start)) (named : text start = (.ok key, stop)) :
    membersWithin member (fuel + 1) first s c =
      (member key s >>= fun next => membersWithin member fuel false next) stop := by
  rw [membersWithin, bind_of_ok another]
  change (advance >>= fun _ => text >>= fun key => member key s >>= fun next =>
    membersWithin member fuel false next) mid = _
  rw [bind_of_ok quote, bind_of_ok named]

theorem membersWithin_mono {σ : Type} {member member' : String → σ → Reader σ}
    (each : ∀ {key s c s' c'}, member key s c = (.ok s', c') → member' key s c = (.ok s', c'))
    {fuel : Nat} {first : Bool} {s s' : σ}
    (read : membersWithin member fuel first s c = (.ok s', c')) :
    membersWithin member' fuel first s c = (.ok s', c') := by
  induction fuel generalizing first c c' s with
  | zero => cases read
  | succ fuel ih =>
    unfold membersWithin at read
    obtain ⟨more, mid, another, read⟩ := bind_ok read
    cases more with
    | false =>
      cases read
      rw [membersWithin, bind_of_ok another]
      rfl
    | true =>
      obtain ⟨⟨⟩, start, quote, read⟩ := bind_ok read
      obtain ⟨key, next, named, read⟩ := bind_ok read
      obtain ⟨s₁, last, taken, read⟩ := bind_ok read
      rw [membersWithin_more another quote named, bind_of_ok (each taken)]
      exact ih read

theorem value_of_distinctValue (read : distinctValue levels c = (.ok j, c')) :
    value levels c = (.ok j, c') := by
  induction levels generalizing c j c' with
  | zero => exact read
  | succ levels ih =>
    rw [distinctValue] at read
    rw [value]
    refine valueWith_mono ?_ ?_ read
    · intro c j c' read
      obtain ⟨⟨⟩, mid, start, read⟩ := bind_ok read
      obtain ⟨js, next, inside, read⟩ := bind_ok read
      have all : items (value levels) mid = (.ok js, next) := itemsWithin_mono ih inside
      rw [bind_of_ok start, bind_of_ok all]
      exact read
    · intro c j c' read
      obtain ⟨⟨⟩, mid, start, read⟩ := bind_ok read
      obtain ⟨ms, next, inside, read⟩ := bind_ok read
      have all : members (fun key read => do
          colon
          return insertMember key (← value levels) read) [] mid = (.ok ms, next) := by
        have each {key read c read' c'} (taken : distinctMember (distinctValue levels) key read c =
            (.ok read', c')) : (do
              colon
              return insertMember key (← value levels) read : Reader _) c = (.ok read', c') := by
          obtain ⟨-, mid, j, after, member, rfl⟩ := distinctMember_ok taken
          rw [bind_of_ok after, bind_of_ok (ih member)]
          rfl
        exact membersWithin_mono each inside
      rw [bind_of_ok start, bind_of_ok all]
      exact read

end Reader

def parseDistinct (text : String) : Except Error Json :=
  Reader.run (Reader.distinctValue levelBound) text

/-- A whole text is read when the reader stops before nothing but blanks. -/
theorem Reader.run_ok_iff {α : Type} {reader : Reader α} {text : String} {a : α} :
    reader.run text = .ok a ↔ ∃ c c', reader (Cursor.start text) = (.ok a, c) ∧
      textEnd c = (.ok (), c') := by
  constructor
  · intro read
    have whole : (do
        let a ← reader
        textEnd
        return a : Reader α) (Cursor.start text) = (.ok a, _) := Prod.ext read rfl
    obtain ⟨a', c, taken, rest⟩ := bind_ok whole
    obtain ⟨⟨⟩, c', ended, rest⟩ := bind_ok rest
    cases (Prod.mk.inj rest).1
    exact ⟨c, c', taken, ended⟩
  · rintro ⟨c, c', taken, ended⟩
    change ((reader >>= fun a => textEnd >>= fun _ => pure a) (Cursor.start text)).1 = _
    rw [bind_of_ok taken, bind_of_ok ended]
    rfl

theorem parse_of_parseDistinct {text : String} {j : Json} (held : parseDistinct text = .ok j) :
    parse text = .ok j := by
  obtain ⟨c, c', taken, ended⟩ := Reader.run_ok_iff.mp held
  exact Reader.run_ok_iff.mpr ⟨c, c', Reader.value_of_distinctValue taken, ended⟩

/-! ### Two faces of one decoding -/

/-- A reading that comes to what decoding came to, and stops where the value ends. -/
inductive Follows {α : Type} (stop : Cursor) :
    Except Fault α → Except Error α × Cursor → Prop where
  | ok {a : α} : Follows stop (.ok a) (.ok a, stop)
  | error {fault : Fault} {e : Error} {c : Cursor} : Follows stop (.error fault) (.error e, c)

namespace Follows

open Reader

variable {α β : Type} {decoded : Except Fault α} {next : α → Except Fault β} {reader : Reader α}
  {more : α → Reader β} {c mid stop : Cursor}

theorem bind (first : Follows mid decoded (reader c))
    (rest : ∀ a, Follows stop (next a) (more a mid)) :
    Follows stop (decoded >>= next) ((reader >>= more) c) := by
  generalize read : reader c = outcome at first
  cases first with
  | ok =>
    rw [bind_of_ok read]
    exact rest _
  | error =>
    rw [bind_of_error read]
    exact .error

theorem map (f : α → β) (first : Follows stop decoded (reader c)) :
    Follows stop (decoded.map f) ((f <$> reader) c) := by
  rw [map_eq_pure_bind]
  have both : Follows stop (decoded >>= fun a => .ok (f a))
      ((reader >>= fun a => pure (f a)) c) := first.bind fun a => .ok
  cases decoded <;> exact both

theorem placed (inside : Follows stop decoded (reader c)) :
    Follows stop decoded (Reader.placed reader c) := by
  unfold Reader.placed
  generalize reader c = outcome at inside
  cases inside with
  | ok => exact .ok
  | @error fault e c =>
    obtain ⟨fault, position⟩ := e
    cases position <;> exact .error

theorem closedBy {closing : Reader Unit} (inside : Follows mid decoded (reader c))
    (close : closing mid = (.ok (), stop)) :
    Follows stop decoded (Reader.closedBy reader closing c) := by
  unfold Reader.closedBy
  generalize reader c = outcome at inside
  cases inside with
  | ok =>
    simp only [close]
    exact .ok
  | error => exact .error

theorem closedBy_bind {closing : Reader Unit} (first : Follows mid decoded (reader c))
    (rest : ∀ a, Follows stop (next a) (Reader.closedBy (more a) closing mid)) :
    Follows stop (decoded >>= next) (Reader.closedBy (reader >>= more) closing c) := by
  generalize read : reader c = outcome at first
  cases first with
  | ok =>
    rw [closedBy_bind_of_ok read]
    exact rest _
  | error =>
    unfold Reader.closedBy
    rw [bind_of_error read]
    exact .error

theorem of_never {fault : Fault} (never : Yields (fun _ => False) reader) :
    Follows stop (.error fault) (reader c) := by
  cases read : reader c with
  | mk answer last =>
    cases answer with
    | ok a => exact (never c a last read).elim
    | error e => exact .error

theorem expecting {expected : String} {starts : Char → Bool} {read : Char → Reader α} {ch : Char}
    (head : c.dropSpace.rest.head? = some ch) (start : starts ch)
    (inside : Follows stop decoded (read ch c.dropSpace)) :
    Follows stop decoded (Decoder.expecting expected starts read c) := by
  rw [Decoder.expecting, bind_of_ok (peekSolid_of_head head)]
  dsimp only
  rw [if_pos start]
  exact inside.placed

theorem mismatch {expected : String} {starts : Char → Bool} {read : Char → Reader α} {ch : Char}
    {fault : Fault} (head : c.dropSpace.rest.head? = some ch) (other : starts ch = false) :
    Follows stop (.error fault) (Decoder.expecting expected starts read c) := by
  rw [Decoder.expecting, bind_of_ok (peekSolid_of_head head)]
  dsimp only
  rw [if_neg (by simp [other])]
  exact of_never (yields_mismatch expected)

end Follows

namespace Decoder

open Reader

variable {α β ρ : Type} {d : Decoder α} {c mid c' stop : Cursor} {j : Json} {levels : Nat}

/-- Whether decoding while reading follows the decoding of the value that is read. -/
def Agrees (d : Decoder α) : Prop :=
  ∀ {levels c j c'}, distinctValue levels c = (.ok j, c') → Follows c' (d.ofValue j) (d.ofText levels c)

theorem Agrees.map (agrees : d.Agrees) (f : α → β) : (d.map f).Agrees :=
  fun read => (agrees read).map f

theorem number_beq {ch other : Char} (start : ch = '-' ∨ ch.isDigit)
    (plain : other ≠ '-' ∧ other.isDigit = false) : (ch == other) = false := by
  refine beq_eq_false_iff_ne.mpr ?_
  rintro rfl
  rcases start with dash | digit
  · exact plain.1 dash
  · simp [plain.2] at digit

theorem agrees_textNamed (expected : String) : (textNamed expected).Agrees := by
  intro levels c j c' read
  cases distinct_of_distinctValue read with
  | text head text =>
    refine Follows.expecting head rfl ?_
    rw [bind_of_ok (advance_eq _), text]
    exact .ok
  | null head => exact .mismatch head rfl
  | bool head letter => exact .mismatch head (by rcases letter with rfl | rfl <;> rfl)
  | number head start => exact .mismatch head (number_beq start (by decide))
  | list _ head => exact .mismatch head rfl
  | object _ head => exact .mismatch head rfl

theorem opened_succ (inside : Nat → Reader α) (levels : Nat) (c : Cursor) :
    opened inside (levels + 1) c = inside levels c.advance := bind_of_ok (advance_eq c)

theorem agrees_text : text.Agrees := agrees_textNamed _

theorem Agrees.optional (agrees : d.Agrees) : (optional d).Agrees := by
  intro levels c j c' read
  have inner (other : c.dropSpace.rest.head? ≠ some 'n') :
      Follows c' ((d.ofValue j).map some) ((Decoder.optional d).ofText levels c) := by
    change Follows c' _ ((peekSolid >>= _) c)
    rw [bind_of_ok (peekSolid_eq c)]
    generalize c.dropSpace.rest.head? = head at other
    split
    · exact absurd rfl other
    · rw [← distinctValue_dropSpace] at read
      exact (agrees read).map some
  cases distinct_of_distinctValue read with
  | null head word =>
    change Follows c' _ ((peekSolid >>= _) c)
    rw [bind_of_ok (peekSolid_eq c), head]
    change Follows c' _ ((advance >>= fun _ => _) c.dropSpace)
    rw [bind_of_ok (advance_eq _), bind_of_ok word]
    exact .ok
  | bool head letter =>
    exact inner (by rw [head]; rcases letter with rfl | rfl <;> nofun)
  | number head start =>
    refine inner fun same => ?_
    rw [head] at same
    exact beq_eq_false_iff_ne.mp (number_beq start (by decide)) (Option.some.inj same)
  | text head => exact inner (by rw [head]; nofun)
  | list _ head => exact inner (by rw [head]; nofun)
  | object _ head => exact inner (by rw [head]; nofun)

theorem follows_items (agrees : d.Agrees) {fuel : Nat} {first : Bool} {js : List Json}
    (read : itemsWithin (distinctValue levels) fuel first c = (.ok js, c')) :
    Follows c' (js.mapM d.ofValue) (itemsWithin (d.ofText levels) fuel first c) := by
  induction fuel generalizing first c c' js with
  | zero => cases read
  | succ fuel ih =>
    unfold itemsWithin at read ⊢
    obtain ⟨more, mid, another, read⟩ := bind_ok read
    rw [bind_of_ok another]
    cases more with
    | false =>
      cases read
      exact .ok
    | true =>
      obtain ⟨j, next, taken, read⟩ := bind_ok read
      obtain ⟨rest, last, others, read⟩ := bind_ok read
      cases read
      rw [List.mapM_cons]
      refine (agrees taken).bind fun a => (ih others).bind fun as => ?_
      exact .ok

theorem Agrees.list (agrees : d.Agrees) : (list d).Agrees := by
  intro levels c j c' read
  cases distinct_of_distinctValue read with
  | list deeper head inside close =>
    subst deeper
    refine Follows.expecting head rfl ?_
    rw [opened_succ]
    exact (follows_items agrees inside).closedBy close
  | null head => exact .mismatch head rfl
  | bool head letter => exact .mismatch head (by rcases letter with rfl | rfl <;> rfl)
  | number head start => exact .mismatch head (number_beq start (by decide))
  | text head => exact .mismatch head rfl
  | object _ head => exact .mismatch head rfl

/-! ### Records -/

variable {fields : List (Field ρ)} {other : String → Json → ρ → ρ} {blank r : ρ}

theorem Agrees.required (agrees : d.Agrees) (name : String) (put : α → ρ → ρ) :
    (Field.required name d put).decoder.Agrees := agrees.map put

theorem Agrees.defaulted (agrees : d.Agrees) (name : String) (put : α → ρ → ρ) :
    (Field.defaulted name d put).decoder.Agrees := agrees.map put

theorem anotherItem_done {first : Bool} (another : anotherItem first c = (.ok false, mid)) :
    mid = c.dropSpace ∧ c.dropSpace.rest.head? = some ']' := by
  cases anotherItem_ok another with
  | none closed => exact ⟨rfl, closed⟩

theorem anotherItem_of_closed (first : Bool) (closed : c.dropSpace.rest.head? = some ']') :
    anotherItem first c = (.ok false, c.dropSpace) := by
  unfold anotherItem
  rw [bind_of_ok (peekSolid_eq c), closed]
  rfl

theorem listEnd_of_another {first : Bool} (another : anotherItem first c = (.ok true, mid)) :
    ∃ e stop, listEnd c = (.error e, stop) := by
  cases ended : listEnd c with
  | mk answer stop =>
    cases answer with
    | error e => exact ⟨e, stop, rfl⟩
    | ok =>
      have closed := (listEnd_ok ended).1
      cases anotherItem_ok another with
      | first head open_ =>
        rw [closed] at head
        exact absurd (Option.some.inj head).symm open_
      | next comma =>
        rw [closed] at comma
        cases comma

theorem listEnd_dropSpace : listEnd c.dropSpace = listEnd c := by
  unfold listEnd
  rw [bind_of_ok (peekSolid_eq c), bind_of_ok (peekSolid_eq _), Cursor.dropSpace_dropSpace]

theorem follows_readItems (each : ∀ f ∈ fields, f.decoder.Agrees) {expected : String} {fault : Fault}
    {fuel count : Nat} {js : List Json}
    (read : itemsWithin (distinctValue levels) fuel (count == 0) c = (.ok js, mid))
    (close : listEnd mid = (.ok (), c')) :
    Follows c' (ofItems expected count fields js r >>= fun (r, rest) =>
        if rest.isEmpty then .ok r else .error fault)
      (Reader.closedBy (readItems expected levels count fields r) listEnd c) := by
  induction fields generalizing fuel count js r c with
  | nil =>
    cases fuel with
    | zero => cases read
    | succ fuel =>
      obtain ⟨more, next, another, read⟩ := bind_ok read
      cases more with
      | false =>
        cases read
        obtain ⟨rfl, -⟩ := anotherItem_done another
        rw [listEnd_dropSpace] at close
        have whole : Reader.closedBy (pure r) listEnd c = (.ok r, c') := closedBy_of_ok rfl close
        change Follows c' (.ok r) (Reader.closedBy (pure r) listEnd c)
        rw [whole]
        exact .ok
      | true =>
        obtain ⟨j, _, _, read⟩ := bind_ok read
        obtain ⟨rest, _, _, read⟩ := bind_ok read
        cases read
        obtain ⟨e, stop, failed⟩ := listEnd_of_another another
        have whole : Reader.closedBy (pure r) listEnd c = (.error e, stop) :=
          closedBy_of_not_closed rfl failed
        change Follows c' (.error fault) (Reader.closedBy (pure r) listEnd c)
        rw [whole]
        exact .error
  | cons f fields ih =>
    have later : ∀ f ∈ fields, f.decoder.Agrees := fun f member => each f (.tail _ member)
    cases fuel with
    | zero => cases read
    | succ fuel =>
      obtain ⟨more, next, another, read⟩ := bind_ok read
      unfold readItems
      rw [closedBy_bind_of_ok another]
      cases more with
      | false =>
        cases read
        obtain ⟨rfl, closed⟩ := anotherItem_done another
        rw [ofItems]
        cases f.isRequired with
        | true => exact .error
        | false =>
          have done : itemsWithin (distinctValue levels) 1 (count + 1 == 0) c.dropSpace =
              (.ok [], c.dropSpace) := by
            have again : c.dropSpace.dropSpace.rest.head? = some ']' := by
              rw [Cursor.dropSpace_dropSpace, closed]
            rw [itemsWithin, bind_of_ok (anotherItem_of_closed _ again), Cursor.dropSpace_dropSpace]
            rfl
          exact ih later done
      | true =>
        obtain ⟨j, next', taken, read⟩ := bind_ok read
        obtain ⟨rest, last, others, read⟩ := bind_ok read
        cases read
        rw [ofItems, bind_assoc]
        have others : itemsWithin (distinctValue levels) fuel (count + 1 == 0) next' =
          (.ok rest, mid) := others
        exact (each f List.mem_cons_self taken).closedBy_bind fun put => ih later others

structure Holds (fields : List (Field ρ)) (other : String → Json → ρ → ρ) (blank : ρ)
    (read : List (String × Json)) (state : ρ × List String) : Prop where
  distinct : (read.map Prod.fst).Nodup
  taken : putAll? fields other blank read = some state.1
  present : ∀ {key}, key ∈ state.2 ↔
    key ∈ read.map Prod.fst ∧ (fields.find? fun f => f.name == key).isSome

variable {key : String} {read final : List (String × Json)} {state : ρ × List String}

theorem putAll?_insertMember (orderless : Orderless fields other) (fresh : key ∉ read.map Prod.fst)
    (distinct : (read.map Prod.fst).Nodup) :
    putAll? fields other blank (insertMember key j read) =
      (putAll? fields other blank read).bind fun r => (put? fields other (key, j)).map (· r) := by
  have perm : (read ++ [(key, j)]).Perm (insertMember key j read) :=
    (List.perm_append_singleton _ _).trans (insertMember_perm fresh).symm
  have apart : ((read ++ [(key, j)]).map Prod.fst).Nodup := by
    rw [List.map_append]
    exact List.nodup_append.mpr ⟨distinct, List.nodup_singleton _, fun a member b last => by
      rw [List.map_singleton, List.mem_singleton] at last
      rintro rfl
      rw [last] at member
      exact fresh member⟩
  rw [putAll?_perm orderless perm apart, putAll?, List.foldlM_append]
  refine Option.bind_congr fun r _ => ?_
  rw [List.foldlM_cons]
  cases put? fields other (key, j) <;> rfl

theorem keys_insertMember (fresh : key ∉ read.map Prod.fst) (name : String) :
    name ∈ (insertMember key j read).map Prod.fst ↔ name = key ∨ name ∈ read.map Prod.fst := by
  rw [((insertMember_perm fresh).map Prod.fst).mem_iff, List.map_cons, List.mem_cons]

theorem nodup_insertMember (fresh : key ∉ read.map Prod.fst) (distinct : (read.map Prod.fst).Nodup) :
    ((insertMember key j read).map Prod.fst).Nodup :=
  ((insertMember_perm fresh).map Prod.fst).nodup_iff.mpr (List.nodup_cons.mpr ⟨fresh, distinct⟩)

theorem holds_nil : Holds fields other blank [] (blank, []) :=
  ⟨List.nodup_nil, rfl, by simp⟩

theorem Holds.field (holds : Holds fields other blank read state)
    (orderless : Orderless fields other) (fresh : key ∉ read.map Prod.fst) {f : Field ρ}
    (found : fields.find? (fun f => f.name == key) = some f) {put : ρ → ρ}
    (decoded : f.decoder.ofValue j = .ok put) :
    Holds fields other blank (insertMember key j read) (put state.1, key :: state.2) where
  distinct := nodup_insertMember fresh holds.distinct
  taken := by
    rw [putAll?_insertMember orderless fresh holds.distinct, holds.taken]
    simp only [Option.bind_some, put?, found, decoded, Except.toOption, Option.map_some]
  present {name} := by
    rw [List.mem_cons, keys_insertMember fresh, holds.present]
    by_cases same : name = key
    · simp [same, found]
    · simp [same]

theorem Holds.unknown (holds : Holds fields other blank read state)
    (orderless : Orderless fields other) (fresh : key ∉ read.map Prod.fst)
    (found : fields.find? (fun f => f.name == key) = none) :
    Holds fields other blank (insertMember key j read) (other key j state.1, state.2) where
  distinct := nodup_insertMember fresh holds.distinct
  taken := by
    rw [putAll?_insertMember orderless fresh holds.distinct, holds.taken]
    simp only [Option.bind_some, put?, found, Option.map_some]
  present {name} := by
    rw [keys_insertMember fresh, holds.present]
    by_cases same : name = key
    · simp [same, found]
    · simp [same]

/-- What was read stays, so a member that is not what its field expects fails the record. -/
theorem putAll?_none_of_read {fuel : Nat} {first : Bool}
    (taken : membersWithin (distinctMember (distinctValue levels)) fuel first read c = (.ok final, c'))
    (orderless : Orderless fields other) (distinct : (read.map Prod.fst).Nodup)
    (failed : putAll? fields other blank read = none) : putAll? fields other blank final = none := by
  induction fuel generalizing first read c with
  | zero => cases taken
  | succ fuel ih =>
    obtain ⟨more, mid, another, taken⟩ := bind_ok taken
    cases more with
    | false =>
      cases taken
      exact failed
    | true =>
      obtain ⟨⟨⟩, _, _, taken⟩ := bind_ok taken
      obtain ⟨key, _, _, taken⟩ := bind_ok taken
      obtain ⟨read', _, member, taken⟩ := bind_ok taken
      obtain ⟨fresh, _, j, _, _, rfl⟩ := distinctMember_ok member
      refine ih taken (nodup_insertMember fresh distinct) ?_
      rw [putAll?_insertMember orderless fresh distinct, failed]
      rfl

structure Takes (fields : List (Field ρ)) (other : String → Json → ρ → ρ) (levels : Nat)
    (step : String → ρ × List String → Reader (ρ × List String)) : Prop where
  field {key f r present} : fields.find? (fun f => f.name == key) = some f → key ∉ present →
    step key (r, present) = do
      colon
      let put ← f.decoder.ofText levels
      return (put r, key :: present)
  unknown {key r present c mid j c'} : fields.find? (fun f => f.name == key) = none →
    colon c = (.ok (), mid) → distinctValue levels mid = (.ok j, c') →
    step key (r, present) c = (.ok (other key j r, present), c')

variable {step : String → ρ × List String → Reader (ρ × List String)}

theorem follows_members (takes : Takes fields other levels step)
    (orderless : Orderless fields other) (each : ∀ f ∈ fields, f.decoder.Agrees) {fuel : Nat}
    {first : Bool} (holds : Holds fields other blank read state)
    (taken : membersWithin (distinctMember (distinctValue levels)) fuel first read c = (.ok final, c')) :
    (∃ state', Holds fields other blank final state' ∧
      membersWithin step fuel first state c = (.ok state', c')) ∨
    putAll? fields other blank final = none ∧
      ∃ e stop, membersWithin step fuel first state c = (.error e, stop) := by
  induction fuel generalizing first read state c with
  | zero => cases taken
  | succ fuel ih =>
    obtain ⟨r, present⟩ := state
    obtain ⟨more, mid, another, taken⟩ := bind_ok taken
    cases more with
    | false =>
      cases taken
      rw [membersWithin, bind_of_ok another]
      exact .inl ⟨_, holds, rfl⟩
    | true =>
      obtain ⟨⟨⟩, start, quote, taken⟩ := bind_ok taken
      obtain ⟨key, next, named, taken⟩ := bind_ok taken
      obtain ⟨read', last, member, taken⟩ := bind_ok taken
      obtain ⟨fresh, inner, j, after, value, rfl⟩ := distinctMember_ok member
      rw [membersWithin_more another quote named]
      cases found : fields.find? fun f => f.name == key with
      | none =>
        rw [bind_of_ok (takes.unknown found after value)]
        exact ih (holds.unknown orderless fresh found) taken
      | some f =>
        have absent : key ∉ present := fun member => fresh (holds.present.mp member).1
        have follows := each f (List.mem_of_find?_eq_some found) value
        generalize reading : f.decoder.ofText levels inner = outcome at follows
        generalize decoded : f.decoder.ofValue j = result at follows
        cases follows with
        | @ok put =>
          have stepped : step key (r, present) next = (.ok (put r, key :: present), last) := by
            rw [takes.field found absent, bind_of_ok after, bind_of_ok reading]
            rfl
          rw [bind_of_ok stepped]
          exact ih (holds.field orderless fresh found decoded) taken
        | @error fault e stop =>
          have stepped : step key (r, present) next = (.error e, stop) := by
            rw [takes.field found absent, bind_of_ok after, bind_of_error reading]
          refine .inr ⟨?_, e, stop, bind_of_error stepped⟩
          refine putAll?_none_of_read taken orderless (nodup_insertMember fresh holds.distinct) ?_
          rw [putAll?_insertMember orderless fresh holds.distinct, holds.taken]
          simp only [Option.bind_some, put?, found, decoded, Except.toOption, Option.map_none]

def readMember (fields : List (Field ρ)) (skip : String → ρ → Reader ρ) (levels : Nat) (key : String)
    (state : ρ × List String) : Reader (ρ × List String) :=
  match fields.find? fun f => f.name == key with
  | some f =>
    if state.2.contains key then Reader.failUnplaced (.duplicateField key)
    else do
      Reader.colon
      let put ← f.decoder.ofText levels
      return (put state.1, key :: state.2)
  | none => do return (← skip key state.1, state.2)

variable {skip : String → ρ → Reader ρ}

theorem takes_readMember
    (unknown : ∀ {key r c mid j c'}, colon c = (.ok (), mid) →
      distinctValue levels mid = (.ok j, c') → skip key r c = (.ok (other key j r), c')) :
    Takes fields other levels (readMember fields skip levels) where
  field {key f r present} found absent := by
    simp only [readMember, found, List.contains_iff_mem, absent, if_false]
  unknown {key r present c mid j c'} found after value := by
    simp only [readMember, found]
    rw [bind_of_ok (unknown after value)]
    rfl

theorem missing?_of_holds (holds : Holds fields other blank final state) :
    missing? fields state.2 = missing? fields (final.map Prod.fst) := by
  refine missing?_congr fun f member => ?_
  rw [holds.present, and_iff_left]
  exact List.find?_isSome.mpr ⟨f, member, beq_self_eq_true _⟩

def noneMissing (fields : List (Field ρ)) (state : ρ × List String) : Reader ρ :=
  match missing? fields state.2 with
  | some name => Reader.failUnplaced (.missingField name)
  | none => return state.1

theorem follows_readMembers (orderless : Orderless fields other)
    (each : ∀ f ∈ fields, f.decoder.Agrees)
    (unknown : ∀ {key r c mid j c'}, colon c = (.ok (), mid) →
      distinctValue levels mid = (.ok j, c') → skip key r c = (.ok (other key j r), c'))
    (taken : Reader.members (distinctMember (distinctValue levels)) [] c = (.ok final, c')) :
    Follows c' (ofMembers fields other blank final) (readMembers fields skip blank levels c) := by
  change Follows c' _ ((Reader.members (readMember fields skip levels) (blank, []) >>=
    noneMissing fields) c)
  have takes : Takes fields other levels (readMember fields skip levels) := takes_readMember unknown
  have whole : (ofMembers fields other blank final).toOption = _ := toOption_ofMembers
  generalize ofMembers fields other blank final = record at whole
  obtain ⟨state, holds, read⟩ | ⟨failed, e, stop, read⟩ :=
    follows_members takes orderless each holds_nil taken
  · have read : Reader.members (readMember fields skip levels) (blank, []) c = (.ok state, c') := read
    rw [bind_of_ok read, noneMissing, missing?_of_holds holds]
    rw [holds.taken] at whole
    cases missing : missing? fields (final.map Prod.fst) with
    | none =>
      rw [missing] at whole
      cases record with
      | error fault => cases whole
      | ok r =>
        cases whole
        exact .ok
    | some name =>
      rw [missing] at whole
      cases record with
      | error fault => exact .error
      | ok r => cases whole
  · have read : Reader.members (readMember fields skip levels) (blank, []) c = (.error e, stop) := read
    rw [bind_of_error read]
    rw [failed] at whole
    cases record with
    | error fault => exact .error
    | ok r => cases whole

theorem agrees_record (name : String) (orderless : Orderless fields fun _ _ r => r)
    (each : ∀ f ∈ fields, f.decoder.Agrees) : (record name fields blank).Agrees := by
  intro levels c j c' read
  cases distinct_of_distinctValue read with
  | list deeper head inside close =>
    subst deeper
    refine Follows.expecting head rfl ?_
    rw [opened_succ, if_pos rfl]
    exact follows_readItems each inside close
  | object deeper head inside close =>
    subst deeper
    refine Follows.expecting head rfl ?_
    rw [opened_succ, if_neg (by decide)]
    refine (follows_readMembers orderless each (fun {_ _ _ _ _ _} after value => ?_) inside).closedBy close
    rw [bind_of_ok after, bind_of_ok (skipValue_of_value (value_of_distinctValue value))]
    rfl
  | null head => exact .mismatch head rfl
  | bool head letter => exact .mismatch head (by rcases letter with rfl | rfl <;> rfl)
  | number head start =>
    refine .mismatch head ?_
    rw [number_beq start (by decide), number_beq start (by decide)]
    rfl
  | text head => exact .mismatch head rfl

theorem agrees_openRecord (name : String) (orderless : Orderless fields other)
    (each : ∀ f ∈ fields, f.decoder.Agrees) : (openRecord name fields other blank).Agrees := by
  intro levels c j c' read
  cases distinct_of_distinctValue read with
  | object deeper head inside close =>
    subst deeper
    refine Follows.expecting head rfl ?_
    rw [opened_succ]
    refine (follows_readMembers orderless each (fun {_ _ _ _ _ _} after value => ?_) inside).closedBy close
    rw [bind_of_ok after, bind_of_ok (value_of_distinctValue value)]
    rfl
  | list _ head => exact .mismatch head rfl
  | null head => exact .mismatch head rfl
  | bool head letter => exact .mismatch head (by rcases letter with rfl | rfl <;> rfl)
  | number head start => exact .mismatch head (number_beq start (by decide))
  | text head => exact .mismatch head rfl

/-! ### Whole texts -/

/-- On a text that repeats no key, a decoder makes of the text what it makes of the value. -/
theorem Agrees.parse (agrees : d.Agrees) {text : String} (held : parseDistinct text = .ok j) :
    (d.parse text).toOption = (d.decode j).toOption := by
  obtain ⟨c, c', read, ended⟩ := run_ok_iff.mp held
  have follows := agrees read
  unfold Decoder.parse decode
  generalize reading : d.ofText levelBound (Cursor.start text) = outcome at follows
  generalize d.ofValue j = decoded at follows
  cases follows with
  | @ok a =>
    have whole : Reader.run (d.ofText levelBound) text = .ok a :=
      run_ok_iff.mpr ⟨c, c', reading, ended⟩
    rw [whole]
    rfl
  | @error fault e stop =>
    cases whole : Reader.run (d.ofText levelBound) text with
    | error e => rfl
    | ok a =>
      obtain ⟨_, _, other, -⟩ := run_ok_iff.mp whole
      rw [reading] at other
      cases other

end Decoder

end ShieldPolicy.Json
