import ShieldPolicy.Proofs.Json.Members
import ShieldPolicy.Proofs.Json.Read
import ShieldPolicy.Proofs.Json.Scan
import ShieldPolicy.Proofs.Json.Written

/-!
Values that are written and read again. Inside another text a value is read as it is on its own,
`reads_parse_write`, and one that holds no number but whole ones is read as itself: `parse_write`.
-/

namespace ShieldPolicy.Json

namespace Reader

open Cursor

variable {α σ : Type} {item : Reader α} {c mid : Cursor} {ch : Char} {cs text tail : List Char}
  {fuel : Nat}

/-! ### Lists -/

def Starts (text : List Char) : Prop := ∃ ch rest, text = ch :: rest ∧ isSpace ch = false ∧ ch ≠ ']'

theorem ends_anotherItem_first (starts : Starts text) (rest : c.rest = text ++ tail) :
    anotherItem true c = (.ok true, c) := by
  obtain ⟨ch, more, rfl, solid, other⟩ := starts
  unfold anotherItem
  rw [bind_of_ok (peekSolid_of_solid rest solid)]
  simp only [if_true]
  rfl

theorem ends_anotherItem_next (starts : Starts text) (rest : c.rest = ',' :: text ++ tail) :
    anotherItem false c = (.ok true, c.advance) := by
  obtain ⟨ch, more, rfl, solid, other⟩ := starts
  have next : c.advance.rest = ch :: more ++ tail := rest_advance_of_rest rest
  unfold anotherItem
  rw [bind_of_ok (peekSolid_of_solid rest (by decide))]
  show (advance >>= fun _ => peekSolid >>= fun _ => _) c = _
  rw [bind_of_ok (advance_eq c), bind_of_ok (peekSolid_of_solid next solid)]
  have open_ : some ch ≠ some ']' := fun same => other (Option.some.inj same)
  have present : some ch ≠ none := nofun
  generalize some ch = head at open_ present
  split
  · exact absurd rfl open_
  · rfl
  · exact absurd rfl present

theorem ends_noItem (first : Bool) (rest : c.rest = ']' :: tail) :
    anotherItem first c = (.ok false, c) := by
  unfold anotherItem
  rw [bind_of_ok (peekSolid_of_solid rest (by decide))]
  rfl

variable {parts : List (List Char × Option α)}

theorem ends_itemsWithin (each : ∀ p ∈ parts, Starts p.1 ∧ Gives item p.1 p.2)
    (enough : parts.length < fuel)
    (rest : c.rest = parts.flatMap (fun p => ',' :: p.1) ++ ']' :: tail) :
    Ends (']' :: tail) (parts.mapM Prod.snd) (itemsWithin item fuel false c) := by
  induction parts generalizing fuel c with
  | nil =>
    obtain ⟨fuel, rfl⟩ := Nat.exists_eq_add_one.mpr (Nat.zero_lt_of_lt enough)
    rw [itemsWithin, bind_of_ok (ends_noItem false rest)]
    exact .ok rest
  | cons p parts ih =>
    obtain ⟨⟨starts, gives⟩, others⟩ := List.forall_mem_cons.mp each
    rw [List.length_cons] at enough
    obtain ⟨fuel, rfl⟩ := Nat.exists_eq_add_one.mpr (Nat.zero_lt_of_lt enough)
    rw [List.flatMap_cons, List.append_assoc] at rest
    rw [itemsWithin, bind_of_ok (ends_anotherItem_next starts rest), List.mapM_cons]
    have quiet : Quiet (parts.flatMap (fun p => ',' :: p.1) ++ ']' :: tail) := by
      cases parts with
      | nil => exact quiet_bracket tail
      | cons => exact quiet_comma _
    refine (gives quiet (rest_advance_of_rest rest)).bind fun a mid _ left => ?_
    refine (ih others (Nat.lt_of_succ_lt_succ enough) left).bind fun as last _ left => ?_
    exact .ok left

theorem length_le_flatMap (texts : List (List Char)) :
    texts.length ≤ (texts.flatMap fun text => ',' :: text).length := by
  induction texts with
  | nil => exact Nat.le_refl 0
  | cons text texts ih =>
    rw [List.flatMap_cons, List.length_append, List.length_cons, List.length_cons]
    omega

theorem joinWith_comma (text : List Char) (texts : List (List Char)) :
    Text.joinWith ',' (text :: texts) = text ++ texts.flatMap fun text => ',' :: text := by
  induction texts generalizing text with
  | nil => exact (List.append_nil text).symm
  | cons next texts ih =>
    rw [Text.joinWith, ih, List.flatMap_cons]
    · rfl
    · intro none
      cases none

theorem ends_items (each : ∀ p ∈ parts, Starts p.1 ∧ Gives item p.1 p.2)
    (rest : c.rest = Text.joinWith ',' (parts.map Prod.fst) ++ ']' :: tail) :
    Ends (']' :: tail) (parts.mapM Prod.snd) (items item c) := by
  unfold items
  rw [bind_of_ok (rfl : (get : Reader Cursor) c = (.ok c, c))]
  cases parts with
  | nil =>
    rw [itemsWithin, bind_of_ok (ends_noItem true rest)]
    exact .ok rest
  | cons p parts =>
    obtain ⟨⟨starts, gives⟩, others⟩ := List.forall_mem_cons.mp each
    rw [List.map_cons, joinWith_comma, List.append_assoc] at rest
    have enough : parts.length < c.rest.length := by
      have short := length_le_flatMap (parts.map Prod.fst)
      rw [List.length_map] at short
      rw [rest, List.length_append, List.length_append, List.length_cons]
      omega
    rw [List.flatMap_map] at rest
    rw [itemsWithin, bind_of_ok (ends_anotherItem_first starts rest), List.mapM_cons]
    have quiet : Quiet (parts.flatMap (fun p => ',' :: p.1) ++ ']' :: tail) := by
      cases parts with
      | nil => exact quiet_bracket tail
      | cons => exact quiet_comma _
    refine (gives quiet rest).bind fun a mid _ left => ?_
    refine (ends_itemsWithin others enough left).bind fun as last _ left => ?_
    exact .ok left

theorem ends_listEnd (rest : c.rest = ']' :: tail) : Ends tail (some ()) (listEnd c) := by
  unfold listEnd
  rw [bind_of_ok (peekSolid_of_solid rest (by decide))]
  exact .ok (rest_advance_of_rest rest)

/-! ### Objects -/

theorem ends_objectEnd (rest : c.rest = '\x7d' :: tail) : Ends tail (some ()) (objectEnd c) := by
  unfold objectEnd
  rw [bind_of_ok (peekSolid_of_solid rest (by decide))]
  exact .ok (rest_advance_of_rest rest)

theorem ends_colon (rest : c.rest = ':' :: tail) : Ends tail (some ()) (colon c) := by
  unfold colon
  rw [bind_of_ok (peekSolid_of_solid rest (by decide))]
  exact .ok (rest_advance_of_rest rest)

def spelled (m : String × List Char) : List Char := (writeText m.1).toList ++ ':' :: m.2

variable {member : String → σ → Reader σ} {ms : List (String × List Char)} {s : σ}
  {answer : Option σ} {key : String}

/-- How members are taken one after the other, up to one that is not taken. -/
inductive Taken (member : String → σ → Reader σ) :
    List (String × List Char) → σ → Option σ → Prop where
  | nil {s : σ} : Taken member [] s (some s)
  | cons {key : String} {text : List Char} {ms : List (String × List Char)} {s next : σ}
      {answer : Option σ} (step : Gives (member key s) (':' :: text) (some next))
      (others : Taken member ms next answer) : Taken member ((key, text) :: ms) s answer
  | stuck {key : String} {text : List Char} {ms : List (String × List Char)} {s : σ}
      (step : Gives (member key s) (':' :: text) none) : Taken member ((key, text) :: ms) s none

theorem anotherMember_first (rest : c.rest = '"' :: tail) :
    anotherMember true c = (.ok true, c) := by
  unfold anotherMember
  rw [bind_of_ok (peekSolid_of_solid rest (by decide))]
  rfl

theorem anotherMember_next (rest : c.rest = ',' :: '"' :: tail) :
    anotherMember false c = (.ok true, c.advance) := by
  unfold anotherMember
  rw [bind_of_ok (peekSolid_of_solid rest (by decide))]
  show (advance >>= fun _ => peekSolid >>= fun _ => _) c = _
  rw [bind_of_ok (advance_eq c),
    bind_of_ok (peekSolid_of_solid (rest_advance_of_rest rest) (by decide))]
  rfl

theorem anotherMember_none (first : Bool) (rest : c.rest = '\x7d' :: tail) :
    anotherMember first c = (.ok false, c) := by
  unfold anotherMember
  rw [bind_of_ok (peekSolid_of_solid rest (by decide))]
  rfl

theorem writeText_eq_cons (s : String) : ∃ cs, (writeText s).toList = '"' :: cs :=
  ⟨_, String.toList_ofList⟩

theorem membersWithin_member {first : Bool} (another : anotherMember first c = (.ok true, mid))
    (rest : mid.rest = spelled (key, text) ++ tail) :
    ∃ last, last.rest = ':' :: text ++ tail ∧ membersWithin member (fuel + 1) first s c =
      (member key s >>= fun next => membersWithin member fuel false next) last := by
  have spells := spellsText_writeText key
  obtain ⟨cs, quoted⟩ := writeText_eq_cons key
  rw [spelled, List.append_assoc, quoted] at rest
  rw [quoted] at spells
  obtain ⟨last, named, left⟩ := (ends_text spells (rest_advance_of_rest rest)).of_ok
  refine ⟨last, left, ?_⟩
  rw [membersWithin, bind_of_ok another]
  show (advance >>= fun _ => Reader.text >>= fun key => member key s >>= fun next =>
    membersWithin member fuel false next) mid = _
  rw [bind_of_ok (advance_eq mid), bind_of_ok named]

def furtherMembers (ms : List (String × List Char)) (tail : List Char) : List Char :=
  ms.flatMap (fun m => ',' :: spelled m) ++ '\x7d' :: tail

theorem quiet_furtherMembers : Quiet (furtherMembers ms tail) := by
  cases ms with
  | nil => exact quiet_brace tail
  | cons => exact quiet_comma _

theorem ends_member {first : Bool} (taken : Taken member ((key, text) :: ms) s answer)
    (another : anotherMember first c = (.ok true, mid))
    (rest : mid.rest = spelled (key, text) ++ furtherMembers ms tail)
    (onward : ∀ {next answer c}, Taken member ms next answer → c.rest = furtherMembers ms tail →
      Ends ('\x7d' :: tail) answer (membersWithin member fuel false next c)) :
    Ends ('\x7d' :: tail) answer (membersWithin member (fuel + 1) first s c) := by
  obtain ⟨last, left, step⟩ : ∃ last : Cursor, last.rest = ':' :: text ++ furtherMembers ms tail ∧
      membersWithin member (fuel + 1) first s c =
        (member key s >>= fun next => membersWithin member fuel false next) last :=
    membersWithin_member another rest
  rw [step]
  cases taken with
  | cons gives others =>
    obtain ⟨stop, read, left⟩ := (gives quiet_furtherMembers left).of_ok
    rw [bind_of_ok read]
    exact onward others left
  | stuck gives =>
    have failed := gives quiet_furtherMembers left
    generalize read : member key s last = outcome at failed
    cases failed with
    | error =>
      rw [bind_of_error read]
      exact .error

theorem ends_membersWithin (taken : Taken member ms s answer) (enough : ms.length < fuel)
    (rest : c.rest = furtherMembers ms tail) :
    Ends ('\x7d' :: tail) answer (membersWithin member fuel false s c) := by
  induction ms generalizing fuel s answer c with
  | nil =>
    obtain ⟨fuel, rfl⟩ := Nat.exists_eq_add_one.mpr (Nat.zero_lt_of_lt enough)
    cases taken
    rw [membersWithin, bind_of_ok (anotherMember_none false rest)]
    exact .ok rest
  | cons m ms ih =>
    obtain ⟨key, text⟩ := m
    rw [List.length_cons] at enough
    obtain ⟨fuel, rfl⟩ := Nat.exists_eq_add_one.mpr (Nat.zero_lt_of_lt enough)
    have comma : c.rest = ',' :: (spelled (key, text) ++ furtherMembers ms tail) := by
      rw [rest, furtherMembers, furtherMembers, List.flatMap_cons, List.append_assoc]
      rfl
    have quote : ∃ more, c.rest = ',' :: '"' :: more := by
      obtain ⟨cs, quoted⟩ := writeText_eq_cons key
      rw [comma, spelled, quoted]
      exact ⟨_, rfl⟩
    obtain ⟨more, quote⟩ := quote
    exact ends_member taken (anotherMember_next quote) (rest_advance_of_rest comma)
      fun others left => ih others (Nat.lt_of_succ_lt_succ enough) left

theorem ends_members (taken : Taken member ms s answer)
    (rest : c.rest = Text.joinWith ',' (ms.map spelled) ++ '\x7d' :: tail) :
    Ends ('\x7d' :: tail) answer (members member s c) := by
  unfold members
  rw [bind_of_ok (rfl : (get : Reader Cursor) c = (.ok c, c))]
  cases ms with
  | nil =>
    cases taken
    rw [membersWithin, bind_of_ok (anotherMember_none true rest)]
    exact .ok rest
  | cons m ms =>
    obtain ⟨key, text⟩ := m
    rw [List.map_cons, joinWith_comma, List.append_assoc, List.flatMap_map] at rest
    have enough : ms.length < c.rest.length := by
      have short := length_le_flatMap (ms.map spelled)
      rw [List.length_map, List.flatMap_map] at short
      rw [rest, List.length_append, List.length_append, List.length_cons]
      omega
    have quote : ∃ more, c.rest = '"' :: more := by
      obtain ⟨cs, quoted⟩ := writeText_eq_cons key
      rw [rest, spelled, quoted]
      exact ⟨_, rfl⟩
    obtain ⟨more, quote⟩ := quote
    exact ends_member taken (anotherMember_first quote) rest
      fun others left => ends_membersWithin others enough left

/-! ### Values -/

variable {list object read : Reader Json} {given : Option Json} {inner : List Char}

theorem gives_scalar (solid : isSpace ch = false) (known : scalar? ch = some read)
    (gives : Gives read (ch :: text) given) : Gives (valueWith list object) (ch :: text) given := by
  intro c tail quiet rest
  unfold valueWith
  rw [bind_of_ok (peekSolid_of_solid rest solid)]
  dsimp only
  rw [known]
  exact (gives quiet rest).placed

theorem gives_valueWith_list
    (gives : ∀ {c tail}, c.rest = '[' :: inner ++ ']' :: tail → Ends (']' :: tail) given (list c)) :
    Gives (valueWith list object) ('[' :: inner ++ [']']) given := by
  intro c tail quiet rest
  have rest : c.rest = '[' :: inner ++ ']' :: tail := by simpa using rest
  unfold valueWith
  rw [bind_of_ok (peekSolid_of_solid rest (by decide))]
  exact ((gives rest).closedBy fun mid left => ends_listEnd left).placed

theorem gives_valueWith_object
    (gives : ∀ {c tail}, c.rest = '\x7b' :: inner ++ '\x7d' :: tail →
      Ends ('\x7d' :: tail) given (object c)) :
    Gives (valueWith list object) ('\x7b' :: inner ++ ['\x7d']) given := by
  intro c tail quiet rest
  have rest : c.rest = '\x7b' :: inner ++ '\x7d' :: tail := by simpa using rest
  unfold valueWith
  rw [bind_of_ok (peekSolid_of_solid rest (by decide))]
  exact ((gives rest).closedBy fun mid left => ends_objectEnd left).placed

theorem isDigit_ne {d other : Char} (digit : d.isDigit) (plain : other.isDigit = false) :
    d ≠ other := by
  rintro rfl
  rw [plain] at digit
  cases digit

theorem scalar?_digit {d : Char} (digit : d.isDigit) :
    scalar? d = some (do return .number (← unsignedNumber false)) := by
  unfold scalar?
  rw [if_neg (isDigit_ne digit rfl), if_neg (isDigit_ne digit rfl), if_neg (isDigit_ne digit rfl),
    if_neg (isDigit_ne digit rfl), if_pos digit]

theorem isSpace_digit {d : Char} (digit : d.isDigit) : isSpace d = false := by
  have apart (other : Char) (plain : other.isDigit = false) : (d == other) = false :=
    beq_eq_false_iff_ne.mpr (isDigit_ne digit plain)
  simp only [isSpace, apart ' ' rfl, apart '\n' rfl, apart '\t' rfl, apart '\r' rfl, Bool.or_self]

theorem gives_signed {negative : Bool} {answer : Option Number} (digits : IsDigits cs)
    (gives : Gives (unsignedNumber negative) (cs ++ text) answer) :
    Gives (valueWith list object) (signOf negative ++ cs ++ text) (answer.map .number) := by
  cases negative with
  | true =>
    show Gives _ ('-' :: (cs ++ text)) _
    refine gives_scalar rfl rfl ?_
    intro c tail quiet rest
    rw [bind_of_ok (advance_eq c)]
    exact (gives quiet (rest_advance_of_rest rest)).bind_pure Json.number
  | false =>
    obtain ⟨d, more, rfl⟩ := List.exists_cons_of_ne_nil digits.1
    have digit := digits.2 d List.mem_cons_self
    show Gives _ (d :: (more ++ text)) _
    refine gives_scalar (isSpace_digit digit) (scalar?_digit digit) ?_
    intro c tail quiet rest
    exact (gives quiet rest).bind_pure Json.number

theorem starts_signed {negative : Bool} (digits : IsDigits cs) :
    Starts (signOf negative ++ cs ++ text) := by
  cases negative with
  | true => exact ⟨'-', cs ++ text, rfl, rfl, by decide⟩
  | false =>
    obtain ⟨d, more, rfl⟩ := List.exists_cons_of_ne_nil digits.1
    have digit := digits.2 d List.mem_cons_self
    exact ⟨d, more ++ text, rfl, isSpace_digit digit, isDigit_ne digit rfl⟩

end Reader

open Reader

/-! ### Numbers -/

inductive NoReal : Json → Prop where
  | null : NoReal .null
  | bool (b : Bool) : NoReal (.bool b)
  | natural (n : Nat) : NoReal (.number (.natural n))
  | negative (n : Nat) : NoReal (.number (.negative n))
  | text (s : String) : NoReal (.text s)
  | array {items : List Json} (each : ∀ j ∈ items, NoReal j) : NoReal (.array items)
  | object {members : List (String × Json)} (each : ∀ m ∈ members, NoReal m.2) :
      NoReal (.object members)

variable {n : Number} {j : Json} {levels : Nat}

theorem write_number (n : Number) : (Json.number n).write = n.write := by rw [write]

theorem gives_natural {n : Nat} (fits : n < Integer64.unsignedLimit) :
    Gives (unsignedNumber false) (Nat.toDigits 10 n) (some (.natural n)) := by
  have gives := gives_whole (isWhole_toDigits n) (by rwa [Nat.ofDigitChars_ten_toDigits])
  rwa [Nat.ofDigitChars_ten_toDigits] at gives

theorem gives_negated {n : Nat} (positive : 1 ≤ n) (fits : n ≤ Integer64.signedLimit) :
    Gives (unsignedNumber true) (Nat.toDigits 10 n) (some (.negative n)) := by
  have gives := gives_negative (isWhole_toDigits n) (by rwa [Nat.ofDigitChars_ten_toDigits])
    (by rwa [Nat.ofDigitChars_ten_toDigits])
  rwa [Nat.ofDigitChars_ten_toDigits] at gives

theorem gives_number (readable : n.IsReadable) :
    Starts n.write.toList ∧ ∃ answer,
      (∀ list object, Gives (valueWith list object) n.write.toList answer) ∧
      ((Json.number n).NoReal → answer = some (.number n)) := by
  cases n with
  | natural n =>
    have digits := isDigits_toDigits n
    have gives := gives_natural readable
    rw [← List.append_nil (Nat.toDigits 10 n)] at gives
    have spelled : (Number.write (.natural n)).toList =
        signOf false ++ Nat.toDigits 10 n ++ [] := by
      rw [Number.write, toList_toString]
      simp [signOf]
    rw [spelled]
    exact ⟨starts_signed digits, _, fun list object => gives_signed digits gives, fun _ => rfl⟩
  | negative n =>
    have digits := isDigits_toDigits n
    have gives := gives_negated readable.1 readable.2
    rw [← List.append_nil (Nat.toDigits 10 n)] at gives
    have spelled : (Number.write (.negative n)).toList =
        signOf true ++ Nat.toDigits 10 n ++ [] := by
      rw [Number.write, String.toList_append, toList_toString]
      simp [signOf]
    rw [spelled]
    exact ⟨starts_signed digits, _, fun list object => gives_signed digits gives, fun _ => rfl⟩
  | real x =>
    have spells := spells_write (.number (.real x)) readable
    rw [write_number] at spells
    generalize (Number.real x).write.toList = text at spells
    cases spells with
    | @real negative _ _ _ _ _ numeral =>
      cases numeral with
      | @intro whole digits fraction exponent _ isWhole isFraction isExponent =>
        obtain ⟨answer, gives⟩ := gives_unsignedNumber negative isWhole isFraction isExponent
        rw [List.append_assoc] at gives
        rw [List.append_assoc]
        refine ⟨starts_signed isWhole.1, _, fun list object => gives_signed isWhole.1 gives, ?_⟩
        intro none
        cases none

/-! ### Values that are read again -/

theorem insertMember_of_last {α : Type} {key : String} {value : α} {members : List (String × α)}
    (last : ∀ m ∈ members, m.1 < key) :
    insertMember key value members = members ++ [(key, value)] := by
  induction members with
  | nil => rfl
  | cons m rest ih =>
    obtain ⟨below, others⟩ := List.forall_mem_cons.mp last
    rw [insertMember_of_gt below, ih others]
    rfl

/-- What a value is read as, wherever it is written and however many more levels may be opened. -/
structure Reads (levels : Nat) (j : Json) (answer : Option Json) : Prop where
  starts : Starts j.write.toList
  gives : ∀ more, Gives (value (levels + more)) j.write.toList answer
  exact : j.NoReal → answer = some j

theorem valueWith_of_value {answer : Option Json} {text : List Char}
    (gives : ∀ list object, Gives (valueWith list object) text answer) (levels : Nat) :
    Gives (value levels) text answer := by
  cases levels with
  | zero => exact gives _ _
  | succ levels => exact gives _ _

theorem gives_word {ch : Char} {expected : List Char} (solid : Cursor.isSpace ch = false)
    (known : scalar? ch = some do advance; word expected; return j) (levels : Nat) :
    Gives (value levels) (ch :: expected) (some j) := by
  refine valueWith_of_value (fun list object => gives_scalar solid known ?_) levels
  intro c tail quiet rest
  rw [bind_of_ok (advance_eq c)]
  exact (ends_word expected (rest_advance_of_rest rest)).bind_pure fun _ => j

theorem reads_text (s : String) : Reads levels (.text s) (some (.text s)) := by
  have spells := spellsText_writeText s
  obtain ⟨cs, quoted⟩ := writeText_eq_cons s
  refine ⟨?_, fun more => ?_, fun _ => rfl⟩
  · rw [write, quoted]
    exact ⟨'"', cs, rfl, rfl, by decide⟩
  · rw [quoted] at spells
    rw [write, quoted]
    refine valueWith_of_value (fun list object => gives_scalar rfl rfl ?_) _
    intro c tail quiet rest
    rw [bind_of_ok (advance_eq c)]
    exact (ends_text spells (rest_advance_of_rest rest)).bind_pure Json.text

theorem reads_number (readable : n.IsReadable) :
    ∃ answer, Reads levels (.number n) answer := by
  obtain ⟨starts, answer, gives, exact_⟩ := gives_number readable
  rw [← write_number] at starts gives
  exact ⟨answer, starts, fun more => valueWith_of_value gives _, exact_⟩

theorem exists_parts {items : List Json} (each : ∀ j ∈ items, ∃ answer, Reads levels j answer) :
    ∃ parts : List (List Char × Option Json),
      parts.map Prod.fst = (writeItems items).map String.toList ∧
      (∀ p ∈ parts, Starts p.1 ∧ ∀ more, Gives (value (levels + more)) p.1 p.2) ∧
      ((∀ j ∈ items, j.NoReal) → parts.mapM Prod.snd = some items) := by
  induction items with
  | nil => exact ⟨[], rfl, nofun, fun _ => rfl⟩
  | cons j items ih =>
    obtain ⟨⟨answer, reads⟩, others⟩ := List.forall_mem_cons.mp each
    obtain ⟨parts, texts, gives, exact_⟩ := ih others
    refine ⟨(j.write.toList, answer) :: parts, ?_, ?_, fun none => ?_⟩
    · rw [List.map_cons, texts, writeItems, List.map_cons]
    · exact List.forall_mem_cons.mpr ⟨⟨reads.starts, reads.gives⟩, gives⟩
    · obtain ⟨first, rest⟩ := List.forall_mem_cons.mp none
      rw [List.mapM_cons, reads.exact first, exact_ rest]
      rfl

theorem toList_write_array (items : List Json) : (write (.array items)).toList =
    '[' :: Text.joinWith ',' ((writeItems items).map String.toList) ++ [']'] := by
  have joined := Text.toList_joinTexts ',' (writeItems items)
  rw [show String.singleton ',' = "," from rfl] at joined
  rw [write, String.toList_append, String.toList_append, joined]
  rfl

theorem exists_reads_array {items : List Json}
    (each : ∀ j ∈ items, ∃ answer, Reads levels j answer) :
    ∃ answer, Reads (levels + 1) (.array items) answer := by
  obtain ⟨parts, texts, gives, exact_⟩ := exists_parts each
  refine ⟨(parts.mapM Prod.snd).map .array, ?_, fun more => ?_, fun none => ?_⟩
  · rw [toList_write_array]
    exact ⟨'[', _, rfl, rfl, by decide⟩
  · rw [toList_write_array, Nat.add_right_comm, value, ← texts]
    refine gives_valueWith_list fun {c tail} rest => ?_
    rw [bind_of_ok (advance_eq c)]
    refine (ends_items (fun p member => ?_) (rest_advance_of_rest rest)).bind_pure Json.array
    exact ⟨(gives p member).1, (gives p member).2 more⟩
  · rw [exact_ (by cases none; assumption)]
    rfl

def valueMember (levels : Nat) (key : String) (read : List (String × Json)) :
    Reader (List (String × Json)) := do
  colon
  return insertMember key (← value levels) read

def memberText (m : String × String) : String × List Char := (m.1, m.2.toList)

theorem gives_valueMember {key : String} {text : List Char} {answer : Option Json}
    (gives : Gives (value levels) text answer) (read : List (String × Json)) :
    Gives (valueMember levels key read) (':' :: text)
      (answer.map fun j => insertMember key j read) := by
  intro c tail quiet rest
  obtain ⟨mid, after, left⟩ := (ends_colon rest).of_ok
  unfold valueMember
  rw [bind_of_ok after]
  exact (gives quiet left).bind_pure fun j => insertMember key j read

theorem exists_taken {members read : List (String × Json)} (ascending : Ascending members)
    (last : ∀ m ∈ members, ∀ m' ∈ read, m'.1 < m.1)
    (each : ∀ m ∈ members, ∃ answer, Reads levels m.2 answer) :
    ∃ answer, (∀ more, Taken (valueMember (levels + more)) ((writeMembers members).map memberText)
        read answer) ∧
      ((∀ m ∈ members, m.2.NoReal) → answer = some (read ++ members)) := by
  induction members generalizing read with
  | nil => exact ⟨some read, fun more => .nil, fun _ => by rw [List.append_nil]⟩
  | cons m members ih =>
    obtain ⟨key, j⟩ := m
    obtain ⟨first, ascending⟩ := List.pairwise_cons.mp ascending
    obtain ⟨below, later⟩ := List.forall_mem_cons.mp last
    obtain ⟨⟨answer, reads⟩, others⟩ := List.forall_mem_cons.mp each
    have step (more : Nat) : Gives (valueMember (levels + more) key read) (':' :: j.write.toList)
        (answer.map fun j => insertMember key j read) := gives_valueMember (reads.gives more) read
    rw [writeMembers]
    cases answer with
    | none =>
      refine ⟨none, fun more => .stuck (step more), fun whole => ?_⟩
      cases reads.exact (whole (key, j) List.mem_cons_self)
    | some j' =>
      have further : ∀ m ∈ members, ∀ m' ∈ read ++ [(key, j')], m'.1 < m.1 := by
        intro m member m' member'
        rcases List.mem_append.mp member' with before | new
        · exact later m member m' before
        · rw [List.mem_singleton.mp new]
          exact first m member
      obtain ⟨answer, taken, exact_⟩ := ih ascending further others
      refine ⟨answer, fun more => .cons (step more) ?_, fun whole => ?_⟩
      · dsimp only
        rw [insertMember_of_last below]
        exact taken more
      · obtain ⟨head, rest⟩ := List.forall_mem_cons.mp whole
        obtain rfl : j' = j := Option.some.inj (reads.exact head)
        rw [exact_ rest, List.append_assoc]
        rfl

theorem toList_braced (members : List (String × String)) : (braced members).toList =
    '\x7b' :: Text.joinWith ',' ((members.map memberText).map spelled) ++ ['\x7d'] := by
  have joined := Text.toList_joinTexts ',' (members.map fun m => writeText m.1 ++ ":" ++ m.2)
  rw [show String.singleton ',' = "," from rfl] at joined
  show ("\x7b" ++ Text.joinTexts "," (members.map fun m => writeText m.1 ++ ":" ++ m.2) ++
    "\x7d").toList = _
  rw [String.toList_append, String.toList_append, joined, List.map_map, List.map_map]
  have member : String.toList ∘ (fun (m : String × String) => writeText m.1 ++ ":" ++ m.2) =
      spelled ∘ memberText := by
    funext m
    simp [spelled, memberText]
  rw [member]
  rfl

theorem exists_reads_object {members : List (String × Json)} (ascending : Ascending members)
    (each : ∀ m ∈ members, ∃ answer, Reads levels m.2 answer) :
    ∃ answer, Reads (levels + 1) (.object members) answer := by
  obtain ⟨answer, taken, exact_⟩ :=
    exists_taken ascending (fun m _ m' none => absurd none List.not_mem_nil) each
  refine ⟨answer.map .object, ?_, fun more => ?_, fun none => ?_⟩
  · rw [write, toList_braced]
    exact ⟨'\x7b', _, rfl, rfl, by decide⟩
  · rw [write, toList_braced, Nat.add_right_comm, value]
    refine gives_valueWith_object fun {c tail} rest => ?_
    rw [bind_of_ok (advance_eq c)]
    exact (ends_members (taken more) (rest_advance_of_rest rest)).bind_pure Json.object
  · rw [exact_ (by cases none; assumption)]
    rfl

theorem exists_reads (readable : Readable levels j) : ∃ answer, Reads levels j answer := by
  induction readable with
  | null =>
    refine ⟨some .null, ?_, fun more => ?_, fun _ => rfl⟩
    · rw [write]
      exact ⟨'n', _, rfl, rfl, by decide⟩
    · rw [write]
      exact gives_word rfl rfl _
  | bool b =>
    refine ⟨some (.bool b), ?_, fun more => ?_, fun _ => rfl⟩
    · cases b <;> exact ⟨_, _, rfl, rfl, by decide⟩
    · cases b with
      | true =>
        show Gives _ ('t' :: ['r', 'u', 'e']) _
        exact gives_word rfl rfl _
      | false =>
        show Gives _ ('f' :: ['a', 'l', 's', 'e']) _
        exact gives_word rfl rfl _
  | number readable => exact reads_number readable
  | text s => exact ⟨_, reads_text s⟩
  | array each ih => exact exists_reads_array ih
  | object ascending _ ih => exact exists_reads_object ascending ih

/-! ### Whole texts -/

theorem Reader.run_of_gives {α : Type} {reader : Reader α} {s : String} {answer : Option α}
    (gives : Gives reader s.toList answer) : (reader.run s).toOption = answer := by
  have ends : Ends [] answer (reader (Cursor.start s)) :=
    gives quiet_nil (List.append_nil s.toList).symm
  show Except.toOption
    ((reader >>= fun a => textEnd >>= fun _ => pure a) (Cursor.start s)).1 = answer
  generalize read : reader (Cursor.start s) = outcome at ends
  cases ends with
  | @ok a mid left =>
    have ended : textEnd mid = (.ok (), mid.dropSpace) := by
      have nothing : mid.dropSpace.rest.head? = none := by
        rw [Cursor.dropSpace, Cursor.rest_advanceBy, left]
        rfl
      unfold textEnd
      rw [bind_of_ok (peekSolid_eq mid), nothing]
      rfl
    rw [bind_of_ok read, bind_of_ok ended]
    rfl
  | error =>
    rw [bind_of_error read]
    rfl

theorem Reads.parse {answer : Option Json} (reads : Reads levels j answer)
    (within : levels ≤ levelBound) : (parse j.write).toOption = answer := by
  obtain ⟨more, bound⟩ := Nat.exists_eq_add_of_le within
  rw [Json.parse, bound]
  exact run_of_gives (reads.gives more)

/-- Wherever a value is written, it is read as it is read on its own. -/
theorem reads_parse_write (readable : Readable levels j) (within : levels ≤ levelBound) :
    Reads levels j (Json.parse j.write).toOption := by
  obtain ⟨answer, reads⟩ := exists_reads readable
  rw [reads.parse within]
  exact reads

theorem toOption_eq_some_iff {ε α : Type} {outcome : Except ε α} {a : α} :
    outcome.toOption = some a ↔ outcome = .ok a := by
  cases outcome <;> simp [Except.toOption]

/-- A value without any number but whole ones is read as itself. -/
theorem parse_write (readable : Readable levels j) (within : levels ≤ levelBound)
    (whole : j.NoReal) : Json.parse j.write = .ok j :=
  toOption_eq_some_iff.mp ((reads_parse_write readable within).exact whole)

end ShieldPolicy.Json
