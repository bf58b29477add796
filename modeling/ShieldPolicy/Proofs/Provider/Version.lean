import ShieldPolicy.Operation.Vocabulary
import ShieldPolicy.Proofs.Provider

/-!
Versions of client generators. An exact version behind at most one mark is read as its first number.
The marks may also be repeated, a `+` may precede the number, and whatever follows the first dot is
passed over: `Vocabulary.version_read`.
-/

namespace ShieldPolicy.Provider

open Text

/-! ### Exact versions -/

def IsNumber (cs : List Char) : Prop := cs ≠ [] ∧ ∀ c ∈ cs, c.isDigit

def number (digits : List Char) : Nat := Nat.ofDigitChars 10 digits 0

def isVersionChar (c : Char) : Bool := c.isAlphanum || c == '.' || c == '-' || c == '+'

inductive IsSuffix : List Char → Prop where
  | none : IsSuffix []
  | some {sign : Char} {rest : List Char} (signed : sign = '-' ∨ sign = '+')
      (plain : ∀ c ∈ rest, isVersionChar c) : IsSuffix (sign :: rest)

inductive IsTail : List Char → Prop where
  | none : IsTail []
  | minor {minor suffix : List Char} (second : IsNumber minor) (ending : IsSuffix suffix) :
      IsTail ('.' :: minor ++ suffix)
  | patch {minor patch suffix : List Char} (second : IsNumber minor) (third : IsNumber patch)
      (ending : IsSuffix suffix) : IsTail ('.' :: minor ++ '.' :: patch ++ suffix)

inductive IsExact : Nat → List Char → Prop where
  | intro {major tail : List Char} (first : IsNumber major) (rest : IsTail tail) :
      IsExact (number major) (major ++ tail)

def versionMarks : List Char := ['v', '^', '~', '=']

/-- Whether the text is an exact version behind at most one mark, and its first number is this one
and fits in 64 bits. Blanks around it do not count. -/
def Admits (text : String) (major : Nat) : Prop :=
  major < Integer64.unsignedLimit ∧ ∃ mark version,
    (mark = [] ∨ mark = ['>', '='] ∨ ∃ c ∈ versionMarks, mark = [c]) ∧
    IsExact major version ∧ trimChars text.toList = mark ++ version

/-! ### What is read -/

/-- The parts of a version text: `>=`, marks, a `+`, the first number and all that follows it. -/
structure VersionParts where
  atLeast : Bool
  marks : List Char
  plus : Bool
  digits : List Char
  rest : List Char

namespace VersionParts

def major (v : VersionParts) : Nat := number v.digits

def signed (v : VersionParts) : List Char :=
  (if v.plus then ['+'] else []) ++ (v.digits ++ v.rest)

def text (v : VersionParts) : List Char :=
  (if v.atLeast then ['>', '='] else []) ++ (v.marks ++ v.signed)

/-- Whether the text is read in these parts: the number fits in 64 bits, and a dot ends it. -/
structure Reads (v : VersionParts) (text : String) : Prop where
  whole : trimChars text.toList = v.text
  marks : ∀ c ∈ v.marks, c ∈ versionMarks
  number : IsNumber v.digits
  fits : v.major < Integer64.unsignedLimit
  dotted : ∀ c ∈ v.rest.head?, c = '.'

structure IsSingle (v : VersionParts) : Prop where
  oneMark : v.marks.length ≤ 1
  notBoth : v.atLeast → v.marks = []
  unsigned : v.plus = false
  exact : IsTail v.rest

end VersionParts

/-! ### Numbers -/

variable {cs : List Char} {m n bound : Nat} {text : String} {v w : VersionParts}

theorem foldl_digitsValue : cs.foldl
    (fun acc c => acc.bind fun n =>
      if c.isDigit then some (10 * n + (c.toNat - '0'.toNat)) else none) (some n) = some m ↔
    (∀ c ∈ cs, c.isDigit) ∧ Nat.ofDigitChars 10 cs n = m := by
  induction cs generalizing n with
  | nil => simp
  | cons c cs ih =>
    rw [List.foldl_cons, Option.bind_some, List.forall_mem_cons, Nat.ofDigitChars_cons]
    by_cases digit : c.isDigit
    · rw [if_pos digit, ih]
      simp [digit]
    · have fails (ds : List Char) : ds.foldl (fun acc c => acc.bind fun n =>
          if c.isDigit then some (10 * n + (c.toNat - '0'.toNat)) else none) none = none := by
        induction ds with
        | nil => rfl
        | cons d ds ih => exact ih
      rw [if_neg digit, fails]
      simp [digit]

theorem digitsValue_eq_some_iff : digitsValue cs = some m ↔ (∀ c ∈ cs, c.isDigit) ∧ number cs = m :=
  foldl_digitsValue

theorem boundedNumber?_plus : boundedNumber? bound ('+' :: cs) = some m ↔
    IsNumber cs ∧ number cs = m ∧ m < bound := by
  unfold boundedNumber? IsNumber
  by_cases none : cs = []
  · simp [none]
  · simp [none, digitsValue_eq_some_iff, and_assoc]

theorem boundedNumber?_plain (unsigned : ∀ c ∈ cs.head?, c ≠ '+') :
    boundedNumber? bound cs = some m ↔ IsNumber cs ∧ number cs = m ∧ m < bound := by
  unfold boundedNumber? IsNumber
  split
  · exact absurd rfl (unsigned '+' rfl)
  · by_cases none : cs = []
    · simp [none]
    · simp [none, digitsValue_eq_some_iff, and_assoc]

theorem isVersionMark_iff {c : Char} : isVersionMark c = true ↔ c ∈ versionMarks := by
  simp [isVersionMark, versionMarks, or_assoc]

theorem isDigit_not_mark {c : Char} (digit : c.isDigit) : isVersionMark c = false := by
  cases mark : isVersionMark c with
  | false => rfl
  | true =>
    rw [isVersionMark_iff] at mark
    simp only [versionMarks, List.mem_cons, List.not_mem_nil, or_false] at mark
    rcases mark with rfl | rfl | rfl | rfl <;> cases digit

/-! ### Parts -/

namespace VersionParts

theorem Reads.lead (reads : v.Reads text) :
    v.signed.takeWhile (fun c => c != '.') = (if v.plus then ['+'] else []) ++ v.digits := by
  have digits : ∀ c ∈ v.digits, (c != '.') = true := by
    intro c member
    have digit := reads.number.2 c member
    rw [bne_iff_ne]
    rintro rfl
    cases digit
  have rest : v.rest.takeWhile (fun c => c != '.') = [] := by
    cases behind : v.rest with
    | nil => rfl
    | cons c rest =>
      have dot := reads.dotted c (by rw [behind]; rfl)
      simp [dot]
  rw [signed, ← List.append_assoc, List.takeWhile_append_of_pos, rest, List.append_nil]
  intro c member
  rcases List.mem_append.mp member with sign | digit
  · cases plus : v.plus <;> simp_all
  · exact digits c digit

theorem Reads.signed_head (reads : v.Reads text) :
    ∀ c ∈ v.signed.head?, isVersionMark c = false ∧ c ≠ '>' := by
  intro c head
  have number := reads.number
  unfold signed at head
  cases plus : v.plus with
  | true =>
    rw [plus] at head
    cases head
    decide
  | false =>
    cases digits : v.digits with
    | nil => exact absurd digits number.1
    | cons d ds =>
      rw [plus, digits] at head
      cases head
      have digit := number.2 c (by simp [digits])
      refine ⟨isDigit_not_mark digit, ?_⟩
      rintro rfl
      cases digit

theorem Reads.dropWhile_marks (reads : v.Reads text) :
    (v.marks ++ v.signed).dropWhile isVersionMark = v.signed := by
  rw [List.dropWhile_append_of_pos fun c member => isVersionMark_iff.mpr (reads.marks c member)]
  have head := reads.signed_head
  cases signed : v.signed with
  | nil => rfl
  | cons c rest => exact List.dropWhile_cons_of_neg (by simp [(head c (by rw [signed]; rfl)).1])

theorem Reads.takeWhile_marks (reads : v.Reads text) :
    (v.marks ++ v.signed).takeWhile isVersionMark = v.marks := by
  have split := List.takeWhile_append_dropWhile (p := isVersionMark) (l := v.marks ++ v.signed)
  rw [reads.dropWhile_marks] at split
  exact List.append_cancel_right split

theorem Reads.drop_atLeast (reads : v.Reads text) :
    (dropStart? ['>', '='] v.text).getD v.text = v.marks ++ v.signed := by
  unfold VersionParts.text
  cases v.atLeast with
  | true => rw [if_pos rfl, dropStart?_append]; rfl
  | false =>
    have other : ∀ c ∈ (v.marks ++ v.signed).head?, c ≠ '>' := by
      intro c head
      cases marks : v.marks with
      | nil =>
        rw [marks] at head
        exact (reads.signed_head c head).2
      | cons d rest =>
        rw [marks] at head
        cases head
        have mark := reads.marks c (by simp [marks])
        rintro rfl
        simp [versionMarks] at mark
    have none : dropStart? ['>', '='] (v.marks ++ v.signed) = none := by
      unfold dropStart?
      cases behind : v.marks ++ v.signed with
      | nil => rfl
      | cons c rest =>
        have apart : '>' ≠ c := (other c (by rw [behind]; rfl)).symm
        simp [apart]
    simp [none]

theorem Reads.majorOf (reads : v.Reads text) : majorOf? text = some v.major := by
  unfold majorOf?
  dsimp only
  rw [reads.whole, reads.drop_atLeast, reads.dropWhile_marks, reads.lead]
  have value : IsNumber v.digits ∧ Provider.number v.digits = v.major ∧
      v.major < Integer64.unsignedLimit := ⟨reads.number, rfl, reads.fits⟩
  cases v.plus with
  | true => exact boundedNumber?_plus.mpr value
  | false =>
    refine (boundedNumber?_plain ?_).mpr value
    intro c head
    have digit := reads.number.2 c (List.mem_of_mem_head? head)
    rintro rfl
    cases digit

theorem exists_reads (major : majorOf? text = some m) :
    ∃ v : VersionParts, v.Reads text ∧ v.major = m := by
  unfold majorOf? at major
  dsimp only at major
  generalize trimmed : trimChars text.toList = cs at major
  obtain ⟨atLeast, whole⟩ : ∃ atLeast : Bool, cs = (if atLeast then ['>', '='] else []) ++
      (dropStart? ['>', '='] cs).getD cs := by
    cases cut : dropStart? ['>', '='] cs with
    | none => exact ⟨false, rfl⟩
    | some rest =>
      refine ⟨true, ?_⟩
      unfold dropStart? at cut
      split at cut
      · rename_i begins
        obtain ⟨after, rfl⟩ := List.isPrefixOf_iff_prefix.mp begins
        cases cut
        simp
      · cases cut
  generalize (dropStart? ['>', '='] cs).getD cs = behind at major whole
  have marked := List.takeWhile_append_dropWhile (p := isVersionMark) (l := behind)
  have marks : ∀ c ∈ behind.takeWhile isVersionMark, c ∈ versionMarks := fun c member =>
    isVersionMark_iff.mp (List.mem_takeWhile_imp member)
  generalize behind.takeWhile isVersionMark = before at marks marked
  generalize behind.dropWhile isVersionMark = signed at major marked
  have led := List.takeWhile_append_dropWhile (p := fun c => c != '.') (l := signed)
  have dotted : ∀ c ∈ (signed.dropWhile fun c => c != '.').head?, c = '.' := by
    intro c head
    have stop := List.head?_dropWhile_not (fun c => c != '.') signed
    rw [Option.mem_def.mp head] at stop
    simpa using stop
  generalize signed.takeWhile (fun c => c != '.') = lead at major led
  generalize (signed.dropWhile fun c => c != '.') = rest at dotted led
  subst led marked
  -- Only the sign before the digits is left to tell.
  by_cases plus : ∃ digits, lead = '+' :: digits
  · obtain ⟨digits, rfl⟩ := plus
    obtain ⟨number, rfl, fits⟩ := boundedNumber?_plus.mp major
    exact ⟨⟨atLeast, _, true, digits, rest⟩, ⟨trimmed.trans whole, marks, number, fits, dotted⟩,
      rfl⟩
  · have unsigned : ∀ c ∈ lead.head?, c ≠ '+' := by
      rintro c head rfl
      cases lead with
      | nil => cases head
      | cons d digits =>
        cases head
        exact plus ⟨digits, rfl⟩
    obtain ⟨number, rfl, fits⟩ := (boundedNumber?_plain unsigned).mp major
    exact ⟨⟨atLeast, _, false, lead, rest⟩, ⟨trimmed.trans whole, marks, number, fits, dotted⟩, rfl⟩

theorem majorOf?_eq_some_iff :
    majorOf? text = some m ↔ ∃ v : VersionParts, v.Reads text ∧ v.major = m := by
  constructor
  · exact exists_reads
  · rintro ⟨v, reads, rfl⟩
    exact reads.majorOf

theorem Reads.unique (reads : v.Reads text) (reads' : w.Reads text) : v = w := by
  have same : v.text = w.text := reads.whole.symm.trans reads'.whole
  have behind : v.marks ++ v.signed = w.marks ++ w.signed := by
    rw [← reads.drop_atLeast, ← reads'.drop_atLeast, same]
  have marks : v.marks = w.marks := by
    rw [← reads.takeWhile_marks, ← reads'.takeWhile_marks, behind]
  have signed : v.signed = w.signed := by
    rw [← reads.dropWhile_marks, ← reads'.dropWhile_marks, behind]
  have lead : (if v.plus then ['+'] else []) ++ v.digits =
      (if w.plus then ['+'] else []) ++ w.digits := by
    rw [← reads.lead, ← reads'.lead, signed]
  have apart {ds : List Char} (number : IsNumber ds) (es : List Char) : ds ≠ '+' :: es := by
    rintro rfl
    have digit := number.2 '+' List.mem_cons_self
    cases digit
  have plus : v.plus = w.plus ∧ v.digits = w.digits := by
    cases plus : v.plus <;> cases plus' : w.plus <;> rw [plus, plus'] at lead
    · exact ⟨rfl, lead⟩
    · exact absurd lead (apart reads.number _)
    · exact absurd lead.symm (apart reads'.number _)
    · exact ⟨rfl, List.append_cancel_left lead⟩
  obtain ⟨plus, digits⟩ := plus
  have rest : v.rest = w.rest := by
    rw [VersionParts.signed, VersionParts.signed, plus, digits] at signed
    exact List.append_cancel_left (List.append_cancel_left signed)
  have atLeast : v.atLeast = w.atLeast := by
    rw [VersionParts.text, VersionParts.text, behind] at same
    have begins := List.append_cancel_right same
    cases left : v.atLeast <;> cases right : w.atLeast <;> simp [left, right] at begins ⊢
  cases v
  cases w
  simp_all

end VersionParts

/-! ### Exact versions among the texts that are read -/

theorem IsTail.dotted {tail : List Char} (tailed : IsTail tail) : ∀ c ∈ tail.head?, c = '.' := by
  intro c head
  cases tailed with
  | none => cases head
  | minor => exact (Option.mem_some_iff.mp head).symm
  | patch => exact (Option.mem_some_iff.mp head).symm

theorem exists_reads_of_admits (admits : Admits text m) :
    ∃ v : VersionParts, v.Reads text ∧ v.IsSingle ∧ v.major = m := by
  obtain ⟨fits, mark, version, marked, exact, whole⟩ := admits
  cases exact with
  | @intro major tail first tailed =>
    rcases marked with rfl | rfl | ⟨c, member, rfl⟩
    · refine ⟨⟨false, [], false, major, tail⟩, ⟨whole, ?_, first, fits, tailed.dotted⟩,
        ⟨Nat.zero_le 1, nofun, rfl, tailed⟩, rfl⟩
      intro c member
      cases member
    · refine ⟨⟨true, [], false, major, tail⟩, ⟨whole, ?_, first, fits, tailed.dotted⟩,
        ⟨Nat.zero_le 1, fun _ => rfl, rfl, tailed⟩, rfl⟩
      intro c member
      cases member
    · refine ⟨⟨false, [c], false, major, tail⟩, ⟨whole, ?_, first, fits, tailed.dotted⟩,
        ⟨Nat.le_refl 1, nofun, rfl, tailed⟩, rfl⟩
      intro d mark
      rwa [List.mem_singleton.mp mark]

theorem VersionParts.Reads.admits (reads : v.Reads text) (single : v.IsSingle) :
    Admits text v.major := by
  refine ⟨reads.fits, (if v.atLeast then ['>', '='] else []) ++ v.marks, v.digits ++ v.rest, ?_,
    .intro reads.number single.exact, ?_⟩
  · cases atLeast : v.atLeast with
    | true => simp [single.notBoth atLeast]
    | false =>
      have oneMark := single.oneMark
      cases some : v.marks with
      | nil => exact .inl rfl
      | cons c more =>
        rw [some, List.length_cons] at oneMark
        have none : more = [] := List.eq_nil_of_length_eq_zero (by omega)
        subst none
        exact .inr (.inr ⟨c, reads.marks c (by simp [some]), rfl⟩)
  · rw [reads.whole, VersionParts.text, VersionParts.signed, single.unsigned]
    simp

theorem IsNumber.plain (number : IsNumber cs) : ∀ c ∈ cs, isVersionChar c := by
  intro c member
  have digit := number.2 c member
  simp [isVersionChar, Char.isAlphanum, digit]

theorem IsSuffix.plain {suffix : List Char} (ending : IsSuffix suffix) :
    ∀ c ∈ suffix, isVersionChar c := by
  cases ending with
  | none => simp
  | some signed plain =>
    rw [List.forall_mem_cons]
    refine ⟨?_, plain⟩
    rcases signed with rfl | rfl <;> rfl

theorem IsExact.plain {version : List Char} (exact : IsExact m version) :
    ∀ c ∈ version, isVersionChar c := by
  have dot : isVersionChar '.' := rfl
  cases exact with
  | intro first tailed =>
    rw [List.forall_mem_append]
    refine ⟨first.plain, ?_⟩
    cases tailed with
    | none => simp
    | minor second ending =>
      rw [List.cons_append, List.forall_mem_cons, List.forall_mem_append]
      exact ⟨dot, second.plain, ending.plain⟩
    | patch second third ending =>
      simp only [List.cons_append, List.forall_mem_cons, List.forall_mem_append]
      exact ⟨dot, ⟨second.plain, dot, third.plain⟩, ending.plain⟩

theorem Admits.plain (admits : Admits text m) :
    ∀ c ∈ trimChars text.toList, isVersionChar c ∨ c ∈ '>' :: versionMarks := by
  obtain ⟨_, mark, version, marked, exact, whole⟩ := admits
  rw [whole, List.forall_mem_append]
  refine ⟨?_, fun c member => .inl (exact.plain c member)⟩
  rcases marked with rfl | rfl | ⟨c, member, rfl⟩
  · simp
  · simp [versionMarks]
  · simpa using .inr (.inr member)

theorem admits_iff (reads : v.Reads text) : Admits text m ↔ m = v.major ∧ v.IsSingle := by
  constructor
  · intro admits
    obtain ⟨w, reads', single, rfl⟩ := exists_reads_of_admits admits
    rw [reads.unique reads']
    exact ⟨rfl, single⟩
  · rintro ⟨rfl, single⟩
    exact reads.admits single

end ShieldPolicy.Provider

namespace ShieldPolicy.Vocabulary

open Provider Text

variable {name text : String} {v : VersionParts} {m : Nat}

theorem majorOf_eq_some_iff : majorOf ⟨name, some text⟩ = .ok (some m) ↔
    ∃ v : VersionParts, v.Reads text ∧ v.major = m := by
  rw [← VersionParts.majorOf?_eq_some_iff]
  rw [majorOf]
  dsimp only
  cases majorOf? text <;> simp

theorem majorOf_eq_error (unread : ¬ ∃ v : VersionParts, v.Reads text) :
    majorOf ⟨name, some text⟩ = .error (.unsupportedVersion name text) := by
  have none : majorOf? text = none := by
    rw [Option.eq_none_iff_forall_ne_some]
    intro m some
    obtain ⟨v, reads, _⟩ := VersionParts.exists_reads some
    exact unread ⟨v, reads⟩
  simp [majorOf, none]

theorem ofProvider_eq_some_iff {vocabulary : Vocabulary} :
    ofProvider ⟨name, some text⟩ = .ok (some vocabulary) ↔
    isCompanion ⟨name, some text⟩ ∧
      ∃ v : VersionParts, v.Reads text ∧ ofMajor? v.major = some vocabulary := by
  unfold ofProvider
  cases companion : isCompanion ⟨name, some text⟩ with
  | false => simp [throw, throwThe, MonadExceptOf.throw, bind, Except.bind]
  | true =>
    by_cases read : ∃ v : VersionParts, v.Reads text
    · obtain ⟨v, reads⟩ := read
      have major : majorOf ⟨name, some text⟩ = .ok (some v.major) :=
        majorOf_eq_some_iff.mpr ⟨v, reads, rfl⟩
      have only : (∃ w : VersionParts, w.Reads text ∧ ofMajor? w.major = some vocabulary) ↔
          ofMajor? v.major = some vocabulary := by
        constructor
        · rintro ⟨w, reads', some⟩
          rwa [reads.unique reads']
        · intro some
          exact ⟨v, reads, some⟩
      rw [major, only]
      cases known : ofMajor? v.major <;>
        simp [known, throw, throwThe, MonadExceptOf.throw, bind, Except.bind, pure, Except.pure]
    · have none : ∀ v : VersionParts, ¬ v.Reads text := fun v reads => read ⟨v, reads⟩
      rw [majorOf_eq_error read]
      simp [none, bind, Except.bind]

/-- A version text is understood exactly when it is read in parts. -/
theorem version_read (name text : String) :
    (∀ m, majorOf ⟨name, some text⟩ = .ok (some m) ↔
      ∃ v : VersionParts, v.Reads text ∧ v.major = m) ∧
    (majorOf ⟨name, some text⟩ = .error (.unsupportedVersion name text) ↔
      ¬ ∃ v : VersionParts, v.Reads text) ∧
    (∀ m, Admits text m → majorOf ⟨name, some text⟩ = .ok (some m)) ∧
    (∀ v : VersionParts, v.Reads text → ∀ m, Admits text m ↔ m = v.major ∧ v.IsSingle) ∧
    (∀ vocabulary, ofProvider ⟨name, some text⟩ = .ok (some vocabulary) ↔
      isCompanion ⟨name, some text⟩ ∧
        ∃ v : VersionParts, v.Reads text ∧ ofMajor? v.major = some vocabulary) := by
  refine ⟨fun m => majorOf_eq_some_iff, ⟨?_, majorOf_eq_error⟩, ?_,
    fun v reads m => admits_iff reads, fun vocabulary => ofProvider_eq_some_iff⟩
  · rintro failed ⟨v, reads⟩
    have read : majorOf ⟨name, some text⟩ = .ok (some v.major) :=
      majorOf_eq_some_iff.mpr ⟨v, reads, rfl⟩
    rw [failed] at read
    cases read
  · intro m admits
    obtain ⟨v, reads, _, major⟩ := exists_reads_of_admits admits
    exact majorOf_eq_some_iff.mpr ⟨v, reads, major⟩

theorem version_read_caret : Admits "^4.16" 4 ∧
    majorOf ⟨"prisma-client-js", some "^4.16"⟩ = .ok (some 4) := by
  have four : IsNumber ['4'] := ⟨by decide, List.all_eq_true.mp rfl⟩
  have sixteen : IsNumber ['1', '6'] := ⟨by decide, List.all_eq_true.mp rfl⟩
  have admits : Admits "^4.16" 4 := by
    refine ⟨by decide, ['^'], "4.16".toList, .inr (.inr ⟨'^', by decide, rfl⟩), ?_, by decide⟩
    exact .intro four (.minor sixteen .none)
  exact ⟨admits, (version_read "prisma-client-js" "^4.16").2.2.1 4 admits⟩

/-- A range that starts like an exact version is taken for one. -/
theorem version_read_range : majorOf ⟨"prisma-client-js", some ">=4.0.0 <6.0.0"⟩ = .ok (some 4) ∧
    ofProvider ⟨"prisma-client-js", some ">=4.0.0 <6.0.0"⟩ = .ok (some .legacy) ∧
    ∀ m, ¬ Admits ">=4.0.0 <6.0.0" m := by
  refine ⟨by decide, by decide, ?_⟩
  intro m admits
  have member : ' ' ∈ trimChars ">=4.0.0 <6.0.0".toList := by decide
  rcases admits.plain ' ' member with plain | mark
  · cases plain
  · simp [versionMarks] at mark

end ShieldPolicy.Vocabulary
