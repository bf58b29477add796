import ShieldPolicy.Json.Decoder
import ShieldPolicy.Proofs.Json.Grammar
import ShieldPolicy.Proofs.Json.Members

/-!
What readers yield. A reader yields a property when every value that it answers has it; the failures
of a reader do not count. What is read as a value is `Readable`, so its numbers are in bounds and
finite, its keys ascend and it opens only as many levels as it may: `yields_value`.
-/

namespace ShieldPolicy.Json

/-! ### Values that can be read -/

def Number.IsReadable : Number → Prop
  | .natural n => n < Integer64.unsignedLimit
  | .negative n => 1 ≤ n ∧ n ≤ Integer64.signedLimit
  | .real x => x.IsFinite

/-- Whether a value is one that a reader answers which may open so many levels. -/
inductive Readable : Nat → Json → Prop where
  | null {levels : Nat} : Readable levels .null
  | bool {levels : Nat} (b : Bool) : Readable levels (.bool b)
  | number {levels : Nat} {n : Number} (readable : n.IsReadable) : Readable levels (.number n)
  | text {levels : Nat} (s : String) : Readable levels (.text s)
  | array {levels : Nat} {items : List Json} (each : ∀ j ∈ items, Readable levels j) :
      Readable (levels + 1) (.array items)
  | object {levels : Nat} {members : List (String × Json)} (ascending : Ascending members)
      (each : ∀ m ∈ members, Readable levels m.2) : Readable (levels + 1) (.object members)

theorem areFinite_of_forall {items : List Json} (each : ∀ j ∈ items, j.IsFinite) :
    AreFinite items := by
  induction items with
  | nil => exact trivial
  | cons j rest ih =>
    have ⟨first, others⟩ := List.forall_mem_cons.mp each
    exact ⟨first, ih others⟩

theorem membersFinite_of_forall {members : List (String × Json)}
    (each : ∀ m ∈ members, m.2.IsFinite) : MembersFinite members := by
  induction members with
  | nil => exact trivial
  | cons m rest ih =>
    have ⟨first, others⟩ := List.forall_mem_cons.mp each
    exact ⟨first, ih others⟩

theorem Readable.isFinite {j : Json} {levels : Nat} (readable : Readable levels j) : j.IsFinite := by
  induction readable with
  | null | bool | text => trivial
  | @number _ n readable =>
    cases n with
    | natural | negative => trivial
    | real => exact readable
  | array _ ih =>
    rw [IsFinite]
    exact areFinite_of_forall ih
  | object _ _ ih =>
    rw [IsFinite]
    exact membersFinite_of_forall ih

def MembersReadable (levels : Nat) (members : List (String × Json)) : Prop :=
  Ascending members ∧ ∀ m ∈ members, Readable levels m.2

theorem MembersReadable.insertMember {levels : Nat} {key : String} {j : Json}
    {members : List (String × Json)} (readable : MembersReadable levels members)
    (value : Readable levels j) : MembersReadable levels (insertMember key j members) := by
  refine ⟨readable.1.insertMember, fun m member => ?_⟩
  rcases (mem_insertMember readable.1).mp member with rfl | ⟨member, -⟩
  · exact value
  · exact readable.2 m member

namespace Reader

variable {α β : Type} {P : α → Prop} {Q : β → Prop} {reader : Reader α} {next : α → Reader β}

def Yields (P : α → Prop) (reader : Reader α) : Prop :=
  ∀ c a c', reader c = (.ok a, c') → P a

/-! ### Readers put together -/

theorem yields_true (reader : Reader α) : Yields (fun _ => True) reader := fun _ _ _ _ => trivial

theorem yields_pure {a : α} (holds : P a) : Yields P (pure a) := by
  rintro c a' c' ⟨⟩
  exact holds

theorem yields_throw (e : Error) : Yields P (throw e) := by
  rintro c a c' ⟨⟩

theorem yields_bind (first : Yields P reader) (rest : ∀ a, P a → Yields Q (next a)) :
    Yields Q (reader >>= next) := by
  intro c b c' run
  simp only [bind, ExceptT.bind, ExceptT.mk, StateT.bind, ExceptT.bindCont] at run
  cases read : reader c with
  | mk answer mid =>
    rw [read] at run
    cases answer with
    | ok a => exact rest a (first c a mid read) mid b c' run
    | error e => cases run

theorem yields_after (rest : ∀ a, Yields Q (next a)) : Yields Q (reader >>= next) :=
  yields_bind (yields_true reader) fun a _ => rest a

theorem yields_failHere (fault : Fault) : Yields P (failHere fault) :=
  yields_after fun _ => yields_throw _

theorem yields_failAhead (fault : Fault) : Yields P (failAhead fault) :=
  yields_after fun _ => yields_throw _

theorem yields_failUnplaced (fault : Fault) : Yields P (failUnplaced fault) := yields_throw _

theorem yields_placed (inside : Yields P reader) : Yields P (placed reader) := by
  intro c a c' run
  unfold placed at run
  split at run
  · cases run
  · exact inside c a c' run

theorem yields_closedBy (inside : Yields P reader) (closing : Reader Unit) :
    Yields P (closedBy reader closing) := by
  intro c a c' run
  cases read : reader c with
  | mk answer mid =>
    cases closed : closing mid with
    | mk done last =>
      simp only [closedBy, read, closed] at run
      cases answer with
      | error e => cases run
      | ok a =>
        cases done with
        | error e => cases run
        | ok =>
          cases run
          exact inside c a mid read

/-! ### Numbers -/

variable {n significand : Nat} {x : Binary64} {exponent : Int} {negative : Bool}

theorem isBounded_divideDown (bounded : x.IsBounded 64) (power : Nat) :
    (divideDown x power).IsBounded 64 := by
  induction power using Nat.strongRecOn generalizing x with
  | ind power ih =>
    have divided (p : Nat) : (x.divMagnitude (.powerOfTen p)).IsBounded 64 :=
      Binary64.isBounded_divMagnitude bounded (Binary64.isLarge_powerOfTen p) (by decide)
        (by decide)
    unfold divideDown
    split
    · exact bounded
    split
    · exact divided power
    · exact ih (power - 308) (by omega) (divided 308)

theorem isBounded_significand (fits : significand < Integer64.unsignedLimit) :
    (Binary64.ofNat negative significand).IsBounded 64 :=
  Binary64.isBounded_ofNat (k := 64) (Nat.le_of_lt fits) (by decide)

theorem isFinite_scaleDecimal? (fits : significand < Integer64.unsignedLimit)
    (scaled : scaleDecimal? significand exponent = some x) : x.IsFinite := by
  have bounded : (Binary64.ofNat false significand).IsBounded 64 := isBounded_significand fits
  unfold scaleDecimal? at scaled
  dsimp only at scaled
  split at scaled
  · cases scaled
    exact (isBounded_divideDown bounded _).isFinite
  split at scaled
  · cases scaled
    exact bounded.isFinite
  split at scaled
  · cases scaled
  split at scaled
  · cases scaled
  · rename_i within
    cases scaled
    exact (Binary64.mulMagnitude_cases bounded.isFinite _).resolve_left within

theorem accumulate_lt (digits : List Char) (fits : significand < Integer64.unsignedLimit) :
    (accumulate significand digits).1 < Integer64.unsignedLimit := by
  induction digits generalizing significand with
  | nil => exact fits
  | cons ch rest ih =>
    unfold accumulate
    dsimp only
    split
    · exact ih ‹_›
    · exact fits

section Significand

variable (fits : significand < Integer64.unsignedLimit)
include fits

theorem yields_realNumber : Yields Number.IsReadable (realNumber negative significand exponent) := by
  unfold realNumber
  split
  · exact yields_failHere _
  · rename_i x scaled
    have finite := isFinite_scaleDecimal? fits scaled
    refine yields_pure ?_
    show (if negative then x.neg else x).IsFinite
    split
    · exact Binary64.isFinite_neg finite
    · exact finite

theorem yields_exponentPart :
    Yields Number.IsReadable (exponentPart negative significand exponent) := by
  unfold exponentPart
  refine yields_after fun _ => yields_after fun sign => ?_
  extract_lets bound unsigned
  have rest (down : Bool) : Yields Number.IsReadable (unsigned down) := by
    refine yields_after fun ch => ?_
    split
    · exact yields_failHere _
    split
    · exact yields_failAhead _
    refine yields_after fun c => yields_after fun written => ?_
    split
    · exact yields_realNumber fits
    split
    · exact yields_failHere _
    · refine yields_after fun _ => yields_pure ?_
      exact ⟨by decide, by decide, by decide, .inr rfl⟩
  split
  · exact yields_after fun _ => yields_after fun down => rest down
  · exact yields_after fun _ => yields_after fun down => rest down
  · exact yields_after fun down => rest down

theorem yields_afterDigits :
    Yields Number.IsReadable (afterDigits negative significand exponent) := by
  unfold afterDigits
  refine yields_after fun ch => ?_
  split
  · exact yields_exponentPart fits
  · exact yields_exponentPart fits
  · exact yields_realNumber fits

theorem yields_fractionPart :
    Yields Number.IsReadable (fractionPart negative significand exponent) := by
  unfold fractionPart
  refine yields_after fun _ => yields_after fun run => ?_
  split
  · refine yields_after fun ch => ?_
    split
    · exact yields_failAhead _
    · exact yields_failAhead _
  · exact yields_afterDigits (accumulate_lt run fits)

theorem yields_wholeOrReal (left : Nat) :
    Yields Number.IsReadable (wholeOrReal negative significand left) := by
  unfold wholeOrReal
  refine yields_after fun ch => ?_
  split
  · exact yields_fractionPart fits
  · exact yields_exponentPart fits
  · exact yields_exponentPart fits
  split
  · exact yields_realNumber fits
  split
  · exact yields_pure fits
  split
  · rename_i within
    exact yields_pure within
  · exact yields_pure (isBounded_significand fits).isFinite

end Significand

theorem yields_unsignedNumber (negative : Bool) :
    Yields Number.IsReadable (unsignedNumber negative) := by
  have zero : 0 < Integer64.unsignedLimit := by decide
  unfold unsignedNumber
  refine yields_after fun ch => ?_
  split
  · exact yields_failHere _
  split
  · refine yields_after fun _ => yields_after fun next => ?_
    split
    · split
      · exact yields_failAhead _
      · exact yields_wholeOrReal zero 0
    · exact yields_wholeOrReal zero 0
  split
  · refine yields_after fun run => ?_
    exact yields_wholeOrReal (accumulate_lt run zero) _
  · exact yields_failAhead _

/-! ### Values -/

section Values

variable {P : Json → Prop} {list object : Reader Json}

theorem yields_scalar? (null : P .null) (bool : ∀ b, P (.bool b))
    (number : ∀ n, Number.IsReadable n → P (.number n)) (text : ∀ s, P (.text s)) {ch : Char}
    {read : Reader Json} (known : scalar? ch = some read) : Yields P read := by
  unfold scalar? at known
  split at known
  · cases known
    exact yields_after fun _ => yields_after fun _ => yields_pure null
  split at known
  · cases known
    exact yields_after fun _ => yields_after fun _ => yields_pure (bool true)
  split at known
  · cases known
    exact yields_after fun _ => yields_after fun _ => yields_pure (bool false)
  split at known
  · cases known
    exact yields_after fun _ => yields_bind (yields_unsignedNumber true) fun n readable =>
      yields_pure (number n readable)
  split at known
  · cases known
    exact yields_bind (yields_unsignedNumber false) fun n readable =>
      yields_pure (number n readable)
  split at known
  · cases known
    exact yields_after fun _ => yields_after fun s => yields_pure (text s)
  · cases known

theorem yields_valueWith
    (scalar : ∀ {ch : Char} {read : Reader Json}, scalar? ch = some read → Yields P read)
    (items : Yields P list) (members : Yields P object) : Yields P (valueWith list object) := by
  unfold valueWith
  refine yields_after fun ch => ?_
  split
  · exact yields_failAhead _
  split
  · exact yields_placed (scalar ‹_›)
  split
  · exact yields_placed (yields_closedBy items _)
  split
  · exact yields_placed (yields_closedBy members _)
  · exact yields_failAhead _

end Values

theorem yields_itemsWithin {item : Reader α} (each : Yields P item) (fuel : Nat) (first : Bool) :
    Yields (fun as => ∀ a ∈ as, P a) (itemsWithin item fuel first) := by
  induction fuel generalizing first with
  | zero => exact yields_failHere _
  | succ fuel ih =>
    unfold itemsWithin
    refine yields_after fun more => ?_
    split
    · refine yields_bind each fun a holds => yields_bind (ih false) fun rest others => ?_
      exact yields_pure (List.forall_mem_cons.mpr ⟨holds, others⟩)
    · exact yields_pure fun a member => absurd member List.not_mem_nil

theorem yields_membersWithin {member : String → α → Reader α}
    (step : ∀ key a, P a → Yields P (member key a)) (fuel : Nat) (first : Bool) {a : α}
    (holds : P a) : Yields P (membersWithin member fuel first a) := by
  induction fuel generalizing first a with
  | zero => exact yields_failHere _
  | succ fuel ih =>
    unfold membersWithin
    refine yields_after fun more => ?_
    split
    · exact yields_after fun _ => yields_after fun key =>
        yields_bind (step key a holds) fun next kept => ih false kept
    · exact yields_pure holds

/-- A value that is read is one that can be read, in as many levels. -/
theorem yields_value (levels : Nat) : Yields (Readable levels) (value levels) := by
  have scalar {levels : Nat} {ch : Char} {read : Reader Json} (known : scalar? ch = some read) :
      Yields (Readable levels) read :=
    yields_scalar? .null .bool (fun _ => .number) .text known
  induction levels with
  | zero => exact yields_valueWith scalar (yields_failAhead _) (yields_failAhead _)
  | succ levels ih =>
    refine yields_valueWith scalar ?_ ?_
    · refine yields_after fun _ => yields_bind (P := fun js => ∀ j ∈ js, Readable levels j) ?_
        fun items each => yields_pure (.array each)
      exact yields_after fun c => yields_itemsWithin ih _ true
    · refine yields_after fun _ => yields_bind (P := MembersReadable levels) ?_
        fun members readable => yields_pure (.object readable.1 readable.2)
      have none : MembersReadable levels [] :=
        ⟨.nil, fun m member => absurd member List.not_mem_nil⟩
      refine yields_after fun c => yields_membersWithin (fun key read readable => ?_) _ true none
      exact yields_after fun _ => yields_bind ih fun j value =>
        yields_pure (readable.insertMember value)

theorem yields_map {f : α → β} (inside : Yields P reader) (kept : ∀ a, P a → Q (f a)) :
    Yields Q (f <$> reader) := by
  rw [map_eq_pure_bind]
  exact yields_bind inside fun a holds => yields_pure (kept a holds)

theorem yields_mismatch (expected : String) : Yields P (mismatch expected) := by
  unfold mismatch
  refine yields_after fun ch => ?_
  split
  · exact yields_failAhead _
  split
  · exact yields_after fun j => yields_failHere _
  split
  · exact yields_failHere _
  split
  · exact yields_failHere _
  · exact yields_failAhead _

theorem holds_of_run {text : String} {a : α} (inside : Yields P reader)
    (read : reader.run text = .ok a) : P a := by
  have whole : Yields P (do
      let a ← reader
      textEnd
      return a) :=
    yields_bind inside fun a holds => yields_after fun _ => yields_pure holds
  exact whole (Cursor.start text) a _ (Prod.ext read rfl)

end Reader

/-! ### Records -/

namespace Decoder

open Reader

variable {ρ : Type} {P : ρ → Prop} {fields : List (Field ρ)} {blank r : ρ}
  {levels : Nat}

def Field.Keeps (levels : Nat) (P : ρ → Prop) (f : Field ρ) : Prop :=
  Yields (fun put => ∀ r, P r → P (put r)) (f.decoder.ofText levels)

theorem yields_readItems (each : ∀ f ∈ fields, f.Keeps levels P) (expected : String)
    (count : Nat) (holds : P r) : Yields P (readItems expected levels count fields r) := by
  induction fields generalizing count r with
  | nil => exact yields_pure holds
  | cons f fields ih =>
    have rest {r : ρ} (holds : P r) := ih (r := r)
      (fun other member => each other (List.mem_cons_of_mem _ member)) (count + 1) holds
    unfold readItems
    refine yields_after fun more => ?_
    split
    · exact yields_bind (each f List.mem_cons_self) fun put kept => rest (kept r holds)
    split
    · exact yields_failUnplaced _
    · exact rest holds

theorem yields_readMembers (each : ∀ f ∈ fields, f.Keeps levels P)
    {other : String → ρ → Reader ρ} (others : ∀ key r, P r → Yields P (other key r))
    (holds : P blank) :
    Yields P (readMembers fields other blank levels) := by
  unfold readMembers
  refine yields_bind (P := fun read : ρ × List String => P read.1) ?_ fun read kept => ?_
  · refine yields_after fun c => yields_membersWithin (fun key read kept => ?_) _ true holds
    obtain ⟨r, present⟩ := read
    dsimp only
    split
    · rename_i f found
      split
      · exact yields_failUnplaced _
      · exact yields_after fun _ =>
          yields_bind (each f (List.mem_of_find?_eq_some found)) fun put keeps =>
            yields_pure (keeps r kept)
    · exact yields_bind (others key r kept) fun next kept => yields_pure kept
  · obtain ⟨r, present⟩ := read
    dsimp only
    split
    · exact yields_failUnplaced _
    · exact yields_pure kept

/-- A property of the blank record that every field keeps, read one level further in, holds of every
record that is read. -/
theorem yields_record
    (each : ∀ inner, levels = inner + 1 → ∀ f ∈ fields, f.Keeps inner P)
    (holds : P blank) (name : String) : Yields P ((record name fields blank).ofText levels) := by
  refine yields_after fun ch => ?_
  split
  · exact yields_failAhead _
  split
  · refine yields_placed ?_
    cases levels with
    | zero => exact yields_failAhead _
    | succ inner =>
      refine yields_after fun _ => ?_
      split
      · exact yields_closedBy (yields_readItems (each inner rfl) _ 0 holds) _
      · refine yields_closedBy (yields_readMembers (each inner rfl) (fun key r kept => ?_) holds) _
        exact yields_after fun _ => yields_after fun _ => yields_pure kept
  · exact yields_mismatch _

end Decoder

end ShieldPolicy.Json
