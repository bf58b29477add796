import ShieldPolicy.Json.Decoder
import ShieldPolicy.Proofs.Json.Agreement
import ShieldPolicy.Proofs.Json.Reread

/-!
Decoders on what is written. Each gives back what was written for it, a record by the way its
members are taken: `gives_record`. Only null is not told apart from nothing: `gives_optional_any`.
-/

namespace ShieldPolicy.Json

open Reader

def present? : Json → Option Json
  | .null => none
  | j => some j

namespace Decoder

open Cursor

variable {α β ρ : Type} {d : Decoder α} {levels : Nat} {j : Json} {ch : Char} {cs text : List Char}
  {answer : Option α}

theorem gives_map (gives : Gives (d.ofText levels) text answer) (f : α → β) :
    Gives ((d.map f).ofText levels) text (answer.map f) :=
  fun _ _ quiet rest => (gives quiet rest).map f

theorem gives_expecting {expected : String} {starts : Char → Bool} {read : Char → Reader α}
    (solid : isSpace ch = false) (start : starts ch) (gives : Gives (read ch) (ch :: cs) answer) :
    Gives (expecting expected starts read) (ch :: cs) answer := by
  intro c tail quiet rest
  unfold expecting
  rw [bind_of_ok (peekSolid_of_solid rest solid)]
  dsimp only
  rw [if_pos start]
  exact (gives quiet rest).placed

theorem gives_textNamed (expected s : String) :
    Gives ((textNamed expected).ofText levels) (writeText s).toList (some s) := by
  have spells := spellsText_writeText s
  obtain ⟨cs, quoted⟩ := writeText_eq_cons s
  rw [quoted] at spells ⊢
  refine gives_expecting rfl rfl ?_
  intro c tail quiet rest
  rw [bind_of_ok (advance_eq c)]
  exact ends_text spells (rest_advance_of_rest rest)

/-! ### Integers -/

theorem gives_ofNumber {n : Number} {i : Int} {negative : Bool} (same : n.integer? = some i)
    (fits : Integer64.fits i) (gives : Gives (unsignedNumber negative) text (some n)) :
    Gives (do
      match integer.ofNumber (← unsignedNumber negative) with
      | .ok i => return i
      | .error fault => failUnplaced fault) text (some i) := by
  intro c tail quiet rest
  have known : integer.ofNumber n = .ok i := by
    unfold integer.ofNumber
    rw [same]
    exact if_pos fits
  obtain ⟨mid, read, left⟩ := (gives quiet rest).of_ok
  rw [bind_of_ok read, known]
  exact .ok left

theorem gives_integer_natural {n : Nat} (fits : Integer64.fits n) :
    Gives (integer.ofText levels) (Nat.toDigits 10 n) (some (n : Int)) := by
  have below : n < Integer64.unsignedLimit := by
    have bound : -(Integer64.signedLimit : Int) ≤ n ∧ (n : Int) < Integer64.signedLimit := by
      simpa [Integer64.fits] using fits
    exact Nat.lt_trans (Int.ofNat_lt.mp bound.2) (by decide)
  have gives := gives_natural below
  have digits := isDigits_toDigits n
  generalize Nat.toDigits 10 n = cs at gives digits
  obtain ⟨d, more, rfl⟩ := List.exists_cons_of_ne_nil digits.1
  have digit : d.isDigit := digits.2 d List.mem_cons_self
  refine gives_expecting (isSpace_digit digit) (by simp [digit]) ?_
  rw [if_neg (isDigit_ne digit rfl), beq_eq_false_iff_ne.mpr (isDigit_ne digit rfl)]
  exact gives_ofNumber rfl fits gives

theorem gives_integer_negative {n : Nat} (positive : 1 ≤ n) (fits : Integer64.fits (-n)) :
    Gives (integer.ofText levels) ('-' :: Nat.toDigits 10 n) (some (-n : Int)) := by
  have within : n ≤ Integer64.signedLimit := by
    have bound : -(Integer64.signedLimit : Int) ≤ -n ∧ (-n : Int) < Integer64.signedLimit := by
      simpa [Integer64.fits] using fits
    omega
  refine gives_expecting rfl rfl ?_
  intro c tail quiet rest
  rw [if_pos rfl, bind_of_ok (advance_eq c)]
  exact gives_ofNumber rfl fits (gives_negated positive within) quiet (rest_advance_of_rest rest)

theorem gives_integer {i : Int} (fits : Integer64.fits i) :
    Gives (integer.ofText levels) (toString i).toList (some i) := by
  have shown : toString i = if 0 ≤ i then toString i.toNat else "-" ++ toString (-i).toNat :=
    Int.repr_eq_if
  rw [shown]
  split
  · obtain ⟨n, rfl⟩ := Int.eq_ofNat_of_zero_le ‹0 ≤ i›
    rw [toList_toString]
    exact gives_integer_natural fits
  · obtain ⟨n, rfl⟩ : ∃ n : Nat, i = -n := ⟨(-i).toNat, by omega⟩
    have negated : (- -(n : Int)).toNat = n := by omega
    rw [String.toList_append, toList_toString, negated]
    exact gives_integer_negative (by omega) fits

/-! ### Values -/

/-- Of what is read as a value, only null starts with its first letter. -/
theorem null_of_gives (gives : Gives (value levels) ('n' :: cs) (some j)) : j = .null := by
  let c : Cursor := { rest := 'n' :: cs }
  have start : c.dropSpace.rest.head? = some 'n' := by
    rw [dropSpace_of_solid (c := c) rfl rfl]
    rfl
  obtain ⟨mid, read, -⟩ := (gives quiet_nil (List.append_nil c.rest).symm).of_ok
  obtain ⟨list, object, read⟩ : ∃ list object, valueWith list object c = (.ok j, mid) := by
    cases levels with
    | zero => exact ⟨_, _, read⟩
    | succ levels => exact ⟨_, _, read⟩
  obtain ⟨ch, scalar, head, known, taken⟩ | ⟨head, -⟩ | ⟨head, -⟩ := valueWith_ok read
  · obtain rfl : 'n' = ch := Option.some.inj (start.symm.trans head)
    obtain rfl : (do advance; word ['u', 'l', 'l']; return Json.null) = scalar :=
      Option.some.inj known
    rw [bind_of_ok (advance_eq _)] at taken
    obtain ⟨⟨⟩, stop, word, taken⟩ := bind_ok taken
    cases taken
    rfl
  · cases start.symm.trans head
  · cases start.symm.trans head

theorem gives_optional_null :
    Gives ((optional d).ofText levels) (write .null).toList (some none) := by
  intro c tail quiet rest
  rw [write] at rest
  have rest : c.rest = 'n' :: (['u', 'l', 'l'] ++ tail) := rest
  show Ends _ _ ((peekSolid >>= _) c)
  rw [bind_of_ok (peekSolid_of_solid rest rfl)]
  show Ends _ _ ((advance >>= fun _ => word ['u', 'l', 'l'] >>= fun _ => pure none) c)
  rw [bind_of_ok (advance_eq c)]
  exact (ends_word _ (rest_advance_of_rest rest)).bind_pure fun _ => none

theorem gives_optional (solid : isSpace ch = false) (other : ch ≠ 'n')
    (gives : Gives (d.ofText levels) (ch :: cs) answer) :
    Gives ((optional d).ofText levels) (ch :: cs) (answer.map some) := by
  intro c tail quiet rest
  show Ends _ _ ((peekSolid >>= _) c)
  rw [bind_of_ok (peekSolid_of_solid rest solid)]
  have other : some ch ≠ some 'n' := fun same => other (Option.some.inj same)
  generalize some ch = head at other
  split
  · exact absurd rfl other
  · exact (gives quiet rest).map some

theorem gives_any {given : Option Json} (reads : Reads levels j given) :
    Gives (any.ofText levels) j.write.toList given := reads.gives 0

theorem gives_optional_any (reads : Reads levels j (some j)) :
    Gives ((optional any).ofText levels) j.write.toList (some j.present?) := by
  by_cases null : j = .null
  · subst null
    exact gives_optional_null
  · have gives := gives_any reads
    obtain ⟨ch, cs, text, solid, -⟩ := reads.starts
    rw [text] at gives ⊢
    have other : ch ≠ 'n' := by
      rintro rfl
      exact null (null_of_gives gives)
    have same : j.present? = some j := by
      cases j with
      | null => exact absurd rfl null
      | _ => rfl
    rw [same]
    exact gives_optional solid other gives

/-! ### Records -/

section Records

variable {fields : List (Field ρ)} {skip : String → ρ → Reader ρ} {key : String} {r blank : ρ}
  {present : List String} {put : α → ρ → ρ} {isRequired : Bool}

theorem gives_readMember
    (found : (fields.find? fun f => f.name == key) = some ⟨key, isRequired, d.map put⟩)
    (fresh : present.contains key = false) (gives : Gives (d.ofText levels) text answer) :
    Gives (readMember fields skip levels key (r, present)) (':' :: text)
      (answer.map fun a => (put a r, key :: present)) := by
  intro c tail quiet rest
  obtain ⟨mid, after, left⟩ := (ends_colon rest).of_ok
  unfold readMember
  rw [found]
  dsimp only
  rw [fresh, if_neg (by decide), bind_of_ok after]
  have inside := (gives_map gives put quiet left).bind_pure fun put => (put r, key :: present)
  rwa [Option.map_map] at inside

theorem taken_append {σ : Type} {member : String → σ → Reader σ} {ms ms' : List (String × String)}
    {s next : σ} {last : Option σ} (first : Taken member (ms.map memberText) s (some next))
    (rest : Taken member (ms'.map memberText) next last) :
    Taken member ((ms ++ ms').map memberText) s last := by
  rw [List.map_append]
  generalize ms.map memberText = texts at first
  generalize given : some next = mid at first
  induction first with
  | nil =>
    cases given
    exact rest
  | cons step _ ih => exact .cons step (ih given)
  | stuck => cases given

def putOption (key : String) (put : α → ρ → ρ) (o : Option α) (state : ρ × List String) :
    ρ × List String :=
  o.elim state fun a => (put a state.1, key :: state.2)

theorem taken_option {state : ρ × List String} {given : Option β} {text : β → String} {a : β → α}
    (found : (fields.find? fun f => f.name == key) = some ⟨key, isRequired, d.map put⟩)
    (fresh : state.2.contains key = false)
    (gives : ∀ b, given = some b → Gives (d.ofText levels) (text b).toList (some (a b))) :
    Taken (readMember fields skip levels)
      ((given.map fun b => (key, text b)).toList.map memberText) state
      (some (putOption key put (given.map a) state)) := by
  cases given with
  | none => exact .nil
  | some b => exact .cons (gives_readMember found fresh (gives b rfl)) .nil

def skipMember (_ : String) (r : ρ) : Reader ρ := do
  colon
  skipValue
  return r

theorem gives_record {ms : List (String × String)} {final : Option (ρ × List String)}
    {made : Option ρ} (name : String)
    (taken : Taken (readMember fields skipMember levels) (ms.map memberText) (blank, []) final)
    (complete : ∀ state, final = some state → missing? fields state.2 = none)
    (same : final.map Prod.fst = made) :
    Gives ((record name fields blank).ofText (levels + 1)) (braced ms).toList made := by
  subst same
  rw [toList_braced]
  refine gives_expecting rfl rfl ?_
  intro c tail quiet rest
  have rest : c.rest =
      '\x7b' :: (Text.joinWith ',' ((ms.map memberText).map spelled) ++ '\x7d' :: tail) := by
    simpa using rest
  rw [opened_succ, if_neg (by decide)]
  have inside : Ends ('\x7d' :: tail) (final.map Prod.fst)
      ((Reader.members (readMember fields skipMember levels) (blank, []) >>= noneMissing fields)
        c.advance) := by
    rw [Option.map_eq_bind]
    refine (ends_members taken (rest_advance_of_rest rest)).bind fun state mid known left => ?_
    unfold noneMissing
    rw [complete state known]
    exact .ok left
  exact inside.closedBy fun mid left => ends_objectEnd left

end Records

end Decoder

end ShieldPolicy.Json
