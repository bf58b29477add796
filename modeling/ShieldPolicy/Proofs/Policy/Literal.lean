import Mathlib.Data.List.TakeWhile
import ShieldPolicy.Json.Scalar
import ShieldPolicy.Policy
import ShieldPolicy.Proofs.Policy.ReadBack

/-!
The import of a policy as TypeScript reads it. A string between single quotes denotes code units of
UTF-16; one that denotes itself is written in plain characters alone: `Literal.denotes_self_iff`.
The line that imports the context type is complete only in that case: `Policy.imports_iff`.
-/

namespace ShieldPolicy

/-! ### String literals -/

namespace Literal

def units (point : Nat) : List Nat :=
  if point < 0x10000 then [point]
  else [0xD800 + (point - 0x10000) / 0x400, 0xDC00 + (point - 0x10000) % 0x400]

def unitsOf (cs : List Char) : List Nat := cs.flatMap fun c => units c.toNat

def lineEnds : List Char := ['\n', '\r', '\u2028', '\u2029']

/-- Whether a character stands for itself between single quotes. The last two ends of lines may
stand there since the 2019 edition of the language, `separators` is the rule before it. -/
structure IsPlain (separators : Bool) (c : Char) : Prop where
  quote : c ≠ '\x27'
  backslash : c ≠ '\\'
  feed : c ≠ '\n'
  carriage : c ≠ '\r'
  separator : separators → c ≠ '\u2028' ∧ c ≠ '\u2029'

/-- The characters that name another one behind a backslash. -/
def namedEscapes : List (Char × Nat) :=
  [('\x27', 0x27), ('"', 0x22), ('\\', 0x5C), ('b', 0x08), ('f', 0x0C), ('n', 0x0A), ('r', 0x0D),
    ('t', 0x09), ('v', 0x0B)]

/-- What a backslash and the characters behind it stand for. Digits other than a `0` on its own may
not follow it in a module. -/
inductive Escape : List Char → List Nat → Prop where
  | named {c : Char} {unit : Nat} (known : (c, unit) ∈ namedEscapes) : Escape [c] [unit]
  | plain {c : Char} (unnamed : c ∉ namedEscapes.map Prod.fst) (digit : ¬ c.isDigit)
      (other : c ≠ 'x' ∧ c ≠ 'u') (whole : c ∉ lineEnds) : Escape [c] (units c.toNat)
  | byte {digits : List Char} {n : Nat} (two : digits.length = 2)
      (value : Json.Reader.hexNumber? digits = some n) : Escape ('x' :: digits) [n]
  | unit {digits : List Char} {n : Nat} (four : digits.length = 4)
      (value : Json.Reader.hexNumber? digits = some n) : Escape ('u' :: digits) [n]
  | point {digits : List Char} {n : Nat} (present : digits ≠ []) (bound : n ≤ 0x10FFFF)
      (value : Json.Reader.hexNumber? digits = some n) :
      Escape ('u' :: '\x7b' :: digits ++ ['\x7d']) (units n)
  | lineEnd {c : Char} (ends : c ∈ lineEnds) : Escape [c] []
  | lineEnds : Escape ['\r', '\n'] []

/-- The code units that the characters between two single quotes denote. -/
inductive Denotes (separators : Bool) : List Char → List Nat → Prop where
  | nil : Denotes separators [] []
  | plain {c : Char} {body : List Char} {value : List Nat} (plain : IsPlain separators c)
      (rest : Denotes separators body value) :
      Denotes separators (c :: body) (units c.toNat ++ value)
  | null {body : List Char} {value : List Nat} (alone : ∀ c ∈ body.head?, ¬ c.isDigit)
      (rest : Denotes separators body value) : Denotes separators ('\\' :: '0' :: body) (0 :: value)
  | escape {front body : List Char} {unit value : List Nat} (escape : Escape front unit)
      (rest : Denotes separators body value) :
      Denotes separators ('\\' :: (front ++ body)) (unit ++ value)

variable {separators : Bool} {cs ds front body : List Char} {value : List Nat} {c : Char}

theorem unitsOf_append : unitsOf (cs ++ ds) = unitsOf cs ++ unitsOf ds :=
  List.flatMap_append

theorem unitsOf_cons : unitsOf (c :: cs) = units c.toNat ++ unitsOf cs := rfl

theorem length_units (point : Nat) : 0 < (units point).length ∧ (units point).length ≤ 2 := by
  unfold units
  split <;> simp

theorem length_le_unitsOf (cs : List Char) : cs.length ≤ (unitsOf cs).length := by
  induction cs with
  | nil => exact Nat.le_refl 0
  | cons c cs ih =>
    rw [unitsOf_cons, List.length_append, List.length_cons]
    have one := (length_units c.toNat).1
    omega

theorem Escape.length_le (escape : Escape front value) : value.length ≤ (unitsOf front).length := by
  cases escape with
  | named known =>
    exact length_le_unitsOf [_]
  | plain => simp [unitsOf]
  | @byte digits n =>
    exact Nat.le_trans (Nat.le_add_left 1 digits.length) (length_le_unitsOf ('x' :: digits))
  | @unit digits n =>
    exact Nat.le_trans (Nat.le_add_left 1 digits.length) (length_le_unitsOf ('u' :: digits))
  | @point digits n =>
    have long := length_le_unitsOf ('u' :: '\x7b' :: digits ++ ['\x7d'])
    have short := (length_units n).2
    simp only [List.length_append, List.length_cons] at long
    omega
  | lineEnd => exact Nat.zero_le _
  | lineEnds => exact Nat.zero_le _

/-- Either nothing is escaped, or the value is shorter than what is written. -/
theorem Denotes.plain_or_shorter (denotes : Denotes separators body value) :
    (∀ c ∈ body, IsPlain separators c) ∧ value = unitsOf body ∨
      value.length < (unitsOf body).length := by
  induction denotes with
  | nil => exact .inl ⟨nofun, rfl⟩
  | plain plain rest ih =>
    rw [unitsOf_cons]
    rcases ih with ⟨all, rfl⟩ | shorter
    · exact .inl ⟨List.forall_mem_cons.mpr ⟨plain, all⟩, rfl⟩
    · right
      rw [List.length_append, List.length_append]
      omega
  | null alone rest ih =>
    right
    rw [unitsOf_cons, unitsOf_cons, List.length_append, List.length_append, List.length_cons]
    have one := (length_units '\\'.toNat).1
    have one' := (length_units '0'.toNat).1
    rcases ih with ⟨_, rfl⟩ | shorter
    · omega
    · omega
  | escape escape rest ih =>
    right
    rw [unitsOf_cons, unitsOf_append, List.length_append, List.length_append, List.length_append]
    have front := escape.length_le
    have one := (length_units '\\'.toNat).1
    rcases ih with ⟨_, rfl⟩ | shorter
    · omega
    · omega

theorem Denotes.length_le (denotes : Denotes separators body value) :
    value.length ≤ (unitsOf body).length := by
  rcases denotes.plain_or_shorter with ⟨_, rfl⟩ | shorter
  · exact Nat.le_refl _
  · exact Nat.le_of_lt shorter

theorem denotes_of_plain (plain : ∀ c ∈ body, IsPlain separators c) :
    Denotes separators body (unitsOf body) := by
  induction body with
  | nil => exact .nil
  | cons c body ih =>
    obtain ⟨first, rest⟩ := List.forall_mem_cons.mp plain
    exact .plain first (ih rest)

/-- A text between quotes denotes itself exactly when it needs no escape. -/
theorem denotes_self_iff :
    Denotes separators body (unitsOf body) ↔ ∀ c ∈ body, IsPlain separators c := by
  constructor
  · intro denotes
    rcases denotes.plain_or_shorter with ⟨plain, _⟩ | shorter
    · exact plain
    · exact absurd shorter (Nat.lt_irrefl _)
  · exact denotes_of_plain

end Literal

/-! ### The import of the context type -/

namespace Policy

open Literal

variable {separators : Bool} {line more : List Char} {specifier : String} {p : Policy}

def Imports (separators : Bool) (line : List Char) (specifier : String) : Prop :=
  ∃ body, line = contextPrefix.toList ++ (body ++ "';".toList) ∧
    Denotes separators body (unitsOf specifier.toList)

def secondLine (text : String) : List Char := ((Text.splitOn '\n' text.toList)[1]?).getD []

/-- However much of the import of a module stands on a line, it is complete only if all of it does
and nothing in it has to be escaped. -/
theorem imports_iff (whole : (contextImport specifier).toList = line ++ more) :
    Imports separators line specifier ↔
      more = [] ∧ ∀ c ∈ specifier.toList, IsPlain separators c := by
  rw [toList_contextImport] at whole
  constructor
  · rintro ⟨body, rfl, denotes⟩
    have same : specifier.toList ++ "';".toList = body ++ ("';".toList ++ more) := by
      simpa using whole
    have lengths := congrArg (fun cs => (unitsOf cs).length) same
    simp only [unitsOf_append, List.length_append] at lengths
    have rest := length_le_unitsOf more
    have least := denotes.length_le
    have none : more = [] := List.eq_nil_of_length_eq_zero (by omega)
    subst none
    have same : specifier.toList = body := by simpa using same
    rw [← same] at denotes
    exact ⟨rfl, denotes_self_iff.mp denotes⟩
  · rintro ⟨rfl, plain⟩
    exact ⟨specifier.toList, by simpa using whole.symm, denotes_self_iff.mpr plain⟩

theorem head?_splitOn (cs : List Char) :
    (Text.splitOn '\n' cs).head? = some (cs.takeWhile fun c => c != '\n') := by
  induction cs with
  | nil => rfl
  | cons c cs ih =>
    rw [Text.splitOn]
    split
    · rename_i same
      simp [same]
    · rename_i other
      rw [List.takeWhile_cons_of_pos (by simpa using other)]
      cases cut : Text.splitOn '\n' cs with
      | nil => exact absurd cut (Text.splitOn_ne_nil '\n' cs)
      | cons piece pieces =>
        rw [cut] at ih
        exact congrArg (fun rest => some (c :: rest)) (Option.some.inj ih)

theorem secondLine_render (p : Policy) :
    secondLine p.render = (contextImport p.specifier).toList.takeWhile fun c => c != '\n' := by
  obtain ⟨rest, text⟩ : ∃ rest, p.render.toList =
      rulesImport.toList ++ '\n' :: ((contextImport p.specifier).toList ++ '\n' :: rest) := by
    simp only [render, lines, List.cons_append, List.map_cons, String.toList_join,
      String.toList_append, List.flatMap_cons, List.append_assoc]
    exact ⟨_, rfl⟩
  have head := head?_splitOn (contextImport p.specifier).toList
  rw [secondLine, text, Text.splitOn_append_cons, Text.splitOn_append_cons,
    Text.splitOn_of_not_mem newline_not_mem_rulesImport, List.singleton_append,
    List.getElem?_cons_succ, ← List.head?_eq_getElem?, List.head?_append, head]
  rfl

/-- The import in a policy is complete exactly when nothing in its specifier has to be escaped. -/
theorem imports_render_iff : Imports separators (secondLine p.render) p.specifier ↔
    ∀ c ∈ p.specifier.toList, IsPlain separators c := by
  rw [secondLine_render, imports_iff (List.takeWhile_append_dropWhile).symm]
  constructor
  · rintro ⟨-, plain⟩
    exact plain
  · intro plain
    refine ⟨?_, plain⟩
    apply List.dropWhile_eq_nil_iff.mpr
    intro c member
    rw [toList_contextImport, List.mem_append, List.mem_append] at member
    rw [bne_iff_ne]
    rcases member with before | inside | after
    · rintro rfl
      exact newline_not_mem_contextPrefix before
    · exact (plain c inside).feed
    · rintro rfl
      revert after
      decide

end Policy

end ShieldPolicy
