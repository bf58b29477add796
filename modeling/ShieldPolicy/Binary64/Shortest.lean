import ShieldPolicy.Binary64

/-!
# Shortest decimal text

The decimal text of a binary64 number has the fewest digits that read back as the same number, and
among those the digits nearest to it. A `Layout` then decides where positional notation ends.
-/

namespace ShieldPolicy.Binary64

def leadingExponent (num den : Nat) : Int :=
  if den ≤ num then (((Nat.toDigits 10 (num / den)).length - 1 : Nat) : Int)
  else -((Nat.toDigits 10 ((den - 1) / num)).length : Int)

/-- The reals that read back as `m · 2 ^ e`, in units of `2 ^ (e - 2)`: lower end, upper end, and
whether the ends belong to them. -/
def readBack (m : Nat) (e : Int) : Nat × Nat × Bool :=
  (if m = Nat.pow 2 52 ∧ leastExponent < e then 4 * m - 1 else 4 * m - 2, 4 * m + 2, m % 2 == 0)

/-- Looks for a multiple of `10 ^ step` that reads back as `m · 2 ^ e`: the neighbours of the
number on that grid are tried, the nearer one first. -/
def gridPoint? (m : Nat) (e step : Int) : Option Nat :=
  -- The grid in units of `2 ^ (e - 2)`, as a quotient.
  let (gridNum, gridDen) :=
    let (p, q) := scaled 1 (2 - e)
    if 0 ≤ step then (p * Nat.pow 10 step.toNat, q) else (p, q * Nat.pow 10 (-step).toNat)
  let below := 4 * m * gridDen / gridNum
  let rest := 4 * m * gridDen % gridNum
  let (lo, hi, closed) := readBack m e
  let reads (k : Nat) : Bool :=
    let v := k * gridNum
    if closed then lo * gridDen ≤ v && v ≤ hi * gridDen else lo * gridDen < v && v < hi * gridDen
  let first := if 2 * rest < gridNum || (2 * rest == gridNum && below % 2 == 0) then below
    else below + 1
  let second := if first == below then below + 1 else below
  if reads first && first != 0 then some first
  else if reads second && second != 0 then some second
  else none

def shortestFrom (m : Nat) (e lead : Int) : Nat → Nat → Nat × Int
  | _, 0 => (m, 0)
  | digits, fuel + 1 =>
    let step := lead + 1 - digits
    match gridPoint? m e step with
    | some k => (k, step)
    | none => shortestFrom m e lead (digits + 1) fuel

def dropZeros : Nat → Nat → Int → Nat × Int
  | 0, k, step => (k, step)
  | fuel + 1, k, step =>
    if k % 10 = 0 ∧ k ≠ 0 then dropZeros fuel (k / 10) (step + 1) else (k, step)

/-- The shortest digits that read back and the power of ten of the last one. Seventeen digits
always suffice. -/
def shortest (m : Nat) (e : Int) : Nat × Int :=
  if m = 0 then (0, 0) else
  let (num, den) := scaled m e
  let (k, step) := shortestFrom m e (leadingExponent num den) 1 18
  dropZeros 20 k step

structure Layout where
  /-- The exponents of the first digit that are written positionally; none for all of them. -/
  positional : Option (Int × Int)
  wholePoint : Bool

/-- As a value of a JSON text. -/
def Layout.json : Layout := ⟨some (-5, 15), true⟩

/-- As a text that stands for itself. -/
def Layout.plain : Layout := ⟨none, false⟩

/-- As a number shown in a message. -/
def Layout.shown : Layout := ⟨none, true⟩

def exponentText (e : Int) : String :=
  (if e < 0 then "e-" else "e+") ++ toString e.natAbs

def Layout.write (layout : Layout) (k : Nat) (step : Int) : String :=
  let digits := Nat.toDigits 10 k
  let count : Int := digits.length
  let lead := step + count - 1
  let isPositional := match layout.positional with
    | none => true
    | some (low, high) => decide (low ≤ lead) && decide (lead ≤ high)
  if isPositional then
    if 0 ≤ step then
      String.ofList (digits ++ List.replicate step.toNat '0') ++
        (if layout.wholePoint then ".0" else "")
    else if 0 ≤ lead then
      let whole := (lead + 1).toNat
      String.ofList (digits.take whole) ++ "." ++ String.ofList (digits.drop whole)
    else
      "0." ++ String.ofList (List.replicate ((-lead).toNat - 1) '0' ++ digits)
  else
    let rest := digits.drop 1
    String.ofList (digits.take 1) ++
      (if rest.isEmpty then "" else "." ++ String.ofList rest) ++ exponentText lead

def write (layout : Layout) : Binary64 → String
  | .finite negative m e =>
    let (k, step) := shortest m e
    (if negative then "-" else "") ++ layout.write k step
  | .infinite negative => if negative then "-inf" else "inf"
  | .nan => "NaN"

end ShieldPolicy.Binary64
