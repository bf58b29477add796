/-!
# Numbers of the format binary64

A finite number is `± mantissa · 2 ^ exponent` with a mantissa below `2 ^ 53`, kept exactly. All
arithmetic is exact arithmetic on natural numbers followed by one rounding, `ofRatio`, to the
nearest number of the format, a tie going to the even mantissa.
-/

namespace ShieldPolicy

inductive Binary64 where
  | finite (negative : Bool) (mantissa : Nat) (exponent : Int)
  | infinite (negative : Bool)
  | nan
deriving DecidableEq, Inhabited

namespace Binary64

def leastExponent : Int := -1074

def greatestExponent : Int := 971

def zero (negative : Bool) : Binary64 := .finite negative 0 leastExponent

/-- `m · 2 ^ e` as a quotient of natural numbers. -/
def scaled (m : Nat) (e : Int) : Nat × Nat :=
  if 0 ≤ e then (m * Nat.pow 2 e.toNat, 1) else (m, Nat.pow 2 (-e).toNat)

/-- The natural number nearest to a quotient, a tie going to the even one. -/
def roundDiv (num den : Nat) : Nat :=
  let q := num / den
  let r := num % den
  if 2 * r < den then q
  else if den < 2 * r then q + 1
  else if q % 2 = 0 then q else q + 1

def inUnits (num den : Nat) (e : Int) : Nat × Nat :=
  if 0 ≤ e then (num, den * Nat.pow 2 e.toNat) else (num * Nat.pow 2 (-e).toNat, den)

/-- The unit in which a positive quotient has a mantissa of 53 bits. -/
def unitOf (num den : Nat) : Int :=
  let guess : Int := (num.log2 : Int) - den.log2 - 52
  let (n, d) := inUnits num den guess
  max leastExponent (if n / d < Nat.pow 2 52 then guess - 1 else guess)

/-- The number nearest to `num / den`, a tie going to the even mantissa. -/
def ofRatio (negative : Bool) (num den : Nat) : Binary64 :=
  if num = 0 then zero negative else
  let e := unitOf num den
  let (n, d) := inUnits num den e
  let m := roundDiv n d
  let (m, e) := if m = Nat.pow 2 53 then (Nat.pow 2 52, e + 1) else (m, e)
  if greatestExponent < e then .infinite negative else .finite negative m e

def ofNat (negative : Bool) (n : Nat) : Binary64 := ofRatio negative n 1

def powerOfTen (k : Nat) : Binary64 := ofNat false (Nat.pow 10 k)

def ofDecimal (negative : Bool) (significand : Nat) (exponent : Int) : Binary64 :=
  if 0 ≤ exponent then ofNat negative (significand * Nat.pow 10 exponent.toNat)
  else ofRatio negative significand (Nat.pow 10 (-exponent).toNat)

def isZero : Binary64 → Bool
  | .finite _ m _ => m == 0
  | _ => false

def isInfinite : Binary64 → Bool
  | .infinite _ => true
  | _ => false

def mulMagnitude : Binary64 → Binary64 → Binary64
  | .finite s m e, .finite _ m' e' =>
    let (n, d) := scaled (m * m') (e + e')
    ofRatio s n d
  | x, _ => x

def divMagnitude : Binary64 → Binary64 → Binary64
  | .finite s m e, .finite _ m' e' =>
    let (n, d) := scaled m (e - e')
    ofRatio s n (d * m')
  | x, _ => x

def neg : Binary64 → Binary64
  | .finite s m e => .finite (!s) m e
  | .infinite s => .infinite (!s)
  | .nan => .nan

end Binary64

end ShieldPolicy
