import ShieldPolicy.Integer64
import ShieldPolicy.Settings.Data
import ShieldPolicy.Text.Scan

/-!
# Numerals that stand alone

Words that a settings file may mean as numbers.
-/

namespace ShieldPolicy.Numeral

open Text Text.Scan

/-- A whole number of 64 bits in decimal digits, with a sign allowed before them. -/
def integer? (cs : List Char) : Option Int :=
  let (negative, digits) := match cs with
    | '-' :: rest => (true, rest)
    | '+' :: rest => (false, rest)
    | _ => (false, cs)
  if digits.isEmpty || !digits.all Char.isDigit then none
  else
    let n : Int := number 10 digits
    let i := if negative then -n else n
    if Integer64.fits i then some i else none

/-- The digits of a decimal number around its point, one of which has to be there. -/
def significand : Scan (List Char × List Char) := do
  let whole ← run Char.isDigit
  if ← accept '.' then
    let part ← run Char.isDigit
    if whole.isEmpty && part.isEmpty then failure
    return (whole, part)
  else if whole.isEmpty then failure
  else return (whole, [])

def power : Scan Int := do
  let _ ← oneOf fun c => c == 'e' || c == 'E'
  let negative ← accept '-'
  if !negative then
    let _ ← accept '+'
  let n : Int := number 10 (← run1 Char.isDigit)
  return if negative then -n else n

def magnitude (negative : Bool) : Scan Binary64 := do
  let (whole, part) ← significand
  let exponent := max (-20000) (min 20000 ((← maybe power).getD 0))
  return .ofDecimal negative (number 10 (whole ++ part)) (exponent - part.length)

/-- A decimal number, or one of the words for what no decimal is. -/
def real? (cs : List Char) : Option Binary64 :=
  let (negative, rest) := match cs with
    | '-' :: rest => (true, rest)
    | '+' :: rest => (false, rest)
    | _ => (false, cs)
  let word := String.ofList (rest.map Char.toLower)
  if word = "inf" ∨ word = "infinity" then some (.infinite negative)
  else if word = "nan" then some .nan
  else whole (magnitude negative) (String.ofList rest)

end ShieldPolicy.Numeral
