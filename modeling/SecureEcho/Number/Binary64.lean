namespace SecureEcho

-- The number `mantissa * 2 ^ exponent`, with the sign kept apart so that zero has one too.
structure Binary64 where
  negative : Bool
  mantissa : Nat
  exponent : Int
deriving DecidableEq, Repr

namespace Binary64

def leastExponent : Int := -1074

-- `numerator / denominator` to the nearest integer; a half goes to the even neighbour.
def roundDiv (numerator denominator : Nat) : Nat :=
  let quotient := numerator / denominator
  let twice := 2 * (numerator % denominator)
  if twice < denominator || twice == denominator && quotient % 2 == 0 then quotient else quotient + 1

def scaled (numerator denominator : Nat) (exponent : Int) : Nat × Nat :=
  if exponent ≥ 0 then (numerator, denominator * Nat.pow 2 exponent.toNat)
  else (numerator * Nat.pow 2 (-exponent).toNat, denominator)

def nearest? (numerator denominator : Nat) : Option (Nat × Int) :=
  let guess : Int := (numerator.log2 : Int) - (denominator.log2 : Int) - 52
  let (top, bottom) := scaled numerator denominator guess
  let exponent := if top / bottom < Nat.pow 2 52 then guess - 1 else guess
  let exponent := max exponent leastExponent
  let (top, bottom) := scaled numerator denominator exponent
  let mantissa := roundDiv top bottom
  let (mantissa, exponent) :=
    if mantissa = Nat.pow 2 53 then (Nat.pow 2 52, exponent + 1) else (mantissa, exponent)
  if exponent > 971 then none else some (mantissa, exponent)

def ofDecimal? (negative : Bool) (digits : Nat) (power : Int) : Option Binary64 :=
  let order : Int := (Nat.toDigits 10 digits).length + power
  if digits = 0 || order < -400 then some ⟨negative, 0, leastExponent⟩
  else if order > 400 then none
  else
    let ratio :=
      if power ≥ 0 then (digits * Nat.pow 10 power.toNat, 1)
      else (digits, Nat.pow 10 (-power).toNat)
    (nearest? ratio.1 ratio.2).map fun (mantissa, exponent) => ⟨negative, mantissa, exponent⟩

-- The two multiples of `10 ^ power` around a positive number that is `value / 4` units of
-- `2 ^ exponent`, each with whether it reads back, the nearer first; halfway, the larger is first.
def candidates (mantissa : Nat) (exponent power : Int) : List (Nat × Bool) :=
  -- Everything is counted in a unit that divides both grids: quarters of the binary one.
  let binary := if exponent ≥ 0 then Nat.pow 2 exponent.toNat else 1
  let decimal := if power ≥ 0 then 4 * Nat.pow 10 power.toNat else 4
  let binary := if power ≥ 0 then binary else binary * Nat.pow 10 (-power).toNat
  let decimal := if exponent ≥ 0 then decimal else decimal * Nat.pow 2 (-exponent).toNat
  let value := 4 * mantissa * binary
  let below := if mantissa = Nat.pow 2 52 && exponent > leastExponent then binary else 2 * binary
  let above := 2 * binary
  let floor := value / decimal
  let readsBack (multiple : Nat) : Bool :=
    let point := multiple * decimal
    if mantissa % 2 = 0 then value ≤ point + below && point ≤ value + above
    else value < point + below && point < value + above
  let low := (floor, readsBack floor)
  let high := (floor + 1, readsBack (floor + 1))
  if 2 * (value - floor * decimal) < decimal then [low, high] else [high, low]

def shortestFrom (mantissa : Nat) (exponent power : Int) : (left : Nat) → Nat × Int
  | 0 => (mantissa, power)
  | left + 1 =>
    match (candidates mantissa exponent power).find? fun candidate => candidate.2 && candidate.1 ≠ 0 with
    | some (digits, _) => (digits, power)
    | none => shortestFrom mantissa exponent (power - 1) left

-- The fewest digits that read back to a positive number, with the power of ten they count.
def shortest (mantissa : Nat) (exponent : Int) : Nat × Int :=
  -- No number of the format exceeds 10 ^ 309, and 17 digits always suffice.
  let size : Int := (mantissa.log2 + 1 : Int) + exponent
  let power := size * 30103 / 100000 + 1
  shortestFrom mantissa exponent power 20

def text (number : Binary64) : String :=
  let sign := if number.negative then "-" else ""
  if number.mantissa = 0 then sign ++ "0.0"
  else
    let (digits, power) := shortest number.mantissa number.exponent
    let digits := Nat.toDigits 10 digits
    if power ≥ 0 then sign ++ String.ofList (digits ++ List.replicate power.toNat '0') ++ ".0"
    else
      let places := (-power).toNat
      let padded := List.replicate (places + 1 - digits.length) '0' ++ digits
      let cut := padded.length - places
      sign ++ String.ofList (padded.take cut) ++ "." ++ String.ofList (padded.drop cut)

end Binary64

end SecureEcho
