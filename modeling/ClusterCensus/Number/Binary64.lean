/-!
# Binary floating-point numbers

Binary floating-point numbers with a significand of 53 bits, as exact values: a sign, a natural
significand and a power of two. Rounding is to the nearest such number, a tie going to the even
significand, and is computed in natural numbers, so nothing here depends on hardware arithmetic.
-/

namespace ClusterCensus

/-- The number `± significand * 2 ^ exponent`. -/
structure Binary64 where
  negative : Bool
  significand : Nat
  exponent : Int
deriving DecidableEq, Repr

namespace Binary64

/-- The least exponent: below it numbers lose bits instead of shrinking. -/
def minExponent : Int := -1074

/-- The greatest exponent of a full significand. -/
def maxExponent : Int := 971

/-- The least significand of 53 bits. -/
def leastFull : Nat := 4503599627370496

/-- Zero with a sign. -/
def zero (negative : Bool) : Binary64 := ⟨negative, 0, 0⟩

instance : Inhabited Binary64 := ⟨zero false⟩

/-- The quotient of two natural numbers, rounded to the nearest, a tie to the even neighbour. -/
def divNearest (a b : Nat) : Nat :=
  let q := a / b
  let r := a % b
  if 2 * r > b ∨ (2 * r = b ∧ q % 2 = 1) then q + 1 else q

/-- Numerator and denominator of `num / den` divided by `base ^ shift`. -/
def scaleDown (base : Nat) (num den : Nat) (shift : Int) : Nat × Nat :=
  if 0 ≤ shift then (num, den * Nat.pow base shift.toNat)
  else (num * Nat.pow base (-shift).toNat, den)

/-- The power of two with `2 ^ p ≤ num / den < 2 ^ (p + 1)`. -/
def binade (num den : Nat) : Int :=
  let guess : Int := (Nat.log2 num : Int) - Nat.log2 den
  let (a, b) := scaleDown 2 num den guess
  if a < b then guess - 1 else guess

/-- The number nearest to `± num / den`, unless that is beyond the greatest one. -/
def ofRatio? (negative : Bool) (num den : Nat) : Option Binary64 :=
  if num = 0 then some (zero negative)
  else
    let exponent := max minExponent (binade num den - 52)
    let (a, b) := scaleDown 2 num den exponent
    let m := divNearest a b
    let (m, exponent) := if m = 2 * leastFull then (leastFull, exponent + 1) else (m, exponent)
    if m = 0 then some (zero negative)
    else if exponent > maxExponent then none
    else some ⟨negative, m, exponent⟩

/-- The number nearest to an integer of at most a thousand bits. -/
def ofInt (n : Int) : Binary64 :=
  (ofRatio? (n < 0) n.natAbs 1).getD (zero (n < 0))

/-- The value in multiples of `2 ^ exponent`, where `exponent` is at most the number's own. -/
def multiples (x : Binary64) (exponent : Int) : Int :=
  let n : Int := x.significand * Nat.pow 2 (x.exponent - exponent).toNat
  if x.negative then -n else n

/-- The number nearest to `n * 2 ^ exponent`, unless that is beyond the greatest one. -/
def ofMultiples? (n exponent : Int) : Option Binary64 :=
  ofRatio? (n < 0) (n.natAbs * Nat.pow 2 exponent.toNat) (Nat.pow 2 (-exponent).toNat)

/-- The sum of two numbers, rounded; a sum beyond the greatest number keeps the first one. -/
def add (x y : Binary64) : Binary64 :=
  let exponent := min x.exponent y.exponent
  (ofMultiples? (x.multiples exponent + y.multiples exponent) exponent).getD x

instance : Add Binary64 := ⟨add⟩

/-- The product of two numbers, rounded, unless that is beyond the greatest one. -/
def mul? (x y : Binary64) : Option Binary64 :=
  let exponent := x.exponent + y.exponent
  ofRatio? (x.negative != y.negative)
    (x.significand * y.significand * Nat.pow 2 exponent.toNat) (Nat.pow 2 (-exponent).toNat)

/-- The quotient of two numbers, rounded; a quotient beyond the greatest number keeps the first
one. -/
def div (x y : Binary64) : Binary64 :=
  let exponent := x.exponent - y.exponent
  (ofRatio? (x.negative != y.negative)
    (x.significand * Nat.pow 2 exponent.toNat)
    (y.significand * Nat.pow 2 (-exponent).toNat)).getD x

instance : Div Binary64 := ⟨div⟩

/-- The greatest power of ten that is a number. -/
def maxTens : Nat := 308

/-- The number nearest to a power of ten. -/
def tenTo (k : Nat) : Binary64 := ofInt (Nat.pow 10 k)

/-- A number divided by `10 ^ k`, rounded once for each power of ten that is a number itself. -/
def divTens (x : Binary64) (k : Nat) : Binary64 :=
  if k ≤ maxTens then x / tenTo k
  else if x.significand = 0 then x
  else divTens (x / tenTo maxTens) (k - maxTens)
termination_by k
decreasing_by have : maxTens = 308 := rfl; omega

/-- The number for `± digits * 10 ^ power`, unless that is beyond the greatest one. The digits are
rounded first, and then the product or quotient with the power of ten, so that the answer may be
a neighbour of the nearest number. -/
def ofDecimal? (negative : Bool) (digits : Nat) (power : Int) : Option Binary64 :=
  let x := ofInt digits
  let signed (x : Binary64) : Binary64 := ⟨negative, x.significand, x.exponent⟩
  if digits = 0 then some (zero negative)
  else if power < 0 then some (signed (x.divTens (-power).toNat))
  else if power ≤ maxTens then (x.mul? (tenTo power.toNat)).map signed
  else none

/-- Whether a number is at most `num / den`. -/
def atMost (x : Binary64) (num den : Nat) : Bool :=
  x.negative ||
    x.significand * Nat.pow 2 x.exponent.toNat * den ≤ num * Nat.pow 2 (-x.exponent).toNat

/-- The power of ten with `10 ^ p ≤ num / den < 10 ^ (p + 1)`. -/
def decade (num den : Nat) : Int :=
  let guess := (binade num den * 30103) / 100000
  let (a, b) := scaleDown 10 num den guess
  if a < b then guess - 1
  else
    let (a, b) := scaleDown 10 num den (guess + 1)
    if a < b then guess else guess + 1

/-- What a decimal text must fall into to read back as the number: four times the significand, the
two ends, whether the ends count, and the common denominator. -/
structure Interval where
  value : Nat
  low : Nat
  high : Nat
  den : Nat
  closed : Bool

/-- The decimals that round to a number other than zero. Below a power of two the next number is
only half as far as above it. -/
def interval (x : Binary64) : Interval :=
  let m := x.significand
  let below := if m = leastFull ∧ x.exponent > minExponent then 1 else 2
  let scale := Nat.pow 2 (x.exponent - 2).toNat
  { value := 4 * m * scale, low := (4 * m - below) * scale, high := (4 * m + 2) * scale,
    den := Nat.pow 2 (2 - x.exponent).toNat, closed := m % 2 = 0 }

/-- Whether `c * 10 ^ power` lies in the interval. -/
def Interval.holds (i : Interval) (c : Nat) (power : Int) : Bool :=
  let (low, den) := scaleDown 10 i.low i.den power
  let (high, _) := scaleDown 10 i.high i.den power
  if i.closed then low ≤ c * den && c * den ≤ high else low < c * den && c * den < high

/-- The neighbour of the value on the grid of multiples of `10 ^ power` that reads back, the nearer
one if both do. -/
def Interval.onGrid (i : Interval) (power : Int) : Option Nat :=
  let (value, den) := scaleDown 10 i.value i.den power
  let c := value / den
  match i.holds c power, i.holds (c + 1) power with
  | false, false => none
  | true, false => some c
  | false, true => some (c + 1)
  | true, true =>
    let below := value - c * den
    let above := (c + 1) * den - value
    some (if below < above ∨ (below = above ∧ c % 2 = 0) then c else c + 1)

/-- Drops zeros at the end of a decimal, keeping its value. -/
def trimZeros : Nat → Nat → Int → Nat × Int
  | 0, c, power => (c, power)
  | fuel + 1, c, power =>
    if c ≠ 0 ∧ c % 10 = 0 then trimZeros fuel (c / 10) (power + 1) else (c, power)

/-- The first grid, from the given number of digits on, that has a decimal in the interval. -/
def Interval.search (i : Interval) (top : Int) : Nat → Nat → Nat × Int
  | 0, _ => (0, 0)
  | tries + 1, digits =>
    let power := top + 1 - digits
    match i.onGrid power with
    | some c => trimZeros 20 c power
    | none => i.search top tries (digits + 1)

/-- The decimal with the fewest digits that rounds to the number, of these the nearest: a
coefficient and a power of ten. Seventeen digits are always enough. -/
def shortest (x : Binary64) : Nat × Int :=
  if x.significand = 0 then (0, 0)
  else
    let i := x.interval
    i.search (decade i.value i.den) 17 1

/-- The decimal digits of a natural number. -/
def digitsOf (n : Nat) : List Char := Nat.toDigits 10 n

/-- The shortest decimal in positional notation, and whether it has digits after the point. -/
def positional (c : Nat) (power : Int) : List Char × List Char :=
  let ds := digitsOf c
  if 0 ≤ power then (ds ++ List.replicate power.toNat '0', [])
  else
    let k := (-power).toNat
    if k < ds.length then (ds.take (ds.length - k), ds.drop (ds.length - k))
    else (['0'], List.replicate (k - ds.length) '0' ++ ds)

/-- The sign in front of a text. -/
def signed (x : Binary64) (text : List Char) : String :=
  String.ofList (if x.negative then '-' :: text else text)

/-- The text without an exponent, and without a point if the number is whole. -/
def plainText (x : Binary64) : String :=
  let (c, power) := x.shortest
  let (whole, part) := positional c power
  x.signed (if part = [] then whole else whole ++ '.' :: part)

/-- The exponent of the scientific notation always has a sign. -/
def exponentText (e : Int) : List Char :=
  'e' :: (if e < 0 then '-' else '+') :: digitsOf e.natAbs

/-- The text in a record: positional, with at least one digit after the point, for magnitudes from
`10 ^ -5` to below `10 ^ 16`, else scientific. -/
def recordText (x : Binary64) : String :=
  let (c, power) := x.shortest
  let ds := digitsOf c
  let e := power + (ds.length : Int) - 1
  if -5 ≤ e ∧ e ≤ 15 then
    let (whole, part) := positional c power
    x.signed (whole ++ '.' :: (if part = [] then ['0'] else part))
  else
    x.signed ((match ds with
      | [d] => [d]
      | d :: rest => d :: '.' :: rest
      | [] => []) ++ exponentText e)

end Binary64

end ClusterCensus
