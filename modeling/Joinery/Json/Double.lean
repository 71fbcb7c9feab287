/-!
# Floating-point numbers

The numbers that a double-precision float can hold, apart from their sign, with exact arithmetic on
naturals. `round` gives the nearest of them, `Double.shown` the shortest decimal number that is
nearer to it than to any other.
-/

namespace Joinery.Json

/-- The number `mantissa * 2 ^ exponent`. -/
structure Double where
  mantissa : Nat
  exponent : Int
  deriving DecidableEq

namespace Double

def zero : Double := ⟨0, 0⟩

/-- The least exponent. -/
def minExponent : Int := -1074

/-- Mantissas are below this. -/
def mantissaBound : Nat := Nat.pow 2 53

/-- The ratio multiplied by a power of a base, as a numerator and a denominator. -/
def scale (base num den : Nat) (e : Int) : Nat × Nat :=
  if 0 ≤ e then (num * base.pow e.toNat, den) else (num, den * base.pow (-e).toNat)

/-- The natural number nearest to a ratio, the even one of two. -/
def nearest (num den : Nat) : Nat :=
  let q := num / den
  let twice := 2 * (num % den)
  if twice < den ∨ (twice = den ∧ q % 2 = 0) then q else q + 1

/-- The exponent at which a ratio has as many digits as a mantissa can have. -/
def exponentFor (num den : Nat) : Int :=
  let guess : Int := max ((num.log2 : Int) - den.log2 - 53) minExponent
  let (n, d) := scale 2 num den (-guess)
  if n / d < mantissaBound then guess else guess + 1

/-- The number nearest to a ratio; nothing if that is too large. -/
def round? (num den : Nat) : Option Double :=
  if num = 0 then some zero
  else
    let e := exponentFor num den
    let (n, d) := scale 2 num den (-e)
    let m := nearest n d
    if 971 < e ∨ (e = 971 ∧ mantissaBound ≤ m) then none
    else if mantissaBound ≤ m then some ⟨m / 2, e + 1⟩
    else some ⟨m, e⟩

/-- The ratio that a number is. -/
def ratio (x : Double) : Nat × Nat :=
  scale 2 x.mantissa 1 x.exponent

/-- The product with a ratio. -/
def times? (x : Double) (num den : Nat) : Option Double :=
  round? (x.ratio.1 * num) (x.ratio.2 * den)

/-- The product with a power of ten, where the power is a number of the same kind itself. -/
def timesPower? (x : Double) (n : Nat) : Option Double := do
  let power ← round? (Nat.pow 10 n) 1
  x.times? power.ratio.1 power.ratio.2

/-- The quotient by a power of ten. -/
def overPower? (x : Double) (n : Nat) : Option Double := do
  let power ← round? (Nat.pow 10 n) 1
  x.times? power.ratio.2 power.ratio.1

/-- The largest power of ten that is not too large, by its exponent. -/
def maxPower : Nat := 308

/-- A number with digits and a power of ten: the digits are rounded first, then the product is.
Nothing if the number is too large. -/
def ofDecimal? (digits : Nat) (power : Int) : Option Double :=
  if digits = 0 then some zero
  else do
    let x ← round? digits 1
    if 0 ≤ power then
      if power ≤ maxPower then x.timesPower? power.toNat else none
    else if -power ≤ maxPower then x.overPower? (-power).toNat
    else
      let rest := (-power).toNat - maxPower
      let x ← x.overPower? maxPower
      if rest ≤ maxPower then x.overPower? rest else return zero

/-! ## Showing -/

/-- A ratio is nearer to a number than to the ones beside it; one halfway goes to an even mantissa. -/
def isNearest (x : Double) (num den : Nat) : Bool :=
  let m := x.mantissa
  let quarters := scale 2 num den (2 - x.exponent)
  let below := if m = mantissaBound / 2 ∧ minExponent < x.exponent then 4 * m - 1 else 4 * m - 2
  let above := 4 * m + 2
  let low := below * quarters.2
  let high := above * quarters.2
  if m % 2 = 0 then low ≤ quarters.1 && quarters.1 ≤ high
  else low < quarters.1 && quarters.1 < high

/-- The power of ten of the first digit of a ratio that is not zero. -/
def leadingPower (num den : Nat) : Int :=
  let guess : Int := ((Nat.toDigits 10 num).length : Int) - (Nat.toDigits 10 den).length
  let (n, d) := scale 10 num den (-guess)
  if d ≤ n then guess else guess - 1

/-- Some digits and the power of ten of the last of them. -/
def digitsAt? (x : Double) (count : Nat) : Option (Nat × Int) :=
  let (num, den) := x.ratio
  let power := leadingPower num den - (count - 1 : Int)
  let (n, d) := scale 10 num den (-power)
  let below := n / d
  let fits := fun k =>
    let (a, b) := scale 10 k 1 power
    x.isNearest a b
  let nearer := nearest n d
  let other := if nearer = below then below + 1 else below
  if fits nearer then some (nearer, power)
  else if fits other then some (other, power)
  else none

/-- The fewest digits that stand for a number and for none beside it. Rounding up can leave a zero at
their end, which is not needed. -/
def digits (x : Double) : Nat × Int :=
  let (n, power) := ((List.range 17).findSome? fun n => x.digitsAt? (n + 1)).getD (0, 0)
  if n % 10 = 0 then (n / 10, power + 1) else (n, power)

/-- A number without its sign in the usual form, or with an exponent if it is very large or small. -/
def shown (x : Double) : String :=
  if x.mantissa = 0 then "0.0"
  else
    let (n, power) := x.digits
    let ds := Nat.toDigits 10 n
    let point : Int := ds.length + power
    let zeros := fun (n : Int) => List.replicate n.toNat '0'
    let shape :=
      if 0 ≤ power ∧ point ≤ 16 then ds ++ zeros power ++ ['.', '0']
      else if 0 < point ∧ point ≤ 16 then ds.take point.toNat ++ '.' :: ds.drop point.toNat
      else if -5 < point ∧ point ≤ 0 then '0' :: '.' :: zeros (-point) ++ ds
      else
        let first := if ds.length = 1 then ds else ds.take 1 ++ '.' :: ds.drop 1
        first ++ 'e' :: (toString (point - 1)).toList
    String.ofList shape

end Double

end Joinery.Json
