/-!
# Binary64: double precision numbers as exact values

A double is not a number, an infinity, or a sign with an exact magnitude
`significand * 2 ^ scale`, counted in units of `2 ^ (-1074)`, the smallest positive double.
Every question asked of a double in this library (which of two is larger, which decimals read
back as it) is a question about that integer, so nothing here rests on machine arithmetic.

* `Magnitude`: the canonical finite magnitudes, one for each nonnegative finite double.
* `Binary64.ofBits`: the double with a given bit pattern.
* `Magnitude.ofRatio?`: the magnitude nearest to a ratio, a tie going to the even significand.
* `Binary64.compare?`: the order, under which not-a-number compares with nothing and the two
  zeros are equal.
-/

namespace MarkupJsx

/-- A finite magnitude `significand * 2 ^ scale`, in units of `2 ^ (-1074)`, written in the one
canonical way: with 53 bits where it is large enough for that, and with scale zero otherwise.
The bounds are `2 ^ 52` and `2 ^ 53`. -/
structure Magnitude where
  significand : Nat
  scale : Nat
  significand_lt : significand < 0x20000000000000
  canonical : scale = 0 ∨ 0x10000000000000 ≤ significand
  scale_le : scale ≤ 2045
  deriving DecidableEq

namespace Magnitude

/-- The magnitude as an integer number of units of `2 ^ (-1074)`. -/
def units (m : Magnitude) : Nat :=
  m.significand * Nat.pow 2 m.scale

/-- Zero. -/
def zero : Magnitude := ⟨0, 0, by decide, Or.inl rfl, by decide⟩

@[simp] theorem units_zero : zero.units = 0 := by simp [units, zero]

instance : Inhabited Magnitude := ⟨zero⟩

/-- The magnitude with the given parts, where they are canonical and in range. -/
def ofParts? (significand scale : Nat) : Option Magnitude :=
  if h : significand < 0x20000000000000 ∧ (scale = 0 ∨ 0x10000000000000 ≤ significand) ∧
      scale ≤ 2045 then
    some ⟨significand, scale, h.1, h.2.1, h.2.2⟩
  else
    none

/-- The integer nearest to `num / den`, the even one of two that are equally near. -/
def divHalfEven (num den : Nat) : Nat :=
  let quotient := num / den
  let rest := num % den
  if 2 * rest < den then quotient
  else if den < 2 * rest then quotient + 1
  else quotient + quotient % 2

/-- A ratio of integers that divides evenly is not rounded. -/
theorem divHalfEven_mul_self (quotient den : Nat) (h : 0 < den) :
    divHalfEven (quotient * den) den = quotient := by
  simp [divHalfEven, Nat.mul_div_cancel _ h, h]

/-- The magnitude nearest to `num / den`, none where it lies beyond the largest one.

The scale is chosen from the size of the ratio so that the rounded significand has at most 53
bits; only rounding up to `2 ^ 53` itself makes the scale grow once more. -/
def ofRatio? (num den : Nat) : Option Magnitude :=
  let scaled := num * Nat.pow 2 1074
  let scale := Nat.log2 (scaled / den) - 52
  let significand := divHalfEven scaled (den * Nat.pow 2 scale)
  if significand = 0x20000000000000 then ofParts? 0x10000000000000 (scale + 1)
  else ofParts? significand scale

end Magnitude

/-- A double precision number.  The bits of a not-a-number carry nothing that is kept. -/
inductive Binary64 where
  | nan
  | infinite (negative : Bool)
  | finite (negative : Bool) (magnitude : Magnitude)
  deriving DecidableEq, Inhabited

namespace Binary64

/-- The double with a bit pattern: a sign bit, eleven bits of exponent, 52 of significand. -/
def ofBits (bits : Nat) : Binary64 :=
  let negative := bits / 0x8000000000000000 % 2 = 1
  let exponent := bits / 0x10000000000000 % 0x800
  let fraction := bits % 0x10000000000000
  if exponent = 2047 then
    if fraction = 0 then infinite negative else nan
  else
    let significand := if exponent = 0 then fraction else 0x10000000000000 + fraction
    match Magnitude.ofParts? significand (exponent - 1) with
    | some magnitude => finite negative magnitude
    | none => infinite negative

/-- The double nearest to `num / den` with a sign; infinite where it is too large. -/
def ofRatio (negative : Bool) (num den : Nat) : Binary64 :=
  ((Magnitude.ofRatio? num den).map (finite negative)).getD (infinite negative)

theorem ofRatio_of_some {num den : Nat} {magnitude : Magnitude} (negative : Bool)
    (h : Magnitude.ofRatio? num den = some magnitude) :
    ofRatio negative num den = finite negative magnitude := by
  rw [ofRatio, h]
  rfl

/-- The double nearest to an integer; zero is the positive zero. -/
def ofInt (value : Int) : Binary64 :=
  ofRatio (decide (value < 0)) value.natAbs 1

/-- The double nearest to a natural number. -/
def ofNat (value : Nat) : Binary64 :=
  ofInt value

theorem ofNat_eq_ofRatio (value : Nat) : ofNat value = ofRatio false value 1 := by
  rw [ofNat, ofInt, decide_eq_false (Int.not_lt.2 (Int.natCast_nonneg value)), Int.natAbs_natCast]

/-- The double nearest to `digits * 10 ^ exponent` with a sign.

A power of ten far outside the range of doubles is never computed: with the number of digits
known, such a decimal is already beyond the largest double or below half of the smallest. -/
def ofDecimal (negative : Bool) (digits : Nat) (exponent : Int) : Binary64 :=
  let size : Int := (Nat.toDigits 10 digits).length + exponent
  if digits = 0 ∨ size < -400 then finite negative Magnitude.zero
  else if 400 < size then infinite negative
  else if 0 ≤ exponent then ofRatio negative (digits * Nat.pow 10 exponent.toNat) 1
  else ofRatio negative digits (Nat.pow 10 (-exponent).toNat)

/-- Whether a number is zero, of either sign. -/
def isZero : Binary64 → Bool
  | finite _ magnitude => magnitude.significand = 0
  | _ => false

/-- Whether this is not a number. -/
def isNan : Binary64 → Bool
  | nan => true
  | _ => false

/-- Whether this is a number with a finite value. -/
def isFinite : Binary64 → Bool
  | finite _ _ => true
  | _ => false

/-- Puts a sign in front of a count of units. -/
def signed (negative : Bool) (units : Nat) : Int :=
  if negative then -units else units

/-- The place of a number in the order: its units, and beyond all of them for an infinity.
There is no place for not-a-number. -/
def rank? : Binary64 → Option Int
  | nan => none
  | infinite negative => some (signed negative (Nat.pow 2 2098))
  | finite negative magnitude => some (signed negative magnitude.units)

/-- How two numbers compare; not-a-number compares with nothing. -/
def compare? (x y : Binary64) : Option Ordering := do
  let left ← x.rank?
  let right ← y.rank?
  some (compare left right)

/-- Whether one number is strictly below another. -/
def lt (x y : Binary64) : Bool :=
  compare? x y = some .lt

end Binary64
end MarkupJsx
