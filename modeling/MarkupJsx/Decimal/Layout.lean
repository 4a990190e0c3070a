import MarkupJsx.Decimal.Shortest

/-!
# Writing decimals

The same digits are written in two formats.  In JSON text a double always shows that it is one
(`1.0`, `1e+21`), and it is written without an exponent while its first digit stands between the
fifth place after the point and the sixteenth before it.  In the value of an attribute a whole
number has no point (`1`), negative zero loses its sign, and whether an exponent is written
depends on the number itself: it is for magnitudes below a millionth and from `10 ^ 21` on.

Both are made of two layouts of a digit string, `positional` and `scientific`.
-/

namespace MarkupJsx
namespace Decimal

/-- The digits of a decimal, as characters. -/
def digitChars (d : Decimal) : List Char :=
  Nat.toDigits 10 d.digits

/-- Where the point stands: the number of digits before it, negative if zeros follow it. -/
def point (d : Decimal) : Int :=
  d.digitChars.length + d.exponent

/-- A row of zeros. -/
def zeros (count : Nat) : List Char :=
  List.replicate count '0'

/-- Digits with a point after the first `place` of them, filled up with zeros.  A whole number
gets no point. -/
def positional (digits : List Char) (place : Int) : List Char :=
  if place ≤ 0 then '0' :: '.' :: (zeros (-place).toNat ++ digits)
  else if digits.length ≤ place.toNat then digits ++ zeros (place.toNat - digits.length)
  else digits.take place.toNat ++ '.' :: digits.drop place.toNat

/-- Digits with a point after the first one, and an exponent that always shows its sign. -/
def scientific (digits : List Char) (exponent : Int) : List Char :=
  let mantissa :=
    match digits with
    | first :: second :: rest => first :: '.' :: second :: rest
    | short => short
  let sign := if exponent < 0 then '-' else '+'
  mantissa ++ 'e' :: sign :: Nat.toDigits 10 exponent.natAbs

/-- A minus sign where one is due. -/
def withSign (negative : Bool) (text : List Char) : List Char :=
  if negative then '-' :: text else text

end Decimal

namespace Binary64
open Decimal

/-- A double as JSON text.  What is not finite has no JSON text and becomes `null`. -/
def toJsonText : Binary64 → List Char
  | nan | infinite _ => ['n', 'u', 'l', 'l']
  | finite negative magnitude =>
    withSign negative <|
      if magnitude.significand = 0 then ['0', '.', '0']
      else
        let decimal := shortest .toEven magnitude
        let digits := decimal.digitChars
        let exponent := decimal.point - 1
        if -5 ≤ exponent ∧ exponent < 16 then
          let text := positional digits decimal.point
          if digits.length ≤ decimal.point then text ++ ['.', '0'] else text
        else scientific digits exponent

/-- The units of the double nearest to a millionth, the least magnitude that an attribute writes
without an exponent. -/
def attributeLow : Nat :=
  0x10C6F7A0B5ED8D * Nat.pow 2 1002

/-- The units of `10 ^ 21`, the least magnitude above these that an attribute writes with one. -/
def attributeHigh : Nat :=
  Nat.pow 10 21 * Nat.pow 2 1074

/-- A double as the value of an attribute. -/
def toAttributeText : Binary64 → List Char
  | nan => "NaN".toList
  | infinite negative => withSign negative "Infinity".toList
  | finite negative magnitude =>
    if magnitude.significand = 0 then ['0']
    else
      let decimal := shortest .up magnitude
      withSign negative <|
        if attributeLow ≤ magnitude.units ∧ magnitude.units < attributeHigh then
          positional decimal.digitChars decimal.point
        else scientific decimal.digitChars (decimal.point - 1)

end Binary64
end MarkupJsx
