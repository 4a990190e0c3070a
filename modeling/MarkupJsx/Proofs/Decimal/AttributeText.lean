import MarkupJsx.Proofs.Decimal.Numeral
import MarkupJsx.Proofs.Decimal.Shortest
import MarkupJsx.Tree.Value

/-!
# Numbers as attribute text

In the text of an attribute, where the point stands decides how a number is laid out: `layout` has
the four ways to write `0.d₁⋯dₖ * 10 ^ n`, chosen by `k` and `n`.  The text is made otherwise.  It
compares the number with two bounds, `10 ^ 21` and the double nearest to a millionth, and then takes
one of two layouts for the digits.

That both come to the same is a matter of numbers near the bounds.  The shortest decimals of two
doubles are in the same order as the doubles (`Interval.lt_of_contains`), and the shortest decimals
of the two bounds are powers of ten.  So a double is below a bound exactly if its shortest decimal
is below that power of ten, and this is what the place of the point says (`units_le_iff_lt_point`).
-/

namespace MarkupJsx

theorem Magnitude.eq_zero_of_significand (m : Magnitude) (h : m.significand = 0) : m = zero := by
  have hscale : m.scale = 0 := m.canonical.resolve_right (by omega)
  cases m
  subst h hscale
  rfl

namespace Decimal

variable {m n : Magnitude} {d : Decimal}

/-! ## Shortest decimals in order -/

/-- What is in the interval of a magnitude is less than what is in that of a greater one. -/
theorem Interval.lt_of_contains {x y : ℚ} (h : m.units < n.units) (hx : (of m).Contains x)
    (hy : (of n).Contains y) : x < y := by
  have hden : (0 : ℚ) < den := Nat.cast_pos.2 den_pos
  have hends : ((of m).high : ℚ) ≤ (of n).low := Nat.cast_le.2 (high_le_low_of_units_lt h).1
  have hle : x ≤ y := le_of_mul_le_mul_right (hx.le.2.trans (hends.trans hy.le.1)) hden
  refine lt_of_le_of_ne hle ?_
  rintro rfl
  exact not_contains_of_units_lt h hx hy

/-- A decimal reaches a power of ten exactly if its point stands behind that place. -/
theorem pow_le_value_iff (h : d.digits ≠ 0) (e : Int) : (10 : ℚ) ^ e ≤ d.value ↔ e < d.point := by
  obtain ⟨hlow, hhigh⟩ := mul_zpow_bounds h d.exponent
  constructor
  · intro hle
    exact (zpow_lt_zpow_iff_right₀ (by norm_num)).1 (hle.trans_lt hhigh)
  · intro hlt
    exact (zpow_le_zpow_right₀ (by norm_num) (Int.le_sub_one_of_lt hlt)).trans hlow

/-- If a magnitude is written as a power of ten, then the greater ones are those whose points stand
behind that place: no magnitude is on another side of it than its shortest decimal. -/
theorem units_le_iff_lt_point {tie : Tie} {e : Int} (hn : n.significand ≠ 0)
    (hpower : shortest tie n = ⟨1, e⟩) (hm : m.significand ≠ 0) :
    n.units ≤ m.units ↔ e < (shortest tie m).point := by
  have hreads := (isShortest_shortest hm tie).readsAs
  have hin := (readsAs_iff hm).1 hreads
  have hin' := (readsAs_iff hn).1 (isShortest_shortest hn tie).readsAs
  have hvalue : (⟨1, e⟩ : Decimal).value = 10 ^ e := by
    rw [value, Nat.cast_one, one_mul]
  rw [hpower, hvalue] at hin'
  rw [← pow_le_value_iff (digits_ne_zero_of_readsAs hm hreads)]
  rcases Nat.lt_trichotomy n.units m.units with hlt | heq | hgt
  · exact iff_of_true hlt.le (Interval.lt_of_contains hlt hin' hin).le
  · obtain rfl := Magnitude.units_injective heq
    rw [hpower, hvalue]
    exact iff_of_true (Nat.le_refl _) (le_refl _)
  · exact iff_of_false hgt.not_ge (Interval.lt_of_contains hgt hin hin').not_ge

/-- The magnitude nearest to a millionth. -/
def millionth : Magnitude := ⟨0x10C6F7A0B5ED8D, 1002, by decide, by decide, by decide⟩

/-- The magnitude `10 ^ 21`. -/
def sextillion : Magnitude := ⟨0x1B1AE4D6E2EF50, 1091, by decide, by decide, by decide⟩

theorem shortest_millionth : shortest .up millionth = ⟨1, -6⟩ := by
  decide +kernel

theorem shortest_sextillion : shortest .up sextillion = ⟨1, 21⟩ := by
  decide +kernel

/-- The two bounds between which there is no exponent are bounds for the place of the point. -/
theorem attribute_bounds_iff (h : m.significand ≠ 0) :
    Binary64.attributeLow ≤ m.units ∧ m.units < Binary64.attributeHigh ↔
      -6 < (shortest .up m).point ∧ (shortest .up m).point ≤ 21 := by
  have hlow : Binary64.attributeLow = millionth.units := by decide +kernel
  have hhigh : Binary64.attributeHigh = sextillion.units := by decide +kernel
  rw [hlow, hhigh, units_le_iff_lt_point (by decide) shortest_millionth h, ← Nat.not_le,
    units_le_iff_lt_point (by decide) shortest_sextillion h, Int.not_lt]

/-! ## Layouts -/

/-- A number `0.d₁⋯dₖ * 10 ^ n` as text: whole, with a point among its digits, with a point before
them, or with an exponent. -/
def layout (digits : List Char) (n : Int) : List Char :=
  if digits.length ≤ n ∧ n ≤ 21 then digits ++ List.replicate (n - digits.length).toNat '0'
  else if 0 < n ∧ n ≤ 21 then digits.take n.toNat ++ ['.'] ++ digits.drop n.toNat
  else if -6 < n ∧ n ≤ 0 then ['0', '.'] ++ List.replicate (-n).toNat '0' ++ digits
  else
    let fraction := if 1 < digits.length then '.' :: digits.drop 1 else []
    let sign := if n - 1 < 0 then '-' else '+'
    digits.take 1 ++ fraction ++ ['e', sign] ++ Nat.toDigits 10 (n - 1).natAbs

variable {digits : List Char} {place : Int}

theorem positional_eq_layout (hne : digits ≠ []) (hlow : -6 < place) (hhigh : place ≤ 21) :
    positional digits place = layout digits place := by
  have hpos : 0 < digits.length := List.length_pos_iff.2 hne
  rw [positional, layout]
  by_cases hbefore : place ≤ 0
  · rw [if_pos hbefore, if_neg (by omega), if_neg (by omega), if_pos ⟨hlow, hbefore⟩]
    rfl
  · rw [if_neg hbefore]
    by_cases hafter : digits.length ≤ place.toNat
    · rw [if_pos hafter, if_pos (by omega), zeros]
      congr 2
      omega
    · rw [if_neg hafter, if_neg (by omega), if_pos (by omega), List.append_assoc]
      rfl

theorem scientific_eq_layout (hne : digits ≠ []) (hrange : ¬(-6 < place ∧ place ≤ 21)) :
    scientific digits (place - 1) = layout digits place := by
  have hpos : 0 < digits.length := List.length_pos_iff.2 hne
  rw [layout, if_neg (by omega), if_neg (by omega), if_neg (by omega)]
  cases digits with
  | nil => exact absurd rfl hne
  | cons first rest => cases rest <;> simp [scientific]

end Decimal

open Decimal

theorem Binary64.toAttributeText_finite {m : Magnitude} (h : m.significand ≠ 0) (negative : Bool) :
    (Binary64.finite negative m).toAttributeText =
      withSign negative (layout (shortest .up m).digitChars (shortest .up m).point) := by
  have hne : (shortest .up m).digitChars ≠ [] := Nat.toDigits_ne_nil
  rw [Binary64.toAttributeText, if_neg h]
  refine congrArg (withSign negative) ?_
  by_cases hrange : -6 < (shortest .up m).point ∧ (shortest .up m).point ≤ 21
  · rw [if_pos ((attribute_bounds_iff h).2 hrange), positional_eq_layout hne hrange.1 hrange.2]
  · rw [if_neg (mt (attribute_bounds_iff h).1 hrange), scientific_eq_layout hne hrange]

/-- A shortest decimal is read back from its layout, with its sign. -/
theorem Binary64.readSigned_toAttributeText {m : Magnitude} (h : m.significand ≠ 0)
    (negative : Bool) :
    Numeral.readSigned (Binary64.finite negative m).toAttributeText =
      .ok (if negative then -(shortest .up m).value else (shortest .up m).value) := by
  have hdigits := digits_ne_zero_of_readsAs h (isShortest_shortest h .up).readsAs
  have hne : (shortest .up m).digitChars ≠ [] := Nat.toDigits_ne_nil
  rw [toAttributeText_finite h]
  by_cases hrange : -6 < (shortest .up m).point ∧ (shortest .up m).point ≤ 21
  · obtain ⟨n, htext, hvalue⟩ := exists_numeral_positional hdigits (shortest .up m).point
    rw [← positional_eq_layout hne hrange.1 hrange.2, ← htext, n.readSigned_withSign, hvalue,
      point, add_sub_cancel_left, value]
  · obtain ⟨n, htext, hvalue⟩ := exists_numeral_scientific hdigits ((shortest .up m).point - 1)
    rw [← scientific_eq_layout hne hrange, ← htext, n.readSigned_withSign, hvalue, sub_add_cancel,
      point, add_sub_cancel_left, value]

namespace Primitive

/-- **How a number is written.**  Not-a-number, the infinities and both zeros have fixed texts.
Take any other number and its shortest decimal.  The text is its sign and the layout of these digits
for the place where the point stands among them, and it reads as that decimal with the sign. -/
theorem numberText_eq_layout :
    numberText .nan = "NaN" ∧
    numberText (.infinite false) = "Infinity" ∧
    numberText (.infinite true) = "-Infinity" ∧
    (∀ negative, numberText (.finite negative Magnitude.zero) = "0") ∧
    ∀ (negative : Bool) (m : Magnitude), m ≠ Magnitude.zero →
      let d := shortest .up m
      let text := numberText (.finite negative m)
      d.IsShortest m ∧
      d.value = Json.valueOfDigits d.digitChars * 10 ^ (d.point - d.digitChars.length) ∧
      (10 : ℚ) ^ (d.point - 1) ≤ d.value ∧ d.value < 10 ^ d.point ∧
      text.toList = withSign negative (layout d.digitChars d.point) ∧
      Numeral.readSigned text.toList = .ok (if negative then -d.value else d.value) := by
  refine ⟨rfl, rfl, rfl, fun _ => rfl, fun negative m hm => ?_⟩
  have h : m.significand ≠ 0 := mt m.eq_zero_of_significand hm
  intro d text
  have hshortest : d.IsShortest m := isShortest_shortest h .up
  have hdigits : d.digits ≠ 0 := digits_ne_zero_of_readsAs h hshortest.readsAs
  have htext : text.toList = (Binary64.finite negative m).toAttributeText := String.toList_ofList
  obtain ⟨hlow, hhigh⟩ := mul_zpow_bounds hdigits d.exponent
  refine ⟨hshortest, ?_, hlow, hhigh, ?_, ?_⟩
  · rw [valueOfDigits_digitChars, point, add_sub_cancel_left, value]
  · rw [htext, Binary64.toAttributeText_finite h]
  · rw [htext, Binary64.readSigned_toAttributeText h]

/-- The double before the one nearest to a millionth has an exponent. -/
theorem numberText_eq_layout_belowMillionth :
    let m : Magnitude := ⟨0x10C6F7A0B5ED8C, 1002, by decide, by decide, by decide⟩
    m ≠ Magnitude.zero ∧ shortest .up m = ⟨9999999999999997, -22⟩ ∧ (shortest .up m).IsShortest m ∧
      numberText (.finite true m) = "-9.999999999999997e-7" ∧
      Numeral.readSigned "-9.999999999999997e-7".toList =
        .ok (-(9999999999999997 * 10 ^ (-22 : Int))) := by
  intro m
  have hm : m ≠ Magnitude.zero := by decide
  have hvalue : shortest .up m = ⟨9999999999999997, -22⟩ := by decide +kernel
  obtain ⟨hshortest, -, -, -, htext, hread⟩ := numberText_eq_layout.2.2.2.2 true m hm
  rw [hvalue] at htext hread
  have htext : numberText (.finite true m) = "-9.999999999999997e-7" := by
    rw [← String.toList_inj, htext]
    decide +kernel
  refine ⟨hm, hvalue, hshortest, htext, ?_⟩
  rw [← htext, hread]
  norm_num [Decimal.value]

end Primitive
end MarkupJsx
