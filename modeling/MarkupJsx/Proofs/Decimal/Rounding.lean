import Mathlib.Algebra.Order.Field.Power
import Mathlib.Algebra.Order.Field.Rat
import Mathlib.Tactic.Linarith
import Mathlib.Tactic.NormNum
import Mathlib.Tactic.Positivity
import Mathlib.Tactic.Ring
import MarkupJsx.Decimal.Shortest

/-!
# Which numbers are read as a double

A decimal is rounded to the nearest double, and to the one with the even significand where two are
equally near.  So a magnitude is what the numbers of an interval are read as, from half a step below
it to half a step above it, and the ends are among them if its significand is even.

* `Interval.Contains` says which numbers lie in an interval.  The intervals of two magnitudes have
  no number in common (`Interval.not_contains_of_units_lt`).
* A ratio is rounded to a magnitude exactly if it lies in its interval (`ofRatio?_eq_some_iff`).
  What it is rounded to has the ratio in its interval, by the bounds for the quotient; and there is
  something that it is rounded to, so that no other magnitude can come in between.
* `ofDecimal_eq_finite_iff` is the same for decimals: those that are too large or too small to be
  computed lie in no interval.
-/

namespace MarkupJsx

namespace Magnitude

variable {m n : Magnitude}

/-! ## Magnitudes in order -/

theorem units_eq (m : Magnitude) : m.units = m.significand * 2 ^ m.scale := rfl

theorem units_lt_of_scale_lt (h : m.scale < n.scale) : m.units < n.units := by
  have hlt : m.significand < 0x20000000000000 := m.significand_lt
  have hcanonical : 0x10000000000000 ≤ n.significand := n.canonical.resolve_left (by omega)
  calc m.units = m.significand * 2 ^ m.scale := m.units_eq
    _ < 0x20000000000000 * 2 ^ m.scale := Nat.mul_lt_mul_of_pos_right hlt (by positivity)
    _ = 0x10000000000000 * 2 ^ (m.scale + 1) := by ring
    _ ≤ n.significand * 2 ^ n.scale :=
      Nat.mul_le_mul hcanonical (Nat.pow_le_pow_right (by decide) h)

/-- A magnitude is its units. -/
theorem units_injective : Function.Injective units := by
  intro m n h
  have hscale : m.scale = n.scale := by
    rcases Nat.lt_trichotomy m.scale n.scale with hlt | heq | hgt
    · exact absurd h (units_lt_of_scale_lt hlt).ne
    · exact heq
    · exact absurd h (units_lt_of_scale_lt hgt).ne'
  have hsignificand : m.significand = n.significand := by
    rw [units_eq, units_eq, hscale] at h
    exact Nat.eq_of_mul_eq_mul_right (by positivity) h
  cases m
  cases n
  congr

theorem ofParts?_eq_some_iff {significand scale : Nat} :
    ofParts? significand scale = some m ↔ m.significand = significand ∧ m.scale = scale := by
  rw [ofParts?]
  split
  · rw [Option.some_inj]
    constructor
    · rintro rfl
      exact ⟨rfl, rfl⟩
    · rintro ⟨rfl, rfl⟩
      rfl
  · rename_i hrange
    refine iff_of_false (Option.some_ne_none m).symm ?_
    rintro ⟨rfl, rfl⟩
    exact hrange ⟨m.significand_lt, m.canonical, m.scale_le⟩

/-- Rounding goes to an integer at most half away, and only to an even one where it is that far. -/
theorem divHalfEven_bounds (num : Nat) {den : Nat} (h : 0 < den) :
    let nearest := divHalfEven num den * den
    (2 * nearest ≤ 2 * num + den ∧ 2 * num ≤ 2 * nearest + den) ∧
    (divHalfEven num den % 2 = 1 → 2 * nearest < 2 * num + den ∧ 2 * num < 2 * nearest + den) := by
  intro nearest
  have hsplit : num / den * den + num % den = num := Nat.div_add_mod' num den
  have hrest : num % den < den := Nat.mod_lt num h
  by_cases hdown : 2 * (num % den) < den
  · have hvalue : divHalfEven num den = num / den := by
      rw [divHalfEven, if_pos hdown]
    have hnearest : nearest = num / den * den := congrArg (· * den) hvalue
    omega
  · by_cases hup : den < 2 * (num % den)
    · have hvalue : divHalfEven num den = num / den + 1 := by
        rw [divHalfEven, if_neg hdown, if_pos hup]
      have hnearest : nearest = num / den * den + den := by
        rw [← Nat.succ_mul]
        exact congrArg (· * den) hvalue
      omega
    · have hvalue : divHalfEven num den = num / den + num / den % 2 := by
        rw [divHalfEven, if_neg hdown, if_neg hup]
      rcases Nat.mod_two_eq_zero_or_one (num / den) with heven | hodd
      · have hnearest : nearest = num / den * den := by
          rw [heven] at hvalue
          exact congrArg (· * den) hvalue
        omega
      · have hnearest : nearest = num / den * den + den := by
          rw [← Nat.succ_mul]
          rw [hodd] at hvalue
          exact congrArg (· * den) hvalue
        omega

end Magnitude

namespace Decimal
namespace Interval

/-! ## Intervals -/

/-- Whether a number lies in an interval. -/
def Contains (i : Interval) (x : ℚ) : Prop :=
  if i.closed then (i.low : ℚ) ≤ x * Interval.den ∧ x * Interval.den ≤ i.high
  else (i.low : ℚ) < x * Interval.den ∧ x * Interval.den < i.high

theorem den_eq : Interval.den = 4 * Nat.pow 2 1074 := by
  decide +kernel

theorem den_pos : 0 < Interval.den := by
  decide +kernel

variable {i : Interval} {x y z : ℚ}

theorem Contains.le (h : i.Contains x) :
    (i.low : ℚ) ≤ x * Interval.den ∧ x * Interval.den ≤ i.high := by
  rw [Contains] at h
  split at h
  · exact h
  · exact ⟨h.1.le, h.2.le⟩

theorem contains_of_lt (hlow : (i.low : ℚ) < x * Interval.den)
    (hhigh : x * Interval.den < i.high) : i.Contains x := by
  rw [Contains]
  split
  · exact ⟨hlow.le, hhigh.le⟩
  · exact ⟨hlow, hhigh⟩

/-- There are no holes in an interval. -/
theorem Contains.between (hx : i.Contains x) (hz : i.Contains z) (hxy : x ≤ y) (hyz : y ≤ z) :
    i.Contains y := by
  have hden : (0 : ℚ) < Interval.den := Nat.cast_pos.2 den_pos
  have hleft : x * Interval.den ≤ y * Interval.den := mul_le_mul_of_nonneg_right hxy hden.le
  have hright : y * Interval.den ≤ z * Interval.den := mul_le_mul_of_nonneg_right hyz hden.le
  rw [Contains] at hx hz ⊢
  split at hx
  · rename_i hclosed
    rw [if_pos hclosed] at hz ⊢
    exact ⟨hx.1.trans hleft, hright.trans hz.2⟩
  · rename_i hopen
    rw [if_neg hopen] at hz ⊢
    exact ⟨hx.1.trans_le hleft, hright.trans_lt hz.2⟩

/-- Whether a ratio lies in an interval, as a question about integers. -/
theorem contains_div_iff {num den : Nat} (h : 0 < den) :
    i.Contains ((num : ℚ) / den) ↔
      if i.closed then i.low * den ≤ num * Interval.den ∧ num * Interval.den ≤ i.high * den
      else i.low * den < num * Interval.den ∧ num * Interval.den < i.high * den := by
  have hden : (0 : ℚ) < den := Nat.cast_pos.2 h
  rw [Contains, div_mul_eq_mul_div, le_div_iff₀ hden, div_le_iff₀ hden, lt_div_iff₀ hden,
    div_lt_iff₀ hden]
  norm_cast

variable {m n : Magnitude}

theorem centre_of (m : Magnitude) : (of m).centre = 4 * m.units := rfl

theorem closed_of (m : Magnitude) : (of m).closed = decide (m.significand % 2 = 0) := rfl

theorem high_of (m : Magnitude) : (of m).high = 4 * m.units + 2 * 2 ^ m.scale := rfl

theorem low_of (m : Magnitude) :
    (of m).low = 4 * m.units -
      if m.significand = 0x10000000000000 ∧ 0 < m.scale then 2 ^ m.scale
      else 2 * 2 ^ m.scale := rfl

/-- The interval of a magnitude ends before that of a greater one starts.  If one number is in both,
then not both of them have their ends. -/
theorem high_le_low_of_units_lt (h : m.units < n.units) :
    (of m).high ≤ (of n).low ∧ ((of m).closed → (of n).closed → (of m).high < (of n).low) := by
  rw [high_of, low_of, closed_of, closed_of, decide_eq_true_iff, decide_eq_true_iff, m.units_eq,
    n.units_eq]
  rw [m.units_eq, n.units_eq] at h
  have hm : m.significand < 0x20000000000000 := m.significand_lt
  have hstep : 0 < 2 ^ m.scale := by positivity
  rcases Nat.lt_trichotomy m.scale n.scale with hlt | heq | hgt
  · -- the step of the greater one is twice that of the smaller one at least
    have hn : 0x10000000000000 ≤ n.significand := n.canonical.resolve_left (by omega)
    have htwice : 2 * 2 ^ m.scale ≤ 2 ^ n.scale := by
      rw [← Nat.pow_succ']
      exact Nat.pow_le_pow_right (by decide) hlt
    have hone : m.significand * 2 ^ m.scale + 2 ^ m.scale ≤ 0x20000000000000 * 2 ^ m.scale := by
      rw [← Nat.succ_mul]
      exact Nat.mul_le_mul_right _ hm
    have htwo (heven : m.significand % 2 = 0) :
        m.significand * 2 ^ m.scale + 2 * 2 ^ m.scale ≤ 0x20000000000000 * 2 ^ m.scale := by
      rw [← Nat.add_mul]
      exact Nat.mul_le_mul_right _ (by omega)
    by_cases hpower : n.significand = 0x10000000000000
    · rw [if_pos ⟨hpower, by omega⟩, hpower]
      constructor
      · omega
      · intro heven
        have := htwo heven
        omega
    · rw [if_neg (fun hif => hpower hif.1)]
      have hnext : 0x10000000000001 * 2 ^ n.scale ≤ n.significand * 2 ^ n.scale :=
        Nat.mul_le_mul_right _ (by omega)
      constructor
      · omega
      · intro heven
        have := htwo heven
        omega
  · rw [heq] at h hstep ⊢
    obtain ⟨k, hk⟩ := Nat.exists_eq_add_of_lt (Nat.lt_of_mul_lt_mul_right h)
    have hproduct : n.significand * 2 ^ n.scale =
        m.significand * 2 ^ n.scale + k * 2 ^ n.scale + 2 ^ n.scale := by
      rw [hk]
      ring
    have hbelow : (if n.significand = 0x10000000000000 ∧ 0 < n.scale then 2 ^ n.scale
        else 2 * 2 ^ n.scale) ≤ 2 * 2 ^ n.scale := by
      split <;> omega
    constructor
    · omega
    · intro heven heven'
      have hgap : 1 * 2 ^ n.scale ≤ k * 2 ^ n.scale := Nat.mul_le_mul_right _ (by omega)
      omega
  · have hgreater := Magnitude.units_lt_of_scale_lt hgt
    rw [n.units_eq, m.units_eq] at hgreater
    omega

/-- No number is in the intervals of two magnitudes. -/
theorem not_contains_of_units_lt (h : m.units < n.units) (hx : (of m).Contains x) :
    ¬(of n).Contains x := by
  intro hx'
  obtain ⟨hends, hstrict⟩ := high_le_low_of_units_lt h
  have hends : ((of m).high : ℚ) ≤ (of n).low := Nat.cast_le.2 hends
  rw [Contains] at hx hx'
  split at hx
  · rename_i hclosed
    split at hx'
    · rename_i hclosed'
      have hstrict : ((of m).high : ℚ) < (of n).low := Nat.cast_lt.2 (hstrict hclosed hclosed')
      linarith [hx.2, hx'.1]
    · linarith [hx.2, hx'.1]
  · linarith [hx.2, (Contains.le (i := of n) hx').1]

/-- Whether a ratio lies in the interval of a magnitude, in units of the smallest double. -/
theorem contains_of_div_iff {num den : Nat} (h : 0 < den) :
    (of m).Contains ((num : ℚ) / den) ↔
      if (of m).closed then
        (of m).low * den ≤ 4 * (num * Nat.pow 2 1074) ∧
          4 * (num * Nat.pow 2 1074) ≤ (of m).high * den
      else
        (of m).low * den < 4 * (num * Nat.pow 2 1074) ∧
          4 * (num * Nat.pow 2 1074) < (of m).high * den := by
  have hscaled : num * Interval.den = 4 * (num * Nat.pow 2 1074) := by
    rw [den_eq]
    ring
  rw [contains_div_iff h, hscaled]

end Interval

open Magnitude (divHalfEven ofParts? ofRatio?)

/-! ## Rounding -/

/-- The scale of a ratio is chosen so that it has 53 bits, or fewer if the scale is zero. -/
theorem exists_scale_ofRatio? (num : Nat) {den : Nat} (h : 0 < den) :
    ∃ scale,
      num * Nat.pow 2 1074 < 0x20000000000000 * (den * 2 ^ scale) ∧
      (scale = 0 ∨ 0x10000000000000 * (den * 2 ^ scale) ≤ num * Nat.pow 2 1074) ∧
      ofRatio? num den =
        if divHalfEven (num * Nat.pow 2 1074) (den * 2 ^ scale) = 0x20000000000000 then
          ofParts? 0x10000000000000 (scale + 1)
        else ofParts? (divHalfEven (num * Nat.pow 2 1074) (den * 2 ^ scale)) scale := by
  obtain ⟨scale, hscale⟩ : ∃ scale, Nat.log2 (num * Nat.pow 2 1074 / den) - 52 = scale := ⟨_, rfl⟩
  have hvalue : ofRatio? num den =
      if divHalfEven (num * Nat.pow 2 1074) (den * 2 ^ scale) = 0x20000000000000 then
        ofParts? 0x10000000000000 (scale + 1)
      else ofParts? (divHalfEven (num * Nat.pow 2 1074) (den * 2 ^ scale)) scale := by
    rw [← hscale]
    exact rfl
  refine ⟨scale, ?_, ?_, hvalue⟩
  · clear hvalue
    generalize num * Nat.pow 2 1074 = scaled at *
    calc scaled < 2 ^ (Nat.log2 (scaled / den) + 1) * den :=
        (Nat.div_lt_iff_lt_mul h).1 Nat.lt_log2_self
      _ ≤ 2 ^ (53 + scale) * den :=
        Nat.mul_le_mul_right _ (Nat.pow_le_pow_right (by decide) (by omega))
      _ = 0x20000000000000 * (den * 2 ^ scale) := by ring
  · clear hvalue
    generalize num * Nat.pow 2 1074 = scaled at *
    rcases Nat.eq_zero_or_pos scale with hzero | hpos
    · exact Or.inl hzero
    · have hne : scaled / den ≠ 0 := by
        intro hzero
        rw [hzero, Nat.log2_zero] at hscale
        omega
      refine Or.inr ?_
      calc 0x10000000000000 * (den * 2 ^ scale) = 2 ^ (52 + scale) * den := by ring
        _ = 2 ^ Nat.log2 (scaled / den) * den := by rw [← hscale, Nat.add_sub_cancel' (by omega)]
        _ ≤ scaled := (Nat.le_div_iff_mul_le h).1 (Nat.log2_self_le hne)

variable {m : Magnitude} {num den : Nat}

/-- **A ratio that is rounded to a magnitude lies in its interval.** -/
theorem contains_of_ofRatio? (h : 0 < den) (hround : ofRatio? num den = some m) :
    (Interval.of m).Contains ((num : ℚ) / den) := by
  obtain ⟨scale, -, hbits, hvalue⟩ := exists_scale_ofRatio? num h
  have hunit : 0 < den * 2 ^ scale := Nat.mul_pos h (by positivity)
  obtain ⟨hnear, htie⟩ := Magnitude.divHalfEven_bounds (num * Nat.pow 2 1074) hunit
  rw [Interval.contains_of_div_iff h, Interval.closed_of, Interval.low_of, Interval.high_of,
    m.units_eq]
  rw [hvalue] at hround
  clear hvalue
  generalize num * Nat.pow 2 1074 = scaled at *
  generalize divHalfEven scaled (den * 2 ^ scale) = significand at *
  split at hround
  · -- rounded up to the next power of two, below which the step is half as long
    rename_i hpower
    obtain ⟨hsignificand, hscale⟩ := Magnitude.ofParts?_eq_some_iff.1 hround
    rw [hsignificand, hscale, if_pos (by decide), if_pos ⟨rfl, scale.succ_pos⟩, Nat.sub_mul,
      Nat.add_mul]
    have hunits : 4 * (0x10000000000000 * 2 ^ (scale + 1)) * den =
        4 * (0x20000000000000 * (den * 2 ^ scale)) := by ring
    have hstep : 2 ^ (scale + 1) * den = 2 * (den * 2 ^ scale) := by ring
    have hstep' : 2 * 2 ^ (scale + 1) * den = 4 * (den * 2 ^ scale) := by ring
    rw [hpower] at hnear
    omega
  · obtain ⟨rfl, rfl⟩ := Magnitude.ofParts?_eq_some_iff.1 hround
    rw [Nat.sub_mul, Nat.add_mul]
    have hunits : 4 * (m.significand * 2 ^ m.scale) * den =
        4 * (m.significand * (den * 2 ^ m.scale)) := by ring
    have hstep : 2 * 2 ^ m.scale * den = 2 * (den * 2 ^ m.scale) := by ring
    have hstep' : 2 ^ m.scale * den = den * 2 ^ m.scale := Nat.mul_comm _ _
    rw [hunits, hstep]
    by_cases hpower : m.significand = 0x10000000000000 ∧ 0 < m.scale
    · have hbelow : 0x10000000000000 * (den * 2 ^ m.scale) ≤ scaled :=
        hbits.resolve_left (by omega)
      rw [if_pos hpower, if_pos (by rw [hpower.1]; decide), hstep', hpower.1]
      rw [hpower.1] at hnear
      omega
    · rw [if_neg hpower, hstep]
      rcases Nat.mod_two_eq_zero_or_one m.significand with heven | hodd
      · rw [if_pos (decide_eq_true heven)]
        omega
      · have hstrict := htie hodd
        have hpos : 1 * (den * 2 ^ m.scale) ≤ m.significand * (den * 2 ^ m.scale) :=
          Nat.mul_le_mul_right _ (by omega)
        rw [if_neg (by simp [hodd])]
        omega

/-- The interval of any magnitude ends below the numbers that are too large for its scale. -/
theorem lt_of_contains_of {k : Nat} (h : 0 < den) (hk : m.scale ≤ k)
    (hin : (Interval.of m).Contains ((num : ℚ) / den)) :
    4 * (num * Nat.pow 2 1074) < 0x7FFFFFFFFFFFFE * (den * 2 ^ k) := by
  rw [Interval.contains_of_div_iff h, Interval.closed_of, Interval.high_of, m.units_eq] at hin
  generalize num * Nat.pow 2 1074 = scaled at *
  have hlt : m.significand < 0x20000000000000 := m.significand_lt
  have hhigh : (4 * (m.significand * 2 ^ m.scale) + 2 * 2 ^ m.scale) * den =
      (4 * m.significand + 2) * (den * 2 ^ m.scale) := by ring
  have hstep : den * 2 ^ m.scale ≤ den * 2 ^ k :=
    Nat.mul_le_mul_left den (Nat.pow_le_pow_right (by decide) hk)
  have hpos : 0 < den * 2 ^ k := Nat.mul_pos h (by positivity)
  rw [hhigh] at hin
  split at hin
  · rename_i heven
    rw [decide_eq_true_iff] at heven
    calc 4 * scaled ≤ (4 * m.significand + 2) * (den * 2 ^ m.scale) := hin.2
      _ ≤ (4 * m.significand + 2) * (den * 2 ^ k) := Nat.mul_le_mul_left _ hstep
      _ < 0x7FFFFFFFFFFFFE * (den * 2 ^ k) := Nat.mul_lt_mul_of_pos_right (by omega) hpos
  · calc 4 * scaled < (4 * m.significand + 2) * (den * 2 ^ m.scale) := hin.2
      _ ≤ (4 * m.significand + 2) * (den * 2 ^ k) := Nat.mul_le_mul_left _ hstep
      _ ≤ 0x7FFFFFFFFFFFFE * (den * 2 ^ k) := Nat.mul_le_mul_right _ (by omega)

/-- A ratio in the interval of a magnitude is rounded to some magnitude. -/
theorem exists_ofRatio?_of_contains (h : 0 < den)
    (hin : (Interval.of m).Contains ((num : ℚ) / den)) : ∃ n, ofRatio? num den = some n := by
  have hbound := fun {k : Nat} (hk : m.scale ≤ k) => lt_of_contains_of h hk hin
  obtain ⟨scale, hlt, hbits, hvalue⟩ := exists_scale_ofRatio? num h
  have hunit : 0 < den * 2 ^ scale := Nat.mul_pos h (by positivity)
  obtain ⟨⟨hdown, hup⟩, -⟩ := Magnitude.divHalfEven_bounds (num * Nat.pow 2 1074) hunit
  rw [hvalue]
  clear hvalue hin
  generalize num * Nat.pow 2 1074 = scaled at *
  generalize divHalfEven scaled (den * 2 ^ scale) = significand at *
  have hle : significand ≤ 0x20000000000000 := by
    by_contra hgt
    have hmore : 0x20000000000001 * (den * 2 ^ scale) ≤ significand * (den * 2 ^ scale) :=
      Nat.mul_le_mul_right _ (by omega)
    omega
  have hcanonical : scale = 0 ∨ 0x10000000000000 ≤ significand := by
    refine hbits.imp_right fun hbits => ?_
    by_contra hless
    have hfew : (significand + 1) * (den * 2 ^ scale) ≤ 0x10000000000000 * (den * 2 ^ scale) :=
      Nat.mul_le_mul_right _ (by omega)
    rw [Nat.succ_mul] at hfew
    omega
  have hscale : scale ≤ 2045 := by
    by_contra hgt
    have hlarge : 0x10000000000000 * (den * 2 ^ scale) ≤ scaled := hbits.resolve_left (by omega)
    have hlimit := hbound (k := scale - 1) (m.scale_le.trans (by omega))
    have hdouble : den * 2 ^ scale = 2 * (den * 2 ^ (scale - 1)) := by
      rw [Nat.mul_left_comm, ← Nat.pow_succ', Nat.succ_eq_add_one, Nat.sub_add_cancel (by omega)]
    omega
  split
  · rename_i hpower
    have hscale' : scale + 1 ≤ 2045 := by
      by_contra hgt
      have hlimit := hbound (m.scale_le.trans (show 2045 ≤ scale by omega))
      rw [hpower] at hdown
      omega
    exact ⟨⟨0x10000000000000, scale + 1, by decide, Or.inr (Nat.le_refl _), hscale'⟩,
      Magnitude.ofParts?_eq_some_iff.2 ⟨rfl, rfl⟩⟩
  · rename_i hpower
    exact ⟨⟨significand, scale, by omega, hcanonical, hscale⟩,
      Magnitude.ofParts?_eq_some_iff.2 ⟨rfl, rfl⟩⟩

/-- **A ratio is rounded to a magnitude exactly if it lies in its interval.** -/
theorem ofRatio?_eq_some_iff (h : 0 < den) :
    ofRatio? num den = some m ↔ (Interval.of m).Contains ((num : ℚ) / den) := by
  refine ⟨contains_of_ofRatio? h, fun hin => ?_⟩
  obtain ⟨n, hround⟩ := exists_ofRatio?_of_contains h hin
  have hin' := contains_of_ofRatio? h hround
  rcases Nat.lt_trichotomy m.units n.units with hlt | heq | hgt
  · exact absurd hin' (Interval.not_contains_of_units_lt hlt hin)
  · rw [hround, Magnitude.units_injective heq]
  · exact absurd hin (Interval.not_contains_of_units_lt hgt hin')

/-! ## Decimals -/

/-- The number that a decimal writes. -/
def value (d : Decimal) : ℚ :=
  d.digits * 10 ^ d.exponent

theorem pow_mul_zpow (k : Nat) (e : Int) : ((10 ^ k : ℕ) : ℚ) * 10 ^ e = 10 ^ (k + e) := by
  rw [zpow_add₀ (by norm_num), zpow_natCast]
  push_cast
  rfl

theorem mul_zpow_of_nonneg (n : Nat) {e : Int} (h : 0 ≤ e) :
    (n : ℚ) * 10 ^ e = ((n * Nat.pow 10 e.toNat : ℕ) : ℚ) / ((1 : ℕ) : ℚ) := by
  obtain ⟨k, rfl⟩ := Int.eq_ofNat_of_zero_le h
  rw [Int.toNat_natCast, Nat.pow_eq, zpow_natCast]
  push_cast
  ring

theorem mul_zpow_of_neg (n : Nat) {e : Int} (h : e < 0) :
    (n : ℚ) * 10 ^ e = (n : ℚ) / ((Nat.pow 10 (-e).toNat : ℕ) : ℚ) := by
  obtain ⟨k, hk⟩ := Int.eq_ofNat_of_zero_le (show 0 ≤ -e by omega)
  obtain rfl : e = -(k : Int) := by omega
  rw [neg_neg, Int.toNat_natCast, Nat.pow_eq, zpow_neg, zpow_natCast]
  push_cast
  rfl

/-- A number has as many digits as the powers of ten say. -/
theorem toDigits_bounds {n : Nat} (h : n ≠ 0) :
    10 ^ ((Nat.toDigits 10 n).length - 1) ≤ n ∧ n < 10 ^ (Nat.toDigits 10 n).length := by
  have hpos : 0 < (Nat.toDigits 10 n).length := Nat.length_toDigits_pos
  refine ⟨?_, (Nat.length_toDigits_le_iff (by decide) hpos).1 (Nat.le_refl _)⟩
  rcases Nat.eq_zero_or_pos ((Nat.toDigits 10 n).length - 1) with hzero | hmore
  · rw [hzero]
    omega
  · by_contra hlt
    have hle := (Nat.length_toDigits_le_iff (b := 10) (by decide) hmore).2 (Nat.lt_of_not_le hlt)
    omega

/-- A decimal lies between two powers of ten. -/
theorem mul_zpow_bounds {digits : Nat} (h : digits ≠ 0) (exponent : Int) :
    (10 : ℚ) ^ ((Nat.toDigits 10 digits).length + exponent - 1) ≤ digits * 10 ^ exponent ∧
      (digits : ℚ) * 10 ^ exponent < 10 ^ ((Nat.toDigits 10 digits).length + exponent) := by
  obtain ⟨hlow, hhigh⟩ := toDigits_bounds h
  have hpos : 0 < (Nat.toDigits 10 digits).length := Nat.length_toDigits_pos
  generalize (Nat.toDigits 10 digits).length = length at *
  have hten : (0 : ℚ) < 10 ^ exponent := by positivity
  constructor
  · have hpower : (10 : ℚ) ^ ((length : Int) + exponent - 1) =
        ((10 ^ (length - 1) : ℕ) : ℚ) * 10 ^ exponent := by
      rw [pow_mul_zpow]
      congr 1
      omega
    rw [hpower]
    exact mul_le_mul_of_nonneg_right (Nat.cast_le.2 hlow) hten.le
  · rw [← pow_mul_zpow]
    exact mul_lt_mul_of_pos_right (Nat.cast_lt.2 hhigh) hten

theorem Interval.two_le_low_of (h : m.significand ≠ 0) : 2 ≤ (Interval.of m).low := by
  rw [Interval.low_of, m.units_eq]
  have hstep : 0 < 2 ^ m.scale := by positivity
  split
  · rename_i hpower
    rw [hpower.1]
    omega
  · have hmore : 1 * 2 ^ m.scale ≤ m.significand * 2 ^ m.scale :=
      Nat.mul_le_mul_right _ (by omega)
    omega

theorem Interval.high_of_lt {k : Nat} (hk : m.scale ≤ k) :
    (Interval.of m).high < 0x80000000000000 * 2 ^ k := by
  have hlt : m.significand < 0x20000000000000 := m.significand_lt
  calc (Interval.of m).high = (4 * m.significand + 2) * 2 ^ m.scale := by
        rw [Interval.high_of, m.units_eq]
        ring
    _ < 0x80000000000000 * 2 ^ m.scale := Nat.mul_lt_mul_of_pos_right (by omega) (by positivity)
    _ ≤ 0x80000000000000 * 2 ^ k := Nat.mul_le_mul_left _ (Nat.pow_le_pow_right (by decide) hk)

/-- What lies in the interval of a magnitude is neither too small nor too large to be read. -/
theorem Interval.Contains.bounds {x : ℚ} {k : Nat} (h : m.significand ≠ 0)
    (hsmall : Interval.den ≤ 10 ^ k) (hlarge : 0x80000000000000 * 2 ^ 2045 ≤ 10 ^ k * Interval.den)
    (hin : (Interval.of m).Contains x) : (10 : ℚ) ^ (-k : Int) < x ∧ x < 10 ^ (k : Int) := by
  obtain ⟨hlow, hhigh⟩ := hin.le
  have hden : (0 : ℚ) < Interval.den := Nat.cast_pos.2 Interval.den_pos
  have htwo : (2 : ℚ) ≤ (Interval.of m).low := by exact_mod_cast Interval.two_le_low_of h
  have hpower : (0 : ℚ) < 10 ^ k := by positivity
  have hsmall : (Interval.den : ℚ) ≤ 10 ^ k := by exact_mod_cast hsmall
  have hlarge : ((Interval.of m).high : ℚ) < 10 ^ k * Interval.den := by
    exact_mod_cast (Interval.high_of_lt m.scale_le).trans_le hlarge
  constructor
  · rw [zpow_neg, zpow_natCast, inv_lt_iff_one_lt_mul₀ hpower]
    have hpos : 0 < x := by
      by_contra hneg
      have := mul_nonpos_of_nonpos_of_nonneg (not_lt.1 hneg) hden.le
      linarith
    have := mul_le_mul_of_nonneg_left hsmall hpos.le
    linarith
  · rw [zpow_natCast]
    exact lt_of_mul_lt_mul_right (hhigh.trans_lt hlarge) hden.le

theorem ofRatio_eq_finite_iff {negative : Bool} :
    Binary64.ofRatio negative num den = .finite negative m ↔ ofRatio? num den = some m := by
  rw [Binary64.ofRatio]
  cases ofRatio? num den <;> simp

/-- **A decimal is read as a double exactly if it lies in its interval.** -/
theorem ofDecimal_eq_finite_iff (h : m.significand ≠ 0) (negative : Bool) (d : Decimal) :
    Binary64.ofDecimal negative d.digits d.exponent = .finite negative m ↔
      (Interval.of m).Contains d.value := by
  have hbounds := Interval.Contains.bounds (m := m) (x := d.value) (k := 400) h
    (by decide +kernel) (by decide +kernel)
  obtain ⟨digits, exponent⟩ := d
  show Binary64.ofDecimal negative digits exponent = _ ↔
    (Interval.of m).Contains (digits * 10 ^ exponent)
  simp only [value, Nat.cast_ofNat] at hbounds
  rw [Binary64.ofDecimal]
  have hzero : Binary64.finite negative Magnitude.zero ≠ .finite negative m := by
    intro heq
    obtain ⟨-, rfl⟩ := Binary64.finite.inj heq
    exact h rfl
  by_cases hdigits : digits = 0
  · rw [if_pos (Or.inl hdigits)]
    refine iff_of_false hzero fun hin => ?_
    have hpositive := (hbounds hin).1
    rw [hdigits, Nat.cast_zero, zero_mul] at hpositive
    exact absurd hpositive (not_lt.2 (by positivity))
  · obtain ⟨hlow, hhigh⟩ := mul_zpow_bounds hdigits exponent
    by_cases hsmall : ((Nat.toDigits 10 digits).length + exponent : Int) < -400
    · rw [if_pos (Or.inr hsmall)]
      refine iff_of_false hzero fun hin => ?_
      have hpower := zpow_le_zpow_right₀ (show (1 : ℚ) ≤ 10 by norm_num) hsmall.le
      have := (hbounds hin).1
      linarith
    · rw [if_neg (by simp [hdigits, hsmall])]
      by_cases hlarge : 400 < ((Nat.toDigits 10 digits).length + exponent : Int)
      · rw [if_pos hlarge]
        refine iff_of_false (by simp) fun hin => ?_
        have hpower := zpow_le_zpow_right₀ (show (1 : ℚ) ≤ 10 by norm_num)
          (Int.le_sub_one_of_lt hlarge)
        have := (hbounds hin).2
        linarith
      · rw [if_neg hlarge]
        rcases Int.lt_or_le exponent 0 with hneg | hnonneg
        · have hpower : 0 < Nat.pow 10 (-exponent).toNat := Nat.pow_pos (by decide)
          rw [if_neg (by omega), ofRatio_eq_finite_iff, ofRatio?_eq_some_iff hpower,
            mul_zpow_of_neg digits hneg]
        · rw [if_pos hnonneg, ofRatio_eq_finite_iff, ofRatio?_eq_some_iff Nat.one_pos,
            mul_zpow_of_nonneg digits hnonneg]

end Decimal
end MarkupJsx
