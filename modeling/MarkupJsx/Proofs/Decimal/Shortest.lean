import Mathlib.Tactic.LinearCombination
import MarkupJsx.Decimal.Layout
import MarkupJsx.Proofs.Decimal.Rounding

/-!
# The shortest decimal of a double

Many decimals are read as the same double.  A shortest one has as few digits as any of them, and of
those with as many digits none is nearer to the double (`IsShortest`).  `shortest` finds one for
every magnitude but zero (`isShortest_shortest`).

* On a grid of decimals only the two points around the centre of an interval have to be tried: if
  any other point lies in the interval, then so does the one of the two that is on the same side
  (`Grid.closestPoint_of_pick?`, `Grid.not_contains_of_pick?`).
* A point of the grid with seventeen digits always lies in the interval: half of the spacing is less
  than the distance to either end (`Interval.closestPoint_nearest`).  So the search ends, at the
  first grid that has a point in the interval (`search_eq`).
* A decimal need not be on the grid that has its number of digits, because it can be below the power
  of ten that the grid is made for.  But then that power of ten is on the grid, and it is nearer
  (`exists_point_of_contains`).
-/

namespace MarkupJsx

/-- The number that a magnitude is. -/
def Magnitude.value (m : Magnitude) : ℚ :=
  m.units / (Nat.pow 2 1074 : ℕ)

namespace Decimal

/-! ## Powers of ten -/

theorem length_eq_length_toDigits {n : Nat} (h : n ≠ 0) :
    length n = (Nat.toDigits 10 n).length := by
  induction n using Nat.strongRecOn with
  | ind n ih =>
    rw [length_of_pos h]
    rcases Nat.eq_zero_or_pos (n / 10) with hzero | hpos
    · rw [hzero, length_zero, Nat.toDigits_of_lt_base (by omega)]
      rfl
    · have hsplit := Nat.toDigits_append_toDigits (b := 10) (d := n % 10) (by decide) hpos
        (Nat.mod_lt n (by decide))
      rw [Nat.div_add_mod, Nat.toDigits_of_lt_base (Nat.mod_lt n (by decide))] at hsplit
      rw [← hsplit, List.length_append, List.length_singleton, ih (n / 10) (by omega) hpos.ne']

theorem pow_length_bounds {n : Nat} (h : n ≠ 0) : 10 ^ (length n - 1) ≤ n ∧ n < 10 ^ length n := by
  rw [length_eq_length_toDigits h]
  exact toDigits_bounds h

/-- A ratio lies between two powers of ten, as its order says. -/
theorem order_bounds {num den : Nat} (hnum : 0 < num) (hden : 0 < den) :
    (10 : ℚ) ^ (order num den - 1) ≤ (num : ℚ) / den ∧
      (num : ℚ) / den < 10 ^ order num den := by
  have hden' : (0 : ℚ) < den := Nat.cast_pos.2 hden
  rw [le_div_iff₀ hden', div_lt_iff₀ hden', order]
  split
  · rename_i hle
    have hquotient : num / den ≠ 0 := (Nat.div_pos hle hden).ne'
    obtain ⟨hlow, hhigh⟩ := pow_length_bounds hquotient
    have hpos : 0 < length (num / den) := by
      rw [length_of_pos hquotient]
      omega
    generalize length (num / den) = k at *
    have hlow : 10 ^ (k - 1) * den ≤ num := (Nat.le_div_iff_mul_le hden).1 hlow
    have hhigh : num < 10 ^ k * den := (Nat.div_lt_iff_lt_mul hden).1 hhigh
    rw [show (k : Int) - 1 = ((k - 1 : Nat) : Int) by omega, zpow_natCast, zpow_natCast]
    exact ⟨by exact_mod_cast hlow, by exact_mod_cast hhigh⟩
  · rename_i hlt
    have hquotient : (den - 1) / num ≠ 0 := (Nat.div_pos (by omega) hnum).ne'
    obtain ⟨hlow, hhigh⟩ := pow_length_bounds hquotient
    have hpos : 0 < length ((den - 1) / num) := by
      rw [length_of_pos hquotient]
      omega
    generalize length ((den - 1) / num) = k at *
    have hlow : 10 ^ (k - 1) * num < den := by
      have := (Nat.le_div_iff_mul_le hnum).1 hlow
      omega
    have hhigh : den ≤ 10 ^ k * num := by
      have := (Nat.div_lt_iff_lt_mul hnum).1 hhigh
      omega
    have hpower : (0 : ℚ) < 10 ^ k := by positivity
    have hpower' : (0 : ℚ) < 10 ^ (k - 1) := by positivity
    rw [show 1 - (k : Int) - 1 = -(k : Int) by omega,
      show 1 - (k : Int) = -((k - 1 : Nat) : Int) by omega, zpow_neg, zpow_neg, zpow_natCast,
      zpow_natCast, inv_mul_le_iff₀ hpower, lt_inv_mul_iff₀ hpower']
    exact ⟨by exact_mod_cast hhigh, by exact_mod_cast hlow⟩

/-! ## Points of a grid -/

/-- The value in the centre of an interval. -/
def Interval.value (i : Interval) : ℚ :=
  i.centre / Interval.den

theorem Interval.value_mul_den (i : Interval) : i.value * Interval.den = i.centre :=
  div_mul_cancel₀ _ (Nat.cast_pos.2 Interval.den_pos).ne'

/-- A point of a grid that stands for an interval: it lies in the interval, and no other point of
the grid that does is nearer to the centre. -/
structure Interval.ClosestPoint (i : Interval) (e : Int) (point : Nat) : Prop where
  contains : i.Contains (point * 10 ^ e)
  closest : ∀ other : Nat, i.Contains (other * 10 ^ e) →
    |(point : ℚ) * 10 ^ e - i.value| ≤ |(other : ℚ) * 10 ^ e - i.value|

namespace Grid

variable {i : Interval} {e : Int} {point : Nat}

theorem up_of_pos (e : Int) : 0 < (Grid.of e).up := by
  rw [Grid.of]
  split
  · exact Nat.one_pos
  · exact Nat.pow_pos (by decide)

theorem down_of (e : Int) :
    ((Grid.of e).down : ℚ) = 10 ^ e * (Interval.den * (Grid.of e).up) := by
  rw [Grid.of]
  split
  · rename_i hnonneg
    obtain ⟨k, rfl⟩ := Int.eq_ofNat_of_zero_le hnonneg
    rw [Int.toNat_natCast, Nat.pow_eq, zpow_natCast]
    push_cast
    ring
  · rename_i hneg
    obtain ⟨k, hk⟩ := Int.eq_ofNat_of_zero_le (show 0 ≤ -e by omega)
    obtain rfl : e = -(k : Int) := by omega
    rw [neg_neg, Int.toNat_natCast, Nat.pow_eq, zpow_neg, zpow_natCast]
    push_cast
    rw [mul_left_comm, inv_mul_cancel₀ (by positivity), mul_one]

/-- A point hits an interval exactly if it lies in it. -/
theorem hits_of_iff : (Grid.of e).hits i point ↔ i.Contains (point * 10 ^ e) := by
  have hup : (0 : ℚ) < (Grid.of e).up := Nat.cast_pos.2 (up_of_pos e)
  have hpoint : ((point * (Grid.of e).down : ℕ) : ℚ) =
      point * 10 ^ e * Interval.den * (Grid.of e).up := by
    rw [Nat.cast_mul, down_of]
    ring
  have hends (bound : Nat) :
      (bound * (Grid.of e).up ≤ point * (Grid.of e).down ↔
        (bound : ℚ) ≤ point * 10 ^ e * Interval.den) ∧
      (point * (Grid.of e).down ≤ bound * (Grid.of e).up ↔
        point * 10 ^ e * Interval.den ≤ (bound : ℚ)) := by
    rw [← Nat.cast_le (α := ℚ), ← Nat.cast_le (α := ℚ), hpoint, Nat.cast_mul]
    exact ⟨mul_le_mul_iff_left₀ hup, mul_le_mul_iff_left₀ hup⟩
  have hlow := hends i.low
  have hhigh := hends i.high
  rw [hits, Interval.Contains]
  split
  · rw [decide_eq_true_iff, hlow.1, hhigh.2]
  · rw [decide_eq_true_iff, ← not_le, ← not_le, hlow.2, hhigh.1, not_le, not_le]

theorem scale_pos (e : Int) : (0 : ℚ) < Interval.den * (Grid.of e).up :=
  mul_pos (Nat.cast_pos.2 Interval.den_pos) (Nat.cast_pos.2 (up_of_pos e))

theorem down_of_pos (e : Int) : 0 < (Grid.of e).down := by
  rw [← Nat.cast_pos (α := ℚ), down_of]
  exact mul_pos (by positivity) (scale_pos e)

theorem centre_mul_up (i : Interval) (e : Int) :
    ((i.centre * (Grid.of e).up : ℕ) : ℚ) = i.value * (Interval.den * (Grid.of e).up) := by
  rw [Nat.cast_mul, ← i.value_mul_den, mul_assoc]

/-- The last point of a grid that is not beyond the centre of an interval. -/
def below (i : Interval) (e : Int) : Nat :=
  i.centre * (Grid.of e).up / (Grid.of e).down

/-- What the division by the spacing leaves is the way from the point below to the centre. -/
theorem rest_eq (i : Interval) (e : Int) :
    ((i.centre * (Grid.of e).up % (Grid.of e).down : ℕ) : ℚ) =
      (i.value - below i e * 10 ^ e) * (Interval.den * (Grid.of e).up) := by
  have hsplit : ((Grid.of e).down : ℚ) * below i e +
      (i.centre * (Grid.of e).up % (Grid.of e).down : ℕ) = (i.centre * (Grid.of e).up : ℕ) := by
    exact_mod_cast Nat.div_add_mod (i.centre * (Grid.of e).up) (Grid.of e).down
  rw [centre_mul_up, down_of] at hsplit
  linear_combination hsplit

/-- The centre of an interval lies between two points of a grid. -/
theorem below_bounds (i : Interval) (e : Int) :
    below i e * 10 ^ e ≤ i.value ∧ i.value < (below i e + 1) * 10 ^ e := by
  have hscale := scale_pos e
  have hrest := rest_eq i e
  constructor
  · have hnonneg : (0 : ℚ) ≤ (i.value - below i e * 10 ^ e) * (Interval.den * (Grid.of e).up) :=
      hrest ▸ Nat.cast_nonneg _
    exact sub_nonneg.1 (nonneg_of_mul_nonneg_left hnonneg hscale)
  · have hlt : ((i.centre * (Grid.of e).up % (Grid.of e).down : ℕ) : ℚ) < (Grid.of e).down :=
      Nat.cast_lt.2 (Nat.mod_lt _ (down_of_pos e))
    rw [hrest, down_of] at hlt
    linarith [lt_of_mul_lt_mul_right hlt hscale.le]

theorem nearest_of_tie (tie : Tie)
    (h : 2 * (i.centre * (Grid.of e).up % (Grid.of e).down) = (Grid.of e).down) :
    (Grid.of e).nearest tie i = below i e ∨ (Grid.of e).nearest tie i = below i e + 1 := by
  have hlow : ¬2 * (i.centre * (Grid.of e).up % (Grid.of e).down) < (Grid.of e).down := h.not_lt
  have hhigh : ¬(Grid.of e).down < 2 * (i.centre * (Grid.of e).up % (Grid.of e).down) := h.not_gt
  cases tie with
  | toEven =>
    have hvalue : (Grid.of e).nearest .toEven i = below i e + below i e % 2 :=
      (if_neg hlow).trans (if_neg hhigh)
    rw [hvalue]
    exact (Nat.mod_two_eq_zero_or_one (below i e)).imp (congrArg (below i e + ·))
      (congrArg (below i e + ·))
  | up => exact Or.inr ((if_neg hlow).trans (if_neg hhigh))

/-- The nearest point is the nearer one of the two around the centre. -/
theorem nearest_cases (tie : Tie) (i : Interval) (e : Int) :
    ((Grid.of e).nearest tie i = below i e ∧
        i.value - below i e * 10 ^ e ≤ (below i e + 1) * 10 ^ e - i.value) ∨
      ((Grid.of e).nearest tie i = below i e + 1 ∧
        (below i e + 1) * 10 ^ e - i.value ≤ i.value - below i e * 10 ^ e) := by
  have hscale := scale_pos e
  have hrest := rest_eq i e
  have hdown := down_of e
  have hcompare : ((i.value - below i e * 10 ^ e ≤ (below i e + 1) * 10 ^ e - i.value) ↔
      2 * (i.centre * (Grid.of e).up % (Grid.of e).down) ≤ (Grid.of e).down) ∧
      (((below i e + 1) * 10 ^ e - i.value ≤ i.value - below i e * 10 ^ e) ↔
      (Grid.of e).down ≤ 2 * (i.centre * (Grid.of e).up % (Grid.of e).down)) := by
    rw [← Nat.cast_le (α := ℚ), ← Nat.cast_le (α := ℚ), Nat.cast_mul, hrest, hdown,
      ← mul_assoc, mul_le_mul_iff_left₀ hscale, mul_le_mul_iff_left₀ hscale]
    norm_num
    constructor <;> constructor <;> intro <;> linarith
  rw [hcompare.1, hcompare.2]
  rcases Nat.lt_trichotomy (2 * (i.centre * (Grid.of e).up % (Grid.of e).down))
    (Grid.of e).down with hlt | heq | hgt
  · exact Or.inl ⟨if_pos hlt, hlt.le⟩
  · rw [heq]
    exact (nearest_of_tie tie heq).imp (⟨·, Nat.le_refl _⟩) (⟨·, Nat.le_refl _⟩)
  · exact Or.inr ⟨(if_neg hgt.le.not_gt).trans (if_pos hgt), hgt.le⟩

/-- How far a point that is not beyond the centre is from it; the next theorem has those beyond. -/
theorem abs_point_of_le {n : Nat} (h : n ≤ below i e) :
    |(n : ℚ) * 10 ^ e - i.value| = i.value - n * 10 ^ e ∧
      i.value - below i e * 10 ^ e ≤ i.value - n * 10 ^ e := by
  have hpower : (0 : ℚ) < 10 ^ e := by positivity
  have hle : (n : ℚ) * 10 ^ e ≤ below i e * 10 ^ e :=
    mul_le_mul_of_nonneg_right (Nat.cast_le.2 h) hpower.le
  have hbelow := (below_bounds i e).1
  rw [abs_of_nonpos (by linarith)]
  constructor <;> linarith

theorem abs_point_of_lt {n : Nat} (h : below i e < n) :
    |(n : ℚ) * 10 ^ e - i.value| = n * 10 ^ e - i.value ∧
      (below i e + 1) * 10 ^ e - i.value ≤ n * 10 ^ e - i.value := by
  have hpower : (0 : ℚ) < 10 ^ e := by positivity
  have hle : ((below i e : ℚ) + 1) * 10 ^ e ≤ n * 10 ^ e :=
    mul_le_mul_of_nonneg_right (by exact_mod_cast h) hpower.le
  have habove := (below_bounds i e).2
  rw [abs_of_nonneg (by linarith)]
  constructor <;> linarith

/-- The nearest point is not farther from the centre than any other. -/
theorem abs_nearest_le (tie : Tie) (i : Interval) (e : Int) (other : Nat) :
    |((Grid.of e).nearest tie i : ℚ) * 10 ^ e - i.value| ≤ |(other : ℚ) * 10 ^ e - i.value| := by
  have hbelow := abs_point_of_le (Nat.le_refl (below i e))
  have habove := abs_point_of_lt (Nat.lt_succ_self (below i e))
  rw [Nat.cast_succ] at habove
  have hother : i.value - below i e * 10 ^ e ≤ |(other : ℚ) * 10 ^ e - i.value| ∨
      (below i e + 1) * 10 ^ e - i.value ≤ |(other : ℚ) * 10 ^ e - i.value| := by
    rcases Nat.lt_or_ge (below i e) other with hgt | hle
    · exact Or.inr ((abs_point_of_lt hgt).2.trans (abs_point_of_lt hgt).1.ge)
    · exact Or.inl ((abs_point_of_le hle).2.trans (abs_point_of_le hle).1.ge)
  rcases nearest_cases tie i e with ⟨hnearest, hle⟩ | ⟨hnearest, hle⟩
  · rw [hnearest, hbelow.1]
    rcases hother with hother | hother
    · exact hother
    · exact hle.trans hother
  · rw [hnearest, Nat.cast_succ, habove.1]
    rcases hother with hother | hother
    · exact hle.trans hother
    · exact hother

/-- If any point of a grid lies in an interval, then so does one of the two around the centre: the
one on the same side. -/
theorem contains_below (hcentre : i.Contains i.value) (h : i.Contains (point * 10 ^ e))
    (hle : point ≤ below i e) : i.Contains (below i e * 10 ^ e) :=
  h.between hcentre (by linarith [(abs_point_of_le hle).2]) (below_bounds i e).1

theorem contains_above (hcentre : i.Contains i.value) (h : i.Contains (point * 10 ^ e))
    (hlt : below i e < point) : i.Contains ((below i e + 1 : ℕ) * 10 ^ e) := by
  rw [Nat.cast_succ]
  exact hcentre.between h (below_bounds i e).2.le (by linarith [(abs_point_of_lt hlt).2])

theorem pick?_of (tie : Tie) (i : Interval) (e : Int) :
    (Grid.of e).pick? tie i =
      match (Grid.of e).hits i (below i e), (Grid.of e).hits i (below i e + 1) with
      | true, true => some ((Grid.of e).nearest tie i)
      | true, false => some (below i e)
      | false, true => some (below i e + 1)
      | false, false => none := rfl

theorem closestPoint_of_pick? {tie : Tie} (hcentre : i.Contains i.value)
    (h : (Grid.of e).pick? tie i = some point) : i.ClosestPoint e point := by
  rw [pick?_of] at h
  split at h
  case h_1 hbelow habove =>
    obtain rfl := Option.some_inj.1 h
    refine ⟨?_, fun other _ => abs_nearest_le tie i e other⟩
    rcases nearest_cases tie i e with ⟨hnearest, -⟩ | ⟨hnearest, -⟩ <;> rw [hnearest]
    · exact hits_of_iff.1 hbelow
    · exact hits_of_iff.1 habove
  case h_2 hbelow habove =>
    obtain rfl := Option.some_inj.1 h
    refine ⟨hits_of_iff.1 hbelow, fun other hother => ?_⟩
    have hle : other ≤ below i e := by
      by_contra hlt
      have hits := hits_of_iff.2 (contains_above hcentre hother (Nat.lt_of_not_le hlt))
      simp [habove] at hits
    rw [(abs_point_of_le (Nat.le_refl _)).1, (abs_point_of_le hle).1]
    exact (abs_point_of_le hle).2
  case h_3 hbelow habove =>
    obtain rfl := Option.some_inj.1 h
    refine ⟨hits_of_iff.1 habove, fun other hother => ?_⟩
    have hlt : below i e < other := by
      by_contra hle
      have hits := hits_of_iff.2 (contains_below hcentre hother (Nat.le_of_not_lt hle))
      simp [hbelow] at hits
    rw [(abs_point_of_lt (Nat.lt_succ_self _)).1, (abs_point_of_lt hlt).1, Nat.cast_succ]
    exact (abs_point_of_lt hlt).2
  case h_4 => exact absurd h (Option.some_ne_none _).symm

theorem not_contains_of_pick? {tie : Tie} (hcentre : i.Contains i.value)
    (h : (Grid.of e).pick? tie i = none) (other : Nat) : ¬i.Contains (other * 10 ^ e) := by
  intro hother
  rw [pick?_of] at h
  rcases Nat.lt_or_ge (below i e) other with hlt | hle
  · have habove := hits_of_iff.2 (contains_above hcentre hother hlt)
    rw [habove] at h
    split at h <;> simp_all
  · have hbelow := hits_of_iff.2 (contains_below hcentre hother hle)
    rw [hbelow] at h
    split at h <;> simp_all

/-- The nearest point is at most half the spacing away. -/
theorem abs_nearest_le_half (tie : Tie) (i : Interval) (e : Int) :
    2 * |((Grid.of e).nearest tie i : ℚ) * 10 ^ e - i.value| ≤ 10 ^ e := by
  rcases nearest_cases tie i e with ⟨hnearest, hle⟩ | ⟨hnearest, hle⟩
  · rw [hnearest, (abs_point_of_le (Nat.le_refl _)).1]
    linarith
  · rw [hnearest, (abs_point_of_lt (Nat.lt_succ_self _)).1, Nat.cast_succ]
    linarith

end Grid

/-! ## Seventeen digits -/

namespace Interval

variable {m : Magnitude} {x : ℚ}

/-- The interval of a magnitude holds whatever is as near to it as seventeen digits can come. -/
theorem contains_of_near (h : m.significand ≠ 0)
    (hnear : 2 * 10 ^ 16 * |x - (of m).value| ≤ (of m).value) : (of m).Contains x := by
  obtain ⟨below, hlow, hhigh, hfew⟩ : ∃ below, (of m).low + below = (of m).centre ∧
      (of m).centre + below ≤ (of m).high ∧ (of m).centre < 2 * 10 ^ 16 * below := by
    have hlt : m.significand < 0x20000000000000 := m.significand_lt
    have hstep : 0 < 2 ^ m.scale := by positivity
    have hunits : 1 * 2 ^ m.scale ≤ m.significand * 2 ^ m.scale :=
      Nat.mul_le_mul_right _ (by omega)
    rw [low_of, high_of, centre_of, m.units_eq]
    split
    · rename_i hpower
      rw [hpower.1]
      exact ⟨2 ^ m.scale, by omega, by omega, by omega⟩
    · have hbits : m.significand * 2 ^ m.scale < 0x20000000000000 * 2 ^ m.scale :=
        Nat.mul_lt_mul_of_pos_right hlt hstep
      exact ⟨2 * 2 ^ m.scale, by omega, by omega, by omega⟩
  have hden : (0 : ℚ) < den := Nat.cast_pos.2 den_pos
  have hlow : ((of m).low : ℚ) + below = (of m).centre := by exact_mod_cast hlow
  have hhigh : ((of m).centre : ℚ) + below ≤ (of m).high := by exact_mod_cast hhigh
  have hfew : ((of m).centre : ℚ) < 2 * 10 ^ 16 * below := by exact_mod_cast hfew
  have hvalue := value_mul_den (of m)
  have hdistance : |x - (of m).value| * den < below := by
    have := mul_le_mul_of_nonneg_right hnear hden.le
    linarith
  have hupper : (x - (of m).value) * den < below :=
    (mul_le_mul_of_nonneg_right (le_abs_self _) hden.le).trans_lt hdistance
  have hlower : -(x - (of m).value) * den < below :=
    (mul_le_mul_of_nonneg_right (neg_le_abs _) hden.le).trans_lt hdistance
  exact contains_of_lt (by linarith) (by linarith)

theorem value_of_pos (h : m.significand ≠ 0) : 0 < (of m).value := by
  have hunits : 0 < (of m).centre := by
    rw [centre_of, m.units_eq]
    exact Nat.mul_pos (by decide) (Nat.mul_pos (Nat.pos_of_ne_zero h) (by positivity))
  exact div_pos (Nat.cast_pos.2 hunits) (Nat.cast_pos.2 den_pos)

theorem contains_value (h : m.significand ≠ 0) : (of m).Contains (of m).value :=
  contains_of_near h (by rw [sub_self, abs_zero, mul_zero]; exact (value_of_pos h).le)

theorem value_of_bounds (h : m.significand ≠ 0) :
    (10 : ℚ) ^ (order (of m).centre den - 1) ≤ (of m).value ∧
      (of m).value < 10 ^ order (of m).centre den := by
  refine order_bounds (Nat.pos_of_ne_zero fun hzero => ?_) den_pos
  have hpos := value_of_pos h
  rw [value, hzero, Nat.cast_zero, zero_div] at hpos
  exact absurd hpos (lt_irrefl 0)

/-- Of the decimals with seventeen digits, the one nearest to a magnitude is in its interval. -/
theorem closestPoint_nearest (h : m.significand ≠ 0) (tie : Tie) {n : Int}
    (hn : (10 : ℚ) ^ (n - 1) ≤ (of m).value) :
    (of m).ClosestPoint (n - 17) ((Grid.of (n - 17)).nearest tie (of m)) := by
  refine ⟨contains_of_near h ?_, fun other _ => Grid.abs_nearest_le tie (of m) _ other⟩
  have hhalf := Grid.abs_nearest_le_half tie (of m) (n - 17)
  have hpower : (10 : ℚ) ^ (n - 1) = (10 ^ 16 : ℕ) * 10 ^ (n - 17) := by
    rw [pow_mul_zpow]
    congr 1
    omega
  rw [hpower, Nat.cast_pow, Nat.cast_ofNat] at hn
  linarith

end Interval

/-! ## The search -/

variable {i : Interval} {tie : Tie} {n : Int}

/-- The search ends at the first grid of which a point lies in the interval, with the closest one of
its points. -/
theorem search_eq (hcentre : i.Contains i.value) (more k : Nat)
    (hlast : i.ClosestPoint (n - (k + more : ℕ)) ((Grid.of (n - (k + more : ℕ))).nearest tie i)) :
    ∃ j point, k ≤ j ∧ search tie i n more k = strip point (n - j) ∧
      i.ClosestPoint (n - j) point ∧
      ∀ j', k ≤ j' → j' < j → ∀ other : Nat, ¬i.Contains (other * 10 ^ (n - (j' : Int))) := by
  induction more generalizing k with
  | zero => exact ⟨k, _, Nat.le_refl k, rfl, hlast, fun j' hle hlt => absurd hlt (by omega)⟩
  | succ more ih =>
    rw [search]
    cases hpick : (Grid.of (n - (k : Int))).pick? tie i with
    | some point =>
      exact ⟨k, point, Nat.le_refl k, by simp only,
        Grid.closestPoint_of_pick? hcentre hpick, fun j' hle hlt => absurd hlt (by omega)⟩
    | none =>
      rw [show k + (more + 1) = k + 1 + more by omega] at hlast
      obtain ⟨j, point, hle, hvalue, hclosest, hfirst⟩ := ih (k + 1) hlast
      refine ⟨j, point, by omega, by simp only [hvalue], hclosest, fun j' hle' hlt => ?_⟩
      -- the grid of `k` digits was passed here, the others by the rest of the search
      rcases Nat.eq_or_lt_of_le hle' with rfl | hgt
      · exact Grid.not_contains_of_pick? hcentre hpick
      · exact hfirst j' hgt hlt

/-- Stripping zeros divides the digits by a power of ten, the one after which they end in no zero.
-/
theorem exists_strip (digits : Nat) (exponent : Int) :
    ∃ t : Nat, digits = (strip digits exponent).digits * 10 ^ t ∧
      (strip digits exponent).exponent = exponent + t ∧
      (digits ≠ 0 → (strip digits exponent).digits % 10 ≠ 0) := by
  fun_induction strip digits exponent with
  | case1 digits exponent h ih =>
    obtain ⟨t, hdigits, hexponent, hmod⟩ := ih
    refine ⟨t + 1, ?_, by rw [hexponent]; push_cast; ring, fun _ => hmod (by omega)⟩
    calc digits = digits / 10 * 10 := by omega
      _ = (strip (digits / 10) (exponent + 1)).digits * 10 ^ t * 10 := by rw [← hdigits]
      _ = _ := by ring
  | case2 digits exponent h =>
    exact ⟨0, (Nat.mul_one _).symm, (Int.add_zero _).symm, fun hne hmod => h ⟨hne, hmod⟩⟩

theorem value_strip (digits : Nat) (exponent : Int) :
    (strip digits exponent).value = digits * 10 ^ exponent := by
  obtain ⟨t, hdigits, hexponent, -⟩ := exists_strip digits exponent
  rw [value, hexponent, zpow_add₀ (by norm_num), zpow_natCast]
  conv_rhs => rw [hdigits]
  push_cast
  ring

theorem length_digitChars_pos (d : Decimal) : 0 < d.digitChars.length :=
  Nat.length_toDigits_pos

/-- Stripping leaves at most `k` digits of a number up to `10 ^ k`. -/
theorem length_strip_le {digits k : Nat} (hk : 0 < k) (h : digits ≤ 10 ^ k) (exponent : Int) :
    (strip digits exponent).digitChars.length ≤ k := by
  refine (Nat.length_toDigits_le_iff (by decide) hk).2 ?_
  obtain ⟨t, hdigits, -, hmod⟩ := exists_strip digits exponent
  have hpower : 0 < 10 ^ k := by positivity
  rcases Nat.eq_zero_or_pos t with rfl | ht
  · rw [pow_zero, Nat.mul_one] at hdigits
    rw [← hdigits] at hmod ⊢
    refine Nat.lt_of_le_of_ne h fun heq => ?_
    refine hmod (heq ▸ hpower.ne') ?_
    rw [heq, ← Nat.sub_add_cancel hk, pow_succ, Nat.mul_mod_left]
  · have hten : (strip digits exponent).digits * 10 ≤ digits := by
      conv_rhs => rw [hdigits, ← Nat.sub_add_cancel ht, pow_succ, ← Nat.mul_assoc]
      exact Nat.mul_le_mul_right 10 (Nat.le_mul_of_pos_right _ (by positivity))
    omega

/-- A closest point is not beyond a power of ten that the centre is below. -/
theorem Interval.ClosestPoint.le_pow {k point : Nat} (h : i.ClosestPoint (n - (k : Int)) point)
    (hcentre : i.Contains i.value) (hn : i.value < 10 ^ n) : point ≤ 10 ^ k := by
  have hpower : (10 : ℚ) ^ n = ((10 ^ k : ℕ) : ℚ) * 10 ^ (n - (k : Int)) := by
    rw [pow_mul_zpow]
    congr 1
    omega
  by_contra hbeyond
  have hlt : (10 : ℚ) ^ n < point * 10 ^ (n - (k : Int)) := by
    rw [hpower]
    exact mul_lt_mul_of_pos_right (Nat.cast_lt.2 (Nat.lt_of_not_le hbeyond)) (by positivity)
  have hin : i.Contains (10 ^ n) := hcentre.between h.contains hn.le hlt.le
  have hcloser := h.closest (10 ^ k) (hpower ▸ hin)
  rw [← hpower, abs_of_pos (by linarith), abs_of_pos (by linarith)] at hcloser
  linarith

/-- The grid that has as many points below the next power of ten as a number has digits comes at
least as close to the centre of an interval as that number does. -/
theorem exists_point_of_contains (hcentre : i.Contains i.value)
    (hn : (10 : ℚ) ^ (n - 1) ≤ i.value) {d : Decimal} (hd : d.digits ≠ 0)
    (hin : i.Contains d.value) :
    ∃ point : Nat, i.Contains (point * 10 ^ (n - (d.digitChars.length : Int))) ∧
      |point * 10 ^ (n - (d.digitChars.length : Int)) - i.value| ≤ |d.value - i.value| := by
  have hlength := d.length_digitChars_pos
  have hupper : d.value < 10 ^ (d.digitChars.length + d.exponent) :=
    (mul_zpow_bounds hd d.exponent).2
  rcases Int.lt_or_le d.exponent (n - (d.digitChars.length : Int)) with hcoarse | hfine
  · -- the number is below a power of ten that the centre is not below
    have hpoint : ((10 ^ (d.digitChars.length - 1) : ℕ) : ℚ) *
        10 ^ (n - (d.digitChars.length : Int)) = 10 ^ (n - 1) := by
      rw [pow_mul_zpow]
      congr 1
      omega
    have hbelow : d.value < 10 ^ (n - 1) :=
      hupper.trans_le (zpow_le_zpow_right₀ (by norm_num) (by omega))
    refine ⟨10 ^ (d.digitChars.length - 1), ?_, ?_⟩
    · rw [hpoint]
      exact hin.between hcentre hbelow.le hn
    · rw [hpoint, abs_of_nonpos (by linarith), abs_of_neg (by linarith)]
      linarith
  · -- the number is a point itself
    obtain ⟨s, hs⟩ := Int.le.dest hfine
    have hpoint : ((d.digits * 10 ^ s : ℕ) : ℚ) * 10 ^ (n - (d.digitChars.length : Int)) =
        d.value := by
      rw [value, ← hs, zpow_add₀ (by norm_num), zpow_natCast]
      push_cast
      ring
    exact ⟨d.digits * 10 ^ s, hpoint ▸ hin, hpoint ▸ le_refl _⟩

/-! ## Shortest decimals -/

variable {m : Magnitude}

/-- Whether a decimal is read as a magnitude. -/
def ReadsAs (d : Decimal) (m : Magnitude) : Prop :=
  Binary64.ofDecimal false d.digits d.exponent = .finite false m

/-- Whether a decimal is a shortest one of a magnitude: none that is read as the magnitude has
fewer digits, and none with as many digits is nearer to it. -/
structure IsShortest (d : Decimal) (m : Magnitude) : Prop where
  readsAs : d.ReadsAs m
  fewest : ∀ other : Decimal, other.ReadsAs m → d.digitChars.length ≤ other.digitChars.length
  nearest : ∀ other : Decimal, other.ReadsAs m → other.digitChars.length = d.digitChars.length →
    |d.value - m.value| ≤ |other.value - m.value|

theorem readsAs_iff (h : m.significand ≠ 0) {d : Decimal} :
    d.ReadsAs m ↔ (Interval.of m).Contains d.value :=
  ofDecimal_eq_finite_iff h false d

theorem Interval.value_of (m : Magnitude) : (Interval.of m).value = m.value := by
  rw [Interval.value, Magnitude.value, Interval.centre_of, Interval.den_eq]
  generalize Nat.pow 2 1074 = unit
  rw [Nat.cast_mul, Nat.cast_mul, mul_div_mul_left _ _ (by norm_num)]

theorem digits_ne_zero_of_readsAs (h : m.significand ≠ 0) {d : Decimal} (hd : d.ReadsAs m) :
    d.digits ≠ 0 := by
  intro hzero
  have hlow := ((readsAs_iff h).1 hd).le.1
  have htwo : (2 : ℚ) ≤ (Interval.of m).low := by exact_mod_cast Interval.two_le_low_of h
  rw [value, hzero, Nat.cast_zero, zero_mul, zero_mul] at hlow
  linarith

/-- **The shortest decimal of a magnitude is one.** -/
theorem isShortest_shortest (h : m.significand ≠ 0) (tie : Tie) :
    (shortest tie m).IsShortest m := by
  obtain ⟨hlow, hhigh⟩ := Interval.value_of_bounds h
  have hcentre := Interval.contains_value h
  obtain ⟨k, point, hk, hvalue, hclosest, hfirst⟩ :=
    search_eq hcentre 16 1 (Interval.closestPoint_nearest h tie hlow)
  replace hvalue : shortest tie m = strip point (_ - (k : Int)) := hvalue
  have hlength : (shortest tie m).digitChars.length ≤ k := by
    rw [hvalue]
    exact length_strip_le hk (hclosest.le_pow hcentre hhigh) _
  -- a decimal with fewer digits would have made the search end earlier
  have hleast (other : Decimal) (hother : other.ReadsAs m) : k ≤ other.digitChars.length := by
    by_contra hless
    obtain ⟨q, hq, -⟩ := exists_point_of_contains hcentre hlow
      (digits_ne_zero_of_readsAs h hother) ((readsAs_iff h).1 hother)
    exact hfirst _ other.length_digitChars_pos (Nat.lt_of_not_le hless) q hq
  refine ⟨?_, fun other hother => hlength.trans (hleast other hother), ?_⟩
  · rw [readsAs_iff h, hvalue, value_strip]
    exact hclosest.contains
  · intro other hother hsame
    have hk' : other.digitChars.length = k :=
      Nat.le_antisymm (hsame ▸ hlength) (hleast other hother)
    obtain ⟨q, hq, hnear⟩ := exists_point_of_contains hcentre hlow
      (digits_ne_zero_of_readsAs h hother) ((readsAs_iff h).1 hother)
    rw [hk'] at hq hnear
    rw [← Interval.value_of, hvalue, value_strip]
    exact (hclosest.closest q hq).trans hnear

end Decimal
end MarkupJsx
