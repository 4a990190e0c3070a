import Mathlib.Algebra.Group.Nat.Defs
import Mathlib.Data.Int.Order.Basic
import Mathlib.Data.Nat.Basic
import MarkupJsx.Proofs.Script.Positions

/-!
# Offsets as natural numbers

The places of a script are doubles, and they compare in ways that depend on what is known about
them.  Where all offsets are natural numbers below `2 ^ 53` and are said in one and the same way,
nothing of this matters: the places compare as the numbers do.

* `Binary64.whole?`: the natural number that a double stands for.  Natural numbers below `2 ^ 53`
  become doubles without loss (`whole?_ofNat`).
* `OffsetSource`: the two ways, by `range` alone, or by `start` and `end` alone.
* `Measured`: a script whose program, nodes and comments all say their offsets in one way.
-/

namespace MarkupJsx

/-! ## Doubles that are natural numbers -/

namespace Binary64

/-- The number of bits of a unit behind the point.  The power of two with this exponent is never to
be computed, so the number is kept folded. -/
@[irreducible] def unitBits : Nat :=
  1074

theorem unitBits_eq : unitBits = 1074 := by
  unfold unitBits
  rfl

/-- The number one, in the units of magnitudes. -/
def unitsOfOne : Nat :=
  2 ^ unitBits

/-- The natural number that a double stands for, if it stands for one. -/
def whole? : Binary64 → Option Nat
  | finite false magnitude =>
    if magnitude.units % unitsOfOne = 0 then some (magnitude.units / unitsOfOne) else none
  | _ => none

theorem unitsOfOne_pos : 0 < unitsOfOne :=
  Nat.two_pow_pos unitBits

theorem rank?_of_whole? {x : Binary64} {n : Nat} (h : x.whole? = some n) :
    x.rank? = some ((n * unitsOfOne : Nat) : Int) := by
  match x with
  | finite false magnitude =>
    rw [whole?] at h
    split at h
    · rename_i hmod
      rw [← Option.some_inj.1 h, Nat.div_mul_cancel (Nat.dvd_of_mod_eq_zero hmod)]
      rfl
    · exact nomatch h

/-- The magnitude of an integer that is known as a significand and a scale. -/
theorem ofRatio?_eq {n significand scale : Nat}
    (hvalue : n * unitsOfOne = significand * 2 ^ scale)
    (hscale : (n * unitsOfOne).log2 - 52 = scale) (hsmall : significand < 0x20000000000000)
    (hcanonical : scale = 0 ∨ 0x10000000000000 ≤ significand) (hle : scale ≤ 2045) :
    Magnitude.ofRatio? n 1 = some ⟨significand, scale, hsmall, hcanonical, hle⟩ := by
  have hround : Magnitude.divHalfEven (n * unitsOfOne) (2 ^ scale) = significand := by
    rw [hvalue]
    exact Magnitude.divHalfEven_mul_self _ _ (Nat.two_pow_pos _)
  have hunfold : Magnitude.ofRatio? n 1 =
      if Magnitude.divHalfEven (n * unitsOfOne)
          (1 * 2 ^ ((n * unitsOfOne / 1).log2 - 52)) = 0x20000000000000 then
        Magnitude.ofParts? 0x10000000000000 ((n * unitsOfOne / 1).log2 - 52 + 1)
      else
        Magnitude.ofParts? (Magnitude.divHalfEven (n * unitsOfOne)
          (1 * 2 ^ ((n * unitsOfOne / 1).log2 - 52))) ((n * unitsOfOne / 1).log2 - 52) := by
    rw [Magnitude.ofRatio?, ← unitBits_eq]
    rfl
  rw [hunfold, Nat.div_one, Nat.one_mul, hscale, hround, if_neg hsmall.ne, Magnitude.ofParts?,
    dif_pos ⟨hsmall, hcanonical, hle⟩]

/-- The magnitude of a natural number with at most 53 bits has that number as its value. -/
theorem exists_ofRatio?_eq {n : Nat} (hn : n < 2 ^ 53) :
    ∃ magnitude, Magnitude.ofRatio? n 1 = some magnitude ∧ magnitude.units = n * unitsOfOne := by
  by_cases hzero : n = 0
  · subst hzero
    refine ⟨⟨0, 0, by decide, Or.inl rfl, by decide⟩,
      ofRatio?_eq (by simp only [Nat.zero_mul]) ?_ _ _ _, ?_⟩
    · rw [Nat.zero_mul, Nat.log2_zero]
    · rw [Nat.zero_mul, Magnitude.units, Nat.zero_mul]
  have hlow := Nat.log2_self_le hzero
  have hhigh : n < 2 ^ (n.log2 + 1) := Nat.lt_log2_self
  have hlog : n.log2 < 53 := (Nat.log2_lt hzero).2 hn
  -- The number has `log2 n + 1` bits, so `52 - log2 n` zeros make a significand of it.
  obtain ⟨zeros, hzeros⟩ : ∃ zeros, n.log2 + zeros = 52 := ⟨52 - n.log2, by omega⟩
  have hunitBits := unitBits_eq
  obtain ⟨scale, hscale⟩ : ∃ scale, zeros + scale = unitBits := ⟨unitBits - zeros, by omega⟩
  have hunits : unitsOfOne = 2 ^ zeros * 2 ^ scale := by
    rw [unitsOfOne, ← Nat.pow_add, hscale]
  have hbits : (n * unitsOfOne).log2 = n.log2 + unitBits := by
    refine (Nat.log2_eq_iff (Nat.mul_ne_zero hzero unitsOfOne_pos.ne')).2 ⟨?_, ?_⟩
    · rw [Nat.pow_add]
      exact Nat.mul_le_mul_right _ hlow
    · rw [Nat.add_right_comm, Nat.pow_add]
      exact Nat.mul_lt_mul_of_pos_right hhigh unitsOfOne_pos
  have hsmall : n * 2 ^ zeros < 0x20000000000000 := by
    calc n * 2 ^ zeros < 2 ^ (n.log2 + 1) * 2 ^ zeros :=
          Nat.mul_lt_mul_of_pos_right hhigh (Nat.two_pow_pos zeros)
      _ = 2 ^ 53 := by rw [← Nat.pow_add, Nat.add_right_comm, hzeros]
  have hlarge : 0x10000000000000 ≤ n * 2 ^ zeros := by
    calc 0x10000000000000 = 2 ^ n.log2 * 2 ^ zeros := by rw [← Nat.pow_add, hzeros]
      _ ≤ n * 2 ^ zeros := Nat.mul_le_mul_right _ hlow
  have hvalue : n * unitsOfOne = n * 2 ^ zeros * 2 ^ scale := by
    rw [hunits, Nat.mul_assoc]
  refine ⟨⟨n * 2 ^ zeros, scale, hsmall, Or.inr hlarge, by omega⟩, ?_, hvalue.symm⟩
  exact ofRatio?_eq hvalue (by omega) _ _ _

/-- **Natural numbers below `2 ^ 53` become doubles without loss.** -/
theorem whole?_ofNat {n : Nat} (hn : n < 2 ^ 53) : whole? (Binary64.ofNat n) = some n := by
  obtain ⟨magnitude, hmagnitude, hunits⟩ := exists_ofRatio?_eq hn
  have hfinite : Binary64.ofNat n = finite false magnitude :=
    (ofNat_eq_ofRatio n).trans (ofRatio_of_some false hmagnitude)
  rw [hfinite, whole?, hunits, Nat.mul_mod_left, if_pos rfl, Nat.mul_div_cancel _ unitsOfOne_pos]

end Binary64

namespace Script

/-! ## Places with an offset -/

/-- Where offsets are read: under `range`, or under `start` and `end` if there are neither `range`
nor `loc`. -/
inductive OffsetSource where
  | range
  | ends

/-- Offsets as one of the ways of saying where something is. -/
def OffsetSource.kind : OffsetSource → PositionKind
  | .range => .range
  | .ends => .ends

/-- An offset as a pair of numbers. -/
def offsetPosition (offset : Nat) : Int ×ₗ Int :=
  toLex (((offset * Binary64.unitsOfOne : Nat) : Int), 0)

theorem offsetPosition_lt_iff {m n : Nat} : offsetPosition m < offsetPosition n ↔ m < n := by
  rw [offsetPosition, offsetPosition, Prod.Lex.toLex_lt_toLex]
  simp only [Int.ofNat_lt, lt_irrefl, and_false, or_false]
  exact Nat.mul_lt_mul_right Binary64.unitsOfOne_pos

/-- The offset of an end of a span. -/
def spanOffset? (source : OffsetSource) (edge : Edge) (span : Span) : Option Nat :=
  match source with
  | .range => span.range.map edge.of
  | .ends =>
    if span.range.isNone && span.location.isNone then edge.of (span.start, span.stop) else none

namespace Place

/-- The offset of a place, if it is a natural number. -/
def offset? (source : OffsetSource) (place : Place) : Option Nat :=
  match source with
  | .range => place.range.bind Binary64.whole?
  | .ends =>
    if place.range.isNone && place.location.isNone then place.offset.bind Binary64.whole? else none

variable {source : OffsetSource} {p q : Place} {m n : Nat}

/-- The number that a place with an offset compares by. -/
theorem exists_range_of_offset? (h : p.offset? .range = some n) :
    ∃ x : Binary64, p.range = some x ∧ x.whole? = some n :=
  Option.bind_eq_some_iff.1 h

theorem exists_offset_of_offset? (h : p.offset? .ends = some n) :
    p.range = none ∧ p.location = none ∧
      ∃ x : Binary64, p.offset = some x ∧ x.whole? = some n := by
  rw [offset?] at h
  split at h
  · rename_i hnone
    obtain ⟨hrange, hlocation⟩ := eq_none_of_isNone_and_isNone hnone
    exact ⟨hrange, hlocation, Option.bind_eq_some_iff.1 h⟩
  · exact nomatch h

/-- An end of a span has the offset that is written there. -/
theorem offset?_ofSpan {edge : Edge} {span : Span} (h : spanOffset? source edge span = some n)
    (hn : n < 2 ^ 53) : (ofSpan edge span).offset? source = some n := by
  cases source with
  | range =>
    obtain ⟨pair, hpair, rfl⟩ := Option.map_eq_some_iff.1 h
    rw [offset?, ofSpan, hpair, Option.map_some, Option.bind_some, Binary64.whole?_ofNat hn]
  | ends =>
    rw [spanOffset?] at h
    split at h
    · rename_i hnone
      obtain ⟨hrange, hlocation⟩ := eq_none_of_isNone_and_isNone hnone
      rw [offset?, ofSpan, hrange, hlocation, h, Option.map_none, Option.map_none, Option.map_some,
        Option.isNone_none, Option.isNone_none, Bool.and_self, if_pos rfl, Option.bind_some,
        Binary64.whole?_ofNat hn]
    · exact nomatch h

/-- An offset is a way of saying where something is. -/
theorem position?_of_offset? (h : p.offset? source = some n) :
    p.position? source.kind = some (offsetPosition n) := by
  cases source with
  | range =>
    obtain ⟨x, hx, hn⟩ := exists_range_of_offset? h
    show (p.range.bind Binary64.rank?).map _ = _
    rw [hx, Option.bind_some, Binary64.rank?_of_whole? hn]
    rfl
  | ends =>
    obtain ⟨hrange, hlocation, x, hx, hn⟩ := exists_offset_of_offset? h
    show (if p.range.isNone && p.location.isNone then _ else _) = _
    rw [hrange, hlocation, hx, Option.bind_some, Binary64.rank?_of_whole? hn]
    rfl

/-! **Places with offsets compare as the offsets do.** -/

theorem before_of_offset? (hp : p.offset? source = some m) (hq : q.offset? source = some n) :
    before p q = decide (m < n) := by
  rw [before_of_position? (position?_of_offset? hp) (position?_of_offset? hq)]
  exact decide_eq_decide.2 offsetPosition_lt_iff

theorem reaches_of_offset? (hp : p.offset? source = some m) (hq : q.offset? source = some n) :
    reaches p q = decide (m ≤ n) := by
  rw [reaches_of_position? (position?_of_offset? hp) (position?_of_offset? hq)]
  refine decide_eq_decide.2 ?_
  rw [← not_lt, ← not_lt, offsetPosition_lt_iff]

/-- Siblings with offsets are put in the order of their offsets. -/
theorem keyBefore_of_offset? (hp : p.offset? source = some m) (hq : q.offset? source = some n) :
    keyBefore p q = decide (m < n) := by
  rw [keyBefore_of_position? (position?_of_offset? hp) (position?_of_offset? hq)]
  exact decide_eq_decide.2
    (Int.ofNat_lt.trans (Nat.mul_lt_mul_right Binary64.unitsOfOne_pos))

end Place

/-! ## Scripts with offsets -/

/-- Whether an offset is there, and below `2 ^ 53`. -/
def isSmall (offset : Option Nat) : Bool :=
  offset.any fun offset => offset < 2 ^ 53

theorem exists_of_isSmall {offset : Option Nat} (h : isSmall offset) :
    ∃ n, offset = some n ∧ n < 2 ^ 53 := by
  cases offset with
  | none => exact nomatch h
  | some n => exact ⟨n, rfl, of_decide_eq_true h⟩

/-- A script in which everything has offsets below `2 ^ 53`, all of them read in one way: the start
and the end of the program and of each node, and the start of each comment. -/
structure Measured (source : OffsetSource) (script : Script) : Prop where
  program : ∀ edge, isSmall (spanOffset? source edge script.span)
  nodes : ∀ node ∈ script.nodes, ∀ edge, isSmall ((Place.ofFields edge node.2).offset? source)
  comments : ∀ comment ∈ script.comments,
    isSmall (spanOffset? source .start comment.origin.span)

instance (source : OffsetSource) (script : Script) : Decidable (script.Measured source) :=
  decidable_of_iff
    ((∀ edge, isSmall (spanOffset? source edge script.span)) ∧
      (∀ node ∈ script.nodes, ∀ edge, isSmall ((Place.ofFields edge node.2).offset? source)) ∧
      ∀ comment ∈ script.comments, isSmall (spanOffset? source .start comment.origin.span))
    ⟨fun h => ⟨h.1, h.2.1, h.2.2⟩, fun h => ⟨h.program, h.nodes, h.comments⟩⟩

end Script
end MarkupJsx
