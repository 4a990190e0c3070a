import Mathlib.Algebra.Order.Field.Rat
import Mathlib.Data.List.TakeDrop
import Mathlib.Tactic.NormNum
import Mathlib.Tactic.Ring
import MarkupJsx.Decimal.Layout
import MarkupJsx.Json.Reader

/-!
# Numerals

Numbers are written as digits, with a point and further digits if need be, and with an exponent if
need be.  `Numeral` holds these parts, `Numeral.text` writes them and `Numeral.value` is the number
that they mean.  The text is read back with the readers for the parts of numbers in JSON text, and
what is read is the number (`Numeral.read_text`, `Numeral.readSigned_withSign`).

Both layouts of the digits of a decimal are numerals: the one that has a point among, before or
after the digits (`Decimal.exists_numeral_positional`), and the one with an exponent
(`Decimal.exists_numeral_scientific`).
-/

namespace MarkupJsx

/-! ## Digits -/

namespace Json

variable {digits : List Char}

theorem valueOfDigits_eq (digits : List Char) :
    valueOfDigits digits = Nat.ofDigitChars 10 digits 0 := by
  simp only [valueOfDigits, Nat.ofDigitChars, Nat.mul_comm]
  rfl

theorem valueOfDigits_toDigits (n : Nat) : valueOfDigits (Nat.toDigits 10 n) = n := by
  rw [valueOfDigits_eq, Nat.ofDigitChars_ten_toDigits]

theorem valueOfDigits_zeros_append (count : Nat) (digits : List Char) :
    valueOfDigits (List.replicate count '0' ++ digits) = valueOfDigits digits := by
  rw [valueOfDigits_eq, valueOfDigits_eq, Nat.ofDigitChars_append, Nat.ofDigitChars_replicate_zero,
    Nat.mul_zero]

theorem valueOfDigits_append_zeros (digits : List Char) (count : Nat) :
    valueOfDigits (digits ++ List.replicate count '0') = 10 ^ count * valueOfDigits digits := by
  rw [valueOfDigits_eq, valueOfDigits_eq, Nat.ofDigitChars_append, Nat.ofDigitChars_replicate_zero]

/-- Digits are read up to the first character that is none. -/
theorem readDigits_append (rest : List Char) (hne : digits ≠ [])
    (hdigits : ∀ c ∈ digits, c.isDigit) (hrest : ∀ c ∈ rest.head?, c.isDigit = false) :
    readDigits (digits ++ rest) = .ok (digits, rest) := by
  have hspan : (digits ++ rest).span Char.isDigit = (digits, rest) := by
    rw [List.span_eq_takeWhile_dropWhile, List.takeWhile_append_of_pos hdigits,
      List.dropWhile_append_of_pos hdigits]
    cases rest with
    | nil => rw [List.takeWhile_nil, List.dropWhile_nil, List.append_nil]
    | cons c rest =>
      have hc : ¬c.isDigit := by simpa using hrest c rfl
      rw [List.takeWhile_cons_of_neg hc, List.dropWhile_cons_of_neg hc, List.append_nil]
  rw [readDigits, hspan]
  cases digits with
  | nil => exact absurd rfl hne
  | cons digit digits => rfl

theorem readDigits_of_isDigit (hne : digits ≠ []) (hdigits : ∀ c ∈ digits, c.isDigit) :
    readDigits digits = .ok (digits, []) := by
  have hread := readDigits_append [] hne hdigits (by simp)
  rwa [List.append_nil] at hread

end Json

open Json (readDigits readWhole readFraction readExponent valueOfDigits)

/-- The parts of a number without a sign, as they can be written: digits, of which the first is no
zero if there is another one, the digits after the point, and the exponent. -/
structure Numeral where
  whole : List Char
  fraction : List Char
  exponent : Option Int
  whole_ne_nil : whole ≠ []
  isDigit_whole : ∀ c ∈ whole, c.isDigit
  isDigit_fraction : ∀ c ∈ fraction, c.isDigit
  no_leading_zero : whole = ['0'] ∨ whole.head? ≠ some '0'

namespace Numeral

/-- A point and the digits after it, if there are any. -/
def fractionText : List Char → List Char
  | [] => []
  | digits => '.' :: digits

/-- An exponent with its sign, if there is one. -/
def exponentText : Option Int → List Char
  | none => []
  | some exponent => 'e' :: (if exponent < 0 then '-' else '+') :: Nat.toDigits 10 exponent.natAbs

theorem fractionText_of_ne_nil {digits : List Char} (h : digits ≠ []) :
    fractionText digits = '.' :: digits := by
  cases digits with
  | nil => exact absurd rfl h
  | cons digit digits => rfl

/-- A numeral as text. -/
def text (n : Numeral) : List Char :=
  n.whole ++ (fractionText n.fraction ++ exponentText n.exponent)

/-- The number that a numeral writes. -/
def value (n : Numeral) : ℚ :=
  valueOfDigits (n.whole ++ n.fraction) * 10 ^ (n.exponent.getD 0 - n.fraction.length)

/-- Reads a numeral, up to the end of the text. -/
def read (text : List Char) : Except Json.Fault ℚ := do
  let (whole, rest) ← readWhole text
  let (fraction, rest) ← readFraction rest
  let (exponent, rest) ← readExponent rest
  let fraction := fraction.getD []
  if rest.isEmpty then
    .ok (valueOfDigits (whole ++ fraction) * 10 ^ (exponent.getD 0 - fraction.length))
  else .error .malformed

/-- Reads a numeral with a minus sign before it, or without one. -/
def readSigned : List Char → Except Json.Fault ℚ
  | '-' :: text => (read text).map (-·)
  | text => read text

/-! ## Reading -/

theorem head?_exponentText {c : Char} {exponent : Option Int}
    (h : c ∈ (exponentText exponent).head?) : c = 'e' := by
  cases exponent with
  | none => simp [exponentText] at h
  | some exponent => simpa [exponentText] using h.symm

/-- What comes behind the first digits starts with no digit. -/
theorem isDigit_head?_eq_false {fraction : List Char} {exponent : Option Int} :
    ∀ c ∈ (fractionText fraction ++ exponentText exponent).head?, c.isDigit = false := by
  intro c hc
  cases fraction with
  | nil =>
    obtain rfl := head?_exponentText hc
    rfl
  | cons digit fraction =>
    obtain rfl : '.' = c := Option.some_inj.1 hc
    rfl

theorem readExponent_exponentText (exponent : Option Int) :
    readExponent (exponentText exponent) = .ok (exponent, []) := by
  cases exponent with
  | none => rfl
  | some exponent =>
    have hread : readDigits (Nat.toDigits 10 exponent.natAbs) =
        .ok (Nat.toDigits 10 exponent.natAbs, []) :=
      Json.readDigits_of_isDigit Nat.toDigits_ne_nil
        fun c hc => Nat.isDigit_of_mem_toDigits (by decide) (by decide) hc
    have hvalue := Json.valueOfDigits_toDigits exponent.natAbs
    rw [exponentText]
    split
    · simp only [readExponent, hread, bind, Except.bind, hvalue]
      rw [if_pos trivial, show -(exponent.natAbs : Int) = exponent by omega]
    · simp only [readExponent, hread, bind, Except.bind, hvalue]
      rw [if_neg Bool.false_ne_true, show (exponent.natAbs : Int) = exponent by omega]

theorem readFraction_append {fraction : List Char} (rest : List Char)
    (hdigits : ∀ c ∈ fraction, c.isDigit) (hrest : ∀ c ∈ rest.head?, c = 'e') :
    ∃ found : Option (List Char), readFraction (fractionText fraction ++ rest) = .ok (found, rest) ∧
      found.getD [] = fraction := by
  cases fraction with
  | nil =>
    refine ⟨none, ?_, rfl⟩
    cases rest with
    | nil => rfl
    | cons c rest =>
      obtain rfl := hrest c rfl
      rfl
  | cons digit fraction =>
    have hread := Json.readDigits_append rest (List.cons_ne_nil digit fraction) hdigits
      (fun c hc => by rw [hrest c hc]; rfl)
    refine ⟨some (digit :: fraction), ?_, rfl⟩
    show readFraction ('.' :: (digit :: fraction ++ rest)) = _
    rw [readFraction, hread]
    rfl

theorem readWhole_append (n : Numeral) (rest : List Char)
    (hrest : ∀ c ∈ rest.head?, c.isDigit = false) :
    readWhole (n.whole ++ rest) = .ok (n.whole, rest) := by
  have hread := Json.readDigits_append rest n.whole_ne_nil n.isDigit_whole hrest
  simp only [readWhole, hread, bind, Except.bind]
  split
  · rename_i hwhole
    rcases n.no_leading_zero with hzero | hzero <;> simp [hwhole] at hzero
  · rfl

/-- A numeral is read as the number that it writes. -/
theorem read_text (n : Numeral) : read n.text = .ok n.value := by
  obtain ⟨found, hfraction, hfound⟩ := readFraction_append (exponentText n.exponent)
    n.isDigit_fraction (fun c hc => head?_exponentText hc)
  have hwhole := n.readWhole_append (fractionText n.fraction ++ exponentText n.exponent)
    isDigit_head?_eq_false
  have hexponent := readExponent_exponentText n.exponent
  simp only [read, text, hwhole, hfraction, hexponent, bind, Except.bind]
  rw [hfound]
  rfl

/-- The sign before a numeral is read as one. -/
theorem readSigned_withSign (n : Numeral) (negative : Bool) :
    readSigned (Decimal.withSign negative n.text) =
      .ok (if negative then -n.value else n.value) := by
  cases negative with
  | true =>
    show (read n.text).map (-·) = _
    rw [read_text]
    rfl
  | false =>
    show readSigned n.text = .ok n.value
    have hread := n.read_text
    have hdigits := n.isDigit_whole
    rw [text] at hread ⊢
    cases hwhole : n.whole with
    | nil => exact absurd hwhole n.whole_ne_nil
    | cons c whole =>
      rw [hwhole] at hread hdigits
      have hc : c ≠ '-' := by
        rintro rfl
        exact absurd (hdigits '-' List.mem_cons_self) (by decide)
      rw [List.cons_append] at hread ⊢
      rw [readSigned, hread]
      exact fun _ heq => hc (List.cons.inj heq).1

end Numeral

/-! ## The two layouts -/

namespace Decimal

variable {d : Decimal}

theorem isDigit_of_mem_zeros {c : Char} {count : Nat} (h : c ∈ zeros count) : c.isDigit := by
  rw [List.eq_of_mem_replicate h]
  rfl

theorem isDigit_of_mem_digitChars {c : Char} (h : c ∈ d.digitChars) : c.isDigit :=
  Nat.isDigit_of_mem_toDigits (by decide) (by decide) h

theorem valueOfDigits_digitChars (d : Decimal) : valueOfDigits d.digitChars = d.digits :=
  Json.valueOfDigits_toDigits d.digits

/-- Only zero starts with a zero. -/
theorem head?_toDigits {n : Nat} (h : n ≠ 0) : (Nat.toDigits 10 n).head? ≠ some '0' := by
  induction n using Nat.strongRecOn with
  | ind n ih =>
    rw [Nat.toDigits_eq_if (by decide)]
    split
    · intro hzero
      exact h (Nat.digitChar_eq_zero.1 (Option.some_inj.1 hzero))
    · rw [List.head?_append, Option.or_of_isSome (by simp)]
      exact ih (n / 10) (by omega) (by omega)

/-- Digits with a point among them, before them or after them are a numeral. -/
theorem exists_numeral_positional (h : d.digits ≠ 0) (place : Int) :
    ∃ n : Numeral, n.text = positional d.digitChars place ∧
      n.value = d.digits * 10 ^ (place - d.digitChars.length) := by
  have hne : d.digitChars ≠ [] := Nat.toDigits_ne_nil
  have hdigits := fun c (hc : c ∈ d.digitChars) => isDigit_of_mem_digitChars hc
  have hzero : d.digitChars.head? ≠ some '0' := head?_toDigits h
  rw [← d.valueOfDigits_digitChars, positional]
  generalize d.digitChars = digits at *
  by_cases hbefore : place ≤ 0
  · rw [if_pos hbefore]
    refine ⟨⟨['0'], zeros (-place).toNat ++ digits, none, List.cons_ne_nil _ _, by simp,
      fun c hc => (List.mem_append.1 hc).elim isDigit_of_mem_zeros (hdigits c), Or.inl rfl⟩, ?_, ?_⟩
    · simp [Numeral.text, Numeral.exponentText, Numeral.fractionText_of_ne_nil, hne]
    · have hlength : ((zeros (-place).toNat ++ digits).length : Int) = digits.length - place := by
        rw [List.length_append, zeros, List.length_replicate]
        omega
      have hvalue : valueOfDigits (['0'] ++ (zeros (-place).toNat ++ digits)) =
          valueOfDigits digits :=
        (Json.valueOfDigits_zeros_append 1 _).trans (Json.valueOfDigits_zeros_append _ digits)
      simp only [Numeral.value, hvalue, hlength, Option.getD_none, zero_sub, neg_sub]
  · rw [if_neg hbefore]
    by_cases hafter : digits.length ≤ place.toNat
    · rw [if_pos hafter]
      have hhead : (digits ++ zeros (place.toNat - digits.length)).head? ≠ some '0' := by
        rwa [List.head?_append, Option.or_of_isSome (by simpa using hne)]
      refine ⟨⟨digits ++ zeros (place.toNat - digits.length), [], none, by simp [hne],
        fun c hc => (List.mem_append.1 hc).elim (hdigits c) isDigit_of_mem_zeros, by simp,
        Or.inr hhead⟩, by simp [Numeral.text, Numeral.exponentText, Numeral.fractionText], ?_⟩
      have hpower : place - digits.length = ((place.toNat - digits.length : ℕ) : Int) := by omega
      simp only [Numeral.value, List.append_nil, zeros, Json.valueOfDigits_append_zeros, hpower,
        Option.getD_none, List.length_nil, Nat.cast_zero, sub_zero, zpow_zero, mul_one,
        zpow_natCast]
      push_cast
      ring
    · rw [if_neg hafter]
      have hpos : 0 < place.toNat := by omega
      have hdrop : digits.drop place.toNat ≠ [] := by
        rw [ne_eq, List.drop_eq_nil_iff]
        exact hafter
      have hhead : (digits.take place.toNat).head? ≠ some '0' := by
        rwa [List.head?_take, if_neg hpos.ne']
      refine ⟨⟨digits.take place.toNat, digits.drop place.toNat, none, by simp [hne]; omega,
        fun c hc => hdigits c (List.mem_of_mem_take hc),
        fun c hc => hdigits c (List.mem_of_mem_drop hc), Or.inr hhead⟩, ?_, ?_⟩
      · simp [Numeral.text, Numeral.exponentText, Numeral.fractionText_of_ne_nil hdrop]
      · have hlength : ((digits.drop place.toNat).length : Int) = digits.length - place := by
          rw [List.length_drop]
          omega
        simp only [Numeral.value, List.take_append_drop, hlength, Option.getD_none, zero_sub,
          neg_sub]

/-- Digits with a point after the first one and an exponent are a numeral. -/
theorem exists_numeral_scientific (h : d.digits ≠ 0) (exponent : Int) :
    ∃ n : Numeral, n.text = scientific d.digitChars exponent ∧
      n.value = d.digits * 10 ^ (exponent + 1 - d.digitChars.length) := by
  have hne : d.digitChars ≠ [] := Nat.toDigits_ne_nil
  have hdigits := fun c (hc : c ∈ d.digitChars) => isDigit_of_mem_digitChars hc
  have hzero : d.digitChars.head? ≠ some '0' := head?_toDigits h
  rw [← d.valueOfDigits_digitChars]
  generalize d.digitChars = digits at *
  cases digits with
  | nil => exact absurd rfl hne
  | cons first rest =>
    refine ⟨⟨[first], rest, some exponent, List.cons_ne_nil _ _,
      fun c hc => hdigits c (List.mem_cons.2 (Or.inl (List.mem_singleton.1 hc))),
      fun c hc => hdigits c (List.mem_cons_of_mem first hc), Or.inr hzero⟩, ?_, ?_⟩
    · cases rest <;> rfl
    · have hlength : exponent + 1 - ((first :: rest).length : Int) = exponent - rest.length := by
        rw [List.length_cons]
        omega
      rw [hlength]
      rfl

end Decimal
end MarkupJsx
