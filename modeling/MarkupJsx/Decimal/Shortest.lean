import MarkupJsx.Binary64

/-!
# The shortest decimal that reads back as a double

A finite double stands for all the reals that round to it: an interval around its value, half a
unit of its scale to either side, where the end points belong to it if its significand is even.
A decimal reads back as the double exactly if it lies in that interval.

`Decimal.shortest` tries grids of decimals with one significant digit, two, and so on up to 17.
If any point of a grid lies in the interval, then so does one of the two points next to the value,
so only these two are tested.  The first grid with a hit wins, and of two hits the nearer.  Two
hits can be equally near, and what becomes of them is a choice of the format that prints the
number, so it is a parameter (`Tie`).

All of it is arithmetic on natural numbers: a power of ten and a power of two put every quantity
over one denominator.
-/

namespace MarkupJsx

/-- The decimal `digits * 10 ^ exponent`. -/
structure Decimal where
  digits : Nat
  exponent : Int
  deriving DecidableEq, Inhabited

/-- Which of two equally near decimals is taken. -/
inductive Tie where
  | toEven
  | up
  deriving DecidableEq

namespace Decimal

/-- How many decimal digits a number has; zero has none. -/
def length (n : Nat) : Nat :=
  if n = 0 then 0 else length (n / 10) + 1
termination_by n
decreasing_by omega

@[simp] theorem length_zero : length 0 = 0 := by
  unfold length; rfl

theorem length_of_pos {n : Nat} (h : n ≠ 0) : length n = length (n / 10) + 1 := by
  rw [length]; simp [h]

/-- Moves trailing zeros of the digits into the exponent. -/
def strip (digits : Nat) (exponent : Int) : Decimal :=
  if digits ≠ 0 ∧ digits % 10 = 0 then strip (digits / 10) (exponent + 1)
  else ⟨digits, exponent⟩
termination_by digits
decreasing_by omega

/-- The `n` with `10 ^ (n - 1) ≤ num / den < 10 ^ n`. -/
def order (num den : Nat) : Int :=
  if den ≤ num then length (num / den)
  else 1 - (length ((den - 1) / num) : Int)

/-- The reals that round to a magnitude, as fractions over the common denominator `2 ^ 1076`:
quarters of the smallest unit, so that both ends are whole. -/
structure Interval where
  low : Nat
  centre : Nat
  high : Nat
  closed : Bool

/-- The common denominator of the ends of an interval. -/
def Interval.den : Nat := Nat.pow 2 1076

/-- The interval of a magnitude.  Below a power of two the neighbour is twice as close, unless
that neighbour already has the smallest scale. -/
def Interval.of (m : Magnitude) : Interval :=
  let step := Nat.pow 2 m.scale
  let below := if m.significand = 0x10000000000000 ∧ 0 < m.scale then step else 2 * step
  { low := 4 * m.units - below
    centre := 4 * m.units
    high := 4 * m.units + 2 * step
    closed := m.significand % 2 = 0 }

/-- An interval measured in steps of a decimal grid: a position `x` of the interval is the
`x * up / down`th point. -/
structure Grid where
  up : Nat
  down : Nat

/-- The grid of multiples of `10 ^ exponent`. -/
def Grid.of (exponent : Int) : Grid :=
  if 0 ≤ exponent then ⟨1, Interval.den * Nat.pow 10 exponent.toNat⟩
  else ⟨Nat.pow 10 (-exponent).toNat, Interval.den⟩

/-- Whether a point of the grid lies in the interval. -/
def Grid.hits (g : Grid) (i : Interval) (point : Nat) : Bool :=
  let x := point * g.down
  if i.closed then i.low * g.up ≤ x ∧ x ≤ i.high * g.up
  else i.low * g.up < x ∧ x < i.high * g.up

/-- The nearer of the two points around the centre of an interval. -/
def Grid.nearest (g : Grid) (tie : Tie) (i : Interval) : Nat :=
  let below := i.centre * g.up / g.down
  let rest := i.centre * g.up % g.down
  if 2 * rest < g.down then below
  else if g.down < 2 * rest then below + 1
  else
    match tie with
    | .toEven => below + below % 2
    | .up => below + 1

/-- The point of the grid that stands for the interval: the nearer of the two neighbours of the
centre that lie in it. -/
def Grid.pick? (g : Grid) (tie : Tie) (i : Interval) : Option Nat :=
  let below := i.centre * g.up / g.down
  match g.hits i below, g.hits i (below + 1) with
  | true, true => some (g.nearest tie i)
  | true, false => some below
  | false, true => some (below + 1)
  | false, false => none

/-- Tries grids of ever more digits; after the last one, the nearest point of it is taken. -/
def search (tie : Tie) (i : Interval) (order : Int) : (more : Nat) → (digits : Nat) → Decimal
  | 0, digits =>
    let exponent := order - digits
    strip ((Grid.of exponent).nearest tie i) exponent
  | more + 1, digits =>
    let exponent := order - digits
    match (Grid.of exponent).pick? tie i with
    | some point => strip point exponent
    | none => search tie i order more (digits + 1)

/-- The shortest decimal that reads back as a magnitude other than zero, and of those the one
nearest to it.  Seventeen digits always suffice. -/
def shortest (tie : Tie) (m : Magnitude) : Decimal :=
  let i := Interval.of m
  search tie i (order i.centre Interval.den) 16 1

end Decimal
end MarkupJsx
