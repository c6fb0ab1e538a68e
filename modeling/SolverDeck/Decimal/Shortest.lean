import SolverDeck.Binary64

/-!
# Shortest decimals

The decimal text of a finite number should have as few digits as still name that
number and no other. This module finds those digits in exact arithmetic:

* `Span` — the reals that round to a number, measured in quarters of its last
  place so that all three landmarks (lower end, the number, upper end) are whole;
* `Decimal` — a whole number of units of a power of ten;
* `Span.holds` — does a decimal lie in a span?
* `shortest` — walk the grids `10 ^ t` from coarse to fine; the first grid with a
  point in the span wins, and of two such points the nearer one. A grid that has any
  point in the span has one right next to the number, so only the two neighbours are
  tried;
* `Tie` — which of two equally near points is taken.

Whatever the walk finds was tested to lie in the span; if it finds nothing, the
number's own exact decimal is taken, which lies in the span as well.
-/

namespace SolverDeck

/-- The decimal number `digits * 10 ^ exponent`. -/
structure Decimal where
  /-- The digits, read as one whole number. -/
  digits : Nat
  /-- The power of ten that the last digit counts. -/
  exponent : Int
deriving DecidableEq, Repr

/-- Which of two equally near decimals is taken. -/
inductive Tie where
  /-- The greater one. -/
  | up
  /-- The one with an even last digit. -/
  | even
deriving DecidableEq, Repr

/-- The reals that round to one positive number: from `low` to `high` units of
`2 ^ scale`, around the number itself at `mid`. -/
structure Span where
  /-- The lower end. -/
  low : Nat
  /-- The number. -/
  mid : Nat
  /-- The upper end. -/
  high : Nat
  /-- The power of two that the three landmarks count. -/
  scale : Int
  /-- Do the ends themselves round to the number? -/
  closed : Bool
deriving DecidableEq, Repr

/-- The span of a finite number: half a unit of the last place on either side,
but only a quarter below a power of two, where the numbers underneath lie twice
as dense. Ties go to the even mantissa, so its ends are its own. -/
def Binary64.span (x : Binary64) : Span where
  low := 4 * x.mantissa - (if x.mantissa = Binary64.exponentWeight then 1 else 2)
  mid := 4 * x.mantissa
  high := 4 * x.mantissa + 2
  scale := x.exponent - 2
  closed := x.mantissa % 2 = 0

namespace Span

/-- What one grid unit `10 ^ t` is multiplied with to be compared with landmarks. -/
def gridFactor (s : Span) (t : Int) : Nat :=
  Nat.pow 10 t.toNat * Nat.pow 2 (-s.scale).toNat

/-- What one landmark unit `2 ^ scale` is multiplied with to be compared with
grid points. -/
def markFactor (s : Span) (t : Int) : Nat :=
  Nat.pow 2 s.scale.toNat * Nat.pow 10 (-t).toNat

/-- Does the decimal lie in the span? -/
def holds (s : Span) (d : Decimal) : Bool :=
  let point := d.digits * s.gridFactor d.exponent
  let low := s.low * s.markFactor d.exponent
  let high := s.high * s.markFactor d.exponent
  if s.closed then low ≤ point && point ≤ high else low < point && point < high

/-- The grid point just below the number, or the number itself. -/
def below (s : Span) (t : Int) : Decimal :=
  ⟨s.mid * s.markFactor t / s.gridFactor t, t⟩

/-- The grid point next above `below`. -/
def above (s : Span) (t : Int) : Decimal :=
  ⟨(s.below t).digits + 1, t⟩

/-- Is the grid point below taken rather than the one above? It is if it is nearer,
or if it is as near and the tie goes to it. -/
def takesBelow (s : Span) (tie : Tie) (t : Int) : Bool :=
  let twice := 2 * (s.mid * s.markFactor t % s.gridFactor t)
  twice < s.gridFactor t ||
    (twice == s.gridFactor t && tie == .even && (s.below t).digits % 2 == 0)

/-- The point of one grid that names the number: a neighbour in the span, the
nearer one if both are. -/
def onGrid (s : Span) (tie : Tie) (t : Int) : Option Decimal :=
  match s.holds (s.below t), s.holds (s.above t) with
  | true, true => some (if s.takesBelow tie t then s.below t else s.above t)
  | true, false => some (s.below t)
  | false, true => some (s.above t)
  | false, false => none

/-- The number itself, with all its digits: a power of two divides a power of ten. -/
def exact (s : Span) : Decimal :=
  ⟨s.mid * Nat.pow 2 s.scale.toNat * Nat.pow 5 (-s.scale).toNat, min 0 s.scale⟩

/-- A grid so coarse that the number lies before its first point: `30103 / 100000`
is the logarithm of two to base ten. -/
def coarsest (s : Span) : Int :=
  ((s.mid.log2 : Int) + s.scale + 1) * 30103 / 100000 + 2

/-- The first hit on `count` grids, from `10 ^ t` towards finer ones. -/
def firstOnGrid (s : Span) (tie : Tie) : Nat → Int → Option Decimal
  | 0, _ => none
  | count + 1, t =>
      match s.onGrid tie t with
      | some d => some d
      | none => s.firstOnGrid tie count (t - 1)

/-- The decimal with the fewest digits in the span, the nearest of those. Twenty
grids reach past the seventeenth digit, which always suffices. -/
def shortest (s : Span) (tie : Tie) : Decimal :=
  (s.firstOnGrid tie 20 s.coarsest).getD s.exact

end Span

end SolverDeck
