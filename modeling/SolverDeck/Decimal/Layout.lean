import SolverDeck.Decimal.Shortest

/-!
# Layout of floating-point text

Where a number is written out, the digits come from `Span.shortest`; a `Layout`
decides how they are set: which magnitudes are written plainly, how an exponent is
spelled, and where a tie between two decimals goes. The rule of a place that prints
numbers is one `Layout` value, and `Binary64.text` does the setting.

A plain number always has a decimal point with a digit on both sides; an exponent
form has a point only if it has more than one digit.
-/

namespace SolverDeck

/-- How digits are set. -/
structure Layout where
  /-- The least exponent of the leading digit that is still written plainly. -/
  leastPlain : Int
  /-- The greatest exponent of the leading digit that is still written plainly. -/
  mostPlain : Int
  /-- Is the sign of a positive exponent written? -/
  writesPlus : Bool
  /-- Which of two equally near decimals is written. -/
  tie : Tie
deriving DecidableEq, Repr

/-- The decimal digits of a whole number. -/
def decimalDigits (n : Nat) : List Char :=
  Nat.toDigits 10 n

namespace Layout

/-- Digits in plain notation, `lead` being the exponent of the first one. -/
def plain (digits : List Char) (lead : Int) : List Char :=
  if lead < 0 then
    '0' :: '.' :: (List.replicate (-lead - 1).toNat '0' ++ digits)
  else
    let whole := lead.toNat + 1
    if digits.length ≤ whole then
      digits ++ List.replicate (whole - digits.length) '0' ++ ['.', '0']
    else
      digits.take whole ++ '.' :: digits.drop whole

/-- The sign and digits of an exponent. -/
def exponentText (layout : Layout) (lead : Int) : List Char :=
  let sign := if lead < 0 then ['-'] else if layout.writesPlus then ['+'] else []
  sign ++ decimalDigits lead.natAbs

/-- Digits in exponent notation: one before the point, if there is one. -/
def scientific (layout : Layout) (digits : List Char) (lead : Int) : List Char :=
  let significand :=
    match digits with
    | first :: second :: more => first :: '.' :: second :: more
    | few => few
  significand ++ 'e' :: layout.exponentText lead

/-- A decimal with its trailing zeros dropped, in the notation its size asks for. -/
def setDecimal (layout : Layout) (d : Decimal) : List Char :=
  let all := decimalDigits d.digits
  let lead : Int := d.exponent + (all.length : Int) - 1
  let digits := (all.reverse.dropWhile (· == '0')).reverse
  if layout.leastPlain ≤ lead ∧ lead ≤ layout.mostPlain then plain digits lead
  else layout.scientific digits lead

end Layout

namespace Binary64

/-- The text of the magnitude of a finite number. -/
def magnitudeText (layout : Layout) (x : Binary64) : List Char :=
  if x.isZero then ['0', '.', '0'] else layout.setDecimal (x.span.shortest layout.tie)

/-- The text of a number: `NaN` for a not-a-number of either sign, `inf` for an
infinity, and else the shortest digits that read back. -/
def text (layout : Layout) (x : Binary64) : String :=
  if x.isNaN then "NaN"
  else
    let sign := if x.isNegative then ['-'] else []
    let magnitude := if x.isFinite then x.magnitudeText layout else ['i', 'n', 'f']
    String.ofList (sign ++ magnitude)

end Binary64

end SolverDeck
