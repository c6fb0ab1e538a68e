/-!
# Binary64: floating-point numbers by their bits

A deck can hold any of the 2^64 bit patterns of the IEEE 754 double format, and
both its text and its equality hang on the pattern. So a number *is* its bits
here, and everything else is read off them in exact `Nat` and `Int` arithmetic:

* `mantissa` and `exponent` — the magnitude of a finite number is
  `mantissa * 2 ^ exponent`;
* `nearest` — the number closest to a fraction, ties going to the even mantissa;
* `mul` and `div` — exact operations on magnitudes followed by `nearest`;
* `==` — equality of numbers, which is neither reflexive (not-a-number) nor
  equality of bits (the two zeros).

A magnitude is packed by *adding* the mantissa to the shifted exponent. That one
sum covers subnormal numbers, normal numbers and the carry into the next binade.
-/

namespace SolverDeck

/-- A floating-point number, given by its 64 bits: sign, eleven exponent bits,
fifty-two fraction bits. -/
structure Binary64 where
  /-- The bit pattern, sign first. -/
  bits : UInt64
deriving DecidableEq, Repr, Inhabited

namespace Binary64

/-! ### Reading the pattern -/

/-- What the sign bit counts. -/
def signWeight : Nat := Nat.pow 2 63

/-- What the lowest exponent bit counts. The leading one of a mantissa counts as
much. -/
def exponentWeight : Nat := Nat.pow 2 52

/-- Is the sign bit set? -/
def isNegative (x : Binary64) : Bool :=
  signWeight ≤ x.bits.toNat

/-- The pattern without its sign bit. Patterns of non-negative numbers are
ordered as the numbers are. -/
def magnitudeBits (x : Binary64) : Nat :=
  x.bits.toNat % signWeight

/-- The eleven exponent bits. -/
def exponentField (x : Binary64) : Nat :=
  x.magnitudeBits / exponentWeight

/-- The fifty-two fraction bits. -/
def fraction (x : Binary64) : Nat :=
  x.magnitudeBits % exponentWeight

/-- Neither infinite nor a not-a-number. -/
def isFinite (x : Binary64) : Bool :=
  x.exponentField < 2047

/-- A not-a-number, of either sign and with any payload. -/
def isNaN (x : Binary64) : Bool :=
  x.exponentField == 2047 && x.fraction != 0

/-- One of the two infinities. -/
def isInfinite (x : Binary64) : Bool :=
  x.exponentField == 2047 && x.fraction == 0

/-- One of the two zeros. -/
def isZero (x : Binary64) : Bool :=
  x.magnitudeBits == 0

/-- The whole number whose product with `2 ^ exponent` is the magnitude of a
finite number: the fraction, with a leading one unless the number is subnormal. -/
def mantissa (x : Binary64) : Nat :=
  if x.exponentField = 0 then x.fraction else exponentWeight + x.fraction

/-- The power of two that scales `mantissa`. -/
def exponent (x : Binary64) : Int :=
  if x.exponentField = 0 then -1074 else (x.exponentField : Int) - 1075

/-! ### Fractions -/

/-- A fraction of whole numbers: the exact magnitude of a finite number, or a
value still to be rounded to one. -/
structure Ratio where
  /-- What is divided. -/
  num : Nat
  /-- What divides it; positive wherever this module builds a fraction. -/
  den : Nat
deriving DecidableEq, Repr

/-- `mantissa * 2 ^ exponent` as a fraction. -/
def Ratio.scaled (mantissa : Nat) (exponent : Int) : Ratio :=
  ⟨mantissa * Nat.pow 2 exponent.toNat, Nat.pow 2 (-exponent).toNat⟩

/-- The exact magnitude of a finite number. -/
def ratio (x : Binary64) : Ratio :=
  .scaled x.mantissa x.exponent

/-! ### Rounding -/

/-- The pattern of the positive infinity, the first one that is not finite. -/
def infinityBits : Nat := 2047 * exponentWeight

/-- The number with the given sign and the given magnitude bits. -/
def withSign (negative : Bool) (magnitude : Nat) : Binary64 :=
  ⟨UInt64.ofNat (if negative then signWeight + magnitude else magnitude)⟩

/-- The exponent at which a positive fraction is rounded: the one that leaves 53
bits before the point, but no less than that of the subnormal numbers. -/
def Ratio.roundingExponent (r : Ratio) : Int :=
  let width : Int := (r.num.log2 : Int) - (r.den.log2 : Int)
  let unit := Ratio.scaled r.den width
  let top := if unit.num ≤ r.num * unit.den then width else width - 1
  max (-1074) (top - 52)

/-- A fraction rounded to a whole number, a half going to the even neighbour. -/
def Ratio.round (r : Ratio) : Nat :=
  let whole := r.num / r.den
  let twice := 2 * (r.num % r.den)
  if twice < r.den then whole
  else if r.den < twice then whole + 1
  else whole + whole % 2

/-- The fraction divided by a power of two. -/
def Ratio.descale (r : Ratio) (exponent : Int) : Ratio :=
  ⟨r.num * Nat.pow 2 (-exponent).toNat, r.den * Nat.pow 2 exponent.toNat⟩

/-- The number nearest to a fraction, a tie going to the even mantissa; beyond
the largest finite number it is infinite. -/
def nearest (negative : Bool) (r : Ratio) : Binary64 :=
  if r.num = 0 then withSign negative 0
  else
    let exponent := r.roundingExponent
    let magnitude := (exponent + 1074).toNat * exponentWeight + (r.descale exponent).round
    withSign negative (min infinityBits magnitude)

/-! ### Arithmetic -/

/-- The number nearest to a whole number. -/
def ofNat (n : Nat) : Binary64 :=
  nearest false ⟨n, 1⟩

/-- The number with the other sign bit. -/
def neg (x : Binary64) : Binary64 :=
  withSign (!x.isNegative) x.magnitudeBits

instance : Neg Binary64 := ⟨neg⟩

/-- The number nearest to a whole number. -/
def ofInt : Int → Binary64
  | .ofNat n => ofNat n
  | .negSucc n => -ofNat (n + 1)

/-- The number nearest to the product of two finite numbers. -/
def mul (x y : Binary64) : Binary64 :=
  nearest (x.isNegative != y.isNegative)
    ⟨x.ratio.num * y.ratio.num, x.ratio.den * y.ratio.den⟩

instance : Mul Binary64 := ⟨mul⟩

/-- The number nearest to the quotient of two finite numbers, the second not
zero. -/
def div (x y : Binary64) : Binary64 :=
  nearest (x.isNegative != y.isNegative)
    ⟨x.ratio.num * y.ratio.den, x.ratio.den * y.ratio.num⟩

instance : Div Binary64 := ⟨div⟩

/-! ### Equality of numbers -/

/-- Equality of numbers: a not-a-number equals nothing, the two zeros are equal,
and otherwise the bits decide. -/
def equals (x y : Binary64) : Bool :=
  !x.isNaN && !y.isNaN && (x.bits == y.bits || (x.isZero && y.isZero))

instance : BEq Binary64 := ⟨equals⟩

theorem beq_eq_equals (x y : Binary64) : (x == y) = x.equals y := rfl

end Binary64

end SolverDeck
