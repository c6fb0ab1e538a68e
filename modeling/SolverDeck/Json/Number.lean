import SolverDeck.Json.Scanner

/-!
# Numbers of JSON

A number without fraction and exponent is a whole number if it fits 64 bits, signed
or unsigned; everything else, `-0` among it, is a floating-point number.

Floating-point numbers are read *without* exact rounding. Digits are gathered into a
significand of 64 bits (`gather`); whole digits that no longer fit raise the decimal
exponent, further fraction digits are dropped. One division or multiplication by a
power of ten then gives the number (`scaled`). Only powers up to 10^308 are used, so
a smaller exponent takes several divisions.

`readNumber` starts at the minus or the first digit.
-/

namespace SolverDeck.Json

/-- A number, as it is understood from its spelling. -/
inductive Number where
  /-- A whole number from -2^63 to 2^64 - 1. -/
  | whole (n : Int)
  /-- A floating-point number. -/
  | real (x : Binary64)
deriving DecidableEq, Repr

/-! ### Digits -/

/-- The value of a digit. -/
def digitValue (c : Char) : Nat :=
  c.toNat - '0'.toNat

/-- Digits taken from the beginning of a text. -/
structure Gathered where
  /-- The number the digits make. -/
  value : Nat
  /-- How many digits were taken. -/
  count : Nat
  /-- What follows them. -/
  rest : List Char
deriving DecidableEq, Repr

/-- Append digits to `value` as long as it stays within `limit`. -/
def gather (limit value : Nat) : List Char → Gathered
  | [] => ⟨value, 0, []⟩
  | c :: cs =>
      if c.isDigit ∧ value * 10 + digitValue c ≤ limit then
        let more := gather limit (value * 10 + digitValue c) cs
        ⟨more.value, more.count + 1, more.rest⟩
      else ⟨value, 0, c :: cs⟩

/-- The largest significand. -/
def mostSignificand : Nat := Nat.pow 2 64 - 1

/-- The magnitude of the least signed whole number of 64 bits. The greatest is one
less. -/
def signedLimit : Nat := Nat.pow 2 63

/-- The largest exponent that is read. -/
def mostExponent : Nat := Nat.pow 2 31 - 1

/-- Does a digit come next? -/
def startsWithDigit : List Char → Bool
  | [] => false
  | c :: _ => c.isDigit

/-! ### Scaling by a power of ten -/

/-- The exponent of the largest power of ten that is a finite number. -/
def mostPower : Nat := 308

/-- The number nearest to a power of ten. -/
def powerOfTen (n : Nat) : Binary64 :=
  .ofNat (Nat.pow 10 n)

/-- A number times a power of ten, rounded after each division or multiplication;
none if it is too large. -/
def scaled (x : Binary64) (exponent : Int) : Option Binary64 :=
  if exponent < -mostPower then
    if x.isZero then some x else scaled (x / powerOfTen mostPower) (exponent + mostPower)
  else if exponent < 0 then some (x / powerOfTen (-exponent).toNat)
  else if exponent ≤ mostPower then
    let product := x * powerOfTen exponent.toNat
    if product.isFinite then some product else none
  else if x.isZero then some x
  else none
termination_by (-exponent).toNat
decreasing_by simp only [mostPower] at *; omega

/-! ### The parts of a number -/

/-- The number with the given sign and magnitude. -/
def signed (negative : Bool) (x : Binary64) : Binary64 :=
  if negative then -x else x

/-- The floating-point number made of a sign, a significand and a decimal exponent,
with `rest` left. -/
def finishReal (negative : Bool) (significand : Nat) (exponent : Int) (rest : List Char) :
    Result Number :=
  match scaled (.ofNat significand) exponent with
  | none => .error (.here .numberTooLarge rest)
  | some x => .ok (.real (signed negative x), rest)

/-- The number written by a sign and digits alone. -/
def wholeNumber (negative : Bool) (significand : Nat) : Number :=
  if negative then
    if significand = 0 ∨ signedLimit < significand then .real (-.ofNat significand)
    else .whole (-significand)
  else .whole significand

/-- Take the digits of an exponent and finish the number. An exponent that is too
large to be read makes the number zero, unless that would be plainly wrong. -/
def readExponentDigits (negative : Bool) (significand : Nat) (exponent : Int)
    (lowers : Bool) (cs : List Char) : Result Number :=
  match cs with
  | [] => .error (.here .endInValue [])
  | c :: rest =>
      if !c.isDigit then .error (.atNext .invalidNumber (c :: rest))
      else
        let digits := gather mostExponent 0 (c :: rest)
        if startsWithDigit digits.rest then
          if significand ≠ 0 ∧ !lowers then .error (.here .numberTooLarge (digits.rest.drop 1))
          else .ok (.real (signed negative (.ofNat 0)), digits.rest.dropWhile Char.isDigit)
        else if lowers then finishReal negative significand (exponent - digits.value) digits.rest
        else finishReal negative significand (exponent + digits.value) digits.rest

/-- Take an exponent, if one comes next, and finish the number. -/
def readExponent (negative : Bool) (significand : Nat) (exponent : Int) (cs : List Char) :
    Result Number :=
  match cs with
  | [] => finishReal negative significand exponent []
  | c :: rest =>
      if c = 'e' ∨ c = 'E' then
        match rest with
        | '+' :: more => readExponentDigits negative significand exponent false more
        | '-' :: more => readExponentDigits negative significand exponent true more
        | more => readExponentDigits negative significand exponent false more
      else finishReal negative significand exponent (c :: rest)

/-- Take the digits after a point, and what follows them. -/
def readFraction (negative : Bool) (significand : Nat) (exponent : Int) (cs : List Char) :
    Result Number :=
  match cs with
  | [] => .error (.here .endInValue [])
  | c :: rest =>
      if !c.isDigit then .error (.atNext .invalidNumber (c :: rest))
      else
        let digits := gather mostSignificand significand (c :: rest)
        readExponent negative digits.value (exponent - digits.count)
          (digits.rest.dropWhile Char.isDigit)

/-- Take what follows the whole digits, of which `dropped` did not fit. -/
def readAfterWhole (negative : Bool) (significand dropped : Nat) (cs : List Char) :
    Result Number :=
  match cs with
  | '.' :: rest => readFraction negative significand dropped rest
  | _ =>
      if dropped = 0 ∧ cs.head? ≠ some 'e' ∧ cs.head? ≠ some 'E' then
        .ok (wholeNumber negative significand, cs)
      else readExponent negative significand dropped cs

/-- Take a number without its minus. -/
def readMagnitude (negative : Bool) (cs : List Char) : Result Number :=
  match cs with
  | [] => .error (.here .endInValue [])
  | c :: rest =>
      if !c.isDigit then .error (.atNext .invalidNumber (c :: rest))
      else if c = '0' then
        if startsWithDigit rest then .error (.atNext .invalidNumber rest)
        else readAfterWhole negative 0 0 rest
      else
        let digits := gather mostSignificand 0 (c :: rest)
        readAfterWhole negative digits.value (digits.rest.takeWhile Char.isDigit).length
          (digits.rest.dropWhile Char.isDigit)

/-- Take a number. -/
def readNumber : List Char → Result Number
  | '-' :: rest => readMagnitude true rest
  | cs => readMagnitude false cs

end SolverDeck.Json
