import SolverDeck.Json.Scanner

/-!
# Texts of JSON

What stands between double quotes: characters as they are, and escapes. A character
beyond U+FFFF may be escaped by two code units, a high and a low surrogate; a
surrogate without its partner is refused.

The four digits of a code unit are taken together: if fewer than four bytes are left
the text has ended, and otherwise the four bytes count as looked at, even where they
are no digits.

`readText` starts after the opening quote. Every escape takes at least one character
(`readEscape_shortens`), which is why reading ends.
-/

namespace SolverDeck.Json

/-! ### Code units -/

/-- The value of a hexadecimal digit. -/
def hexValue? (c : Char) : Option Nat :=
  if c.isDigit then some (c.toNat - '0'.toNat)
  else if 'a' ≤ c ∧ c ≤ 'f' then some (c.toNat - 'a'.toNat + 10)
  else if 'A' ≤ c ∧ c ≤ 'F' then some (c.toNat - 'A'.toNat + 10)
  else none

/-- The number that four hexadecimal digits write. -/
def codeUnit? (a b c d : Char) : Option Nat := do
  let a ← hexValue? a
  let b ← hexValue? b
  let c ← hexValue? c
  let d ← hexValue? d
  return ((a * 16 + b) * 16 + c) * 16 + d

/-- What is wrong where four hexadecimal digits should stand. -/
def notCodeUnit (cs : List Char) : Failure :=
  if (utf8 cs).length < 4 then .here .endInText []
  else ⟨.invalidEscape, ⟨cs, 4⟩, true⟩

/-- Take four hexadecimal digits. -/
def readCodeUnit (cs : List Char) : Result Nat :=
  match cs with
  | a :: b :: c :: d :: rest =>
      match codeUnit? a b c d with
      | some n => .ok (n, rest)
      | none => .error (notCodeUnit cs)
  | _ => .error (notCodeUnit cs)

/-! ### Surrogates -/

/-- The first half of a pair. -/
def isHighSurrogate (n : Nat) : Bool :=
  0xD800 ≤ n && n ≤ 0xDBFF

/-- The second half of a pair. -/
def isLowSurrogate (n : Nat) : Bool :=
  0xDC00 ≤ n && n ≤ 0xDFFF

/-- The character that a pair stands for. -/
def pairedChar (high low : Nat) : Char :=
  .ofNat (0x10000 + (high - 0xD800) * 0x400 + (low - 0xDC00))

/-- Take the escape of a low surrogate, `high` being read already. -/
def readLowHalf (high : Nat) (cs : List Char) : Result Char :=
  match cs with
  | [] => .error (.here .endInText [])
  | '\\' :: [] => .error (.here .endInText [])
  | '\\' :: 'u' :: rest =>
      match readCodeUnit rest with
      | .error failure => .error failure
      | .ok (low, rest) =>
          if isLowSurrogate low then .ok (pairedChar high low, rest)
          else .error (.here .loneSurrogate rest)
  | '\\' :: rest => .error (.atNext .incompleteSurrogate rest)
  | cs => .error (.atNext .incompleteSurrogate cs)

/-! ### Escapes -/

/-- The character that a one-letter escape stands for. -/
def shortEscape? (c : Char) : Option Char :=
  match c with
  | '"' => some '"'
  | '\\' => some '\\'
  | '/' => some '/'
  | 'b' => some '\x08'
  | 'f' => some '\x0c'
  | 'n' => some '\n'
  | 'r' => some '\r'
  | 't' => some '\t'
  | _ => none

/-- Take an escape by code unit, after its `u`. -/
def readUnitEscape (cs : List Char) : Result Char :=
  match readCodeUnit cs with
  | .error failure => .error failure
  | .ok (n, rest) =>
      if isLowSurrogate n then .error (.here .loneSurrogate rest)
      else if isHighSurrogate n then readLowHalf n rest
      else .ok (.ofNat n, rest)

/-- Take an escape, after its backslash. -/
def readEscape (cs : List Char) : Result Char :=
  match cs with
  | [] => .error (.here .endInText [])
  | c :: rest =>
      if c = 'u' then readUnitEscape rest
      else
        match shortEscape? c with
        | some meant => .ok (meant, rest)
        | none => .error (.atNext .invalidEscape (c :: rest))

theorem readCodeUnit_shortens {cs rest : List Char} {n : Nat}
    (h : readCodeUnit cs = .ok (n, rest)) : rest.length < cs.length := by
  unfold readCodeUnit at h
  split at h
  · split at h
    · cases h
      simp only [List.length_cons]
      omega
    · cases h
  · cases h

theorem readLowHalf_shortens {high : Nat} {cs rest : List Char} {c : Char}
    (h : readLowHalf high cs = .ok (c, rest)) : rest.length < cs.length := by
  unfold readLowHalf at h
  split at h
  · cases h
  · cases h
  · split at h
    · cases h
    · rename_i hunit
      split at h
      · simp only [Except.ok.injEq, Prod.mk.injEq] at h
        have := readCodeUnit_shortens hunit
        simp only [List.length_cons, ← h.2]
        omega
      · cases h
  · cases h
  · cases h

theorem readUnitEscape_shortens {cs rest : List Char} {c : Char}
    (h : readUnitEscape cs = .ok (c, rest)) : rest.length < cs.length := by
  unfold readUnitEscape at h
  split at h
  · cases h
  · rename_i hunit
    have hshort := readCodeUnit_shortens hunit
    split at h
    · cases h
    · split at h
      · have := readLowHalf_shortens h
        omega
      · cases h
        exact hshort

/-- An escape takes at least one character. -/
theorem readEscape_shortens {cs rest : List Char} {c : Char}
    (h : readEscape cs = .ok (c, rest)) : rest.length < cs.length := by
  unfold readEscape at h
  split at h
  · cases h
  · split at h
    · have := readUnitEscape_shortens h
      simp only [List.length_cons]
      omega
    · split at h
      · cases h
        simp
      · cases h

/-! ### Texts -/

/-- Take characters up to the closing quote. -/
def readChars (cs : List Char) : Result (List Char) :=
  match cs with
  | [] => .error (.here .endInText [])
  | c :: rest =>
      if c = '"' then .ok ([], rest)
      else if c = '\\' then
        match _h : readEscape rest with
        | .error failure => .error failure
        | .ok (meant, more) =>
            match readChars more with
            | .error failure => .error failure
            | .ok (chars, after) => .ok (meant :: chars, after)
      else if c < ' ' then .error (.atNext .controlCharacter (c :: rest))
      else
        match readChars rest with
        | .error failure => .error failure
        | .ok (chars, after) => .ok (c :: chars, after)
termination_by cs.length
decreasing_by
  · have := readEscape_shortens _h
    simp only [List.length_cons]
    omega
  · simp

/-- Take a text, after its opening quote. -/
def readText (cs : List Char) : Result String :=
  match readChars cs with
  | .error failure => .error failure
  | .ok (chars, rest) => .ok (String.ofList chars, rest)

end SolverDeck.Json
