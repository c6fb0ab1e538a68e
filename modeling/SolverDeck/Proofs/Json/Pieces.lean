import SolverDeck.Proofs.Json.Series

/-!
# What stands between quotes

A text is written in pieces. A piece is a character, as it is or by one of the short escapes, or a
code unit of sixteen bits, by its four hexadecimal digits (`Piece.Spells`). Which characters the
code units stand for is a matter of the pieces side by side: a high surrogate needs a low one right
behind it, and a low one may stand nowhere else (`decode?`).

Reading what is written between quotes gives what the pieces stand for, and refuses what stands for
nothing (`readText_written`). The induction follows `decode?`, for a pair of surrogates is read in
one go.
-/

namespace SolverDeck.Json

/-! ### Pieces -/

/-- A part of a text between quotes. -/
inductive Piece where
  | char (c : Char)
  /-- A code unit of UTF-16. -/
  | unit (n : Nat)
deriving DecidableEq, Repr

/-- The letters of the short escapes and what they stand for. -/
def shortEscapes : List (Char × Char) :=
  [('"', '"'), ('\\', '\\'), ('/', '/'), ('b', '\x08'), ('f', '\x0c'), ('n', '\n'), ('r', '\r'),
   ('t', '\t')]

/-- A hexadecimal digit, its letter in either case. -/
def HexDigit (value : Nat) (c : Char) : Prop :=
  "0123456789abcdef".toList[value]? = some c ∨ "0123456789ABCDEF".toList[value]? = some c

instance (value : Nat) (c : Char) : Decidable (HexDigit value c) :=
  inferInstanceAs (Decidable (_ ∨ _))

/-- Four hexadecimal digits write a code unit. -/
inductive CodeUnit : Nat → List Char → Prop
  | digits {i j k l : Nat} {a b c d : Char} (ha : HexDigit i a) (hb : HexDigit j b)
      (hc : HexDigit k c) (hd : HexDigit l d) :
      CodeUnit (((i * 16 + j) * 16 + k) * 16 + l) [a, b, c, d]

/-- The ways of writing a piece. -/
inductive Piece.Spells : Piece → List Char → Prop
  | plain {c : Char} (printable : ' ' ≤ c) (quote : c ≠ '"') (backslash : c ≠ '\\') :
      Spells (.char c) [c]
  | short {letter c : Char} (known : (letter, c) ∈ shortEscapes) : Spells (.char c) ['\\', letter]
  | unit {n : Nat} {digits : List Char} (written : CodeUnit n digits) :
      Spells (.unit n) ('\\' :: 'u' :: digits)

/-- Pieces written one after the other. -/
inductive Written : List Piece → List Char → Prop
  | nil : Written [] []
  | cons {p : Piece} {ps : List Piece} {cs more : List Char} (piece : p.Spells cs)
      (others : Written ps more) : Written (p :: ps) (cs ++ more)

/-- The characters that pieces stand for: none if a surrogate is without its partner. -/
def decode? : List Piece → Option (List Char)
  | [] => some []
  | .char c :: ps => (decode? ps).map (c :: ·)
  | .unit n :: ps =>
      if isLowSurrogate n then none
      else if isHighSurrogate n then
        match ps with
        | .unit low :: ps =>
            if isLowSurrogate low then (decode? ps).map (pairedChar n low :: ·) else none
        | _ => none
      else (decode? ps).map (.ofNat n :: ·)

/-- The text that pieces stand for. -/
def textOf? (ps : List Piece) : Option String :=
  (decode? ps).map String.ofList

theorem Written.of_unit {n : Nat} {ps : List Piece} {cs : List Char}
    (h : Written (.unit n :: ps) cs) :
    ∃ digits more, CodeUnit n digits ∧ Written ps more ∧ cs = '\\' :: 'u' :: (digits ++ more) := by
  cases h with
  | cons piece others =>
      cases piece with
      | unit written => exact ⟨_, _, written, others, rfl⟩

/-- The pieces of a text, none of them a code unit. -/
def plain (s : String) : List Piece :=
  s.toList.map .char

theorem decode?_chars (cs : List Char) : decode? (cs.map .char) = some cs := by
  induction cs with
  | nil => rfl
  | cons c cs ih => rw [List.map_cons, decode?, ih, Option.map_some]

@[simp] theorem textOf?_plain (s : String) : textOf? (plain s) = some s := by
  rw [textOf?, plain, decode?_chars, Option.map_some, String.ofList_toList]

/-- Characters that stand for themselves. -/
def Unescaped (cs : List Char) : Prop :=
  ∀ c ∈ cs, ' ' ≤ c ∧ c ≠ '"' ∧ c ≠ '\\'

instance (cs : List Char) : Decidable (Unescaped cs) :=
  List.decidableBAll (fun c => ' ' ≤ c ∧ c ≠ '"' ∧ c ≠ '\\') cs

theorem written_chars {cs : List Char} (h : Unescaped cs) : Written (cs.map .char) cs := by
  induction cs with
  | nil => exact .nil
  | cons c cs ih =>
      obtain ⟨printable, quote, backslash⟩ := h c List.mem_cons_self
      exact .cons (.plain printable quote backslash) (ih fun d hd => h d (List.mem_cons_of_mem c hd))

/-- A text in which nothing has to be escaped can be written as it is. -/
theorem written_plain {s : String} (h : Unescaped s.toList) : Written (plain s) s.toList :=
  written_chars h

/-! ### Escapes -/

theorem hexValue?_of_hexDigit {value : Nat} {c : Char} (h : HexDigit value c) :
    hexValue? c = some value := by
  have hbelow : value < 16 := by
    rcases h with h | h <;> exact (List.getElem?_eq_some_iff.mp h).1
  have hall : ∀ v : Fin 16, "0123456789abcdef".toList[v.val]?.bind hexValue? = some v.val ∧
      "0123456789ABCDEF".toList[v.val]?.bind hexValue? = some v.val := by decide
  have hvalue := hall ⟨value, hbelow⟩
  rcases h with h | h
  · rw [h] at hvalue
    exact hvalue.1
  · rw [h] at hvalue
    exact hvalue.2

theorem CodeUnit.read {n : Nat} {digits : List Char} (h : CodeUnit n digits) (rest : List Char) :
    readCodeUnit (digits ++ rest) = .ok (n, rest) := by
  cases h with
  | @digits i j k l a b c d ha hb hc hd =>
      have hunit : codeUnit? a b c d = some (((i * 16 + j) * 16 + k) * 16 + l) := by
        rw [codeUnit?, hexValue?_of_hexDigit ha, hexValue?_of_hexDigit hb,
          hexValue?_of_hexDigit hc, hexValue?_of_hexDigit hd]
        rfl
      simp only [List.cons_append, List.nil_append, readCodeUnit, hunit]

theorem shortEscape?_of_mem {letter c : Char} (h : (letter, c) ∈ shortEscapes) :
    letter ≠ 'u' ∧ shortEscape? letter = some c := by
  have hall : ∀ e ∈ shortEscapes, e.1 ≠ 'u' ∧ shortEscape? e.1 = some e.2 := by decide
  exact hall (letter, c) h

theorem readEscape_short {letter c : Char} (h : (letter, c) ∈ shortEscapes) (rest : List Char) :
    readEscape (letter :: rest) = .ok (c, rest) := by
  obtain ⟨hne, hmeant⟩ := shortEscape?_of_mem h
  simp only [readEscape, if_neg hne, hmeant]

theorem readEscape_unit {n : Nat} {digits : List Char} (h : CodeUnit n digits)
    (rest : List Char) :
    readEscape ('u' :: (digits ++ rest)) =
      if isLowSurrogate n then .error (.here .loneSurrogate rest)
      else if isHighSurrogate n then readLowHalf n rest
      else .ok (.ofNat n, rest) := by
  simp only [readEscape, if_pos, readUnitEscape, h.read rest]

/-- Behind a high surrogate nothing is read but the escape of a low one. -/
theorem readLowHalf_refuses {ps : List Piece} {cs : List Char} (high : Nat) (h : Written ps cs)
    (hlow : ∀ low others, ps = .unit low :: others → isLowSurrogate low = false)
    (rest : List Char) : ∃ failure, readLowHalf high (cs ++ '"' :: rest) = .error failure := by
  cases h with
  | nil => exact ⟨_, rfl⟩
  | @cons p ps cs more piece others =>
      cases piece with
      | @plain c printable quote backslash =>
          refine ⟨.atNext .incompleteSurrogate (c :: (more ++ '"' :: rest)), ?_⟩
          simp [readLowHalf, backslash]
      | @short letter c known =>
          have hne := (shortEscape?_of_mem known).1
          refine ⟨.atNext .incompleteSurrogate (letter :: (more ++ '"' :: rest)), ?_⟩
          simp [readLowHalf, hne]
      | @unit n digits written =>
          have hn := hlow n ps rfl
          refine ⟨.here .loneSurrogate (more ++ '"' :: rest), ?_⟩
          simp only [List.cons_append, List.append_assoc, readLowHalf, written.read, hn,
            Bool.false_eq_true, if_false]

theorem readLowHalf_low {low : Nat} {digits : List Char} (high : Nat) (h : CodeUnit low digits)
    (hlow : isLowSurrogate low = true) (rest : List Char) :
    readLowHalf high ('\\' :: 'u' :: (digits ++ rest)) = .ok (pairedChar high low, rest) := by
  simp only [readLowHalf, h.read, hlow, if_true]

/-! ### Texts -/

theorem readChars_quote (rest : List Char) : readChars ('"' :: rest) = .ok ([], rest) := by
  rw [readChars, if_pos rfl]

theorem readChars_plain {c : Char} (printable : ' ' ≤ c) (quote : c ≠ '"') (backslash : c ≠ '\\')
    (rest : List Char) : readChars (c :: rest) = (readChars rest).map (c :: ·) := by
  rw [readChars, if_neg quote, if_neg backslash, if_neg (Char.not_lt.mpr printable)]
  cases readChars rest <;> rfl

theorem readChars_escape {c : Char} {cs more : List Char} (h : readEscape cs = .ok (c, more)) :
    readChars ('\\' :: cs) = (readChars more).map (c :: ·) := by
  rw [readChars, if_neg (by decide), if_pos rfl]
  split
  case _ hfailure => rw [h] at hfailure; cases hfailure
  case _ hok =>
      rw [h] at hok
      cases hok
      cases readChars more <;> rfl

theorem readChars_escape_error {cs : List Char} (h : ∃ failure, readEscape cs = .error failure) :
    ∃ failure, readChars ('\\' :: cs) = .error failure := by
  obtain ⟨failure, hfailure⟩ := h
  refine ⟨failure, ?_⟩
  rw [readChars, if_neg (by decide), if_pos rfl]
  split
  case _ other hother =>
      rw [hfailure] at hother
      cases hother
      rfl
  case _ hok => rw [hfailure] at hok; cases hok

/-- Reading pieces up to the closing quote gives the characters that they stand for. -/
theorem readChars_written {ps : List Piece} {cs : List Char} (h : Written ps cs)
    (rest : List Char) : (readChars (cs ++ '"' :: rest)).Gives (decode? ps) rest := by
  fun_induction decode? ps generalizing cs with
  | case1 =>
      cases h with
      | nil => exact readChars_quote rest
  | case2 c ps ih =>
      cases h with
      | @cons _ _ cs more piece others =>
          rw [List.append_assoc]
          cases piece with
          | plain printable quote backslash =>
              rw [List.singleton_append, readChars_plain printable quote backslash]
              exact (ih others).map _
          | short known =>
              rw [List.cons_append, List.singleton_append,
                readChars_escape (readEscape_short known _)]
              exact (ih others).map _
  | case3 n ps hlow =>
      obtain ⟨digits, more, hunit, -, rfl⟩ := h.of_unit
      rw [List.cons_append, List.cons_append, List.append_assoc]
      refine readChars_escape_error ?_
      rw [readEscape_unit hunit, if_pos hlow]
      exact ⟨_, rfl⟩
  | case4 n hlow hhigh low ps hpair ih =>
      obtain ⟨digits, more, hunit, hmore, rfl⟩ := h.of_unit
      obtain ⟨digits', more', hunit', hmore', rfl⟩ := hmore.of_unit
      rw [List.cons_append, List.cons_append, List.append_assoc, List.cons_append,
        List.cons_append, List.append_assoc]
      have hescape := readEscape_unit hunit ('\\' :: 'u' :: (digits' ++ (more' ++ '"' :: rest)))
      rw [if_neg hlow, if_pos hhigh, readLowHalf_low n hunit' hpair] at hescape
      rw [readChars_escape hescape]
      exact (ih hmore').map _
  | case5 n hlow hhigh low ps hpair =>
      obtain ⟨digits, more, hunit, hmore, rfl⟩ := h.of_unit
      rw [List.cons_append, List.cons_append, List.append_assoc]
      refine readChars_escape_error ?_
      rw [readEscape_unit hunit, if_neg hlow, if_pos hhigh]
      refine readLowHalf_refuses n hmore ?_ rest
      rintro low' others' ⟨⟩
      simpa using hpair
  | case6 n ps hlow hhigh hps =>
      obtain ⟨digits, more, hunit, hmore, rfl⟩ := h.of_unit
      rw [List.cons_append, List.cons_append, List.append_assoc]
      refine readChars_escape_error ?_
      rw [readEscape_unit hunit, if_neg hlow, if_pos hhigh]
      refine readLowHalf_refuses n hmore ?_ rest
      intro low others' heq
      exact (hps low others' heq).elim
  | case7 n ps hlow hhigh ih =>
      obtain ⟨digits, more, hunit, hmore, rfl⟩ := h.of_unit
      rw [List.cons_append, List.cons_append, List.append_assoc]
      have hescape := readEscape_unit hunit (more ++ '"' :: rest)
      rw [if_neg hlow, if_neg hhigh] at hescape
      rw [readChars_escape hescape]
      exact (ih hmore).map _

/-- **Texts.** Reading what is written between quotes gives what it stands for. -/
theorem readText_written {ps : List Piece} {cs : List Char} (h : Written ps cs)
    (rest : List Char) : (readText (cs ++ '"' :: rest)).Gives (textOf? ps) rest := by
  rw [readText, textOf?]
  obtain ⟨failure, hread, hps⟩ | ⟨chars, hread, hps⟩ := (readChars_written h rest).refuses_or_reads
  · rw [hread, hps]
    exact ⟨failure, rfl⟩
  · rw [hread, hps]
    rfl

end SolverDeck.Json
