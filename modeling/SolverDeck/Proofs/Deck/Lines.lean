import SolverDeck.Deck
import SolverDeck.Proofs.Value.Texts

/-!
# Reading a deck back

Nothing in a deck is quoted, and a value may have the mark between label and value in it. Still a
deck can be taken apart again, if no label has an equals sign in it and neither labels nor texts
have a line feed: split at line feeds, and cut each line at the first mark (`cut`). The label of a
field is always such a label, whatever its value is.

A label may end in a blank, so the mark is not simply found at the first blank that an equals
sign follows. What decides is the equals sign: the first one of a line is that of its mark
(`cut_line`).
-/

namespace SolverDeck.Deck

/-- The labels and values that a deck has lines for, in order. -/
def entries (scalars : List Scalar) (swept : Option (String × Value)) : List (String × Value) :=
  scalars.map (fun s => (s.label, s.value)) ++ swept.toList

/-- What stands between a label and its value. -/
def mark : List Char := [' ', '=', ' ']

/-- What stands before and after the first mark of a line, if there is one. -/
def cut : List Char → Option (List Char × List Char)
  | [] => none
  | c :: cs =>
      if mark.isPrefixOf (c :: cs) then some ([], (c :: cs).drop mark.length)
      else (cut cs).map fun parts => (c :: parts.1, parts.2)

/-- A label that can be found again in a line. -/
def PlainLabel (label : String) : Prop :=
  '=' ∉ label.toList ∧ '\n' ∉ label.toList

/-- A parameter with a plain label and with texts that have no line feed in them. -/
def Legible (entry : String × Value) : Prop :=
  PlainLabel entry.1 ∧ ∀ s ∈ entry.2.texts, '\n' ∉ s.toList

/-- What the line of a parameter says: the label and the text of the value. -/
def said (entry : String × Value) : String × String :=
  (entry.1, entry.2.display)

variable {scalars scalars' : List Scalar} {swept swept' : Option (String × Value)}
  {entry : String × Value} {label value : List Char}

/-! ### One line -/

theorem toList_line (entry : String × Value) :
    (line entry.1 entry.2).toList =
      (entry.1.toList ++ mark ++ entry.2.display.toList) ++ ['\n'] := by
  rw [line, String.toList_append, String.toList_append, String.toList_append]
  rfl

theorem lineFeed_not_mem_line (h : Legible entry) :
    '\n' ∉ entry.1.toList ++ mark ++ entry.2.display.toList := by
  rw [List.mem_append, List.mem_append, not_or, not_or]
  exact ⟨⟨h.1.2, by decide⟩, Value.lineFeed_not_mem_display entry.2 h.2⟩

/-- **One line.** The first mark stands right behind the label. -/
theorem cut_line (h : '=' ∉ label) : cut (label ++ mark ++ value) = some (label, value) := by
  induction label with
  | nil => simp [cut, mark]
  | cons c label ih =>
      rw [List.mem_cons, not_or] at h
      -- A mark that begins with `c` would have its equals sign in the label, or in the blank of
      -- the mark itself.
      have hmark : mark.isPrefixOf (c :: (label ++ mark ++ value)) = false := by
        cases label with
        | nil => simp [mark, List.isPrefixOf]
        | cons d label =>
            rw [List.mem_cons, not_or] at h
            simp [mark, List.isPrefixOf, h.2.1]
      rw [List.cons_append, List.cons_append, cut, hmark, if_neg Bool.false_ne_true, ih h.2]
      rfl

/-! ### All lines -/

/-- The lines of legible parameters are the pieces between the line feeds of a deck, and nothing
stands behind the last one. -/
theorem splitOn_lines {all : List (String × Value)} (h : ∀ entry ∈ all, Legible entry) :
    (String.join (lines all)).toList.splitOn '\n' =
      all.map (fun entry => entry.1.toList ++ mark ++ entry.2.display.toList) ++ [[]] := by
  induction all with
  | nil => rfl
  | cons entry all ih =>
      have hline := lineFeed_not_mem_line (h entry List.mem_cons_self)
      have hrest := ih fun other hother => h other (List.mem_cons_of_mem entry hother)
      rw [lines, List.map_cons, String.join_cons, String.toList_append, toList_line,
        List.append_assoc, List.singleton_append,
        List.splitOn_append_cons_self_of_not_mem hline, ← lines, hrest]
      rfl

theorem exists_pieces (h : ∀ entry ∈ entries scalars swept, Legible entry) :
    ∃ pieces : List (List Char), (text scalars swept).toList.splitOn '\n' = pieces ++ [[]] ∧
      pieces.length = (entries scalars swept).length ∧
      pieces.map cut = (entries scalars swept).map fun entry =>
        some (entry.1.toList, entry.2.display.toList) := by
  refine ⟨_, splitOn_lines h, List.length_map _, ?_⟩
  rw [List.map_map]
  refine List.map_congr_left ?_
  intro entry hentry
  exact cut_line (h entry hentry).1.1

theorem said_eq_of_text_eq (h : ∀ entry ∈ entries scalars swept, Legible entry)
    (h' : ∀ entry ∈ entries scalars' swept', Legible entry)
    (heq : text scalars swept = text scalars' swept') :
    (entries scalars swept).map said = (entries scalars' swept').map said := by
  obtain ⟨pieces, hpieces, -, hcut⟩ := exists_pieces h
  obtain ⟨pieces', hpieces', -, hcut'⟩ := exists_pieces h'
  rw [heq, hpieces'] at hpieces
  rw [← List.append_cancel_right hpieces, hcut'] at hcut
  -- The said labels and values are what the cuts give, as texts.
  have hsaid (all : List (String × Value)) : all.map said =
      (all.map fun entry => some (entry.1.toList, entry.2.display.toList)).map
        fun parts => (String.ofList (parts.getD ([], [])).1,
          String.ofList (parts.getD ([], [])).2) := by
    rw [List.map_map]
    refine List.map_congr_left ?_
    intro entry _
    simp [said]
  rw [hsaid, hsaid, hcut]

theorem plainLabel_field (f : Field) : PlainLabel f.label := by
  unfold PlainLabel
  cases f <;> decide

/-- The labels of fields are plain. Split at its line feeds, a deck with plain labels and with
texts without line feeds has one piece for each parameter and nothing behind the last, and cut at
its first mark each piece gives the label and the text of the value. So two such decks with the
same text say the same. -/
theorem text_taken_apart :
    (∀ f : Field, PlainLabel f.label) ∧
      ∀ (scalars : List Scalar) (swept : Option (String × Value)),
        (∀ entry ∈ entries scalars swept, Legible entry) →
          (∃ pieces : List (List Char),
            (text scalars swept).toList.splitOn '\n' = pieces ++ [[]] ∧
              pieces.length = (entries scalars swept).length ∧
              pieces.map cut = (entries scalars swept).map fun entry =>
                some (entry.1.toList, entry.2.display.toList)) ∧
          ∀ (scalars' : List Scalar) (swept' : Option (String × Value)),
            (∀ entry ∈ entries scalars' swept', Legible entry) →
              text scalars swept = text scalars' swept' →
                (entries scalars swept).map said = (entries scalars' swept').map said := by
  refine ⟨plainLabel_field, ?_⟩
  intro scalars swept h
  refine ⟨exists_pieces h, ?_⟩
  intro scalars' swept' h' heq
  exact said_eq_of_text_eq h h' heq

/-- A label that ends in a blank, and a swept value with marks, separators and an empty list in
it. -/
theorem text_taken_apart_marked :
    (∀ entry ∈ entries [⟨"a ", .text "b = c, d"⟩] (some ("e", .list [.text " = ", .list []])),
      Legible entry) ∧
    ∃ pieces : List (List Char),
      (text [⟨"a ", .text "b = c, d"⟩]
        (some ("e", .list [.text " = ", .list []]))).toList.splitOn '\n' = pieces ++ [[]] ∧
      pieces.map cut = [some ("a ".toList, "b = c, d".toList), some ("e".toList, " = , ".toList)] := by
  have h : ∀ entry ∈ entries [⟨"a ", .text "b = c, d"⟩]
      (some ("e", .list [.text " = ", .list []])), Legible entry := by
    intro entry hentry
    simp only [entries, List.map_cons, List.map_nil, Option.toList_some, List.cons_append,
      List.nil_append, List.mem_cons, List.not_mem_nil, or_false] at hentry
    rcases hentry with rfl | rfl
    · exact ⟨⟨by decide, by decide⟩, by decide⟩
    · exact ⟨⟨by decide, by decide⟩, by decide⟩
  obtain ⟨⟨pieces, hpieces, -, hcut⟩, -⟩ := text_taken_apart.2 _ _ h
  exact ⟨h, pieces, hpieces, hcut⟩

end SolverDeck.Deck
