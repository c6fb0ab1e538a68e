/-!
# Likeness of words

How much a word looks like another one, to find what a user may have meant. The
measure counts the characters that both words have in nearly the same place
(`shared`), how long the words are, and how many of the shared characters are out of
order. It is 1 for equal words and 0 for words that share nothing.

`similar` gives the items whose names look enough like a word, the one most like it last.
-/

namespace SolverDeck.Likeness

/-- A character of a word, and whether it is spoken for. -/
abbrev Marked := List (Char × Bool)

/-- Mark the first free `c` with a place from `low` up to, not including, `high`, the
word beginning at `place`. -/
def claim (low high : Nat) (c : Char) (place : Nat) : Marked → Option Marked
  | [] => none
  | (d, marked) :: more =>
      if high ≤ place then none
      else if low ≤ place ∧ d = c ∧ marked = false then some ((d, true) :: more)
      else (claim low high c (place + 1) more).map ((d, marked) :: ·)

/-- The characters of a word, from `place` on, that another word has not more than
`range` places away, in the order of either word. No character serves twice. -/
def shared (range place : Nat) : List Char → Marked → List Char × List Char
  | [], other => ([], (other.filter (·.2)).map (·.1))
  | c :: cs, other =>
      match claim (place - range) (place + range + 1) c 0 other with
      | none => shared range (place + 1) cs other
      | some marked =>
          let (mine, theirs) := shared range (place + 1) cs marked
          (c :: mine, theirs)

/-- The likeness of two words, from 0 to 1. -/
def likeness (a b : List Char) : Float :=
  if a.isEmpty && b.isEmpty then 1
  else
    let range := max a.length b.length / 2 - 1
    let (mine, theirs) := shared range 0 a (b.map fun c => (c, false))
    if mine.isEmpty then 0
    else
      let count := mine.length
      let exchanged := ((mine.zip theirs).filter fun pair => pair.1 != pair.2).length / 2
      (count.toFloat / a.length.toFloat + count.toFloat / b.length.toFloat +
        (count - exchanged).toFloat / count.toFloat) / 3

/-- How much a name must look like a word to be worth mentioning. -/
def threshold : Float := 0.7

/-- The items whose names look like a word, the one most like it last. -/
def similar (name : α → String) (word : String) (items : List α) : List α :=
  let rated := items.map fun item => (likeness word.toList (name item).toList, item)
  let close := rated.filter fun (rate, _) => threshold < rate
  (close.mergeSort fun x y => x.1 ≤ y.1).map (·.2)

end SolverDeck.Likeness
