import SolverDeck.Proofs.Json.Literal
import SolverDeck.Proofs.Json.Pieces

/-!
# The grammar of JSON

A `Tree` is what is written in a JSON text, with its blanks left out and nothing understood yet:
numbers are literals, texts are pieces, and the entries of an object are in order, whether their
keys repeat or not. `Tree.Spells` says which texts a tree has; that is the whole grammar, with blanks
between any two tokens.

`Tree.document?` is what a tree says if so many lists and objects may be open inside each other. A
tree that is too deep, or has a number or a text in it that stands for nothing, says nothing.
Reading a text gives what its tree says (`readDocument_spells`); the induction is on the levels, for
each list and each object takes one.
-/

namespace SolverDeck.Json

/-- A JSON text without its blanks. -/
inductive Tree where
  | null
  | bool (b : Bool)
  | number (l : Literal)
  | text (ps : List Piece)
  | list (items : List Tree)
  /-- The entries in order, their keys as they are written. -/
  | object (entries : List (List Piece × Tree))

/-- An entry of an object, what it holds being written as `R` says. -/
inductive EntryOf (R : α → List Char → Prop) : List Piece × α → List Char → Prop
  | entry {key : List Piece} {a : α} {keyChars ws ws' cs : List Char} (writtenKey : Written key keyChars)
      (blank : Blank ws) (blank' : Blank ws') (held : R a cs) :
      EntryOf R (key, a) ('"' :: (keyChars ++ '"' :: (ws ++ ':' :: (ws' ++ cs))))

/-- The texts of a tree. -/
inductive Tree.Spells : Tree → List Char → Prop
  | null : Spells .null ['n', 'u', 'l', 'l']
  | true : Spells (.bool true) ['t', 'r', 'u', 'e']
  | false : Spells (.bool false) ['f', 'a', 'l', 's', 'e']
  | number (l : Literal) : Spells (.number l) l.chars
  | text {ps : List Piece} {cs : List Char} (written : Written ps cs) :
      Spells (.text ps) ('"' :: (cs ++ ['"']))
  | list {items : List Tree} {cs : List Char} (series : Series Spells true items cs) :
      Spells (.list items) ('[' :: (cs ++ [']']))
  | object {entries : List (List Piece × Tree)} {cs : List Char}
      (series : Series (EntryOf Spells) true entries cs) :
      Spells (.object entries) ('\x7b' :: (cs ++ ['\x7d']))

/-- The characters that a tree can begin with; no two kinds of trees share one. -/
def Tree.StartsWith : Tree → Char → Prop
  | .null, c => c = 'n'
  | .bool b, c => c = if b then 't' else 'f'
  | .number _, c => c = '-' ∨ c.isDigit = true
  | .text _, c => c = '"'
  | .list _, c => c = '['
  | .object _, c => c = '\x7b'

/-- What a tree says, if at most `levels` lists and objects may be open inside each other. -/
def Tree.document? : (levels : Nat) → Tree → Option Document
  | _, .null => some .null
  | _, .bool b => some (.bool b)
  | _, .number l => l.number?.map .number
  | _, .text ps => (textOf? ps).map .text
  | 0, .list _ => none
  | 0, .object _ => none
  | levels + 1, .list items => (items.mapM (Tree.document? levels)).map .list
  | levels + 1, .object entries =>
      (entries.mapM fun entry =>
        (textOf? entry.1).bind fun key =>
          (entry.2.document? levels).map fun document => (key, document)).map .object

variable {t : Tree} {cs before rest : List Char}

/-! ### How trees begin -/

theorem isBlank_of_isDigit {c : Char} (h : c.isDigit = true) : isBlank c = false := by
  cases hblank : isBlank c with
  | false => rfl
  | true =>
      simp only [isBlank, Bool.or_eq_true, beq_iff_eq] at hblank
      rcases hblank with ((rfl | rfl) | rfl) | rfl <;> exact absurd h (by decide)

theorem ne_of_startsNumber {c d : Char} (hc : c = '-' ∨ c.isDigit = true) (hminus : d ≠ '-')
    (hdigit : d.isDigit = false) : c ≠ d := by
  rintro rfl
  rcases hc with hc | hc
  · exact hminus hc
  · exact absurd hc (by simp [hdigit])

theorem Tree.Spells.head (h : t.Spells cs) : ∃ c tail, cs = c :: tail ∧ t.StartsWith c := by
  cases h with
  | number l => exact l.exists_chars_eq_cons
  | null => exact ⟨_, _, rfl, rfl⟩
  | true => exact ⟨_, _, rfl, rfl⟩
  | false => exact ⟨_, _, rfl, rfl⟩
  | text => exact ⟨_, _, rfl, rfl⟩
  | list => exact ⟨_, _, rfl, rfl⟩
  | object => exact ⟨_, _, rfl, rfl⟩

theorem Tree.StartsWith.not_blank {c : Char} (h : t.StartsWith c) : isBlank c = false := by
  cases t with
  | bool b => cases b <;> cases h <;> rfl
  | number l =>
      rcases h with rfl | h
      · decide
      · exact isBlank_of_isDigit h
  | null => cases h; rfl
  | text ps => cases h; rfl
  | list items => cases h; rfl
  | object entries => cases h; rfl

theorem Tree.StartsWith.ne_bracket {c : Char} (h : t.StartsWith c) : c ≠ ']' := by
  cases t with
  | bool b => cases b <;> cases h <;> decide
  | number l => exact ne_of_startsNumber h (by decide) (by decide)
  | null => cases h; decide
  | text ps => cases h; decide
  | list items => cases h; decide
  | object entries => cases h; decide

theorem Tree.Spells.begins (h : t.Spells cs) : Begins ']' cs := by
  obtain ⟨c, tail, hcs, hc⟩ := h.head
  exact ⟨c, tail, hcs, hc.not_blank, hc.ne_bracket⟩

theorem EntryOf.exists_quote {R : α → List Char → Prop} {entry : List Piece × α}
    (h : EntryOf R entry cs) : ∃ tail, cs = '"' :: tail := by
  cases h with
  | entry => exact ⟨_, rfl⟩

/-! ### Leaves -/

theorem readDocument_leaf {c : Char} (hblank : isBlank c = false) (hlist : c ≠ '[')
    (hobject : c ≠ '\x7b') (levels : Nat) (hbefore : Blank before) (cs : List Char) :
    readDocument levels (before ++ c :: cs) = readLeaf (c :: cs) := by
  cases levels with
  | zero => simp [readDocument, hbefore.skipBlanks_append, skipBlanks_cons hblank, hlist, hobject]
  | succ levels =>
      simp [readDocument, hbefore.skipBlanks_append, skipBlanks_cons hblank, hlist, hobject]

theorem readLeaf_number {c : Char} (hc : c = '-' ∨ c.isDigit = true) (cs : List Char) :
    readLeaf (c :: cs) = (readNumber (c :: cs)).map .number := by
  unfold readLeaf
  split
  case _ heq => cases heq
  case _ heq => obtain ⟨rfl, rfl⟩ := List.cons.inj heq; exact absurd hc (by decide)
  case _ heq => obtain ⟨rfl, rfl⟩ := List.cons.inj heq; exact absurd hc (by decide)
  case _ heq => obtain ⟨rfl, rfl⟩ := List.cons.inj heq; exact absurd hc (by decide)
  case _ heq => obtain ⟨rfl, rfl⟩ := List.cons.inj heq; exact absurd hc (by decide)
  case _ heq =>
      obtain ⟨rfl, rfl⟩ := List.cons.inj heq
      rw [if_pos hc]

theorem readDocument_literal (l : Literal) (levels : Nat) (hbefore : Blank before)
    (rest : List Char) :
    readDocument levels (before ++ (l.chars ++ rest)) =
      (readNumber (l.chars ++ rest)).map .number := by
  obtain ⟨c, tail, hchars, hc⟩ := l.exists_chars_eq_cons
  have hdifferent : isBlank c = false ∧ c ≠ '[' ∧ c ≠ '\x7b' := by
    rcases hc with rfl | hc
    · decide
    · refine ⟨isBlank_of_isDigit hc, ?_, ?_⟩ <;> rintro rfl <;> exact absurd hc (by decide)
  rw [hchars, List.cons_append,
    readDocument_leaf hdifferent.1 hdifferent.2.1 hdifferent.2.2 levels hbefore,
    readLeaf_number hc]

theorem readDocument_number (l : Literal) (levels : Nat) (hbefore : Blank before)
    (hrest : Stops rest) :
    (readDocument levels (before ++ (l.chars ++ rest))).Gives (l.number?.map .number) rest := by
  rw [readDocument_literal l levels hbefore rest]
  exact (readNumber_literal l hrest).map Document.number

theorem readDocument_text {ps : List Piece} (h : Written ps cs) (levels : Nat)
    (hbefore : Blank before) (rest : List Char) :
    (readDocument levels (before ++ ('"' :: (cs ++ ['"']) ++ rest))).Gives
      ((textOf? ps).map .text) rest := by
  rw [List.cons_append, List.append_assoc, List.singleton_append,
    readDocument_leaf (by decide) (by decide) (by decide) levels hbefore]
  exact (readText_written h rest).map _

/-! ### Punctuation -/

theorem readColon_blank {ws : List Char} (h : Blank ws) (rest : List Char) :
    readColon (ws ++ ':' :: rest) = .ok rest := by
  rw [readColon, h.skipBlanks_append, skipBlanks_cons (by decide)]
  rfl

theorem closeList_bracket (rest : List Char) : closeList (']' :: rest) = (none, rest) := by
  rw [closeList, skipBlanks_cons (by decide)]
  rfl

theorem closeObject_brace (rest : List Char) : closeObject ('\x7d' :: rest) = (none, rest) := by
  rw [closeObject, skipBlanks_cons (by decide)]
  rfl

/-! ### Lists and objects -/

theorem foldlM_append_eq_mapM (f : α → Option β) (as : List α) (made : List β) :
    as.foldlM (fun made a => (f a).map fun b => made ++ [b]) made =
      (as.mapM f).map (made ++ ·) := by
  induction as generalizing made with
  | nil => simp
  | cons a as ih =>
      rw [List.foldlM_cons, List.mapM_cons]
      cases f a with
      | none => rfl
      | some b =>
          have hrest := ih (made ++ [b])
          cases hf : as.mapM f with
          | none => simpa [hf] using hrest
          | some bs => simpa [hf] using hrest

theorem readEntry_entryOf {R : α → List Char → Prop} {entry : List Piece × α}
    {value : List Char → Result β} {value? : Option β} (h : EntryOf R entry cs)
    (hvalue : ∀ ws cs, Blank ws → R entry.2 cs → (value (ws ++ (cs ++ rest))).Gives value? rest) :
    (readEntry value (cs ++ rest)).Gives
      ((textOf? entry.1).bind fun key => value?.map fun b => (key, b)) rest := by
  cases h with
  | @entry key a keyChars ws ws' cs writtenKey blank blank' held =>
      have hkey := readText_written writtenKey (ws ++ ':' :: (ws' ++ (cs ++ rest)))
      rw [List.cons_append, List.append_assoc, List.cons_append, List.append_assoc,
        List.cons_append, List.append_assoc, readEntry, List.drop_one, List.tail_cons]
      obtain ⟨failure, hread, htext⟩ | ⟨text, hread, htext⟩ := hkey.refuses_or_reads
      · rw [hread, htext]
        exact ⟨failure, rfl⟩
      · rw [hread, htext]
        dsimp only
        rw [readColon_blank blank]
        exact (hvalue ws' cs blank' held).map _

theorem Tree.Spells.ne_nil {t : Tree} : ¬ t.Spells [] := by
  intro h
  obtain ⟨c, tail, hnil, -⟩ := h.begins
  cases hnil

theorem EntryOf.ne_nil {R : α → List Char → Prop} {entry : List Piece × α} :
    ¬ EntryOf R entry [] := by
  intro h
  obtain ⟨tail, hnil⟩ := h.exists_quote
  cases hnil

theorem readDocument_list {items : List Tree} {levels : Nat} (hbefore : Blank before)
    (h : Series Tree.Spells true items cs)
    (hitem : ∀ (t : Tree) (before cs rest : List Char), Blank before → t.Spells cs → Stops rest →
      (readDocument levels (before ++ (cs ++ rest))).Gives (t.document? levels) rest) :
    (readDocument (levels + 1) (before ++ '[' :: (cs ++ ']' :: rest))).Gives
      ((Tree.list items).document? (levels + 1)) rest := by
  have hrounds := h.length_lt (fun t _ => Tree.Spells.ne_nil) ']' rest
  have hread := readItems_series (fun t _ cs rest => hitem t [] cs rest Blank.nil)
    (fun t _ cs => Tree.Spells.begins) h hrounds rest
  rw [readDocument, hbefore.skipBlanks_append, skipBlanks_cons (by decide), Tree.document?]
  exact (hread.map Document.list).enclosed (closeList_bracket rest)

theorem readDocument_object {entries : List (List Piece × Tree)} {levels : Nat}
    (hbefore : Blank before) (h : Series (EntryOf Tree.Spells) true entries cs)
    (hheld : ∀ (t : Tree) (before cs rest : List Char), Blank before → t.Spells cs → Stops rest →
      (readDocument levels (before ++ (cs ++ rest))).Gives (t.document? levels) rest) :
    (readDocument (levels + 1) (before ++ '\x7b' :: (cs ++ '\x7d' :: rest))).Gives
      ((Tree.object entries).document? (levels + 1)) rest := by
  have hrounds := h.length_lt (fun e _ => EntryOf.ne_nil) '\x7d' rest
  rw [readDocument, hbefore.skipBlanks_append, skipBlanks_cons (by decide), Tree.document?]
  refine Result.Gives.enclosed (Result.Gives.map ?_ _) (closeObject_brace rest)
  have hfold := foldlM_append_eq_mapM (fun entry : List Piece × Tree =>
    (textOf? entry.1).bind fun key =>
      (entry.2.document? levels).map fun document => (key, document)) entries []
  rw [show (([] ++ ·) : List (String × Document) → _) = id from rfl, Option.map_id, id] at hfold
  rw [← hfold]
  refine readEntries_series ?_ (fun e _ cs => EntryOf.exists_quote) h hrounds [] rest
  intro e _ made cs rest he hrest
  exact (readEntry_entryOf he fun ws cs hws ht => hheld e.2 ws cs rest hws ht hrest).map _

/-- **Documents.** Reading a text gives what its tree says. -/
theorem readDocument_spells (levels : Nat) {t : Tree} {before cs rest : List Char}
    (hbefore : Blank before) (h : t.Spells cs) (hrest : Stops rest) :
    (readDocument levels (before ++ (cs ++ rest))).Gives (t.document? levels) rest := by
  cases h with
  | null => cases levels <;> exact readDocument_leaf (by decide) (by decide) (by decide) _ hbefore _
  | true => cases levels <;> exact readDocument_leaf (by decide) (by decide) (by decide) _ hbefore _
  | false => cases levels <;> exact readDocument_leaf (by decide) (by decide) (by decide) _ hbefore _
  | number l =>
      have hread := readDocument_number l levels hbefore hrest
      cases levels <;> exact hread
  | text written =>
      have hread := readDocument_text written levels hbefore rest
      cases levels <;> exact hread
  | list series =>
      cases levels with
      | zero =>
          rw [readDocument, hbefore.skipBlanks_append, List.cons_append,
            skipBlanks_cons (by decide)]
          exact ⟨_, rfl⟩
      | succ levels =>
          rw [List.cons_append, List.append_assoc, List.singleton_append]
          exact readDocument_list hbefore series fun t before cs rest hws ht hr =>
            readDocument_spells levels hws ht hr
  | object series =>
      cases levels with
      | zero =>
          rw [readDocument, hbefore.skipBlanks_append, List.cons_append,
            skipBlanks_cons (by decide)]
          exact ⟨_, rfl⟩
      | succ levels =>
          rw [List.cons_append, List.append_assoc, List.singleton_append]
          exact readDocument_object hbefore series fun t before cs rest hws ht hr =>
            readDocument_spells levels hws ht hr

end SolverDeck.Json
