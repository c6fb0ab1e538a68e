import SolverDeck.Json.Document

/-!
# Items and entries one after the other

Lists and objects are both series: members with commas between them and blanks anywhere around
them. `Series` is that grammar, for any way of writing a member, and `Result.Gives` says what a
reader makes of a text that it ends within: it gives a value and leaves the rest, or it refuses.

The main statements lift this from members to series (`readItems_series`, `readEntries_series`):
if the reader of a member gives what the member means, the reader of the series gives what the
members mean, in order, and it refuses as soon as one of them means nothing.
-/

namespace SolverDeck.Json

/-! ### What a reader gives -/

/-- A reader gives the value and leaves `rest`; where there is no value, it refuses. -/
def Result.Gives (r : Result α) (value? : Option α) (rest : List Char) : Prop :=
  match value? with
  | some value => r = .ok (value, rest)
  | none => ∃ failure, r = .error failure

theorem Result.Gives.refuses_or_reads {r : Result α} {value? : Option α} {rest : List Char}
    (h : r.Gives value? rest) :
    (∃ failure, r = .error failure ∧ value? = none) ∨
      ∃ value, r = .ok (value, rest) ∧ value? = some value := by
  cases value? with
  | none =>
      obtain ⟨failure, hr⟩ := h
      exact .inl ⟨failure, hr, rfl⟩
  | some value => exact .inr ⟨value, h, rfl⟩

theorem Result.Gives.map {r : Result α} {value? : Option α} {rest : List Char}
    (h : r.Gives value? rest) (f : α → β) : (r.map f).Gives (value?.map f) rest := by
  cases value? with
  | none =>
      obtain ⟨failure, rfl⟩ := h
      exact ⟨failure, rfl⟩
  | some value =>
      obtain rfl : r = .ok (value, rest) := h
      rfl

theorem Result.Gives.enclosed {r : Result α} {value? : Option α} {rest after : List Char}
    {close : List Char → Option Problem × List Char} (h : r.Gives value? rest)
    (hclose : close rest = (none, after)) : (Json.enclosed close r).Gives value? after := by
  cases value? with
  | none =>
      obtain ⟨failure, rfl⟩ := h
      unfold Json.enclosed
      dsimp only
      split
      · exact ⟨_, rfl⟩
      · exact ⟨_, rfl⟩
  | some value =>
      obtain rfl : r = .ok (value, rest) := h
      simp only [Json.enclosed, hclose, Result.Gives]

/-! ### Blanks -/

/-- Nothing but blanks. -/
def Blank (ws : List Char) : Prop :=
  ∀ c ∈ ws, isBlank c = true

instance (ws : List Char) : Decidable (Blank ws) :=
  List.decidableBAll (isBlank · = true) ws

theorem Blank.nil : Blank [] :=
  fun _ h => absurd h List.not_mem_nil

theorem Blank.skipBlanks_append {ws : List Char} (h : Blank ws) (cs : List Char) :
    skipBlanks (ws ++ cs) = skipBlanks cs :=
  List.dropWhile_append_of_pos h

theorem skipBlanks_cons {c : Char} (h : isBlank c = false) (cs : List Char) :
    skipBlanks (c :: cs) = c :: cs :=
  List.dropWhile_cons_of_neg (by simp [h])

/-! ### Series -/

/-- Members one after the other, each in its own writing; `first` says that none stands before
them. -/
inductive Series (R : α → List Char → Prop) : Bool → List α → List Char → Prop
  | done {first : Bool} {ws : List Char} (blank : Blank ws) : Series R first [] ws
  | first {a : α} {as : List α} {ws cs more : List Char} (blank : Blank ws) (member : R a cs)
      (others : Series R false as more) : Series R true (a :: as) (ws ++ cs ++ more)
  | next {a : α} {as : List α} {ws ws' cs more : List Char} (blank : Blank ws)
      (blank' : Blank ws') (member : R a cs) (others : Series R false as more) :
      Series R false (a :: as) (ws ++ ',' :: (ws' ++ cs ++ more))

/-- A text that a number before it does not go on with. -/
def Stops (rest : List Char) : Prop :=
  ∀ c ∈ rest.head?, c.isDigit = false ∧ c ≠ '.' ∧ c ≠ 'e' ∧ c ≠ 'E'

/-- A text that begins a member of a series which ends with `closing`. -/
def Begins (closing : Char) (cs : List Char) : Prop :=
  ∃ c tail, cs = c :: tail ∧ isBlank c = false ∧ c ≠ closing

variable {R : α → List Char → Prop} {first : Bool} {a : α} {as : List α} {cs rest : List Char}

theorem stops_blank_append {ws : List Char} (h : Blank ws) (hrest : Stops rest) :
    Stops (ws ++ rest) := by
  cases ws with
  | nil => exact hrest
  | cons c ws =>
      intro d hd
      obtain rfl : c = d := Option.some.inj hd
      have hc := h c List.mem_cons_self
      simp only [isBlank, Bool.or_eq_true, beq_iff_eq] at hc
      rcases hc with ((rfl | rfl) | rfl) | rfl <;> decide

theorem stops_cons {c : Char} (h : c.isDigit = false ∧ c ≠ '.' ∧ c ≠ 'e' ∧ c ≠ 'E')
    (rest : List Char) : Stops (c :: rest) := by
  intro d hd
  obtain rfl : c = d := Option.some.inj hd
  exact h

/-- What follows a member does not go on with it. -/
theorem Series.stops (h : Series R false as cs) (hrest : Stops rest) : Stops (cs ++ rest) := by
  cases h with
  | done blank => exact stops_blank_append blank hrest
  | next blank blank' member others =>
      rw [List.append_assoc]
      exact stops_blank_append blank (stops_cons (by decide) _)

/-- A series has at least one character for each member. -/
theorem Series.length_le (h : Series R first as cs) (hne : ∀ a ∈ as, ¬ R a []) :
    as.length ≤ cs.length := by
  induction h with
  | done => exact Nat.zero_le _
  | @first a as ws member more blank hmember others ih =>
      have hpos : 0 < member.length := by
        cases member with
        | nil => exact absurd hmember (hne a List.mem_cons_self)
        | cons c cs => exact Nat.succ_pos _
      have := ih fun b hb => hne b (List.mem_cons_of_mem a hb)
      simp only [List.length_cons, List.length_append]
      omega
  | @next a as ws ws' member more blank blank' hmember others ih =>
      have := ih fun b hb => hne b (List.mem_cons_of_mem a hb)
      simp only [List.length_cons, List.length_append]
      omega

/-- So a reader that takes as many rounds as there are characters takes enough. -/
theorem Series.length_lt (h : Series R first as cs) (hne : ∀ a ∈ as, ¬ R a []) (closing : Char)
    (rest : List Char) : as.length < (cs ++ closing :: rest).length := by
  have := h.length_le hne
  rw [List.length_append, List.length_cons]
  omega

/-- What stands before a member that is not the first: blanks, a comma and blanks. -/
theorem Series.skip_comma {closing : Char} (h : Series R false (a :: as) cs)
    (hbegins : ∀ cs, R a cs → Begins closing cs) (rest : List Char) :
    ∃ member more after c tail, R a member ∧ Series R false as more ∧
      skipBlanks (cs ++ rest) = ',' :: after ∧ skipBlanks after = c :: tail ∧ c ≠ closing ∧
        c :: tail = member ++ (more ++ rest) := by
  cases h with
  | @next _ _ ws ws' member more blank blank' written others =>
      obtain ⟨c, tail, rfl, hblank, hne⟩ := hbegins member written
      refine ⟨c :: tail, more, ws' ++ (c :: tail) ++ more ++ rest, c, tail ++ (more ++ rest), written,
        others, ?_, ?_, hne, rfl⟩
      · rw [List.append_assoc, blank.skipBlanks_append]
        exact skipBlanks_cons (by decide) _
      · rw [List.append_assoc, List.append_assoc, blank'.skipBlanks_append]
        exact skipBlanks_cons hblank _

/-! ### Lists -/

theorem nextItem_done (h : Series R first [] cs) (rest : List Char) :
    nextItem first (cs ++ ']' :: rest) = .ok (.finish (']' :: rest)) := by
  cases h with
  | done blank =>
      rw [nextItem, blank.skipBlanks_append, skipBlanks_cons (by decide)]
      rfl

theorem nextItem_comma {more tail : List Char} {c : Char} (hcs : skipBlanks cs = ',' :: more)
    (hmore : skipBlanks more = c :: tail) (hne : c ≠ ']') :
    nextItem false cs = .ok (.start (c :: tail)) := by
  simp [nextItem, hcs, hmore, hne]

/-- **The next item.** What separates it from those before is stepped over. -/
theorem nextItem_series (h : Series R first (a :: as) cs)
    (hbegins : ∀ cs, R a cs → Begins ']' cs) (rest : List Char) :
    ∃ item more, R a item ∧ Series R false as more ∧
      nextItem first (cs ++ ']' :: rest) = .ok (.start (item ++ (more ++ ']' :: rest))) := by
  cases h with
  | @first _ _ _ item more blank member others =>
      refine ⟨item, more, member, others, ?_⟩
      obtain ⟨c, tail, rfl, hblank, hne⟩ := hbegins item member
      rw [nextItem, List.append_assoc, List.append_assoc, blank.skipBlanks_append,
        List.cons_append, skipBlanks_cons hblank]
      split
      case _ heq => cases heq
      case _ heq => exact absurd (List.cons.inj heq).1 hne
      case _ heq =>
          obtain ⟨rfl, rfl⟩ := List.cons.inj heq
          rfl
  | next blank blank' member others =>
      obtain ⟨item, more, after, c, tail, hitem, hmore, hcomma, hafter, hne, htail⟩ :=
        (Series.next blank blank' member others).skip_comma hbegins (']' :: rest)
      refine ⟨item, more, hitem, hmore, ?_⟩
      rw [nextItem_comma hcomma hafter hne, htail]

/-- **Lists.** If the reader of an item gives what the item means, that of a list gives what the
items mean. -/
theorem readItems_series {item : List Char → Result β} {value? : α → Option β}
    (hitem : ∀ a ∈ as, ∀ cs rest, R a cs → Stops rest → (item (cs ++ rest)).Gives (value? a) rest)
    (hbegins : ∀ a ∈ as, ∀ cs, R a cs → Begins ']' cs) (h : Series R first as cs)
    {rounds : Nat} (hrounds : as.length < rounds) (rest : List Char) :
    (readItems item first rounds (cs ++ ']' :: rest)).Gives (as.mapM value?) (']' :: rest) := by
  obtain ⟨rounds, rfl⟩ : ∃ n, rounds = n + 1 := ⟨rounds - 1, by omega⟩
  induction as generalizing first cs rounds with
  | nil =>
      rw [readItems, nextItem_done h]
      rfl
  | cons a as ih =>
      obtain ⟨acs, more, hmember, hmore, hnext⟩ :=
        nextItem_series h (hbegins a List.mem_cons_self) rest
      have hread := hitem a List.mem_cons_self acs _ hmember
        (hmore.stops (stops_cons (c := ']') (by decide) rest))
      rw [readItems, hnext, List.mapM_cons]
      dsimp only
      obtain ⟨failure, hitemRead, hvalue⟩ | ⟨value, hitemRead, hvalue⟩ := hread.refuses_or_reads
      · rw [hitemRead, hvalue]
        exact ⟨failure, rfl⟩
      · rw [hitemRead, hvalue]
        dsimp only
        obtain ⟨rounds, rfl⟩ : ∃ n, rounds = n + 1 :=
          ⟨rounds - 1, by rw [List.length_cons] at hrounds; omega⟩
        have hothers := ih (fun b hb => hitem b (List.mem_cons_of_mem a hb))
          (fun b hb => hbegins b (List.mem_cons_of_mem a hb)) hmore rounds
          (by rw [List.length_cons] at hrounds; omega)
        obtain ⟨failure, hothersRead, hvalues⟩ | ⟨values, hothersRead, hvalues⟩ :=
          hothers.refuses_or_reads
        · rw [hothersRead, hvalues]
          exact ⟨failure, rfl⟩
        · rw [hothersRead, hvalues]
          rfl

/-! ### Objects -/

theorem nextEntry_done (h : Series R first [] cs) (rest : List Char) :
    nextEntry first (cs ++ '\x7d' :: rest) = .ok (.finish ('\x7d' :: rest)) := by
  cases h with
  | done blank =>
      rw [nextEntry, blank.skipBlanks_append, skipBlanks_cons (by decide)]
      rfl

theorem nextEntry_comma {more tail : List Char} (hcs : skipBlanks cs = ',' :: more)
    (hmore : skipBlanks more = '"' :: tail) :
    nextEntry false cs = .ok (.start ('"' :: tail)) := by
  simp [nextEntry, hcs, hmore]

/-- **The next entry.** It begins with a quote. -/
theorem nextEntry_series (h : Series R first (a :: as) cs)
    (hquote : ∀ cs, R a cs → ∃ tail, cs = '"' :: tail) (rest : List Char) :
    ∃ entry more, R a entry ∧ Series R false as more ∧
      nextEntry first (cs ++ '\x7d' :: rest) = .ok (.start (entry ++ (more ++ '\x7d' :: rest))) := by
  cases h with
  | @first _ _ _ entry more blank member others =>
      refine ⟨entry, more, member, others, ?_⟩
      obtain ⟨tail, rfl⟩ := hquote entry member
      rw [nextEntry, List.append_assoc, List.append_assoc, blank.skipBlanks_append,
        List.cons_append, skipBlanks_cons (by decide)]
      rfl
  | @next _ _ ws ws' entry more blank blank' member others =>
      refine ⟨entry, more, member, others, ?_⟩
      obtain ⟨tail, rfl⟩ := hquote entry member
      have hcs : skipBlanks (ws ++ ',' :: (ws' ++ ('"' :: tail) ++ more) ++ '\x7d' :: rest) =
          ',' :: (ws' ++ ('"' :: tail) ++ more ++ '\x7d' :: rest) := by
        rw [List.append_assoc, blank.skipBlanks_append]
        exact skipBlanks_cons (by decide) _
      have hmore : skipBlanks (ws' ++ ('"' :: tail) ++ more ++ '\x7d' :: rest) =
          '"' :: (tail ++ (more ++ '\x7d' :: rest)) := by
        rw [List.append_assoc, List.append_assoc, blank'.skipBlanks_append]
        exact skipBlanks_cons (by decide) _
      exact nextEntry_comma hcs hmore

/-- **Objects.** If the reader of an entry takes a step from what the entries before it made, that
of an object takes the steps of all its entries in order. -/
theorem readEntries_series {entry : σ → List Char → Result σ} {step? : σ → α → Option σ}
    (hentry : ∀ a ∈ as, ∀ state cs rest, R a cs → Stops rest →
      (entry state (cs ++ rest)).Gives (step? state a) rest)
    (hquote : ∀ a ∈ as, ∀ cs, R a cs → ∃ tail, cs = '"' :: tail) (h : Series R first as cs)
    {rounds : Nat} (hrounds : as.length < rounds) (state : σ) (rest : List Char) :
    (readEntries entry first rounds state (cs ++ '\x7d' :: rest)).Gives (as.foldlM step? state)
      ('\x7d' :: rest) := by
  obtain ⟨rounds, rfl⟩ : ∃ n, rounds = n + 1 := ⟨rounds - 1, by omega⟩
  induction as generalizing first cs rounds state with
  | nil =>
      rw [readEntries, nextEntry_done h]
      rfl
  | cons a as ih =>
      obtain ⟨acs, more, hmember, hmore, hnext⟩ :=
        nextEntry_series h (hquote a List.mem_cons_self) rest
      have hread := hentry a List.mem_cons_self state acs _ hmember
        (hmore.stops (stops_cons (c := '\x7d') (by decide) rest))
      rw [readEntries, hnext, List.foldlM_cons]
      dsimp only
      obtain ⟨failure, hentryRead, hstep⟩ | ⟨after, hentryRead, hstep⟩ := hread.refuses_or_reads
      · rw [hentryRead, hstep]
        exact ⟨failure, rfl⟩
      · rw [hentryRead, hstep]
        obtain ⟨rounds, rfl⟩ : ∃ n, rounds = n + 1 :=
          ⟨rounds - 1, by rw [List.length_cons] at hrounds; omega⟩
        exact ih (fun b hb => hentry b (List.mem_cons_of_mem a hb))
          (fun b hb => hquote b (List.mem_cons_of_mem a hb)) hmore after rounds
          (by rw [List.length_cons] at hrounds; omega)

end SolverDeck.Json
