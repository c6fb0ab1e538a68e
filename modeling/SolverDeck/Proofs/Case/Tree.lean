import SolverDeck.Case.Reading
import SolverDeck.Proofs.Json.Tree

/-!
# What trees say about cases

A case is read from a text in one pass, each part by a reader of its own kind. Here the same is said
of the tree of the text: which tree is a text or nothing (`Tree.optionalText?`), a value
(`Tree.value?`), a parameter (`parameter?`), a case (`ofEntries?`). Objects are gone through entry by
entry, so that a key that is unknown or comes again is met where it stands.

Each reader gives what its tree says and leaves what stands behind, or refuses
(`readParameter_spells`, `readCaseEntry_entryOf`); so a text with an object in it is a case just if
the tree of the object says one and nothing but blanks stands behind it (`parse_object_refuses`). A
case may be a list as well; which tree is one in either form is `ofTree?` (`read_spells`).
-/

namespace SolverDeck

/-- The value that a number is read as. -/
def Json.Literal.value? (l : Json.Literal) : Option Value :=
  l.number?.map Value.ofNumber

namespace Json.Tree

/-- The text that a tree holds, or that it holds none; nothing if it is neither a text nor `null`. -/
def optionalText? : Tree → Option (Option String)
  | .null => some none
  | .text ps => (textOf? ps).map some
  | _ => none

/-- The parameter value that a tree says, if at most `levels` lists may be open inside each other. -/
def value? (levels : Nat) (t : Tree) : Option Value :=
  (t.document? levels).bind Value.ofDocument?

end Json.Tree

namespace Case

open Json (Tree Piece Blank Stops EntryOf Series Begins textOf?)

/-- What a key holds: nothing may be held under it already. -/
def held? (already : Option α) (value? : Option α) : Option α :=
  if already.isSome then none else value?

/-- What an entry adds to what was read of a parameter. -/
def PartialParameter.take? (p : PartialParameter) (entry : List Piece × Tree) :
    Option PartialParameter :=
  (textOf? entry.1).bind fun key =>
    if key = "field" then
      (held? p.field entry.2.optionalText?).map fun v => { p with field := some v }
    else if key = "label" then
      (held? p.label entry.2.optionalText?).map fun v => { p with label := some v }
    else if key = "value" then
      (held? p.value (entry.2.value? valueLevels)).map fun v => { p with value := some v }
    else none

/-- The parameter made of what was read, if it has a value. -/
def PartialParameter.finish? (p : PartialParameter) : Option Parameter :=
  p.value.map fun value => ⟨p.field.join, p.label.join, value⟩

/-- The parameter that a tree says: an object, or a list of what the keys would hold. -/
def parameter? : Tree → Option Parameter
  | .object entries =>
      (entries.foldlM PartialParameter.take? {}).bind PartialParameter.finish?
  | .list [field, label, value] =>
      field.optionalText?.bind fun f =>
        label.optionalText?.bind fun l =>
          (value.value? valueLevels).map fun v => ⟨f, l, v⟩
  | _ => none

/-- The parameters that a tree says. -/
def parameters? : Tree → Option (List Parameter)
  | .list items => items.mapM parameter?
  | _ => none

/-- What an entry adds to what was read of a case. -/
def PartialCase.take? (c : PartialCase) (entry : List Piece × Tree) : Option PartialCase :=
  (textOf? entry.1).bind fun key =>
    if key = "base" then
      (held? c.base entry.2.optionalText?).map fun v => { c with base := some v }
    else if key = "parameters" then
      (held? c.parameters (parameters? entry.2)).map fun v => { c with parameters := some v }
    else none

/-- The case that the entries of an object say. -/
def ofEntries? (entries : List (List Piece × Tree)) : Option Case :=
  (entries.foldlM PartialCase.take? {}).map PartialCase.finish

variable {t : Tree} {ts : List Tree} {entry : List Piece × Tree} {before cs rest : List Char}
  {first : Bool}

/-! ### Entries one by one -/

theorem held?_eq_some_iff {already value? : Option α} {value : α} :
    held? already value? = some value ↔ already = none ∧ value? = some value := by
  cases already <;> simp [held?]

/-- **One entry of a parameter.** It has one of the three keys, nothing was held under it, and it
adds what the key holds. -/
theorem PartialParameter.take?_eq_some_iff {p q : PartialParameter} :
    p.take? entry = some q ↔
      (textOf? entry.1 = some "field" ∧ p.field = none ∧
        ∃ v, entry.2.optionalText? = some v ∧ q = { p with field := some v }) ∨
      (textOf? entry.1 = some "label" ∧ p.label = none ∧
        ∃ v, entry.2.optionalText? = some v ∧ q = { p with label := some v }) ∨
      (textOf? entry.1 = some "value" ∧ p.value = none ∧
        ∃ v, entry.2.value? valueLevels = some v ∧ q = { p with value := some v }) := by
  rw [PartialParameter.take?]
  cases textOf? entry.1 with
  | none => simp
  | some key =>
      rw [Option.bind_some]
      split
      case _ hfield => simp [hfield, held?_eq_some_iff, and_assoc, @eq_comm _ q]
      case _ hfield =>
          split
          case _ hlabel => simp [hlabel, held?_eq_some_iff, and_assoc, @eq_comm _ q]
          case _ hlabel =>
              split
              case _ hvalue => simp [hvalue, held?_eq_some_iff, and_assoc, @eq_comm _ q]
              case _ hvalue => simp [hfield, hlabel, hvalue]

/-- **One entry of a case.** It has one of the two keys, nothing was held under it, and it adds what
the key holds. -/
theorem PartialCase.take?_eq_some_iff {c d : PartialCase} :
    c.take? entry = some d ↔
      (textOf? entry.1 = some "base" ∧ c.base = none ∧
        ∃ v, entry.2.optionalText? = some v ∧ d = { c with base := some v }) ∨
      (textOf? entry.1 = some "parameters" ∧ c.parameters = none ∧
        ∃ v, parameters? entry.2 = some v ∧ d = { c with parameters := some v }) := by
  rw [PartialCase.take?]
  cases textOf? entry.1 with
  | none => simp
  | some key =>
      rw [Option.bind_some]
      split
      case _ hbase => simp [hbase, held?_eq_some_iff, and_assoc, @eq_comm _ d]
      case _ hbase =>
          split
          case _ hparameters => simp [hparameters, held?_eq_some_iff, and_assoc, @eq_comm _ d]
          case _ hparameters => simp [hbase, hparameters]

/-! ### Texts and values -/

theorem readOptionalText_other {c : Char} (hbefore : Blank before) (hc : t.StartsWith c)
    (hnull : c ≠ 'n') (htext : c ≠ '"') (cs : List Char) :
    ∃ failure, readOptionalText (before ++ c :: cs) = .error failure := by
  refine ⟨unexpected "a string" (c :: cs), ?_⟩
  simp [readOptionalText, hbefore.skipBlanks_append, Json.skipBlanks_cons hc.not_blank, hnull, htext]

theorem readOptionalText_spells (hbefore : Blank before) (h : t.Spells cs) (rest : List Char) :
    (readOptionalText (before ++ (cs ++ rest))).Gives t.optionalText? rest := by
  obtain ⟨c, tail, rfl, hc⟩ := h.head
  rw [List.cons_append]
  cases t with
  | null =>
      cases h
      rw [readOptionalText, hbefore.skipBlanks_append, Json.skipBlanks_cons hc.not_blank]
      rfl
  | text ps =>
      cases h with
      | text written =>
          rw [readOptionalText, hbefore.skipBlanks_append, Json.skipBlanks_cons hc.not_blank,
            List.append_assoc, List.singleton_append]
          exact (Json.readText_written written rest).map _
  | bool b =>
      cases b <;> cases hc <;>
        exact readOptionalText_other hbefore (t := .bool _) rfl (by decide) (by decide) _
  | number l =>
      exact readOptionalText_other hbefore hc (Json.ne_of_startsNumber hc (by decide) (by decide))
        (Json.ne_of_startsNumber hc (by decide) (by decide)) _
  | list items =>
      cases hc
      exact readOptionalText_other hbefore (t := .list items) rfl (by decide) (by decide) _
  | object entries =>
      cases hc
      exact readOptionalText_other hbefore (t := .object entries) rfl (by decide) (by decide) _

theorem readValue_spells (levels : Nat) (hbefore : Blank before) (h : t.Spells cs)
    (hrest : Stops rest) :
    (Value.read levels (before ++ (cs ++ rest))).Gives (t.value? levels) rest := by
  have hread := Json.readDocument_spells levels hbefore h hrest
  rw [Value.read, Tree.value?]
  obtain ⟨failure, hfailure, hdocument⟩ | ⟨document, hok, hdocument⟩ := hread.refuses_or_reads
  · rw [hfailure, hdocument]
    exact ⟨failure, rfl⟩
  · rw [hok, hdocument, Option.bind_some]
    dsimp only
    cases Value.ofDocument? document with
    | none => exact ⟨_, rfl⟩
    | some value => rfl

/-! #### Values of numbers, lists and objects -/

theorem value?_number (l : Json.Literal) (levels : Nat) :
    (Tree.number l).value? levels = l.value? := by
  cases levels <;> (rw [Tree.value?, Tree.document?, Json.Literal.value?]; cases l.number? <;> rfl)

theorem mapM_bind (f : α → Option β) (g : β → Option γ) (as : List α) :
    ((as.mapM f).bind fun bs => bs.mapM g) = as.mapM fun a => (f a).bind g := by
  induction as with
  | nil => rfl
  | cons a as ih =>
      rw [List.mapM_cons, List.mapM_cons, ← ih]
      cases f a with
      | none => rfl
      | some b =>
          cases as.mapM f with
          | none => cases hg : g b <;> simp [hg]
          | some bs => simp

theorem ofDocuments?_eq_mapM (ds : List Json.Document) :
    Value.ofDocuments? ds = ds.mapM Value.ofDocument? := by
  induction ds with
  | nil => rfl
  | cons d ds ih =>
      rw [Value.ofDocuments?, ih, List.mapM_cons]
      cases Value.ofDocument? d <;> cases ds.mapM Value.ofDocument? <;> rfl

/-- The value of a list is made of those of its items. -/
theorem value?_list (levels : Nat) (items : List Tree) :
    (Tree.list items).value? (levels + 1) =
      (items.mapM (Tree.value? levels)).map .list := by
  have hitems : items.mapM (Tree.value? levels) =
      (items.mapM (Tree.document? levels)).bind fun ds => ds.mapM Value.ofDocument? :=
    (mapM_bind _ _ items).symm
  rw [hitems, Tree.value?, Tree.document?]
  cases items.mapM (Tree.document? levels) with
  | none => rfl
  | some documents =>
      rw [Option.map_some, Option.bind_some, Option.bind_some, ← ofDocuments?_eq_mapM,
        Value.ofDocument?]

/-- An object says no value, whatever its entries are. -/
theorem value?_object (levels : Nat) (entries : List (List Piece × Tree)) :
    (Tree.object entries).value? levels = none := by
  cases levels with
  | zero => rfl
  | succ levels =>
      rw [Tree.value?, Tree.document?]
      refine Option.bind_eq_none_iff.mpr fun document hdocument => ?_
      obtain ⟨_, -, rfl⟩ := Option.map_eq_some_iff.mp hdocument
      rfl

/-! ### Entries -/

theorem readHeld_blank {ws : List Char} (hws : Blank ws) (key : String) (already : Option α)
    {value : List Char → Json.Result α} {value? : Option α}
    (hvalue : (value cs).Gives value? rest) :
    (readHeld key already value (ws ++ ':' :: cs)).Gives (held? already value?) rest := by
  rw [readHeld, held?]
  cases already with
  | some a => exact ⟨_, rfl⟩
  | none =>
      rw [Json.readColon_blank hws]
      exact hvalue

/-- Reading the key of an entry gives its text, with the colon and what is held left to read. -/
theorem readKey_entryOf (h : EntryOf Tree.Spells entry cs) (rest : List Char) :
    ∃ ws ws' held, Blank ws ∧ Blank ws' ∧ entry.2.Spells held ∧
      (Json.readText ((cs ++ rest).drop 1)).Gives (textOf? entry.1)
        (ws ++ ':' :: (ws' ++ (held ++ rest))) := by
  cases h with
  | @entry key a keyChars ws ws' held writtenKey blank blank' heldSpells =>
      refine ⟨ws, ws', held, blank, blank', heldSpells, ?_⟩
      rw [List.cons_append, List.append_assoc, List.cons_append, List.append_assoc,
        List.cons_append, List.append_assoc, List.drop_one, List.tail_cons]
      exact Json.readText_written writtenKey _

/-- **One entry of a parameter.** -/
theorem readParameterEntry_entryOf (p : PartialParameter) (h : EntryOf Tree.Spells entry cs)
    (hrest : Stops rest) : (readParameterEntry p (cs ++ rest)).Gives (p.take? entry) rest := by
  obtain ⟨ws, ws', held, hws, hws', hheld, hkey⟩ := readKey_entryOf h rest
  rw [readParameterEntry, PartialParameter.take?]
  obtain ⟨failure, hread, htext⟩ | ⟨key, hread, htext⟩ := hkey.refuses_or_reads
  · rw [hread, htext]
    exact ⟨failure, rfl⟩
  · rw [hread, htext, Option.bind_some]
    dsimp only
    by_cases hfield : key = "field"
    · rw [if_pos hfield, if_pos hfield]
      exact (readHeld_blank hws key p.field (readOptionalText_spells hws' hheld rest)).map _
    rw [if_neg hfield, if_neg hfield]
    by_cases hlabel : key = "label"
    · rw [if_pos hlabel, if_pos hlabel]
      exact (readHeld_blank hws key p.label (readOptionalText_spells hws' hheld rest)).map _
    rw [if_neg hlabel, if_neg hlabel]
    by_cases hvalue : key = "value"
    · rw [if_pos hvalue, if_pos hvalue]
      exact (readHeld_blank hws key p.value (readValue_spells valueLevels hws' hheld hrest)).map _
    · rw [if_neg hvalue, if_neg hvalue]
      exact ⟨_, rfl⟩

/-! ### Parameters -/

theorem readParameterEntries_series {entries : List (List Piece × Tree)}
    (h : Series (EntryOf Tree.Spells) true entries cs) (rest : List Char) :
    (readParameterEntries (cs ++ '\x7d' :: rest)).Gives (parameter? (.object entries))
      ('\x7d' :: rest) := by
  have hrounds := h.length_lt (fun e _ => EntryOf.ne_nil) '\x7d' rest
  have hentry : ∀ e ∈ entries, ∀ (p : PartialParameter) (cs rest : List Char),
      EntryOf Tree.Spells e cs → Stops rest →
        (readParameterEntry p (cs ++ rest)).Gives (p.take? e) rest :=
    fun e _ p cs rest => readParameterEntry_entryOf p
  have hread := Json.readEntries_series hentry (fun e _ cs => EntryOf.exists_quote) h hrounds {} rest
  rw [readParameterEntries, parameter?]
  obtain ⟨failure, hfailure, hfold⟩ | ⟨p, hok, hfold⟩ := hread.refuses_or_reads
  · rw [hfailure, hfold]
    exact ⟨failure, rfl⟩
  · rw [hok, hfold, Option.bind_some]
    dsimp only
    rw [finishParameter, PartialParameter.finish?]
    cases p.value with
    | none => exact ⟨_, rfl⟩
    | some value => rfl

/-- What a list holds at its front, if it holds anything there. -/
def slot? (value? : Tree → Option α) : List Tree → Option (Option α)
  | [] => some none
  | t :: _ => (value? t).map some

theorem readSlot_series {value? : Tree → Option α} {item : List Char → Json.Result α}
    (hitem : ∀ t cs rest, Tree.Spells t cs → Stops rest → (item (cs ++ rest)).Gives (value? t) rest)
    (h : Series Tree.Spells first ts cs) (rest : List Char) :
    ∃ more, Series Tree.Spells false ts.tail more ∧
      (readSlot first item (cs ++ ']' :: rest)).Gives (slot? value? ts) (more ++ ']' :: rest) := by
  cases ts with
  | nil =>
      refine ⟨[], .done Blank.nil, ?_⟩
      rw [readSlot, Json.nextItem_done h]
      rfl
  | cons t ts =>
      obtain ⟨begun, more, hbegun, hmore, hnext⟩ :=
        Json.nextItem_series h (fun cs => Tree.Spells.begins) rest
      refine ⟨more, hmore, ?_⟩
      rw [readSlot, hnext]
      exact (hitem t begun _ hbegun (hmore.stops (Json.stops_cons (by decide) rest))).map _

theorem closeList_comma {more tail : List Char} {c : Char}
    (hcs : Json.skipBlanks cs = ',' :: more) (hmore : Json.skipBlanks more = c :: tail)
    (hne : c ≠ ']') : Json.closeList cs = (some .trailing, c :: tail) := by
  simp [Json.closeList, hcs, hmore, hne]

/-- A list is left where no item is. -/
theorem closeList_series (h : Series Tree.Spells false ts cs) (rest : List Char) :
    (ts = [] ∧ Json.closeList (cs ++ ']' :: rest) = (none, rest)) ∨
      ts ≠ [] ∧ ∃ after, Json.closeList (cs ++ ']' :: rest) = (some .trailing, after) := by
  cases ts with
  | nil =>
      cases h with
      | done blank =>
          refine .inl ⟨rfl, ?_⟩
          rw [Json.closeList, blank.skipBlanks_append, Json.skipBlanks_cons (by decide)]
          rfl
  | cons t ts =>
      obtain ⟨_, _, _, c, tail, _, _, hcomma, hafter, hne, _⟩ :=
        h.skip_comma (fun cs => Tree.Spells.begins) (']' :: rest)
      exact .inr ⟨List.cons_ne_nil t ts, c :: tail, closeList_comma hcomma hafter hne⟩

theorem parameter?_list (items : List Tree) :
    parameter? (.list items) =
      (slot? Tree.optionalText? items).bind fun field =>
        (slot? Tree.optionalText? items.tail).bind fun label =>
          (slot? (Tree.value? valueLevels) items.tail.tail).bind fun value =>
            if items.tail.tail.tail = [] then
              value.map fun v => ⟨field.join, label.join, v⟩
            else none := by
  rcases items with _ | ⟨field, _ | ⟨label, _ | ⟨value, _ | ⟨more, items⟩⟩⟩⟩
  · rfl
  · cases field.optionalText? <;> simp [parameter?, slot?]
  · cases field.optionalText? <;> cases label.optionalText? <;> simp [parameter?, slot?]
  · cases hf : field.optionalText? <;> cases hl : label.optionalText? <;>
      cases hv : value.value? valueLevels <;> simp [parameter?, slot?, hf, hl, hv]
  · simp [parameter?]

theorem readParameterItems_series (h : Series Tree.Spells true ts cs) (rest : List Char) :
    (Json.enclosed Json.closeList (readParameterItems (cs ++ ']' :: rest))).Gives
      (parameter? (.list ts)) rest := by
  have htext : ∀ t cs rest, Tree.Spells t cs → Stops rest →
      (readOptionalText (cs ++ rest)).Gives t.optionalText? rest :=
    fun t cs rest h _ => readOptionalText_spells Blank.nil h rest
  have hvalue : ∀ t cs rest, Tree.Spells t cs → Stops rest →
      (Value.read valueLevels (cs ++ rest)).Gives (t.value? valueLevels) rest :=
    fun t cs rest => readValue_spells valueLevels Blank.nil
  obtain ⟨more₁, hmore₁, hfield⟩ := readSlot_series htext h rest
  obtain ⟨more₂, hmore₂, hlabel⟩ := readSlot_series htext hmore₁ rest
  obtain ⟨more₃, hmore₃, hlast⟩ := readSlot_series hvalue hmore₂ rest
  rw [parameter?_list, readParameterItems]
  obtain ⟨failure, hfail, hnone⟩ | ⟨field, hok, hsome⟩ := hfield.refuses_or_reads
  · rw [hfail, hnone]
    exact Json.Result.Gives.enclosed ⟨failure, rfl⟩ (Json.closeList_bracket rest)
  rw [hok, hsome]
  dsimp only [Option.bind_some]
  obtain ⟨failure, hfail, hnone⟩ | ⟨label, hok, hsome⟩ := hlabel.refuses_or_reads
  · rw [hfail, hnone]
    exact Json.Result.Gives.enclosed ⟨failure, rfl⟩ (Json.closeList_bracket rest)
  rw [hok, hsome]
  dsimp only [Option.bind_some]
  obtain ⟨failure, hfail, hnone⟩ | ⟨value, hok, hsome⟩ := hlast.refuses_or_reads
  · rw [hfail, hnone]
    exact Json.Result.Gives.enclosed ⟨failure, rfl⟩ (Json.closeList_bracket rest)
  rw [hok, hsome]
  dsimp only [Option.bind_some]
  cases value with
  | none =>
      rw [Option.map_none, ite_self]
      exact Json.Result.Gives.enclosed ⟨_, rfl⟩ (Json.closeList_bracket rest)
  | some value =>
      obtain ⟨hts, hclose⟩ | ⟨hts, after, hclose⟩ := closeList_series hmore₃ rest
      · rw [if_pos hts]
        exact Json.Result.Gives.enclosed rfl hclose
      · rw [if_neg hts, Json.enclosed, hclose]
        exact ⟨_, rfl⟩

theorem readParameter_other {c : Char} (hc : t.StartsWith c) (hlist : c ≠ '[')
    (hobject : c ≠ '\x7b') (cs : List Char) :
    ∃ failure, readParameter (c :: cs) = .error failure := by
  refine ⟨unexpected "struct CaseParameter" (c :: cs), ?_⟩
  simp [readParameter, Json.skipBlanks_cons hc.not_blank, hlist, hobject]

/-- **Parameters.** -/
theorem readParameter_spells (h : t.Spells cs) (rest : List Char) :
    (readParameter (cs ++ rest)).Gives (parameter? t) rest := by
  obtain ⟨c, tail, rfl, hc⟩ := h.head
  rw [List.cons_append]
  cases t with
  | list items =>
      cases h with
      | list series =>
          rw [readParameter, Json.skipBlanks_cons hc.not_blank, List.append_assoc,
            List.singleton_append]
          exact readParameterItems_series series rest
  | object entries =>
      cases h with
      | object series =>
          rw [readParameter, Json.skipBlanks_cons hc.not_blank, List.append_assoc,
            List.singleton_append]
          exact (readParameterEntries_series series rest).enclosed (Json.closeObject_brace rest)
  | null => exact readParameter_other hc (by cases hc; decide) (by cases hc; decide) _
  | bool b =>
      exact readParameter_other hc (by cases b <;> cases hc <;> decide)
        (by cases b <;> cases hc <;> decide) _
  | number l =>
      exact readParameter_other hc (Json.ne_of_startsNumber hc (by decide) (by decide))
        (Json.ne_of_startsNumber hc (by decide) (by decide)) _
  | text ps => exact readParameter_other hc (by cases hc; decide) (by cases hc; decide) _

theorem readParameters_other {c : Char} (hbefore : Blank before) (hc : t.StartsWith c)
    (hlist : c ≠ '[') (cs : List Char) :
    ∃ failure, readParameters (before ++ c :: cs) = .error failure := by
  refine ⟨unexpected "a sequence" (c :: cs), ?_⟩
  simp [readParameters, hbefore.skipBlanks_append, Json.skipBlanks_cons hc.not_blank, hlist]

theorem readParameters_spells (hbefore : Blank before) (h : t.Spells cs) (rest : List Char) :
    (readParameters (before ++ (cs ++ rest))).Gives (parameters? t) rest := by
  obtain ⟨c, tail, rfl, hc⟩ := h.head
  rw [List.cons_append]
  cases t with
  | list items =>
      cases h with
      | @list _ cs series =>
          rw [readParameters, hbefore.skipBlanks_append, Json.skipBlanks_cons hc.not_blank,
            List.append_assoc, List.singleton_append]
          have hrounds := series.length_lt (fun t _ => Tree.Spells.ne_nil) ']' rest
          have hitem : ∀ t ∈ items, ∀ cs rest, t.Spells cs → Stops rest →
              (readParameter (cs ++ rest)).Gives (parameter? t) rest :=
            fun t _ cs rest ht _ => readParameter_spells ht rest
          exact (Json.readItems_series hitem (fun t _ cs => Tree.Spells.begins) series hrounds
            rest).enclosed (Json.closeList_bracket rest)
  | object entries => exact readParameters_other hbefore hc (by cases hc; decide) _
  | null => exact readParameters_other hbefore hc (by cases hc; decide) _
  | bool b => exact readParameters_other hbefore hc (by cases b <;> cases hc <;> decide) _
  | number l =>
      exact readParameters_other hbefore hc (Json.ne_of_startsNumber hc (by decide) (by decide)) _
  | text ps => exact readParameters_other hbefore hc (by cases hc; decide) _

/-! ### Cases -/

/-- **One entry of a case.** -/
theorem readCaseEntry_entryOf (c : PartialCase) (h : EntryOf Tree.Spells entry cs)
    (rest : List Char) : (readCaseEntry c (cs ++ rest)).Gives (c.take? entry) rest := by
  obtain ⟨ws, ws', held, hws, hws', hheld, hkey⟩ := readKey_entryOf h rest
  rw [readCaseEntry, PartialCase.take?]
  obtain ⟨failure, hread, htext⟩ | ⟨key, hread, htext⟩ := hkey.refuses_or_reads
  · rw [hread, htext]
    exact ⟨failure, rfl⟩
  · rw [hread, htext, Option.bind_some]
    dsimp only
    by_cases hbase : key = "base"
    · rw [if_pos hbase, if_pos hbase]
      exact (readHeld_blank hws key c.base (readOptionalText_spells hws' hheld rest)).map _
    rw [if_neg hbase, if_neg hbase]
    by_cases hparameters : key = "parameters"
    · rw [if_pos hparameters, if_pos hparameters]
      exact (readHeld_blank hws key c.parameters (readParameters_spells hws' hheld rest)).map _
    · rw [if_neg hparameters, if_neg hparameters]
      exact ⟨_, rfl⟩

theorem read_object {entries : List (List Piece × Tree)} (hbefore : Blank before)
    (h : (Tree.object entries).Spells cs) (rest : List Char) :
    (read (before ++ (cs ++ rest))).Gives (ofEntries? entries) rest := by
  cases h with
  | @object _ cs series =>
      have hrounds := series.length_lt (fun e _ => EntryOf.ne_nil) '\x7d' rest
      rw [read, hbefore.skipBlanks_append, List.cons_append, Json.skipBlanks_cons (by decide),
        List.append_assoc, List.singleton_append]
      have hentry : ∀ e ∈ entries, ∀ (c : PartialCase) (cs rest : List Char),
          EntryOf Tree.Spells e cs → Stops rest →
            (readCaseEntry c (cs ++ rest)).Gives (c.take? e) rest :=
        fun e _ c cs rest he _ => readCaseEntry_entryOf c he rest
      have hread := Json.readEntries_series hentry (fun e _ cs => EntryOf.exists_quote) series
        hrounds {} rest
      exact (hread.enclosed (Json.closeObject_brace rest)).map _

theorem skipBlanks_eq_nil_iff {after : List Char} : Json.skipBlanks after = [] ↔ Blank after := by
  constructor
  · intro h c hc
    have hall : (after.takeWhile Json.isBlank).all Json.isBlank = true := List.all_takeWhile
    have hwhole : after.takeWhile Json.isBlank ++ Json.skipBlanks after = after :=
      List.takeWhile_append_dropWhile
    rw [h, List.append_nil] at hwhole
    rw [hwhole] at hall
    exact List.all_eq_true.mp hall c hc
  · intro h
    have hskip := h.skipBlanks_append []
    rwa [List.append_nil] at hskip

theorem expectEnd_blank {after : List Char} (h : Blank after) : Json.expectEnd after = .ok () := by
  rw [Json.expectEnd, skipBlanks_eq_nil_iff.mpr h]

theorem expectEnd_not_blank {after : List Char} (h : ¬ Blank after) :
    ∃ failure, Json.expectEnd after = .error failure := by
  unfold Json.expectEnd
  split
  case _ hskip => exact absurd (skipBlanks_eq_nil_iff.mp hskip) h
  case _ => exact ⟨_, rfl⟩

/-- **What is no case.** If the entries say none, or something stands behind the object, the text is
refused as malformed. -/
theorem parse_object_refuses {entries : List (List Piece × Tree)} {after : List Char}
    (hbefore : Blank before) (h : (Tree.object entries).Spells cs)
    (hfault : ofEntries? entries = none ∨ ¬ Blank after) :
    ∃ refusal, parse (String.ofList (before ++ (cs ++ after))) = .error (.malformedCase refusal) := by
  rw [parse, Json.readWhole, String.toList_ofList]
  obtain ⟨failure, hread, -⟩ | ⟨c, hread, hc⟩ := (read_object hbefore h after).refuses_or_reads
  · rw [hread]
    exact ⟨_, rfl⟩
  · rcases hfault with hnone | hafter
    · rw [hnone] at hc
      cases hc
    · obtain ⟨failure, hend⟩ := expectEnd_not_blank hafter
      rw [hread]
      dsimp only
      rw [hend]
      exact ⟨_, rfl⟩

/-! ### Cases of either form -/

/-- The case that a tree says: an object, or a list of what the keys would hold, which may stop
early. -/
def ofTree? : Tree → Option Case
  | .object entries => ofEntries? entries
  | .list [] => some ⟨none, []⟩
  | .list [base] => base.optionalText?.map fun b => ⟨b, []⟩
  | .list [base, parameters] =>
      base.optionalText?.bind fun b => (parameters? parameters).map fun ps => ⟨b, ps⟩
  | _ => none

theorem ofTree?_list (items : List Tree) :
    ofTree? (.list items) =
      (slot? Tree.optionalText? items).bind fun base =>
        (slot? parameters? items.tail).bind fun parameters =>
          if items.tail.tail = [] then some (PartialCase.finish ⟨base, parameters⟩) else none := by
  rcases items with _ | ⟨base, _ | ⟨parameters, _ | ⟨more, items⟩⟩⟩
  · rfl
  · cases hb : base.optionalText? <;> simp [ofTree?, slot?, PartialCase.finish, hb]
  · cases hb : base.optionalText? <;> cases hp : parameters? parameters <;>
      simp [ofTree?, slot?, PartialCase.finish, hb, hp]
  · simp [ofTree?]

theorem readCaseItems_series (h : Series Tree.Spells true ts cs) (rest : List Char) :
    ((Json.enclosed Json.closeList (readCaseItems (cs ++ ']' :: rest))).map
      PartialCase.finish).Gives (ofTree? (.list ts)) rest := by
  have htext : ∀ t cs rest, Tree.Spells t cs → Stops rest →
      (readOptionalText (cs ++ rest)).Gives t.optionalText? rest :=
    fun t cs rest h _ => readOptionalText_spells Blank.nil h rest
  have hparameters : ∀ t cs rest, Tree.Spells t cs → Stops rest →
      (readParameters (cs ++ rest)).Gives (parameters? t) rest :=
    fun t cs rest h _ => readParameters_spells Blank.nil h rest
  obtain ⟨more₁, hmore₁, hbase⟩ := readSlot_series htext h rest
  obtain ⟨more₂, hmore₂, hlast⟩ := readSlot_series hparameters hmore₁ rest
  have hrefused : ∀ failure : Json.Failure,
      ((Json.enclosed Json.closeList (.error failure)).map PartialCase.finish).Gives none rest := by
    intro failure
    have hnothing : Json.Result.Gives (.error failure) (none : Option PartialCase) (']' :: rest) :=
      ⟨failure, rfl⟩
    exact (hnothing.enclosed (Json.closeList_bracket rest)).map PartialCase.finish
  rw [ofTree?_list, readCaseItems]
  obtain ⟨failure, hfail, hnone⟩ | ⟨base, hok, hsome⟩ := hbase.refuses_or_reads
  · rw [hfail, hnone]
    exact hrefused failure
  rw [hok, hsome]
  dsimp only [Option.bind_some]
  obtain ⟨failure, hfail, hnone⟩ | ⟨parameters, hok, hsome⟩ := hlast.refuses_or_reads
  · rw [hfail, hnone]
    exact hrefused failure
  rw [hok, hsome]
  dsimp only [Option.bind_some]
  obtain ⟨hts, hclose⟩ | ⟨hts, after, hclose⟩ := closeList_series hmore₂ rest
  · rw [if_pos hts]
    have hread : (Json.Result.map (fun ps => (⟨base, ps⟩ : PartialCase))
        (.ok (parameters, more₂ ++ ']' :: rest))).Gives (some ⟨base, parameters⟩) _ := rfl
    exact (hread.enclosed hclose).map PartialCase.finish
  · rw [if_neg hts, Json.Result.map, Json.enclosed, hclose]
    exact ⟨_, rfl⟩

theorem read_other {c : Char} (hbefore : Blank before) (hc : t.StartsWith c) (hlist : c ≠ '[')
    (hobject : c ≠ '\x7b') (cs : List Char) :
    ∃ failure, read (before ++ c :: cs) = .error failure := by
  refine ⟨unexpected "struct CaseFile" (c :: cs), ?_⟩
  simp [read, hbefore.skipBlanks_append, Json.skipBlanks_cons hc.not_blank, hlist, hobject]

/-- **Cases.** -/
theorem read_spells (hbefore : Blank before) (h : t.Spells cs) (rest : List Char) :
    (read (before ++ (cs ++ rest))).Gives (ofTree? t) rest := by
  obtain ⟨c, tail, rfl, hc⟩ := h.head
  cases t with
  | object entries => exact read_object hbefore h rest
  | list items =>
      cases h with
      | list series =>
          rw [read, hbefore.skipBlanks_append, List.cons_append, Json.skipBlanks_cons (by decide),
            List.append_assoc, List.singleton_append]
          exact readCaseItems_series series rest
  | null => exact read_other hbefore hc (by cases hc; decide) (by cases hc; decide) _
  | bool b =>
      exact read_other hbefore hc (by cases b <;> cases hc <;> decide)
        (by cases b <;> cases hc <;> decide) _
  | number l =>
      exact read_other hbefore hc (Json.ne_of_startsNumber hc (by decide) (by decide))
        (Json.ne_of_startsNumber hc (by decide) (by decide)) _
  | text ps => exact read_other hbefore hc (by cases hc; decide) (by cases hc; decide) _

/-- A text with the tree of a case in it, and blanks around that, is the case. -/
theorem parse_of_ofTree? {c : Case} {after : List Char} (hbefore : Blank before) (h : t.Spells cs)
    (hafter : Blank after) (hc : ofTree? t = some c) :
    parse (String.ofList (before ++ (cs ++ after))) = .ok c := by
  have hread := read_spells hbefore h after
  rw [hc] at hread
  rw [parse, Json.readWhole, String.toList_ofList, show read _ = .ok (c, after) from hread]
  dsimp only
  rw [expectEnd_blank hafter]

/-- A text that is a case has a tree that says it. -/
theorem ofTree?_of_parse {c : Case} {after : List Char} (hbefore : Blank before) (h : t.Spells cs)
    (hc : parse (String.ofList (before ++ (cs ++ after))) = .ok c) : ofTree? t = some c := by
  rw [parse, Json.readWhole, String.toList_ofList] at hc
  obtain ⟨failure, hread, -⟩ | ⟨d, hread, hd⟩ := (read_spells hbefore h after).refuses_or_reads
  · rw [hread] at hc
    cases hc
  · rw [hread] at hc
    dsimp only at hc
    cases hend : Json.expectEnd after with
    | error failure =>
        rw [hend] at hc
        cases hc
    | ok u =>
        rw [hend] at hc
        cases hc
        exact hd

end Case

end SolverDeck
