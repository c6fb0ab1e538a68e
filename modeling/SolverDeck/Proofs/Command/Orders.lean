import Mathlib.Data.List.Nodup
import SolverDeck.Proofs.Command.Logging

/-!
# Arguments in any order

The case file and the options of a subcommand can be given in any order, an option can have its value
behind an equals sign or as an argument of its own, and the verbose flag can stand anywhere before or
among them. All these command lines ask for the same task, whatever the values are: they may be names of
subcommands or of options, and have equals signs in them.

What is gathered while the arguments are read has a last value that is still pending, and how much is
pending hangs on the spelling. But what it would amount to, if it were settled now, is just what was
given so far (`Gathered.Amounts`). One argument in any spelling adds itself to that
(`Gathered.take_spelt`), and a whole command line adds its arguments in their order
(`Gathered.take_pieces`). In the end a slot holds the only value that was given for it, so the order
does not matter either (`Gathered.held_perm`).
-/

namespace SolverDeck.Command

/-! ### Spellings -/

/-- A value that cannot be mistaken for an option: it is not empty and does not begin with a dash. -/
def StandsAlone (value : String) : Prop :=
  ∃ first rest, value.toList = first :: rest ∧ first ≠ '-'

theorem StandsAlone.isEmpty_eq {value : String} (h : StandsAlone value) :
    value.isEmpty = false := by
  obtain ⟨first, rest, hvalue, -⟩ := h
  rw [← String.ofList_toList (s := value), hvalue]
  simp

/-- The arguments by which something can be given. -/
inductive Given.Spelt : Given → List String → Prop
  /-- The case file stands by itself. -/
  | caseFile (value : String) : Spelt (.slot .caseFile value) [value]
  /-- An option, and its value as the next argument. -/
  | apart {slot : Slot} (hslot : slot ≠ .caseFile) (value : String) :
      Spelt (.slot slot value) ["--" ++ slot.name, value]
  /-- An option with its value behind an equals sign. -/
  | joined {slot : Slot} (hslot : slot ≠ .caseFile) (value : String) :
      Spelt (.slot slot value) ["--" ++ slot.name ++ "=" ++ value]
  | verbose {flag : String} (hflag : flag ∈ verboseSpellings) : Spelt .verbose [flag]

/-- Can an argument be given? -/
def Grammar.takes (grammar : Grammar) : Argument → Bool
  | .slot .caseFile => grammar.takesCase
  | .slot slot => grammar.options.contains slot
  | .flag flag => grammar.flags.contains flag

theorem Grammar.takes_option {grammar : Grammar} {slot : Slot} (h : slot ≠ .caseFile) :
    grammar.takes (.slot slot) = grammar.options.contains slot := by
  cases slot with
  | caseFile => exact absurd rfl h
  | base | root => rfl

/-- A command line of a subcommand that gives some things: in any order, each of them in any spelling.
There may be a verbose flag before the subcommand, and one behind it. -/
inductive Verb.Line (verb : Verb) (given : List Given) : List String → Prop
  | mk {above : List String} {order : List Given} {pieces : List (List String)}
      (habove : above = [] ∨ ∃ flag ∈ verboseSpellings, above = [flag])
      (horder : order.Perm given ∨ order.Perm (.verbose :: given))
      (hpieces : List.Forall₂ Given.Spelt order pieces) :
      Line verb given (above ++ verb.name :: pieces.flatten)

/-! ### Words -/

theorem Word.of_standsAlone {value : String} (h : StandsAlone value) :
    Word.of value.toList = .plain := by
  obtain ⟨first, rest, hvalue, hfirst⟩ := h
  rw [hvalue]
  unfold Word.of
  split <;> simp_all

theorem Word.of_option (slot : Slot) :
    Word.of ("--" ++ slot.name).toList = .long slot.name.toList none := by
  cases slot <;> rfl

theorem Word.of_option_joined (slot : Slot) (value : String) :
    Word.of ("--" ++ slot.name ++ "=" ++ value).toList =
      .long slot.name.toList (some value.toList) := by
  rw [String.toList_append, String.toList_append, String.toList_append]
  cases slot <;> rfl

theorem Verb.optionOfName?_name {verb : Verb} {slot : Slot}
    (h : verb.grammar.options.contains slot = true) :
    verb.grammar.flagOfName? slot.name.toList = none ∧
      verb.grammar.optionOfName? slot.name.toList = some slot := by
  revert h
  cases verb <;> cases slot <;> decide

namespace Gathered

variable {g : Gathered} {done given given' : List Given} {slot : Slot} {value : String}
  {pending : Option (Slot × Option String)}

/-! ### What a slot holds -/

theorem held_cons_verbose : held ⟨.verbose :: given, pending⟩ slot = held ⟨given, pending⟩ slot := rfl

theorem held_cons_slot (s : Slot) : held ⟨.slot s value :: given, pending⟩ slot =
    if s = slot then some value else held ⟨given, pending⟩ slot := by
  unfold held
  rw [List.findSome?_cons]
  by_cases h : s = slot <;> simp [h]

theorem held_eq_none (h : .slot slot ∉ given.map Given.argument) :
    held ⟨given, pending⟩ slot = none := by
  induction given with
  | nil => rfl
  | cons first given ih =>
      rw [List.map_cons, List.mem_cons, not_or] at h
      cases first with
      | verbose => exact ih h.2
      | slot s value =>
          rw [held_cons_slot, if_neg, ih h.2]
          rintro rfl
          exact h.1 rfl

/-- If nothing is given twice, a slot holds what was given for it. -/
theorem held_eq_some_iff (h : (given.map Given.argument).Nodup) :
    held ⟨given, pending⟩ slot = some value ↔ .slot slot value ∈ given := by
  induction given with
  | nil => simp [held]
  | cons first given ih =>
      rw [List.map_cons, List.nodup_cons] at h
      cases first with
      | verbose =>
          rw [held_cons_verbose, ih h.2]
          simp
      | slot s other =>
          rw [held_cons_slot, List.mem_cons]
          by_cases hs : s = slot
          · subst hs
            have hnone : .slot s value ∉ given := by
              intro hmem
              exact h.1 (List.mem_map.mpr ⟨_, hmem, rfl⟩)
            simp [hnone, eq_comm]
          · rw [if_neg hs, ih h.2]
            simp [Ne.symm hs]

/-- **Order.** What the slots hold does not hang on the order. -/
theorem held_perm (h : given.Perm given') (hnodup : (given.map Given.argument).Nodup)
    (slot : Slot) : held ⟨given, pending⟩ slot = held ⟨given', pending⟩ slot := by
  have hnodup' := (h.map Given.argument).nodup_iff.mp hnodup
  refine Option.ext fun value => ?_
  rw [held_eq_some_iff hnodup, held_eq_some_iff hnodup', h.mem_iff]

/-! ### What is gathered -/

/-- What was gathered, with what is pending, amounts to these. -/
def Amounts (g : Gathered) (given : List Given) : Prop :=
  g.settle = .ok ⟨given, none⟩

theorem amounts_nil : Amounts {} [] := rfl

theorem amounts_settled (given : List Given) : Amounts ⟨given, none⟩ given := rfl

theorem amounts_pending (hfree : .slot slot ∉ given.map Given.argument)
    (hvalue : StandsAlone value) :
    Amounts ⟨given, some (slot, some value)⟩ (given ++ [.slot slot value]) := by
  simp [Amounts, settle, held_eq_none hfree, hvalue.isEmpty_eq, add]

/-- Either all was settled, or the last value is still pending. -/
theorem Amounts.cases (h : g.Amounts given) : g = ⟨given, none⟩ ∨
    ∃ done slot value, g = ⟨done, some (slot, some value)⟩ ∧ given = done ++ [.slot slot value] := by
  obtain ⟨done, _ | ⟨slot, _ | value⟩⟩ := g
  · cases h
    exact .inl rfl
  · cases h
  · right
    simp only [Amounts, settle] at h
    split_ifs at h
    cases h
    exact ⟨done, slot, value, rfl, rfl⟩

theorem Amounts.awaits (h : g.Amounts given) : g.awaits = false := by
  rcases h.cases with rfl | ⟨done, slot, value, rfl, rfl⟩
  · rfl
  · rfl

theorem Amounts.hasCase (h : g.Amounts given) (hfree : .slot .caseFile ∉ given.map Given.argument) :
    g.hasCase = false := by
  rcases h.cases with rfl | ⟨done, slot, value, rfl, rfl⟩
  · simp [Gathered.hasCase, held_eq_none hfree]
  · rw [List.map_append, List.mem_append, not_or] at hfree
    have hslot : slot ≠ .caseFile := by
      rintro rfl
      exact hfree.2 (List.mem_singleton_self _)
    simp [Gathered.hasCase, held_eq_none hfree.1, hslot]

theorem verbose_eq_false (hfree : .flag .verbose ∉ given.map Given.argument) :
    Gathered.verbose ⟨given, none⟩ = false := by
  rw [Gathered.verbose, List.contains_eq_mem, decide_eq_false_iff_not]
  intro hmem
  exact hfree (List.mem_map.mpr ⟨_, hmem, rfl⟩)

/-! ### One argument -/

section

variable {verb : Verb}

theorem take_caseFile (h : g.Amounts given) (htakes : verb.grammar.takesCase = true)
    (hfree : .slot .caseFile ∉ given.map Given.argument) (hvalue : StandsAlone value)
    (rest : List String) :
    g.take verb.grammar (value :: rest) =
      take verb.grammar ⟨given, some (.caseFile, some value)⟩ rest := by
  have hsettle : g.settle = .ok ⟨given, none⟩ := h
  rw [take, Word.of_standsAlone hvalue]
  simp [h.awaits, takeCase, h.hasCase hfree, hsettle, htakes]

/-- An option without its value leaves the slot waiting for the next argument. -/
theorem take_apart (h : g.Amounts given) (htakes : verb.grammar.options.contains slot = true)
    (hvalue : StandsAlone value) (rest : List String) :
    g.take verb.grammar (("--" ++ slot.name) :: value :: rest) =
      take verb.grammar ⟨given, some (slot, some value)⟩ rest := by
  have hsettle : g.settle = .ok ⟨given, none⟩ := h
  obtain ⟨hflag, hoption⟩ := Verb.optionOfName?_name htakes
  have hlong : g.takeLong verb.grammar slot.name.toList none (value :: rest) =
      .ok ⟨given, some (slot, none)⟩ := by
    simp [takeLong, hflag, hoption, takeOption, hsettle]
  rw [take, Word.of_option]
  simp only [hlong]
  rw [take, Word.of_standsAlone hvalue]
  rfl

theorem take_joined (h : g.Amounts given) (htakes : verb.grammar.options.contains slot = true)
    (hfree : .slot slot ∉ given.map Given.argument) (hvalue : StandsAlone value)
    (rest : List String) :
    g.take verb.grammar (("--" ++ slot.name ++ "=" ++ value) :: rest) =
      take verb.grammar ⟨given ++ [.slot slot value], none⟩ rest := by
  have hsettle : g.settle = .ok ⟨given, none⟩ := h
  have hpending : settle ⟨given, some (slot, some value)⟩ =
      .ok ⟨given ++ [.slot slot value], none⟩ := amounts_pending hfree hvalue
  obtain ⟨hflag, hoption⟩ := Verb.optionOfName?_name htakes
  have hlong : g.takeLong verb.grammar slot.name.toList (some value.toList) rest =
      .ok ⟨given ++ [.slot slot value], none⟩ := by
    simp [takeLong, hflag, hoption, takeOption, hsettle, hpending]
  rw [take, Word.of_option_joined]
  simp only [hlong]

theorem take_verbose {flag : String} (h : g.Amounts given) (hflag : flag ∈ verboseSpellings)
    (hfree : .flag .verbose ∉ given.map Given.argument) (rest : List String) :
    g.take verb.grammar (flag :: rest) = take verb.grammar ⟨given ++ [.verbose], none⟩ rest := by
  have hsettle : g.settle = .ok ⟨given, none⟩ := h
  have htaken : g.takeFlag .verbose = .ok ⟨given ++ [.verbose], none⟩ := by
    simp [takeFlag, hsettle, verbose_eq_false hfree, add]
  simp only [verboseSpellings, List.mem_cons, List.not_mem_nil, or_false] at hflag
  rcases hflag with rfl | rfl
  · have hletter : verb.grammar.flagOfLetter? 'v' = some .verbose := by cases verb <;> rfl
    have hletters : g.takeLetters verb.grammar ['v'] = .ok ⟨given ++ [.verbose], none⟩ := by
      simp [takeLetters, hletter, htaken]
    rw [take, show Word.of "-v".toList = .short ['v'] from rfl]
    simp only [hletters]
  · have hname : verb.grammar.flagOfName? "verbose".toList = some .verbose := by
      cases verb <;> rfl
    have hlong : g.takeLong verb.grammar "verbose".toList none rest =
        .ok ⟨given ++ [.verbose], none⟩ := by
      simp only [takeLong, hname, htaken]
    rw [take, show Word.of "--verbose".toList = .long "verbose".toList none from rfl]
    simp only [hlong]

/-- **One argument.** However it is spelt, it adds itself to what there was. -/
theorem take_spelt {m : Given} {piece : List String} (h : g.Amounts given)
    (hspelt : m.Spelt piece) (htakes : verb.grammar.takes m.argument = true)
    (halone : ∀ slot value, m = .slot slot value → StandsAlone value)
    (hfree : m.argument ∉ given.map Given.argument) :
    ∃ g' : Gathered, g'.Amounts (given ++ [m]) ∧
      ∀ rest, g.take verb.grammar (piece ++ rest) = g'.take verb.grammar rest := by
  cases hspelt with
  | caseFile value =>
      have hvalue := halone _ _ rfl
      exact ⟨_, amounts_pending hfree hvalue, take_caseFile h htakes hfree hvalue⟩
  | @apart slot hslot value =>
      have hvalue := halone _ _ rfl
      have hoption := (Grammar.takes_option hslot).symm.trans htakes
      exact ⟨_, amounts_pending hfree hvalue, take_apart h hoption hvalue⟩
  | @joined slot hslot value =>
      have hvalue := halone _ _ rfl
      have hoption := (Grammar.takes_option hslot).symm.trans htakes
      exact ⟨_, amounts_settled _, take_joined h hoption hfree hvalue⟩
  | verbose hflag => exact ⟨_, amounts_settled _, take_verbose h hflag hfree⟩

end

/-- **All arguments.** They are gathered in their order. The induction is on the pieces, behind anything
that was gathered before. -/
theorem take_pieces {verb : Verb} {pieces : List (List String)} (h : g.Amounts done)
    (hpieces : List.Forall₂ Given.Spelt given pieces)
    (htakes : ∀ m ∈ given, verb.grammar.takes m.argument = true)
    (halone : ∀ slot value, .slot slot value ∈ given → StandsAlone value)
    (hnodup : ((done ++ given).map Given.argument).Nodup) :
    g.take verb.grammar pieces.flatten = .ok ⟨done ++ given, none⟩ := by
  induction hpieces generalizing g done with
  | nil =>
      rw [List.append_nil]
      exact h
  | @cons m piece given pieces hspelt hpieces ih =>
      have hfree : m.argument ∉ done.map Given.argument := by
        intro hmem
        rw [List.map_append, List.nodup_append] at hnodup
        exact hnodup.2.2 _ hmem _ List.mem_cons_self rfl
      obtain ⟨g', hg', htake⟩ := take_spelt h hspelt (htakes m List.mem_cons_self)
        (fun slot value hm => halone slot value (hm ▸ List.mem_cons_self)) hfree
      rw [List.append_cons] at hnodup ⊢
      rw [List.flatten_cons, htake]
      exact ih hg' (fun m hm => htakes m (List.mem_cons_of_mem _ hm))
        (fun slot value hm => halone slot value (List.mem_cons_of_mem _ hm)) hnodup

end Gathered

/-! ### Command lines -/

/-- Neither the order nor a verbose flag among the things that are given makes a difference to the
slots. -/
theorem Gathered.held_order {order given : List Given}
    (horder : order.Perm given ∨ order.Perm (.verbose :: given))
    (hnodup : (order.map Given.argument).Nodup) (slot : Slot) :
    held ⟨order, none⟩ slot = held ⟨given, none⟩ slot := by
  rcases horder with horder | horder
  · exact held_perm horder hnodup slot
  · exact (held_perm horder hnodup slot).trans held_cons_verbose

/-- **A command line.** It asks for the task that is made of what it gives. -/
theorem Verb.Line.read {verb : Verb} {given : List Given} {arguments : List String} {task : Task}
    (hline : verb.Line given arguments)
    (htakes : ∀ m ∈ given, verb.grammar.takes m.argument = true)
    (halone : ∀ slot value, .slot slot value ∈ given → StandsAlone value)
    (hnodup : ((.verbose :: given).map Given.argument).Nodup)
    (htask : verb.task ⟨given, none⟩ = .ok task) :
    ∃ loud, Request.read arguments = .ok (.run loud task) := by
  obtain @⟨above, order, pieces, habove, horder, hpieces⟩ := hline
  have hmem : ∀ m ∈ order, m = .verbose ∨ m ∈ given := by
    intro m hm
    rcases horder with horder | horder
    · exact .inr (horder.mem_iff.mp hm)
    · exact List.mem_cons.mp (horder.mem_iff.mp hm)
  have hdistinct : (order.map Given.argument).Nodup := by
    rcases horder with horder | horder
    · exact (horder.map _).nodup_iff.mpr (List.nodup_cons.mp hnodup).2
    · exact (horder.map _).nodup_iff.mpr hnodup
  have hgathered : Gathered.take verb.grammar {} pieces.flatten = .ok ⟨order, none⟩ := by
    refine Gathered.take_pieces Gathered.amounts_nil hpieces ?_ ?_ hdistinct
    · intro m hm
      rcases hmem m hm with rfl | hgiven
      · cases verb <;> rfl
      · exact htakes m hgiven
    · intro slot value hm
      rcases hmem _ hm with hflag | hgiven
      · cases hflag
      · exact halone slot value hgiven
  have hread : ∀ verbose, ∃ loud,
      readTask verbose verb pieces.flatten = .ok (.run loud task) := by
    intro verbose
    have hmade := Verb.task_of_held (Gathered.held_order horder hdistinct) htask
    exact ⟨_, readTask_eq_run_iff.mpr ⟨_, hgathered, hmade, rfl⟩⟩
  -- A flag before the subcommand is gathered by itself, and does not count as a second one.
  unfold Request.read
  rcases habove with rfl | ⟨flag, hflag, rfl⟩
  · rw [List.nil_append, readFrom_name]
    exact hread _
  · rw [List.singleton_append, readFrom_flag hflag, readFrom_name]
    exact hread _

/-- All command lines of a subcommand that give these things ask for this task, and have the same
results, whatever the files, the output and the log filter are. -/
def Verb.ReadsAlike (verb : Verb) (given : List Given) (task : Task) : Prop :=
  ∀ arguments, verb.Line given arguments →
    (∃ loud, Request.read arguments = .ok (.run loud task)) ∧
    ∀ others, verb.Line given others →
      ∀ (broken : Option FileError) (tree : FileTree) (setting filter : Option String),
        (Run.through broken tree setting arguments).SameButLog
          (Run.through broken tree filter others)

theorem Verb.readsAlike {verb : Verb} {given : List Given} {task : Task}
    (htakes : ∀ m ∈ given, verb.grammar.takes m.argument = true)
    (halone : ∀ slot value, .slot slot value ∈ given → StandsAlone value)
    (hnodup : ((.verbose :: given).map Given.argument).Nodup)
    (htask : verb.task ⟨given, none⟩ = .ok task) : verb.ReadsAlike given task := by
  intro arguments hline
  obtain ⟨loud, hread⟩ := hline.read htakes halone hnodup htask
  refine ⟨⟨loud, hread⟩, ?_⟩
  intro others hothers broken tree setting filter
  obtain ⟨loud', hread'⟩ := hothers.read htakes halone hnodup htask
  have hwork : work FileTree.access others tree = work FileTree.access arguments tree := by
    rw [work_of_read hread, work_of_read hread']
  exact Run.sameButLog_of_work hwork broken setting filter

/-- The case file, the base and the root can be given in any order and in any spelling, with or without
the verbose flag. All these command lines write the same decks with the same results. To show decks, the
same goes for the case file and the base. -/
theorem orders_and_spellings_agree {caseFile base root : String} (hcase : StandsAlone caseFile)
    (hbase : StandsAlone base) (hroot : StandsAlone root) :
    Verb.write.ReadsAlike [.slot .caseFile caseFile, .slot .base base, .slot .root root]
        (.write caseFile (some base) root) ∧
      Verb.preview.ReadsAlike [.slot .caseFile caseFile, .slot .base base]
        (.preview caseFile (some base)) := by
  constructor
  · refine Verb.readsAlike ?_ ?_ (by simp [Given.argument]) rfl
    · simp [Given.argument, Grammar.takes, Verb.grammar, Grammar.write]
    · intro slot value h
      simp only [List.mem_cons, Given.slot.injEq, List.not_mem_nil, or_false] at h
      rcases h with ⟨-, rfl⟩ | ⟨-, rfl⟩ | ⟨-, rfl⟩ <;> assumption
  · refine Verb.readsAlike ?_ ?_ (by simp [Given.argument]) rfl
    · simp [Given.argument, Grammar.takes, Verb.grammar, Grammar.preview]
    · intro slot value h
      simp only [List.mem_cons, Given.slot.injEq, List.not_mem_nil, or_false] at h
      rcases h with ⟨-, rfl⟩ | ⟨-, rfl⟩ <;> assumption

/-- Values that are the names of subcommands, or look like an option without its dashes. -/
theorem orders_and_spellings_agree_names :
    StandsAlone "write" ∧ StandsAlone "base=help" ∧ StandsAlone "help" ∧
      (∃ loud, Request.read ["-v", "write", "--root=help", "write", "--base", "base=help"] =
        .ok (.run loud (.write "write" (some "base=help") "help"))) ∧
      ∀ (broken : Option FileError) (tree : FileTree),
        (Run.through broken tree none
          ["-v", "write", "--root=help", "write", "--base", "base=help"]).SameButLog
        (Run.through broken tree none
          ["write", "--base=base=help", "--verbose", "write", "--root", "help"]) := by
  have hcase : StandsAlone "write" := ⟨'w', _, rfl, by decide⟩
  have hbase : StandsAlone "base=help" := ⟨'b', _, rfl, by decide⟩
  have hroot : StandsAlone "help" := ⟨'h', _, rfl, by decide⟩
  have hfirst : Verb.write.Line [.slot .caseFile "write", .slot .base "base=help", .slot .root "help"]
      ["-v", "write", "--root=help", "write", "--base", "base=help"] :=
    @Verb.Line.mk .write _ ["-v"]
      [.slot .root "help", .slot .caseFile "write", .slot .base "base=help"]
      [["--root=help"], ["write"], ["--base", "base=help"]] (.inr ⟨"-v", by decide, rfl⟩)
      (.inl (by decide))
      (.cons (.joined (by decide) _) (.cons (.caseFile _) (.cons (.apart (by decide) _) .nil)))
  have hsecond :
      Verb.write.Line [.slot .caseFile "write", .slot .base "base=help", .slot .root "help"]
        ["write", "--base=base=help", "--verbose", "write", "--root", "help"] :=
    @Verb.Line.mk .write _ []
      [.slot .base "base=help", .verbose, .slot .caseFile "write", .slot .root "help"]
      [["--base=base=help"], ["--verbose"], ["write"], ["--root", "help"]] (.inl rfl)
      (.inr (by decide))
      (.cons (.joined (by decide) _) (.cons (.verbose (by decide)) (.cons (.caseFile _)
        (.cons (.apart (by decide) _) .nil))))
  obtain ⟨hread, hresults⟩ := (orders_and_spellings_agree hcase hbase hroot).1 _ hfirst
  exact ⟨hcase, hbase, hroot, hread, fun broken tree => hresults _ hsecond broken tree none none⟩

end SolverDeck.Command
