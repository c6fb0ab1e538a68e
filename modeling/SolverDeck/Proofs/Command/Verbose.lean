import SolverDeck.Command.Arguments
import Mathlib.Data.List.Basic

/-!
# The verbose flag

A command line that asks for a task without the verbose flag can be given the flag just before or
just after its subcommand, and it then asks for the same task, verbosely (`read_madeVerbose`).

Behind the subcommand the flag is the first thing that is gathered, and everything after it is
gathered as before, but with a flag that is there already. That makes a difference to a second
verbose flag, and to what is told of an unknown argument, and to nothing else. So every step of
reading is *unswayed*: what it does without ever coming to a verbose flag, it does after one
too. Steps that are put together of unswayed ones are unswayed (`Unswayed.andThen`,
`Unswayed.ite`), and reading a subcommand is put together in this way (`unswayed_take`).
-/

namespace SolverDeck.Command

namespace Gathered

/-! ### What was gathered after a verbose flag -/

/-- The same, gathered after a verbose flag. -/
def louder (g : Gathered) : Gathered :=
  { g with given := .verbose :: g.given }

@[simp] theorem verbose_louder (g : Gathered) : g.louder.verbose = true := by
  simp [verbose, louder]

@[simp] theorem pending_louder (g : Gathered) : g.louder.pending = g.pending := rfl

@[simp] theorem held_louder (g : Gathered) (slot : Slot) : g.louder.held slot = g.held slot := rfl

@[simp] theorem awaits_louder (g : Gathered) : g.louder.awaits = g.awaits := rfl

@[simp] theorem hasCase_louder (g : Gathered) : g.louder.hasCase = g.hasCase := rfl

@[simp] theorem verbose_add_verbose (g : Gathered) : (g.add .verbose).verbose = true := by
  simp [verbose, add]

@[simp] theorem verbose_add_slot (g : Gathered) (slot : Slot) (value : String) :
    (g.add (.slot slot value)).verbose = g.verbose := by
  simp [verbose, add]

/-! ### Unswayed steps -/

/-- A step of reading is not swayed by the verbose flag: if it leaves no flag behind it, then
none was there, and it does the same after one. -/
def Unswayed (step : Gathered → Except Stop Gathered) : Prop :=
  ∀ ⦃g t⦄, step g = .ok t → t.verbose = false →
    g.verbose = false ∧ step g.louder = .ok t.louder

section

variable {step first next : Gathered → Except Stop Gathered}

/-- **A step after a step.** -/
theorem Unswayed.andThen (hfirst : Unswayed first) (hnext : Unswayed next)
    (hstep : ∀ g, step g =
      match first g with
      | .error stop => .error stop
      | .ok taken => next taken) : Unswayed step := by
  intro g t h hquiet
  rw [hstep] at h ⊢
  cases htaken : first g with
  | error stop =>
      rw [htaken] at h
      cases h
  | ok taken =>
      rw [htaken] at h
      obtain ⟨htaken_quiet, hlater⟩ := hnext h hquiet
      obtain ⟨hbefore, hloud⟩ := hfirst htaken htaken_quiet
      refine ⟨hbefore, ?_⟩
      rw [hloud]
      exact hlater

/-- **One of two steps**, when the flag has no part in the choice. -/
theorem Unswayed.ite {choice : Gathered → Bool} (hchoice : ∀ g, choice g.louder = choice g)
    (hfirst : Unswayed first) (hnext : Unswayed next) :
    Unswayed fun g => if choice g = true then first g else next g := by
  intro g t h hquiet
  beta_reduce at h ⊢
  rw [hchoice]
  split at h
  case isTrue htrue =>
    rw [if_pos htrue]
    exact hfirst h hquiet
  case isFalse hfalse =>
    rw [if_neg hfalse]
    exact hnext h hquiet

theorem unswayed_stop (stop : Gathered → Stop) : Unswayed fun g => .error (stop g) := by
  intro g t h
  cases h

theorem unswayed_await (pending : Option (Slot × Option String)) :
    Unswayed fun g => .ok { g with pending } := by
  intro g t h hquiet
  cases h
  exact ⟨hquiet, rfl⟩

theorem unswayed_give (value : String) : Unswayed fun g => .ok (g.give value) := by
  intro g t h hquiet
  cases h
  exact ⟨hquiet, rfl⟩

end

/-! ### Reading a subcommand -/

theorem unswayed_settle : Unswayed settle := by
  intro g t h hquiet
  unfold settle at h ⊢
  rw [pending_louder]
  cases hpending : g.pending with
  | none =>
      rw [hpending] at h
      cases h
      exact ⟨hquiet, rfl⟩
  | some pending =>
      rw [hpending] at h
      obtain ⟨slot, _ | value⟩ := pending
      · cases h
      · dsimp only at h ⊢
        rw [held_louder]
        by_cases hheld : (g.held slot).isSome = true
        · rw [if_pos hheld] at h
          cases h
        by_cases hempty : (slot.holdsPath && value.isEmpty) = true
        · rw [if_neg hheld, if_pos hempty] at h
          cases h
        rw [if_neg hheld, if_neg hempty] at h ⊢
        cases h
        exact ⟨(verbose_add_slot g slot value).symm.trans hquiet, rfl⟩

/-- A flag that is taken, and asks for nothing else, is the verbose flag. -/
theorem verbose_of_takeFlag {g t : Gathered} {flag : Flag} (h : g.takeFlag flag = .ok t) :
    t.verbose = true := by
  unfold takeFlag at h
  cases hsettle : g.settle with
  | error stop =>
      rw [hsettle] at h
      cases h
  | ok settled =>
      rw [hsettle] at h
      cases flag with
      | verbose =>
          simp only at h
          split_ifs at h
          cases h
          exact verbose_add_verbose settled
      | help => cases h
      | version => cases h

theorem unswayed_takeFlag (flag : Flag) : Unswayed fun g => g.takeFlag flag := by
  intro g t h hquiet
  rw [verbose_of_takeFlag h] at hquiet
  cases hquiet

theorem unswayed_takeLetters (grammar : Grammar) (letters : List Char) :
    Unswayed fun g => g.takeLetters grammar letters := by
  induction letters with
  | nil =>
      intro g t h hquiet
      cases h
      exact ⟨hquiet, rfl⟩
  | cons letter letters ih =>
      unfold takeLetters
      cases grammar.flagOfLetter? letter with
      | none => exact unswayed_stop _
      | some flag => exact (unswayed_takeFlag flag).andThen ih fun g => rfl

theorem unswayed_takeOption (slot : Slot) (value : Option String) :
    Unswayed fun g => g.takeOption slot value := by
  cases value with
  | none => exact unswayed_settle.andThen (unswayed_await (some (slot, none))) fun g => rfl
  | some value =>
      have hnext : Unswayed fun g => settle { g with pending := some (slot, some value) } :=
        (unswayed_await (some (slot, some value))).andThen unswayed_settle fun g => rfl
      exact unswayed_settle.andThen hnext fun g => rfl

theorem unswayed_takeLong (grammar : Grammar) (name : List Char) (value : Option (List Char))
    (arguments : List String) : Unswayed fun g => g.takeLong grammar name value arguments := by
  unfold takeLong
  cases grammar.flagOfName? name with
  | some flag =>
      cases value with
      | none => exact unswayed_takeFlag flag
      | some value => exact unswayed_stop _
  | none =>
      cases grammar.optionOfName? name with
      | some slot => exact unswayed_takeOption slot _
      | none => exact unswayed_stop _

theorem unswayed_takeCase (grammar : Grammar) (argument : String) :
    Unswayed fun g => g.takeCase grammar argument := by
  unfold takeCase
  refine Unswayed.ite (fun g => by rw [hasCase_louder]) ?_ (unswayed_stop _)
  exact unswayed_settle.andThen (unswayed_await (some (.caseFile, some argument))) fun g => rfl

theorem unswayed_takeValues (grammar : Grammar) (arguments : List String) :
    Unswayed fun g => g.takeValues grammar arguments := by
  induction arguments with
  | nil => exact unswayed_settle
  | cons argument arguments ih =>
      exact (unswayed_takeCase grammar argument).andThen ih fun g => rfl

/-- **Reading the arguments of a subcommand** is not swayed by a verbose flag before them. -/
theorem unswayed_take (grammar : Grammar) (arguments : List String) :
    Unswayed fun g => g.take grammar arguments := by
  induction arguments with
  | nil => exact unswayed_settle
  | cons argument arguments ih =>
      unfold take
      cases Word.of argument.toList with
      | separator => exact unswayed_takeValues grammar arguments
      | long name value =>
          exact (unswayed_takeLong grammar name value arguments).andThen ih fun g => rfl
      | short letters => exact (unswayed_takeLetters grammar letters).andThen ih fun g => rfl
      | plain =>
          refine Unswayed.ite awaits_louder ?_ ?_
          · exact (unswayed_give argument).andThen ih fun g => rfl
          · exact (unswayed_takeCase grammar argument).andThen ih fun g => rfl

end Gathered

/-! ### Where the subcommand stands -/

/-- A task is made of what the slots hold. -/
theorem Verb.task_of_held {verb : Verb} {g g' : Gathered} {task : Task}
    (hheld : ∀ slot, g'.held slot = g.held slot) (h : verb.task g = .ok task) :
    verb.task g' = .ok task := by
  unfold Verb.task at h ⊢
  simp only [hheld]
  cases verb with
  | fields => exact h
  | _ =>
      cases hcase : g.held .caseFile with
      | none =>
          rw [hcase] at h
          cases h
      | some caseFile =>
          rw [hcase] at h
          exact h

theorem Stop.request_ne_run (stop : Stop) (topic : Topic) (verbose : Bool) (task : Task) :
    stop.request topic ≠ .ok (.run verbose task) := by
  cases stop with
  | misuse m advice => nofun
  | asked flag => cases flag <;> nofun

theorem readHelp_ne_run (arguments : List String) (verbose : Bool) (task : Task) :
    readHelp arguments ≠ .ok (.run verbose task) := by
  unfold readHelp
  split
  · nofun
  · split
    · nofun
    · split <;> nofun

/-- A task comes of what was gathered behind its subcommand. -/
theorem readTask_eq_run_iff {verb : Verb} {arguments : List String} {verbose loud : Bool}
    {task : Task} : readTask verbose verb arguments = .ok (.run loud task) ↔
      ∃ g, Gathered.take verb.grammar {} arguments = .ok g ∧ verb.task g = .ok task ∧
        (verbose || g.verbose) = loud := by
  unfold readTask
  constructor
  · intro h
    cases htake : Gathered.take verb.grammar {} arguments with
    | error stop =>
        rw [htake] at h
        exact absurd h (stop.request_ne_run _ _ _)
    | ok g =>
        rw [htake] at h
        simp only at h
        cases htask : verb.task g with
        | error stop =>
            rw [htask] at h
            exact absurd h (stop.request_ne_run _ _ _)
        | ok found =>
            rw [htask] at h
            cases h
            exact ⟨g, rfl, htask, rfl⟩
  · rintro ⟨g, htake, htask, rfl⟩
    rw [htake]
    simp only [htask]

theorem Word.short_ne_nil {chars letters : List Char} (h : Word.of chars = .short letters) :
    letters ≠ [] := by
  unfold Word.of at h
  split at h
  · cases h
  · simp only at h
    split at h <;> cases h
  · cases h
    exact List.cons_ne_nil _ _
  · cases h

theorem Gathered.verbose_of_takeLetters {grammar : Grammar} {g t : Gathered}
    {letters : List Char} (hletters : letters ≠ [])
    (h : g.takeLetters grammar letters = .ok t) : t.verbose = true := by
  obtain ⟨letter, letters, rfl⟩ := List.exists_cons_of_ne_nil hletters
  unfold takeLetters at h
  cases hflag : grammar.flagOfLetter? letter with
  | none =>
      simp only [hflag] at h
      cases h
  | some flag =>
      simp only [hflag] at h
      cases htaken : g.takeFlag flag with
      | error stop =>
          rw [htaken] at h
          cases h
      | ok taken =>
          rw [htaken] at h
          by_contra hquiet
          have hbefore := (unswayed_takeLetters grammar letters h (eq_false_of_ne_true hquiet)).1
          rw [verbose_of_takeFlag htaken] at hbefore
          cases hbefore

theorem Gathered.verbose_of_takeLong {g t : Gathered} {name : List Char}
    {value : Option (List Char)} {arguments : List String}
    (h : g.takeLong .program name value arguments = .ok t) : t.verbose = true := by
  unfold takeLong at h
  split at h
  · exact verbose_of_takeFlag h
  · cases h
  · -- The program takes no options before the subcommand.
    cases h

theorem Verb.name_of_ofName? {name : String} {verb : Verb} (h : ofName? name = some verb) :
    verb.name = name := by
  have hname := List.find?_some h
  exact eq_of_beq hname

/-- A task without the verbose flag is asked for by a subcommand that comes first. -/
theorem readFrom_eq_quiet {g : Gathered} {arguments : List String} {task : Task}
    (h : readFrom g arguments = .ok (.run false task)) :
    g.verbose = false ∧ ∃ verb rest, arguments = Verb.name verb :: rest ∧
      readTask false verb rest = .ok (.run false task) := by
  induction arguments generalizing g with
  | nil => cases h
  | cons argument arguments ih =>
      unfold readFrom at h
      split_ifs at h
      · exact absurd h (readHelp_ne_run _ _ _)
      cases hverb : Verb.ofName? argument with
      | some verb =>
          rw [hverb] at h
          have hquiet : g.verbose = false := by
            obtain ⟨_, -, -, hor⟩ := readTask_eq_run_iff.mp h
            exact (Bool.or_eq_false_iff.mp hor).1
          rw [hquiet] at h
          exact ⟨hquiet, verb, arguments, by rw [Verb.name_of_ofName? hverb], h⟩
      | none =>
          rw [hverb] at h
          -- All that can come before the subcommand is flags, and then the verbose one was there.
          have hflags : ∀ taken, taken.verbose = true →
              readFrom taken arguments ≠ .ok (.run false task) := by
            intro taken hloud hlater
            rw [(ih hlater).1] at hloud
            cases hloud
          cases hword : Word.of argument.toList with
          | separator =>
              simp only [hword] at h
              cases h
          | plain =>
              simp only [hword] at h
              cases h
          | long name value =>
              simp only [hword] at h
              cases htaken : g.takeLong .program name value arguments with
              | error stop =>
                  rw [htaken] at h
                  exact absurd h (stop.request_ne_run _ _ _)
              | ok taken =>
                  rw [htaken] at h
                  exact absurd h (hflags taken (Gathered.verbose_of_takeLong htaken))
          | short letters =>
              simp only [hword] at h
              cases htaken : g.takeLetters .program letters with
              | error stop =>
                  rw [htaken] at h
                  exact absurd h (stop.request_ne_run _ _ _)
              | ok taken =>
                  rw [htaken] at h
                  have hloud := Gathered.verbose_of_takeLetters (Word.short_ne_nil hword) htaken
                  exact absurd h (hflags taken hloud)

/-! ### A flag more -/

/-- The spellings of the verbose flag. -/
def verboseSpellings : List String := ["-v", "--verbose"]

/-- A command line, and the same with the verbose flag just before or just after the name of its
subcommand. That is the first argument which is such a name. -/
inductive MadeVerbose : List String → List String → Prop
  | before {above rest : List String} {name flag : String}
      (habove : ∀ argument ∈ above, argument ∉ subcommandNames) (hname : name ∈ subcommandNames)
      (hflag : flag ∈ verboseSpellings) :
      MadeVerbose (above ++ name :: rest) (above ++ flag :: name :: rest)
  | behind {above rest : List String} {name flag : String}
      (habove : ∀ argument ∈ above, argument ∉ subcommandNames) (hname : name ∈ subcommandNames)
      (hflag : flag ∈ verboseSpellings) :
      MadeVerbose (above ++ name :: rest) (above ++ name :: flag :: rest)

theorem Verb.name_mem_subcommandNames (verb : Verb) : verb.name ∈ subcommandNames := by
  cases verb <;> decide

theorem readFrom_name (g : Gathered) (verb : Verb) (rest : List String) :
    readFrom g (verb.name :: rest) = readTask g.verbose verb rest := by
  cases verb <;> rfl

theorem readFrom_flag {flag : String} (hflag : flag ∈ verboseSpellings) (rest : List String) :
    readFrom {} (flag :: rest) = readFrom (Gathered.louder {}) rest := by
  simp only [verboseSpellings, List.mem_cons, List.not_mem_nil, or_false] at hflag
  rcases hflag with rfl | rfl <;> rfl

theorem take_flag {flag : String} (hflag : flag ∈ verboseSpellings) (verb : Verb)
    (rest : List String) :
    Gathered.take verb.grammar {} (flag :: rest) =
      Gathered.take verb.grammar (Gathered.louder {}) rest := by
  simp only [verboseSpellings, List.mem_cons, List.not_mem_nil, or_false] at hflag
  rcases hflag with rfl | rfl <;> cases verb <;> rfl

/-- The first name of a subcommand is found where it stands. -/
theorem eq_of_above_names {above rest rest' : List String} {name name' : String}
    (habove : ∀ argument ∈ above, argument ∉ subcommandNames) (hname' : name' ∈ subcommandNames)
    (h : above ++ name :: rest = name' :: rest') : above = [] ∧ name = name' ∧ rest = rest' := by
  cases above with
  | nil =>
      cases h
      exact ⟨rfl, rfl, rfl⟩
  | cons first above =>
      cases h
      exact absurd hname' (habove _ List.mem_cons_self)

/-- A command line that is made verbose asks for the same task, verbosely. -/
theorem read_madeVerbose {arguments louder : List String} {task : Task}
    (h : Request.read arguments = .ok (.run false task)) (hmade : MadeVerbose arguments louder) :
    Request.read louder = .ok (.run true task) := by
  obtain ⟨-, verb, rest, hsplit, hread⟩ := readFrom_eq_quiet h
  obtain ⟨g, htake, htask, hquiet⟩ := readTask_eq_run_iff.mp hread
  unfold Request.read
  cases hmade with
  | before habove hname hflag =>
      obtain ⟨rfl, rfl, rfl⟩ := eq_of_above_names habove verb.name_mem_subcommandNames hsplit
      rw [List.nil_append, readFrom_flag hflag, readFrom_name, readTask_eq_run_iff]
      exact ⟨g, htake, htask, rfl⟩
  | behind habove hname hflag =>
      obtain ⟨rfl, rfl, rfl⟩ := eq_of_above_names habove verb.name_mem_subcommandNames hsplit
      have hloud := (Gathered.unswayed_take verb.grammar _ htake hquiet).2
      rw [List.nil_append, readFrom_name, readTask_eq_run_iff]
      refine ⟨g.louder, ?_, Verb.task_of_held g.held_louder htask, ?_⟩
      · rw [take_flag hflag]
        exact hloud
      · rw [Gathered.verbose_louder, Bool.or_true]

end SolverDeck.Command
