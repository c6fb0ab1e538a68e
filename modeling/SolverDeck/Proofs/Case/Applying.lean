import Mathlib.Data.List.Forall2
import SolverDeck.Case

/-!
# Applying a case to a store

A parameter of a case is good if it has one name: the key of a field that exists, or a label.
`Parameter.StandsFor` says which entry it stands for then, and `Parameter.Refused` what is
reported of it otherwise.

`Case.Applied` says how parameters change a store, looking at them as a whole: all are good and
all are registered, or there is a first bad one, and just those before it are registered. Every
case changes every store in this way and in no other (`Case.applied_iff`). The cut at the first
bad parameter fixes both the position in the report and the entries in the store, so one lemma
on the parameters before it carries both (`resolveFrom_append`).
-/

namespace SolverDeck

namespace Case

/-- A parameter with one name stands for its value under the label that the name gives. -/
inductive Parameter.StandsFor : Parameter → String × Value → Prop
  | field {key : String} {f : Field} {v : Value} (known : Field.ofKey? key = some f) :
      StandsFor ⟨some key, none, v⟩ (f.label, v)
  | label {label : String} {v : Value} : StandsFor ⟨none, some label, v⟩ (label, v)

/-- The report on a parameter that stands for nothing, at its position counted from one. -/
inductive Parameter.Refused (position : Nat) : Parameter → Diagnostic → Prop
  | unknownField {key : String} {v : Value} (unknown : Field.ofKey? key = none) :
      Refused position ⟨some key, none, v⟩
        ⟨.inputValidation, "INPUT.CASE_UNKNOWN_FIELD",
          "parameter #" ++ toString position ++ " names unknown field '" ++ key ++ "'"⟩
  | both {key label : String} {v : Value} :
      Refused position ⟨some key, some label, v⟩
        ⟨.inputValidation, "INPUT.CASE_PARAMETER",
          "parameter #" ++ toString position ++ " sets both 'field' and 'label'; use exactly one"⟩
  | neither {v : Value} :
      Refused position ⟨none, none, v⟩
        ⟨.inputValidation, "INPUT.CASE_PARAMETER",
          "parameter #" ++ toString position ++ " needs a 'field' or a 'label'"⟩

/-- What parameters make of a store, and the report on the one that stopped them. -/
inductive Applied (store : Store) : List Parameter → Option Diagnostic → Store → Prop
  /-- All parameters are registered, in order. -/
  | whole {ps : List Parameter} {entries : List (String × Value)}
      (good : List.Forall₂ Parameter.StandsFor ps entries) :
      Applied store ps none (store.registerAll entries)
  /-- One is refused, and only those before it are registered, in order. -/
  | upTo {before after : List Parameter} {p : Parameter} {entries : List (String × Value)}
      {report : Diagnostic} (good : List.Forall₂ Parameter.StandsFor before entries)
      (refused : p.Refused (before.length + 1) report) :
      Applied store (before ++ p :: after) (some report) (store.registerAll entries)

variable {position : Nat} {p : Parameter} {ps before after : List Parameter}
  {entry : String × Value} {entries : List (String × Value)} {report : Diagnostic}

/-! ### One parameter -/

theorem Parameter.StandsFor.resolve (h : p.StandsFor entry) (position : Nat) :
    p.resolve position = .ok entry := by
  cases h with
  | field known => simp only [Parameter.resolve, known]
  | label => rfl

theorem Parameter.Refused.resolve (h : p.Refused position report) :
    ∃ fault, p.resolve position = .error fault ∧ fault.diagnostic = report := by
  cases h with
  | @unknownField key _ unknown =>
      exact ⟨.unknownField position key, by simp only [Parameter.resolve, unknown], rfl⟩
  | both => exact ⟨.fieldAndLabel position, rfl, rfl⟩
  | neither => exact ⟨.noFieldOrLabel position, rfl, rfl⟩

/-- **One parameter.** Wherever it stands, it is good or it is refused. -/
theorem Parameter.standsFor_or_refused (p : Parameter) (position : Nat) :
    (∃ entry, p.StandsFor entry) ∨ ∃ report, p.Refused position report := by
  obtain ⟨field, label, v⟩ := p
  cases field with
  | none =>
      cases label with
      | none => exact Or.inr ⟨_, .neither⟩
      | some label => exact Or.inl ⟨_, .label⟩
  | some key =>
      cases label with
      | none =>
          cases hkey : Field.ofKey? key with
          | none => exact Or.inr ⟨_, .unknownField hkey⟩
          | some f => exact Or.inl ⟨_, .field hkey⟩
      -- With both names there is no look at the key, so it may be of a field.
      | some label => exact Or.inr ⟨_, .both⟩

theorem Parameter.Refused.not_standsFor (h : p.Refused position report) : ¬ p.StandsFor entry := by
  intro hgood
  obtain ⟨fault, hfault, -⟩ := h.resolve
  rw [hgood.resolve position] at hfault
  cases hfault

/-! ### Several parameters -/

/-- Good parameters are resolved to their entries, and leave the others to be resolved at the
positions where they stand. -/
theorem resolveFrom_append (good : List.Forall₂ Parameter.StandsFor before entries)
    (position : Nat) (ps : List Parameter) :
    resolveFrom position (before ++ ps) =
      (entries ++ (resolveFrom (position + before.length) ps).1,
        (resolveFrom (position + before.length) ps).2) := by
  induction good generalizing position with
  | nil => rfl
  | @cons p entry before entries first others ih =>
      have hplace : position + 1 + before.length = position + (p :: before).length := by
        rw [List.length_cons]
        omega
      rw [List.cons_append, resolveFrom, first.resolve position, ih (position + 1), hplace]
      rfl

theorem resolveFrom_of_good (good : List.Forall₂ Parameter.StandsFor ps entries) (position : Nat) :
    resolveFrom position ps = (entries, none) := by
  have hall := resolveFrom_append good position []
  rwa [List.append_nil, resolveFrom, List.append_nil] at hall

theorem resolveFrom_of_refused (good : List.Forall₂ Parameter.StandsFor before entries)
    (refused : p.Refused (position + before.length) report) (after : List Parameter) :
    ∃ fault, resolveFrom position (before ++ p :: after) = (entries, some fault) ∧
      fault.diagnostic = report := by
  obtain ⟨fault, hfault, hreport⟩ := refused.resolve
  refine ⟨fault, ?_, hreport⟩
  rw [resolveFrom_append good, resolveFrom, hfault, List.append_nil]

/-- **The cut.** Parameters are all good, or there is a first one that is refused. -/
theorem good_or_cut (position : Nat) (ps : List Parameter) :
    (∃ entries, List.Forall₂ Parameter.StandsFor ps entries) ∨
      ∃ before p after entries report, ps = before ++ p :: after ∧
        List.Forall₂ Parameter.StandsFor before entries ∧
        p.Refused (position + before.length) report := by
  induction ps generalizing position with
  | nil => exact Or.inl ⟨[], .nil⟩
  | cons p ps ih =>
      rcases p.standsFor_or_refused position with ⟨entry, hp⟩ | ⟨report, hp⟩
      · -- A cut further on stays the first one, for this parameter is good.
        rcases ih (position + 1) with ⟨entries, hall⟩ |
          ⟨before, q, after, entries, report, rfl, hbefore, hq⟩
        · exact Or.inl ⟨entry :: entries, .cons hp hall⟩
        · refine Or.inr ⟨p :: before, q, after, entry :: entries, report, rfl,
            .cons hp hbefore, ?_⟩
          rwa [List.length_cons, Nat.add_comm before.length 1, ← Nat.add_assoc]
      · exact Or.inr ⟨[], p, ps, [], report, rfl, .nil, hp⟩

/-! ### Cases -/

theorem Applied.eq {c : Case} {store changed : Store} {stopped : Option Diagnostic}
    (h : Applied store c.parameters stopped changed) :
    stopped = c.fault?.map Fault.diagnostic ∧ changed = c.applyTo store := by
  unfold Case.fault? Case.applyTo resolved
  generalize c.parameters = ps at h
  cases h with
  | whole good =>
      rw [resolveFrom_of_good good 1]
      exact ⟨rfl, rfl⟩
  | @upTo before after p entries report good refused =>
      rw [Nat.add_comm before.length 1] at refused
      obtain ⟨fault, hresolved, hreport⟩ := resolveFrom_of_refused good refused after
      rw [hresolved, ← hreport]
      exact ⟨rfl, rfl⟩

theorem exists_applied (store : Store) (ps : List Parameter) :
    ∃ stopped changed, Applied store ps stopped changed := by
  rcases good_or_cut 1 ps with ⟨entries, good⟩ |
    ⟨before, p, after, entries, report, rfl, good, refused⟩
  · exact ⟨none, store.registerAll entries, .whole good⟩
  · rw [Nat.add_comm 1 before.length] at refused
    exact ⟨some report, store.registerAll entries, .upTo good refused⟩

/-- Nothing stops parameters just if each stands for something. -/
theorem Applied.stopped_eq_none_iff {store changed : Store} {stopped : Option Diagnostic}
    (h : Applied store ps stopped changed) :
    stopped = none ↔ ∀ p ∈ ps, ∃ entry, p.StandsFor entry := by
  cases h with
  | whole good =>
      have hall : ∀ p ∈ ps, ∃ entry, p.StandsFor entry := by
        intro p hp
        obtain ⟨i, hi, rfl⟩ := List.getElem_of_mem hp
        exact ⟨_, good.get hi (good.length_eq ▸ hi)⟩
      exact ⟨fun _ => hall, fun _ => rfl⟩
  | @upTo before after p entries report good refused =>
      refine ⟨nofun, ?_⟩
      intro hall
      obtain ⟨entry, hentry⟩ := hall p (by simp)
      exact absurd hentry refused.not_standsFor

/-- Applying a case to a store registers the entries of all its parameters if each stands for
one, and else those of the parameters before the first that does not, which is reported with
its position. -/
theorem applied_iff (c : Case) (store : Store) :
    (c.fault? = none ↔ ∀ p ∈ c.parameters, ∃ entry, p.StandsFor entry) ∧
      ∀ (stopped : Option Diagnostic) (changed : Store),
        Applied store c.parameters stopped changed ↔
          stopped = c.fault?.map Fault.diagnostic ∧ changed = c.applyTo store := by
  obtain ⟨stopped, changed, happlied⟩ := exists_applied store c.parameters
  obtain ⟨rfl, rfl⟩ := happlied.eq
  refine ⟨?_, ?_⟩
  · rw [← happlied.stopped_eq_none_iff, Option.map_eq_none_iff]
  · intro stopped changed
    refine ⟨Applied.eq, ?_⟩
    rintro ⟨rfl, rfl⟩
    exact happlied

end Case

end SolverDeck
