import SolverDeck.Proofs.Command.Course
import SolverDeck.Proofs.Writing.Decks

/-!
# What the exit code tells

Several things can be wrong with a run at once: with its arguments, its case file, the base,
the parameters, the directory for the decks, the number of sweeps, and the decks. Each of
these is an `Obstacle`, and `Stands` says of each, by itself and without running anything,
whether it is there.

The exit code is that of the first obstacle in their fixed order, and the report ends with it
(`code_of_first_obstacle`). This takes some care only for the decks: whether one can be
written is asked of the tree before any was, although those before it are written first.
-/

namespace SolverDeck

/-! ### Cases -/

namespace Case

variable {position : Nat} {p : Parameter} {ps : List Parameter} {fault : Fault}

/-- All parameters can be resolved, the first of them standing at this position. -/
def Resolvable (position : Nat) (ps : List Parameter) : Prop :=
  ∀ (i : Nat) (p : Parameter), ps[i]? = some p →
    ∃ entry, p.resolve (position + i) = .ok entry

/-- One of the parameters cannot be resolved, and those before it can. -/
def Unresolvable (position : Nat) (ps : List Parameter) (fault : Fault) : Prop :=
  ∃ (i : Nat) (p : Parameter), ps[i]? = some p ∧ p.resolve (position + i) = .error fault ∧
    Resolvable position (ps.take i)

theorem Resolvable.not_unresolvable (h : Resolvable position ps) :
    ¬ Unresolvable position ps fault := by
  rintro ⟨i, p, hp, hfails, -⟩
  obtain ⟨entry, hentry⟩ := h i p hp
  rw [hfails] at hentry
  cases hentry

theorem Resolvable.cons {entry : String × Value} (hp : p.resolve position = .ok entry)
    (h : Resolvable (position + 1) ps) : Resolvable position (p :: ps) := by
  intro i q hq
  cases i with
  | zero =>
      obtain rfl := Option.some.inj hq
      exact ⟨entry, hp⟩
  | succ i =>
      -- Number `i + 1` from here on is number `i` from the next position on.
      rw [← Nat.add_assoc, Nat.add_right_comm]
      exact h i q hq

/-- Filling a store stops at the first parameter that cannot be resolved. -/
theorem resolveFrom_cases (position : Nat) (ps : List Parameter) :
    (∃ fault, (resolveFrom position ps).2 = some fault ∧ Unresolvable position ps fault) ∨
      (resolveFrom position ps).2 = none ∧ Resolvable position ps := by
  induction ps generalizing position with
  | nil => exact Or.inr ⟨rfl, fun i p h => by simp at h⟩
  | cons p ps ih =>
      unfold resolveFrom
      cases hp : p.resolve position with
      | error fault => exact Or.inl ⟨fault, rfl, 0, p, rfl, hp, fun i q h => by simp at h⟩
      | ok entry =>
          rcases ih (position + 1) with ⟨fault, hfault, i, q, hq, hfails, hbefore⟩ | ⟨hnone, hall⟩
          · refine Or.inl ⟨fault, hfault, i + 1, q, hq, ?_, hbefore.cons hp⟩
            rwa [← Nat.add_assoc, Nat.add_right_comm]
          · exact Or.inr ⟨hnone, hall.cons hp⟩

theorem exists_refusal_of_parse {text : String} (h : parse text = .error fault) :
    ∃ refusal, fault = .malformedCase refusal := by
  unfold parse at h
  split at h
  case _ refusal _ =>
      cases h
      exact ⟨refusal, rfl⟩
  case _ => cases h

theorem Parameter.category_of_resolve (h : p.resolve position = .error fault) :
    fault.category = .inputValidation := by
  unfold Parameter.resolve at h
  split at h
  case _ =>
      split at h
      case _ => cases h
      case _ =>
          cases h
          rfl
  case _ => cases h
  case _ =>
      cases h
      rfl
  case _ =>
      cases h
      rfl

theorem Unresolvable.category (h : Unresolvable position ps fault) :
    fault.category = .inputValidation := by
  obtain ⟨i, p, -, hfails, -⟩ := h
  exact Parameter.category_of_resolve hfails

end Case

/-- A plan is refused for several sweeps, and for nothing else. -/
theorem Store.plan_rejected_iff {store : Store} {base : String} :
    (∃ labels, store.plan base = .rejected labels) ↔ 1 < store.sweeps.length := by
  unfold Store.plan
  split
  case _ h => simp [h]
  case _ h => simp [h]
  case _ hnone hone =>
      refine ⟨fun _ => ?_, fun _ => ⟨_, rfl⟩⟩
      match hsweeps : store.sweeps with
      | [] => exact absurd hsweeps hnone
      | [sweep] => exact absurd hsweeps (hone sweep)
      | _ :: _ :: _ => simp

namespace Command

/-- A case has a base in which there is more than blanks, or there is no base. -/
theorem baseOf_cases (given : Option String) (c : Case) :
    (baseOf given c = .error .noBase ∧
      ∀ base, given.or c.base = some base → Text.isBlankText base = true) ∨
    ∃ base, baseOf given c = .ok base ∧ given.or c.base = some base ∧
      Text.isBlankText base = false := by
  unfold baseOf
  cases hbase : given.or c.base with
  | none => exact Or.inl ⟨rfl, nofun⟩
  | some base =>
      dsimp only
      cases hblank : Text.isBlankText base with
      | true =>
          refine Or.inl ⟨rfl, ?_⟩
          intro other hother
          cases hother
          exact hblank
      | false => exact Or.inr ⟨base, rfl, rfl, hblank⟩

/-! ### Obstacles -/

/-- What can keep a run from doing its work, in the order in which it is met. -/
inductive Obstacle where
  /-- The arguments make no request. -/
  | misuse
  /-- The case file cannot be read as text. -/
  | unreadableCase
  /-- The case file holds no case. -/
  | malformedCase
  /-- There is no base, or only blanks in it. -/
  | noBase
  /-- A parameter has no label. -/
  | unresolvedParameter
  /-- The directory for the decks cannot be made. -/
  | noDirectory
  /-- There are several sweeps. -/
  | severalSweeps
  /-- A deck cannot be written. -/
  | unwritableDeck
deriving DecidableEq, Repr

namespace Obstacle

/-- The place of an obstacle in the order. -/
def rank : Obstacle → Nat
  | misuse => 0
  | unreadableCase => 1
  | malformedCase => 2
  | noBase => 3
  | unresolvedParameter => 4
  | noDirectory => 5
  | severalSweeps => 6
  | unwritableDeck => 7

/-- The exit code of a run that is kept from its work: 3 if the files are in the way, and 2
if it is the input. -/
def code : Obstacle → Nat
  | unreadableCase | noDirectory | unwritableDeck => 3
  | _ => 2

theorem rank_injective {o other : Obstacle} (h : o.rank = other.rank) : o = other := by
  cases o <;> cases other <;> first | rfl | cases h

end Obstacle

/-- The root below which a task writes. -/
def Task.root? : Task → Option Path
  | write _ _ root => some root
  | _ => none

/-- An obstacle stands in the way of a request, and this is how it would end the run. Whether
others stand there too does not matter. -/
inductive Stands (tree : FileTree) : Except Complaint Request → Obstacle → Ending → Prop
  | misuse (complaint : Complaint) :
      Stands tree (.error complaint) .misuse (.failed (.misuse complaint))
  | unreadableCase {verbose : Bool} {task : Task} {caseFile : Path} {given : Option String}
      {e : FileError} (source : task.source? = some (caseFile, given))
      (unread : tree.readText caseFile = .error e) :
      Stands tree (.ok (.run verbose task)) .unreadableCase
        (.failed (.fault (.unreadableCase caseFile e)))
  | malformedCase {verbose : Bool} {task : Task} {caseFile : Path} {given : Option String}
      {text : String} {fault : Fault} (source : task.source? = some (caseFile, given))
      (read : tree.readText caseFile = .ok text) (malformed : Case.parse text = .error fault) :
      Stands tree (.ok (.run verbose task)) .malformedCase (.failed (.fault fault))
  | noBase {verbose : Bool} {task : Task} {caseFile : Path} {given : Option String} {c : Case}
      (source : task.source? = some (caseFile, given)) (holds : loaded tree caseFile = .ok c)
      (blank : ∀ base, given.or c.base = some base → Text.isBlankText base = true) :
      Stands tree (.ok (.run verbose task)) .noBase (.failed (.fault .noBase))
  | unresolvedParameter {verbose : Bool} {task : Task} {caseFile : Path} {given : Option String}
      {c : Case} {fault : Fault} (source : task.source? = some (caseFile, given))
      (holds : loaded tree caseFile = .ok c)
      (unresolved : Case.Unresolvable 1 c.parameters fault) :
      Stands tree (.ok (.run verbose task)) .unresolvedParameter (.failed (.fault fault))
  | noDirectory {verbose : Bool} {task : Task} {root : Path} {e : FileError}
      (writes : task.root? = some root)
      (refused : (tree.ensureDirectory (root.join Deck.directory)).1 = .error e) :
      Stands tree (.ok (.run verbose task)) .noDirectory
        (.failed (.fault (.deckDirectory (root.join Deck.directory) e)))
  | severalSweeps {verbose : Bool} {task : Task} {caseFile : Path} {given : Option String}
      {c : Case} (source : task.source? = some (caseFile, given))
      (holds : loaded tree caseFile = .ok c)
      (several : 1 < (c.applyTo .empty).sweeps.length) :
      Stands tree (.ok (.run verbose task)) .severalSweeps .rejected
  | unwritableDeck {verbose : Bool} {task : Task} {caseFile root : Path}
      {given : Option String} {c : Case} {base : String} {before rest : List Deck} {deck : Deck}
      {e : FileError} (source : task.source? = some (caseFile, given))
      (writes : task.root? = some root) (holds : loaded tree caseFile = .ok c)
      (named : given.or c.base = some base)
      (decks : ((c.applyTo .empty).plan base).decks = before ++ deck :: rest)
      (fails : ((tree.ensureDirectory (root.join Deck.directory)).2.writeText
        (root.join deck.path) deck.content).1 = .error e)
      (least : ∀ d ∈ before, ((tree.ensureDirectory (root.join Deck.directory)).2.writeText
        (root.join d.path) d.content).1 = .ok ()) :
      Stands tree (.ok (.run verbose task)) .unwritableDeck
        (.failed (.fault (.deckFile (root.join deck.path) e)))

/-- No obstacle of a lower rank stands. -/
def Clear (tree : FileTree) (request : Except Complaint Request) (rank : Nat) : Prop :=
  ∀ o ending, o.rank < rank → ¬ Stands tree request o ending

/-- The first obstacle that stands. -/
def First (tree : FileTree) (request : Except Complaint Request) (o : Obstacle)
    (ending : Ending) : Prop :=
  Stands tree request o ending ∧ Clear tree request o.rank

section

variable {tree : FileTree} {request : Except Complaint Request} {o : Obstacle} {ending : Ending}

theorem clear_zero : Clear tree request 0 :=
  fun o _ h => absurd h (Nat.not_lt_zero o.rank)

theorem Clear.next {r : Nat} (h : Clear tree request r) (o : Obstacle) (hrank : o.rank = r)
    (hno : ∀ ending, ¬ Stands tree request o ending) : Clear tree request (r + 1) := by
  intro other ending hlt hstands
  rcases Nat.lt_succ_iff_lt_or_eq.mp hlt with hlower | heq
  · exact h other ending hlower hstands
  · obtain rfl := Obstacle.rank_injective (heq.trans hrank.symm)
    exact hno ending hstands

/-- Beyond the last rank nothing stands. -/
theorem Clear.not_stands (h : Clear tree request 8) : ¬ Stands tree request o ending := by
  refine h o ending ?_
  cases o <;> decide

/-- An obstacle ends a run with a failure of its exit code, several sweeps excepted. -/
theorem Stands.failed_or_rejected (h : Stands tree request o ending) :
    (∃ failure, ending = .failed failure ∧ failure.diagnostic.exitCode = o.code) ∨
      o = .severalSweeps ∧ ending = .rejected := by
  cases h with
  | severalSweeps => exact Or.inr ⟨rfl, rfl⟩
  | malformedCase _ _ malformed =>
      obtain ⟨refusal, rfl⟩ := Case.exists_refusal_of_parse malformed
      exact Or.inl ⟨_, rfl, rfl⟩
  | @unresolvedParameter _ _ _ _ _ fault _ _ unresolved =>
      refine Or.inl ⟨_, rfl, ?_⟩
      show fault.category.exitCode = 2
      rw [unresolved.category]
      rfl
  | _ => exact Or.inl ⟨_, rfl, rfl⟩

end

/-! ### The beginning of a task -/

/-- What is prepared of a case, and why that fails. -/
theorem prepare_cases (given : Option String) (c : Case) :
    (prepare given c = ([], .error .noBase) ∧
      ∀ base, given.or c.base = some base → Text.isBlankText base = true) ∨
    ∃ base, given.or c.base = some base ∧ Text.isBlankText base = false ∧
      ((∃ fault, prepare given c = (c.events, .error fault) ∧
        Case.Unresolvable 1 c.parameters fault) ∨
      prepare given c = (c.events, .ok (base, c.applyTo .empty)) ∧
        Case.Resolvable 1 c.parameters) := by
  rcases baseOf_cases given c with ⟨hbase, hblank⟩ | ⟨base, hbase, hnamed, hblank⟩
  · refine Or.inl ⟨?_, hblank⟩
    rw [prepare, hbase]
  · refine Or.inr ⟨base, hnamed, hblank, ?_⟩
    have hprepare : prepare given c = (c.events, c.toStore.map fun store => (base, store)) := by
      rw [prepare, hbase]
    have hfault : c.fault? = (Case.resolveFrom 1 c.parameters).2 := rfl
    rw [hprepare, Case.toStore, hfault]
    rcases Case.resolveFrom_cases 1 c.parameters with ⟨fault, hstops, hunresolvable⟩ |
      ⟨hnone, hall⟩
    · rw [hstops]
      exact Or.inl ⟨fault, rfl, hunresolvable⟩
    · rw [hnone]
      exact Or.inr ⟨rfl, hall⟩

section

variable {tree : FileTree} {verbose : Bool} {task : Task} {caseFile root : Path}
  {given : Option String} {c : Case} {events : List Log.Event} {base : String}

theorem clear_misuse (tree : FileTree) (verbose : Bool) (task : Task) :
    Clear tree (.ok (.run verbose task)) 1 :=
  clear_zero.next .misuse rfl fun _ h => nomatch h

/-- Reading the case meets the first obstacle, or there is none up to the case. -/
theorem first_or_clear_of_loaded (tree : FileTree) (verbose : Bool)
    (hsource : task.source? = some (caseFile, given)) :
    (∃ fault, loaded tree caseFile = .error fault ∧
      ∃ o, First tree (.ok (.run verbose task)) o (.failed (.fault fault))) ∨
    ∃ c, loaded tree caseFile = .ok c ∧ Clear tree (.ok (.run verbose task)) 3 := by
  have hmisuse := clear_misuse tree verbose task
  cases hread : tree.readText caseFile with
  | error e =>
      refine Or.inl ⟨.unreadableCase caseFile e, by rw [loaded, hread], .unreadableCase, ?_⟩
      exact ⟨.unreadableCase hsource hread, hmisuse⟩
  | ok text =>
      have hloaded : loaded tree caseFile = Case.parse text := by rw [loaded, hread]
      have hreadable : Clear tree (.ok (.run verbose task)) 2 := by
        refine hmisuse.next .unreadableCase rfl fun ending h => ?_
        -- The task fixes the case file, and the tree its text, so it is read here too.
        cases h with
        | unreadableCase source unread =>
            cases hsource.symm.trans source
            cases hread.symm.trans unread
      rw [hloaded]
      cases hparse : Case.parse text with
      | error fault =>
          exact Or.inl ⟨fault, rfl, .malformedCase, .malformedCase hsource hread hparse, hreadable⟩
      | ok c =>
          refine Or.inr ⟨c, rfl, hreadable.next .malformedCase rfl fun ending h => ?_⟩
          cases h with
          | malformedCase source read malformed =>
              cases hsource.symm.trans source
              cases hread.symm.trans read
              cases hparse.symm.trans malformed

/-- What comes before any deck meets the first obstacle, or there is none up to the store. -/
theorem first_or_clear_of_opened (tree : FileTree) (verbose : Bool)
    (hsource : task.source? = some (caseFile, given)) :
    (∃ events fault, opened tree caseFile given = (events, .error fault) ∧
      ∃ o, First tree (.ok (.run verbose task)) o (.failed (.fault fault))) ∨
    ∃ events c base, opened tree caseFile given = (events, .ok (base, c.applyTo .empty)) ∧
      loaded tree caseFile = .ok c ∧ given.or c.base = some base ∧
      Clear tree (.ok (.run verbose task)) 5 := by
  rcases first_or_clear_of_loaded tree verbose hsource with ⟨fault, hloaded, hfirst⟩ |
    ⟨c, hloaded, hclear⟩
  · exact Or.inl ⟨[], fault, by rw [opened, hloaded], hfirst⟩
  · have hopened : opened tree caseFile given = prepare given c := by rw [opened, hloaded]
    rw [hopened]
    rcases prepare_cases given c with ⟨hprepare, hblank⟩ | ⟨base, hnamed, hfilled, hstore⟩
    · exact Or.inl ⟨[], .noBase, hprepare, .noBase, .noBase hsource hloaded hblank, hclear⟩
    · have hbased : Clear tree (.ok (.run verbose task)) 4 := by
        refine hclear.next .noBase rfl fun ending h => ?_
        cases h with
        | noBase source holds blank =>
            cases hsource.symm.trans source
            cases hloaded.symm.trans holds
            cases hfilled.symm.trans (blank base hnamed)
      rcases hstore with ⟨fault, hprepare, hunresolvable⟩ | ⟨hprepare, hall⟩
      · refine Or.inl ⟨c.events, fault, hprepare, .unresolvedParameter, ?_, hbased⟩
        exact .unresolvedParameter hsource hloaded hunresolvable
      · refine Or.inr ⟨c.events, c, base, hprepare, hloaded, hnamed, ?_⟩
        refine hbased.next .unresolvedParameter rfl fun ending h => ?_
        cases h with
        | unresolvedParameter source holds unresolved =>
            cases hsource.symm.trans source
            cases hloaded.symm.trans holds
            exact hall.not_unresolvable unresolved

/-! ### The end of a task -/

/-- The number of sweeps is the first obstacle, or there is none up to the decks. -/
theorem first_or_clear_of_plan (hsource : task.source? = some (caseFile, given))
    (hloaded : loaded tree caseFile = .ok c) (base : String)
    (hclear : Clear tree (.ok (.run verbose task)) 6) :
    (∃ labels, (c.applyTo .empty).plan base = .rejected labels ∧
      First tree (.ok (.run verbose task)) .severalSweeps .rejected) ∨
    (∀ labels, (c.applyTo .empty).plan base ≠ .rejected labels) ∧
      Clear tree (.ok (.run verbose task)) 7 := by
  by_cases hrejected : ∃ labels, (c.applyTo .empty).plan base = .rejected labels
  · have hseveral := Store.plan_rejected_iff.mp hrejected
    obtain ⟨labels, hplan⟩ := hrejected
    exact Or.inl ⟨labels, hplan, .severalSweeps hsource hloaded hseveral, hclear⟩
  · refine Or.inr ⟨fun labels hplan => hrejected ⟨labels, hplan⟩, ?_⟩
    refine hclear.next .severalSweeps rfl fun ending h => ?_
    cases h with
    | severalSweeps source holds several =>
        cases hsource.symm.trans source
        cases hloaded.symm.trans holds
        exact hrejected (Store.plan_rejected_iff.mpr several)

/-- A task that writes nothing is not stopped by the files. -/
theorem Clear.of_no_root (hroot : task.root? = none)
    (hclear : Clear tree (.ok (.run verbose task)) 7) (o : Obstacle) (ending : Ending) :
    ¬ Stands tree (.ok (.run verbose task)) o ending := by
  refine Clear.not_stands (hclear.next .unwritableDeck rfl fun ending h => ?_)
  cases h with
  | unwritableDeck source writes =>
      cases hroot.symm.trans writes

/-- The directory for the decks is the first obstacle, or there is none up to it. -/
theorem first_or_clear_of_directory (hroot : task.root? = some root)
    (hclear : Clear tree (.ok (.run verbose task)) 5) :
    (∃ e grown, tree.ensureDirectory (root.join Deck.directory) = (.error e, grown) ∧
      First tree (.ok (.run verbose task)) .noDirectory
        (.failed (.fault (.deckDirectory (root.join Deck.directory) e)))) ∨
    ∃ grown, tree.ensureDirectory (root.join Deck.directory) = (.ok (), grown) ∧
      Clear tree (.ok (.run verbose task)) 6 := by
  cases hensure : tree.ensureDirectory (root.join Deck.directory) with
  | mk result grown =>
      have hresult : (tree.ensureDirectory (root.join Deck.directory)).1 = result := by
        rw [hensure]
      cases result with
      | error e => exact Or.inl ⟨e, grown, rfl, .noDirectory hroot hresult, hclear⟩
      | ok =>
          refine Or.inr ⟨grown, rfl, hclear.next .noDirectory rfl fun ending h => ?_⟩
          cases h with
          | noDirectory writes refused =>
              cases hroot.symm.trans writes
              cases hresult.symm.trans refused

/-- The first deck that cannot be written is the first obstacle, or there is none at all. -/
theorem first_or_free_of_decks {grown : FileTree} (hsource : task.source? = some (caseFile, given))
    (hroot : task.root? = some root) (hloaded : loaded tree caseFile = .ok c)
    (hnamed : given.or c.base = some base)
    (hensure : tree.ensureDirectory (root.join Deck.directory) = (.ok (), grown))
    (hclear : Clear tree (.ok (.run verbose task)) 7) :
    (∃ (deck : Deck) (e : FileError),
      (((c.applyTo .empty).plan base).write FileTree.access root grown).1.result =
        .error (.deckFile (root.join deck.path) e) ∧
      First tree (.ok (.run verbose task)) .unwritableDeck
        (.failed (.fault (.deckFile (root.join deck.path) e)))) ∨
    (((c.applyTo .empty).plan base).write FileTree.access root grown).1.result =
        .ok (((c.applyTo .empty).plan base).outcome root) ∧
      ∀ o ending, ¬ Stands tree (.ok (.run verbose task)) o ending := by
  have hapart := (c.applyTo .empty).apart_plan root base
  have hgrown : (tree.ensureDirectory (root.join Deck.directory)).2 = grown := by rw [hensure]
  rcases ((c.applyTo .empty).plan base).write_cases root grown with ⟨after, hwrites, hplan⟩ |
    ⟨done, failing, rest, after, e, hdecks, hwrites, hfails, hplan⟩
  · refine Or.inr ⟨by rw [hplan], fun o ending => ?_⟩
    refine Clear.not_stands (hclear.next .unwritableDeck rfl fun ending h => ?_)
    cases h with
    | unwritableDeck source writes holds named decks fails =>
        cases hsource.symm.trans source
        cases hroot.symm.trans writes
        cases hloaded.symm.trans holds
        cases hnamed.symm.trans named
        -- Every deck was written, so every deck could have been written first.
        have hmem := decks ▸ List.mem_append_right _ List.mem_cons_self
        rw [hgrown, hwrites.writeText_ok hapart _ hmem] at fails
        cases fails
  · rw [hdecks] at hapart
    obtain ⟨hfirst, hbefore⟩ := hwrites.writeText_of_fails hapart hfails
    refine Or.inl ⟨failing, e, by rw [hplan], ?_, hclear⟩
    rw [← hgrown] at hfirst hbefore
    exact .unwritableDeck hsource hroot hloaded hnamed hdecks hfirst hbefore

end

/-! ### Whole runs -/

/-- A request is held up by its first obstacle, or there is none and something is printed. -/
def Settled (tree : FileTree) (request : Except Complaint Request) (ending : Ending) : Prop :=
  (∃ o, First tree request o ending) ∨
    (∀ o ending, ¬ Stands tree request o ending) ∧ ∃ text printing, ending = .printed text printing

theorem settled_preview (tree : FileTree) (verbose : Bool) (caseFile : Path)
    (given : Option String) :
    Settled tree (.ok (.run verbose (.preview caseFile given)))
      (runTask FileTree.access (.preview caseFile given) tree).1.ending := by
  have hsource : (Task.preview caseFile given).source? = some (caseFile, given) := rfl
  have hroot : (Task.preview caseFile given).root? = none := rfl
  rcases first_or_clear_of_opened tree verbose hsource with
    ⟨events, fault, hopened, o, hfirst⟩ | ⟨events, c, base, hopened, hloaded, -, hclear⟩
  · rw [runTask_of_error hsource hopened]
    exact Or.inl ⟨o, hfirst⟩
  · rw [runTask_preview hopened]
    have hnoRoot : Clear tree (.ok (.run verbose (.preview caseFile given))) 6 := by
      refine hclear.next .noDirectory rfl fun ending h => ?_
      cases h with
      -- Only a task with a root meets the directory.
      | noDirectory writes => cases hroot.symm.trans writes
    rcases first_or_clear_of_plan hsource hloaded base hnoRoot with
      ⟨labels, hplan, hfirst⟩ | ⟨hmade, hclear⟩
    · refine Or.inl ⟨.severalSweeps, ?_⟩
      rw [hplan]
      exact hfirst
    · exact Or.inr ⟨hclear.of_no_root hroot, _, _, ending_shown hmade⟩

theorem settled_write (tree : FileTree) (verbose : Bool) (caseFile : Path)
    (given : Option String) (root : Path) :
    Settled tree (.ok (.run verbose (.write caseFile given root)))
      (runTask FileTree.access (.write caseFile given root) tree).1.ending := by
  have hsource : (Task.write caseFile given root).source? = some (caseFile, given) := rfl
  have hroot : (Task.write caseFile given root).root? = some root := rfl
  rcases first_or_clear_of_opened tree verbose hsource with
    ⟨events, fault, hopened, o, hfirst⟩ | ⟨events, c, base, hopened, hloaded, hnamed, hclear⟩
  · rw [runTask_of_error hsource hopened]
    exact Or.inl ⟨o, hfirst⟩
  rw [runTask_write hopened]
  -- The directory comes before the number of sweeps is looked at, and the decks come last.
  rcases first_or_clear_of_directory hroot hclear with ⟨e, grown, hensure, hfirst⟩ |
    ⟨grown, hensure, hclear⟩
  · rw [Store.write_of_ensureDirectory_error hensure]
    exact Or.inl ⟨.noDirectory, hfirst⟩
  rw [Store.write_of_ensureDirectory_ok hensure]
  rcases first_or_clear_of_plan hsource hloaded base hclear with ⟨labels, hplan, hfirst⟩ |
    ⟨hmade, hclear⟩
  · rw [hplan]
    exact Or.inl ⟨.severalSweeps, hfirst⟩
  rcases first_or_free_of_decks hsource hroot hloaded hnamed hensure hclear with
    ⟨deck, e, hresult, hfirst⟩ | ⟨hresult, hfree⟩
  · rw [hresult]
    exact Or.inl ⟨.unwritableDeck, hfirst⟩
  · rw [hresult]
    exact Or.inr ⟨hfree, _, _, writtenEnding_outcome hmade root⟩

/-- Listing the fields needs nothing, so nothing can stand in its way. -/
theorem settled_fields (tree : FileTree) (verbose : Bool) :
    Settled tree (.ok (.run verbose .fields)) (runTask FileTree.access .fields tree).1.ending := by
  have hsource : Task.fields.source? = none := rfl
  have hroot : Task.fields.root? = none := rfl
  refine Or.inr ⟨fun o ending h => ?_, _, _, rfl⟩
  cases h with
  | noDirectory writes => cases hroot.symm.trans writes
  | _ source => cases hsource.symm.trans source

theorem settled_work (arguments : List String) (tree : FileTree) :
    Settled tree (Request.read arguments) (work FileTree.access arguments tree).1.ending := by
  unfold work
  cases Request.read arguments with
  | error complaint => exact Or.inl ⟨.misuse, .misuse complaint, clear_zero⟩
  | ok request =>
      cases request with
      | help topic => exact Or.inr ⟨fun o ending h => (nomatch h), _, _, rfl⟩
      | version => exact Or.inr ⟨fun o ending h => (nomatch h), _, _, rfl⟩
      | run verbose task =>
          cases task with
          | write caseFile given root => exact settled_write tree verbose caseFile given root
          | preview caseFile given => exact settled_preview tree verbose caseFile given
          | fields => exact settled_fields tree verbose

/-- How a run comes to its exit code. -/
inductive Run.Decided (tree : FileTree) (request : Except Complaint Request) (run : Run) : Prop
  /-- Nothing stands in the way, and the work is done. -/
  | done (free : ∀ o ending, ¬ Stands tree request o ending) (code : run.report.code = 0)
  /-- The first obstacle makes the run fail, which is told at the end of the error output. -/
  | failed (o : Obstacle) (failure : Failure) (first : First tree request o (.failed failure))
      (code : run.report.code = o.code) (fails : run.Fails failure)
  /-- The first obstacle are several sweeps. -/
  | refused (first : First tree request .severalSweeps .rejected) (code : run.report.code = 2)

/-- The exit code is 0 if nothing stands in the way of a run, and else that of the first
obstacle, 2 or 3. Then nothing is printed, and the last lines of the error output are about
this obstacle. -/
theorem code_of_first_obstacle (tree : FileTree) (setting : Option String)
    (arguments : List String) :
    (Run.of tree setting arguments).Decided tree (Request.read arguments) ∧
      (Run.of tree setting arguments).report.code ∈ [0, 2, 3] ∧
      ((Run.of tree setting arguments).report.code ≠ 0 →
        (Run.of tree setting arguments).report.output = "") := by
  have hsettled : Settled tree (Request.read arguments)
      (Run.of tree setting arguments).worked.ending := settled_work arguments tree
  rcases hsettled with ⟨o, hfirst⟩ | ⟨hfree, text, printing, hprinted⟩
  · obtain ⟨failure, hending, hexit⟩ | ⟨rfl, hending⟩ := hfirst.1.failed_or_rejected
    · -- The run fails as the obstacle says.
      have hfails := Run.fails_of_ending hending
      have hcode : (Run.of tree setting arguments).report.code = o.code := hfails.code.trans hexit
      refine ⟨.failed o failure (hending ▸ hfirst) hcode hfails, ?_, fun _ => hfails.output⟩
      rw [hcode]
      cases o <;> decide
    · obtain ⟨hcode, houtput⟩ := Run.report_of_rejected hending
      refine ⟨.refused (hending ▸ hfirst) hcode, ?_, fun _ => houtput⟩
      rw [hcode]
      decide
  · obtain ⟨hcode, -⟩ := Run.report_of_printed hprinted
    refine ⟨.done hfree hcode, ?_, fun h => absurd hcode h⟩
    rw [hcode]
    decide

end Command

end SolverDeck
