import SolverDeck.Proofs.Case.Applying
import SolverDeck.Proofs.Store.Coherence

/-!
# Applying a case again

A case without lists may be applied a second time, to the store that it left: nothing changes any
more, neither a value nor the place of one (`Case.applyTo_again`). It may name labels several times,
and the store may have had sweeps of them.

On the way the second run goes back to earlier values of such labels. What it registers first is
followed step by step: if the label comes again later, the later value is written over it
(`registerAll_overwritten`); if not, it can be put off to the end (`registerAll_put_off`), where it is
the value that the label has already. Both need the label to have a scalar, which then has its place
for good; the first run has seen to that.
-/

namespace SolverDeck

namespace Store

variable {store : Store} {label other : String} {v w : Value}
  {entries : List (String × Value)}

/-! ### One single value after another -/

/-- A label has a scalar. -/
def HasScalar (store : Store) (label : String) : Prop :=
  label ∈ store.scalars.map (·.label)

theorem setScalar_setScalar_self (label : String) (v w : Value) (ss : List Scalar) :
    setScalar label v (setScalar label w ss) = setScalar label v ss := by
  induction ss with
  | nil => simp [setScalar]
  | cons s ss ih => by_cases h : s.label = label <;> simp [setScalar, h, ih]

/-- A label that has a place keeps it, so another one is put where it would be without it. -/
theorem setScalar_comm {ss : List Scalar} (hne : label ≠ other)
    (hmem : label ∈ ss.map (·.label)) (v w : Value) :
    setScalar other w (setScalar label v ss) = setScalar label v (setScalar other w ss) := by
  induction ss with
  | nil => simp at hmem
  | cons s ss ih =>
      by_cases hlabel : s.label = label
      · have hother : s.label ≠ other := by rw [hlabel]; exact hne
        simp [setScalar, hlabel, hne]
      · have hrest : label ∈ ss.map (·.label) := by
          simpa [Ne.symm hlabel] using hmem
        by_cases hother : s.label = other
        · simp [setScalar, hother, Ne.symm hne]
        · simp [setScalar, hlabel, hother, ih hrest]

theorem hasScalar_register_self (hv : v.isList = false) : (store.register label v).HasScalar label := by
  rw [register_single store label hv, HasScalar, registerScalar, labels_setScalar]
  split
  case isTrue h => exact h
  case isFalse => simp

theorem HasScalar.register (h : store.HasScalar label) (hw : w.isList = false) :
    (store.register other w).HasScalar label := by
  rw [register_single store other hw, HasScalar, registerScalar, labels_setScalar]
  split
  · exact h
  · exact List.mem_append_left _ h

/-- The later of two values of a label is the one that counts. -/
theorem register_register_self (hv : v.isList = false) (hw : w.isList = false) :
    (store.register label w).register label v = store.register label v := by
  simp only [register_single _ label hv, register_single _ label hw, registerScalar,
    setScalar_setScalar_self, List.filter_filter, Bool.and_self]

/-- **Two labels.** Their values may be registered in either order, if one has its place. -/
theorem register_comm (hne : label ≠ other) (h : store.HasScalar label) (hv : v.isList = false)
    (hw : w.isList = false) :
    (store.register label v).register other w = (store.register other w).register label v := by
  simp only [register_single _ label hv, register_single _ other hw, registerScalar, Store.mk.injEq]
  exact ⟨setScalar_comm hne h v w, List.filter_comm _ _ _⟩

/-! ### Many of them -/

theorem HasScalar.registerAll (h : store.HasScalar label)
    (single : ∀ entry ∈ entries, entry.2.isList = false) :
    (store.registerAll entries).HasScalar label := by
  induction entries generalizing store with
  | nil => exact h
  | cons entry entries ih =>
      rw [List.forall_mem_cons] at single
      exact ih (h.register single.1) single.2

/-- A value is written over by a later one of its label. -/
theorem registerAll_overwritten (h : store.HasScalar label) (hv : v.isList = false)
    (single : ∀ entry ∈ entries, entry.2.isList = false) (later : label ∈ entries.map (·.1)) :
    (store.register label v).registerAll entries = store.registerAll entries := by
  induction entries generalizing store with
  | nil => simp at later
  | cons entry entries ih =>
      obtain ⟨other, w⟩ := entry
      rw [List.forall_mem_cons] at single
      rw [registerAll_cons, registerAll_cons]
      by_cases hlabel : label = other
      · subst hlabel
        rw [register_register_self single.1 hv]
      · have hlater : label ∈ entries.map (·.1) := by simpa [hlabel] using later
        rw [register_comm hlabel h hv single.1, ih (h.register single.1) single.2 hlater]

/-- A value that no later one of its label follows may as well be registered last. -/
theorem registerAll_put_off (h : store.HasScalar label) (hv : v.isList = false)
    (single : ∀ entry ∈ entries, entry.2.isList = false) (last : label ∉ entries.map (·.1)) :
    (store.register label v).registerAll entries = (store.registerAll entries).register label v := by
  induction entries generalizing store with
  | nil => rfl
  | cons entry entries ih =>
      obtain ⟨other, w⟩ := entry
      rw [List.forall_mem_cons] at single
      simp only [List.map_cons, List.mem_cons, not_or] at last
      rw [registerAll_cons, registerAll_cons, register_comm last.1 h hv single.1,
        ih (h.register single.1) single.2 last.2]

/-- **Again.** Single values that are all registered a second time change nothing. -/
theorem registerAll_again (store : Store) (single : ∀ entry ∈ entries, entry.2.isList = false) :
    (store.registerAll entries).registerAll entries = store.registerAll entries := by
  induction entries generalizing store with
  | nil => rfl
  | cons entry entries ih =>
      obtain ⟨label, v⟩ := entry
      rw [List.forall_mem_cons] at single
      obtain ⟨hv, hothers⟩ := single
      have hfirst : (store.register label v).HasScalar label := hasScalar_register_self hv
      have hagain := ih (store.register label v) hothers
      rw [registerAll_cons, registerAll_cons]
      by_cases hlater : label ∈ entries.map (·.1)
      · -- The second run goes back to this value, and on to the later one.
        rw [registerAll_overwritten (hfirst.registerAll hothers) hv hothers hlater]
        exact hagain
      · -- The label has this value still.
        have hstill : ((store.register label v).registerAll entries).register label v =
            (store.register label v).registerAll entries := by
          rw [← registerAll_put_off hfirst hv hothers hlater, register_register_self hv hv]
        rw [hstill]
        exact hagain

end Store

namespace Case

/-- Parameters that stand for entries give them their values. -/
theorem Parameter.StandsFor.value_eq {p : Parameter} {entry : String × Value}
    (h : p.StandsFor entry) : entry.2 = p.value := by
  cases h <;> rfl

theorem single_of_standsFor {ps : List Parameter} {entries : List (String × Value)}
    (good : List.Forall₂ Parameter.StandsFor ps entries)
    (single : ∀ p ∈ ps, p.value.isList = false) : ∀ entry ∈ entries, entry.2.isList = false := by
  induction good with
  | nil => simp
  | cons hp _ ih =>
      rw [List.forall_mem_cons] at single ⊢
      exact ⟨by rw [hp.value_eq]; exact single.1, ih single.2⟩

/-- A case whose parameters all stand for something, none of them with a list, is applied without a
fault; and to the store that it leaves it may be applied again, which changes nothing. What the store
was before does not matter, nor how often a label comes. -/
theorem applyTo_again (c : Case) (store : Store)
    (good : ∀ p ∈ c.parameters, ∃ entry, p.StandsFor entry)
    (single : ∀ p ∈ c.parameters, p.value.isList = false) :
    c.fault? = none ∧ c.applyTo (c.applyTo store) = c.applyTo store := by
  obtain ⟨entries, hentries⟩ | ⟨before, p, after, entries, report, hcut, -, refused⟩ :=
    good_or_cut 1 c.parameters
  · have hresolved : c.resolved = (entries, none) := resolveFrom_of_good hentries 1
    rw [fault?, applyTo, applyTo, hresolved]
    exact ⟨rfl, store.registerAll_again (single_of_standsFor hentries single)⟩
  · obtain ⟨entry, hentry⟩ := good p (by simp [hcut])
    exact absurd hentry refused.not_standsFor

/-- It is otherwise with a list, which is one more sweep every time. -/
example : Store.registerAll (.registerAll .empty [("a", .list [])]) [("a", .list [])] =
    ⟨[], [⟨"a", []⟩, ⟨"a", []⟩]⟩ := rfl

/-- A case in which a field comes by its key first and by its label later. -/
def repeating : Case where
  base := none
  parameters := [⟨some " N_Cells", none, .int 2⟩, ⟨none, some "a", .int 3⟩,
    ⟨none, some "number of cells for x, y, z directions", .int 4⟩]

/-- The case in a store in which one of its labels has a sweep, and another label has its place. -/
theorem applyTo_again_repeating :
    let once : Store :=
      ⟨[⟨"b", .int 1⟩, ⟨"number of cells for x, y, z directions", .int 4⟩, ⟨"a", .int 3⟩], []⟩
    repeating.applyTo ⟨[⟨"b", .int 1⟩], [⟨"a", [.int 5, .int 6]⟩]⟩ = once ∧
      repeating.applyTo once = once := by
  intro once
  have honce : repeating.applyTo ⟨[⟨"b", .int 1⟩], [⟨"a", [.int 5, .int 6]⟩]⟩ = once := rfl
  have hkey : Field.ofKey? " N_Cells" = some .nCells := by decide +kernel
  have hgood : ∀ p ∈ repeating.parameters, ∃ entry, p.StandsFor entry := by
    simp only [repeating, List.forall_mem_cons]
    exact ⟨⟨_, .field hkey⟩, ⟨_, .label⟩, ⟨_, .label⟩, by simp⟩
  have hsingle : ∀ p ∈ repeating.parameters, p.value.isList = false := by
    simp [repeating, Value.isList]
  obtain ⟨-, hagain⟩ :=
    applyTo_again repeating ⟨[⟨"b", .int 1⟩], [⟨"a", [.int 5, .int 6]⟩]⟩ hgood hsingle
  rw [honce] at hagain
  exact ⟨honce, hagain⟩

end Case

end SolverDeck
