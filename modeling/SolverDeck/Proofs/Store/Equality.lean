import SolverDeck.Deck
import SolverDeck.Proofs.Value.Equality

/-!
# Equality of stores

Stores are compared as the values in them are: they are equal if they have the same representative and
there is no not-a-number at any depth (`Store.beq_iff`). So equality is symmetric and transitive, but
a store that holds a not-a-number is not even equal to itself.

Equal stores need not make the same decks. A deck tells the zeros of both signs apart, so of two equal
stores only the very same one makes the same decks, unless neither makes any (`Store.plan_eq_iff`). The
texts of two decks are compared line by line for that. A line has no end that could be found in it, but
with equal labels and equal values the two texts stay in step until they first differ
(`Deck.join_lines_inj`).
-/

namespace SolverDeck

/-! ### Representatives -/

/-- The scalar with the representative of its value. -/
def Scalar.representative (s : Scalar) : Scalar :=
  ⟨s.label, s.value.representative⟩

/-- The sweep with the representatives of its values. -/
def Sweep.representative (s : Sweep) : Sweep :=
  ⟨s.label, s.values.map Value.representative⟩

theorem Scalar.beq_iff (s t : Scalar) : (s == t) = true ↔
    s.representative = t.representative ∧ s.value.Comparable ∧ t.value.Comparable := by
  have hbeq : (s == t) = (s.label == t.label && s.value == t.value) := rfl
  rw [hbeq, Bool.and_eq_true, beq_iff_eq, Value.beq_iff, representative, representative,
    Scalar.mk.injEq, and_assoc]

theorem Sweep.beq_iff (s t : Sweep) : (s == t) = true ↔
    s.representative = t.representative ∧ (∀ v ∈ s.values, v.Comparable) ∧
      ∀ v ∈ t.values, v.Comparable := by
  have hbeq : (s == t) = (s.label == t.label && s.values == t.values) := rfl
  rw [hbeq, Bool.and_eq_true, beq_iff_eq, list_beq_iff fun v _ => v.beq_iff, representative,
    representative, Sweep.mk.injEq, and_assoc]

namespace Store

variable {a b c : Store}

/-- The store with the representatives of all values. -/
def representative (store : Store) : Store where
  scalars := store.scalars.map Scalar.representative
  sweeps := store.sweeps.map Sweep.representative

/-- The floating-point numbers in a store, at any depth of its scalars and of the values of its
sweeps. -/
def reals (store : Store) : List Binary64 :=
  store.scalars.flatMap (fun s => s.value.reals) ++
    store.sweeps.flatMap fun s => s.values.flatMap Value.reals

/-- No number in the store is a not-a-number. -/
def Comparable (store : Store) : Prop :=
  ∀ x ∈ store.reals, x.isNaN = false

theorem forall_mem_reals {p : Binary64 → Prop} : (∀ x ∈ a.reals, p x) ↔
    (∀ s ∈ a.scalars, ∀ x ∈ s.value.reals, p x) ∧
      ∀ s ∈ a.sweeps, ∀ v ∈ s.values, ∀ x ∈ v.reals, p x := by
  rw [reals, List.forall_mem_append, List.forall_mem_flatMap, List.forall_mem_flatMap]
  simp only [List.forall_mem_flatMap]

/-- **Equality of stores.** -/
theorem beq_iff (a b : Store) : (a == b) = true ↔
    a.representative = b.representative ∧ a.Comparable ∧ b.Comparable := by
  have hbeq : (a == b) = (a.scalars == b.scalars && a.sweeps == b.sweeps) := rfl
  rw [hbeq, Bool.and_eq_true, list_beq_iff fun s _ => s.beq_iff, list_beq_iff fun s _ => s.beq_iff,
    representative, representative, Store.mk.injEq, Comparable, Comparable, forall_mem_reals,
    forall_mem_reals]
  unfold Value.Comparable
  tauto

theorem beq_self_iff : (a == a) = true ↔ a.Comparable := by
  rw [beq_iff, and_self_iff, eq_self_iff_true, true_and]

theorem beq_symm (h : (a == b) = true) : (b == a) = true := by
  obtain ⟨hsame, ha, hb⟩ := (beq_iff a b).mp h
  exact (beq_iff b a).mpr ⟨hsame.symm, hb, ha⟩

theorem beq_trans (hab : (a == b) = true) (hbc : (b == c) = true) : (a == c) = true := by
  obtain ⟨hsame, ha, -⟩ := (beq_iff a b).mp hab
  obtain ⟨hsame', -, hc⟩ := (beq_iff b c).mp hbc
  exact (beq_iff a c).mpr ⟨hsame.trans hsame', ha, hc⟩

theorem representative_of_no_minusZero (h : ∀ x ∈ a.reals, x.isMinusZero = false) :
    a.representative = a := by
  obtain ⟨hscalars, hsweeps⟩ := forall_mem_reals.mp h
  have hscalar : ∀ s ∈ a.scalars, s.representative = s := by
    intro s hs
    rw [Scalar.representative, Value.representative_of_no_minusZero (hscalars s hs)]
  have hsweep : ∀ s ∈ a.sweeps, s.representative = s := by
    intro s hs
    have hvalue : ∀ v ∈ s.values, v.representative = v := fun v hv =>
      Value.representative_of_no_minusZero (hsweeps s hs v hv)
    rw [Sweep.representative, List.map_congr_left hvalue, List.map_id']
  rw [representative, List.map_congr_left hscalar, List.map_congr_left hsweep, List.map_id',
    List.map_id']

end Store

/-! ### Texts of decks -/

namespace Deck

/-- **Lines.** Parameters with the same labels and with values of the same representatives are the
same if their lines are. -/
theorem join_lines_inj {es fs : List (String × Value)}
    (hsame : es.map (fun e => (e.1, e.2.representative)) =
      fs.map fun f => (f.1, f.2.representative))
    (heq : String.join (lines es) = String.join (lines fs)) : es = fs := by
  induction es generalizing fs with
  | nil =>
      rw [List.map_nil, eq_comm, List.map_eq_nil_iff] at hsame
      exact hsame.symm
  | cons e es ih =>
      cases fs with
      | nil => cases hsame
      | cons f fs =>
          obtain ⟨label, v⟩ := e
          obtain ⟨label', w⟩ := f
          simp only [List.map_cons, List.cons.injEq, Prod.mk.injEq] at hsame
          obtain ⟨⟨rfl, hvalue⟩, hrest⟩ := hsame
          have hchars := congrArg String.toList heq
          simp only [lines, List.map_cons, line, String.join_cons, String.toList_append,
            List.append_assoc] at hchars
          have hshown := List.append_cancel_left (List.append_cancel_left hchars)
          obtain ⟨rfl, hlater⟩ := Value.display_append_inj hvalue hshown
          rw [ih hrest (String.toList_inj.mp (List.append_cancel_left hlater))]

/-- Scalars, and the value of a sweep, can be told from those with the same representatives by the
text of a deck. -/
theorem text_inj {ss ts : List Scalar} {swept swept' : Option (String × Value)}
    (hscalars : ss.map Scalar.representative = ts.map Scalar.representative)
    (hswept : swept.map (fun e => (e.1, e.2.representative)) =
      swept'.map fun e => (e.1, e.2.representative))
    (heq : text ss swept = text ts swept') : ss = ts ∧ swept = swept' := by
  have hlength : ss.length = ts.length := by simpa using congrArg List.length hscalars
  have hentries := congrArg (List.map fun s => (s.label, s.value)) hscalars
  rw [List.map_map, List.map_map] at hentries
  have hall : ss.map (fun s => (s.label, s.value)) ++ swept.toList =
      ts.map (fun s => (s.label, s.value)) ++ swept'.toList := by
    refine join_lines_inj ?_ heq
    rw [List.map_append, List.map_append, List.map_map, List.map_map, ← Option.toList_map,
      ← Option.toList_map, hswept]
    exact congrArg (· ++ _) hentries
  obtain ⟨hfirst, hlast⟩ := List.append_inj hall (by simpa using hlength)
  refine ⟨List.map_injective_iff.mpr ?_ hfirst, by simpa using congrArg List.head? hlast⟩
  rintro ⟨label, v⟩ ⟨label', w⟩ hpair
  cases hpair
  rfl

end Deck

/-! ### Plans -/

namespace Store

variable {a b : Store}

theorem labels_eq_of_representative_eq {ss ts : List Sweep}
    (h : ss.map Sweep.representative = ts.map Sweep.representative) :
    ss.map (·.label) = ts.map (·.label) := by
  have hlabels := congrArg (List.map (·.label)) h
  rwa [List.map_map, List.map_map] at hlabels

theorem exists_sweep_of_representative_eq {label : String} {vs : List Value} {sweeps : List Sweep}
    (h : [⟨label, vs⟩].map Sweep.representative = sweeps.map Sweep.representative) :
    ∃ ws, sweeps = [⟨label, ws⟩] ∧
      vs.map Value.representative = ws.map Value.representative := by
  obtain ⟨⟨label', ws⟩, rfl, hsweep⟩ := List.map_eq_singleton_iff.mp h.symm
  obtain ⟨rfl, hvalues⟩ : label' = label ∧ ws.map Value.representative =
    vs.map Value.representative := Sweep.mk.inj hsweep
  exact ⟨ws, rfl, hvalues.symm⟩

/-- The decks of a sweep tell its values and the scalars apart from those with the same
representatives. There has to be a value, or there is no deck to show the scalars. -/
theorem eq_of_sweepDecks_eq {base label : String} {vs ws : List Value}
    (hscalars : a.scalars.map Scalar.representative = b.scalars.map Scalar.representative)
    (hvalues : vs.map Value.representative = ws.map Value.representative) (hne : vs ≠ [])
    (heq : vs.mapIdx (a.sweepDeck base label) = ws.mapIdx (b.sweepDeck base label)) :
    a.scalars = b.scalars ∧ vs = ws := by
  have hlength : vs.length = ws.length := by simpa using congrArg List.length hvalues
  have hat : ∀ (i : ℕ) (hv : i < vs.length) (hw : i < ws.length),
      a.scalars = b.scalars ∧ vs[i] = ws[i] := by
    intro i hv hw
    have hsame := List.getElem_of_eq hvalues (by simpa using hv)
    have hdeck := List.getElem_of_eq heq (by simpa using hv)
    rw [List.getElem_map, List.getElem_map] at hsame
    rw [List.getElem_mapIdx, List.getElem_mapIdx] at hdeck
    obtain ⟨hss, hswept⟩ := Deck.text_inj hscalars (by simp [hsame]) (congrArg Deck.content hdeck)
    exact ⟨hss, (Prod.mk.inj (Option.some.inj hswept)).2⟩
  have hpos : 0 < vs.length := List.length_pos_iff.mpr hne
  exact ⟨(hat 0 hpos (hlength ▸ hpos)).1, List.ext_getElem hlength fun i hv hw => (hat i hv hw).2⟩

/-- A store that makes decks can be told by them from those with the same representative. -/
theorem eq_of_plan_eq (h : a.representative = b.representative) {base : String}
    (hplan : a.plan base = b.plan base) (hdecks : (a.plan base).decks ≠ []) : a = b := by
  obtain ⟨ss, sweeps⟩ := a
  obtain ⟨ts, sweeps'⟩ := b
  obtain ⟨hscalars, hsweeps⟩ := Store.mk.inj h
  rcases sweeps with _ | ⟨⟨label, vs⟩, _ | ⟨s, more⟩⟩
  · obtain rfl : sweeps' = [] := List.map_eq_nil_iff.mp hsweeps.symm
    have htext := congrArg Deck.content (Plan.single.inj hplan)
    obtain ⟨rfl, -⟩ := Deck.text_inj hscalars rfl htext
    rfl
  · obtain ⟨ws, rfl, hvalues⟩ := exists_sweep_of_representative_eq hsweeps
    have hne : vs ≠ [] := by
      rintro rfl
      exact hdecks rfl
    obtain ⟨rfl, rfl⟩ : ss = ts ∧ vs = ws :=
      eq_of_sweepDecks_eq hscalars hvalues hne (Plan.sweep.inj hplan).2
    rfl
  · exact absurd rfl hdecks

/-- What a plan without decks says is in the labels. -/
theorem plan_eq_of_no_decks (h : a.representative = b.representative) {base : String}
    (hdecks : (a.plan base).decks = []) : a.plan base = b.plan base := by
  obtain ⟨ss, sweeps⟩ := a
  obtain ⟨ts, sweeps'⟩ := b
  obtain ⟨-, hsweeps⟩ := Store.mk.inj h
  rcases sweeps with _ | ⟨⟨label, vs⟩, _ | ⟨s, more⟩⟩
  · cases hdecks
  · obtain ⟨ws, rfl, hvalues⟩ := exists_sweep_of_representative_eq hsweeps
    obtain rfl : vs = [] := List.mapIdx_eq_nil_iff.mp hdecks
    obtain rfl : ws = [] := List.map_eq_nil_iff.mp hvalues.symm
    rfl
  · have hlabels := labels_eq_of_representative_eq hsweeps
    rcases sweeps' with _ | ⟨t, _ | ⟨t', more'⟩⟩
    · cases hlabels
    · cases hlabels
    · exact congrArg Plan.rejected hlabels

/-- **Plans.** Stores with the same representative make the same plan only if they are the same, or
if there are no decks. -/
theorem plan_eq_iff (h : a.representative = b.representative) (base : String) :
    a.plan base = b.plan base ↔ a = b ∨ (a.plan base).decks = [] := by
  constructor
  · intro hplan
    by_cases hdecks : (a.plan base).decks = []
    · exact .inr hdecks
    · exact .inl (eq_of_plan_eq h hplan hdecks)
  · rintro (rfl | hdecks)
    · rfl
    · exact plan_eq_of_no_decks h hdecks

/-- Equality of stores compares floating-point numbers as numbers, and integers with integers only. It
is symmetric and transitive, and a store equals itself just if there is no not-a-number in it. Equal
stores without a negative zero make the same decks, for every base. In general, equal stores make the
same decks just if they are the same store, signs of zeros included, or if they make none at all. -/
theorem equality_laws :
    (∀ x y : Binary64, (Value.real x == Value.real y) = true ↔ x.SameNumber y) ∧
    (∀ (n : Int64) (x : Binary64),
      (Value.int n == Value.real x) = false ∧ (Value.real x == Value.int n) = false) ∧
    (∀ a b : Store, (a == b) = true → (b == a) = true) ∧
    (∀ a b c : Store, (a == b) = true → (b == c) = true → (a == c) = true) ∧
    (∀ a : Store, (a == a) = true ↔ ∀ x ∈ a.reals, x.isNaN = false) ∧
    ∀ a b : Store, (a == b) = true →
      ((∀ x ∈ a.reals ++ b.reals, x.isMinusZero = false) → ∀ base, a.plan base = b.plan base) ∧
      ∀ base, a.plan base = b.plan base ↔ a = b ∨ (a.plan base).decks = [] := by
  refine ⟨fun x y => Binary64.beq_iff_sameNumber, fun n x => ⟨rfl, rfl⟩, fun a b => beq_symm,
    fun a b c => beq_trans, fun a => beq_self_iff, ?_⟩
  intro a b h
  obtain ⟨hsame, -, -⟩ := (beq_iff a b).mp h
  refine ⟨?_, plan_eq_iff hsame⟩
  intro hplus base
  obtain ⟨ha, hb⟩ := List.forall_mem_append.mp hplus
  rw [representative_of_no_minusZero ha, representative_of_no_minusZero hb] at hsame
  rw [hsame]

/-- A store with a zero in a scalar, and another one deep inside the value of a sweep. -/
def withZeros (x y : Binary64) : Store :=
  ⟨[⟨"g", .real x⟩], [⟨"h", [.list [.int 0, .list [.real y]]]⟩]⟩

/-- With zeros of both signs, stores are equal and their decks are not. A scalar that was registered
twice leaves nothing to see. -/
theorem equality_laws_zeros :
    (withZeros ⟨0⟩ (-⟨0⟩) == withZeros (-⟨0⟩) ⟨0⟩) = true ∧
      (withZeros (-⟨0⟩) ⟨0⟩ == withZeros ⟨0⟩ (-⟨0⟩)) = true ∧
      (withZeros ⟨0⟩ (-⟨0⟩) == withZeros ⟨0⟩ (-⟨0⟩)) = true ∧
      (withZeros ⟨0⟩ (-⟨0⟩)).plan "b" ≠ (withZeros (-⟨0⟩) ⟨0⟩).plan "b" ∧
      ∀ base, ((empty.register "g" (.int 1)).register "g" (.real ⟨0⟩)).plan base =
        (empty.register "g" (.real ⟨0⟩)).plan base := by
  obtain ⟨-, -, hsymm, htrans, -, hplans⟩ := equality_laws
  have hzeros : (withZeros ⟨0⟩ (-⟨0⟩) == withZeros (-⟨0⟩) ⟨0⟩) = true := by decide +kernel
  have htwice : ((empty.register "g" (.int 1)).register "g" (.real ⟨0⟩) ==
      empty.register "g" (.real ⟨0⟩)) = true := by decide +kernel
  refine ⟨hzeros, hsymm _ _ hzeros, htrans _ _ _ hzeros (hsymm _ _ hzeros), ?_,
    (hplans _ _ htwice).1 (by decide +kernel)⟩
  rw [Ne, (hplans _ _ hzeros).2]
  rintro (hsame | hnone)
  · have hshown := congrArg (fun store => store.scalars.map fun s => s.value.display) hsame
    exact absurd hshown (by decide +kernel)
  · exact absurd hnone (by decide +kernel)

end Store

end SolverDeck
