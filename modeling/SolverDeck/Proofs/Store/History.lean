import Mathlib.Data.List.DropRight
import Mathlib.Data.List.Induction
import SolverDeck.Proofs.Store.Coherence

/-!
# Stores as functions of their history

Registering removes from one list of the store while it adds to the other or writes in
place, so the place of an entry depends on all that was registered before. Looking back
on the whole *history* it can be said at once what the store holds:

* `History.sweeps` — the lists under whose label nothing but lists came later;
* `History.trail` — the single values of a label since the last list under it;
* `History.scalars` — the last value of each label that has a trail, standing where the
  trail begins.

`Store.registerAll_empty` says that these are the sweeps and the scalars that registering
one after the other leaves. It is an induction over the history from its end: every view
above has a lemma for one more registration.
-/

namespace SolverDeck

/-- What was registered, first to last: labels with values. -/
abbrev History := List (String × Value)

namespace History

/-! ### Looking back -/

/-- The registrations of a label since the last list under it, each with its place in the
history. It is empty if the last of them is a list or there are none. -/
def trail (h : History) (label : String) : List ((String × Value) × Nat) :=
  (h.zipIdx.filter fun entry => entry.1.1 == label).rtakeWhile fun entry => !entry.1.2.isList

/-- Where the trail of a label begins. -/
def seat? (h : History) (label : String) : Option Nat :=
  (h.trail label).head?.map (·.2)

/-- What was registered last under a label. -/
def last? (h : History) (label : String) : Option Value :=
  (h.filter fun entry => entry.1 == label).getLast?.map (·.2)

/-- The scalar that stands for a registration and its place: there is one where the trail
of a label begins, and it holds the last value of the label. -/
def scalarAt? (h : History) (entry : (String × Value) × Nat) : Option Scalar :=
  if h.seat? entry.1.1 = some entry.2 then (h.last? entry.1.1).map fun v => ⟨entry.1.1, v⟩
  else none

/-- The scalars that a history leaves, in the order in which their trails begin. -/
def scalars (h : History) : List Scalar :=
  h.zipIdx.filterMap h.scalarAt?

/-- The sweeps that a history leaves: its lists but for those after which a single value
comes under the same label. -/
def sweeps : History → List Sweep
  | [] => []
  | (label, .list values) :: later =>
      if later.any fun entry => entry.1 == label && !entry.2.isList then sweeps later
      else ⟨label, values⟩ :: sweeps later
  | _ :: later => sweeps later

/-- The store that a history leaves. -/
def store (h : History) : Store :=
  ⟨h.scalars, h.sweeps⟩

/-! ### One more registration -/

theorem zipIdx_concat (h : History) (entry : String × Value) :
    (h ++ [entry]).zipIdx = h.zipIdx ++ [(entry, h.length)] := by
  rw [List.zipIdx_append, Nat.zero_add, List.zipIdx_singleton]

theorem trail_concat_ne (h : History) {label other : String} (value : Value)
    (hne : label ≠ other) : trail (h ++ [(label, value)]) other = h.trail other := by
  unfold trail
  rw [zipIdx_concat, List.filter_append, List.filter_singleton, beq_false_of_ne hne, cond_false,
    List.append_nil]

theorem trail_concat_self (h : History) (label : String) (value : Value) :
    trail (h ++ [(label, value)]) label =
      if value.isList then [] else h.trail label ++ [((label, value), h.length)] := by
  unfold trail
  rw [zipIdx_concat, List.filter_append, List.filter_singleton, beq_self_eq_true, cond_true,
    List.rtakeWhile_concat]
  cases value.isList <;> rfl

theorem seat?_concat_ne (h : History) {label other : String} (value : Value)
    (hne : label ≠ other) : seat? (h ++ [(label, value)]) other = h.seat? other := by
  rw [seat?, trail_concat_ne h value hne, seat?]

theorem seat?_concat_list (h : History) (label : String) (values : List Value) :
    seat? (h ++ [(label, .list values)]) label = none := by
  rw [seat?, trail_concat_self, if_pos (show (Value.list values).isList = true from rfl)]
  rfl

/-- A single value begins a trail only if there is none. -/
theorem seat?_concat_single (h : History) (label : String) {value : Value}
    (hv : value.isList = false) :
    seat? (h ++ [(label, value)]) label = some ((h.seat? label).getD h.length) := by
  rw [seat?, trail_concat_self, hv, if_neg Bool.false_ne_true, List.head?_append, seat?]
  cases (h.trail label).head? <;> rfl

theorem last?_concat_ne (h : History) {label other : String} (value : Value)
    (hne : label ≠ other) : last? (h ++ [(label, value)]) other = h.last? other := by
  unfold last?
  rw [List.filter_append, List.filter_singleton, beq_false_of_ne hne, cond_false,
    List.append_nil]

@[simp] theorem last?_concat_self (h : History) (label : String) (value : Value) :
    last? (h ++ [(label, value)]) label = some value := by
  unfold last?
  rw [List.filter_append, List.filter_singleton, beq_self_eq_true, cond_true,
    List.getLast?_concat]
  rfl

theorem sweeps_concat_list (h : History) (label : String) (values : List Value) :
    sweeps (h ++ [(label, .list values)]) = h.sweeps ++ [⟨label, values⟩] := by
  induction h with
  | nil => rfl
  | cons entry h ih =>
      obtain ⟨other, value⟩ := entry
      cases value with
      | list items =>
          have hlist : (Value.list values).isList = true := rfl
          simp only [List.cons_append, sweeps, List.any_append, List.any_cons, List.any_nil, ih,
            hlist, Bool.not_true, Bool.and_false, Bool.or_false]
          split <;> rfl
      | bool | int | real | text => exact ih

/-- A single value takes the sweeps of its label away. -/
theorem sweeps_concat_single (h : History) (label : String) {value : Value}
    (hv : value.isList = false) :
    sweeps (h ++ [(label, value)]) = h.sweeps.filter fun sweep => sweep.label != label := by
  induction h with
  | nil =>
      cases value with
      | list => cases hv
      | bool | int | real | text => rfl
  | cons entry h ih =>
      obtain ⟨other, v⟩ := entry
      cases v with
      | list items =>
          simp only [List.cons_append, sweeps, List.any_append, List.any_cons, List.any_nil, ih,
            hv, Bool.not_false, Bool.and_true, Bool.or_false]
          by_cases hlabel : label = other
          · subst hlabel
            rw [beq_self_eq_true, Bool.or_true, if_pos rfl]
            split
            · rfl
            · rw [List.filter_cons_of_neg (by simp)]
          · rw [beq_false_of_ne hlabel, Bool.or_false]
            split
            · rfl
            · rw [List.filter_cons_of_pos (by simpa using fun e => hlabel e.symm)]
      | bool | int | real | text => exact ih

/-! ### Where scalars stand -/

/-- A seat is the place of a registration of the label. -/
theorem exists_mem_of_seat? {h : History} {label : String} {i : Nat}
    (hs : h.seat? label = some i) : ∃ value, ((label, value), i) ∈ h.zipIdx := by
  obtain ⟨⟨⟨other, value⟩, j⟩, hhead, rfl⟩ := Option.map_eq_some_iff.mp hs
  have htrail := List.mem_of_mem_head? (Option.mem_def.mpr hhead)
  obtain ⟨hmem, hlabel⟩ := List.mem_filter.mp ((List.rtakeWhile_suffix _ _).subset htrail)
  have : other = label := by simpa using hlabel
  exact ⟨value, this ▸ hmem⟩

theorem exists_last?_of_mem {h : History} {label : String} {value : Value}
    (hmem : (label, value) ∈ h) : ∃ v, h.last? label = some v := by
  have hmem' : (label, value) ∈ h.filter fun entry => entry.1 == label :=
    List.mem_filter.mpr ⟨hmem, beq_self_eq_true label⟩
  rw [last?, List.getLast?_eq_some_getLast (List.ne_nil_of_mem hmem')]
  exact ⟨_, rfl⟩

/-- The labels of the scalars are those that have a seat. -/
theorem mem_labels_scalars {h : History} {label : String} :
    label ∈ h.scalars.map (·.label) ↔ ∃ i, h.seat? label = some i := by
  constructor
  · intro hmem
    obtain ⟨scalar, hscalar, rfl⟩ := List.mem_map.mp hmem
    obtain ⟨entry, _, hat⟩ := List.mem_filterMap.mp hscalar
    unfold scalarAt? at hat
    split at hat
    case _ hseat =>
        obtain ⟨_, _, rfl⟩ := Option.map_eq_some_iff.mp hat
        exact ⟨entry.2, hseat⟩
    case _ => cases hat
  · rintro ⟨i, hi⟩
    obtain ⟨value, hmem⟩ := exists_mem_of_seat? hi
    obtain ⟨v, hv⟩ := exists_last?_of_mem (List.fst_mem_of_mem_zipIdx hmem)
    refine List.mem_map.mpr ⟨⟨label, v⟩, List.mem_filterMap.mpr ⟨_, hmem, ?_⟩, rfl⟩
    rw [scalarAt?, if_pos hi, hv]
    rfl

/-- What is registered under another label does not matter to a scalar. -/
theorem scalarAt?_concat_ne (h : History) {label : String} (value : Value)
    {entry : (String × Value) × Nat} (hne : label ≠ entry.1.1) :
    scalarAt? (h ++ [(label, value)]) entry = h.scalarAt? entry := by
  unfold scalarAt?
  rw [seat?_concat_ne h value hne, last?_concat_ne h value hne]

theorem label_of_scalarAt? {h : History} {entry : (String × Value) × Nat} {scalar : Scalar}
    (hat : h.scalarAt? entry = some scalar) : scalar.label = entry.1.1 := by
  unfold scalarAt? at hat
  split at hat
  case _ =>
      obtain ⟨_, _, rfl⟩ := Option.map_eq_some_iff.mp hat
      rfl
  case _ => cases hat

theorem scalars_concat_list (h : History) (label : String) (values : List Value) :
    scalars (h ++ [(label, .list values)]) =
      h.scalars.filter fun scalar => scalar.label != label := by
  -- A list ends the trail of its label, so that neither it nor what came before has a seat.
  have hlast : scalarAt? (h ++ [(label, .list values)]) ((label, .list values), h.length) = none :=
    if_neg (by rw [seat?_concat_list]; nofun)
  unfold scalars
  rw [zipIdx_concat, List.filterMap_append, List.filterMap_cons_none hlast, List.filterMap_nil,
    List.append_nil, List.filter_filterMap]
  refine List.filterMap_congr fun entry _ => ?_
  by_cases hlabel : label = entry.1.1
  · subst hlabel
    have hnone : scalarAt? (h ++ [(entry.1.1, .list values)]) entry = none :=
      if_neg (by rw [seat?_concat_list]; nofun)
    rw [hnone]
    cases hat : h.scalarAt? entry with
    | none => rfl
    | some scalar =>
        rw [Option.filter_some_neg (by simp [label_of_scalarAt? hat])]
  · rw [scalarAt?_concat_ne h _ hlabel]
    cases hat : h.scalarAt? entry with
    | none => rfl
    | some scalar =>
        have : scalar.label ≠ label := fun e => hlabel (e ▸ label_of_scalarAt? hat)
        rw [Option.filter_some_pos (by simpa using this)]

/-- A label without a trail gets its scalar at the end. -/
theorem scalars_concat_new (h : History) (label : String) {value : Value}
    (hv : value.isList = false) (hs : h.seat? label = none) :
    scalars (h ++ [(label, value)]) = h.scalars ++ [⟨label, value⟩] := by
  have hseat : seat? (h ++ [(label, value)]) label = some h.length := by
    rw [seat?_concat_single h label hv, hs]
    rfl
  have hlast : scalarAt? (h ++ [(label, value)]) ((label, value), h.length) =
      some ⟨label, value⟩ := by
    rw [scalarAt?, if_pos hseat, last?_concat_self]
    rfl
  unfold scalars
  rw [zipIdx_concat, List.filterMap_append, List.filterMap_cons_some hlast, List.filterMap_nil]
  congr 1
  refine List.filterMap_congr fun entry hentry => ?_
  by_cases hlabel : label = entry.1.1
  · subst hlabel
    have hlt : entry.2 < h.length := List.snd_lt_of_mem_zipIdx hentry
    have hne : ¬ h.length = entry.2 := fun e => absurd (e ▸ hlt) (Nat.lt_irrefl _)
    rw [scalarAt?, scalarAt?, hseat, hs, if_neg (fun e => hne (Option.some.inj e)),
      if_neg nofun]
  · exact scalarAt?_concat_ne h value hlabel

/-- A label with a trail keeps its place and gets a new value. -/
theorem scalars_concat_again (h : History) (label : String) {value : Value} {i : Nat}
    (hv : value.isList = false) (hs : h.seat? label = some i) :
    scalars (h ++ [(label, value)]) =
      h.scalars.map fun scalar => if scalar.label = label then ⟨label, value⟩ else scalar := by
  -- The trail began earlier, so the new registration gets no scalar of its own.
  have hseat : seat? (h ++ [(label, value)]) label = some i := by
    rw [seat?_concat_single h label hv, hs]
    rfl
  have hlt : i < h.length := by
    obtain ⟨_, hmem⟩ := exists_mem_of_seat? hs
    exact List.snd_lt_of_mem_zipIdx hmem
  have hlast : scalarAt? (h ++ [(label, value)]) ((label, value), h.length) = none := by
    refine if_neg fun e => ?_
    rw [hseat] at e
    exact absurd (Option.some.inj e ▸ hlt) (Nat.lt_irrefl _)
  unfold scalars
  rw [zipIdx_concat, List.filterMap_append, List.filterMap_cons_none hlast, List.filterMap_nil,
    List.append_nil, List.map_filterMap]
  refine List.filterMap_congr fun entry hentry => ?_
  by_cases hlabel : label = entry.1.1
  · subst hlabel
    obtain ⟨v, hlastv⟩ := exists_last?_of_mem (List.fst_mem_of_mem_zipIdx hentry)
    simp only [scalarAt?, hseat, hs, last?_concat_self, hlastv]
    split <;> simp
  · rw [scalarAt?_concat_ne h value hlabel]
    cases hat : h.scalarAt? entry with
    | none => rfl
    | some scalar =>
        have : ¬ scalar.label = label := fun e => hlabel (e ▸ label_of_scalarAt? hat)
        simp [this]

/-- **One more registration.** The store that a longer history leaves comes from the
store before by registering. -/
theorem store_concat {h : History} (hnodup : (h.scalars.map (·.label)).Nodup) (label : String)
    (value : Value) : store (h ++ [(label, value)]) = h.store.register label value := by
  cases hv : value.isList with
  | true =>
      cases value with
      | list values => rw [store, scalars_concat_list, sweeps_concat_list]; rfl
      | bool | int | real | text => cases hv
  | false =>
      rw [Store.register_single _ label hv, store, sweeps_concat_single h label hv]
      cases hs : h.seat? label with
      | none =>
          have hnew : label ∉ h.scalars.map (·.label) := by
            rw [mem_labels_scalars, hs]
            nofun
          rw [scalars_concat_new h label hv hs, ← Store.setScalar_new hnew]
          rfl
      | some i =>
          have hmem : label ∈ h.scalars.map (·.label) := mem_labels_scalars.mpr ⟨i, hs⟩
          rw [scalars_concat_again h label hv hs, ← Store.setScalar_again hnodup hmem]
          rfl

end History

namespace Store

/-- Registering a whole history in the empty store leaves what the history says: its
surviving lists as sweeps, in order, and the last value of each label whose last
registration is no list as a scalar, standing where the label's single values began. -/
theorem registerAll_empty (h : History) : Store.empty.registerAll h = h.store := by
  induction h using List.reverseRecOn with
  | nil => rfl
  | append_singleton h entry ih =>
      have hcoherent : (History.store h).Coherent := ih ▸ coherent_empty.registerAll h
      rw [registerAll_append, ih, registerAll_cons, registerAll_nil,
        History.store_concat hcoherent.nodup]

/-- A list in between moves a label behind those that were registered meanwhile. -/
example :
    History.scalars [("a", .bool true), ("b", .bool true), ("a", .list []), ("a", .bool false),
      ("b", .bool false)] = [⟨"b", .bool false⟩, ⟨"a", .bool false⟩] := rfl

end Store

end SolverDeck
