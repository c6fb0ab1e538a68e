import SolverDeck.Proofs.Binary64.Equality
import SolverDeck.Proofs.Value.Leaves

/-!
# Equality of values

Equal values differ at most in the signs of the zeros inside them. So a value is represented by the
same value with plain zeros, and equality is told by two things alone: whether the representatives are
the same, and whether there is a not-a-number anywhere (`Value.beq_iff`). Equality of lists of such
things is told in the same way (`list_beq_iff`), which carries this from numbers to whole stores.

What equality overlooks, a deck shows. The signs of the zeros inside a value can be read off its text,
whatever follows it there (`Value.display_append_inj`).
-/

namespace SolverDeck

/-! ### Equality told by representatives -/

section

variable {α β γ : Type} {representative : α → β} {sound : α → Prop}

/-- **Lists.** If equality of the items is told by representatives of sound items, then so is equality
of the lists. -/
theorem list_beq_iff [BEq α] {as : List α}
    (h : ∀ a ∈ as, ∀ b, (a == b) = true ↔ representative a = representative b ∧ sound a ∧ sound b)
    (bs : List α) : (as == bs) = true ↔
      as.map representative = bs.map representative ∧ (∀ a ∈ as, sound a) ∧ ∀ b ∈ bs, sound b := by
  induction as generalizing bs with
  | nil => cases bs <;> simp
  | cons a as ih =>
      cases bs with
      | nil => simp
      | cons b bs =>
          have hhead := h a List.mem_cons_self b
          have htail := ih (fun a' ha' => h a' (List.mem_cons_of_mem a ha')) bs
          rw [List.cons_beq_cons, Bool.and_eq_true, hhead, htail, List.map_cons, List.map_cons,
            List.cons.injEq, List.forall_mem_cons, List.forall_mem_cons]
          tauto

/-- Texts that are joined can be taken apart from the front, if each can be told from those with the
same representative, whatever follows. -/
theorem intercalate_append_inj {text : α → List γ} {separator : List γ} {as bs : List α}
    (h : ∀ a ∈ as, ∀ b s t, representative a = representative b → text a ++ s = text b ++ t →
      a = b ∧ s = t)
    (hsame : as.map representative = bs.map representative) {s t : List γ}
    (heq : separator.intercalate (as.map text) ++ s = separator.intercalate (bs.map text) ++ t) :
    as = bs ∧ s = t := by
  induction as generalizing bs with
  | nil =>
      rw [List.map_nil, eq_comm, List.map_eq_nil_iff] at hsame
      subst hsame
      exact ⟨rfl, heq⟩
  | cons a as ih =>
      cases bs with
      | nil => cases hsame
      | cons b bs =>
          rw [List.map_cons, List.map_cons, List.cons.injEq] at hsame
          obtain ⟨hhead, htail⟩ := hsame
          have hfirst := h a List.mem_cons_self b
          cases as with
          | nil =>
              rw [List.map_nil, eq_comm, List.map_eq_nil_iff] at htail
              subst htail
              obtain ⟨rfl, rfl⟩ := hfirst s t hhead (by simpa using heq)
              exact ⟨rfl, rfl⟩
          | cons a' as =>
              cases bs with
              | nil => cases htail
              | cons b' bs =>
                  simp only [List.map_cons, List.intercalate_cons_cons, List.append_assoc] at heq
                  obtain ⟨rfl, hrest⟩ := hfirst _ _ hhead heq
                  have hothers := ih (fun x hx => h x (List.mem_cons_of_mem a hx)) htail
                    (List.append_cancel_left hrest)
                  exact ⟨by rw [hothers.1], hothers.2⟩

end

namespace Value

/-- What holds of all values that are no lists, and of a list if it holds of its items, holds of all
values. -/
@[elab_as_elim]
theorem induction {motive : Value → Prop} (bool : ∀ b, motive (bool b))
    (int : ∀ n, motive (int n)) (real : ∀ x, motive (real x)) (text : ∀ s, motive (text s))
    (list : ∀ items, (∀ v ∈ items, motive v) → motive (list items)) (v : Value) : motive v :=
  @Value.rec motive (fun items => ∀ v ∈ items, motive v) bool int real text list
    (fun _ h => absurd h List.not_mem_nil)
    (fun _ _ hfirst hothers => List.forall_mem_cons.mpr ⟨hfirst, hothers⟩) v

/-! ### Numbers inside a value -/

/-- The floating-point number that a value is. -/
def real? : Value → Option Binary64
  | real x => some x
  | _ => none

/-- The floating-point numbers inside a value, at any depth. -/
def reals (v : Value) : List Binary64 :=
  v.numbers.filterMap real?

@[simp] theorem reals_bool (b : Bool) : (bool b).reals = [] := rfl

@[simp] theorem reals_int (n : Int64) : (int n).reals = [] := rfl

@[simp] theorem reals_real (x : Binary64) : (real x).reals = [x] := rfl

@[simp] theorem reals_text (s : String) : (text s).reals = [] := rfl

@[simp] theorem reals_list (items : List Value) : (list items).reals = items.flatMap reals := by
  rw [reals, numbers, numbersOfItems_eq_flatMap, List.filterMap_flatMap]
  rfl

/-- No number inside is a not-a-number. -/
def Comparable (v : Value) : Prop :=
  ∀ x ∈ v.reals, x.isNaN = false

theorem comparable_list {items : List Value} :
    (list items).Comparable ↔ ∀ v ∈ items, v.Comparable := by
  unfold Comparable
  rw [reals_list]
  exact List.forall_mem_flatMap

/-! ### Representatives -/

mutual

/-- The value itself, but with the positive zero for each negative one inside. -/
def representative : Value → Value
  | real x => real x.representative
  | list items => list (representatives items)
  | v => v

/-- The representatives of several values. -/
def representatives : List Value → List Value
  | [] => []
  | v :: vs => v.representative :: representatives vs

end

@[simp] theorem representatives_eq_map (vs : List Value) :
    representatives vs = vs.map representative := by
  induction vs with
  | nil => rfl
  | cons v vs ih => rw [representatives, ih, List.map_cons]

theorem representative_of_no_minusZero {v : Value} (h : ∀ x ∈ v.reals, x.isMinusZero = false) :
    v.representative = v := by
  induction v using Value.induction with
  | real x => rw [representative, Binary64.representative_of_not_isMinusZero (h x (by simp))]
  | list items ih =>
      rw [reals_list, List.forall_mem_flatMap] at h
      rw [representative, representatives_eq_map, List.map_congr_left fun v hv => ih v hv (h v hv),
        List.map_id']
  | bool | int | text => rfl

/-! ### Equality -/

theorem equalItems_eq_beq (vs ws : List Value) : equalItems vs ws = (vs == ws) := by
  induction vs generalizing ws with
  | nil => cases ws <;> rfl
  | cons v vs ih =>
      cases ws with
      | nil => rfl
      | cons w ws =>
          rw [equalItems, ih, List.cons_beq_cons]
          rfl

theorem beq_eq_equals (v w : Value) : (v == w) = v.equals w := rfl

/-- **Values.** Equality is told by representatives, of values that have no not-a-number in them. -/
theorem beq_iff (v w : Value) : (v == w) = true ↔
    v.representative = w.representative ∧ v.Comparable ∧ w.Comparable := by
  rw [beq_eq_equals]
  induction v using Value.induction generalizing w with
  | real x =>
      cases w with
      | real y =>
          simp [equals, Binary64.beq_iff_representative, representative, Comparable]
      | _ => simp [equals, representative]
  | list items ih =>
      cases w with
      | list others =>
          rw [equals, equalItems_eq_beq, list_beq_iff ih, comparable_list, comparable_list]
          simp [representative]
      | _ => simp [equals, representative]
  | bool | int | text => cases w <;> simp [equals, representative, Comparable]

/-! ### Texts -/

theorem toList_display_of_isZero {x : Binary64} (h : x.isZero = true) :
    (real x).display.toList = (if x.isNegative then ['-'] else []) ++ ['0', '.', '0'] := by
  have hfinite := Binary64.isFinite_of_isZero h
  have hnan : x.isNaN = false := Binary64.isNaN_eq_false_iff.mpr (.inl hfinite)
  rw [display, Binary64.text, hnan, if_neg Bool.false_ne_true, hfinite, if_pos rfl,
    Binary64.magnitudeText, h, String.toList_ofList]
  rfl

theorem sign_append_inj {negative negative' : Bool} {s t : List Char}
    (h : (if negative then ['-'] else []) ++ ['0', '.', '0'] ++ s =
      (if negative' then ['-'] else []) ++ ['0', '.', '0'] ++ t) : negative = negative' := by
  cases negative <;> cases negative' <;> first | rfl | exact absurd (List.cons.inj h).1 (by decide)

/-- **Texts.** A value can be told from those with the same representative, whatever follows its
text. -/
theorem display_append_inj {v w : Value} {s t : List Char}
    (hsame : v.representative = w.representative)
    (heq : v.display.toList ++ s = w.display.toList ++ t) : v = w ∧ s = t := by
  induction v using Value.induction generalizing w s t with
  | real x =>
      cases w with
      | real y =>
          -- Two zeros are shown with their signs, so the first character tells them apart.
          have hxy : x = y := by
            rcases Binary64.representative_eq_iff.mp (real.inj hsame) with rfl | ⟨hx, hy⟩
            · rfl
            · rw [toList_display_of_isZero hx, toList_display_of_isZero hy] at heq
              refine Binary64.eq_of_parts (sign_append_inj heq) ?_
              rw [Binary64.isZero_iff.mp hx, Binary64.isZero_iff.mp hy]
          subst hxy
          exact ⟨rfl, List.append_cancel_left heq⟩
      | _ => cases hsame
  | list items ih =>
      cases w with
      | list others =>
          simp only [representative, representatives_eq_map, list.injEq] at hsame
          simp only [display, String.toList_intercalate, displays_eq_map, List.map_map] at heq
          obtain ⟨rfl, hrest⟩ := intercalate_append_inj
            (fun v hv w s t hsame heq => ih v hv hsame heq) hsame heq
          exact ⟨rfl, hrest⟩
      | _ => cases hsame
  | bool | int | text =>
      cases w <;> cases hsame
      exact ⟨rfl, List.append_cancel_left heq⟩

end Value

end SolverDeck
