import Mathlib.Data.List.Nodup
import Mathlib.Tactic.Common

/-!
# Walks along a list

Something goes along a list and deals with one element after the other. An
element is skipped, or visited, or the visit does not come about; then the same
element is tried again, unless it is the last one. `Walk l es l'` says that the
steps `es` lead from the list `l` that is left to the list `l'`.

* `Walk.sublist`: elements are visited in the order of the list, each at most once;
* `Walk.lastOf_of_mem`: after a walk to the end every element has been dealt with, and
  it was visited if and only if the last step on it says so;
* `Walk.visits_length_le`: only tries that do not come about make a walk long.
-/

/-- What happens to an element. -/
inductive WalkStep (α : Type) where
  | skip (a : α)
  | visit (a : α)
  | stall (a : α)
  deriving DecidableEq, Repr

namespace WalkStep

variable {α : Type}

/-- The element of a step. -/
def elem : WalkStep α → α
  | skip a | visit a | stall a => a

@[simp] theorem elem_skip (a : α) : (skip a).elem = a := rfl

@[simp] theorem elem_visit (a : α) : (visit a).elem = a := rfl

@[simp] theorem elem_stall (a : α) : (stall a).elem = a := rfl

/-- The element that a step visits. -/
def visited : WalkStep α → Option α
  | visit a => some a
  | _ => none

/-- The step is a try that did not come about. -/
def isStall : WalkStep α → Bool
  | stall _ => true
  | _ => false

end WalkStep

open WalkStep

/-- The steps lead from one list of elements that are left to another. -/
inductive Walk {α : Type} : List α → List (WalkStep α) → List α → Prop
  | nil {l : List α} : Walk l [] l
  | skip {a : α} {l l' : List α} {es : List (WalkStep α)} (h : Walk l es l') :
      Walk (a :: l) (.skip a :: es) l'
  | visit {a : α} {l l' : List α} {es : List (WalkStep α)} (h : Walk l es l') :
      Walk (a :: l) (.visit a :: es) l'
  | stall {a : α} {l l' : List α} {es : List (WalkStep α)} (h : Walk (a :: l) es l') :
      Walk (a :: l) (.stall a :: es) l'
  | giveUp {a : α} : Walk [a] [.stall a] []

namespace Walk

variable {α : Type}

/-- The elements visited, in order. -/
def visits (es : List (WalkStep α)) : List α := es.filterMap visited

/-- The number of tries that did not come about. -/
def stalls (es : List (WalkStep α)) : Nat := es.countP isStall

/-- The last step on an element. -/
def lastOf [DecidableEq α] (es : List (WalkStep α)) (a : α) : Option (WalkStep α) :=
  (es.filter (·.elem = a)).getLast?

variable {l l' l'' : List α} {es es' : List (WalkStep α)}

@[simp] theorem visits_skip (a : α) : visits (.skip a :: es) = visits es := rfl

@[simp] theorem stalls_skip (a : α) : stalls (.skip a :: es) = stalls es := rfl

@[simp] theorem visits_append : visits (es ++ es') = visits es ++ visits es' :=
  List.filterMap_append

@[simp] theorem stalls_append : stalls (es ++ es') = stalls es + stalls es' :=
  List.countP_append

@[simp] theorem visits_visit (a : α) : visits (.visit a :: es) = a :: visits es := rfl

@[simp] theorem visits_stall (a : α) : visits (.stall a :: es) = visits es := rfl

theorem eq_nil_of_nil (h : Walk ([] : List α) es l') : es = [] ∧ l' = [] := by
  cases h
  exact ⟨rfl, rfl⟩

theorem trans (h : Walk l es l') (h' : Walk l' es' l'') : Walk l (es ++ es') l'' := by
  induction h with
  | nil => exact h'
  | skip _ ih => exact .skip (ih h')
  | visit _ ih => exact .visit (ih h')
  | stall _ ih => exact .stall (ih h')
  | giveUp =>
    obtain ⟨rfl, rfl⟩ := h'.eq_nil_of_nil
    exact .giveUp

/-- Elements are visited in the order of the list, each at most once. -/
theorem sublist (h : Walk l es l') : (visits es ++ l').Sublist l := by
  induction h with
  | nil => exact .refl _
  | skip _ ih => exact ih.cons _
  | visit _ ih => exact ih.cons_cons _
  | stall _ ih => exact ih
  | giveUp => exact List.nil_sublist _

/-- What is left of a list is an end of it. -/
theorem suffix (h : Walk l es l') : l' <:+ l := by
  induction h with
  | nil => exact List.suffix_rfl
  | skip _ ih | visit _ ih => exact ih.trans (List.suffix_cons _ _)
  | stall _ ih => exact ih
  | giveUp => exact List.nil_suffix

theorem mem_of_mem (h : Walk l es l') {e : WalkStep α} (he : e ∈ es) : e.elem ∈ l := by
  induction h with
  | nil => simp at he
  | skip _ ih | visit _ ih =>
    rcases List.mem_cons.1 he with rfl | he
    · exact List.mem_cons_self
    · exact List.mem_cons_of_mem _ (ih he)
  | stall _ ih =>
    rcases List.mem_cons.1 he with rfl | he
    · exact List.mem_cons_self
    · exact ih he
  | giveUp =>
    obtain rfl := List.mem_singleton.1 he
    exact List.mem_cons_self

/-- Only tries that do not come about make a walk long. -/
theorem visits_length_le (h : Walk l es l') : (visits es).length ≤ l.length :=
  ((List.sublist_append_left _ _).trans h.sublist).length_le

theorem not_mem_visits (h : Walk l es l') {a : α} (ha : a ∉ l) : a ∉ visits es :=
  fun hv => ha (((List.sublist_append_left _ _).trans h.sublist).subset hv)

section LastOf

variable [DecidableEq α]

theorem lastOf_cons_self (e : WalkStep α) {a : α} (h : e.elem = a) :
    lastOf (e :: es) a = some ((lastOf es a).getD e) := by
  simp [lastOf, h, List.getLast?_cons]

theorem lastOf_cons_ne (e : WalkStep α) {a : α} (h : e.elem ≠ a) :
    lastOf (e :: es) a = lastOf es a := by
  simp [lastOf, h]

/-- Nothing happens any more to an element that is not left. -/
theorem lastOf_eq_none (h : Walk l es l') {a : α} (ha : a ∉ l) : lastOf es a = none := by
  have hf : es.filter (·.elem = a) = [] := by
    refine List.filter_eq_nil_iff.2 fun e he => ?_
    rw [decide_eq_true_eq]
    rintro rfl
    exact ha (h.mem_of_mem he)
  rw [lastOf, hf, List.getLast?_nil]

/-- After a walk to the end every element has been dealt with, and it was visited if and
    only if the last step on it says so. -/
theorem lastOf_of_mem (h : Walk l es []) (hl : l.Nodup) {a : α} (ha : a ∈ l) :
    ∃ e, lastOf es a = some e ∧ (a ∈ visits es ↔ e = .visit a) := by
  generalize hn : ([] : List α) = l' at h
  induction h with
  | nil =>
    subst hn
    simp at ha
  | @skip b l l' es h ih =>
    rw [List.nodup_cons] at hl
    rcases List.mem_cons.1 ha with rfl | ha'
    · refine ⟨.skip a, (lastOf_cons_self _ (elem_skip a)).trans ?_, ?_⟩
      · rw [h.lastOf_eq_none hl.1, Option.getD_none]
      · simp [h.not_mem_visits hl.1]
    · have hne : b ≠ a := fun e => hl.1 (e ▸ ha')
      obtain ⟨e, he, hv⟩ := ih hl.2 ha' hn
      exact ⟨e, (lastOf_cons_ne (.skip b) hne).trans he, hv⟩
  | @visit b l l' es h ih =>
    rw [List.nodup_cons] at hl
    rcases List.mem_cons.1 ha with rfl | ha'
    · refine ⟨.visit a, (lastOf_cons_self _ (elem_visit a)).trans ?_, ?_⟩
      · rw [h.lastOf_eq_none hl.1, Option.getD_none]
      · simp
    · have hne : b ≠ a := fun e => hl.1 (e ▸ ha')
      obtain ⟨e, he, hv⟩ := ih hl.2 ha' hn
      refine ⟨e, (lastOf_cons_ne (.visit b) hne).trans he, ?_⟩
      rw [visits_visit, List.mem_cons, ← hv]
      exact or_iff_right (Ne.symm hne)
  | @stall b l l' es h ih =>
    obtain ⟨e, he, hv⟩ := ih hl ha hn
    refine ⟨e, ?_, hv⟩
    by_cases hb : b = a
    · subst hb
      exact (lastOf_cons_self _ (elem_stall b)).trans (by rw [he, Option.getD_some])
    · exact (lastOf_cons_ne (.stall b) hb).trans he
  | @giveUp b =>
    obtain rfl := List.mem_singleton.1 ha
    exact ⟨.stall a, lastOf_cons_self _ (elem_stall a), by simp [visits, visited]⟩

end LastOf

end Walk
