import Mathlib.Data.List.Count
import Mathlib.Tactic.Common

/-!
# Slot arrays

An array of slots that are empty or hold an element. It remembers how many are
occupied, and a hint where a free one may be: a free slot is looked for from the
hint on, around the end. A full array grows by a number of slots.

* `WF`: the number is that of the occupied slots, and no slot below the hint is free;
* `WF.findFree`: then a free slot is found unless all are occupied;
* `WF.put`, `WF.remove`, `WF.grow`: the operations keep this.
-/

/-- The slots, the number of those that are occupied, and the hint. -/
structure SlotArray (α : Type) where
  entries : List (Option α) := []
  num : Nat := 0
  firstFree : Nat := 0

namespace SlotArray

variable {α : Type} (a : SlotArray α)

/-- The number of slots. -/
def size : Nat := a.entries.length

/-- The array with free slots at its end. -/
def grow (chunk : Nat) : SlotArray α := { a with entries := a.entries ++ .replicate chunk none }

/-- The slot that is tried in a round. -/
def tried (i : Nat) : Nat := (i + a.firstFree) % a.size

/-- The first free slot that is tried. -/
def findFree : Option Nat :=
  ((List.range a.size).find? fun i => (a.entries[a.tried i]?.join).isNone).map a.tried

/-- The array with the hint at its start where it is behind the end. -/
def wrap : SlotArray α := if a.size ≤ a.firstFree then { a with firstFree := 0 } else a

/-- The array with an element in a slot, and the hint behind it. -/
def put (i : Nat) (x : α) : SlotArray α where
  entries := a.entries.set i (some x)
  num := a.num + 1
  firstFree := i + 1

/-- The array with a slot emptied. -/
def remove (i : Nat) : SlotArray α where
  entries := a.entries.set i none
  num := a.num - 1
  firstFree := if i < a.firstFree then i else a.firstFree

/-- The number is that of the occupied slots, and all slots below the hint are occupied. -/
structure WF : Prop where
  num : a.num = a.entries.countP Option.isSome
  hint : ∀ i < a.firstFree, ∃ x, a.entries[i]? = some (some x)

variable {a} {i : Nat} {x : α} {chunk : Nat}

@[simp] theorem size_grow : (a.grow chunk).size = a.size + chunk := by simp [grow, size]

@[simp] theorem size_put : (a.put i x).size = a.size := by simp [put, size]

@[simp] theorem size_remove : (a.remove i).size = a.size := by simp [remove, size]

theorem WF.empty : (SlotArray.mk [] 0 0 : SlotArray α).WF := ⟨rfl, by simp⟩

theorem WF.num_le (h : a.WF) : a.num ≤ a.size := by
  rw [h.num]
  exact List.countP_le_length

theorem WF.grow (h : a.WF) : (a.grow chunk).WF where
  num := by
    have hnone : (List.replicate chunk (none : Option α)).countP Option.isSome = 0 := by
      simp [List.countP_replicate]
    simp only [SlotArray.grow, List.countP_append, hnone, Nat.add_zero, h.num]
  hint i hi := by
    obtain ⟨x, hx⟩ := h.hint i hi
    exact ⟨x, (List.getElem?_append_left (List.getElem?_eq_some_iff.1 hx).1).trans hx⟩

/-- Where not all slots are occupied, one is free, and none below the hint. -/
theorem WF.exists_free (h : a.WF) (hlt : a.num < a.size) :
    ∃ i, a.firstFree ≤ i ∧ i < a.size ∧ a.entries[i]? = some none := by
  have hex : ∃ e ∈ a.entries, ¬Option.isSome e = true := by
    by_contra hall
    simp only [not_exists, not_and, not_not] at hall
    rw [h.num, List.countP_eq_length.2 hall] at hlt
    exact Nat.lt_irrefl _ hlt
  obtain ⟨e, he, hnone⟩ := hex
  obtain ⟨i, hi, rfl⟩ := List.mem_iff_getElem.1 he
  have hfree : a.entries[i]? = some none := by
    rw [List.getElem?_eq_getElem hi, Option.some_inj]
    simpa using hnone
  refine ⟨i, ?_, hi, hfree⟩
  by_contra hbelow
  obtain ⟨x, hx⟩ := h.hint i (Nat.lt_of_not_le hbelow)
  rw [hfree] at hx
  cases hx

/-- So a free slot is found, and the slots below it are occupied. -/
theorem WF.findFree (h : a.WF) (hlt : a.num < a.size) : ∃ i, a.findFree = some i ∧ i < a.size ∧
    a.entries[i]? = some none ∧ ∀ j < i, ∃ x, a.entries[j]? = some (some x) := by
  obtain ⟨k, hk, hksize, hfree⟩ := h.exists_free hlt
  have htried {j : Nat} (hj : j + a.firstFree < a.size) : a.tried j = j + a.firstFree :=
    Nat.mod_eq_of_lt hj
  have hsome : ((List.range a.size).find? fun i => (a.entries[a.tried i]?.join).isNone).isSome := by
    rw [List.find?_isSome]
    refine ⟨k - a.firstFree, List.mem_range.2 (by omega), ?_⟩
    rw [htried (by omega), Nat.sub_add_cancel hk, hfree]
    rfl
  obtain ⟨n, hn⟩ := Option.isSome_iff_exists.1 hsome
  obtain ⟨hnone, -, hbefore⟩ := List.find?_range_eq_some.1 hn
  -- the scan stops before it wraps around, since there is a free slot behind the hint
  have hnk : n ≤ k - a.firstFree := by
    by_contra hlt'
    have hocc := hbefore _ (Nat.lt_of_not_le hlt')
    rw [htried (by omega), Nat.sub_add_cancel hk, hfree] at hocc
    cases hocc
  have hti : a.tried n = n + a.firstFree := htried (by omega)
  have hsize : n + a.firstFree < a.size := by omega
  refine ⟨n + a.firstFree, by rw [SlotArray.findFree, hn, Option.map_some, hti], hsize, ?_,
    fun j hj => ?_⟩
  · rw [hti, List.getElem?_eq_getElem hsize] at hnone
    rw [List.getElem?_eq_getElem hsize, Option.some_inj]
    simpa using hnone
  · by_cases hhint : j < a.firstFree
    · exact h.hint j hhint
    · have hocc := hbefore (j - a.firstFree) (by omega)
      have hjsize : j < a.entries.length := Nat.lt_trans hj hsize
      rw [htried (by omega), Nat.sub_add_cancel (Nat.le_of_not_lt hhint),
        List.getElem?_eq_getElem hjsize] at hocc
      rw [List.getElem?_eq_getElem hjsize]
      cases he : a.entries[j] with
      | none => simp [he] at hocc
      | some x => exact ⟨x, rfl⟩

/-- With a hint behind the end there is no free slot, so it is never moved back. -/
theorem WF.wrap (h : a.WF) (hlt : a.num < a.size) : a.wrap = a := by
  obtain ⟨k, hk, hksize, -⟩ := h.exists_free hlt
  exact if_neg (by omega)

theorem WF.put (h : a.WF) (hi : a.entries[i]? = some none)
    (hbelow : ∀ j < i, ∃ x, a.entries[j]? = some (some x)) : (a.put i x).WF where
  num := by
    obtain ⟨hlt, he⟩ := List.getElem?_eq_some_iff.1 hi
    simp [SlotArray.put, List.countP_set hlt, he, h.num]
  hint j hj := by
    have hlt := (List.getElem?_eq_some_iff.1 hi).1
    rcases Nat.lt_succ_iff_lt_or_eq.1 hj with hj | rfl
    · simp only [SlotArray.put, List.getElem?_set_ne (Nat.ne_of_gt hj)]
      exact hbelow j hj
    · exact ⟨x, List.getElem?_set_self hlt⟩

theorem WF.remove (h : a.WF) (hi : a.entries[i]? = some (some x)) : (a.remove i).WF where
  num := by
    obtain ⟨hlt, he⟩ := List.getElem?_eq_some_iff.1 hi
    simp [SlotArray.remove, List.countP_set hlt, he, h.num]
  hint j hj := by
    have hji : j < i ∧ j < a.firstFree ∨ i ≥ a.firstFree ∧ j < a.firstFree := by
      simp only [SlotArray.remove] at hj
      split at hj <;> omega
    have hne : i ≠ j := by omega
    simp only [SlotArray.remove, List.getElem?_set_ne hne]
    exact h.hint j (by omega)

end SlotArray
