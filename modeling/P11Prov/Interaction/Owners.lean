import Mathlib.Data.Set.Basic
import Mathlib.Logic.Function.Basic

/-!
# Owners of resources

Things that are known by name own a resource each, or none. No two of them own
the same one, and each keeps its own resource in order (`Owned`). Something
that is done to one of them may do anything to what nobody else owns: so an
operation on one thing is an operation on the state that leaves the resources
of the others in order (`Owned.update`). A resource may also go from one owner
to another, which leaves the first one with a new resource, or with none
(`Owned.move`).

The names, the things, the resources and the states are arbitrary.
-/

namespace Interaction

variable {ι α ρ σ : Type} {own : α → Option ρ} {P : α → ρ → σ → Prop} {cs : ι → Option α}
  {s s' : σ} {i j : ι} {c : α} {r : ρ}

/-- The resources that are owned. -/
def resources (own : α → Option ρ) (cs : ι → Option α) : Set ρ :=
  {r | ∃ i c, cs i = some c ∧ own c = some r}

theorem mem_resources (hi : cs i = some c) (hr : own c = some r) : r ∈ resources own cs :=
  ⟨i, c, hi, hr⟩

/-- Every owner has its resource in order, and has it for itself. -/
structure Owned (own : α → Option ρ) (P : α → ρ → σ → Prop) (cs : ι → Option α) (s : σ) :
    Prop where
  holds : ∀ i c r, cs i = some c → own c = some r → P c r s
  unique : ∀ i j c c' r, cs i = some c → cs j = some c' → own c = some r → own c' = some r → i = j

/-- What is in order stays so where all resources are left alone. -/
theorem Owned.frame (h : Owned own P cs s)
    (hP : ∀ c r, r ∈ resources own cs → P c r s → P c r s') : Owned own P cs s' where
  holds i c r hi hr := hP c r (mem_resources hi hr) (h.holds i c r hi hr)
  unique := h.unique

theorem Owned.empty : Owned own P (fun _ : ι => none) s where
  holds _ _ _ e := absurd e (by simp)
  unique _ _ _ _ _ e := absurd e (by simp)

variable [DecidableEq ι]

/-- The resources of all owners but one. -/
def otherResources (own : α → Option ρ) (cs : ι → Option α) (i : ι) : Set ρ :=
  resources own (Function.update cs i none)

theorem mem_otherResources :
    r ∈ otherResources own cs i ↔ ∃ j c, j ≠ i ∧ cs j = some c ∧ own c = some r := by
  constructor
  · rintro ⟨j, c, hj, hr⟩
    have hne : j ≠ i := by
      rintro rfl
      rw [Function.update_self] at hj
      exact absurd hj (by simp)
    exact ⟨j, c, hne, (Function.update_of_ne hne ..).symm.trans hj, hr⟩
  · rintro ⟨j, c, hne, hj, hr⟩
    exact ⟨j, c, (Function.update_of_ne hne ..).trans hj, hr⟩

theorem otherResources_subset : otherResources own cs i ⊆ resources own cs := by
  intro r hr
  obtain ⟨j, c, -, hj, hr⟩ := mem_otherResources.1 hr
  exact mem_resources hj hr

namespace Owned

variable (h : Owned own P cs s)
include h

/-- The resource of an owner is none of the others. -/
theorem not_mem_other (hi : cs i = some c) (hr : own c = some r) :
    r ∉ otherResources own cs i := by
  intro ho
  obtain ⟨j, c', hne, hj, hr'⟩ := mem_otherResources.1 ho
  exact hne (h.unique j i c' c r hj hi hr' hr)

/-- One owner changes, and the resources of the others stay in order. -/
theorem update {new : Option α} (hP : ∀ c r, r ∈ otherResources own cs i → P c r s → P c r s')
    (hnew : ∀ c r, new = some c → own c = some r → r ∉ otherResources own cs i ∧ P c r s') :
    Owned own P (Function.update cs i new) s' where
  holds j c r hj hr := by
    by_cases hne : j = i
    · subst hne
      rw [Function.update_self] at hj
      exact (hnew c r hj hr).2
    · rw [Function.update_of_ne hne] at hj
      exact hP c r (mem_otherResources.2 ⟨j, c, hne, hj, hr⟩) (h.holds j c r hj hr)
  unique j k c c' r hj hk hr hr' := by
    have hother : ∀ {k c c'}, new = some c → k ≠ i → cs k = some c' → own c = some r →
        own c' = some r → False := fun hc hne hk hr hr' =>
      (hnew _ r hc hr).1 (mem_otherResources.2 ⟨_, _, hne, hk, hr'⟩)
    by_cases hji : j = i <;> by_cases hki : k = i
    · exact hji.trans hki.symm
    · subst hji
      rw [Function.update_self] at hj
      rw [Function.update_of_ne hki] at hk
      exact absurd (hother hj hki hk hr hr') id
    · subst hki
      rw [Function.update_self] at hk
      rw [Function.update_of_ne hji] at hj
      exact absurd (hother hk hji hj hr' hr) id
    · rw [Function.update_of_ne hji] at hj
      rw [Function.update_of_ne hki] at hk
      exact h.unique j k c c' r hj hk hr hr'

/-- A resource goes to a new owner. What the old one is left with belonged to nobody. -/
theorem move {c left new : α} (hi : cs i = some c) (hj : cs j = none) (hr : own c = some r)
    (hP : ∀ c r, r ∈ resources own cs → P c r s → P c r s') (hnew : own new = some r)
    (hin : P new r s')
    (hleft : ∀ r', own left = some r' → r' ∉ resources own cs ∧ P left r' s') :
    Owned own P (Function.update (Function.update cs i (some left)) j (some new)) s' := by
  have hij : j ≠ i := by
    rintro rfl
    exact absurd (hi.symm.trans hj) (by simp)
  -- the old owner first: what it has then is new
  have h₁ : Owned own P (Function.update cs i (some left)) s' := by
    refine h.update (fun c r hr => hP c r (otherResources_subset hr)) fun c' r' e hr' => ?_
    obtain rfl := Option.some.inj e
    exact ⟨fun ho => (hleft r' hr').1 (otherResources_subset ho), (hleft r' hr').2⟩
  refine h₁.update (fun _ _ _ h => h) fun c' r' e hr' => ?_
  obtain rfl := Option.some.inj e
  obtain rfl : r = r' := Option.some.inj (hnew.symm.trans hr')
  refine ⟨fun ho => ?_, hin⟩
  obtain ⟨k, c', hkj, hk, hr''⟩ := mem_otherResources.1 ho
  by_cases hki : k = i
  · subst hki
    rw [Function.update_self] at hk
    obtain rfl := Option.some.inj hk
    exact (hleft r hr'').1 (mem_resources hi hr)
  · rw [Function.update_of_ne hki] at hk
    exact hki (h.unique k i c' c r hk hi hr'' hr)

end Owned

end Interaction
