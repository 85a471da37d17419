import Mathlib.Data.List.Nodup
import Mathlib.Data.List.Perm.Basic

/-!
# Steps that write fields

Items that are worked off one after the other, each of which writes one field of a
state, or none, or fails. What it writes does not depend on the state (`Writes`).
If no two items write the same field, the order is of no matter: all orders lead to
the same state, or all of them fail (`Writes.perm`).

The items, the states, the fields and the errors are arbitrary.
-/

namespace Writers

variable {σ α ι ε : Type} {step : σ → α → Except ε σ} {field : α → Option ι} {write : ι → σ → σ → σ}
  {base s : σ} {a b : α} {i j : ι} {l l' : List α}

/-- An item writes its field as it does from a fixed state, and fields are apart; `write` takes the
    field from its first state. -/
structure Writes (step : σ → α → Except ε σ) (field : α → Option ι) (write : ι → σ → σ → σ)
    (base : σ) : Prop where
  skips : ∀ s a, field a = none → step s a = .ok s
  writes : ∀ s a i, field a = some i → step s a = (step base a).map (write i · s)
  apart : ∀ i j x y s, i ≠ j → write i x (write j y s) = write j y (write i x s)

/-- One step, as far as it does not fail. -/
def attempt (step : σ → α → Except ε σ) (s : Option σ) (a : α) : Option σ :=
  s.bind fun s => (step s a).toOption

theorem toOption_foldlM (l : List α) (s : σ) :
    (l.foldlM step s).toOption = l.foldl (attempt step) (some s) := by
  have hnone (l : List α) : l.foldl (attempt step) none = none := by
    induction l with
    | nil => rfl
    | cons a l ih => exact ih
  induction l generalizing s with
  | nil => rfl
  | cons a l ih =>
    rw [List.foldlM_cons, List.foldl_cons]
    rcases h : step s a with e | s'
    · rw [attempt, Option.bind_some, h]
      exact (hnone l).symm
    · rw [attempt, Option.bind_some, h]
      exact ih s'

/-- Items that write different fields may be exchanged. -/
theorem Writes.comm (h : Writes step field write base)
    (hne : ∀ i j, field a = some i → field b = some j → i ≠ j) (s : Option σ) :
    attempt step (attempt step s a) b = attempt step (attempt step s b) a := by
  rcases s with _ | s
  · rfl
  rcases ha : field a with _ | i
  · -- one that writes nothing is no matter anywhere
    have hskip (s : Option σ) : attempt step s a = s := by
      rcases s with _ | s
      · rfl
      · rw [attempt, Option.bind_some, h.skips s a ha]
        rfl
    rw [hskip, hskip]
  rcases hb : field b with _ | j
  · have hskip (s : Option σ) : attempt step s b = s := by
      rcases s with _ | s
      · rfl
      · rw [attempt, Option.bind_some, h.skips s b hb]
        rfl
    rw [hskip, hskip]
  have hstep (s : σ) {c : α} {k : ι} (hc : field c = some k) :
      attempt step (some s) c = (step base c).toOption.map (write k · s) := by
    rw [attempt, Option.bind_some, h.writes s c k hc]
    rcases step base c with e | x
    · rfl
    · rfl
  rw [hstep s ha, hstep s hb]
  rcases hxa : (step base a).toOption with _ | x
  · rcases (step base b).toOption with _ | y
    · rfl
    · rw [Option.map_some, hstep _ ha, hxa]
      rfl
  · rcases hyb : (step base b).toOption with _ | y
    · rw [Option.map_some, hstep _ hb, hyb]
      rfl
    · rw [Option.map_some, Option.map_some, hstep _ hb, hstep _ ha, hxa, hyb]
      exact congrArg some (h.apart j i y x s (hne i j ha hb).symm)

/-- Different items of a list that writes no field twice write different fields. -/
theorem ne_of_nodup (h : (l.filterMap field).Nodup) (ha : a ∈ l) (hb : b ∈ l) (hab : a ≠ b)
    (hi : field a = some i) (hj : field b = some j) : i ≠ j := by
  induction l with
  | nil => cases ha
  | cons c l ih =>
    rcases hc : field c with _ | k
    · rw [List.filterMap_cons_none hc] at h
      refine ih h ?_ ?_
      · rcases List.mem_cons.1 ha with rfl | ha
        · rw [hc] at hi
          cases hi
        · exact ha
      · rcases List.mem_cons.1 hb with rfl | hb
        · rw [hc] at hj
          cases hj
        · exact hb
    · rw [List.filterMap_cons_some hc, List.nodup_cons] at h
      have hmem {d : α} {m : ι} (hd : d ∈ l) (hm : field d = some m) : m ∈ l.filterMap field :=
        List.mem_filterMap.2 ⟨d, hd, hm⟩
      rcases List.mem_cons.1 ha with hac | hal
      · rcases List.mem_cons.1 hb with hbc | hbl
        · exact absurd (hac.trans hbc.symm) hab
        · rintro rfl
          rw [hac] at hi
          exact h.1 (Option.some.inj (hi.symm.trans hc) ▸ hmem hbl hj)
      · rcases List.mem_cons.1 hb with hbc | hbl
        · rintro rfl
          rw [hbc] at hj
          exact h.1 (Option.some.inj (hj.symm.trans hc) ▸ hmem hal hi)
        · exact ih h.2 hal hbl

/-- In every order, items that write different fields come to the same. -/
theorem Writes.perm (h : Writes step field write base) (hl : l.Perm l')
    (hfields : (l.filterMap field).Nodup) (s : σ) :
    (l.foldlM step s).toOption = (l'.foldlM step s).toOption := by
  rw [toOption_foldlM, toOption_foldlM]
  refine hl.foldl_eq' (fun a ha b hb s => ?_) (some s)
  by_cases hab : a = b
  · rw [hab]
  · exact h.comm (fun i j hi hj => ne_of_nodup hfields ha hb hab hi hj) s

end Writers
