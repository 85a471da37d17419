import P11Prov.Interaction.Program

/-!
# What a program did

An execution leaves a trace: its commands, each with the answer it got. `Traces`
are the executions with their traces, `wpt` is the weakest precondition for
properties of traces, and what it shows holds of all executions
(`Traces.of_wpt`). `trace` computes the trace of the execution under one choice
of answers.
-/

namespace Interaction

open Prog

variable {C : Type} {R : C → Type} {α β S : Type}

/-- A command with its answer. -/
abbrev Event {C : Type} (R : C → Type) := (c : C) × R c

/-- `Traces E p s tr a s'`: from the state `s`, the program `p` may return `a` in the state
    `s'` after the commands and answers `tr`. -/
inductive Traces (E : Env S R) : Prog R α → S → List (Event R) → α → S → Prop
  | ret {a : α} {s : S} : Traces E (.ret a) s [] a s
  | call {c : C} {k : R c → Prog R α} {s s' : S} {r : R c} {tr : List (Event R)} {a : α}
      (hr : E.adm s c r) (h : Traces E (k r) (E.next s c r) tr a s') :
      Traces E (.call c k) s (⟨c, r⟩ :: tr) a s'

variable {E : Env S R} {s s' : S} {p : Prog R α} {tr : List (Event R)} {a : α}

/-- The weakest precondition for traces: under every admitted answer to every command, `p`
    returns with a trace and in a state that satisfy `Q`. -/
def wpt (E : Env S R) : Prog R α → (List (Event R) → α → S → Prop) → S → Prop
  | ret a, Q, s => Q [] a s
  | call c k, Q, s => ∀ r, E.adm s c r → wpt E (k r) (fun tr => Q (⟨c, r⟩ :: tr)) (E.next s c r)

variable {P Q : List (Event R) → α → S → Prop}

@[simp] theorem wpt_ret : wpt E (ret a) Q s ↔ Q [] a s := Iff.rfl

/-- Sequencing with a specification of the first program. -/
theorem wpt.bind {f : α → Prog R β} {Q : List (Event R) → β → S → Prop} (h : wpt E p P s)
    (hf : ∀ tr a s', P tr a s' → wpt E (f a) (fun tr' => Q (tr ++ tr')) s') :
    wpt E (p >>= f) Q s := by
  induction p generalizing s P Q with
  | ret a => exact hf [] a s h
  | call c k ih => exact fun r hr => ih r (h r hr) fun tr => hf (⟨c, r⟩ :: tr)

theorem Traces.of_wpt (h : Traces E p s tr a s') (hp : wpt E p Q s) : Q tr a s' := by
  induction h generalizing Q with
  | ret => exact hp
  | call hr _ ih => exact ih (hp _ hr)

/-- The trace of the execution under one choice of answers. -/
def trace (E : Env S R) (ω : S → (c : C) → R c) : Prog R α → S → List (Event R)
  | ret _, _ => []
  | call c k, s => ⟨c, ω s c⟩ :: trace E ω (k (ω s c)) (E.next s c (ω s c))

theorem traces_trace {ω : S → (c : C) → R c} (hω : ∀ s c, E.adm s c (ω s c)) (p : Prog R α) (s : S) :
    Traces E p s (trace E ω p s) (exec E ω p s).1 (exec E ω p s).2 := by
  induction p generalizing s with
  | ret a => exact .ret
  | call c k ih => exact .call (hω s c) (ih _ _)

end Interaction
