import P11Prov.Interaction.Program

/-!
# Which commands a program issues

`Only φ p`: whatever the answers, every command that `p` issues satisfies `φ`.
This is a property of the program alone. A property of the state that those
commands keep is kept by the program, in every environment (`Only.keeps`).

`Returns ψ p`: whatever the answers, what `p` returns satisfies `ψ`.
-/

namespace Interaction

open Prog

variable {C : Type} {R : C → Type} {α β S : Type} {φ : C → Prop}

/-- All commands of a program satisfy `φ`. -/
def Only (φ : C → Prop) : Prog R α → Prop
  | ret _ => True
  | call c k => φ c ∧ ∀ r, Only φ (k r)

namespace Only

variable {p q : Prog R α} {f : α → Prog R β}

theorem pure {a : α} : Only φ (Pure.pure a : Prog R α) := trivial

theorem perform {c : C} (h : φ c) : Only φ (Prog.perform c : Prog R (R c)) := ⟨h, fun _ => trivial⟩

theorem bind (hp : Only φ p) (hf : ∀ a, Only φ (f a)) : Only φ (p >>= f) := by
  induction p with
  | ret a => exact hf a
  | call c k ih => exact ⟨hp.1, fun r => ih r (hp.2 r)⟩

theorem ite {b : Prop} [Decidable b] (hp : Only φ p) (hq : Only φ q) :
    Only φ (if b then p else q) := by
  split
  · exact hp
  · exact hq

theorem firstM {g : α → Prog R (Option β)} (hg : ∀ a, Only φ (g a)) (l : List α) :
    Only φ (Prog.firstM g l) := by
  induction l with
  | nil => trivial
  | cons a l ih =>
    refine bind (hg a) fun r => ?_
    cases r with
    | some b => trivial
    | none => exact ih

/-- What the commands keep is kept. -/
theorem keeps {E : Env S R} {I : S → Prop} (h : Only φ p)
    (hI : ∀ s c r, φ c → I s → E.adm s c r → I (E.next s c r)) : Keeps E I p := by
  intro s hs
  induction p generalizing s with
  | ret a => exact hs
  | call c k ih => exact fun r hr => ih r (h.2 r) _ (hI s c r h.1 hs hr)

end Only

/-- All that a program returns satisfies `ψ`. -/
def Returns (ψ : α → Prop) : Prog R α → Prop
  | ret a => ψ a
  | call _ k => ∀ r, Returns ψ (k r)

namespace Returns

variable {ψ : α → Prop} {χ : β → Prop} {p q : Prog R α} {f : α → Prog R β}

theorem pure {a : α} (h : ψ a) : Returns ψ (Pure.pure a : Prog R α) := h

theorem mono {χ : α → Prop} (h : Returns ψ p) (hψ : ∀ a, ψ a → χ a) : Returns χ p := by
  induction p with
  | ret a => exact hψ a h
  | call c k ih => exact fun r => ih r (h r)

theorem bind (hp : Returns ψ p) (hf : ∀ a, ψ a → Returns χ (f a)) : Returns χ (p >>= f) := by
  induction p with
  | ret a => exact hf a hp
  | call c k ih => exact fun r => ih r (hp r)

theorem any : Returns (fun _ => True) p := by
  induction p with
  | ret a => trivial
  | call c k ih => exact ih

/-- Sequencing where nothing is known of the first result. -/
theorem andThen (hf : ∀ a, Returns χ (f a)) : Returns χ (p >>= f) := any.bind fun a _ => hf a

theorem ite {b : Prop} [Decidable b] (hp : b → Returns ψ p) (hq : ¬b → Returns ψ q) :
    Returns ψ (if b then p else q) := by
  split
  · exact hp ‹_›
  · exact hq ‹_›

theorem firstM {ψ : Option β → Prop} {g : α → Prog R (Option β)} (hn : ψ none)
    (hg : ∀ a, Returns ψ (g a)) (l : List α) : Returns ψ (Prog.firstM g l) := by
  induction l with
  | nil => exact hn
  | cons a l ih =>
    refine (hg a).bind fun r hr => ?_
    cases r with
    | some b => exact hr
    | none => exact ih

/-- The results of an execution are among those. -/
theorem wp {E : Env S R} {Q : α → S → Prop} {s : S} (h : Returns ψ p)
    (hQ : Interaction.wp E p Q s) : Interaction.wp E p (fun a s' => ψ a ∧ Q a s') s := by
  induction p generalizing s with
  | ret a => exact ⟨h, hQ⟩
  | call c k ih => exact fun r hr => ih r (h r) (hQ r hr)

end Returns

end Interaction
