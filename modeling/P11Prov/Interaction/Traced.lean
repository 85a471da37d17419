import Mathlib.Tactic.Common

/-!
# Computations that note what they do

A `Traced ε α` is a value of `α` with the events noted on the way to it. The
value does not depend on the notes, so a result is shown of the value alone
(`val_bind`, `val_foldlM`), and a property of all events separately (`All`).
-/

namespace Interaction

/-- A value, and the events noted on the way to it. -/
structure Traced (ε α : Type) where
  val : α
  log : List ε
  deriving DecidableEq

namespace Traced

variable {ε α β : Type}

instance : Monad (Traced ε) where
  pure a := ⟨a, []⟩
  bind x f := ⟨(f x.val).val, x.log ++ (f x.val).log⟩

instance : LawfulMonad (Traced ε) := .mk' _
  (fun x => congrArg (Traced.mk x.val) (List.append_nil x.log))
  (fun _ _ => rfl)
  (fun x _ _ => congrArg (Traced.mk _) (List.append_assoc x.log _ _))

/-- Notes an event. -/
def note (e : ε) : Traced ε Unit := ⟨(), [e]⟩

@[simp] theorem val_pure (a : α) : (pure a : Traced ε α).val = a := rfl

@[simp] theorem val_bind (x : Traced ε α) (f : α → Traced ε β) :
    (x >>= f).val = (f x.val).val := rfl

@[simp] theorem val_ite {b : Prop} [Decidable b] (x y : Traced ε α) :
    (if b then x else y).val = if b then x.val else y.val := by
  split <;> rfl

theorem val_foldlM (f : β → α → Traced ε β) (b : β) (l : List α) :
    (l.foldlM f b).val = l.foldl (fun b a => (f b a).val) b := by
  induction l generalizing b with
  | nil => rfl
  | cons a l ih =>
    rw [List.foldlM_cons, val_bind, ih]
    rfl

theorem val_mapM (f : α → Traced ε β) (l : List α) :
    (l.mapM f).val = l.map fun a => (f a).val := by
  induction l with
  | nil => rfl
  | cons a l ih =>
    rw [List.mapM_cons, val_bind, val_bind, ih]
    rfl

/-- All events that are noted satisfy `φ`. -/
def All (φ : ε → Prop) (x : Traced ε α) : Prop := ∀ e ∈ x.log, φ e

instance (φ : ε → Prop) [DecidablePred φ] (x : Traced ε α) : Decidable (x.All φ) :=
  inferInstanceAs (Decidable (∀ e ∈ x.log, φ e))

namespace All

variable {φ : ε → Prop}

theorem pure {a : α} : All φ (Pure.pure a : Traced ε α) := fun _ he => absurd he List.not_mem_nil

/-- What follows is about the value only. -/
theorem bind_iff {x : Traced ε α} {f : α → Traced ε β} :
    All φ (x >>= f) ↔ All φ x ∧ All φ (f x.val) := List.forall_mem_append

theorem bind {x : Traced ε α} {f : α → Traced ε β} (hx : All φ x) (hf : All φ (f x.val)) :
    All φ (x >>= f) := bind_iff.2 ⟨hx, hf⟩

theorem foldlM {f : β → α → Traced ε β} {l : List α} (hf : ∀ a ∈ l, ∀ b, All φ (f b a)) (b : β) :
    All φ (l.foldlM f b) := by
  induction l generalizing b with
  | nil => exact pure
  | cons a l ih =>
    rw [List.foldlM_cons]
    exact bind (hf a List.mem_cons_self b) (ih (fun a' ha' => hf a' (List.mem_cons_of_mem a ha')) _)

theorem mapM_iff {f : α → Traced ε β} {l : List α} :
    All φ (l.mapM f) ↔ ∀ a ∈ l, All φ (f a) := by
  induction l with
  | nil => exact iff_of_true pure fun _ ha => absurd ha List.not_mem_nil
  | cons a l ih =>
    rw [List.mapM_cons, bind_iff, bind_iff, ih, List.forall_mem_cons]
    exact and_congr_right fun _ => and_iff_left pure

theorem mapM {f : α → Traced ε β} {l : List α} (hf : ∀ a ∈ l, All φ (f a)) :
    All φ (l.mapM f) := mapM_iff.2 hf

end All

end Traced

end Interaction
