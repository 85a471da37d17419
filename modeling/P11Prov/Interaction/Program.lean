import Mathlib.Logic.Function.Basic
import Mathlib.Logic.Relation
import Mathlib.Algebra.Order.Ring.Int
import Mathlib.Tactic.Common

/-!
# Programs that talk to an environment

A program is a tree of commands: it either returns, or issues a command `c`
and continues with the response, of the type `R c` that belongs to `c`. What
the commands do is said separately, by an *environment* over a state space:

* `Env.adm s c r`: in the state `s`, the command `c` may be answered by `r`;
* `Env.next s c r`: the state after that.

So a program is data, and one program can be read under several environments:
an unrestricted one, or one that keeps a contract. The results:

* `wp`, the weakest precondition of a program over all answers, with its rules
  for sequencing (`wp_bind`), consequence (`wp_mono`) and case distinctions;
* `Runs`, the executions of a program, and `wp_iff_runs`: the weakest
  precondition is what all executions guarantee;
* `exec`, the execution under one deterministic choice of answers, which is an
  execution (`runs_exec`): concrete runs are evaluated with it.
-/

namespace Interaction

/-- A program issuing commands `c : C`, answered in `R c`, and returning an `α`. -/
inductive Prog {C : Type} (R : C → Type) (α : Type) where
  | ret (a : α)
  | call (c : C) (k : R c → Prog R α)

variable {C : Type} {R : C → Type} {α β γ : Type}

namespace Prog

/-- Sequencing: the continuation is grafted onto the returns. -/
def bind : Prog R α → (α → Prog R β) → Prog R β
  | ret a, f => f a
  | call c k, f => call c fun r => (k r).bind f

instance : Monad (Prog R) where
  pure := ret
  bind := bind

/-- The program that issues one command and returns its response. -/
def perform (c : C) : Prog R (R c) := call c ret

@[simp] theorem pure_eq (a : α) : (pure a : Prog R α) = ret a := rfl

@[simp] theorem ret_bind (a : α) (f : α → Prog R β) : ret a >>= f = f a := rfl

@[simp] theorem call_bind (c : C) (k : R c → Prog R α) (f : α → Prog R β) :
    call c k >>= f = call c fun r => k r >>= f := rfl

@[simp] theorem perform_eq (c : C) : (perform c : Prog R (R c)) = call c ret := rfl

theorem bind_ret (p : Prog R α) : p >>= ret = p := by
  induction p with
  | ret a => rfl
  | call c k ih =>
    rw [call_bind]
    exact congrArg (call c) (funext ih)

theorem bind_bind (p : Prog R α) (f : α → Prog R β) (g : β → Prog R γ) :
    p >>= f >>= g = p >>= fun a => f a >>= g := by
  induction p with
  | ret a => rfl
  | call c k ih =>
    simp only [call_bind]
    exact congrArg (call c) (funext ih)

instance : LawfulMonad (Prog R) := .mk' _ bind_ret (fun _ _ => rfl) bind_bind

/-- Runs a program for every element of a list until one yields a result. -/
def firstM (f : α → Prog R (Option β)) : List α → Prog R (Option β)
  | [] => ret none
  | a :: as => do
    match ← f a with
    | some b => ret (some b)
    | none => firstM f as

end Prog

/-- What the commands do to a state: the answers admitted and the state after
    each of them. -/
structure Env (S : Type) {C : Type} (R : C → Type) where
  /-- In state `s`, command `c` may be answered by `r`. -/
  adm : S → (c : C) → R c → Prop
  /-- The state after command `c` was answered by `r` in state `s`. -/
  next : S → (c : C) → R c → S

open Prog

variable {S : Type} (E : Env S R)

/-! ## Weakest preconditions -/

/-- The weakest precondition of `p`: under every admitted answer to every
    command, `p` returns in a state that satisfies `Q`. -/
def wp : Prog R α → (α → S → Prop) → S → Prop
  | ret a, Q, s => Q a s
  | call c k, Q, s => ∀ r, E.adm s c r → wp (k r) Q (E.next s c r)

variable {E} {s s' : S} {P Q : α → S → Prop}

@[simp] theorem wp_ret {a : α} : wp E (ret a) Q s ↔ Q a s := Iff.rfl

@[simp] theorem wp_pure {a : α} : wp E (pure a) Q s ↔ Q a s := Iff.rfl

theorem wp_call {c : C} {k : R c → Prog R α} :
    wp E (call c k) Q s ↔ ∀ r, E.adm s c r → wp E (k r) Q (E.next s c r) := Iff.rfl

theorem wp_mono {p : Prog R α} (h : wp E p P s) (hPQ : ∀ a s', P a s' → Q a s') :
    wp E p Q s := by
  induction p generalizing s with
  | ret a => exact hPQ a s h
  | call c k ih => exact fun r hr => ih r (h r hr)

@[simp] theorem wp_bind {p : Prog R α} {f : α → Prog R β} {Q : β → S → Prop} :
    wp E (p >>= f) Q s ↔ wp E p (fun a s' => wp E (f a) Q s') s := by
  induction p generalizing s with
  | ret a => rfl
  | call c k ih => exact forall_congr' fun r => imp_congr_right fun _ => ih r

theorem wp_map {p : Prog R α} {f : α → β} {Q : β → S → Prop} :
    wp E (f <$> p) Q s ↔ wp E p (fun a s' => Q (f a) s') s := wp_bind

theorem wp_congr {p : Prog R α} (h : ∀ a s', P a s' ↔ Q a s') : wp E p P s ↔ wp E p Q s :=
  ⟨fun hp => wp_mono hp fun a s' => (h a s').1, fun hp => wp_mono hp fun a s' => (h a s').2⟩

theorem wp_true {p : Prog R α} : wp E p (fun _ _ => True) s := by
  induction p generalizing s with
  | ret a => trivial
  | call c k ih => exact fun r _ => ih r

/-- Sequencing with a specification of the first program. -/
theorem wp.bind {p : Prog R α} {f : α → Prog R β} {Q : β → S → Prop} (h : wp E p P s)
    (hf : ∀ a s', P a s' → wp E (f a) Q s') : wp E (p >>= f) Q s :=
  wp_bind.2 (wp_mono h hf)

theorem wp_ite {b : Prop} [Decidable b] {p q : Prog R α} :
    wp E (if b then p else q) Q s ↔ (b → wp E p Q s) ∧ (¬b → wp E q Q s) := by
  split <;> simp [*]

theorem wp_and {p : Prog R α} (hP : wp E p P s) (hQ : wp E p Q s) :
    wp E p (fun a s' => P a s' ∧ Q a s') s := by
  induction p generalizing s with
  | ret a => exact ⟨hP, hQ⟩
  | call c k ih => exact fun r hr => ih r (hP r hr) (hQ r hr)

/-- A search whose steps find nothing, and then change nothing, exactly where `test`
    fails: it ends at the first element that passes. -/
theorem wp_firstM {f : α → Prog R (Option β)} {test : α → Bool} {T : α → (β → S → Prop) → Prop}
    {Q : Option β → S → Prop}
    (hf : ∀ a Q, wp E (f a) Q s ↔ if test a then T a (fun b => Q (some b)) else Q none s)
    (l : List α) :
    wp E (firstM f l) Q s ↔ (l.find? test).elim (Q none s) (T · fun b => Q (some b)) := by
  induction l with
  | nil => rfl
  | cons a l ih =>
    rw [firstM, wp_bind, hf, List.find?_cons]
    cases test a with
    | true => rfl
    | false => exact ih

/-- What is shown under an environment holds under one that keeps more in its state and admits
    fewer answers. -/
theorem wp_of_proj {S' : Type} {E' : Env S' R} {f : S' → S}
    (ha : ∀ x c r, E'.adm x c r → E.adm (f x) c r)
    (hn : ∀ x c r, f (E'.next x c r) = E.next (f x) c r) {p : Prog R α} {x : S'}
    (h : wp E p Q (f x)) : wp E' p (fun a x' => Q a (f x')) x := by
  induction p generalizing x with
  | ret a => exact h
  | call c k ih =>
    intro r hr
    refine ih r ?_
    rw [hn]
    exact h r (ha x c r hr)

/-- A weakest precondition may be shown under fewer admitted answers. -/
theorem wp_of_adm {E' : Env S R} (hn : E'.next = E.next)
    (ha : ∀ s c r, E'.adm s c r → E.adm s c r) {p : Prog R α} (h : wp E p Q s) :
    wp E' p Q s := by
  refine wp_of_proj (f := id) ha (fun x c r => ?_) h
  rw [hn, id, id]

/-- The environment that only gives the answers that satisfy `φ`. -/
def Env.restrict (E : Env S R) (φ : (c : C) → R c → Prop) : Env S R :=
  { E with adm := fun s c r => E.adm s c r ∧ φ c r }

theorem wp_restrict {φ : (c : C) → R c → Prop} {p : Prog R α} (h : wp E p Q s) :
    wp (E.restrict φ) p Q s := by
  have hn : (E.restrict φ).next = E.next := rfl
  exact wp_of_adm hn (fun _ _ _ hr => hr.1) h

/-! ## Invariants -/

/-- The program `p` keeps the property `I`, under every admitted answer. -/
def Keeps (E : Env S R) (I : S → Prop) (p : Prog R α) : Prop :=
  ∀ s, I s → wp E p (fun _ s' => I s') s

namespace Keeps

variable {I : S → Prop} {p : Prog R α} {f : α → Prog R β}

theorem pure {a : α} : Keeps E I (Pure.pure a) := fun _ h => h

theorem bind (hp : Keeps E I p) (hf : ∀ a, Keeps E I (f a)) : Keeps E I (p >>= f) :=
  fun s h => wp.bind (hp s h) fun a s' h' => hf a s' h'

theorem perform {c : C} (h : ∀ s r, I s → E.adm s c r → I (E.next s c r)) :
    Keeps E I (Prog.perform c) := fun s hs r hr => h s r hs hr

theorem ite {b : Prop} [Decidable b] {q : Prog R α} (hp : Keeps E I p) (hq : Keeps E I q) :
    Keeps E I (if b then p else q) := by
  split
  · exact hp
  · exact hq

theorem foldlM {f : β → α → Prog R β} (hf : ∀ b a, Keeps E I (f b a)) (l : List α) (b : β) :
    Keeps E I (l.foldlM f b) := by
  induction l generalizing b with
  | nil => exact .pure
  | cons a l ih =>
    rw [List.foldlM_cons]
    exact .bind (hf b a) ih

end Keeps

/-! ## Executions -/

/-- `Runs E p s a s'`: from the state `s`, the program `p` may return `a` in the
    state `s'`. -/
inductive Runs (E : Env S R) : Prog R α → S → α → S → Prop
  | ret {a : α} {s : S} : Runs E (.ret a) s a s
  | call {c : C} {k : R c → Prog R α} {s s' : S} {r : R c} {a : α} (hr : E.adm s c r)
      (h : Runs E (k r) (E.next s c r) a s') : Runs E (.call c k) s a s'

/-- The weakest precondition is what all executions guarantee. -/
theorem wp_iff_runs {p : Prog R α} : wp E p Q s ↔ ∀ a s', Runs E p s a s' → Q a s' := by
  constructor
  · intro h a s' hrun
    induction hrun with
    | ret => exact h
    | call hr _ ih => exact ih (h _ hr)
  · intro h
    induction p generalizing s with
    | ret a => exact h a s .ret
    | call c k ih => exact fun r hr => ih r fun a s' hk => h a s' (.call hr hk)

theorem Runs.of_wp {p : Prog R α} {a : α} (h : Runs E p s a s') (hwp : wp E p Q s) : Q a s' :=
  wp_iff_runs.1 hwp a s' h

/-- The execution of a program under one choice of answers. -/
def exec (E : Env S R) (ω : S → (c : C) → R c) : Prog R α → S → α × S
  | ret a, s => (a, s)
  | call c k, s => exec E ω (k (ω s c)) (E.next s c (ω s c))

theorem exec_bind {ω : S → (c : C) → R c} (p : Prog R α) (f : α → Prog R β) (s : S) :
    exec E ω (p >>= f) s = exec E ω (f (exec E ω p s).1) (exec E ω p s).2 := by
  induction p generalizing s with
  | ret a => rfl
  | call c k ih => exact ih _ _

/-- An execution depends on the states after the commands only. -/
theorem exec_congr {E' : Env S R} (hn : E'.next = E.next) {ω : S → (c : C) → R c} (p : Prog R α)
    (s : S) : exec E' ω p s = exec E ω p s := by
  induction p generalizing s with
  | ret a => rfl
  | call c k ih =>
    rw [exec, exec, hn]
    exact ih _ _

/-- An execution under answers that are admitted where an invariant holds, which they keep, is an
    execution of the program. -/
theorem runs_exec_of_inv {ω : S → (c : C) → R c} {I : S → Prop}
    (hω : ∀ s c, I s → E.adm s c (ω s c)) (hI : ∀ s c, I s → I (E.next s c (ω s c)))
    (p : Prog R α) {s : S} (hs : I s) : Runs E p s (exec E ω p s).1 (exec E ω p s).2 := by
  induction p generalizing s with
  | ret a => exact .ret
  | call c k ih => exact .call (hω s c hs) (ih _ (hI s c hs))

/-- An execution under admitted answers is an execution of the program. -/
theorem runs_exec {ω : S → (c : C) → R c} (hω : ∀ s c, E.adm s c (ω s c)) (p : Prog R α) (s : S) :
    Runs E p s (exec E ω p s).1 (exec E ω p s).2 :=
  @runs_exec_of_inv C R α S E ω (fun _ => True) (fun s c _ => hω s c) (fun _ _ _ => trivial) p s trivial

end Interaction
