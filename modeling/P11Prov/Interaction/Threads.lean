import P11Prov.Interaction.Program

/-!
# Programs that run side by side

Any number of threads run programs over one state; a step is one command of one
thread. A thread whose program has returned is idle with what it returned, and
may start another program.

What a thread may rely on is its *view*: a value that its own commands change
and the commands of others do not. A `Protocol` says, for a view, which commands
are allowed, which answers they can get and how they change the view; a program
*follows* the protocol (`follows`) if all its commands are allowed, whatever the
answers are. This is a property of one program alone. The views of all threads
and the state are tied together by an invariant that every allowed command of one
thread keeps (`Protocol.Sound`). Then the invariant holds at any point of any
interleaving of programs that follow the protocol (`Reach.follows`).
-/

namespace Interaction

open Prog

variable {C : Type} {R : C → Type} {α β S L V Tid : Type}

/-! ## Protocols -/

/-- The part of one thread, over views `V` of the state. -/
structure Protocol (V : Type) {C : Type} (R : C → Type) where
  /-- The thread may issue the command. -/
  pre : V → C → Prop
  /-- The answer is one that the thread has to expect. -/
  adm : V → (c : C) → R c → Prop
  /-- The view after the answer. -/
  next : V → (c : C) → R c → V

variable (T : Protocol V R)

/-- The program follows the protocol from the view `v`, and returns with a result and a
    view that satisfy `Q`. -/
def follows : Prog R α → (α → V → Prop) → V → Prop
  | ret a, Q, v => Q a v
  | call c k, Q, v => T.pre v c ∧ ∀ r, T.adm v c r → follows (k r) Q (T.next v c r)

variable {T} {v : V} {P Q : α → V → Prop}

@[simp] theorem follows_ret {a : α} : follows T (ret a) Q v ↔ Q a v := Iff.rfl

@[simp] theorem follows_pure {a : α} : follows T (pure a) Q v ↔ Q a v := Iff.rfl

theorem follows_mono {p : Prog R α} (h : follows T p P v) (hPQ : ∀ a v', P a v' → Q a v') :
    follows T p Q v := by
  induction p generalizing v with
  | ret a => exact hPQ a v h
  | call c k ih => exact ⟨h.1, fun r hr => ih r (h.2 r hr)⟩

/-- Sequencing with a specification of the first program. -/
theorem follows.bind {p : Prog R α} {f : α → Prog R β} {Q : β → V → Prop}
    (h : follows T p P v) (hf : ∀ a v', P a v' → follows T (f a) Q v') :
    follows T (p >>= f) Q v := by
  induction p generalizing v with
  | ret a => exact hf a v h
  | call c k ih => exact ⟨h.1, fun r hr => ih r (h.2 r hr)⟩

/-- A search keeps what its steps keep when they find nothing. -/
theorem follows_firstM {f : α → Prog R (Option β)} {I : V → Prop} {Q : Option β → V → Prop}
    {l : List α} (hv : I v) (hn : ∀ v, I v → Q none v)
    (hf : ∀ a ∈ l, ∀ v, I v → follows T (f a) (fun r v' => r.elim (I v') fun b => Q (some b) v') v) :
    follows T (firstM f l) Q v := by
  induction l generalizing v with
  | nil => exact hn v hv
  | cons a l ih =>
    refine (hf a List.mem_cons_self v hv).bind fun r v' h => ?_
    cases r with
    | some b => exact h
    | none => exact ih h fun b hb => hf b (List.mem_cons_of_mem a hb)

/-- The protocol that allows the commands `ok`, whatever happened before. -/
def Protocol.only (ok : C → Prop) : Protocol Unit R where
  pre _ c := ok c
  adm _ _ _ := True
  next _ _ _ := ()

/-- `Residual p q`: the program `q` is left of `p` after some of its commands. -/
inductive Residual (p : Prog R α) : Prog R α → Prop
  | refl : Residual p p
  | step {c : C} {k : R c → Prog R α} (h : Residual p (call c k)) (r : R c) : Residual p (k r)

theorem follows.residual {ok : C → Prop} {Q : α → Unit → Prop} {p q : Prog R α}
    (h : follows (Protocol.only ok) p Q ()) (hq : Residual p q) :
    follows (Protocol.only ok) q Q () := by
  induction hq with
  | refl => exact h
  | step _ r ih => exact ih.2 r trivial

/-! ## Threads -/

/-- A state and what is left of the program of every thread. -/
structure Threads (S : Type) {C : Type} (R : C → Type) (L Tid : Type) where
  state : S
  prog : Tid → Prog R L

/-- `Reach E start init`: what threads that start idle, with `init`, can lead to. An idle
    thread with `l` may start the program `p` if `start l p`. -/
inductive Reach [DecidableEq Tid] (E : Env S R) (start : L → Prog R L → Prop) (init : L) (s : S) :
    Threads S R L Tid → Prop
  | init : Reach E start init s ⟨s, fun _ => .ret init⟩
  | start {w : Threads S R L Tid} {t : Tid} {l : L} {p : Prog R L}
      (h : Reach E start init s w) (ht : w.prog t = .ret l) (hp : start l p) :
      Reach E start init s ⟨w.state, Function.update w.prog t p⟩
  | issue {w : Threads S R L Tid} {t : Tid} {c : C} {k : R c → Prog R L} {r : R c}
      (h : Reach E start init s w) (ht : w.prog t = .call c k) (hr : E.adm w.state c r) :
      Reach E start init s ⟨E.next w.state c r, Function.update w.prog t (k r)⟩

/-- A thread runs its program while the others wait. -/
theorem Reach.runs [DecidableEq Tid] {E : Env S R} {start : L → Prog R L → Prop} {init : L} {s : S}
    {w : Threads S R L Tid} (h : Reach E start init s w) {t : Tid} {p : Prog R L} {a : L} {s' : S}
    (ht : w.prog t = p) (hr : Runs E p w.state a s') :
    Reach E start init s ⟨s', Function.update w.prog t (.ret a)⟩ := by
  generalize hs : w.state = st at hr
  induction hr generalizing w with
  | ret =>
    subst hs
    rwa [← ht, Function.update_eq_self]
  | call hadm _ ih =>
    subst hs
    have := ih (h.issue ht hadm) (Function.update_self ..) rfl
    rwa [Function.update_idem] at this

/-- The invariant of a protocol: what an allowed command of a thread is answered by is what
    the thread expects, and the invariant holds again with its new view. -/
def Protocol.Sound [DecidableEq Tid] (T : Protocol V R) (E : Env S R) (I : (Tid → V) → S → Prop) :
    Prop :=
  ∀ vs s t c r, I vs s → T.pre (vs t) c → E.adm s c r →
    T.adm (vs t) c r ∧ I (Function.update vs t (T.next (vs t) c r)) (E.next s c r)

/-- Threads whose programs follow a protocol keep its invariant. -/
theorem Reach.follows [DecidableEq Tid] {E : Env S R} {start : L → Prog R L → Prop} {init : L}
    {s : S} {I : (Tid → V) → S → Prop} {Rest : L → V → Prop} {v₀ : V} (hT : T.Sound E I)
    (h₀ : I (fun _ => v₀) s) (hinit : Rest init v₀)
    (hstart : ∀ l p v, start l p → Rest l v → Interaction.follows T p Rest v)
    {w : Threads S R L Tid} (h : Reach E start init s w) :
    ∃ vs, I vs w.state ∧ ∀ t, Interaction.follows T (w.prog t) Rest (vs t) := by
  induction h with
  | init => exact ⟨fun _ => v₀, h₀, fun _ => hinit⟩
  | @start w t l p _ ht hp ih =>
    obtain ⟨vs, hI, hvs⟩ := ih
    refine ⟨vs, hI, fun t' => ?_⟩
    by_cases e : t' = t
    · subst e
      have hl := hvs t'
      rw [ht] at hl
      simpa using hstart l p (vs t') hp hl
    · simpa [e] using hvs t'
  | @issue w t c k r _ ht hr ih =>
    obtain ⟨vs, hI, hvs⟩ := ih
    have hc := hvs t
    rw [ht] at hc
    obtain ⟨hadm, hI'⟩ := hT vs w.state t c r hI hc.1 hr
    refine ⟨_, hI', fun t' => ?_⟩
    by_cases e : t' = t
    · subst e
      simpa using hc.2 r hadm
    · simpa [e] using hvs t'

end Interaction
