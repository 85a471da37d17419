import P11Prov.Interaction.Program

/-!
# Programs that agree

Two ways to compare programs:

* a program over some commands becomes one over others when each command is
  carried out by a program (`Prog.interp`);
* two programs over the same commands *agree* (`Agree`) when they have the same
  runs, with results that are related. What one of them does besides does not
  matter as long as it only reads (`Agree.skip`).

Agreement goes along with sequencing (`Agree.bind`), so that a program is
compared with another one part by part, and what one program guarantees the
other one does (`Agree.wp`).
-/

namespace Interaction

variable {C C' : Type} {R : C → Type} {R' : C' → Type} {α β γ δ : Type}

namespace Prog

/-- The program in which each command is carried out by a program over other commands. -/
def interp (f : (c : C) → Prog R' (R c)) : Prog R α → Prog R' α
  | ret a => ret a
  | call c k => f c >>= fun r => interp f (k r)

variable {f : (c : C) → Prog R' (R c)}

@[simp] theorem interp_pure (a : α) : interp f (pure a : Prog R α) = pure a := rfl

@[simp] theorem interp_bind (p : Prog R α) (g : α → Prog R β) :
    interp f (p >>= g) = interp f p >>= fun a => interp f (g a) := by
  induction p with
  | ret a => rfl
  | call c k ih =>
    simp only [call_bind, interp, bind_bind]
    exact congrArg (f c >>= ·) (funext ih)

@[simp] theorem interp_perform (c : C) : interp f (perform c : Prog R (R c)) = f c := bind_ret _

theorem interp_ite {b : Prop} [Decidable b] (p q : Prog R α) :
    interp f (if b then p else q) = if b then interp f p else interp f q := by
  split
  · rfl
  · rfl

end Prog

/-! ## Agreement -/

open Prog

variable {S : Type} {E : Env S R} {T : α → γ → Prop} {T' : β → δ → Prop}

theorem runs_bind {p : Prog R α} {f : α → Prog R β} {s s'' : S} {b : β} :
    Runs E (p >>= f) s b s'' ↔ ∃ a s', Runs E p s a s' ∧ Runs E (f a) s' b s'' := by
  constructor
  · intro h
    refine h.of_wp (Q := fun b s'' => ∃ a s', Runs E p s a s' ∧ Runs E (f a) s' b s'') ?_
    rw [wp_bind]
    exact wp_iff_runs.2 fun a s' hp => wp_iff_runs.2 fun b s'' hf => ⟨a, s', hp, hf⟩
  · rintro ⟨a, s', hp, hf⟩
    have hbind : wp E (p >>= f) (fun b s'' => Runs E (p >>= f) s b s'') s :=
      wp_iff_runs.2 fun _ _ h => h
    exact hf.of_wp (hp.of_wp (wp_bind.1 hbind))

/-- The programs have the same runs, with results that are related. -/
structure Agree (E : Env S R) (T : α → γ → Prop) (p : Prog R α) (q : Prog R γ) : Prop where
  forth : ∀ s a s', Runs E p s a s' → ∃ c, T a c ∧ Runs E q s c s'
  back : ∀ s c s', Runs E q s c s' → ∃ a, T a c ∧ Runs E p s a s'

namespace Agree

theorem refl (p : Prog R α) : Agree E Eq p p where
  forth _ a _ h := ⟨a, rfl, h⟩
  back _ a _ h := ⟨a, rfl, h⟩

theorem mono {U : α → γ → Prop} {p : Prog R α} {q : Prog R γ} (h : Agree E T p q)
    (hT : ∀ a c, T a c → U a c) : Agree E U p q where
  forth s a s' hp := (h.forth s a s' hp).imp fun c h => h.imp_left (hT a c)
  back s c s' hq := (h.back s c s' hq).imp fun a h => h.imp_left (hT a c)

theorem pure {a : α} {c : γ} (h : T a c) :
    Agree E T (Pure.pure a : Prog R α) (Pure.pure c : Prog R γ) where
  forth := by
    rintro s _ _ ⟨⟩
    exact ⟨c, h, .ret⟩
  back := by
    rintro s _ _ ⟨⟩
    exact ⟨a, h, .ret⟩

theorem bind {p : Prog R α} {q : Prog R γ} {f : α → Prog R β} {g : γ → Prog R δ}
    (h : Agree E T p q) (hf : ∀ a c, T a c → Agree E T' (f a) (g c)) :
    Agree E T' (p >>= f) (q >>= g) where
  forth s b s'' hrun := by
    obtain ⟨a, s', hp, hb⟩ := runs_bind.1 hrun
    obtain ⟨c, hT, hq⟩ := h.forth s a s' hp
    obtain ⟨d, hT', hd⟩ := (hf a c hT).forth s' b s'' hb
    exact ⟨d, hT', runs_bind.2 ⟨c, s', hq, hd⟩⟩
  back s d s'' hrun := by
    obtain ⟨c, s', hq, hd⟩ := runs_bind.1 hrun
    obtain ⟨a, hT, hp⟩ := h.back s c s' hq
    obtain ⟨b, hT', hb⟩ := (hf a c hT).back s' d s'' hd
    exact ⟨b, hT', runs_bind.2 ⟨a, s', hp, hb⟩⟩

/-- The same program at first. -/
theorem bind_same {p : Prog R α} {f : α → Prog R β} {g : α → Prog R δ}
    (hf : ∀ a, Agree E T' (f a) (g a)) : Agree E T' (p >>= f) (p >>= g) :=
  (refl p).bind fun a _ e => e ▸ hf a

/-- The results of the second program go through a function. -/
theorem map_right {p : Prog R α} {q : Prog R γ} {g : γ → δ} {U : α → δ → Prop} (h : Agree E T p q)
    (hU : ∀ a c, T a c → U a (g c)) : Agree E U p (q >>= fun c => Pure.pure (g c)) := by
  rw [← bind_pure p]
  exact h.bind fun a c hac => .pure (hU a c hac)

/-- The results of the first program go through a function. -/
theorem map_left {p : Prog R α} {q : Prog R γ} {f : α → β} {U : β → γ → Prop} (h : Agree E T p q)
    (hU : ∀ a c, T a c → U (f a) c) : Agree E U (p >>= fun a => Pure.pure (f a)) q := by
  rw [← bind_pure q]
  exact h.bind fun a c hac => .pure (hU a c hac)

/-- The first program has a command more, which only reads. -/
theorem skip {c : C} {f : R c → Prog R α} {q : Prog R γ} (hadm : ∀ s, ∃ r, E.adm s c r)
    (hnext : ∀ s r, E.adm s c r → E.next s c r = s) (hf : ∀ r, Agree E T (f r) q) :
    Agree E T (perform c >>= f) q where
  forth := by
    rintro s a s' (_ | ⟨hr, hrun⟩)
    rw [hnext s _ hr] at hrun
    exact (hf _).forth s a s' hrun
  back s d s' hrun := by
    obtain ⟨r, hr⟩ := hadm s
    obtain ⟨a, hT, ha⟩ := (hf r).back s d s' hrun
    exact ⟨a, hT, .call hr ((hnext s r hr).symm ▸ ha)⟩

theorem ite {b : Prop} [Decidable b] {p p' : Prog R α} {q q' : Prog R γ}
    (h : b → Agree E T p q) (h' : ¬b → Agree E T p' q') :
    Agree E T (if b then p else p') (if b then q else q') := by
  split
  · exact h ‹b›
  · exact h' ‹¬b›

/-- What one program guarantees, the other one does too. -/
theorem wp {p : Prog R α} {q : Prog R γ} (h : Agree E T p q) {P : α → S → Prop}
    {Q : γ → S → Prop} (hQ : ∀ a c s', T a c → Q c s' → P a s') {s : S}
    (hq : Interaction.wp E q Q s) : Interaction.wp E p P s := by
  refine wp_iff_runs.2 fun a s' hrun => ?_
  obtain ⟨c, hT, hrun'⟩ := h.forth s a s' hrun
  exact hQ a c s' hT (hrun'.of_wp hq)

end Agree

end Interaction
