import P11Prov.Session.Works

/-!
# Which session is taken

Run alone, the five loops of `fetch_session` take the first session of the pool
that passes the test of the first loop to find one. `wp_fetchSession` states
this for a request that is not for a login session: the outcome is `Mem.pick`,
else the first broken session that can be recycled, else a new session.
`wp_fetchSession_of` is the rule for both kinds of request, with the kinds of
sessions only and not which of them comes first.
-/

namespace P11Prov

open Interaction

variable {O : Oracle} {st : State} {slot : Slot} {flags : Flags}

/-- The state after the session `s` was taken. -/
def State.take (st : State) (s : SessId) : State :=
  ⟨st.mem.setSess s ({ · with inUse := true }), st.tok⟩

/-- The first session of the pool of a slot that satisfies the test. -/
def Mem.first (m : Mem) (slotid : SlotId) (test : Session → Bool) : Option SessId :=
  (m.pool slotid).find? (test <| m.sess ·)

theorem Mem.mem_pool_of_first {m : Mem} {slotid : SlotId} {test : Session → Bool} {s : SessId}
    (h : m.first slotid test = some s) : s ∈ m.pool slotid := List.mem_of_find?_eq_some h

theorem Mem.of_first {m : Mem} {slotid : SlotId} {test : Session → Bool} {s : SessId}
    (h : m.first slotid test = some s) : test (m.sess s) :=
  List.find?_some (p := fun s => test (m.sess s)) h

theorem Mem.of_first_eq_none {m : Mem} {slotid : SlotId} {test : Session → Bool}
    (h : m.first slotid test = none) : ∀ s ∈ m.pool slotid, ¬test (m.sess s) :=
  List.find?_eq_none.1 h

/-- The free session `fetch_session` takes, if there is one. -/
def Mem.pick (m : Mem) (slotid : SlotId) (flags : Flags) : Option SessId :=
  (m.first slotid fun x => x.cached flags && x.refcnt != 0 && x.free).or <|
    (m.first slotid fun x => x.cached flags && x.free).or <|
    m.first slotid Session.free

theorem wp_orElse {f : SessId → P (Option (Except CkRv SessId))} {k : P (Except CkRv SessId)}
    {slotid : SlotId} {Q : Except CkRv SessId → State → Prop} :
    wp (env O) (orElse slotid f k) Q st ↔
      wp (env O) (Prog.firstM f (st.mem.pool slotid))
        (fun r st' => r.elim (wp (env O) k Q st') (Q · st')) st := by
  simp only [orElse, poolSessions, Prog.perform_eq, Prog.call_bind, Prog.ret_bind, wp_numSessions,
    Prog.pure_eq]
  rw [wp_bind]
  refine Iff.of_eq (congrArg (wp (env O) _ · st) (funext fun r => funext fun st' => ?_))
  cases r <;> rfl

theorem wp_takeFree {test : Session → Bool} {s : SessId}
    {Q : Option (Except CkRv SessId) → State → Prop} :
    wp (env O) (takeFree test s) Q st ↔
      if test (st.mem.sess s) && (st.mem.sess s).free then Q (some (.ok s)) (st.take s)
      else Q none st := by
  simp only [takeFree, Prog.perform_eq, Prog.call_bind, Prog.ret_bind, wp_loadSess, Prog.pure_eq]
  by_cases hskip : ((st.mem.sess s).isLogin || (st.mem.sess s).isBroken || !test (st.mem.sess s)) =
      true
  · have hno : (test (st.mem.sess s) && (st.mem.sess s).free) = false := by
      revert hskip
      simp only [Session.free]
      cases (st.mem.sess s).isLogin <;> cases (st.mem.sess s).isBroken <;>
        cases test (st.mem.sess s) <;> simp
    rw [if_pos hskip, hno, wp_ret, if_neg Bool.false_ne_true]
  · have ht : test (st.mem.sess s) = true := by
      revert hskip
      cases test (st.mem.sess s) <;> simp
    rw [if_neg hskip, wp_tryTake, wp_ret, ht, Bool.true_and]
    cases (st.mem.sess s).free <;> rfl

theorem wp_takeBroken {s : SessId} {Q : Option (Except CkRv SessId) → State → Prop} :
    wp (env O) (takeBroken s) Q st ↔
      if (st.mem.sess s).recyclable then
        wp (env O) (tokenSessionClose s) (fun _ => Q (some (.ok s))) (st.take s)
      else Q none st := by
  simp only [takeBroken, Prog.perform_eq, Prog.call_bind, Prog.ret_bind, wp_loadSess, Prog.pure_eq]
  by_cases hb : (st.mem.sess s).isBroken = true
  · simp only [hb, Bool.not_true, Bool.false_eq_true, ↓reduceIte, wp_tryTake]
    cases hr : (st.mem.sess s).recyclable
    · rfl
    · simp only [↓reduceIte, wp_bind, wp_ret]
      rfl
  · have hr : (st.mem.sess s).recyclable = false := by simp [Session.recyclable, hb]
    simp [hb, hr]

/-- What becomes of a request for a login session that finds `s` marked as one. -/
def takeLoginPost (st : State) (s : SessId) (Q : Except CkRv SessId → State → Prop) : Prop :=
  if (st.mem.sess s).inUse then
    Q (.error (if isLoginState (st.mem.sess s).state then Ckr.userAlreadyLoggedIn
      else Ckr.cantLock)) st
  else if (st.mem.sess s).isBroken then Q (.error Ckr.cantLock) st
  else Q (.ok s) (st.take s)

theorem wp_takeLogin {s : SessId} {Q : Option (Except CkRv SessId) → State → Prop} :
    wp (env O) (takeLogin s) Q st ↔
      if (st.mem.sess s).isLogin then takeLoginPost st s fun r => Q (some r) else Q none st := by
  simp only [takeLogin, Prog.perform_eq, Prog.call_bind, Prog.ret_bind, wp_loadSess, Prog.pure_eq,
    takeLoginPost]
  by_cases hl : (st.mem.sess s).isLogin = true
  · simp only [hl, Bool.not_true, Bool.false_eq_true, ↓reduceIte, wp_tryTake, Bool.true_and]
    cases hu : (st.mem.sess s).inUse <;> cases hb : (st.mem.sess s).isBroken <;> simp [State.take]
  · simp [hl]

theorem wp_takeNew {Q : Except CkRv SessId → State → Prop} :
    wp (env O) (takeNew slot) Q st ↔
      (slot.maxSessions ≤ st.mem.num slot.id → Q (.error Ckr.sessionCount) st) ∧
      (st.mem.num slot.id < slot.maxSessions → Q (.error Ckr.hostMemory) st ∧
        Q (.ok ⟨slot.id, st.mem.num slot.id⟩) ⟨st.mem.addSess slot.id, st.tok⟩) := by
  simp only [takeNew, Prog.perform_eq, Prog.call_bind, Prog.ret_bind, wp_mem, Mem.Answers,
    Mem.after, wp_pure]
  constructor
  · intro h
    refine ⟨fun hmax => ?_, fun hmax => ⟨?_, ?_⟩⟩
    · exact h (Ckr.sessionCount, ⟨0, 0⟩) (.inl ⟨hmax, rfl⟩)
    · exact h (Ckr.hostMemory, ⟨0, 0⟩) (.inr ⟨hmax, .inl rfl⟩)
    · exact h _ (.inr ⟨hmax, .inr rfl⟩)
  · rintro ⟨h₁, h₂⟩ ⟨ret, s⟩ (⟨hmax, rfl⟩ | ⟨hmax, rfl | hr⟩)
    · exact h₁ hmax
    · exact (h₂ hmax).1
    · obtain ⟨rfl, rfl⟩ := Prod.mk.inj hr
      exact (h₂ hmax).2

section Loops

variable {slotid : SlotId} {k : P (Except CkRv SessId)} {Q : Except CkRv SessId → State → Prop}

theorem wp_orElse_takeFree {test : Session → Bool} :
    wp (env O) (orElse slotid (takeFree test) k) Q st ↔
      (st.mem.first slotid fun x => test x && x.free).elim (wp (env O) k Q st)
        fun s => Q (.ok s) (st.take s) := by
  rw [wp_orElse]
  exact wp_firstM (T := fun s Q => Q (Except.ok s) (st.take s)) (fun _ _ => wp_takeFree) _

theorem wp_orElse_takeBroken :
    wp (env O) (orElse slotid takeBroken k) Q st ↔
      (st.mem.first slotid Session.recyclable).elim (wp (env O) k Q st)
        fun s => wp (env O) (tokenSessionClose s) (fun _ => Q (.ok s)) (st.take s) := by
  rw [wp_orElse]
  exact wp_firstM (T := fun s Q =>
    wp (env O) (tokenSessionClose s) (fun _ => Q (Except.ok s)) (st.take s)) (fun _ _ => wp_takeBroken) _

theorem wp_orElse_takeLogin :
    wp (env O) (orElse slotid takeLogin k) Q st ↔
      (st.mem.first slotid Session.isLogin).elim (wp (env O) k Q st) (takeLoginPost st · Q) := by
  rw [wp_orElse]
  exact wp_firstM (fun _ _ => wp_takeLogin) _

end Loops

/-- `fetch_session`, for a request that is not for a login session. -/
theorem wp_fetchSession {Q : Except CkRv SessId → State → Prop} :
    wp (env O) (fetchSession slot flags false) Q st ↔
      (st.mem.pick slot.id flags).elim
        ((st.mem.first slot.id Session.recyclable).elim (wp (env O) (takeNew slot) Q st)
          fun s => wp (env O) (tokenSessionClose s) (fun _ => Q (.ok s)) (st.take s))
        fun s => Q (.ok s) (st.take s) := by
  simp only [fetchSession, Bool.false_eq_true, ↓reduceIte, id_eq, wp_orElse_takeFree,
    wp_orElse_takeBroken, Mem.pick, Bool.true_and]
  cases st.mem.first slot.id fun x => x.cached flags && x.refcnt != 0 && x.free with
  | some s => rfl
  | none =>
    cases st.mem.first slot.id fun x => x.cached flags && x.free with
    | some s => rfl
    | none => rfl

/-- The kinds of sessions `fetch_session` can take. -/
structure FetchCases (O : Oracle) (slot : Slot) (forLogin : Bool)
    (Q : Except CkRv SessId → State → Prop) (st : State) : Prop where
  error : ∀ ret, ret ≠ Ckr.ok → Q (.error ret) st
  login : forLogin = true → ∀ s ∈ st.mem.pool slot.id, (st.mem.sess s).isLogin → !(st.mem.sess s).inUse →
    !(st.mem.sess s).isBroken → Q (.ok s) (st.take s)
  free : ∀ s ∈ st.mem.pool slot.id, (st.mem.sess s).free → Q (.ok s) (st.take s)
  broken : ∀ s ∈ st.mem.pool slot.id, (st.mem.sess s).recyclable →
    wp (env O) (tokenSessionClose s) (fun _ => Q (.ok s)) (st.take s)
  fresh : (forLogin = true → ∀ s ∈ st.mem.pool slot.id, ¬(st.mem.sess s).isLogin) →
    st.mem.num slot.id < slot.maxSessions →
    Q (.ok ⟨slot.id, st.mem.num slot.id⟩) ⟨st.mem.addSess slot.id, st.tok⟩

theorem Mem.pick_free {m : Mem} {slotid : SlotId} {s : SessId}
    (h : m.pick slotid flags = some s) : s ∈ m.pool slotid ∧ (m.sess s).free := by
  simp only [pick, Option.or_eq_some_iff] at h
  rcases h with h | ⟨-, h | ⟨-, h⟩⟩
  all_goals
    refine ⟨mem_pool_of_first h, ?_⟩
    have := of_first h
    simp_all

/-- `fetch_session`, by the kind of session that is taken. -/
theorem wp_fetchSession_of {login : Bool} {Q : Except CkRv SessId → State → Prop}
    (h : FetchCases O slot login Q st) : wp (env O) (fetchSession slot flags login) Q st := by
  have hnologin : (login = true → ∀ s ∈ st.mem.pool slot.id, ¬(st.mem.sess s).isLogin) →
      wp (env O) (fetchSession slot flags false) Q st := by
    intro hno
    rw [wp_fetchSession]
    cases hp : st.mem.pick slot.id flags with
    | some s => exact h.free s (Mem.pick_free hp).1 (Mem.pick_free hp).2
    | none =>
      cases hr : st.mem.first slot.id Session.recyclable with
      | some s => exact h.broken s (Mem.mem_pool_of_first hr) (Mem.of_first hr)
      | none =>
        exact wp_takeNew.2 ⟨fun _ => h.error _ (by decide),
          fun hmax => ⟨h.error _ (by decide), h.fresh hno hmax⟩⟩
  cases login with
  | false => exact hnologin (by simp)
  | true =>
    simp only [fetchSession, ↓reduceIte]
    rw [wp_orElse_takeLogin]
    cases hl : st.mem.first slot.id Session.isLogin with
    | none => exact hnologin fun _ => Mem.of_first_eq_none hl
    | some s =>
      simp only [Option.elim_some, takeLoginPost]
      split
      · exact h.error _ (by split <;> decide)
      split
      · exact h.error _ (by decide)
      · exact h.login rfl s (Mem.mem_pool_of_first hl) (Mem.of_first hl) (by simp_all) (by simp_all)

end P11Prov
