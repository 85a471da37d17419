import P11Prov.Object.Handles

/-!
# Sessions that are held

Whoever holds a session can rely on it: the session layer, asked for another
session, neither touches the record of a session that is in use nor what its
handle runs (`getSession_spares`). All that is needed is that the handles of
the sessions are open and different, which the session layer sees to itself
(`SessionsOpen`), and that `C_OpenSession` does not return a handle that is
open.
-/

namespace P11Prov

open Interaction

variable {O : Oracle} {S : Set SessId} {st st' st'' : State} {s : SessId} {slot : Slot}
  {flags : Flags} {ctx : Ctx} {req : Request} {slotid : SlotId}

/-- What a handle runs after a call on it. -/
theorem Token.op_after_crypto {t : Token} {h : Handle} {c : CryptoCall} {r : CkRv × c.Out} :
    (t.after (.crypto h c) r).op h = c.opAfter (t.op h) r.1 := Function.update_self ..

/-- The sessions of `S` are left alone. -/
structure Spared (S : Set SessId) (st st' : State) : Prop where
  held : S ⊆ st.inUse
  pooled : ∀ s ∈ S, st'.mem.Pooled s
  sess : ∀ s ∈ S, st'.mem.sess s = st.mem.sess s
  op : ∀ s ∈ S, (st.mem.sess s).session ≠ ckInvalidHandle →
    st'.tok.op (st.mem.sess s).session = st.tok.op (st.mem.sess s).session
  handles : SessionsOpen st'

namespace Spared

theorem refl (hS : S ⊆ st.inUse) (hk : SessionsOpen st) : Spared S st st where
  held := hS
  pooled _ hs := (hS hs).1
  sess _ _ := rfl
  op _ _ _ := rfl
  handles := hk

theorem trans (h : Spared S st st') (h' : Spared S st' st'') : Spared S st st'' where
  held := h.held
  pooled := h'.pooled
  sess s hs := (h'.sess s hs).trans (h.sess s hs)
  op s hs hne := by
    have e := h'.op s hs
    rw [h.sess s hs] at e
    exact (e hne).trans (h.op s hs hne)
  handles := h'.handles

theorem mono {S' : Set SessId} (h : Spared S st st') (hS : S' ⊆ S) : Spared S' st st' where
  held := hS.trans h.held
  pooled s hs := h.pooled s (hS hs)
  sess s hs := h.sess s (hS hs)
  op s hs := h.op s (hS hs)
  handles := h.handles

/-- The sessions are still held. -/
theorem inUse (h : Spared S st st') : S ⊆ st'.inUse := by
  intro s hs
  refine ⟨h.pooled s hs, ?_⟩
  rw [h.sess s hs]
  exact (h.held hs).2

/-- A session that is free is none of those. -/
theorem not_mem (h : Spared S st st') (hf : (st'.mem.sess s).inUse = false) : s ∉ S := by
  intro hs
  have hu := (h.inUse hs).2
  rw [hf] at hu
  exact absurd hu (by decide)

theorem works (hO : OpensFresh O) (h : Spared S st st') (hs : s ∉ S) (hw : Works O s st' st'') :
    Spared S st st'' where
  held := h.held
  pooled s' hs' := by
    rw [Mem.Pooled, hw.num]
    exact h.pooled s' hs'
  sess s' hs' := by
    have hne : s' ≠ s := fun e => hs (e ▸ hs')
    exact (hw.other s' hne).trans (h.sess s' hs')
  op s' hs' hne := by
    have e := h.sess s' hs'
    rw [← e] at hne ⊢
    -- the handle is open, and not the one that is worked on
    have hopen := h.handles.live s' hne
    have hother : (st'.mem.sess s').session ≠ (st'.mem.sess s).session := by
      intro he
      exact hs (h.handles.distinct s' s hne he ▸ hs')
    rw [hw.op hO _ hne hopen hother, e]
    exact h.op s' hs' (e ▸ hne)
  handles := h.handles.works hO hw

/-- Assignments to another session that keep its handle. -/
theorem setSess (h : Spared S st st') (hs : s ∉ S) {f : Session → Session}
    (hf : ∀ x, (f x).session = x.session) : Spared S st ⟨st'.mem.setSess s f, st'.tok⟩ where
  held := h.held
  pooled := h.pooled
  sess s' hs' := by
    have hne : s' ≠ s := fun e => hs (e ▸ hs')
    exact (Mem.setSess_sess_ne hne).trans (h.sess s' hs')
  op := h.op
  handles := h.handles.setSess hf

theorem take (h : Spared S st st') (hs : s ∉ S) : Spared S st (st'.take s) :=
  h.setSess hs fun _ => rfl

theorem release (h : Spared S st st') (hs : s ∉ S) : Spared S st (st'.release s) :=
  h.setSess hs fun _ => rfl

/-- A session that is new is none of those. -/
theorem new_not_mem (h : Spared S st st') : (⟨slotid, st'.mem.num slotid⟩ : SessId) ∉ S :=
  fun hs => absurd (h.pooled _ hs) (Nat.lt_irrefl _)

theorem addSess (hO : OpensFresh O) (h : Spared S st st') :
    Spared S st ⟨st'.mem.addSess slotid, st'.tok⟩ where
  held := h.held
  pooled s hs := by
    have hne : s ≠ ⟨slotid, st'.mem.num slotid⟩ := fun e => h.new_not_mem (e ▸ hs)
    exact (Mem.pooled_addSess hne).2 (h.pooled s hs)
  sess s hs := by
    have hne : s ≠ ⟨slotid, st'.mem.num slotid⟩ := fun e => h.new_not_mem (e ▸ hs)
    exact (Mem.addSess_sess_ne hne).trans (h.sess s hs)
  op := h.op
  handles := (SessionsOpen.sessionInvariant hO).addSess slotid h.handles

/-- A call on a handle that none of the sessions has. -/
theorem crypto (h : Spared S st st') {k : Handle} (hk : ∀ s ∈ S,
    (st'.mem.sess s).session ≠ ckInvalidHandle → (st'.mem.sess s).session ≠ k) {c : CryptoCall}
    {r : CkRv × c.Out} : Spared S st ⟨st'.mem, st'.tok.after (.crypto k c) r⟩ where
  held := h.held
  pooled := h.pooled
  sess := h.sess
  op s hs hne := by
    have e := h.sess s hs
    have hk' := hk s hs
    rw [e] at hk'
    exact (Function.update_of_ne (hk' hne) ..).trans (h.op s hs hne)
  handles := h.handles.of_sess_opened rfl fun _ => .inl rfl

/-- The handle of another session is none of theirs. -/
theorem ne_handle (h : Spared S st st') (hs : s ∉ S) : ∀ s' ∈ S,
    (st'.mem.sess s').session ≠ ckInvalidHandle →
      (st'.mem.sess s').session ≠ (st'.mem.sess s).session :=
  fun s' hs' hne he => hs (h.handles.distinct s' s hne he ▸ hs')

end Spared

/-- The sessions of `S` are left alone, and the session that is returned is none of them. -/
def Obtained (S : Set SessId) (st : State) (r : Except CkRv SessId) (st' : State) : Prop :=
  Spared S st st' ∧ ∀ s, r = .ok s → s ∉ S

theorem Obtained.error {ret : CkRv} (h : Spared S st st') : Obtained S st (.error ret) st' :=
  ⟨h, fun _ e => absurd e (by simp)⟩

theorem Obtained.ok (h : Spared S st st') (hs : s ∉ S) : Obtained S st (.ok s) st' :=
  ⟨h, fun _ e => Except.ok.inj e ▸ hs⟩

/-! ## The session layer -/

section Layer

variable (hO : OpensFresh O) {uri : Option Uri} {pwCb reqlogin keep login : Bool}
include hO

theorem fetchSession_spares (h : Spared S st st') :
    wp (env O) (fetchSession slot flags login) (Obtained S st) st' := by
  refine wp_fetchSession_of ⟨fun _ _ => .error h, fun _ s _ _ hu _ => ?_, fun s _ hf => ?_,
    fun s _ hr => ?_, fun _ _ => .ok (h.addSess hO) h.new_not_mem⟩
  · have hs : s ∉ S := h.not_mem (by simpa using hu)
    exact .ok (h.take hs) hs
  · have hs : s ∉ S := by
      simp only [Session.free, Bool.and_eq_true, Bool.not_eq_eq_eq_not, Bool.not_true] at hf
      exact h.not_mem hf.1.1
    exact .ok (h.take hs) hs
  · simp only [Session.recyclable, Bool.and_eq_true, Bool.not_eq_eq_eq_not, Bool.not_true,
      beq_iff_eq] at hr
    have hs : s ∉ S := h.not_mem hr.1.1
    have h0 : ((st'.take s).mem.sess s).refs ≤ 0 := by
      refine (Session.refs_le_refcnt _).trans ?_
      simp [State.take, hr.2]
    refine wp_mono (tokenSessionClose_spec h0) fun _ st₁ hw => ?_
    exact .ok ((h.take hs).works hO hs hw.1) hs

theorem returnSession_spares (h : Spared S st st') (hs : s ∉ S) :
    wp (env O) (returnSession ctx s) (fun _ st'' => Spared S st st'') st' := by
  refine wp_mono returnSession_spec ?_
  rintro _ _ ⟨st₁, hw, rfl⟩
  exact (h.works hO hs hw).release hs

theorem unmarkLogin_spares (h : Spared S st st') (hs : s ∉ S) :
    wp (env O) (unmarkLogin s) (fun _ st'' => Spared S st st'') st' := by
  simp only [unmarkLogin, Prog.perform_eq, Prog.call_bind, Prog.ret_bind, wp_loadSess]
  split
  · rename_i hl
    simp only [wp_deref, wp_storeSess, Mem.setSess_setSess, wp_ret]
    exact h.works hO hs (.unmark hl)
  · exact h

theorem finishLogin_spares (h : Spared S st st') (hs : s ∉ S) {ret : CkRv} :
    wp (env O) (finishLogin ctx keep s ret)
      (fun r st'' => Spared S st st'' ∧ ∀ s', r.2 = some s' → s' ∉ S) st' := by
  simp only [finishLogin]
  split
  · split
    · refine ⟨h, fun s' e => ?_⟩
      obtain rfl := Option.some.inj e
      exact hs
    · exact wp.bind (returnSession_spares hO h hs) fun _ _ h => ⟨h, fun _ e => absurd e (by simp)⟩
  · refine wp.bind (unmarkLogin_spares hO h hs) fun _ st₁ h₁ => ?_
    exact wp.bind (returnSession_spares hO h₁ hs) fun _ _ h => ⟨h, fun _ e => absurd e (by simp)⟩

theorem loginWith_spares {r : Except CkRv SessId} (h : Obtained S st r st') :
    wp (env O) (loginWith ctx slot uri pwCb keep r)
      (fun r st'' => Spared S st st'' ∧ ∀ s', r.2 = some s' → s' ∉ S) st' := by
  cases r with
  | error ret => exact ⟨h.1, fun _ e => absurd e (by simp)⟩
  | ok s =>
    have hs := h.2 s rfl
    exact wp.bind loginSession_spec fun _ _ hw => finishLogin_spares hO (h.1.works hO hs hw) hs

theorem fetchAttempts_spares {n : Nat} (h : Spared S st st') :
    wp (env O) (fetchAttempts slot n) (Obtained S st) st' := by
  induction n generalizing st' with
  | zero => exact fetchSession_spares hO h
  | succ n ih =>
    refine wp.bind (fetchSession_spares hO h) fun r st₁ h₁ => ?_
    cases r with
    | ok s => exact h₁
    | error ret => exact ih h₁.1

theorem slotLogin_spares (h : Spared S st st') :
    wp (env O) (slotLogin ctx slot uri pwCb reqlogin keep)
      (fun r st'' => Spared S st st'' ∧ ∀ s', r.2 = some s' → s' ∉ S) st' := by
  refine wp.bind (fetchSession_spares hO h) fun r st₁ h₁ => ?_
  split
  · exact ⟨h₁.1, fun _ e => absurd e (by simp)⟩
  split
  · exact loginWith_spares hO h₁
  · simp only [Prog.perform_eq, Prog.call_bind, Prog.ret_bind, wp_callExt]
    intro n _
    have h₂ : Spared S st ⟨st₁.mem, st₁.tok.after .cyclewait n⟩ := h₁.1
    exact wp.bind (fetchAttempts_spares hO h₂) fun _ _ => loginWith_spares hO

theorem trySlot_spares (h : Spared S st st') :
    wp (env O) (trySlot ctx req slot) (fun _ st'' => Spared S st st'') st' := by
  simp only [trySlot]
  split
  · exact h
  split
  · exact wp.bind (slotLogin_spares hO h) fun _ _ h => h.1
  · exact h

theorem cycleSlots_spares {id : SlotId} {ret : CkRv} {slots : List Slot} (h : Spared S st st') :
    wp (env O) (cycleSlots ctx req id ret slots) (fun _ st'' => Spared S st st'') st' := by
  induction slots generalizing id ret st' with
  | nil => exact h
  | cons slot slots ih =>
    simp only [cycleSlots]
    split
    · exact ih h
    · refine wp.bind (trySlot_spares hO h) fun ret st₁ h₁ => ?_
      split
      · exact h₁
      · exact ih h₁

theorem openTaken_spares (h : Spared S st st') (hs : s ∉ S) :
    wp (env O) (openTaken ctx req s) (fun r st'' => Obtained S st r st'' ∧
      ∀ s', r = .ok s' → (st''.mem.sess s').session ≠ ckInvalidHandle) st' := by
  have hfail : ∀ {st₁ ret}, Spared S st st₁ → wp (env O) (do
      returnSession ctx s
      return (.error ret : Except CkRv SessId)) (fun r st'' => Obtained S st r st'' ∧
        ∀ s', r = .ok s' → (st''.mem.sess s').session ≠ ckInvalidHandle) st₁ := by
    intro st₁ ret h₁
    refine wp.bind (returnSession_spares hO h₁ hs) fun _ _ h₂ => ⟨.error h₂, ?_⟩
    exact fun _ e => absurd e (by simp)
  refine wp.bind sessionCheck_spec ?_
  rintro ret st₁ ⟨hw, -⟩
  have h₁ := h.works hO hs hw
  split
  · exact hfail h₁
  simp only [Prog.perform_eq, Prog.call_bind, Prog.ret_bind, wp_loadSess]
  split
  · rename_i hne
    refine ⟨.ok h₁ hs, fun s' e => ?_⟩
    obtain rfl := Except.ok.inj e
    exact hne
  · refine wp.bind tokenSessionOpen_spec fun ret st₂ hw₂ => ?_
    split
    · exact hfail (h₁.works hO hs hw₂.1)
    · rename_i hret
      refine ⟨.ok (h₁.works hO hs hw₂.1) hs, fun s' e => ?_⟩
      obtain rfl := Except.ok.inj e
      exact (hw₂.2 (not_not.1 hret) hO).1

theorem openOnSlot_spares (h : Spared S st st') :
    wp (env O) (openOnSlot ctx req slot) (fun r st'' => Obtained S st r st'' ∧
      ∀ s', r = .ok s' → (st''.mem.sess s').session ≠ ckInvalidHandle) st' := by
  refine wp.bind (fetchSession_spares hO h) fun r st₁ h₁ => ?_
  cases r with
  | error ret => exact ⟨h₁, fun _ e => absurd e (by simp)⟩
  | ok s => exact openTaken_spares hO h₁.1 (h₁.2 s rfl)

/-- Asked for a session, the session layer leaves those that are held alone. The session that it
    returns is another one, and has a handle. -/
theorem getSession_spares (h : Spared S st st') :
    wp (env O) (getSession ctx slotid req) (fun r st'' => Obtained S st r st'' ∧
      ∀ s', r = .ok s' → (st''.mem.sess s').session ≠ ckInvalidHandle) st' := by
  simp only [getSession]
  split
  · refine wp_bind.2 (wp.bind (cycleSlots_spares hO h) fun r st₁ h₁ => ?_)
    cases r with
    | error ret => exact ⟨.error h₁, fun _ e => absurd e (by simp [Except.map])⟩
    | ok r =>
      refine wp.bind (openOnSlot_spares hO h₁) fun r st₂ h₂ => ?_
      cases r with
      | error ret => exact ⟨.error h₂.1.1, fun _ e => absurd e (by simp [Except.map])⟩
      | ok s => exact h₂
  · cases ctx.getSlotById slotid with
    | none => exact ⟨.error h, fun _ e => absurd e (by simp)⟩
    | some slot =>
      refine wp.bind (trySlot_spares hO h) fun ret st₁ h₁ => ?_
      split
      · exact ⟨.error h₁, fun _ e => absurd e (by simp)⟩
      · exact openOnSlot_spares hO h₁

end Layer

/-- The session that is obtained is free before and held afterwards. -/
theorem getSession_held (hO : OpensFresh O) (hS : S ⊆ st.inUse) (hk : SessionsOpen st) :
    wp (env O) (getSession ctx slotid req) (fun r st' => Spared S st st' ∧ ∀ s, r = .ok s →
      s ∉ S ∧ s ∈ st'.inUse ∧ (st'.mem.sess s).session ≠ ckInvalidHandle) st := by
  refine wp_mono (wp_and (getSession_spares hO (.refl hS hk)) getSession_outcome) ?_
  rintro r st' ⟨⟨h, hne⟩, hout, -⟩
  refine ⟨h.1, ?_⟩
  rintro s rfl
  have htook : Took st st' s.slot s := hout.1
  exact ⟨h.2 s rfl, htook.inUse ▸ Set.mem_insert s st.inUse, hne s rfl⟩

end P11Prov
