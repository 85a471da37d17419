import P11Prov.Session.Fetch
import Mathlib.Data.Set.Insert

/-!
# What an acquired session is worth
-/

namespace P11Prov

open Interaction

variable {O : Oracle} {st st' st'' : State} {s : SessId} {slot : Slot} {slotid : SlotId}
  {flags : Flags} {ctx : Ctx} {req : Request}

namespace State

/-- The pooled sessions that are in use. -/
def inUse (st : State) : Set SessId := {s | st.mem.Pooled s ∧ (st.mem.sess s).inUse}

/-- No session that can be recycled has lost its handle: `token_session_close` would
    leave it broken. -/
def NoStuck (st : State) : Prop :=
  ∀ s, st.mem.Pooled s → (st.mem.sess s).recyclable → (st.mem.sess s).session ≠ ckInvalidHandle

end State

theorem Session.isBroken_of_recyclable {x : Session} (h : x.recyclable) : x.isBroken := by
  simp only [recyclable, Bool.and_eq_true] at h
  exact h.1.2

namespace Works

variable (h : Works O s st st')
include h

theorem pooled {s' : SessId} : st'.mem.Pooled s' ↔ st.mem.Pooled s' := by
  rw [Mem.Pooled, h.num, Mem.Pooled]

theorem inUse_eq : st'.inUse = st.inUse := by
  ext s'
  by_cases hs : s' = s
  · subst hs
    simp [State.inUse, h.pooled, h.inUse]
  · simp [State.inUse, h.pooled, h.other s' hs]

theorem unbroken (hb : (st.mem.sess s).isBroken = false) : (st'.mem.sess s).isBroken = false := by
  by_contra hb'
  simp [h.broken (by simpa using hb')] at hb

theorem noStuck (hb : (st.mem.sess s).isBroken = false) (hn : st.NoStuck) : st'.NoStuck := by
  intro s' hp hr
  by_cases hs : s' = s
  · subst hs
    simp [Session.recyclable, h.unbroken hb] at hr
  · rw [h.other s' hs] at hr ⊢
    exact hn s' (h.pooled.1 hp) hr

end Works

/-- Nothing was taken, and no session is stuck that was not stuck before. -/
structure Settled (st st' : State) : Prop where
  inUse : st'.inUse = st.inUse
  noStuck : st.NoStuck → st'.NoStuck

/-- The session `s` of the pool of a slot was taken, and nothing else. -/
structure Took (st st' : State) (slotid : SlotId) (s : SessId) : Prop where
  slot : s.slot = slotid
  not_mem : s ∉ st.inUse
  inUse : st'.inUse = insert s st.inUse
  noStuck : st.NoStuck → st'.NoStuck
  unbroken : st.NoStuck → (st'.mem.sess s).isBroken = false

theorem Settled.refl : Settled st st := ⟨rfl, id⟩

theorem Settled.trans (h : Settled st st') (h' : Settled st' st'') : Settled st st'' :=
  ⟨h'.inUse.trans h.inUse, fun hn => h'.noStuck (h.noStuck hn)⟩

theorem Took.after (h : Settled st st') (h' : Took st' st'' slotid s) : Took st st'' slotid s where
  slot := h'.slot
  not_mem := h.inUse ▸ h'.not_mem
  inUse := h.inUse ▸ h'.inUse
  noStuck hn := h'.noStuck (h.noStuck hn)
  unbroken hn := h'.unbroken (h.noStuck hn)

theorem Took.works (h : Took st st' slotid s) (hw : Works O s st' st'') : Took st st'' slotid s where
  slot := h.slot
  not_mem := h.not_mem
  inUse := hw.inUse_eq.trans h.inUse
  noStuck hn := hw.noStuck (h.unbroken hn) (h.noStuck hn)
  unbroken hn := hw.unbroken (h.unbroken hn)

theorem Took.release (h : Took st st' slotid s) : Settled st (st'.release s) where
  inUse := by
    ext s'
    by_cases hs : s' = s
    · subst hs
      have hout : s' ∉ (st'.release s').inUse := by simp [State.inUse, State.release]
      exact iff_of_false hout h.not_mem
    · have : s' ∈ (st'.release s).inUse ↔ s' ∈ st'.inUse := by
        simp [State.inUse, State.release, Mem.setSess_sess_ne hs]
      rw [this, h.inUse]
      simp [hs]
  noStuck hn s' hp hr := by
    by_cases hs : s' = s
    · subst hs
      have hb := Session.isBroken_of_recyclable hr
      simp [State.release, h.unbroken hn] at hb
    · have hp' : st'.mem.Pooled s' := hp
      simp only [State.release, Mem.setSess_sess_ne hs] at hr ⊢
      exact h.noStuck hn s' hp' hr

theorem Took.of (hslot : s.slot = slotid) (hs : s ∉ st.inUse) (hp : st'.mem.Pooled s) (hu : (st'.mem.sess s).inUse)
    (hb : st.NoStuck → (st'.mem.sess s).isBroken = false)
    (hpool : ∀ s', s' ≠ s → (st'.mem.Pooled s' ↔ st.mem.Pooled s'))
    (hother : ∀ s', s' ≠ s → st'.mem.sess s' = st.mem.sess s') : Took st st' slotid s where
  slot := hslot
  not_mem := hs
  inUse := by
    ext s'
    by_cases h : s' = s
    · subst h
      simp [State.inUse, hp, hu]
    · simp [State.inUse, h, hpool s' h, hother s' h]
  noStuck hn s' hp' hr := by
    by_cases h : s' = s
    · subst h
      simp [Session.recyclable, hb hn] at hr
    · rw [hother s' h] at hr ⊢
      exact hn s' ((hpool s' h).1 hp') hr
  unbroken := hb

/-- A free session that is not broken is taken. -/
theorem Took.take (hslot : s.slot = slotid) (hp : st.mem.Pooled s)
    (hu : (st.mem.sess s).inUse = false) (hb : (st.mem.sess s).isBroken = false) :
    Took st (st.take s) slotid s :=
  .of hslot (by simp [State.inUse, hu]) hp (by simp [State.take])
    (fun _ => by simpa [State.take] using hb) (fun _ _ => Iff.rfl)
    (fun _ h => by simp [State.take, Mem.setSess_sess_ne h])

theorem Mem.pooled_addSess {m : Mem} {s' : SessId} (h : s' ≠ ⟨slotid, m.num slotid⟩) :
    (m.addSess slotid).Pooled s' ↔ m.Pooled s' := by
  obtain ⟨slot', i⟩ := s'
  by_cases hs : slot' = slotid
  · subst hs
    have hi : i ≠ m.num slot' := fun e => h (e ▸ rfl)
    simp only [Mem.Pooled, Mem.addSess, Function.update_self]
    omega
  · simp [Mem.Pooled, Mem.addSess, Function.update_of_ne hs]

/-- A session of the slot was taken, or nothing was. -/
def Fetched (st : State) (slotid : SlotId) (r : Except CkRv SessId) (st' : State) : Prop :=
  match r with
  | .error _ => Settled st st'
  | .ok s => Took st st' slotid s

/-- `fetch_session` takes a session of the slot, or fails and takes none. -/
theorem fetchSession_took {login : Bool} :
    wp (env O) (fetchSession slot flags login) (Fetched st slot.id) st := by
  refine wp_fetchSession_of ⟨fun _ _ => .refl, fun _ s hs _ hu hb => ?_, fun s hs hf => ?_,
    fun s hs hr => ?_, fun _ _ => ?_⟩
  · obtain ⟨hslot, hp⟩ := Mem.mem_pool.1 hs
    exact .take hslot hp (by simpa using hu) (by simpa using hb)
  · obtain ⟨hslot, hp⟩ := Mem.mem_pool.1 hs
    simp only [Session.free, Bool.and_eq_true, Bool.not_eq_eq_eq_not, Bool.not_true] at hf
    exact .take hslot hp hf.1.1 hf.2
  · obtain ⟨hslot, hp⟩ := Mem.mem_pool.1 hs
    have hr' := hr
    simp only [Session.recyclable, Bool.and_eq_true, Bool.not_eq_eq_eq_not, Bool.not_true,
      beq_iff_eq] at hr'
    have h0 : ((st.take s).mem.sess s).refs ≤ 0 :=
      (Session.refs_le_refcnt _).trans (by simp [State.take, hr'.2])
    refine wp_mono (tokenSessionClose_spec h0) ?_
    rintro - st' ⟨hw, hb⟩
    refine .of hslot (by simp [State.inUse, hr'.1.1]) (hw.pooled.2 hp) (by simp [hw.inUse, State.take])
      (fun hn => hb ?_) (fun _ _ => hw.pooled) (fun s' h => ?_)
    · simpa [State.take] using hn s hp hr
    · rw [hw.other s' h, State.take, Mem.setSess_sess_ne h]
  · refine .of rfl ?_ ?_ ?_ (fun _ => ?_) (fun _ h => Mem.pooled_addSess h) (fun s' h => ?_)
    · simp [State.inUse, Mem.Pooled]
    · simp [Mem.Pooled, Mem.addSess]
    · simp [Mem.addSess]
    · simp [Mem.addSess]
    · simp [Mem.addSess, Function.update_of_ne h]

theorem returnSession_settled (h : Took st st' slotid s) :
    wp (env O) (returnSession ctx s) (fun _ st'' => Settled st st'') st' := by
  refine wp_mono returnSession_spec ?_
  rintro _ _ ⟨st₁, hw, rfl⟩
  exact (h.works hw).release

/-! ## The login on the way -/

variable {uri : Option Uri} {pwCb reqlogin : Bool}

theorem finishLogin_settled (h : Took st st' slotid s) {ret : CkRv} :
    wp (env O) (finishLogin ctx false s ret) (fun _ st'' => Settled st st'') st' := by
  simp only [finishLogin, Bool.false_eq_true, ↓reduceIte]
  split
  · exact wp.bind (returnSession_settled h) fun _ _ h => h
  · simp only [unmarkLogin, Prog.perform_eq, Prog.call_bind, Prog.ret_bind, wp_loadSess, wp_bind]
    split
    · rename_i hl
      simp only [wp_deref, wp_storeSess, Mem.setSess_setSess, wp_ret]
      exact returnSession_settled (h.works (Works.unmark (O := O) hl))
    · exact returnSession_settled h

theorem loginWith_settled {r : Except CkRv SessId} (h : Fetched st slot.id r st') :
    wp (env O) (loginWith ctx slot uri pwCb false r) (fun _ st'' => Settled st st'') st' := by
  cases r with
  | error ret => exact h
  | ok s => exact wp.bind loginSession_spec fun _ _ hw => finishLogin_settled (Took.works h hw)

theorem fetchAttempts_took {n : Nat} (h : Settled st st') :
    wp (env O) (fetchAttempts slot n) (Fetched st slot.id) st' := by
  have hfetch : wp (env O) (fetchSession slot defltSessionFlags true) (Fetched st slot.id) st' := by
    refine wp_mono fetchSession_took ?_
    rintro (ret | s) st₁ h₁
    · exact h.trans h₁
    · exact .after h h₁
  induction n generalizing st' with
  | zero => exact hfetch
  | succ n ih =>
    refine wp.bind hfetch ?_
    rintro (ret | s) st₁ h₁
    · refine ih h₁ (wp_mono fetchSession_took ?_)
      rintro (ret | s) st₂ h₂
      · exact Settled.trans h₁ h₂
      · exact .after h₁ h₂
    · exact h₁

theorem slotLogin_settled : wp (env O) (slotLogin ctx slot uri pwCb reqlogin false)
    (fun _ st' => Settled st st') st := by
  refine wp.bind fetchSession_took fun r st₁ h => ?_
  split
  · rename_i hr
    rw [hr.1] at h
    exact h
  split
  · exact loginWith_settled h
  · rename_i hn
    cases r with
    | ok s => simp [Except.isOk, Except.toBool] at hn
    | error ret =>
      simp only [Prog.perform_eq, Prog.call_bind, Prog.ret_bind, wp_callExt]
      intro n _
      exact wp.bind (fetchAttempts_took h) fun _ _ => loginWith_settled

theorem trySlot_settled : wp (env O) (trySlot ctx req slot) (fun _ st' => Settled st st') st := by
  simp only [trySlot]
  split
  · exact .refl
  split
  · exact wp.bind slotLogin_settled fun _ _ h => h
  · exact .refl

theorem cycleSlots_settled {id : SlotId} {ret : CkRv} {slots : List Slot} :
    wp (env O) (cycleSlots ctx req id ret slots) (fun _ st' => Settled st st') st := by
  induction slots generalizing id ret st with
  | nil => exact .refl
  | cons slot slots ih =>
    simp only [cycleSlots]
    split
    · exact ih
    · refine wp.bind trySlot_settled fun ret st₁ h => ?_
      split
      · exact h
      · exact wp_mono ih fun _ _ => h.trans

/-! ## The acquired session -/

/-- What a request for a session with certain flags comes to: on success a session that
    was taken and has an open handle with these flags, else nothing taken. -/
def Outcome (O : Oracle) (flags : Flags) (st : State) (r : Except CkRv SessId) (st' : State) :
    Prop :=
  match r with
  | .error _ => Settled st st'
  | .ok s => Took st st' s.slot s ∧ (OpensFresh O → ReportsOpen O → st'.HasOpen s flags)

theorem Outcome.after {r : Except CkRv SessId} (h : Settled st st')
    (h' : Outcome O flags st' r st'') : Outcome O flags st r st'' := by
  cases r with
  | error ret => exact h.trans h'
  | ok s => exact ⟨.after h h'.1, h'.2⟩

theorem openOnSlot_outcome : wp (env O) (openOnSlot ctx req slot)
    (fun r st' => Outcome O req.flags st r st' ∧ ∀ s, r = .ok s → s.slot = slot.id) st := by
  refine wp.bind fetchSession_took ?_
  rintro (ret | s) st₁ h₁
  · exact ⟨h₁, nofun⟩
  have hfail : ∀ {st₂ ret}, Took st st₂ slot.id s → wp (env O) (do
      returnSession ctx s
      return (.error ret : Except CkRv SessId))
      (fun r st' => Outcome O req.flags st r st' ∧ ∀ s, r = .ok s → s.slot = slot.id) st₂ :=
    fun h => wp.bind (returnSession_settled h) fun _ _ h => ⟨h, nofun⟩
  have hslot : ∀ {s'}, (.ok s : Except CkRv SessId) = .ok s' → s'.slot = slot.id :=
    fun e => Except.ok.inj e ▸ Took.slot h₁
  refine wp.bind sessionCheck_spec ?_
  rintro ret st₂ ⟨hw, hok, hclosed⟩
  have h₂ : Took st st₂ slot.id s := Took.works h₁ hw
  split
  · exact hfail h₂
  rename_i hret
  simp only [Prog.perform_eq, Prog.call_bind, Prog.ret_bind, wp_loadSess]
  split
  · rename_i hs
    refine ⟨⟨h₂.slot ▸ h₂, fun _ hO => ?_⟩, fun _ => hslot⟩
    rcases not_and_or.1 hret with h | h
    · rcases hok (not_not.1 h) hO with ⟨h0, rfl⟩ | h
      · exact absurd h0 hs
      · exact h
    · exact absurd (hclosed (not_not.1 h)) hs
  · refine wp.bind tokenSessionOpen_spec fun ret st₃ h => ?_
    split
    · exact hfail (h₂.works h.1)
    · rename_i hret
      exact ⟨⟨h₂.slot ▸ h₂.works h.1, fun hO _ => h.2 (not_not.1 hret) hO⟩, fun _ => hslot⟩

theorem getSessionNext_outcome : wp (env O) (getSessionNext ctx slotid req)
    (fun r st' => Outcome O req.flags st (r.1.map (·.1)) st' ∧
      ∀ s id, r.1 = .ok (s, id) → s.slot = id) st := by
  refine wp.bind cycleSlots_settled ?_
  rintro (ret | ⟨slot, slots⟩) st₁ h₁
  · exact ⟨h₁, nofun⟩
  · refine wp.bind openOnSlot_outcome ?_
    rintro (ret | s) st₂ ⟨h₂, hs⟩
    · exact ⟨.after h₁ h₂, nofun⟩
    · refine ⟨.after h₁ h₂, ?_⟩
      rintro s' id ⟨⟩
      exact hs s rfl

theorem getSession_outcome : wp (env O) (getSession ctx slotid req)
    (fun r st' => Outcome O req.flags st r st' ∧
      ∀ s, r = .ok s → slotid ≠ ckUnavailableInformation → s.slot = slotid) st := by
  simp only [getSession]
  split
  · rename_i hs
    exact wp.bind getSessionNext_outcome fun r _ h => ⟨h.1, fun _ _ h => absurd hs h⟩
  · cases hslot : ctx.getSlotById slotid with
    | none => exact ⟨Settled.refl, nofun⟩
    | some slot =>
      have hid : slot.id = slotid := by simpa using List.find?_some hslot
      refine wp.bind trySlot_settled fun ret st₁ h₁ => ?_
      split
      · exact ⟨h₁, nofun⟩
      · exact wp_mono openOnSlot_outcome fun r st₂ h₂ =>
          ⟨.after h₁ h₂.1, fun s hr _ => (h₂.2 s hr).trans hid⟩

/-- The handle of a referenced session that can be taken is not lost: the check accepts a
    session without a handle, and the session is then not opened again. -/
def State.RefHandle (st : State) (s : SessId) : Prop :=
  (st.mem.sess s).inUse = false → (st.mem.sess s).isBroken = false →
    (st.mem.sess s).session ≠ ckInvalidHandle

/-- What trying the referenced session comes to. -/
def RefOutcome (O : Oracle) (flags : Flags) (st : State) (s : SessId) (b : Bool) (st' : State) :
    Prop :=
  if b then Took st st' s.slot s ∧ (OpensFresh O → ReportsOpen O → st'.HasOpen s flags)
  else Settled st st'

theorem tryRef_outcome (hp : st.mem.Pooled s) (hr : st.RefHandle s) :
    wp (env O) (tryRef s req) (fun b st' => RefOutcome O req.flags st s b st') st := by
  simp only [tryRef, Prog.perform_eq, Prog.call_bind, Prog.ret_bind, wp_tryTake]
  split
  · rename_i hx
    have htest : (!(st.mem.sess s).inUse && !(st.mem.sess s).isBroken) = false := by
      revert hx
      cases (st.mem.sess s).inUse <;> simp
    simp only [htest, Bool.false_eq_true, ↓reduceIte, wp_pure]
    exact Settled.refl
  · rename_i hx
    simp only [Bool.or_eq_true, not_or, Bool.not_eq_true] at hx
    simp only [hx.1, hx.2, Bool.not_false, Bool.and_self, ↓reduceIte]
    have h₁ : Took st (st.take s) s.slot s := .take rfl hp hx.1 hx.2
    have hfin : ∀ {ret st₂}, Took st st₂ s.slot s →
        (ret = Ckr.ok → OpensFresh O → ReportsOpen O → st₂.HasOpen s req.flags) →
        wp (env O) (if ret = Ckr.ok then pure true else do
          mem (.release s)
          return false) (fun b st' => RefOutcome O req.flags st s b st') st₂ := by
      intro ret st₂ h₂ hret
      split
      · rename_i hr
        exact ⟨h₂, hret hr⟩
      · exact fun _ _ => h₂.release
    have hcheck : wp (env O) (sessionCheck s req.flags) _ (st.take s) := sessionCheck_spec
    refine wp.bind hcheck ?_
    rintro ret st₂ ⟨hw, hok, -⟩
    split
    · exact wp.bind tokenSessionOpen_spec fun ret st₃ h =>
        hfin ((h₁.works hw).works h.1) fun hr hO _ => h.2 hr hO
    · refine hfin (h₁.works hw) fun hret _ hO => ?_
      rcases hok hret hO with ⟨h0, -⟩ | h
      · exact absurd (by simpa [State.take] using h0) (hr hx.1 hx.2)
      · exact h

theorem trySessionRef_outcome {obj : Obj} {mechtype : Nat} {rw : Bool}
    (hobj : ∀ s, obj.refSession = some s → s.slot = obj.slotid ∧ st.mem.Pooled s)
    (hr : ∀ s, obj.refSession = some s → st.RefHandle s) :
    wp (env O) (trySessionRef ctx obj mechtype reqlogin rw) (fun r st' =>
      Outcome O (Request.flags { rw }) st r st' ∧
        ∀ s, r = .ok s → obj.slotid ≠ ckUnavailableInformation → s.slot = obj.slotid) st := by
  simp only [trySessionRef]
  split
  · exact ⟨Settled.refl, nofun⟩
  cases hs : obj.refSession with
  | none => exact getSession_outcome
  | some s =>
    obtain ⟨hslot, hp⟩ := hobj s hs
    refine wp.bind (tryRef_outcome hp (hr s hs)) ?_
    rintro (_ | _) st₁ h₁
    · exact wp_mono getSession_outcome fun r st₂ h₂ => ⟨.after h₁ h₂.1, h₂.2⟩
    · exact ⟨h₁, fun s' e _ => Except.ok.inj e ▸ hslot⟩

end P11Prov
