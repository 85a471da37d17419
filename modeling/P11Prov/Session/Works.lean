import P11Prov.Object

/-!
# Working on a session

While a session is held, the functions that check, open, close and log in work
on that session only. `Works` says what such work leaves alone, and what it may
do to the session and to the open handles; it is reflexive and transitive, and
every one of these functions is shown to be such work.

What the outside is relied upon for is said by named conditions on the oracle,
and only where it matters:

* `OpensFresh`: `C_OpenSession` does not return a handle that is still open;
* `NoRelogin`: `C_Login` does not succeed on a session that is already marked as
  the login session.
-/

namespace P11Prov

open Interaction

variable {O : Oracle} {st st' st'' : State} {s s' : SessId} {flags : Flags}

/-- `C_OpenSession` returns a handle that is valid and not open. -/
def OpensFresh (O : Oracle) : Prop :=
  ∀ st slot flags r, O st (.openSession slot flags) r → r.1 = Ckr.ok →
    r.2 ≠ ckInvalidHandle ∧ st.tok.opened r.2 = none

/-- `C_Login` does not succeed on a session that is marked as the login session. -/
def NoRelogin (O : Oracle) : Prop :=
  ∀ st h pin, O st (.login h .user pin) Ckr.ok → ∀ s, (st.mem.sess s).session = h →
    (st.mem.sess s).isLogin = false

/-- The part of the reference counter that is not the login's. -/
def Session.refs (x : Session) : Int := x.refcnt - if x.isLogin then 1 else 0

theorem Session.refs_le_refcnt (x : Session) : x.refs ≤ x.refcnt := by
  unfold refs
  split <;> omega

/-- The handle of the session, if it has one, is open. -/
def Session.Live (x : Session) (t : Token) : Prop :=
  x.session ≠ ckInvalidHandle → t.opened x.session ≠ none

/-- The handle of the session, if it has one, is open on the slot. -/
def Session.Placed (x : Session) (slotid : SlotId) (t : Token) : Prop :=
  x.session ≠ ckInvalidHandle → ∃ o, t.opened x.session = some o ∧ o.slot = slotid

/-- What work on the session `s` may change. -/
structure Works (O : Oracle) (s : SessId) (st st' : State) : Prop where
  num : st'.mem.num = st.mem.num
  objs : st'.mem.objs = st.mem.objs
  other : ∀ s', s' ≠ s → st'.mem.sess s' = st.mem.sess s'
  inUse : (st'.mem.sess s).inUse = (st.mem.sess s).inUse
  broken : (st'.mem.sess s).isBroken → (st.mem.sess s).isBroken
  refs : (st.mem.sess s).refs ≤ (st'.mem.sess s).refs
  refs_eq : NoRelogin O → (st'.mem.sess s).refs = (st.mem.sess s).refs
  /-- The handle is kept, dropped, or a new one. -/
  handle : OpensFresh O → (st'.mem.sess s).session = (st.mem.sess s).session ∨
    (st'.mem.sess s).session = ckInvalidHandle ∨ st.tok.opened (st'.mem.sess s).session = none
  /-- A handle that is open stays so, as long as it is the handle of the session. -/
  live : OpensFresh O → (st.mem.sess s).Live st.tok → (st'.mem.sess s).Live st'.tok
  /-- So does one that is open on the slot of the session. -/
  placed : OpensFresh O → (st.mem.sess s).Placed s.slot st.tok →
    (st'.mem.sess s).Placed s.slot st'.tok
  /-- The other open sessions are left alone. -/
  frame : OpensFresh O → ∀ h, h ≠ ckInvalidHandle → st.tok.opened h ≠ none →
    h ≠ (st.mem.sess s).session → st'.tok.opened h = st.tok.opened h
  /-- Only the handle of the session is closed, and only if no object refers to it. -/
  closed : OpensFresh O → ∀ h, st.tok.opened h ≠ none → st'.tok.opened h = none →
    h = (st.mem.sess s).session ∧ h ≠ ckInvalidHandle ∧ (st.mem.sess s).refs ≤ 0
  /-- What the other open sessions run is left alone. -/
  op : OpensFresh O → ∀ h, h ≠ ckInvalidHandle → st.tok.opened h ≠ none →
    h ≠ (st.mem.sess s).session → st'.tok.op h = st.tok.op h

namespace Works

theorem refl : Works O s st st where
  num := rfl
  objs := rfl
  other _ _ := rfl
  inUse := rfl
  broken := id
  refs := le_rfl
  refs_eq _ := rfl
  handle _ := .inl rfl
  live _ := id
  placed _ := id
  frame _ _ _ _ _ := rfl
  closed _ _ h h' := absurd h' h
  op _ _ _ _ _ := rfl

/-- An open handle that the session does not have is not one that it has after the work. -/
theorem ne_session (h : Works O s st st') (hO : OpensFresh O) {k : Handle} (hk0 : k ≠ ckInvalidHandle)
    (hk : st.tok.opened k ≠ none) (hks : k ≠ (st.mem.sess s).session) :
    k ≠ (st'.mem.sess s).session := by
  rcases h.handle hO with e | e | e
  · rwa [e]
  · rwa [e]
  · rintro rfl
    exact hk e

theorem trans (h : Works O s st st') (h' : Works O s st' st'') : Works O s st st'' where
  num := h'.num.trans h.num
  objs := h'.objs.trans h.objs
  other s' hs := (h'.other s' hs).trans (h.other s' hs)
  inUse := h'.inUse.trans h.inUse
  broken hb := h.broken (h'.broken hb)
  refs := h.refs.trans h'.refs
  refs_eq hO := (h'.refs_eq hO).trans (h.refs_eq hO)
  handle hO := by
    rcases h'.handle hO with e | e | e
    · rw [e]
      exact h.handle hO
    · exact .inr (.inl e)
    · -- a handle that is not open in between was closed by the first part or never open
      by_cases ho : st.tok.opened (st''.mem.sess s).session = none
      · exact .inr (.inr ho)
      · exact .inl (h.closed hO _ ho e).1
  live hO hl := h'.live hO (h.live hO hl)
  placed hO hp := h'.placed hO (h.placed hO hp)
  frame hO k hk0 hk hks := by
    have e := h.frame hO k hk0 hk hks
    exact (h'.frame hO k hk0 (e ▸ hk) (h.ne_session hO hk0 hk hks)).trans e
  closed hO k hk hk'' := by
    by_cases hk' : st'.tok.opened k = none
    · exact h.closed hO k hk hk'
    · obtain ⟨rfl, hne, hr⟩ := h'.closed hO k hk' hk''
      rcases h.handle hO with e | e | e
      · exact ⟨e, hne, h.refs.trans hr⟩
      · exact absurd e hne
      · exact absurd e hk
  op hO k hk0 hk hks := by
    have ho : st'.tok.opened k ≠ none := h.frame hO k hk0 hk hks ▸ hk
    exact (h'.op hO k hk0 ho (h.ne_session hO hk0 hk hks)).trans (h.op hO k hk0 hk hks)

/-- Assignments to the session that keep its handle or drop it. -/
theorem store {f : Session → Session} (hu : (f (st.mem.sess s)).inUse = (st.mem.sess s).inUse)
    (hb : (f (st.mem.sess s)).isBroken → (st.mem.sess s).isBroken)
    (hr : (st.mem.sess s).refs ≤ (f (st.mem.sess s)).refs)
    (hr' : NoRelogin O → (f (st.mem.sess s)).refs = (st.mem.sess s).refs)
    (hh : (f (st.mem.sess s)).session = (st.mem.sess s).session ∨
      (f (st.mem.sess s)).session = ckInvalidHandle) :
    Works O s st ⟨st.mem.setSess s f, st.tok⟩ where
  num := rfl
  objs := rfl
  other _ hs := Mem.setSess_sess_ne hs
  inUse := by simpa using hu
  broken := by simpa using hb
  refs := by simpa using hr
  refs_eq := by simpa using hr'
  handle _ := by simpa using hh.imp_right .inl
  live _ hl := by
    intro hne
    simp only [Mem.setSess_sess] at hne ⊢
    rcases hh with e | e
    · rw [e] at hne ⊢
      exact hl hne
    · exact absurd e hne
  placed _ hp := by
    intro hne
    simp only [Mem.setSess_sess] at hne ⊢
    rcases hh with e | e
    · rw [e] at hne ⊢
      exact hp hne
    · exact absurd e hne
  frame _ _ _ _ _ := rfl
  closed _ _ h h' := absurd h' h
  op _ _ _ _ _ := rfl

/-- A call that neither opens nor closes a handle. -/
theorem token {t : Token} (ho : t.opened = st.tok.opened) (hop : t.op = st.tok.op) :
    Works O s st ⟨st.mem, t⟩ where
  num := rfl
  objs := rfl
  other _ _ := rfl
  inUse := rfl
  broken := id
  refs := le_rfl
  refs_eq _ := rfl
  handle _ := .inl rfl
  live _ hl := by simpa only [Session.Live, ho] using hl
  placed _ hp := by simpa only [Session.Placed, ho] using hp
  frame _ _ _ _ _ := by rw [ho]
  closed _ _ hh hh' := absurd (ho ▸ hh') hh
  op _ _ _ _ _ := by rw [hop]

/-- Only the PINs of the memory change. -/
theorem pins {p : SlotId → Pins} : Works O s st ⟨{ st.mem with pins := p }, st.tok⟩ where
  num := rfl
  objs := rfl
  other _ _ := rfl
  inUse := rfl
  broken := id
  refs := le_rfl
  refs_eq _ := rfl
  handle _ := .inl rfl
  live _ := id
  placed _ := id
  frame _ _ _ _ _ := rfl
  closed _ _ h h' := absurd h' h
  op _ _ _ _ _ := rfl

/-- The token session is closed and its handle dropped; no object may refer to the session. -/
theorem close {f : Session → Session} (hne : (st.mem.sess s).session ≠ ckInvalidHandle)
    (hr : (st.mem.sess s).refs ≤ 0) (hw : Works O s st ⟨st.mem.setSess s f, st.tok⟩)
    (hf : (f (st.mem.sess s)).session = ckInvalidHandle) :
    Works O s st ⟨st.mem.setSess s f, st.tok.closeHandle (st.mem.sess s).session⟩ where
  num := rfl
  objs := rfl
  other := hw.other
  inUse := hw.inUse
  broken := hw.broken
  refs := hw.refs
  refs_eq := hw.refs_eq
  handle _ := .inr (.inl (by simpa using hf))
  live _ _ h := absurd (by simpa using hf) h
  placed _ _ h := absurd (by simpa using hf) h
  frame _ _ _ _ h := Token.opened_closeHandle_ne h
  closed _ h hh hh' := by
    by_cases e : h = (st.mem.sess s).session
    · exact ⟨e, e ▸ hne, hr⟩
    · rw [Token.opened_closeHandle_ne e] at hh'
      exact absurd hh' hh
  op _ _ _ _ h := Function.update_of_ne h ..

/-- A token session is opened and its handle assigned. -/
theorem «open» {h : Handle} {o : OpenSession} (hn : OpensFresh O → st.tok.opened h = none)
    (ho : o.slot = s.slot) :
    Works O s st
      ⟨st.mem.setSess s fun x => { x with session := h, flags := flags }, st.tok.openHandle h o⟩ where
  num := rfl
  objs := rfl
  other _ hs := by simp [Mem.setSess_sess_ne hs]
  inUse := by simp
  broken := by simp
  refs := by simp [Session.refs]
  refs_eq := by simp [Session.refs]
  handle hO := .inr (.inr (by simpa using hn hO))
  live _ _ _ := by simp
  placed _ _ _ := ⟨o, by simp, ho⟩
  frame hO k _ hk _ := Token.opened_openHandle_ne fun e => hk (e ▸ hn hO)
  closed _ k hk hk' := by
    by_cases e : k = h
    · simp [e] at hk'
    · rw [Token.opened_openHandle_ne e] at hk'
      exact absurd hk' hk
  op hO k _ hk _ := by
    have hkh : k ≠ h := fun e => hk (e ▸ hn hO)
    exact Function.update_of_ne hkh ..

end Works

/-! ## The functions that work on a session -/

/-- `C_GetSessionInfo` succeeds on open handles only, and reports the flags the
    session was opened with. -/
def ReportsOpen (O : Oracle) : Prop :=
  ∀ st h r, O st (.getSessionInfo h) r → r.1 = Ckr.ok →
    ∃ o, st.tok.opened h = some o ∧ o.flags = r.2.flags

/-- The session has a handle that is open, with the given flags at least. -/
def State.HasOpen (st : State) (s : SessId) (flags : Flags) : Prop :=
  (st.mem.sess s).session ≠ ckInvalidHandle ∧
    ∃ o, st.tok.opened (st.mem.sess s).session = some o ∧ flags = o.flags &&& flags

theorem wp_openAttempts {slotid : SlotId} {n : Nat} {Q : CkRv × Handle → State → Prop}
    (h : ∀ r, O st (.openSession slotid flags) r →
      Q r ⟨st.mem, st.tok.after (.openSession slotid flags) r⟩) :
    wp (env O) (openAttempts slotid flags n) Q st := by
  induction n with
  | zero => exact h
  | succ n ih =>
    simp only [openAttempts, Prog.perform_eq, Prog.call_bind, Prog.ret_bind, wp_callExt]
    intro r hr
    split
    · -- the token did not open a session, so that nothing has changed
      rename_i hc
      simpa [Token.after, hc] using ih
    · exact h r hr

theorem tokenSessionOpen_spec : wp (env O) (tokenSessionOpen s flags)
    (fun ret st' => Works O s st st' ∧ (ret = Ckr.ok → OpensFresh O → st'.HasOpen s flags)) st := by
  simp only [tokenSessionOpen, Prog.perform_eq, Prog.call_bind, Prog.ret_bind, wp_callExt, wp_bind]
  intro n _
  refine wp_openAttempts fun r hr => ?_
  by_cases hok : r.1 = Ckr.ok
  · have hw : Works O s st ⟨st.mem.setSess s fun x => { x with session := r.2, flags := flags },
        st.tok.openHandle r.2 ⟨s.slot, flags⟩⟩ :=
      .open (fun hO => (hO st s.slot flags r hr hok).2) rfl
    simp only [hok, Token.after, ne_eq, not_true_eq_false, ↓reduceIte, wp_storeSess, wp_callExt]
    intro info _
    by_cases hi : info.1 = Ckr.ok
    · simp only [hi, ↓reduceIte, wp_storeSess, wp_pure]
      refine ⟨hw.trans (.store rfl id le_rfl (fun _ => rfl) (.inl rfl)), fun _ hO => ?_⟩
      have hne := (hO st s.slot flags r hr hok).1
      simpa [State.HasOpen] using hne
    · simp only [hi, ↓reduceIte, wp_pure]
      exact ⟨hw, False.elim⟩
  · simp only [hok, Token.after, ne_eq, not_false_eq_true, ↓reduceIte, wp_storeSess]
    exact ⟨.store rfl id le_rfl (fun _ => rfl) (.inr rfl), fun h => absurd h hok⟩

theorem tokenSessionClose_spec (hr : (st.mem.sess s).refs ≤ 0) :
    wp (env O) (tokenSessionClose s) (fun _ st' => Works O s st st' ∧
      ((st.mem.sess s).session ≠ ckInvalidHandle → (st'.mem.sess s).isBroken = false)) st := by
  simp only [tokenSessionClose, Prog.perform_eq, Prog.call_bind, Prog.ret_bind, wp_loadSess]
  by_cases hs : (st.mem.sess s).session = ckInvalidHandle
  · simp only [hs, ne_eq, not_true_eq_false, ↓reduceIte, wp_pure]
    exact ⟨.refl, False.elim⟩
  · simp only [hs, ne_eq, not_false_eq_true, ↓reduceIte, wp_callExt, wp_storeSess, wp_ret]
    intro _ _
    refine ⟨.close hs hr (.store rfl ?_ le_rfl (fun _ => rfl) (.inr rfl)) rfl, fun _ => ?_⟩
    · simp [Session.closed]
    · simp [Session.closed]

theorem sessionCheck_spec : wp (env O) (sessionCheck s flags) (fun ret st' => Works O s st st' ∧
    (ret = Ckr.ok → ReportsOpen O →
      ((st.mem.sess s).session = ckInvalidHandle ∧ st = st') ∨ st'.HasOpen s flags) ∧
    (ret = Ckr.sessionClosed → (st'.mem.sess s).session = ckInvalidHandle)) st := by
  simp only [sessionCheck, Prog.perform_eq, Prog.call_bind, Prog.ret_bind, wp_loadSess]
  split
  · exact ⟨.refl, by simp, by simp⟩
  split
  · rename_i hs
    exact ⟨.refl, fun _ _ => .inl ⟨hs, rfl⟩, by simp⟩
  rename_i hs
  simp only [wp_callExt]
  intro info hi
  have hlost : ∀ {st₁ : State}, Works O s st₁ ⟨st₁.mem.setSess s .lost, st₁.tok⟩ :=
    .store rfl id le_rfl (fun _ => rfl) (.inr rfl)
  by_cases hok : info.1 = Ckr.ok
  · have hw : Works O s st ⟨st.mem.setSess s fun x => { x with state := info.2.state }, st.tok⟩ :=
      .store rfl id le_rfl (fun _ => rfl) (.inl rfl)
    simp only [hok, ↓reduceIte, wp_storeSess, Token.after]
    by_cases hf : flags = info.2.flags &&& flags
    · simp only [← hf, ↓reduceIte, wp_pure]
      refine ⟨hw, fun _ hO => .inr ?_, by simp⟩
      obtain ⟨o, ho, hof⟩ := hO st _ info hi hok
      exact ⟨by simpa using hs, o, by simpa using ho, by rw [hof]; exact hf⟩
    simp only [hf, ↓reduceIte, wp_loadSess]
    split
    · exact ⟨hw, by simp, by simp⟩
    · rename_i hr
      simp only [wp_callExt, wp_storeSess, wp_pure]
      intro _ _
      have hr0 : (st.mem.sess s).refcnt = 0 := by simpa using hr
      have hc := hw.trans (.close (by simpa using hs)
        ((Session.refs_le_refcnt _).trans (by simp [hr0])) hlost rfl)
      simp only [Mem.setSess_sess] at hc
      exact ⟨hc, by simp, fun _ => by simp [Session.lost]⟩
  · simp only [hok, ↓reduceIte, wp_storeSess, wp_pure, Token.after]
    exact ⟨hlost, False.elim, fun _ => by simp [Session.lost]⟩

theorem checkPinFlagsOk_spec {slotid : SlotId} :
    wp (env O) (checkPinFlagsOk slotid) (fun _ st' => st = st') st := by
  simp only [checkPinFlagsOk, Prog.perform_eq, Prog.call_bind, Prog.ret_bind, wp_callExt]
  intro r _
  split
  · rfl
  split
  · rfl
  split
  · rfl
  split <;> rfl

theorem loginPin_spec {ctx : Ctx} {uri : Option Uri} {pwCb : Bool} {slot : Slot} :
    wp (env O) (loginPin ctx uri pwCb slot) (fun _ st' => st = st') st := by
  simp only [loginPin, Prog.perform_eq, Prog.call_bind, Prog.ret_bind]
  split
  · rfl
  rw [wp_loadPins]
  split
  · rfl
  rw [wp_callExt]
  intro r _
  split <;> rfl

theorem notePin_spec {slotid : SlotId} {pin : Option Pin} {cache : Bool} {ret : CkRv} :
    wp (env O) (notePin slotid pin cache ret)
      (fun _ st' => ∃ p, st' = ⟨{ st.mem with pins := p }, st.tok⟩) st := by
  cases pin with
  | none => exact ⟨_, rfl⟩
  | some pin =>
    have hcache : ∀ st₁ : State, (∃ p, st₁ = ⟨{ st.mem with pins := p }, st.tok⟩) →
        wp (env O) (if (ret = Ckr.ok ∨ ret = Ckr.userAlreadyLoggedIn) ∧ cache then do
          let _ ← mem (.setCachedPin slotid pin) else pure ())
          (fun _ st' => ∃ p, st' = ⟨{ st.mem with pins := p }, st.tok⟩) st₁ := by
      rintro _ ⟨p, rfl⟩
      split
      · exact fun _ _ => ⟨_, rfl⟩
      · exact ⟨_, rfl⟩
    simp only [notePin]
    split
    · exact fun _ _ => hcache _ ⟨_, rfl⟩
    · exact hcache _ ⟨_, rfl⟩

theorem tokenLogin_spec {ctx : Ctx} {uri : Option Uri} {pwCb : Bool} {slot : Slot}
    {userType : UserType} :
    wp (env O) (tokenLogin ctx s uri pwCb slot userType) (fun _ st' => Works O s st st') st := by
  simp only [tokenLogin]
  refine wp.bind loginPin_spec ?_
  rintro (ret | ⟨pin, cache⟩) _ rfl
  · exact .refl
  refine wp.bind checkPinFlagsOk_spec ?_
  rintro ret _ rfl
  split
  · exact .refl
  simp only [Prog.perform_eq, Prog.call_bind, Prog.ret_bind, wp_loadSess, wp_callExt]
  intro ret hlogin
  have htok : Works O s st ⟨st.mem, st.tok.after (.login (st.mem.sess s).session userType pin) ret⟩ := by
    refine .token ?_ ?_
    all_goals
      simp only [Token.after, Token.loginHandle]
      split
      · split <;> rfl
      · rfl
  have hnote : ∀ st₁, Works O s st st₁ → wp (env O) (do
      notePin slot.id pin cache ret
      return if ret = Ckr.userAlreadyLoggedIn then Ckr.ok else ret)
      (fun _ st' => Works O s st st') st₁ := by
    intro st₁ hw
    refine wp.bind notePin_spec ?_
    rintro _ _ ⟨p, rfl⟩
    exact hw.trans .pins
  split
  · rename_i hok
    simp only [wp_ref, wp_storeSess, Mem.setSess_setSess]
    refine hnote _ (htok.trans (.store rfl id ?_ ?_ (.inl rfl)))
    · simp only [Session.refs, Function.comp_apply]
      split <;> simp
    · intro hO
      obtain ⟨rfl, rfl⟩ := hok
      simp [Session.refs, hO st _ pin hlogin s rfl]
  · exact hnote _ htok

/-- The part of `slot_login` that checks, opens and logs in. -/
theorem loginSession_spec {ctx : Ctx} {slot : Slot} {uri : Option Uri} {pwCb : Bool} :
    wp (env O) (loginSession ctx slot uri pwCb s) (fun _ st' => Works O s st st') st := by
  simp only [loginSession, Prog.perform_eq, Prog.call_bind, Prog.ret_bind, wp_loadSess]
  refine wp.bind sessionCheck_spec ?_
  rintro ret st₁ ⟨h₁, -⟩
  split
  · exact h₁
  rw [wp_loadSess]
  have hlogin : ∀ ret st₂, Works O s st st₂ → wp (env O) (if ret ≠ Ckr.ok then pure ret else do
      let x ← mem (.loadSess s)
      if isLoginState x.state then pure Ckr.ok else tokenLogin ctx s uri pwCb slot .user)
      (fun _ st' => Works O s st st') st₂ := by
    intro ret st₂ h₂
    split
    · exact h₂
    simp only [Prog.perform_eq, Prog.call_bind, Prog.ret_bind, wp_loadSess]
    split
    · exact h₂
    · exact wp_mono tokenLogin_spec fun _ _ => h₂.trans
  split
  · exact wp.bind tokenSessionOpen_spec fun ret st₂ h => hlogin ret st₂ (h₁.trans h.1)
  · exact hlogin Ckr.ok _ h₁

/-! ## Giving a session back -/

/-- The state after the session `s` was released. -/
def State.release (st : State) (s : SessId) : State :=
  ⟨st.mem.setSess s ({ · with inUse := false }), st.tok⟩

theorem countOpen_spec {ss : List SessId} :
    wp (env O) (countOpen ss) (fun _ st' => st = st') st := by
  induction ss with
  | nil => rfl
  | cons s ss ih =>
    simp only [countOpen, Prog.perform_eq, Prog.call_bind, Prog.ret_bind, wp_loadSess, wp_bind]
    exact wp_mono ih fun _ _ h => h

theorem returnSession_spec {ctx : Ctx} : wp (env O) (returnSession ctx s)
    (fun _ st' => ∃ st₁, Works O s st st₁ ∧ st' = st₁.release s) st := by
  have hrelease : ∀ st₁, Works O s st st₁ → wp (env O) (mem (.release s))
      (fun _ st' => ∃ st₁, Works O s st st₁ ∧ st' = st₁.release s) st₁ :=
    fun st₁ h _ _ => ⟨st₁, h, rfl⟩
  simp only [returnSession, Prog.perform_eq, Prog.call_bind, Prog.ret_bind, wp_loadSess]
  split
  · rename_i hr
    have hclose := tokenSessionClose_spec (O := O) ((Session.refs_le_refcnt _).trans hr)
    rw [wp_loadSess]
    split
    · exact wp.bind hclose fun _ st₁ h => hrelease st₁ h.1
    · simp only [poolSessions, Prog.perform_eq, Prog.call_bind, Prog.ret_bind, wp_numSessions,
        Prog.pure_eq]
      refine wp.bind countOpen_spec ?_
      rintro n _ rfl
      split
      · exact wp.bind hclose fun _ st₁ h => hrelease st₁ h.1
      · exact hrelease st .refl
  · exact hrelease st .refl

/-- `slot_login` takes the mark off a login session it could not use. -/
theorem Works.unmark (h : (st.mem.sess s).isLogin) : Works O s st ⟨st.mem.setSess s
    ((fun x => { x with isLogin := false }) ∘ fun x => { x with refcnt := x.refcnt - 1 }), st.tok⟩ := by
  refine .store rfl id ?_ (fun _ => ?_) (.inl rfl)
  all_goals simp [Session.refs, h]

end P11Prov
