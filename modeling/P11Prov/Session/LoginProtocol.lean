import P11Prov.Session.Works

/-!
# The login, from many threads

The session that logs in is marked long after it was taken, and without a lock.
What keeps two threads from marking two sessions is the token, which lets only
one of them log in, together with the marked session staying open. This module
sets up the argument: the `loginProtocol` says what a thread may do with the
sessions it holds, and `LoginInv` ties the views of all threads to the state.

A thread knows the records of the sessions it holds, as nobody else assigns
them. In three places its knowledge is ahead of the record of a session
(`Mode`): a handle was opened that is not yet assigned, a handle was closed that
is still assigned, and a login succeeded that is not yet marked. A session *owns*
its handle unless it was just closed (`Owns`); handles that are owned are open and
different. A session is *marked* if its login succeeded (`Marked`); then its
token session is the one logged in, and no other session owns its handle.
-/

namespace P11Prov

open Interaction

/-- `C_Login` succeeds for a user only on an open session, when nobody is logged in. -/
def LoginOnce (O : Oracle) : Prop :=
  ∀ st h pin, O st (.login h .user pin) Ckr.ok →
    ∃ o, st.tok.opened h = some o ∧ st.tok.login o.slot = none

/-- The counter is not negative, and covers the mark. -/
structure Session.Counted (x : Session) : Prop where
  nonneg : 0 ≤ x.refcnt
  login : x.isLogin → 1 ≤ x.refcnt

/-- How the knowledge of a thread is ahead of the records of its sessions. -/
inductive Mode
  | idle
  /-- A handle was opened on a slot, and is not assigned yet. -/
  | opened (h : Handle) (slotid : SlotId)
  /-- A handle was closed, and is still assigned. -/
  | closed (h : Handle)
  /-- A login succeeded on a handle, and the session is not marked yet. -/
  | loggedIn (h : Handle)
  deriving DecidableEq

/-- What a thread knows: the records of the sessions it holds, and bounds from below on the
    number of sessions of the pools. -/
structure View where
  held : SessId → Option Session := fun _ => none
  num : SlotId → Nat := fun _ => 0
  mode : Mode := .idle

/-- The view with what is known of a session replaced. -/
def View.set (v : View) (s : SessId) (x : Option Session) : View :=
  { v with held := Function.update v.held s x }

@[simp] theorem View.set_held {v : View} {s : SessId} {x : Option Session} :
    (v.set s x).held s = x := Function.update_self ..

theorem View.set_held_ne {v : View} {s s' : SessId} {x : Option Session} (h : s' ≠ s) :
    (v.set s x).held s' = v.held s' := Function.update_of_ne h ..

@[simp] theorem View.set_set {v : View} {s : SessId} {x y : Option Session} :
    (v.set s x).set s y = v.set s y := by
  simp [View.set]

@[simp] theorem View.set_num {v : View} {s : SessId} {x : Option Session} :
    (v.set s x).num = v.num := rfl

@[simp] theorem View.set_mode {v : View} {s : SessId} {x : Option Session} :
    (v.set s x).mode = v.mode := rfl

/-- The assignments to a session, from the record `x` to `y`, that a mode allows. -/
def Mode.Allows (s : SessId) (x y : Session) : Mode → Prop
  | idle => (y.session = x.session ∨ y.session = ckInvalidHandle) ∧ (y.isLogin → x.isLogin)
  | opened h slotid => slotid = s.slot ∧ y.session = h ∧ (y.isLogin → x.isLogin)
  | closed h => x.session = h ∧ y.session = ckInvalidHandle ∧ (y.isLogin → x.isLogin)
  | loggedIn h => x.session = h ∧ y.session = h

/-- What a thread may do on the pool of a slot, and what it gets to know. -/
def loginProtocol (slot : Slot) : Protocol View Cmd.Resp where
  pre v
    | .mem (.storeSess s f) => ∃ x, v.held s = some x ∧ (f x).inUse ∧ (f x).refcnt = x.refcnt ∧
        v.mode.Allows s x (f x)
    | .mem (.tryTake s test) => v.mode = .idle ∧ s.idx < v.num s.slot ∧
        ∀ x, test x → x.inUse = false
    | .mem (.release s) => v.mode = .idle ∧ ∃ x, v.held s = some x ∧ x.Counted
    | .mem (.ref s) | .mem (.deref s) => v.held s ≠ none
    | .mem (.sessionNew slot') => v.mode = .idle ∧ slot' = slot
    | .mem (.loadSess _) | .mem (.numSessions _) | .mem (.loadPins _) | .mem (.setBadPin _ _)
    | .mem (.setCachedPin _ _) => True
    | .mem _ => False
    | .call (.openSession _ _) => v.mode = .idle
    | .call (.closeSession h) => v.mode = .idle ∧ h ≠ ckInvalidHandle ∧
        ∃ s x, v.held s = some x ∧ x.session = h ∧ x.isLogin = false
    | .call (.login h .user _) => v.mode = .idle ∧ h ≠ ckInvalidHandle ∧
        ∃ s x, v.held s = some x ∧ x.session = h
    | .call (.crypto _ _) => False
    | .call _ => True
  adm v
    | .mem (.loadSess s), r => ∀ x, v.held s = some x → r = x
    | .mem (.tryTake s _), r => (∀ x, v.held s = some x → r = x) ∧ (r.inUse = false → r.Counted)
    | .mem (.sessionNew _), r => r.1 = Ckr.ok → v.held r.2 = none
    | .call (.openSession _ _), r => r.1 = Ckr.ok → r.2 ≠ ckInvalidHandle
    | _, _ => True
  next v
    | .mem (.storeSess s f), _ => { v.set s ((v.held s).map f) with mode := .idle }
    | .mem (.tryTake s test), r => if test r then v.set s (some { r with inUse := true }) else v
    | .mem (.release s), _ => v.set s none
    | .mem (.ref s), _ => v.set s ((v.held s).map fun x => { x with refcnt := x.refcnt + 1 })
    | .mem (.deref s), _ => v.set s ((v.held s).map fun x => { x with refcnt := x.refcnt - 1 })
    | .mem (.numSessions slotid), r => { v with num := Function.update v.num slotid r }
    | .mem (.sessionNew _), r =>
      if r.1 = Ckr.ok then v.set r.2 (some { inUse := true }) else v
    | .call (.openSession slotid _), r =>
      if r.1 = Ckr.ok then { v with mode := .opened r.2 slotid } else v
    | .call (.closeSession h), _ => { v with mode := .closed h }
    | .call (.login h .user _), r => if r = Ckr.ok then { v with mode := .loggedIn h } else v
    | _, _ => v

section Invariant

variable {Tid : Type} (slot : Slot) (vs : Tid → View) (st : State)

/-- The session has the handle, and its holder did not just close it. -/
structure Owns (s : SessId) (h : Handle) : Prop where
  session : (st.mem.sess s).session = h
  valid : h ≠ ckInvalidHandle
  mode : ∀ t, (vs t).held s ≠ none → (vs t).mode ≠ .closed h

/-- The session is the login session, or its holder just logged in. -/
def Marked (s : SessId) : Prop :=
  (st.mem.sess s).isLogin ∨ ∃ t, (vs t).held s ≠ none ∧
    (vs t).mode = .loggedIn (st.mem.sess s).session

/-- The views of the threads are right about the sessions they hold. -/
structure HoldInv : Prop where
  sync : ∀ t s x, (vs t).held s = some x → st.mem.sess s = x ∧ x.inUse ∧ st.mem.Pooled s
  disjoint : ∀ t t' s, (vs t).held s ≠ none → (vs t').held s ≠ none → t = t'
  counted : ∀ s, (∀ t, (vs t).held s = none) → (st.mem.sess s).Counted
  num : ∀ t slotid, (vs t).num slotid ≤ st.mem.num slotid
  bound : st.mem.num slot.id ≤ slot.maxSessions

/-- The handles of the sessions, and who is logged in. -/
structure TokInv : Prop where
  owns : ∀ s h, Owns vs st s h → ∃ o, st.tok.opened h = some o ∧ o.slot = s.slot
  distinct : ∀ s s' h, Owns vs st s h → Owns vs st s' h → s = s'
  opened : ∀ t h slotid, (vs t).mode = .opened h slotid → h ≠ ckInvalidHandle ∧
    (∃ o, st.tok.opened h = some o ∧ o.slot = slotid) ∧ (∀ s, ¬Owns vs st s h) ∧
    (∀ slotid', st.tok.login slotid' ≠ some h) ∧
    ∀ t' slotid', (vs t').mode = .opened h slotid' → t' = t
  closed : ∀ t h s s', (vs t).mode = .closed h → (vs t).held s ≠ none → (vs t).held s' ≠ none →
    (st.mem.sess s).session = h → (st.mem.sess s').session = h → s = s'
  unmarked : ∀ t h s, (vs t).mode = .closed h → (vs t).held s ≠ none →
    (st.mem.sess s).session = h → (st.mem.sess s).isLogin = false
  login : ∀ slotid h, st.tok.login slotid = some h → st.tok.opened h ≠ none
  marked : ∀ s, Marked vs st s → ∃ h, st.tok.login s.slot = some h ∧
    ∀ s', Owns vs st s' h → s' = s
  unique : ∀ s s', Marked vs st s → Marked vs st s' → s.slot = s'.slot → s = s'

/-- The invariant of the `loginProtocol`. -/
structure LoginInv : Prop where
  hold : HoldInv slot vs st
  tok : TokInv vs st

end Invariant

section Steps

variable {Tid : Type} {slot : Slot} {vs vs' : Tid → View} {st st' : State} {s : SessId} {h : Handle}

/-- Nothing is owned or marked that was not before, the token did not change, and no thread
    came to open or close a handle. -/
theorem TokInv.mono (hi : TokInv vs st) (ht : st'.tok = st.tok)
    (hown : ∀ s h, Owns vs' st' s h → Owns vs st s h) (hm : ∀ s, Marked vs' st' s → Marked vs st s)
    (hopen : ∀ t h slotid, (vs' t).mode = .opened h slotid → (vs t).mode = .opened h slotid)
    (hcl : ∀ t h s, (vs' t).mode = .closed h → (vs' t).held s ≠ none →
      (st'.mem.sess s).session = h → (vs t).mode = .closed h ∧ (vs t).held s ≠ none ∧
        (st.mem.sess s).session = h ∧ (st'.mem.sess s).isLogin = (st.mem.sess s).isLogin) :
    TokInv vs' st' where
  owns s h hs := ht ▸ hi.owns s h (hown s h hs)
  distinct s s' h hs hs' := hi.distinct s s' h (hown s h hs) (hown s' h hs')
  opened t h slotid hm' := by
    obtain ⟨h0, ho, hno, hl, hu⟩ := hi.opened t h slotid (hopen t h slotid hm')
    exact ⟨h0, ht ▸ ho, fun s hs => hno s (hown s h hs), ht ▸ hl,
      fun t' slotid' h' => hu t' slotid' (hopen t' h slotid' h')⟩
  closed t h s s' hm' hh hh' hs hs' := by
    obtain ⟨h₁, h₂, h₃, -⟩ := hcl t h s hm' hh hs
    obtain ⟨-, h₂', h₃', -⟩ := hcl t h s' hm' hh' hs'
    exact hi.closed t h s s' h₁ h₂ h₂' h₃ h₃'
  unmarked t h s hm' hh hs := by
    obtain ⟨h₁, h₂, h₃, h₄⟩ := hcl t h s hm' hh hs
    exact h₄ ▸ hi.unmarked t h s h₁ h₂ h₃
  login := ht ▸ hi.login
  marked s hs := by
    obtain ⟨h, hl, hu⟩ := hi.marked s (hm s hs)
    exact ⟨h, ht ▸ hl, fun s' hs' => hu s' (hown s' h hs')⟩
  unique s s' hs hs' := hi.unique s s' (hm s hs) (hm s' hs')

/-- A thread replaces what it knows of a session, with the record of it; no other thread holds
    the session. -/
theorem HoldInv.set [DecidableEq Tid] (hi : HoldInv slot vs st) {t : Tid} {x : Option Session}
    {m : Mode} (hs : ∀ s', s' ≠ s → st'.mem.sess s' = st.mem.sess s')
    (hp : ∀ s', st.mem.Pooled s' → st'.mem.Pooled s') (hb : st'.mem.num slot.id ≤ slot.maxSessions)
    (hn : ∀ slotid, st.mem.num slotid ≤ st'.mem.num slotid)
    (hother : ∀ t', t' ≠ t → (vs t').held s = none)
    (hx : ∀ y, x = some y → st'.mem.sess s = y ∧ y.inUse ∧ st'.mem.Pooled s)
    (hc : x = none → (st'.mem.sess s).Counted) :
    HoldInv slot (Function.update vs t { (vs t).set s x with mode := m }) st' := by
  have hheld : ∀ t' s', s' ≠ s →
      (Function.update vs t { (vs t).set s x with mode := m } t').held s' = (vs t').held s' := by
    intro t' s' hs'
    by_cases ht : t' = t
    · subst ht
      simp [View.set_held_ne hs']
    · rw [Function.update_of_ne ht]
  have hother' : ∀ t', t' ≠ t →
      (Function.update vs t { (vs t).set s x with mode := m } t').held s = none := by
    intro t' ht
    rw [Function.update_of_ne ht]
    exact hother t' ht
  refine ⟨fun t' s' x' hx' => ?_, fun t₁ t₂ s' h₁ h₂ => ?_, fun s' hnone => ?_, fun t' slotid => ?_,
    hb⟩
  · by_cases hs' : s' = s
    · subst hs'
      by_cases ht : t' = t
      · subst ht
        exact hx x' (by simpa using hx')
      · rw [hother' t' ht] at hx'
        cases hx'
    · rw [hheld t' s' hs'] at hx'
      obtain ⟨h₁, h₂, h₃⟩ := hi.sync t' s' x' hx'
      exact ⟨(hs s' hs').trans h₁, h₂, hp s' h₃⟩
  · by_cases hs' : s' = s
    · subst hs'
      have : ∀ t', (Function.update vs t { (vs t).set s' x with mode := m } t').held s' ≠ none →
          t' = t := fun t' h' => by_contra fun ht => h' (hother' t' ht)
      rw [this t₁ h₁, this t₂ h₂]
    · rw [hheld _ s' hs'] at h₁ h₂
      exact hi.disjoint t₁ t₂ s' h₁ h₂
  · by_cases hs' : s' = s
    · subst hs'
      exact hc (by simpa using hnone t)
    · rw [hs s' hs']
      exact hi.counted s' fun t' => (hheld t' s' hs').symm.trans (hnone t')
  · by_cases ht : t' = t
    · subst ht
      simpa using (hi.num t' slotid).trans (hn slotid)
    · simpa [ht] using (hi.num t' slotid).trans (hn slotid)

/-- Nobody holds a session that is not in use. -/
theorem HoldInv.held_eq_none (hi : HoldInv slot vs st) (hu : (st.mem.sess s).inUse = false)
    (t : Tid) : (vs t).held s = none := by
  by_contra h'
  obtain ⟨x, hx⟩ := Option.ne_none_iff_exists'.1 h'
  obtain ⟨rfl, hu', -⟩ := hi.sync t s x hx
  simp [hu] at hu'

/-- Nobody holds a session that is not in the pool. -/
theorem HoldInv.held_eq_none_of_num (hi : HoldInv slot vs st) {slotid : SlotId} (t : Tid) :
    (vs t).held ⟨slotid, st.mem.num slotid⟩ = none := by
  by_contra h'
  obtain ⟨x, hx⟩ := Option.ne_none_iff_exists'.1 h'
  exact absurd (hi.sync t _ x hx).2.2 (lt_irrefl _)

section Set

variable [DecidableEq Tid] {t : Tid} {x : Option Session} {m : Mode}

theorem update_set_held_ne {t' : Tid} {s' : SessId} (hs : s' ≠ s) :
    (Function.update vs t { (vs t).set s x with mode := m } t').held s' = (vs t').held s' := by
  by_cases ht : t' = t
  · subst ht
    simp [View.set_held_ne hs]
  · rw [Function.update_of_ne ht]

/-- A session other than `s` is not marked by what happens to `s`, unless by a login. -/
theorem Marked.of_set {s' : SessId} (hs : s' ≠ s) (hst : st'.mem.sess s' = st.mem.sess s')
    (hm : m = (vs t).mode ∨ m = .idle)
    (h : Marked (Function.update vs t { (vs t).set s x with mode := m }) st' s') :
    Marked vs st s' := by
  rcases h with h | ⟨t', hh, hmode⟩
  · exact .inl (hst ▸ h)
  · rw [update_set_held_ne hs] at hh
    refine .inr ⟨t', hh, ?_⟩
    rw [hst] at hmode
    by_cases ht : t' = t
    · subst ht
      rw [Function.update_self] at hmode
      rcases hm with e | e
      · exact e ▸ hmode
      · exact absurd (e ▸ hmode) nofun
    · rwa [Function.update_of_ne ht] at hmode

/-- A session other than `s` does not come to own a handle by what happens to `s`, unless its
    holder had closed it. -/
theorem Owns.of_set {s' : SessId} (hs : s' ≠ s) (hst : st'.mem.sess s' = st.mem.sess s')
    (hm : m = (vs t).mode ∨ ((vs t).held s' ≠ none → (vs t).mode ≠ .closed h))
    (ho : Owns (Function.update vs t { (vs t).set s x with mode := m }) st' s' h) :
    Owns vs st s' h := by
  refine ⟨hst ▸ ho.session, ho.valid, fun t' hh hmode => ?_⟩
  have := ho.mode t' (by rwa [update_set_held_ne hs])
  by_cases ht : t' = t
  · subst ht
    rw [Function.update_self] at this
    rcases hm with e | e
    · exact this (e ▸ hmode)
    · exact e hh hmode
  · rw [Function.update_of_ne ht] at this
    exact this hmode

theorem update_mode_opened {t' : Tid} {slotid : SlotId} (hm : m = (vs t).mode ∨ m = .idle)
    (h' : (Function.update vs t { (vs t).set s x with mode := m } t').mode = .opened h slotid) :
    (vs t').mode = .opened h slotid := by
  by_cases ht : t' = t
  · subst ht
    rw [Function.update_self] at h'
    rcases hm with e | e
    · exact e ▸ h'
    · exact absurd (e ▸ h') nofun
  · rwa [Function.update_of_ne ht] at h'

/-- What happens to a session `s` in a mode other than `opened`, when its handle is kept or
    dropped and its mark kept, taken off or put on after a login. -/
theorem TokInv.set (hi : TokInv vs st) (ht : st'.tok = st.tok)
    (hs : ∀ s', s' ≠ s → st'.mem.sess s' = st.mem.sess s')
    (hother : ∀ t', t' ≠ t → (vs t').held s = none)
    (hm : m = (vs t).mode ∨ m = .idle ∧ ∀ k s', s' ≠ s → (vs t).held s' ≠ none →
      (st.mem.sess s').session = k → (vs t).mode ≠ .closed k)
    (hown : ∀ k, (st'.mem.sess s).session = k → k ≠ ckInvalidHandle → m ≠ .closed k →
      Owns vs st s k)
    (hmark : (st'.mem.sess s).isLogin ∨ m = .loggedIn (st'.mem.sess s).session ∧ x.isSome →
      Marked vs st s)
    (hcl : ∀ k, m = .closed k → x.isSome → (st'.mem.sess s).session = k →
      (vs t).held s ≠ none ∧ (st.mem.sess s).session = k ∧
        (st'.mem.sess s).isLogin = (st.mem.sess s).isLogin)
    (hx : x = none → m = .idle) :
    TokInv (Function.update vs t { (vs t).set s x with mode := m }) st' := by
  have hm' : m = (vs t).mode ∨ m = .idle := hm.imp_right And.left
  refine hi.mono ht (fun s' k ho => ?_) (fun s' hmk => ?_) (fun t' k slotid => update_mode_opened hm')
    fun t' k s' hmode hh hsess => ?_
  · by_cases e : s' = s
    · subst e
      refine hown k ho.session ho.valid fun hmk => ?_
      cases x with
      | none => exact absurd (hx rfl ▸ hmk) nofun
      | some y => exact ho.mode t (by simp) (by simpa using hmk)
    · refine ho.of_set e (hs s' e) (hm.imp_right fun h hh => h.2 k s' e hh ?_)
      rw [← hs s' e]
      exact ho.session
  · by_cases e : s' = s
    · subst e
      refine hmark (hmk.imp_right ?_)
      rintro ⟨t', hh, hmode⟩
      by_cases ht' : t' = t
      · subst ht'
        rw [Function.update_self] at hh hmode
        exact ⟨hmode, by simpa [Option.isSome_iff_ne_none] using hh⟩
      · rw [Function.update_of_ne ht'] at hh
        exact absurd (hother t' ht') hh
    · exact hmk.of_set e (hs s' e) hm'
  · by_cases e : s' = s
    · subst e
      by_cases ht' : t' = t
      · subst ht'
        rw [Function.update_self] at hh hmode
        have hxs : x.isSome := by simpa [Option.isSome_iff_ne_none] using hh
        obtain ⟨h₁, h₂, h₃⟩ := hcl k hmode hxs hsess
        refine ⟨?_, h₁, h₂, h₃⟩
        rcases hm' with e | e
        · exact e ▸ hmode
        · exact absurd (e ▸ hmode) nofun
      · rw [Function.update_of_ne ht'] at hh
        exact absurd (hother t' ht') hh
    · rw [update_set_held_ne e] at hh
      rw [hs s' e] at hsess
      refine ⟨?_, hh, hsess, by rw [hs s' e]⟩
      by_cases ht' : t' = t
      · subst ht'
        rw [Function.update_self] at hmode
        rcases hm' with e | e
        · exact e ▸ hmode
        · exact absurd (e ▸ hmode) nofun
      · rwa [Function.update_of_ne ht'] at hmode

/-- An opened handle is assigned to a session. -/
theorem TokInv.assign (hi : TokInv vs st) (hhold : HoldInv slot vs st) {y : Session}
    {f : Session → Session} (hx : (vs t).held s ≠ none) (hm : (vs t).mode = .opened h s.slot)
    (hf : (f (st.mem.sess s)).session = h)
    (hl : (f (st.mem.sess s)).isLogin → (st.mem.sess s).isLogin) :
    TokInv (Function.update vs t { (vs t).set s (some y) with mode := .idle })
      ⟨st.mem.setSess s f, st.tok⟩ := by
  obtain ⟨h0, ho, hno, hlog, hu⟩ := hi.opened t h s.slot hm
  have hother : ∀ t', (vs t').held s ≠ none → t' = t := fun t' h' => hhold.disjoint t' t s h' hx
  -- only `s` owns the handle now, and the others own what they owned
  have hown : ∀ s' k, s' ≠ s → Owns (Function.update vs t { (vs t).set s (some y) with mode := .idle })
      ⟨st.mem.setSess s f, st.tok⟩ s' k → Owns vs st s' k := fun s' k e ho' =>
    ho'.of_set e (Mem.setSess_sess_ne e) (.inr fun _ => by rw [hm]; exact nofun)
  have hself : ∀ k, Owns (Function.update vs t { (vs t).set s (some y) with mode := .idle })
      ⟨st.mem.setSess s f, st.tok⟩ s k → k = h := fun k ho' => by
    have := ho'.session
    rw [Mem.setSess_sess, hf] at this
    exact this.symm
  have hmark : ∀ s', Marked (Function.update vs t { (vs t).set s (some y) with mode := .idle })
      ⟨st.mem.setSess s f, st.tok⟩ s' → Marked vs st s' := by
    intro s' hmk
    by_cases e : s' = s
    · subst e
      rcases hmk with hmk | ⟨t', hh, hmode⟩
      · rw [Mem.setSess_sess] at hmk
        exact .inl (hl hmk)
      · by_cases ht : t' = t
        · subst ht
          simp at hmode
        · rw [Function.update_of_ne ht] at hh
          exact absurd (hother t' hh) ht
    · exact hmk.of_set e (Mem.setSess_sess_ne e) (.inr rfl)
  have hclosed : ∀ t' k, (Function.update vs t
      { (vs t).set s (some y) with mode := .idle } t').mode = .closed k →
      t' ≠ t ∧ (vs t').mode = .closed k := by
    intro t' k hmode
    have ht : t' ≠ t := by
      rintro rfl
      simp at hmode
    exact ⟨ht, by rwa [Function.update_of_ne ht] at hmode⟩
  refine ⟨fun s' k ho' => ?_, fun s₁ s₂ k h₁ h₂ => ?_, fun t' k slotid hmode => ?_,
    fun t' k s₁ s₂ hmode h₁ h₂ => ?_, fun t' k s' hmode hh => ?_, hi.login, fun s' hmk => ?_,
    fun s₁ s₂ h₁ h₂ => hi.unique s₁ s₂ (hmark s₁ h₁) (hmark s₂ h₂)⟩
  · by_cases e : s' = s
    · subst e
      rw [hself k ho']
      exact ho
    · exact hi.owns s' k (hown s' k e ho')
  · by_cases e₁ : s₁ = s <;> by_cases e₂ : s₂ = s
    · exact e₁.trans e₂.symm
    · subst e₁
      exact absurd (hown s₂ k e₂ h₂) (hself k h₁ ▸ hno s₂)
    · subst e₂
      exact absurd (hown s₁ k e₁ h₁) (hself k h₂ ▸ hno s₁)
    · exact hi.distinct s₁ s₂ k (hown s₁ k e₁ h₁) (hown s₂ k e₂ h₂)
  · have hmode' := update_mode_opened (.inr rfl) hmode
    obtain ⟨k0, ko, kno, klog, ku⟩ := hi.opened t' k slotid hmode'
    refine ⟨k0, ko, fun s' ho' => ?_, klog, fun t'' slotid' h'' =>
      ku t'' slotid' (update_mode_opened (.inr rfl) h'')⟩
    by_cases e : s' = s
    · subst e
      obtain rfl := hself k ho'
      obtain rfl := hu t' slotid hmode'
      simp at hmode
    · exact kno s' (hown s' k e ho')
  · obtain ⟨ht, hmode⟩ := hclosed t' k hmode
    rw [Function.update_of_ne ht] at h₁ h₂
    have e₁ : s₁ ≠ s := by
      rintro rfl
      exact ht (hother t' h₁)
    have e₂ : s₂ ≠ s := by
      rintro rfl
      exact ht (hother t' h₂)
    rw [Mem.setSess_sess_ne e₁, Mem.setSess_sess_ne e₂]
    exact hi.closed t' k s₁ s₂ hmode h₁ h₂
  · obtain ⟨ht, hmode⟩ := hclosed t' k hmode
    rw [Function.update_of_ne ht] at hh
    have e : s' ≠ s := by
      rintro rfl
      exact ht (hother t' hh)
    rw [Mem.setSess_sess_ne e]
    exact hi.unmarked t' k s' hmode hh
  · obtain ⟨k, hk, hku⟩ := hi.marked s' (hmark s' hmk)
    refine ⟨k, hk, fun s'' ho' => ?_⟩
    by_cases e : s'' = s
    · subst e
      exact absurd (hself k ho' ▸ hk) (hlog _)
    · exact hku s'' (hown s'' k e ho')

end Set

section Calls

variable [DecidableEq Tid] {t : Tid} {m : Mode} {f : Session → Session}

/-- A thread assigns to a session that it holds. -/
theorem LoginInv.storeSess (hi : LoginInv slot vs st) {x : Session} (hx : (vs t).held s = some x)
    (hu : (f x).inUse) (ha : (vs t).mode.Allows s x (f x)) :
    LoginInv slot (Function.update vs t { (vs t).set s (some (f x)) with mode := .idle })
      ⟨st.mem.setSess s f, st.tok⟩ := by
  obtain ⟨hold, tok⟩ := hi
  obtain ⟨rfl, -, hp⟩ := hold.sync t s x hx
  have hother : ∀ t', t' ≠ t → (vs t').held s = none := fun t' ht =>
    by_contra fun h' => ht (hold.disjoint t' t s h' (by simp [hx]))
  have hown : (vs t).mode ≠ .closed (st.mem.sess s).session →
      (st.mem.sess s).session ≠ ckInvalidHandle → Owns vs st s (st.mem.sess s).session :=
    fun hm hne => ⟨rfl, hne, fun t' hh hmode => by
      by_cases ht : t' = t
      · exact hm (ht ▸ hmode)
      · exact hh (hother t' ht)⟩
  constructor
  · refine hold.set (fun _ => Mem.setSess_sess_ne) (fun _ => id) hold.bound (fun _ => le_rfl) hother
      ?_ nofun
    rintro _ ⟨⟩
    exact ⟨Mem.setSess_sess, hu, hp⟩
  · -- all modes but that of an opened handle only drop handles and marks
    have hset : (∀ k s', s' ≠ s → (vs t).held s' ≠ none → (st.mem.sess s').session = k →
          (vs t).mode ≠ .closed k) →
        ((f (st.mem.sess s)).session = (st.mem.sess s).session ∧
          (vs t).mode ≠ .closed (st.mem.sess s).session ∨
          (f (st.mem.sess s)).session = ckInvalidHandle) →
        ((f (st.mem.sess s)).isLogin → Marked vs st s) →
        TokInv (Function.update vs t { (vs t).set s (some (f (st.mem.sess s))) with mode := .idle })
          ⟨st.mem.setSess s f, st.tok⟩ := by
      intro hcl hsess hmark
      refine tok.set rfl (fun _ => Mem.setSess_sess_ne) hother (.inr ⟨rfl, hcl⟩)
        (fun k hk hk0 _ => ?_) (fun h => ?_) nofun nofun
      · rw [Mem.setSess_sess] at hk
        subst hk
        rcases hsess with ⟨e, hne⟩ | e
        · rw [e] at hk0 ⊢
          exact hown hne hk0
        · exact absurd e hk0
      · rw [Mem.setSess_sess] at h
        exact h.elim hmark fun h => absurd h.1 nofun
    cases hmode : (vs t).mode with
    | idle =>
      rw [hmode] at ha
      refine hset (fun _ _ _ _ _ => hmode ▸ nofun) ?_ fun h => .inl (ha.2 h)
      exact ha.1.imp_left fun e => ⟨e, hmode ▸ nofun⟩
    | opened h slotid =>
      rw [hmode] at ha
      obtain ⟨rfl, hf, hl⟩ := ha
      exact tok.assign hold (by simp [hx]) hmode hf hl
    | closed h =>
      rw [hmode] at ha
      obtain ⟨rfl, hf, hl⟩ := ha
      refine hset (fun k s' hs' hh hk hmode' => hs' ?_) (.inr hf) fun h => .inl (hl h)
      obtain rfl := Mode.closed.inj (hmode.symm.trans hmode')
      exact tok.closed t _ s' s hmode hh (by simp [hx]) hk rfl
    | loggedIn h =>
      rw [hmode] at ha
      obtain ⟨rfl, hf⟩ := ha
      refine hset (fun _ _ _ _ _ => hmode ▸ nofun) (.inl ⟨hf, hmode ▸ nofun⟩) fun _ => .inr ?_
      exact ⟨t, by simp [hx], hmode⟩

/-- A session keeps its handle and its mark, and is taken or released or counted. -/
theorem LoginInv.keep (hi : LoginInv slot vs st) {x : Option Session}
    (hf : (f (st.mem.sess s)).session = (st.mem.sess s).session)
    (hl : (f (st.mem.sess s)).isLogin = (st.mem.sess s).isLogin)
    (hother : ∀ t', t' ≠ t → (vs t').held s = none)
    (hmode : (vs t).held s = none ∨ x = none → (vs t).mode = .idle)
    (hx : ∀ y, x = some y → f (st.mem.sess s) = y ∧ y.inUse ∧ st.mem.Pooled s)
    (hc : x = none → (f (st.mem.sess s)).Counted) :
    LoginInv slot (Function.update vs t ((vs t).set s x)) ⟨st.mem.setSess s f, st.tok⟩ := by
  obtain ⟨hold, tok⟩ := hi
  refine ⟨?_, ?_⟩
  · refine hold.set (m := (vs t).mode) (fun _ => Mem.setSess_sess_ne) (fun _ => id) hold.bound
      (fun _ => le_rfl) hother ?_ ?_
    · simpa using hx
    · simpa using hc
  · have hheld : (vs t).mode ≠ .idle → (vs t).held s ≠ none := fun hm h' => hm (hmode (.inl h'))
    refine tok.set (m := (vs t).mode) rfl (fun _ => Mem.setSess_sess_ne) hother (.inl rfl)
      (fun k hk hk0 hm => ?_) (fun h => ?_) (fun k hk _ hs => ?_) fun h => hmode (.inr h)
    · rw [Mem.setSess_sess, hf] at hk
      refine ⟨hk, hk0, fun t' hh hmode' => ?_⟩
      by_cases ht : t' = t
      · exact hm (ht ▸ hmode')
      · exact hh (hother t' ht)
    · rw [Mem.setSess_sess, hf, hl] at h
      exact h.imp_right fun h => ⟨t, hheld (by rw [h.1]; nofun), h.1⟩
    · rw [Mem.setSess_sess] at hs ⊢
      exact ⟨hheld (by rw [hk]; nofun), hf ▸ hs, hl⟩

/-- A free session is taken. -/
theorem LoginInv.take (hi : LoginInv slot vs st) (hm : (vs t).mode = .idle)
    (hu : (st.mem.sess s).inUse = false) (hp : st.mem.Pooled s) :
    LoginInv slot (Function.update vs t ((vs t).set s (some { st.mem.sess s with inUse := true })))
      ⟨st.mem.setSess s ({ · with inUse := true }), st.tok⟩ := by
  have hnone : ∀ t', (vs t').held s = none := hi.hold.held_eq_none hu
  refine hi.keep rfl rfl (fun t' _ => hnone t') (fun _ => hm) ?_ nofun
  rintro _ ⟨⟩
  exact ⟨rfl, rfl, hp⟩

/-- A session is released by its holder. -/
theorem LoginInv.release (hi : LoginInv slot vs st) (hm : (vs t).mode = .idle) {x : Session}
    (hx : (vs t).held s = some x) (hc : x.Counted) :
    LoginInv slot (Function.update vs t ((vs t).set s none))
      ⟨st.mem.setSess s ({ · with inUse := false }), st.tok⟩ := by
  obtain ⟨rfl, -, -⟩ := hi.hold.sync t s x hx
  refine hi.keep rfl rfl (fun t' ht => ?_) (fun _ => hm) (fun _ => nofun) fun _ => ⟨hc.1, hc.2⟩
  exact by_contra fun h' => ht (hi.hold.disjoint t' t s h' (by simp [hx]))

/-- The counter of a session is changed by its holder. -/
theorem LoginInv.count (hi : LoginInv slot vs st) {x : Session} (hx : (vs t).held s = some x)
    (hf : ∀ y, (f y).session = y.session ∧ (f y).isLogin = y.isLogin ∧ (f y).inUse = y.inUse) :
    LoginInv slot (Function.update vs t ((vs t).set s (some (f x))))
      ⟨st.mem.setSess s f, st.tok⟩ := by
  obtain ⟨rfl, hu, hp⟩ := hi.hold.sync t s x hx
  refine hi.keep (hf _).1 (hf _).2.1 (fun t' ht => ?_) (fun h => ?_) ?_ (fun h => by cases h)
  · exact by_contra fun h' => ht (hi.hold.disjoint t' t s h' (by simp [hx]))
  · rcases h with h | h
    · simp [hx] at h
    · cases h
  · rintro _ ⟨⟩
    exact ⟨rfl, (hf _).2.2.trans hu, hp⟩

/-- A new session is added to the pool of the slot, and taken. -/
theorem LoginInv.addSess (hi : LoginInv slot vs st) (hm : (vs t).mode = .idle)
    (hmax : st.mem.num slot.id < slot.maxSessions) :
    LoginInv slot (Function.update vs t ((vs t).set ⟨slot.id, st.mem.num slot.id⟩
      (some { inUse := true }))) ⟨st.mem.addSess slot.id, st.tok⟩ := by
  obtain ⟨hold, tok⟩ := hi
  have hnone : ∀ t', (vs t').held ⟨slot.id, st.mem.num slot.id⟩ = none := hold.held_eq_none_of_num
  have hnum : (st.mem.addSess slot.id).num slot.id = st.mem.num slot.id + 1 := by simp [Mem.addSess]
  have hle : ∀ slotid, st.mem.num slotid ≤ (st.mem.addSess slot.id).num slotid := by
    intro slotid
    by_cases e : slotid = slot.id
    · subst e
      omega
    · simp [Mem.addSess, Function.update_of_ne e]
  constructor
  · refine hold.set (m := (vs t).mode) (fun _ => Mem.addSess_sess_ne)
      (fun s' hs' => lt_of_lt_of_le hs' (hle s'.slot)) (hnum ▸ hmax) hle (fun t' _ => hnone t') ?_ (by simp)
    rintro _ ⟨⟩
    refine ⟨Mem.addSess_sess, rfl, ?_⟩
    simp only [Mem.Pooled, hnum]
    omega
  · refine tok.set (m := (vs t).mode) rfl (fun _ => Mem.addSess_sess_ne) (fun t' _ => hnone t')
      (.inl rfl) (fun k hk hk0 _ => ?_) (fun h => ?_) (fun k hk => ?_) (by simp)
    · rw [Mem.addSess_sess] at hk
      exact absurd hk.symm hk0
    · rw [Mem.addSess_sess] at h
      rcases h with h | h
      · cases h
      · rw [hm] at h
        simp at h
    · rw [hm] at hk
      cases hk

/-! ### Calls -/

theorem update_mode_held {t' : Tid} {s : SessId} :
    (Function.update vs t { vs t with mode := m } t').held s = (vs t').held s := by
  by_cases ht : t' = t
  · subst ht
    rw [Function.update_self]
  · rw [Function.update_of_ne ht]

/-- A thread that held no closed handle changes its mode. -/
theorem Owns.of_mode {tok : Token} {k : Handle} (hm : ∀ k, (vs t).mode ≠ .closed k)
    (ho : Owns (Function.update vs t { vs t with mode := m }) ⟨st.mem, tok⟩ s k) :
    Owns vs st s k := by
  refine ⟨ho.session, ho.valid, fun t' hh hmode => ?_⟩
  have ht : t' ≠ t := by
    rintro rfl
    exact hm k hmode
  refine ho.mode t' (by rwa [update_mode_held]) ?_
  rwa [Function.update_of_ne ht]

/-- A thread that did not just log in changes its mode. -/
theorem Marked.of_mode {tok : Token} (hm : ∀ k, m ≠ .loggedIn k)
    (hmk : Marked (Function.update vs t { vs t with mode := m }) ⟨st.mem, tok⟩ s) :
    Marked vs st s := by
  refine hmk.imp_right ?_
  rintro ⟨t', hh, hmode⟩
  rw [update_mode_held] at hh
  have ht : t' ≠ t := by
    rintro rfl
    rw [Function.update_self] at hmode
    exact hm _ hmode
  rw [Function.update_of_ne ht] at hmode
  exact ⟨t', hh, hmode⟩

theorem HoldInv.of_mode {tok : Token} (hi : HoldInv slot vs st) :
    HoldInv slot (Function.update vs t { vs t with mode := m }) ⟨st.mem, tok⟩ where
  sync t' s x hx := hi.sync t' s x (update_mode_held.symm.trans hx)
  disjoint t₁ t₂ s h₁ h₂ := by
    rw [update_mode_held] at h₁ h₂
    exact hi.disjoint t₁ t₂ s h₁ h₂
  counted s hs := hi.counted s fun t' => update_mode_held.symm.trans (hs t')
  num t' slotid := by
    by_cases ht : t' = t
    · subst ht
      simpa using hi.num t' slotid
    · simpa [ht] using hi.num t' slotid
  bound := hi.bound

/-- A thread whose mode is `m` now, or another one. -/
theorem update_mode_cases {t' : Tid} {m' : Mode}
    (h' : (Function.update vs t { vs t with mode := m } t').mode = m') :
    t' = t ∧ m = m' ∨ t' ≠ t ∧ (vs t').mode = m' := by
  by_cases ht : t' = t
  · subst ht
    exact .inl ⟨rfl, by simpa using h'⟩
  · exact .inr ⟨ht, by simpa [ht] using h'⟩

theorem LoginInv.openSession (hi : LoginInv slot vs st) {o : OpenSession}
    (hm : (vs t).mode = .idle) (h0 : h ≠ ckInvalidHandle) (hn : st.tok.opened h = none) :
    LoginInv slot (Function.update vs t { vs t with mode := .opened h o.slot })
      ⟨st.mem, st.tok.openHandle h o⟩ := by
  obtain ⟨hold, tok⟩ := hi
  have hown : ∀ {s k}, Owns (Function.update vs t { vs t with mode := .opened h o.slot })
      ⟨st.mem, st.tok.openHandle h o⟩ s k → Owns vs st s k :=
    fun ho => ho.of_mode fun k => by rw [hm]; nofun
  have hmark : ∀ {s}, Marked (Function.update vs t { vs t with mode := .opened h o.slot })
      ⟨st.mem, st.tok.openHandle h o⟩ s → Marked vs st s := fun hmk => hmk.of_mode (by simp)
  have hkeep : ∀ k o', st.tok.opened k = some o' → (st.tok.openHandle h o).opened k = some o' := by
    intro k o' hk
    rw [Token.opened_openHandle_ne, hk]
    rintro rfl
    simp [hn] at hk
  have hno : ∀ s, ¬Owns vs st s h := fun s ho => by
    obtain ⟨o', ho', -⟩ := tok.owns s h ho
    simp [hn] at ho'
  refine ⟨hold.of_mode, fun s k ho => ?_, fun s s' k h₁ h₂ => tok.distinct s s' k (hown h₁) (hown h₂),
    fun t' k slotid hmode => ?_, fun t' k s s' hmode h₁ h₂ => ?_, fun t' k s hmode hh => ?_,
    fun slotid k hk => ?_, fun s hmk => ?_,
    fun s s' h₁ h₂ => tok.unique s s' (hmark h₁) (hmark h₂)⟩
  · obtain ⟨o', ho', hs⟩ := tok.owns s k (hown ho)
    exact ⟨o', hkeep k o' ho', hs⟩
  · rcases update_mode_cases hmode with ⟨rfl, e⟩ | ⟨ht, e⟩
    · obtain ⟨rfl, rfl⟩ := Mode.opened.inj e
      refine ⟨h0, ⟨o, Token.opened_openHandle, rfl⟩, fun s ho => hno s (hown ho), fun slotid' hl => ?_,
        fun t'' slotid' hmode' => ?_⟩
      · exact tok.login slotid' _ hl hn
      · rcases update_mode_cases hmode' with ⟨e, -⟩ | ⟨-, e⟩
        · exact e
        · obtain ⟨-, ⟨o', ho', -⟩, -⟩ := tok.opened t'' _ slotid' e
          simp [hn] at ho'
    · obtain ⟨k0, ⟨o', ho', hs⟩, kno, kl, ku⟩ := tok.opened t' k slotid e
      refine ⟨k0, ⟨o', hkeep k o' ho', hs⟩, fun s ho => kno s (hown ho), kl, fun t'' slotid' hmode' => ?_⟩
      rcases update_mode_cases hmode' with ⟨-, e'⟩ | ⟨-, e'⟩
      · obtain ⟨rfl, -⟩ := Mode.opened.inj e'
        simp [hn] at ho'
      · exact ku t'' slotid' e'
  · rw [update_mode_held] at h₁ h₂
    rcases update_mode_cases hmode with ⟨-, e⟩ | ⟨-, e⟩
    · cases e
    · exact tok.closed t' k s s' e h₁ h₂
  · rw [update_mode_held] at hh
    rcases update_mode_cases hmode with ⟨-, e⟩ | ⟨-, e⟩
    · cases e
    · exact tok.unmarked t' k s e hh
  · obtain ⟨o', ho'⟩ := Option.ne_none_iff_exists'.1 (tok.login slotid k hk)
    simp [hkeep k o' ho']
  · obtain ⟨k, hk, hu⟩ := tok.marked s (hmark hmk)
    exact ⟨k, hk, fun s' ho => hu s' (hown ho)⟩

/-- A thread closes the handle of a session that it holds and that is not marked. -/
theorem LoginInv.closeSession (hi : LoginInv slot vs st) (hm : (vs t).mode = .idle)
    (h0 : h ≠ ckInvalidHandle) {x : Session} (hx : (vs t).held s = some x) (hs : x.session = h)
    (hl : x.isLogin = false) :
    LoginInv slot (Function.update vs t { vs t with mode := .closed h })
      ⟨st.mem, st.tok.closeHandle h⟩ := by
  obtain ⟨hold, tok⟩ := hi
  obtain ⟨rfl, -, -⟩ := hold.sync t s x hx
  have hother : ∀ t', (vs t').held s ≠ none → t' = t := fun t' h' =>
    hold.disjoint t' t s h' (by simp [hx])
  have hself : Owns vs st s h := ⟨hs, h0, fun t' hh => by
    rw [hother t' hh, hm]
    nofun⟩
  have hnot : ¬Marked vs st s := by
    rintro (e | ⟨t', hh, hmode⟩)
    · simp [hl] at e
    · rw [hother t' hh, hm] at hmode
      cases hmode
  have hown : ∀ {s k}, Owns (Function.update vs t { vs t with mode := .closed h })
      ⟨st.mem, st.tok.closeHandle h⟩ s k → Owns vs st s k :=
    fun ho => ho.of_mode fun k => by rw [hm]; nofun
  -- the handle that was closed is owned by no session any more
  have hne : ∀ {s' k}, Owns (Function.update vs t { vs t with mode := .closed h })
      ⟨st.mem, st.tok.closeHandle h⟩ s' k → k ≠ h := by
    rintro s' k ho rfl
    obtain rfl := tok.distinct s' s k (hown ho) hself
    exact ho.mode t (by simp [hx]) (by simp)
  have hmark : ∀ {s}, Marked (Function.update vs t { vs t with mode := .closed h })
      ⟨st.mem, st.tok.closeHandle h⟩ s → Marked vs st s := fun hmk => hmk.of_mode (by simp)
  refine ⟨hold.of_mode, fun s' k ho => ?_, fun s₁ s₂ k h₁ h₂ => tok.distinct s₁ s₂ k (hown h₁) (hown h₂),
    fun t' k slotid hmode => ?_, fun t' k s₁ s₂ hmode h₁ h₂ hk₁ hk₂ => ?_,
    fun t' k s' hmode hh hk => ?_, fun slotid k hk => ?_, fun s' hmk => ?_,
    fun s₁ s₂ h₁ h₂ => tok.unique s₁ s₂ (hmark h₁) (hmark h₂)⟩
  · rw [Token.opened_closeHandle_ne (hne ho)]
    exact tok.owns s' k (hown ho)
  · rcases update_mode_cases hmode with ⟨-, e⟩ | ⟨-, e⟩
    · cases e
    · obtain ⟨k0, ko, kno, kl, ku⟩ := tok.opened t' k slotid e
      have hkh : k ≠ h := by
        rintro rfl
        exact kno s hself
      refine ⟨k0, ?_, fun s' ho => kno s' (hown ho), fun slotid' hl' => ?_, fun t'' slotid' hmode' => ?_⟩
      · rwa [Token.opened_closeHandle_ne hkh]
      · simp only [Token.closeHandle] at hl'
        split at hl'
        · cases hl'
        · exact kl slotid' hl'
      · rcases update_mode_cases hmode' with ⟨-, e'⟩ | ⟨-, e'⟩
        · cases e'
        · exact ku t'' slotid' e'
  · rw [update_mode_held] at h₁ h₂
    rcases update_mode_cases hmode with ⟨rfl, e⟩ | ⟨-, e⟩
    · -- both own the handle that is closed
      obtain rfl := Mode.closed.inj e
      have hheld : ∀ s', (vs t').held s' ≠ none → (st.mem.sess s').session = h → s' = s := by
        intro s' hh hk
        refine tok.distinct s' s h ⟨hk, h0, fun t'' hh' => ?_⟩ hself
        rw [hold.disjoint t'' t' s' hh' hh, hm]
        nofun
      rw [hheld s₁ h₁ hk₁, hheld s₂ h₂ hk₂]
    · exact tok.closed t' k s₁ s₂ e h₁ h₂ hk₁ hk₂
  · rw [update_mode_held] at hh
    rcases update_mode_cases hmode with ⟨rfl, e⟩ | ⟨-, e⟩
    · obtain rfl := Mode.closed.inj e
      have e' : s' = s := tok.distinct s' s h ⟨hk, h0, fun t'' hh' => by
        rw [hold.disjoint t'' t' s' hh' hh, hm]
        nofun⟩ hself
      exact e' ▸ hl
    · exact tok.unmarked t' k s' e hh hk
  · simp only [Token.closeHandle] at hk
    split at hk
    · cases hk
    · rename_i hk'
      have hkh : k ≠ h := by
        rintro rfl
        exact hk' hk
      rw [Token.opened_closeHandle_ne hkh]
      exact tok.login slotid k hk
  · obtain ⟨k, hk, hu⟩ := tok.marked s' (hmark hmk)
    have hkh : k ≠ h := by
      rintro rfl
      exact hnot (hu s hself ▸ hmark hmk)
    refine ⟨k, ?_, fun s'' ho => hu s'' (hown ho)⟩
    simp [Token.closeHandle, hk, hkh]

/-- A login succeeds on the handle of a session that the thread holds. -/
theorem LoginInv.login (hi : LoginInv slot vs st) (hm : (vs t).mode = .idle)
    (h0 : h ≠ ckInvalidHandle) {x : Session} (hx : (vs t).held s = some x) (hs : x.session = h)
    {o : OpenSession} (ho : st.tok.opened h = some o) (hl : st.tok.login o.slot = none) :
    LoginInv slot (Function.update vs t { vs t with mode := .loggedIn h })
      ⟨st.mem, st.tok.loginHandle h⟩ := by
  obtain ⟨hold, tok⟩ := hi
  obtain ⟨rfl, -, -⟩ := hold.sync t s x hx
  have hself : Owns vs st s h := ⟨hs, h0, fun t' hh => by
    rw [hold.disjoint t' t s hh (by simp [hx]), hm]
    nofun⟩
  have hslot : o.slot = s.slot := by
    obtain ⟨o', ho', hs'⟩ := tok.owns s h hself
    obtain rfl := Option.some.inj (ho.symm.trans ho')
    exact hs'
  have hlogin : (st.tok.loginHandle h).login = Function.update st.tok.login s.slot (some h) := by
    simp [Token.loginHandle, ho, hslot]
  have hopened : (st.tok.loginHandle h).opened = st.tok.opened := by
    simp only [Token.loginHandle, ho]
    rfl
  have hown : ∀ {s k}, Owns (Function.update vs t { vs t with mode := .loggedIn h })
      ⟨st.mem, st.tok.loginHandle h⟩ s k → Owns vs st s k :=
    fun ho => ho.of_mode fun k => by rw [hm]; nofun
  -- nobody was logged in, so that no session of the slot was marked
  have hmark : ∀ {s'}, Marked (Function.update vs t { vs t with mode := .loggedIn h })
      ⟨st.mem, st.tok.loginHandle h⟩ s' → s' = s ∨ s'.slot ≠ s.slot ∧ Marked vs st s' := by
    intro s' hmk
    by_cases e : s' = s
    · exact .inl e
    have hold' : Marked vs st s' := by
      refine hmk.imp_right ?_
      rintro ⟨t', hh, hmode⟩
      rw [update_mode_held] at hh
      rcases update_mode_cases hmode with ⟨rfl, e'⟩ | ⟨-, e'⟩
      · refine absurd (tok.distinct s' s h ⟨(Mode.loggedIn.inj e').symm, h0, fun t'' hh' => ?_⟩ hself) e
        rw [hold.disjoint t'' t' s' hh' hh, hm]
        nofun
      · exact ⟨t', hh, e'⟩
    refine .inr ⟨fun hs' => ?_, hold'⟩
    obtain ⟨k, hk, -⟩ := tok.marked s' hold'
    rw [hs', ← hslot, hl] at hk
    cases hk
  refine ⟨hold.of_mode, fun s' k ho => ?_, fun s₁ s₂ k h₁ h₂ => tok.distinct s₁ s₂ k (hown h₁) (hown h₂),
    fun t' k slotid hmode => ?_, fun t' k s₁ s₂ hmode h₁ h₂ => ?_, fun t' k s' hmode hh => ?_,
    fun slotid k hk => ?_, fun s' hmk => ?_, fun s₁ s₂ h₁ h₂ hs' => ?_⟩
  · rw [hopened]
    exact tok.owns s' k (hown ho)
  · rcases update_mode_cases hmode with ⟨-, e⟩ | ⟨-, e⟩
    · cases e
    · obtain ⟨k0, ko, kno, kl, ku⟩ := tok.opened t' k slotid e
      refine ⟨k0, hopened ▸ ko, fun s' ho => kno s' (hown ho), fun slotid' hl' => ?_,
        fun t'' slotid' hmode' => ?_⟩
      · simp only [hlogin] at hl'
        by_cases es : slotid' = s.slot
        · subst es
          rw [Function.update_self] at hl'
          exact kno s (Option.some.inj hl' ▸ hself)
        · rw [Function.update_of_ne es] at hl'
          exact kl slotid' hl'
      · rcases update_mode_cases hmode' with ⟨-, e'⟩ | ⟨-, e'⟩
        · cases e'
        · exact ku t'' slotid' e'
  · rw [update_mode_held] at h₁ h₂
    rcases update_mode_cases hmode with ⟨-, e⟩ | ⟨-, e⟩
    · cases e
    · exact tok.closed t' k s₁ s₂ e h₁ h₂
  · rw [update_mode_held] at hh
    rcases update_mode_cases hmode with ⟨-, e⟩ | ⟨-, e⟩
    · cases e
    · exact tok.unmarked t' k s' e hh
  · simp only [hlogin] at hk
    simp only [hopened]
    by_cases es : slotid = s.slot
    · subst es
      rw [Function.update_self] at hk
      simp [← Option.some.inj hk, ho]
    · rw [Function.update_of_ne es] at hk
      exact tok.login slotid k hk
  · simp only [hlogin]
    rcases hmark hmk with rfl | ⟨hne, hmk⟩
    · exact ⟨h, Function.update_self .., fun s'' ho => tok.distinct s'' s' h (hown ho) hself⟩
    · obtain ⟨k, hk, hu⟩ := tok.marked s' hmk
      exact ⟨k, by rw [Function.update_of_ne hne, hk], fun s'' ho => hu s'' (hown ho)⟩
  · rcases hmark h₁ with rfl | ⟨hne, hmk₁⟩
    · rcases hmark h₂ with rfl | ⟨hne, -⟩
      · rfl
      · exact absurd hs'.symm hne
    · rcases hmark h₂ with rfl | ⟨-, hmk₂⟩
      · exact absurd hs' hne
      · exact tok.unique s₁ s₂ hmk₁ hmk₂ hs'

end Calls

/-- A thread learns the number of sessions of a pool. -/
theorem LoginInv.numSessions [DecidableEq Tid] {t : Tid} (hi : LoginInv slot vs st)
    (slotid : SlotId) : LoginInv slot (Function.update vs t
      { vs t with num := Function.update (vs t).num slotid (st.mem.num slotid) }) st := by
  obtain ⟨hold, tok⟩ := hi
  have hheld : ∀ t', (Function.update vs t
      { vs t with num := Function.update (vs t).num slotid (st.mem.num slotid) } t').held =
        (vs t').held := fun t' => by
    by_cases ht : t' = t
    · subst ht
      simp
    · simp [ht]
  have hmode : ∀ t', (Function.update vs t
      { vs t with num := Function.update (vs t).num slotid (st.mem.num slotid) } t').mode =
        (vs t').mode := fun t' => by
    by_cases ht : t' = t
    · subst ht
      simp
    · simp [ht]
  constructor
  · refine ⟨fun t' s x hx => hold.sync t' s x (hheld t' ▸ hx), fun t₁ t₂ s h₁ h₂ =>
      hold.disjoint t₁ t₂ s (hheld t₁ ▸ h₁) (hheld t₂ ▸ h₂),
      fun s hs => hold.counted s fun t' => hheld t' ▸ hs t', fun t' slotid' => ?_, hold.bound⟩
    by_cases ht : t' = t
    · subst ht
      rw [Function.update_self]
      by_cases hs : slotid' = slotid
      · subst hs
        simp
      · simpa [hs] using hold.num t' slotid'
    · simpa [ht] using hold.num t' slotid'
  · refine tok.mono rfl (fun s h ho => ⟨ho.session, ho.valid, fun t' hh => ?_⟩) (fun s hm => ?_)
      (fun t' h slotid' hm => hmode t' ▸ hm) fun t' h s hm hh hs =>
        ⟨hmode t' ▸ hm, hheld t' ▸ hh, hs, rfl⟩
    · rw [← hmode t']
      exact ho.mode t' (hheld t' ▸ hh)
    · exact hm.imp_right fun ⟨t', hh, hm⟩ => ⟨t', hheld t' ▸ hh, hmode t' ▸ hm⟩

/-- The PINs do not matter. -/
theorem LoginInv.pins (hi : LoginInv slot vs st) {p : SlotId → Pins} :
    LoginInv slot vs ⟨{ st.mem with pins := p }, st.tok⟩ where
  hold := ⟨hi.hold.sync, hi.hold.disjoint, hi.hold.counted, hi.hold.num, hi.hold.bound⟩
  tok := hi.tok.mono rfl (fun _ _ ho => ⟨ho.session, ho.valid, ho.mode⟩) (fun _ hm => hm)
    (fun _ _ _ hm => hm) fun _ _ _ hm hh hs => ⟨hm, hh, hs, rfl⟩

/-- Calls that neither open nor close a session nor log in do not matter. -/
theorem Token.after_of_pre (slot : Slot) (v : View) (t : Token) {c : Call} (r : c.Resp)
    (ho : ∀ slotid flags, c ≠ .openSession slotid flags) (hc : ∀ h, c ≠ .closeSession h)
    (hl : ∀ h pin, c ≠ .login h .user pin) (hr : ∀ h c', c ≠ .crypto h c') :
    t.after c r = t ∧ (loginProtocol slot).next v (.call c) r = v := by
  cases c with
  | openSession slotid flags => exact absurd rfl (ho slotid flags)
  | closeSession h => exact absurd rfl (hc h)
  | crypto h c' => exact absurd rfl (hr h c')
  | login h as pin =>
    cases as with
    | user => exact absurd rfl (hl h pin)
    | contextSpecific => exact ⟨by simp [Token.after], rfl⟩
  | _ => exact ⟨rfl, rfl⟩

end Steps

variable {O : Oracle}

/-- The commands that the protocol allows keep its invariant, if the token opens different
    handles and lets one log in at a time. -/
theorem loginProtocol_sound {Tid : Type} [DecidableEq Tid] (hf : OpensFresh O) (hl : LoginOnce O)
    (slot : Slot) : (loginProtocol slot).Sound (env O) fun vs : Tid → View => LoginInv slot vs := by
  intro vs st t c r hi hpre hadm
  have hsame : LoginInv slot (Function.update vs t (vs t)) st := by
    rwa [Function.update_eq_self]
  cases c with
  | mem c =>
    cases c with
    | loadSess s =>
      refine ⟨fun x hx => ?_, hsame⟩
      exact Eq.trans hadm (hi.hold.sync t s x hx).1
    | storeSess s f =>
      obtain ⟨x, hx, hu, -, ha⟩ := hpre
      refine ⟨trivial, ?_⟩
      simp only [loginProtocol, hx, Option.map_some]
      exact hi.storeSess hx hu ha
    | tryTake s test =>
      obtain rfl : r = st.mem.sess s := hadm
      obtain ⟨hm, hn, htest⟩ := hpre
      refine ⟨⟨fun x hx => (hi.hold.sync t s x hx).1, fun hu =>
        hi.hold.counted s (hi.hold.held_eq_none hu)⟩, ?_⟩
      simp only [loginProtocol, env, Mem.after]
      split
      · rename_i ht
        exact hi.take hm (htest _ ht) (lt_of_lt_of_le hn (hi.hold.num t s.slot))
      · exact hsame
    | release s =>
      obtain ⟨hm, x, hx, hc⟩ := hpre
      exact ⟨trivial, hi.release hm hx hc⟩
    | ref s =>
      obtain ⟨x, hx⟩ := Option.ne_none_iff_exists'.1 hpre
      refine ⟨trivial, ?_⟩
      simp only [loginProtocol, hx, Option.map_some]
      exact hi.count (f := fun x => { x with refcnt := x.refcnt + 1 }) hx fun _ => ⟨rfl, rfl, rfl⟩
    | deref s =>
      obtain ⟨x, hx⟩ := Option.ne_none_iff_exists'.1 hpre
      refine ⟨trivial, ?_⟩
      simp only [loginProtocol, hx, Option.map_some]
      exact hi.count (f := fun x => { x with refcnt := x.refcnt - 1 }) hx fun _ => ⟨rfl, rfl, rfl⟩
    | numSessions slotid =>
      obtain rfl : r = st.mem.num slotid := hadm
      exact ⟨trivial, hi.numSessions slotid⟩
    | sessionNew slot' =>
      obtain ⟨hm, rfl⟩ := hpre
      simp only [loginProtocol, env, Mem.after]
      rcases hadm with ⟨-, e⟩ | ⟨hmax, e | rfl⟩
      · rw [if_neg (by simp [e]), if_neg (by simp [e])]
        exact ⟨fun h => by simp [e] at h, hsame⟩
      · rw [if_neg (by simp [e]), if_neg (by simp [e])]
        exact ⟨fun h => by simp [e] at h, hsame⟩
      · exact ⟨fun _ => hi.hold.held_eq_none_of_num t, hi.addSess hm hmax⟩
    | loadPins slotid => exact ⟨trivial, hsame⟩
    | setBadPin slotid pin | setCachedPin slotid pin => exact ⟨trivial, hsame.pins⟩
    | _ => exact hpre.elim
  | call c =>
    by_cases ho : ∃ slotid flags, c = .openSession slotid flags
    · obtain ⟨slotid, flags, rfl⟩ := ho
      simp only [loginProtocol, env, Token.after]
      by_cases hok : r.1 = Ckr.ok
      · obtain ⟨h0, hn⟩ := hf _ _ _ _ hadm hok
        rw [if_pos hok, if_pos hok]
        exact ⟨fun _ => h0, hi.openSession (o := ⟨slotid, flags⟩) hpre h0 hn⟩
      · rw [if_neg hok, if_neg hok]
        exact ⟨fun h => absurd h hok, hsame⟩
    by_cases hc : ∃ h, c = .closeSession h
    · obtain ⟨h, rfl⟩ := hc
      obtain ⟨hm, h0, s, x, hx, hs, hlog⟩ := hpre
      exact ⟨trivial, hi.closeSession hm h0 hx hs hlog⟩
    by_cases hlog : ∃ h pin, c = .login h .user pin
    · obtain ⟨h, pin, rfl⟩ := hlog
      obtain ⟨hm, h0, s, x, hx, hs⟩ := hpre
      refine ⟨trivial, ?_⟩
      simp only [loginProtocol, env, Token.after]
      by_cases hok : r = Ckr.ok
      · rw [if_pos hok, if_pos ⟨hok, trivial⟩]
        obtain ⟨o, ho, hn⟩ := hl st h pin (hok ▸ hadm)
        exact hi.login hm h0 hx hs ho hn
      · rw [if_neg hok, if_neg (fun h => hok h.1)]
        exact hsame
    by_cases hcr : ∃ h c', c = .crypto h c'
    · obtain ⟨h, c', rfl⟩ := hcr
      exact hpre.elim
    obtain ⟨e, e'⟩ := Token.after_of_pre slot (vs t) st.tok r
      (fun slotid flags h => ho ⟨slotid, flags, h⟩) (fun h e => hc ⟨h, e⟩)
      (fun h pin e => hlog ⟨h, pin, e⟩) fun h c' e => hcr ⟨h, c', e⟩
    refine ⟨?_, ?_⟩
    · cases c with
      | openSession slotid flags => exact absurd ⟨slotid, flags, rfl⟩ ho
      | _ => trivial
    · simp only [e', env, e]
      exact hsame

end P11Prov
