import P11Prov.Object.References

/-!
# Session handles

The handle of a session is open as long as the session has it, and no two
sessions have the same one. Nothing of this depends on the objects: the session
layer opens and closes handles, and always together with the session they
belong to (`Works.live`, `Works.closed`).
-/

namespace P11Prov

open Interaction

variable {O : Oracle} {st st' : State} {s : SessId}

/-- The handles of the sessions are open, and different. -/
structure SessionsOpen (st : State) : Prop where
  live : ∀ s, (st.mem.sess s).Live st.tok
  distinct : ∀ s s', (st.mem.sess s).session ≠ ckInvalidHandle →
    (st.mem.sess s).session = (st.mem.sess s').session → s = s'

namespace SessionsOpen

/-- An open handle that the session has after some work is one that it had before. -/
theorem session_eq (hO : OpensFresh O) (hw : Works O s st st') {h : Handle}
    (hne : h ≠ ckInvalidHandle) (hopen : st.tok.opened h ≠ none)
    (hs : (st'.mem.sess s).session = h) : (st.mem.sess s).session = h := by
  subst hs
  rcases hw.handle hO with e | e | e
  · exact e.symm
  · exact absurd e hne
  · exact absurd e hopen

theorem works (hO : OpensFresh O) (hk : SessionsOpen st) (hw : Works O s st st') :
    SessionsOpen st' where
  live s' := by
    by_cases hs : s' = s
    · exact hs ▸ hw.live hO (hk.live s)
    · intro hne hcl
      rw [hw.other s' hs] at hne hcl
      obtain ⟨e, -, -⟩ := hw.closed hO _ (hk.live s' hne) hcl
      exact hs (hk.distinct s' s hne e)
  distinct s₁ s₂ hne he := by
    by_cases hs₁ : s₁ = s <;> by_cases hs₂ : s₂ = s
    · exact hs₁.trans hs₂.symm
    · subst hs₁
      rw [hw.other s₂ hs₂] at he
      have hs := session_eq hO hw (he ▸ hne) (hk.live s₂ (he ▸ hne)) he
      exact hk.distinct s₁ s₂ (hs ▸ he ▸ hne) hs
    · subst hs₂
      rw [hw.other s₁ hs₁] at he hne
      exact hk.distinct s₁ s₂ hne (session_eq hO hw hne (hk.live s₁ hne) he.symm).symm
    · rw [hw.other s₁ hs₁] at he hne
      rw [hw.other s₂ hs₂] at he
      exact hk.distinct s₁ s₂ hne he

/-- Sessions keep their handles or lose them, and the open handles stay open. -/
theorem of_sess_opened (hk : SessionsOpen st) (ht : st'.tok.opened = st.tok.opened)
    (hs : ∀ s, (st'.mem.sess s).session = (st.mem.sess s).session ∨
      (st'.mem.sess s).session = ckInvalidHandle) : SessionsOpen st' where
  live s hne := by
    rcases hs s with e | e
    · rw [e] at hne ⊢
      exact ht ▸ hk.live s hne
    · exact absurd e hne
  distinct s s' hne he := by
    rcases hs s with e | e
    · rcases hs s' with e' | e'
      · rw [e] at hne he
        exact hk.distinct s s' hne (he.trans e')
      · exact absurd (he.trans e') hne
    · exact absurd e hne

theorem of_sess (hk : SessionsOpen st) (ht : st'.tok = st.tok)
    (hs : ∀ s, (st'.mem.sess s).session = (st.mem.sess s).session ∨
      (st'.mem.sess s).session = ckInvalidHandle) : SessionsOpen st' :=
  hk.of_sess_opened (congrArg Token.opened ht) hs

theorem setSess (hk : SessionsOpen st) {f : Session → Session} (hf : ∀ x, (f x).session = x.session) :
    SessionsOpen ⟨st.mem.setSess s f, st.tok⟩ :=
  hk.of_sess rfl fun _ => .inl (Mem.session_setSess hf)

theorem sessionInvariant (hO : OpensFresh O) : SessionInvariant O SessionsOpen where
  works hk hw := hk.works hO hw
  setInUse _ hk := hk.setSess fun _ => rfl
  addSess {st} slotid hk := by
    refine hk.of_sess rfl fun s' => ?_
    by_cases hs : s' = ⟨slotid, st.mem.num slotid⟩
    · subst hs
      exact .inr (by simp)
    · exact .inl (by rw [Mem.addSess_sess_ne hs])
  markBroken hk := hk.setSess fun _ => rfl

/-- After a fork no session has a handle, and initially none has. -/
theorem of_none (h : ∀ s, (st.mem.sess s).session = ckInvalidHandle) : SessionsOpen st where
  live s hne := absurd (h s) hne
  distinct s _ hne := absurd (h s) hne

end SessionsOpen

/-- The handles of the sessions are open on their slots, and different. -/
structure SessionsPlaced (st : State) : Prop extends SessionsOpen st where
  placed : ∀ s, (st.mem.sess s).Placed s.slot st.tok

namespace SessionsPlaced

theorem of_sess (hk : SessionsPlaced st) (ht : st'.tok = st.tok)
    (hs : ∀ s, (st'.mem.sess s).session = (st.mem.sess s).session ∨
      (st'.mem.sess s).session = ckInvalidHandle) : SessionsPlaced st' where
  toSessionsOpen := hk.toSessionsOpen.of_sess ht hs
  placed s hne := by
    rcases hs s with e | e
    · rw [e] at hne ⊢
      exact ht ▸ hk.placed s hne
    · exact absurd e hne

theorem setSess (hk : SessionsPlaced st) {f : Session → Session}
    (hf : ∀ x, (f x).session = x.session) : SessionsPlaced ⟨st.mem.setSess s f, st.tok⟩ :=
  hk.of_sess rfl fun _ => .inl (Mem.session_setSess hf)

theorem sessionInvariant (hO : OpensFresh O) : SessionInvariant O SessionsPlaced where
  works {s _ _} hk hw := by
    refine ⟨hk.toSessionsOpen.works hO hw, fun s' => ?_⟩
    by_cases hs : s' = s
    · exact hs ▸ hw.placed hO (hk.placed s)
    · intro hne
      rw [hw.other s' hs] at hne ⊢
      -- the session that is worked on has another handle
      have hother := fun e => hs (hk.distinct s' s hne e)
      rw [hw.frame hO _ hne (hk.live s' hne) hother]
      exact hk.placed s' hne
  setInUse _ hk := hk.setSess fun _ => rfl
  addSess {st} slotid hk := by
    refine hk.of_sess rfl fun s' => ?_
    by_cases hs : s' = ⟨slotid, st.mem.num slotid⟩
    · subst hs
      exact .inr (by simp)
    · exact .inl (by rw [Mem.addSess_sess_ne hs])
  markBroken hk := hk.setSess fun _ => rfl

theorem of_none (h : ∀ s, (st.mem.sess s).session = ckInvalidHandle) : SessionsPlaced st where
  toSessionsOpen := .of_none h
  placed s hne := absurd (h s) hne

end SessionsPlaced

/-- The invariant of the references together with one of the handles of the sessions. -/
theorem SessionInvariant.refs {I : State → Prop} (hI : SessionInvariant O I)
    (hs : ∀ {st st' : State}, I st → st'.tok = st.tok →
      (∀ s, (st'.mem.sess s).session = (st.mem.sess s).session) → I st') :
    ObjectInvariant O True fun st => RefsCounted False st ∧ I st :=
  have hc := RefsCounted.objectInvariant (O := O) (E := False) nofun
  { works := fun h hw => ⟨hc.works h.1 hw, hI.works h.2 hw⟩
    setInUse := fun b h => ⟨hc.setInUse b h.1, hI.setInUse b h.2⟩
    addSess := fun slotid h => ⟨hc.addSess slotid h.1, hI.addSess slotid h.2⟩
    markBroken := fun h => ⟨hc.markBroken h.1, hI.markBroken h.2⟩
    update := fun h hx hn => ⟨hc.update h.1 hx hn, hs h.2 rfl fun _ => rfl⟩
    alloc := fun h hr hm => ⟨hc.alloc h.1 hr hm, hs h.2 rfl fun _ => rfl⟩
    drop := fun h hx hr => ⟨hc.drop h.1 hx hr, hs h.2 rfl fun _ => rfl⟩
    dropRef := fun h hx hr => ⟨hc.dropRef h.1 hx hr, hs h.2 rfl fun _ =>
      Mem.session_setSess (f := fun x => { x with refcnt := x.refcnt - 1 }) fun _ => rfl⟩
    setRef := fun h hx hr hy => ⟨hc.setRef h.1 hx hr hy, hs h.2 rfl fun _ =>
      Mem.session_setSess (f := fun x => { x with refcnt := x.refcnt + 1 }) fun _ => rfl⟩
    mock := fun h hx => hc.mock h.1 hx }

/-- In every reachable state the handles of the sessions are open on their slots. -/
theorem placed_of_reachable {ctx : Ctx} {okFork : State → Prop} (hO : ObjectHandles O)
    (hf : OpensFresh O) (h : Reachable ctx O (fun st op => op.Fits True st) okFork st) :
    SessionsPlaced st := by
  have hI := (SessionsPlaced.sessionInvariant hf).refs fun h ht hs => h.of_sess ht fun s => .inl (hs s)
  have hinv : RefsCounted False st ∧ SessionsPlaced st :=
    h.inv ⟨.init, .of_none fun _ => rfl⟩ (fun _ _ hst hop => hI.op hO hst hop)
      fun _ hst _ => ⟨hst.1.fork nofun, .of_none fun _ => rfl⟩
  exact hinv.2

end P11Prov
