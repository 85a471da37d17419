import P11Prov.Object.Handles

/-!
# Session objects and the sessions they live on

A session object lives on the session it was created on and is gone when that
session is closed. The provider keeps the session open by a reference: as long
as the counter of a session is not zero, the session is not closed when it is
given back, when its flags do not fit or when it is recycled.

`HomesKept` is the invariant: the handle a live session object was created on is
open, belongs to no other session than the one the object refers to, and the
counter of that session covers all references. `session_objects_kept` has it for
all runs in which session objects are only made where the reference is taken.
A key that is generated or derived as a session object takes none, and its
session may be closed before the key is freed.
-/

namespace P11Prov

open Interaction

variable {O : Oracle} {st st' : State} {s : SessId} {o : ObjId} {x y : Obj} {h : Handle}

/-- The session object `x`, created on the handle `h`, is protected: the handle is open and
    is that of the session the object refers to, if of any. -/
structure Obj.Kept (st : State) (x : Obj) (h : Handle) : Prop where
  opened : st.tok.opened h ≠ none
  valid : h ≠ ckInvalidHandle
  ref : ∃ s, x.refSession = some s ∧ ∀ s', (st.mem.sess s').session = h → s' = s

/-- All session objects are protected. -/
structure HomesKept (st : State) : Prop where
  counted : RefsCounted False st
  handles : SessionsOpen st
  kept : ∀ o x h, st.mem.obj o = some x → x.home = some h → x.Kept st h

namespace HomesKept

/-- A session that a live object refers to has a positive counter. -/
theorem refs_pos (hk : HomesKept st) (hx : st.mem.obj o = some x) (hs : x.refSession = some s) :
    0 < (st.mem.sess s).refs := by
  have hpos : 0 < st.mem.refsTo s :=
    List.countP_pos_iff.2 ⟨some x, List.mem_of_getElem? (Mem.getElem?_objs hx), by simp [hs]⟩
  have := hk.counted.le s
  omega

theorem works (hO : OpensFresh O) (hk : HomesKept st) (hw : Works O s st st') : HomesKept st' where
  counted := hk.counted.works nofun hw
  handles := hk.handles.works hO hw
  kept o x h hx hh := by
    rw [Mem.obj, hw.objs] at hx
    obtain ⟨hopen, hv, r, href, hu⟩ := hk.kept o x h hx hh
    refine ⟨fun hcl => ?_, hv, r, href, fun s' hs' => ?_⟩
    · -- were the handle closed, then as that of the session referred to
      obtain ⟨e, -, hr⟩ := hw.closed hO h hopen hcl
      obtain rfl := hu s e.symm
      exact absurd hr (not_le.2 (hk.refs_pos hx href))
    · by_cases hs : s' = s
      · subst hs
        exact hu s' (SessionsOpen.session_eq hO hw hv hopen hs')
      · rw [hw.other s' hs] at hs'
        exact hu s' hs'

/-- Sessions keep their handles or lose them, and the session objects are protected. -/
theorem of_kept (hk : HomesKept st) (hc : RefsCounted False st') (ht : st'.tok = st.tok)
    (hs : ∀ s, (st'.mem.sess s).session = (st.mem.sess s).session ∨
      (st'.mem.sess s).session = ckInvalidHandle)
    (ho : ∀ o x h, st'.mem.obj o = some x → x.home = some h → x.Kept st h) : HomesKept st' where
  counted := hc
  handles := hk.handles.of_sess ht hs
  kept o x h hx hh := by
    obtain ⟨hopen, hv, r, href, hu⟩ := ho o x h hx hh
    refine ⟨ht ▸ hopen, hv, r, href, fun s' hs' => ?_⟩
    rcases hs s' with e | e
    · exact hu s' (e ▸ hs')
    · exact absurd (hs'.symm.trans e) hv

/-- The session of a key that gets its reference is not that of another. -/
theorem of_setsRef (hf : OpensFresh O) (hr : ReportsOpen O) (hk : HomesKept st)
    (hx : st.mem.obj o = some x) (hn : x.refSession = none) (hy : SetsRef O st s x y)
    (hh : y.home = some h) : y.Kept st h := by
  rcases hy.home with e | ⟨e, hopen⟩
  · -- an object without a reference is not a session object
    obtain ⟨-, -, r, href, -⟩ := hk.kept o x h hx (e ▸ hh)
    simp [hn] at href
  · obtain rfl := Option.some.inj (e.symm.trans hh)
    exact ⟨(hopen hf hr).2, (hopen hf hr).1, s, hy.refSession,
      fun s' hs' => hk.handles.distinct s' s (hs' ▸ (hopen hf hr).1) hs'⟩

theorem objectInvariant (hf : OpensFresh O) (hr : ReportsOpen O) :
    ObjectInvariant O False HomesKept :=
  have hc := RefsCounted.objectInvariant (O := O) (E := False) nofun
  { works := fun hk hw => hk.works hf hw
    setInUse := fun b hk => hk.of_kept (hc.setInUse b hk.counted) rfl
      (fun _ => .inl (Mem.session_setSess (f := fun x => { x with inUse := b }) fun _ => rfl)) hk.kept
    addSess := fun {st} slotid hk => by
      refine hk.of_kept (hc.addSess slotid hk.counted) rfl (fun s' => ?_) hk.kept
      by_cases hs : s' = ⟨slotid, st.mem.num slotid⟩
      · subst hs
        exact .inr (by simp)
      · exact .inl (by rw [Mem.addSess_sess_ne hs])
    markBroken := fun hk => hk.of_kept (hc.markBroken hk.counted) rfl
      (fun _ => .inl (Mem.session_setSess (f := fun x => { x with isBroken := true }) fun _ => rfl))
      hk.kept
    update := fun hk hx hn => by
      refine hk.of_kept (hc.update hk.counted hx (hn.mono nofun)) rfl (fun _ => .inl rfl)
        fun o' z h hz hh => ?_
      rcases Mem.obj_of_setObj hz with e | e
      · rw [hx] at e
        obtain rfl := Option.some.inj e
        rcases hn.home with e | e | e
        · obtain ⟨hopen, hv, r, href, hu⟩ := hk.kept _ _ h hx (e ▸ hh)
          exact ⟨hopen, hv, r, hn.refSession ▸ href, hu⟩
        · simp [hh] at e
        · exact e.elim
      · exact hk.kept o' z h e hh
    alloc := fun hk hn hm => by
      refine hk.of_kept (hc.alloc hk.counted hn hm) rfl (fun _ => .inl rfl) fun o' z h hz hh => ?_
      rcases Mem.obj_of_alloc hz with rfl | e
      · simp [hh] at hm
      · exact hk.kept o' z h e hh
    drop := fun hk hx hn => by
      refine hk.of_kept (hc.drop hk.counted hx hn) rfl (fun _ => .inl rfl) fun o' z h hz hh => ?_
      rcases Mem.obj_of_setObj hz with e | e
      · simp at e
      · exact hk.kept o' z h e hh
    dropRef := fun hk hx hs => by
      refine hk.of_kept (hc.dropRef hk.counted hx hs) rfl (fun _ => .inl (Mem.session_setSess
        (f := fun x => { x with refcnt := x.refcnt - 1 }) fun _ => rfl)) fun o' z h hz hh => ?_
      rcases Mem.obj_of_setObj hz with e | e
      · simp at e
      · exact hk.kept o' z h e hh
    setRef := fun hk hx hn hy => by
      refine hk.of_kept (hc.setRef hk.counted hx hn hy) rfl (fun _ => .inl (Mem.session_setSess
        (f := fun x => { x with refcnt := x.refcnt + 1 }) fun _ => rfl)) fun o' z h hz hh => ?_
      rcases Mem.obj_of_setObj hz with e | e
      · rw [hx] at e
        obtain rfl := Option.some.inj e
        exact hk.of_setsRef hf hr hx hn hy hh
      · exact hk.kept o' z h e hh
    mock := fun hk hx => hc.mock hk.counted hx }

/-- No session object is left after a fork. -/
theorem fork (hk : HomesKept st) : HomesKept st.fork where
  counted := hk.counted.fork nofun
  handles := .of_none fun _ => rfl
  kept o y h hy hh := by
    obtain ⟨x, hx, rfl⟩ := Option.map_eq_some_iff.1 (Mem.obj_map ▸ hy)
    split at hh <;> simp at hh

theorem init : HomesKept {} where
  counted := .init
  handles := .of_none fun _ => rfl
  kept o x h hx := by simp [Mem.obj] at hx

end HomesKept

/-- In every reachable state, the session that a live session object was created on is open,
    and the object is counted in the references that keep it so: when session objects are
    made only where the reference is taken, and not by the generation of an ephemeral key, by
    a derivation or as the duplicate of a session object. -/
theorem session_objects_kept {ctx : Ctx} (hf : OpensFresh O) (hr : ReportsOpen O)
    (hO : ObjectHandles O)
    (h : Reachable ctx O (fun st op => op.Fits False st) (fun _ => True) st) {k : Handle}
    (hx : st.mem.obj o = some x) (hk : x.home = some k) :
    st.tok.opened k ≠ none ∧ ∃ s, x.refSession = some s ∧
      (∀ s', (st.mem.sess s').session = k → s' = s) ∧
      0 < st.mem.refsTo s ∧ st.mem.refsTo s ≤ (st.mem.sess s).refcnt := by
  have hI := HomesKept.objectInvariant hf hr
  have hst : HomesKept st := h.inv .init (fun _ _ hst hop => hI.op hO hst hop) fun _ hst _ => hst.fork
  obtain ⟨hopen, -, s, href, hu⟩ := hst.kept o x k hx hk
  refine ⟨hopen, s, href, hu, ?_, ?_⟩
  · exact List.countP_pos_iff.2
      ⟨some x, List.mem_of_getElem? (Mem.getElem?_objs hx), by simp [href]⟩
  · exact (hst.counted.le s).trans (Session.refs_le_refcnt _)

/-- The key that was imported is on the session handle 1, which is open. -/
theorem session_objects_kept_import : ∃ x,
    (runOps plain [.objImportSecretKey 0x1F 16] {}).mem.obj 0 = some x ∧ x.home = some 1 ∧
      (runOps plain [.objImportSecretKey 0x1F 16] {}).tok.opened 1 ≠ none := by
  have hreach : Reachable plainCtx (replies plain) (fun st op => op.Fits False st) (fun _ => True)
      (runOps plain [.objImportSecretKey 0x1F 16] {}) := .runOps .init (by simp [Op.Fits])
  refine ⟨_, rfl, rfl, ?_⟩
  exact (session_objects_kept plain_opensFresh plain_reportsOpen plain_objectHandles hreach
    (o := 0) rfl rfl).1

/-- The session of a key that was generated as a session object is closed when it is given
    back and enough sessions are open, with the key still there. -/
theorem generated_key_lost : ∃ st x,
    Reachable plainCtx (replies plain) (fun st op => op.Fits True st) (fun _ => True) st ∧
      st.mem.obj 0 = some x ∧ x.home = some 1 ∧ st.tok.opened 1 = none ∧ x.refSession = none := by
  refine ⟨runOps plain [.skeyGenerate .aes none true, .getSession 1 { rw := true },
    .getSession 1 { rw := true }, .returnSession ⟨1, 0⟩] {}, _, .runOps .init ?_, rfl, ?_⟩
  · simp [Op.Fits]
  · decide

end P11Prov
