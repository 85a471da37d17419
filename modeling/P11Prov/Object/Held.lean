import P11Prov.Object.Footprint
import P11Prov.Session.Held

/-!
# Objects and the sessions that are held

The object layer takes sessions too: to refresh an object, to store a key, to
cache one or to search for another. It leaves the sessions that are held to
their holders: they stay in use, with the same handle, and what that handle
runs goes on (`Undisturbed`). Only the reference counter of such a session may
change, as an object that refers to it can go away.
-/

namespace P11Prov

open Interaction

variable {O : Oracle} {S : Set SessId} {st st' st'' : State} {s : SessId} {ctx : Ctx} {o : ObjId}
  {slotid : SlotId} {n : Nat}

/-- The sessions of `S` are held all along, with their handles and what these run. -/
structure Undisturbed (S : Set SessId) (st st' : State) : Prop where
  inUse : S ⊆ st'.inUse
  session : ∀ s ∈ S, (st'.mem.sess s).session = (st.mem.sess s).session
  op : ∀ s ∈ S, (st.mem.sess s).session ≠ ckInvalidHandle →
    st'.tok.op (st.mem.sess s).session = st.tok.op (st.mem.sess s).session
  handles : SessionsOpen st'

namespace Undisturbed

theorem refl (hS : S ⊆ st.inUse) (hk : SessionsOpen st) : Undisturbed S st st :=
  ⟨hS, fun _ _ => rfl, fun _ _ _ => rfl, hk⟩

theorem trans (h : Undisturbed S st st') (h' : Undisturbed S st' st'') : Undisturbed S st st'' where
  inUse := h'.inUse
  session s hs := (h'.session s hs).trans (h.session s hs)
  op s hs hne := by
    have e := h'.op s hs
    rw [h.session s hs] at e
    exact (e hne).trans (h.op s hs hne)
  handles := h'.handles

theorem mono {S' : Set SessId} (h : Undisturbed S st st') (hS : S' ⊆ S) : Undisturbed S' st st' where
  inUse := hS.trans h.inUse
  session s hs := h.session s (hS hs)
  op s hs := h.op s (hS hs)
  handles := h.handles

/-- What the session layer spares is undisturbed. -/
theorem spared (h : Undisturbed S st st') (h' : Spared S st' st'') : Undisturbed S st st'' := by
  refine h.trans ⟨h'.inUse, fun s hs => ?_, h'.op, h'.handles⟩
  rw [h'.sess s hs]

theorem spared_refl (h : Undisturbed S st st') : Spared S st' st' := .refl h.inUse h.handles

theorem not_mem (h : Undisturbed S st st') (hf : (st'.mem.sess s).inUse = false) : s ∉ S :=
  h.spared_refl.not_mem hf

/-- Neither the sessions nor the token are touched. -/
theorem of_sess (h : Undisturbed S st st') (hs : st''.mem.sess = st'.mem.sess)
    (hn : st''.mem.num = st'.mem.num) (ho : st''.tok.opened = st'.tok.opened)
    (hop : st''.tok.op = st'.tok.op) : Undisturbed S st st'' where
  inUse s hin := by
    have hp := h.inUse hin
    simpa only [State.inUse, Set.mem_ofPred_eq, Mem.Pooled, hs, hn] using hp
  session s hin := by
    rw [hs]
    exact h.session s hin
  op s hin hne := by
    rw [hop]
    exact h.op s hin hne
  handles := h.handles.of_sess_opened ho fun s => .inl (by rw [hs])

/-- An assignment to any session that keeps its handle and leaves it to its holder. -/
theorem setSess (h : Undisturbed S st st') {f : Session → Session}
    (hf : ∀ x, (f x).session = x.session) (hu : ∀ x, (f x).inUse = x.inUse) :
    Undisturbed S st ⟨st'.mem.setSess s f, st'.tok⟩ where
  inUse s' hs' := by
    obtain ⟨hp, hin⟩ := h.inUse hs'
    refine ⟨hp, ?_⟩
    by_cases hne : s' = s
    · subst hne
      rwa [Mem.setSess_sess, hu]
    · rwa [Mem.setSess_sess_ne hne]
  session s' hs' := (Mem.session_setSess hf).trans (h.session s' hs')
  op := h.op
  handles := h.handles.setSess hf

/-- A call on a handle that none of the sessions has. -/
theorem crypto (h : Undisturbed S st st') (hs : s ∉ S) {c : CryptoCall} {r : CkRv × c.Out} :
    Undisturbed S st ⟨st'.mem, st'.tok.after (.crypto (st'.mem.sess s).session c) r⟩ :=
  h.spared (h.spared_refl.crypto (h.spared_refl.ne_handle hs))

end Undisturbed

/-! ## The session layer -/

section Session

variable {req : Request} {obj : Obj} {mechtype : Nat} {reqlogin rw : Bool}

/-- The session that is obtained is none of those that are held. -/
def Found (S : Set SessId) (st : State) (r : Except CkRv SessId) (st' : State) : Prop :=
  Undisturbed S st st' ∧ ∀ s, r = .ok s → s ∉ S

theorem Obtained.found {r : Except CkRv SessId} (h : Undisturbed S st st')
    (h' : Obtained S st' r st'') : Found S st r st'' := ⟨h.spared h'.1, h'.2⟩

theorem Found.error {ret : CkRv} (h : Undisturbed S st st') : Found S st (.error ret) st' :=
  ⟨h, fun _ e => absurd e (by simp)⟩

variable (hO : OpensFresh O)
include hO

theorem returnSession_undisturbed (h : Undisturbed S st st') (hs : s ∉ S) :
    wp (env O) (returnSession ctx s) (fun _ st'' => Undisturbed S st st'') st' :=
  wp_mono (returnSession_spares hO h.spared_refl hs) fun _ _ h' => h.spared h'

theorem getSession_found (h : Undisturbed S st st') :
    wp (env O) (getSession ctx slotid req) (Found S st) st' :=
  wp_mono (getSession_spares hO h.spared_refl) fun _ _ h' => h'.1.found h

theorem takeLoginSession_found (h : Undisturbed S st st') :
    wp (env O) (takeLoginSession ctx slotid) (Found S st) st' := by
  rw [takeLoginSession]
  cases ctx.getSlotById slotid with
  | none => exact .error h
  | some slot =>
    refine wp.bind (slotLogin_spares hO h.spared_refl) ?_
    rintro ⟨ret, _ | s⟩ st₁ ⟨hsp, hs⟩
    · exact .error (h.spared hsp)
    · exact ⟨h.spared hsp, fun s' e => Except.ok.inj e ▸ hs s rfl⟩

/-- A session that an object refers to is taken only if nobody holds it. -/
theorem tryRef_undisturbed (h : Undisturbed S st st') :
    wp (env O) (tryRef s req) (fun b st'' => Undisturbed S st st'' ∧ (b → s ∉ S)) st' := by
  simp only [tryRef, Prog.perform_eq, Prog.call_bind, Prog.ret_bind, wp_tryTake]
  refine wp_ite.2 ⟨fun hx => ?_, fun hx => ?_⟩
  · -- the race was lost
    have htest : (!(st'.mem.sess s).inUse && !(st'.mem.sess s).isBroken) = false := by
      revert hx
      cases (st'.mem.sess s).inUse <;> simp
    rw [if_neg (by rw [htest]; decide)]
    exact ⟨h, fun e => absurd e (by simp)⟩
  · simp only [Bool.or_eq_true, not_or, Bool.not_eq_true] at hx
    rw [if_pos (by rw [hx.1, hx.2]; rfl)]
    have hs : s ∉ S := h.not_mem hx.1
    have hend : ∀ {ret st₂}, Spared S st' st₂ → wp (env O) (if ret = Ckr.ok then pure true else do
        mem (.release s)
        return false) (fun b st'' => Undisturbed S st st'' ∧ (b → s ∉ S)) st₂ := fun hsp =>
      wp_ite.2 ⟨fun _ => ⟨h.spared hsp, fun _ => hs⟩,
        fun _ => wp_release.2 ⟨h.spared (hsp.release hs), fun e => absurd e (by simp)⟩⟩
    have htake : Spared S st' (st'.take s) := h.spared_refl.take hs
    have hcheck : wp (env O) (sessionCheck s req.flags) _ (st'.take s) := sessionCheck_spec
    refine wp.bind hcheck ?_
    rintro ret st₂ ⟨hw, -⟩
    have h₂ := htake.works hO hs hw
    refine wp_ite.2 ⟨fun _ => ?_, fun _ => hend h₂⟩
    exact wp.bind tokenSessionOpen_spec fun ret st₃ hw => hend (h₂.works hO hs hw.1)

theorem trySessionRef_found (h : Undisturbed S st st') :
    wp (env O) (trySessionRef ctx obj mechtype reqlogin rw) (Found S st) st' := by
  refine wp_ite.2 ⟨fun _ => .error h, fun _ => ?_⟩
  cases obj.refSession with
  | none => exact getSession_found hO h
  | some s =>
    refine wp.bind (tryRef_undisturbed hO h) fun b st₁ h₁ => wp_ite.2 ⟨fun hb => ?_, fun _ => ?_⟩
    · exact ⟨h₁.1, fun s' e => Except.ok.inj e ▸ h₁.2 hb⟩
    · exact getSession_found hO h₁.1

omit hO in
theorem tryRef_inUse (hp : st.mem.Pooled s) :
    wp (env O) (tryRef s req) (fun b st' => b → s ∈ st'.inUse) st := by
  simp only [tryRef, Prog.perform_eq, Prog.call_bind, Prog.ret_bind, wp_tryTake]
  refine wp_ite.2 ⟨fun _ e => absurd e (by simp), fun hx => ?_⟩
  simp only [Bool.or_eq_true, not_or, Bool.not_eq_true] at hx
  rw [if_pos (by rw [hx.1, hx.2]; rfl)]
  have htake : s ∈ (st.take s).inUse := ⟨hp, by simp [State.take]⟩
  have hend : ∀ {ret st₂}, s ∈ st₂.inUse → wp (env O) (if ret = Ckr.ok then pure true else do
      mem (.release s)
      return false) (fun b st' => b → s ∈ st'.inUse) st₂ := fun h =>
    wp_ite.2 ⟨fun _ _ => h, fun _ => wp_release.2 fun e => absurd e (by simp)⟩
  have hcheck : wp (env O) (sessionCheck s req.flags) _ (st.take s) := sessionCheck_spec
  refine wp.bind hcheck ?_
  rintro ret st₂ ⟨hw, -⟩
  have h₂ : s ∈ st₂.inUse := hw.inUse_eq ▸ htake
  refine wp_ite.2 ⟨fun _ => ?_, fun _ => hend h₂⟩
  exact wp.bind tokenSessionOpen_spec fun ret st₃ hw => hend (hw.1.inUse_eq ▸ h₂)

omit hO in
/-- The session that is obtained is held from then on. -/
theorem trySessionRef_inUse (hobj : ∀ s, obj.refSession = some s → st.mem.Pooled s) :
    wp (env O) (trySessionRef ctx obj mechtype reqlogin rw)
      (fun r st' => ∀ s, r = .ok s → s ∈ st'.inUse) st := by
  have hget : ∀ st₁ : State, wp (env O) (getSession ctx obj.slotid
      { uri := obj.refreshUri, mechtype, reqlogin, rw }) (fun r st' => ∀ s, r = .ok s → s ∈ st'.inUse)
        st₁ := by
    refine fun st₁ => wp_mono getSession_outcome ?_
    rintro r st₂ ⟨hout, -⟩ s rfl
    have htook : Took st₁ st₂ s.slot s := hout.1
    exact htook.inUse ▸ Set.mem_insert s st₁.inUse
  refine wp_ite.2 ⟨fun _ s e => absurd e (by simp), fun _ => ?_⟩
  cases hs : obj.refSession with
  | none => exact hget st
  | some s =>
    refine wp.bind (tryRef_inUse (hobj s hs)) fun b st₁ h₁ => wp_ite.2 ⟨fun hb s' e => ?_, fun _ => hget st₁⟩
    exact Except.ok.inj e ▸ h₁ hb

end Session

/-! ## The object layer -/

namespace Undisturbed

/-- A step that does not touch the sessions, nor what the token knows of them. -/
theorem keeps_call {c : Call} (hc : ∀ (t : Token) r, t.after c r = t := by intros; rfl) :
    Keeps (env O) (Undisturbed S st) (call c) := by
  intro st' h r _
  simp only [env, hc]
  exact h

theorem loadObj : Keeps (env O) (Undisturbed S st) (mem (.loadObj o)) := fun _ h => wp_loadObj.2 h

theorem storeObj {f : Obj → Obj} : Keeps (env O) (Undisturbed S st) (mem (.storeObj o f)) :=
  fun _ h => wp_storeObj.2 (h.of_sess rfl rfl rfl rfl)

theorem fetchAdd : Keeps (env O) (Undisturbed S st) (mem (.objFetchAdd o)) :=
  fun _ h => wp_objFetchAdd.2 (h.of_sess rfl rfl rfl rfl)

theorem addToPool : Keeps (env O) (Undisturbed S st) (mem (.objAddToPool o)) := by
  intro st' h
  refine wp_objAddToPool.2 fun r => wp_ret.2 ?_
  split
  · exact h.of_sess rfl rfl rfl rfl
  · exact h

theorem delete : Keeps (env O) (Undisturbed S st) (mem (.objDelete o)) :=
  fun _ h => wp_objDelete.2 (h.of_sess rfl rfl rfl rfl)

theorem numObjs : Keeps (env O) (Undisturbed S st) (mem .numObjs) := fun _ h => wp_numObjs.2 h

theorem alloc : Keeps (env O) (Undisturbed S st) (mem .alloc) := fun _ h => wp_alloc.2 fun _ => h

theorem ref : Keeps (env O) (Undisturbed S st) (mem (.ref s)) :=
  fun _ h => wp_ref.2 (h.setSess (fun _ => rfl) fun _ => rfl)

theorem deref : Keeps (env O) (Undisturbed S st) (mem (.deref s)) :=
  fun _ h => wp_deref.2 (h.setSess (fun _ => rfl) fun _ => rfl)

theorem sessionHandle : Keeps (env O) (Undisturbed S st) (sessionHandle s) :=
  .bind SessionInvariant.loadSess fun _ => .pure

theorem objNew {handle : ObjectHandle} {cls : Nat} :
    Keeps (env O) (Undisturbed S st) (objNew slotid handle cls) := by
  have halloc : Keeps (env O) (Undisturbed S st) (mem (.objAlloc { slotid, handle, cls })) :=
    fun _ h => wp_objAlloc.2 ⟨h, h.of_sess rfl rfl rfl rfl⟩
  refine .bind halloc fun r => ?_
  rcases r with _ | o
  · exact .pure
  · exact .ite .pure <| .bind addToPool fun _ => .ite (.bind delete fun _ => .pure) .pure

theorem findOne {h : Handle} {cls : Nat} {attrs : List (Nat × Bytes)} :
    Keeps (env O) (Undisturbed S st) (findOne h cls attrs) :=
  .bind keeps_call fun _ => .ite .pure <| .bind keeps_call fun _ => .bind keeps_call fun _ =>
    .ite .pure .pure

theorem objRefNoCache : Keeps (env O) (Undisturbed S st) (objRefNoCache o) :=
  .bind fetchAdd fun _ => .pure

theorem destroyKeyCacheOn : Keeps (env O) (Undisturbed S st) (destroyKeyCacheOn o s) :=
  .bind loadObj fun _ => .ite (.bind sessionHandle fun _ => .bind keeps_call fun _ => storeObj) .pure

theorem associate {a : ObjId} : Keeps (env O) (Undisturbed S st) (associate o a) :=
  .bind loadObj fun _ => .ite (.bind objRefNoCache fun _ => storeObj) .pure

/-- A session is obtained, used in a way that disturbs nobody, and given back or kept. -/
theorem with_session {α : Type} {p : P (Except CkRv SessId)} {f : Except CkRv SessId → P α}
    (hp : ∀ st', Undisturbed S st st' → wp (env O) p (Found S st) st')
    (herr : ∀ ret, Keeps (env O) (Undisturbed S st) (f (.error ret)))
    (hok : ∀ s, s ∉ S → Keeps (env O) (Undisturbed S st) (f (.ok s))) :
    Keeps (env O) (Undisturbed S st) (p >>= f) := by
  refine fun st' h => wp.bind (hp st' h) fun r st₁ h₁ => ?_
  rcases r with ret | s
  · exact herr ret st₁ h₁.1
  · exact hok s (h₁.2 s rfl) st₁ h₁.1

variable (hO : OpensFresh O)
include hO

theorem returnSession (hs : s ∉ S) : Keeps (env O) (Undisturbed S st) (returnSession ctx s) :=
  fun _ h => returnSession_undisturbed hO h hs

theorem destroyKeyCache {obj : Obj} : Keeps (env O) (Undisturbed S st) (destroyKeyCache ctx obj) := by
  refine .ite ?_ .pure
  refine with_session (fun _ h => takeLoginSession_found hO h) (fun _ => .pure) fun s hs => ?_
  exact .bind sessionHandle fun _ => .bind keeps_call fun _ => returnSession hO hs

theorem objFreeChain : Keeps (env O) (Undisturbed S st) (objFreeChain ctx n o) := by
  induction n generalizing o with
  | zero => exact .pure
  | succ n ih =>
    have hunref : Keeps (env O) (Undisturbed S st) (mem (.objUnref o)) :=
      fun _ h => wp_objUnref.2 (h.of_sess rfl rfl rfl rfl)
    refine .bind hunref fun r => ?_
    rcases r with _ | obj
    · exact .pure
    · -- the associated object is freed the same way with and without a session
      dsimp only
      rcases obj.refSession with _ | s
      · refine .bind (destroyKeyCache hO) fun _ => ?_
        rcases obj.assocObj with _ | a
        · exact .pure
        · exact ih
      · refine .bind deref fun _ => .bind (destroyKeyCache hO) fun _ => ?_
        rcases obj.assocObj with _ | a
        · exact .pure
        · exact ih

theorem objFree : Keeps (env O) (Undisturbed S st) (objFree ctx o) :=
  .bind numObjs fun _ => objFreeChain hO

theorem objFree? (o : Option ObjId) : Keeps (env O) (Undisturbed S st) (objFree? ctx o) := by
  rcases o with _ | o
  · exact .pure
  · exact objFree hO

theorem objFromHandle {handle : ObjectHandle} {home : Option Handle} :
    Keeps (env O) (Undisturbed S st) (objFromHandle ctx s handle home) := by
  refine .bind objNew fun r => ?_
  rcases r with _ | o
  · exact .pure
  · refine .bind sessionHandle fun _ => .bind keeps_call fun a => ?_
    refine .ite (.bind (objFree hO) fun _ => .pure) ?_
    exact .ite (.bind (objFree hO) fun _ => .pure) (.bind storeObj fun _ => .pure)

theorem objRefreshOn {obj : Obj} : Keeps (env O) (Undisturbed S st) (objRefreshOn ctx o obj s) := by
  refine .bind sessionHandle fun h => .bind findOne fun r => ?_
  split
  · refine .bind (objFromHandle hO) fun r => ?_
    rcases r with ret | t
    · exact .pure
    · exact .bind loadObj fun _ => .bind storeObj fun _ => .bind (objFree hO) fun _ => storeObj
  · exact .pure

theorem objRefresh : Keeps (env O) (Undisturbed S st) (objRefresh ctx n o) := by
  induction n generalizing o with
  | zero => exact .pure
  | succ n ih =>
    refine .bind loadObj fun obj => ?_
    refine with_session (fun _ h => trySessionRef_found hO h) (fun _ => .pure) fun s hs => ?_
    refine .bind (objRefreshOn hO) fun _ => .bind loadObj fun obj => ?_
    split
    · refine .bind loadObj fun _ => .ite ?_ (returnSession hO hs)
      exact .bind ih fun _ => returnSession hO hs
    · exact returnSession hO hs

theorem storeKey : Keeps (env O) (Undisturbed S st) (storeKey ctx o) := by
  refine .ite .pure <| .bind loadObj fun obj => ?_
  refine with_session (fun _ h => getSession_found hO h) (fun _ => .pure) fun s hs => ?_
  refine .bind sessionHandle fun h => .bind keeps_call fun r => .ite ?_ ?_
  · refine .bind storeObj fun _ => .bind (.bind ref fun _ => storeObj) fun _ => ?_
    exact .bind (returnSession hO hs) fun _ => .pure
  · exact .bind (returnSession hO hs) fun _ => .pure

theorem objGetHandle : Keeps (env O) (Undisturbed S st) (objGetHandle ctx o) := by
  have hstore : Keeps (env O) (Undisturbed S st) (objStorePublicKey ctx o) :=
    .bind loadObj fun _ => .ite .pure <| .ite .pure <| .bind (storeKey hO) fun _ =>
      .ite (.bind addToPool fun _ => .pure) .pure
  have hload : Keeps (env O) (Undisturbed S st) (do
      let obj ← mem (.loadObj o)
      return obj.handle) := .bind loadObj fun _ => .pure
  have hrest : Keeps (env O) (Undisturbed S st) (do
      let obj ← mem (.loadObj o)
      if obj.cached ≠ ckInvalidHandle then
        return obj.cached
      if obj.handle = ckP11provImportedHandle then
        let ret ← objStorePublicKey ctx o
        if ret ≠ Ckr.ok then
          return ckInvalidHandle
      let obj ← mem (.loadObj o)
      return obj.handle) :=
    .bind loadObj fun _ => .ite .pure <| .ite (.bind hstore fun _ => .ite .pure hload) hload
  refine .bind loadObj fun _ => .ite ?_ hrest
  exact .bind numObjs fun _ => .bind (objRefresh hO) fun _ => hrest

theorem cacheKey : Keeps (env O) (Undisturbed S st) (cacheKey ctx o) := by
  refine .ite .pure <| .bind loadObj fun _ => .ite .pure <| .bind keeps_call fun _ =>
    .ite (.bind storeObj fun _ => .pure) ?_
  refine with_session (fun _ h => takeLoginSession_found hO h) (fun _ => .pure) fun s hs => ?_
  refine .bind ?_ fun _ => returnSession hO hs
  refine .bind destroyKeyCacheOn fun _ => .bind sessionHandle fun _ => .bind (objGetHandle hO)
    fun _ => .bind keeps_call fun _ => .ite storeObj storeObj

theorem objRef : Keeps (env O) (Undisturbed S st) (objRef ctx o) :=
  .bind objRefNoCache fun _ => .ite
    (.bind loadObj fun _ => .ite (.bind (cacheKey hO) fun _ => .pure) .pure) .pure

theorem objFindAssociated {cls : Nat} :
    Keeps (env O) (Undisturbed S st) (objFindAssociated ctx o cls) := by
  refine .bind loadObj fun obj => .bind ?_ fun known => ?_
  · unfold knownAssociated
    rcases obj.assocObj with _ | a
    · exact .pure
    · exact .bind loadObj fun _ => .pure
  rcases known with _ | a
  · dsimp only
    split
    · exact .pure
    · exact .pure
    · refine with_session (fun _ h => trySessionRef_found hO h) (fun _ => .pure) fun s hs => ?_
      refine .bind ?_ fun _ => .bind (returnSession hO hs) fun _ => .pure
      refine .bind sessionHandle fun h => .bind findOne fun r => ?_
      split
      · refine .bind (objFromHandle hO) fun r => ?_
        rcases r with ret | a
        · exact .pure
        · exact .bind associate fun _ => .pure
      · exact .pure
  · exact .bind objRefNoCache fun _ => .pure

end Undisturbed

end P11Prov
