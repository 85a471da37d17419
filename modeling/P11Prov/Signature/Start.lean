import P11Prov.Object.Held
import P11Prov.Signature.Mechanism

/-!
# The operation that a context starts

A started operation runs on a session that nobody else holds, with the function
and the mechanism of the context, on the handle that its key has at that moment
(`Obj.current`), and on no data yet. So it is for a verification. For a
signature it is too, unless the key asks for a login of its own
(`Obj.asksLogin`): the result of that login then stands for the result of the
start, which may have failed.
-/

namespace P11Prov

open Interaction

variable {O : Oracle} {S : Set SessId} {ctx : Ctx} {c : SigCtx} {st st' : State}
  {l : List CryptoEvent} {s : SessId} {o : ObjId}

/-- The handle that is used for an object: the one of its copy on the token, if there is one. -/
def Obj.current (x : Obj) : ObjectHandle :=
  if x.cached ≠ ckInvalidHandle then x.cached else x.handle

/-- The operation needs a login once it has started. -/
def Obj.asksLogin (x : Obj) (operation : Flags) : Bool :=
  operation == Ckf.sign && x.getBool ckaAlwaysAuthenticate false

/-! ## What happens around the call -/

/-- A login for one operation changes nothing but the PINs that are remembered. -/
theorem contextSpecificLogin_spec {uri : Option Uri} {pwCb : Bool} :
    wp (env O) (contextSpecificLogin ctx s uri pwCb)
      (fun _ st' => ∃ p, st' = ⟨{ st.mem with pins := p }, st.tok⟩) st := by
  rw [contextSpecificLogin]
  cases ctx.getSlotById s.slot with
  | none => exact ⟨_, rfl⟩
  | some slot =>
    refine wp.bind loginPin_spec ?_
    rintro (ret | ⟨pin, cache⟩) _ rfl
    · exact ⟨_, rfl⟩
    refine wp.bind checkPinFlagsOk_spec ?_
    rintro ret _ rfl
    refine wp_ite.2 ⟨fun _ => ⟨_, rfl⟩, fun _ => ?_⟩
    simp only [Prog.perform_eq, Prog.call_bind, Prog.ret_bind, wp_loadSess, wp_callExt]
    intro ret _
    have htok : st.tok.after (.login (st.mem.sess s).session .contextSpecific pin) ret = st.tok := by
      simp [Token.after]
    rw [htok]
    refine wp_ite.2 ⟨fun h => absurd h.2 (by decide), fun _ => ?_⟩
    exact wp.bind notePin_spec fun _ _ h => h

theorem operateLogin_spec {x : Obj} {reqlogin : Bool} {ret : CkRv} :
    wp (env O) (operateLogin ctx x reqlogin s ret) (fun r st' =>
      (∃ p, st' = ⟨{ st.mem with pins := p }, st.tok⟩) ∧
        ((reqlogin && x.getBool ckaAlwaysAuthenticate false) = false → r = ret)) st := by
  refine wp_ite.2 ⟨fun h => ?_, fun _ => ⟨⟨_, rfl⟩, fun _ => rfl⟩⟩
  exact wp_mono contextSpecificLogin_spec fun _ _ hp => ⟨hp, fun h' => by rw [h] at h'; cases h'⟩

/-- The session layer leaves the objects alone. -/
theorem objs_keep (φ : List (Option Obj) → Prop) : SessionInvariant O fun st => φ st.mem.objs where
  works h hw := hw.objs ▸ h
  setInUse _ h := h
  addSess _ h := h
  markBroken h := h

/-- There is no copy of the object on the token. -/
def Uncached (o : ObjId) (st : State) : Prop :=
  ∀ x, st.mem.obj o = some x → x.cached = ckInvalidHandle

/-- A key that is stored gets no copy. -/
theorem objStorePublicKey_uncached :
    Keeps (env O) (Uncached o) (objStorePublicKey ctx o) := by
  have hI : SessionInvariant O (Uncached o) :=
    objs_keep fun objs => ∀ x, objs[o]?.join = some x → x.cached = ckInvalidHandle
  have hset : ∀ {st : State} {f : Obj → Obj}, (∀ x, (f x).cached = x.cached) → Uncached o st →
      Uncached o ⟨st.mem.setObj o fun x => some (f x), st.tok⟩ := by
    intro st f hf h x hx
    rw [Mem.obj_setObj, if_pos rfl] at hx
    obtain ⟨y, hy, hxy⟩ := Option.bind_eq_some_iff.1 hx
    rw [← Option.some.inj hxy, hf]
    exact h y hy
  have hstore : ∀ {f : Obj → Obj}, (∀ x, (f x).cached = x.cached) →
      Keeps (env O) (Uncached o) (mem (.storeObj o f)) :=
    fun hf _ h => wp_storeObj.2 (hset hf h)
  have hload : Keeps (env O) (Uncached o) (mem (.loadObj o)) := fun _ h => wp_loadObj.2 h
  have hcall : ∀ {h}, Keeps (env O) (Uncached o) (call (.createObject h)) := fun _ h _ _ => h
  have hkey : Keeps (env O) (Uncached o) (storeKey ctx o) := by
    refine .ite .pure <| .bind hload fun x => .bind hI.getSession fun r => ?_
    rcases r with ret | s
    · exact .pure
    · refine .bind (.bind SessionInvariant.loadSess fun _ => .pure) fun h => .bind hcall fun r => ?_
      refine .ite (.bind (hstore fun _ => rfl) fun _ => .bind ?_ fun _ => ?_) ?_
      · exact .bind (fun _ h => wp_ref.2 h) fun _ => hstore fun _ => rfl
      · exact .bind hI.returnSession fun _ => .pure
      · exact .bind hI.returnSession fun _ => .pure
  have hpool : Keeps (env O) (Uncached o) (mem (.objAddToPool o)) := by
    intro st h
    refine wp_objAddToPool.2 fun r => wp_ret.2 ?_
    split
    · exact hset (fun _ => rfl) h
    · exact h
  exact .bind hload fun _ => .ite .pure <| .ite .pure <| .bind hkey fun _ =>
    .ite (.bind hpool fun _ => .pure) .pure

/-- A handle that is returned is the one that the object has. -/
theorem objGetHandle_current : wp (env O) (objGetHandle ctx o) (fun handle st' =>
    handle ≠ ckInvalidHandle → ∃ x, st'.mem.obj o = some x ∧ x.current = handle) st := by
  -- the handle is read last, of an object that has no copy then
  have hread : ∀ {st : State}, Uncached o st → wp (env O) (do
      let obj ← mem (.loadObj o)
      return obj.handle) (fun handle st' => handle ≠ ckInvalidHandle →
        ∃ x, st'.mem.obj o = some x ∧ x.current = handle) st := by
    intro st h
    refine wp_loadObj.2 fun hne => ?_
    cases hx : st.mem.obj o with
    | none =>
      rw [hx] at hne
      exact absurd rfl hne
    | some x => exact ⟨x, rfl, by rw [Obj.current, if_neg (not_not.2 (h x hx))]; rfl⟩
  have hrest : ∀ st : State, wp (env O) (do
      let obj ← mem (.loadObj o)
      if obj.cached ≠ ckInvalidHandle then
        return obj.cached
      if obj.handle = ckP11provImportedHandle then
        let ret ← objStorePublicKey ctx o
        if ret ≠ Ckr.ok then
          return ckInvalidHandle
      let obj ← mem (.loadObj o)
      return obj.handle) (fun handle st' => handle ≠ ckInvalidHandle →
        ∃ x, st'.mem.obj o = some x ∧ x.current = handle) st := by
    intro st
    refine wp_loadObj.2 (wp_ite.2 ⟨fun hc _ => ?_, fun hc => ?_⟩)
    · cases hx : st.mem.obj o with
      | none =>
        rw [hx] at hc
        exact absurd rfl hc
      | some x =>
        rw [hx, Option.getD_some] at hc
        exact ⟨x, rfl, by rw [Obj.current, if_pos hc]; rfl⟩
    · have hun : Uncached o st := by
        intro x hx
        rw [hx, Option.getD_some] at hc
        exact not_not.1 hc
      refine wp_ite.2 ⟨fun _ => ?_, fun _ => hread hun⟩
      refine wp.bind (objStorePublicKey_uncached st hun) fun ret st₁ h₁ => ?_
      exact wp_ite.2 ⟨fun _ hne => absurd rfl hne, fun _ => hread h₁⟩
  refine wp_loadObj.2 (wp_ite.2 ⟨fun _ => ?_, fun _ => hrest st⟩)
  exact wp.bind wp_true fun _ st₁ _ => wp.bind wp_true fun _ st₂ _ => hrest st₂

/-! ## The start -/

/-- The operation of `c` was started on the session, after the calls `l` on the token. -/
def Starts (c : SigCtx) (key : ObjId) (l : List CryptoEvent) (s : SessId) (st : State) : Prop :=
  ∃ x rv, st.mem.obj key = some x ∧
    st.tok.log = l ++ [⟨(st.mem.sess s).session, .init c.fn c.mech x.current, rv⟩] ∧
    (x.asksLogin c.operation = false → rv = Ckr.ok) ∧
    (rv = Ckr.ok → st.tok.op (st.mem.sess s).session =
      some { fn := c.fn, mech := c.mech, key := x.current })

theorem operateInitOn_starts {key : ObjId} {x : Obj} (hx : st.mem.obj key = some x)
    (hl : st.tok.log = l) : wp (env O)
      (operateInitOn ctx c key x.current (c.operation == Ckf.sign) s)
      (fun r st' => ∀ s', r.2.2 = some s' → s' = s ∧ Starts c key l s st') st := by
  simp only [operateInitOn, sessionHandle, Prog.perform_eq, Prog.call_bind, Prog.ret_bind,
    Prog.pure_eq, wp_loadSess]
  rintro ⟨rv, _⟩ _
  rw [wp_loadObj]
  refine wp.bind operateLogin_spec ?_
  rintro ret _ ⟨⟨p, rfl⟩, hlogin⟩
  have hread : (st.mem.obj key).getD .freed = x := by
    rw [hx]
    rfl
  refine wp_ite.2 ⟨fun _ => ?_, fun hret s' e => ⟨(Option.some.inj e).symm, ?_⟩⟩
  · exact wp.bind wp_true fun _ _ _ s' e => absurd e (by simp)
  refine ⟨x, rv, hx, ?_, fun hask => ?_, fun hrv => ?_⟩
  · exact congrArg (· ++ _) hl
  · rw [← hread] at hask
    exact (hlogin hask).symm.trans (not_not.1 hret)
  · exact Token.op_after_crypto.trans (if_pos hrv)

/-- If there is a session in the end, the operation of `c` was started on it. -/
def StartsIfAny (c : SigCtx) (l : List CryptoEvent) (r : CkRv × SigCtx × Option SessId)
    (st : State) : Prop :=
  ∀ s, r.2.2 = some s → ∃ key, c.key = some key ∧ Starts c key l s st

theorem startsIfAny_none {ret : CkRv} {c' : SigCtx} : StartsIfAny c l (ret, c', none) st :=
  fun _ e => absurd e (by simp)

/-- A session that `p11prov_sig_operate_init` comes to have runs the operation of the context. -/
theorem sigOperateInit_starts {digestOp : Bool} (hl : st.tok.log = l) :
    wp (env O) (sigOperateInit ctx c digestOp) (StartsIfAny c l) st := by
  have hstatus : Quiet (call .ctxStatus) := .perform trivial
  refine wp.bind (hstatus.log st hl) fun ret st hl => ?_
  refine wp_ite.2 ⟨fun _ => startsIfAny_none, fun _ => ?_⟩
  cases hkey : c.key with
  | none => exact startsIfAny_none
  | some key =>
    refine wp.bind (wp_and (Quiet.objGetHandle.log st hl) objGetHandle_current) ?_
    rintro handle st₁ ⟨hl₁, hcur⟩
    refine wp_ite.2 ⟨fun _ => startsIfAny_none, fun hne => ?_⟩
    obtain ⟨x, hx, rfl⟩ := hcur hne
    refine wp_loadObj.2 (wp_ite.2 ⟨fun _ => startsIfAny_none, fun _ => ?_⟩)
    -- the object is the same once there is a session
    refine wp.bind (wp_and (Quiet.trySessionRef.log st₁ hl₁)
      ((objs_keep (· = st₁.mem.objs)).trySessionRef st₁ rfl)) ?_
    rintro (ret | s) st₂ ⟨hl₂, hobjs⟩
    · refine wp_ite.2 ⟨fun _ => ?_, fun _ => startsIfAny_none⟩
      refine wp.bind wp_true ?_
      rintro ⟨ret, c'⟩ st' -
      exact startsIfAny_none
    · have hx₂ : st₂.mem.obj key = some x := by
        rw [Mem.obj, hobjs]
        exact hx
      exact wp_mono (operateInitOn_starts hx₂ hl₂) fun r st' h s' e =>
        ⟨key, hkey, (h s' e).1 ▸ (h s' e).2⟩

/-- The session that is returned, if any, is held and none of those of `S`. -/
def HeldIfAny (S : Set SessId) (st : State) (r : CkRv × SigCtx × Option SessId) (st' : State) :
    Prop :=
  Undisturbed S st st' ∧ ∀ s, r.2.2 = some s → s ∉ S ∧ s ∈ st'.inUse

theorem heldIfAny_none {ret : CkRv} {c' : SigCtx} (h : Undisturbed S st st') :
    HeldIfAny S st (ret, c', none) st' :=
  ⟨h, fun _ e => absurd e (by simp)⟩

theorem mechFallbackInit_undisturbed :
    Keeps (env O) (Undisturbed S st) (mechFallbackInit c) := by
  unfold mechFallbackInit
  rcases digestGetName c.digest with ret | name
  · exact .pure
  · refine .bind Undisturbed.keeps_call fun _ => .ite .pure <| .bind Undisturbed.alloc fun _ => ?_
    exact .ite .pure <| .bind Undisturbed.keeps_call fun _ => .ite .pure .pure

theorem operateInitOn_held {key : ObjId} {handle : ObjectHandle} {reqlogin : Bool}
    (hO : OpensFresh O) (h : Undisturbed S st st') (hs : s ∉ S) (hin : s ∈ st'.inUse) :
    wp (env O) (operateInitOn ctx c key handle reqlogin s) (HeldIfAny S st) st' := by
  simp only [operateInitOn, sessionHandle, Prog.perform_eq, Prog.call_bind, Prog.ret_bind,
    Prog.pure_eq, wp_loadSess]
  intro r _
  have h₁ := h.crypto hs (c := .init c.fn c.mech handle) (r := r)
  rw [wp_loadObj]
  refine wp.bind operateLogin_spec ?_
  rintro ret _ ⟨⟨p, rfl⟩, -⟩
  have h₂ : Undisturbed S st ⟨{ st'.mem with pins := p },
      st'.tok.after (.crypto (st'.mem.sess s).session (.init c.fn c.mech handle)) r⟩ :=
    h₁.of_sess rfl rfl rfl rfl
  refine wp_ite.2 ⟨fun _ => ?_, fun _ => ⟨h₂, fun s' e => ?_⟩⟩
  · exact wp.bind (returnSession_undisturbed hO h₂ hs) fun _ _ h => heldIfAny_none h
  · obtain rfl := Option.some.inj e
    exact ⟨hs, hin⟩

/-- The session of a start is one that nobody else holds, and it is held from then on. -/
theorem sigOperateInit_held {digestOp : Bool} (hO : OpensFresh O) (hH : ObjectHandles O)
    (hp : RefsPooled st') (h : Undisturbed S st st') :
    wp (env O) (sigOperateInit ctx c digestOp) (HeldIfAny S st) st' := by
  refine wp.bind (P := fun _ st₁ => Undisturbed S st st₁ ∧ RefsPooled st₁) (fun _ _ => ⟨h, hp⟩) ?_
  rintro ret st₁ ⟨h₁, hp₁⟩
  refine wp_ite.2 ⟨fun _ => heldIfAny_none h₁, fun _ => ?_⟩
  cases c.key with
  | none => exact heldIfAny_none h₁
  | some key =>
    refine wp.bind (wp_and (Undisturbed.objGetHandle hO st₁ h₁)
      (refsPooled_objectInvariant.getHandle hH st₁ hp₁)) ?_
    rintro handle st₂ ⟨h₂, hp₂⟩
    refine wp_ite.2 ⟨fun _ => heldIfAny_none h₂, fun _ => ?_⟩
    refine wp_loadObj.2 (wp_ite.2 ⟨fun _ => heldIfAny_none h₂, fun _ => ?_⟩)
    have hobj : ∀ s, ((st₂.mem.obj key).getD .freed).refSession = some s → st₂.mem.Pooled s := by
      intro s hs
      cases hx : st₂.mem.obj key with
      | none =>
        rw [hx] at hs
        exact absurd hs (by simp [Obj.freed])
      | some x =>
        rw [hx] at hs
        exact (hp₂ key x hx).pooled s hs
    refine wp.bind (wp_and (trySessionRef_found hO h₂) (trySessionRef_inUse hobj)) ?_
    rintro (ret | s) st₃ ⟨hf, hin⟩
    · refine wp_ite.2 ⟨fun _ => ?_, fun _ => heldIfAny_none hf.1⟩
      refine wp.bind (mechFallbackInit_undisturbed st₃ hf.1) ?_
      rintro ⟨ret, c'⟩ st₄ h₄
      exact heldIfAny_none h₄
    · exact operateInitOn_held hO hf.1 (hf.2 s rfl) (hin s rfl)

end P11Prov
