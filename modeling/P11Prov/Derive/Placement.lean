import P11Prov.Derive
import P11Prov.Interaction.Footprint
import P11Prov.Object.References

/-!
# Handles and the slots of their sessions

Which session the handle of a key is used on when keys are derived. An object that
lies on a slot stays there (`State.OnSlot`, `Later`), and a derivation without a
session takes one on the slot of the key (`trySessionRef_slot`). So the handle of a
key is used on its own slot if the session that the derivation is given, if any,
serves it (`ServesSlot`, `deriveKeyNoted_spec`).

That objects stay where they are is a property the object layer keeps
(`Later.objectInvariant`); each function here leads to a `Later` state.
-/

namespace P11Prov

open Interaction

variable {O : Oracle} {ctx : Ctx} {st st' st₀ st₁ : State} {o : ObjId} {s : SessId}
  {slotid : SlotId}

/-! ## Objects lie on slots -/

/-- An object lies on a slot: it is on the token there, unless it was freed. -/
structure State.OnSlot (st : State) (o : ObjId) (slotid : SlotId) : Prop where
  known : o < st.mem.objs.length
  placed : ∀ x, st.mem.obj o = some x → x.slotid = slotid ∧ x.handle ≠ ckP11provImportedHandle

/-- A later state: the objects that lay on a slot still do. -/
structure Later (st st' : State) : Prop where
  refs : RefsPooled st'
  onSlot : ∀ o slotid, st.OnSlot o slotid → st'.OnSlot o slotid

theorem Later.refl (h : RefsPooled st) : Later st st := ⟨h, fun _ _ => id⟩

theorem Later.trans (h : Later st st₁) (h' : Later st₁ st') : Later st st' :=
  ⟨h'.refs, fun o slotid ho => h'.onSlot o slotid (h.onSlot o slotid ho)⟩

theorem Mem.lt_of_obj {m : Mem} {x : Obj} (h : m.obj o = some x) : o < m.objs.length :=
  (List.getElem?_eq_some_iff.1 (getElem?_objs h)).1

theorem State.OnSlot.of_obj {x : Obj} (h : st.mem.obj o = some x)
    (hh : x.handle ≠ ckP11provImportedHandle) : st.OnSlot o x.slotid where
  known := Mem.lt_of_obj h
  placed y hy := by
    obtain rfl := Option.some.inj (h.symm.trans hy)
    exact ⟨rfl, hh⟩

/-- An object that is replaced stays on its slot, if the replacement is on the slot. -/
theorem State.OnSlot.setObj {o' : ObjId} {f : Obj → Option Obj} (h : st.OnSlot o slotid)
    (hm : st'.mem.objs = (st.mem.setObj o' f).objs)
    (hf : ∀ x y, st.mem.obj o' = some x → f x = some y → x.slotid = slotid →
      x.handle ≠ ckP11provImportedHandle →
      y.slotid = slotid ∧ y.handle ≠ ckP11provImportedHandle) : st'.OnSlot o slotid where
  known := by
    rw [hm]
    simpa [Mem.setObj] using h.known
  placed y hy := by
    rw [Mem.obj, hm, ← Mem.obj, Mem.obj_setObj] at hy
    split at hy
    · subst o'
      obtain ⟨x, hx, hy⟩ := Option.bind_eq_some_iff.1 hy
      obtain ⟨hs, hh⟩ := h.placed x hx
      exact hf x y hx hy hs hh
    · exact h.placed y hy

/-- The object layer moves nothing to another slot. -/
theorem Later.objectInvariant : ObjectInvariant O True (Later st₀) :=
  have hr := refsPooled_objectInvariant (O := O)
  { works := fun h hw => ⟨hr.works h.refs hw, fun o slotid ho => by
      obtain ⟨hk, hp⟩ := h.onSlot o slotid ho
      exact ⟨hw.objs ▸ hk, by rw [Mem.obj, hw.objs]; exact hp⟩⟩
    setInUse := fun b h => ⟨hr.setInUse b h.refs, fun o slotid ho =>
      ⟨(h.onSlot o slotid ho).known, (h.onSlot o slotid ho).placed⟩⟩
    addSess := fun slotid' h => ⟨hr.addSess slotid' h.refs, fun o slotid ho =>
      ⟨(h.onSlot o slotid ho).known, (h.onSlot o slotid ho).placed⟩⟩
    markBroken := fun h => ⟨hr.markBroken h.refs, fun o slotid ho =>
      ⟨(h.onSlot o slotid ho).known, (h.onSlot o slotid ho).placed⟩⟩
    update := fun h hx hn => ⟨hr.update h.refs hx hn, fun o slotid ho =>
      (h.onSlot o slotid ho).setObj rfl fun x y hx' hy hs hh => by
        obtain rfl := Option.some.inj (hx.symm.trans hx')
        obtain rfl := Option.some.inj hy
        exact ⟨(hn.slotid.resolve_right hh).trans hs, fun e => hh (hn.handle e)⟩⟩
    alloc := fun h hn hm => ⟨hr.alloc h.refs hn hm, fun o slotid ho => by
      obtain ⟨hk, hp⟩ := h.onSlot o slotid ho
      refine ⟨by simpa using Nat.lt_succ_of_lt hk, fun x hx => hp x ?_⟩
      rwa [Mem.obj, List.getElem?_append_left hk] at hx⟩
    drop := fun h hx hn => ⟨hr.drop h.refs hx hn, fun o slotid ho =>
      (h.onSlot o slotid ho).setObj rfl fun _ _ _ hy => by simp at hy⟩
    dropRef := fun h hx hs => ⟨hr.dropRef h.refs hx hs, fun o slotid ho =>
      (h.onSlot o slotid ho).setObj Mem.setSess_objs fun _ _ _ hy => by simp at hy⟩
    setRef := fun h hx hn hy => ⟨hr.setRef h.refs hx hn hy, fun o slotid ho =>
      (h.onSlot o slotid ho).setObj Mem.setSess_objs fun x y hx' hy' hs hh => by
        obtain rfl := Option.some.inj (hx.symm.trans hx')
        obtain rfl := Option.some.inj hy'
        exact ⟨(hy.place.resolve_right hh).trans hs, hy.handle⟩⟩
    mock := fun h hx => hr.mock h.refs hx }

/-- What the object layer does leads to a later state. -/
theorem later_of_keeps {α : Type} {p : P α} (hp : Keeps (env O) (Later st) p)
    (h : RefsPooled st) : wp (env O) p (fun _ st' => Later st st') st := hp st (.refl h)

/-! ## Sessions on slots -/

/-- The session that is tried for an object that lies on a slot is on that slot. -/
theorem trySessionRef_slot {x : Obj} {mechtype : Nat} {reqlogin rw : Bool}
    (hr : ∀ s, x.refSession = some s → s.slot = x.slotid)
    (hs : x.slotid ≠ ckUnavailableInformation) :
    wp (env O) (trySessionRef ctx x mechtype reqlogin rw)
      (fun r _ => ∀ s, r = .ok s → s.slot = x.slotid) st := by
  have hget : ∀ {st req}, wp (env O) (getSession ctx x.slotid req)
      (fun r _ => ∀ s, r = .ok s → s.slot = x.slotid) st :=
    wp_mono getSession_outcome fun r _ h s hr => h.2 s hr hs
  unfold trySessionRef
  split
  · simp
  cases hx : x.refSession with
  | none => exact hget
  | some s =>
    refine wp.bind wp_true fun b st₁ _ => ?_
    split
    · rintro s' ⟨⟩
      exact hr s hx
    · exact hget

theorem trySlot_checked {req : Request} {slot : Slot} :
    Returns (fun ret => ret = Ckr.ok → checkSlot ctx slot req.uri req.mechtype req.rw = Ckr.ok)
      (trySlot ctx req slot) := by
  refine .ite (fun h => .pure fun e => absurd e h) fun h => ?_
  have hc := not_not.1 h
  exact .ite (fun _ => .andThen fun _ => .pure fun _ => hc) fun _ => .pure fun _ => hc

/-- The slot that passes the checks of `p11prov_get_session` is one of the slots. -/
theorem cycleSlots_checked {req : Request} {id : SlotId} {ret : CkRv} {slots : List Slot} :
    Returns (fun r => ∀ p, r = .ok p → p.1 ∈ slots ∧
      checkSlot ctx p.1 req.uri req.mechtype req.rw = Ckr.ok) (cycleSlots ctx req id ret slots) := by
  induction slots generalizing id ret with
  | nil => exact .pure (by simp)
  | cons slot slots ih =>
    have ih : ∀ {id ret}, Returns (fun r => ∀ p, r = .ok p → p.1 ∈ slot :: slots ∧
        checkSlot ctx p.1 req.uri req.mechtype req.rw = Ckr.ok) (cycleSlots ctx req id ret slots) := by
      intro id ret
      refine Returns.mono ih fun r hr p hp => ?_
      exact ⟨List.mem_cons_of_mem slot (hr p hp).1, (hr p hp).2⟩
    refine .ite (fun _ => ih) fun _ => .bind trySlot_checked fun ret hret => .ite (fun h => ?_) fun _ => ih
    refine .pure ?_
    rintro p ⟨⟩
    exact ⟨List.mem_cons_self, hret h⟩

/-- The session of a request without a slot is on a slot that serves the request. -/
theorem getSession_checked {req : Request} :
    wp (env O) (getSession ctx ckUnavailableInformation req) (fun r _ => ∀ s, r = .ok s →
      ∃ slot ∈ ctx.slots, checkSlot ctx slot req.uri req.mechtype req.rw = Ckr.ok ∧
        slot.id = s.slot) st := by
  have hnext : wp (env O) (getSessionNext ctx ckUnavailableInformation req) (fun r _ =>
      ∀ p, r.1 = .ok p → ∃ slot ∈ ctx.slots,
        checkSlot ctx slot req.uri req.mechtype req.rw = Ckr.ok ∧ slot.id = p.1.slot) st := by
    refine wp.bind (cycleSlots_checked.wp wp_true) ?_
    rintro (ret | ⟨slot, slots⟩) st₁ ⟨hr, -⟩
    · simp
    refine wp.bind openOnSlot_outcome ?_
    rintro (ret | s) st₂ ⟨-, hs⟩
    · simp
    rintro p ⟨⟩
    exact ⟨slot, (hr _ rfl).1, (hr _ rfl).2, (hs s rfl).symm⟩
  rw [getSession, if_pos rfl]
  refine wp.bind hnext fun r st₁ hr => ?_
  rintro s hs
  obtain ⟨p, hp, rfl⟩ : ∃ p, r.1 = .ok p ∧ p.1 = s := by
    cases h : r.1 with
    | error ret => simp [h, Except.map] at hs
    | ok p => exact ⟨p, rfl, by simpa [h, Except.map] using hs⟩
  exact hr p hp

/-! ## Derivation -/

/-- The handles of the keys that `C_DeriveKey` makes are not the one that marks an object
    which is on no token. -/
def DerivedHandles (O : Oracle) : Prop :=
  ∀ st h mechtype key r, O st (.deriveKey h mechtype key) r → r.2 ≠ ckP11provImportedHandle

/-- Keys on the slot can be used with the session of a context: it is on the slot, or there is
    none yet. -/
def ServesSlot (slotid : SlotId) : Option SessId → Prop
  | none => slotid ≠ ckUnavailableInformation
  | some s => s.slot = slotid

/-- An object has a handle only if it is there. -/
theorem objGetHandle_alive : wp (env O) (objGetHandle ctx o)
    (fun h st' => h ≠ ckInvalidHandle → ∃ x, st'.mem.obj o = some x) st := by
  have hload : ∀ {st : State}, ((st.mem.obj o).getD .freed).handle ≠ ckInvalidHandle ∨
      ((st.mem.obj o).getD .freed).cached ≠ ckInvalidHandle → ∃ x, st.mem.obj o = some x := by
    intro st h
    cases ho : st.mem.obj o with
    | some x => exact ⟨x, rfl⟩
    | none => simp [ho, Obj.freed] at h
  have hrest : ∀ {st : State}, wp (env O) (do
      let x ← mem (.loadObj o)
      if x.cached ≠ ckInvalidHandle then
        return x.cached
      if x.handle = ckP11provImportedHandle then
        let ret ← objStorePublicKey ctx o
        if ret ≠ Ckr.ok then
          return ckInvalidHandle
      let x ← mem (.loadObj o)
      return x.handle) (fun h st' => h ≠ ckInvalidHandle → ∃ x, st'.mem.obj o = some x) st := by
    intro st
    simp only [Prog.perform_eq, Prog.call_bind, Prog.ret_bind, wp_loadObj]
    split
    · exact fun h => hload (.inr h)
    split
    · refine wp.bind wp_true fun ret st₁ _ => ?_
      split
      · exact fun h => absurd rfl h
      · exact wp_loadObj.2 fun h => hload (.inl h)
    · exact wp_loadObj.2 fun h => hload (.inl h)
  simp only [objGetHandle, Prog.perform_eq, Prog.call_bind, Prog.ret_bind, wp_loadObj]
  split
  · exact wp_numObjs.2 (wp.bind wp_true fun _ _ _ => hrest)
  · exact hrest

/-- What an object on a slot is read as, when it has a handle. -/
theorem objGetHandle_onSlot (hO : ObjectHandles O) (h : RefsPooled st) {o : ObjId}
    (ho : st.OnSlot o slotid) : wp (env O) (objGetHandle ctx o) (fun handle st' => Later st st' ∧
      (handle ≠ ckInvalidHandle → ∃ x, st'.mem.obj o = some x ∧ x.slotid = slotid)) st := by
  refine wp_mono (wp_and (later_of_keeps (Later.objectInvariant.getHandle hO) h)
    objGetHandle_alive) ?_
  rintro handle st₁ ⟨h₁, halive⟩
  refine ⟨h₁, fun hh => ?_⟩
  obtain ⟨x, hx⟩ := halive hh
  exact ⟨x, hx, ((h₁.onSlot o slotid ho).placed x hx).1⟩

section Handles

variable {key : ObjId} {mechtype : Nat} {session : Option SessId} {handle : ObjectHandle}
  (hO : ObjectHandles O) (hD : DerivedHandles O)

theorem deriveSession_spec (h : RefsPooled st) {x : Obj} (hx : st.mem.obj key = some x)
    (hs : ServesSlot x.slotid session) :
    wp (env O) (deriveSession ctx key mechtype session) (fun r st' => Later st st' ∧
      st'.mem.obj key = some x ∧ ∀ s, r = .ok s → s.slot = x.slotid) st := by
  cases session with
  | some s =>
    refine ⟨.refl h, hx, ?_⟩
    rintro _ ⟨⟩
    exact hs
  | none =>
    simp only [deriveSession, Prog.perform_eq, Prog.call_bind, Prog.ret_bind, wp_loadObj, hx,
      Option.getD_some]
    have hobjs : wp (env O) (trySessionRef ctx x mechtype false false)
        (fun _ st' => st'.mem.objs = st.mem.objs) st :=
      (objs_sessionInvariant st.mem.objs).trySessionRef st rfl
    refine wp_mono (wp_and (later_of_keeps Later.objectInvariant.trySessionRef h)
      (wp_and hobjs (trySessionRef_slot (h key x hx).slot hs))) ?_
    rintro r st₁ ⟨h₁, ho, hr⟩
    exact ⟨h₁, by rw [Mem.obj, ho]; exact hx, hr⟩

include hD in
theorem deriveOn_spec (h : RefsPooled st) :
    wp (env O) (deriveOn ctx mechtype handle session s) (fun r st' => Later st st' ∧
      ∀ p, r = .ok p → p.2 = s ∧ p.1 ≠ ckP11provImportedHandle) st := by
  simp only [deriveOn, P11Prov.sessionHandle, Prog.perform_eq, Prog.call_bind, Prog.ret_bind,
    wp_loadSess, wp_callExt, Prog.pure_eq]
  intro r hr
  split
  · refine ⟨.refl h, ?_⟩
    rintro p ⟨⟩
    exact ⟨rfl, hD _ _ _ _ _ hr⟩
  split
  · refine wp.bind (later_of_keeps Later.objectInvariant.returnSession h) fun _ st₁ h₁ => ?_
    exact ⟨h₁, by simp⟩
  · exact ⟨.refl h, by simp⟩

include hO hD in
/-- A key on a slot is used on a session of that slot. -/
theorem deriveKeyNoted_spec (h : RefsPooled st) (hk : st.OnSlot key slotid)
    (hs : ServesSlot slotid session) :
    wp (env O) (deriveKeyNoted ctx key mechtype session) (fun r st' => Later st st' ∧
      (∀ u ∈ r.2, u.OwnSlot) ∧
      ∀ p, r.1 = .ok p → p.2.slot = slotid ∧ p.1 ≠ ckP11provImportedHandle) st := by
  refine wp.bind (objGetHandle_onSlot hO h hk) ?_
  rintro handle st₁ ⟨h₁, halive⟩
  split
  · exact ⟨h₁, by simp, by simp⟩
  rename_i hh
  obtain ⟨x, hx, rfl⟩ := halive hh
  refine wp.bind (deriveSession_spec h₁.refs hx hs) ?_
  rintro (ret | s) st₂ ⟨h₂, hx₂, hs₂⟩
  · exact ⟨h₁.trans h₂, by simp, by simp⟩
  simp only [Prog.perform_eq, Prog.call_bind, Prog.ret_bind, wp_loadObj, hx₂, Option.getD_some]
  refine wp.bind (deriveOn_spec hD h₂.refs) ?_
  rintro r st₃ ⟨h₃, hr⟩
  refine ⟨h₁.trans (h₂.trans h₃), ?_, fun p hp => ?_⟩
  · simpa [Use.OwnSlot] using hs₂ s rfl
  · obtain ⟨rfl, hne⟩ := hr p hp
    exact ⟨hs₂ _ rfl, hne⟩

theorem objFromDerived_spec (h : RefsPooled st) (dkey : Derived)
    (hs : ∀ s, session = some s → s.slot = dkey.slotid) :
    wp (env O) (objFromDerived ctx dkey session) (fun r st' => Later st st' ∧
      (∀ u ∈ r.2, u.OwnSlot) ∧ ∀ o, r.1 = .ok o → dkey.handle ≠ ckP11provImportedHandle →
        st'.OnSlot o dkey.slotid) st := by
  cases session with
  | none => exact ⟨.refl h, by simp, by simp⟩
  | some s =>
    have hs := hs s rfl
    simp only [objFromDerived, P11Prov.sessionHandle, Prog.perform_eq, Prog.call_bind,
      Prog.ret_bind, wp_loadSess, Prog.pure_eq]
    refine wp.bind (Later.objectInvariant.fromHandle_spec (.inr trivial) (.refl h)) ?_
    rintro r st₁ ⟨h₁, hr⟩
    refine ⟨h₁, by simpa [Use.OwnSlot] using hs, fun o ho hh => ?_⟩
    obtain ⟨x, hx, hxh, hxs⟩ := hr o ho
    exact hs ▸ hxs ▸ .of_obj hx (hxh ▸ hh)

theorem fetchValue_spec (hs : ∀ s, session = some s → s.slot = slotid) :
    wp (env O) (fetchValue handle slotid session) (fun r st' => st = st' ∧
      ∀ u ∈ r.2.2, u.OwnSlot) st := by
  cases session with
  | none => exact ⟨rfl, by simp⟩
  | some s =>
    simp only [fetchValue, P11Prov.sessionHandle, Prog.perform_eq, Prog.call_bind, Prog.ret_bind,
      wp_loadSess, wp_callExt, Prog.pure_eq]
    exact fun r _ => ⟨rfl, by simpa [Use.OwnSlot] using hs s rfl⟩

theorem fillSecretKey_spec {h : Handle} {n : Nat} (hr : RefsPooled st) :
    wp (env O) (fillSecretKey ctx o h handle n) (fun r st' => (∀ o', r = some o' → o' = o) ∧
      Later st st') st := by
  have hI : ObjectInvariant O True (Later st) := Later.objectInvariant
  have hkeep : Keeps (env O) (Later st) (fillSecretKey ctx o h handle n) := by
    refine .bind (hI.storeObj fun x => ?_) fun _ => .bind ?_ fun _ => .ite ?_ ?_
    · exact ⟨rfl, .inl rfl, id, .inr (.inr trivial)⟩
    · exact fun _ h _ _ => h
    · exact .bind hI.free fun _ => .pure
    refine .bind ObjectInvariant.keeps_call fun _ => .ite (.bind hI.free fun _ => .pure) ?_
    exact .bind (hI.storeObj fun x => .of_eq rfl rfl rfl rfl) fun _ => .pure
  refine Returns.wp ?_ (later_of_keeps hkeep hr)
  refine .andThen fun _ => .andThen fun _ => .ite (fun _ => .andThen fun _ => .pure (by simp)) fun _ => ?_
  refine .andThen fun _ => .ite (fun _ => .andThen fun _ => .pure (by simp)) fun _ => ?_
  exact .andThen fun _ => .pure fun o' ho => (Option.some.inj ho).symm

include hO in
/-- A key that is made of secret bytes lies on the slot of the session. -/
theorem createSecretKey_spec (h : RefsPooled st) {n : Nat} :
    wp (env O) (createSecretKey ctx s n) (fun r st' => Later st st' ∧
      ∀ o, r = some o → st'.OnSlot o s.slot) st := by
  simp only [createSecretKey, P11Prov.sessionHandle, Prog.perform_eq, Prog.call_bind,
    Prog.ret_bind, wp_loadSess, wp_callExt, Prog.pure_eq]
  intro r _
  split
  · exact ⟨.refl h, by simp⟩
  rw [wp_callExt]
  intro r hr
  split
  · exact ⟨.refl h, by simp⟩
  refine wp.bind (Later.objectInvariant.new_spec (.refl h)) ?_
  rintro (_ | o) st₁ ⟨h₁, ho⟩
  · exact ⟨h₁, by simp⟩
  obtain ⟨x, hx, -, hh, hslot⟩ := ho o rfl
  have hon : st₁.OnSlot o s.slot := hslot ▸ .of_obj hx (hh ▸ hO.1 _ _ _ hr)
  refine wp_mono (fillSecretKey_spec h₁.refs) ?_
  rintro r st₂ ⟨hr, h₂⟩
  refine ⟨h₁.trans h₂, fun o' ho' => ?_⟩
  exact hr o' ho' ▸ h₂.onSlot o s.slot hon

end Handles

end P11Prov
