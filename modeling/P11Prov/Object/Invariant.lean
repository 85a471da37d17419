import P11Prov.Session.Invariant

/-!
# Properties that the object layer keeps

As for the session layer, a property of the state is shown to survive every
function of the object layer from what it does in small steps
(`ObjectInvariant`): fields of an object are assigned that the property does
not depend on (`Neutral`), an object is allocated, an object goes away together
with its session reference, and an object gets its session reference (`SetsRef`).

The token is relied upon not to use the object handle that marks an object
which is on no token (`ObjectHandles`).
-/

namespace P11Prov

open Interaction

/-- The handles of the objects that `C_CreateObject` makes and `C_FindObjects` finds are
    not the one that marks an object which is on no token. -/
def ObjectHandles (O : Oracle) : Prop :=
  (∀ st h r, O st (.createObject h) r → r.2 ≠ ckP11provImportedHandle) ∧
    ∀ st h r, O st (.findObjects h) r → ∀ handle ∈ r.2, handle ≠ ckP11provImportedHandle

/-- Assignments to an object that keep its session reference, and what a reference is
    about: its slot once it is on a token, that it is on one, and (if `H` does not hold) where
    it was created. -/
structure Neutral (H : Prop) (x y : Obj) : Prop where
  refSession : y.refSession = x.refSession
  slotid : y.slotid = x.slotid ∨ x.handle = ckP11provImportedHandle
  handle : y.handle = ckP11provImportedHandle → x.handle = ckP11provImportedHandle
  home : y.home = x.home ∨ y.home = none ∨ H

/-- None of the fields that matter is assigned. -/
theorem Neutral.of_eq {H : Prop} {x y : Obj} (hr : y.refSession = x.refSession)
    (hs : y.slotid = x.slotid) (hh : y.handle = x.handle) (hm : y.home = x.home) : Neutral H x y :=
  ⟨hr, .inl hs, fun e => hh ▸ e, .inl hm⟩

theorem Neutral.mono {H H' : Prop} {x y : Obj} (h : Neutral H x y) (hH : H → H') : Neutral H' x y :=
  ⟨h.refSession, h.slotid, h.handle, h.home.imp_right (.imp_right hH)⟩

/-- Assignments by which an object that refers to no session comes to refer to `s`: it is on
    a token then, on the slot of the session, and created on that session or not newly. -/
structure SetsRef (O : Oracle) (st : State) (s : SessId) (x y : Obj) : Prop where
  refSession : y.refSession = some s
  pooled : st.mem.Pooled s
  slotid : y.slotid = s.slot
  place : y.slotid = x.slotid ∨ x.handle = ckP11provImportedHandle
  handle : y.handle ≠ ckP11provImportedHandle
  home : y.home = x.home ∨ (y.home = some (st.mem.sess s).session ∧
    (OpensFresh O → ReportsOpen O → (st.mem.sess s).session ≠ ckInvalidHandle ∧
      st.tok.opened (st.mem.sess s).session ≠ none))

/-- A property of the state that survives what the object layer does. -/
structure ObjectInvariant (O : Oracle) (H : Prop) (I : State → Prop) : Prop
    extends SessionInvariant O I where
  update {st : State} {o : ObjId} {x y : Obj} : I st → st.mem.obj o = some x → Neutral H x y →
    I ⟨st.mem.setObj o fun _ => some y, st.tok⟩
  alloc {st : State} {x : Obj} : I st → x.refSession = none → x.home = none →
    I ⟨{ st.mem with objs := st.mem.objs ++ [some x] }, st.tok⟩
  drop {st : State} {o : ObjId} {x : Obj} : I st → st.mem.obj o = some x → x.refSession = none →
    I ⟨st.mem.setObj o fun _ => none, st.tok⟩
  dropRef {st : State} {o : ObjId} {x : Obj} {s : SessId} : I st → st.mem.obj o = some x →
    x.refSession = some s → I ⟨(st.mem.setObj o fun _ => none).setSess s
      fun x => { x with refcnt := x.refcnt - 1 }, st.tok⟩
  setRef {st : State} {o : ObjId} {x y : Obj} {s : SessId} : I st → st.mem.obj o = some x →
    x.refSession = none → SetsRef O st s x y → I ⟨(st.mem.setObj o fun _ => some y).setSess s
      fun x => { x with refcnt := x.refcnt + 1 }, st.tok⟩
  mock {st : State} {o : ObjId} {x : Obj} : I st → st.mem.obj o = some x →
    x.handle = ckP11provImportedHandle → x.refSession = none

/-- The session layer does not touch the objects. -/
theorem objs_sessionInvariant {O : Oracle} (objs : List (Option Obj)) :
    SessionInvariant O fun st => st.mem.objs = objs where
  works h hw := hw.objs.trans h
  setInUse _ h := h
  addSess _ h := h
  markBroken h := h

namespace ObjectInvariant

variable {O : Oracle} {H : Prop} {I : State → Prop} (hI : ObjectInvariant O H I)
  {ctx : Ctx} {slotid : SlotId} {s : SessId} {o : ObjId} {n : Nat} {handle : ObjectHandle}

theorem loadObj : Keeps (env O) I (mem (.loadObj o)) := fun _ h => wp_loadObj.2 h

theorem keeps_call {c : Call} (hc : ∀ (t : Token) r, t.after c r = t := by intros; rfl) :
    Keeps (env O) I (call c) := by
  intro st h r hr
  simp only [env, hc]
  exact h

theorem sessionHandle : Keeps (env O) I (sessionHandle s) :=
  .bind SessionInvariant.loadSess fun _ => .pure

include hI

theorem set {f : Obj → Obj} {st : State} (hf : ∀ x, st.mem.obj o = some x → Neutral H x (f x))
    (h : I st) : I ⟨st.mem.setObj o fun x => some (f x), st.tok⟩ := by
  cases ho : st.mem.obj o with
  | none => rwa [Mem.setObj_of_none ho]
  | some x =>
    rw [Mem.setObj_congr (g := fun _ => some (f x)) ho rfl]
    exact hI.update h ho (hf x ho)

theorem setRefBy {f : Obj → Obj} {st : State} {x : Obj} (h : I st) (hx : st.mem.obj o = some x)
    (hr : x.refSession = none) (hf : SetsRef O st s x (f x)) :
    I ⟨(st.mem.setObj o fun x => some (f x)).setSess s fun x => { x with refcnt := x.refcnt + 1 },
      st.tok⟩ := by
  rw [Mem.setObj_congr (g := fun _ => some (f x)) hx rfl]
  exact hI.setRef h hx hr hf

theorem storeObj {f : Obj → Obj} (hf : ∀ x, Neutral H x (f x)) :
    Keeps (env O) I (mem (.storeObj o f)) := fun _ h => wp_storeObj.2 (hI.set (fun x _ => hf x) h)

theorem fetchAdd : Keeps (env O) I (mem (.objFetchAdd o)) := by
  intro st h
  refine wp_objFetchAdd.2 (wp_ret.2 (hI.set (fun x _ => ?_) h))
  exact .of_eq rfl rfl rfl rfl

theorem addToPool : Keeps (env O) I (mem (.objAddToPool o)) := by
  intro st h
  refine wp_objAddToPool.2 fun r => wp_ret.2 ?_
  split
  · refine hI.set (fun x _ => ?_) h
    exact .of_eq rfl rfl rfl rfl
  · exact h

theorem refNoCache : Keeps (env O) I (objRefNoCache o) := .bind hI.fetchAdd fun _ => .pure

theorem destroyKeyCacheOn : Keeps (env O) I (destroyKeyCacheOn o s) :=
  .bind loadObj fun _ => .ite (.bind sessionHandle fun _ => .bind keeps_call fun _ =>
    hI.storeObj fun _ => .of_eq rfl rfl rfl rfl) .pure

theorem destroyKeyCache {x : Obj} : Keeps (env O) I (destroyKeyCache ctx x) := by
  refine .ite (.bind hI.takeLoginSession fun r => ?_) .pure
  cases r with
  | error ret => exact .pure
  | ok s =>
    exact .bind sessionHandle fun _ => .bind keeps_call fun _ => hI.returnSession

theorem freeChain : Keeps (env O) I (objFreeChain ctx n o) := by
  induction n generalizing o with
  | zero => exact .pure
  | succ n ih =>
    intro st h
    simp only [objFreeChain, Prog.perform_eq, Prog.call_bind, Prog.ret_bind, wp_objUnref]
    cases ho : st.mem.obj o with
    | none =>
      rw [Mem.setObj_of_none ho]
      exact h
    | some x =>
      by_cases hx : x.refcnt = 1
      · rw [Mem.setObj_congr (g := fun _ => none) ho (by simp [hx])]
        simp only [Option.filter_some, hx, decide_true, ↓reduceIte]
        cases hs : x.refSession with
        | none =>
          refine wp.bind (hI.destroyKeyCache _ (hI.drop h ho hs)) fun _ st' h' => ?_
          cases x.assocObj with
          | none => exact h'
          | some a => exact ih st' h'
        | some s =>
          simp only [wp_deref]
          refine wp.bind (hI.destroyKeyCache _ (hI.dropRef h ho hs)) fun _ st' h' => ?_
          cases x.assocObj with
          | none => exact h'
          | some a => exact ih st' h'
      · rw [Mem.setObj_congr (g := fun x => some { x with refcnt := x.refcnt - 1 }) ho
          (by simp [hx])]
        simp only [Option.filter_some, hx, decide_false, Bool.false_eq_true, ↓reduceIte, wp_pure]
        refine hI.set (fun x _ => ?_) h
        exact .of_eq rfl rfl rfl rfl

theorem free : Keeps (env O) I (objFree ctx o) :=
  .bind (fun _ h => wp_numObjs.2 h) fun _ => hI.freeChain

/-! ### New objects -/

omit hI in
theorem obj_alloc {m : Mem} {x : Obj} :
    Mem.obj { m with objs := m.objs ++ [some x] } m.objs.length = some x := by
  simp [Mem.obj]

theorem new_spec {cls : Nat} {st : State} (h : I st) : wp (env O) (objNew slotid handle cls)
    (fun r st' => I st' ∧ ∀ o, r = some o → ∃ x, st'.mem.obj o = some x ∧ x.refSession = none ∧
      x.handle = handle ∧ x.slotid = slotid) st := by
  simp only [objNew, Prog.perform_eq, Prog.call_bind, Prog.ret_bind, wp_objAlloc]
  refine ⟨⟨h, by simp⟩, ?_⟩
  have h' := hI.alloc (x := { slotid, handle, cls }) h rfl rfl
  split
  · exact ⟨h', fun _ ho => Option.some.inj ho ▸ ⟨_, obj_alloc, rfl, rfl, rfl⟩⟩
  · rw [wp_objAddToPool]
    intro r
    by_cases hr : r = Ckr.ok
    · simp only [hr, ↓reduceIte, ne_eq, not_true_eq_false, wp_pure]
      constructor
      · refine hI.set (fun x _ => ?_) h'
        exact .of_eq rfl rfl rfl rfl
      · rintro o ⟨⟩
        refine ⟨_, Mem.obj_setObj_self obj_alloc, ?_, ?_, ?_⟩ <;> rfl
    · simp only [hr, ↓reduceIte, ne_eq, not_false_eq_true, wp_objDelete, wp_pure]
      exact ⟨hI.drop h' obj_alloc rfl, by simp⟩

theorem fromHandle_spec {home : Option Handle} (hh : home = none ∨ H) {st : State} (h : I st) :
    wp (env O) (objFromHandle ctx s handle home) (fun r st' => I st' ∧
      ∀ o, r = .ok o → ∃ x, st'.mem.obj o = some x ∧ x.handle = handle ∧ x.slotid = s.slot) st := by
  refine wp.bind (hI.new_spec h) ?_
  rintro (_ | o) st₁ ⟨h₁, ho⟩
  · exact ⟨h₁, nofun⟩
  have hfail : ∀ ret, wp (env O) (do
      objFree ctx o
      return (.error ret : Except CkRv ObjId)) (fun r st' => I st' ∧
        ∀ o, r = .ok o → ∃ x, st'.mem.obj o = some x ∧ x.handle = handle ∧ x.slotid = s.slot) st₁ :=
    fun ret => wp.bind (hI.free _ h₁) fun _ _ h => ⟨h, nofun⟩
  simp only [P11Prov.sessionHandle, Prog.perform_eq, Prog.call_bind, Prog.ret_bind, wp_loadSess,
    wp_callExt, Prog.pure_eq]
  intro r _
  split
  · exact hfail _
  split
  · exact hfail _
  rw [wp_storeObj]
  constructor
  · refine hI.set (fun x _ => ?_) h₁
    exact ⟨rfl, .inl rfl, id, hh.elim (fun e => .inr (.inl e)) fun e => .inr (.inr e)⟩
  · rintro o' ⟨⟩
    obtain ⟨x, hx, -, hxh, hxs⟩ := ho o rfl
    exact ⟨_, Mem.obj_setObj_self hx, hxh, hxs⟩

theorem fromHandle {home : Option Handle} (hh : home = none ∨ H) :
    Keeps (env O) I (objFromHandle ctx s handle home) :=
  fun _ h => wp_mono (hI.fromHandle_spec hh h) fun _ _ h => h.1

omit hI in
/-- A search changes nothing, and what it finds is what the token answered. -/
theorem findOne_answers {h : Handle} {cls : Nat} {attrs : List (Nat × Bytes)} {st : State} :
    wp (env O) (findOne h cls attrs) (fun r st' => st = st' ∧
      ∀ l, r = .ok l → ∃ st₁ r', O st₁ (.findObjects h) r' ∧ r'.2 = l) st := by
  simp only [findOne, Prog.perform_eq, Prog.call_bind, Prog.ret_bind, wp_callExt]
  intro ret _
  split
  · exact ⟨rfl, by simp⟩
  rw [wp_callExt]
  intro r hr
  rw [wp_callExt]
  intro _ _
  split
  · exact ⟨rfl, by simp⟩
  · refine ⟨rfl, fun l hl => ?_⟩
    obtain rfl := Except.ok.inj hl
    exact ⟨_, r, hr, rfl⟩

omit hI in
theorem findOne_spec (hO : ObjectHandles O) {h : Handle} {cls : Nat} {attrs : List (Nat × Bytes)}
    {st : State} : wp (env O) (findOne h cls attrs) (fun r st' => st = st' ∧
      ∀ l, r = .ok l → ∀ x ∈ l, x ≠ ckP11provImportedHandle) st := by
  refine wp_mono findOne_answers fun r st' h => ⟨h.1, fun l hl => ?_⟩
  obtain ⟨st₁, r', hr', rfl⟩ := h.2 l hl
  exact hO.2 _ _ _ hr'

theorem refreshOn (hO : ObjectHandles O) {x : Obj} :
    Keeps (env O) I (objRefreshOn ctx o x s) := by
  refine .bind sessionHandle fun h => ?_
  intro st hst
  refine wp.bind (findOne_spec hO) ?_
  rintro r _ ⟨rfl, hr⟩
  split
  · rename_i handle
    refine wp.bind (hI.fromHandle_spec (.inl rfl) hst) ?_
    rintro (ret | t) st₁ ⟨h₁, ht⟩
    · exact h₁
    obtain ⟨y, hy, hyh, -⟩ := ht t rfl
    simp only [Prog.perform_eq, Prog.call_bind, Prog.ret_bind, wp_loadObj, wp_storeObj, hy,
      Option.getD_some]
    refine Keeps.bind hI.free (fun _ => hI.storeObj fun x => ?_) _ (hI.set (fun x _ => ?_) h₁)
    · exact .of_eq rfl rfl rfl rfl
    · exact ⟨rfl, .inl rfl,
        fun e => absurd e (hyh ▸ hr _ rfl _ (List.mem_singleton_self _)), .inr (.inl rfl)⟩
  · exact hst

theorem refresh (hO : ObjectHandles O) : Keeps (env O) I (objRefresh ctx n o) := by
  induction n generalizing o with
  | zero => exact .pure
  | succ n ih =>
    refine .bind loadObj fun x => .bind hI.trySessionRef fun r => ?_
    cases r with
    | error ret => exact .pure
    | ok s =>
      refine .bind (hI.refreshOn hO) fun _ => .bind loadObj fun x => ?_
      split
      · exact .bind loadObj fun _ => .ite (.bind ih fun _ => hI.returnSession) hI.returnSession
      · exact hI.returnSession

/-! ### Keys that are stored on the token -/

theorem storeKey (hO : ObjectHandles O) {st : State} (h : I st) {x : Obj}
    (hx : st.mem.obj o = some x) (hh : x.handle = ckP11provImportedHandle) :
    wp (env O) (storeKey ctx o) (fun _ st' => I st') st := by
  simp only [P11Prov.storeKey]
  split
  · exact h
  rename_i hslot
  simp only [Prog.perform_eq, Prog.call_bind, Prog.ret_bind, wp_loadObj, hx, Option.getD_some]
  refine wp.bind (wp_and (hI.getSession st h) (wp_and
    ((objs_sessionInvariant st.mem.objs).getSession st rfl) getSession_outcome)) ?_
  rintro (ret | s) st₁ ⟨h₁, hobjs, hout, hs⟩
  · exact h₁
  have hx₁ : st₁.mem.obj o = some x := by rw [Mem.obj, hobjs]; exact hx
  have hp : st₁.mem.Pooled s := (hout.1.inUse ▸ Set.mem_insert s _ : s ∈ st₁.inUse).1
  have hs' : s.slot = ctx.defaultSlot := hs s rfl hslot
  simp only [P11Prov.sessionHandle, Prog.perform_eq, Prog.call_bind, Prog.ret_bind, wp_loadSess,
    wp_callExt, Prog.pure_eq]
  intro r hcreate
  split
  · simp only [objSetSessionRef, Prog.perform_eq, Prog.call_bind, Prog.ret_bind, wp_storeObj,
      wp_ref, Mem.setObj_setSess, Mem.setObj_setObj, Option.bind_some, ← hs']
    refine Keeps.bind hI.returnSession (fun _ => .pure) _ ?_
    refine hI.setRefBy h₁ hx₁ (hI.mock h hx hh)
      ⟨rfl, hp, rfl, .inr hh, hO.1 _ _ _ hcreate, .inr ⟨rfl, fun hf hro => ?_⟩⟩
    obtain ⟨hne, o, ho, -⟩ := hout.2 hf hro
    exact ⟨hne, by simp [ho]⟩
  · exact Keeps.bind hI.returnSession (fun _ => .pure) _ h₁

/-- A session reference that is set as `store_key` sets it. -/
theorem setSessionRef {st : State} (h : I st) {x : Obj} (hx : st.mem.obj o = some x)
    (hr : x.refSession = none) (hp : st.mem.Pooled s) (hs : x.slotid = s.slot)
    (hh : x.handle ≠ ckP11provImportedHandle) :
    wp (env O) (objSetSessionRef o s) (fun _ st' => I st') st := by
  simp only [objSetSessionRef, Prog.perform_eq, Prog.call_bind, Prog.ret_bind, wp_ref,
    wp_storeObj, wp_ret, Mem.setObj_setSess]
  exact hI.setRefBy h hx hr ⟨rfl, hp, hs, .inl rfl, hh, .inl rfl⟩

theorem storePublicKey (hO : ObjectHandles O) {st : State} (h : I st)
    (hx : ∀ x, st.mem.obj o = some x → x.handle = ckP11provImportedHandle) :
    wp (env O) (objStorePublicKey ctx o) (fun _ st' => I st') st := by
  simp only [objStorePublicKey, Prog.perform_eq, Prog.call_bind, Prog.ret_bind, wp_loadObj]
  cases ho : st.mem.obj o with
  | none =>
    rw [Option.getD_none, if_pos (by decide)]
    exact h
  | some x =>
    split
    · exact h
    split
    · exact h
    · refine wp.bind (hI.storeKey hO h ho (hx x ho)) fun ret st₁ h₁ => ?_
      exact (Keeps.ite (.bind hI.addToPool fun _ => .pure) .pure) _ h₁

theorem getHandle (hO : ObjectHandles O) : Keeps (env O) I (objGetHandle ctx o) := by
  have hrest : Keeps (env O) I (do
      let x ← mem (.loadObj o)
      if x.cached ≠ ckInvalidHandle then
        return x.cached
      if x.handle = ckP11provImportedHandle then
        let ret ← objStorePublicKey ctx o
        if ret ≠ Ckr.ok then
          return ckInvalidHandle
      let x ← mem (.loadObj o)
      return x.handle) := by
    intro st h
    simp only [Prog.perform_eq, Prog.call_bind, Prog.ret_bind, wp_loadObj]
    split
    · exact h
    split
    · rename_i hh
      refine wp.bind (hI.storePublicKey hO h fun x hx => ?_) fun ret st₁ h₁ => ?_
      · simpa [hx] using hh
      · exact (Keeps.ite .pure (.bind loadObj fun _ => .pure)) _ h₁
    · exact (Keeps.bind loadObj fun _ => .pure) _ h
  refine .bind loadObj fun x => .ite ?_ hrest
  exact .bind (fun _ h => wp_numObjs.2 h) fun n => .bind (hI.refresh hO) fun _ => hrest

theorem importSecretKey (hO : ObjectHandles O) {type size : Nat} :
    Keeps (env O) I (objImportSecretKey ctx type size) := by
  intro st h
  refine wp.bind (hI.new_spec h) ?_
  rintro (_ | o) st₁ ⟨h₁, ho⟩
  · exact h₁
  obtain ⟨x, hx, -, hh, -⟩ := ho o rfl
  simp only [Prog.perform_eq, Prog.call_bind, Prog.ret_bind, wp_storeObj]
  refine wp.bind (hI.storeKey hO ?_ (Mem.obj_setObj_self hx) ?_) fun ret st₂ h₂ => ?_
  · refine hI.set (fun x _ => ?_) h₁
    exact .of_eq rfl rfl rfl rfl
  · exact hh
  · exact (Keeps.ite (.bind hI.free fun _ => .pure) .pure) _ h₂

/-! ### Caching and referencing -/

theorem cacheKeyOn (hO : ObjectHandles O) : Keeps (env O) I (cacheKeyOn ctx o s) := by
  refine .bind hI.destroyKeyCacheOn fun _ => .bind sessionHandle fun _ =>
    .bind (hI.getHandle hO) fun _ => .bind keeps_call fun _ => .ite ?_ ?_
  · exact hI.storeObj fun _ => .of_eq rfl rfl rfl rfl
  · exact hI.storeObj fun _ => .of_eq rfl rfl rfl rfl

theorem cacheKey (hO : ObjectHandles O) : Keeps (env O) I (cacheKey ctx o) := by
  refine .ite .pure <| .bind loadObj fun x => .ite .pure <| .bind keeps_call fun _ => .ite ?_ ?_
  · exact hI.storeObj fun _ => .of_eq rfl rfl rfl rfl
  · refine .bind hI.takeLoginSession fun r => ?_
    cases r with
    | error ret => exact .pure
    | ok s => exact .bind (hI.cacheKeyOn hO) fun _ => hI.returnSession

theorem ref (hO : ObjectHandles O) : Keeps (env O) I (objRef ctx o) :=
  .bind hI.refNoCache fun _ => .ite
    (.bind loadObj fun _ => .ite (.bind (hI.cacheKey hO) fun _ => .pure) .pure) .pure

/-! ### Other ways to make an object -/

theorem dupKey {src : ObjId} {st : State} (h : I st)
    (hd : ∀ x, st.mem.obj o = some x → x.handle = ckP11provImportedHandle)
    (hs : H ∨ ∀ x, st.mem.obj src = some x → x.home = none) :
    wp (env O) (returnDupKey o src) (fun _ st' => I st') st := by
  simp only [returnDupKey, Prog.perform_eq, Prog.call_bind, Prog.ret_bind, wp_loadObj]
  split
  · exact h
  simp only [wp_loadObj, wp_storeObj]
  have hhome : ((st.mem.obj src).getD .freed).home = none ∨ H := by
    rcases hs with hs | hs
    · exact .inr hs
    · cases hx : st.mem.obj src with
      | none => exact .inl rfl
      | some x => exact .inl (hs x hx)
  refine Keeps.bind hI.addToPool (fun _ => .ite .pure fun _ h => ?_) _ ?_
  · refine wp_storeObj.2 (wp_pure.2 (hI.set (fun x _ => ?_) h))
    exact .of_eq rfl rfl rfl rfl
  · refine hI.set (fun y hy => ?_) h
    exact ⟨rfl, .inr (hd y hy), fun _ => hd y hy,
      hhome.elim (fun e => .inr (.inl e)) fun e => .inr (.inr e)⟩

theorem importKey (hO : ObjectHandles O) {found : Option ObjId} {attrs : List (Nat × Bytes)}
    {st : State} (h : I st)
    (hs : H ∨ ∀ src x, found = some src → st.mem.obj src = some x → x.home = none) :
    wp (env O) (objImportKey ctx o found attrs) (fun _ st' => I st') st := by
  simp only [objImportKey, Prog.perform_eq, Prog.call_bind, Prog.ret_bind, wp_loadObj]
  split
  · exact h
  rename_i hh
  split
  · exact h
  rename_i hcls
  cases ho : st.mem.obj o with
  | none => simp [ho, Obj.freed] at hh
  | some x =>
    have hx : x.handle = ckP11provImportedHandle := by simpa [ho] using hh
    cases found with
    | some src =>
      exact hI.dupKey h (fun y hy => by rw [ho] at hy; exact Option.some.inj hy ▸ hx)
        (hs.imp_right fun hs y => hs src y rfl)
    | none =>
      have hset : Keeps (env O) I (do
          mem (.storeObj o fun x => { x with attrs })
          return Ckr.ok) := .bind (hI.storeObj fun _ => .of_eq rfl rfl rfl rfl) fun _ => .pure
      simp only []
      split
      · refine wp.bind (hI.storeKey hO h ho hx) fun ret st₁ h₁ => ?_
        exact (Keeps.ite .pure hset) st₁ h₁
      · exact hset st h

theorem skeyGenerate {type : SkeyType} {uri : Option Uri} {ephemeral : Bool}
    (he : ephemeral = false ∨ H) : Keeps (env O) I (skeyGenerate ctx type uri ephemeral) := by
  refine .bind hI.getSession fun r => ?_
  cases r with
  | error ret => exact .pure
  | ok s =>
    refine .bind sessionHandle fun h => .bind keeps_call fun r => .ite ?_ ?_
    · exact .bind .pure fun _ => .bind hI.returnSession fun _ => .pure
    · refine .bind (hI.fromHandle (he.imp_left fun e => by simp [e])) fun r => ?_
      cases r <;> exact .bind .pure fun _ => .bind hI.returnSession fun _ => .pure

theorem deriveKey (hO : ObjectHandles O) {mechtype : Nat} {session : Option SessId} :
    Keeps (env O) I (deriveKey ctx o mechtype session) := by
  refine .bind (hI.getHandle hO) fun handle => .ite .pure ?_
  have hrest : ∀ s, Keeps (env O) I (do
      let h ← P11Prov.sessionHandle s
      let r ← call (.deriveKey h mechtype handle)
      if r.1 = Ckr.ok then
        return .ok (r.2, s)
      if session = none then
        P11Prov.returnSession ctx s
      return (.error r.1 : Except CkRv (ObjectHandle × SessId))) := fun s =>
    .bind sessionHandle fun _ => .bind keeps_call fun _ => .ite .pure <|
      .ite (.bind hI.returnSession fun _ => .pure) .pure
  cases session with
  | some s => exact hrest s
  | none =>
    refine .bind loadObj fun _ => .bind hI.trySessionRef fun r => ?_
    cases r with
    | error ret => exact .pure
    | ok s => exact hrest s

theorem deriveSkey (hO : ObjectHandles O) (hH : H) {mechtype : Nat} {session : Option SessId} :
    Keeps (env O) I (deriveSkey ctx o mechtype session) := by
  refine .bind (hI.deriveKey hO) fun r => ?_
  cases r with
  | error ret => exact .pure
  | ok r =>
    refine .bind sessionHandle fun h => .bind (hI.fromHandle (.inr hH)) fun r => ?_
    cases r <;> exact .pure

/-- An object is associated with the one it was found for. -/
theorem associate {a : ObjId} : Keeps (env O) I (associate o a) := by
  refine .bind loadObj fun _ => .ite ?_ .pure
  exact .bind hI.refNoCache fun _ => hI.storeObj fun _ => .of_eq rfl rfl rfl rfl

theorem findAssociatedOn (hO : ObjectHandles O) {cls : Nat} {id : Bytes} :
    Keeps (env O) I (findAssociatedOn ctx o cls id s) := by
  refine .bind sessionHandle fun h => fun st hst => ?_
  refine wp.bind (findOne_spec hO) ?_
  rintro r _ ⟨rfl, -⟩
  split
  · refine Keeps.bind (hI.fromHandle (.inl rfl)) (fun r => ?_) st hst
    cases r with
    | error ret => exact .pure
    | ok a => exact .bind hI.associate fun _ => .pure
  · exact hst

theorem findAssociated (hO : ObjectHandles O) {cls : Nat} :
    Keeps (env O) I (objFindAssociated ctx o cls) := by
  refine .bind loadObj fun x => .bind ?_ fun known => ?_
  · unfold knownAssociated
    cases x.assocObj with
    | none => exact .pure
    | some a => exact .bind loadObj fun _ => .pure
  cases known with
  | some a => exact .bind hI.refNoCache fun _ => .pure
  | none =>
    simp only []
    split
    · exact .pure
    · exact .pure
    · refine .bind hI.trySessionRef fun r => ?_
      cases r with
      | error ret => exact .pure
      | ok s => exact .bind (hI.findAssociatedOn hO) fun _ => .bind hI.returnSession fun _ => .pure

end ObjectInvariant

end P11Prov
