import P11Prov.Run

/-!
# Objects after a fork

The module is initialised again in a forked child, so every handle the provider
holds is stale there. The fork handler goes through the object pools: each
object in them loses its handles and is marked to be refreshed (`raf`). This is
complete only if every object with a handle is in a pool, and it stays so only
if no object without a handle loses the mark.

`Obj.ForkSafe` is what has to hold of an object. Most of the object layer does
not touch the fields it speaks of (`FrameInvariant`); the places that do are the
refresh, the creation of a key on the token, and the duplication of a key. A key
that is created on the token by an import never gets into a pool
(`imported_key_not_reset`), and neither does a public key if the pool cannot be
extended, which the environment `poolEnv` excludes. A duplicate of an object
that waits for its refresh has neither a handle nor the mark.
-/

namespace P11Prov

open Interaction

/-! ## What the fork handler relies on -/

/-- An object is in a pool unless it is not on a token yet; without a handle it is to be
    refreshed, and only pooled objects are. -/
structure Obj.ForkSafe (x : Obj) : Prop where
  pooled : x.pooled = true ∨ x.handle = ckP11provImportedHandle
  stale : x.handle = ckInvalidHandle → x.raf = true
  raf : x.raf = true → x.pooled = true

/-- All objects are as the fork handler needs them. -/
def State.ForkSafe (st : State) : Prop := ∀ o x, st.mem.obj o = some x → x.ForkSafe

/-- The fields that matter to the fork handler are the same. -/
structure Obj.SameHandle (x y : Obj) : Prop where
  handle : y.handle = x.handle
  raf : y.raf = x.raf
  pooled : y.pooled = x.pooled

theorem Obj.ForkSafe.congr {x y : Obj} (h : x.ForkSafe) (hs : x.SameHandle y) : y.ForkSafe := by
  constructor
  · rw [hs.pooled, hs.handle]
    exact h.pooled
  · rw [hs.handle, hs.raf]
    exact h.stale
  · rw [hs.raf, hs.pooled]
    exact h.raf

/-- A pooled object with a handle is safe. -/
theorem Obj.ForkSafe.of_pooled {x : Obj} (hp : x.pooled = true) (hh : x.handle ≠ ckInvalidHandle) :
    x.ForkSafe := ⟨.inl hp, fun h => absurd h hh, fun _ => hp⟩

/-- Object handles are not `CK_INVALID_HANDLE`. -/
structure ValidHandles (O : Oracle) : Prop where
  create : ∀ st h r, O st (.createObject h) r → r.1 = Ckr.ok → r.2 ≠ ckInvalidHandle
  generate : ∀ st h mechtype tokenObj r, O st (.generateKey h mechtype tokenObj) r →
    r.1 = Ckr.ok → r.2 ≠ ckInvalidHandle
  derive : ∀ st h mechtype key r, O st (.deriveKey h mechtype key) r → r.1 = Ckr.ok →
    r.2 ≠ ckInvalidHandle
  find : ∀ st h r, O st (.findObjects h) r → ∀ handle ∈ r.2, handle ≠ ckInvalidHandle

/-- The object allocated last is changed. -/
theorem Mem.setObj_append (m : Mem) (x : Obj) (f : Obj → Option Obj) :
    ({ m with objs := m.objs ++ [some x] } : Mem).setObj m.objs.length f =
      { m with objs := m.objs ++ [f x] } := by
  have h : m.objs.length < (m.objs ++ [some x]).length := by simp
  simp [Mem.setObj, List.modify_eq_take_cons_drop h]

/-! ## What leaves the handles alone -/

/-- A property that survives everything which leaves the handles of the objects there are
    alone, and makes only objects that are safe. -/
structure FrameInvariant (O : Oracle) (I : State → Prop) : Prop extends SessionInvariant O I where
  update {st : State} {o : ObjId} {x y : Obj} : I st → st.mem.obj o = some x → x.SameHandle y →
    I ⟨st.mem.setObj o fun _ => some y, st.tok⟩
  drop {st : State} {o : ObjId} : I st → I ⟨st.mem.setObj o fun _ => none, st.tok⟩
  append {st : State} {y : Option Obj} : I st → (∀ x, y = some x → x.ForkSafe) →
    I ⟨{ st.mem with objs := st.mem.objs ++ [y] }, st.tok⟩
  sess {st : State} {s : SessId} {f : Session → Session} : I st → I ⟨st.mem.setSess s f, st.tok⟩

namespace FrameInvariant

variable {O : Oracle} {I : State → Prop} (hI : FrameInvariant O I) {ctx : Ctx} {slotid : SlotId}
  {s : SessId} {o : ObjId} {n : Nat} {handle : ObjectHandle}

include hI

theorem set {f : Obj → Obj} {st : State} (hf : ∀ x : Obj, x.SameHandle (f x)) (h : I st) :
    I ⟨st.mem.setObj o fun x => some (f x), st.tok⟩ := by
  cases ho : st.mem.obj o with
  | none => rwa [Mem.setObj_of_none ho]
  | some x =>
    rw [Mem.setObj_congr (g := fun _ => some (f x)) ho rfl]
    exact hI.update h ho (hf x)

theorem storeObj {f : Obj → Obj} (hf : ∀ x : Obj, x.SameHandle (f x)) :
    Keeps (env O) I (mem (.storeObj o f)) := fun _ h => wp_storeObj.2 (hI.set hf h)

theorem refNoCache : Keeps (env O) I (objRefNoCache o) := by
  refine .bind (fun st h => wp_objFetchAdd.2 (wp_ret.2 (hI.set (fun x => ?_) h))) fun _ => .pure
  exact ⟨rfl, rfl, rfl⟩

theorem destroyKeyCacheOn : Keeps (env O) I (destroyKeyCacheOn o s) :=
  .bind ObjectInvariant.loadObj fun _ => .ite (.bind ObjectInvariant.sessionHandle fun _ =>
    .bind ObjectInvariant.keeps_call fun _ => hI.storeObj fun _ => ⟨rfl, rfl, rfl⟩) .pure

theorem destroyKeyCache {x : Obj} : Keeps (env O) I (destroyKeyCache ctx x) := by
  refine .ite (.bind hI.takeLoginSession fun r => ?_) .pure
  cases r with
  | error ret => exact .pure
  | ok s =>
    exact .bind ObjectInvariant.sessionHandle fun _ =>
      .bind ObjectInvariant.keeps_call fun _ => hI.returnSession

theorem freeChain : Keeps (env O) I (objFreeChain ctx n o) := by
  induction n generalizing o with
  | zero => exact .pure
  | succ n ih =>
    have hunref : Keeps (env O) I (mem (.objUnref o)) := by
      intro st h
      refine wp_objUnref.2 (wp_ret.2 ?_)
      cases ho : st.mem.obj o with
      | none => rwa [Mem.setObj_of_none ho]
      | some x =>
        by_cases hx : x.refcnt = 1
        · rw [Mem.setObj_congr (g := fun _ => none) ho (by simp [hx])]
          exact hI.drop h
        · rw [Mem.setObj_congr (g := fun _ => some { x with refcnt := x.refcnt - 1 }) ho
            (by simp [hx])]
          exact hI.update h ho ⟨rfl, rfl, rfl⟩
    refine .bind hunref fun r => ?_
    cases r with
    | none => exact .pure
    | some x =>
      have hderef : ∀ s, Keeps (env O) I (mem (.deref s)) := fun _ _ h => wp_deref.2 (hI.sess h)
      dsimp only
      cases x.refSession with
      | none =>
        refine .bind hI.destroyKeyCache fun _ => ?_
        cases x.assocObj with
        | none => exact .pure
        | some a => exact ih
      | some s =>
        refine .bind (hderef s) fun _ => .bind hI.destroyKeyCache fun _ => ?_
        cases x.assocObj with
        | none => exact .pure
        | some a => exact ih

theorem free : Keeps (env O) I (objFree ctx o) :=
  .bind (fun _ h => wp_numObjs.2 h) fun _ => hI.freeChain

/-- A new object is safe, or taken back. -/
theorem new_spec {cls : Nat} (hh : handle ≠ ckInvalidHandle) {st : State} (h : I st) :
    wp (env O) (objNew slotid handle cls) (fun r st' => I st' ∧ ∀ o, r = some o →
      ∃ x, st'.mem.obj o = some x ∧ x.handle = handle) st := by
  simp only [objNew, Prog.perform_eq, Prog.call_bind, Prog.ret_bind, wp_objAlloc]
  refine ⟨⟨h, by simp⟩, ?_⟩
  split
  · rename_i hmock
    refine ⟨hI.append h ?_, ?_⟩
    · rintro _ ⟨⟩
      exact ⟨.inr hmock, fun e => absurd e hh, by simp⟩
    · rintro _ ⟨⟩
      exact ⟨_, ObjectInvariant.obj_alloc, rfl⟩
  · rw [wp_objAddToPool]
    intro r
    by_cases hr : r = Ckr.ok
    · simp only [hr, ↓reduceIte, ne_eq, not_true_eq_false, wp_pure, Mem.setObj_append]
      refine ⟨hI.append h ?_, ?_⟩
      · rintro _ ⟨⟩
        exact .of_pooled rfl hh
      · rintro _ ⟨⟩
        exact ⟨_, ObjectInvariant.obj_alloc, rfl⟩
    · simp only [hr, ↓reduceIte, ne_eq, not_false_eq_true, wp_objDelete, wp_pure,
        Mem.setObj_append]
      exact ⟨hI.append h (by simp), by simp⟩

theorem fromHandle_spec {home : Option Handle} (hh : handle ≠ ckInvalidHandle) {st : State}
    (h : I st) : wp (env O) (objFromHandle ctx s handle home) (fun r st' => I st' ∧
      ∀ o, r = .ok o → ∃ x, st'.mem.obj o = some x ∧ x.handle = handle) st := by
  refine wp.bind (hI.new_spec hh h) ?_
  rintro (_ | o) st₁ ⟨h₁, ho⟩
  · exact ⟨h₁, by simp⟩
  have hfail : ∀ ret, wp (env O) (do
      objFree ctx o
      return (.error ret : Except CkRv ObjId)) (fun r st' => I st' ∧
        ∀ o, r = .ok o → ∃ x, st'.mem.obj o = some x ∧ x.handle = handle) st₁ :=
    fun ret => wp.bind (hI.free _ h₁) fun _ _ h => ⟨h, by simp⟩
  simp only [P11Prov.sessionHandle, Prog.perform_eq, Prog.call_bind, Prog.ret_bind, wp_loadSess,
    wp_callExt, Prog.pure_eq]
  intro r _
  split
  · exact hfail _
  split
  · exact hfail _
  rw [wp_storeObj]
  refine ⟨hI.set (fun x => ⟨rfl, rfl, rfl⟩) h₁, ?_⟩
  rintro o' ⟨⟩
  obtain ⟨x, hx, hxh⟩ := ho o rfl
  exact ⟨_, Mem.obj_setObj_self hx, hxh⟩

theorem fromHandle {home : Option Handle} (hh : handle ≠ ckInvalidHandle) :
    Keeps (env O) I (objFromHandle ctx s handle home) :=
  fun _ h => wp_mono (hI.fromHandle_spec hh h) fun _ _ h => h.1

omit hI in
theorem findOne_valid (hO : ValidHandles O) {h : Handle} {cls : Nat} {attrs : List (Nat × Bytes)}
    {st : State} : wp (env O) (findOne h cls attrs) (fun r st' => st = st' ∧
      ∀ l, r = .ok l → ∀ x ∈ l, x ≠ ckInvalidHandle) st := by
  refine wp_mono ObjectInvariant.findOne_answers fun r st' h => ⟨h.1, fun l hl => ?_⟩
  obtain ⟨st₁, r', hr', rfl⟩ := h.2 l hl
  exact hO.find _ _ _ hr'

theorem skeyGenerate (hO : ValidHandles O) {type : SkeyType} {uri : Option Uri} {ephemeral : Bool} :
    Keeps (env O) I (skeyGenerate ctx type uri ephemeral) := by
  refine .bind hI.getSession fun r => ?_
  cases r with
  | error ret => exact .pure
  | ok s =>
    refine .bind ObjectInvariant.sessionHandle fun h => fun st hst => ?_
    have hend : ∀ key, Keeps (env O) I (do
        P11Prov.returnSession ctx s
        return (key : Option ObjId)) := fun _ => .bind hI.returnSession fun _ => .pure
    simp only [Prog.perform_eq, Prog.call_bind, Prog.ret_bind, wp_callExt]
    intro r hr
    split
    · exact hend none _ hst
    · rename_i hok
      have hh : r.2 ≠ ckInvalidHandle := hO.generate _ _ _ _ _ hr (not_not.1 hok)
      refine wp.bind (hI.fromHandle hh _ hst) fun r st' h => ?_
      cases r with
      | error ret => exact hend none _ h
      | ok key => exact hend (some key) _ h

theorem associate {a : ObjId} : Keeps (env O) I (associate o a) := by
  refine .bind ObjectInvariant.loadObj fun _ => .ite ?_ .pure
  exact .bind hI.refNoCache fun _ => hI.storeObj fun _ => ⟨rfl, rfl, rfl⟩

theorem findAssociatedOn (hO : ValidHandles O) {cls : Nat} {id : Bytes} :
    Keeps (env O) I (findAssociatedOn ctx o cls id s) := by
  refine .bind ObjectInvariant.sessionHandle fun h => fun st hst => ?_
  refine wp.bind (findOne_valid hO) ?_
  rintro r _ ⟨rfl, hr⟩
  split
  · rename_i handle
    have hh : handle ≠ ckInvalidHandle := hr _ rfl _ (List.mem_singleton_self _)
    refine Keeps.bind (hI.fromHandle hh) (fun r => ?_) st hst
    cases r with
    | error ret => exact .pure
    | ok a => exact .bind hI.associate fun _ => .pure
  · exact hst

theorem findAssociated (hO : ValidHandles O) {cls : Nat} :
    Keeps (env O) I (objFindAssociated ctx o cls) := by
  refine .bind ObjectInvariant.loadObj fun x => .bind ?_ fun known => ?_
  · unfold knownAssociated
    cases x.assocObj with
    | none => exact .pure
    | some a => exact .bind ObjectInvariant.loadObj fun _ => .pure
  cases known with
  | some a => exact .bind hI.refNoCache fun _ => .pure
  | none =>
    simp only []
    split
    · exact .pure
    · exact .pure
    · refine .bind hI.trySessionRef fun r => ?_
      cases r with
      | error ret => exact .pure
      | ok s => exact .bind (hI.findAssociatedOn hO) fun _ => .bind hI.returnSession fun _ => .pure

end FrameInvariant

/-- An object of the memory that was extended is an old one, or the new one. -/
theorem Mem.obj_append {m : Mem} {y : Option Obj} {o : ObjId} {x : Obj}
    (h : ({ m with objs := m.objs ++ [y] } : Mem).obj o = some x) :
    m.obj o = some x ∨ (o = m.objs.length ∧ y = some x) := by
  simp only [Mem.obj, List.getElem?_append] at h ⊢
  split at h
  · exact .inl h
  · rename_i ho
    rw [List.getElem?_singleton] at h
    split at h
    · rename_i h0
      exact .inr ⟨Nat.le_antisymm (Nat.sub_eq_zero_iff_le.1 h0) (Nat.le_of_not_lt ho), h⟩
    · simp at h

/-- Each object has the property `R`, and there are at least `n`. -/
def State.Each (n : Nat) (R : ObjId → Obj → Prop) (st : State) : Prop :=
  n ≤ st.mem.objs.length ∧ ∀ o x, st.mem.obj o = some x → R o x

theorem each_frame {O : Oracle} {n : Nat} {R : ObjId → Obj → Prop}
    (hR : ∀ o (x y : Obj), x.SameHandle y → R o x → R o y)
    (hnew : ∀ o (x : Obj), n ≤ o → x.ForkSafe → R o x) : FrameInvariant O (State.Each n R) where
  works h hw := by
    simp only [State.Each, Mem.obj, hw.objs]
    exact h
  setInUse _ h := h
  addSess _ h := h
  markBroken h := h
  update := by
    intro st o' x y h ho' hxy
    refine ⟨by simpa [Mem.setObj] using h.1, fun o z hz => ?_⟩
    rw [Mem.obj_setObj] at hz
    split at hz
    · subst o
      rw [ho', Option.bind_some, Option.some.injEq] at hz
      subst hz
      exact hR o' x y hxy (h.2 o' x ho')
    · exact h.2 o z hz
  drop := by
    intro st o' h
    refine ⟨by simpa [Mem.setObj] using h.1, fun o z hz => ?_⟩
    rw [Mem.obj_setObj] at hz
    split at hz
    · simp at hz
    · exact h.2 o z hz
  append := by
    intro st y h hy
    refine ⟨by simpa using Nat.le_succ_of_le h.1, fun o z hz => ?_⟩
    rcases Mem.obj_append hz with hz | ⟨rfl, rfl⟩
    · exact h.2 o z hz
    · exact hnew _ z h.1 (hy z rfl)
  sess h := h

theorem forkSafe_frame {O : Oracle} : FrameInvariant O State.ForkSafe := by
  have h : State.ForkSafe = State.Each 0 fun _ x => x.ForkSafe := by
    funext st
    simp [State.ForkSafe, State.Each]
  rw [h]
  exact each_frame (fun _ _ _ hs h => h.congr hs) fun _ _ _ h => h

/-- One object has the property `R`, all others are safe. -/
def State.SafeBut (o : ObjId) (R : Obj → Prop) : State → Prop :=
  State.Each (o + 1) fun o' x => if o' = o then R x else x.ForkSafe

section SafeBut

variable {O : Oracle} {o : ObjId} {R R' : Obj → Prop} {st : State}

theorem safeBut_frame (hR : ∀ x y : Obj, x.SameHandle y → R x → R y) :
    FrameInvariant O (State.SafeBut o R) := by
  refine each_frame (fun o' x y hs h => ?_) fun o' x ho' h => ?_
  · split
    · exact hR x y hs (by simpa [*] using h)
    · exact Obj.ForkSafe.congr (by simpa [*] using h) hs
  · rw [if_neg (Nat.ne_of_gt ho')]
    exact h

theorem State.ForkSafe.safeBut (h : st.ForkSafe) {x : Obj} (ho : st.mem.obj o = some x)
    (hx : R x) : st.SafeBut o R := by
  constructor
  · exact (List.getElem?_eq_some_iff.1 (Mem.getElem?_objs ho)).1
  · intro o' y hy
    split
    · subst o'
      rw [ho, Option.some.injEq] at hy
      exact hy ▸ hx
    · exact h o' y hy

/-- The object is changed, so that it has another property. -/
theorem State.SafeBut.set (h : st.SafeBut o R) {f : Obj → Obj} (hf : ∀ x, R x → R' (f x)) :
    State.SafeBut o R' ⟨st.mem.setObj o fun x => some (f x), st.tok⟩ := by
  refine ⟨by simpa [Mem.setObj] using h.1, fun o' y hy => ?_⟩
  rw [Mem.obj_setObj] at hy
  split
  · rw [if_pos ‹_›, Option.bind_eq_some_iff] at hy
    obtain ⟨x, hx, hy⟩ := hy
    rw [Option.some.injEq] at hy
    exact hy ▸ hf x (by simpa using h.2 o x hx)
  · rw [if_neg ‹_›] at hy
    simpa [*] using h.2 o' y hy

theorem State.SafeBut.mono (h : st.SafeBut o R) (hR : ∀ x, R x → R' x) : st.SafeBut o R' := by
  refine ⟨h.1, fun o' y hy => ?_⟩
  have hy := h.2 o' y hy
  dsimp only at hy ⊢
  split at hy
  · rw [if_pos ‹_›]
    exact hR y hy
  · rw [if_neg ‹_›]
    exact hy

theorem State.SafeBut.forkSafe (h : st.SafeBut o R) (hR : ∀ x, R x → x.ForkSafe) : st.ForkSafe := by
  intro o' y hy
  have hy := h.2 o' y hy
  dsimp only at hy
  split at hy
  · exact hR y hy
  · exact hy

/-- An object with a handle is safe once it is in the pool. -/
theorem State.SafeBut.pool (h : st.SafeBut o (·.handle ≠ ckInvalidHandle)) :
    State.ForkSafe ⟨st.mem.setObj o fun x => some { x with pooled := true }, st.tok⟩ := by
  have h' : State.SafeBut o Obj.ForkSafe
      ⟨st.mem.setObj o fun x => some { x with pooled := true }, st.tok⟩ :=
    h.set fun x hx => .of_pooled rfl hx
  exact h'.forkSafe fun x hx => hx

end SafeBut

/-! ## Refreshing -/

section Refresh

variable {O : Oracle} (hO : ValidHandles O) {ctx : Ctx} {o : ObjId} {s : SessId} {st : State}

include hO

/-- An object that is refreshed is one of a pool, and it has a handle before the mark goes. -/
theorem objRefreshOn_forkSafe {obj : Obj} (h : st.SafeBut o fun x => x.pooled = true ∧ x.ForkSafe) :
    wp (env O) (objRefreshOn ctx o obj s) (fun _ st' => st'.ForkSafe) st := by
  have hkeep : ∀ {st : State}, st.SafeBut o (fun x => x.pooled = true ∧ x.ForkSafe) → st.ForkSafe :=
    fun h => h.forkSafe fun x hx => hx.2
  have hf : FrameInvariant O (State.SafeBut o fun x => x.pooled = true ∧ x.ForkSafe) :=
    safeBut_frame fun x y hs h => ⟨hs.pooled.trans h.1, h.2.congr hs⟩
  have hg : FrameInvariant O (State.SafeBut o fun x => x.pooled = true ∧
      x.handle ≠ ckInvalidHandle) :=
    safeBut_frame fun x y hs h => ⟨hs.pooled.trans h.1, hs.handle ▸ h.2⟩
  refine wp.bind (ObjectInvariant.sessionHandle st h) fun sh st₁ h₁ => ?_
  refine wp.bind (FrameInvariant.findOne_valid hO) ?_
  rintro r _ ⟨rfl, hr⟩
  split
  · rename_i handle
    refine wp.bind (hf.fromHandle_spec (hr _ rfl _ (List.mem_singleton_self _)) h₁) ?_
    rintro (ret | t) st₂ ⟨h₂, ht⟩
    · exact hkeep h₂
    obtain ⟨tmp, htmp, hth⟩ := ht t rfl
    simp only [Prog.perform_eq, Prog.call_bind, Prog.ret_bind, wp_loadObj, wp_storeObj, htmp,
      Option.getD_some]
    have hh : tmp.handle ≠ ckInvalidHandle := hth ▸ hr _ rfl _ (List.mem_singleton_self _)
    refine wp.bind (hg.free _ (h₂.set fun x hx => ⟨hx.1, hh⟩)) fun _ st₃ h₃ => ?_
    have h₄ : State.SafeBut o Obj.ForkSafe
        ⟨st₃.mem.setObj o fun x => some { x with raf := false }, st₃.tok⟩ :=
      h₃.set fun x hx => .of_pooled hx.1 hx.2
    exact wp_storeObj.2 (h₄.forkSafe fun x hx => hx)
  · exact hkeep h₁

/-- A refresh is asked for where the mark is set. -/
theorem objRefresh_forkSafe {n : Nat} (h : st.ForkSafe) {x : Obj} (ho : st.mem.obj o = some x)
    (hraf : x.raf = true) : wp (env O) (objRefresh ctx n o) (fun _ st' => st'.ForkSafe) st := by
  induction n generalizing o x st with
  | zero => exact h
  | succ n ih =>
    have hf : FrameInvariant O (State.SafeBut o fun x => x.pooled = true ∧ x.ForkSafe) :=
      safeBut_frame fun x y hs h => ⟨hs.pooled.trans h.1, h.2.congr hs⟩
    have h₀ : st.SafeBut o fun x => x.pooled = true ∧ x.ForkSafe :=
      h.safeBut ho ⟨(h o x ho).raf hraf, h o x ho⟩
    refine wp.bind (ObjectInvariant.loadObj st h₀) fun obj st h₀ => ?_
    refine wp.bind (hf.trySessionRef _ h₀) fun r st₁ h₁ => ?_
    cases r with
    | error ret => exact h₁.forkSafe fun x hx => hx.2
    | ok s =>
      refine wp.bind (objRefreshOn_forkSafe hO h₁) fun _ st₂ h₂ => ?_
      simp only [Prog.perform_eq, Prog.call_bind, Prog.ret_bind, wp_loadObj]
      have hreturn : Keeps (env O) State.ForkSafe (returnSession ctx s) :=
        forkSafe_frame.returnSession
      split
      · rename_i a _ _
        rw [wp_loadObj]
        split
        · rename_i hraf
          cases ha : st₂.mem.obj a with
          | none => simp [ha, Obj.freed] at hraf
          | some y =>
            refine wp.bind (ih h₂ ha (by simpa [ha] using hraf)) fun _ st₃ h₃ => ?_
            exact hreturn _ h₃
        · exact hreturn _ h₂
      · exact hreturn _ h₂

end Refresh

/-! ## Keys that are created -/

/-- The environment in which the pools can be extended. -/
def poolEnv (O : Oracle) : Env State Cmd.Resp where
  adm st
    | .mem (.objAddToPool _), r => r = Ckr.ok
    | c, r => (env O).adm st c r
  next := (env O).next

theorem wp_poolEnv {O : Oracle} {α : Type} {p : P α} {Q : α → State → Prop} {st : State}
    (h : wp (env O) p Q st) : wp (poolEnv O) p Q st := by
  have hn : (poolEnv O).next = (env O).next := rfl
  refine wp_of_adm hn (fun st c r hr => ?_) h
  cases c with
  | mem c =>
    cases c with
    | objAddToPool o => trivial
    | _ => exact hr
  | call c => exact hr

theorem keeps_poolEnv {O : Oracle} {α : Type} {p : P α} {I : State → Prop}
    (h : Keeps (env O) I p) : Keeps (poolEnv O) I p := fun st hst => wp_poolEnv (h st hst)

theorem wp_pool_loadObj {O : Oracle} {α : Type} {o : ObjId} {k : Obj → P α} {Q : α → State → Prop}
    {st : State} : wp (poolEnv O) (.call (Cmd.mem (.loadObj o)) k) Q st ↔
      wp (poolEnv O) (k ((st.mem.obj o).getD .freed)) Q st :=
  wp_call.trans forall_eq

theorem wp_addToPool {O : Oracle} {α : Type} {o : ObjId} {k : CkRv → P α} {Q : α → State → Prop}
    {st : State} : wp (poolEnv O) (.call (Cmd.mem (.objAddToPool o)) k) Q st ↔
      wp (poolEnv O) (k Ckr.ok) Q
        ⟨st.mem.setObj o fun obj => some { obj with pooled := true }, st.tok⟩ :=
  wp_call.trans forall_eq

section Create

variable {O : Oracle} (hO : ValidHandles O) {ctx : Ctx} {key o : ObjId} {st : State}

include hO

/-- The key gets a handle of the token, and is to be added to the pool. -/
theorem storeKey_spec (h : st.ForkSafe) {x : Obj} (ho : st.mem.obj key = some x)
    (hx : x.handle ≠ ckInvalidHandle) : wp (env O) (storeKey ctx key) (fun ret st' =>
      if ret = Ckr.ok then st'.SafeBut key (·.handle ≠ ckInvalidHandle) else st'.ForkSafe) st := by
  have hf : FrameInvariant O (State.SafeBut key fun x => x.ForkSafe ∧ x.handle ≠ ckInvalidHandle) :=
    safeBut_frame fun x y hs h => ⟨h.1.congr hs, hs.handle ▸ h.2⟩
  have hg : FrameInvariant O (State.SafeBut key (·.handle ≠ ckInvalidHandle)) :=
    safeBut_frame fun x y hs h => hs.handle ▸ h
  have h₀ : st.SafeBut key fun x => x.ForkSafe ∧ x.handle ≠ ckInvalidHandle :=
    h.safeBut ho ⟨h key x ho, hx⟩
  unfold storeKey
  split
  · simpa [Ckr.generalError, Ckr.ok] using h
  refine wp.bind (ObjectInvariant.loadObj st h₀) fun obj st h₀ => ?_
  refine wp.bind (hf.getSession _ h₀) fun r st₁ h₁ => ?_
  have hdone : ∀ {st : State} {ret : CkRv},
      st.SafeBut key (fun x => x.ForkSafe ∧ x.handle ≠ ckInvalidHandle) →
      if ret = Ckr.ok then st.SafeBut key (·.handle ≠ ckInvalidHandle) else st.ForkSafe := by
    intro st ret h
    split
    · exact h.mono fun x hx => hx.2
    · exact h.forkSafe fun x hx => hx.1
  cases r with
  | error ret => exact hdone h₁
  | ok s =>
    simp only [sessionHandle, Prog.perform_eq, Prog.call_bind, Prog.ret_bind, wp_loadSess,
      wp_callExt, Prog.pure_eq]
    intro r hr
    split
    · rename_i hok
      have hh : r.2 ≠ ckInvalidHandle := hO.create _ _ _ hr hok
      simp only [objSetSessionRef, Prog.perform_eq, Prog.call_bind, Prog.ret_bind, wp_storeObj,
        wp_ref]
      have h₂ : State.SafeBut key (·.handle ≠ ckInvalidHandle) ⟨st₁.mem.setObj key fun obj =>
          some { obj with handle := r.2, slotid := ctx.defaultSlot,
                          home := some (st₁.mem.sess s).session }, st₁.tok⟩ :=
        h₁.set fun x _ => hh
      refine wp.bind (hg.returnSession _ (hg.set ?_ (hg.sess h₂))) fun _ st₃ h₃ => ?_
      · exact fun x => ⟨rfl, rfl, rfl⟩
      · rw [wp_ret, if_pos hok]
        exact h₃
    · refine wp.bind (hf.returnSession _ h₁) fun _ st₃ h₃ => ?_
      exact hdone h₃

/-- A mock object becomes a real one, and is in the pool then. -/
theorem storePublicKey_forkSafe (h : st.ForkSafe) {x : Obj} (ho : st.mem.obj key = some x)
    (hx : x.handle ≠ ckInvalidHandle) :
    wp (poolEnv O) (objStorePublicKey ctx key) (fun _ st' => st'.ForkSafe) st := by
  simp only [objStorePublicKey, Prog.perform_eq, Prog.call_bind, Prog.ret_bind, wp_pool_loadObj]
  refine wp_ite.2 ⟨fun _ => h, fun _ => wp_ite.2 ⟨fun _ => h, fun _ => ?_⟩⟩
  refine wp.bind (wp_poolEnv (storeKey_spec hO h ho hx)) fun ret st' h' => ?_
  refine wp_ite.2 ⟨fun hok => ?_, fun hret => ?_⟩
  · rw [if_pos hok] at h'
    exact wp_addToPool.2 h'.pool
  · rw [if_neg hret] at h'
    exact h'

theorem getHandle_forkSafe : Keeps (poolEnv O) State.ForkSafe (objGetHandle ctx o) := by
  have hrest : Keeps (poolEnv O) State.ForkSafe (do
      let x ← mem (.loadObj o)
      if x.cached ≠ ckInvalidHandle then
        return x.cached
      if x.handle = ckP11provImportedHandle then
        let ret ← objStorePublicKey ctx o
        if ret ≠ Ckr.ok then
          return ckInvalidHandle
      let x ← mem (.loadObj o)
      return x.handle) := by
    intro st h
    simp only [Prog.perform_eq, Prog.call_bind, Prog.ret_bind, wp_pool_loadObj]
    split
    · exact h
    split
    · rename_i hh
      cases ho : st.mem.obj o with
      | none => simp [ho, Obj.freed, ckInvalidHandle, ckP11provImportedHandle] at hh
      | some x =>
        have hx : x.handle ≠ ckInvalidHandle := by
          simp only [ho, Option.getD_some] at hh
          simp [hh, ckInvalidHandle, ckP11provImportedHandle]
        refine wp.bind (storePublicKey_forkSafe hO h ho hx) fun ret st₁ h₁ => ?_
        exact (Keeps.ite .pure (.bind (keeps_poolEnv ObjectInvariant.loadObj) fun _ => .pure)) _ h₁
    · exact (Keeps.bind (keeps_poolEnv ObjectInvariant.loadObj) fun _ => .pure) _ h
  intro st h
  simp only [objGetHandle, Prog.perform_eq, Prog.call_bind, Prog.ret_bind, wp_pool_loadObj]
  split
  · rename_i hraf
    cases ho : st.mem.obj o with
    | none => simp [ho, Obj.freed] at hraf
    | some x =>
      refine wp_call.2 fun n _ => ?_
      have hx : x.raf = true := by simpa [ho] using hraf
      exact wp.bind (wp_poolEnv (objRefresh_forkSafe hO h ho hx)) fun _ st₁ h₁ => hrest st₁ h₁
  · exact hrest st h

omit hO in
/-- What leaves the handles alone. -/
theorem keeps_storeObj {f : Obj → Obj} (hf : ∀ x : Obj, x.SameHandle (f x)) :
    Keeps (poolEnv O) State.ForkSafe (mem (.storeObj o f)) :=
  keeps_poolEnv (forkSafe_frame.storeObj hf)

theorem cacheKeyOn_forkSafe {s : SessId} :
    Keeps (poolEnv O) State.ForkSafe (cacheKeyOn ctx o s) := by
  refine .bind (keeps_poolEnv forkSafe_frame.destroyKeyCacheOn) fun _ => ?_
  refine .bind (keeps_poolEnv ObjectInvariant.sessionHandle) fun _ => ?_
  refine .bind (getHandle_forkSafe hO) fun _ => .bind (keeps_poolEnv ObjectInvariant.keeps_call) ?_
  exact fun _ => .ite (keeps_storeObj fun _ => ⟨rfl, rfl, rfl⟩)
    (keeps_storeObj fun _ => ⟨rfl, rfl, rfl⟩)

theorem cacheKey_forkSafe : Keeps (poolEnv O) State.ForkSafe (cacheKey ctx o) := by
  refine .ite .pure <| .bind (keeps_poolEnv ObjectInvariant.loadObj) fun x => .ite .pure <|
    .bind (keeps_poolEnv ObjectInvariant.keeps_call) fun _ => .ite ?_ ?_
  · exact keeps_storeObj fun _ => ⟨rfl, rfl, rfl⟩
  · refine .bind (keeps_poolEnv forkSafe_frame.takeLoginSession) fun r => ?_
    cases r with
    | error ret => exact .pure
    | ok s =>
      exact .bind (cacheKeyOn_forkSafe hO) fun _ => keeps_poolEnv forkSafe_frame.returnSession

theorem ref_forkSafe : Keeps (poolEnv O) State.ForkSafe (objRef ctx o) := by
  refine .bind (keeps_poolEnv forkSafe_frame.refNoCache) fun _ => .ite ?_ .pure
  exact .bind (keeps_poolEnv ObjectInvariant.loadObj) fun _ =>
    .ite (.bind (cacheKey_forkSafe hO) fun _ => .pure) .pure

theorem deriveKey_spec {mechtype : Nat} {session : Option SessId} (h : st.ForkSafe) :
    wp (poolEnv O) (deriveKey ctx key mechtype session) (fun r st' => st'.ForkSafe ∧
      ∀ d s, r = .ok (d, s) → d ≠ ckInvalidHandle) st := by
  refine wp.bind (getHandle_forkSafe hO st h) fun handle st₁ h₁ => ?_
  refine wp_ite.2 ⟨fun _ => ⟨h₁, by simp⟩, fun _ => ?_⟩
  have hrest : ∀ s {st : State}, st.ForkSafe → wp (poolEnv O) (do
      let h ← sessionHandle s
      let r ← call (.deriveKey h mechtype handle)
      if r.1 = Ckr.ok then
        return .ok (r.2, s)
      if session = none then
        returnSession ctx s
      return (.error r.1 : Except CkRv (ObjectHandle × SessId))) (fun r st' => st'.ForkSafe ∧
        ∀ d s, r = .ok (d, s) → d ≠ ckInvalidHandle) st := by
    intro s st h
    refine wp.bind (keeps_poolEnv ObjectInvariant.sessionHandle st h) fun sh st₁ h₁ => ?_
    refine wp_call.2 fun r hr => wp_ite.2 ⟨fun hok => ⟨h₁, ?_⟩, fun _ => ?_⟩
    · rintro _ _ ⟨⟩
      exact hO.derive _ _ _ _ _ hr hok
    · refine wp_ite.2 ⟨fun _ => ?_, fun _ => ⟨h₁, by simp⟩⟩
      refine wp.bind (keeps_poolEnv forkSafe_frame.returnSession _ h₁) fun _ _ h₂ => ?_
      exact ⟨h₂, by simp⟩
  cases session with
  | some s => exact hrest s h₁
  | none =>
    refine wp.bind (keeps_poolEnv ObjectInvariant.loadObj st₁ h₁) fun x st₂ h₂ => ?_
    refine wp.bind (keeps_poolEnv forkSafe_frame.trySessionRef _ h₂) fun r st₃ h₃ => ?_
    cases r with
    | error ret => exact ⟨h₃, by simp⟩
    | ok s => exact hrest s h₃

/-- A derived key is an object of the token like any other. -/
theorem deriveSkey_forkSafe {mechtype : Nat} {session : Option SessId} :
    Keeps (poolEnv O) State.ForkSafe (deriveSkey ctx key mechtype session) := by
  intro st h
  refine wp.bind (deriveKey_spec hO h) fun r st₁ h₁ => ?_
  cases r with
  | error ret => exact h₁.1
  | ok r =>
    have hd : r.1 ≠ ckInvalidHandle := h₁.2 r.1 r.2 rfl
    refine wp.bind (keeps_poolEnv ObjectInvariant.sessionHandle st₁ h₁.1) fun sh st₂ h₂ => ?_
    refine wp.bind (keeps_poolEnv (forkSafe_frame.fromHandle hd) st₂ h₂) fun r st₃ h₃ => ?_
    cases r with
    | error ret => exact h₃
    | ok skey => exact h₃

omit hO in
theorem setAttrs_forkSafe {attrs : List (Nat × Bytes)} : Keeps (poolEnv O) State.ForkSafe (do
    mem (.storeObj o fun obj => { obj with attrs })
    return Ckr.ok) := by
  refine .bind (keeps_storeObj fun x => ?_) fun _ => .pure
  exact ⟨rfl, rfl, rfl⟩

omit hO in
/-- The duplicate of a key with a handle is in the pool, too. -/
theorem returnDupKey_forkSafe {dst src : ObjId} (h : st.ForkSafe) {x : Obj}
    (hsrc : st.mem.obj src = some x) (hx : x.handle ≠ ckInvalidHandle) {d : Obj}
    (hdst : st.mem.obj dst = some d) :
    wp (poolEnv O) (returnDupKey dst src) (fun _ st' => st'.ForkSafe) st := by
  simp only [returnDupKey, Prog.perform_eq, Prog.call_bind, Prog.ret_bind, wp_pool_loadObj]
  refine wp_ite.2 ⟨fun _ => h, fun _ => ?_⟩
  rw [wp_pool_loadObj, hsrc]
  refine wp_call.2 fun _ _ => wp_addToPool.2 ?_
  have h₀ : st.SafeBut dst fun _ => True := h.safeBut hdst trivial
  have h₁ : State.SafeBut dst (·.handle ≠ ckInvalidHandle) ⟨st.mem.setObj dst fun obj => some
      { obj with slotid := x.slotid, handle := x.handle, cls := x.cls, key := x.key,
                 ckaCopyable := x.ckaCopyable, ckaToken := x.ckaToken, home := x.home }, st.tok⟩ :=
    h₀.set fun _ _ => hx
  have h₂ := h₁.pool
  refine wp_ite.2 ⟨fun hne => absurd rfl hne, fun _ => ?_⟩
  exact setAttrs_forkSafe _ h₂

omit hO in
/-- A key that is imported as a duplicate gets into the pool, and one that is not found stays
    a mock object unless it is private. -/
theorem importKey_forkSafe {found : Option ObjId} {attrs : List (Nat × Bytes)} (h : st.ForkSafe)
    (hfound : ∀ src, found = some src → ∃ x, st.mem.obj src = some x ∧ x.handle ≠ ckInvalidHandle)
    (hnone : found = none → ∀ x, st.mem.obj key = some x → x.cls ≠ Cko.privateKey) :
    wp (poolEnv O) (objImportKey ctx key found attrs) (fun _ st' => st'.ForkSafe) st := by
  simp only [objImportKey, Prog.perform_eq, Prog.call_bind, Prog.ret_bind, wp_pool_loadObj]
  refine wp_ite.2 ⟨fun _ => h, fun hmock => wp_ite.2 ⟨fun _ => h, fun hcls => ?_⟩⟩
  cases ho : st.mem.obj key with
  | none => simp [ho, Obj.freed, ckInvalidHandle, ckP11provImportedHandle] at hmock
  | some d =>
    cases found with
    | some src =>
      obtain ⟨x, hsrc, hx⟩ := hfound src rfl
      exact returnDupKey_forkSafe h hsrc hx ho
    | none =>
      dsimp only [Option.getD_some]
      rw [if_neg (hnone rfl d ho)]
      exact setAttrs_forkSafe st h

end Create

/-! ## Runs -/

/-- The operations after which the fork handler is complete: an object that is made by hand
    has a handle, no secret and no private key is created by an import, and only a key with a
    handle is duplicated. -/
def Op.PoolsKeys (st : State) : Op → Prop
  | objNew _ handle _ => handle ≠ ckInvalidHandle
  | objImportSecretKey _ _ => False
  | objImportKey _ (some src) _ => ∃ x, st.mem.obj src = some x ∧ x.handle ≠ ckInvalidHandle
  | objImportKey key none _ => ∀ x, st.mem.obj key = some x → x.cls ≠ Cko.privateKey
  | _ => True

theorem op_forkSafe {O : Oracle} (hO : ValidHandles O) {ctx : Ctx} {st : State} (h : st.ForkSafe)
    {op : Op} (hop : op.PoolsKeys st) :
    wp (poolEnv O) (op.prog ctx) (fun _ st' => st'.ForkSafe) st := by
  have hf : FrameInvariant O State.ForkSafe := forkSafe_frame
  cases op with
  | getSession slotid req => exact wp_poolEnv (Keeps.bind hf.getSession (fun _ => .pure) st h)
  | getSessionNext slotid req =>
    exact wp_poolEnv (Keeps.bind hf.getSessionNext (fun _ => .pure) st h)
  | trySessionRef o mechtype reqlogin rw =>
    refine wp_poolEnv (Keeps.bind ObjectInvariant.loadObj (fun _ => ?_) st h)
    exact .bind hf.trySessionRef fun _ => .pure
  | takeLoginSession slotid =>
    exact wp_poolEnv (Keeps.bind hf.takeLoginSession (fun _ => .pure) st h)
  | contextSpecificLogin s uri pwCb =>
    exact wp_poolEnv (Keeps.bind hf.contextSpecificLogin (fun _ => .pure) st h)
  | returnSession s => exact wp_poolEnv (hf.returnSession st h)
  | sessionMarkBroken s => exact wp_poolEnv (wp_storeSess.2 (hf.markBroken h))
  | objNew slotid handle cls =>
    exact wp_poolEnv (wp.bind (hf.new_spec hop h) fun _ _ h => h.1)
  | objRef o => exact Keeps.bind (ref_forkSafe hO) (fun _ => .pure) st h
  | objFree o => exact wp_poolEnv (hf.free st h)
  | objSetSessionRef o s =>
    refine wp_poolEnv (wp_ref.2 (hf.storeObj ?_ _ (hf.sess h)))
    exact fun x => ⟨rfl, rfl, rfl⟩
  | objGetHandle o => exact Keeps.bind (getHandle_forkSafe hO) (fun _ => .pure) st h
  | objImportKey o found attrs =>
    refine wp.bind (importKey_forkSafe h ?_ ?_) fun _ _ h => h
    · rintro src rfl
      exact hop
    · rintro rfl
      exact hop
  | objImportSecretKey type size => exact absurd hop id
  | skeyGenerate type uri ephemeral =>
    exact wp_poolEnv (Keeps.bind (hf.skeyGenerate hO) (fun _ => .pure) st h)
  | deriveSkey key mechtype session =>
    exact Keeps.bind (deriveSkey_forkSafe hO) (fun _ => .pure) st h
  | objFindAssociated o cls =>
    exact wp_poolEnv (Keeps.bind (hf.findAssociated hO) (fun _ => .pure) st h)

/-- What the fork handler leaves of an object: one of a pool is reset, any other keeps its
    handles. -/
theorem State.obj_fork {st : State} {o : ObjId} {y : Obj} (hy : st.fork.mem.obj o = some y) :
    ∃ x, st.mem.obj o = some x ∧ y.pooled = x.pooled ∧
      if x.pooled then y.raf = true ∧ y.handle = ckInvalidHandle ∧ y.cached = ckInvalidHandle
      else y.raf = x.raf ∧ y.handle = x.handle := by
  have hy := (Mem.obj_map (m := st.mem.sessForkReset)).symm.trans hy
  rw [Option.map_eq_some_iff] at hy
  obtain ⟨x, hx, rfl⟩ := hy
  refine ⟨x, hx, ?_⟩
  cases x.pooled with
  | true => simp
  | false => simp

theorem State.ForkSafe.fork {st : State} (h : st.ForkSafe) : st.fork.ForkSafe := by
  intro o y hy
  obtain ⟨x, hx, hp, hc⟩ := State.obj_fork hy
  have hsafe := h o x hx
  split at hc
  · rename_i hpooled
    have hyp : y.pooled = true := hp.trans hpooled
    exact ⟨.inl hyp, fun _ => hc.1, fun _ => hyp⟩
  · exact hsafe.congr ⟨hc.2, hc.1, hp⟩

/-- Every object with a handle of the token is in a pool; after a fork no object has a
    handle of the parent process, and every object without a handle is to be refreshed. -/
structure State.ForkComplete (st : State) : Prop where
  pooled : ∀ o x, st.mem.obj o = some x → x.handle ≠ ckInvalidHandle →
    x.handle ≠ ckP11provImportedHandle → x.pooled = true
  reset : ∀ o x, st.fork.mem.obj o = some x → x.handle ≠ ckP11provImportedHandle →
    x.raf = true ∧ x.handle = ckInvalidHandle ∧ x.cached = ckInvalidHandle
  stale : ∀ o x, st.mem.obj o = some x → x.handle = ckInvalidHandle → x.raf = true

theorem State.ForkSafe.complete {st : State} (h : st.ForkSafe) : st.ForkComplete where
  pooled o x hx _ hmock := (h o x hx).pooled.resolve_right hmock
  reset o y hy hmock := by
    obtain ⟨x, hx, hp, hc⟩ := State.obj_fork hy
    split at hc
    · exact hc
    · rename_i hpooled
      -- an object that is in no pool is a mock object
      exact absurd (hc.2.trans ((h o x hx).pooled.resolve_left hpooled)) hmock
  stale o x hx := (h o x hx).stale

/-- In every run in which the pools can be extended, no secret or private key is created by an
    import, and only keys with a handle are duplicated, the fork handler is complete. -/
theorem fork_reset_complete {O : Oracle} (hO : ValidHandles O) (ctx : Ctx) (st : State)
    (h : ReachableIn (poolEnv O) ctx (fun st op => op.PoolsKeys st) (fun _ => True) st) :
    st.ForkComplete := by
  refine State.ForkSafe.complete (h.inv ?_ ?_ ?_)
  · intro o x hx
    simp [Mem.obj] at hx
  · exact fun st op hst hop => op_forkSafe hO hst hop
  · exact fun st hst _ => hst.fork

theorem plain_validHandles : ValidHandles (replies plain) := by
  constructor
  · rintro st h _ rfl _
    exact (by decide : 10 ≠ ckInvalidHandle)
  · rintro st h mechtype tokenObj _ rfl _
    exact (by decide : 11 ≠ ckInvalidHandle)
  · rintro st h mechtype key _ rfl _
    exact (by decide : 12 ≠ ckInvalidHandle)
  · rintro st h _ rfl
    simp [plain, Token.reply]

/-- The pools can be extended in the concrete runs. -/
theorem pool_runs_run (reply : State → (c : Call) → c.Resp) {α : Type} (p : P α) (st : State) :
    Runs (poolEnv (replies reply)) p st (run reply p st).1 (run reply p st).2 := by
  have hn : (poolEnv (replies reply)).next = (env (replies reply)).next := rfl
  rw [run, ← exec_congr hn]
  refine runs_exec (fun st c => ?_) p st
  have h : (env (replies reply)).adm st c (answers reply st c) := adm_answers st c
  cases c with
  | mem c =>
    cases c with
    | objAddToPool o => rfl
    | _ => exact h
  | call c => exact h

/-- A key that was generated on the token is in a pool. -/
theorem fork_reset_generated :
    ((runOps plain [.skeyGenerate .aes none false] {}).mem.obj 0).map (·.handle) = some 11 ∧
      (runOps plain [.skeyGenerate .aes none false] {}).ForkComplete := by
  refine ⟨by decide +kernel, fork_reset_complete plain_validHandles plainCtx _ ?_⟩
  have hok : (Op.skeyGenerate .aes none false).PoolsKeys {} := trivial
  exact .op .init hok (pool_runs_run plain _ _)

/-- A secret key that was imported is on the token and in no pool: it keeps its handle in the
    child process. -/
theorem imported_key_not_reset :
    ¬ ∀ st, Reachable plainCtx (replies plain) (fun _ _ => True) (fun _ => True) st →
      st.ForkComplete := by
  intro h
  have hrun : (runOps plain [.objImportSecretKey 0x1F 16] {}).ForkComplete :=
    h _ (ReachableIn.runOps .init fun _ _ _ => trivial)
  have hobj : ((runOps plain [.objImportSecretKey 0x1F 16] {}).mem.obj 0).map
      (fun x => (x.handle, x.pooled)) = some (10, false) := by
    decide +kernel
  obtain ⟨x, hx, he⟩ := Option.map_eq_some_iff.1 hobj
  simp only [Prod.mk.injEq] at he
  have hp := hrun.pooled 0 x hx (by simp [he.1, ckInvalidHandle])
    (by simp [he.1, ckP11provImportedHandle])
  simp [he.2] at hp

end P11Prov
