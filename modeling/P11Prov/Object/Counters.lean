import P11Prov.Object.References
import Mathlib.Data.Multiset.AddSub
import Mathlib.Data.Multiset.Range

/-!
# The counters of objects

The counter of an object counts the references to it: those that are held
outside of the objects, as a multiset, and those of the objects that it is
associated with (`Balanced`). What each function of the object layer does
to the references is said by what it makes of the multiset: `p11prov_obj_ref`
adds to it, `p11prov_obj_free` takes one away, the functions that return an
object add that object, and the rest leaves it alone, whatever objects they make
for their own use. So an object that a reference is held to is never freed.
-/

namespace P11Prov

open Interaction

variable {O : Oracle} {ctx : Ctx} {st st' : State} {s : SessId} {o o' : ObjId} {x y : Obj}
  {held held' : Multiset ObjId} {n : Nat}

/-- The number of live objects that the object is associated with. -/
def Mem.linksTo (m : Mem) (o : ObjId) : Nat :=
  m.objs.countP fun x => x.bind (·.assocObj) = some o

/-- The counter of an object, zero once it is freed. -/
def Mem.refcnt (m : Mem) (o : ObjId) : Int := (m.obj o).elim 0 (·.refcnt)

/-- The number of live objects. -/
def Mem.live (m : Mem) : Nat := m.objs.countP (·.isSome)

/-- The counters of objects count the references that are held and those of other objects. -/
structure Balanced (held : Multiset ObjId) (st : State) : Prop where
  refcnt : ∀ o, st.mem.refcnt o = held.count o + st.mem.linksTo o
  pos : ∀ o x, st.mem.obj o = some x → 0 < x.refcnt

/-- The references that a pointer, which may be `NULL`, stands for. -/
def refs (o : Option ObjId) : Multiset ObjId := o.elim 0 ({·})

@[simp] theorem refs_none_add : refs none + held = held := Multiset.zero_add held

@[simp] theorem refs_some_add : refs (some o) + held = o ::ₘ held := Multiset.singleton_add o held

/-- The counters after a function returned a pointer: with the object there comes a reference. -/
def Returned (held : Multiset ObjId) (r : Option ObjId) (st : State) : Prop :=
  Balanced (refs r + held) st

@[simp] theorem returned_none : Returned held none st ↔ Balanced held st := by
  rw [Returned, refs_none_add]

@[simp] theorem returned_some : Returned held (some o) st ↔ Balanced (o ::ₘ held) st := by
  rw [Returned, refs_some_add]

/-! ## What happens to one object -/

theorem Mem.linksTo_setObj {m : Mem} {f : Obj → Option Obj} (h : m.obj o = some x) :
    (m.setObj o f).linksTo o' + (if x.assocObj = some o' then 1 else 0) =
      m.linksTo o' + if (f x).bind (·.assocObj) = some o' then 1 else 0 := by
  simpa [linksTo, setObj] using
    countP_modify (p := fun x => x.bind (·.assocObj) = some o') (f := (Option.bind · f))
      (getElem?_objs h)

theorem Mem.live_setObj {m : Mem} {f : Obj → Option Obj} (h : m.obj o = some x) :
    (m.setObj o f).live + 1 = m.live + if (f x).isSome then 1 else 0 := by
  simpa [live, setObj] using
    countP_modify (p := Option.isSome) (f := (Option.bind · f)) (getElem?_objs h)

theorem Mem.refcnt_setObj {m : Mem} {f : Obj → Option Obj} (h : m.obj o = some x) :
    (m.setObj o f).refcnt o' =
      if o' = o then (f x).elim 0 (·.refcnt) else m.refcnt o' := by
  rw [refcnt, obj_setObj, h]
  by_cases ho : o' = o
  · rw [if_pos ho, if_pos ho]
    rfl
  · rw [if_neg ho, if_neg ho, refcnt]

theorem Mem.live_lt (m : Mem) : m.live < m.objs.length + 1 := Nat.lt_succ_of_le List.countP_le_length

namespace Balanced

/-- An object that a reference is held to is there. -/
theorem exists_obj (h : Balanced held st) (ho : o ∈ held) : ∃ x, st.mem.obj o = some x := by
  have hc := h.refcnt o
  have hpos := Multiset.count_pos.2 ho
  cases hx : st.mem.obj o with
  | some x => exact ⟨x, rfl⟩
  | none =>
    rw [Mem.refcnt, hx, Option.elim_none] at hc
    omega

/-- Objects that were just made, each with the reference of its maker. -/
theorem start (h : ∀ x ∈ st.mem.objs, ∃ y, x = some y ∧ y.refcnt = 1 ∧ y.assocObj = none) :
    Balanced (.range st.mem.objs.length) st where
  refcnt o := by
    have hl : st.mem.linksTo o = 0 := by
      refine List.countP_eq_zero.2 fun x hx => ?_
      obtain ⟨y, rfl, -, ha⟩ := h x hx
      simp [ha]
    rw [hl, Mem.refcnt, Mem.obj]
    by_cases ho : o < st.mem.objs.length
    · obtain ⟨y, hy, hr, -⟩ := h _ (List.getElem_mem ho)
      rw [List.getElem?_eq_getElem ho, hy,
        Multiset.count_eq_one_of_mem (Multiset.nodup_range _) (Multiset.mem_range.2 ho)]
      simp [hr]
    · rw [List.getElem?_eq_none (Nat.le_of_not_lt ho),
        Multiset.count_eq_zero_of_notMem fun hm => ho (Multiset.mem_range.1 hm)]
      rfl
  pos o x hx := by
    obtain ⟨y, hy, hr, -⟩ := h _ (List.mem_of_getElem? (Mem.getElem?_objs hx))
    rw [Option.some.inj hy, hr]
    exact Int.one_pos

theorem of_objs (h : Balanced held st) (hm : st'.mem.objs = st.mem.objs) : Balanced held st' where
  refcnt o := by
    rw [Mem.refcnt, Mem.obj, Mem.linksTo, hm]
    exact h.refcnt o
  pos o x hx := by
    rw [Mem.obj, hm] at hx
    exact h.pos o x hx

/-- An object is replaced or freed. What its counter loses is held no more, and what it referred
    to is held instead. -/
theorem setObj (h : Balanced held st) (hx : st.mem.obj o = some x) {f : Obj → Option Obj}
    {y : Option Obj} (hf : f x = y)
    (hc : ∀ o', (held'.count o' : Int) + (if o' = o then x.refcnt else 0) +
      (if y.bind (·.assocObj) = some o' then 1 else 0) =
        held.count o' + (if o' = o then y.elim 0 (·.refcnt) else 0) +
          if x.assocObj = some o' then 1 else 0)
    (hp : ∀ z, y = some z → 0 < z.refcnt) : Balanced held' ⟨st.mem.setObj o f, st.tok⟩ where
  refcnt o' := by
    have hr := h.refcnt o'
    have hl : ((st.mem.setObj o f).linksTo o' : Int) + (if x.assocObj = some o' then 1 else 0) =
        st.mem.linksTo o' + if y.bind (·.assocObj) = some o' then 1 else 0 := by
      rw [← hf]
      exact mod_cast Mem.linksTo_setObj hx
    have hc := hc o'
    dsimp only
    rw [Mem.refcnt_setObj hx, hf]
    by_cases ho : o' = o
    · subst ho
      rw [Mem.refcnt, hx, Option.elim_some] at hr
      rw [if_pos rfl] at hc ⊢
      rw [if_pos rfl] at hc
      omega
    · rw [if_neg ho] at hc ⊢
      rw [if_neg ho] at hc
      omega
  pos o' z hz := by
    rcases Mem.obj_of_setObj hz with e | e
    · rw [hx] at e
      exact hp z (hf.symm.trans e)
    · exact h.pos o' z e

/-- The members that are no references may change. -/
theorem update (h : Balanced held st) {f : Obj → Obj} (hr : ∀ x, (f x).refcnt = x.refcnt)
    (ha : ∀ x, (f x).assocObj = x.assocObj) :
    Balanced held ⟨st.mem.setObj o fun x => some (f x), st.tok⟩ := by
  cases hx : st.mem.obj o with
  | none => rwa [Mem.setObj_of_none hx]
  | some x =>
    refine h.setObj hx rfl (fun o' => ?_) fun z hz => ?_
    · simp only [Option.bind_some, Option.elim_some, hr, ha]
    · rw [← Option.some.inj hz, hr]
      exact h.pos o x hx

theorem storeObj {f : Obj → Obj} (hr : ∀ x, (f x).refcnt = x.refcnt)
    (ha : ∀ x, (f x).assocObj = x.assocObj) :
    Keeps (env O) (Balanced held) (mem (.storeObj o f)) :=
  fun _ h => wp_storeObj.2 (h.update hr ha)

theorem addToPool : Keeps (env O) (Balanced held) (mem (.objAddToPool o)) := by
  intro st h
  refine wp_objAddToPool.2 fun r => wp_ret.2 ?_
  split
  · exact h.update (fun _ => rfl) fun _ => rfl
  · exact h

/-- An object that is there gets another reference. -/
theorem fetchAdd (h : Balanced held st) (hx : st.mem.obj o = some x) :
    Balanced (o ::ₘ held)
      ⟨st.mem.setObj o fun x => some { x with refcnt := x.refcnt + 1 }, st.tok⟩ := by
  refine h.setObj hx rfl (fun o' => ?_) fun z hz => ?_
  · simp only [Multiset.count_cons, Option.elim_some, Option.bind_some]
    split <;> push_cast <;> omega
  · have := h.pos o x hx
    rw [← Option.some.inj hz]
    dsimp only
    omega

/-- A reference is given back, and others are left. -/
theorem unref (h : Balanced (o ::ₘ held) st) (hx : st.mem.obj o = some x) (hr : x.refcnt ≠ 1) :
    Balanced held ⟨st.mem.setObj o fun x =>
      if x.refcnt = 1 then none else some { x with refcnt := x.refcnt - 1 }, st.tok⟩ := by
  refine h.setObj hx (if_neg hr) (fun o' => ?_) fun z hz => ?_
  · simp only [Multiset.count_cons, Option.elim_some, Option.bind_some]
    split <;> push_cast <;> omega
  · have := h.pos o x hx
    rw [← Option.some.inj hz]
    dsimp only
    omega

/-- The last reference is given back. That of the object to another is left. -/
theorem unref_last (h : Balanced (o ::ₘ held) st) (hx : st.mem.obj o = some x) (hr : x.refcnt = 1) :
    Balanced (refs x.assocObj + held) ⟨st.mem.setObj o fun x =>
      if x.refcnt = 1 then none else some { x with refcnt := x.refcnt - 1 }, st.tok⟩ := by
  have hcount : ∀ o', ((refs x.assocObj).count o' : Int) = if x.assocObj = some o' then 1 else 0 := by
    intro o'
    cases ha : x.assocObj with
    | none => simp [refs]
    | some a => simp [refs, Multiset.count_singleton, eq_comm]
  refine h.setObj hx (if_pos hr) (fun o' => ?_) (by simp)
  simp only [Multiset.count_add, Multiset.count_cons, Option.elim_none, Option.bind_none, hr]
  push_cast
  rw [hcount o', ite_self]
  omega

theorem alloc (h : Balanced held st) (hr : x.refcnt = 1) (ha : x.assocObj = none) :
    Balanced (st.mem.objs.length ::ₘ held)
      ⟨{ st.mem with objs := st.mem.objs ++ [some x] }, st.tok⟩ where
  refcnt o := by
    have hl : Mem.linksTo { st.mem with objs := st.mem.objs ++ [some x] } o = st.mem.linksTo o := by
      simp [Mem.linksTo, ha]
    have hc := h.refcnt o
    dsimp only
    rw [hl, Multiset.count_cons]
    by_cases ho : o = st.mem.objs.length
    · subst ho
      rw [Mem.refcnt, Mem.obj, List.getElem?_eq_none (Nat.le_refl _)] at hc
      rw [Mem.refcnt, ObjectInvariant.obj_alloc, Option.elim_some, hr, if_pos rfl]
      simp only [Option.join_none, Option.elim_none] at hc
      omega
    · have hobj : Mem.obj { st.mem with objs := st.mem.objs ++ [some x] } o = st.mem.obj o := by
        simp only [Mem.obj, List.getElem?_append]
        split
        · rfl
        · rename_i hge
          have hlen : st.mem.objs.length < o := Nat.lt_of_le_of_ne (Nat.le_of_not_lt hge) (Ne.symm ho)
          rw [List.getElem?_eq_none (Nat.sub_pos_of_lt hlen),
            List.getElem?_eq_none (Nat.le_of_lt hlen)]
      rw [Mem.refcnt, hobj, if_neg ho]
      exact hc
  pos o z hz := by
    rcases Mem.obj_of_alloc hz with rfl | e
    · omega
    · exact h.pos o z e

/-! ## What the functions do to references -/

theorem sessionInvariant : SessionInvariant O (Balanced held) where
  works h hw := h.of_objs hw.objs
  setInUse _ h := h.of_objs rfl
  addSess _ h := h.of_objs rfl
  markBroken h := h.of_objs rfl

theorem loadObj : Keeps (env O) (Balanced held) (mem (.loadObj o)) := fun _ h => wp_loadObj.2 h

theorem keeps_call {c : Call} : Keeps (env O) (Balanced held) (call c) :=
  fun _ h _ _ => h.of_objs rfl

theorem sessionHandle : Keeps (env O) (Balanced held) (sessionHandle s) :=
  .bind SessionInvariant.loadSess fun _ => .pure

theorem destroyKeyCacheOn : Keeps (env O) (Balanced held) (destroyKeyCacheOn o s) :=
  .bind loadObj fun _ => .ite (.bind sessionHandle fun _ => .bind keeps_call fun _ =>
    storeObj (fun _ => rfl) fun _ => rfl) .pure

/-- The cache of a key is no object. -/
theorem destroyKeyCache_objs {objs : List (Option Obj)} :
    Keeps (env O) (fun st => st.mem.objs = objs) (destroyKeyCache ctx x) := by
  have hs := objs_sessionInvariant (O := O) objs
  refine .ite (.bind hs.takeLoginSession fun r => ?_) .pure
  cases r with
  | error ret => exact .pure
  | ok s =>
    exact .bind (.bind SessionInvariant.loadSess fun _ => .pure) fun _ =>
      .bind (fun _ h _ _ => h) fun _ => hs.returnSession

/-- A reference is given back. An object that goes away gives back its own. -/
theorem freeChain (h : Balanced (o ::ₘ held) st) (hn : st.mem.live < n) :
    wp (env O) (objFreeChain ctx n o) (fun _ st' => Balanced held st') st := by
  induction n generalizing o st with
  | zero => exact absurd hn (Nat.not_lt_zero _)
  | succ n ih =>
    obtain ⟨x, hx⟩ := h.exists_obj (Multiset.mem_cons_self o held)
    simp only [objFreeChain, Prog.perform_eq, Prog.call_bind, Prog.ret_bind, wp_objUnref, hx]
    by_cases hr : x.refcnt = 1
    · have h₁ := h.unref_last hx hr
      have hlive := Mem.live_setObj (f := fun x => if x.refcnt = 1 then none else
        some { x with refcnt := x.refcnt - 1 }) hx
      rw [if_pos hr] at hlive
      -- the rest runs with the object gone
      have hrest : ∀ st₂ : State, st₂.mem.objs = (st.mem.setObj o fun x =>
          if x.refcnt = 1 then none else some { x with refcnt := x.refcnt - 1 }).objs →
          (x.assocObj = none → Balanced held st₂) ∧ ∀ a, x.assocObj = some a →
            wp (env O) (objFreeChain ctx n a) (fun _ st' => Balanced held st') st₂ := by
        intro st₂ hst₂
        have h₂ := h₁.of_objs hst₂
        refine ⟨fun ha => ?_, fun a ha => ih ?_ ?_⟩
        · rw [ha, refs_none_add] at h₂
          exact h₂
        · rw [ha, refs_some_add] at h₂
          exact h₂
        · rw [Mem.live, hst₂, ← Mem.live]
          simp only [Option.isSome_none, Bool.false_eq_true, if_false] at hlive
          omega
      simp only [Option.filter_some, hr, decide_true, if_true]
      cases x.refSession with
      | none =>
        refine wp.bind (destroyKeyCache_objs _ rfl) fun _ st₂ hst₂ => ?_
        split
        · exact (hrest st₂ hst₂).1 ‹_›
        · exact (hrest st₂ hst₂).2 _ ‹_›
      | some s =>
        refine wp_deref.2 (wp.bind (destroyKeyCache_objs _ rfl) fun _ st₂ hst₂ => ?_)
        split
        · exact (hrest st₂ hst₂).1 ‹_›
        · exact (hrest st₂ hst₂).2 _ ‹_›
    · simp only [Option.filter_some, hr, decide_false, Bool.false_eq_true, if_false]
      exact h.unref hx hr

theorem free (h : Balanced (o ::ₘ held) st) :
    wp (env O) (objFree ctx o) (fun _ st' => Balanced held st') st :=
  wp_numObjs.2 (h.freeChain st.mem.live_lt)

theorem refNoCache (h : Balanced held st) : wp (env O) (objRefNoCache o)
    (fun b st' => Balanced (if b then o ::ₘ held else held) st' ∧ (b = true ↔ 0 < st.mem.refcnt o)) st := by
  refine wp_objFetchAdd.2 (wp_pure.2 ⟨?_, decide_eq_true_iff⟩)
  simp only [decide_eq_true_eq]
  cases hx : st.mem.obj o with
  | none =>
    rw [Mem.setObj_of_none hx]
    exact h
  | some x =>
    have hpos : 0 < (some x).elim 0 (·.refcnt) := h.pos o x hx
    rw [if_pos hpos]
    exact h.fetchAdd hx

theorem new {slotid : SlotId} {handle : ObjectHandle} {cls : Nat} (h : Balanced held st) :
    wp (env O) (objNew slotid handle cls) (fun r st' => Returned held r st') st := by
  simp only [objNew, Prog.perform_eq, Prog.call_bind, Prog.ret_bind, wp_objAlloc]
  refine ⟨returned_none.2 h, ?_⟩
  have h₁ := h.alloc (x := { slotid, handle, cls }) rfl rfl
  split
  · exact returned_some.2 h₁
  · rw [wp_objAddToPool]
    intro r
    by_cases hr : r = Ckr.ok
    · simp only [hr, if_true, ne_eq, not_true_eq_false, if_false, wp_pure, returned_some]
      exact h₁.update (fun _ => rfl) fun _ => rfl
    · simp only [hr, ne_eq, not_false_eq_true, if_true, if_false, wp_objDelete, wp_pure,
        returned_none]
      refine h₁.setObj ObjectInvariant.obj_alloc rfl (fun o' => ?_) (by simp)
      simp [Multiset.count_cons]

theorem fromHandle {handle : ObjectHandle} {home : Option Handle} (h : Balanced held st) :
    wp (env O) (objFromHandle ctx s handle home)
      (fun r st' => Returned held r.toOption st') st := by
  refine wp.bind h.new ?_
  rintro (_ | o) st₁ h₁
  · exact h₁
  have hfail : ∀ ret, wp (env O) (do
      objFree ctx o
      return (.error ret : Except CkRv ObjId)) (fun r st' => Returned held r.toOption st') st₁ :=
    fun ret => wp.bind (free (returned_some.1 h₁)) fun _ _ h => returned_none.2 h
  simp only [P11Prov.sessionHandle, Prog.perform_eq, Prog.call_bind, Prog.ret_bind, wp_loadSess,
    wp_callExt, Prog.pure_eq]
  intro r _
  split
  · exact hfail _
  split
  · exact hfail _
  rw [wp_storeObj]
  exact returned_some.2 ((returned_some.1 h₁).update (fun _ => rfl) fun _ => rfl)

theorem refreshOn : Keeps (env O) (Balanced held) (objRefreshOn ctx o x s) := by
  refine .bind sessionHandle fun h => .bind ?_ fun r => ?_
  · exact .bind keeps_call fun _ => .ite .pure <| .bind keeps_call fun _ =>
      .bind keeps_call fun _ => .ite .pure .pure
  split
  · intro st h
    refine wp.bind h.fromHandle ?_
    rintro (ret | t) st₁ h₁
    · exact returned_none.1 h₁
    -- the temporary object is freed once its data is moved over
    have h₁ : Balanced (t ::ₘ held) st₁ := returned_some.1 h₁
    simp only [Prog.perform_eq, Prog.call_bind, Prog.ret_bind, wp_loadObj, wp_storeObj]
    refine wp.bind (free (h₁.update ?_ ?_)) fun _ _ h₂ => wp_storeObj.2 (h₂.update ?_ ?_)
    all_goals exact fun _ => rfl
  · exact .pure

theorem refresh : Keeps (env O) (Balanced held) (objRefresh ctx n o) := by
  have hs : SessionInvariant O (Balanced held) := sessionInvariant
  induction n generalizing o with
  | zero => exact .pure
  | succ n ih =>
    refine .bind loadObj fun x => .bind hs.trySessionRef fun r => ?_
    cases r with
    | error ret => exact .pure
    | ok s =>
      refine .bind refreshOn fun _ => .bind loadObj fun x => ?_
      split
      · exact .bind loadObj fun _ => .ite (.bind ih fun _ => hs.returnSession) hs.returnSession
      · exact hs.returnSession

theorem storeKey : Keeps (env O) (Balanced held) (storeKey ctx o) := by
  have hs : SessionInvariant O (Balanced held) := sessionInvariant
  refine .ite .pure <| .bind loadObj fun x => .bind hs.getSession fun r => ?_
  cases r with
  | error ret => exact .pure
  | ok s =>
    have href : Keeps (env O) (Balanced held) (mem (.ref s)) :=
      fun _ h => wp_ref.2 (h.of_objs rfl)
    refine .bind sessionHandle fun _ => .bind keeps_call fun r => .ite ?_ ?_
    · exact .bind (storeObj (fun _ => rfl) fun _ => rfl) fun _ =>
        .bind (.bind href fun _ => storeObj (fun _ => rfl) fun _ => rfl) fun _ =>
          .bind hs.returnSession fun _ => .pure
    · exact .bind hs.returnSession fun _ => .pure

theorem storePublicKey : Keeps (env O) (Balanced held) (objStorePublicKey ctx o) :=
  .bind loadObj fun _ => .ite .pure <| .ite .pure <| .bind storeKey fun _ =>
    .ite (.bind addToPool fun _ => .pure) .pure

theorem getHandle : Keeps (env O) (Balanced held) (objGetHandle ctx o) := by
  have hend : Keeps (env O) (Balanced held) (do
      let x ← mem (.loadObj o)
      return x.handle) := .bind loadObj fun _ => .pure
  have hrest : Keeps (env O) (Balanced held) (do
      let x ← mem (.loadObj o)
      if x.cached ≠ ckInvalidHandle then
        return x.cached
      if x.handle = ckP11provImportedHandle then
        let ret ← objStorePublicKey ctx o
        if ret ≠ Ckr.ok then
          return ckInvalidHandle
      let x ← mem (.loadObj o)
      return x.handle) :=
    .bind loadObj fun _ => .ite .pure <| .ite (.bind storePublicKey fun _ => .ite .pure hend) hend
  refine .bind loadObj fun _ => .ite ?_ hrest
  exact .bind (fun _ h => wp_numObjs.2 h) fun _ => .bind refresh fun _ => hrest

theorem cacheKey : Keeps (env O) (Balanced held) (cacheKey ctx o) := by
  have hs : SessionInvariant O (Balanced held) := sessionInvariant
  refine .ite .pure <| .bind loadObj fun _ => .ite .pure <| .bind keeps_call fun _ => .ite ?_ ?_
  · exact .bind (storeObj (fun _ => rfl) fun _ => rfl) fun _ => .pure
  · refine .bind hs.takeLoginSession fun r => ?_
    cases r with
    | error ret => exact .pure
    | ok s =>
      refine .bind (.bind destroyKeyCacheOn fun _ => .bind sessionHandle fun _ =>
        .bind getHandle fun _ => .bind keeps_call fun _ => .ite ?_ ?_) fun _ => hs.returnSession
      all_goals exact storeObj (fun _ => rfl) fun _ => rfl

/-- A reference to an object that is there is taken, whatever becomes of its cache. -/
theorem ref (h : Balanced held st) : wp (env O) (objRef ctx o)
    (fun r st' => Returned held r st' ∧ r = if 0 < st.mem.refcnt o then some o else none) st := by
  refine wp.bind h.refNoCache ?_
  rintro b st₁ ⟨h₁, hb⟩
  cases b with
  | false =>
    rw [if_neg (mt hb.2 (by simp))]
    exact ⟨returned_none.2 (by simpa using h₁), rfl⟩
  | true =>
    rw [if_pos (hb.1 rfl)]
    have h₁ : Balanced (o ::ₘ held) st₁ := by simpa using h₁
    simp only [if_true, Prog.perform_eq, Prog.call_bind, Prog.ret_bind, wp_loadObj]
    split
    · exact wp.bind (cacheKey st₁ h₁) fun _ _ h => ⟨returned_some.2 h, rfl⟩
    · exact ⟨returned_some.2 h₁, rfl⟩

/-- A reference that is held already is taken once more. -/
theorem ref_held (h : Balanced held st) (ho : o ∈ held) : wp (env O) (objRef ctx o)
    (fun r st' => r = some o ∧ Balanced (o ::ₘ held) st') st := by
  refine wp_mono h.ref ?_
  rintro r st₁ ⟨h₁, rfl⟩
  obtain ⟨x, hx⟩ := h.exists_obj ho
  have hpos : 0 < st.mem.refcnt o := by
    rw [Mem.refcnt, hx]
    exact h.pos o x hx
  rw [if_pos hpos] at h₁ ⊢
  exact ⟨rfl, returned_some.1 h₁⟩

theorem ref? {o : Option ObjId} (h : Balanced held st) (ho : refs o ≤ held) :
    wp (env O) (objRef? ctx o) (fun r st' => r = o ∧ Returned held o st') st := by
  cases o with
  | none => exact ⟨rfl, returned_none.2 h⟩
  | some o =>
    refine wp_mono (h.ref_held (Multiset.singleton_le.1 ho)) ?_
    rintro r st₁ ⟨rfl, h₁⟩
    exact ⟨rfl, returned_some.2 h₁⟩

end Balanced

end P11Prov
