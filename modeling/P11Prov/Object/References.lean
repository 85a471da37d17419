import P11Prov.Run

/-!
# Objects that refer to sessions

A key that `store_key` put on a token refers to the session it was created on,
and the counter of that session counts the reference. What holds of these
references in all reachable states, on the way to the results about them:

* `RefsPooled`: a referenced session is in the pool of the slot of the object,
  and an object that is on no token refers to none;
* `RefsCounted`: the counter of a session, without the login's part, is the
  number of objects that refer to it.

The session layer is used through `Works` only, and the object layer through
`ObjectInvariant`.
-/

namespace P11Prov

open Interaction

variable {O : Oracle} {st st' : State} {s : SessId} {o : ObjId} {x y : Obj}

/-! ## References are to pooled sessions -/

/-- What the reference of an object is: none if the object is on no token, else to a
    session in the pool of its slot. -/
structure Obj.RefPooled (num : SlotId → Nat) (x : Obj) : Prop where
  mock : x.handle = ckP11provImportedHandle → x.refSession = none
  slot : ∀ s, x.refSession = some s → s.slot = x.slotid
  pooled : ∀ s, x.refSession = some s → s.idx < num s.slot

/-- All references are to sessions in the pool of the slot of the object. -/
def RefsPooled (st : State) : Prop := ∀ o x, st.mem.obj o = some x → x.RefPooled st.mem.num

theorem Obj.RefPooled.of_none {num : SlotId → Nat} (h : x.refSession = none) : x.RefPooled num where
  mock _ := h
  slot := by simp [h]
  pooled := by simp [h]

theorem Obj.RefPooled.mono {m m' : Mem} (h : x.RefPooled m.num)
    (hm : ∀ s, m.Pooled s → m'.Pooled s) : x.RefPooled m'.num := ⟨h.mock, h.slot, fun s hs => hm s (h.pooled s hs)⟩

theorem Obj.RefPooled.neutral {num : SlotId → Nat} {H : Prop} (h : x.RefPooled num)
    (hn : Neutral H x y) : y.RefPooled num where
  mock hy := hn.refSession.trans (h.mock (hn.handle hy))
  slot s hs := by
    rw [hn.refSession] at hs
    rcases hn.slotid with e | e
    · rw [e]
      exact h.slot s hs
    · simp [h.mock e] at hs
  pooled s hs := h.pooled s (hn.refSession ▸ hs)

theorem Obj.RefPooled.of_setsRef (h : SetsRef O st s x y) : y.RefPooled st.mem.num where
  mock e := absurd e h.handle
  slot s' hs' := by
    obtain rfl := Option.some.inj (h.refSession.symm.trans hs')
    exact h.slotid.symm
  pooled s' hs' := by
    obtain rfl := Option.some.inj (h.refSession.symm.trans hs')
    exact h.pooled

theorem Mem.pooled_addSess_of {m : Mem} {slotid : SlotId} (h : m.Pooled s) :
    (m.addSess slotid).Pooled s := by
  refine (pooled_addSess ?_).2 h
  rintro rfl
  exact absurd h (lt_irrefl _)

/-- An object after an allocation is the new one or was there before. -/
theorem Mem.obj_of_alloc {m : Mem} (h : Mem.obj { m with objs := m.objs ++ [some x] } o = some y) :
    y = x ∨ m.obj o = some y := by
  simp only [obj, List.getElem?_append] at h
  split at h
  · exact .inr h
  · cases hi : o - m.objs.length with
    | zero => exact .inl (by simpa [hi] using h.symm)
    | succ i => simp [hi] at h

/-- An object after another was replaced or freed is the replacement or was there before. -/
theorem Mem.obj_of_setObj {m : Mem} {o' : ObjId} {f : Obj → Option Obj}
    (h : (m.setObj o f).obj o' = some y) : (m.obj o).bind f = some y ∨ m.obj o' = some y := by
  rw [obj_setObj] at h
  split at h
  · exact .inl h
  · exact .inr h

theorem refsPooled_objectInvariant : ObjectInvariant O True RefsPooled where
  works h hw o x hx := by
    rw [Mem.obj, hw.objs] at hx
    exact (h o x hx).mono fun _ => hw.pooled.2
  setInUse _ h := h
  addSess _ h o x hx := (h o x hx).mono fun _ => Mem.pooled_addSess_of
  markBroken h := h
  update h ho hn o' z hz := by
    rcases Mem.obj_of_setObj hz with e | e
    · rw [ho] at e
      exact Option.some.inj e ▸ (h _ _ ho).neutral hn
    · exact h o' z e
  alloc h hr _ o' z hz := by
    rcases Mem.obj_of_alloc hz with rfl | e
    · exact .of_none hr
    · exact h o' z e
  drop h _ _ o' z hz := by
    rcases Mem.obj_of_setObj hz with e | e
    · simp at e
    · exact h o' z e
  dropRef h _ _ o' z hz := by
    rcases Mem.obj_of_setObj hz with e | e
    · simp at e
    · exact h o' z e
  setRef h ho _ hy o' z hz := by
    rcases Mem.obj_of_setObj hz with e | e
    · rw [ho] at e
      obtain rfl := Option.some.inj e
      exact ⟨(Obj.RefPooled.of_setsRef hy).mock, (Obj.RefPooled.of_setsRef hy).slot,
        (Obj.RefPooled.of_setsRef hy).pooled⟩
    · exact h o' z e
  mock h ho := (h _ _ ho).mock

theorem RefsPooled.fork (h : RefsPooled st) : RefsPooled st.fork := by
  intro o y hy
  obtain ⟨x, hx, rfl⟩ := Option.map_eq_some_iff.1 (Mem.obj_map ▸ hy)
  have hp : x.RefPooled st.mem.num := h o x hx
  split
  · exact ⟨nofun, hp.slot, hp.pooled⟩
  · exact ⟨hp.mock, hp.slot, hp.pooled⟩

theorem RefsPooled.of_reachable {ctx : Ctx} {okFork : State → Prop} (hO : ObjectHandles O)
    (h : Reachable ctx O (fun st op => op.Fits True st) okFork st) : RefsPooled st := by
  refine h.inv (fun o x hx => ?_) (fun st op hst hop => refsPooled_objectInvariant.op hO hst hop)
    (fun st hst _ => hst.fork)
  simp [Mem.obj] at hx

/-! ## Acquired sessions -/

/-- What a session is worth that was acquired on a slot: it is in use, not broken, and its
    handle was returned by `C_OpenSession`, read-write if requested, and not closed since. -/
structure Acquired (st : State) (slotid : SlotId) (rw : Bool) (s : SessId) : Prop where
  pooled : st.mem.Pooled s
  inUse : (st.mem.sess s).inUse
  unbroken : (st.mem.sess s).isBroken = false
  handle : (st.mem.sess s).session ≠ ckInvalidHandle
  opened : ∃ o, st.tok.opened (st.mem.sess s).session = some o ∧ (rw → o.flags.has Ckf.rwSession)
  slot : slotid ≠ ckUnavailableInformation → s.slot = slotid

/-- What an acquisition on a slot is to guarantee. -/
def AcquireSpec (st : State) (slotid : SlotId) (rw : Bool) (r : Except CkRv SessId) (st' : State) :
    Prop :=
  match r with
  | .ok s => Acquired st' slotid rw s
  | .error _ => st'.inUse = st.inUse

theorem Flags.has_rwSession {flags : Flags} (h : Request.flags { rw := true } = flags &&& 6) :
    flags.has Ckf.rwSession := by
  have h2 : flags &&& 2 = 2 := by
    calc flags &&& 2 = flags &&& (6 &&& 2) := rfl
      _ = 6 &&& 2 := by rw [← Nat.and_assoc, ← h]; rfl
      _ = 2 := rfl
  simp [Flags.has, h2]

theorem Outcome.acquireSpec {slotid : SlotId} {rw : Bool} {r : Except CkRv SessId}
    (hf : OpensFresh O) (hr : ReportsOpen O) (hn : st.NoStuck)
    (h : Outcome O (Request.flags { rw }) st r st' ∧
      ∀ s, r = .ok s → slotid ≠ ckUnavailableInformation → s.slot = slotid) :
    AcquireSpec st slotid rw r st' := by
  obtain ⟨h, hslot⟩ := h
  cases r with
  | error ret => exact h.inUse
  | ok s =>
    obtain ⟨hne, o, ho, hflags⟩ := h.2 hf hr
    have hmem : s ∈ st'.inUse := h.1.inUse ▸ Set.mem_insert s _
    refine ⟨hmem.1, hmem.2, h.1.unbroken hn, hne, ⟨o, ho, ?_⟩, hslot s rfl⟩
    rintro rfl
    exact Flags.has_rwSession hflags

/-- In every reachable state, an acquired session is fit for use and a failed acquisition
    leaves nothing behind: when no session that can be recycled has lost its handle and, for
    an acquisition by way of an object, the session the object refers to has not either. -/
theorem acquire_sound {ctx : Ctx} (hf : OpensFresh O) (hr : ReportsOpen O) (hO : ObjectHandles O)
    (h : Reachable ctx O (fun st op => op.Fits True st) (fun _ => True) st) (hn : st.NoStuck) :
    (∀ slotid req r st', Runs (env O) (getSession ctx slotid req) st r st' →
      AcquireSpec st slotid req.rw r st') ∧
    (∀ slotid req r st', Runs (env O) (getSessionNext ctx slotid req) st r st' →
      AcquireSpec st ckUnavailableInformation req.rw (r.1.map (·.1)) st' ∧
      ∀ s id, r.1 = .ok (s, id) → s.slot = id) ∧
    ∀ o x mechtype reqlogin rw, st.mem.obj o = some x →
      (∀ s, x.refSession = some s → st.RefHandle s) →
      ∀ r st', Runs (env O) (trySessionRef ctx x mechtype reqlogin rw) st r st' →
        AcquireSpec st x.slotid rw r st' := by
  refine ⟨fun slotid req r st' hrun => ?_, fun slotid req r st' hrun => ?_,
    fun o x mechtype reqlogin rw hx href r st' hrun => ?_⟩
  · exact Outcome.acquireSpec hf hr hn (hrun.of_wp getSession_outcome)
  · obtain ⟨hout, hs⟩ := hrun.of_wp getSessionNext_outcome
    exact ⟨Outcome.acquireSpec hf hr hn ⟨hout, fun _ _ h => absurd rfl h⟩, hs⟩
  · have hp : x.RefPooled st.mem.num := RefsPooled.of_reachable hO h o x hx
    exact Outcome.acquireSpec hf hr hn
      (hrun.of_wp (trySessionRef_outcome (fun s hs => ⟨hp.slot s hs, hp.pooled s hs⟩) href))

/-- A secret key was imported, and its session given back. -/
def importedKey : State := runOps plain [.objImportSecretKey 0x1F 16] {}

theorem State.NoStuck.of_unbroken (h : ∀ s, (st.mem.sess s).isBroken = false) : st.NoStuck :=
  fun s _ hr => absurd (Session.isBroken_of_recyclable hr) (by simp [h s])

theorem idlePool_noStuck : (idlePool plainCtx).NoStuck := by
  refine .of_unbroken ?_
  rintro ⟨_ | _ | _, _ | _⟩ <;> rfl

theorem importedKey_noStuck : importedKey.NoStuck := by
  refine .of_unbroken ?_
  rintro ⟨_ | _ | _, _ | _⟩ <;> rfl

/-- A read-write session is acquired from a pool with an idle read-only session, and by way of
    a key the session that the key refers to. -/
theorem acquire_sound_idle :
    (∀ r st', Runs (env (replies plain)) (getSession plainCtx 1 { rw := true }) (idlePool plainCtx)
      r st' → AcquireSpec (idlePool plainCtx) 1 true r st') ∧
    ∀ x, importedKey.mem.obj 0 = some x → x.refSession = some ⟨1, 0⟩ →
      ∀ r st', Runs (env (replies plain))
        (trySessionRef plainCtx x ckUnavailableInformation false true) importedKey r st' →
        AcquireSpec importedKey x.slotid true r st' := by
  constructor
  · exact (acquire_sound plain_opensFresh plain_reportsOpen plain_objectHandles
      (idlePool_reachable plainCtx) idlePool_noStuck).1 1 { rw := true }
  · intro x hx href
    have himported : Reachable plainCtx (replies plain) (fun st op => op.Fits True st)
        (fun _ => True) importedKey := .runOps .init (by simp [Op.Fits])
    refine (acquire_sound plain_opensFresh plain_reportsOpen plain_objectHandles himported
      importedKey_noStuck).2.2 0 x _ _ _ hx ?_
    rintro s hs - -
    obtain rfl : ⟨1, 0⟩ = s := Option.some.inj (href.symm.trans hs)
    decide

/-- A secret key was imported, and the process forked. -/
def forkedImport : State := importedKey.fork

/-- After a fork, the session that an imported key refers to is acquired without a handle. -/
theorem acquire_unsound_after_fork :
    Reachable plainCtx (replies plain) (fun st op => op.Fits True st) (fun _ => True) forkedImport ∧
    ∃ x r st', forkedImport.mem.obj 0 = some x ∧
      Runs (env (replies plain)) (trySessionRef plainCtx x ckUnavailableInformation false true)
        forkedImport r st' ∧ ¬AcquireSpec forkedImport x.slotid true r st' := by
  constructor
  · refine .fork (.runOps .init ?_) trivial
    simp [Op.Fits]
  · refine ⟨_, _, _, rfl, runs_run _ _, fun h => ?_⟩
    exact (show Acquired _ _ _ ⟨1, 0⟩ from h).handle (by decide)

/-! ## References are counted -/

/-- The number of live objects that refer to the session. -/
def Mem.refsTo (m : Mem) (s : SessId) : Nat :=
  m.objs.countP fun x => x.bind (·.refSession) = some s

theorem countP_modify {α : Type} {p : α → Bool} {f : α → α} {a : α} {l : List α} {i : Nat}
    (h : l[i]? = some a) : (l.modify i f).countP p + (if p a then 1 else 0) =
      l.countP p + if p (f a) then 1 else 0 := by
  induction l generalizing i with
  | nil => simp at h
  | cons b l ih =>
    cases i with
    | zero =>
      obtain rfl : b = a := by simpa using h
      simp only [List.modify_zero_cons, List.countP_cons]
      omega
    | succ i =>
      have := ih (i := i) (by simpa using h)
      simp only [List.modify_succ_cons, List.countP_cons]
      omega

theorem Mem.refsTo_setObj {m : Mem} {f : Obj → Option Obj} (h : m.obj o = some x) :
    (m.setObj o f).refsTo s + (if x.refSession = some s then 1 else 0) =
      m.refsTo s + if (f x).bind (·.refSession) = some s then 1 else 0 := by
  simpa [refsTo, setObj] using
    countP_modify (p := fun x => x.bind (·.refSession) = some s) (f := (Option.bind · f))
      (getElem?_objs h)

theorem Mem.refsTo_map {m : Mem} {f : Obj → Obj} (h : ∀ x, (f x).refSession = x.refSession) :
    Mem.refsTo { m with objs := m.objs.map (Option.map f) } s = m.refsTo s := by
  simp only [refsTo, List.countP_map]
  congr 1
  funext x
  cases x with
  | none => rfl
  | some x => simp [h]

theorem RefsPooled.refsTo_eq_zero (h : RefsPooled st) (hs : ¬st.mem.Pooled s) :
    st.mem.refsTo s = 0 := by
  rw [Mem.refsTo, List.countP_eq_zero]
  intro x hx
  obtain ⟨o, ho⟩ := List.getElem?_of_mem hx
  simp only [decide_eq_true_eq]
  intro hr
  obtain ⟨y, rfl, hy⟩ := Option.bind_eq_some_iff.1 hr
  exact hs ((h o y (by simp [Mem.obj, ho])).pooled s hy)

/-- The counter of a session, without the login's part, counts all references, and nothing
    else if `E` holds. -/
structure RefsCounted (E : Prop) (st : State) : Prop where
  pooled : RefsPooled st
  le : ∀ s, st.mem.refsTo s ≤ (st.mem.sess s).refs
  eq : E → ∀ s, (st.mem.sess s).refs = st.mem.refsTo s

namespace RefsCounted

variable {E : Prop}

/-- The references of a session and its counter change by the same amount, or the counter
    grows and `E` does not hold. -/
theorem of_refs (h : RefsCounted E st) (hp : RefsPooled st')
    (hr : ∀ s, (st.mem.sess s).refs + st'.mem.refsTo s ≤ (st'.mem.sess s).refs + st.mem.refsTo s)
    (hr' : E → ∀ s,
      (st.mem.sess s).refs + st'.mem.refsTo s = (st'.mem.sess s).refs + st.mem.refsTo s) :
    RefsCounted E st' where
  pooled := hp
  le s := by
    have := h.le s
    have := hr s
    omega
  eq he s := by
    have := h.eq he s
    have := hr' he s
    omega

theorem of_eq (h : RefsCounted E st) (hp : RefsPooled st')
    (hr : ∀ s, (st.mem.sess s).refs + st'.mem.refsTo s = (st'.mem.sess s).refs + st.mem.refsTo s) :
    RefsCounted E st' := h.of_refs hp (fun s => (hr s).le) fun _ => hr

theorem setSess {f : Session → Session} (h : RefsCounted E st)
    (hf : ∀ x : Session, (f x).refs = x.refs) :
    RefsCounted E ⟨st.mem.setSess s f, st.tok⟩ := by
  refine h.of_eq h.pooled fun s' => ?_
  by_cases hs : s' = s
  · subst hs
    rw [Mem.setSess_sess, hf]
    rfl
  · rw [Mem.setSess_sess_ne hs]
    rfl

theorem works (hE : E → NoRelogin O) (h : RefsCounted E st) (hw : Works O s st st') :
    RefsCounted E st' := by
  have hto : ∀ s, st'.mem.refsTo s = st.mem.refsTo s := fun s => by rw [Mem.refsTo, hw.objs, Mem.refsTo]
  refine h.of_refs (refsPooled_objectInvariant.works h.pooled hw) (fun s' => ?_) fun he s' => ?_
  · rw [hto]
    by_cases hs : s' = s
    · subst hs
      have := hw.refs
      omega
    · rw [hw.other s' hs]
  · rw [hto]
    by_cases hs : s' = s
    · subst hs
      rw [hw.refs_eq (hE he)]
    · rw [hw.other s' hs]

theorem addSess (h : RefsCounted E st) (slotid : SlotId) :
    RefsCounted E ⟨st.mem.addSess slotid, st.tok⟩ := by
  have hp := refsPooled_objectInvariant (O := fun _ _ _ => True).addSess slotid h.pooled
  -- the counter of a session starts at zero, and no object refers to it yet
  have hnew : st.mem.refsTo ⟨slotid, st.mem.num slotid⟩ = 0 :=
    h.pooled.refsTo_eq_zero (lt_irrefl _)
  have hto : ∀ s, (st.mem.addSess slotid).refsTo s = st.mem.refsTo s := fun _ => rfl
  refine ⟨hp, fun s => ?_, fun he s => ?_⟩ <;> rw [hto] <;>
    by_cases hs : s = ⟨slotid, st.mem.num slotid⟩
  · subst hs
    simp [hnew, Session.refs]
  · rw [Mem.addSess_sess_ne hs]
    exact h.le s
  · subst hs
    simp [hnew, Session.refs]
  · rw [Mem.addSess_sess_ne hs]
    exact h.eq he s

/-- An object changes, but not what it refers to. -/
theorem setObj {f : Obj → Option Obj} (h : RefsCounted E st) (hx : st.mem.obj o = some x)
    (hp : RefsPooled ⟨st.mem.setObj o f, st.tok⟩)
    (hr : (f x).bind (·.refSession) = x.refSession) :
    RefsCounted E ⟨st.mem.setObj o f, st.tok⟩ := by
  refine h.of_eq hp fun s => ?_
  have := Mem.refsTo_setObj (s := s) (f := f) hx
  rw [hr] at this
  have hs : (st.mem.setObj o f).refsTo s = st.mem.refsTo s := by omega
  simp [hs]

/-- An object changes, and the counter of the session it refers to or referred to. -/
theorem setObj_setSess {f : Obj → Option Obj} {g : Session → Session} {d : Int}
    (h : RefsCounted E st) (hx : st.mem.obj o = some x)
    (hp : RefsPooled ⟨(st.mem.setObj o f).setSess s g, st.tok⟩)
    (hg : ∀ x : Session, (g x).refs = x.refs + d)
    (hr : ∀ s', (if (f x).bind (·.refSession) = some s' then 1 else 0) =
      (if x.refSession = some s' then 1 else 0) + if s = s' then d else 0) :
    RefsCounted E ⟨(st.mem.setObj o f).setSess s g, st.tok⟩ := by
  refine h.of_eq hp fun s' => ?_
  have hto : ((st.mem.setObj o f).refsTo s' : Int) + (if x.refSession = some s' then 1 else 0) =
      st.mem.refsTo s' + if (f x).bind (·.refSession) = some s' then 1 else 0 :=
    mod_cast Mem.refsTo_setObj (s := s') (f := f) hx
  rw [hr s'] at hto
  have e : Mem.refsTo ((st.mem.setObj o f).setSess s g) s' = (st.mem.setObj o f).refsTo s' := rfl
  simp only [e]
  by_cases hs : s = s'
  · subst hs
    rw [Mem.setSess_sess, hg, Mem.setObj_sess]
    rw [if_pos rfl] at hto
    omega
  · rw [Mem.setSess_sess_ne (Ne.symm hs), Mem.setObj_sess]
    rw [if_neg hs] at hto
    omega

theorem objectInvariant (hE : E → NoRelogin O) : ObjectInvariant O True (RefsCounted E) where
  works h hw := h.works hE hw
  setInUse _ h := h.setSess fun _ => rfl
  addSess slotid h := h.addSess slotid
  markBroken h := h.setSess fun _ => rfl
  update h ho hn := h.setObj ho (refsPooled_objectInvariant (O := O).update h.pooled ho hn)
    hn.refSession
  alloc h hr hm := by
    refine h.of_eq (refsPooled_objectInvariant (O := O).alloc h.pooled hr hm) fun s => ?_
    simp [Mem.refsTo, hr]
  drop h ho hr := h.setObj ho (refsPooled_objectInvariant (O := O).drop h.pooled ho hr) hr.symm
  dropRef h ho hr := by
    refine h.setObj_setSess (d := -1) ho (refsPooled_objectInvariant (O := O).dropRef h.pooled ho hr)
      (fun x => ?_) fun s' => ?_
    · simp only [Session.refs]
      omega
    · simp only [Option.bind_none, reduceCtorEq, ↓reduceIte, hr, Option.some.injEq]
      split <;> simp_all
  setRef h ho hr hy := by
    refine h.setObj_setSess (d := 1) ho (refsPooled_objectInvariant.setRef h.pooled ho hr hy)
      (fun x => ?_) fun s' => ?_
    · simp only [Session.refs]
      omega
    · simp only [Option.bind_some, hy.refSession, hr, reduceCtorEq, ↓reduceIte, Option.some.injEq]
      split <;> simp_all
  mock h ho := refsPooled_objectInvariant (O := O).mock h.pooled ho

/-- A fork takes the marks off the login sessions, but does not touch the counters. -/
theorem fork (h : RefsCounted E st)
    (hE : E → ∀ s, (st.mem.sess s).isLogin = false) : RefsCounted E st.fork := by
  have hto : ∀ s, st.fork.mem.refsTo s = st.mem.refsTo s := fun s => by
    refine Mem.refsTo_map (m := st.mem.sessForkReset) fun x => ?_
    split <;> rfl
  refine h.of_refs h.pooled.fork (fun s => ?_) fun he s => ?_
  all_goals
    rw [hto]
    simp only [State.fork, Mem.objForkReset, Mem.sessForkReset]
  · have := Session.refs_le_refcnt (st.mem.sess s)
    simp only [Session.refs, Bool.false_eq_true, ↓reduceIte] at this ⊢
    omega
  · simp [Session.refs, hE he s]

theorem init : RefsCounted E {} := by
  refine ⟨fun o x hx => ?_, fun s => le_rfl, fun _ s => rfl⟩
  simp [Mem.obj] at hx

end RefsCounted

/-- In every reachable state, the counter of a session is the number of live objects that
    refer to it, and one more for the login session: when no login succeeds on a session that
    is marked as the login session, and no process forks that has a login session. -/
theorem refcnt_eq {ctx : Ctx} (hO : ObjectHandles O) (hl : NoRelogin O)
    (h : Reachable ctx O (fun st op => op.Fits True st)
      (fun st => ∀ s, (st.mem.sess s).isLogin = false) st) (s : SessId) :
    (st.mem.sess s).refcnt = st.mem.refsTo s + (if (st.mem.sess s).isLogin then 1 else 0) ∧
      0 ≤ (st.mem.sess s).refcnt := by
  have hI := RefsCounted.objectInvariant (O := O) (E := True) fun _ => hl
  have hst : RefsCounted True st := h.inv .init (fun _ _ hst hop => hI.op hO hst hop)
    fun _ hst hf => hst.fork fun _ => hf
  have hs := hst.eq trivial s
  rw [Session.refs] at hs
  constructor
  · omega
  · split at hs <;> omega

/-- An imported key keeps the counter of its session at one. -/
theorem refcnt_eq_import :
    ((runOps locked [.objImportSecretKey 0x1F 16] {}).mem.sess ⟨1, 0⟩).refcnt = 1 ∧
      (runOps locked [.objImportSecretKey 0x1F 16] {}).mem.refsTo ⟨1, 0⟩ = 1 := by
  have hreach : Reachable plainCtx (replies locked) (fun st op => op.Fits True st)
      (fun st => ∀ s, (st.mem.sess s).isLogin = false)
      (runOps locked [.objImportSecretKey 0x1F 16] {}) := by
    refine .runOps .init ?_
    simp [Op.Fits]
  have hto : (runOps locked [.objImportSecretKey 0x1F 16] {}).mem.refsTo ⟨1, 0⟩ = 1 := by decide
  have hs := (refcnt_eq locked_objectHandles locked_noRelogin hreach ⟨1, 0⟩).1
  rw [hto] at hs
  exact ⟨hs.trans (by decide), hto⟩

/-- After a login and a fork, the counter of the session that logged in stays at one, though
    nothing refers to it and it is not the login session. -/
theorem refcnt_ne_after_login_and_fork :
    Reachable plainCtx (replies plain) (fun st op => op.Fits True st) (fun _ => True)
      (runOps plain [.takeLoginSession 1] {}).fork ∧
    (runOps plain [.takeLoginSession 1] {}).fork.mem.Pooled ⟨1, 0⟩ ∧
    ((runOps plain [.takeLoginSession 1] {}).fork.mem.sess ⟨1, 0⟩).refcnt ≠
      (runOps plain [.takeLoginSession 1] {}).fork.mem.refsTo ⟨1, 0⟩ +
        if ((runOps plain [.takeLoginSession 1] {}).fork.mem.sess ⟨1, 0⟩).isLogin then 1 else 0 := by
  refine ⟨.fork (.runOps .init ?_) trivial, ?_⟩
  · simp [Op.Fits]
  · decide

end P11Prov
