import P11Prov.Session.Acquire

/-!
# Properties that the session layer keeps

A property of the state that survives work on a session, the taking and the
release of a session, its being marked as broken and the growth of a pool
survives every function of the session layer (`SessionInvariant`). What the
layer does before it settles on a slot is done on the sessions of one slot at a
time, so there it is enough to look at these (`SlotInvariant`).
-/

namespace P11Prov

open Interaction

/-- A property of the state that survives what the session layer does. -/
structure SessionInvariant (O : Oracle) (I : State → Prop) : Prop where
  works {s : SessId} {st st' : State} : I st → Works O s st st' → I st'
  setInUse {s : SessId} {st : State} (b : Bool) : I st →
    I ⟨st.mem.setSess s ({ · with inUse := b }), st.tok⟩
  addSess {st : State} (slotid : SlotId) : I st → I ⟨st.mem.addSess slotid, st.tok⟩
  markBroken {s : SessId} {st : State} : I st →
    I ⟨st.mem.setSess s ({ · with isBroken := true }), st.tok⟩

/-- A property of the state that survives what the session layer does on one slot. -/
structure SlotInvariant (O : Oracle) (slotid : SlotId) (I : State → Prop) : Prop where
  works {s : SessId} {st st' : State} : s.slot = slotid → I st → Works O s st st' → I st'
  setInUse {s : SessId} {st : State} (b : Bool) : s.slot = slotid → I st →
    I ⟨st.mem.setSess s ({ · with inUse := b }), st.tok⟩
  addSess {st : State} : I st → I ⟨st.mem.addSess slotid, st.tok⟩

namespace SlotInvariant

variable {O : Oracle} {I : State → Prop} {slot : Slot} {slotid : SlotId}
  (hI : SlotInvariant O slotid I) {ctx : Ctx} {s : SessId} {flags : Flags} {login : Bool}
  {uri : Option Uri} {pwCb reqlogin keep : Bool} {req : Request} {st : State}
include hI

theorem returnSession (hs : s.slot = slotid) : Keeps (env O) I (returnSession ctx s) := by
  intro st h
  refine wp_mono returnSession_spec ?_
  rintro _ _ ⟨st₁, hw, rfl⟩
  exact hI.setInUse false hs (hI.works hs h hw)

theorem unmarkLogin (hs : s.slot = slotid) : Keeps (env O) I (unmarkLogin s) := by
  intro st h
  simp only [P11Prov.unmarkLogin, Prog.perform_eq, Prog.call_bind, Prog.ret_bind, wp_loadSess]
  split
  · rename_i hl
    simp only [wp_deref, wp_storeSess, Mem.setSess_setSess, wp_ret]
    exact hI.works hs h (.unmark hl)
  · exact h

theorem finishLogin (hs : s.slot = slotid) {ret : CkRv} :
    Keeps (env O) I (finishLogin ctx keep s ret) :=
  .ite (.ite .pure (.bind (hI.returnSession hs) fun _ => .pure))
    (.bind (hI.unmarkLogin hs) fun _ => .bind (hI.returnSession hs) fun _ => .pure)

theorem loginWith {r : Except CkRv SessId} (hr : ∀ s, r = .ok s → s.slot = slotid) :
    Keeps (env O) I (loginWith ctx slot uri pwCb keep r) := by
  cases r with
  | error ret => exact .pure
  | ok s =>
    refine .bind (fun st h => wp_mono loginSession_spec fun _ _ hw => ?_) fun _ => ?_
    · exact hI.works (hr s rfl) h hw
    · exact hI.finishLogin (hr s rfl)

end SlotInvariant

namespace SlotInvariant

variable {O : Oracle} {I : State → Prop} {slot : Slot} (hI : SlotInvariant O slot.id I) {ctx : Ctx}
  {flags : Flags} {login : Bool} {uri : Option Uri} {pwCb reqlogin keep : Bool} {req : Request}
  {st : State}
include hI

/-- The session that is taken is one of the slot. -/
theorem fetchSession (h : I st) : wp (env O) (fetchSession slot flags login)
    (fun r st' => I st' ∧ ∀ s, r = .ok s → s.slot = slot.id) st := by
  have hkeep : wp (env O) (P11Prov.fetchSession slot flags login) (fun _ st' => I st') st := by
    refine wp_fetchSession_of ⟨fun _ _ => h, fun _ s hs _ _ _ => ?_, fun s hs _ => ?_,
      fun s hs hr => ?_, fun _ _ => hI.addSess h⟩
    · exact hI.setInUse true (Mem.mem_pool.1 hs).1 h
    · exact hI.setInUse true (Mem.mem_pool.1 hs).1 h
    · have hslot := (Mem.mem_pool.1 hs).1
      have h0 : ((st.take s).mem.sess s).refs ≤ 0 := by
        refine (Session.refs_le_refcnt _).trans ?_
        simp only [Session.recyclable, Bool.and_eq_true, beq_iff_eq] at hr
        simp [State.take, hr.2]
      refine wp_mono (tokenSessionClose_spec h0) fun _ _ hw => ?_
      exact hI.works hslot (hI.setInUse true hslot h) hw.1
  refine wp_mono (wp_and hkeep fetchSession_took) ?_
  rintro r st' ⟨h', htook⟩
  refine ⟨h', ?_⟩
  rintro s rfl
  exact Took.slot htook

theorem fetchAttempts {n : Nat} (h : I st) : wp (env O) (fetchAttempts slot n)
    (fun r st' => I st' ∧ ∀ s, r = .ok s → s.slot = slot.id) st := by
  induction n generalizing st with
  | zero => exact hI.fetchSession h
  | succ n ih =>
    refine wp.bind (hI.fetchSession h) fun r st₁ h₁ => ?_
    cases r with
    | ok s => exact h₁
    | error ret => exact ih h₁.1

theorem slotLogin : Keeps (env O) I (slotLogin ctx slot uri pwCb reqlogin keep) := by
  intro st h
  refine wp.bind (hI.fetchSession h) fun r st₁ h₁ => ?_
  split
  · exact h₁.1
  split
  · exact hI.loginWith h₁.2 st₁ h₁.1
  · have hcycle : ∀ n, I ⟨st₁.mem, st₁.tok.after .cyclewait n⟩ := fun _ => h₁.1
    exact wp.bind (fun n _ => hcycle n) fun n st₂ h₂ =>
      wp.bind (hI.fetchAttempts h₂) fun r st₃ h₃ => hI.loginWith h₃.2 st₃ h₃.1

theorem trySlot : Keeps (env O) I (trySlot ctx req slot) :=
  .ite .pure <| .ite (.bind hI.slotLogin fun _ => .pure) .pure

end SlotInvariant

namespace SessionInvariant

variable {O : Oracle} {I : State → Prop} (hI : SessionInvariant O I)
  {ctx : Ctx} {slot : Slot} {slotid : SlotId} {s : SessId} {flags : Flags} {login : Bool}
  {uri : Option Uri} {pwCb reqlogin keep : Bool} {req : Request}
include hI

theorem onSlot (slotid : SlotId) : SlotInvariant O slotid I where
  works _ h hw := hI.works h hw
  setInUse b _ h := hI.setInUse b h
  addSess h := hI.addSess slotid h

theorem fetchSession : Keeps (env O) I (fetchSession slot flags login) :=
  fun _ h => wp_mono ((hI.onSlot slot.id).fetchSession h) fun _ _ h => h.1

theorem returnSession : Keeps (env O) I (returnSession ctx s) := (hI.onSlot s.slot).returnSession rfl

theorem slotLogin : Keeps (env O) I (slotLogin ctx slot uri pwCb reqlogin keep) :=
  (hI.onSlot slot.id).slotLogin

theorem trySlot : Keeps (env O) I (trySlot ctx req slot) := (hI.onSlot slot.id).trySlot

theorem sessionCheck : Keeps (env O) I (sessionCheck s flags) :=
  fun _ h => wp_mono sessionCheck_spec fun _ _ hw => hI.works h hw.1

theorem tokenSessionOpen : Keeps (env O) I (tokenSessionOpen s flags) :=
  fun _ h => wp_mono tokenSessionOpen_spec fun _ _ hw => hI.works h hw.1

theorem contextSpecificLogin : Keeps (env O) I (contextSpecificLogin ctx s uri pwCb) := by
  unfold P11Prov.contextSpecificLogin
  split
  · exact .pure
  · exact fun _ h => wp_mono tokenLogin_spec fun _ _ hw => hI.works h hw

omit hI in
theorem loadSess : Keeps (env O) I (mem (.loadSess s)) := fun _ h => wp_loadSess.2 h

theorem openOnSlot : Keeps (env O) I (openOnSlot ctx req slot) := by
  refine .bind hI.fetchSession fun r => ?_
  cases r with
  | error ret => exact .pure
  | ok s =>
    refine .bind hI.sessionCheck fun _ => .ite (.bind hI.returnSession fun _ => .pure) ?_
    refine .bind loadSess fun _ => .ite .pure <| .bind hI.tokenSessionOpen fun _ => ?_
    exact .ite (.bind hI.returnSession fun _ => .pure) .pure

theorem cycleSlots {id : SlotId} {ret : CkRv} {slots : List Slot} :
    Keeps (env O) I (cycleSlots ctx req id ret slots) := by
  induction slots generalizing id ret with
  | nil => exact .pure
  | cons slot slots ih => exact .ite ih (.bind hI.trySlot fun _ => .ite .pure ih)

theorem getSessionNext : Keeps (env O) I (getSessionNext ctx slotid req) := by
  refine .bind hI.cycleSlots fun r => ?_
  cases r with
  | error ret => exact .pure
  | ok r =>
    refine .bind hI.openOnSlot fun r => ?_
    cases r <;> exact .pure

theorem getSession : Keeps (env O) I (getSession ctx slotid req) := by
  refine .ite (.bind hI.getSessionNext fun _ => .pure) ?_
  cases ctx.getSlotById slotid with
  | none => exact .pure
  | some slot => exact .bind hI.trySlot fun _ => .ite .pure hI.openOnSlot

theorem tryTake {test : Session → Bool} : Keeps (env O) I (mem (.tryTake s test)) := by
  intro st h
  refine wp_tryTake.2 ?_
  split
  · exact hI.setInUse true h
  · exact h

theorem release : Keeps (env O) I (mem (.release s)) :=
  fun _ h => wp_release.2 (hI.setInUse false h)

theorem tryRef : Keeps (env O) I (tryRef s req) := by
  refine .bind hI.tryTake fun _ => .ite .pure <| .bind hI.sessionCheck fun _ => .ite ?_ ?_
  · exact .bind hI.tokenSessionOpen fun _ => .ite .pure (.bind hI.release fun _ => .pure)
  · exact .ite .pure (.bind hI.release fun _ => .pure)

theorem trySessionRef {obj : Obj} {mechtype : Nat} {rw : Bool} :
    Keeps (env O) I (trySessionRef ctx obj mechtype reqlogin rw) := by
  refine .ite .pure ?_
  cases obj.refSession with
  | none => exact hI.getSession
  | some s => exact .bind hI.tryRef fun _ => .ite .pure hI.getSession

theorem takeLoginSession : Keeps (env O) I (takeLoginSession ctx slotid) := by
  unfold P11Prov.takeLoginSession
  cases ctx.getSlotById slotid with
  | none => exact .pure
  | some slot =>
    refine .bind hI.slotLogin fun r => ?_
    split <;> exact .pure

end SessionInvariant

end P11Prov
