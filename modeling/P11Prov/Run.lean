import P11Prov.Object.Invariant

/-!
# Runs of the provider

The session and object layers under any sequence of operations, one after the
other: what OpenSSL and the rest of the provider ask of them, in any order and
on any arguments, and forks in between. `Reachable` takes a condition on the
operations, so that a result can say which operations it needs to exclude;
`ReachableIn.inv` is the rule for invariants, and by `ObjectInvariant.op` the
operations keep those that the object layer keeps.

Concrete runs are evaluated with the answers that a well-behaved token would
give (`plain`).
-/

namespace P11Prov

open Interaction

/-- The operations of the session and object layers. -/
inductive Op
  | getSession (slotid : SlotId) (req : Request)
  | getSessionNext (slotid : SlotId) (req : Request)
  | trySessionRef (o : ObjId) (mechtype : Nat) (reqlogin rw : Bool)
  | takeLoginSession (slotid : SlotId)
  | contextSpecificLogin (s : SessId) (uri : Option Uri) (pwCb : Bool)
  | returnSession (s : SessId)
  | sessionMarkBroken (s : SessId)
  | objNew (slotid : SlotId) (handle : ObjectHandle) (cls : Nat)
  | objRef (o : ObjId)
  | objFree (o : ObjId)
  | objSetSessionRef (o : ObjId) (s : SessId)
  | objGetHandle (o : ObjId)
  | objImportKey (o : ObjId) (found : Option ObjId) (attrs : List (Nat × Bytes))
  | objImportSecretKey (type size : Nat)
  | skeyGenerate (type : SkeyType) (uri : Option Uri) (ephemeral : Bool)
  | deriveSkey (key : ObjId) (mechtype : Nat) (session : Option SessId)
  | objFindAssociated (o : ObjId) (cls : Nat)

/-- The program of an operation; its result is kept by the caller, outside of the state. -/
def Op.prog (ctx : Ctx) : Op → P Unit
  | getSession slotid req => do let _ ← P11Prov.getSession ctx slotid req
  | getSessionNext slotid req => do let _ ← P11Prov.getSessionNext ctx slotid req
  | trySessionRef o mechtype reqlogin rw => do
    let obj ← mem (.loadObj o)
    let _ ← P11Prov.trySessionRef ctx obj mechtype reqlogin rw
  | takeLoginSession slotid => do let _ ← P11Prov.takeLoginSession ctx slotid
  | contextSpecificLogin s uri pwCb => do let _ ← P11Prov.contextSpecificLogin ctx s uri pwCb
  | returnSession s => P11Prov.returnSession ctx s
  | sessionMarkBroken s => P11Prov.sessionMarkBroken s
  | objNew slotid handle cls => do let _ ← P11Prov.objNew slotid handle cls
  | objRef o => do let _ ← P11Prov.objRef ctx o
  | objFree o => P11Prov.objFree ctx o
  | objSetSessionRef o s => P11Prov.objSetSessionRef o s
  | objGetHandle o => do let _ ← P11Prov.objGetHandle ctx o
  | objImportKey o found attrs => do let _ ← P11Prov.objImportKey ctx o found attrs
  | objImportSecretKey type size => do let _ ← P11Prov.objImportSecretKey ctx type size
  | skeyGenerate type uri ephemeral => do let _ ← P11Prov.skeyGenerate ctx type uri ephemeral
  | deriveSkey key mechtype session => do let _ ← P11Prov.deriveSkey ctx key mechtype session
  | objFindAssociated o cls => do let _ ← P11Prov.objFindAssociated ctx o cls

/-- The states that operations and forks lead to in an environment, when each operation meets
    `ok` and each fork `okFork` in the state before. -/
inductive ReachableIn (E : Env State Cmd.Resp) (ctx : Ctx) (ok : State → Op → Prop)
    (okFork : State → Prop) : State → Prop
  | init : ReachableIn E ctx ok okFork {}
  | op {st st' : State} {op : Op} (h : ReachableIn E ctx ok okFork st) (hok : ok st op)
      (hrun : Runs E (op.prog ctx) st () st') : ReachableIn E ctx ok okFork st'
  | fork {st : State} (h : ReachableIn E ctx ok okFork st) (hok : okFork st) :
      ReachableIn E ctx ok okFork st.fork

/-- The states that operations and forks lead to under an oracle. -/
abbrev Reachable (ctx : Ctx) (O : Oracle) (ok : State → Op → Prop) (okFork : State → Prop) :
    State → Prop := ReachableIn (env O) ctx ok okFork

/-- What holds initially, and is kept by operations and forks, holds in every reachable
    state. -/
theorem ReachableIn.inv {E : Env State Cmd.Resp} {ctx : Ctx} {ok : State → Op → Prop}
    {okFork : State → Prop} {I : State → Prop} (h0 : I {})
    (hop : ∀ st op, I st → ok st op → wp E (op.prog ctx) (fun _ st' => I st') st)
    (hfork : ∀ st, I st → okFork st → I st.fork) {st : State}
    (h : ReachableIn E ctx ok okFork st) : I st := by
  induction h with
  | init => exact h0
  | op _ hok hrun ih => exact hrun.of_wp (hop _ _ ih hok)
  | fork _ hok ih => exact hfork _ ih hok

/-- The operations that an invariant of the object layer is kept by. A session reference is
    set from outside as `store_key` sets it: on an object of the slot of the session that is
    on a token and refers to no session yet. A session object is made by an operation that
    sets its reference, unless `H` holds. -/
def Op.Fits (H : Prop) (st : State) : Op → Prop
  | objSetSessionRef o s => st.mem.Pooled s ∧ ∃ x, st.mem.obj o = some x ∧
    x.refSession = none ∧ x.slotid = s.slot ∧ x.handle ≠ ckP11provImportedHandle
  | skeyGenerate _ _ ephemeral => ephemeral = false ∨ H
  | deriveSkey _ _ _ => H
  | objImportKey _ found _ =>
    H ∨ ∀ src x, found = some src → st.mem.obj src = some x → x.home = none
  | _ => True

/-- An invariant of the object layer is kept by the operations. -/
theorem ObjectInvariant.op {O : Oracle} {H : Prop} {I : State → Prop} (hI : ObjectInvariant O H I)
    (hO : ObjectHandles O) {ctx : Ctx} {st : State} (h : I st) {op : Op} (hop : op.Fits H st) :
    wp (env O) (op.prog ctx) (fun _ st' => I st') st := by
  cases op with
  | getSession slotid req => exact Keeps.bind hI.getSession (fun _ => .pure) st h
  | getSessionNext slotid req => exact Keeps.bind hI.getSessionNext (fun _ => .pure) st h
  | trySessionRef o mechtype reqlogin rw =>
    exact Keeps.bind loadObj (fun _ => .bind hI.trySessionRef fun _ => .pure) st h
  | takeLoginSession slotid => exact Keeps.bind hI.takeLoginSession (fun _ => .pure) st h
  | contextSpecificLogin s uri pwCb =>
    exact Keeps.bind hI.contextSpecificLogin (fun _ => .pure) st h
  | returnSession s => exact hI.returnSession st h
  | sessionMarkBroken s => exact wp_storeSess.2 (hI.markBroken h)
  | objNew slotid handle cls => exact wp.bind (hI.new_spec h) fun _ _ h => h.1
  | objRef o => exact Keeps.bind (hI.ref hO) (fun _ => .pure) st h
  | objFree o => exact hI.free st h
  | objSetSessionRef o s =>
    obtain ⟨hp, x, hx, hr, hs, hh⟩ := hop
    exact hI.setSessionRef h hx hr hp hs hh
  | objGetHandle o => exact Keeps.bind (hI.getHandle hO) (fun _ => .pure) st h
  | objImportKey o found attrs => exact wp.bind (hI.importKey hO h hop) fun _ _ h => h
  | objImportSecretKey type size => exact Keeps.bind (hI.importSecretKey hO) (fun _ => .pure) st h
  | skeyGenerate type uri ephemeral => exact Keeps.bind (hI.skeyGenerate hop) (fun _ => .pure) st h
  | deriveSkey key mechtype session =>
    exact Keeps.bind (hI.deriveSkey hO hop) (fun _ => .pure) st h
  | objFindAssociated o cls => exact Keeps.bind (hI.findAssociated hO) (fun _ => .pure) st h

/-! ## Concrete runs -/

/-- The answer of the memory to a command, when the allocator does not fail. -/
def Mem.answer (m : Mem) : (c : MemCmd) → c.Resp
  | .loadSess s => m.sess s
  | .tryTake s _ => m.sess s
  | .numSessions slot => m.num slot
  | .sessionNew slot =>
    if m.num slot.id < slot.maxSessions then (Ckr.ok, ⟨slot.id, m.num slot.id⟩)
    else (Ckr.sessionCount, ⟨slot.id, 0⟩)
  | .loadPins slot => m.pins slot
  | .setBadPin _ _ => Ckr.ok
  | .setCachedPin _ _ => Ckr.ok
  | .loadObj o => (m.obj o).getD .freed
  | .objAlloc _ => some m.objs.length
  | .objAddToPool _ => Ckr.ok
  | .objFetchAdd o => (m.obj o).elim 0 (·.refcnt)
  | .objUnref o => (m.obj o).filter (·.refcnt = 1)
  | .numObjs => m.objs.length
  | .alloc => true
  | .storeSess _ _ | .release _ | .ref _ | .deref _ | .storeObj _ _ | .objDelete _ => ()

theorem Mem.answers_answer (m : Mem) (c : MemCmd) : m.Answers c (m.answer c) := by
  cases c with
  | sessionNew slot =>
    simp only [Answers, answer]
    split
    · exact .inr ⟨‹_›, .inr rfl⟩
    · exact .inl ⟨Nat.le_of_not_lt ‹_›, rfl⟩
  | setBadPin | setCachedPin => exact .inl rfl
  | objAlloc => exact .inr rfl
  | _ => first | rfl | trivial

/-- A session handle that is not in use. -/
def Token.freshHandle (t : Token) : Handle := (t.sessions.map (·.1)).foldr max 0 + 1

/-- What a well-behaved token returns besides the code of a call. -/
def Token.cryptoOut (t : Token) (h : Handle) : (c : CryptoCall) → c.Out
  | .sign _ _ | .signFinal _ => []
  | .crypt _ data _ | .cryptUpdate _ data _ => ⟨data, data.length⟩
  | .cryptFinal _ _ => ⟨[], 0⟩
  | .getOperationState => t.op h
  | .init _ _ _ | .cancel _ | .sessionCancel _ | .verify _ _ | .update _ _ | .verifyFinal _
  | .setOperationState _ _ => ()

/-- The answers of a well-behaved token, and of an impatient user. -/
def Token.reply (t : Token) : (c : Call) → c.Resp
  | .cyclewait => 0
  | .promptPin _ => none
  | .openSession _ _ => (Ckr.ok, t.freshHandle)
  | .closeSession _ => Ckr.ok
  | .getSessionInfo h =>
    match t.opened h with
    | some o => (Ckr.ok, { state := Cks.roPublicSession, flags := o.flags })
    | none => (Ckr.sessionHandleInvalid, { state := 0, flags := 0 })
  | .getTokenInfo _ => (Ckr.ok, 0)
  | .login h _ _ =>
    match t.opened h with
    | some o => if t.login o.slot = none then Ckr.ok else Ckr.userAlreadyLoggedIn
    | none => Ckr.sessionHandleInvalid
  | .createObject _ => (Ckr.ok, 10)
  | .generateKey _ _ _ => (Ckr.ok, 11)
  | .deriveKey _ _ _ => (Ckr.ok, 12)
  | .copyObject _ _ => (Ckr.ok, 13)
  | .destroyObject _ _ => Ckr.ok
  | .findObjectsInit _ _ _ => Ckr.ok
  | .findObjects _ => (Ckr.ok, [])
  | .findObjectsFinal _ => Ckr.ok
  | .fetchAttributes _ _ => (Ckr.ok, { cls := Cko.secretKey })
  | .supportsCaching _ => true
  | .supportsAllowedMechanisms _ => (Ckr.ok, false)
  | .ctxStatus => Ckr.ok
  | .evpFetch _ => true
  | .evpInit _ => true
  | .evpUpdate _ _ => true
  | .evpFinal _ data => some data
  | .randBytes n => some (.replicate n 0)
  | .crypto h c => (Ckr.ok, t.cryptoOut h c)

/-- The outside that gives the answers `reply`. -/
def replies (reply : State → (c : Call) → c.Resp) : Oracle := fun st c r => r = reply st c

/-- The answers of the plain token. -/
def plain (st : State) (c : Call) : c.Resp := st.tok.reply c

/-- The answers of a token to whom no PIN is the right one. -/
def locked (st : State) : (c : Call) → c.Resp
  | .login _ _ _ => Ckr.pinIncorrect
  | c => st.tok.reply c

theorem Token.opened_freshHandle (t : Token) : t.opened t.freshHandle = none := by
  have hlt : ∀ l : List Nat, ∀ h ∈ l, h < l.foldr max 0 + 1 := by
    intro l
    induction l with
    | nil => simp
    | cons k l ih =>
      rintro h (_ | ⟨_, hl⟩)
      · simp only [List.foldr_cons]
        omega
      · have := ih h hl
        simp only [List.foldr_cons]
        omega
  simp only [opened, Option.map_eq_none_iff, List.find?_eq_none, decide_eq_true_eq]
  intro x hx e
  exact absurd (hlt _ x.1 (List.mem_map_of_mem hx)) (by simp [e, freshHandle])

theorem plain_opensFresh : OpensFresh (replies plain) := by
  rintro st slot flags _ rfl hok
  exact ⟨Nat.succ_ne_zero _, st.tok.opened_freshHandle⟩

theorem plain_reportsOpen : ReportsOpen (replies plain) := by
  rintro st h _ rfl hok
  simp only [plain, Token.reply] at hok ⊢
  cases ho : st.tok.opened h with
  | none => simp [ho] at hok
  | some o => exact ⟨o, rfl, rfl⟩

theorem plain_objectHandles : ObjectHandles (replies plain) := by
  constructor
  · rintro st h _ rfl
    exact (by decide : 10 ≠ ckP11provImportedHandle)
  · rintro st h _ rfl
    simp [plain, Token.reply]

theorem locked_objectHandles : ObjectHandles (replies locked) := plain_objectHandles

theorem locked_noRelogin : NoRelogin (replies locked) := nofun

section Runs

variable {reply : State → (c : Call) → c.Resp}

/-- The answers of the memory and of the outside to all commands. -/
def answers (reply : State → (c : Call) → c.Resp) (st : State) : (c : Cmd) → c.Resp
  | .mem c => st.mem.answer c
  | .call c => reply st c

theorem adm_answers (st : State) (c : Cmd) : (env (replies reply)).adm st c (answers reply st c) := by
  cases c with
  | mem c => exact st.mem.answers_answer c
  | call c => rfl

/-- Runs a program with the answers `reply`. -/
def run (reply : State → (c : Call) → c.Resp) {α : Type} (p : P α) (st : State) : α × State :=
  exec (env (replies reply)) (answers reply) p st

theorem runs_run {α : Type} (p : P α) (st : State) :
    Runs (env (replies reply)) p st (run reply p st).1 (run reply p st).2 := runs_exec adm_answers p st

/-- The answers may be among those of a smaller environment. -/
theorem runs_run_restrict {φ : (c : Cmd) → c.Resp → Prop}
    (hφ : ∀ st c, φ c (answers reply st c)) {α : Type} (p : P α) (st : State) :
    Runs ((env (replies reply)).restrict φ) p st (run reply p st).1 (run reply p st).2 := by
  have hn : ((env (replies reply)).restrict φ).next = (env (replies reply)).next := rfl
  have ha (st : State) (c : Cmd) : ((env (replies reply)).restrict φ).adm st c
      (answers reply st c) := ⟨adm_answers st c, hφ st c⟩
  rw [run, ← exec_congr hn]
  exact runs_exec ha p st

theorem runs_of_run {α : Type} {p : P α} {st : State} {a : α} (h : (run reply p st).1 = a) :
    Runs (env (replies reply)) p st a (run reply p st).2 := h ▸ runs_run p st

theorem runs_of_run_fst {α β : Type} {p : P (α × β)} {st : State} {a : α}
    (h : (run reply p st).1.1 = a) :
    Runs (env (replies reply)) p st (a, (run reply p st).1.2) (run reply p st).2 := by
  subst h
  exact runs_run p st

theorem run_bind {α β : Type} (p : P α) (f : α → P β) (st : State) :
    run reply (p >>= f) st = run reply (f (run reply p st).1) (run reply p st).2 := exec_bind p f st

/-- A slot whose token is there and needs no login. -/
def plainSlot : Slot where
  id := 1
  flags := Ckf.tokenPresent
  tokenFlags := Ckf.tokenInitialized
  ulMaxSessionCount := 3
  mechs := [SkeyType.aes.mechtype]

/-- A provider with this slot only. -/
def plainCtx : Ctx where
  slots := [plainSlot]
  defaultSlot := 1
  pin := some [0x31, 0x32, 0x33, 0x34]

/-- One operation after another, with the answers `reply`. -/
def runOps (reply : State → (c : Call) → c.Resp) : List Op → State → State
  | [], st => st
  | op :: ops, st => runOps reply ops (run reply (op.prog plainCtx) st).2

theorem ReachableIn.runOps {ok : State → Op → Prop} {okFork : State → Prop} {ops : List Op}
    {st : State} (h : Reachable plainCtx (replies reply) ok okFork st)
    (hok : ∀ st, ∀ op ∈ ops, ok st op) :
    Reachable plainCtx (replies reply) ok okFork (runOps reply ops st) := by
  induction ops generalizing st with
  | nil => exact h
  | cons op ops ih =>
    refine ih (.op h (hok st op List.mem_cons_self) (runs_run _ _)) fun st op' hop' => ?_
    exact hok st op' (List.mem_cons_of_mem op hop')

/-- A session was taken for a read-only request and given back. -/
def idlePool (ctx : Ctx) : State :=
  (run plain ((Op.returnSession ⟨1, 0⟩).prog ctx) (run plain ((Op.getSession 1 {}).prog ctx) {}).2).2

theorem idlePool_reachable (ctx : Ctx) : Reachable ctx (replies plain)
    (fun st op => op.Fits True st) (fun _ => True) (idlePool ctx) := by
  refine .op (.op .init ?_ (runs_run _ _)) ?_ (runs_run _ _)
  · exact trivial
  · exact trivial

end Runs

end P11Prov
