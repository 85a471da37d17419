import Mathlib.Logic.Relation
import P11Prov.Interaction.RwLock
import P11Prov.Provider.Tables

/-!
# The status of the provider

The module is loaded by the first call of `p11prov_ctx_status`, which also looks
at the slots and registers the operations, and it is initialised again by the
first call after a fork. What these calls need from outside is given as their
answers: the module, its functions, the memory and the locks.

In runs whose calls have the memory they need, a call makes the status
`P11PROV_INITIALIZED` only if all its steps went well, reports the step that did
not, and gives the lock on the slots back (`status_machine`).
-/

namespace P11Prov

open Interaction

/-- The values of `status` in `struct p11prov_ctx`. -/
inductive Status
  | uninitialized
  | initialized
  | needsReinit
  | noDeinit
  | inError
  deriving DecidableEq, Repr

/-- `CK_INFO`, without padding bytes. -/
structure CkInfo where
  cryptokiMajor : UInt8 := 0
  cryptokiMinor : UInt8 := 0
  manufacturerID : Bytes := []
  flags : Flags := 0
  libraryDescription : Bytes := []
  libraryMajor : UInt8 := 0
  libraryMinor : UInt8 := 0
  deriving DecidableEq, Repr

/-- `struct p11prov_module_ctx` -/
structure Module where
  ckInfo : CkInfo := {}
  initialized : Bool := false
  reinit : Bool := false
  deriving DecidableEq, Repr

/-- `P11PROV_SLOTS_CTX`, with the mechanisms of each slot. -/
structure Slots where
  mechs : List (List Nat)
  rwlock : RwLock := {}
  deriving DecidableEq, Repr

/-- `struct p11prov_ctx` -/
structure ProvCtx where
  status : Status := .uninitialized
  mctx : Module := {}
  slots : Option Slots := none
  tables : Tables := fun _ => []
  assumeFips : Bool := false

/-! ## Answers -/

/-- What `p11prov_init_slots` needs for a slot. -/
structure SlotAnswers where
  slot : Bool
  getSlotInfo : CkRv × Flags
  getTokenInfo : CkRv
  loginInfo : Bool
  sessionPoolInit : CkRv
  objPoolInit : CkRv
  mechsNum : CkRv × Nat
  mechs : Bool
  getMechanismList : CkRv × List Nat

/-- What `p11prov_init_slots` needs: the memory, the lock, the number of slots and their ids, which
    are asked for one after the other, and the answers for the slot at each place. -/
structure SlotsAnswers where
  sctx : Bool
  rwlockInit : Bool
  slotNum : CkRv × Nat
  slotid : Bool
  getSlotList : CkRv × List SlotId
  slots : Bool
  slot : Nat → SlotAnswers

/-- What a call of `p11prov_ctx_status` needs. -/
structure StatusAnswers where
  mutexLock : CkRv
  dlopen : Bool
  interfaceInit : CkRv
  cInitialize : CkRv
  getInfo : CkRv × CkInfo
  initSlots : SlotsAnswers
  rdlock : Bool
  alloc : Alloc
  /-- The lock that `p11prov_check_random` takes for its session. -/
  randomRdlock : Bool
  random : CkRv

/-! ## Slots -/

/-- `get_slot_mechanisms` -/
def getSlotMechanisms (A : SlotAnswers) : List Nat :=
  if A.mechsNum.1 ≠ Ckr.ok then []
  else if !A.mechs then []
  else if A.getMechanismList.1 ≠ Ckr.ok then []
  else A.getMechanismList.2

/-- The loop of `p11prov_init_slots` from a place on. A slot that is skipped leaves what the token
    answered in `ret`, which is not looked at unless it is the last one. -/
def initSlotsFrom (A : Nat → SlotAnswers) (i : Nat) :
    List SlotId → CkRv → List (List Nat) → CkRv × List (List Nat)
  | [], ret, mechs => (ret, mechs)
  | _ :: ids, _, mechs =>
    let a := A i
    if !a.slot then (Ckr.hostMemory, mechs)
    else if a.getSlotInfo.1 ≠ Ckr.ok ∨ a.getSlotInfo.2 &&& Ckf.tokenPresent = 0 then
      initSlotsFrom A (i + 1) ids a.getSlotInfo.1 mechs
    else if a.getTokenInfo ≠ Ckr.ok then initSlotsFrom A (i + 1) ids a.getTokenInfo mechs
    else if !a.loginInfo then (Ckr.hostMemory, mechs)
    else if a.sessionPoolInit ≠ Ckr.ok then (a.sessionPoolInit, mechs)
    else if a.objPoolInit ≠ Ckr.ok then (a.objPoolInit, mechs)
    else initSlotsFrom A (i + 1) ids Ckr.ok (mechs ++ [getSlotMechanisms a])

/-- `p11prov_init_slots` -/
def p11provInitSlots (A : SlotsAnswers) : Except CkRv Slots :=
  if !A.sctx then .error Ckr.hostMemory
  else if !A.rwlockInit then .error Ckr.cantLock
  else if A.slotNum.1 ≠ Ckr.ok then .error A.slotNum.1
  else if A.slotNum.2 > 0x10000 then .error Ckr.generalError
  else if !A.slotid then .error Ckr.hostMemory
  else if A.getSlotList.1 ≠ Ckr.ok then .error A.getSlotList.1
  else if !A.slots then .error Ckr.hostMemory
  else
    let (ret, mechs) := initSlotsFrom A.slot 0 A.getSlotList.2 Ckr.ok []
    if ret ≠ Ckr.ok then .error ret else .ok { mechs }

/-- `p11prov_take_slots`, given whether the lock can be had. -/
def takeSlots (rdlock : Bool) (c : ProvCtx) : CkRv × ProvCtx :=
  match c.slots with
  | none => (Ckr.generalError, c)
  | some s =>
    match s.rwlock.rdlock with
    | none => (Ckr.cantLock, c)
    | some rwlock =>
      if !rdlock then (Ckr.cantLock, c)
      else (Ckr.ok, { c with slots := some { s with rwlock } })

/-- `p11prov_return_slots` -/
def returnSlots (c : ProvCtx) : ProvCtx :=
  { c with slots := c.slots.map fun s => { s with rwlock := s.rwlock.unlock } }

/-! ## The module -/

/-- `trim_padded_field` -/
def trimPaddedField (field : Bytes) : Bytes :=
  let kept := (field.reverse.dropWhile (· = 0x20)).reverse
  kept ++ .replicate (field.length - kept.length) 0

/-- What `p11prov_module_init` and `p11prov_module_reinit` make of the answer to `C_GetInfo`. -/
def CkInfo.trim (i : CkInfo) : CkInfo :=
  { i with
    manufacturerID := trimPaddedField i.manufacturerID
    libraryDescription := trimPaddedField i.libraryDescription }

/-- The test of `p11prov_module_reinit` for the module it had before. -/
def sameModule (i j : CkInfo) : Bool :=
  i.cryptokiMajor = j.cryptokiMajor && i.cryptokiMinor = j.cryptokiMinor &&
    strncmpEq 32 i.manufacturerID j.manufacturerID && i.flags = j.flags &&
    strncmpEq 32 i.libraryDescription j.libraryDescription &&
    i.libraryMajor = j.libraryMajor && i.libraryMinor = j.libraryMinor

/-- `p11prov_module_init` -/
def moduleInit (A : StatusAnswers) (c : ProvCtx) : CkRv × ProvCtx :=
  if A.mutexLock ≠ Ckr.ok then (A.mutexLock, c)
  else if c.mctx.initialized then (Ckr.ok, c)
  else if !A.dlopen then (Ckr.generalError, c)
  else if A.interfaceInit ≠ Ckr.ok then (A.interfaceInit, c)
  else if A.cInitialize ≠ Ckr.ok ∧ A.cInitialize ≠ Ckr.cryptokiAlreadyInitialized then
    (A.cInitialize, c)
  else
    let c := { c with mctx := { c.mctx with ckInfo := A.getInfo.2 } }
    if A.getInfo.1 ≠ Ckr.ok then (A.getInfo.1, c)
    else
      let c := { c with mctx := { c.mctx with ckInfo := c.mctx.ckInfo.trim } }
      match p11provInitSlots A.initSlots with
      | .error ret => (ret, c)
      | .ok slots => (Ckr.ok, { c with slots })

/-- `p11prov_module_reinit` -/
def moduleReinit (A : StatusAnswers) (c : ProvCtx) : CkRv × ProvCtx :=
  if A.mutexLock ≠ Ckr.ok then (A.mutexLock, c)
  else if !c.mctx.reinit then (Ckr.ok, c)
  else if A.cInitialize ≠ Ckr.ok ∧ A.cInitialize ≠ Ckr.cryptokiAlreadyInitialized then
    (A.cInitialize, c)
  else
    let c := { c with mctx := { c.mctx with reinit := false } }
    if A.getInfo.1 ≠ Ckr.ok then (A.getInfo.1, c)
    else if !sameModule A.getInfo.2.trim c.mctx.ckInfo then (Ckr.generalError, c)
    else (Ckr.ok, c)

/-! ## The status -/

/-- `p11prov_check_random`. For its session it takes the slots and returns them. -/
def checkRandom (A : StatusAnswers) (c : ProvCtx) : CkRv × ProvCtx :=
  let (ret, c) := takeSlots A.randomRdlock c
  if ret ≠ Ckr.ok then (Ckr.functionNotSupported, c)
  else if A.random ≠ Ckr.ok then (Ckr.functionNotSupported, returnSlots c)
  else (Ckr.ok, returnSlots c)

/-- `operations_init`. The loop over the slots holds the lock, and does not give it back when an
    entry cannot be stored. -/
def operationsInitCtx (b : Build) (A : StatusAnswers) (c : ProvCtx) : CkRv × ProvCtx :=
  let prop := defaultProperties c.assumeFips
  let (ret, c) := takeSlots A.rdlock c
  if ret ≠ Ckr.ok then (ret, c)
  else
    let slots := c.slots.elim [] (·.mechs)
    match initSlots b A.alloc prop { checklist := checklist b } slots with
    | .error tables => (retOsslErr, { c with tables })
    | .ok s =>
      let (random, c) := checkRandom A (returnSlots c)
      match finishOps b A.alloc prop random s with
      | .error tables => (retOsslErr, { c with tables })
      | .ok tables => (Ckr.ok, { c with tables })

/-- `p11prov_ctx_status` -/
def ctxStatus (b : Build) (A : StatusAnswers) (c : ProvCtx) : CkRv × ProvCtx :=
  match c.status with
  | .uninitialized =>
    let (ret, c) := moduleInit A c
    if ret ≠ Ckr.ok then (ret, { c with status := .inError })
    else
      let (ret, c) := operationsInitCtx b A c
      if ret ≠ Ckr.ok then (ret, { c with status := .inError })
      else (ret, { c with status := .initialized })
  | .initialized | .noDeinit => (Ckr.ok, c)
  | .needsReinit =>
    let (ret, c) := moduleReinit A c
    if ret ≠ Ckr.ok then (ret, { c with status := .inError })
    else (ret, { c with status := .initialized })
  | .inError => (Ckr.generalError, c)

/-- What `fork_child` does to a context: it is marked, and so is its module, and the lock on the
    slots is made anew. -/
def forkChild (c : ProvCtx) : ProvCtx :=
  if c.status = .initialized then
    { c with
      status := .needsReinit
      mctx := { c.mctx with reinit := true }
      slots := c.slots.map fun s => { s with rwlock := {} } }
  else c

/-! ## Steps that can fail -/

variable {b : Build} {A : StatusAnswers} {c : ProvCtx}

/-- The lock on the slots. -/
def ProvCtx.rwlock (c : ProvCtx) : RwLock := c.slots.elim {} (·.rwlock)

/-- The mechanisms of the slots. -/
def ProvCtx.mechs (c : ProvCtx) : List (List Nat) := c.slots.elim [] (·.mechs)

/-- All entries of the tables that `operations_init` stores for the slots of a context. -/
def registrations (b : Build) (A : StatusAnswers) (c : ProvCtx) :
    List (Operation × Option Algorithm) :=
  writes b (defaultProperties c.assumeFips) c.mechs.flatten ++
    randomWrites (defaultProperties c.assumeFips) (checkRandom A c).1

/-- Every one of them is stored. -/
def Registers (b : Build) (A : StatusAnswers) (c : ProvCtx) : Prop :=
  ∃ tables, algSetOps A.alloc (fun _ => []) (registrations b A c) = .ok tables

/-- A step of `p11prov_ctx_status` fails. -/
inductive StepFails (b : Build) (A : StatusAnswers) (c : ProvCtx) : Prop
  | moduleInit (h : c.status = .uninitialized) (hret : (moduleInit A c).1 ≠ Ckr.ok)
  | takeSlots {c' : ProvCtx} (h : c.status = .uninitialized)
      (hinit : moduleInit A c = (Ckr.ok, c')) (hret : (takeSlots A.rdlock c').1 ≠ Ckr.ok)
  | register {c' : ProvCtx} (h : c.status = .uninitialized)
      (hinit : moduleInit A c = (Ckr.ok, c')) (htake : (takeSlots A.rdlock c').1 = Ckr.ok) (hreg : ¬Registers b A c')
  | moduleReinit (h : c.status = .needsReinit) (hret : (moduleReinit A c).1 ≠ Ckr.ok)

/-- The steps of a call that makes the status `P11PROV_INITIALIZED`. -/
def Initializes (b : Build) (A : StatusAnswers) (c : ProvCtx) : Prop :=
  (c.status = .uninitialized ∧ ∃ c', moduleInit A c = (Ckr.ok, c') ∧
    (takeSlots A.rdlock c').1 = Ckr.ok ∧ Registers b A c') ∨
  (c.status = .needsReinit ∧ (moduleReinit A c).1 = Ckr.ok)

/-- What is expected of a call of `p11prov_ctx_status`. -/
structure CallSound (b : Build) (A : StatusAnswers) (c : ProvCtx) : Prop where
  initialized : (ctxStatus b A c).2.status = .initialized → c.status ≠ .initialized →
    Initializes b A c
  failed : StepFails b A c →
    (ctxStatus b A c).1 ≠ Ckr.ok ∧ (ctxStatus b A c).2.status = .inError
  inError : c.status = .inError → (ctxStatus b A c).1 ≠ Ckr.ok ∧ (ctxStatus b A c).2 = c
  released : (ctxStatus b A c).2.rwlock = {}

/-- A call that gets to register the operations has the memory for all entries. -/
def HasMemory (b : Build) (c : ProvCtx) (A : StatusAnswers) : Prop :=
  c.status = .uninitialized → ∀ c', moduleInit A c = (Ckr.ok, c') →
    (takeSlots A.rdlock c').1 = Ckr.ok → Room A.alloc (fun _ => []) (registrations b A c')

/-- Calls of `p11prov_ctx_status` that meet `ok`, and forks, of which a process is the parent or the
    child. -/
inductive StatusStep (b : Build) (ok : ProvCtx → StatusAnswers → Prop) : ProvCtx → ProvCtx → Prop
  | ctxStatus {c : ProvCtx} (A : StatusAnswers) (hok : ok c A) :
      StatusStep b ok c (ctxStatus b A c).2
  | forkParent {c : ProvCtx} : StatusStep b ok c c
  | forkChild {c : ProvCtx} : StatusStep b ok c (forkChild c)

/-! ## One call -/

theorem takeSlots_ok {rdlock : Bool} (h : (takeSlots rdlock c).1 = Ckr.ok) :
    ∃ s l, c.slots = some s ∧ s.rwlock.rdlock = some l ∧
      takeSlots rdlock c = (Ckr.ok, { c with slots := some { s with rwlock := l } }) := by
  unfold takeSlots at h ⊢
  cases hs : c.slots with
  | none => simp [hs] at h
  | some s =>
    cases hl : s.rwlock.rdlock with
    | none => simp [hs, hl] at h
    | some l =>
      refine ⟨s, l, rfl, hl, ?_⟩
      cases rdlock with
      | false => simp [hs, hl] at h
      | true => simp [hl]

theorem takeSlots_snd {rdlock : Bool} (h : (takeSlots rdlock c).1 ≠ Ckr.ok) :
    (takeSlots rdlock c).2 = c := by
  unfold takeSlots at h ⊢
  cases hs : c.slots with
  | none => rfl
  | some s =>
    cases hl : s.rwlock.rdlock with
    | none => simp [hl]
    | some l =>
      cases rdlock with
      | false => simp [hl]
      | true => simp [hs, hl] at h

theorem returnSlots_taken {s : Slots} {l : RwLock} (hs : c.slots = some s)
    (hl : s.rwlock.rdlock = some l) :
    returnSlots { c with slots := some { s with rwlock := l } } = c := by
  simp only [returnSlots, Option.map_some, RwLock.unlock_rdlock hl, ← hs]

/-- The lock that is taken for the random numbers is returned. -/
theorem checkRandom_snd : (checkRandom A c).2 = c := by
  unfold checkRandom
  by_cases h : (takeSlots A.randomRdlock c).1 = Ckr.ok
  · obtain ⟨s, l, hs, hl, htake⟩ := takeSlots_ok h
    simp only [htake, ne_eq, not_true_eq_false, ↓reduceIte]
    split <;> exact returnSlots_taken hs hl
  · simp only [ne_eq, h, not_false_eq_true, ↓reduceIte]
    exact takeSlots_snd h

/-! What `operations_init` does, given the lock. -/

theorem operationsInitCtx_of_not_take (h : (takeSlots A.rdlock c).1 ≠ Ckr.ok) :
    operationsInitCtx b A c = ((takeSlots A.rdlock c).1, c) := by
  simp only [operationsInitCtx, ne_eq, h, not_false_eq_true, ↓reduceIte, takeSlots_snd h]

/-- The tables are filled as far as there is memory. If all is stored, the context has them and the
    lock is returned; if not, the code returned is that of success. -/
theorem operationsInitCtx_of_take (h : (takeSlots A.rdlock c).1 = Ckr.ok) :
    (operationsInitCtx b A c).1 = Ckr.ok ∧
    ∀ tables, algSetOps A.alloc (fun _ => []) (registrations b A c) = .ok tables →
      operationsInitCtx b A c = (Ckr.ok, { c with tables }) := by
  obtain ⟨s, l, hs, hl, htake⟩ := takeSlots_ok h
  have hall : initSlots b A.alloc (defaultProperties c.assumeFips) { checklist := checklist b }
        s.mechs >>= finishOps b A.alloc (defaultProperties c.assumeFips) (checkRandom A c).1 =
      algSetOps A.alloc (fun _ => []) (writes b (defaultProperties c.assumeFips) s.mechs.flatten ++
        randomWrites (defaultProperties c.assumeFips) (checkRandom A c).1) := initSlots_finishOps
  have hregs : registrations b A c = writes b (defaultProperties c.assumeFips) s.mechs.flatten ++
      randomWrites (defaultProperties c.assumeFips) (checkRandom A c).1 := by
    rw [registrations, ProvCtx.mechs, hs]
    rfl
  have hrandom : checkRandom A c = ((checkRandom A c).1, c) := Prod.ext rfl checkRandom_snd
  rw [← hregs] at hall
  rw [← hall]
  simp only [operationsInitCtx, htake, ne_eq, not_true_eq_false, ↓reduceIte, Option.elim]
  cases hinit : initSlots b A.alloc (defaultProperties c.assumeFips) { checklist := checklist b }
      s.mechs with
  | error t => exact ⟨rfl, fun tables ht => by cases ht⟩
  | ok o =>
    dsimp only
    rw [returnSlots_taken hs hl, hrandom]
    dsimp only [bind, Except.bind]
    cases finishOps b A.alloc (defaultProperties c.assumeFips) (checkRandom A c).1 o with
    | error t => exact ⟨rfl, fun tables ht => by cases ht⟩
    | ok t => exact ⟨rfl, fun tables ht => by rw [Except.ok.inj ht]⟩

theorem registers_iff :
    Registers b A c ↔ Room A.alloc (fun _ => []) (registrations b A c) := algSetOps_ok_iff

/-! The locks when the module is loaded, initialised again, or a process is a child. -/

/-- New slots are not locked. -/
theorem p11provInitSlots_rwlock {A : SlotsAnswers} {s : Slots} (h : p11provInitSlots A = .ok s) :
    s.rwlock = {} := by
  unfold p11provInitSlots at h
  dsimp only at h
  split_ifs at h
  obtain rfl := Except.ok.inj h
  rfl

theorem moduleInit_rwlock (A : StatusAnswers) (c : ProvCtx) :
    (moduleInit A c).2.rwlock = c.rwlock ∨ (moduleInit A c).2.rwlock = {} := by
  unfold moduleInit
  dsimp only
  split_ifs
  iterate 6 exact .inl rfl
  cases hs : p11provInitSlots A.initSlots with
  | error ret => exact .inl rfl
  | ok s => exact .inr (p11provInitSlots_rwlock hs)

theorem moduleReinit_slots (A : StatusAnswers) (c : ProvCtx) :
    (moduleReinit A c).2.slots = c.slots := by
  unfold moduleReinit
  dsimp only
  split_ifs <;> rfl

/-! If the lock is free, it is free after it. -/

theorem moduleInit_free (h : c.rwlock = {}) : (moduleInit A c).2.rwlock = {} :=
  (moduleInit_rwlock A c).elim (·.trans h) id

theorem moduleReinit_free (h : c.rwlock = {}) : (moduleReinit A c).2.rwlock = {} := by
  rwa [ProvCtx.rwlock, moduleReinit_slots]

theorem forkChild_free (h : c.rwlock = {}) : (forkChild c).rwlock = {} := by
  unfold forkChild
  split
  · cases c.slots <;> simp [ProvCtx.rwlock]
  · exact h

/-! `p11prov_ctx_status`, by what it finds. -/

theorem ctxStatus_of_moduleInit (h : c.status = .uninitialized)
    (hret : (moduleInit A c).1 ≠ Ckr.ok) : ctxStatus b A c =
      ((moduleInit A c).1, { (moduleInit A c).2 with status := .inError }) := by
  simp only [ctxStatus, h]
  exact if_pos hret

theorem ctxStatus_of_init {c' : ProvCtx} (h : c.status = .uninitialized)
    (hinit : moduleInit A c = (Ckr.ok, c')) : ctxStatus b A c =
      ((operationsInitCtx b A c').1, { (operationsInitCtx b A c').2 with
        status := if (operationsInitCtx b A c').1 ≠ Ckr.ok then .inError else .initialized }) := by
  simp only [ctxStatus, h, hinit, ne_eq, not_true_eq_false, ↓reduceIte]
  split <;> rfl

theorem ctxStatus_of_reinit (h : c.status = .needsReinit) : ctxStatus b A c =
      ((moduleReinit A c).1, { (moduleReinit A c).2 with
        status := if (moduleReinit A c).1 ≠ Ckr.ok then .inError else .initialized }) := by
  simp only [ctxStatus, h]
  split <;> rfl

/-- A call in which a step fails, other than for memory, reports it. -/
theorem ctxStatus_of_stepFails (hm : HasMemory b c A) (hr : c.rwlock = {})
    (h : StepFails b A c) : (ctxStatus b A c).1 ≠ Ckr.ok ∧
      (ctxStatus b A c).2.status = .inError ∧ (ctxStatus b A c).2.rwlock = {} := by
  cases h with
  | moduleInit hst hret =>
    rw [ctxStatus_of_moduleInit hst hret]
    exact ⟨hret, rfl, moduleInit_free hr⟩
  | @takeSlots c' hst hinit hret =>
    have hr' : c'.rwlock = {} := by simpa only [hinit] using moduleInit_free (A := A) hr
    rw [ctxStatus_of_init hst hinit, operationsInitCtx_of_not_take hret, if_pos hret]
    exact ⟨hret, rfl, hr'⟩
  | register hst hinit htake hreg =>
    exact absurd (registers_iff.2 (hm hst _ hinit htake)) hreg
  | moduleReinit hst hret =>
    rw [ctxStatus_of_reinit hst, if_pos hret]
    exact ⟨hret, rfl, moduleReinit_free hr⟩

/-- A call in which no step fails gives the lock back, and changes the status only if it took all
    the steps. -/
theorem ctxStatus_of_not_stepFails (hr : c.rwlock = {}) (h : ¬StepFails b A c) :
    (ctxStatus b A c).2.rwlock = {} ∧ (Initializes b A c ∨ (ctxStatus b A c).2 = c) := by
  cases hst : c.status with
  | uninitialized =>
    have hret : (moduleInit A c).1 = Ckr.ok := by
      by_contra hret
      exact h (.moduleInit hst hret)
    have hr' := moduleInit_free (A := A) hr
    obtain ⟨c', hinit⟩ : ∃ c', moduleInit A c = (Ckr.ok, c') := ⟨_, Prod.ext hret rfl⟩
    rw [hinit] at hr'
    have htake : (takeSlots A.rdlock c').1 = Ckr.ok := by
      by_contra htake
      exact h (.takeSlots hst hinit htake)
    have hreg : Registers b A c' := by
      by_contra hreg
      exact h (.register hst hinit htake hreg)
    refine ⟨?_, .inl (.inl ⟨hst, c', hinit, htake, hreg⟩)⟩
    obtain ⟨tables, htables⟩ := hreg
    rw [ctxStatus_of_init hst hinit, (operationsInitCtx_of_take htake).2 tables htables]
    exact hr'
  | needsReinit =>
    have hret : (moduleReinit A c).1 = Ckr.ok := by
      by_contra hret
      exact h (.moduleReinit hst hret)
    rw [ctxStatus_of_reinit hst]
    exact ⟨moduleReinit_free hr, .inl (.inr ⟨hst, hret⟩)⟩
  | initialized | noDeinit | inError =>
    have hsame : (ctxStatus b A c).2 = c := by simp only [ctxStatus, hst]
    exact ⟨by rwa [hsame], .inr hsame⟩

theorem ctxStatus_of_inError (h : c.status = .inError) :
    ctxStatus b A c = (Ckr.generalError, c) := by
  simp only [ctxStatus, h]

/-- A call does what is expected if and only if it has the memory it needs: what `ADD_ALGO` returns
    for an entry that cannot be stored is the code of success. -/
theorem callSound_iff (hr : c.rwlock = {}) : CallSound b A c ↔ HasMemory b c A := by
  constructor
  · intro h hst c' hinit htake
    by_contra hroom
    have hreg : ¬Registers b A c' := fun hreg => hroom (registers_iff.1 hreg)
    apply (h.failed (.register hst hinit htake hreg)).1
    rw [ctxStatus_of_init hst hinit]
    exact (operationsInitCtx_of_take htake).1
  · intro hm
    by_cases h : StepFails b A c
    · have hfail := ctxStatus_of_stepFails hm hr h
      refine ⟨fun hs => ?_, fun _ => ⟨hfail.1, hfail.2.1⟩, fun he => ?_, hfail.2.2⟩
      · rw [hfail.2.1] at hs
        cases hs
      · rw [ctxStatus_of_inError he]
        exact ⟨show Ckr.generalError ≠ Ckr.ok by decide, rfl⟩
    · have hok := ctxStatus_of_not_stepFails hr h
      refine ⟨fun hs hne => ?_, fun hf => absurd hf h, fun he => ?_, hok.1⟩
      · rcases hok.2 with hinit | hsame
        · exact hinit
        · exact absurd (hsame ▸ hs) hne
      · rw [ctxStatus_of_inError he]
        exact ⟨show Ckr.generalError ≠ Ckr.ok by decide, rfl⟩

/-! ## Runs -/

/-- The lock on the slots is not held between calls. -/
theorem StatusStep.rwlock {c' : ProvCtx} (h : StatusStep b (HasMemory b) c c')
    (hr : c.rwlock = {}) : c'.rwlock = {} := by
  cases h with
  | ctxStatus A hok => exact ((callSound_iff hr).2 hok).released
  | forkParent => exact hr
  | forkChild => exact forkChild_free hr

/-- An error is there to stay. -/
theorem StatusStep.inError {ok : ProvCtx → StatusAnswers → Prop} {c' : ProvCtx}
    (h : StatusStep b ok c c') (he : c.status = .inError) : c'.status = .inError := by
  cases h with
  | ctxStatus A _ => rwa [ctxStatus_of_inError he]
  | forkParent => exact he
  | forkChild =>
    rw [P11Prov.forkChild, if_neg (by rw [he]; decide)]
    exact he

open Relation in
/-- In runs whose calls have the memory they need, the status machine does what is expected: a call
    does so if and only if it has that memory, and after an error every later call fails. -/
theorem status_machine {fips : Bool}
    (h : ReflTransGen (StatusStep b (HasMemory b)) { assumeFips := fips } c) :
    (∀ A, CallSound b A c ↔ HasMemory b c A) ∧
    (c.status = .inError → ∀ c', ReflTransGen (StatusStep b fun _ _ => True) c c' →
      ∀ A, (ctxStatus b A c').1 ≠ Ckr.ok) := by
  have hr : c.rwlock = {} := by
    induction h with
    | refl => rfl
    | tail _ hstep ih => exact hstep.rwlock ih
  refine ⟨fun A => callSound_iff hr, fun he c' hrun A => ?_⟩
  have he' : c'.status = .inError := by
    induction hrun with
    | refl => exact he
    | tail _ hstep ih => exact hstep.inError ih
  rw [ctxStatus_of_inError he']
  exact show Ckr.generalError ≠ Ckr.ok by decide

/-- A token with one slot, which offers SHA-1, for which all goes well but for the memory. -/
def sha1Answers (alloc : Alloc) : StatusAnswers where
  mutexLock := Ckr.ok
  dlopen := true
  interfaceInit := Ckr.ok
  cInitialize := Ckr.ok
  getInfo := (Ckr.ok, {})
  initSlots :=
    { sctx := true
      rwlockInit := true
      slotNum := (Ckr.ok, 1)
      slotid := true
      getSlotList := (Ckr.ok, [0])
      slots := true
      slot := fun _ =>
        { slot := true
          getSlotInfo := (Ckr.ok, Ckf.tokenPresent)
          getTokenInfo := Ckr.ok
          loginInfo := true
          sessionPoolInit := Ckr.ok
          objPoolInit := Ckr.ok
          mechsNum := (Ckr.ok, 1)
          mechs := true
          getMechanismList := (Ckr.ok, [Ckm.sha1]) } }
  rdlock := true
  alloc
  randomRdlock := true
  random := Ckr.ok

/-- A provider of a build with everything in it, in a process that was forked after the first
    call. -/
def forkedProvider : ProvCtx :=
  forkChild (ctxStatus { signMessage := true, skeySupport := true } (sha1Answers fun _ _ => true)
    {}).2

/-- The call after the fork does what is expected; if the module cannot be initialised again, that
    and all later calls fail. -/
theorem status_machine_forked :
    CallSound { signMessage := true, skeySupport := true } (sha1Answers fun _ _ => true)
      forkedProvider ∧
    ∀ A, (ctxStatus { signMessage := true, skeySupport := true } A
      (ctxStatus { signMessage := true, skeySupport := true }
        { sha1Answers (fun _ _ => true) with cInitialize := Ckr.generalError }
        forkedProvider).2).1 ≠ Ckr.ok := by
  let b : Build := { signMessage := true, skeySupport := true }
  let A := sha1Answers fun _ _ => true
  have hforked : Relation.ReflTransGen (StatusStep b (HasMemory b)) { assumeFips := false }
      forkedProvider :=
    .tail (.single (.ctxStatus A fun _ _ _ _ _ _ _ _ _ => rfl)) .forkChild
  have hstatus : forkedProvider.status = .needsReinit := by decide
  have hmem : ∀ A, HasMemory b forkedProvider A := fun A h => absurd h (by rw [hstatus]; decide)
  refine ⟨((status_machine hforked).1 A).2 (hmem A), ?_⟩
  have hfailed := hforked.tail (.ctxStatus { A with cInitialize := Ckr.generalError } (hmem _))
  exact (status_machine hfailed).2 (by decide) _ .refl

/-- Without the memory for the table of digests, the provider is initialised, and the slots stay
    locked. -/
theorem status_machine_noMemory :
    (ctxStatus { signMessage := true, skeySupport := true }
      (sha1Answers fun op _ => op ≠ .digest) {}).1 = Ckr.ok ∧
    (ctxStatus { signMessage := true, skeySupport := true }
      (sha1Answers fun op _ => op ≠ .digest) {}).2.status = .initialized ∧
    (ctxStatus { signMessage := true, skeySupport := true }
      (sha1Answers fun op _ => op ≠ .digest) {}).2.rwlock = { readers := 1 } ∧
    (ctxStatus { signMessage := true, skeySupport := true }
      (sha1Answers fun op _ => op ≠ .digest) {}).2.tables .digest = [] := by
  decide +kernel

end P11Prov
