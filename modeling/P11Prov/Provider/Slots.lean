import P11Prov.Run
import P11Prov.Provider.Status

/-!
# The slots of the module

`p11prov_init_slots` with what it keeps of each slot. It goes through the list of
the module, skips what it cannot use, and notes the first slot that a user can
log in to. What the calls and the allocator answer comes with each slot.

The status of the last call stays in `ret` when a slot is skipped, and an
allocation of no bytes yields `NULL`. So without a failure that ends it, the
function succeeds exactly if there is a slot and the last one was not skipped
with an error (`initsSlots_iff`).
-/

namespace P11Prov

/-- `CK_SLOT_INFO`, as far as it is kept. -/
structure CkSlotInfo where
  slotDescription : Bytes := []
  manufacturerID : Bytes := []
  flags : Flags
  deriving DecidableEq, Inhabited

/-- `CK_TOKEN_INFO`, as far as it is kept. -/
structure CkTokenInfo where
  label : Bytes := []
  manufacturerID : Bytes := []
  model : Bytes := []
  serialNumber : Bytes := []
  flags : Flags
  ulMaxSessionCount : Nat := 0
  deriving DecidableEq, Inhabited

/-- What `p11prov_session_pool_init` and `p11prov_obj_pool_init` need. -/
structure PoolReplies where
  alloc : Bool := true
  mutexInit : CkRv := Ckr.ok
  deriving DecidableEq, Inhabited

/-- `p11prov_session_pool_init` and `p11prov_obj_pool_init` -/
def PoolReplies.init (a : PoolReplies) : CkRv := if !a.alloc then Ckr.hostMemory else a.mutexInit

/-- What `p11prov_init_slots` is answered for a slot of the list. -/
structure SlotReplies where
  id : SlotId
  slot : Bool := true
  getSlotInfo : CkRv × CkSlotInfo
  getTokenInfo : CkRv × CkTokenInfo
  loginInfo : Bool := true
  sessionPool : PoolReplies := {}
  objPool : PoolReplies := {}
  mechsNum : CkRv × Nat
  mechs : Bool := true
  getMechanismList : CkRv × List Nat
  deriving DecidableEq, Inhabited

/-- What `p11prov_init_slots` is answered. -/
structure SlotsReplies where
  sctx : Bool := true
  rwlockInit : Bool := true
  slotNum : CkRv × Nat
  slotid : Bool := true
  getSlotList : CkRv × List SlotReplies
  slots : Bool := true

/-- What `p11prov_init_slots` keeps. -/
structure SlotsCtx where
  slots : List Slot := []
  defaultSlot : SlotId := ckUnavailableInformation

/-- An allocation: there is no block of no bytes. -/
def allocates (size : Nat) (answer : Bool) : Bool := size ≠ 0 && answer

namespace SlotReplies

variable (a : SlotReplies)

/-- `get_slot_mechanisms` -/
def getSlotMechanisms : List Nat :=
  if a.mechsNum.1 ≠ Ckr.ok then []
  else if !allocates (8 * a.mechsNum.2) a.mechs then []
  else if a.getMechanismList.1 ≠ Ckr.ok then []
  else a.getMechanismList.2

/-- The slot as it is kept. -/
def toSlot : Slot where
  id := a.id
  flags := a.getSlotInfo.2.flags
  slotDescription := trimPaddedField a.getSlotInfo.2.slotDescription
  slotManufacturer := trimPaddedField a.getSlotInfo.2.manufacturerID
  tokenFlags := a.getTokenInfo.2.flags
  ulMaxSessionCount := a.getTokenInfo.2.ulMaxSessionCount
  label := trimPaddedField a.getTokenInfo.2.label
  manufacturer := trimPaddedField a.getTokenInfo.2.manufacturerID
  model := trimPaddedField a.getTokenInfo.2.model
  serialNumber := trimPaddedField a.getTokenInfo.2.serialNumber
  mechs := a.getSlotMechanisms

end SlotReplies

/-- The test for the default slot. -/
def Slot.takesLogin (s : Slot) : Bool :=
  s.tokenFlags.has Ckf.loginRequired && s.tokenFlags.has Ckf.tokenInitialized &&
    !s.tokenFlags.has Ckf.userPinLocked

namespace SlotsCtx

/-- A slot is added, and is the default one if there is none so far. -/
def addSlot (sctx : SlotsCtx) (s : Slot) : SlotsCtx where
  slots := sctx.slots ++ [s]
  defaultSlot :=
    if sctx.defaultSlot = ckUnavailableInformation && s.takesLogin then s.id else sctx.defaultSlot

/-- The loop of `p11prov_init_slots`, with `ret`. -/
def initSlotsFrom : List SlotReplies → CkRv → SlotsCtx → CkRv × SlotsCtx
  | [], ret, sctx => (ret, sctx)
  | a :: l, _, sctx =>
    if !a.slot then (Ckr.hostMemory, sctx)
    else if a.getSlotInfo.1 ≠ Ckr.ok ∨ !a.getSlotInfo.2.flags.has Ckf.tokenPresent then
      initSlotsFrom l a.getSlotInfo.1 sctx
    else if a.getTokenInfo.1 ≠ Ckr.ok then initSlotsFrom l a.getTokenInfo.1 sctx
    else if !a.loginInfo then (Ckr.hostMemory, sctx)
    else if a.sessionPool.init ≠ Ckr.ok then (a.sessionPool.init, sctx)
    else if a.objPool.init ≠ Ckr.ok then (a.objPool.init, sctx)
    else initSlotsFrom l Ckr.ok (sctx.addSlot a.toSlot)

/-- `p11prov_init_slots` -/
def p11provInitSlots (A : SlotsReplies) : Except CkRv SlotsCtx :=
  if !A.sctx then .error Ckr.hostMemory
  else if !A.rwlockInit then .error Ckr.cantLock
  else if A.slotNum.1 ≠ Ckr.ok then .error A.slotNum.1
  else if 0x10000 < A.slotNum.2 then .error Ckr.generalError
  else if !allocates (8 * A.slotNum.2) A.slotid then .error Ckr.hostMemory
  else if A.getSlotList.1 ≠ Ckr.ok then .error A.getSlotList.1
  else if !allocates (8 * A.getSlotList.2.length) A.slots then .error Ckr.hostMemory
  else
    let (ret, sctx) := initSlotsFrom A.getSlotList.2 Ckr.ok {}
    if ret ≠ Ckr.ok then .error ret else .ok sctx

end SlotsCtx

/-! ## What is expected -/

namespace SlotReplies

variable (a : SlotReplies)

/-- A token is present in the slot, and both can be looked at. -/
def Usable : Prop :=
  a.getSlotInfo.1 = Ckr.ok ∧ a.getSlotInfo.2.flags.has Ckf.tokenPresent = true ∧
    a.getTokenInfo.1 = Ckr.ok

instance : Decidable a.Usable := inferInstanceAs (Decidable (_ ∧ _ ∧ _))

/-- No allocation and no lock fails for the slot. -/
structure NoFailure : Prop where
  slot : a.slot = true
  loginInfo : a.Usable → a.loginInfo = true
  sessionPool : a.Usable → a.sessionPool.init = Ckr.ok
  objPool : a.Usable → a.objPool.init = Ckr.ok

/-- What the last call for the slot returned. -/
def code : CkRv :=
  if a.getSlotInfo.1 ≠ Ckr.ok ∨ !a.getSlotInfo.2.flags.has Ckf.tokenPresent then a.getSlotInfo.1
  else a.getTokenInfo.1

end SlotReplies

namespace SlotsReplies

variable (A : SlotsReplies)

/-- No allocation and no lock fails, and the list of slots is had. -/
structure NoFailure : Prop where
  sctx : A.sctx = true
  rwlockInit : A.rwlockInit = true
  slotNum : A.slotNum.1 = Ckr.ok
  slotNum_le : A.slotNum.2 ≤ 0x10000
  slotid : A.slotid = true
  getSlotList : A.getSlotList.1 = Ckr.ok
  slots : A.slots = true
  slot : ∀ a ∈ A.getSlotList.2, a.NoFailure

/-- The slots that can be used, and the first of them that a user can log in to. -/
def expected : SlotsCtx :=
  let slots := (A.getSlotList.2.filter (·.Usable)).map (·.toSlot)
  { slots, defaultSlot := ((slots.find? (·.takesLogin)).map (·.id)).getD ckUnavailableInformation }

/-- The function succeeds if nothing fails that ends it, and what it keeps is what is expected. -/
structure InitsSlots : Prop where
  ok : A.NoFailure → ∃ sctx, SlotsCtx.p11provInitSlots A = .ok sctx
  expected : ∀ sctx, SlotsCtx.p11provInitSlots A = .ok sctx → sctx = A.expected

end SlotsReplies

/-! ## The loop -/

variable {a : SlotReplies} {l : List SlotReplies} {ret : CkRv} {sctx : SlotsCtx} {A : SlotsReplies}
  {slots : List Slot}

/-- A slot cannot be used if it is skipped, and then what is kept is that call's status. -/
theorem SlotReplies.usable_iff : a.Usable ↔
    ¬(a.getSlotInfo.1 ≠ Ckr.ok ∨ !a.getSlotInfo.2.flags.has Ckf.tokenPresent) ∧
      a.getTokenInfo.1 = Ckr.ok := by
  simp [Usable, and_assoc]

theorem SlotReplies.code_of_usable (h : a.Usable) : a.code = Ckr.ok := by
  obtain ⟨hskip, ht⟩ := SlotReplies.usable_iff.1 h
  rw [code, if_neg hskip, ht]

namespace SlotsCtx

theorem initSlotsFrom_skip (hslot : a.slot = true) (hu : ¬a.Usable) :
    initSlotsFrom (a :: l) ret sctx = initSlotsFrom l a.code sctx := by
  rw [initSlotsFrom, SlotReplies.code, if_neg (by simp [hslot])]
  by_cases hskip : a.getSlotInfo.1 ≠ Ckr.ok ∨ !a.getSlotInfo.2.flags.has Ckf.tokenPresent
  · rw [if_pos hskip, if_pos hskip]
  · have ht : a.getTokenInfo.1 ≠ Ckr.ok := fun ht => hu (SlotReplies.usable_iff.2 ⟨hskip, ht⟩)
    rw [if_neg hskip, if_neg hskip, if_pos ht]

theorem initSlotsFrom_use (h : a.NoFailure) (hu : a.Usable) :
    initSlotsFrom (a :: l) ret sctx = initSlotsFrom l Ckr.ok (sctx.addSlot a.toSlot) := by
  obtain ⟨hskip, ht⟩ := SlotReplies.usable_iff.1 hu
  rw [initSlotsFrom, if_neg hskip]
  simp [h.slot, ht, h.loginInfo hu, h.sessionPool hu, h.objPool hu]

/-- A failure ends the loop. -/
theorem initSlotsFrom_failed (h : (initSlotsFrom (a :: l) ret sctx).1 = Ckr.ok) : a.NoFailure := by
  have hmem : Ckr.hostMemory ≠ Ckr.ok := by decide
  rw [initSlotsFrom] at h
  by_cases hslot : a.slot = true
  · rw [if_neg (by simp [hslot])] at h
    by_cases hu : a.Usable
    · obtain ⟨hskip, ht⟩ := SlotReplies.usable_iff.1 hu
      rw [if_neg hskip, if_neg (not_not.2 ht)] at h
      by_cases hl : a.loginInfo = true
      · rw [if_neg (by simp [hl])] at h
        by_cases hs : a.sessionPool.init = Ckr.ok
        · rw [if_neg (not_not.2 hs)] at h
          by_cases ho : a.objPool.init = Ckr.ok
          · exact ⟨hslot, fun _ => hl, fun _ => hs, fun _ => ho⟩
          · rw [if_pos ho] at h
            exact absurd h ho
        · rw [if_pos hs] at h
          exact absurd h hs
      · rw [if_pos (by simp [hl])] at h
        exact absurd h hmem
    · exact ⟨hslot, fun h => absurd h hu, fun h => absurd h hu, fun h => absurd h hu⟩
  · rw [if_pos (by simp [hslot])] at h
    exact absurd h hmem

/-- What the loop leaves, where nothing fails: the slots that can be used, and the status of the
    last call. -/
theorem initSlotsFrom_eq (h : ∀ a ∈ l, a.NoFailure) :
    initSlotsFrom l ret sctx = ((l.getLast?.map (·.code)).getD ret,
      ((l.filter (·.Usable)).map (·.toSlot)).foldl addSlot sctx) := by
  induction l generalizing ret sctx with
  | nil => rfl
  | cons a l ih =>
    have ha := h a List.mem_cons_self
    have hrest := fun b hb => h b (List.mem_cons_of_mem a hb)
    have hlast : ((a :: l).getLast?.map (·.code)).getD ret = (l.getLast?.map (·.code)).getD a.code := by
      rw [List.getLast?_cons, Option.map_some, Option.getD_some]
      cases l.getLast? <;> rfl
    by_cases hu : a.Usable
    · rw [initSlotsFrom_use ha hu, ih hrest, hlast, SlotReplies.code_of_usable hu,
        List.filter_cons_of_pos (by simpa using hu), List.map_cons, List.foldl_cons]
    · rw [initSlotsFrom_skip ha.slot hu, ih hrest, hlast,
        List.filter_cons_of_neg (by simpa using hu)]

/-- Where the loop ends well, nothing failed. -/
theorem noFailure_of_initSlotsFrom (h : (initSlotsFrom l ret sctx).1 = Ckr.ok) :
    ∀ a ∈ l, a.NoFailure := by
  induction l generalizing ret sctx with
  | nil => simp
  | cons a l ih =>
    have ha := initSlotsFrom_failed h
    refine List.forall_mem_cons.2 ⟨ha, ?_⟩
    by_cases hu : a.Usable
    · rw [initSlotsFrom_use ha hu] at h
      exact ih h
    · rw [initSlotsFrom_skip ha.slot hu] at h
      exact ih h

/-- The slots are added in their order. The first that takes a login is the default, unless its id
    is the one that stands for none. -/
theorem foldl_addSlot : slots.foldl addSlot sctx =
    { slots := sctx.slots ++ slots
      defaultSlot :=
        if sctx.defaultSlot = ckUnavailableInformation then
          ((slots.find? fun s => s.takesLogin && s.id != ckUnavailableInformation).map (·.id)).getD
            ckUnavailableInformation
        else sctx.defaultSlot } := by
  induction slots generalizing sctx with
  | nil =>
    obtain ⟨slots, d⟩ := sctx
    by_cases hd : d = ckUnavailableInformation
    · simp [hd]
    · simp [hd]
  | cons s slots ih =>
    rw [List.foldl_cons, ih, addSlot, List.find?_cons]
    by_cases hd : sctx.defaultSlot = ckUnavailableInformation
    · by_cases hl : s.takesLogin = true
      · by_cases hid : s.id = ckUnavailableInformation
        · simp [hd, hl, hid]
        · have hne : (s.id != ckUnavailableInformation) = true := by simpa using hid
          simp [hd, hl, hid, hne]
      · simp [hd, hl]
    · simp [hd]

end SlotsCtx

/-! ## The function -/

/-- If the first slot that takes a login has the id that stands for none, so have the others. -/
def DefaultSound (slots : List Slot) : Prop :=
  ∀ s, slots.find? (·.takesLogin) = some s → s.id = ckUnavailableInformation →
    ∀ t ∈ slots, t.takesLogin = true → t.id = ckUnavailableInformation

/-- No slot that takes a login has an id of its own. -/
theorem find?_eq_unavailable :
    ((slots.find? fun s => s.takesLogin && s.id != ckUnavailableInformation).map (·.id)).getD
        ckUnavailableInformation = ckUnavailableInformation ↔
      ∀ t ∈ slots, t.takesLogin = true → t.id = ckUnavailableInformation := by
  cases hf : slots.find? fun s => s.takesLogin && s.id != ckUnavailableInformation with
  | none =>
    have hnone := List.find?_eq_none.1 hf
    simp only [Bool.and_eq_true, bne_iff_ne, not_and, not_not] at hnone
    exact ⟨fun _ => hnone, fun _ => rfl⟩
  | some s =>
    have hs := List.find?_some hf
    simp only [Bool.and_eq_true, bne_iff_ne] at hs
    exact ⟨fun h => absurd h hs.2, fun h => absurd (h s (List.mem_of_find?_eq_some hf) hs.1) hs.2⟩

theorem defaultSound_iff : DefaultSound slots ↔
    ((slots.find? fun s => s.takesLogin && s.id != ckUnavailableInformation).map (·.id)).getD
        ckUnavailableInformation =
      ((slots.find? (·.takesLogin)).map (·.id)).getD ckUnavailableInformation := by
  rw [DefaultSound]
  cases hf : slots.find? (·.takesLogin) with
  | none =>
    have hnone := List.find?_eq_none.1 hf
    refine ⟨fun _ => find?_eq_unavailable.2 fun t ht hl => absurd hl (hnone t ht), fun _ => ?_⟩
    exact fun s hs => absurd hs (by simp)
  | some s =>
    by_cases hid : s.id = ckUnavailableInformation
    · rw [Option.map_some, Option.getD_some, hid, find?_eq_unavailable]
      exact ⟨fun h => h s rfl hid, fun h _ _ _ => h⟩
    · -- the slot is found by both tests
      obtain ⟨hl, before, after, rfl, hb⟩ := List.find?_eq_some_iff_append.1 hf
      have hfirst : (before ++ s :: after).find?
          (fun s => s.takesLogin && s.id != ckUnavailableInformation) = some s := by
        refine List.find?_eq_some_iff_append.2 ⟨by simpa [hl] using hid, before, after, rfl, ?_⟩
        intro t ht
        have hl' := hb t ht
        simp only [Bool.not_eq_true'] at hl'
        simp [hl']
      rw [hfirst]
      refine ⟨fun _ => rfl, fun _ t ht hu => ?_⟩
      rw [← Option.some.inj ht] at hu
      exact absurd hu hid

namespace SlotsReplies

/-- There is a slot, the last one is not skipped with an error, and there is no doubt about the
    default slot. -/
structure Fits (A : SlotsReplies) : Prop where
  slotNum : A.slotNum.2 ≠ 0
  nonempty : A.getSlotList.2 ≠ []
  last : ∀ a ∈ A.getSlotList.2.getLast?, a.code = Ckr.ok
  default : DefaultSound A.expected.slots

theorem initSlotsFrom_expected (h : A.NoFailure) :
    SlotsCtx.initSlotsFrom A.getSlotList.2 Ckr.ok {} =
      ((A.getSlotList.2.getLast?.map (·.code)).getD Ckr.ok, { A.expected with
        defaultSlot := ((A.expected.slots.find? fun s =>
          s.takesLogin && s.id != ckUnavailableInformation).map (·.id)).getD
            ckUnavailableInformation }) := by
  rw [SlotsCtx.initSlotsFrom_eq h.slot, SlotsCtx.foldl_addSlot]
  rfl

/-- What the function returns, where nothing fails that ends it. -/
theorem p11provInitSlots_eq (h : A.NoFailure) : SlotsCtx.p11provInitSlots A =
    if A.slotNum.2 = 0 ∨ A.getSlotList.2 = [] then .error Ckr.hostMemory
    else if (A.getSlotList.2.getLast?.map (·.code)).getD Ckr.ok ≠ Ckr.ok then
      .error ((A.getSlotList.2.getLast?.map (·.code)).getD Ckr.ok)
    else .ok { A.expected with
      defaultSlot := ((A.expected.slots.find? fun s =>
        s.takesLogin && s.id != ckUnavailableInformation).map (·.id)).getD
          ckUnavailableInformation } := by
  rw [SlotsCtx.p11provInitSlots]
  simp only [h.sctx, h.rwlockInit, h.slotNum, Nat.not_lt.2 h.slotNum_le, h.slotid, h.getSlotList,
    h.slots, initSlotsFrom_expected h, allocates]
  by_cases h0 : A.slotNum.2 = 0
  · simp [h0]
  · by_cases hnil : A.getSlotList.2 = []
    · simp [h0, hnil]
    · simp [h0, hnil]

/-- Where the function succeeds, nothing failed. -/
theorem noFailure_of_ok {s : SlotsCtx} (h : SlotsCtx.p11provInitSlots A = .ok s) : A.NoFailure := by
  have herr : ∀ {b : Bool} {e : CkRv} {r : Except CkRv SlotsCtx},
      (if !b then .error e else r) = .ok s → b = true ∧ r = .ok s := by
    rintro (_ | _) e r hr
    · cases hr
    · exact ⟨rfl, hr⟩
  have herr' : ∀ {p : Prop} [Decidable p] {e : CkRv} {r : Except CkRv SlotsCtx},
      (if p then .error e else r) = .ok s → ¬p ∧ r = .ok s := by
    intro p _ e r hr
    by_cases hp : p
    · rw [if_pos hp] at hr
      cases hr
    · exact ⟨hp, by rwa [if_neg hp] at hr⟩
  rw [SlotsCtx.p11provInitSlots] at h
  obtain ⟨hsctx, h⟩ := herr h
  obtain ⟨hlock, h⟩ := herr h
  obtain ⟨hnum, h⟩ := herr' h
  obtain ⟨hle, h⟩ := herr' h
  obtain ⟨hid, h⟩ := herr h
  obtain ⟨hlist, h⟩ := herr' h
  obtain ⟨hslots, h⟩ := herr h
  obtain ⟨hret, -⟩ := herr' h
  simp only [allocates, Bool.and_eq_true] at hid hslots
  exact ⟨hsctx, hlock, not_not.1 hnum, Nat.le_of_not_lt hle, hid.2, not_not.1 hlist, hslots.2,
    SlotsCtx.noFailure_of_initSlotsFrom (not_not.1 hret)⟩

end SlotsReplies

/-- The function does what is expected exactly if, unless something fails that ends it, there is a
    slot, the last one is not skipped with an error, and there is no doubt about the default
    slot. -/
theorem initsSlots_iff : A.InitsSlots ↔ (A.NoFailure → A.Fits) := by
  constructor
  · rintro ⟨hok, hexp⟩ h
    obtain ⟨s, hs⟩ := hok h
    have he := SlotsReplies.p11provInitSlots_eq h
    rw [hexp s hs] at hs
    rw [hs] at he
    by_cases h0 : A.slotNum.2 = 0 ∨ A.getSlotList.2 = []
    · rw [if_pos h0] at he
      cases he
    · by_cases hl : (A.getSlotList.2.getLast?.map (·.code)).getD Ckr.ok ≠ Ckr.ok
      · rw [if_neg h0, if_pos hl] at he
        cases he
      · rw [if_neg h0, if_neg hl, Except.ok.injEq] at he
        refine ⟨fun h => h0 (.inl h), fun h => h0 (.inr h), fun a ha => ?_, ?_⟩
        · rw [Option.mem_def.1 ha] at hl
          exact not_not.1 hl
        · exact defaultSound_iff.2 (congrArg SlotsCtx.defaultSlot he).symm
  · intro hfits
    have hresult : A.NoFailure → SlotsCtx.p11provInitSlots A = .ok A.expected := by
      intro h
      obtain ⟨hnum, hne, hlast, hdefault⟩ := hfits h
      have hcode : ¬(A.getSlotList.2.getLast?.map (·.code)).getD Ckr.ok ≠ Ckr.ok := by
        cases hl : A.getSlotList.2.getLast? with
        | none => simp
        | some a => exact not_not.2 (hlast a hl)
      rw [SlotsReplies.p11provInitSlots_eq h, if_neg (by simp [hnum, hne]), if_neg hcode,
        defaultSound_iff.1 hdefault]
      rfl
    refine ⟨fun h => ⟨_, hresult h⟩, fun s hs => ?_⟩
    have he := hresult (SlotsReplies.noFailure_of_ok hs)
    rw [hs] at he
    exact Except.ok.inj he

/-! ## The mechanisms only -/

/-- The answers, as far as the status of the provider depends on them. -/
def SlotReplies.answers (a : SlotReplies) : SlotAnswers where
  slot := a.slot
  getSlotInfo := (a.getSlotInfo.1, a.getSlotInfo.2.flags)
  getTokenInfo := a.getTokenInfo.1
  loginInfo := a.loginInfo
  sessionPoolInit := a.sessionPool.init
  objPoolInit := a.objPool.init
  mechsNum := a.mechsNum
  mechs := allocates (8 * a.mechsNum.2) a.mechs
  getMechanismList := a.getMechanismList

/-- The answers, as far as the status of the provider depends on them. -/
def SlotsReplies.answers (A : SlotsReplies) : SlotsAnswers where
  sctx := A.sctx
  rwlockInit := A.rwlockInit
  slotNum := A.slotNum
  slotid := allocates (8 * A.slotNum.2) A.slotid
  getSlotList := (A.getSlotList.1, A.getSlotList.2.map (·.id))
  slots := allocates (8 * A.getSlotList.2.length) A.slots
  slot i := (A.getSlotList.2[i]?.getD default).answers

theorem initSlotsFrom_mechs {f : Nat → SlotAnswers} {i : Nat}
    (hf : ∀ j a, l[j]? = some a → f (i + j) = a.answers) :
    P11Prov.initSlotsFrom f i (l.map (·.id)) ret (sctx.slots.map (·.mechs)) =
      ((SlotsCtx.initSlotsFrom l ret sctx).1,
        (SlotsCtx.initSlotsFrom l ret sctx).2.slots.map (·.mechs)) := by
  induction l generalizing i ret sctx with
  | nil => rfl
  | cons a l ih =>
    have ha : f i = a.answers := hf 0 a rfl
    have hrest : ∀ ret sctx, P11Prov.initSlotsFrom f (i + 1) (l.map (·.id)) ret
        (sctx.slots.map (·.mechs)) = ((SlotsCtx.initSlotsFrom l ret sctx).1,
          (SlotsCtx.initSlotsFrom l ret sctx).2.slots.map (·.mechs)) := by
      refine fun ret sctx => ih fun j b hb => ?_
      rw [Nat.add_right_comm]
      exact hf (j + 1) b hb
    have hadd : sctx.slots.map (·.mechs) ++ [P11Prov.getSlotMechanisms a.answers] =
        (sctx.addSlot a.toSlot).slots.map (·.mechs) := by
      rw [SlotsCtx.addSlot, List.map_append]
      rfl
    rw [List.map_cons, P11Prov.initSlotsFrom, SlotsCtx.initSlotsFrom, ha, hrest, hrest, hadd, hrest]
    have hskip : (a.answers.getSlotInfo.1 ≠ Ckr.ok ∨ a.answers.getSlotInfo.2 &&& Ckf.tokenPresent = 0) ↔
        (a.getSlotInfo.1 ≠ Ckr.ok ∨ !a.getSlotInfo.2.flags.has Ckf.tokenPresent) := by
      simp [Flags.has, SlotReplies.answers]
    by_cases h₁ : !a.slot
    · rw [if_pos h₁, if_pos (show !a.answers.slot from h₁)]
    · rw [if_neg h₁, if_neg (show ¬!a.answers.slot from h₁)]
      by_cases h₂ : a.getSlotInfo.1 ≠ Ckr.ok ∨ !a.getSlotInfo.2.flags.has Ckf.tokenPresent
      · rw [if_pos h₂, if_pos (hskip.2 h₂)]
        rfl
      · rw [if_neg h₂, if_neg (hskip.not.2 h₂)]
        by_cases h₃ : a.getTokenInfo.1 ≠ Ckr.ok
        · rw [if_pos h₃, if_pos (show a.answers.getTokenInfo ≠ Ckr.ok from h₃)]
          rfl
        · rw [if_neg h₃, if_neg (show ¬a.answers.getTokenInfo ≠ Ckr.ok from h₃)]
          by_cases h₄ : !a.loginInfo
          · rw [if_pos h₄, if_pos (show !a.answers.loginInfo from h₄)]
          · rw [if_neg h₄, if_neg (show ¬!a.answers.loginInfo from h₄)]
            by_cases h₅ : a.sessionPool.init ≠ Ckr.ok
            · rw [if_pos h₅, if_pos (show a.answers.sessionPoolInit ≠ Ckr.ok from h₅)]
              rfl
            · rw [if_neg h₅, if_neg (show ¬a.answers.sessionPoolInit ≠ Ckr.ok from h₅)]
              by_cases h₆ : a.objPool.init ≠ Ckr.ok
              · rw [if_pos h₆, if_pos (show a.answers.objPoolInit ≠ Ckr.ok from h₆)]
                rfl
              · rw [if_neg h₆, if_neg (show ¬a.answers.objPoolInit ≠ Ckr.ok from h₆)]

/-- Of the slots that are found, the status of the provider depends on the mechanisms. -/
theorem p11provInitSlots_mechs : P11Prov.p11provInitSlots A.answers =
    (SlotsCtx.p11provInitSlots A).map fun s => { mechs := s.slots.map (·.mechs) } := by
  have hloop : P11Prov.initSlotsFrom A.answers.slot 0 (A.getSlotList.2.map (·.id)) Ckr.ok [] =
      ((SlotsCtx.initSlotsFrom A.getSlotList.2 Ckr.ok {}).1,
        (SlotsCtx.initSlotsFrom A.getSlotList.2 Ckr.ok {}).2.slots.map (·.mechs)) := by
    have hnil : ([] : List (List Nat)) = ({} : SlotsCtx).slots.map (·.mechs) := rfl
    rw [hnil]
    refine initSlotsFrom_mechs fun j a ha => ?_
    rw [Nat.zero_add, SlotsReplies.answers]
    exact congrArg (fun a => (Option.getD a default).answers) ha
  rw [P11Prov.p11provInitSlots, SlotsCtx.p11provInitSlots]
  change _ = Except.map _ _
  simp only [SlotsReplies.answers] at hloop ⊢
  simp only [hloop, gt_iff_lt]
  split_ifs <;> rfl

/-! ## Concrete lists -/

/-- What a module answers for a slot with a token that takes a login. -/
def goodSlot (id : SlotId) : SlotReplies where
  id
  getSlotInfo := (Ckr.ok, { flags := Ckf.tokenPresent })
  getTokenInfo := (Ckr.ok, { flags := Ckf.loginRequired ||| Ckf.tokenInitialized })
  mechsNum := (Ckr.ok, 1)
  getMechanismList := (Ckr.ok, [Ckm.sha1])

/-- What a module answers for a slot whose token is gone when it is asked about. -/
def badSlot (id : SlotId) : SlotReplies :=
  { goodSlot id with getTokenInfo := (Ckr.generalError, { flags := 0 }) }

/-- The answers of a module with these slots. -/
def slotsOf (l : List SlotReplies) : SlotsReplies where
  slotNum := (Ckr.ok, l.length)
  getSlotList := (Ckr.ok, l)

/-- A bad slot before a good one does no harm. -/
theorem initsSlots_goodLast : (slotsOf [badSlot 3, goodSlot 5]).InitsSlots := by
  refine initsSlots_iff.2 fun _ => ⟨by decide, by decide, ?_, ?_⟩
  · rintro a ⟨⟩
    decide
  · rintro s ⟨⟩ hid
    exact absurd hid (by decide)

/-- A bad slot after a good one makes the function fail. -/
theorem initSlots_badLast : ¬∀ A : SlotsReplies, A.InitsSlots := by
  intro h
  have hfail : ∀ a ∈ [goodSlot 5, badSlot 3], a.NoFailure := by
    refine List.forall_mem_cons.2 ⟨?_, List.forall_mem_cons.2 ⟨?_, by simp⟩⟩
    all_goals exact ⟨rfl, fun _ => rfl, fun _ => rfl, fun _ => rfl⟩
  obtain ⟨sctx, hs⟩ := (h (slotsOf [goodSlot 5, badSlot 3])).ok
    ⟨rfl, rfl, rfl, by decide, rfl, rfl, rfl, hfail⟩
  have hret : SlotsCtx.p11provInitSlots (slotsOf [goodSlot 5, badSlot 3]) =
      .error Ckr.generalError := rfl
  rw [hret] at hs
  cases hs

end P11Prov
