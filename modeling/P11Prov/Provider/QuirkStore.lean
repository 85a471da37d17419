import Mathlib.Algebra.Group.Nat.Defs
import Mathlib.Data.List.OfFn
import Mathlib.Logic.Function.Basic
import P11Prov.Pkcs11

/-!
# The store of the quirks

The context keeps what it finds out about the slots in an array of quirks, each
of them a value for the id of a slot and a name. A value that fits a `CK_ULONG` is in
the entry itself, in the same place where the pointer to a larger one is. Memory
is from addresses to blocks, and what a call gets from outside (memory, locks)
is an argument of it. A step that is not defined in C has no result.

The store is meant to be a map (`QuirkMap`). It is one as long as there is one
pair in it: the number of entries counts how often the array grew, so what is set for
another pair is not found again. And a large value can replace a small one only
if that is zero, since the small one is then released as if it were a pointer
(`QuirkFits`).
-/

namespace P11Prov

/-! ## The array -/

/-- `sizeof(CK_ULONG)`, which is that of a pointer as well. -/
abbrev sizeofUlong : Nat := 8

/-- The bytes of a null pointer. -/
def nullWord : Bytes := List.replicate sizeofUlong 0

/-- The blocks of memory by their addresses, which are words. -/
abbrev Blocks := Bytes → Option Bytes

/-- `struct quirk`. `data` has the bytes of the union: the value, or its address. -/
structure StoredQuirk where
  id : SlotId := 0
  name : Option Bytes := none
  data : Bytes := nullWord
  size : Nat := 0

/-- The array as it is allocated, and the number of its entries. -/
structure QuirkStore where
  nquirks : Nat := 0
  quirks : List StoredQuirk := []
  heap : Blocks := fun _ => none

/-- What a call gets: whether there is memory for the name, the block for the value if there is
    memory for it, whether the locks are taken, and whether the array can grow. -/
structure QuirkEnv where
  strdup : Bool := true
  malloc : Option Bytes := none
  rdlock : Bool := true
  wrlock : Bool := true
  realloc : Bool := true

/-- A block is new, and has an address. -/
def QuirkEnv.Ok (env : QuirkEnv) (st : QuirkStore) : Prop :=
  ∀ ptr, env.malloc = some ptr → ptr ≠ nullWord ∧ st.heap ptr = none

/-- Whether an entry is that of a slot and a name. -/
def StoredQuirk.matches (q : StoredQuirk) (id : SlotId) (name : Bytes) : Bool :=
  q.id = id ∧ q.name = some name

/-- The bytes that an entry has for its value. -/
def StoredQuirk.value (q : StoredQuirk) (heap : Blocks) : Option Bytes :=
  if sizeofUlong < q.size then do
    let block ← heap q.data
    if block.length < q.size then none else some (block.take q.size)
  else some (q.data.take q.size)

/-- `p11prov_ctx_get_quirk`: the status, the bytes that are copied, if any, and the size that is
    returned. `wanted` if the caller asks for the data, `size` the size of its buffer. -/
def getQuirk (st : QuirkStore) (id : SlotId) (name : Bytes) (wanted : Bool) (size : Nat)
    (env : QuirkEnv) : Option (CkRv × Option Bytes × Nat) :=
  if ¬env.rdlock then some (Ckr.cantLock, none, size)
  else
    match (st.quirks.take st.nquirks).find? (·.matches id name) with
    | none => some (Ckr.ok, none, size)
    | some q =>
      -- return only if requested and if ancillary data exists
      if wanted ∧ 0 < q.size then
        if size = 0 ∧ env.malloc = none then some (Ckr.hostMemory, none, size)
        else if size ≠ 0 ∧ size < q.size then some (Ckr.bufferTooSmall, none, size)
        else (q.value st.heap).map fun val => (Ckr.ok, some val, q.size)
      else some (Ckr.ok, none, size)

/-- `OPENSSL_clear_free` -/
def clearFree (heap : Blocks) (ptr : Bytes) : Option Blocks :=
  if ptr = nullWord then some heap
  else if (heap ptr).isSome then some (Function.update heap ptr none)
  else none

/-- A value that fits, in its place. -/
def inlineWord (data : Bytes) : Bytes := data ++ List.replicate (sizeofUlong - data.length) 0

/-- The copy of the value: what goes into the entry for it. -/
def placeData (heap : Blocks) (data : Bytes) (malloc : Option Bytes) : Option (Blocks × Bytes) :=
  if sizeofUlong < data.length then malloc.map fun ptr => (Function.update heap ptr (some data), ptr)
  else some (heap, inlineWord data)

/-- What is to be released, if `word` stands for a value of the given size that was not stored, or is
    swapped against one. -/
def pendingWord (size : Nat) (word : Bytes) : Bytes := if sizeofUlong < size then word else nullWord

/-- An entry is assigned; its old data is what is to be released. -/
def assignQuirk (st : QuirkStore) (i : Nat) (id : SlotId) (name word : Bytes) (size : Nat) :
    Option (CkRv × QuirkStore × Bytes) :=
  st.quirks[i]?.map fun old =>
    (Ckr.ok, { st with quirks := st.quirks.set i ⟨id, some name, word, size⟩ },
      pendingWord size old.data)

/-- `QUIRK_ALLOC` -/
abbrev quirkAlloc : Nat := 4

/-- What `p11prov_ctx_set_quirk` does while it holds the lock. -/
def storeQuirk (st : QuirkStore) (id : SlotId) (name word : Bytes) (size : Nat) (realloc : Bool) :
    Option (CkRv × QuirkStore × Bytes) :=
  -- first see if we are replacing quirk data
  let i := (st.quirks.take st.nquirks).findIdx (·.matches id name)
  if i < st.nquirks ∨ st.nquirks % quirkAlloc ≠ 0 then assignQuirk st i id name word size
  else if ¬realloc then some (Ckr.hostMemory, st, pendingWord size word)
  -- as many bytes as are allocated are cleared from the first new entry on
  else if st.nquirks ≠ 0 then none
  else assignQuirk { st with
      nquirks := st.nquirks + 1
      quirks := st.quirks.take st.nquirks ++ List.replicate quirkAlloc {} } st.nquirks id name word size

/-- The same, if the lock is taken. -/
def storeQuirkLocked (st : QuirkStore) (id : SlotId) (name word : Bytes) (size : Nat) (env : QuirkEnv) :
    Option (CkRv × QuirkStore × Bytes) :=
  if env.wrlock then storeQuirk st id name word size env.realloc
  else some (Ckr.cantLock, st, pendingWord size word)

/-- `p11prov_ctx_set_quirk` -/
def setQuirk (st : QuirkStore) (id : SlotId) (name data : Bytes) (env : QuirkEnv) :
    Option (CkRv × QuirkStore) :=
  if ¬env.strdup then some (Ckr.hostMemory, st)
  else
    match placeData st.heap data env.malloc with
    | none => some (Ckr.hostMemory, st)
    | some (heap, word) => do
      let (ret, st, pending) ← storeQuirkLocked { st with heap } id name word data.length env
      let heap ← clearFree st.heap pending
      return (ret, { st with heap })

/-! ## Attributes that tokens support -/

/-- `CKA_ALLOWED_MECHANISMS` as a word. -/
abbrev ckaAllowedMechanismsWord : BitVec 64 := 0x40000600

/-- A digit of `%lx`. -/
def hexLower (n : Nat) : UInt8 := if n < 10 then 0x30 + n.toUInt8 else 0x57 + n.toUInt8

/-- `%016lx` -/
def hexWord (attr : BitVec 64) : Bytes :=
  List.ofFn fun i : Fin 16 => hexLower (attr.toNat / 16 ^ (15 - i.val) % 16)

/-- The name of the quirk for an attribute. -/
def supAttrName (attr : BitVec 64) : Bytes :=
  if attr = ckaAllowedMechanismsWord then ascii "sup_attr_CKA_ALLOWED_MECHANISMS"
  else ascii "sup_attr_" ++ hexWord attr

/-- `GET_ATTR` -/
abbrev getAttrAction : Nat := 0
/-- `SET_ATTR` -/
abbrev setAttrAction : Nat := 1

/-- `p11prov_token_sup_attr`: the status, what is in `*data` afterwards, and the store. -/
def tokenSupAttr (noAllowedMechanisms : Bool) (st : QuirkStore) (id : SlotId) (action : Nat)
    (attr : BitVec 64) (data : UInt8) (env : QuirkEnv) : Option (CkRv × UInt8 × QuirkStore) :=
  if attr = ckaAllowedMechanismsWord ∧ noAllowedMechanisms then
    some (Ckr.ok, if action = getAttrAction then 0 else data, st)
  else if action = getAttrAction then do
    let (ret, val, _) ← getQuirk st id (supAttrName attr) true 1 env
    return (ret, (val.bind (·.head?)).getD data, st)
  else if action = setAttrAction then do
    let (ret, st) ← setQuirk st id (supAttrName attr) [data] env
    return (ret, data, st)
  else some (Ckr.argumentsBad, data, st)

/-! ## The map -/

/-- What the store is for: the value that was last set for a slot and a name. -/
abbrev QuirkMap := SlotId → Bytes → Option Bytes

/-- Nothing was set. -/
def QuirkMap.empty : QuirkMap := fun _ _ => none

/-- A value is set. -/
def QuirkMap.set (m : QuirkMap) (id : SlotId) (name data : Bytes) : QuirkMap :=
  fun id' name' => if id' = id ∧ name' = name then some data else m id' name'

/-- A call that returned `rv` sets its value if it succeeded. -/
def QuirkMap.after (m : QuirkMap) (rv : CkRv) (id : SlotId) (name data : Bytes) : QuirkMap :=
  if rv = Ckr.ok then m.set id name data else m

variable {st st' : QuirkStore} {m : QuirkMap} {q : StoredQuirk} {id : SlotId}
  {name data v ptr word : Bytes} {heap : Blocks} {env : QuirkEnv} {rv : CkRv}

/-- The entry has the value, in itself or at its address. -/
def StoredQuirk.Holds (q : StoredQuirk) (heap : Blocks) (v : Bytes) : Prop :=
  q.size = v.length ∧
    if sizeofUlong < v.length then q.data ≠ nullWord ∧ heap q.data = some v else q.data = inlineWord v

/-- The store is the map: it is empty, or it has one entry for the one pair that was set. -/
def QuirkStore.Refines (st : QuirkStore) (m : QuirkMap) : Prop :=
  (st.nquirks = 0 ∧ m = .empty) ∨
    ∃ q rest name v, st.nquirks = 1 ∧ st.quirks = q :: rest ∧ q.name = some name ∧
      m = QuirkMap.set .empty q.id name v ∧ q.Holds st.heap v

/-- The call fails, as there is no memory or no lock for it. -/
def QuirkEnv.Fails (env : QuirkEnv) (m : QuirkMap) (data : Bytes) : Prop :=
  env.strdup = false ∨ (sizeofUlong < data.length ∧ env.malloc = none) ∨ env.wrlock = false ∨
    (m = .empty ∧ env.realloc = false)

/-- The call fails; or no other pair was set, and if a large value replaces a small one, that is
    zero. -/
def QuirkFits (m : QuirkMap) (id : SlotId) (name data : Bytes) (env : QuirkEnv) : Prop :=
  env.Fails m data ∨
    (∀ id' name', m id' name' ≠ none → id' = id ∧ name' = name) ∧
      (sizeofUlong < data.length → ∀ v, m id name = some v → v.length ≤ sizeofUlong → ∀ b ∈ v, b = 0)

/-! ## Setting a value -/

theorem clearFree_nullWord : clearFree heap nullWord = some heap := if_pos rfl

theorem clearFree_block (hptr : ptr ≠ nullWord) (h : heap ptr = some v) :
    clearFree heap ptr = some (Function.update heap ptr none) := by
  rw [clearFree, if_neg hptr, h]
  rfl

/-- A copy that is released at once leaves nothing behind. -/
theorem clearFree_placed (henv : ptr ≠ nullWord ∧ heap ptr = none) :
    clearFree (Function.update heap ptr (some data)) ptr = some heap := by
  rw [clearFree_block henv.1 (Function.update_self ..), Function.update_idem, ← henv.2,
    Function.update_eq_self]

/-- The copy of a value that is not stored is released again. -/
theorem clearFree_pending (henv : env.Ok st) (h : placeData st.heap data env.malloc = some (heap, word)) :
    clearFree heap (pendingWord data.length word) = some st.heap := by
  rw [placeData] at h
  rw [pendingWord]
  split at h
  · rename_i hlarge
    rw [Option.map_eq_some_iff] at h
    obtain ⟨ptr, hptr, he⟩ := h
    obtain ⟨rfl, rfl⟩ := Prod.mk.inj he
    rw [if_pos hlarge, clearFree_placed (henv ptr hptr)]
  · rename_i hsmall
    obtain ⟨rfl, rfl⟩ := Prod.mk.inj (Option.some.inj h)
    rw [if_neg hsmall, clearFree_nullWord]

theorem assignQuirk_ok {left : Bytes} {i size : Nat}
    (h : assignQuirk st i id name word size = some (rv, st', left)) : rv = Ckr.ok := by
  rw [assignQuirk, Option.map_eq_some_iff] at h
  obtain ⟨old, -, he⟩ := h
  exact (Prod.mk.inj he).1.symm

/-- While the lock is held, only the array can fail to grow; the copy is to be released then. -/
theorem storeQuirkLocked_fails {left : Bytes} {size : Nat}
    (h : storeQuirkLocked st id name word size env = some (rv, st', left)) (hrv : rv ≠ Ckr.ok) :
    st' = st ∧ left = pendingWord size word := by
  have hkept : ∀ {ret}, some (ret, st, pendingWord size word) = some (rv, st', left) →
      st' = st ∧ left = pendingWord size word := by
    intro ret he
    simp only [Option.some.injEq, Prod.mk.injEq] at he
    exact ⟨he.2.1.symm, he.2.2.symm⟩
  rw [storeQuirkLocked] at h
  split at h
  case isFalse => exact hkept h
  rw [storeQuirk] at h
  split at h
  · exact absurd (assignQuirk_ok h) hrv
  split at h
  · exact hkept h
  split at h
  · cases h
  · exact absurd (assignQuirk_ok h) hrv

/-- A call that has its copy stores it, and releases what is left. -/
theorem setQuirk_placed (hstrdup : env.strdup = true)
    (hplace : placeData st.heap data env.malloc = some (heap, word)) :
    setQuirk st id name data env =
      (storeQuirkLocked { st with heap } id name word data.length env).bind fun r =>
        (clearFree r.2.1.heap r.2.2).map fun heap => (r.1, { r.2.1 with heap }) := by
  rw [setQuirk, if_neg (by simp [hstrdup]), hplace]
  refine Option.bind_congr fun r _ => ?_
  rw [Option.map_eq_bind]
  rfl

/-- A call that fails leaves the store as it was. -/
theorem setQuirk_fails (henv : env.Ok st) (h : setQuirk st id name data env = some (rv, st'))
    (hrv : rv ≠ Ckr.ok) : st' = st := by
  by_cases hstrdup : env.strdup = true
  case neg =>
    rw [setQuirk, if_pos hstrdup] at h
    exact (Prod.mk.inj (Option.some.inj h)).2.symm
  cases hplace : placeData st.heap data env.malloc with
  | none =>
    rw [setQuirk, if_neg (by simp [hstrdup]), hplace] at h
    exact (Prod.mk.inj (Option.some.inj h)).2.symm
  | some p =>
    obtain ⟨heap, word⟩ := p
    rw [setQuirk_placed hstrdup hplace, Option.bind_eq_some_iff] at h
    obtain ⟨⟨ret, st₁, left⟩, hstore, h⟩ := h
    rw [Option.map_eq_some_iff] at h
    obtain ⟨heap', hfree, he⟩ := h
    obtain ⟨rfl, rfl⟩ := Prod.mk.inj he
    obtain ⟨rfl, rfl⟩ := storeQuirkLocked_fails hstore hrv
    rw [clearFree_pending henv hplace] at hfree
    rw [← Option.some.inj hfree]

/-- The array of the first growth. -/
def newQuirks (id : SlotId) (name word : Bytes) (size : Nat) : List StoredQuirk :=
  ⟨id, some name, word, size⟩ :: List.replicate (quirkAlloc - 1) {}

theorem storeQuirk_first (h : st.nquirks = 0) {size : Nat} :
    storeQuirk st id name word size true =
      some (Ckr.ok, { st with nquirks := 1, quirks := newQuirks id name word size }, nullWord) := by
  rw [storeQuirk, h]
  simp [assignQuirk, pendingWord, newQuirks, List.replicate]

theorem storeQuirk_replace {rest : List StoredQuirk} {size : Nat} {realloc : Bool}
    (hn : st.nquirks = 1) (hq : st.quirks = q :: rest) (hmatches : q.matches id name = true) :
    storeQuirk st id name word size realloc =
      some (Ckr.ok, { st with quirks := ⟨id, some name, word, size⟩ :: rest },
        pendingWord size q.data) := by
  rw [storeQuirk, hn, hq]
  simp [hmatches, assignQuirk, hq, hn]

theorem inlineWord_zero (hlen : v.length ≤ sizeofUlong) (h : ∀ b ∈ v, b = 0) :
    inlineWord v = nullWord := by
  have hv : v = List.replicate v.length 0 := List.eq_replicate_iff.2 ⟨rfl, h⟩
  rw [inlineWord, hv, List.length_replicate, List.replicate_append_replicate, Nat.add_sub_cancel' hlen]
  rfl

/-- The copy of a value is what an entry for it needs. -/
theorem placeData_holds (henv : env.Ok st)
    (hplace : placeData st.heap data env.malloc = some (heap, word)) :
    (⟨id, some name, word, data.length⟩ : StoredQuirk).Holds heap data := by
  refine ⟨rfl, ?_⟩
  rw [placeData] at hplace
  split at hplace
  · rename_i hlarge
    rw [Option.map_eq_some_iff] at hplace
    obtain ⟨ptr, hptr, he⟩ := hplace
    obtain ⟨rfl, rfl⟩ := Prod.mk.inj he
    rw [if_pos hlarge]
    exact ⟨(henv ptr hptr).1, Function.update_self ..⟩
  · rename_i hsmall
    obtain ⟨-, rfl⟩ := Prod.mk.inj (Option.some.inj hplace)
    rw [if_neg hsmall]

/-- What was in the entry can be released, and the new value stays. -/
theorem clearFree_replaced (henv : env.Ok st)
    (hplace : placeData st.heap data env.malloc = some (heap, word)) (hq : q.Holds st.heap v)
    (hzero : sizeofUlong < data.length → v.length ≤ sizeofUlong → ∀ b ∈ v, b = 0) :
    ∃ heap', clearFree heap (pendingWord data.length q.data) = some heap' ∧
      (⟨id, some name, word, data.length⟩ : StoredQuirk).Holds heap' data := by
  have hholds : (⟨id, some name, word, data.length⟩ : StoredQuirk).Holds heap data :=
    placeData_holds henv hplace
  rw [pendingWord]
  by_cases hlarge : sizeofUlong < data.length
  case neg =>
    rw [if_neg hlarge, clearFree_nullWord]
    exact ⟨heap, rfl, hholds⟩
  rw [if_pos hlarge]
  have hold := hq.2
  split at hold
  · -- the block of the old value is released; it is not the new one, which was free
    obtain ⟨hnull, hblock⟩ := hold
    rw [placeData, if_pos hlarge, Option.map_eq_some_iff] at hplace
    obtain ⟨ptr, hptr, he⟩ := hplace
    obtain ⟨rfl, rfl⟩ := Prod.mk.inj he
    have hne : q.data ≠ ptr := by
      rintro rfl
      rw [(henv _ hptr).2] at hblock
      cases hblock
    rw [clearFree_block hnull (by rw [Function.update_of_ne hne, hblock])]
    refine ⟨_, rfl, rfl, ?_⟩
    rw [if_pos hlarge]
    exact ⟨(henv ptr hptr).1, by rw [Function.update_of_ne hne.symm, Function.update_self]⟩
  · rename_i hsmall
    rw [hold, inlineWord_zero (Nat.not_lt.1 hsmall) (hzero hlarge (Nat.not_lt.1 hsmall)),
      clearFree_nullWord]
    exact ⟨heap, rfl, hholds⟩

theorem QuirkMap.set_set : (m.set id name v).set id name data = m.set id name data := by
  funext id' name'
  unfold QuirkMap.set
  split <;> rfl

theorem QuirkMap.set_ne_empty : m.set id name v ≠ .empty := by
  intro h
  have hval := congrFun (congrFun h id) name
  simp [QuirkMap.set, QuirkMap.empty] at hval

/-- A call that fits leaves the map with its value, or as it was. -/
theorem setQuirk_refines (h : st.Refines m) (henv : env.Ok st) (hfits : QuirkFits m id name data env) :
    ∃ rv st', setQuirk st id name data env = some (rv, st') ∧ st'.Refines (m.after rv id name data) := by
  have hfail : ∀ ret, ret ≠ Ckr.ok → setQuirk st id name data env = some (ret, st) →
      ∃ rv st', setQuirk st id name data env = some (rv, st') ∧
        st'.Refines (m.after rv id name data) := by
    intro ret hret hset
    refine ⟨ret, st, hset, ?_⟩
    rwa [QuirkMap.after, if_neg hret]
  by_cases hstrdup : env.strdup = true
  case neg =>
    refine hfail Ckr.hostMemory (by decide) ?_
    rw [setQuirk, if_pos hstrdup]
  cases hplace : placeData st.heap data env.malloc with
  | none =>
    refine hfail Ckr.hostMemory (by decide) ?_
    rw [setQuirk, if_neg (by simp [hstrdup]), hplace]
  | some p =>
    obtain ⟨heap, word⟩ := p
    have hset : setQuirk st id name data env = _ := setQuirk_placed hstrdup hplace
    rw [storeQuirkLocked] at hset
    by_cases hlock : env.wrlock = true
    case neg =>
      rw [if_neg hlock, Option.bind_some, clearFree_pending henv hplace] at hset
      exact hfail Ckr.cantLock (by decide) hset
    rw [if_pos hlock] at hset
    rcases h with ⟨hn, rfl⟩ | ⟨q, rest, name', v, hn, hq, hname, rfl, hholds⟩
    · -- the first value: the array is allocated
      by_cases hgrow : env.realloc = true
      · have hn' : ({ st with heap } : QuirkStore).nquirks = 0 := hn
        rw [hgrow, storeQuirk_first hn', Option.bind_some, clearFree_nullWord] at hset
        refine ⟨_, _, hset, .inr ⟨_, _, name, data, rfl, rfl, rfl, ?_, ?_⟩⟩
        · exact if_pos rfl
        · exact placeData_holds henv hplace
      · have hfull : storeQuirk { st with heap } id name word data.length env.realloc =
            some (Ckr.hostMemory, { st with heap }, pendingWord data.length word) := by
          rw [storeQuirk]
          simp [hn, hgrow]
        rw [hfull, Option.bind_some, clearFree_pending henv hplace] at hset
        exact hfail Ckr.hostMemory (by decide) hset
    · -- there is one entry, which is that of the pair, and it is replaced
      obtain ⟨hpair, hzero⟩ := hfits.resolve_left (by
        rintro (hf | ⟨hlarge, hf⟩ | hf | ⟨hf, -⟩)
        · rw [hstrdup] at hf; cases hf
        · rw [placeData, if_pos hlarge, hf] at hplace; cases hplace
        · rw [hlock] at hf; cases hf
        · exact QuirkMap.set_ne_empty hf)
      have hself : QuirkMap.set .empty q.id name' v q.id name' = some v := if_pos ⟨rfl, rfl⟩
      obtain ⟨rfl, rfl⟩ := hpair q.id name' (by rw [hself]; exact Option.some_ne_none v)
      have hmatches : q.matches q.id name' = true := decide_eq_true ⟨rfl, hname⟩
      obtain ⟨heap', hfree, hholds'⟩ : ∃ heap', clearFree heap (pendingWord data.length q.data) =
          some heap' ∧ (⟨q.id, some name', word, data.length⟩ : StoredQuirk).Holds heap' data :=
        clearFree_replaced henv hplace hholds fun hlarge => hzero hlarge v hself
      have hn' : ({ st with heap } : QuirkStore).nquirks = 1 := hn
      rw [storeQuirk_replace hn' hq hmatches, Option.bind_some, hfree] at hset
      refine ⟨_, _, hset, .inr ⟨_, _, name', data, hn, rfl, rfl, ?_, hholds'⟩⟩
      exact (if_pos rfl).trans QuirkMap.set_set

/-- A large value over a small one that is not zero: the small one is released as a pointer, which it
    is not. -/
theorem setQuirk_undefined {rest : List StoredQuirk} (hstrdup : env.strdup = true)
    (hlock : env.wrlock = true) (hptr : env.malloc = some ptr) (hlarge : sizeofUlong < data.length)
    (hn : st.nquirks = 1) (hq : st.quirks = q :: rest) (hmatches : q.matches id name = true)
    (hdata : q.data ≠ nullWord) (hblock : q.data ≠ ptr ∧ st.heap q.data = none) :
    setQuirk st id name data env = none := by
  have hplace : placeData st.heap data env.malloc =
      some (Function.update st.heap ptr (some data), ptr) := by
    rw [placeData, if_pos hlarge, hptr]
    rfl
  have hbad : clearFree (Function.update st.heap ptr (some data)) q.data = none := by
    rw [clearFree, if_neg hdata, Function.update_of_ne hblock.1, hblock.2]
    rfl
  have hn' : ({ st with heap := Function.update st.heap ptr (some data) } : QuirkStore).nquirks =
      1 := hn
  rw [setQuirk_placed hstrdup hplace, storeQuirkLocked, if_pos hlock,
    storeQuirk_replace hn' hq hmatches, Option.bind_some, pendingWord, if_pos hlarge, hbad]
  rfl

/-! ## Getting a value -/

theorem StoredQuirk.Holds.value (h : q.Holds heap v) : q.value heap = some v := by
  obtain ⟨hsize, hdata⟩ := h
  rw [StoredQuirk.value, hsize]
  split at hdata
  · rename_i hlarge
    rw [if_pos hlarge, hdata.2]
    simp
  · rename_i hsmall
    rw [if_neg hsmall, hdata, inlineWord, List.take_left' rfl]

/-- The loop finds the entry of a pair that was set. -/
theorem find_refines (h : st.Refines m) (hv : m id name = some v) :
    ∃ q, (st.quirks.take st.nquirks).find? (·.matches id name) = some q ∧ q.Holds st.heap v := by
  rcases h with ⟨-, rfl⟩ | ⟨q, rest, name', v', hn, hq, hname, rfl, hholds⟩
  · cases hv
  · unfold QuirkMap.set at hv
    split at hv
    · rename_i hpair
      obtain ⟨rfl, rfl⟩ := hpair
      obtain rfl := Option.some.inj hv
      rw [hn, hq]
      exact ⟨q, List.find?_cons_of_pos (decide_eq_true ⟨rfl, hname⟩), hholds⟩
    · cases hv

theorem find_refines_none (h : st.Refines m) (hv : m id name = none) :
    (st.quirks.take st.nquirks).find? (·.matches id name) = none := by
  rcases h with ⟨hn, -⟩ | ⟨q, rest, name', v', hn, hq, hname, rfl, -⟩
  · rw [hn, List.take_zero, List.find?_nil]
  · unfold QuirkMap.set at hv
    split at hv
    · cases hv
    · rename_i hpair
      have hother : ¬q.matches id name = true := by
        rw [StoredQuirk.matches, decide_eq_true_eq, hname]
        rintro ⟨rfl, he⟩
        exact hpair ⟨rfl, (Option.some.inj he).symm⟩
      rw [hn, hq, List.take_succ_cons, List.take_zero,
        List.find?_cons_of_neg (p := (StoredQuirk.matches · id name)) hother, List.find?_nil]

/-- A value is read back, if there is room for it. -/
theorem getQuirk_value (h : st.Refines m) (hv : m id name = some v) (hne : v ≠ []) {size : Nat}
    (hlock : env.rdlock = true) (halloc : size = 0 → env.malloc ≠ none)
    (hroom : size ≠ 0 → v.length ≤ size) :
    getQuirk st id name true size env = some (Ckr.ok, some v, v.length) := by
  obtain ⟨q, hfind, hholds⟩ := find_refines h hv
  have hpos : 0 < q.size := by
    rw [hholds.1]
    exact List.length_pos_iff.2 hne
  rw [getQuirk, if_neg (by simp [hlock]), hfind]
  simp only
  rw [if_pos ⟨trivial, hpos⟩, if_neg (fun he => halloc he.1 he.2), if_neg, hholds.value, hholds.1]
  · rfl
  · rintro ⟨hsize, hlt⟩
    have hle := hroom hsize
    rw [hholds.1] at hlt
    omega

/-- Where there is no value, or an empty one, the data of the caller stay as they are. -/
theorem getQuirk_nothing (h : st.Refines m) (hv : (m id name).getD [] = []) {wanted : Bool} {size : Nat}
    (hlock : env.rdlock = true) : getQuirk st id name wanted size env = some (Ckr.ok, none, size) := by
  rw [getQuirk, if_neg (by simp [hlock])]
  cases hval : m id name with
  | none => rw [find_refines_none h hval]
  | some v =>
    rw [hval] at hv
    obtain rfl : v = [] := hv
    obtain ⟨q, hfind, hholds⟩ := find_refines h hval
    rw [hfind]
    exact if_neg fun he => absurd he.2 (by rw [hholds.1]; decide)

/-! ## The names of the attributes -/

theorem hexLower_inj {a b : Nat} (ha : a < 16) (hb : b < 16) (h : hexLower a = hexLower b) : a = b := by
  have hall : ∀ a < 16, ∀ b < 16, hexLower a = hexLower b → a = b := by decide
  exact hall a ha b hb h

/-- Numbers with the same digits are the same. -/
theorem eq_of_digits {n a b : Nat} (ha : a < 16 ^ n) (hb : b < 16 ^ n)
    (h : ∀ k < n, a / 16 ^ k % 16 = b / 16 ^ k % 16) : a = b := by
  induction n generalizing a b with
  | zero => omega
  | succ n ih =>
    have hlast := h 0 (Nat.succ_pos n)
    rw [Nat.pow_zero, Nat.div_one, Nat.div_one] at hlast
    have hrest : a / 16 = b / 16 := by
      refine ih (by omega) (by omega) fun k hk => ?_
      rw [Nat.div_div_eq_div_mul, Nat.div_div_eq_div_mul, ← Nat.pow_succ']
      exact h (k + 1) (Nat.succ_lt_succ hk)
    omega

theorem hexWord_injective : Function.Injective hexWord := by
  intro a b h
  have hdigits := List.ofFn_injective h
  refine BitVec.eq_of_toNat_eq (eq_of_digits (n := 16) a.isLt b.isLt fun k hk => ?_)
  have hk' := congrFun hdigits ⟨15 - k, by omega⟩
  have hindex : 15 - (15 - k) = k := by omega
  simp only [hindex] at hk'
  exact hexLower_inj (Nat.mod_lt _ (by decide)) (Nat.mod_lt _ (by decide)) hk'

/-- Every attribute has a name of its own. -/
theorem supAttrName_injective : Function.Injective supAttrName := by
  have hlen : ∀ attr, (ascii "sup_attr_" ++ hexWord attr).length = 25 := by
    intro attr
    rw [List.length_append, hexWord, List.length_ofFn]
    rfl
  -- the name of the first one has another length
  have hne : ∀ attr, ascii "sup_attr_CKA_ALLOWED_MECHANISMS" ≠ ascii "sup_attr_" ++ hexWord attr := by
    intro attr he
    have hlength := hlen attr
    rw [← he] at hlength
    exact absurd hlength (by decide)
  intro a b h
  unfold supAttrName at h
  split at h <;> split at h
  · rename_i ha hb
    rw [ha, hb]
  · exact absurd h (hne b)
  · exact absurd h.symm (hne a)
  · exact hexWord_injective (List.append_cancel_left h)

end P11Prov
