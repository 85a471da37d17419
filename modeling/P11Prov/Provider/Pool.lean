import P11Prov.Interaction.Traced
import P11Prov.Provider.Status

/-!
# The pool of contexts

The contexts of a process are kept in an array for the handlers of a fork, which
lock and unlock what they find there. The array is allocated for the first
context, when the handlers are registered too, grows by four entries, and is
freed with the last context.

* `context_pool`: in every run, the array has the contexts that were added and
  are alive, in order of creation; and where the handlers are registered once, a
  fork locks and unlocks the pool and the slots of each context that is
  initialised.
* `Acts`: what a handler does to the lock of the pool and to each context, from
  which follows what it does when it is registered several times (`Acts.run`).
-/

namespace P11Prov

open Interaction

abbrev CtxId := Nat

/-- `ctx_pool`. The array has all entries that there is memory for. -/
structure CtxPool where
  contexts : Option (List (Option CtxId)) := none
  num : Nat := 0
  rwlock : RwLock := {}
  deriving DecidableEq, Repr

/-- The entries `ctx_pool.contexts[0..num)`. -/
def CtxPool.entries (p : CtxPool) : List (Option CtxId) := (p.contexts.getD []).take p.num

/-- The locks of a process: that of the pool, and for a context that of the slots, and those of the
    sessions and of the objects of a slot. -/
inductive LockId
  | pool
  | slots (ctx : CtxId)
  | sessions (ctx : CtxId) (slot : Nat)
  | objects (ctx : CtxId) (slot : Nat)
  deriving DecidableEq, Repr

inductive LockEvent
  | acquire (l : LockId)
  | release (l : LockId)
  deriving DecidableEq, Repr

/-- A process: the pool, the contexts by their addresses, and how often the handlers of a fork are
    registered. What follows is kept for the statements only: the live contexts in order of
    creation, with whether they were added to the pool, the next address, and how often the array
    of the pool was allocated anew. -/
structure Process where
  pool : CtxPool := {}
  ctx : CtxId → ProvCtx := fun _ => {}
  handlers : Nat := 0
  live : List (CtxId × Bool) := []
  next : CtxId := 0
  filled : Nat := 0

/-- The live contexts that were added to the pool. -/
def Process.added (w : Process) : List CtxId := (w.live.filter (·.2)).map (·.1)

/-! ## Adding and removing -/

/-- `CTX_POOL_ALLOC` -/
abbrev ctxPoolAlloc : Nat := 4

/-- The array of `context_add_pool`, with place for another context, if there is memory. -/
def CtxPool.grow (alloc : Bool) (p : CtxPool) : Option (List (Option CtxId)) :=
  match p.contexts with
  | none => if alloc then some (.replicate ctxPoolAlloc none) else none
  | some a =>
    if p.num % ctxPoolAlloc = 0 then
      if alloc then
        some ((a ++ .replicate (p.num + ctxPoolAlloc) none).take (p.num + ctxPoolAlloc))
      else none
    else some a

/-- `context_add_pool`, given whether memory can be had and the handlers can be registered, with
    whether the context was added. -/
def Process.contextAddPool (alloc atfork : Bool) (id : CtxId) (w : Process) : Bool × Process :=
  match w.pool.rwlock.wrlock with
  | none => (false, w)
  | some rwlock =>
    match w.pool.grow alloc with
    | none => (false, { w with pool := { w.pool with rwlock := rwlock.unlock } })
    | some a =>
      let new := w.pool.contexts.isNone
      (true, { w with
        pool :=
          { contexts := some (a.set w.pool.num (some id))
            num := w.pool.num + 1
            rwlock := rwlock.unlock }
        handlers := if new && atfork then w.handlers + 1 else w.handlers
        filled := if new then w.filled + 1 else w.filled })

/-- A step of the loop of `context_rm_pool`, with `found` and the array. -/
def rmStep (id : CtxId) (num : Nat) (s : Bool × List (Option CtxId)) (i : Nat) :
    Bool × List (Option CtxId) :=
  if !s.1 then
    if s.2.getD i none = some id then (true, s.2.set i none) else s
  else
    let a := s.2.set (i - 1) (s.2.getD i none)
    (true, if i = num - 1 then a.set i none else a)

/-- `context_rm_pool` -/
def contextRmPool (id : CtxId) (p : CtxPool) : CtxPool :=
  match p.rwlock.wrlock with
  | none => p
  | some rwlock =>
    let (found, a) := (List.range p.num).foldl (rmStep id p.num) (false, p.contexts.getD [])
    if found then
      { contexts := if p.num - 1 = 0 then none else some a
        num := p.num - 1
        rwlock := rwlock.unlock }
    else { p with rwlock := rwlock.unlock }

/-- The end of `OSSL_provider_init` for a context that is ready. -/
def Process.addContext (alloc atfork : Bool) (c : ProvCtx) (w : Process) : Process :=
  let (added, w') := { w with ctx := Function.update w.ctx w.next c }.contextAddPool alloc atfork
    w.next
  { w' with live := w.live ++ [(w.next, added)], next := w.next + 1 }

/-- The end of `OSSL_provider_init` for a context that is not: it is freed as those in the pool. -/
def Process.freeContext (w : Process) : Process :=
  { w with pool := contextRmPool w.next w.pool, next := w.next + 1 }

/-- `OSSL_provider_init`: whether all goes well up to the status, the answers if the module is loaded
    early, and what `context_add_pool` needs. -/
def Process.providerInit (b : Build) (ok fips : Bool) (early : Option StatusAnswers)
    (alloc atfork : Bool) (w : Process) : Process :=
  let c : ProvCtx := { assumeFips := fips }
  let (ret, c) := early.elim (Ckr.ok, c) (ctxStatus b · c)
  if !ok || ret ≠ Ckr.ok then w.freeContext else w.addContext alloc atfork c

/-- `p11prov_teardown` -/
def Process.teardown (id : CtxId) (w : Process) : Process :=
  { w with pool := contextRmPool id w.pool, live := w.live.filter (·.1 ≠ id) }

/-! ## Forks -/

/-- `p11prov_slot_fork_prepare`: the lock is taken for writing, or else for reading. -/
def slotForkPrepare (id : CtxId) (s : Slots) : Traced LockEvent Slots :=
  match s.rwlock.wrlock.or s.rwlock.rdlock with
  | some rwlock => do
    .note (.acquire (.slots id))
    return { s with rwlock }
  | none => return s

/-- `p11prov_slot_fork_release` -/
def slotForkRelease (id : CtxId) (s : Slots) : Traced LockEvent Slots := do
  .note (.release (.slots id))
  return { s with rwlock := s.rwlock.unlock }

/-- What a handler does to a context, if it is initialised. -/
def visit (act : CtxId → Slots → Traced LockEvent Slots) (id : CtxId) (c : ProvCtx) :
    Traced LockEvent ProvCtx :=
  if c.status = .initialized then
    match c.slots with
    | none => return c
    | some s => do return { c with slots := some (← act id s) }
  else return c

/-- The loop of a handler over the pool. -/
def Process.forEntries (act : CtxId → ProvCtx → Traced LockEvent ProvCtx) :
    List (Option CtxId) → Process → Traced LockEvent Process
  | [], w => return w
  | none :: entries, w => w.forEntries act entries
  | some id :: entries, w => do
    let c ← act id (w.ctx id)
    { w with ctx := Function.update w.ctx id c }.forEntries act entries

/-- The process with another lock on the pool. -/
def Process.setLock (rwlock : RwLock) (w : Process) : Process :=
  { w with pool := { w.pool with rwlock } }

/-- `fork_prepare` -/
def Process.forkPrepare (w : Process) : Traced LockEvent Process :=
  match w.pool.rwlock.rdlock with
  | none => w.forEntries (visit slotForkPrepare) w.pool.entries
  | some rwlock => do
    .note (.acquire .pool)
    (w.setLock rwlock).forEntries (visit slotForkPrepare) w.pool.entries

/-- `fork_parent` -/
def Process.forkParent (w : Process) : Traced LockEvent Process := do
  let w ← w.forEntries (visit slotForkRelease) w.pool.entries
  .note (.release .pool)
  return w.setLock w.pool.rwlock.unlock

/-- `fork_child`. The lock of the pool is made anew. -/
def Process.forkChild (w : Process) : Traced LockEvent Process := do
  let w ← w.forEntries (fun _ c => return P11Prov.forkChild c) w.pool.entries
  return w.setLock {}

/-- A fork runs a handler as often as it is registered. -/
def Process.runHandlers (handler : Process → Traced LockEvent Process) :
    Nat → Process → Traced LockEvent Process
  | 0, w => return w
  | n + 1, w => do runHandlers handler n (← handler w)

/-- The handlers before a fork. -/
def Process.prepared (w : Process) : Traced LockEvent Process :=
  runHandlers forkPrepare w.handlers w

/-- The handlers after a fork in the parent. -/
def Process.parent (w : Process) : Traced LockEvent Process := runHandlers forkParent w.handlers w

/-- The handlers after a fork in the child. -/
def Process.child (w : Process) : Traced LockEvent Process := runHandlers forkChild w.handlers w

/-! ## Runs -/

/-- A process initialises a provider, tears one down, asks for the status of one, takes and returns
    its slots in a call that may last, or forks. -/
inductive ProcessStep (b : Build) : Process → Process → Prop
  | providerInit {w : Process} (ok fips : Bool) (early : Option StatusAnswers)
      (alloc atfork : Bool) : ProcessStep b w (w.providerInit b ok fips early alloc atfork)
  | teardown {w : Process} {id : CtxId} (h : id ∈ w.live.map (·.1)) :
      ProcessStep b w (w.teardown id)
  | ctxStatus {w : Process} {id : CtxId} (A : StatusAnswers) :
      ProcessStep b w { w with ctx := Function.update w.ctx id (ctxStatus b A (w.ctx id)).2 }
  | takeSlots {w : Process} {id : CtxId} (rdlock : Bool) :
      ProcessStep b w { w with ctx := Function.update w.ctx id (takeSlots rdlock (w.ctx id)).2 }
  | returnSlots {w : Process} {id : CtxId} :
      ProcessStep b w { w with ctx := Function.update w.ctx id (returnSlots (w.ctx id)) }
  | forkParent {w : Process} : ProcessStep b w w.prepared.val.parent.val
  | forkChild {w : Process} : ProcessStep b w w.prepared.val.child.val

/-! ## The array -/

section Array

variable {id : CtxId} {num : Nat} {rest tail : List (Option CtxId)}

/-- Once the entry is found, those after it move up. -/
theorem rmStep_found {pre : List (Option CtxId)} {e : Option CtxId}
    (h : pre.length + 1 + rest.length = num) :
    (List.range' (pre.length + 1) rest.length).foldl (rmStep id num)
        (true, pre ++ e :: (rest ++ tail)) =
      (true, pre ++ if rest = [] then e :: tail else rest ++ none :: tail) := by
  induction rest generalizing pre e with
  | nil => rfl
  | cons x rest ih =>
    have hget : (pre ++ e :: (x :: rest ++ tail)).getD (pre.length + 1) none = x := by
      simp [List.getD]
    have hset : (pre ++ e :: (x :: rest ++ tail)).set pre.length x =
        pre ++ x :: (x :: rest ++ tail) := by
      simp
    rw [List.length_cons, List.range'_succ, List.foldl_cons]
    simp only [rmStep, Bool.not_true, Bool.false_eq_true, ↓reduceIte, Nat.add_sub_cancel, hget,
      hset, reduceCtorEq]
    rw [List.length_cons] at h
    cases rest with
    | nil =>
      have hlast : pre.length + 1 = num - 1 := by
        simp only [List.length_nil] at h
        omega
      simp [hlast.symm]
    | cons y rest =>
      have hlast : pre.length + 1 ≠ num - 1 := by
        simp only [List.length_cons] at h
        omega
      rw [if_neg hlast]
      have hlen : (pre ++ [x]).length = pre.length + 1 := by simp
      have hih := @ih (pre ++ [x]) x (by rw [hlen]; omega)
      rw [hlen, List.append_assoc] at hih
      exact hih.trans (by simp)

/-- The loop removes the entry of a context, if there is one. -/
theorem rmStep_foldl {pre : List (Option CtxId)} (h : pre.length + rest.length = num) :
    (List.range' pre.length rest.length).foldl (rmStep id num) (false, pre ++ rest ++ tail) =
      if some id ∈ rest then (true, pre ++ rest.erase (some id) ++ none :: tail)
      else (false, pre ++ rest ++ tail) := by
  induction rest generalizing pre with
  | nil => rfl
  | cons x rest ih =>
    have hget : (pre ++ x :: rest ++ tail).getD pre.length none = x := by
      simp [List.getD]
    rw [List.length_cons, List.range'_succ, List.foldl_cons]
    simp only [rmStep, Bool.not_false, ↓reduceIte, hget]
    rw [List.length_cons] at h
    by_cases hx : x = some id
    · subst hx
      have hset : (pre ++ some id :: rest ++ tail).set pre.length none =
          pre ++ none :: (rest ++ tail) := by
        simp
      rw [if_pos rfl, hset, rmStep_found (by omega), if_pos List.mem_cons_self,
        List.erase_cons_head]
      cases rest <;> simp
    · have hlen : (pre ++ [x]).length = pre.length + 1 := by simp
      have hih := @ih (pre ++ [x]) (by rw [hlen]; omega)
      have hcons : pre ++ x :: rest ++ tail = pre ++ [x] ++ rest ++ tail := by simp
      rw [hlen] at hih
      rw [if_neg hx, hcons, hih]
      simp [List.mem_cons, Ne.symm hx, hx]

end Array

/-! ## The contexts that are listed -/

/-- The pool lists some contexts in its first entries, has place for them, and is not locked. -/
structure CtxPool.Holds (p : CtxPool) (l : List CtxId) : Prop where
  entries : p.entries = l.map some
  num : p.num = l.length
  capacity : ∀ a, p.contexts = some a → p.num ≤ a.length ∧ a.length % ctxPoolAlloc = 0
  rwlock : p.rwlock = {}

section Holds

variable {p : CtxPool} {l : List CtxId} {id : CtxId}

/-- The array, with what follows the entries. -/
theorem CtxPool.Holds.array (h : p.Holds l) {a : List (Option CtxId)} (ha : p.contexts = some a) :
    ∃ tail, a = l.map some ++ tail := by
  have htake : a.take p.num = l.map some := by
    rw [← h.entries, CtxPool.entries, ha]
    rfl
  exact ⟨a.drop p.num, by rw [← htake, List.take_append_drop]⟩

theorem CtxPool.Holds.eq_nil (h : p.Holds l) (hn : p.contexts = none) : l = [] := by
  have hentries := h.entries
  rw [CtxPool.entries, hn] at hentries
  simpa using hentries.symm

/-- `context_rm_pool` removes a context wherever it is. -/
theorem CtxPool.Holds.contextRmPool (h : p.Holds l) (id : CtxId) :
    (contextRmPool id p).Holds (l.erase id) := by
  have hlock : p.rwlock.wrlock = some { writer := true } := by
    rw [h.rwlock]
    rfl
  have hfold (tail : List (Option CtxId)) : (List.range p.num).foldl (rmStep id p.num)
      (false, l.map some ++ tail) = if some id ∈ l.map some then
        (true, (l.map some).erase (some id) ++ none :: tail) else (false, l.map some ++ tail) := by
    have hloop := @rmStep_foldl id p.num (l.map some) tail [] (by simp [h.num])
    simpa only [List.nil_append, List.length_nil, List.length_map, ← h.num,
      ← List.range_eq_range'] using hloop
  unfold P11Prov.contextRmPool
  simp only [hlock]
  by_cases hid : id ∈ l
  · have hsome : some id ∈ l.map some := List.mem_map_of_mem hid
    cases ha : p.contexts with
    | none => exact absurd (h.eq_nil ha ▸ hid) List.not_mem_nil
    | some a =>
      obtain ⟨tail, rfl⟩ := h.array ha
      have hlen : (l.erase id).length = p.num - 1 := by
        rw [List.length_erase_of_mem hid, h.num]
      have hmap : (l.map some).erase (some id) = (l.erase id).map some :=
        (List.map_erase (fun _ _ he => Option.some.inj he) l).symm
      simp only [Option.getD_some, hfold, hsome, ↓reduceIte, hmap]
      refine ⟨?_, hlen.symm, fun a ha' => ?_, rfl⟩
      · by_cases h0 : p.num - 1 = 0
        · simp [CtxPool.entries, h0, List.length_eq_zero_iff.1 (hlen.trans h0)]
        · simp only [CtxPool.entries, if_neg h0, Option.getD_some]
          rw [← hlen]
          simp
      · have hcap := h.capacity _ ha
        split at ha'
        · cases ha'
        · obtain rfl := Option.some.inj ha'
          have hpos := List.length_pos_of_mem hid
          simp only [List.length_append, List.length_map, List.length_cons, hlen, h.num] at hcap ⊢
          have hsum : l.length - 1 + (tail.length + 1) = l.length + tail.length := by omega
          rw [hsum]
          exact ⟨by omega, hcap.2⟩
  · have hsome : some id ∉ l.map some := by simpa using hid
    have hnone : p.contexts.getD [] = l.map some ++ (p.contexts.getD []).drop p.num := by
      rw [← h.entries, CtxPool.entries, List.take_append_drop]
    rw [hnone, hfold, if_neg hsome, List.erase_of_not_mem hid]
    exact ⟨h.entries, h.num, h.capacity, rfl⟩

/-- The array of `context_add_pool` starts with the contexts, and has place after them. -/
theorem CtxPool.Holds.grow (h : p.Holds l) {alloc : Bool} {a : List (Option CtxId)}
    (ha : p.grow alloc = some a) :
    (∃ e tail, a = l.map some ++ e :: tail) ∧ a.length % ctxPoolAlloc = 0 := by
  have hsplit {a : List (Option CtxId)} (htake : a.take l.length = l.map some)
      (hlt : l.length < a.length) : ∃ e tail, a = l.map some ++ e :: tail :=
    ⟨a[l.length], a.drop (l.length + 1), by
      rw [← htake, List.getElem_cons_drop, List.take_append_drop]⟩
  unfold CtxPool.grow at ha
  cases hc : p.contexts with
  | none =>
    simp only [hc] at ha
    split at ha
    · obtain rfl := Option.some.inj ha
      rw [h.eq_nil hc]
      exact ⟨⟨none, .replicate 3 none, rfl⟩, rfl⟩
    · cases ha
  | some a₀ =>
    simp only [hc] at ha
    have hcap := h.capacity a₀ hc
    have htake : a₀.take l.length = l.map some := by
      rw [← h.entries, CtxPool.entries, hc, h.num]
      rfl
    split at ha
    · next h4 =>
      split at ha
      · obtain rfl := Option.some.inj ha
        rw [h.num] at h4 ⊢
        constructor
        · apply hsplit
          · rw [List.take_take, Nat.min_eq_left (by omega), List.take_append_of_le_length, htake]
            rw [← h.num]
            exact hcap.1
          · simp
        · simp [h4]
      · cases ha
    · next h4 =>
      obtain rfl := Option.some.inj ha
      refine ⟨hsplit htake ?_, hcap.2⟩
      have hne : p.num ≠ a₀.length := fun he => h4 (he ▸ hcap.2)
      rw [← h.num]
      omega

/-- `context_add_pool` puts a context after the others, or changes nothing. -/
theorem contextAddPool_holds {w : Process} (h : w.pool.Holds l) (alloc atfork : Bool)
    (id : CtxId) :
    (w.contextAddPool alloc atfork id).2.pool.Holds
      (if (w.contextAddPool alloc atfork id).1 then l ++ [id] else l) := by
  have hlock : w.pool.rwlock.wrlock = some { writer := true } := by
    rw [h.rwlock]
    rfl
  unfold Process.contextAddPool
  simp only [hlock]
  cases ha : w.pool.grow alloc with
  | none => exact ⟨h.entries, h.num, h.capacity, rfl⟩
  | some a =>
    obtain ⟨⟨e, tail, rfl⟩, hlen⟩ := h.grow ha
    have hset : (l.map some ++ e :: tail).set w.pool.num (some id) =
        l.map some ++ some id :: tail := by
      simp [h.num]
    simp only [hset, ↓reduceIte]
    refine ⟨?_, ?_, fun a ha' => ?_, rfl⟩
    · have hnum : w.pool.num + 1 = ((l ++ [id]).map some).length := by simp [h.num]
      have hsplit : l.map some ++ some id :: tail = (l ++ [id]).map some ++ tail := by simp
      simp only [CtxPool.entries, Option.getD_some]
      rw [hnum, hsplit, List.take_left]
    · simp [h.num]
    · obtain rfl := Option.some.inj ha'
      simp only [List.length_append, List.length_map, List.length_cons, h.num] at hlen ⊢
      exact ⟨by omega, hlen⟩

end Holds

/-- The contexts that were added and are alive are those of the pool, in order of creation. -/
structure Process.Lists (w : Process) : Prop where
  pool : w.pool.Holds w.added
  sorted : (w.live.map (·.1)).Pairwise (· < ·)
  next : ∀ id ∈ w.live.map (·.1), id < w.next
  handlers : w.handlers ≤ w.filled

section Lists

variable {b : Build} {w : Process} {id : CtxId}

theorem Process.Lists.added_sorted (h : w.Lists) : w.added.Pairwise (· < ·) :=
  h.sorted.sublist (List.filter_sublist.map _)

theorem Process.Lists.added_nodup (h : w.Lists) : w.added.Nodup := h.added_sorted.imp Nat.ne_of_lt

theorem Process.added_subset (h : id ∈ w.added) : id ∈ w.live.map (·.1) :=
  (List.filter_sublist.map _).subset h

/-- What `context_add_pool` leaves alone. -/
theorem contextAddPool_frame (alloc atfork : Bool) (id : CtxId) :
    (w.contextAddPool alloc atfork id).2.ctx = w.ctx ∧
    (w.contextAddPool alloc atfork id).2.live = w.live ∧
    (w.contextAddPool alloc atfork id).2.next = w.next ∧
    (w.handlers ≤ w.filled → (w.contextAddPool alloc atfork id).2.handlers ≤
      (w.contextAddPool alloc atfork id).2.filled) := by
  unfold Process.contextAddPool
  cases w.pool.rwlock.wrlock with
  | none => exact ⟨rfl, rfl, rfl, fun h => h⟩
  | some rwlock =>
    dsimp only
    cases w.pool.grow alloc with
    | none => exact ⟨rfl, rfl, rfl, fun h => h⟩
    | some a =>
      refine ⟨rfl, rfl, rfl, fun h => ?_⟩
      dsimp only
      cases w.pool.contexts.isNone with
      | false => exact h
      | true =>
        cases atfork with
        | false => exact h.trans (Nat.le_succ _)
        | true => exact Nat.succ_le_succ h

theorem Process.Lists.next_notMem (h : w.Lists) : w.next ∉ w.live.map (·.1) :=
  fun hmem => absurd (h.next _ hmem) (Nat.lt_irrefl _)

theorem Process.Lists.freeContext (h : w.Lists) : w.freeContext.Lists := by
  have hpool := h.pool.contextRmPool w.next
  -- the context is in no pool
  rw [List.erase_of_not_mem fun hmem => h.next_notMem (Process.added_subset hmem)] at hpool
  exact ⟨hpool, h.sorted, fun id hid => (h.next id hid).trans (Nat.lt_succ_self _), h.handlers⟩

theorem Process.Lists.addContext (h : w.Lists) (alloc atfork : Bool) (c : ProvCtx) :
    (w.addContext alloc atfork c).Lists := by
  unfold Process.addContext
  have hholds : ({ w with ctx := Function.update w.ctx w.next c } : Process).pool.Holds w.added :=
    h.pool
  have hpool := contextAddPool_holds hholds alloc atfork w.next
  have hframe := contextAddPool_frame (w := { w with ctx := Function.update w.ctx w.next c }) alloc
    atfork w.next
  generalize Process.contextAddPool alloc atfork w.next _ = r at hpool hframe
  obtain ⟨added, w'⟩ := r
  refine ⟨?_, ?_, fun id hid => ?_, hframe.2.2.2 h.handlers⟩
  · have hadded : ((w.live ++ [(w.next, added)]).filter (·.2)).map (·.1) =
        if added then w.added ++ [w.next] else w.added := by
      rw [List.filter_append, List.map_append]
      cases added <;> simp [Process.added]
    rw [Process.added, hadded]
    exact hpool
  · rw [List.map_append, List.pairwise_append]
    refine ⟨h.sorted, List.pairwise_singleton _ _, fun id hid id' hid' => ?_⟩
    rw [show id' = w.next from List.mem_singleton.1 hid']
    exact h.next id hid
  · rw [List.map_append, List.mem_append] at hid
    rcases hid with hid | hid
    · exact (h.next id hid).trans (Nat.lt_succ_self _)
    · obtain rfl := List.mem_singleton.1 hid
      exact Nat.lt_succ_self _

theorem Process.Lists.providerInit (h : w.Lists) (ok fips : Bool) (early : Option StatusAnswers)
    (alloc atfork : Bool) : (w.providerInit b ok fips early alloc atfork).Lists := by
  unfold Process.providerInit
  dsimp only
  split
  · exact h.freeContext
  · exact h.addContext alloc atfork _

theorem Process.Lists.teardown (h : w.Lists) (id : CtxId) : (w.teardown id).Lists := by
  have hsub : ((w.live.filter (·.1 ≠ id)).map (·.1)).Sublist (w.live.map (·.1)) :=
    List.filter_sublist.map _
  have hadded : (w.teardown id).added = w.added.erase id := by
    rw [h.added_nodup.erase_eq_filter, Process.added, Process.teardown,
      Process.added, List.filter_map, List.filter_filter, List.filter_filter]
    refine congrArg _ (List.filter_congr fun x _ => ?_)
    rw [Bool.eq_iff_iff]
    simp [and_comm]
  refine ⟨hadded ▸ h.pool.contextRmPool id, h.sorted.sublist hsub, fun id' hid => ?_, h.handlers⟩
  exact h.next id' (hsub.subset hid)

end Lists

/-! ## The handlers -/

section Handlers

variable {w : Process} {ids : List CtxId}

/-- A process with something done to some of its contexts. -/
def Process.mapCtx (ids : List CtxId) (f : CtxId → ProvCtx → ProvCtx) (w : Process) : Process :=
  { w with ctx := fun id => if id ∈ ids then f id (w.ctx id) else w.ctx id }

/-- The loop of a handler does something to each context that is listed. -/
theorem forEntries_eq (act : CtxId → ProvCtx → Traced LockEvent ProvCtx) (hids : ids.Nodup) :
    w.forEntries act (ids.map some) = ⟨w.mapCtx ids fun id c => (act id c).val,
      ids.flatMap fun id => (act id (w.ctx id)).log⟩ := by
  induction ids generalizing w with
  | nil => rfl
  | cons id ids ih =>
    have hnot := (List.nodup_cons.1 hids).1
    -- the others are as they were
    have hother (id' : CtxId) (hid' : id' ∈ ids) :
        Function.update w.ctx id (act id (w.ctx id)).val id' = w.ctx id' :=
      Function.update_of_ne (fun he : id' = id => hnot (he ▸ hid')) _ _
    have hctx : (fun id' => if id' ∈ ids then
          (act id' (Function.update w.ctx id (act id (w.ctx id)).val id')).val
        else Function.update w.ctx id (act id (w.ctx id)).val id') =
        fun id' => if id' ∈ id :: ids then (act id' (w.ctx id')).val else w.ctx id' := by
      funext id'
      by_cases hid' : id' ∈ ids
      · simp only [hid', ↓reduceIte, List.mem_cons, or_true, hother id' hid']
      · by_cases he : id' = id
        · subst he
          simp [hnot]
        · simp [hid', he]
    have hlog : (ids.flatMap fun id' =>
          (act id' (Function.update w.ctx id (act id (w.ctx id)).val id')).log) =
        ids.flatMap fun id' => (act id' (w.ctx id')).log :=
      List.flatMap_congr fun id' hid' => by rw [hother id' hid']
    rw [List.map_cons, Process.forEntries, List.flatMap_cons]
    change Traced.mk _ _ = _
    dsimp only
    rw [ih (List.nodup_cons.1 hids).2]
    dsimp only [Process.mapCtx]
    rw [hctx, hlog]

/-- A handler does `φ` to the lock of the pool, and `f` to each context that is listed. -/
def Acts (handler : Process → Traced LockEvent Process) (φ : RwLock → RwLock)
    (f : CtxId → ProvCtx → ProvCtx) : Prop :=
  ∀ (w : Process) (ids : List CtxId), w.pool.entries = ids.map some → ids.Nodup →
    (handler w).val = (w.setLock (φ w.pool.rwlock)).mapCtx ids f

/-- A handler that is run several times. -/
theorem Acts.run {handler : Process → Traced LockEvent Process} {φ : RwLock → RwLock}
    {f : CtxId → ProvCtx → ProvCtx} (h : Acts handler φ f) (n : Nat) :
    Acts (Process.runHandlers handler n) φ^[n] fun id => (f id)^[n] := by
  induction n with
  | zero =>
    intro w ids _ _
    simp [Process.runHandlers, Process.setLock, Process.mapCtx]
  | succ n ih =>
    intro w ids hentries hids
    change (Process.runHandlers handler n (handler w).val).val = _
    rw [h w ids hentries hids]
    have hrest := ih ((w.setLock (φ w.pool.rwlock)).mapCtx ids f) ids hentries hids
    rw [hrest]
    simp only [Process.setLock, Process.mapCtx, Function.iterate_succ, Function.comp_apply]
    congr 1
    funext id
    split <;> rfl

theorem forkPrepare_acts : Acts Process.forkPrepare (fun l => l.rdlock.getD l)
    fun id c => (visit slotForkPrepare id c).val := by
  intro w ids hentries hids
  unfold Process.forkPrepare
  rw [hentries]
  cases hl : w.pool.rwlock.rdlock with
  | none =>
    simp only [hl, Option.getD_none]
    rw [forEntries_eq _ hids]
    rfl
  | some rwlock =>
    simp only [hl, Option.getD_some]
    rw [forEntries_eq _ hids]
    rfl

theorem forkParent_acts : Acts Process.forkParent RwLock.unlock
    fun id c => (visit slotForkRelease id c).val := by
  intro w ids hentries hids
  unfold Process.forkParent
  rw [hentries, forEntries_eq _ hids]
  rfl

theorem forkChild_acts : Acts Process.forkChild (fun _ => {}) fun _ => forkChild := by
  intro w ids hentries hids
  unfold Process.forkChild
  rw [hentries, forEntries_eq _ hids]
  rfl

/-- The locks of a context before and after the handlers of a fork: a context that is initialised, or
    is to be so again, has slots, and only a fork locks them for writing. -/
structure ProvCtx.Ready (c : ProvCtx) : Prop where
  slots : c.status = .initialized ∨ c.status = .needsReinit → c.slots.isSome
  writer : c.rwlock.writer = false

/-- What holds between the handlers before a fork and those after it. -/
structure ProvCtx.Forking (c : ProvCtx) : Prop where
  slots : c.status = .initialized ∨ c.status = .needsReinit → c.slots.isSome
  writer : c.status = .initialized ∨ c.rwlock.writer = false

variable {c : ProvCtx} {id : CtxId}

theorem ProvCtx.Ready.forking (h : c.Ready) : c.Forking := ⟨h.slots, .inr h.writer⟩

/-- A handler looks at a context that is initialised. -/
theorem visit_cases (act : CtxId → Slots → Traced LockEvent Slots) (id : CtxId) (c : ProvCtx) :
    (c.status = .initialized ∧ ∃ s, c.slots = some s ∧
      visit act id c = ⟨{ c with slots := some (act id s).val }, (act id s).log⟩) ∨
    ((c.status = .initialized → c.slots = none) ∧ visit act id c = ⟨c, []⟩) := by
  unfold visit
  by_cases h : c.status = .initialized
  · rw [if_pos h]
    cases hs : c.slots with
    | none => exact .inr ⟨fun _ => rfl, rfl⟩
    | some s =>
      refine .inl ⟨h, s, rfl, ?_⟩
      change Traced.mk _ ((act id s).log ++ []) = _
      rw [List.append_nil]
      rfl
  · rw [if_neg h]
    exact .inr ⟨fun he => absurd he h, rfl⟩

theorem ProvCtx.Forking.visit {act : CtxId → Slots → Traced LockEvent Slots} (h : c.Forking) :
    (visit act id c).val.Forking := by
  rcases visit_cases act id c with ⟨hst, s, hs, hv⟩ | ⟨-, hv⟩ <;> rw [hv]
  · exact ⟨fun _ => rfl, .inl hst⟩
  · exact h

/-- After `fork_parent` no lock is held for writing. -/
theorem ProvCtx.Forking.release (h : c.Forking) : (P11Prov.visit slotForkRelease id c).val.Ready := by
  rcases visit_cases slotForkRelease id c with ⟨hst, s, hs, hv⟩ | ⟨hnone, hv⟩ <;> rw [hv]
  · exact ⟨fun _ => rfl, RwLock.writer_unlock _⟩
  · refine ⟨h.slots, h.writer.elim (fun hst => ?_) fun hw => hw⟩
    rw [ProvCtx.rwlock, hnone hst]
    rfl

theorem ProvCtx.Forking.child (h : c.Forking) : (forkChild c).Ready := by
  unfold P11Prov.forkChild
  split
  · next hst =>
    obtain ⟨s, hs⟩ := Option.isSome_iff_exists.1 (h.slots (.inl hst))
    simp only [hs, Option.map_some]
    exact ⟨fun _ => rfl, rfl⟩
  · next hst => exact ⟨h.slots, h.writer.resolve_left hst⟩

/-! Other calls keep a context ready for a fork. -/

theorem ProvCtx.Ready.takeSlots (h : c.Ready) (rdlock : Bool) : (takeSlots rdlock c).2.Ready := by
  by_cases htake : (P11Prov.takeSlots rdlock c).1 = Ckr.ok
  · obtain ⟨s, l, -, hl, hok⟩ := takeSlots_ok htake
    rw [hok]
    exact ⟨fun _ => rfl, RwLock.writer_rdlock hl⟩
  · rwa [takeSlots_snd htake]

theorem ProvCtx.Ready.returnSlots (h : c.Ready) : (returnSlots c).Ready := by
  unfold P11Prov.returnSlots
  cases hs : c.slots with
  | none => exact ⟨fun hst => by simpa [hs] using h.slots hst, rfl⟩
  | some s => exact ⟨fun _ => rfl, RwLock.writer_unlock _⟩

/-- `operations_init` gives the slots back, or leaves them locked. -/
theorem operationsInitCtx_slots {b : Build} {A : StatusAnswers} {s : Slots} {l : RwLock}
    (hs : c.slots = some s) (hl : s.rwlock.rdlock = some l)
    (htake : takeSlots A.rdlock c = (Ckr.ok, { c with slots := some { s with rwlock := l } })) :
    (operationsInitCtx b A c).2.slots = c.slots ∨
      (operationsInitCtx b A c).2.slots = some { s with rwlock := l } := by
  simp only [operationsInitCtx, htake, ne_eq, not_true_eq_false, ↓reduceIte, Option.elim]
  cases initSlots b A.alloc (defaultProperties c.assumeFips) { checklist := checklist b }
      s.mechs with
  | error t => exact .inr rfl
  | ok o =>
    have hrandom : checkRandom A c = ((checkRandom A c).1, c) := Prod.ext rfl checkRandom_snd
    dsimp only
    rw [returnSlots_taken hs hl, hrandom]
    dsimp only
    cases finishOps b A.alloc (defaultProperties c.assumeFips) (checkRandom A c).1 o with
    | error t => exact .inl rfl
    | ok t => exact .inl rfl

theorem ProvCtx.Ready.ctxStatus (h : c.Ready) (b : Build) (A : StatusAnswers) :
    (ctxStatus b A c).2.Ready := by
  cases hst : c.status with
  | uninitialized =>
    have hw : (moduleInit A c).2.rwlock.writer = false := by
      rcases moduleInit_rwlock A c with hl | hl <;> rw [hl]
      exact h.writer
    by_cases hret : (moduleInit A c).1 = Ckr.ok
    · obtain ⟨c', hinit⟩ : ∃ c', moduleInit A c = (Ckr.ok, c') := ⟨_, Prod.ext hret rfl⟩
      rw [hinit] at hw
      rw [ctxStatus_of_init hst hinit]
      by_cases htake : (P11Prov.takeSlots A.rdlock c').1 = Ckr.ok
      · obtain ⟨s, l, hs, hl, hok⟩ := takeSlots_ok htake
        rcases operationsInitCtx_slots (b := b) hs hl hok with hslots | hslots
        · refine ⟨fun _ => by simp [hslots, hs], ?_⟩
          simp only [ProvCtx.rwlock, hslots] at hw ⊢
          exact hw
        · refine ⟨fun _ => by simp [hslots], ?_⟩
          simp only [ProvCtx.rwlock, hslots]
          exact RwLock.writer_rdlock hl
      · rw [operationsInitCtx_of_not_take htake, if_pos htake]
        exact ⟨by simp, hw⟩
    · rw [ctxStatus_of_moduleInit hst hret]
      exact ⟨by simp, hw⟩
  | needsReinit =>
    rw [ctxStatus_of_reinit hst]
    have hslots := h.slots (.inr hst)
    have hw := h.writer
    rw [ProvCtx.rwlock] at hw
    exact ⟨fun _ => by rw [moduleReinit_slots]; exact hslots,
      by simp only [ProvCtx.rwlock, moduleReinit_slots]; exact hw⟩
  | initialized | noDeinit | inError =>
    have hsame : (P11Prov.ctxStatus b A c).2 = c := by simp only [P11Prov.ctxStatus, hst]
    rwa [hsame]

end Handlers

/-! ## Runs of a process -/

/-- What holds of a process between its steps. -/
structure Process.Inv (w : Process) : Prop where
  lists : w.Lists
  ready : ∀ id, (w.ctx id).Ready

section Runs

variable {b : Build} {w : Process} {id : CtxId}

/-- Of a context that was changed, and of the others. -/
theorem Process.Inv.update (h : w.Inv) {c : ProvCtx} (hc : c.Ready) :
    ({ w with ctx := Function.update w.ctx id c } : Process).Inv := by
  refine ⟨⟨h.lists.pool, h.lists.sorted, h.lists.next, h.lists.handlers⟩, fun id' => ?_⟩
  by_cases he : id' = id
  · subst he
    simpa using hc
  · simpa [he] using h.ready id'

/-- The lock of the pool, taken and given up several times. -/
theorem rdlock_iterate (n r : Nat) :
    (fun l : RwLock => l.rdlock.getD l)^[n] { readers := r } = { readers := r + n } := by
  induction n generalizing r with
  | zero => rfl
  | succ n ih =>
    rw [Function.iterate_succ_apply]
    exact (ih (r + 1)).trans (by rw [Nat.add_right_comm, Nat.add_assoc])

theorem unlock_iterate (n r : Nat) :
    RwLock.unlock^[n] { readers := r + n } = ({ readers := r } : RwLock) := by
  induction n with
  | zero => rfl
  | succ n ih =>
    rw [Function.iterate_succ_apply]
    exact ih

/-- A fork, given what the handlers after it do. -/
theorem Process.Inv.fork (h : w.Inv) {handler : Process → Traced LockEvent Process}
    {φ : RwLock → RwLock} {f : CtxId → ProvCtx → ProvCtx} (hacts : Acts handler φ f)
    (hφ : ∀ n, φ^[n] { readers := n } = {}) (hf : ∀ id c, c.Forking → (f id c).Ready) :
    (runHandlers handler w.prepared.val.handlers w.prepared.val).val.Inv := by
  have hprep : w.prepared.val = _ := forkPrepare_acts.run w.handlers w w.added
    h.lists.pool.entries h.lists.added_nodup
  rw [hprep, h.lists.pool.rwlock]
  have hafter (l : RwLock) (g : CtxId → ProvCtx → ProvCtx) := hacts.run w.handlers
    ((w.setLock l).mapCtx w.added g) w.added h.lists.pool.entries h.lists.added_nodup
  change (runHandlers handler w.handlers _).val.Inv
  rw [hafter]
  have hlock : φ^[w.handlers] ((fun l : RwLock => l.rdlock.getD l)^[w.handlers] {}) = {} := by
    rw [rdlock_iterate, Nat.zero_add, hφ]
  refine ⟨⟨⟨h.lists.pool.entries, h.lists.pool.num, h.lists.pool.capacity, hlock⟩,
    h.lists.sorted, h.lists.next, h.lists.handlers⟩, fun id => ?_⟩
  simp only [Process.mapCtx, Process.setLock]
  split
  · have hforking : ((fun c => (visit slotForkPrepare id c).val)^[w.handlers] (w.ctx id)).Forking :=
      Function.Iterate.rec ProvCtx.Forking (h.ready id).forking (fun c hc => hc.visit) _
    generalize hn : w.handlers = n at hforking ⊢
    cases n with
    | zero => exact h.ready id
    | succ n =>
      rw [Function.iterate_succ_apply']
      apply hf
      exact Function.Iterate.rec ProvCtx.Forking hforking (fun c hc => (hf id c hc).forking) _
  · exact h.ready id

theorem Process.Inv.providerInit_ready (h : w.Inv) (ok fips : Bool) (early : Option StatusAnswers)
    (alloc atfork : Bool) (id : CtxId) :
    ((w.providerInit b ok fips early alloc atfork).ctx id).Ready := by
  have hnew : ProvCtx.Ready { assumeFips := fips } := ⟨by simp, rfl⟩
  have hc : (early.elim (Ckr.ok, { assumeFips := fips }) (ctxStatus b · { assumeFips := fips })).2.Ready := by
    cases early with
    | none => exact hnew
    | some A => exact hnew.ctxStatus b A
  unfold Process.providerInit
  dsimp only
  split
  · exact h.ready id
  · unfold Process.addContext
    dsimp only
    rw [(contextAddPool_frame alloc atfork w.next).1]
    exact (h.update hc).ready id

theorem ProcessStep.inv {w' : Process} (hstep : ProcessStep b w w') (h : w.Inv) : w'.Inv := by
  cases hstep with
  | providerInit ok fips early alloc atfork =>
    exact ⟨h.lists.providerInit ok fips early alloc atfork, h.providerInit_ready ok fips early
      alloc atfork⟩
  | teardown hid => exact ⟨h.lists.teardown _, h.ready⟩
  | ctxStatus A => exact h.update ((h.ready _).ctxStatus b A)
  | takeSlots rdlock => exact h.update ((h.ready _).takeSlots rdlock)
  | returnSlots => exact h.update (h.ready _).returnSlots
  | forkParent =>
    refine h.fork forkParent_acts (fun n => ?_) fun id c hc => hc.release
    simpa only [Nat.zero_add] using unlock_iterate n 0
  | forkChild =>
    refine h.fork forkChild_acts (fun n => ?_) fun id c hc => hc.child
    cases n with
    | zero => rfl
    | succ n => rw [Function.iterate_succ_apply']

/-- The contexts whose slots are locked for a fork. -/
def Process.initialised (w : Process) : List CtxId :=
  w.added.filter fun id => (w.ctx id).status = .initialized

/-- `fork_prepare` locks the slots of a context that is initialised, and `fork_parent` unlocks
    them. -/
theorem visit_fork {c : ProvCtx} (h : c.Ready) (id : CtxId) :
    (visit slotForkPrepare id c).log =
      (if c.status = .initialized then [.acquire (.slots id)] else []) ∧
    visit slotForkRelease id (visit slotForkPrepare id c).val =
      ⟨c, if c.status = .initialized then [.release (.slots id)] else []⟩ := by
  rcases visit_cases slotForkPrepare id c with ⟨hst, s, hs, hv⟩ | ⟨hnone, hv⟩
  · have hw : s.rwlock.writer = false := by simpa [ProvCtx.rwlock, hs] using h.writer
    obtain ⟨l, hl, hunlock⟩ := RwLock.exists_lock hw
    have hprep : slotForkPrepare id s = ⟨{ s with rwlock := l }, [.acquire (.slots id)]⟩ := by
      rw [slotForkPrepare, hl]
      rfl
    have hc : { c with slots := some { s with rwlock := l.unlock } } = c := by
      rw [hunlock, ← hs]
    rw [hv, hprep, if_pos hst, if_pos hst]
    refine ⟨rfl, ?_⟩
    rw [visit, if_pos hst]
    conv_rhs => rw [← hc]
    rfl
  · have hst : c.status ≠ .initialized := by
      intro hst
      have hsome := h.slots (.inl hst)
      rw [hnone hst] at hsome
      cases hsome
    rw [hv, if_neg hst, if_neg hst]
    exact ⟨rfl, by rw [visit, if_neg hst]; rfl⟩

theorem Process.flatMap_initialised (w : Process) (f : CtxId → LockEvent) :
    (w.added.flatMap fun id => if (w.ctx id).status = .initialized then [f id] else []) =
      w.initialised.map f := by
  rw [Process.initialised]
  induction w.added with
  | nil => rfl
  | cons id ids ih =>
    rw [List.flatMap_cons, ih, List.filter_cons]
    by_cases h : (w.ctx id).status = .initialized <;> simp [h]

/-- The handlers of a fork lock and unlock the pool and the slots of each context that is
    initialised. -/
theorem Process.Inv.handlers_eq (h : w.Inv) :
    w.forkPrepare.log = .acquire .pool :: w.initialised.map (fun id => .acquire (.slots id)) ∧
    w.forkPrepare.val.forkParent =
      ⟨w, w.initialised.map (fun id => .release (.slots id)) ++ [.release .pool]⟩ := by
  have hentries := h.lists.pool.entries
  have hnodup := h.lists.added_nodup
  have hlock : w.pool.rwlock.rdlock = some { readers := 1 } := by
    rw [h.lists.pool.rwlock]
    rfl
  have hprep : w.forkPrepare = ⟨(w.setLock { readers := 1 }).mapCtx w.added fun id c =>
      (visit slotForkPrepare id c).val, .acquire .pool :: w.added.flatMap fun id =>
        (visit slotForkPrepare id (w.ctx id)).log⟩ := by
    simp only [Process.forkPrepare, hlock, hentries]
    rw [forEntries_eq _ hnodup]
    rfl
  have hctx (id : CtxId) (hid : id ∈ w.added) : w.forkPrepare.val.ctx id =
      (visit slotForkPrepare id (w.ctx id)).val := by
    rw [hprep]
    exact if_pos hid
  refine ⟨?_, ?_⟩
  · rw [hprep]
    refine congrArg _ (Eq.trans ?_ (w.flatMap_initialised _))
    exact List.flatMap_congr fun id _ => (visit_fork (h.ready id) id).1
  · have hparent : w.forkPrepare.val.forkParent =
        ⟨(w.forkPrepare.val.mapCtx w.added fun id c => (visit slotForkRelease id c).val).setLock {},
          (w.added.flatMap fun id => (visit slotForkRelease id (w.forkPrepare.val.ctx id)).log) ++
            [.release .pool]⟩ := by
      have hentries' : w.forkPrepare.val.pool.entries = w.added.map some := by
        rw [hprep]
        exact hentries
      rw [Process.forkParent, hentries', forEntries_eq _ hnodup, hprep]
      rfl
    have hback : (w.forkPrepare.val.mapCtx w.added fun id c =>
        (visit slotForkRelease id c).val).ctx = w.ctx := by
      funext id
      by_cases hid : id ∈ w.added
      · simp only [Process.mapCtx, hid, ↓reduceIte]
        rw [hctx id hid, (visit_fork (h.ready id) id).2]
      · simp only [Process.mapCtx, hid, ↓reduceIte]
        rw [hprep]
        exact if_neg hid
    have hval : ((w.forkPrepare.val.mapCtx w.added fun id c =>
        (visit slotForkRelease id c).val).setLock {}) = { w with
          pool := { w.pool with rwlock := {} }
          ctx := (w.forkPrepare.val.mapCtx w.added fun id c =>
            (visit slotForkRelease id c).val).ctx } := by
      rw [hprep]
      rfl
    rw [hparent, hval, hback, ← h.lists.pool.rwlock]
    refine congrArg (Traced.mk w <| · ++ _) (Eq.trans ?_ (w.flatMap_initialised _))
    exact List.flatMap_congr fun id hid => by rw [hctx id hid, (visit_fork (h.ready id) id).2]

open Relation in
/-- In every run, the pool has the contexts that were added and are alive, each once and in order of
    creation, and the handlers of a fork are registered at most once for each time that the pool is
    filled from empty. Where they are registered once, a fork locks and unlocks the pool and the
    slots of each context that is initialised once, and nothing else. -/
theorem context_pool (h : ReflTransGen (ProcessStep b) {} w) :
    (w.pool.entries = w.added.map some ∧ w.pool.num = w.added.length ∧
      w.added.Pairwise (· < ·) ∧ ∀ a, w.pool.contexts = some a → w.pool.num ≤ a.length) ∧
    w.handlers ≤ w.filled ∧
    (w.handlers = 1 →
      w.prepared.log = .acquire .pool :: w.initialised.map (fun id => .acquire (.slots id)) ∧
      w.prepared.val.parent.log =
        w.initialised.map (fun id => .release (.slots id)) ++ [.release .pool] ∧
      w.initialised.Nodup ∧ w.prepared.val.parent.val = w) := by
  have hinv : w.Inv := by
    induction h with
    | refl =>
      refine ⟨⟨⟨rfl, rfl, fun a ha => absurd ha (by simp), rfl⟩, .nil, fun id hid => ?_, le_rfl⟩,
        fun id => ⟨by simp, rfl⟩⟩
      exact absurd hid List.not_mem_nil
    | tail _ hstep ih => exact hstep.inv ih
  refine ⟨⟨hinv.lists.pool.entries, hinv.lists.pool.num, hinv.lists.added_sorted,
    fun a ha => (hinv.lists.pool.capacity a ha).1⟩, hinv.lists.handlers, fun h1 => ?_⟩
  obtain ⟨hprep, hparent⟩ := hinv.handlers_eq
  have hprep1 : w.prepared = ⟨w.forkPrepare.val, w.forkPrepare.log ++ []⟩ := by
    rw [Process.prepared, h1]
    rfl
  have hhandlers : w.forkPrepare.val.handlers = 1 := by
    rw [forkPrepare_acts w w.added hinv.lists.pool.entries hinv.lists.added_nodup]
    exact h1
  have hparent1 : w.prepared.val.parent =
      ⟨w.forkPrepare.val.forkParent.val, w.forkPrepare.val.forkParent.log ++ []⟩ := by
    rw [hprep1, Process.parent, hhandlers]
    rfl
  rw [hparent1, hprep1, List.append_nil, List.append_nil, hparent]
  exact ⟨hprep, rfl, hinv.lists.added_nodup.filter _, rfl⟩

/-- A process with a provider that is loaded early. -/
def oneProvider (w : Process) : Process :=
  w.providerInit { signMessage := true, skeySupport := true } true false
    (some (sha1Answers fun _ _ => true)) true true

theorem context_pool_one :
    (oneProvider {}).prepared.log = [.acquire .pool, .acquire (.slots 0)] := by
  have hstep : ProcessStep { signMessage := true, skeySupport := true } {} (oneProvider {}) :=
    .providerInit true false _ true true
  exact ((context_pool (.single hstep)).2.2 rfl).1

/-- The locks of the sessions and of the objects of a context that is initialised are not taken for
    a fork; and where the last provider is torn down and another one is initialised, the handlers
    are registered again. -/
theorem fork_leaves_locks :
    Relation.ReflTransGen (ProcessStep { signMessage := true, skeySupport := true }) {}
      (oneProvider ((oneProvider {}).teardown 0)) ∧
    (oneProvider ((oneProvider {}).teardown 0)).handlers = 2 ∧
    ((oneProvider {}).ctx 0).status = .initialized ∧
    ((oneProvider {}).ctx 0).slots = some { mechs := [[Ckm.sha1]] } ∧
    (oneProvider {}).pool.entries = [some 0] ∧ (oneProvider {}).handlers = 1 ∧
    LockEvent.acquire (.sessions 0 0) ∉ (oneProvider {}).prepared.log ∧
    LockEvent.acquire (.objects 0 0) ∉ (oneProvider {}).prepared.log := by
  constructor
  · refine .head (.providerInit true false _ true true) (.head (.teardown ?_)
      (.single (.providerInit true false _ true true)))
    decide +kernel
  · decide +kernel

end Runs

end P11Prov
