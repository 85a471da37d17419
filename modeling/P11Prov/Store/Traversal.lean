import P11Prov.Run
import P11Prov.Store

/-!
# The store goes through all slots

A pass of `store_fetch` is a walk along the slots (`storePass_walk`): the loop
carries the slot to go on with as an id, which names what is left of the list of
slots as long as the ids differ. So the slots are searched in order, each at
most once, and when the pass ends every slot has been dealt with.

It ends unless it gets stuck: when no session can be had on a viable slot, the
cursor stays where it is although the next slot is known, and the slot is tried
again. That each pass has a result after as many rounds as there are slots and
failures (`storeFetch_traversal`) is all that can be said; a slot whose only
session is in use is tried forever (`storeFetch_stuck`).
-/

namespace P11Prov

open Interaction Walk

/-! ## The cursor -/

/-- The slots of the provider, by their ids. -/
def Ctx.slotIds (ctx : Ctx) : List SlotId := ctx.slots.map (·.id)

/-- The slots that a cursor has left. -/
def leftFrom (ids : List SlotId) (id : SlotId) : List SlotId :=
  if id = ckUnavailableInformation then ids else ids.dropWhile (· ≠ id)

theorem leftFrom_suffix (ids : List SlotId) (id : SlotId) : leftFrom ids id <:+ ids := by
  unfold leftFrom
  split
  · exact List.suffix_rfl
  · exact List.dropWhile_suffix _

/-- A slot id names the part of the list that starts with it. -/
theorem leftFrom_of_suffix {ids l : List SlotId} {id : SlotId} (hids : ids.Nodup)
    (hid : id ≠ ckUnavailableInformation) (h : id :: l <:+ ids) : leftFrom ids id = id :: l := by
  obtain ⟨pre, rfl⟩ := h
  have hpre : ∀ x ∈ pre, decide (x ≠ id) = true := by
    intro x hx
    rw [decide_eq_true_eq]
    rintro rfl
    exact (List.disjoint_of_nodup_append hids) hx List.mem_cons_self
  rw [leftFrom, if_neg hid, List.dropWhile_append_of_pos hpre, List.dropWhile_cons_of_neg (by simp)]

/-! ## One round -/

section

variable {O : Oracle} {ctx : Ctx} {st : State} {pwCb login : Bool} {sc : StoreCtx}

/-- The steps lead to the slot that passed the checks, or to the end. -/
def VisitsTo (l : List SlotId) (r : List SlotStep × Except CkRv (Slot × List Slot)) : Prop :=
  (∀ ret, r.2 = .error ret → Walk l r.1 []) ∧ visits r.1 = [] ∧ stalls r.1 = 0 ∧
    ∀ slot slots, r.2 = .ok (slot, slots) → Walk l r.1 (slot.id :: slots.map (·.id))

theorem visitSlots_walk {req : Request} {id : SlotId} {ret : CkRv} {slots : List Slot} :
    wp (env O) (visitSlots ctx req id ret slots)
      (fun r _ => VisitsTo (leftFrom (slots.map (·.id)) id) r) st := by
  induction slots generalizing id ret st with
  | nil =>
    have hnil : leftFrom ([] : List SlotId) id = [] := List.suffix_nil.1 (leftFrom_suffix [] id)
    refine ⟨?_, rfl, rfl, by simp⟩
    rintro _ -
    rw [List.map_nil, hnil]
    exact .nil
  | cons slot slots ih =>
    simp only [visitSlots]
    split
    · rename_i h
      have hleft : leftFrom (slot.id :: slots.map (·.id)) id = leftFrom (slots.map (·.id)) id := by
        rw [leftFrom, leftFrom, if_neg h.1, if_neg h.1,
          List.dropWhile_cons_of_pos (by simpa using Ne.symm h.2)]
      rw [List.map_cons, hleft]
      exact ih
    · rename_i h
      have hleft : leftFrom (slot.id :: slots.map (·.id)) id = slot.id :: slots.map (·.id) := by
        unfold leftFrom
        split
        · rfl
        · rename_i hid
          have hid' : slot.id = id := by
            by_contra hne
            exact h ⟨hid, Ne.symm hne⟩
          rw [List.dropWhile_cons_of_neg (by simp [hid'])]
      rw [List.map_cons, hleft]
      refine wp.bind wp_true fun ret st₁ _ => ?_
      split
      · refine ⟨by simp, rfl, rfl, ?_⟩
        rintro _ _ ⟨⟩
        exact .nil
      · -- the slot is skipped, and all that follow are tried
        refine wp.bind ih ?_
        rintro ⟨steps, r⟩ st₂ ⟨herr, hv, hs, hok⟩
        rw [leftFrom, if_pos rfl] at herr hok
        exact ⟨fun ret h => .skip (herr ret h), hv, hs, fun slot' slots' h => .skip (hok slot' slots' h)⟩

/-- One round leads along the slots: to the end, or to what the cursor has left, and then by
    one slot that was searched or on which no session could be had. -/
def RoundSteps (ctx : Ctx) (l : List SlotId) (steps : List SlotStep) (cur : SlotCursor) : Prop :=
  (cur.nextid = ckUnavailableInformation → Walk l steps []) ∧
    (cur.nextid ≠ ckUnavailableInformation →
      Walk l steps (leftFrom ctx.slotIds cur.slotid) ∧ (visits steps).length + stalls steps = 1)

/-- A round that got to a slot is over with that slot, or tries it again. -/
theorem RoundSteps.of_slot {ctx : Ctx} (hids : ctx.slotIds.Nodup)
    (hun : ckUnavailableInformation ∉ ctx.slotIds) {l : List SlotId} (hl : l <:+ ctx.slotIds)
    {steps : List SlotStep} {slot : Slot} {slots : List Slot}
    (h : Walk l steps (slot.id :: slots.map (·.id))) (hv : visits steps = []) (hs : stalls steps = 0)
    {nextid : SlotId} (hnext : nextid = (slots.head?.map (·.id)).getD ckUnavailableInformation) :
    RoundSteps ctx l (steps ++ [.stall slot.id]) { slotid := slot.id, nextid } ∧
      RoundSteps ctx l (steps ++ [.visit slot.id]) { slotid := nextid, nextid } := by
  have hsuf := h.suffix.trans hl
  cases slots with
  | nil =>
    subst hnext
    exact ⟨⟨fun _ => h.trans .giveUp, fun h => absurd rfl h⟩,
      ⟨fun _ => h.trans (.visit .nil), fun h => absurd rfl h⟩⟩
  | cons next slots =>
    obtain rfl : nextid = next.id := hnext
    have hslot : slot.id ≠ ckUnavailableInformation := by
      intro e
      exact hun (e ▸ hsuf.subset List.mem_cons_self)
    have hnext : next.id ≠ ckUnavailableInformation := by
      intro e
      exact hun (e ▸ hsuf.subset (List.mem_cons_of_mem _ List.mem_cons_self))
    refine ⟨⟨fun e => absurd e hnext, fun _ => ⟨?_, ?_⟩⟩, ⟨fun e => absurd e hnext, fun _ => ⟨?_, ?_⟩⟩⟩
    · rw [leftFrom_of_suffix hids hslot hsuf]
      exact h.trans (.stall .nil)
    · rw [visits_append, stalls_append, hv, hs]
      rfl
    · rw [leftFrom_of_suffix hids hnext ((List.suffix_cons _ _).trans hsuf)]
      exact h.trans (.visit .nil)
    · rw [visits_append, stalls_append, hv, hs]
      rfl

theorem getSessionCursor_walk (hids : ctx.slotIds.Nodup)
    (hun : ckUnavailableInformation ∉ ctx.slotIds) {slotid : SlotId} {req : Request} :
    wp (env O) (getSessionCursor ctx slotid req) (fun r _ =>
      (∀ ret, r.2.1 = .error ret → RoundSteps ctx (leftFrom ctx.slotIds slotid) r.1 r.2.2) ∧
      ∀ s, r.2.1 = .ok s → RoundSteps ctx (leftFrom ctx.slotIds slotid) r.1
        { r.2.2 with slotid := r.2.2.nextid }) st := by
  refine wp.bind visitSlots_walk ?_
  rintro ⟨steps, ret | ⟨slot, slots⟩⟩ st₂ ⟨herr, hv, hs, hok⟩
  · exact ⟨fun _ _ => ⟨fun _ => herr ret rfl, fun h => absurd rfl h⟩, by simp⟩
  · obtain ⟨hstall, hvisit⟩ := RoundSteps.of_slot hids hun (leftFrom_suffix _ _)
      (hok slot slots rfl) hv hs rfl
    refine wp.bind wp_true ?_
    rintro (ret | s) st₃ -
    · exact ⟨fun _ _ => hstall, by simp⟩
    · exact ⟨by simp, fun _ _ => hvisit⟩

theorem storeRound_walk (hids : ctx.slotIds.Nodup) (hun : ckUnavailableInformation ∉ ctx.slotIds)
    {slotid : SlotId} : wp (env O) (storeRound ctx pwCb login sc slotid)
      (fun r _ => RoundSteps ctx (leftFrom ctx.slotIds slotid) r.1 r.2.2) st := by
  refine wp.bind wp_true fun _ st₁ _ => wp.bind (getSessionCursor_walk hids hun) ?_
  rintro ⟨steps, ret | s, cur⟩ st₂ ⟨herr, hok⟩
  · exact herr ret rfl
  · refine wp.bind wp_true ?_
    rintro ⟨ret, sc'⟩ st₃ -
    exact hok s rfl

/-! ## A pass -/

/-- A pass is a walk along the slots: to the end if it has a result, and else of as many tries
    as rounds were allowed. -/
def PassSteps (l : List SlotId) (n : Nat) (r : List SlotStep × Option StoreCtx) : Prop :=
  ∃ l', Walk l r.1 l' ∧ (r.2.isSome → l' = []) ∧
    (r.2 = none → n = (visits r.1).length + stalls r.1)

theorem storePass_walk (hids : ctx.slotIds.Nodup) (hun : ckUnavailableInformation ∉ ctx.slotIds)
    {n : Nat} {slotid : SlotId} : wp (env O) (storePass ctx pwCb login n sc slotid)
      (fun r _ => PassSteps (leftFrom ctx.slotIds slotid) n r) st := by
  induction n generalizing sc slotid st with
  | zero => exact ⟨_, .nil, by simp, fun _ => rfl⟩
  | succ n ih =>
    refine wp.bind (storeRound_walk hids hun) ?_
    rintro ⟨steps, sc', cur⟩ st₁ ⟨hend, hgo⟩
    simp only
    split
    · rename_i hnext
      obtain ⟨hwalk, hone⟩ := hgo hnext
      refine wp.bind ih ?_
      rintro ⟨rest, r⟩ st₂ ⟨l', hrest, hres, hfuel⟩
      refine ⟨l', hwalk.trans hrest, hres, fun h => ?_⟩
      have hn := hfuel h
      simp only [visits_append, stalls_append, List.length_append] at hone hn ⊢
      omega
    · rename_i hnext
      exact ⟨[], hend (not_not.1 hnext), fun _ => rfl, by simp⟩

/-! ## The store -/

/-- Every slot was dealt with: it was searched once if the last step on it says so, and not at
    all if it did not pass the checks then or had no session. -/
def Complete (ids : List SlotId) (steps : List SlotStep) : Prop :=
  ∀ id ∈ ids, ∃ e, lastOf steps id = some e ∧
    (visits steps).count id = if e = .visit id then 1 else 0

theorem Complete.of_walk {ids : List SlotId} {steps : List SlotStep} (hids : ids.Nodup)
    (h : Walk ids steps []) : Complete ids steps := by
  intro id hid
  obtain ⟨e, he, hv⟩ := h.lastOf_of_mem hids hid
  refine ⟨e, he, ?_⟩
  split
  · rename_i heq
    have hsub : (visits steps).Sublist ids := (List.sublist_append_left _ _).trans h.sublist
    exact List.count_eq_one_of_mem (hsub.nodup hids) (hv.2 heq)
  · rename_i hne
    exact List.count_eq_zero.2 fun hmem => hne (hv.1 hmem)

section PassSteps

variable {ids : List SlotId} {n : Nat} {r : List SlotStep × Option StoreCtx}

theorem PassSteps.order (h : PassSteps ids n r) : (visits r.1).Sublist ids := by
  obtain ⟨l', hwalk, -⟩ := h
  exact (List.sublist_append_left _ _).trans hwalk.sublist

theorem PassSteps.complete (h : PassSteps ids n r) (hids : ids.Nodup) (hr : r.2.isSome) :
    Complete ids r.1 := by
  obtain ⟨l', hwalk, hend, -⟩ := h
  obtain rfl := hend hr
  exact .of_walk hids hwalk

/-- A pass that fails to get a session at most `k` times has a result when it is allowed more
    rounds than there are slots and failures. -/
theorem PassSteps.ends (h : PassSteps ids n r) {k : Nat} (hk : stalls r.1 ≤ k)
    (hn : ids.length + k < n) : r.2.isSome := by
  obtain ⟨l', hwalk, -, hfuel⟩ := h
  rw [Option.isSome_iff_ne_none]
  intro hnone
  have hlen := hwalk.visits_length_le
  have := hfuel hnone
  omega

end PassSteps

/-- What holds of the passes of `store_fetch`, in at most `n` rounds each. -/
structure Traversed (ctx : Ctx) (n : Nat) (r : List (List SlotStep) × Option StoreCtx) : Prop where
  passes : r.1.length ≤ 2
  order : ∀ steps ∈ r.1, (visits steps).Sublist ctx.slotIds
  complete : r.2.isSome → ∀ steps ∈ r.1, Complete ctx.slotIds steps
  ends : ∀ k, (∀ steps ∈ r.1, stalls steps ≤ k) → ctx.slotIds.length + k < n → r.2.isSome

theorem storeFetch_traversed (hids : ctx.slotIds.Nodup)
    (hun : ckUnavailableInformation ∉ ctx.slotIds) {n : Nat} :
    wp (env O) (storeFetch ctx pwCb n sc) (fun r _ => Traversed ctx n r) st := by
  have hstart : leftFrom ctx.slotIds ckUnavailableInformation = ctx.slotIds := if_pos rfl
  have hpass := @storePass_walk O ctx
  refine wp.bind (hpass hids hun) ?_
  rw [hstart]
  rintro ⟨steps, _ | sc'⟩ st₁ h₁
  · exact ⟨by simp, by simpa using h₁.order, by simp, fun k hk hn => h₁.ends (by simpa using hk) hn⟩
  simp only
  split
  · refine wp.bind (hpass hids hun) ?_
    rw [hstart]
    rintro ⟨again, r⟩ st₂ h₂
    refine ⟨by simp, by simpa using ⟨h₁.order, h₂.order⟩, ?_, ?_⟩
    · intro hr
      have hr' : r.isSome := by simpa using hr
      simpa using ⟨h₁.complete hids rfl, h₂.complete hids hr'⟩
    · intro k hk hn
      have hagain : r.isSome := h₂.ends (hk again (by simp)) hn
      simpa using hagain
  · exact ⟨by simp, by simpa using h₁.order, fun _ => by simpa using h₁.complete hids rfl,
      fun _ _ _ => rfl⟩

/-- In at most two passes, `store_fetch` searches the slots in their order, each at most once
    in a pass, and those exactly once that pass the checks and on which a session can be had;
    it ends after as many rounds as there are slots and failures to get a session. -/
theorem storeFetch_traversal (hids : ctx.slotIds.Nodup)
    (hun : ckUnavailableInformation ∉ ctx.slotIds) {n : Nat}
    {r : List (List SlotStep) × Option StoreCtx} {st' : State}
    (h : Runs (env O) (storeFetch ctx pwCb n sc) st r st') : Traversed ctx n r :=
  h.of_wp (storeFetch_traversed hids hun)

end

/-- Three slots: one without a token, one on which a session can be had, and one whose token has
    a single session. -/
def mixedCtx : Ctx where
  slots := [{ plainSlot with id := 3, flags := 0 }, { plainSlot with id := 2 },
    { plainSlot with ulMaxSessionCount := 1 }]

/-- A search while the session of the last slot is in use: the first slot is skipped, the second
    one searched, and the third one given up. -/
theorem storeFetch_traversal_mixed :
    let st := (run plain (getSession mixedCtx 1 {}) {}).2
    let r := (run plain (storeFetch mixedCtx false 3 { parsedUri := {}, expectKey := true }) st).1
    r.1 = [[.skip 3, .visit 2, .stall 1]] ∧ Traversed mixedCtx 3 r :=
  ⟨by decide, storeFetch_traversal (by decide) (by decide) (runs_run _ _)⟩

/-! ## A slot without a session -/

/-- Two slots; the first one has a token with a single session. -/
def busyCtx : Ctx where
  slots := [{ plainSlot with ulMaxSessionCount := 1 }, { plainSlot with id := 2 }]

/-- The state in which the only session of the first slot is in use. -/
def busyState : State := (run plain (getSession busyCtx 1 {}) {}).2

/-- A search for all objects. -/
def allObjects : StoreCtx where
  parsedUri := {}
  expectKey := true

/-- A round leaves everything as it was, the cursor included. -/
theorem storeRound_busy {slotid : SlotId} (h : slotid = ckUnavailableInformation ∨ slotid = 1) :
    run plain (storeRound busyCtx false true allObjects slotid) busyState =
      (([.stall 1], allObjects, ⟨1, 2⟩), busyState) := by
  rcases h with rfl | rfl
  · rfl
  · rfl

theorem storePass_busy (n : Nat) {slotid : SlotId}
    (h : slotid = ckUnavailableInformation ∨ slotid = 1) :
    (run plain (storePass busyCtx false true n allObjects slotid) busyState).1.2 = none := by
  induction n generalizing slotid with
  | zero => rfl
  | succ n ih =>
    rw [storePass, run_bind, storeRound_busy h]
    have hrest := @run_bind plain _ _ (storePass busyCtx false true n allObjects 1)
      (fun r => pure ([.stall 1] ++ r.1, r.2)) busyState
    exact (congrArg (·.1.2) hrest).trans (ih (.inr rfl))

/-- The search never ends: the slot is tried again and again. -/
theorem storeFetch_stuck :
    ¬ ∃ n, (run plain (storeFetch busyCtx false n allObjects) busyState).1.2.isSome := by
  rintro ⟨n, h⟩
  have hlogin : storeLogin busyCtx allObjects = true := rfl
  have hpass := storePass_busy n (.inl rfl)
  rw [storeFetch, hlogin, run_bind] at h
  generalize run plain (storePass busyCtx false true n allObjects ckUnavailableInformation)
    busyState = r at h hpass
  obtain ⟨⟨steps, res⟩, st⟩ := r
  obtain rfl : res = none := hpass
  exact absurd h (by simp [run, exec])

end P11Prov
