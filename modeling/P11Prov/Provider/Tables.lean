import P11Prov.Provider
import Mathlib.Data.List.Infix

/-!
# The tables of algorithms

What `operations_init` leaves behind is what it writes, entry by entry, up to
the first entry there is no memory for (`operationsInit_snd`). What it writes
(`writes`) is what the mechanisms that *fire* add: those still on the checklist
when they are looked at, then the algorithms that are added after the loop, then
the ends of the tables.
-/

namespace P11Prov

/-! ## Writing the tables -/

section Writes

variable {alloc : Alloc} {t t' : Tables} {ws ws' : List (Operation × Option Algorithm)}
  {op : Operation}

/-- The entries written to the table of an operation. -/
def entries (ws : List (Operation × Option Algorithm)) (op : Operation) : List (Option Algorithm) :=
  (ws.filter (·.1 = op)).map (·.2)

@[simp] theorem entries_nil : entries [] op = [] := rfl

theorem entries_append : entries (ws ++ ws') = fun op => entries ws op ++ entries ws' op := by
  funext op
  simp [entries]

theorem entries_cons_self {alg : Option Algorithm} :
    entries ((op, alg) :: ws) op = alg :: entries ws op := by
  simp [entries]

theorem entries_cons_ne {op' : Operation} {alg : Option Algorithm} (h : op' ≠ op) :
    entries ((op, alg) :: ws) op' = entries ws op' := by
  simp [entries, Ne.symm h]

/-- There is memory for all entries to write. -/
def Room (alloc : Alloc) (t : Tables) (ws : List (Operation × Option Algorithm)) : Prop :=
  ∀ op i, (t op).length ≤ i → i < (t op).length + (entries ws op).length → i % algosAlloc = 0 →
    alloc op i

/-- The tables left behind, whether all was written or not. -/
def written : Except Tables Tables → Tables
  | .ok t => t
  | .error t => t

theorem algSetOps_append :
    algSetOps alloc t (ws ++ ws') = algSetOps alloc t ws >>= (algSetOps alloc · ws') := by
  induction ws generalizing t with
  | nil => rfl
  | cons w ws ih =>
    simp only [List.cons_append, algSetOps]
    cases algSetOp alloc t w.1 w.2 with
    | error t' => rfl
    | ok t' => exact ih

theorem algSetOps_of_room (h : Room alloc t ws) :
    algSetOps alloc t ws = .ok fun op => t op ++ entries ws op := by
  induction ws generalizing t with
  | nil => simp [algSetOps]
  | cons w ws ih =>
    obtain ⟨op, alg⟩ := w
    have hop : algSetOp alloc t op alg = .ok (Function.update t op (t op ++ [alg])) := by
      rw [algSetOp, if_neg]
      intro hfull
      simp only [Bool.and_eq_true, decide_eq_true_eq, Bool.not_eq_true'] at hfull
      have := h op (t op).length le_rfl (by simp [entries_cons_self]) hfull.1
      simp [hfull.2] at this
    have hroom : Room alloc (Function.update t op (t op ++ [alg])) ws := by
      intro op' i hi hi' h4
      by_cases e : op' = op
      · subst e
        simp only [Function.update_self, List.length_append, List.length_singleton] at hi hi'
        exact h op' i (by omega) (by rw [entries_cons_self, List.length_cons]; omega) h4
      · rw [Function.update_of_ne e] at hi hi'
        exact h op' i hi (by rwa [entries_cons_ne e]) h4
    simp only [algSetOps, hop]
    refine (ih hroom).trans ?_
    congr 1
    funext op'
    by_cases e : op' = op
    · subst e
      simp [entries_cons_self]
    · simp [entries_cons_ne e, Function.update_of_ne e]

/-- If there is not memory for all entries, then some table is left too short, and no table
    gets what does not belong there. -/
theorem algSetOps_of_not_room (h : ¬Room alloc t ws) : ∃ t', algSetOps alloc t ws = .error t' ∧
    (∀ op, t' op <+: t op ++ entries ws op) ∧ ∃ op, t' op ≠ t op ++ entries ws op := by
  induction ws generalizing t with
  | nil =>
    refine absurd (fun op i hi hi' => ?_) h
    simp only [entries_nil, List.length_nil] at hi'
    omega
  | cons w ws ih =>
    obtain ⟨op, alg⟩ := w
    have hne : ∀ op', Function.update t op (t op ++ [alg]) op' ++ entries ws op' =
        t op' ++ entries ((op, alg) :: ws) op' := by
      intro op'
      by_cases e : op' = op
      · subst e
        simp [entries_cons_self]
      · simp [entries_cons_ne e, Function.update_of_ne e]
    by_cases hop : (t op).length % algosAlloc = 0 ∧ alloc op (t op).length = false
    · refine ⟨t, ?_, fun op' => List.prefix_append .., op, by simp [entries_cons_self]⟩
      simp [algSetOps, algSetOp, hop.1, hop.2, bind, Except.bind]
    · have hset : algSetOp alloc t op alg = .ok (Function.update t op (t op ++ [alg])) := by
        rw [algSetOp, if_neg]
        simpa using hop
      have hroom : ¬Room alloc (Function.update t op (t op ++ [alg])) ws := by
        intro hroom
        refine h fun op' i hi hi' h4 => ?_
        by_cases e : op' = op
        · subst e
          rw [entries_cons_self, List.length_cons] at hi'
          by_cases hi0 : i = (t op').length
          · subst hi0
            by_contra ha
            exact hop ⟨h4, by simpa using ha⟩
          · refine hroom op' i ?_ ?_ h4
            · simp only [Function.update_self, List.length_append, List.length_singleton]
              omega
            · simp only [Function.update_self, List.length_append, List.length_singleton]
              omega
        · rw [entries_cons_ne e] at hi'
          exact hroom op' i (by rwa [Function.update_of_ne e]) (by rwa [Function.update_of_ne e]) h4
      obtain ⟨t', ht', hpre, op', hop'⟩ := ih hroom
      refine ⟨t', ?_, fun op => hne op ▸ hpre op, op', hne op' ▸ hop'⟩
      simp only [algSetOps, hset]
      exact ht'

theorem eq_of_algSetOps (h : algSetOps alloc t ws = .ok t') :
    t' = fun op => t op ++ entries ws op := by
  by_cases hroom : Room alloc t ws
  · rw [algSetOps_of_room hroom] at h
    exact (Except.ok.inj h).symm
  · obtain ⟨t'', ht'', -⟩ := algSetOps_of_not_room hroom
    rw [ht''] at h
    cases h

/-- All entries are stored if and only if there is memory for them. -/
theorem algSetOps_ok_iff : (∃ t', algSetOps alloc t ws = .ok t') ↔ Room alloc t ws := by
  constructor
  · rintro ⟨t', ht'⟩
    by_contra hroom
    obtain ⟨t'', ht'', -⟩ := algSetOps_of_not_room hroom
    rw [ht'] at ht''
    cases ht''
  · exact fun h => ⟨_, algSetOps_of_room h⟩

/-- All tables are complete if and only if there is memory for all entries. -/
theorem written_eq_iff :
    (∀ op, written (algSetOps alloc t ws) op = t op ++ entries ws op) ↔ Room alloc t ws := by
  constructor
  · intro h
    by_contra hroom
    obtain ⟨t', ht', -, op, hop⟩ := algSetOps_of_not_room hroom
    exact hop (by simpa [ht', written] using h op)
  · intro h op
    rw [algSetOps_of_room h]
    rfl

theorem written_prefix : written (algSetOps alloc t ws) op <+: t op ++ entries ws op := by
  by_cases h : Room alloc t ws
  · rw [written_eq_iff.2 h op]
  · obtain ⟨t', ht', hpre, -⟩ := algSetOps_of_not_room h
    rw [ht']
    exact hpre op

/-- Entries of other tables make no difference. -/
theorem written_append (h : entries ws' op = []) :
    written (algSetOps alloc t (ws ++ ws')) op = written (algSetOps alloc t ws) op := by
  rw [algSetOps_append]
  cases hws : algSetOps alloc t ws with
  | error t' => rfl
  | ok t' =>
    have hpre : written (algSetOps alloc t' ws') op <+: t' op ++ entries ws' op := written_prefix
    have hlen : ∀ {ws t₁}, t₁ op <+: written (algSetOps alloc t₁ ws) op := by
      intro ws
      induction ws with
      | nil => exact List.prefix_rfl
      | cons w ws ih =>
        intro t₁
        simp only [algSetOps, algSetOp]
        split
        · exact List.prefix_rfl
        · refine List.IsPrefix.trans ?_ ih
          by_cases e : op = w.1
          · subst e
            simp
          · simp [Function.update_of_ne e]
    rw [h, List.append_nil] at hpre
    exact hpre.eq_of_length_le (hlen.length_le)

theorem algEntries_append {prop : Properties} {l l' : List (Operation × AlgName)} :
    algEntries prop (l ++ l') = algEntries prop l ++ algEntries prop l' := List.map_append

end Writes

/-! ## The mechanisms that fire -/

/-- The algorithms that a case adds to the table of an operation, in the loop or after it. -/
def Case.offers (c : Case) (op : Operation) : List AlgName :=
  (c.algos.filter (·.1 = op)).map (·.2) ++
    (if c.addRsasig ∧ op = .signature then [.rsa] else []) ++
    (if c.addEcdsasig ∧ op = .signature then [.ecdsa] else []) ++
    if c.addRsaenc ∧ op = .asymCipher then [.rsa] else []

/-- The algorithms that a mechanism offers for an operation. -/
def offered (b : Build) (mech : Nat) (op : Operation) : List AlgName :=
  (mechCase b mech).elim [] (·.offers op)

/-- The mechanisms that are on the checklist when they are looked at, with their cases. -/
def fired (b : Build) : List Nat → List Nat → List (Nat × Case)
  | _, [] => []
  | cl, mech :: mechs =>
    match mechCase b mech with
    | none => fired b cl mechs
    | some c =>
      if cl.contains mech then (mech, c) :: fired b (algRmMechs cl c.uncheck) mechs
      else fired b cl mechs

/-- The checklist after some mechanisms. -/
def unchecked (b : Build) : List Nat → List Nat → List Nat
  | cl, [] => cl
  | cl, mech :: mechs =>
    match mechCase b mech with
    | none => unchecked b cl mechs
    | some c => unchecked b (if cl.contains mech then algRmMechs cl c.uncheck else cl) mechs

section Loop

variable {b : Build} {alloc : Alloc} {prop : Properties} {s : OpsInit} {mechs : List Nat}

/-- The variables after the loop, given the tables. -/
def afterLoop (b : Build) (s : OpsInit) (mechs : List Nat) (t : Tables) : OpsInit where
  checklist := unchecked b s.checklist mechs
  tables := t
  addRsasig := s.addRsasig || (fired b s.checklist mechs).any (·.2.addRsasig)
  addRsaenc := s.addRsaenc || (fired b s.checklist mechs).any (·.2.addRsaenc)
  addEcdsasig := s.addEcdsasig || (fired b s.checklist mechs).any (·.2.addEcdsasig)

/-- What the loop over the mechanisms writes. -/
def loopAlgos (b : Build) (cl mechs : List Nat) : List (Operation × AlgName) :=
  (fired b cl mechs).flatMap (·.2.algos)

/-- The variables after a mechanism that fires. -/
def afterCase (s : OpsInit) (c : Case) (t : Tables) : OpsInit where
  checklist := algRmMechs s.checklist c.uncheck
  tables := t
  addRsasig := s.addRsasig || c.addRsasig
  addRsaenc := s.addRsaenc || c.addRsaenc
  addEcdsasig := s.addEcdsasig || c.addEcdsasig

/-! A mechanism that does not fire changes nothing. -/

theorem initMech_skip {mech : Nat} (h : ∀ c, mechCase b mech = some c → mech ∉ s.checklist) :
    initMech b alloc prop s mech = .ok s := by
  cases hc : mechCase b mech with
  | none => simp [initMech, hc]
  | some c => simp [initMech, h c hc]

theorem fired_skip {cl : List Nat} {mech : Nat} (h : ∀ c, mechCase b mech = some c → mech ∉ cl) :
    fired b cl (mech :: mechs) = fired b cl mechs := by
  cases hc : mechCase b mech with
  | none => simp [fired, hc]
  | some c => simp [fired, hc, h c hc]

theorem afterLoop_skip {mech : Nat} (h : ∀ c, mechCase b mech = some c → mech ∉ s.checklist) :
    afterLoop b s (mech :: mechs) = afterLoop b s mechs := by
  funext t
  simp only [afterLoop, fired_skip h, unchecked]
  cases hc : mechCase b mech with
  | none => rfl
  | some c => simp [h c hc]

theorem fired_cons {cl : List Nat} {mech : Nat} {c : Case} (hc : mechCase b mech = some c)
    (hcl : mech ∈ cl) :
    fired b cl (mech :: mechs) = (mech, c) :: fired b (algRmMechs cl c.uncheck) mechs := by
  simp [fired, hc, hcl]

theorem afterLoop_cons {mech : Nat} {c : Case} {t t' : Tables} (hc : mechCase b mech = some c)
    (hcl : mech ∈ s.checklist) :
    afterLoop b s (mech :: mechs) t' = afterLoop b (afterCase s c t) mechs t' := by
  simp [afterLoop, afterCase, fired_cons hc hcl, unchecked, hc, hcl, Bool.or_assoc]

theorem foldlM_initMech : mechs.foldlM (initMech b alloc prop) s =
    (algSetOps alloc s.tables (algEntries prop (loopAlgos b s.checklist mechs))).map
      (afterLoop b s mechs) := by
  induction mechs generalizing s with
  | nil =>
    simp [algSetOps, loopAlgos, fired, unchecked, afterLoop, algEntries, Except.map, pure,
      Except.pure]
  | cons mech mechs ih =>
    rw [List.foldlM_cons]
    by_cases hfire : ∃ c, mechCase b mech = some c ∧ mech ∈ s.checklist
    · obtain ⟨c, hc, hcl⟩ := hfire
      simp only [initMech, List.contains_iff_mem, hcl, hc, ↓reduceIte, loopAlgos, fired_cons hc hcl,
        List.flatMap_cons, algEntries_append, algSetOps_append]
      cases algSetOps alloc s.tables (algEntries prop c.algos) with
      | error t => rfl
      | ok t =>
        refine (ih (s := afterCase s c t)).trans ?_
        exact congrArg (Except.map · _) (funext fun t' => (afterLoop_cons hc hcl).symm)
    · have h : ∀ c, mechCase b mech = some c → mech ∉ s.checklist :=
        fun c hc hcl => hfire ⟨c, hc, hcl⟩
      rw [initMech_skip h, loopAlgos, fired_skip h, afterLoop_skip h]
      exact ih

theorem initSlot_eq : initSlot b alloc prop s mechs = mechs.foldlM (initMech b alloc prop) s := by
  induction mechs generalizing s with
  | nil => rfl
  | cons mech mechs ih =>
    rw [initSlot, List.foldlM_cons]
    split
    · rename_i hs
      -- nothing is found on the empty checklist
      have hskip : ∀ l : List Nat, l.foldlM (initMech b alloc prop) s = .ok s := by
        intro l
        induction l with
        | nil => rfl
        | cons m l ih' =>
          rw [List.foldlM_cons, initMech, hs]
          exact ih'
      exact (hskip (mech :: mechs)).symm
    · exact congrArg _ (funext fun s => ih)

theorem initSlots_eq {slots : List (List Nat)} :
    initSlots b alloc prop s slots = slots.flatten.foldlM (initMech b alloc prop) s := by
  induction slots generalizing s with
  | nil => rfl
  | cons mechs slots ih =>
    rw [initSlots, List.flatten_cons, List.foldlM_append, initSlot_eq]
    exact congrArg _ (funext fun s => ih)

end Loop

/-! ## What is written in all -/

section Tables

variable {b : Build} {alloc : Alloc} {prop : Properties} {mechs : List Nat} {op : Operation}

/-- The algorithms that are added for the mechanisms, in the loop and after it. -/
def algosFor (b : Build) (mechs : List Nat) : List (Operation × AlgName) :=
  loopAlgos b (checklist b) mechs ++
    lateAlgos (afterLoop b { checklist := checklist b } mechs fun _ => [])

/-- The names added to the table of an operation. -/
def namesFor (b : Build) (mechs : List Nat) (op : Operation) : List AlgName :=
  ((algosFor b mechs).filter (·.1 = op)).map (·.2)

/-- What is written before the random numbers are looked at. -/
def writes (b : Build) (prop : Properties) (mechs : List Nat) :
    List (Operation × Option Algorithm) :=
  algEntries prop (algosFor b mechs) ++
    termAlgos (tableOps b) (entries (algEntries prop (algosFor b mechs)))

/-- A table with its end, if there is one at all. -/
def terminated (l : List Algorithm) : List (Option Algorithm) :=
  if l = [] then [] else l.map some ++ [none]

theorem operationsInit_fst {checkRandom : CkRv} {slots : List (List Nat)} :
    (operationsInit b alloc prop checkRandom slots).1 = Ckr.ok := by
  rw [operationsInit]
  split <;> rfl

/-- What is written for random numbers, which come last. -/
def randomWrites (prop : Properties) (checkRandom : CkRv) : List (Operation × Option Algorithm) :=
  if checkRandom = Ckr.ok then algEntries prop [(.random, .rand)] ++ [(.random, none)] else []

theorem entries_randomWrites {checkRandom : CkRv} (hop : op ≠ .random) :
    entries (randomWrites prop checkRandom) op = [] := by
  rw [randomWrites]
  split
  · simp [entries, algEntries, Ne.symm hop]
  · rfl

/-- The end of `operations_init`. -/
theorem finishOps_eq {checkRandom : CkRv} {s : OpsInit} : finishOps b alloc prop checkRandom s =
    algSetOps alloc s.tables (algEntries prop (lateAlgos s) ++ termAlgos (tableOps b)
      (fun op => s.tables op ++ entries (algEntries prop (lateAlgos s)) op) ++
        randomWrites prop checkRandom) := by
  have hrandom (t : Tables) : algSetOps alloc t (randomWrites prop checkRandom) =
      if checkRandom = Ckr.ok then
        algSetOps alloc t (algEntries prop [(.random, .rand)] ++ [(.random, none)])
      else pure t := by
    rw [randomWrites]
    split <;> rfl
  rw [finishOps, List.append_assoc, algSetOps_append]
  cases h₁ : algSetOps alloc s.tables (algEntries prop (lateAlgos s)) with
  | error t => rfl
  | ok t =>
    obtain rfl := eq_of_algSetOps h₁
    exact (algSetOps_append.trans (congrArg _ (funext hrandom))).symm

/-- The loop and the end of `operations_init` write entry after entry. -/
theorem initSlots_finishOps {checkRandom : CkRv} {slots : List (List Nat)} :
    initSlots b alloc prop { checklist := checklist b } slots >>=
        finishOps b alloc prop checkRandom =
      algSetOps alloc (fun _ => [])
        (writes b prop slots.flatten ++ randomWrites prop checkRandom) := by
  rw [initSlots_eq, foldlM_initMech, writes, algosFor, algEntries_append, List.append_assoc,
    List.append_assoc, algSetOps_append]
  cases h₁ : algSetOps alloc (fun _ => []) (algEntries prop (loopAlgos b (checklist b) slots.flatten))
    with
  | error t => rfl
  | ok t =>
    obtain rfl := eq_of_algSetOps h₁
    refine (finishOps_eq (s := afterLoop b { checklist := checklist b } slots.flatten _)).trans ?_
    simp only [List.nil_append, entries_append, List.append_assoc]
    rfl

theorem operationsInit_snd {checkRandom : CkRv} {slots : List (List Nat)} (hop : op ≠ .random) :
    (operationsInit b alloc prop checkRandom slots).2 op =
      written (algSetOps alloc (fun _ => []) (writes b prop slots.flatten)) op := by
  have hsnd : (operationsInit b alloc prop checkRandom slots).2 =
      written (initSlots b alloc prop { checklist := checklist b } slots >>=
        finishOps b alloc prop checkRandom) := by
    rw [operationsInit]
    cases initSlots b alloc prop { checklist := checklist b } slots >>=
      finishOps b alloc prop checkRandom with
    | ok t => rfl
    | error t => rfl
  rw [hsnd, initSlots_finishOps, written_append (entries_randomWrites hop)]

theorem entries_algEntries {l : List (Operation × AlgName)} : entries (algEntries prop l) op =
    (((l.filter (·.1 = op)).map (·.2)).map ({ names := ·, prop })).map some := by
  induction l with
  | nil => rfl
  | cons x l ih =>
    obtain ⟨op', name⟩ := x
    by_cases e : op = op'
    · subst e
      simpa [entries, algEntries] using ih
    · simpa [entries, algEntries, Ne.symm e] using ih

theorem entries_termAlgos {ops : List Operation} (hnd : ops.Nodup) {t : Tables} :
    entries (termAlgos ops t) op = if op ∈ ops ∧ t op ≠ [] then [none] else [] := by
  induction ops with
  | nil => rfl
  | cons o ops ih =>
    obtain ⟨ho, hnd⟩ := List.nodup_cons.1 hnd
    have hcons : termAlgos (o :: ops) t =
        (if t o = [] then [] else [(o, none)]) ++ termAlgos ops t := by
      by_cases ht : t o = []
      · simp [termAlgos, ht]
      · simp [termAlgos, ht]
    rw [hcons, entries_append]
    beta_reduce
    rw [ih hnd]
    by_cases e : op = o
    · subst e
      by_cases ht : t op = []
      · simp [ht]
      · simp [ht, ho, entries]
    · by_cases ht : t o = []
      · simp [ht, e]
      · simp [ht, e, Ne.symm e, entries]

end Tables

end P11Prov
