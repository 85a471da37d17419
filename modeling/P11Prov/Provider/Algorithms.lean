import P11Prov.Provider.Tables
import Mathlib.Data.List.Dedup
import Mathlib.Data.List.Flatten

/-!
# Which algorithms are offered

A mechanism is taken off the checklist by itself, and by others that offer all
that it offers: then it makes no difference in which order they come. The one
exception is `CKM_RSA_PKCS`, which signs and encrypts, and is taken off by the
mechanisms that do only one of the two. `operationsInit_offers_iff` says when
this matters.
-/

namespace P11Prov

/-! ## Facts about the cases -/

section Facts

set_option maxRecDepth 10000

/-- What holds of all builds can be checked on the four of them. -/
theorem forall_build {p : Build → Prop} (h : ∀ sm sk, p ⟨sm, sk⟩) : ∀ b, p b :=
  fun b => h b.signMessage b.skeySupport

variable (b : Build)

/-- The mechanisms of a case are on the checklist, and it takes them off. -/
theorem switch_uncheck : ∀ e ∈ switch b, ∀ m ∈ e.1, m ∈ checklist b ∧ m ∈ e.2.uncheck := by
  revert b
  refine forall_build ?_
  decide

/-- What a case adds belongs to tables that are terminated. -/
theorem switch_tableOps : ∀ e ∈ switch b, ∀ x ∈ e.2.algos, x.1 ∈ tableOps b := by
  revert b
  refine forall_build ?_
  decide

/-- No two cases add the same algorithm, and none adds what is added after the loop. -/
theorem switch_nodup : ∀ e ∈ switch b, e.2.algos.Nodup ∧
    (∀ z ∈ e.2.algos, z ≠ (.signature, .rsa) ∧ z ≠ (.signature, .ecdsa) ∧ z ≠ (.asymCipher, .rsa)) ∧
    ∀ e' ∈ switch b, ∀ z ∈ e.2.algos, z ∈ e'.2.algos → e' = e := by
  obtain ⟨sm, sk⟩ := b
  cases sm <;> cases sk <;> decide

/-- A mechanism other than `CKM_RSA_PKCS` is only taken off by cases that offer all it offers. -/
theorem switch_covers : ∀ e ∈ switch b, ∀ m ∈ e.2.uncheck, ∀ e' ∈ switch b, m ∈ e'.1 →
    m ≠ Ckm.rsaPkcs → ∀ op ∈ tableOps b, e'.2.offers op ⊆ e.2.offers op := by
  revert b
  refine forall_build ?_
  decide

/-- `CKM_RSA_PKCS` is taken off by itself and by those that only encrypt, and in older builds by
    those that sign. -/
theorem switch_rsaPkcs : ∀ e ∈ switch b, Ckm.rsaPkcs ∈ e.2.uncheck → e.1 = [Ckm.rsaPkcs] ∨
    e.1 = rsaOnlyEncMechs ∨ b.signMessage = false ∧ e.1 = rsaShaMechs := by
  revert b
  refine forall_build ?_
  decide

/-- Who registers RSA signatures, and who RSA encryption. -/
theorem switch_rsa : ∀ e ∈ switch b, ∀ m ∈ e.1,
    (.rsa ∈ e.2.offers .signature → m ∈ rsaSigMechs ++ rsapssSigMechs) ∧
    (.rsa ∈ e.2.offers .asymCipher → m ∈ rsaEncMechs) := by
  revert b
  refine forall_build ?_
  decide

theorem rsa_mem_offered_signature :
    ∀ m ∈ rsaSigMechs ++ rsapssSigMechs, .rsa ∈ offered b m .signature := by
  revert b
  refine forall_build ?_
  decide

theorem rsa_mem_offered_asymCipher : ∀ m ∈ rsaEncMechs, .rsa ∈ offered b m .asymCipher := by
  revert b
  refine forall_build ?_
  decide

/-- Who takes `CKM_RSA_PKCS` off the checklist. -/
theorem rsaPkcs_mem_uncheck : ∀ m ∈ rsaOnlyEncMechs ++ (if b.signMessage then [] else rsaShaMechs),
    (mechCase b m).any (·.uncheck.contains Ckm.rsaPkcs) := by
  revert b
  refine forall_build ?_
  decide

/-- `CKM_RSA_PKCS` offers RSA signatures and RSA encryption. -/
theorem offered_rsaPkcs {op : Operation} {a : AlgName} (h : a ∈ offered b Ckm.rsaPkcs op) :
    a = .rsa ∧ (op = .signature ∨ op = .asymCipher) := by
  have hall : ∀ op ∈ tableOps b ++ [.random, .cipher], ∀ a ∈ offered b Ckm.rsaPkcs op,
      a = .rsa ∧ (op = .signature ∨ op = .asymCipher) := by
    clear h
    revert b
    refine forall_build ?_
    decide
  refine hall op ?_ a h
  cases op <;> simp [tableOps]

end Facts

/-! ## Who fires -/

section Fired

variable {b : Build} {cl mechs : List Nat} {m : Nat} {c : Case} {op : Operation} {a : AlgName}

theorem mem_switch (h : mechCase b m = some c) : ∃ e ∈ switch b, m ∈ e.1 ∧ e.2 = c := by
  obtain ⟨e, he, rfl⟩ := Option.map_eq_some_iff.1 h
  exact ⟨e, List.mem_of_find?_eq_some he, by simpa using List.find?_some he, rfl⟩

theorem mem_checklist (h : mechCase b m = some c) : m ∈ checklist b := by
  obtain ⟨e, he, hm, -⟩ := mem_switch h
  exact (switch_uncheck b e he m hm).1

/-- Only mechanisms that are there and on the checklist fire. -/
theorem mem_fired {x : Nat × Case} (h : x ∈ fired b cl mechs) :
    x.1 ∈ cl ∧ x.1 ∈ mechs ∧ mechCase b x.1 = some x.2 := by
  induction mechs generalizing cl with
  | nil => cases h
  | cons m mechs ih =>
    by_cases hfire : ∃ c, mechCase b m = some c ∧ m ∈ cl
    · obtain ⟨c, hc, hcl⟩ := hfire
      rw [fired_cons hc hcl] at h
      rcases List.mem_cons.1 h with rfl | h
      · exact ⟨hcl, List.mem_cons_self, hc⟩
      · obtain ⟨h₁, h₂, h₃⟩ := ih h
        exact ⟨(List.mem_filter.1 h₁).1, List.mem_cons_of_mem m h₂, h₃⟩
    · rw [fired_skip fun c hc hcl => hfire ⟨c, hc, hcl⟩] at h
      obtain ⟨h₁, h₂, h₃⟩ := ih h
      exact ⟨h₁, List.mem_cons_of_mem m h₂, h₃⟩

/-- What fires is not taken off by what fired before. -/
theorem fired_pairwise : (fired b cl mechs).Pairwise fun x y => y.1 ∉ x.2.uncheck := by
  induction mechs generalizing cl with
  | nil => exact .nil
  | cons m mechs ih =>
    by_cases hfire : ∃ c, mechCase b m = some c ∧ m ∈ cl
    · obtain ⟨c, hc, hcl⟩ := hfire
      rw [fired_cons hc hcl]
      refine .cons (fun y hy => ?_) ih
      have := (mem_fired hy).1
      rw [algRmMechs, List.mem_filter] at this
      simpa using this.2
    · rw [fired_skip fun c hc hcl => hfire ⟨c, hc, hcl⟩]
      exact ih

/-- A mechanism on the checklist is taken off by one that fires, which may be itself. -/
theorem exists_fired (hm : m ∈ mechs) (hcl : m ∈ cl) (hc : mechCase b m = some c) :
    ∃ x ∈ fired b cl mechs, m ∈ x.2.uncheck := by
  induction mechs generalizing cl with
  | nil => cases hm
  | cons m' mechs ih =>
    by_cases hfire : ∃ c', mechCase b m' = some c' ∧ m' ∈ cl
    · obtain ⟨c', hc', hcl'⟩ := hfire
      rw [fired_cons hc' hcl']
      by_cases hrm : m ∈ c'.uncheck
      · exact ⟨_, List.mem_cons_self, hrm⟩
      · have hne : m ≠ m' := by
          rintro rfl
          obtain ⟨e, he, hm', rfl⟩ := mem_switch hc'
          exact hrm (switch_uncheck b e he m hm').2
        have hcl'' : m ∈ algRmMechs cl c'.uncheck := by
          rw [algRmMechs, List.mem_filter]
          exact ⟨hcl, by simpa using hrm⟩
        obtain ⟨x, hx, hx'⟩ := ih ((List.mem_cons.1 hm).resolve_left hne) hcl''
        exact ⟨x, List.mem_cons_of_mem _ hx, hx'⟩
    · have hskip : ∀ c, mechCase b m' = some c → m' ∉ cl := fun c' hc' hcl' => hfire ⟨c', hc', hcl'⟩
      rw [fired_skip hskip]
      refine ih ((List.mem_cons.1 hm).resolve_left ?_) hcl
      rintro rfl
      exact hskip c hc hcl

theorem mem_offered : a ∈ offered b m op ↔ ∃ c, mechCase b m = some c ∧ a ∈ c.offers op := by
  rw [offered]
  cases mechCase b m with
  | none => simp
  | some c => simp

variable (b m) in
theorem offered_rsa :
    (.rsa ∈ offered b m .signature → m ∈ rsaSigMechs ++ rsapssSigMechs) ∧
    (.rsa ∈ offered b m .asymCipher → m ∈ rsaEncMechs) := by
  constructor
  all_goals
    intro h
    obtain ⟨c, hc, h⟩ := mem_offered.1 h
    obtain ⟨e, he, hm, rfl⟩ := mem_switch hc
  · exact (switch_rsa b e he m hm).1 h
  · exact (switch_rsa b e he m hm).2 h

/-- What a mechanism other than `CKM_RSA_PKCS` offers is offered by one that fires. -/
theorem exists_fired_offers (hm : m ∈ mechs) (hne : m ≠ Ckm.rsaPkcs) (hop : op ∈ tableOps b)
    (ha : a ∈ offered b m op) : ∃ x ∈ fired b (checklist b) mechs, a ∈ x.2.offers op := by
  obtain ⟨c, hc, ha⟩ := mem_offered.1 ha
  obtain ⟨x, hx, hmx⟩ := exists_fired hm (mem_checklist hc) hc
  obtain ⟨e, he, hme, rfl⟩ := mem_switch hc
  obtain ⟨e', he', -, hxe⟩ := mem_switch (mem_fired hx).2.2
  exact ⟨x, hx, hxe ▸ switch_covers b e' he' m (hxe ▸ hmx) e he hme hne op hop ha⟩

theorem mem_offers : a ∈ c.offers op ↔ (op, a) ∈ c.algos ∨ (c.addRsasig ∧ op = .signature ∧ a = .rsa) ∨
    (c.addEcdsasig ∧ op = .signature ∧ a = .ecdsa) ∨ (c.addRsaenc ∧ op = .asymCipher ∧ a = .rsa) := by
  simp only [Case.offers, List.mem_append, List.mem_map, List.mem_filter, decide_eq_true_eq,
    List.mem_ite_nil_right, List.mem_singleton, Prod.exists, or_assoc, and_assoc]
  refine or_congr ⟨?_, fun h => ⟨op, a, h, rfl, rfl⟩⟩ Iff.rfl
  rintro ⟨_, _, h, rfl, rfl⟩
  exact h

theorem mem_lateAlgos {s : OpsInit} : (op, a) ∈ lateAlgos s ↔
    (s.addRsasig ∧ op = .signature ∧ a = .rsa) ∨ (s.addEcdsasig ∧ op = .signature ∧ a = .ecdsa) ∨
      (s.addRsaenc ∧ op = .asymCipher ∧ a = .rsa) := by
  simp [lateAlgos]

/-- The algorithms added are those offered by the mechanisms that fire. -/
theorem mem_namesFor :
    a ∈ namesFor b mechs op ↔ ∃ x ∈ fired b (checklist b) mechs, a ∈ x.2.offers op := by
  have hmem : a ∈ namesFor b mechs op ↔ (op, a) ∈ algosFor b mechs := by
    simp only [namesFor, List.mem_map, List.mem_filter, decide_eq_true_eq, Prod.exists]
    constructor
    · rintro ⟨_, _, ⟨h, rfl⟩, rfl⟩
      exact h
    · exact fun h => ⟨op, a, ⟨h, rfl⟩, rfl⟩
  rw [hmem, algosFor, List.mem_append, mem_lateAlgos]
  simp only [loopAlgos, List.mem_flatMap, afterLoop, Bool.false_or, List.any_eq_true, mem_offers]
  constructor
  · rintro (⟨x, hx, h⟩ | ⟨⟨x, hx, h⟩, h'⟩ | ⟨⟨x, hx, h⟩, h'⟩ | ⟨⟨x, hx, h⟩, h'⟩)
    · exact ⟨x, hx, .inl h⟩
    · exact ⟨x, hx, .inr (.inl ⟨h, h'⟩)⟩
    · exact ⟨x, hx, .inr (.inr (.inl ⟨h, h'⟩))⟩
    · exact ⟨x, hx, .inr (.inr (.inr ⟨h, h'⟩))⟩
  · rintro ⟨x, hx, h | ⟨h, h'⟩ | ⟨h, h'⟩ | ⟨h, h'⟩⟩
    · exact .inl ⟨x, hx, h⟩
    · exact .inr (.inl ⟨⟨x, hx, h⟩, h'⟩)
    · exact .inr (.inr (.inl ⟨⟨x, hx, h⟩, h'⟩))
    · exact .inr (.inr (.inr ⟨⟨x, hx, h⟩, h'⟩))

theorem loopAlgos_nodup : (loopAlgos b cl mechs).Nodup := by
  rw [loopAlgos, List.nodup_flatMap]
  refine ⟨fun x hx => ?_, fired_pairwise.imp_of_mem fun {x y} hx hy hxy => ?_⟩
  · obtain ⟨e, he, -, he'⟩ := mem_switch (mem_fired hx).2.2
    exact he' ▸ (switch_nodup b e he).1
  · intro z hzx hzy
    obtain ⟨e, he, -, hex⟩ := mem_switch (mem_fired hx).2.2
    obtain ⟨e', he', hm', hey⟩ := mem_switch (mem_fired hy).2.2
    obtain rfl := (switch_nodup b e he).2.2 e' he' z (hex ▸ hzx) (hey ▸ hzy)
    exact hxy (hex ▸ (switch_uncheck b e' he y.1 hm').2)

theorem namesFor_nodup : (namesFor b mechs op).Nodup := by
  have hlate : ∀ s : OpsInit, (lateAlgos s).Nodup := by
    intro s
    simp only [lateAlgos]
    cases s.addRsasig <;> cases s.addEcdsasig <;> cases s.addRsaenc <;> decide
  have hall : (algosFor b mechs).Nodup := by
    refine loopAlgos_nodup.append (hlate _) ?_
    rintro ⟨op', a'⟩ hz hz'
    obtain ⟨x, hx, hz⟩ := List.mem_flatMap.1 hz
    obtain ⟨e, he, -, hex⟩ := mem_switch (mem_fired hx).2.2
    obtain ⟨h₁, h₂, h₃⟩ := (switch_nodup b e he).2.1 _ (hex ▸ hz)
    rcases mem_lateAlgos.1 hz' with ⟨-, rfl, rfl⟩ | ⟨-, rfl, rfl⟩ | ⟨-, rfl, rfl⟩
    · exact h₁ rfl
    · exact h₂ rfl
    · exact h₃ rfl
  refine (hall.filter _).map_on fun x hx y hy h => ?_
  simp only [List.mem_filter, decide_eq_true_eq] at hx hy
  exact Prod.ext (hx.2.trans hy.2.symm) h

/-- Only tables that are terminated get anything. -/
theorem mem_tableOps (ha : a ∈ c.offers op) (hc : mechCase b m = some c) : op ∈ tableOps b := by
  obtain ⟨e, he, -, rfl⟩ := mem_switch hc
  rcases mem_offers.1 ha with h | ⟨-, rfl, -⟩ | ⟨-, rfl, -⟩ | ⟨-, rfl, -⟩
  · exact switch_tableOps b e he _ h
  all_goals simp [tableOps]

theorem tableOps_nodup : (tableOps b).Nodup := by
  simp only [tableOps]
  cases b.skeySupport <;> decide

theorem namesFor_random : namesFor b mechs .random = [] := by
  rw [List.eq_nil_iff_forall_not_mem]
  intro a ha
  obtain ⟨x, hx, ha⟩ := mem_namesFor.1 ha
  have := mem_tableOps ha (mem_fired hx).2.2
  cases hb : b.skeySupport <;> simp [tableOps, hb] at this

theorem entries_writes {prop : Properties} :
    entries (writes b prop mechs) op = terminated ((namesFor b mechs op).map ({ names := ·, prop })) := by
  rw [writes, entries_append]
  beta_reduce
  rw [entries_termAlgos tableOps_nodup, entries_algEntries]
  by_cases hn : namesFor b mechs op = []
  · simp only [namesFor] at hn
    simp [hn, terminated, namesFor]
  · obtain ⟨a, ha⟩ := List.exists_mem_of_ne_nil _ hn
    obtain ⟨x, hx, ha⟩ := mem_namesFor.1 ha
    have hne : (namesFor b mechs op).map ({ names := ·, prop } : AlgName → Algorithm) ≠ [] := by
      simpa using hn
    have hne' : (((namesFor b mechs op).map ({ names := ·, prop } : AlgName → Algorithm)).map some) ≠
        [] := fun e => hne (List.map_eq_nil_iff.1 e)
    rw [terminated, if_neg hne, if_pos ⟨mem_tableOps ha (mem_fired hx).2.2, hne'⟩]
    rfl

end Fired

/-! ## The algorithms offered -/

/-- The slots in another order, and the mechanisms of each of them in another order. -/
def SlotsPerm (slots slots' : List (List Nat)) : Prop :=
  ∃ mid, slots.Perm mid ∧ List.Forall₂ List.Perm mid slots'

/-- The tables, but for that of random numbers, depend only on what is supported: they do not
    change with the order of the slots and mechanisms, they have every algorithm once and one
    empty entry at the end, and they have those algorithms that some mechanism registers when it
    is the only one. -/
structure OffersSupported (b : Build) (alloc : Alloc) (prop : Properties) (checkRandom : CkRv)
    (slots : List (List Nat)) : Prop where
  perm : ∀ slots', SlotsPerm slots slots' → ∀ op ≠ .random, ∀ alg,
    some alg ∈ (operationsInit b alloc prop checkRandom slots').2 op ↔
      some alg ∈ (operationsInit b alloc prop checkRandom slots).2 op
  table : ∀ op ≠ .random, ∃ l : List Algorithm, l.Nodup ∧
    (operationsInit b alloc prop checkRandom slots).2 op = terminated l
  supported : ∀ op ≠ .random, ∀ alg,
    some alg ∈ (operationsInit b alloc prop checkRandom slots).2 op ↔ ∃ mechs ∈ slots, ∃ m ∈ mechs,
      some alg ∈ (operationsInit b (fun _ _ => true) prop checkRandom [[m]]).2 op

/-- `CKM_RSA_PKCS` can do without being looked at: if a mechanism that only encrypts is there,
    then also another one that signs, and in older builds, if one that signs with a digest is
    there, then also one that encrypts. -/
def RsaPkcsDispensable (b : Build) (mechs : List Nat) : Prop := Ckm.rsaPkcs ∈ mechs →
  ((∃ m ∈ mechs, m ∈ rsaOnlyEncMechs) → ∃ m ∈ mechs, m ∈ rsaShaMechs ++ rsapssSigMechs) ∧
  (b.signMessage = false → (∃ m ∈ mechs, m ∈ rsaShaMechs) → ∃ m ∈ mechs, m ∈ rsaOnlyEncMechs)

/-- The number of algorithms that some mechanism offers for an operation. -/
def numOffered (b : Build) (mechs : List Nat) (op : Operation) : Nat :=
  (mechs.flatMap (offered b · op)).dedup.length

/-- There is memory for the algorithms offered and the empty entries after them. -/
def Enough (b : Build) (alloc : Alloc) (mechs : List Nat) : Prop :=
  ∀ op ≠ .random, numOffered b mechs op ≠ 0 → ∀ i ≤ numOffered b mechs op, i % algosAlloc = 0 →
    alloc op i

section Offers

variable {b : Build} {alloc : Alloc} {prop : Properties} {checkRandom : CkRv}
  {slots slots' : List (List Nat)} {mechs : List Nat} {op : Operation} {alg : Algorithm}

theorem SlotsPerm.flatten (h : SlotsPerm slots slots') : slots.flatten.Perm slots'.flatten := by
  obtain ⟨mid, h₁, h₂⟩ := h
  refine h₁.flatten.trans ?_
  clear h₁
  induction h₂ with
  | nil => exact .nil
  | cons h _ ih => exact h.append ih

theorem some_mem_terminated {l : List Algorithm} : some alg ∈ terminated l ↔ alg ∈ l := by
  by_cases h : l = []
  · simp [terminated, h]
  · simp [terminated, h]

/-- A table that is cut off has no end. -/
theorem eq_nil_of_prefix {l l' : List Algorithm} (h : terminated l' <+: terminated l)
    (hne : terminated l' ≠ terminated l) : l' = [] := by
  by_contra hl'
  have hl : l ≠ [] := by
    rintro rfl
    simp [terminated, hl'] at h
  simp only [terminated, hl, hl', ↓reduceIte] at h hne
  have hpre : l'.map some ++ [none] <+: l.map some := by
    rcases List.prefix_concat_iff.1 h with e | e
    · exact absurd e hne
    · exact e
  have : none ∈ l.map some := hpre.subset (by simp)
  simp at this

/-- The table is complete, or cut off. -/
theorem table_initial (hop : op ≠ .random) : (operationsInit b alloc prop checkRandom slots).2 op <+:
    terminated ((namesFor b slots.flatten op).map ({ names := ·, prop })) := by
  rw [operationsInit_snd hop, ← entries_writes]
  have hpre : written (algSetOps alloc (fun _ => []) (writes b prop slots.flatten)) op <+: _ :=
    written_prefix
  simpa using hpre

theorem mem_namesFor_of_mem (hop : op ≠ .random)
    (h : some alg ∈ (operationsInit b alloc prop checkRandom slots).2 op) :
    alg.prop = prop ∧ alg.names ∈ namesFor b slots.flatten op := by
  have h' := (table_initial hop).subset h
  rw [some_mem_terminated, List.mem_map] at h'
  obtain ⟨name, hname, rfl⟩ := h'
  exact ⟨rfl, hname⟩

/-- With enough memory the table is complete. -/
theorem table_eq (hop : op ≠ .random)
    (h : ∀ op ≠ .random, ∀ i < (terminated ((namesFor b slots.flatten op).map
      ({ names := ·, prop }))).length, i % algosAlloc = 0 → alloc op i) :
    (operationsInit b alloc prop checkRandom slots).2 op =
      terminated ((namesFor b slots.flatten op).map ({ names := ·, prop })) := by
  rw [operationsInit_snd hop, ← entries_writes]
  refine (written_eq_iff.2 fun op i _ hi h4 => ?_) op
  by_cases e : op = .random
  · subst e
    simp [entries_writes, namesFor_random, terminated] at hi
  · refine h op e i ?_ h4
    rw [← entries_writes]
    simpa using hi

/-- A mechanism alone registers what it offers. -/
theorem single_iff (hop : op ≠ .random) {m : Nat} :
    some alg ∈ (operationsInit b (fun _ _ => true) prop checkRandom [[m]]).2 op ↔
      alg.prop = prop ∧ alg.names ∈ offered b m op := by
  rw [table_eq hop fun _ _ _ _ _ => rfl, some_mem_terminated, List.mem_map]
  have hnames : ∀ a, a ∈ namesFor b [[m]].flatten op ↔ a ∈ offered b m op := by
    intro a
    rw [mem_namesFor, mem_offered]
    constructor
    · rintro ⟨x, hx, ha⟩
      obtain ⟨-, hm, hc⟩ := mem_fired hx
      obtain rfl : x.1 = m := by simpa using hm
      exact ⟨x.2, hc, ha⟩
    · rintro ⟨c, hc, ha⟩
      refine ⟨(m, c), ?_, ha⟩
      rw [show [[m]].flatten = [m] from rfl, fired_cons hc (mem_checklist hc)]
      exact List.mem_cons_self
  constructor
  · rintro ⟨a, ha, rfl⟩
    exact ⟨rfl, (hnames a).1 ha⟩
  · rintro ⟨rfl, ha⟩
    exact ⟨alg.names, (hnames _).2 ha, rfl⟩

/-- What `CKM_RSA_PKCS` offers is offered by one that fires, if it is dispensable. -/
theorem exists_fired_rsa (hd : RsaPkcsDispensable b mechs) (hm : Ckm.rsaPkcs ∈ mechs)
    (hop : op ∈ tableOps b) {a : AlgName} (ha : a ∈ offered b Ckm.rsaPkcs op) :
    ∃ x ∈ fired b (checklist b) mechs, a ∈ x.2.offers op := by
  obtain ⟨c, hc, hac⟩ := mem_offered.1 ha
  obtain ⟨x, hx, hmx⟩ := exists_fired hm (mem_checklist hc) hc
  obtain ⟨-, hxm, hxc⟩ := mem_fired hx
  obtain ⟨e, he, hxe, hec⟩ := mem_switch hxc
  have hoff : ∀ {a op}, a ∈ offered b x.1 op → a ∈ x.2.offers op := by
    intro a op h
    obtain ⟨c', hc', h⟩ := mem_offered.1 h
    rwa [Option.some.inj (hxc.symm.trans hc')]
  rcases switch_rsaPkcs b e he (hec ▸ hmx) with h | h | ⟨hb, h⟩
  · have hx1 : x.1 = Ckm.rsaPkcs := by simpa [h] using hxe
    exact ⟨x, hx, hoff (hx1 ▸ ha)⟩
  · rw [h] at hxe
    obtain ⟨rfl, rfl | rfl⟩ := offered_rsaPkcs b ha
    · obtain ⟨m', hm', hm'sig⟩ := (hd hm).1 ⟨x.1, hxm, hxe⟩
      refine exists_fired_offers hm' ?_ hop
        (rsa_mem_offered_signature b m' (List.mem_cons_of_mem _ hm'sig))
      rintro rfl
      revert hm'sig
      decide
    · exact ⟨x, hx, hoff (rsa_mem_offered_asymCipher b _ (List.mem_cons_of_mem _ hxe))⟩
  · rw [h] at hxe
    obtain ⟨rfl, rfl | rfl⟩ := offered_rsaPkcs b ha
    · refine ⟨x, hx, hoff (rsa_mem_offered_signature b _ ?_)⟩
      exact List.mem_append_left _ (List.mem_cons_of_mem _ hxe)
    · obtain ⟨m', hm', hm'enc⟩ := (hd hm).2 hb ⟨x.1, hxm, hxe⟩
      refine exists_fired_offers hm' ?_ hop
        (rsa_mem_offered_asymCipher b m' (List.mem_cons_of_mem _ hm'enc))
      rintro rfl
      revert hm'enc
      decide

/-- What is offered is added, if `CKM_RSA_PKCS` is dispensable. -/
theorem mem_namesFor_iff (hd : RsaPkcsDispensable b mechs) {a : AlgName} :
    a ∈ namesFor b mechs op ↔ ∃ m ∈ mechs, a ∈ offered b m op := by
  rw [mem_namesFor]
  constructor
  · rintro ⟨x, hx, ha⟩
    obtain ⟨-, hm, hc⟩ := mem_fired hx
    exact ⟨x.1, hm, mem_offered.2 ⟨x.2, hc, ha⟩⟩
  · rintro ⟨m, hm, ha⟩
    obtain ⟨c, hc, hac⟩ := mem_offered.1 ha
    have hop := mem_tableOps hac hc
    by_cases hne : m = Ckm.rsaPkcs
    · subst hne
      exact exists_fired_rsa hd hm hop ha
    · exact exists_fired_offers hm hne hop ha

theorem RsaPkcsDispensable.perm {mechs' : List Nat} (h : mechs.Perm mechs')
    (hd : RsaPkcsDispensable b mechs) : RsaPkcsDispensable b mechs' := by
  simpa only [RsaPkcsDispensable, h.mem_iff] using hd

/-- The number of algorithms added, if all that is offered is added. -/
theorem length_namesFor (h : ∀ a, a ∈ namesFor b mechs op ↔ ∃ m ∈ mechs, a ∈ offered b m op) :
    (namesFor b mechs op).length = numOffered b mechs op := by
  rw [numOffered, ← namesFor_nodup.dedup]
  refine List.Perm.length_eq ?_
  rw [List.perm_ext_iff_of_nodup (List.nodup_dedup _) (List.nodup_dedup _)]
  intro a
  rw [List.mem_dedup, List.mem_dedup, h, List.mem_flatMap]

theorem numOffered_perm {mechs' : List Nat} (h : mechs.Perm mechs') :
    numOffered b mechs op = numOffered b mechs' op := (h.flatMap_right _).dedup.length_eq

/-- With enough memory, all tables hold what is offered. -/
theorem table_of_enough (hd : RsaPkcsDispensable b slots.flatten) (he : Enough b alloc slots.flatten)
    (hop : op ≠ .random) : (operationsInit b alloc prop checkRandom slots).2 op =
      terminated ((namesFor b slots.flatten op).map ({ names := ·, prop })) := by
  refine table_eq hop fun op hop i hi h4 => ?_
  have hlen : (namesFor b slots.flatten op).length = _ := length_namesFor fun a => mem_namesFor_iff hd
  have hne : namesFor b slots.flatten op ≠ [] := by
    intro h
    simp [h, terminated] at hi
  have hne' : (namesFor b slots.flatten op).map ({ names := ·, prop } : AlgName → Algorithm) ≠ [] := by
    simpa using hne
  rw [terminated, if_neg hne', List.length_append, List.length_map, List.length_map, hlen,
    List.length_singleton] at hi
  refine he op hop ?_ i (by omega) h4
  rw [← hlen]
  simpa using hne

theorem offersSupported_of (hd : RsaPkcsDispensable b slots.flatten)
    (he : Enough b alloc slots.flatten) : OffersSupported b alloc prop checkRandom slots := by
  have hmem : ∀ slots', slots.flatten.Perm slots'.flatten → ∀ op ≠ .random, ∀ alg,
      some alg ∈ (operationsInit b alloc prop checkRandom slots').2 op ↔
        alg.prop = prop ∧ ∃ m ∈ slots.flatten, alg.names ∈ offered b m op := by
    intro slots' hp op hop alg
    have he' : Enough b alloc slots'.flatten := by
      intro op hop
      rw [← numOffered_perm hp]
      exact he op hop
    rw [table_of_enough (hd.perm hp) he' hop, some_mem_terminated, List.mem_map]
    constructor
    · rintro ⟨a, ha, rfl⟩
      obtain ⟨m, hm, ha⟩ := (mem_namesFor_iff (hd.perm hp)).1 ha
      exact ⟨rfl, m, hp.mem_iff.2 hm, ha⟩
    · rintro ⟨rfl, m, hm, ha⟩
      exact ⟨alg.names, (mem_namesFor_iff (hd.perm hp)).2 ⟨m, hp.mem_iff.1 hm, ha⟩, rfl⟩
  refine ⟨fun slots' hp op hop alg => ?_, fun op hop => ?_, fun op hop alg => ?_⟩
  · rw [hmem slots' hp.flatten op hop, hmem slots (.refl _) op hop]
  · refine ⟨_, ?_, table_of_enough hd he hop⟩
    exact namesFor_nodup.map fun _ _ h => congrArg Algorithm.names h
  · rw [hmem slots (.refl _) op hop]
    simp only [single_iff hop, List.mem_flatten]
    constructor
    · rintro ⟨hprop, m, ⟨mechs, hmechs, hm⟩, ha⟩
      exact ⟨mechs, hmechs, m, hm, hprop, ha⟩
    · rintro ⟨mechs, hmechs, m, hm, hprop, ha⟩
      exact ⟨hprop, m, ⟨mechs, hmechs, hm⟩, ha⟩

/-- If the tables depend only on what is supported, they are complete. -/
theorem OffersSupported.table_eq (h : OffersSupported b alloc prop checkRandom slots)
    (hop : op ≠ .random) : (operationsInit b alloc prop checkRandom slots).2 op =
      terminated ((namesFor b slots.flatten op).map ({ names := ·, prop })) := by
  obtain ⟨l, -, hl⟩ := h.table op hop
  by_contra hne
  have hpre : (operationsInit b alloc prop checkRandom slots).2 op <+: _ := table_initial hop
  rw [hl] at hne hpre
  obtain rfl := eq_nil_of_prefix hpre hne
  -- nothing was written, but something is offered
  have hnames : namesFor b slots.flatten op ≠ [] := by
    intro e
    simp [e] at hne
  obtain ⟨a, ha⟩ := List.exists_mem_of_ne_nil _ hnames
  obtain ⟨x, hx, ha⟩ := mem_namesFor.1 ha
  obtain ⟨-, hm, hc⟩ := mem_fired hx
  obtain ⟨mechs, hmechs, hm⟩ := List.mem_flatten.1 hm
  have := (h.supported op hop ⟨a, prop⟩).2
    ⟨mechs, hmechs, x.1, hm, (single_iff hop).2 ⟨rfl, mem_offered.2 ⟨x.2, hc, ha⟩⟩⟩
  simp [hl, terminated] at this

theorem OffersSupported.mem_namesFor_iff (h : OffersSupported b alloc prop checkRandom slots)
    (hop : op ≠ .random) {a : AlgName} :
    a ∈ namesFor b slots.flatten op ↔ ∃ m ∈ slots.flatten, a ∈ offered b m op := by
  have hs := h.supported op hop ⟨a, prop⟩
  rw [h.table_eq hop, some_mem_terminated, List.mem_map] at hs
  simp only [single_iff hop, true_and] at hs
  constructor
  · intro ha
    obtain ⟨mechs, hmechs, m, hm, ha⟩ := hs.1 ⟨a, ha, rfl⟩
    exact ⟨m, List.mem_flatten.2 ⟨mechs, hmechs, hm⟩, ha⟩
  · rintro ⟨m, hm, ha⟩
    obtain ⟨mechs, hmechs, hm⟩ := List.mem_flatten.1 hm
    obtain ⟨a', ha', e⟩ := hs.2 ⟨mechs, hmechs, m, hm, ha⟩
    rwa [← show a' = a from congrArg Algorithm.names e]

theorem OffersSupported.enough (h : OffersSupported b alloc prop checkRandom slots) :
    Enough b alloc slots.flatten := by
  have hroom : Room alloc (fun _ => []) (writes b prop slots.flatten) := by
    refine written_eq_iff.1 fun op => ?_
    by_cases hop : op = .random
    · have hpre : written (algSetOps alloc (fun _ => []) (writes b prop slots.flatten)) op <+: _ :=
        written_prefix
      simp only [hop, entries_writes, namesFor_random, terminated, List.map_nil, ↓reduceIte,
        List.append_nil] at hpre ⊢
      exact List.prefix_nil.1 hpre
    · rw [← operationsInit_snd hop, h.table_eq hop, entries_writes, List.nil_append]
  intro op hop hn i hi h4
  refine hroom op i (Nat.zero_le i) ?_ h4
  have hlen := length_namesFor fun a => h.mem_namesFor_iff hop (a := a)
  rw [entries_writes, terminated, if_neg]
  · simp only [List.length_append, List.length_map, hlen, List.length_nil, List.length_singleton]
    omega
  · rw [List.map_eq_nil_iff]
    intro e
    exact hn (by simp [← hlen, e])

/-- The slots with a mechanism of theirs in front. -/
theorem exists_slotsPerm {m : Nat} (hm : m ∈ slots.flatten) :
    ∃ slots' rest, SlotsPerm slots slots' ∧ slots'.flatten = m :: rest := by
  obtain ⟨mechs, hmechs, hm⟩ := List.mem_flatten.1 hm
  refine ⟨(m :: mechs.erase m) :: slots.erase mechs, _, ⟨mechs :: slots.erase mechs, ?_, ?_⟩, rfl⟩
  · exact List.perm_cons_erase hmechs
  · exact .cons (List.perm_cons_erase hm) (List.forall₂_same.2 fun _ _ => .refl _)

/-- If a mechanism takes `CKM_RSA_PKCS` off without doing what nobody else does, then the order
    makes a difference. -/
theorem OffersSupported.not_lost (h : OffersSupported b alloc prop checkRandom slots)
    (hop : op ≠ .random) (hrsa : Ckm.rsaPkcs ∈ slots.flatten)
    (hrsa' : .rsa ∈ offered b Ckm.rsaPkcs op) {m : Nat} (hm : m ∈ slots.flatten)
    (hun : (mechCase b m).any (·.uncheck.contains Ckm.rsaPkcs)) (hm' : .rsa ∉ offered b m op) :
    ∃ m' ∈ slots.flatten, m' ≠ Ckm.rsaPkcs ∧ .rsa ∈ offered b m' op := by
  obtain ⟨c, hc, hun⟩ := (Option.any_eq_true _ _).1 hun
  obtain ⟨slots', rest, hperm, hflat⟩ := exists_slotsPerm hm
  have hin : some ⟨.rsa, prop⟩ ∈ (operationsInit b alloc prop checkRandom slots').2 op := by
    rw [h.perm slots' hperm op hop, h.table_eq hop, some_mem_terminated, List.mem_map]
    exact ⟨.rsa, (h.mem_namesFor_iff hop).2 ⟨_, hrsa, hrsa'⟩, rfl⟩
  obtain ⟨x, hx, hxrsa⟩ := mem_namesFor.1 (mem_namesFor_of_mem hop hin).2
  obtain ⟨-, hxm, hxc⟩ := mem_fired hx
  refine ⟨x.1, hperm.flatten.mem_iff.2 hxm, ?_, mem_offered.2 ⟨x.2, hxc, hxrsa⟩⟩
  rintro hx1
  have hpair : (fired b (checklist b) slots'.flatten).Pairwise _ := fired_pairwise
  rw [hflat, fired_cons hc (mem_checklist hc)] at hx hpair
  rcases List.mem_cons.1 hx with rfl | hx
  · exact hm' (mem_offered.2 ⟨c, hc, hxrsa⟩)
  · exact (List.pairwise_cons.1 hpair).1 x hx (by simpa [hx1] using hun)

/-- The tables of `operations_init` depend only on what is supported if and only if there is
    memory for them and `CKM_RSA_PKCS` is not needed for what the mechanisms that take it off the
    checklist do not do. -/
theorem operationsInit_offers_iff : (operationsInit b alloc prop checkRandom slots).1 = Ckr.ok ∧
    (OffersSupported b alloc prop checkRandom slots ↔
      RsaPkcsDispensable b slots.flatten ∧ Enough b alloc slots.flatten) := by
  refine ⟨operationsInit_fst, fun h => ⟨fun hrsa => ⟨?_, ?_⟩, h.enough⟩, fun h =>
    offersSupported_of h.1 h.2⟩
  · rintro ⟨m, hm, henc⟩
    have hdisj : ∀ m ∈ rsaOnlyEncMechs, m ∉ rsaSigMechs ++ rsapssSigMechs := by decide
    obtain ⟨m', hm', hne, hs⟩ := h.not_lost (by simp) hrsa
      (rsa_mem_offered_signature b _ List.mem_cons_self) hm
      (rsaPkcs_mem_uncheck b m (List.mem_append_left _ henc))
      fun hs => hdisj m henc ((offered_rsa b m).1 hs)
    exact ⟨m', hm', (List.mem_cons.1 ((offered_rsa b m').1 hs)).resolve_left hne⟩
  · rintro hb ⟨m, hm, hsha⟩
    have hdisj : ∀ m ∈ rsaShaMechs, m ∉ rsaEncMechs := by decide
    obtain ⟨m', hm', hne, hs⟩ := h.not_lost (by simp) hrsa
      (rsa_mem_offered_asymCipher b _ List.mem_cons_self) hm
      (rsaPkcs_mem_uncheck b m (List.mem_append_right _ (by simpa [hb] using hsha)))
      fun hs => hdisj m hsha ((offered_rsa b m).2 hs)
    exact ⟨m', hm', (List.mem_cons.1 ((offered_rsa b m').2 hs)).resolve_left hne⟩

/-- A slot with `CKM_RSA_X_509` before `CKM_RSA_PKCS` has no RSA signatures, the other way around
    it has. -/
theorem operationsInit_order_matters :
    ¬OffersSupported ⟨true, true⟩ (fun _ _ => true) .default Ckr.ok [[Ckm.rsaX509, Ckm.rsaPkcs]] := by
  intro h
  have := (h.supported .signature (by simp) ⟨.rsa, .default⟩).2
    ⟨_, List.mem_cons_self, Ckm.rsaPkcs, by simp, by decide +kernel⟩
  revert this
  decide +kernel

end Offers

end P11Prov
