import P11Prov.Derive.Contexts

/-!
# Handles are used on their own slots

Any number of ECDH, HKDF and TLS13-KDF contexts under any sequence of operations,
with those of the session and object layers in between. The contexts keep the
session of their first derivation, and their keys are replaced without a look at
it. So a key on another slot is used with a session of the slot before, and the
same happens to the key of a TLS13-KDF context whose salt is made a key first.
In runs without such steps (`DeriveAct.Fits`) every handle is used on its own slot
(`handles_on_own_slots`).
-/

namespace P11Prov

open Interaction

/-- A context. -/
inductive DeriveCtx
  | ecdh (c : ExchCtx)
  | kdf (alg : KdfAlg) (c : KdfCtx)
  deriving DecidableEq

def DeriveCtx.holding : DeriveCtx → Holding
  | ecdh c => c.holding
  | kdf _ c => c.holding

/-- The operations on an ECDH context. -/
inductive EcdhOp
  | init (key : ObjId) (params : List OsslParam)
  | setPeer (key : ObjId)
  | setCtxParams (params : List OsslParam)
  | derive (outlen : Option Nat)
  | deriveSkey (keyType : Option Bytes)

/-- The operations on an HKDF or TLS13-KDF context. -/
inductive KdfOp
  | setSkey (key : Option ObjId) (paramname : Bytes)
  | setCtxParams (params : Option (List OsslParam))
  | derive (hasBuffer : Bool) (keylen : Nat) (params : Option (List OsslParam))
  | deriveSkey (keyType : Option Bytes) (keylen : Nat) (params : Option (List OsslParam))
  | reset

/-- What can happen: an operation of the layers below, and one on a context, named by its
    place among all contexts. -/
inductive DeriveAct
  | other (op : Op)
  | newEcdh
  | newKdf (alg : KdfAlg)
  | ecdh (i : Nat) (op : EcdhOp)
  | kdf (i : Nat) (op : KdfOp)
  | dup (i : Nat)
  | free (i : Nat)

variable (ctx : Ctx) (d2iAsn1OctetString : Bytes → Option Bytes)

/-- The program of an operation on an ECDH context; its result is left to the caller. -/
def EcdhOp.prog (c : ExchCtx) : EcdhOp → P ExchCtx
  | init key params => Prod.snd <$> ecdhInit ctx c key params
  | setPeer key => Prod.snd <$> ecdhSetPeer ctx c key
  | setCtxParams params => return (ecdhSetCtxParams c params).2
  | derive outlen => (·.2.2) <$> ecdhDerive d2iAsn1OctetString ctx c outlen
  | deriveSkey keyType => Prod.snd <$> ecdhDeriveSkey d2iAsn1OctetString ctx c keyType

/-- The program of an operation on a context of `kdf.c`. -/
def KdfOp.prog (c : KdfCtx) : KdfAlg → KdfOp → P KdfCtx
  | _, setSkey key paramname => Prod.snd <$> hkdfSetSkey ctx c key paramname
  | _, setCtxParams params => Prod.snd <$> hkdfSetCtxParams ctx c params
  | .hkdf, derive hasBuffer keylen params =>
    Prod.snd <$> hkdfDerive ctx c hasBuffer keylen params
  | .hkdf, deriveSkey keyType keylen params =>
    Prod.snd <$> hkdfDeriveSkey ctx c keyType keylen params
  | .tls13Kdf, derive hasBuffer keylen params =>
    Prod.snd <$> tls13KdfDerive ctx c hasBuffer keylen params
  | .tls13Kdf, deriveSkey keyType keylen params =>
    Prod.snd <$> tls13KdfDeriveSkey ctx c keyType keylen params
  | _, reset => hkdfReset ctx c

/-- The contexts; one that was freed leaves its place. -/
abbrev Contexts := List (Option DeriveCtx)

/-- The context at a place. -/
def Contexts.at (cs : Contexts) (i : Nat) : Option DeriveCtx := cs[i]?.join

/-- A new context comes to the end. -/
def Contexts.add (cs : Contexts) (c : Option DeriveCtx) : Contexts :=
  if c.isSome then cs ++ [c] else cs

/-- The program of what can happen. An operation that is none of a context is not called. -/
def DeriveAct.prog (cs : Contexts) : DeriveAct → P Contexts
  | other op => do
    op.prog ctx
    return cs
  | newEcdh => do return cs.add ((← ecdhNewctx).map .ecdh)
  | newKdf .hkdf => do return cs.add ((← hkdfNewctx).map (.kdf .hkdf))
  | newKdf .tls13Kdf => do return cs.add ((← tls13KdfNewctx).map (.kdf .tls13Kdf))
  | ecdh i op =>
    match cs.at i with
    | some (.ecdh c) => do return cs.set i (some (.ecdh (← op.prog ctx d2iAsn1OctetString c)))
    | _ => return cs
  | kdf i op =>
    match cs.at i with
    | some (.kdf alg c) => do return cs.set i (some (.kdf alg (← op.prog ctx c alg)))
    | _ => return cs
  | dup i =>
    match cs.at i with
    | some (.ecdh c) => do return cs.add ((← ecdhDupctx ctx c).map .ecdh)
    | _ => return cs
  | free i =>
    match cs.at i with
    | some (.ecdh c) => do
      ecdhFreectx ctx c
      return cs.set i none
    | some (.kdf _ c) => do
      hkdfFreectx ctx c
      return cs.set i none
    | none => return cs

/-- The states that steps lead to, when each meets the condition in the state before. -/
inductive DeriveReach (O : Oracle) (ok : State → Contexts → DeriveAct → Prop) :
    State → Contexts → Prop
  | init : DeriveReach O ok {} []
  | step {st st' : State} {cs cs' : Contexts} {act : DeriveAct} (h : DeriveReach O ok st cs)
      (hok : ok st cs act) (hrun : Runs (env O) (act.prog ctx d2iAsn1OctetString cs) st cs' st') :
      DeriveReach O ok st' cs'

/-- The steps after which handles are still used on their own slots: a key is given to a
    context only if the session that the context holds, if any, is of the slot of the key,
    and a secret of TLS 1.3 is derived as `SecretServed` says. -/
def DeriveAct.Fits (st : State) (cs : Contexts) : DeriveAct → Prop
  | other op => op.Fits True st
  | ecdh i (.init key _) => ∀ c, cs.at i = some (.ecdh c) → MayGive st key c.session
  | kdf i (.setSkey key paramname) => ∀ alg c, cs.at i = some (.kdf alg c) →
    paramname = ascii "key" → ∀ k, key = some k → MayGive st k c.session
  | kdf i (.derive _ _ params) | kdf i (.deriveSkey _ _ params) =>
    ∀ c, cs.at i = some (.kdf .tls13Kdf c) → SecretServed ctx st c params
  | _ => True

/-! ## What a step keeps -/

variable {ctx} {d2iAsn1OctetString} {O : Oracle} {st st' : State} {cs : Contexts}

/-- All contexts fit the state. -/
def Contexts.Fit (cs : Contexts) (st : State) : Prop := ∀ c, some c ∈ cs → c.holding.Fits st

theorem Contexts.Fit.later (h : cs.Fit st) (hl : Later st st') : cs.Fit st' :=
  fun c hc => (h c hc).later hl

theorem Contexts.Fit.at {i : Nat} {c : DeriveCtx} (h : cs.Fit st) (hc : cs.at i = some c) :
    c.holding.Fits st :=
  h c (List.mem_of_getElem? (Option.join_eq_some_iff.1 hc))

theorem Contexts.Fit.set {i : Nat} {r : Option DeriveCtx} (h : cs.Fit st)
    (hr : ∀ c, r = some c → c.holding.Fits st) : Contexts.Fit (cs.set i r) st := by
  intro c hc
  rcases List.mem_or_eq_of_mem_set hc with hc | e
  · exact h c hc
  · exact hr c e.symm

theorem Contexts.Fit.add {r : Option DeriveCtx} (h : cs.Fit st)
    (hr : ∀ c, r = some c → c.holding.Fits st) : (cs.add r).Fit st := by
  unfold Contexts.add
  split
  · intro c hc
    rcases List.mem_append.1 hc with hc | hc
    · exact h c hc
    · exact hr c (List.mem_singleton.1 hc).symm
  · exact h

section Steps

variable (hO : ObjectHandles O) (hD : DerivedHandles O)
include hO

include hD in
theorem EcdhOp.spec {c : ExchCtx} {op : EcdhOp} (h : RefsPooled st) (hc : c.holding.Fits st)
    (hop : ∀ key params, op = .init key params → MayGive st key c.session) :
    wp (env O) (op.prog ctx d2iAsn1OctetString c) (fun c' st' => Fitting st c'.holding st') st := by
  cases op with
  | init key params => exact wp_map.2 (ecdhInit_spec hO h hc (hop key params rfl))
  | setPeer key => exact wp_map.2 (ecdhSetPeer_spec hO h hc)
  | setCtxParams params =>
    have hc' : (ecdhSetCtxParams c params).2.holding.Fits st := by rwa [ecdhSetCtxParams_holding]
    exact ⟨.refl h, hc'⟩
  | derive outlen => exact wp_map.2 (ecdhDerive_spec hO hD h hc)
  | deriveSkey keyType =>
    exact wp_map.2 (wp_mono (ecdhDeriveSkey_spec hO hD h hc) fun _ _ hr => hr.1)

include hD in
theorem KdfOp.spec {c : KdfCtx} {alg : KdfAlg} {op : KdfOp} (h : RefsPooled st)
    (hc : c.holding.Fits st)
    (hkey : ∀ key paramname, op = .setSkey key paramname → paramname = ascii "key" →
      ∀ k, key = some k → MayGive st k c.session)
    (hsalt : alg = .tls13Kdf → ∀ params, ((∃ b n, op = .derive b n params) ∨
      ∃ t n, op = .deriveSkey t n params) → SecretServed ctx st c params) :
    wp (env O) (op.prog ctx c alg) (fun c' st' => Fitting st c'.holding st') st := by
  cases op with
  | setSkey key paramname => exact wp_map.2 (hkdfSetSkey_spec hO h hc (hkey key paramname rfl))
  | setCtxParams params =>
    exact wp_map.2 (wp_mono (hkdfSetCtxParams_spec hO h hc) fun _ _ hr => hr.1)
  | derive b n params =>
    cases alg with
    | hkdf => exact wp_map.2 (hkdfDerive_spec hO hD h hc)
    | tls13Kdf =>
      exact wp_map.2 (tls13KdfDerive_spec hO hD h hc (hsalt rfl params (.inl ⟨b, n, rfl⟩)))
  | deriveSkey t n params =>
    cases alg with
    | hkdf => exact wp_map.2 (hkdfDeriveSkey_spec hO hD h hc)
    | tls13Kdf =>
      exact wp_map.2 (tls13KdfDeriveSkey_spec hO hD h hc (hsalt rfl params (.inr ⟨t, n, rfl⟩)))
  | reset => exact hkdfReset_spec h hc

omit hO in
theorem hkdfNewctx_spec : wp (env O) hkdfNewctx (fun r st' => st = st' ∧
    ∀ c, r = some c → c = {}) st := by
  simp only [hkdfNewctx, Prog.perform_eq, Prog.call_bind, Prog.ret_bind, wp_callExt]
  intro ret _
  split
  · exact ⟨rfl, by simp⟩
  · rintro (_ | _) _
    · exact ⟨rfl, by simp⟩
    · exact ⟨rfl, fun c hc => (Option.some.inj hc).symm⟩

omit hO in
theorem tls13KdfNewctx_spec : wp (env O) tls13KdfNewctx (fun r st' => st = st' ∧
    ∀ c, r = some c → c = { isTls13Kdf := true }) st := by
  refine wp.bind hkdfNewctx_spec ?_
  rintro r _ ⟨rfl, hr⟩
  refine ⟨rfl, fun c hc => ?_⟩
  obtain ⟨c', hc', rfl⟩ := Option.map_eq_some_iff.1 hc
  rw [hr c' hc']

omit hO in
/-- A context that holds nothing fits. -/
theorem Holding.Fits.empty : Holding.Fits st ⟨none, none, []⟩ := ⟨by simp, by simp⟩

include hD in
/-- A step leads to a state that the contexts fit. -/
theorem DeriveAct.spec {act : DeriveAct} (h : RefsPooled st) (hcs : cs.Fit st)
    (hact : act.Fits ctx st cs) :
    wp (env O) (act.prog ctx d2iAsn1OctetString cs) (fun cs' st' => RefsPooled st' ∧ cs'.Fit st')
      st := by
  have hset : ∀ {c : Holding} {st' : State} {i : Nat} {r : DeriveCtx}, Fitting st c st' →
      r.holding = c → RefsPooled st' ∧ Contexts.Fit (cs.set i (some r)) st' := by
    rintro c st' i r ⟨hl, hc⟩ rfl
    exact ⟨hl.refs, (hcs.later hl).set fun c' e => Option.some.inj e ▸ hc⟩
  have hnew : ∀ {r : Option DeriveCtx}, (∀ c, r = some c → c.holding = ⟨none, none, []⟩) →
      RefsPooled st ∧ (cs.add r).Fit st :=
    fun hr => ⟨h, hcs.add fun c e => hr c e ▸ .empty⟩
  cases act with
  | other op =>
    refine wp.bind (Later.objectInvariant.op hO (.refl h) hact) fun _ st' hl => ?_
    exact ⟨hl.refs, hcs.later hl⟩
  | newEcdh =>
    refine wp.bind ecdhNewctx_spec ?_
    rintro r _ ⟨rfl, hr⟩
    refine hnew fun c hc => ?_
    obtain ⟨c', hc', rfl⟩ := Option.map_eq_some_iff.1 hc
    exact hr c' hc' ▸ rfl
  | newKdf alg =>
    cases alg with
    | hkdf =>
      refine wp.bind hkdfNewctx_spec ?_
      rintro r _ ⟨rfl, hr⟩
      refine hnew fun c hc => ?_
      obtain ⟨c', hc', rfl⟩ := Option.map_eq_some_iff.1 hc
      exact hr c' hc' ▸ rfl
    | tls13Kdf =>
      refine wp.bind tls13KdfNewctx_spec ?_
      rintro r _ ⟨rfl, hr⟩
      refine hnew fun c hc => ?_
      obtain ⟨c', hc', rfl⟩ := Option.map_eq_some_iff.1 hc
      exact hr c' hc' ▸ rfl
  | ecdh i op =>
    simp only [DeriveAct.prog]
    split
    · rename_i c hc
      refine wp.bind (EcdhOp.spec hO hD h (hcs.at hc) fun key params e => ?_) fun c' st' hf => ?_
      · subst e
        exact hact c hc
      · exact hset hf rfl
    · exact ⟨h, hcs⟩
  | kdf i op =>
    simp only [DeriveAct.prog]
    split
    · rename_i alg c hc
      refine wp.bind (KdfOp.spec hO hD h (hcs.at hc) (fun key paramname e => ?_) ?_)
        fun c' st' hf => ?_
      · subst e
        exact hact alg c hc
      · rintro rfl params (⟨b, n, rfl⟩ | ⟨t, n, rfl⟩)
        · exact hact c hc
        · exact hact c hc
      · exact hset hf rfl
    · exact ⟨h, hcs⟩
  | dup i =>
    simp only [DeriveAct.prog]
    split
    · rename_i c hc
      refine wp.bind (ecdhDupctx_spec hO h (hcs.at hc)) ?_
      rintro r st' ⟨hl, hr⟩
      refine ⟨hl.refs, (hcs.later hl).add fun c' hc' => ?_⟩
      obtain ⟨new, hnew, rfl⟩ := Option.map_eq_some_iff.1 hc'
      exact hr new hnew
    · exact ⟨h, hcs⟩
  | free i =>
    simp only [DeriveAct.prog]
    split
    · refine wp.bind (ecdhFreectx_later h) fun _ st' hl => ?_
      exact ⟨hl.refs, (hcs.later hl).set (by simp)⟩
    · rename_i alg c hc
      refine wp.bind (wp.bind (hkdfReset_spec h (hcs.at hc)) fun _ st' hf => wp_pure.2 hf.1)
        fun _ st' (hl : Later st st') => ?_
      exact ⟨hl.refs, (hcs.later hl).set (by simp)⟩
    · exact ⟨h, hcs⟩

end Steps

/-! ## Runs -/

/-- A slot whose token makes and derives keys, and needs no login. -/
def kdfSlot (id : SlotId) : Slot where
  id
  flags := Ckf.tokenPresent
  tokenFlags := Ckf.tokenInitialized
  ulMaxSessionCount := 3
  mechs := [SkeyType.genericSecret.mechtype, Ckm.hkdfDerive, Ckm.hkdfData]

/-- A provider with two such slots. -/
def twoSlots : Ctx where
  slots := [kdfSlot 1, kdfSlot 2]

/-- A step with the answers of plain tokens. -/
def runAct (w : State × Contexts) (act : DeriveAct) : State × Contexts :=
  let r := run plain (act.prog twoSlots (fun _ => none) w.2) w.1
  (r.2, r.1)

theorem DeriveReach.runAct {ok : State → Contexts → DeriveAct → Prop} {w : State × Contexts}
    (h : DeriveReach twoSlots (fun _ => none) (replies plain) ok w.1 w.2) (act : DeriveAct)
    (hok : ok w.1 w.2 act) :
    DeriveReach twoSlots (fun _ => none) (replies plain) ok (runAct w act).1 (runAct w act).2 :=
  .step h hok (runs_run _ _)

section Main

variable (hO : ObjectHandles O) (hD : DerivedHandles O)
include hO

include hD in
/-- In runs whose keys are given to contexts with a session of their slot, if any, and whose
    TLS 1.3 secrets are derived with a salt on the slot of the key, every call that passes the
    handle of a key or of a derived object is made on a session of the slot of that object. -/
theorem handles_on_own_slots
    (h : DeriveReach ctx d2iAsn1OctetString O (DeriveAct.Fits ctx) st cs) :
    ∀ c, some c ∈ cs → ∀ u ∈ c.holding.uses, u.OwnSlot := by
  suffices hI : RefsPooled st ∧ cs.Fit st from fun c hc => (hI.2 c hc).uses
  induction h with
  | init => exact ⟨fun o x hx => by simp [Mem.obj] at hx, fun _ hc => by simp at hc⟩
  | step _ hok hrun ih => exact hrun.of_wp (DeriveAct.spec hO hD ih.1 ih.2 hok)

end Main

theorem plain_derivedHandles : DerivedHandles (replies plain) := by
  rintro st h mechtype key _ rfl
  exact (by decide : 12 ≠ ckP11provImportedHandle)

/-- The first context is given a key. -/
def setKeyAct (key : ObjId) : DeriveAct := .kdf 0 (.setSkey (some key) (ascii "key"))

/-- The first context derives. -/
def deriveAct : DeriveAct :=
  .kdf 0 (.derive true 16 (some [⟨ascii "digest", .utf8String (some (ascii "SHA2-256"))⟩]))

/-- A key was made on each slot, and an HKDF context. -/
def keysMade : State × Contexts :=
  [.other (.skeyGenerate .genericSecret (some { slotId := 1 }) true),
    .other (.skeyGenerate .genericSecret (some { slotId := 2 }) true),
    .newKdf .hkdf].foldl runAct ({}, [])

/-- The context was given the key on the first slot, and derived. -/
def derivedOnce : State × Contexts := [setKeyAct 0, deriveAct].foldl runAct keysMade

/-- Then it was given the key on the second slot, and derived again. -/
def derivedTwice : State × Contexts := [setKeyAct 1, deriveAct].foldl runAct derivedOnce

/-- With one key, the handles are used on its slot. -/
theorem handles_on_own_slots_once :
    derivedOnce.2 = [some (.kdf .hkdf
      { key := some 0, hashMech := Ckm.sha256, session := some ⟨1, 0⟩
        uses := [⟨1, ⟨1, 0⟩⟩, ⟨1, ⟨1, 0⟩⟩] })] ∧
    ∀ c, some c ∈ derivedOnce.2 → ∀ u ∈ c.holding.uses, u.OwnSlot := by
  have hkeys : DeriveReach twoSlots (fun _ => none) (replies plain) (DeriveAct.Fits twoSlots)
      keysMade.1 keysMade.2 :=
    ((DeriveReach.init.runAct _ (.inr trivial)).runAct _ (.inr trivial)).runAct _ trivial
  have hnew : keysMade.2.at 0 = some (.kdf .hkdf {}) := by decide +kernel
  have hset : (runAct keysMade (setKeyAct 0)).2.at 0 = some (.kdf .hkdf { key := some 0 }) := by
    decide +kernel
  have hkey : (keysMade.1.mem.obj 0).any fun x =>
      x.handle ≠ ckP11provImportedHandle ∧ x.slotid ≠ ckUnavailableInformation := by decide +kernel
  obtain ⟨x, hx, hh⟩ := (Option.any_eq_true _ _).1 hkey
  obtain ⟨hh, hs⟩ := of_decide_eq_true hh
  refine ⟨by decide +kernel, handles_on_own_slots plain_objectHandles plain_derivedHandles
    ((hkeys.runAct (setKeyAct 0) ?_).runAct deriveAct ?_)⟩
  · intro alg c hc _ k hk
    obtain ⟨-, rfl⟩ := DeriveCtx.kdf.inj (Option.some.inj (hnew.symm.trans hc))
    obtain rfl := Option.some.inj hk
    exact ⟨x, hx, hh, hs⟩
  · intro c hc
    exact absurd (DeriveCtx.kdf.inj (Option.some.inj (hset.symm.trans hc))).1 (by decide)

/-- A context that has a session of the first slot uses the handle of a key of the second slot
    on it. -/
theorem handle_on_other_slot :
    DeriveReach twoSlots (fun _ => none) (replies plain) (fun _ _ _ => True) derivedTwice.1
      derivedTwice.2 ∧
    ∃ c, some c ∈ derivedTwice.2 ∧ ∃ u ∈ c.holding.uses, ¬u.OwnSlot := by
  have hreach : ∀ {acts w}, DeriveReach twoSlots (fun _ => none) (replies plain)
      (fun _ _ _ => True) w.1 w.2 → DeriveReach twoSlots (fun _ => none) (replies plain)
        (fun _ _ _ => True) (List.foldl runAct w acts).1 (List.foldl runAct w acts).2 := by
    intro acts
    induction acts with
    | nil => exact id
    | cons act acts ih => exact fun h => ih (h.runAct _ trivial)
  have hcs : derivedTwice.2 = [some (.kdf .hkdf
      { key := some 1, hashMech := Ckm.sha256, session := some ⟨1, 0⟩
        uses := [⟨1, ⟨1, 0⟩⟩, ⟨1, ⟨1, 0⟩⟩, ⟨2, ⟨1, 0⟩⟩, ⟨1, ⟨1, 0⟩⟩] })] := by decide +kernel
  refine ⟨hreach (hreach (hreach .init)), _, hcs ▸ List.mem_singleton_self _, ?_⟩
  exact ⟨⟨2, ⟨1, 0⟩⟩, by decide, by decide⟩

end P11Prov
