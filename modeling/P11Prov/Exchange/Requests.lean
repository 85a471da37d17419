import P11Prov.Exchange
import P11Prov.Interaction.Footprint
import P11Prov.Object.Counters

/-!
# What an ECDH derivation asks for

`ecdhPrepare` is `p11prov_ecdh_derive_skey` up to `p11prov_derive_key`, with the
mechanism, its parameters and the key template that it sends; with the rest it
is the whole function (`ecdhDeriveSkey_eq`).

The settings of a context (`EcdhSettings`) say what it was last given: for each
parameter the last value that was accepted, the key and the peer. The settings
of a duplicate are those of the original. What a derivation should ask for is
read off the settings (`EcdhSettings.request`). In a run it is what the
derivation asks for (`ecdhPrepare_settings`), as long as

* no context with a digest or an output length is duplicated, as these are not
  copied;
* no digest for another KDF is set without the type of the KDF on a context that
  has derived with its digest: the derivation has put the KDF of the digest in
  the place of the type;
* no derivation finds a digest that there is no KDF for, for the same reason.
-/

namespace P11Prov

open Interaction

variable {O : Oracle} {ctx : Ctx} {d2i : Bytes → Option Bytes} {params : List OsslParam}
  {st st' : State} {keyType : Option Bytes} {keylen : Nat}

/-! ## Requests -/

/-- What a derivation sends to the token: the mechanism, the members of its
    `CK_ECDH1_DERIVE_PARAMS`, and the type and the length of the key in the template. -/
structure EcdhRequest where
  key : ObjId
  mechtype : Nat
  kdf : Nat
  sharedData : Bytes
  publicData : Bytes
  keyType : Nat
  keySize : Nat
  deriving DecidableEq, Repr

/-- The request of a context, once the KDF and the point of the peer are there. -/
def ExchCtx.request (c : ExchCtx) (key : ObjId) (keyType keylen : Nat) : EcdhRequest where
  key
  mechtype := c.mechtype
  kdf := c.kdf
  sharedData := c.sharedData
  publicData := c.publicData
  keyType
  keySize := if c.kdfOutlen ≠ 0 ∧ c.kdfOutlen < keylen then c.kdfOutlen else keylen

/-- `p11prov_ecdh_derive_skey` up to `p11prov_derive_key`: what it asks for, if it gets there. -/
def ecdhPrepare (d2i : Bytes → Option Bytes) (c : ExchCtx) (keyType : Option Bytes) (keylen : Nat) :
    P (Option EcdhRequest × ExchCtx) := do
  match c.key, c.peerKey with
  | some key, some peer =>
    if getKeyTypeFromString keyType = ckUnavailableInformation then
      return (none, c)
    let (ok, c) := c.setKdf
    if !ok then
      return (none, c)
    match ← objGetEcPublicRaw d2i peer with
    | none => return (none, c)
    | some publicData =>
      let c := { c with publicData }
      return (some (c.request key (getKeyTypeFromString keyType) keylen), c)
  | _, _ => return (none, c)

/-- A derivation asks for its request, and makes an object of what it gets. -/
theorem ecdhDeriveSkey_eq (c : ExchCtx) : ecdhDeriveSkey d2i ctx c keyType = (do
    let (r, c) ← ecdhPrepare d2i c keyType keylen
    match r with
    | none => return (none, c)
    | some req => ecdhDeriveOn ctx c req.key) := by
  rw [ecdhDeriveSkey, ecdhPrepare]
  cases c.key with
  | none => rfl
  | some key =>
    cases c.peerKey with
    | none => rfl
    | some peer =>
      dsimp only
      split
      · rfl
      split
      · rfl
      rw [bind_assoc]
      congr 1
      funext r
      cases r <;> rfl

/-! ## Settings -/

/-- What a context was last given. -/
structure EcdhSettings where
  key : Option ObjId := none
  peer : Option ObjId := none
  cofactor : Bool := false
  x963 : Bool := false
  digest : Option Nat := none
  outlen : Nat := 0
  ukm : Bytes := []
  deriving DecidableEq

/-- Whether a value of the cofactor mode asks for the cofactor, if it is accepted. -/
def cofactorValue (p : OsslData) : Option Bool :=
  match p.getInt with
  | none => none
  | some mode => if mode < -1 ∨ 1 < mode then none else some (mode ≠ 0)

/-- Whether a value of the KDF type is that of X9.63, if it is accepted. -/
def kdfTypeValue (p : OsslData) : Option Bool :=
  match p.getUtf8StringPtr with
  | none => none
  | some name =>
    if name = [] then some false else if name = ascii "X963KDF" then some true else none

/-- The digest that a value names, if it is accepted. -/
def kdfDigestValue (p : OsslData) : Option Nat :=
  match p.getUtf8StringPtr with
  | none => none
  | some name => (digestGetByName name).toOption

/-- A parameter whose accepted values are kept. -/
def keeping {α : Type} (key : Bytes) (value : OsslData → Option α)
    (put : EcdhSettings → α → EcdhSettings) : Setter EcdhSettings where
  key
  set s p :=
    match value p with
    | none => (retOsslErr, s)
    | some v => (retOsslOk, put s v)

def cofactorSetting : Setter EcdhSettings :=
  keeping cofactorModeSetter.key cofactorValue fun s cofactor => { s with cofactor }

def kdfTypeSetting : Setter EcdhSettings :=
  keeping kdfTypeSetter.key kdfTypeValue fun s x963 => { s with x963 }

def kdfDigestSetting : Setter EcdhSettings :=
  keeping kdfDigestSetter.key kdfDigestValue fun s digest => { s with digest := some digest }

def kdfOutlenSetting : Setter EcdhSettings :=
  keeping kdfOutlenSetter.key OsslData.getSizeT fun s outlen => { s with outlen }

def kdfUkmSetting : Setter EcdhSettings :=
  keeping kdfUkmSetter.key OsslData.getOctetString fun s ukm => { s with ukm }

/-- The parameters of a context, as settings. -/
def settingsSetters : List (Setter EcdhSettings) :=
  [cofactorSetting, kdfTypeSetting, kdfDigestSetting, kdfOutlenSetting, kdfUkmSetting]

namespace EcdhSettings

/-- Accepts the values of a call, up to the first one that is refused. -/
def accept (s : EcdhSettings) (params : List OsslParam) : EcdhSettings :=
  (setAll params settingsSetters s).2

/-- The KDF that a digest stands for. -/
def kdfOf (digest : Nat) : Option Nat := (kdfMap.find? (·.1 = digest)).map (·.2)

/-- The KDF of the settings, if there is one. -/
def kdf (s : EcdhSettings) : Option Nat :=
  if s.x963 then s.digest.bind kdfOf else some ckdNull

/-- What a derivation should ask for. -/
def request (d2i : Bytes → Option Bytes) (s : EcdhSettings) (keyType : Option Bytes)
    (keylen : Nat) : P (Option EcdhRequest) := do
  match s.key, s.peer with
  | some key, some peer =>
    if getKeyTypeFromString keyType = ckUnavailableInformation then
      return none
    match s.kdf with
    | none => return none
    | some kdf =>
      match ← objGetEcPublicRaw d2i peer with
      | none => return none
      | some publicData =>
        return some {
          key
          mechtype := if s.cofactor then Ckm.ecdh1CofactorDerive else Ckm.ecdh1Derive
          kdf
          sharedData := s.ukm
          publicData
          keyType := getKeyTypeFromString keyType
          keySize := if s.outlen ≠ 0 ∧ s.outlen < keylen then s.outlen else keylen }
  | _, _ => return none

end EcdhSettings

/-! ## Calls on contexts -/

/-- A context with its settings. -/
structure TrackedExch where
  ctx : ExchCtx := {}
  settings : EcdhSettings := {}
  deriving DecidableEq

/-- The contexts that there are, by name. -/
abbrev ExchCtxs := Nat → Option TrackedExch

/-- The calls of OpenSSL. -/
inductive ExchCall
  | newctx (j : Nat)
  | dupctx (i j : Nat)
  | freectx (i : Nat)
  | init (i : Nat) (key : ObjId) (params : List OsslParam)
  | setPeer (i : Nat) (key : ObjId)
  | setCtxParams (i : Nat) (params : List OsslParam)
  | derive (i : Nat) (outlen : Option Nat)
  | deriveSkey (i : Nat) (keyType : Option Bytes) (keylen : Nat)

/-- The part of `p11prov_ecdh_init` before the parameters, and whether it gets to them. -/
def ecdhInitKey (ctx : Ctx) (c : ExchCtx) (key : ObjId) : P (Bool × ExchCtx) := do
  let ret ← call .ctxStatus
  if ret ≠ Ckr.ok then
    return (false, c)
  objFree? ctx c.key
  let key ← objRef ctx key
  let c := { c with key }
  return (← checkClass key Cko.privateKey, c)

theorem ecdhInit_eq (c : ExchCtx) (key : ObjId) : ecdhInit ctx c key params = (do
    let (ok, c) ← ecdhInitKey ctx c key
    return if ok then ecdhSetCtxParams c params else (retOsslErr, c)) := by
  simp only [ecdhInit, ecdhInitKey, bind_assoc]
  congr 1
  funext ret
  split
  · rfl
  simp only [bind_assoc]
  congr 1
  funext _
  congr 1
  funext key'
  congr 1
  funext ok
  cases ok <;> rfl

namespace TrackedExch

/-- `p11prov_ecdh_set_ctx_params` -/
def setCtxParams (c : TrackedExch) (params : List OsslParam) : TrackedExch where
  ctx := (ecdhSetCtxParams c.ctx params).2
  settings := c.settings.accept params

/-- `p11prov_ecdh_init` -/
def init (ctx : Ctx) (c : TrackedExch) (key : ObjId) (params : List OsslParam) :
    P TrackedExch := do
  let (ok, d) ← ecdhInitKey ctx c.ctx key
  let c : TrackedExch := { ctx := d, settings := { c.settings with key := d.key } }
  return if ok then c.setCtxParams params else c

/-- `p11prov_ecdh_set_peer` -/
def setPeer (ctx : Ctx) (c : TrackedExch) (key : ObjId) : P TrackedExch := do
  let (_, d) ← ecdhSetPeer ctx c.ctx key
  return { ctx := d, settings := { c.settings with peer := d.peerKey } }

end TrackedExch

/-- The call on the context, if there is one of the name. -/
def onExch (cs : ExchCtxs) (i : Nat) (f : TrackedExch → P ExchCtxs) : P ExchCtxs :=
  match cs i with
  | none => pure cs
  | some c => f c

/-- A call, with the contexts before and after it. -/
def ExchCall.prog (d2i : Bytes → Option Bytes) (ctx : Ctx) (cs : ExchCtxs) : ExchCall → P ExchCtxs
  | newctx j => do
    if (cs j).isSome then
      return cs
    return Function.update cs j ((← ecdhNewctx).map ({ ctx := · }))
  | dupctx i j => onExch cs i fun c => do
    if (cs j).isSome then
      return cs
    return Function.update cs j ((← ecdhDupctx ctx c.ctx).map ({ c with ctx := · }))
  | freectx i => onExch cs i fun c => do
    ecdhFreectx ctx c.ctx
    return Function.update cs i none
  | init i key params => onExch cs i fun c => do
    return Function.update cs i (some (← c.init ctx key params))
  | setPeer i key => onExch cs i fun c => do
    return Function.update cs i (some (← c.setPeer ctx key))
  | setCtxParams i params => onExch cs i fun c =>
    pure (Function.update cs i (some (c.setCtxParams params)))
  | derive i outlen => onExch cs i fun c => do
    let (_, _, d) ← ecdhDerive d2i ctx c.ctx outlen
    return Function.update cs i (some { c with ctx := d })
  | deriveSkey i keyType _ => onExch cs i fun c => do
    let (_, d) ← ecdhDeriveSkey d2i ctx c.ctx keyType
    return Function.update cs i (some { c with ctx := d })

/-- The references of the contexts are held. -/
def ExchHeld (cs : ExchCtxs) (st : State) : Prop :=
  ∃ held, Balanced held st ∧ ∀ i c, cs i = some c → refs c.ctx.key + refs c.ctx.peerKey ≤ held

/-- The contexts that calls lead to, when each call meets `ok`. In between, the rest of the
    provider does what it does, but gives back no reference of a context. -/
inductive ExchReached (O : Oracle) (d2i : Bytes → Option Bytes) (ctx : Ctx)
    (ok : ExchCtxs → ExchCall → Prop) : ExchCtxs → Prop
  | start : ExchReached O d2i ctx ok fun _ => none
  | call {cs cs' : ExchCtxs} {st st' : State} (k : ExchCall) (h : ExchReached O d2i ctx ok cs)
      (hst : ExchHeld cs st) (hok : ok cs k) (hrun : Runs (env O) (k.prog d2i ctx cs) st cs' st') :
      ExchReached O d2i ctx ok cs'

/-! ## Contexts that agree with their settings -/

/-- A digest stands for the KDF. -/
def StandsFor (digest kdf : Nat) : Prop := EcdhSettings.kdfOf digest = some kdf

/-- The context is as its settings say, with the mark for a digest or the KDF of the digest in the
    place of the KDF. -/
structure Agrees (c : ExchCtx) (s : EcdhSettings) : Prop where
  key : c.key = s.key
  peer : c.peerKey = s.peer
  mechtype : c.mechtype = if s.cofactor then Ckm.ecdh1CofactorDerive else Ckm.ecdh1Derive
  digest : c.digest = s.digest.getD 0
  outlen : c.kdfOutlen = s.outlen
  ukm : c.sharedData = s.ukm
  plain : s.x963 = false → c.kdf = ckdNull
  kdf : s.x963 = true → c.kdf = ckfDigest ∨ StandsFor c.digest c.kdf

section Agrees

variable {c c' : ExchCtx} {s : EcdhSettings}

theorem kdfOf_ne {digest kdf : Nat} (h : StandsFor digest kdf) :
    kdf ≠ ckUnavailableInformation ∧ kdf ≠ ckfDigest ∧ ecdhDigestToKdf digest = kdf := by
  have hall : ∀ e ∈ kdfMap, e.2 ≠ ckUnavailableInformation ∧ e.2 ≠ ckfDigest := by decide
  obtain ⟨e, he, rfl⟩ := Option.map_eq_some_iff.1 h
  obtain ⟨h₁, h₂⟩ := hall e (List.mem_of_find?_eq_some he)
  exact ⟨h₁, h₂, by rw [ecdhDigestToKdf, he]; rfl⟩

theorem ecdhDigestToKdf_eq_unavailable {digest : Nat} (h : EcdhSettings.kdfOf digest = none) :
    ecdhDigestToKdf digest = ckUnavailableInformation := by
  rw [ecdhDigestToKdf]
  exact congrArg (Option.getD · ckUnavailableInformation) h

/-- Without a digest there is no KDF. -/
theorem kdfOf_getD (d : Option Nat) : EcdhSettings.kdfOf (d.getD 0) = d.bind EcdhSettings.kdfOf := by
  cases d with
  | none => decide
  | some d => rfl

namespace Agrees

/-- Only the members that the settings are about count. -/
theorem congr (h : Agrees c s) (hkey : c'.key = c.key) (hpeer : c'.peerKey = c.peerKey)
    (hmech : c'.mechtype = c.mechtype) (hdigest : c'.digest = c.digest) (hkdf : c'.kdf = c.kdf)
    (hout : c'.kdfOutlen = c.kdfOutlen) (hukm : c'.sharedData = c.sharedData) : Agrees c' s where
  key := hkey.trans h.key
  peer := hpeer.trans h.peer
  mechtype := hmech.trans h.mechtype
  digest := hdigest.trans h.digest
  outlen := hout.trans h.outlen
  ukm := hukm.trans h.ukm
  plain hx := hkdf.trans (h.plain hx)
  kdf hx := by
    rw [hkdf, hdigest]
    exact h.kdf hx

theorem setKey (h : Agrees c s) (key : Option ObjId) :
    Agrees { c with key } { s with key } :=
  ⟨rfl, h.peer, h.mechtype, h.digest, h.outlen, h.ukm, h.plain, h.kdf⟩

theorem setPeer (h : Agrees c s) (peer : Option ObjId) :
    Agrees { c with peerKey := peer } { s with peer } :=
  ⟨h.key, rfl, h.mechtype, h.digest, h.outlen, h.ukm, h.plain, h.kdf⟩

/-- The KDF that a derivation settles on is that of the settings, if they have one. -/
theorem setKdf (h : Agrees c s) :
    (c.setKdf.1 = false ∧ s.kdf = none) ∨ (c.setKdf.1 = true ∧ s.kdf = some c.setKdf.2.kdf ∧
      Agrees c.setKdf.2 s) := by
  rcases hx : s.x963 with _ | _
  · have hk := h.plain hx
    have hset : c.setKdf = (true, c) := by
      rw [ExchCtx.setKdf, hk, if_neg (by decide)]
    refine .inr ⟨by rw [hset], ?_, by rwa [hset]⟩
    rw [hset, EcdhSettings.kdf, hx, hk]
    rfl
  · have hkdf : s.kdf = EcdhSettings.kdfOf c.digest := by
      rw [EcdhSettings.kdf, hx, if_pos rfl, h.digest, kdfOf_getD]
    rcases h.kdf hx with hk | hk
    · have hset : c.setKdf = (ecdhDigestToKdf c.digest != ckUnavailableInformation,
          { c with kdf := ecdhDigestToKdf c.digest }) := by
        rw [ExchCtx.setKdf, if_pos hk]
      cases hd : EcdhSettings.kdfOf c.digest with
      | none =>
        refine .inl ⟨?_, hkdf.trans hd⟩
        rw [hset, ecdhDigestToKdf_eq_unavailable hd]
        rfl
      | some kdf =>
        obtain ⟨hne, -, he⟩ := kdfOf_ne hd
        refine .inr ⟨?_, ?_, ?_⟩
        · rw [hset, he]
          exact bne_iff_ne.2 hne
        · rw [hset, he, hkdf, hd]
        · rw [hset, he]
          exact ⟨h.key, h.peer, h.mechtype, h.digest, h.outlen, h.ukm, fun hf =>
            absurd (hx.symm.trans hf) (by decide), fun _ => .inr hd⟩
    · obtain ⟨-, hne, -⟩ := kdfOf_ne hk
      have hset : c.setKdf = (true, c) := by
        rw [ExchCtx.setKdf, if_neg hne]
      exact .inr ⟨by rw [hset], by rw [hset, hkdf]; exact hk, by rwa [hset]⟩

/-- A derivation asks for what the settings say. -/
theorem request (h : Agrees c s) :
    Prod.fst <$> ecdhPrepare d2i c keyType keylen = s.request d2i keyType keylen := by
  rw [ecdhPrepare, EcdhSettings.request, h.key, h.peer]
  cases s.key with
  | none => rfl
  | some key =>
    cases s.peer with
    | none => rfl
    | some peer =>
      dsimp only
      split
      · rfl
      rcases h.setKdf with ⟨hok, hk⟩ | ⟨hok, hk, h'⟩
      · rw [hok, hk]
        rfl
      · rw [hok, hk]
        simp only [Bool.not_true, Bool.false_eq_true, ↓reduceIte, map_bind]
        congr 1
        funext r
        cases r with
        | none => rfl
        | some publicData =>
          refine congrArg (fun r => (Prog.ret (some r) : P (Option EcdhRequest))) ?_
          simp only [ExchCtx.request, h'.mechtype, h'.ukm, h'.outlen]

end Agrees

/-! ## Parameters -/

theorem cofactor_alike (h : Agrees c s) :
    Alike Agrees (cofactorModeSetter.run params c) (cofactorSetting.run params s) := by
  refine Setter.run_alike rfl h fun p _ => ?_
  simp only [cofactorModeSetter, cofactorSetting, keeping, cofactorValue]
  cases p.getInt with
  | none => exact ⟨rfl, h⟩
  | some mode =>
    by_cases hmode : mode < -1 ∨ 1 < mode
    · simp only [hmode, if_true]
      exact ⟨rfl, h⟩
    · simp only [hmode, if_false]
      refine ⟨rfl, h.key, h.peer, ?_, h.digest, h.outlen, h.ukm, h.plain, h.kdf⟩
      by_cases h0 : mode = 0
      · simp [h0]
      · simp [h0]

/-- The cofactor mode has nothing to do with the KDF. -/
theorem cofactor_run (c : ExchCtx) (s : EcdhSettings) (params : List OsslParam) :
    (cofactorModeSetter.run params c).2.kdf = c.kdf ∧
      (cofactorSetting.run params s).2.x963 = s.x963 ∧
      ((cofactorModeSetter.run params c).1 = retOsslOk →
        ∀ p, locate params cofactorModeSetter.key = some p → (cofactorValue p).isSome) := by
  have hkey : cofactorSetting.key = cofactorModeSetter.key := rfl
  simp only [Setter.run, hkey]
  cases locate params cofactorModeSetter.key with
  | none => exact ⟨rfl, rfl, fun _ p e => absurd e (by simp)⟩
  | some p =>
    simp only [cofactorModeSetter, cofactorSetting, keeping, cofactorValue, Option.some.injEq,
      forall_eq']
    cases p.getInt with
    | none => exact ⟨rfl, rfl, fun e => absurd e retOsslErr_ne⟩
    | some mode =>
      by_cases hmode : mode < -1 ∨ 1 < mode
      · simp only [hmode, if_true]
        exact ⟨trivial, trivial, fun e => absurd e retOsslErr_ne⟩
      · simp only [hmode, if_false]
        exact ⟨trivial, trivial, fun _ => rfl⟩

/-- The digest that the parameters set stands for the KDF that is settled, if one is. -/
def DigestFits (params : List OsslParam) (c : ExchCtx) (s : EcdhSettings) : Prop :=
  ∀ p digest, locate params kdfDigestSetter.key = some p → kdfDigestValue p = some digest →
    s.x963 = true → c.kdf = ckfDigest ∨ StandsFor digest c.kdf

/-- With a type of the KDF, no KDF is settled any more. -/
theorem kdfType_alike (h : Agrees c s)
    (hd : locate params kdfTypeSetter.key = none → DigestFits params c s) :
    Alike Agrees (kdfTypeSetter.run params c) (kdfTypeSetting.run params s) ∧
      ((kdfTypeSetter.run params c).1 = retOsslOk →
        DigestFits params (kdfTypeSetter.run params c).2 (kdfTypeSetting.run params s).2) := by
  have hkey : kdfTypeSetting.key = kdfTypeSetter.key := rfl
  simp only [Setter.run, hkey]
  cases hp : locate params kdfTypeSetter.key with
  | none => exact ⟨⟨rfl, h⟩, fun _ => hd hp⟩
  | some p =>
    simp only [kdfTypeSetter, kdfTypeSetting, keeping, kdfTypeValue]
    cases p.getUtf8StringPtr with
    | none => exact ⟨⟨rfl, h⟩, fun e => absurd e retOsslErr_ne⟩
    | some name =>
      by_cases hnil : name = []
      · simp only [hnil, if_true]
        refine ⟨⟨rfl, h.key, h.peer, h.mechtype, h.digest, h.outlen, h.ukm, fun _ => rfl, ?_⟩, ?_⟩
        · exact fun hx => absurd hx (by simp)
        · exact fun _ _ _ _ _ hx => absurd hx (by simp)
      · by_cases hname : name = ascii "X963KDF"
        · subst hname
          simp only [hnil, if_true, if_false]
          refine ⟨⟨rfl, h.key, h.peer, h.mechtype, h.digest, h.outlen, h.ukm, ?_, ?_⟩, ?_⟩
          · exact fun hx => absurd hx (by simp)
          · exact fun _ => .inl rfl
          · exact fun _ _ _ _ _ _ => .inl rfl
        · simp only [hnil, hname, if_false]
          exact ⟨⟨rfl, h⟩, fun e => absurd e retOsslErr_ne⟩

theorem kdfDigest_alike (h : Agrees c s) (hfits : DigestFits params c s) :
    Alike Agrees (kdfDigestSetter.run params c) (kdfDigestSetting.run params s) := by
  refine Setter.run_alike rfl h fun p hp => ?_
  have hfits := hfits p
  simp only [kdfDigestValue] at hfits
  simp only [kdfDigestSetter, kdfDigestSetting, keeping, kdfDigestValue]
  cases hname : p.getUtf8StringPtr with
  | none => exact ⟨rfl, h⟩
  | some name =>
    rw [hname] at hfits
    dsimp only at hfits ⊢
    cases hd : digestGetByName name with
    | error ret => exact ⟨rfl, h⟩
    | ok digest =>
      rw [hd] at hfits
      exact ⟨rfl, h.key, h.peer, h.mechtype, rfl, h.outlen, h.ukm, h.plain, hfits digest hp rfl⟩

theorem kdfOutlen_alike (h : Agrees c s) :
    Alike Agrees (kdfOutlenSetter.run params c) (kdfOutlenSetting.run params s) := by
  refine Setter.run_alike rfl h fun p _ => ?_
  simp only [kdfOutlenSetter, kdfOutlenSetting, keeping]
  cases p.getSizeT with
  | none => exact ⟨rfl, h⟩
  | some outlen => exact ⟨rfl, h.key, h.peer, h.mechtype, h.digest, rfl, h.ukm, h.plain, h.kdf⟩

theorem kdfUkm_alike (h : Agrees c s) :
    Alike Agrees (kdfUkmSetter.run params c) (kdfUkmSetting.run params s) := by
  refine Setter.run_alike rfl h fun p _ => ?_
  simp only [kdfUkmSetter, kdfUkmSetting, keeping]
  cases p.getOctetString with
  | none => exact ⟨rfl, h⟩
  | some ukm => exact ⟨rfl, h.key, h.peer, h.mechtype, h.digest, h.outlen, rfl, h.plain, h.kdf⟩

/-- The parameters set no digest for another KDF on a context that settled on one, unless they
    also set the type of the KDF. -/
def TrackedExch.KeepsKdf (c : TrackedExch) (params : List OsslParam) : Prop :=
  c.settings.x963 = true → c.ctx.kdf ≠ ckfDigest →
    (∀ p, locate params cofactorModeSetter.key = some p → (cofactorValue p).isSome) →
      locate params kdfTypeSetter.key = none →
        ∀ p digest, locate params kdfDigestSetter.key = some p → kdfDigestValue p = some digest →
          StandsFor digest c.ctx.kdf

theorem Agrees.setCtxParams {c : TrackedExch} (h : Agrees c.ctx c.settings)
    (hk : c.KeepsKdf params) :
    Agrees (c.setCtxParams params).ctx (c.setCtxParams params).settings := by
  have h₁ : Alike Agrees (cofactorModeSetter.run params c.ctx)
    (cofactorSetting.run params c.settings) := cofactor_alike h
  obtain ⟨hkdf, hx, hpass⟩ := cofactor_run c.ctx c.settings params
  refine (setAll_alike h₁ fun hok => ?_).2
  -- the digest is looked at after the type
  have hd : locate params kdfTypeSetter.key = none →
      DigestFits params (cofactorModeSetter.run params c.ctx).2
        (cofactorSetting.run params c.settings).2 := by
    intro htype p digest hp hv hx'
    rw [hkdf]
    by_cases hmark : c.ctx.kdf = ckfDigest
    · exact .inl hmark
    · exact .inr (hk (hx ▸ hx') hmark (hpass hok) htype p digest hp hv)
  have h₂ := kdfType_alike h₁.2 hd
  refine setAll_alike h₂.1 fun hok₂ => ?_
  have h₃ := kdfDigest_alike h₂.1.2 (h₂.2 hok₂)
  refine setAll_alike h₃ fun _ => ?_
  have h₄ : Alike Agrees (kdfOutlenSetter.run params _) (kdfOutlenSetting.run params _) :=
    kdfOutlen_alike h₃.2
  refine setAll_alike h₄ fun _ => ?_
  have h₅ : Alike Agrees (kdfUkmSetter.run params _) (kdfUkmSetting.run params _) :=
    kdfUkm_alike h₄.2
  exact setAll_alike h₅ fun _ => ⟨rfl, h₅.2⟩

end Agrees

/-! ## Runs -/

/-- A derivation with the settings finds a KDF, if it gets as far as to look for one. -/
def EcdhSettings.FindsKdf (s : EcdhSettings) (keyType : Option Bytes) : Prop :=
  s.key ≠ none → s.peer ≠ none → getKeyTypeFromString keyType ≠ ckUnavailableInformation →
    s.kdf ≠ none

/-- The calls after which a context still knows what it was given: nothing is duplicated that is
    not copied, no digest is set for another KDF than the one settled, and no KDF is settled that
    there is none of. -/
def ExchCall.Fits (cs : ExchCtxs) : ExchCall → Prop
  | dupctx i _ => ∀ c, cs i = some c → c.settings.digest = none ∧ c.settings.outlen = 0
  | init i _ params | setCtxParams i params => ∀ c, cs i = some c → c.KeepsKdf params
  | derive i (some _) =>
    ∀ c, cs i = some c → c.settings.FindsKdf (some (ascii "GENERIC-SECRET"))
  | deriveSkey i keyType _ => ∀ c, cs i = some c → c.settings.FindsKdf keyType
  | newctx _ | freectx _ | setPeer _ _ | derive _ none => True

section Steps

variable {c : ExchCtx} {s : EcdhSettings} {key : ObjId} {outlen : Option Nat}

theorem ecdhDeriveOn_agrees (h : Agrees c s) :
    Returns (fun r => Agrees r.2 s) (ecdhDeriveOn ctx c key) := by
  have hnote : ∀ {c : ExchCtx} uses, Agrees c s → Agrees (c.note uses) s :=
    fun _ h => h.congr rfl rfl rfl rfl rfl rfl rfl
  refine .andThen ?_
  rintro ⟨ret | ⟨dkey, x⟩, uses⟩
  · exact .pure (hnote uses h)
  · exact .andThen fun r => .pure (hnote r.2 ((hnote uses h).congr rfl rfl rfl rfl rfl rfl rfl))

theorem ecdhDeriveSkey_agrees (h : Agrees c s) (hk : s.FindsKdf keyType) :
    Returns (fun r => Agrees r.2 s) (ecdhDeriveSkey d2i ctx c keyType) := by
  rw [ecdhDeriveSkey]
  cases hkey : c.key with
  | none => exact .pure h
  | some key =>
    cases hpeer : c.peerKey with
    | none => exact .pure h
    | some peer =>
      refine .ite (fun _ => .pure h) fun htype => ?_
      have hkdf : s.kdf ≠ none :=
        hk (by simp [← h.key, hkey]) (by simp [← h.peer, hpeer]) htype
      have hset := h.setKdf
      generalize c.setKdf = r at hset
      obtain ⟨ok, c'⟩ := r
      rcases hset with ⟨-, hn⟩ | ⟨rfl, -, h'⟩
      · exact absurd hn hkdf
      · refine .andThen fun r => ?_
        cases r with
        | none => exact .pure h'
        | some publicData =>
          exact ecdhDeriveOn_agrees (h'.congr rfl rfl rfl rfl rfl rfl rfl)

theorem ecdhDerive_agrees (h : Agrees c s)
    (hk : ∀ n, outlen = some n → s.FindsKdf (some (ascii "GENERIC-SECRET"))) :
    Returns (fun r => Agrees r.2.2 s) (ecdhDerive d2i ctx c outlen) := by
  cases outlen with
  | none => exact .andThen fun _ => .pure h
  | some n =>
    refine (ecdhDeriveSkey_agrees h (hk n rfl)).bind ?_
    rintro ⟨_ | skey, c'⟩ h'
    · exact .pure h'
    · refine .andThen fun handle => .ite (fun _ => .andThen fun _ => .pure h') fun _ => ?_
      refine .andThen fun obj => .andThen fun r => .andThen fun _ => ?_
      have hnote : Agrees (c'.note r.2.2) s := h'.congr rfl rfl rfl rfl rfl rfl rfl
      exact .ite (fun _ => .pure hnote) fun _ => .pure hnote

/-- The initialization replaces the key, if anything. -/
theorem ecdhInitKey_key : Returns (fun r => r.2 = { c with key := r.2.key })
    (ecdhInitKey ctx c key) := by
  refine .andThen fun ret => .ite (fun _ => .pure rfl) fun _ => ?_
  exact .andThen fun _ => .andThen fun _ => .andThen fun _ => .pure rfl

theorem ecdhSetPeer_peer : Returns (fun r => r.2 = { c with peerKey := r.2.peerKey })
    (ecdhSetPeer ctx c key) := by
  refine .andThen fun _ => .andThen fun _ => .andThen fun ok => ?_
  exact .ite (fun _ => .pure rfl) fun _ => .pure rfl

theorem init_agrees {c : TrackedExch} (h : Agrees c.ctx c.settings) (hk : c.KeepsKdf params) :
    Returns (fun c' => Agrees c'.ctx c'.settings) (c.init ctx key params) := by
  refine ecdhInitKey_key.bind ?_
  rintro ⟨ok, d⟩ hd
  dsimp only at hd
  have h' : Agrees d { c.settings with key := d.key } := hd ▸ h.setKey d.key
  have hkdf : d.kdf = c.ctx.kdf := by rw [hd]
  cases ok with
  | false => exact .pure h'
  | true =>
    refine .pure (Agrees.setCtxParams (c := ⟨d, { c.settings with key := d.key }⟩) h' ?_)
    rw [TrackedExch.KeepsKdf, hkdf]
    exact hk

theorem setPeer_agrees {c : TrackedExch} (h : Agrees c.ctx c.settings) :
    Returns (fun c' => Agrees c'.ctx c'.settings) (c.setPeer ctx key) := by
  refine ecdhSetPeer_peer.bind ?_
  rintro ⟨ret, d⟩ hd
  dsimp only at hd
  have h' : Agrees d { c.settings with peer := d.peerKey } := hd ▸ h.setPeer d.peerKey
  exact .pure h'

theorem ecdhNewctx_agrees : Returns (fun r => ∀ c, r = some c → Agrees c {}) ecdhNewctx := by
  refine .andThen fun ok => .pure fun c hc => ?_
  split at hc
  · cases hc
    exact ⟨rfl, rfl, rfl, rfl, rfl, rfl, fun _ => rfl, fun h => absurd h (by decide)⟩
  · simp at hc

/-- A duplicate is what the original is, but for the digest and the output length. -/
theorem ecdhDupctx_agrees (h : Agrees c s) (hd : s.digest = none) (ho : s.outlen = 0)
    {held : Multiset ObjId} (hst : Balanced held st) (hheld : refs c.key + refs c.peerKey ≤ held) :
    wp (env O) (ecdhDupctx ctx c) (fun r _ => ∀ c', r = some c' → Agrees c' s) st := by
  simp only [ecdhDupctx, ecdhNewctx, Prog.perform_eq, Prog.call_bind, Prog.ret_bind, wp_alloc]
  rintro (_ | _)
  · simp
  simp only [if_true, Prog.pure_eq, Prog.ret_bind]
  refine wp.bind (hst.ref? (le_trans (Multiset.le_add_right _ _) hheld)) ?_
  rintro key st₁ ⟨rfl, h₁⟩
  have hpeer : refs c.peerKey ≤ refs c.key + held :=
    le_trans (le_trans (Multiset.le_add_left _ _) hheld) (Multiset.le_add_left _ _)
  refine wp.bind (Balanced.ref? h₁ hpeer) ?_
  rintro peer st₂ ⟨rfl, -⟩
  refine wp.bind wp_true fun ok st₃ _ => ?_
  split
  · exact wp.bind wp_true fun _ _ _ => by simp
  refine wp.bind wp_true fun ok st₄ _ => ?_
  split
  · exact wp.bind wp_true fun _ _ _ => by simp
  rintro _ ⟨⟩
  refine ⟨h.key, h.peer, h.mechtype, ?_, ?_, h.ukm, h.plain, fun hx => ?_⟩
  · rw [hd]
    rfl
  · rw [ho]
    rfl
  · rcases h.kdf hx with hk | hk
    · exact .inl hk
    · -- without a digest no KDF was settled
      rw [StandsFor, h.digest, hd, kdfOf_getD] at hk
      simp at hk

end Steps

/-- All contexts are as their settings say. -/
def ExchCtxs.Agree (cs : ExchCtxs) : Prop := ∀ i c, cs i = some c → Agrees c.ctx c.settings

theorem ExchCtxs.Agree.update {cs : ExchCtxs} (h : cs.Agree) {i : Nat} {r : Option TrackedExch}
    (hr : ∀ c, r = some c → Agrees c.ctx c.settings) : ExchCtxs.Agree (Function.update cs i r) := by
  intro j c hj
  by_cases e : j = i
  · subst e
    rw [Function.update_self] at hj
    exact hr c hj
  · rw [Function.update_of_ne e] at hj
    exact h j c hj

/-- A call on a context that returns a context as its settings say. -/
theorem onExch_agree {cs : ExchCtxs} (h : cs.Agree) {i : Nat} {f : TrackedExch → P ExchCtxs}
    (hf : ∀ c, cs i = some c → wp (env O) (f c) (fun cs' _ => ExchCtxs.Agree cs') st) :
    wp (env O) (onExch cs i f) (fun cs' _ => ExchCtxs.Agree cs') st := by
  rw [onExch]
  cases hc : cs i with
  | none => exact h
  | some c => exact hf c hc

/-- One call. -/
theorem ExchCall.agree {cs : ExchCtxs} (h : cs.Agree) (hst : ExchHeld cs st) {k : ExchCall}
    (hk : k.Fits cs) : wp (env O) (k.prog d2i ctx cs) (fun cs' _ => ExchCtxs.Agree cs') st := by
  have hput : ∀ {α : Type} {p : P α} {i : Nat} {f : α → TrackedExch},
      Returns (fun a => Agrees (f a).ctx (f a).settings) p →
        wp (env O) (do return Function.update cs i (some (f (← p))))
          (fun cs' _ => ExchCtxs.Agree cs') st := by
    intro α p i f hp
    refine wp.bind (hp.wp wp_true) ?_
    rintro a _ ⟨ha, -⟩
    refine h.update ?_
    rintro _ ⟨⟩
    exact ha
  cases k with
  | newctx j =>
    refine wp_ite.2 ⟨fun _ => h, fun _ => wp.bind (ecdhNewctx_agrees.wp wp_true) fun r _ hr =>
      h.update fun c hc => ?_⟩
    obtain ⟨c', hc', rfl⟩ := Option.map_eq_some_iff.1 hc
    exact hr.1 c' hc'
  | dupctx i j =>
    refine onExch_agree h fun c hc => wp_ite.2 ⟨fun _ => h, fun _ => ?_⟩
    obtain ⟨hd, ho⟩ := hk c hc
    obtain ⟨held, hbal, hheld⟩ := hst
    refine wp.bind (ecdhDupctx_agrees (h i c hc) hd ho hbal (hheld i c hc)) fun r _ hr =>
      h.update fun d hd => ?_
    obtain ⟨c', hc', rfl⟩ := Option.map_eq_some_iff.1 hd
    exact hr c' hc'
  | freectx i => exact onExch_agree h fun c hc => wp.bind wp_true fun _ _ _ => h.update (by simp)
  | init i key params =>
    exact onExch_agree h fun c hc => hput (f := id) (init_agrees (h i c hc) (hk c hc))
  | setPeer i key => exact onExch_agree h fun c hc => hput (f := id) (setPeer_agrees (h i c hc))
  | setCtxParams i params =>
    refine onExch_agree h fun c hc => h.update ?_
    rintro _ ⟨⟩
    exact (h i c hc).setCtxParams (hk c hc)
  | derive i outlen =>
    refine onExch_agree h fun c hc => hput (f := fun r : Nat × Option Nat × ExchCtx =>
      { c with ctx := r.2.2 }) ?_
    refine ecdhDerive_agrees (h i c hc) ?_
    rintro n rfl
    exact hk c hc
  | deriveSkey i keyType keylen =>
    refine onExch_agree h fun c hc => hput (f := fun r : Option ObjId × ExchCtx =>
      { c with ctx := r.2 }) ?_
    exact ecdhDeriveSkey_agrees (h i c hc) (hk c hc)

theorem ExchReached.agree {cs : ExchCtxs} (h : ExchReached O d2i ctx (fun cs k => k.Fits cs) cs) :
    cs.Agree := by
  induction h with
  | start => exact fun i c hc => by simp at hc
  | call k _ hst hok hrun ih => exact hrun.of_wp (ExchCall.agree ih hst hok)

/-- What a derivation asks for is what the last values that were accepted, the key and the peer
    say, and what a derivation on a duplicate with the same settings asks for: in every run that
    duplicates no context with a digest or an output length, sets no digest for another KDF than
    the one that was settled without setting the type of the KDF as well, and derives with no
    digest that there is no KDF for. -/
theorem ecdhPrepare_settings {cs : ExchCtxs} {i : Nat} {c : TrackedExch}
    (h : ExchReached O d2i ctx (fun cs k => k.Fits cs) cs) (hc : cs i = some c) :
    Prod.fst <$> ecdhPrepare d2i c.ctx keyType keylen = c.settings.request d2i keyType keylen ∧
      ∀ j c', cs j = some c' → c'.settings = c.settings →
        Prod.fst <$> ecdhPrepare d2i c'.ctx keyType keylen =
          Prod.fst <$> ecdhPrepare d2i c.ctx keyType keylen := by
  have hreq : Prod.fst <$> ecdhPrepare d2i c.ctx keyType keylen =
      c.settings.request d2i keyType keylen := (h.agree i c hc).request
  refine ⟨hreq, fun j c' hc' hs => ?_⟩
  rw [hreq, (h.agree j c' hc').request, hs]

/-! ## Concrete runs -/

/-- A private key and a public key on the token, to each of which a reference is held. -/
def exchState : State where
  mem := { objs := [
    some { slotid := 1, handle := 20, cls := Cko.privateKey, key := { type := ckkEc } },
    some { slotid := 1, handle := 21, cls := Cko.publicKey, key := { type := ckkEc },
           attrs := [(ckaEcPoint, [4])] }] }

/-- A call in this state, answered by a well-behaved token. -/
def exchStep (cs : ExchCtxs) (k : ExchCall) : ExchCtxs :=
  (run plain (k.prog some plainCtx cs) exchState).1

/-- The parameters for the KDF of X9.63 with a digest. -/
def x963With (digest : String) : List OsslParam := [
  ⟨ascii "kdf-type", .utf8String (some (ascii "X963KDF"))⟩,
  ⟨ascii "kdf-digest", .utf8String (some (ascii digest))⟩]

/-- A context that derived with SHA-256. -/
def derivedExch : ExchCtxs :=
  [.newctx 0, .setPeer 0 1, .init 0 0 (x963With "SHA2-256"), .deriveSkey 0 none 32].foldl exchStep
    fun _ => none

theorem exchState_balanced : Balanced {0, 1} exchState := by
  have h : Balanced (.range exchState.mem.objs.length) exchState :=
    .start (by simp [exchState])
  exact h

/-- A call on the contexts, when the first one is the only one. -/
theorem ExchReached.step {ok : ExchCtxs → ExchCall → Prop} {cs : ExchCtxs} {k : ExchCall}
    (h : ExchReached (replies plain) some plainCtx ok cs) (hn : ∀ i, cs (i + 1) = none)
    (hc : ∀ c ∈ cs 0, refs c.ctx.key + refs c.ctx.peerKey ≤ {0, 1}) (hok : ok cs k) :
    ExchReached (replies plain) some plainCtx ok (exchStep cs k) := by
  refine .call k h ⟨_, exchState_balanced, fun i c hi => ?_⟩ hok (runs_run _ _)
  rcases i with _ | i
  · exact hc c hi
  · rw [hn i] at hi
    cases hi

/-- The calls that lead to a context that derived with SHA-256. -/
theorem derivedExch_reached {ok : ExchCtxs → ExchCall → Prop}
    (hok : ∀ cs k, k.Fits cs → ok cs k) :
    ExchReached (replies plain) some plainCtx ok derivedExch := by
  refine .step (.step (.step (.step .start ?_ ?_ ?_) ?_ ?_ ?_) ?_ ?_ ?_) ?_ ?_ ?_
  all_goals first | exact fun _ => rfl | decide | skip
  · exact hok _ _ trivial
  · exact hok _ _ trivial
  · exact hok _ _ fun c _ _ _ _ ht => absurd ht (by decide)
  · refine hok _ _ ?_
    rintro c ⟨⟩ _ _ _
    decide

/-- With the type of the KDF set again, the second derivation uses the new digest. -/
theorem ecdhPrepare_settings_sha512 : ∃ c,
    exchStep derivedExch (.setCtxParams 0 (x963With "SHA2-512")) 0 = some c ∧
      c.settings.kdf = some 8 ∧
      Prod.fst <$> ecdhPrepare some c.ctx none 32 = c.settings.request some none 32 := by
  have h : ExchReached (replies plain) some plainCtx (fun cs k => k.Fits cs)
      (exchStep derivedExch (.setCtxParams 0 (x963With "SHA2-512"))) := by
    refine .step (derivedExch_reached fun _ _ h => h) (fun _ => rfl) (by decide) ?_
    exact fun c _ _ _ _ ht => absurd ht (by decide)
  have hs : (exchStep derivedExch (.setCtxParams 0 (x963With "SHA2-512")) 0).map
      (·.settings.kdf) = some (some 8) := by decide
  obtain ⟨c, hc, hk⟩ := Option.map_eq_some_iff.1 hs
  exact ⟨c, hc, hk, (ecdhPrepare_settings h hc).1⟩

/-- A digest that is set after a derivation is not used by the next one. -/
theorem ecdhPrepare_keepsKdf : ¬∀ cs i c, ExchReached (replies plain) some plainCtx
    (fun _ _ => True) cs → cs i = some c →
      Prod.fst <$> ecdhPrepare some c.ctx none 32 = c.settings.request some none 32 := by
  intro h
  have hr : ExchReached (replies plain) some plainCtx (fun _ _ => True)
      (exchStep derivedExch (.setCtxParams 0
        [⟨ascii "kdf-digest", .utf8String (some (ascii "SHA2-512"))⟩])) :=
    .step (derivedExch_reached fun _ _ _ => trivial) (fun _ => rfl) (by decide) trivial
  have hask := congrArg (fun p => ((run plain p exchState).1).map (·.kdf)) (h _ 0 _ hr rfl)
  exact absurd hask (by decide)

end P11Prov
