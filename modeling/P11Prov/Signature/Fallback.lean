import P11Prov.Encoding.Der
import P11Prov.Run
import P11Prov.Signature.Unchanged

/-!
# The fallback of a digest signature

A token may not have the mechanism that digests and signs at once. The digest
is made by OpenSSL then, and the token signs it with the raw mechanism. That is
the same signature if the raw mechanism has the parameters that the combined
one would have had, and if what is signed is the digest, in a `DigestInfo` for
PKCS#1.

The fallback signs through a second context (`mechFallbackFinal`), which it
gives the key, the operation and the digest, but not the parameters. So the
signatures agree exactly where the parameters are the defaults of the digest
(`PssDefault`): `fallback_signs_same`.
-/

namespace P11Prov

open Interaction Encoding

/-! ## Digest signatures -/

/-- The function that a family falls back to. -/
def SigAlg.fallbackOperate : SigAlg → Option FallbackOperate
  | rsasig => some .rsasig
  | ecdsa => some .ecdsa
  | eddsa => none
  | mldsa => some .mldsa

/-- The update functions of a family. There is none for EdDSA. -/
def SigAlg.digestUpdate : SigAlg → Ctx → SigCtx → Bytes → P (Nat × SigCtx)
  | rsasig => rsasigDigestUpdate
  | ecdsa => ecdsaDigestUpdate
  | eddsa => fun _ c _ => pure (retOsslErr, c)
  | mldsa => mldsaDigestUpdate

/-- The data of a message, piece by piece, as long as the updates succeed. -/
def digestUpdates (alg : SigAlg) (ctx : Ctx) : SigCtx → List Bytes → P (Option SigCtx)
  | c, [] => pure (some c)
  | c, data :: chunks => do
    let (ret, c) ← alg.digestUpdate ctx c data
    if ret ≠ retOsslOk then
      return none
    digestUpdates alg ctx c chunks

/-- A context that was initialised for a digest operation and took no data yet. -/
structure Prepared (alg : SigAlg) (c : SigCtx) : Prop where
  digestOp : c.digestOp = true
  mechanism : c.mechanism = ckUnavailableInformation
  session : c.session = none
  fallbackDigest : c.fallbackDigest = none
  fallbackOperate : c.fallbackOperate = alg.fallbackOperate

section Init

variable {ctx : Ctx} {alg : SigAlg} {c : SigCtx}

theorem Prepared.of_same {c' : SigCtx} (h : Prepared alg c) (hs : SameOperation c c') :
    Prepared alg c' :=
  ⟨hs.digestOp.trans h.digestOp, hs.mechanism.trans h.mechanism, hs.session.trans h.session,
    hs.fallbackDigest.trans h.fallbackDigest, hs.fallbackOperate.trans h.fallbackOperate⟩

theorem sigOpInit_keeps {key : ObjId} {operation : Flags} {digest : Option Bytes} :
    Returns (fun r => ∃ key operation digest, r.2 = { c with key, operation, digest })
      (sigOpInit ctx c key operation digest) := by
  refine .andThen fun ret => .ite (fun _ => ⟨_, _, _, rfl⟩) fun _ => .andThen fun r => ?_
  cases r with
  | error ret => exact ⟨_, _, _, rfl⟩
  | ok key =>
    refine .andThen fun r => ?_
    cases r with
    | none => exact ⟨none, _, _, rfl⟩
    | some key =>
      cases digest with
      | none => exact ⟨some key, _, _, rfl⟩
      | some name =>
        dsimp only
        cases digestGetByName name <;> exact ⟨some key, _, _, rfl⟩

theorem sigNewctx_returns {mechtype : Nat} :
    Returns (fun r => ∀ c ∈ r, c = { mechtype }) (sigNewctx mechtype) := by
  refine .andThen fun _ => .ite (fun _ => ?_) fun _ => ?_
  · rintro _ ⟨⟩
    rfl
  · rintro _ ⟨⟩

/-- A digest operation is prepared by its initialisation. -/
theorem sigDigestInit_prepared (hm : c.mechanism = ckUnavailableInformation) (hs : c.session = none)
    (hf : c.fallbackDigest = none) (hfo : c.fallbackOperate = alg.fallbackOperate)
    {default digest : Option Bytes} {operation : Flags} {key : ObjId}
    {params : Option (List OsslParam)} : Returns (fun r => r.1 = retOsslOk → Prepared alg r.2)
      (sigDigestInit alg default operation ctx c digest key params) := by
  refine sigOpInit_keeps.bind ?_
  rintro ⟨ret, c'⟩ ⟨key, operation, digest, rfl⟩
  refine .ite (fun _ hok => absurd hok retOsslErr_ne) fun _ => .andThen fun obj => ?_
  intro _
  have hp : Prepared alg { c with key, operation, digest, digestOp := true } :=
    ⟨rfl, hm, hs, hf, hfo⟩
  exact hp.of_same setCtxParams_same

end Init

/-- The digests of OpenSSL are those of `H`. -/
def EvpDigests (O : Oracle) (H : Nat → Bytes → Bytes) : Prop :=
  ∀ st digest data md, O st (.evpFinal digest data) (some md) → md = H digest data

/-- The object identifiers of the digests. -/
def digestOid (digest : Nat) : List Nat :=
  if digest = Ckm.sha1 then [1, 3, 14, 3, 2, 26]
  else if digest = Ckm.sha256 then [2, 16, 840, 1, 101, 3, 4, 2, 1]
  else if digest = Ckm.sha384 then [2, 16, 840, 1, 101, 3, 4, 2, 2]
  else if digest = Ckm.sha512 then [2, 16, 840, 1, 101, 3, 4, 2, 3]
  else if digest = Ckm.sha224 then [2, 16, 840, 1, 101, 3, 4, 2, 4]
  else if digest = Ckm.sha3_224 then [2, 16, 840, 1, 101, 3, 4, 2, 7]
  else if digest = Ckm.sha3_256 then [2, 16, 840, 1, 101, 3, 4, 2, 8]
  else if digest = Ckm.sha3_384 then [2, 16, 840, 1, 101, 3, 4, 2, 9]
  else if digest = Ckm.sha3_512 then [2, 16, 840, 1, 101, 3, 4, 2, 10]
  else []

namespace SigCtx

/-- What the raw mechanism signs for a digest. -/
def digestTbs (c : SigCtx) (md : Bytes) : Bytes :=
  if c.mechtype = Ckm.rsaPkcs then Der.digestInfo (digestOid c.digest) md else md

/-- The PSS parameters are unset or the defaults of the digest. -/
def PssDefault (c : SigCtx) : Prop :=
  c.mechtype = Ckm.rsaPkcsPss → ∀ data ∈ rsasigDigestMap c.digest,
    (c.pssParams.mgf = 0 ∨ c.pssParams.mgf = data.mgf) ∧
      (c.pssParams.sLen = 0 ∨ digestGetDigestSize c.digest = .ok c.pssParams.sLen)

end SigCtx

/-- The constants of the table are the `DigestInfo` of RFC 8017. -/
theorem rsasigMechMap_digestInfo {data : RsasigData} (h : data ∈ rsasigMechMap) {md : Bytes}
    (hmd : digestGetDigestSize data.digest = .ok md.length) :
    data.derDigestinfo ++ md = Der.digestInfo (digestOid data.digest) md := by
  have hall : ∀ data ∈ rsasigMechMap, ∀ size ∈ (digestGetDigestSize data.digest).toOption,
      data.derDigestinfo = Der.digestInfoHeader (digestOid data.digest) size := by
    decide +kernel
  rw [Der.digestInfo_eq, ← hall data h md.length (by rw [hmd]; rfl)]

/-! ## The updates -/

/-- The context has fallen back, and its digest took `data`. -/
def Fallen (alg : SigAlg) (c c' : SigCtx) (data : Bytes) : Prop :=
  ∃ d, alg.chosen c = some d ∧ d.mechanism ≠ d.mechtype ∧
    c' = { d with fallbackDigest := some (.running c.digest data) }

/-- The context gives its data to the token. -/
structure OnToken (c : SigCtx) : Prop where
  mechanism : c.mechanism ≠ ckUnavailableInformation
  session : c.session ≠ none
  fallbackDigest : c.fallbackDigest = none

section Updates

variable {O : Oracle} {ctx : Ctx} {alg : SigAlg} {c c' : SigCtx} {st : State}
  {l : List CryptoEvent} {data acc : Bytes}

/-- All families but EdDSA have the one body of the update functions. -/
theorem digestUpdate_with (halg : alg ≠ .eddsa) :
    alg.digestUpdate = digestUpdateWith alg.setMechanism := by
  cases alg with
  | rsasig => rfl
  | ecdsa => rfl
  | eddsa => exact absurd rfl halg
  | mldsa => rfl

/-- A context with a mechanism keeps it. -/
theorem digestUpdate_eq (h : c.mechanism ≠ ckUnavailableInformation) (halg : alg ≠ .eddsa) :
    alg.digestUpdate ctx c data = sigDigestUpdate ctx c data := by
  rw [digestUpdate_with halg]
  exact if_neg h

/-- A context without one is given the one that is chosen. -/
theorem wp_digestUpdate {Q : Nat × SigCtx → State → Prop} (halg : alg ≠ .eddsa)
    (h : c.mechanism = ckUnavailableInformation) (hl : st.tok.log = l)
    (he : ∀ c' st', Q (retOsslErr, c') st')
    (hd : ∀ d st', alg.chosen c = some d → st'.tok.log = l →
      wp (env O) (sigDigestUpdate ctx d data) Q st') :
    wp (env O) (alg.digestUpdate ctx c data) Q st := by
  rw [digestUpdate_with halg]
  refine wp_ite.2 ⟨fun _ => wp.bind (setMechanism_spec alg) ?_, fun hne => absurd h hne⟩
  rintro ⟨ret, d⟩ st' ⟨hl', hok⟩
  refine wp_ite.2 ⟨fun _ => he d st', fun hret => ?_⟩
  exact hd d st' (hok (not_not.1 hret)) (hl'.trans hl)

/-- Data for the digest of the fallback. -/
theorem fallbackDigestUpdate_spec {d : SigCtx} {digest : Nat} (hl : st.tok.log = l) :
    wp (env O) (fallbackDigestUpdate d (.running digest acc) data) (fun r st' => r.1 = retOsslOk →
      st'.tok.log = l ∧ r.2 = { d with fallbackDigest := some (.running digest (acc ++ data)) }) st := by
  have hcall : Quiet (call (.evpUpdate digest data)) := .perform trivial
  refine wp.bind (hcall.log st hl) fun b st' hl' => ?_
  refine wp_ite.2 ⟨fun _ _ => ⟨hl', rfl⟩, fun _ => ?_⟩
  exact fun hok => absurd hok retOsslErr_ne

/-- A context that has fallen back stays there. -/
theorem Fallen.update (h : Fallen alg c c' acc) (halg : alg ≠ .eddsa) (hl : st.tok.log = l) :
    wp (env O) (alg.digestUpdate ctx c' data) (fun r st' => r.1 = retOsslOk →
      st'.tok.log = l ∧ Fallen alg c r.2 (acc ++ data)) st := by
  obtain ⟨d, hd, hne, rfl⟩ := h
  obtain ⟨m, p, q, rfl, hm⟩ := chosen_eq hd
  rw [digestUpdate_eq hm halg]
  refine wp_mono (fallbackDigestUpdate_spec hl) fun r st' hr hok => ?_
  obtain ⟨hl', hr⟩ := hr hok
  exact ⟨hl', _, hd, hne, hr⟩

/-- The data of a session goes to the token. -/
theorem sessionDigestUpdate_onToken {s : SessId} (h : OnToken c) :
    wp (env O) (sessionDigestUpdate ctx c s data) (fun r _ => r.1 = retOsslOk → OnToken r.2) st := by
  refine wp.bind wp_true fun _ st _ => wp.bind wp_true fun r st _ => ?_
  refine wp_ite.2 ⟨fun _ => wp.bind wp_true fun _ st _ hok => absurd hok retOsslErr_ne, fun _ => ?_⟩
  exact fun _ => h

theorem OnToken.digestUpdateOn (h : OnToken c) : wp (env O) (digestUpdateOn ctx c data)
    (fun r _ => r.1 = retOsslOk → OnToken r.2) st := by
  obtain ⟨s, hs⟩ := Option.ne_none_iff_exists'.1 h.session
  simp only [P11Prov.digestUpdateOn, h.fallbackDigest, hs]
  exact sessionDigestUpdate_onToken h

theorem OnToken.update (h : OnToken c) (halg : alg ≠ .eddsa) :
    wp (env O) (alg.digestUpdate ctx c data) (fun r _ => r.1 = retOsslOk → OnToken r.2) st := by
  have hstart : digestStart ctx c = pure (Ckr.ok, c) := if_neg fun hn => h.session hn.2
  rw [digestUpdate_eq h.mechanism halg, sigDigestUpdate, hstart]
  exact h.digestUpdateOn

/-- A context with a mechanism starts: it falls back, or has a session. -/
theorem digestStart_spec (hs : c.session = none) (hf : c.fallbackDigest = none)
    (hm : c.mechanism ≠ ckUnavailableInformation) (hl : st.tok.log = l) :
    wp (env O) (digestStart ctx c) (fun r st' => r.1 = Ckr.ok →
      (st'.tok.log = l ∧ c.mechanism ≠ c.mechtype ∧
        r.2 = { c with fallbackDigest := some (.running c.digest []) }) ∨ OnToken r.2) st := by
  refine wp_ite.2 ⟨fun _ => ?_, fun h => absurd ⟨hf, hs⟩ h⟩
  refine wp.bind (sigOperateInit_started hl) fun r st' hr => ?_
  cases hr with
  | failed hl hret => exact fun hok => absurd hok hret
  | refused hl hret => exact fun hok => absurd hok hret
  | @fallback ret md st' hl hd hne hmd =>
    rintro (hret : ret = Ckr.ok)
    refine .inl ⟨hl, hne, ?_⟩
    rw [hmd hret, ← hs]
    exact if_pos hret
  | started hl hh => exact fun _ => .inr ⟨hm, by simp, hf⟩

/-- The first data of a context with a mechanism. -/
theorem sigDigestUpdate_first (hs : c.session = none) (hf : c.fallbackDigest = none)
    (hm : c.mechanism ≠ ckUnavailableInformation) (hl : st.tok.log = l) :
    wp (env O) (sigDigestUpdate ctx c data) (fun r st' => r.1 = retOsslOk →
      (st'.tok.log = l ∧ c.mechanism ≠ c.mechtype ∧
        r.2 = { c with fallbackDigest := some (.running c.digest data) }) ∨ OnToken r.2) st := by
  refine wp.bind (digestStart_spec hs hf hm hl) ?_
  rintro ⟨ret, c'⟩ st' hr
  refine wp_ite.2 ⟨fun _ hok => absurd hok retOsslErr_ne, fun hret => ?_⟩
  obtain ⟨hl', hne, rfl⟩ | ht := hr (not_not.1 hret)
  · refine wp_mono (fallbackDigestUpdate_spec hl') fun r st' hr hok => .inl ?_
    obtain ⟨hl', hr⟩ := hr hok
    exact ⟨hl', hne, hr⟩
  · exact wp_mono ht.digestUpdateOn fun r st' hr hok => .inr (hr hok)

/-- The first data of a context. -/
theorem Prepared.update (h : Prepared alg c) (halg : alg ≠ .eddsa) (hl : st.tok.log = l) :
    wp (env O) (alg.digestUpdate ctx c data) (fun r st' => r.1 = retOsslOk →
      (st'.tok.log = l ∧ Fallen alg c r.2 data) ∨ OnToken r.2) st := by
  refine wp_digestUpdate halg h.mechanism hl (fun _ _ hok => absurd hok retOsslErr_ne)
    fun d st' hd hl' => ?_
  obtain ⟨m, p, q, rfl, hm⟩ := chosen_eq hd
  refine wp_mono (sigDigestUpdate_first h.session h.fallbackDigest hm hl') fun r st' hr hok => ?_
  obtain ⟨hl', hne, hr⟩ | ht := hr hok
  · exact .inl ⟨hl', _, hd, hne, hr⟩
  · exact .inr ht

/-- The rest of a message, after the fall back. -/
theorem Fallen.updates (h : Fallen alg c c' acc) (halg : alg ≠ .eddsa) (hl : st.tok.log = l)
    (chunks : List Bytes) : wp (env O) (digestUpdates alg ctx c' chunks) (fun r st' => ∀ c₁ ∈ r,
      st'.tok.log = l ∧ Fallen alg c c₁ (acc ++ chunks.flatten)) st := by
  induction chunks generalizing c' acc st with
  | nil =>
    rintro _ ⟨⟩
    exact ⟨hl, by simpa using h⟩
  | cons data chunks ih =>
    refine wp.bind (h.update halg hl) ?_
    rintro ⟨ret, c''⟩ st' hr
    refine wp_ite.2 ⟨fun _ => by simp, fun hret => ?_⟩
    obtain ⟨hl', h'⟩ := hr (not_not.1 hret)
    simpa using ih h' hl'

/-- The rest of a message, on the token. -/
theorem OnToken.updates (h : OnToken c) (halg : alg ≠ .eddsa) (chunks : List Bytes) :
    wp (env O) (digestUpdates alg ctx c chunks) (fun r _ => ∀ c₁ ∈ r, OnToken c₁) st := by
  induction chunks generalizing c st with
  | nil =>
    rintro _ ⟨⟩
    exact h
  | cons data chunks ih =>
    refine wp.bind (h.update halg) ?_
    rintro ⟨ret, c'⟩ st' hr
    exact wp_ite.2 ⟨fun _ => by simp, fun hret => ih (hr (not_not.1 hret))⟩

/-- A message whose context has fallen back was digested as a whole. -/
theorem Prepared.updates (h : Prepared alg c) (halg : alg ≠ .eddsa) (hl : st.tok.log = l)
    (chunks : List Bytes) : wp (env O) (digestUpdates alg ctx c chunks) (fun r st' => ∀ c₁ ∈ r,
      c₁.fallbackDigest ≠ none → st'.tok.log = l ∧ Fallen alg c c₁ chunks.flatten) st := by
  cases chunks with
  | nil =>
    rintro _ ⟨⟩ hf
    exact absurd h.fallbackDigest hf
  | cons data chunks =>
    refine wp.bind (h.update halg hl) ?_
    rintro ⟨ret, c'⟩ st' hr
    refine wp_ite.2 ⟨fun _ => by simp, fun hret => ?_⟩
    obtain ⟨hl', hfall⟩ | ht := hr (not_not.1 hret)
    · exact wp_mono (hfall.updates halg hl' chunks) fun r st' hr c₁ hc₁ _ => hr c₁ hc₁
    · refine wp_mono (ht.updates halg chunks) fun r st' hr c₁ hc₁ hf => ?_
      exact absurd (hr c₁ hc₁).fallbackDigest hf

end Updates

/-! ## The raw signature -/

/-- The second context of the fallback, once it has a key. -/
def SigCtx.raw (c : SigCtx) (key : ObjId) : SigCtx where
  mechtype := c.mechtype
  key := some key
  operation := c.operation
  digest := c.digest

/-- The parameters of its mechanism. -/
def SigCtx.rawParameter (c : SigCtx) : MechParameter :=
  if c.mechtype = Ckm.rsaPkcsPss then
    ((rsasigDigestMap c.digest).map (PssParams.withDefaults {})).elim .null .pss
  else .null

section Raw

variable {O : Oracle} {ctx : Ctx} {c d : SigCtx} {st : State} {l : List CryptoEvent}
  {key : ObjId} {sig md : Bytes} {sigsize : Nat}

/-- Which combined mechanisms of RSA there are to fall back from. -/
theorem rsasigChosen_combined (hop : c.digestOp) (hd : rsasigChosen c = some d)
    (hne : d.mechanism ≠ d.mechtype) : ∃ data, rsasigDigestMap c.digest = some data ∧
      (c.mechtype = Ckm.rsaPkcs ∧ d.parameter = .null ∨
        c.mechtype = Ckm.rsaPkcsPss ∧ d.parameter = .pss (c.pssParams.withDefaults data)) := by
  unfold rsasigChosen at hd
  cases hdata : rsasigDigestMap c.digest with
  | none => simp [hop, hdata] at hd
  | some data =>
    refine ⟨data, rfl, ?_⟩
    simp only [hop, hdata, reduceCtorEq, and_false, if_false] at hd
    split at hd
    · obtain rfl := Option.some.inj hd
      exact .inl ⟨‹_›, rfl⟩
    split at hd
    · obtain rfl := Option.some.inj hd
      exact absurd rfl hne
    split at hd
    · obtain rfl := Option.some.inj hd
      exact .inr ⟨‹_›, rfl⟩
    · simp at hd

/-- The raw mechanism of RSA. -/
theorem rsasigSetMechanism_raw (key : ObjId) (hm : c.mechtype = Ckm.rsaPkcs ∨ c.mechtype = Ckm.rsaPkcsPss)
    {data : RsasigData} (hd : rsasigDigestMap c.digest = some data) :
    ∃ e, rsasigSetMechanism (c.raw key) = pure (Ckr.ok, e) ∧ e.session = none ∧
      e.operation = c.operation ∧ e.mech = ⟨c.mechtype, c.rawParameter⟩ := by
  obtain hm | hm := hm
  · refine ⟨(c.raw key).setMech c.mechtype .null, ?_, rfl, rfl, ?_⟩
    · simp [rsasigSetMechanism, rsasigMech, SigCtx.raw, SigCtx.setMech, hm]
    · simp [SigCtx.mech, SigCtx.parameter, SigCtx.setMech, SigCtx.rawParameter, hm]
  · refine ⟨{ (c.raw key).setMech c.mechtype .pssParams with
      pssParams := PssParams.withDefaults {} data }, ?_, rfl, rfl, ?_⟩
    · have hp := pssDefaults_eq (c := (c.raw key).setMech c.mechtype .null) hd
      simp [rsasigSetMechanism, rsasigMech, SigCtx.raw, SigCtx.setMech, hm] at hp ⊢
      simp [hp]
    · simp [SigCtx.mech, SigCtx.parameter, SigCtx.setMech, SigCtx.rawParameter, hm, hd]

/-- What the fallback adds to the calls on the token: one call that starts the raw operation,
    and one that signs or verifies what belongs to the digest. -/
def RawCalls (c : SigCtx) (parameter : MechParameter) (sig : Bytes) (sigsize : Nat) (md : Bytes)
    (l l' : List CryptoEvent) : Prop :=
  ∃ h handle rv, l' = l ++ [⟨h, .init c.fn ⟨c.mechtype, parameter⟩ handle, rv⟩,
    ⟨h, c.oneShot sig sigsize (c.digestTbs md), Ckr.ok⟩]

/-- The raw operation holds no session at its end, and made these calls if it succeeded. -/
def RawDone (c : SigCtx) (sig : Bytes) (sigsize : Nat) (md : Bytes) (l : List CryptoEvent)
    (r : CkRv × SigCtx × Bytes) (st : State) : Prop :=
  r.2.1.session = none ∧
    (r.1 = Ckr.ok → RawCalls c c.rawParameter sig sigsize md l st.tok.log)

theorem rawDone_failed {ret : CkRv} {subctx : SigCtx} {out : Bytes} (hs : subctx.session = none)
    (hret : ret ≠ Ckr.ok) : RawDone c sig sigsize md l (ret, subctx, out) st :=
  ⟨hs, fun hok => absurd hok hret⟩

/-- An operation with the raw mechanism, on what belongs to the digest. -/
theorem sigOperate_raw {e : SigCtx} (hs : e.session = none) (hop : e.operation = c.operation)
    (hmech : e.mech = ⟨c.mechtype, c.rawParameter⟩) (hl : st.tok.log = l) :
    wp (env O) (sigOperate ctx e (some sig) sigsize (c.digestTbs md))
      (RawDone c sig sigsize md l) st := by
  refine wp_mono (sigOperate_spec hl) fun r st' hr => ⟨hr.1.trans hs, fun hok => ?_⟩
  obtain ⟨h, handle, rv, hl'⟩ := hr.2 hok
  have hfn : e.fn = c.fn := by simp only [SigCtx.fn, hop]
  have hone : e.oneShot = c.oneShot := by
    funext sig sigsize tbs
    simp only [SigCtx.oneShot, hop]
  exact ⟨h, handle, rv, by rw [hl', hfn, hmech, hone]⟩

/-- What `p11prov_rsasig_operate` signs for a digest of the right size. -/
theorem rsasigData_raw (hm : c.mechtype = Ckm.rsaPkcs ∨ c.mechtype = Ckm.rsaPkcsPss)
    {data : RsasigData} (hd : rsasigDigestMap c.digest = some data)
    (hmd : digestGetDigestSize c.digest = .ok md.length) {tbs : Bytes}
    (h : rsasigData (c.raw key) sigsize md = .ok tbs) : tbs = c.digestTbs md := by
  obtain ⟨hmem, hdig⟩ := rsasigDigestMap_some hd
  have hzero : c.digest ≠ 0 := hdig ▸ (rsasigMechMap_digest hmem).1
  obtain hm | hm := hm
  · simp only [rsasigData, rsasigEncodeData, SigCtx.raw, hm, hd, hmd] at h
    simp only [show ¬(Ckm.rsaPkcs = Ckm.rsaX509) by decide, false_and, and_false, if_false, hzero,
      ne_eq, not_false_eq_true, and_self, if_true, not_true_eq_false, false_or] at h
    split at h
    · simp at h
    · rw [← Except.ok.inj h, SigCtx.digestTbs, if_pos hm, ← hdig]
      exact rsasigMechMap_digestInfo hmem (hdig ▸ hmd)
  · simp only [rsasigData, SigCtx.raw, hm] at h
    simp only [show ¬(Ckm.rsaPkcsPss = Ckm.rsaX509) by decide,
      show ¬(Ckm.rsaPkcsPss = Ckm.rsaPkcs) by decide, false_and, and_false, if_false] at h
    rw [← Except.ok.inj h, SigCtx.digestTbs, if_neg]
    rw [hm]
    decide

theorem rsasigEncodeData_error {c : SigCtx} {tbs : Bytes} {ret : CkRv}
    (h : rsasigEncodeData c tbs = .error ret) : ret ≠ Ckr.ok := by
  unfold rsasigEncodeData at h
  split at h
  · rw [← Except.error.inj h]
    decide
  cases hs : digestGetDigestSize c.digest with
  | error r =>
    simp only [hs, Except.error.injEq] at h
    rw [← h, digestGetDigestSize_error hs]
    decide
  | ok size =>
    simp only [hs] at h
    split at h
    · rw [← Except.error.inj h]
      decide
    · simp at h

theorem rsasigData_error {c : SigCtx} {sigsize : Nat} {tbs : Bytes} {ret : CkRv}
    (h : rsasigData c sigsize tbs = .error ret) : ret ≠ Ckr.ok := by
  unfold rsasigData at h
  split at h
  · rw [← Except.error.inj h]
    decide
  split at h
  · exact rsasigEncodeData_error h
  · simp at h

/-- The raw operation of RSA. -/
theorem rsasigOperate_raw (hm : c.mechtype = Ckm.rsaPkcs ∨ c.mechtype = Ckm.rsaPkcsPss)
    {data : RsasigData} (hd : rsasigDigestMap c.digest = some data)
    (hmd : digestGetDigestSize c.digest = .ok md.length) (hl : st.tok.log = l) :
    wp (env O) (rsasigOperate ctx (c.raw key) (some sig) sigsize md)
      (RawDone c sig sigsize md l) st := by
  unfold rsasigOperate
  cases ht : rsasigData (c.raw key) sigsize md with
  | error ret => exact rawDone_failed rfl (rsasigData_error ht)
  | ok tbs =>
    obtain rfl := rsasigData_raw hm hd hmd ht
    obtain ⟨e, he, hs, hop, hmech⟩ := rsasigSetMechanism_raw key hm hd
    simp only [he, Prog.pure_eq, Prog.ret_bind]
    exact wp_ite.2 ⟨fun h => absurd rfl h, fun _ => sigOperate_raw hs hop hmech hl⟩

/-- The raw operation of ECDSA. -/
theorem ecdsaOperate_raw (hm : c.mechtype = Ckm.ecdsa) (hl : st.tok.log = l) :
    wp (env O) (ecdsaOperate ctx (c.raw key) (some sig) sigsize md)
      (RawDone c sig sigsize md l) st := by
  have hset : ecdsaSetMechanism (c.raw key) = (Ckr.ok, (c.raw key).setMech c.mechtype .null) := by
    simp [ecdsaSetMechanism, SigCtx.raw, SigCtx.setMech, hm]
  have htbs : c.digestTbs md = md := by
    rw [SigCtx.digestTbs, if_neg]
    rw [hm]
    decide
  have hmech : ((c.raw key).setMech c.mechtype .null).mech = ⟨c.mechtype, c.rawParameter⟩ := by
    simp [SigCtx.mech, SigCtx.parameter, SigCtx.setMech, SigCtx.rawParameter, hm]
  rw [ecdsaOperate, hset]
  refine wp_ite.2 ⟨fun h => absurd rfl h, fun _ => ?_⟩
  have hraw : wp (env O) (sigOperate ctx ((c.raw key).setMech c.mechtype .null) (some sig) sigsize
      (c.digestTbs md)) _ st := sigOperate_raw rfl rfl hmech hl
  rwa [htbs] at hraw

end Raw

/-! ## The end of a digest signature -/

section Final

variable {O : Oracle} {H : Nat → Bytes → Bytes} {ctx : Ctx} {alg : SigAlg} {c c₁ d : SigCtx}
  {st : State} {l : List CryptoEvent} {key : ObjId} {sig data md : Bytes} {sigsize : Nat}

theorem Quiet.opInitKey {operation : Flags} : Quiet (opInitKey ctx key operation) := by
  refine .bind mem fun obj => .ite (.ite .pure .pure) <| .ite (.ite ?_ .pure) .pure
  refine .bind objFindAssociated fun r => ?_
  cases r with
  | none => exact .pure
  | some key => exact .pure

theorem Quiet.sigOpInit {operation : Flags} {name : Option Bytes} :
    Quiet (sigOpInit ctx c key operation name) := by
  refine .bind (.perform trivial) fun _ => .ite .pure <| .bind opInitKey fun r => ?_
  cases r with
  | error ret => exact .pure
  | ok key =>
    refine .bind objRef fun r => ?_
    cases r with
    | none => exact .pure
    | some key =>
      cases name with
      | none => exact .pure
      | some name => dsimp only; cases digestGetByName name <;> exact .pure

theorem opInitKey_coded {operation : Flags} : Returns Coded (opInitKey ctx key operation) := by
  refine .andThen fun obj => .ite (fun _ => .ite (fun _ => coded_error (by decide))
    fun _ => coded_ok key) fun _ => .ite (fun _ => .ite (fun _ => .andThen fun r => ?_)
      fun _ => coded_ok key) fun _ => coded_error (by decide)
  cases r with
  | none => exact coded_error (by decide)
  | some key => exact coded_ok key

/-- A context that is initialised has a key, the operation and the digest. -/
theorem sigOpInit_returns {operation : Flags} {name : Bytes} {digest : Nat}
    (hname : digestGetByName name = .ok digest) :
    Returns (fun r => r.2.session = c.session ∧
      (r.1 = Ckr.ok → ∃ key, r.2 = { c with key := some key, operation, digest }))
      (sigOpInit ctx c key operation (some name)) := by
  refine .andThen fun ret => .ite (fun hret => ⟨rfl, fun hok => absurd hok hret⟩) fun _ => ?_
  refine opInitKey_coded.bind fun r hr => ?_
  cases r with
  | error ret => exact ⟨rfl, fun hok => absurd hok (hr ret rfl)⟩
  | ok key =>
    refine .andThen fun r => ?_
    cases r with
    | none => exact ⟨rfl, fun hok => absurd hok (by decide : Ckr.keyNeeded ≠ Ckr.ok)⟩
    | some key =>
      simp only [hname]
      exact ⟨rfl, fun _ => ⟨key, rfl⟩⟩

/-- The raw operation of a family that has fallen back. -/
theorem fallbackOperateOn_raw (halg : alg = .rsasig ∨ alg = .ecdsa) (hop : c.digestOp)
    (hd : alg.chosen c = some d) (hne : d.mechanism ≠ d.mechtype)
    (hmd : digestGetDigestSize c.digest = .ok md.length) (hl : st.tok.log = l) :
    wp (env O) (fallbackOperateOn ctx alg.fallbackOperate (c.raw key) (some sig) sigsize md)
      (RawDone c sig sigsize md l) st := by
  obtain rfl | rfl := halg
  · obtain ⟨data, hdata, hm⟩ := rsasigChosen_combined hop hd hne
    exact rsasigOperate_raw (hm.imp And.left And.left) hdata hmd hl
  · have hm : c.mechtype = Ckm.ecdsa := by
      by_contra hm
      simp [SigAlg.chosen, hm] at hd
    exact ecdsaOperate_raw hm hl

/-- The fields that the second context takes from a context that has fallen back. -/
theorem Fallen.fields (h : Fallen alg c c₁ data) : c₁.digest = c.digest ∧
    c₁.mechtype = c.mechtype ∧ c₁.operation = c.operation ∧
    c₁.fallbackOperate = c.fallbackOperate ∧
    c₁.fallbackDigest = some (.running c.digest data) := by
  obtain ⟨d, hd, -, rfl⟩ := h
  obtain ⟨m, p, q, rfl, -⟩ := chosen_eq hd
  exact ⟨rfl, rfl, rfl, rfl, rfl⟩

theorem fallbackSubctx_spec (halg : alg = .rsasig ∨ alg = .ecdsa) (hc : Prepared alg c)
    (hf : Fallen alg c c₁ data) (hmd : digestGetDigestSize c.digest = .ok md.length)
    (hl : st.tok.log = l) :
    wp (env O) (fallbackSubctx ctx c₁ key (some sig) sigsize md { mechtype := c.mechtype })
      (RawDone c sig sigsize md l) st := by
  obtain ⟨hdigest, -, hoperation, hfo, -⟩ := hf.fields
  obtain ⟨d, hd, hne, -⟩ := hf
  unfold fallbackSubctx
  rw [hdigest, hoperation, hfo, hc.fallbackOperate]
  cases hn : digestGetName c.digest with
  | error ret =>
    refine rawDone_failed rfl ?_
    rw [digestGetName_error hn]
    decide
  | ok name =>
    refine wp.bind ((sigOpInit_returns (digestGetByName_getName hn)).wp
      (Quiet.sigOpInit.log st hl)) ?_
    rintro ⟨ret, subctx⟩ st ⟨hr, hl⟩
    refine wp_ite.2 ⟨fun hret => rawDone_failed hr.1 hret, fun hret => ?_⟩
    obtain ⟨key', rfl⟩ := hr.2 (not_not.1 hret)
    exact fallbackOperateOn_raw halg hc.digestOp hd hne hmd hl

theorem sigFreectx_log {subctx : SigCtx} (hs : subctx.session = none) :
    Keeps (env O) (fun st => st.tok.log = l) (sigFreectx ctx subctx) := by
  simp only [sigFreectx, hs]
  exact (Quiet.objFree? subctx.key).log

/-- What the fallback does when it succeeds. -/
theorem mechFallbackFinal_spec (hH : EvpDigests O H) (halg : alg = .rsasig ∨ alg = .ecdsa)
    (hc : Prepared alg c) (hf : Fallen alg c c₁ data) {mdsize : Nat}
    (hsize : digestGetDigestSize c.digest = .ok mdsize) (hl : st.tok.log = l) :
    wp (env O) (mechFallbackFinal ctx c₁ (some sig) sigsize mdsize) (fun r st' => r.1 = Ckr.ok →
      RawCalls c c.rawParameter sig sigsize (H c.digest data) l st'.tok.log) st := by
  obtain ⟨-, hmechtype, -, -, hmd⟩ := hf.fields
  have hfinal : wp (env O) (fallbackDigestFinal c₁) (fun r st' => st'.tok.log = l ∧
      ∀ md ∈ r, md = H c.digest data) st := by
    simp only [fallbackDigestFinal, hmd]
    exact fun r hr => ⟨hl, fun md hm => hH st c.digest data md (hm ▸ hr)⟩
  refine wp.bind hfinal ?_
  rintro (_ | md) st ⟨hl, hmd⟩
  · exact fun hok => absurd hok (by decide)
  obtain rfl := hmd md rfl
  refine wp_ite.2 ⟨fun _ hok => absurd hok (by decide), fun hlen => ?_⟩
  cases c₁.key with
  | none => exact fun hok => absurd hok (by decide)
  | some key =>
    refine wp.bind (Quiet.objGetHandle.log st hl) fun handle st hl => ?_
    refine wp_ite.2 ⟨fun _ hok => absurd hok (by decide), fun _ => ?_⟩
    rw [hmechtype]
    refine wp_bind.2 <| wp.bind (Quiet.mem.log st hl) fun b st hl => ?_
    refine wp_ite.2 ⟨fun _ => ?_, fun _ hok => absurd hok (by decide)⟩
    refine wp.bind (fallbackSubctx_spec halg hc hf (by rw [hsize, not_not.1 hlen]) hl) ?_
    rintro ⟨ret, subctx, out⟩ st ⟨hs, hr⟩
    refine wp_bind.2 <| wp_mono (sigFreectx_log hs st rfl) fun _ st' hl' hok => ?_
    rw [hl']
    exact hr hok

/-- The digest signature of a context that has fallen back. -/
theorem Fallen.final (hH : EvpDigests O H) (halg : alg = .rsasig ∨ alg = .ecdsa)
    (hc : Prepared alg c) (hf : Fallen alg c c₁ data) (hl : st.tok.log = l) :
    wp (env O) (sigDigestFinal ctx c₁ (some sig) sigsize) (fun r st' => r.1 = retOsslOk →
      RawCalls c c.rawParameter sig sigsize (H c.digest data) l st'.tok.log) st := by
  obtain ⟨hdigest, -, -, -, hmd⟩ := hf.fields
  have hresult : wp (env O) (digestFinalResult ctx c₁ (some sig) sigsize) (fun r st' =>
      r.1 = retOsslOk →
        RawCalls c c.rawParameter sig sigsize (H c.digest data) l st'.tok.log) st := by
    refine wp_ite.2 ⟨fun _ hok => absurd hok retOsslErr_ne, fun _ => ?_⟩
    simp only [digestFinalOn, hmd, hdigest]
    cases hsize : digestGetDigestSize c.digest with
    | error ret => exact fun hok => absurd hok retOsslErr_ne
    | ok mdsize =>
      refine wp.bind (mechFallbackFinal_spec hH halg hc hf hsize hl) ?_
      rintro ⟨ret, out⟩ st hr
      by_cases hret : ret = Ckr.ok
      · simp only [hret, if_true]
        exact fun _ => hr hret
      · simp only [hret, if_false]
        exact fun hok => absurd hok retOsslErr_ne
  refine wp.bind hresult ?_
  rintro ⟨result, c₂, out⟩ st hr
  refine wp_bind.2 <| wp_mono ((Quiet.returnSession? c₂.session).log st rfl) fun _ st' hl' hok => ?_
  rw [hl']
  exact hr hok

/-! ## When the signatures agree -/

theorem PssParams.withDefaults_eq_iff {p : PssParams} {data : RsasigData}
    (hdata : data ∈ rsasigMechMap) : PssParams.withDefaults {} data = p.withDefaults data ↔
      (p.mgf = 0 ∨ p.mgf = data.mgf) ∧
        (p.sLen = 0 ∨ digestGetDigestSize data.digest = .ok p.sLen) := by
  obtain ⟨-, size, hsize, -, -⟩ := rsasigMechMap_digest hdata
  simp only [PssParams.withDefaults, hsize, Except.toOption, Option.getD_some, if_true,
    PssParams.mk.injEq, true_and, Except.ok.injEq]
  refine and_congr ?_ ?_
  · by_cases hm : p.mgf = 0 <;> simp [hm, eq_comm]
  · by_cases hl : p.sLen = 0 <;> simp [hl]

/-- The raw mechanism has the parameters of the combined one where these are the defaults. -/
theorem Fallen.rawParameter_eq_iff (halg : alg = .rsasig ∨ alg = .ecdsa) (hop : c.digestOp)
    (hf : Fallen alg c c₁ data) : c.rawParameter = c₁.parameter ↔ c.PssDefault := by
  obtain ⟨d, hd, hne, rfl⟩ := hf
  change c.rawParameter = d.parameter ↔ c.PssDefault
  obtain rfl | rfl := halg
  · obtain ⟨data, hdata, ⟨hm, hp⟩ | ⟨hm, hp⟩⟩ := rsasigChosen_combined hop hd hne
    · simp [SigCtx.rawParameter, SigCtx.PssDefault, hp, hm]
    · obtain ⟨hmem, hdig⟩ := rsasigDigestMap_some hdata
      simp only [SigCtx.rawParameter, SigCtx.PssDefault, hp, hm, hdata, if_true, Option.map_some,
        Option.elim_some, MechParameter.pss.injEq, forall_const, Option.mem_def, Option.some.injEq,
        forall_eq']
      rw [← hdig]
      exact PssParams.withDefaults_eq_iff hmem
  · have hm : c.mechtype = Ckm.ecdsa := by
      by_contra hm
      simp [SigAlg.chosen, hm] at hd
    have hp : d.parameter = .null := by
      simp only [SigAlg.chosen, hm, if_true, hop, Option.map_eq_some_iff] at hd
      obtain ⟨_, -, rfl⟩ := hd
      rfl
    simp [SigCtx.rawParameter, SigCtx.PssDefault, hp, hm]

end Final

/-- A digest signature that has fallen back and succeeds starts one operation, with the raw
    mechanism, and signs or verifies the digest of the whole message by one call. The mechanism
    has the parameters that the combined mechanism would have had exactly if they are the
    defaults of the digest. -/
theorem fallback_signs_same {O : Oracle} {H : Nat → Bytes → Bytes} (hH : EvpDigests O H)
    {alg : SigAlg} (halg : alg = .rsasig ∨ alg = .ecdsa) {ctx : Ctx} {c c₁ c₂ : SigCtx}
    {st st₁ st₂ : State} {chunks : List Bytes} {sig out : Bytes} {sigsize : Nat}
    (hc : Prepared alg c)
    (hupdates : Runs (env O) (digestUpdates alg ctx c chunks) st (some c₁) st₁)
    (hf : c₁.fallbackDigest ≠ none)
    (hfinal : Runs (env O) (sigDigestFinal ctx c₁ (some sig) sigsize) st₁ (retOsslOk, c₂, out) st₂) :
    RawCalls c c₁.parameter sig sigsize (H c.digest chunks.flatten) st.tok.log st₂.tok.log ↔
      c.PssDefault := by
  have hne : alg ≠ .eddsa := by
    obtain rfl | rfl := halg <;> decide
  obtain ⟨hl, hfall⟩ := hupdates.of_wp (hc.updates hne rfl chunks) c₁ rfl hf
  have hraw := hfinal.of_wp (hfall.final hH halg hc hl) rfl
  rw [← hfall.rawParameter_eq_iff halg hc.digestOp]
  constructor
  · rintro ⟨h, handle, rv, hlog⟩
    obtain ⟨h', handle', rv', hlog'⟩ := hraw
    have heq := List.append_cancel_left (hlog'.symm.trans hlog)
    simp only [List.cons.injEq, CryptoEvent.mk.injEq, CryptoCall.init.injEq,
      Mechanism.mk.injEq] at heq
    exact heq.1.2.1.2.1.2
  · intro hp
    exact hp ▸ hraw

/-! ## A token without the combined mechanisms -/

/-- The SHA-256 digest of `abc`. -/
def sha256Abc : Bytes :=
  [0xBA, 0x78, 0x16, 0xBF, 0x8F, 0x01, 0xCF, 0xEA, 0x41, 0x41, 0x40, 0xDE, 0x5D, 0xAE, 0x22, 0x23,
    0xB0, 0x03, 0x61, 0xA3, 0x96, 0x17, 0x7A, 0x9C, 0xB4, 0x10, 0xFF, 0x61, 0xF2, 0x00, 0x15, 0xAD]

/-- The answers of the plain token, and of OpenSSL for the message `abc`. -/
def abcReply (st : State) : (c : Call) → c.Resp
  | .evpFinal _ _ => some sha256Abc
  | c => st.tok.reply c

theorem abcReply_evpDigests : EvpDigests (replies abcReply) fun _ _ => sha256Abc := by
  intro st digest data md h
  exact Option.some.inj h

/-- A provider whose token has the raw mechanisms only. -/
def rawCtx : Ctx := { plainCtx with slots := [{ plainSlot with mechs := [Ckm.rsaPkcsPss] }] }

/-- A private key on this token. -/
def rawState : State where
  mem := { objs := [some { slotid := 1, handle := 5, cls := Cko.privateKey }] }

/-- A new context that is initialised for PSS with SHA-256 and a salt length. -/
def pssInit (saltlen : Bytes) : P (Nat × SigCtx) := do
  match ← rsasigNewctx with
  | none => return (retOsslErr, { mechtype := Ckm.rsaPkcs })
  | some c =>
    rsasigDigestSignInit rawCtx c (some (ascii "SHA256")) 0 (some
      [⟨ascii "pad-mode", .utf8String (some (ascii "pss"))⟩,
        ⟨ascii "saltlen", .utf8String (some saltlen)⟩])

/-- A context that is accepted is prepared. -/
theorem pssInit_prepared {saltlen : Bytes} :
    Returns (fun r => r.1 = retOsslOk → Prepared .rsasig r.2) (pssInit saltlen) := by
  refine Returns.bind (ψ := fun r => ∀ c ∈ r, c =
    { mechtype := Ckm.rsaPkcs, fallbackOperate := some .rsasig }) ?_ fun r hr => ?_
  · refine sigNewctx_returns.bind fun r hr => ?_
    rintro c hc
    obtain ⟨d, hd, rfl⟩ := Option.map_eq_some_iff.1 hc
    rw [hr d hd]
  · cases r with
    | none => exact fun hok => absurd hok retOsslErr_ne
    | some c =>
      obtain rfl := hr c rfl
      exact sigDigestInit_prepared rfl rfl rfl rfl

/-- The context and the state after the initialisation. -/
def pssContext (saltlen : Bytes) : SigCtx := (run abcReply (pssInit saltlen) rawState).1.2

def pssState (saltlen : Bytes) : State := (run abcReply (pssInit saltlen) rawState).2

/-- The run of the message `abc`. -/
def pssUpdated (saltlen : Bytes) : Option SigCtx × State :=
  run abcReply (digestUpdates .rsasig rawCtx (pssContext saltlen) [ascii "abc"]) (pssState saltlen)

/-- The run of the signature, in a buffer of 256 bytes. -/
def pssSigned (saltlen : Bytes) : (Nat × SigCtx × Bytes) × State :=
  run abcReply (sigDigestFinal rawCtx ((pssUpdated saltlen).1.getD { mechtype := 0 }) (some []) 256)
    (pssUpdated saltlen).2

section

variable {saltlen : Bytes}

theorem pssContext_prepared (h : (run abcReply (pssInit saltlen) rawState).1.1 = retOsslOk) :
    Prepared .rsasig (pssContext saltlen) :=
  ((runs_run (pssInit saltlen) rawState).of_wp (pssInit_prepared.wp wp_true)).1 h

theorem pssUpdated_runs (h : (pssUpdated saltlen).1.isSome) :
    Runs (env (replies abcReply))
      (digestUpdates .rsasig rawCtx (pssContext saltlen) [ascii "abc"]) (pssState saltlen)
      (some ((pssUpdated saltlen).1.getD { mechtype := 0 })) (pssUpdated saltlen).2 := by
  refine runs_of_run ?_
  obtain ⟨c, hc⟩ := Option.isSome_iff_exists.1 h
  rw [← pssUpdated, hc, Option.getD_some]

theorem pssSigned_runs (h : (pssSigned saltlen).1.1 = retOsslOk) :
    Runs (env (replies abcReply))
      (sigDigestFinal rawCtx ((pssUpdated saltlen).1.getD { mechtype := 0 }) (some []) 256)
      (pssUpdated saltlen).2 (retOsslOk, (pssSigned saltlen).1.2) (pssSigned saltlen).2 := by
  unfold pssSigned at h ⊢
  exact runs_of_run_fst h

end

/-- The default salt length is kept by the fallback. -/
theorem fallback_signs_same_digest : RawCalls (pssContext (ascii "digest"))
    ((pssUpdated (ascii "digest")).1.getD { mechtype := 0 }).parameter [] 256 sha256Abc
    (pssState (ascii "digest")).tok.log (pssSigned (ascii "digest")).2.tok.log := by
  have hc : Prepared .rsasig (pssContext (ascii "digest")) :=
    pssContext_prepared (by decide +kernel)
  refine (fallback_signs_same abcReply_evpDigests (.inl rfl) hc (pssUpdated_runs (by decide +kernel))
    (by decide +kernel) (pssSigned_runs (by decide +kernel))).2 fun _ data _ => ?_
  exact ⟨.inl (by decide +kernel), .inr (by decide +kernel)⟩

/-- A salt of 20 bytes, that the context accepted, is not: the raw mechanism is sent with a salt
    of 32 bytes. -/
theorem fallback_drops_salt : EvpDigests (replies abcReply) (fun _ _ => sha256Abc) ∧
    Prepared .rsasig (pssContext (ascii "20")) ∧
    Runs (env (replies abcReply))
      (digestUpdates .rsasig rawCtx (pssContext (ascii "20")) [ascii "abc"]) (pssState (ascii "20"))
      (some ((pssUpdated (ascii "20")).1.getD { mechtype := 0 })) (pssUpdated (ascii "20")).2 ∧
    ((pssUpdated (ascii "20")).1.getD { mechtype := 0 }).fallbackDigest ≠ none ∧
    Runs (env (replies abcReply))
      (sigDigestFinal rawCtx ((pssUpdated (ascii "20")).1.getD { mechtype := 0 }) (some []) 256)
      (pssUpdated (ascii "20")).2 (retOsslOk, (pssSigned (ascii "20")).1.2)
      (pssSigned (ascii "20")).2 ∧
    ¬RawCalls (pssContext (ascii "20"))
      ((pssUpdated (ascii "20")).1.getD { mechtype := 0 }).parameter [] 256 sha256Abc
      (pssState (ascii "20")).tok.log (pssSigned (ascii "20")).2.tok.log := by
  refine ⟨abcReply_evpDigests, pssContext_prepared (by decide +kernel),
    pssUpdated_runs (by decide +kernel),
    by decide +kernel, pssSigned_runs (by decide +kernel), ?_⟩
  rintro ⟨h, handle, rv, hlog⟩
  have hp : ((pssUpdated (ascii "20")).1.getD { mechtype := 0 }).parameter =
      .pss ⟨Ckm.sha256, Ckg.mgf1Sha256, 20⟩ := by
    decide +kernel
  have hm : ((pssSigned (ascii "20")).2.tok.log.map (·.call)).head? =
      some (.init .sign ⟨Ckm.rsaPkcsPss, .pss ⟨Ckm.sha256, Ckg.mgf1Sha256, 32⟩⟩ 5) := by
    decide +kernel
  have hl : (pssState (ascii "20")).tok.log = [] := by
    decide +kernel
  rw [hlog, hl, hp] at hm
  simp at hm

end P11Prov
