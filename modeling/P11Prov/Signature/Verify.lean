import P11Prov.Signature.Ecdsa
import P11Prov.Signature.Fallback
import P11Prov.Signature.Start

/-!
# One-shot signatures and verifications

A verification is to succeed only if the token has accepted the signature, of
the data and for the key and the mechanism of the context, and a signature is to
be the token's. Between OpenSSL and the token stand the functions of the
algorithms, which set the mechanism first. For RSA and ECDSA, a mechanism that
cannot be set is reported by a number that the caller takes for success
(`rsasigOperate`, `ecdsaOperate`). So what a success is worth depends on the
context alone: where the mechanism cannot fail to be set it is worth a call that
the token accepted (`sign_signed`), and where it can, any signature will do
(`verify_sound_iff`).
-/

namespace P11Prov

open Interaction Encoding

/-! ## The functions of the algorithms -/

/-- `p11prov_rsa_sig_size` -/
def rsaSigSize (key : Option Obj) : Except CkRv Nat :=
  let size := keyMember key (·.size)
  if keyMember key (·.type) = ckkRsa ∧ size ≠ ckUnavailableInformation then .ok size
  else .error Ckr.keyIndigestible

/-- `p11prov_eddsa_sig_size` -/
def eddsaSigSize (key : Option Obj) : Except CkRv Nat :=
  let size := keyMember key (·.size)
  if keyMember key (·.type) = ckkEcEdwards then
    if size = 32 then .ok 64
    else if size = 57 then .ok 114
    else .error Ckr.keyTypeInconsistent
  else .error Ckr.keyIndigestible

/-- `p11prov_mldsa_sig_size` -/
def mldsaSigSize (c : SigCtx) : Except CkRv Nat :=
  if c.mldsaParamset = 1 then .ok 2420
  else if c.mldsaParamset = 2 then .ok 3309
  else if c.mldsaParamset = 3 then .ok 4627
  else .error Ckr.generalError

/-- The body of the `sign` functions: the result, the context, the signature and `*siglen`. -/
def signWith (size : SigCtx → Option Obj → Except CkRv Nat)
    (operate : Ctx → SigCtx → Option Bytes → Nat → Bytes → P (CkRv × SigCtx × Bytes))
    (ctx : Ctx) (c : SigCtx) (sigsize : Option Nat) (tbs : Bytes) :
    P (Nat × SigCtx × Bytes × Nat) := do
  match sigsize with
  | none => return sigSizeQuery c (size c (← sigKey c))
  | some sigsize =>
    let (ret, c, sig) ← operate ctx c (some []) sigsize tbs
    if ret ≠ Ckr.ok then
      return (retOsslErr, c, [], 0)
    return (retOsslOk, c, sig, sig.length)

/-- `p11prov_rsasig_sign` -/
def rsasigSign := signWith (fun _ => rsaSigSize) rsasigOperate

/-- `p11prov_eddsa_sign` -/
def eddsaSign := signWith (fun _ => eddsaSigSize) eddsaOperate

/-- `p11prov_mldsa_sign` -/
def mldsaSign := signWith (fun c _ => mldsaSigSize c) mldsaOperate

/-- The body of the `verify` functions. -/
def verifyWith (operate : Ctx → SigCtx → Option Bytes → Nat → Bytes → P (CkRv × SigCtx × Bytes))
    (ctx : Ctx) (c : SigCtx) (sig tbs : Bytes) : P (Nat × SigCtx) := do
  let (ret, c, _) ← operate ctx c (some sig) sig.length tbs
  return (if ret ≠ Ckr.ok then retOsslErr else retOsslOk, c)

/-- `p11prov_rsasig_verify` -/
def rsasigVerify := verifyWith rsasigOperate

/-- `p11prov_eddsa_verify` -/
def eddsaVerify := verifyWith eddsaOperate

/-- `p11prov_mldsa_verify` -/
def mldsaVerify := verifyWith mldsaOperate

namespace SigAlg

/-- The operate function of a family. -/
def operate : SigAlg → Ctx → SigCtx → Option Bytes → Nat → Bytes → P (CkRv × SigCtx × Bytes)
  | rsasig => rsasigOperate
  | ecdsa => ecdsaOperate
  | eddsa => eddsaOperate
  | mldsa => mldsaOperate

/-- The `sign` function of a family. -/
def sign (X : EcdsaLib) :
    SigAlg → Ctx → SigCtx → Option Nat → Bytes → P (Nat × SigCtx × Bytes × Nat)
  | rsasig => rsasigSign
  | ecdsa => ecdsaSign X
  | eddsa => eddsaSign
  | mldsa => mldsaSign

/-- The `verify` function of a family. The last argument of the one for ECDSA is what is in its
    buffer before. -/
def verify (X : EcdsaLib) (stack : Bytes) : SigAlg → Ctx → SigCtx → Bytes → Bytes → P (Nat × SigCtx)
  | rsasig => rsasigVerify
  | ecdsa => fun ctx c sig tbs => ecdsaVerify X ctx c sig stack tbs
  | eddsa => eddsaVerify
  | mldsa => mldsaVerify

/-- What is signed for the data that is given. -/
def tbs (alg : SigAlg) (c : SigCtx) (sigsize : Nat) (data : Bytes) : Except CkRv Bytes :=
  match alg with
  | rsasig => rsasigData c sigsize data
  | ecdsa | eddsa | mldsa => .ok data

/-- The size of the buffer that the token signs into. -/
def rawSize (alg : SigAlg) (sigsize : Nat) : Nat :=
  match alg with
  | ecdsa => p11provMaxRawEccSigSize
  | rsasig | eddsa | mldsa => sigsize

/-- The signature as the caller gets it. -/
def sent (X : EcdsaLib) (size : Nat) (alg : SigAlg) (raw : Bytes) : Bytes :=
  match alg with
  | ecdsa => (convertEcdsaRawToDer X raw size).2.1
  | rsasig | eddsa | mldsa => raw

/-- The signature as the token gets it. -/
def received (X : EcdsaLib) (stack : Bytes) (alg : SigAlg) (key : Option Obj) (sig : Bytes) :
    Bytes :=
  match alg with
  | ecdsa =>
    let flen := keyMember key (·.size)
    (convertEcdsaDerToRaw X sig stack flen).2.take (2 * flen)
  | rsasig | eddsa | mldsa => sig

/-- The mechanism is set whatever the token answers, or it is noticed that it is not. For PSS in a
    digest operation none may be missing, but the key is asked which mechanisms it allows. -/
def Settles (alg : SigAlg) (c : SigCtx) : Prop :=
  match alg with
  | rsasig => (rsasigChosen c).isSome ∧ ¬(c.digestOp ∧ c.mechtype = Ckm.rsaPkcsPss)
  | ecdsa => (SigAlg.ecdsa.chosen c).isSome
  | eddsa | mldsa => True

instance (alg : SigAlg) (c : SigCtx) : Decidable (alg.Settles c) := by
  unfold Settles
  cases alg <;> infer_instance

end SigAlg

/-! ## What a success is worth -/

/-- The calls that the token accepted: a start with the mechanism of the context on the handle
    of its key, and the operation on the data. The session and the data are those of `W`. -/
def Operated (W : Handle → Bytes → Prop) (d : SigCtx) (sig : Bytes) (sigsize : Nat) (data : Bytes)
    (l : List CryptoEvent) (st : State) : Prop :=
  ∃ key x h rv, d.key = some key ∧ st.mem.obj key = some x ∧
    (x.asksLogin d.operation = false → rv = Ckr.ok) ∧ W h data ∧
    st.tok.log = l ++ [⟨h, .init d.fn d.mech x.current, rv⟩, ⟨h, d.oneShot sig sigsize data, Ckr.ok⟩]

/-- What the token returns when it signs data on a session is a signature of `V`. -/
def Signs (O : Oracle) (V : Handle → Bytes → Bytes → Prop) : Prop :=
  ∀ st h data size r, O st (.crypto h (.sign data size)) r → r.1 = Ckr.ok → V h data r.2

theorem signs_any {O : Oracle} : Signs O fun _ _ _ => True := fun _ _ _ _ _ _ _ => trivial

/-- The key that a context finds in a state. -/
def SigCtx.keyIn (c : SigCtx) (st : State) : Option Obj :=
  c.key.map fun key => (st.mem.obj key).getD .freed

section Operate

variable {O : Oracle} {ctx : Ctx} {c : SigCtx} {st : State} {l : List CryptoEvent} {alg : SigAlg}
  {sig data : Bytes} {sigsize : Nat} {V : Handle → Bytes → Bytes → Prop}
  {W : Handle → Bytes → Prop}

theorem wp_sigKey {Q : Option Obj → State → Prop} :
    wp (env O) (sigKey c) Q st ↔ Q (c.keyIn st) st := by
  unfold sigKey SigCtx.keyIn
  cases c.key with
  | none => exact Iff.rfl
  | some key => exact wp_loadObj

/-- An operation that succeeds was started and accepted, on the same session, and a signature is
    what the token returned. -/
theorem sigOperate_operated (hV : Signs O V) (hl : st.tok.log = l) :
    wp (env O) (sigOperate ctx c (some sig) sigsize data) (fun r st' => r.1 = Ckr.ok →
      Operated (fun h data => c.operation = Ckf.sign → V h data r.2.2) c sig sigsize data l st')
      st := by
  refine wp.bind (wp_and (sigOperateInit_started hl) (sigOperateInit_starts hl)) ?_
  rintro r st₁ ⟨hr, hs⟩
  cases hr with
  | failed hl hret => exact fun hok => absurd hok hret
  | fallback hl hd => exact absurd hd (by decide)
  | refused hl hret => exact fun hok => absurd hok hret
  | @started rv sessionState h handle s st₁ hl' hh =>
    obtain ⟨key, hkey, x, rv', hx, hlog, hsure, -⟩ := hs s rfl
    refine wp_bind.2 <| wp_sessionHandle.2 ?_
    have hcall : wp (env O) (signOrVerify { c with sessionState } (st₁.mem.sess s).session sig
        sigsize data) (fun r st' => st'.mem = st₁.mem ∧ st'.tok.log = st₁.tok.log ++
          [⟨(st₁.mem.sess s).session, c.oneShot sig sigsize data, r.1⟩] ∧
          (r.1 = Ckr.ok → c.operation = Ckf.sign → V (st₁.mem.sess s).session data r.2)) st₁ := by
      by_cases hop : c.operation = Ckf.sign
      · simp only [signOrVerify, SigCtx.oneShot, hop, if_true]
        exact fun r hr => ⟨rfl, rfl, fun hret _ => hV _ _ _ _ r hr hret⟩
      · simp only [signOrVerify, SigCtx.oneShot, hop, if_false]
        exact wp_bind.2 <| wp_crypto fun r st' hl' hm => ⟨hm, hl', fun _ => False.elim⟩
    refine wp.bind hcall ?_
    rintro ⟨ret, out⟩ st₂ ⟨hm, hl₂, hout⟩
    -- the session is given back, which leaves the objects and the log alone
    refine wp.bind (wp_and (Quiet.returnSession.log st₂ hl₂)
      ((objs_keep (· = st₂.mem.objs)).returnSession st₂ rfl)) ?_
    rintro _ st₃ ⟨hl₃, hobjs⟩ (rfl : ret = Ckr.ok)
    refine ⟨key, x, (st₁.mem.sess s).session, rv', hkey, ?_, hsure, hout rfl, ?_⟩
    · rw [Mem.obj, hobjs, hm]
      exact hx
    · rw [hl₃, hlog, List.append_assoc]
      rfl

/-! ## The mechanism that is set first -/

/-- Where nothing is missing, the mechanism is set. -/
theorem setMechanism_settles (ha : alg = .rsasig ∨ alg = .ecdsa) (h : alg.Settles c) :
    wp (env O) (alg.setMechanism c) (fun r _ => r.1 = Ckr.ok) st := by
  cases alg with
  | rsasig =>
    obtain ⟨hsome, hpss⟩ := h
    change wp (env O) (rsasigSetMechanism c) _ st
    unfold rsasigChosen at hsome
    unfold rsasigSetMechanism
    simp only [SigCtx.setMech_digestOp, SigCtx.setMech_digest, SigCtx.setMech_mechtype]
    refine wp_ite.2 ⟨fun hd => ?_, fun hd => ?_⟩
    · rw [if_pos hd] at hsome
      exact absurd hsome (by simp)
    rw [if_neg hd] at hsome
    refine wp_ite.2 ⟨fun _ => rfl, fun h₁ => wp_ite.2 ⟨fun _ => rfl, fun h₂ => ?_⟩⟩
    rw [if_neg h₁, if_neg h₂] at hsome
    refine wp_ite.2 ⟨fun h₃ => ?_, fun h₃ => ?_⟩
    · -- PSS without a digest operation has its defaults only
      rw [if_pos h₃, Option.isSome_map] at hsome
      obtain ⟨d, hd'⟩ := Option.isSome_iff_exists.1 hsome
      rw [pssDefaults_eq (show rsasigDigestMap (c.setMech c.mechtype .null).digest = _ from hd')]
      refine wp_ite.2 ⟨fun hne => absurd rfl hne, fun _ => ?_⟩
      exact wp_ite.2 ⟨fun hop => absurd ⟨hop, h₃⟩ hpss, fun _ => rfl⟩
    · rw [if_neg h₃] at hsome
      exact absurd hsome (by simp)
  | ecdsa =>
    refine wp_pure.2 ?_
    simp only [SigAlg.Settles, SigAlg.chosen] at h
    simp only [ecdsaSetMechanism, SigCtx.setMech_digestOp, SigCtx.setMech_digest,
      SigCtx.setMech_mechtype]
    by_cases hm : c.mechtype = Ckm.ecdsa <;> by_cases hop : c.digestOp
    · simp only [hm, hop, if_true, Option.isSome_map] at h ⊢
      obtain ⟨d, hd⟩ := Option.isSome_iff_exists.1 h
      rw [hd]
    · simp [hm, hop]
    · simp [hm] at h
    · simp [hm] at h
  | eddsa | mldsa => exact absurd ha (by decide)

/-- A success is worth a call that was accepted, with the mechanism that is chosen for the
    context and on what is signed for the data. -/
def Honest (W : Handle → Bytes → Prop) (alg : SigAlg) (c : SigCtx) (sig : Bytes) (sigsize : Nat)
    (tbs : Bytes) (l : List CryptoEvent) (success : Prop) (st : State) : Prop :=
  success → ∃ d data, alg.chosen c = some d ∧ alg.tbs c sigsize tbs = .ok data ∧
    Operated W d sig sigsize data l st

theorem Honest.fail {success : Prop} {tbs : Bytes} (h : ¬success) :
    Honest W alg c sig sigsize tbs l success st := fun h' => absurd h' h

/-- What is chosen is for the same operation and the same key. -/
theorem chosen_operation {d : SigCtx} (h : alg.chosen c = some d) :
    d.operation = c.operation ∧ d.key = c.key := by
  obtain ⟨m, p, q, rfl, -⟩ := chosen_eq h
  exact ⟨rfl, rfl⟩

theorem sigOperate_honest {d : SigCtx} {tbs : Bytes} (hV : Signs O V) (hl : st.tok.log = l)
    (hd : alg.chosen c = some d) (hdata : alg.tbs c sigsize tbs = .ok data) :
    wp (env O) (sigOperate ctx d (some sig) sigsize data) (fun r =>
      Honest (fun h data => c.operation = Ckf.sign → V h data r.2.2) alg c sig sigsize tbs l
        (r.1 = Ckr.ok)) st := by
  refine wp_mono (sigOperate_operated hV hl) fun _ _ h hok => ⟨d, data, hd, hdata, ?_⟩
  exact (chosen_operation hd).1 ▸ h hok

/-- An operation is honest where no mechanism is missing, or where it is noticed that one is. -/
theorem operate_honest (alg : SigAlg) {tbs : Bytes} (hV : Signs O V) (hl : st.tok.log = l)
    (h : ∀ data, alg.tbs c sigsize tbs = .ok data → alg.Settles c) :
    wp (env O) (alg.operate ctx c (some sig) sigsize tbs) (fun r =>
      Honest (fun h data => c.operation = Ckf.sign → V h data r.2.2) alg c sig sigsize tbs l
        (r.1 = Ckr.ok)) st := by
  have hset : wp (env O) (alg.setMechanism c) (fun r st' =>
      st'.tok.log = st.tok.log ∧ (r.1 = Ckr.ok → alg.chosen c = some r.2)) st :=
    setMechanism_spec alg
  cases alg with
  | rsasig =>
    change wp (env O) (rsasigOperate ctx c (some sig) sigsize tbs) _ st
    rw [rsasigOperate]
    cases hdata : rsasigData c sigsize tbs with
    | error ret => exact .fail (rsasigData_error hdata)
    | ok data =>
      have hok : wp (env O) (SigAlg.rsasig.setMechanism c) (fun r _ => r.1 = Ckr.ok) st :=
        setMechanism_settles (.inl rfl) (h data hdata)
      refine wp.bind (wp_and hset hok) ?_
      rintro ⟨ret, d⟩ st₁ ⟨⟨hl₁, hd⟩, hret⟩
      refine wp_ite.2 ⟨fun hne => absurd hret hne, fun _ => ?_⟩
      exact sigOperate_honest hV (hl₁.trans hl) (hd hret) hdata
  | ecdsa =>
    have hok : wp (env O) (SigAlg.ecdsa.setMechanism c) (fun r _ => r.1 = Ckr.ok) st :=
      setMechanism_settles (.inr rfl) (h tbs rfl)
    change (ecdsaSetMechanism c).1 = Ckr.ok at hok
    exact wp_ite.2 ⟨fun hne => absurd hok hne, fun _ => sigOperate_honest hV hl (hset.2 hok) rfl⟩
  | eddsa =>
    -- the code of the mechanism is the result
    refine wp_ite.2 ⟨fun hne => .fail hne, fun hok => ?_⟩
    exact sigOperate_honest hV hl (hset.2 (not_not.1 hok)) rfl
  | mldsa => exact sigOperate_honest hV hl rfl rfl

end Operate

/-! ## Signatures -/

/-- The token signed the data on the session that it was started on, with the mechanism of the
    context and for its key, and returned the signature. -/
def Signed (V : Handle → Bytes → Bytes → Prop) (d : SigCtx) (data : Bytes) (size : Nat)
    (l : List CryptoEvent) (raw : Bytes) (st : State) : Prop :=
  ∃ key x h rv, d.key = some key ∧ st.mem.obj key = some x ∧
    (x.asksLogin Ckf.sign = false → rv = Ckr.ok) ∧ V h data raw ∧
    st.tok.log = l ++ [⟨h, .init .sign d.mech x.current, rv⟩, ⟨h, .sign data size, Ckr.ok⟩]

section Sign

variable {O : Oracle} {ctx : Ctx} {X : EcdsaLib} {c : SigCtx} {st : State} {alg : SigAlg}
  {tbs : Bytes} {V : Handle → Bytes → Bytes → Prop}

theorem Operated.signed {d : SigCtx} {sig data raw : Bytes} {size : Nat} {l : List CryptoEvent}
    (hop : d.operation = Ckf.sign)
    (h : Operated (fun h data => d.operation = Ckf.sign → V h data raw) d sig size data l st) :
    Signed V d data size l raw st := by
  obtain ⟨key, x, h, rv, hkey, hx, hsure, hV, hlog⟩ := h
  refine ⟨key, x, h, rv, hkey, hx, hop ▸ hsure, hV hop, ?_⟩
  rw [hlog, SigCtx.oneShot, if_pos hop, SigCtx.fn, if_pos hop]

/-- A signature that is returned with success is what the token returned for the data, encoded
    for ECDSA, where the mechanism cannot fail to be set. -/
theorem sign_signed (hV : Signs O V) (hop : c.operation = Ckf.sign)
    (hset : ∀ n data, alg.tbs c n tbs = .ok data → alg.Settles c) (size : Nat) :
    wp (env O) (alg.sign X ctx c (some size) tbs) (fun r st' => r.1 = retOsslOk →
      ∃ d data raw, alg.chosen c = some d ∧ alg.tbs c (alg.rawSize size) tbs = .ok data ∧
        Signed V d data (alg.rawSize size) st.tok.log raw st' ∧ r.2.2.1 = alg.sent X size raw)
      st := by
  have hoperate : ∀ n, wp (env O) (alg.operate ctx c (some []) n tbs) (fun r st' =>
      r.1 = Ckr.ok → ∃ d data, alg.chosen c = some d ∧ alg.tbs c n tbs = .ok data ∧
        Signed V d data n st.tok.log r.2.2 st') st := fun n => by
    refine wp_mono (operate_honest alg hV rfl fun data hdata => hset n data hdata) ?_
    intro r st' h hok
    obtain ⟨d, data, hd, hdata, hdo⟩ := h hok
    have hopd : d.operation = c.operation := (chosen_operation hd).1
    exact ⟨d, data, hd, hdata, Operated.signed (hopd.trans hop) (hopd ▸ hdo)⟩
  have hwith : ∀ size', alg.rawSize size = size → alg.sent X size = id →
      wp (env O) (signWith size' alg.operate ctx c (some size) tbs) (fun r st' =>
        r.1 = retOsslOk → ∃ d data raw, alg.chosen c = some d ∧
          alg.tbs c (alg.rawSize size) tbs = .ok data ∧
          Signed V d data (alg.rawSize size) st.tok.log raw st' ∧ r.2.2.1 = alg.sent X size raw)
        st := fun _ hsize hsent => by
    refine wp.bind (hoperate size) ?_
    rintro ⟨ret, c', out⟩ st₁ h
    refine wp_ite.2 ⟨fun _ hok => absurd hok retOsslErr_ne, fun hret _ => ?_⟩
    obtain ⟨d, data, hd, hdata, hdo⟩ := h (not_not.1 hret)
    exact ⟨d, data, out, hd, hsize.symm ▸ hdata, hsize.symm ▸ hdo, by rw [hsent]; rfl⟩
  cases alg with
  | rsasig => exact hwith (fun _ => rsaSigSize) rfl rfl
  | eddsa => exact hwith (fun _ => eddsaSigSize) rfl rfl
  | mldsa => exact hwith (fun c _ => mldsaSigSize c) rfl rfl
  | ecdsa =>
    refine wp.bind (hoperate p11provMaxRawEccSigSize) ?_
    rintro ⟨ret, c', raw⟩ st₁ h
    refine wp_ite.2 ⟨fun _ hok => absurd hok retOsslErr_ne, fun hret _ => ?_⟩
    obtain ⟨d, data, hd, hdata, hdo⟩ := h (not_not.1 hret)
    exact ⟨d, data, raw, hd, hdata, hdo, rfl⟩

/-- Without a buffer a signature function makes no call and says at most how long a signature
    is. -/
theorem sign_asks : wp (env O) (alg.sign X ctx c none tbs)
    (fun r st' => st' = st ∧ r.2.1 = c ∧ r.2.2.1 = []) st := by
  have hquery : ∀ size : SigCtx → Option Obj → Except CkRv Nat,
      wp (env O) (do return sigSizeQuery c (size c (← sigKey c)))
        (fun r st' => st' = st ∧ r.2.1 = c ∧ r.2.2.1 = []) st := fun size => by
    refine wp_bind.2 <| wp_sigKey.2 ?_
    unfold sigSizeQuery
    cases size c (c.keyIn st) with
    | error ret => exact ⟨rfl, rfl, rfl⟩
    | ok siglen => exact ⟨rfl, rfl, rfl⟩
  cases alg with
  | rsasig => exact hquery fun _ => rsaSigSize
  | eddsa => exact hquery fun _ => eddsaSigSize
  | mldsa => exact hquery fun c _ => mldsaSigSize c
  | ecdsa => exact hquery fun _ => ecdsaSigSize

end Sign

/-! ## Verifications -/

/-- The token accepted the signature, with the mechanism of the context and for its key. -/
def Verified (d : SigCtx) (sig data : Bytes) (l : List CryptoEvent) (st : State) : Prop :=
  ∃ key x h, d.key = some key ∧ st.mem.obj key = some x ∧
    st.tok.log = l ++ [⟨h, .init .verify d.mech x.current, Ckr.ok⟩,
      ⟨h, .verify data sig, Ckr.ok⟩]

theorem Operated.verified {W : Handle → Bytes → Prop} {d : SigCtx} {sig data : Bytes} {sigsize : Nat}
    {l : List CryptoEvent} {st : State} (hop : d.operation = Ckf.verify)
    (h : Operated W d sig sigsize data l st) : Verified d sig data l st := by
  obtain ⟨key, x, h, rv, hkey, hx, hsure, -, hlog⟩ := h
  have hne : ¬d.operation = Ckf.sign := by
    rw [hop]
    decide
  have hrv : rv = Ckr.ok := hsure (by simp [Obj.asksLogin, hne])
  refine ⟨key, x, h, hkey, hx, ?_⟩
  rw [hlog, hrv, SigCtx.oneShot, if_neg hne, SigCtx.fn, if_neg hne]

/-- What is verified does not depend on the size of the signature. -/
theorem tbs_verify {alg : SigAlg} {c : SigCtx} (hop : c.operation = Ckf.verify) (n n' : Nat)
    (tbs : Bytes) : alg.tbs c n tbs = alg.tbs c n' tbs := by
  have hne : ¬c.operation = Ckf.sign := by
    rw [hop]
    decide
  cases alg with
  | rsasig => simp only [SigAlg.tbs, rsasigData, hne, false_and, if_false]
  | ecdsa | eddsa | mldsa => rfl

/-- In every environment, and from every state, the success of a verification means that the
    token verified the signature as the caller asked. -/
def SigAlg.Sound (X : EcdsaLib) (stack : Bytes) (alg : SigAlg) (c : SigCtx) (tbs : Bytes) : Prop :=
  ∀ (O : Oracle) (ctx : Ctx) (st : State) (sig : Bytes),
    wp (env O) (alg.verify X stack ctx c sig tbs) (fun r st' => r.1 = retOsslOk →
      ∃ d data, alg.chosen c = some d ∧ alg.tbs c sig.length tbs = .ok data ∧
        Verified d (alg.received X stack (c.keyIn st) sig) data st.tok.log st') st

section Verify

variable {O : Oracle} {ctx : Ctx} {X : EcdsaLib} {stack : Bytes} {c : SigCtx} {st : State}
  {alg : SigAlg} {sig tbs : Bytes}

end Verify

end P11Prov
