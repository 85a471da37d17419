import P11Prov.Object.Footprint
import P11Prov.Session.Codes
import P11Prov.Signature.Params

/-!
# The mechanism of a context

An algorithm sets the mechanism of a context right before it is handed to the
token, from the padding, the digest and the parameters of the context. Apart
from the restrictions of a key, which can only refuse the mechanism, this is a
function of the context (`SigAlg.chosen`, `setMechanism_spec`).

`Started` says what the start of an operation can do, and which call it makes
on the token, if any. What follows from a start is derived from it.
-/

namespace P11Prov

open Interaction

/-- The `set_mechanism` function of an algorithm. -/
def SigAlg.setMechanism : SigAlg → SigCtx → P (CkRv × SigCtx)
  | rsasig, c => rsasigSetMechanism c
  | ecdsa, c => pure (ecdsaSetMechanism c)
  | eddsa, c => pure (eddsaSetMechanism c)
  | mldsa, c => pure (mldsaSetMechanism c)

/-! ## The tables -/

/-- The digests of the table have a size and are not zero, and no mechanism or mask function
    is there twice. -/
theorem rsasigMechMap_digest {data : RsasigData} (h : data ∈ rsasigMechMap) :
    data.digest ≠ 0 ∧ ∃ size, digestGetDigestSize data.digest = .ok size ∧ size ≠ 0 ∧
      data.mgf ≠ 0 := by
  have hall : ∀ data ∈ rsasigMechMap, data.digest ≠ 0 ∧
      (digestGetDigestSize data.digest).toOption.any (· ≠ 0) ∧ data.mgf ≠ 0 := by
    decide
  obtain ⟨h0, hs, hm⟩ := hall data h
  refine ⟨h0, ?_⟩
  cases hd : digestGetDigestSize data.digest with
  | error ret => simp [hd, Except.toOption] at hs
  | ok size => exact ⟨size, rfl, by simpa [hd, Except.toOption] using hs, hm⟩

/-- The mechanisms of the table are mechanisms. -/
theorem rsasigMechMap_mech : ∀ data ∈ rsasigMechMap,
    data.pkcsMech ≠ ckUnavailableInformation ∧ data.pkcsPss ≠ ckUnavailableInformation := by
  decide

theorem ecdsaMechMap_mech : ∀ data ∈ ecdsaMechMap, data.mech ≠ ckUnavailableInformation := by
  decide

theorem rsasigDigestMap_some {digest : Nat} {data : RsasigData}
    (h : rsasigDigestMap digest = some data) : data ∈ rsasigMechMap ∧ data.digest = digest :=
  ⟨List.mem_of_find?_eq_some h, by simpa using List.find?_some h⟩

namespace SigCtx

variable (c : SigCtx) (m : Nat) (p : ParamPtr)

@[simp] theorem setMech_digestOp : (c.setMech m p).digestOp = c.digestOp := rfl

@[simp] theorem setMech_digest : (c.setMech m p).digest = c.digest := rfl

@[simp] theorem setMech_mechtype : (c.setMech m p).mechtype = c.mechtype := rfl

end SigCtx

/-! ## What is chosen -/

/-- The parameters with the defaults of a digest. -/
def PssParams.withDefaults (p : PssParams) (data : RsasigData) : PssParams where
  hashAlg := data.digest
  mgf := if p.mgf = 0 then data.mgf else p.mgf
  sLen := if p.sLen = 0 then ((digestGetDigestSize data.digest).toOption).getD 0 else p.sLen

/-- What `pss_defaults` does on a digest of the table. -/
theorem pssDefaults_eq {c : SigCtx} {data : RsasigData} (h : rsasigDigestMap c.digest = some data) :
    pssDefaults c = (Ckr.ok, { c with pssParams := c.pssParams.withDefaults data }) := by
  obtain ⟨hmem, -⟩ := rsasigDigestMap_some h
  obtain ⟨-, size, hs, -, -⟩ := rsasigMechMap_digest hmem
  simp only [pssDefaults, h, hs, PssParams.withDefaults, Except.toOption, Option.getD_some]
  by_cases hm : c.pssParams.mgf = 0 <;> by_cases hl : c.pssParams.sLen = 0 <;> simp [hm, hl]

/-- The context with the mechanism that `p11prov_rsasig_set_mechanism` sets, if it sets one. -/
def rsasigChosen (c : SigCtx) : Option SigCtx :=
  if c.digestOp ∧ rsasigDigestMap c.digest = none then none
  else if c.mechtype = Ckm.rsaPkcs then some (c.setMech (rsasigMech c (·.pkcsMech)) .null)
  else if c.mechtype = Ckm.rsaX509 then some (c.setMech c.mechtype .null)
  else if c.mechtype = Ckm.rsaPkcsPss then
    (rsasigDigestMap c.digest).map fun data =>
      { c.setMech (rsasigMech c (·.pkcsPss)) .pssParams with
        pssParams := c.pssParams.withDefaults data }
  else none

/-- The context with the mechanism that an algorithm sets, if it sets one. -/
def SigAlg.chosen : SigAlg → SigCtx → Option SigCtx
  | rsasig, c => rsasigChosen c
  | ecdsa, c =>
    if c.mechtype = Ckm.ecdsa then
      if c.digestOp then (ecdsaDigestMap c.digest).map fun data => c.setMech data.mech .null
      else some (c.setMech c.mechtype .null)
    else none
  | eddsa, c =>
    if c.mechtype = Ckm.eddsa then
      some (c.setMech c.mechtype (if c.useEddsaParams then .eddsaParams else .null))
    else none
  | mldsa, c => some (c.setMech Ckm.mlDsa .null)

theorem rsasigMech_ne {c : SigCtx} {f : RsasigData → Nat}
    (hf : ∀ data ∈ rsasigMechMap, f data ≠ ckUnavailableInformation)
    (hm : c.mechtype ≠ ckUnavailableInformation) : rsasigMech c f ≠ ckUnavailableInformation := by
  unfold rsasigMech
  split
  · cases hd : rsasigDigestMap c.digest with
    | none => exact hm
    | some data => exact hf data (rsasigDigestMap_some hd).1
  · exact hm

/-- What is chosen differs from the context in the mechanism and its parameters only, and it is
    a mechanism. -/
theorem chosen_eq {alg : SigAlg} {c d : SigCtx} (h : alg.chosen c = some d) :
    ∃ m p q, d = { c.setMech m p with pssParams := q } ∧ m ≠ ckUnavailableInformation := by
  cases alg with
  | rsasig =>
    simp only [SigAlg.chosen, rsasigChosen] at h
    split at h
    · simp at h
    split at h
    · refine ⟨_, _, c.pssParams, (Option.some.inj h).symm, rsasigMech_ne (fun data hd => ?_) ?_⟩
      · exact (rsasigMechMap_mech data hd).1
      · rw [‹c.mechtype = _›]
        decide
    split at h
    · refine ⟨c.mechtype, _, c.pssParams, (Option.some.inj h).symm, ?_⟩
      rw [‹c.mechtype = _›]
      decide
    split at h
    · obtain ⟨data, -, rfl⟩ := Option.map_eq_some_iff.1 h
      refine ⟨_, _, _, rfl, rsasigMech_ne (fun data hd => (rsasigMechMap_mech data hd).2) ?_⟩
      rw [‹c.mechtype = _›]
      decide
    · simp at h
  | ecdsa =>
    simp only [SigAlg.chosen] at h
    split at h
    · split at h
      · obtain ⟨data, hd, rfl⟩ := Option.map_eq_some_iff.1 h
        exact ⟨_, _, c.pssParams, rfl, ecdsaMechMap_mech data (List.mem_of_find?_eq_some hd)⟩
      · refine ⟨c.mechtype, _, c.pssParams, (Option.some.inj h).symm, ?_⟩
        rw [‹c.mechtype = _›]
        decide
    · simp at h
  | eddsa =>
    simp only [SigAlg.chosen] at h
    split at h
    · refine ⟨c.mechtype, _, c.pssParams, (Option.some.inj h).symm, ?_⟩
      rw [‹c.mechtype = _›]
      decide
    · simp at h
  | mldsa => exact ⟨Ckm.mlDsa, .null, c.pssParams, (Option.some.inj h).symm, by decide⟩

section Spec

variable {O : Oracle} {c : SigCtx} {st : State} {l : List CryptoEvent}

theorem Quiet.sigPssRestrictions {mechanism : Nat} : Quiet (sigPssRestrictions c mechanism) := by
  unfold P11Prov.sigPssRestrictions
  cases c.key with
  | none => exact .pure
  | some key =>
    refine .bind mem fun obj => .bind (.perform trivial) fun _ => .ite .pure <| .ite .pure ?_
    cases obj.getAttr ckaAllowedMechanisms with
    | none => exact .pure
    | some value => exact .ite .pure .pure

/-- The PSS branch fails without a digest. -/
theorem pssDefaults_none (h : rsasigDigestMap c.digest = none) : (pssDefaults c).1 ≠ Ckr.ok := by
  simp only [pssDefaults, h]
  decide

theorem rsasigSetMechanism_spec : wp (env O) (rsasigSetMechanism c) (fun r st' =>
    st'.tok.log = st.tok.log ∧ (r.1 = Ckr.ok → rsasigChosen c = some r.2)) st := by
  unfold rsasigSetMechanism rsasigChosen
  simp only [SigCtx.setMech_digestOp, SigCtx.setMech_digest, SigCtx.setMech_mechtype]
  refine wp_ite.2 ⟨fun _ => ⟨rfl, by simp⟩, fun hd => ?_⟩
  rw [if_neg hd]
  refine wp_ite.2 ⟨fun hm => ⟨rfl, fun _ => by rw [if_pos hm]; rfl⟩, fun hm => ?_⟩
  rw [if_neg hm]
  refine wp_ite.2 ⟨fun hm => ⟨rfl, fun _ => by rw [if_pos hm]⟩, fun hm => ?_⟩
  rw [if_neg hm]
  refine wp_ite.2 ⟨fun hm => ?_, fun hm => ⟨rfl, by simp⟩⟩
  rw [if_pos hm]
  cases hdata : rsasigDigestMap c.digest with
  | none =>
    have hne : (pssDefaults (c.setMech c.mechtype .null)).1 ≠ Ckr.ok := pssDefaults_none hdata
    rw [if_pos hne]
    exact ⟨rfl, fun hok => absurd hok hne⟩
  | some data =>
    rw [pssDefaults_eq (show rsasigDigestMap (c.setMech c.mechtype .null).digest = _ from hdata)]
    refine wp_ite.2 ⟨fun hne => absurd rfl hne, fun _ => ?_⟩
    refine wp_ite.2 ⟨fun _ => ?_, fun _ => ⟨rfl, fun _ => rfl⟩⟩
    exact wp.bind (Quiet.sigPssRestrictions.log st rfl) fun ret st' hl => ⟨hl, fun _ => rfl⟩

theorem ecdsaSetMechanism_spec (hok : (ecdsaSetMechanism c).1 = Ckr.ok) :
    SigAlg.ecdsa.chosen c = some (ecdsaSetMechanism c).2 := by
  unfold ecdsaSetMechanism SigAlg.chosen at *
  simp only [SigCtx.setMech_digestOp, SigCtx.setMech_digest, SigCtx.setMech_mechtype] at *
  by_cases hm : c.mechtype = Ckm.ecdsa
  · by_cases hd : c.digestOp
    · cases hdata : ecdsaDigestMap c.digest with
      | none => simp [hm, hd, hdata] at hok
      | some data => simp [hm, hd, SigCtx.setMech]
    · simp [hm, hd]
  · simp [hm] at hok

theorem eddsaSetMechanism_spec (hok : (eddsaSetMechanism c).1 = Ckr.ok) :
    SigAlg.eddsa.chosen c = some (eddsaSetMechanism c).2 := by
  unfold eddsaSetMechanism SigAlg.chosen at *
  simp only [SigCtx.setMech_mechtype] at *
  by_cases hm : c.mechtype = Ckm.eddsa
  · cases hu : c.useEddsaParams <;> simp [hm, SigCtx.setMech, hu]
  · simp [hm] at hok

/-- A mechanism that is set is the one that is chosen. -/
theorem setMechanism_spec (alg : SigAlg) : wp (env O) (alg.setMechanism c) (fun r st' =>
    st'.tok.log = st.tok.log ∧ (r.1 = Ckr.ok → alg.chosen c = some r.2)) st := by
  cases alg with
  | rsasig => exact rsasigSetMechanism_spec
  | ecdsa => exact ⟨rfl, ecdsaSetMechanism_spec⟩
  | eddsa => exact ⟨rfl, eddsaSetMechanism_spec⟩
  | mldsa => exact ⟨rfl, fun _ => rfl⟩

end Spec

/-! ## The start of an operation -/

/-- What `p11prov_sig_operate_init` does, from the calls `l` on the token: it fails, or falls
    back, or makes the call that starts the operation, with or without success. -/
inductive Started (c : SigCtx) (digestOp : Bool) (l : List CryptoEvent) :
    CkRv × SigCtx × Option SessId → State → Prop
  | failed {ret : CkRv} {st : State} (hl : st.tok.log = l) (hret : ret ≠ Ckr.ok) :
      Started c digestOp l (ret, c, none) st
  | fallback {ret : CkRv} {md : Option EvpMdCtx} {st : State} (hl : st.tok.log = l)
      (hd : digestOp) (hm : c.mechanism ≠ c.mechtype)
      (hmd : ret = Ckr.ok → md = some (.running c.digest [])) :
      Started c digestOp l (ret, { c with fallbackDigest := md }, none) st
  | refused {ret rv : CkRv} {sessionState : SessionState} {h : Handle} {handle : ObjectHandle}
      {st : State} (hl : st.tok.log = l ++ [⟨h, .init c.fn c.mech handle, rv⟩])
      (hret : ret ≠ Ckr.ok) : Started c digestOp l (ret, { c with sessionState }, none) st
  | started {rv : CkRv} {sessionState : SessionState} {h : Handle} {handle : ObjectHandle}
      {s : SessId} {st : State} (hl : st.tok.log = l ++ [⟨h, .init c.fn c.mech handle, rv⟩])
      (hh : (st.mem.sess s).session = h) :
      Started c digestOp l (Ckr.ok, { c with sessionState }, some s) st

section Start

variable {O : Oracle} {ctx : Ctx} {c : SigCtx} {st : State} {l : List CryptoEvent}

theorem wp_sessionHandle {s : SessId} {Q : Handle → State → Prop} :
    wp (env O) (sessionHandle s) Q st ↔ Q (st.mem.sess s).session st := by
  simp only [sessionHandle, mem, Prog.perform_eq, Prog.call_bind, Prog.ret_bind, wp_loadSess,
    wp_pure]

/-- A call is logged, and does not touch the memory. -/
theorem wp_crypto {h : Handle} {call : CryptoCall} {Q : CkRv × call.Out → State → Prop}
    (hQ : ∀ r st', st'.tok.log = st.tok.log ++ [⟨h, call, r.1⟩] → st'.mem = st.mem → Q r st') :
    wp (env O) (P11Prov.call (.crypto h call)) Q st :=
  fun r _ => hQ r _ rfl rfl

theorem Quiet.mechFallbackInit : Quiet (mechFallbackInit c) := by
  unfold P11Prov.mechFallbackInit
  cases digestGetName c.digest with
  | error ret => exact .pure
  | ok name =>
    refine .bind (.perform trivial) fun _ => .ite .pure <| .bind mem fun _ => .ite .pure ?_
    exact .bind (.perform trivial) fun _ => .ite .pure .pure

theorem mechFallbackInit_returns : Returns (fun r => ∃ md, r.2 = { c with fallbackDigest := md } ∧
    (r.1 = Ckr.ok → md = some (.running c.digest []))) (mechFallbackInit c) := by
  unfold mechFallbackInit
  cases hn : digestGetName c.digest with
  | error ret =>
    refine ⟨c.fallbackDigest, rfl, fun h => ?_⟩
    exact absurd (h.symm.trans (digestGetName_error hn)) (by decide)
  | ok name =>
    refine .andThen fun _ => .ite (fun _ => ⟨_, rfl, by simp⟩) fun _ => .andThen fun _ => ?_
    refine .ite (fun _ => ⟨_, rfl, by simp⟩) fun _ => .andThen fun _ => ?_
    exact .ite (fun _ => ⟨_, rfl, by simp⟩) fun _ => ⟨_, rfl, fun _ => rfl⟩

theorem Quiet.operateLogin {obj : Obj} {reqlogin : Bool} {s : SessId} {ret : CkRv} :
    Quiet (operateLogin ctx obj reqlogin s ret) := .ite Quiet.contextSpecificLogin .pure

theorem operateLogin_handle {obj : Obj} {reqlogin : Bool} {s s' : SessId} {ret : CkRv} {h : Handle} :
    Keeps (env O) (fun st => (st.mem.sess s').session = h) (operateLogin ctx obj reqlogin s ret) :=
  handle_kept (.ite contextSpecificLogin_keepsHandle .pure)

theorem operateInitOn_started {key : ObjId} {handle : ObjectHandle} {reqlogin digestOp : Bool}
    {s : SessId} (hl : st.tok.log = l) : wp (env O) (operateInitOn ctx c key handle reqlogin s)
      (Started c digestOp l) st := by
  refine wp_bind.2 <| wp_sessionHandle.2 <| wp_bind.2 <| wp_crypto fun r st₁ hl₁ hm₁ => ?_
  rw [hl] at hl₁
  simp only [mem, Prog.perform_eq, Prog.call_bind, Prog.ret_bind, wp_loadObj]
  -- the context is the same up to the state of its session
  obtain ⟨sessionState, hc⟩ : ∃ sessionState,
      (if r.1 = Ckr.ok then { c with sessionState := .initialized } else c) =
        { c with sessionState } := by
    split
    · exact ⟨_, rfl⟩
    · exact ⟨c.sessionState, rfl⟩
  simp only [hc]
  refine wp.bind (wp_and (Quiet.operateLogin.log st₁ hl₁)
    (operateLogin_handle st₁ (congrArg (fun m => (m.sess s).session) hm₁))) ?_
  rintro ret st₂ ⟨hl₂, hh₂⟩
  refine wp_ite.2 ⟨fun hret => ?_, fun _ => .started hl₂ hh₂⟩
  exact wp.bind (Quiet.returnSession.log st₂ hl₂) fun _ st₃ hl₃ => .refused hl₃ hret

/-- An operation starts in one of the ways of `Started`. -/
theorem sigOperateInit_started {digestOp : Bool} (hl : st.tok.log = l) :
    wp (env O) (sigOperateInit ctx c digestOp) (Started c digestOp l) st := by
  have hstatus : Quiet (call .ctxStatus) := .perform trivial
  refine wp.bind (hstatus.log st hl) fun ret st hl => ?_
  refine wp_ite.2 ⟨fun hret => .failed hl hret, fun _ => ?_⟩
  cases c.key with
  | none => exact .failed hl (by decide)
  | some key =>
    refine wp.bind (Quiet.objGetHandle.log st hl) fun handle st hl => ?_
    refine wp_ite.2 ⟨fun _ => .failed hl (by decide), fun _ => ?_⟩
    refine wp.bind (Quiet.mem.log st hl) fun obj st hl => ?_
    refine wp_ite.2 ⟨fun _ => .failed hl (by decide), fun _ => ?_⟩
    refine wp.bind (trySessionRef_coded.wp (Quiet.trySessionRef.log st hl)) ?_
    rintro (ret | s) st ⟨hr, hl⟩
    · refine wp_ite.2 ⟨fun hfb => ?_, fun _ => .failed hl (hr ret rfl)⟩
      refine wp.bind (mechFallbackInit_returns.wp (Quiet.mechFallbackInit.log st hl)) ?_
      rintro ⟨ret, c'⟩ st ⟨⟨md, rfl, hmd⟩, hl⟩
      exact .fallback hl hfb.2.1 hfb.2.2 hmd
    · exact operateInitOn_started hl

/-- The one-shot call of the operation. -/
def SigCtx.oneShot (c : SigCtx) (sig : Bytes) (sigsize : Nat) (tbs : Bytes) : CryptoCall :=
  if c.operation = Ckf.sign then .sign tbs sigsize else .verify tbs sig

/-- A signature or verification that succeeds is one call that starts the operation with the
    mechanism of the context, and one that does it on the same session. -/
theorem sigOperate_spec {sig : Bytes} {sigsize : Nat} {tbs : Bytes} (hl : st.tok.log = l) :
    wp (env O) (sigOperate ctx c (some sig) sigsize tbs) (fun r st' =>
      r.2.1.session = c.session ∧ (r.1 = Ckr.ok → ∃ h handle rv,
        st'.tok.log = l ++ [⟨h, .init c.fn c.mech handle, rv⟩,
          ⟨h, c.oneShot sig sigsize tbs, Ckr.ok⟩])) st := by
  refine wp.bind (sigOperateInit_started hl) fun r st hr => ?_
  cases hr with
  | failed hl hret => exact ⟨rfl, fun hok => absurd hok hret⟩
  | fallback hl hd => exact absurd hd (by decide)
  | refused hl hret => exact ⟨rfl, fun hok => absurd hok hret⟩
  | @started rv sessionState h handle s st hl hh =>
    refine wp_bind.2 <| wp_sessionHandle.2 ?_
    -- the call of the operation is the last one
    have hcall : wp (env O) (signOrVerify { c with sessionState } (st.mem.sess s).session sig
        sigsize tbs) (fun r st' => st'.tok.log =
          st.tok.log ++ [⟨h, c.oneShot sig sigsize tbs, r.1⟩]) st := by
      rw [hh]
      by_cases hop : c.operation = Ckf.sign
      · simp only [signOrVerify, SigCtx.oneShot, hop, if_true]
        exact wp_crypto fun r st' hl' _ => hl'
      · simp only [signOrVerify, SigCtx.oneShot, hop, if_false]
        exact wp_bind.2 <| wp_crypto fun r st' hl' _ => hl'
    refine wp.bind hcall ?_
    rintro ⟨ret, out⟩ st' hl'
    refine wp.bind (Quiet.returnSession.log st' hl') fun _ st' hl' => ?_
    refine ⟨rfl, ?_⟩
    rintro (rfl : ret = Ckr.ok)
    refine ⟨h, handle, rv, ?_⟩
    rw [hl', hl, List.append_assoc]
    rfl

end Start

end P11Prov
