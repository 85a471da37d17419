import P11Prov.Signature.Steps

/-!
# Signatures over whole runs

The session of a signature context runs the operation that the context started,
on the data that it took since: every call keeps this, for all contexts
(`SigInv`), whatever is done to the others and by the rest of the provider,
since no two contexts have the same session. So a message is signed, or
verified, as the caller gave it (`verify_final_sound`, `sign_final_sound`), with
the mechanism and the key that the context had when it started.
-/

namespace P11Prov

open Interaction

variable {O : Oracle} {V : TokenOp → Bytes → Prop} {H : Nat → Bytes → Bytes} {ctx : Ctx}
  {cs : SigCtxs} {st st' : State} {i j : Nat} {t : TrackedSig}

/-! ## All contexts -/

/-- The sessions of the other contexts. -/
abbrev otherSigs (cs : SigCtxs) (i : Nat) : Set SessId :=
  otherResources (fun t => t.ctx.session) cs i

/-- Every context is as it should be, and its session runs what the context started and belongs
    to it alone. -/
structure SigInv (cs : SigCtxs) (st : State) : Prop where
  handles : SessionsOpen st
  pooled : RefsPooled st
  owned : Owned (fun t => t.ctx.session) TrackedSig.Holds cs st
  ok : ∀ i t, cs i = some t → t.Ok

namespace SigInv

variable (h : SigInv cs st)
include h

theorem sessions_inUse : sigSessions cs ⊆ st.inUse := by
  rintro s ⟨i, t, hi, hs⟩
  exact (h.owned.holds i t s hi hs).inUse

theorem within : Within (sigSessions cs) st st := ⟨.refl h.sessions_inUse h.handles, h.pooled⟩

theorem within_others : Within (otherSigs cs i) st st :=
  ⟨.refl (otherResources_subset.trans h.sessions_inUse) h.handles, h.pooled⟩

theorem fits (hi : cs i = some t) : Fits (otherSigs cs i) st t st where
  within := h.within_others
  ok := h.ok i t hi
  holds s hs := ⟨h.owned.not_mem_other hi hs, h.owned.holds i t s hi hs⟩

/-- A context changes, and the sessions of the others are left to them. -/
theorem put {new : Option TrackedSig} (hw : Within (otherSigs cs i) st st')
    (hok : ∀ t, new = some t → t.Ok) (hholds : ∀ t s, new = some t → t.ctx.session = some s →
      s ∉ otherSigs cs i ∧ t.Holds s st') : SigInv (Function.update cs i new) st' where
  handles := hw.1.handles
  pooled := hw.2
  owned := h.owned.update (fun _ _ hs hh => RunsSig.undisturbed hh hs hw.1) hholds
  ok j t hj := by
    by_cases hne : j = i
    · subst hne
      rw [Function.update_self] at hj
      exact hok t hj
    · rw [Function.update_of_ne hne] at hj
      exact h.ok j t hj

theorem put_fits (hf : Fits (otherSigs cs i) st t st') :
    SigInv (Function.update cs i (some t)) st' := by
  refine h.put hf.within ?_ ?_
  · rintro _ ⟨⟩
    exact hf.ok
  · rintro _ s ⟨⟩ hs
    exact hf.holds s hs

/-- A context whose operation in flight is the same. -/
theorem put_same {c : SigCtx} {given : Bytes} {clean : Bool} (hi : cs i = some t)
    (hw : Within (otherSigs cs i ∪ {s | t.ctx.session = some s}) st st')
    (hc : SameFlight t.ctx c)
    (hclean : clean → given = if t.ctx.fresh then [] else t.data)
    (hop : clean → t.ctx.fresh = false → t.clean ∧ c.operation = t.ctx.operation) :
    SigInv (Function.update cs i (some { t with ctx := c, given, clean })) st' := by
  refine h.put_fits ⟨⟨hw.1.mono Set.subset_union_left, hw.2⟩,
    (h.ok i t hi).of_same hc hclean hop, fun s hs => ?_⟩
  have hs' : t.ctx.session = some s := hc.session.symm.trans hs
  obtain ⟨hno, hholds⟩ := (h.fits hi).holds s hs'
  exact ⟨hno, RunsSig.undisturbed hholds (.inr hs') hw.1⟩

/-- The session of a context is left alone too, by what does not use it. -/
theorem within_all (hi : cs i = some t) :
    Within (otherSigs cs i ∪ {s | t.ctx.session = some s}) st st := by
  refine ⟨.refl ?_ h.handles, h.pooled⟩
  rintro s (hs | hs)
  · exact h.sessions_inUse (otherResources_subset hs)
  · exact h.sessions_inUse (mem_resources hi hs)

theorem undisturbed (hs : Undisturbed (sigSessions cs) st st') (hp : RefsPooled st') :
    SigInv cs st' where
  handles := hs.handles
  pooled := hp
  owned := h.owned.frame fun _ _ hm hh => RunsSig.undisturbed hh hm hs
  ok := h.ok

/-- A context is duplicated: the session goes to the duplicate. -/
theorem dup {new : Option SigCtx} {left : SigCtx} (hi : cs i = some t) (hj : cs j = none)
    (hw : Within (sigSessions cs) st st')
    (hd : Duplicated (sigSessions cs) t st' (new, left)) :
    SigInv (Function.update (Function.update cs i
      (some { t with ctx := left, clean := t.clean && left.fresh == t.ctx.fresh })) j
        (new.map ({ t with ctx := · }))) st' := by
  have hok := h.ok i t hi
  -- the original may be as it was
  have hsame : Function.update cs i
      (some { t with clean := t.clean && t.ctx.fresh == t.ctx.fresh }) = cs := by
    rw [beq_self_eq_true, Bool.and_true, ← hi]
    exact Function.update_eq_self i cs
  have hw' : Within (otherSigs cs j) st st' := ⟨hw.1.mono otherResources_subset, hw.2⟩
  cases hd with
  | failed =>
    rw [hsame]
    exact h.put hw' (fun _ e => absurd e (by simp)) fun _ _ e => absurd e (by simp)
  | @idle new hs hnew hop =>
    rw [hsame]
    refine h.put hw' ?_ ?_
    · rintro _ ⟨⟩
      exact hok.of_same hnew hok.clean fun hc _ => ⟨hc, hop⟩
    · rintro _ s ⟨⟩ e
      exact absurd (hs.symm.trans (hnew.session.symm.trans e)) (by simp)
  | @moved new s left sessionState hs hnew hop hleft =>
    have hmd : t.ctx.fallbackDigest = none := hok.single.resolve_right (by simp [hs])
    have hin : s ∈ sigSessions cs := mem_resources hi hs
    refine ⟨hw.1.handles, hw.2, ?_, fun k t' hk => ?_⟩
    · refine h.owned.move hi hj hs (fun _ _ hm hh => RunsSig.undisturbed hh hm hw.1)
        (hnew.session.trans hs) ?_ hleft
      exact RunsSig.undisturbed (h.owned.holds i t s hi hs) hin hw.1
    · by_cases hkj : k = j
      · subst hkj
        rw [Function.update_self] at hk
        obtain rfl := Option.some.inj hk
        exact hok.of_same hnew hok.clean fun hc _ => ⟨hc, hop⟩
      rw [Function.update_of_ne hkj] at hk
      by_cases hki : k = i
      · subst hki
        rw [Function.update_self] at hk
        obtain rfl := Option.some.inj hk
        have hfresh : t.ctx.fresh = false := by simp [SigCtx.fresh, hs]
        refine ⟨fun _ => hok.started (by simp [hs]), .inl hmd, ?_, hok.operate, fun hc => ?_,
          fun hc _ => ?_⟩
        · exact fun _ _ e => absurd (hmd.symm.trans e) (by simp)
        · simp only [Bool.and_eq_true, beq_iff_eq] at hc
          exact (hok.clean hc.1).trans (by rw [hc.2])
        · simp only [Bool.and_eq_true] at hc
          exact hok.unsure hc.1 hfresh
      · rw [Function.update_of_ne hki] at hk
        exact h.ok k t' hk

/-- Every call keeps all contexts in order. -/
theorem call (hO : OpensFresh O) (hH : ObjectHandles O) (hV : TokenSigns O V) {k : SigCall} :
    wp (env O) (k.prog ctx cs) (fun cs' st' => SigInv cs' st') st := by
  have hon : ∀ i {f : TrackedSig → P SigCtxs}, (∀ t, cs i = some t →
      wp (env O) (f t) (fun cs' st' => SigInv cs' st') st) →
      wp (env O) (onSig cs i f) (fun cs' st' => SigInv cs' st') st := by
    intro i f hf
    rw [onSig]
    rcases hi : cs i with _ | t
    · exact h
    · exact hf t hi
  cases k with
  | newctx j alg paramset =>
    refine wp_ite.2 ⟨fun _ => h, fun _ => ?_⟩
    refine wp.bind (newctx_returns.wp (newctx_within st (h.within_others (i := j)))) ?_
    rintro new st₁ ⟨hnew, hw⟩
    refine h.put hw ?_ ?_
    · intro t e
      obtain ⟨c, hc, rfl⟩ := Option.map_eq_some_iff.1 e
      obtain ⟨hs, hmd, hfo⟩ := hnew c hc
      exact ⟨fun hne => absurd hs hne, .inr hs, fun _ _ e => absurd (hmd.symm.trans e) (by simp),
        hfo, fun hc => absurd hc (by simp), fun hc => absurd hc (by simp)⟩
    · intro t s e hs
      obtain ⟨c, hc, rfl⟩ := Option.map_eq_some_iff.1 e
      exact absurd ((hnew c hc).1.symm.trans hs) (by simp)
  | dupctx i j =>
    refine hon i fun t hi => wp_ite.2 ⟨fun _ => h, fun hj => ?_⟩
    refine wp.bind (sigDupctx_spec hO hH hV h.within fun s hs => ?_) ?_
    · exact ⟨mem_resources hi hs, h.owned.holds i t s hi hs⟩
    · rintro ⟨new, left⟩ st₁ ⟨hw, hd⟩
      exact h.dup hi (by simpa using hj) hw hd
  | freectx i =>
    refine hon i fun t hi => ?_
    refine wp.bind (sigFreectx_within hO (fun s hs => h.owned.not_mem_other hi hs)
      h.within_others) fun _ st₁ hw => ?_
    exact h.put hw (fun _ e => absurd e (by simp)) fun _ _ e => absurd e (by simp)
  | init i operation key params =>
    refine hon i fun t hi => ?_
    refine wp.bind (sigInit_flight.wp (sigInit_within hO hH st (h.within_all hi))) ?_
    rintro ⟨ret, c⟩ st₁ ⟨hc, hw⟩
    exact h.put_same hi hw hc (fun hf => by rw [if_pos hf]) fun hf hf' =>
      absurd (hf.symm.trans hf') (by simp)
  | digestInit i operation digest key params =>
    refine hon i fun t hi => ?_
    refine wp.bind (digestInit_flight.wp (digestInit_within hO hH st (h.within_all hi))) ?_
    rintro ⟨ret, c⟩ st₁ ⟨hc, hw⟩
    exact h.put_same hi hw hc (fun hf => by rw [if_pos hf]) fun hf hf' =>
      absurd (hf.symm.trans hf') (by simp)
  | setCtxParams i params =>
    refine hon i fun t hi => ?_
    refine wp.bind (sigSetCtxParams_operation.wp
      (sigSetCtxParams_flight.wp (sigSetCtxParams_within st (h.within_all hi)))) ?_
    rintro ⟨ret, c⟩ st₁ ⟨hop, hc, hw⟩
    exact h.put_same hi hw hc (h.ok i t hi).clean fun hcl _ => ⟨hcl, hop⟩
  | operate i sig sigsize tbs =>
    refine hon i fun t hi => ?_
    refine wp.bind (operate_operation.wp (operate_within hO hH _ (h.within_all hi))) ?_
    rintro ⟨ret, c, out⟩ st₁ ⟨hop, hw, hc⟩
    exact h.put_same hi hw hc (h.ok i t hi).clean fun hcl _ => ⟨hcl, hop⟩
  | update i data =>
    refine hon i fun t hi => wp.bind (digestUpdate_fits hO hH (h.fits hi)) ?_
    rintro ⟨ret, c⟩ st₁ hf
    exact wp_bind.2 <| wp_sigBegun.2 <| h.put_fits hf
  | final i sig sigsize =>
    refine hon i fun t hi => wp.bind (sigDigestFinal_fits hO hH (h.fits hi)) ?_
    rintro ⟨ret, c, out⟩ st₁ hf
    exact h.put_fits hf

end SigInv

/-- In every run, all contexts are in order. -/
theorem SigReached.inv (hO : OpensFresh O) (hH : ObjectHandles O) (hV : TokenSigns O V)
    (h : SigReached O ctx cs st) : SigInv cs st := by
  induction h with
  | start =>
    exact ⟨.of_none fun _ => rfl, fun _ _ e => absurd e (by simp [Mem.obj]), .empty,
      fun _ _ e => absurd e (by simp)⟩
  | call k _ hrun ih => exact hrun.of_wp (ih.call hO hH hV)
  | other _ hs hp ih => exact ih.undisturbed hs hp

/-! ## The end of a message -/

section Final

variable {alg : SigAlg} {X : EcdsaLib} {stack sig : Bytes} {sigsize : Nat}

/-- What is ended on a session is the operation that the context started, if it is known to have
    started. -/
theorem SigInv.digestFinalOn_token (hV : TokenSigns O V) (h : SigInv cs st) (hi : cs i = some t)
    (hmd : t.ctx.fallbackDigest = none) :
    wp (env O) (digestFinalOn ctx t.ctx sig sigsize) (fun r _ => r.1 = retOsslOk →
      t.begun = .unsure ∨ ∃ b, t.begun = .op b ∧
        V { b with data := t.data } (if t.ctx.operation = Ckf.sign then r.2.2 else sig)) st := by
  rcases hs : t.ctx.session with _ | s
  · simp only [digestFinalOn, hmd, hs]
    exact fun hok => absurd hok retOsslErr_ne
  have hruns : t.Holds s st := h.owned.holds i t s hi hs
  -- an operation that ends well was running
  have hdone : ∀ op, (st.mem.sess s).session ≠ ckInvalidHandle →
      st.tok.op (st.mem.sess s).session = some op → ∀ out, V op out →
      t.begun = .unsure ∨ ∃ b, t.begun = .op b ∧ V { b with data := t.data } out := by
    intro op hne hop out hv
    rcases hb : t.begun with _ | _ | b
    · exact absurd hb ((h.ok i t hi).started (by simp [hs]))
    · exact .inl rfl
    · obtain rfl := hruns.running hne b op hb hop
      exact .inr ⟨b, rfl, hv⟩
  simp only [digestFinalOn, hmd, hs]
  refine wp_bind.2 <| wp_sessionHandle.2 <| wp.bind (P := fun r _ => r.1 = Ckr.ok →
    t.begun = .unsure ∨ ∃ b, t.begun = .op b ∧
      V { b with data := t.data } (if t.ctx.operation = Ckf.sign then r.2 else sig)) ?_ ?_
  · refine wp_ite.2 ⟨fun hop r hr hok => ?_, fun hop => wp_bind.2 fun r hr hok => ?_⟩
    · obtain ⟨hne, op, ho, hv⟩ := hV.signFinal _ _ _ _ hr hok
      rw [if_pos hop]
      exact hdone op hne ho _ hv
    · obtain ⟨hne, op, ho, hv⟩ := hV.verifyFinal _ _ _ _ hr hok
      rw [if_neg hop]
      exact hdone op hne ho _ hv
  · rintro ⟨ret, out⟩ st₁ h₁
    refine wp_pure.2 ?_
    by_cases hret : ret = Ckr.ok
    · rw [if_pos hret]
      exact fun _ => h₁ hret
    · rw [if_neg hret]
      exact fun hok => absurd hok retOsslErr_ne

/-- The token accepted the signature of a digest, with the mechanism that the second context of
    a fallback chooses and on what is signed for the digest. -/
def DigestVerified (t : TrackedSig) (sig md : Bytes) (l l' : List CryptoEvent) : Prop :=
  ∃ key d tbs h handle, t.alg.chosen (t.ctx.raw key) = some d ∧
    t.alg.tbs (t.ctx.raw key) sig.length md = .ok tbs ∧
    l' = l ++ [⟨h, .init .verify d.mech handle, Ckr.ok⟩, ⟨h, .verify tbs sig, Ckr.ok⟩]

/-- The function that a family falls back to is its own. -/
theorem fallbackOperateOn_eq (ha : alg ≠ .eddsa) (c : SigCtx) (sig : Option Bytes) (md : Bytes) :
    fallbackOperateOn ctx alg.fallbackOperate c sig sigsize md =
      alg.operate ctx c sig sigsize md := by
  cases alg with
  | eddsa => exact absurd rfl ha
  | rsasig | ecdsa | mldsa => rfl

/-- An operation in one call leaves the session of its context alone. -/
theorem operate_session {c : SigCtx} {data : Bytes} :
    wp (env O) (alg.operate ctx c (some sig) sigsize data) (fun r _ => r.2.1.session = c.session)
      st := by
  have hset : Returns (fun r => OnlyMech c r.2) (alg.setMechanism c) := setMechanism_returns
  have hgo : ∀ {d data st}, OnlyMech c d → wp (env O) (sigOperate ctx d (some sig) sigsize data)
      (fun r _ => r.2.1.session = c.session) st := fun hd =>
    wp_mono (sigOperate_spec rfl) fun _ _ h => h.1.trans hd.sameFlight.session
  cases alg with
  | rsasig =>
    change wp (env O) (rsasigOperate ctx c (some sig) sigsize data) _ st
    unfold rsasigOperate
    rcases rsasigData c sigsize data with ret | tbs
    · exact rfl
    · refine wp_bind.2 <| wp_setMechanism .rsasig ?_
      rintro ⟨ret, d⟩ hd
      exact wp_ite.2 ⟨fun _ => hd.sameFlight.session, fun _ => hgo hd⟩
  | ecdsa => exact wp_ite.2 ⟨fun _ => (OnlyMech.sameFlight hset).session, fun _ => hgo hset⟩
  | eddsa => exact wp_ite.2 ⟨fun _ => (OnlyMech.sameFlight hset).session, fun _ => hgo hset⟩
  | mldsa => exact hgo hset

/-- A verification by the fallback is worth a call that the token accepted, if the second context
    does not miss a mechanism. -/
theorem fallbackSubctx_verified {md : Bytes} {key : ObjId} {l : List CryptoEvent}
    (ha : t.alg ≠ .eddsa) (hfo : t.ctx.fallbackOperate = t.alg.fallbackOperate)
    (hop : t.ctx.operation = Ckf.verify) (hset : ∀ key, t.alg.Settles (t.ctx.raw key))
    (hl : st.tok.log = l) :
    wp (env O) (fallbackSubctx ctx t.ctx key (some sig) sigsize md { mechtype := t.ctx.mechtype })
      (fun r st' => r.2.1.session = none ∧ (r.1 = Ckr.ok → DigestVerified t sig md l st'.tok.log)) st := by
  unfold fallbackSubctx
  rcases hn : digestGetName t.ctx.digest with ret | name
  · refine ⟨rfl, fun hok => absurd hok ?_⟩
    rw [digestGetName_error hn]
    exact (by decide : Ckr.mechanismInvalid ≠ Ckr.ok)
  refine wp.bind ((sigOpInit_returns (digestGetByName_getName hn)).wp
    (Quiet.sigOpInit.log st hl)) ?_
  rintro ⟨ret, sub⟩ st₁ ⟨⟨hs, hsub⟩, hl₁⟩
  refine wp_ite.2 ⟨fun hret => ⟨hs, fun hok => absurd hok hret⟩, fun hret => ?_⟩
  obtain ⟨key', rfl⟩ := hsub (not_not.1 hret)
  rw [hfo, fallbackOperateOn_eq ha]
  change wp _ (t.alg.operate ctx (t.ctx.raw key') (some sig) sigsize md) _ st₁
  refine wp_mono (wp_and operate_session
    (operate_honest _ signs_any hl₁ fun data _ => hset key')) fun r st₂ hr => ⟨hr.1, fun hok => ?_⟩
  obtain ⟨d, data, hd, htbs, hdo⟩ := hr.2 hok
  have hopd : d.operation = Ckf.verify := (chosen_operation hd).1.trans hop
  obtain ⟨_, x, h, -, -, hlog⟩ := hdo.verified hopd
  exact ⟨key', d, data, h, x.current, hd, (tbs_verify hop _ _ md).trans htbs, hlog⟩

/-- What is ended by the fallback is the verification of the digest of all data that the context
    took. -/
theorem SigInv.digestFinalOn_fallback (hH : EvpDigests O H) (h : SigInv cs st)
    (hi : cs i = some t) {md : EvpMdCtx} (hmd : t.ctx.fallbackDigest = some md)
    (ha : t.alg ≠ .eddsa) (hop : t.ctx.operation = Ckf.verify)
    (hset : ∀ key, t.alg.Settles (t.ctx.raw key)) :
    wp (env O) (digestFinalOn ctx t.ctx sig sigsize) (fun r st' => r.1 = retOsslOk →
      ∃ digest, DigestVerified t sig (H digest t.data) st.tok.log st'.tok.log) st := by
  have hok := h.ok i t hi
  have hfinal : wp (env O) (fallbackDigestFinal t.ctx) (fun r st' => st'.tok.log = st.tok.log ∧
      ∀ md ∈ r, ∃ digest, md = H digest t.data) st := by
    rcases md with _ | ⟨digest, acc⟩ | _
    · simp only [fallbackDigestFinal, hmd]
      exact ⟨rfl, by simp⟩
    · obtain rfl := hok.fallback digest acc hmd
      simp only [fallbackDigestFinal, hmd]
      exact fun r hr => ⟨rfl, fun md hm => ⟨digest, hH st digest t.data md (hm ▸ hr)⟩⟩
    · simp only [fallbackDigestFinal, hmd]
      exact ⟨rfl, by simp⟩
  simp only [digestFinalOn, hmd]
  rcases digestGetDigestSize t.ctx.digest with ret | mdsize
  · exact fun hok => absurd hok retOsslErr_ne
  refine wp.bind (P := fun r st' => r.1 = Ckr.ok →
    ∃ digest, DigestVerified t sig (H digest t.data) st.tok.log st'.tok.log) ?_ ?_
  · refine wp.bind hfinal ?_
    rintro (_ | md) st₁ ⟨hl, hmd⟩
    · exact fun hok => absurd hok (by decide)
    obtain ⟨digest, rfl⟩ := hmd md rfl
    refine wp_ite.2 ⟨fun _ hok => absurd hok (by decide), fun _ => ?_⟩
    rcases t.ctx.key with _ | key
    · exact fun hok => absurd hok (by decide)
    refine wp.bind (Quiet.objGetHandle.log st₁ hl) fun handle st₂ hl₂ => ?_
    refine wp_ite.2 ⟨fun _ hok => absurd hok (by decide), fun _ => ?_⟩
    refine wp_bind.2 <| wp_bind.2 <| wp_alloc.2 fun ok => ?_
    refine wp_ite.2 ⟨fun _ => ?_, fun _ hok => absurd hok (by decide)⟩
    refine wp.bind (fallbackSubctx_verified ha hok.operate hop hset hl₂) ?_
    rintro ⟨ret, sub, out⟩ st₃ ⟨hs, hv⟩
    refine wp_bind.2 <| wp_mono (sigFreectx_log hs st₃ rfl) fun _ st₄ hl₄ hret => ?_
    obtain ⟨key', d, tbs, k, handle', hd, htbs, hlog⟩ := hv hret
    exact ⟨digest, key', d, tbs, k, handle', hd, htbs, hl₄.trans hlog⟩
  · rintro ⟨ret, out⟩ st₁ h₁
    refine wp_pure.2 ?_
    by_cases hret : ret = Ckr.ok
    · rw [if_pos hret]
      exact fun _ => h₁ hret
    · rw [if_neg hret]
      exact fun hok => absurd hok retOsslErr_ne

/-- The token accepted the signature of the data: it ended the verification that the context had
    started, or verified the digest that the fallback made of the data. -/
inductive Accepted (V : TokenOp → Bytes → Prop) (H : Nat → Bytes → Bytes) (t : TrackedSig)
    (data sig : Bytes) (l l' : List CryptoEvent) : Prop
  | token {b : TokenOp} (hb : t.begun = .op b) (hv : V { b with data } sig)
  | digest {digest : Nat} (hv : DigestVerified t sig (H digest data) l l')

/-- The session is given back at the end, which adds no call on the token. -/
theorem wp_sigDigestFinal {R : Bytes → List CryptoEvent → Prop} {c : SigCtx}
    (h : wp (env O) (digestFinalOn ctx c sig sigsize)
      (fun r st' => r.1 = retOsslOk → R r.2.2 st'.tok.log) st) :
    wp (env O) (sigDigestFinal ctx c (some sig) sigsize)
      (fun r st' => r.1 = retOsslOk → R r.2.2 st'.tok.log) st := by
  have hresult : wp (env O) (digestFinalResult ctx c (some sig) sigsize)
      (fun r st' => r.1 = retOsslOk → R r.2.2 st'.tok.log) st :=
    wp_ite.2 ⟨fun _ hok => absurd hok retOsslErr_ne, fun _ => h⟩
  refine wp.bind hresult ?_
  rintro ⟨ret, c', out⟩ st₁ h₁
  refine wp_bind.2 <| wp_mono ((Quiet.returnSession? c'.session).log st₁ rfl) ?_
  rintro _ st₂ hl hok
  rw [hl]
  exact h₁ hok

/-- The end of a verification in a context that is clean. -/
theorem SigInv.sigDigestFinal_accepted (hV : TokenSigns O V) (hH : EvpDigests O H)
    (h : SigInv cs st) (hi : cs i = some t) (ha : t.alg ≠ .eddsa) (hclean : t.clean)
    (hop : t.ctx.operation = Ckf.verify)
    (hset : t.ctx.fallbackDigest ≠ none → ∀ key, t.alg.Settles (t.ctx.raw key)) :
    wp (env O) (sigDigestFinal ctx t.ctx (some sig) sigsize) (fun r st' => r.1 = retOsslOk →
      Accepted V H t t.given sig st.tok.log st'.tok.log) st := by
  have hok := h.ok i t hi
  have hne : ¬t.ctx.operation = Ckf.sign := by
    rw [hop]
    decide
  rcases hf : t.ctx.fresh with _ | _
  · -- an operation is in flight, and took all data
    have hgiven : t.given = t.data := by
      rw [hok.clean hclean, hf]
      rfl
    refine wp_sigDigestFinal (R := fun _ => Accepted V H t t.given sig st.tok.log) ?_
    rw [hgiven]
    rcases hmd : t.ctx.fallbackDigest with _ | md
    · refine wp_mono (h.digestFinalOn_token hV hi hmd) fun r st' hr hret => ?_
      rcases hr hret with hb | ⟨b, hb, hv⟩
      · exact absurd (hok.unsure hclean hf hb) hne
      · rw [if_neg hne] at hv
        exact .token hb hv
    · have hset' := hset (by simp [hmd])
      refine wp_mono (h.digestFinalOn_fallback hH hi hmd ha hop hset') fun r st' hr hret => ?_
      obtain ⟨digest, hv⟩ := hr hret
      exact .digest hv
  · obtain ⟨hs, hmd⟩ : t.ctx.session = none ∧ t.ctx.fallbackDigest = none := by
      simpa [SigCtx.fresh] using hf
    refine wp_sigDigestFinal (R := fun _ => Accepted V H t t.given sig st.tok.log) ?_
    simp only [digestFinalOn, hmd, hs]
    exact fun hret => absurd hret retOsslErr_ne

end Final

theorem SigInv.digestVerifyFinal_accepted (hV : TokenSigns O V) (hE : EvpDigests O H)
    (h : SigInv cs st) (hi : cs i = some t) (hclean : t.clean)
    (hop : t.ctx.operation = Ckf.verify)
    (hset : t.ctx.fallbackDigest ≠ none → ∀ key, t.alg.Settles (t.ctx.raw key))
    (X : EcdsaLib) (stack sig : Bytes) :
    wp (env O) (t.alg.digestVerifyFinal X stack ctx t.ctx sig) (fun r st' => r.1 = retOsslOk →
      Accepted V H t t.given (t.alg.received X stack (t.ctx.keyIn st) sig) st.tok.log
        st'.tok.log) st := by
  have hplain : ∀ {sig' : Bytes} {n : Nat}, t.alg ≠ .eddsa → wp (env O) (do
      let r ← sigDigestFinal ctx t.ctx (some sig') n
      return (r.1, r.2.1)) (fun r st' => r.1 = retOsslOk →
        Accepted V H t t.given sig' st.tok.log st'.tok.log) st := fun ha =>
    wp.bind (h.sigDigestFinal_accepted hV hE hi ha hclean hop hset) fun _ _ hr => hr
  rcases ha : t.alg with _ | _ | _ | _
  · exact hplain (by simp [ha])
  · refine wp_bind.2 <| wp_sigKey.2 <| wp_ite.2 ⟨fun hne hok => absurd hok hne, fun _ => ?_⟩
    exact hplain (by simp [ha])
  · exact fun hok => absurd hok retOsslErr_ne
  · exact hplain (by simp [ha])

/-- In every run, whatever becomes of the other contexts and of duplicates of this one, a
    verification that succeeds at the end of a message means that the token accepted the
    signature of all the data that was given since the context was initialised: by the
    operation that the context started, or, if it fell back, of their digest. The context is
    clean, and if it fell back, its padding is still one that has a mechanism for a digest. -/
theorem verify_final_sound (hO : OpensFresh O) (hH : ObjectHandles O) (hV : TokenSigns O V)
    (hE : EvpDigests O H) (h : SigReached O ctx cs st) (hi : cs i = some t) (hclean : t.clean)
    (hop : t.ctx.operation = Ckf.verify)
    (hset : t.ctx.fallbackDigest ≠ none → ∀ key, t.alg.Settles (t.ctx.raw key))
    (X : EcdsaLib) (stack sig : Bytes) :
    wp (env O) (t.alg.digestVerifyFinal X stack ctx t.ctx sig) (fun r st' => r.1 = retOsslOk →
      Accepted V H t t.given (t.alg.received X stack (t.ctx.keyIn st) sig) st.tok.log
        st'.tok.log) st :=
  (h.inv hO hH hV).digestVerifyFinal_accepted hV hE hi hclean hop hset X stack sig

/-- The same for a message that is ended with the signature that was set, which there has to
    be. -/
theorem SigReached.verifyMessageFinal_accepted (hO : OpensFresh O) (hH : ObjectHandles O)
    (hV : TokenSigns O V) (hE : EvpDigests O H) (h : SigReached O ctx cs st) (hi : cs i = some t)
    (hclean : t.clean) (hop : t.ctx.operation = Ckf.verify)
    (hset : t.ctx.fallbackDigest ≠ none → ∀ key, t.alg.Settles (t.ctx.raw key))
    (X : EcdsaLib) (stack : Bytes) :
    wp (env O) (t.alg.verifyMessageFinal X stack ctx t.ctx) (fun r st' => r.1 = retOsslOk →
      ∃ sig ∈ t.ctx.signature, Accepted V H t t.given (t.alg.received X stack (t.ctx.keyIn st) sig)
        st.tok.log st'.tok.log) st := by
  unfold SigAlg.verifyMessageFinal verifyMessageFinalWith
  cases hsig : t.ctx.signature with
  | none => exact fun hok => absurd hok retOsslErr_ne
  | some sig =>
    refine wp_mono ((h.inv hO hH hV).digestVerifyFinal_accepted hV hE hi hclean hop hset X stack sig) ?_
    exact fun r st' hr hok => ⟨sig, rfl, hr hok⟩

/-- In every run, a signature that the token returned at the end of a message is one of all the
    data that was given since the context was initialised, with the mechanism and the key that
    the context had when it started, if the key asked for no login of its own. -/
theorem sign_final_sound (hO : OpensFresh O) (hH : ObjectHandles O) (hV : TokenSigns O V)
    (h : SigReached O ctx cs st) (hi : cs i = some t) (hclean : t.clean)
    (hop : t.ctx.operation = Ckf.sign) (hmd : t.ctx.fallbackDigest = none)
    (hsure : t.begun ≠ .unsure) (X : EcdsaLib) (size : Nat) :
    wp (env O) (t.alg.digestSignFinal X ctx t.ctx (some size)) (fun r _ => r.1 = retOsslOk →
      ∃ b raw, t.begun = .op b ∧ V { b with data := t.given } raw ∧
        r.2.2.1 = t.alg.sent X size raw) st := by
  have hinv : SigInv cs st := h.inv hO hH hV
  have hfinal : ∀ {n : Nat}, wp (env O) (sigDigestFinal ctx t.ctx (some []) n)
      (fun r _ => r.1 = retOsslOk → ∃ b, t.begun = .op b ∧ V { b with data := t.given } r.2.2) st := by
    intro n
    refine wp_sigDigestFinal (R := fun raw _ => ∃ b, t.begun = .op b ∧
      V { b with data := t.given } raw) ?_
    rcases hs : t.ctx.session with _ | s
    · simp only [digestFinalOn, hmd, hs]
      exact fun hok => absurd hok retOsslErr_ne
    have hgiven : t.given = t.data := by
      rw [(hinv.ok i t hi).clean hclean]
      simp [SigCtx.fresh, hs]
    refine wp_mono (hinv.digestFinalOn_token hV hi hmd) fun r st' hr hret => ?_
    rcases hr hret with hb | ⟨b, hb, hv⟩
    · exact absurd hb hsure
    · rw [if_pos hop] at hv
      exact ⟨b, hb, hgiven ▸ hv⟩
  have hplain : t.alg.sent X size = id → wp (env O) (do
      if size = 0 then
        return (retOsslErr, t.ctx, [], 0)
      let r ← sigDigestFinal ctx t.ctx (some []) size
      return (r.1, r.2.1, r.2.2, r.2.2.length)) (fun r _ => r.1 = retOsslOk →
        ∃ b raw, t.begun = .op b ∧ V { b with data := t.given } raw ∧
          r.2.2.1 = t.alg.sent X size raw) st := by
    intro hsent
    refine wp_ite.2 ⟨fun _ hok => absurd hok retOsslErr_ne, fun _ => wp.bind hfinal ?_⟩
    rintro ⟨ret, c, raw⟩ st₁ hr hret
    obtain ⟨b, hb, hv⟩ := hr hret
    exact ⟨b, raw, hb, hv, by rw [hsent]; rfl⟩
  rcases ha : t.alg with _ | _ | _ | _
  · rw [ha] at hplain
    exact hplain rfl
  · refine wp_ite.2 ⟨fun _ hok => absurd hok retOsslErr_ne, fun _ => wp.bind hfinal ?_⟩
    rintro ⟨ret, c, raw⟩ st₁ hr
    refine wp_ite.2 ⟨fun hne hok => absurd hok hne, fun hret _ => ?_⟩
    obtain ⟨b, hb, hv⟩ := hr (not_not.1 hret)
    exact ⟨b, raw, hb, hv, rfl⟩
  · exact fun hok => absurd hok retOsslErr_ne
  · rw [ha] at hplain
    exact hplain rfl

/-! ## A message that is duplicated on its way -/

/-- The answers of a token whose signatures are the data. -/
def echoing (st : State) : (c : Call) → c.Resp
  | .crypto h .getOperationState =>
    if h = ckInvalidHandle then (Ckr.sessionHandleInvalid, none) else (Ckr.ok, st.tok.op h)
  | .crypto h (.signFinal _) =>
    match st.tok.op h with
    | none => (Ckr.operationNotInitialized, [])
    | some op => if h = ckInvalidHandle then (Ckr.sessionHandleInvalid, []) else (Ckr.ok, op.data)
  | .crypto h (.verifyFinal sig) =>
    match st.tok.op h with
    | none => (Ckr.operationNotInitialized, ())
    | some op =>
      if h ≠ ckInvalidHandle ∧ sig = op.data then (Ckr.ok, ()) else (Ckr.generalError, ())
  | c => st.tok.reply c

theorem echoing_opensFresh : OpensFresh (replies echoing) := by
  rintro st slot flags _ rfl hok
  exact ⟨Nat.succ_ne_zero _, st.tok.opened_freshHandle⟩

theorem echoing_objectHandles : ObjectHandles (replies echoing) := plain_objectHandles

theorem echoing_evpDigests : EvpDigests (replies echoing) fun _ data => data := by
  intro st digest data md h
  exact Option.some.inj h

theorem echoing_tokenSigns : TokenSigns (replies echoing) fun op sig => sig = op.data where
  save := by
    rintro st h _ rfl hok
    simp only [echoing] at hok ⊢
    split at hok
    · exact absurd hok (by decide)
    · rename_i hne
      exact ⟨hne, by rw [if_neg hne]⟩
  signFinal := by
    rintro st h size _ rfl hok
    simp only [echoing] at hok ⊢
    rcases ho : st.tok.op h with _ | op
    · simp only [ho] at hok
      exact absurd hok (by decide)
    · simp only [ho] at hok ⊢
      split at hok
      · exact absurd hok (by decide : Ckr.sessionHandleInvalid ≠ Ckr.ok)
      · rename_i hne
        exact ⟨hne, op, rfl, by rw [if_neg hne]⟩
  verifyFinal := by
    rintro st h sig _ rfl hok
    simp only [echoing] at hok
    rcases ho : st.tok.op h with _ | op
    · simp only [ho] at hok
      exact absurd hok (by decide)
    · simp only [ho] at hok
      split at hok
      · rename_i h'
        exact ⟨h'.1, op, rfl, h'.2⟩
      · exact absurd hok (by decide : Ckr.generalError ≠ Ckr.ok)

/-- A provider whose token signs with RSA and SHA-256. -/
def echoProvider : Ctx :=
  { plainCtx with slots := [{ plainSlot with mechs := [Ckm.sha256RsaPkcs, Ckm.rsaPkcs] }] }

/-- A key pair on this token. -/
def pairState : State where
  mem := { objs := [some { slotid := 1, handle := 5, cls := Cko.privateKey },
    some { slotid := 1, handle := 6, cls := Cko.publicKey }] }

/-- One call after another, with the answers of the token. -/
def runSigs : List SigCall → SigCtxs × State → SigCtxs × State
  | [], w => w
  | k :: ks, w => runSigs ks (run echoing (k.prog echoProvider w.1) w.2)

theorem SigReached.run {ks : List SigCall} {w : SigCtxs × State}
    (h : SigReached (replies echoing) echoProvider w.1 w.2) :
    SigReached (replies echoing) echoProvider (runSigs ks w).1 (runSigs ks w).2 := by
  induction ks generalizing w with
  | nil => exact h
  | cons k ks ih => exact ih (.call k h (runs_run _ _))

theorem SigReached.pair : SigReached (replies echoing) echoProvider (fun _ => none) pairState := by
  have hnone : sigSessions (fun _ => none) = ∅ := by
    ext s
    simp [resources]
  refine .other .start ?_ fun o x hx => .of_none ?_
  · rw [hnone]
    exact ⟨by simp, by simp, by simp, .of_none fun _ => rfl⟩
  · rcases o with _ | _ | o
    · obtain rfl := Option.some.inj hx
      rfl
    · obtain rfl := Option.some.inj hx
      rfl
    · exact absurd hx (by simp [pairState, Mem.obj])

/-- `abc` in two updates, with a duplicate made in between. -/
def echoWorld (operation : Flags) (key : ObjId) : SigCtxs × State :=
  runSigs [.newctx 0 .rsasig 0, .digestInit 0 operation (some (ascii "SHA256")) key none,
    .update 0 (ascii "ab"), .dupctx 0 1, .update 0 (ascii "c")] (fun _ => none, pairState)

/-- The original context at the end. -/
def echoCtx (operation : Flags) (key : ObjId) : TrackedSig :=
  ((echoWorld operation key).1 0).getD { alg := .eddsa, ctx := { mechtype := 0 } }

theorem echoWorld_reached {operation : Flags} {key : ObjId} : SigReached (replies echoing)
    echoProvider (echoWorld operation key).1 (echoWorld operation key).2 :=
  SigReached.run .pair

theorem echoWorld_ctx (operation : Flags) (key : ObjId)
    (h : ((echoWorld operation key).1 0).isSome) :
    (echoWorld operation key).1 0 = some (echoCtx operation key) := by
  obtain ⟨t, ht⟩ := Option.isSome_iff_exists.1 h
  rw [echoCtx, ht, Option.getD_some]

theorem wp_run {α : Type} {p : P α} {Q : α → State → Prop}
    (h : wp (env (replies echoing)) p Q st) {w : α × State} (hw : run echoing p st = w) :
    Q w.1 w.2 := by
  subst hw
  exact (runs_run p st).of_wp h

/-- The end of the verification. -/
def echoVerified : (Nat × SigCtx) × State :=
  run echoing ((echoCtx Ckf.verify 1).alg.digestVerifyFinal derLib [] echoProvider
    (echoCtx Ckf.verify 1).ctx (ascii "abc")) (echoWorld Ckf.verify 1).2

theorem verify_final_sound_abc : echoVerified.1.1 = retOsslOk ∧
    Accepted (fun op sig => sig = op.data) (fun _ data => data) (echoCtx Ckf.verify 1)
      (echoCtx Ckf.verify 1).given (ascii "abc") (echoWorld Ckf.verify 1).2.tok.log
      echoVerified.2.tok.log := by
  have hok : echoVerified.1.1 = retOsslOk := by decide +kernel
  have hset : ∀ key, (echoCtx Ckf.verify 1).alg.Settles ((echoCtx Ckf.verify 1).ctx.raw key) := by
    have ha : (echoCtx Ckf.verify 1).alg = .rsasig := by decide +kernel
    have hm : (echoCtx Ckf.verify 1).ctx.mechtype = Ckm.rsaPkcs := by decide +kernel
    intro key
    rw [ha]
    simp [SigAlg.Settles, rsasigChosen, SigCtx.raw, hm]
  have hsig : (echoCtx Ckf.verify 1).alg.received derLib []
      ((echoCtx Ckf.verify 1).ctx.keyIn (echoWorld Ckf.verify 1).2) (ascii "abc") = ascii "abc" := by
    decide +kernel
  have hctx := echoWorld_ctx Ckf.verify 1 (by decide +kernel)
  have hclean : (echoCtx Ckf.verify 1).clean = true := by decide +kernel
  have hop : (echoCtx Ckf.verify 1).ctx.operation = Ckf.verify := by decide +kernel
  have hsound := verify_final_sound echoing_opensFresh echoing_objectHandles echoing_tokenSigns
    echoing_evpDigests echoWorld_reached hctx hclean hop (fun _ => hset) derLib [] (ascii "abc")
  rw [hsig] at hsound
  exact ⟨hok, wp_run hsound (w := echoVerified) rfl hok⟩

/-- The end of the signature. -/
def echoSigned : (Nat × SigCtx × Bytes × Nat) × State :=
  run echoing ((echoCtx Ckf.sign 0).alg.digestSignFinal derLib echoProvider
    (echoCtx Ckf.sign 0).ctx (some 256)) (echoWorld Ckf.sign 0).2

theorem sign_final_sound_abc : echoSigned.1.1 = retOsslOk ∧ ∃ b raw,
    (echoCtx Ckf.sign 0).begun = .op b ∧ raw = (echoCtx Ckf.sign 0).given ∧
      echoSigned.1.2.2.1 = (echoCtx Ckf.sign 0).alg.sent derLib 256 raw := by
  have hok : echoSigned.1.1 = retOsslOk := by decide +kernel
  have hctx := echoWorld_ctx Ckf.sign 0 (by decide +kernel)
  have hclean : (echoCtx Ckf.sign 0).clean = true := by decide +kernel
  have hop : (echoCtx Ckf.sign 0).ctx.operation = Ckf.sign := by decide +kernel
  have hmd : (echoCtx Ckf.sign 0).ctx.fallbackDigest = none := by decide +kernel
  have hsure : (echoCtx Ckf.sign 0).begun ≠ .unsure := by decide +kernel
  have hsound := sign_final_sound echoing_opensFresh echoing_objectHandles echoing_tokenSigns
    echoWorld_reached hctx hclean hop hmd hsure derLib 256
  exact ⟨hok, wp_run hsound (w := echoSigned) rfl hok⟩

end P11Prov
