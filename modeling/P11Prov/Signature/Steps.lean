import P11Prov.Signature.Contexts

/-!
# What the calls on a signature context do

Every function of the signature layer leaves the sessions of the other contexts
to them (`Within`), and what it makes of its own context fits the state it
leaves (`Fits`): the session of the context, if it has one, is held by nobody
else, and what it runs is the operation that the context started, on the data
that it took since. There is one lemma for each function.
-/

namespace P11Prov

open Interaction

variable {O : Oracle} {S : Set SessId} {ctx : Ctx} {st st' st'' : State} {s : SessId}
  {o : ObjId} {c d : SigCtx} {t : TrackedSig} {alg : SigAlg} {data : Bytes}
  {begun : Begun}

/-! ## The sessions of others -/

/-- The sessions of `S` are left to their holders, and the objects refer to sessions of the
    pools. -/
structure Within (S : Set SessId) (st st' : State) : Prop where
  undisturbed : Undisturbed S st st'
  pooled : RefsPooled st'

namespace Within

theorem keeps {α : Type} {p : P α} (hu : Keeps (env O) (Undisturbed S st) p)
    (hp : Keeps (env O) RefsPooled p) : Keeps (env O) (Within S st) p :=
  fun st' h => wp_mono (wp_and (hu st' h.1) (hp st' h.2)) fun _ _ h => ⟨h.1, h.2⟩

/-- A call on a session that is none of those. -/
theorem crypto (h : Within S st st') (hs : s ∉ S) {k : CryptoCall} {r : CkRv × k.Out} :
    Within S st ⟨st'.mem, st'.tok.after (.crypto (st'.mem.sess s).session k) r⟩ :=
  ⟨h.1.crypto hs, h.2⟩

theorem loadObj : Keeps (env O) (Within S st) (mem (.loadObj o)) := fun _ h => wp_loadObj.2 h

theorem alloc : Keeps (env O) (Within S st) (mem .alloc) := fun _ h => wp_alloc.2 fun _ => h

theorem call {k : Call} (hk : ∀ (t : Token) r, t.after k r = t := by intros; rfl) :
    Keeps (env O) (Within S st) (call k) := by
  intro st' h r hr
  simp only [env, hk]
  exact h

section Objects

variable (hO : OpensFresh O) (hH : ObjectHandles O)
include hO

theorem returnSession (hs : s ∉ S) : Keeps (env O) (Within S st) (returnSession ctx s) :=
  keeps (Undisturbed.returnSession hO hs) refsPooled_objectInvariant.returnSession

theorem objFree? {o : Option ObjId} : Keeps (env O) (Within S st) (objFree? ctx o) := by
  refine keeps (Undisturbed.objFree? hO o) ?_
  rcases o with _ | o
  · exact .pure
  · exact refsPooled_objectInvariant.free

include hH

theorem objRef : Keeps (env O) (Within S st) (objRef ctx o) :=
  keeps (Undisturbed.objRef hO) (refsPooled_objectInvariant.ref hH)

theorem objGetHandle : Keeps (env O) (Within S st) (objGetHandle ctx o) :=
  keeps (Undisturbed.objGetHandle hO) (refsPooled_objectInvariant.getHandle hH)

theorem objFindAssociated {cls : Nat} :
    Keeps (env O) (Within S st) (objFindAssociated ctx o cls) :=
  keeps (Undisturbed.objFindAssociated hO) (refsPooled_objectInvariant.findAssociated hH)

end Objects

end Within

/-! ## The session of a context -/

/-- The session is held, and if it runs an operation that is known to have been started, then
    on the data. -/
structure RunsSig (begun : Begun) (data : Bytes) (s : SessId) (st : State) : Prop where
  inUse : s ∈ st.inUse
  running : (st.mem.sess s).session ≠ ckInvalidHandle → ∀ b op, begun = .op b →
    st.tok.op (st.mem.sess s).session = some op → op = { b with data }

theorem RunsSig.undisturbed (h : RunsSig begun data s st) (hs : s ∈ S)
    (hu : Undisturbed S st st') : RunsSig begun data s st' where
  inUse := hu.inUse hs
  running hne := by
    rw [hu.session s hs] at hne ⊢
    rw [hu.op s hs hne]
    exact h.running hne

/-- A call on the handle of the session, by the operation after it. -/
theorem RunsSig.crypto {data' : Bytes} {k : CryptoCall} {r : CkRv × k.Out}
    (h : RunsSig begun data s st)
    (hop : ∀ op b, begun = .op b →
      (∀ op', st.tok.op (st.mem.sess s).session = some op' → op' = { b with data }) →
      k.opAfter (st.tok.op (st.mem.sess s).session) r.1 = some op → op = { b with data := data' }) :
    RunsSig begun data' s ⟨st.mem, st.tok.after (.crypto (st.mem.sess s).session k) r⟩ where
  inUse := h.inUse
  running hne b op hb ho := hop op b hb (fun op' => h.running hne b op' hb)
    (Token.op_after_crypto.symm.trans ho)

namespace TrackedSig

/-- The session of a context runs what the context started. -/
def Holds (t : TrackedSig) (s : SessId) (st : State) : Prop := RunsSig t.begun t.data s st

/-- A session came with an operation. The digest of a fallback took the data, as the session would
    have, and there is no session then. What a clean context took is all that it was given, and if
    it is not known to have started, it signs. -/
structure Ok (t : TrackedSig) : Prop where
  started : t.ctx.session ≠ none → t.begun ≠ .nothing
  single : t.ctx.fallbackDigest = none ∨ t.ctx.session = none
  fallback : ∀ digest acc, t.ctx.fallbackDigest = some (.running digest acc) → acc = t.data
  operate : t.ctx.fallbackOperate = t.alg.fallbackOperate
  clean : t.clean → t.given = if t.ctx.fresh then [] else t.data
  unsure : t.clean → t.ctx.fresh = false → t.begun = .unsure → t.ctx.operation = Ckf.sign

end TrackedSig

/-- A context that fits the state: it is as it should be, and its session is none of those of
    the others. -/
structure Fits (S : Set SessId) (st : State) (t : TrackedSig) (st' : State) : Prop where
  within : Within S st st'
  ok : t.Ok
  holds : ∀ s, t.ctx.session = some s → s ∉ S ∧ t.Holds s st'

/-! ## The parts of a context -/

/-- What an operation in flight consists of is the same. -/
structure SameFlight (c d : SigCtx) : Prop where
  session : d.session = c.session
  fallbackDigest : d.fallbackDigest = c.fallbackDigest
  fallbackOperate : d.fallbackOperate = c.fallbackOperate

namespace SameFlight

theorem rfl' : SameFlight c c := ⟨rfl, rfl, rfl⟩

theorem trans {e : SigCtx} (h : SameFlight c d) (h' : SameFlight d e) : SameFlight c e :=
  ⟨h'.1.trans h.1, h'.2.trans h.2, h'.3.trans h.3⟩

theorem of_sameOperation (h : SameOperation c d) : SameFlight c d :=
  ⟨h.session, h.fallbackDigest, h.fallbackOperate⟩

theorem fresh (h : SameFlight c d) : d.fresh = c.fresh := by
  rw [SigCtx.fresh, SigCtx.fresh, h.session, h.fallbackDigest]

end SameFlight

/-- A context is as it should be as long as its operation in flight is the same. -/
theorem TrackedSig.Ok.of_same (h : t.Ok) (hc : SameFlight t.ctx c) {given : Bytes} {clean : Bool}
    (hclean : clean → given = if t.ctx.fresh then [] else t.data)
    (hop : clean → t.ctx.fresh = false → t.clean ∧ c.operation = t.ctx.operation) :
    TrackedSig.Ok { t with ctx := c, given, clean } where
  started := by
    rw [hc.session]
    exact h.started
  single := by
    rw [hc.fallbackDigest, hc.session]
    exact h.single
  fallback := by
    rw [hc.fallbackDigest]
    exact h.fallback
  operate := hc.fallbackOperate.trans h.operate
  clean := by
    rw [hc.fresh]
    exact hclean
  unsure hcl hf hb := by
    rw [hc.fresh] at hf
    obtain ⟨ht, hop⟩ := hop hcl hf
    exact hop.trans (h.unsure ht hf hb)

/-- The two differ in the mechanism and its parameters only. -/
def OnlyMech (c d : SigCtx) : Prop :=
  ∃ m p q, d = { c with mechanism := m, pParameter := p, pssParams := q }

namespace OnlyMech

theorem rfl' : OnlyMech c c := ⟨c.mechanism, c.pParameter, c.pssParams, rfl⟩

theorem setMech {m : Nat} {p : ParamPtr} : OnlyMech c (c.setMech m p) := ⟨m, p, c.pssParams, rfl⟩

theorem setMech_setMech {m m' : Nat} {p p' : ParamPtr} :
    OnlyMech c ((c.setMech m p).setMech m' p') := ⟨m', p', c.pssParams, rfl⟩

theorem sameFlight (h : OnlyMech c d) : SameFlight c d := by
  obtain ⟨m, p, q, rfl⟩ := h
  exact ⟨rfl, rfl, rfl⟩

end OnlyMech

theorem pssDefaults_onlyMech : ∃ q, (pssDefaults c).2 = { c with pssParams := q } := by
  rcases hd : rsasigDigestMap c.digest with _ | data
  · exact ⟨c.pssParams, by simp only [pssDefaults, hd]⟩
  · exact ⟨_, by rw [pssDefaults_eq hd]⟩

/-- A mechanism that is set, or cannot be, changes nothing else. -/
theorem setMechanism_returns : Returns (fun r => OnlyMech c r.2) (alg.setMechanism c) := by
  cases alg with
  | rsasig =>
    refine .ite (fun _ => .setMech) fun _ => .ite (fun _ => .setMech_setMech) fun _ =>
      .ite (fun _ => .setMech) fun _ => .ite (fun _ => ?_) fun _ => .setMech
    obtain ⟨q, hq⟩ := pssDefaults_onlyMech (c := c.setMech c.mechtype .null)
    simp only [hq]
    have hparams : ∀ {m p}, OnlyMech c
        ({ c.setMech c.mechtype .null with pssParams := q }.setMech m p) := ⟨_, _, q, rfl⟩
    refine .ite (fun _ => ⟨_, _, q, rfl⟩) fun _ => .ite (fun _ => ?_) fun _ => hparams
    exact .andThen fun _ => hparams
  | ecdsa =>
    change OnlyMech c (ecdsaSetMechanism c).2
    simp only [ecdsaSetMechanism]
    split
    · split
      · split
        · exact .setMech
        · exact .setMech_setMech
      · exact .setMech
    · exact .setMech
  | eddsa =>
    change OnlyMech c (eddsaSetMechanism c).2
    simp only [eddsaSetMechanism]
    split
    · split
      · exact .setMech_setMech
      · exact .setMech
    · exact .setMech
  | mldsa => exact .setMech

/-- Setting a mechanism does not change the state. -/
theorem setMechanism_same : Keeps (env O) (st = ·) (alg.setMechanism c) := by
  have hload : ∀ {o}, Keeps (env O) (st = ·) (mem (.loadObj o)) := fun _ h => wp_loadObj.2 h
  have hcall : ∀ {slotid}, Keeps (env O) (st = ·) (call (.supportsAllowedMechanisms slotid)) :=
    fun _ h _ _ => h
  have hrestrictions : ∀ {d : SigCtx} {m : Nat}, Keeps (env O) (st = ·)
      (sigPssRestrictions d m) := by
    intro d m
    unfold sigPssRestrictions
    rcases d.key with _ | key
    · exact .pure
    · refine .bind hload fun obj => .bind hcall fun r => .ite .pure <| .ite .pure ?_
      rcases obj.getAttr ckaAllowedMechanisms with _ | value
      · exact .pure
      · exact .ite .pure .pure
  cases alg with
  | rsasig =>
    refine .ite .pure <| .ite .pure <| .ite .pure <| .ite (.ite .pure <| .ite ?_ .pure) .pure
    exact .bind hrestrictions fun _ => .pure
  | ecdsa => exact .pure
  | eddsa => exact .pure
  | mldsa => exact .pure

/-- What a mechanism that is set, or cannot be, amounts to. -/
theorem wp_setMechanism (alg : SigAlg) {Q : CkRv × SigCtx → State → Prop}
    (h : ∀ r, OnlyMech c r.2 → Q r st) : wp (env O) (alg.setMechanism c) Q st := by
  refine wp_mono (setMechanism_returns.wp (setMechanism_same st rfl)) ?_
  rintro r _ ⟨hr, rfl⟩
  exact h r hr

/-! ## What a context does -/

/-- Parameters do not change whether a context signs or verifies. -/
theorem setCtxParams_operation {key : Option Obj} {params : Option (List OsslParam)} :
    (alg.setCtxParams ctx key params c).2.operation = c.operation := by
  have hall : ∀ {setters : List (Setter SigCtx)} {params : List OsslParam} {c : SigCtx},
      (∀ s ∈ setters, ∀ c p, (s.set c p).2.operation = c.operation) →
      (setAll params setters c).2.operation = c.operation := fun h =>
    setAll_keeps (fun s hs c' p hc => (h s hs c' p).trans hc) rfl
  have hdigest : ∀ c p, (digestSetter.set c p).2.operation = c.operation := by
    intro c p
    simp only [digestSetter]
    repeat' split
    all_goals rfl
  have hsignature : ∀ c p, (signatureSetter.set c p).2.operation = c.operation := by
    intro c p
    simp only [signatureSetter]
    split <;> rfl
  cases alg with
  | rsasig =>
    rcases params with _ | params
    · rfl
    refine hall fun s hs c p => ?_
    simp only [rsasigSetters, List.mem_cons, List.not_mem_nil, or_false] at hs
    rcases hs with rfl | rfl | rfl | rfl | rfl
    · exact hdigest c p
    · simp only [padModeSetter]
      repeat' split
      all_goals rfl
    · simp only [saltlenSetter, rsasigSetSaltlen, setPssSaltlenFromDigest, setPssSaltlenMax]
      repeat' split
      all_goals rfl
    · simp only [mgf1DigestSetter]
      split <;> rfl
    · exact hsignature c p
  | ecdsa =>
    rcases params with _ | params
    · rfl
    refine hall fun s hs c p => ?_
    simp only [List.mem_cons, List.not_mem_nil, or_false] at hs
    rcases hs with rfl | rfl
    · exact hdigest c p
    · exact hsignature c p
  | eddsa =>
    have hset : (setAll (params.getD []) [instanceSetter, edContextStringSetter] c).2.operation =
        c.operation := by
      refine hall fun s hs c p => ?_
      simp only [List.mem_cons, List.not_mem_nil, or_false] at hs
      rcases hs with rfl | rfl
      · simp only [instanceSetter]
        repeat' split
        all_goals rfl
      · simp only [edContextStringSetter]
        split <;> rfl
    have hparams : ∀ d : SigCtx, (eddsaInstanceToParams d).2.operation = d.operation := by
      intro d
      unfold eddsaInstanceToParams
      rcases d.edInstance <;> rfl
    simp only [SigAlg.setCtxParams, eddsaSetCtxParams]
    split
    · exact hset
    · exact (hparams _).trans hset
  | mldsa =>
    rcases params with _ | params
    · rfl
    refine hall fun s hs c p => ?_
    simp only [mldsaSetters, List.mem_cons, List.not_mem_nil, or_false] at hs
    rcases hs with rfl | rfl | rfl | rfl | rfl
    · simp only [mlContextStringSetter]
      split <;> rfl
    · simp only [deterministicSetter]
      repeat' split
      all_goals rfl
    · rfl
    · rfl
    · exact hsignature c p

theorem OnlyMech.operation (h : OnlyMech c d) : d.operation = c.operation := by
  obtain ⟨m, p, q, rfl⟩ := h
  rfl

/-- Nor does the start of an operation. -/
theorem sigOperateInit_operation {digestOp : Bool} :
    Returns (fun r => r.2.1.operation = c.operation) (sigOperateInit ctx c digestOp) := by
  have hfallback : Returns (fun r : CkRv × SigCtx => r.2.operation = c.operation)
      (mechFallbackInit c) := by
    refine mechFallbackInit_returns.mono ?_
    rintro ⟨ret, d⟩ ⟨md, rfl, -⟩
    rfl
  refine .andThen fun _ => .ite (fun _ => rfl) fun _ => ?_
  rcases c.key with _ | key
  · exact rfl
  refine .andThen fun _ => .ite (fun _ => rfl) fun _ => .andThen fun _ => .ite (fun _ => rfl) ?_
  refine fun _ => .andThen fun r => ?_
  rcases r with ret | s
  · exact .ite (fun _ => hfallback.bind fun _ hr => hr) fun _ => rfl
  · refine .andThen fun _ => .andThen fun r => .andThen fun _ => .andThen fun _ => ?_
    have hstate : (if r.1 = Ckr.ok then { c with sessionState := .initialized } else c).operation =
        c.operation := by
      split <;> rfl
    exact .ite (fun _ => .andThen fun _ => hstate) fun _ => hstate

/-- Nor does an update. -/
theorem sigDigestUpdate_operation :
    Returns (fun r => r.2.operation = c.operation) (sigDigestUpdate ctx c data) := by
  have hon : ∀ {d : SigCtx}, Returns (fun r : Nat × SigCtx => r.2.operation = d.operation)
      (digestUpdateOn ctx d data) := by
    intro d
    unfold digestUpdateOn
    split
    · unfold fallbackDigestUpdate
      split
      · exact .andThen fun _ => .ite (fun _ => rfl) fun _ => rfl
      · exact rfl
    · exact rfl
    · exact .andThen fun _ => .andThen fun _ => .ite (fun _ => .andThen fun _ => rfl) fun _ => rfl
  have hstart : Returns (fun r : CkRv × SigCtx => r.2.operation = c.operation)
      (digestStart ctx c) := by
    refine .ite (fun _ => sigOperateInit_operation.bind ?_) fun _ => rfl
    rintro ⟨ret, e, session⟩ he
    refine Returns.pure ?_
    dsimp only
    split <;> exact he
  refine hstart.bind ?_
  rintro ⟨ret, e⟩ he
  exact .ite (fun _ => he) fun _ => hon.mono fun _ h => h.trans he

/-- Nor does an operation in one call. -/
theorem operate_operation {sig : Option Bytes} {sigsize : Nat} :
    Returns (fun r => r.2.1.operation = c.operation) (alg.operate ctx c sig sigsize data) := by
  have hsig : ∀ {d : SigCtx} {data}, OnlyMech c d → Returns
      (fun r : CkRv × SigCtx × Bytes => r.2.1.operation = c.operation)
      (sigOperate ctx d sig sigsize data) := by
    intro d data hd
    rcases sig with _ | sig
    · exact hd.operation
    refine sigOperateInit_operation.bind ?_
    rintro ⟨ret, e, _ | s⟩ he
    · exact he.trans hd.operation
    · exact .andThen fun _ => .andThen fun _ => .andThen fun _ => he.trans hd.operation
  have hset : Returns (fun r => OnlyMech c r.2) (alg.setMechanism c) := setMechanism_returns
  cases alg with
  | rsasig =>
    change Returns _ (rsasigOperate ctx c sig sigsize data)
    unfold rsasigOperate
    rcases rsasigData c sigsize data with ret | tbs
    · exact rfl
    · exact hset.bind fun r hr => .ite (fun _ => hr.operation) fun _ => hsig hr
  | ecdsa => exact .ite (fun _ => OnlyMech.operation hset) fun _ => hsig hset
  | eddsa => exact .ite (fun _ => OnlyMech.operation hset) fun _ => hsig hset
  | mldsa => exact hsig hset

/-! ## Initialisation -/

section Init

variable {key : ObjId} {operation : Flags} {digest default : Option Bytes}
  {params : Option (List OsslParam)} {paramset : Nat}

theorem sigOpInit_flight :
    Returns (fun r => SameFlight c r.2) (sigOpInit ctx c key operation digest) := by
  refine sigOpInit_keeps.mono ?_
  rintro ⟨ret, d⟩ ⟨key, operation, digest, rfl⟩
  exact ⟨rfl, rfl, rfl⟩

theorem sigSetCtxParams_flight :
    Returns (fun r => SameFlight c r.2) (sigSetCtxParams alg ctx c params) :=
  .andThen fun _ => .of_sameOperation setCtxParams_same

theorem sigSetCtxParams_operation :
    Returns (fun r => r.2.operation = c.operation) (sigSetCtxParams alg ctx c params) :=
  .andThen fun _ => setCtxParams_operation

theorem sigInit_flight :
    Returns (fun r => SameFlight c r.2) (sigInit alg operation ctx c key params) := by
  refine sigOpInit_flight.bind ?_
  rintro ⟨ret, d⟩ hd
  exact .ite (fun _ => hd) fun _ => sigSetCtxParams_flight.mono fun _ h => hd.trans h

theorem sigDigestInit_flight :
    Returns (fun r => SameFlight c r.2)
      (sigDigestInit alg default operation ctx c digest key params) := by
  refine sigOpInit_flight.bind ?_
  rintro ⟨ret, d⟩ hd
  refine .ite (fun _ => hd) fun _ => sigSetCtxParams_flight.mono fun _ h => ?_
  exact hd.trans ⟨h.session, h.fallbackDigest, h.fallbackOperate⟩

theorem eddsaInitInstance_flight : Returns (fun r => SameFlight c r.2) (eddsaInitInstance c) :=
  .ite (fun _ => .rfl') fun _ => .andThen fun _ => .ite (fun _ => ⟨rfl, rfl, rfl⟩) fun _ =>
    .ite (fun _ => ⟨rfl, rfl, rfl⟩) fun _ => .rfl'

theorem digestInit_flight :
    Returns (fun r => SameFlight c r.2) (alg.digestInit operation ctx c digest key params) := by
  cases alg with
  | rsasig => exact sigDigestInit_flight
  | ecdsa => exact sigDigestInit_flight
  | mldsa => exact sigDigestInit_flight
  | eddsa =>
    refine .ite (fun _ => .rfl') fun _ => sigOpInit_flight.bind ?_
    rintro ⟨ret, d⟩ hd
    refine .ite (fun _ => hd) fun _ => eddsaInitInstance_flight.bind ?_
    rintro ⟨ret, e⟩ he
    refine .ite (fun _ => hd.trans he) fun _ => sigSetCtxParams_flight.mono fun _ h => ?_
    exact hd.trans (he.trans h)

/-- A new context has no operation in flight, and falls back as its family does. -/
theorem newctx_returns : Returns (fun r => ∀ c ∈ r, c.session = none ∧ c.fallbackDigest = none ∧
    c.fallbackOperate = alg.fallbackOperate) (alg.newctx paramset) := by
  have hnew : ∀ {m : Nat} {f : SigCtx → SigCtx}, ((f { mechtype := m }).session = none ∧
      (f { mechtype := m }).fallbackDigest = none ∧
      (f { mechtype := m }).fallbackOperate = alg.fallbackOperate) →
      Returns (fun r => ∀ c ∈ r, c.session = none ∧ c.fallbackDigest = none ∧
        c.fallbackOperate = alg.fallbackOperate) (do return (← sigNewctx m).map f) := by
    intro m f hf
    refine sigNewctx_returns.bind fun r hr => ?_
    rintro c hc
    obtain ⟨d, hd, rfl⟩ := Option.map_eq_some_iff.1 hc
    rw [hr d hd]
    exact hf
  cases alg with
  | rsasig => exact hnew ⟨rfl, rfl, rfl⟩
  | ecdsa => exact hnew ⟨rfl, rfl, rfl⟩
  | mldsa => exact hnew ⟨rfl, rfl, rfl⟩
  | eddsa =>
    refine sigNewctx_returns.mono fun r hr c hc => ?_
    rw [hr c hc]
    exact ⟨rfl, rfl, rfl⟩

theorem newctx_within : Keeps (env O) (Within S st) (alg.newctx paramset) := by
  have hnew : ∀ {m : Nat}, Keeps (env O) (Within S st) (sigNewctx m) :=
    .bind Within.alloc fun _ => .ite .pure .pure
  cases alg with
  | rsasig => exact .bind hnew fun _ => .pure
  | ecdsa => exact .bind hnew fun _ => .pure
  | mldsa => exact .bind hnew fun _ => .pure
  | eddsa => exact hnew

theorem sigKey_within : Keeps (env O) (Within S st) (sigKey c) := fun _ h => wp_sigKey.2 h

theorem sigSetCtxParams_within :
    Keeps (env O) (Within S st) (sigSetCtxParams alg ctx c params) :=
  .bind sigKey_within fun _ => .pure

variable (hO : OpensFresh O) (hH : ObjectHandles O)
include hO hH

theorem sigOpInit_within : Keeps (env O) (Within S st) (sigOpInit ctx c key operation digest) := by
  have hkey : Keeps (env O) (Within S st) (opInitKey ctx key operation) := by
    refine .bind Within.loadObj fun obj => .ite (.ite .pure .pure) <| .ite (.ite ?_ .pure) .pure
    refine .bind (Within.objFindAssociated hO hH) fun r => ?_
    rcases r with _ | key
    · exact .pure
    · exact .pure
  refine .bind Within.call fun _ => .ite .pure <| .bind hkey fun r => ?_
  rcases r with ret | key
  · exact .pure
  · refine .bind (Within.objRef hO hH) fun r => ?_
    rcases r with _ | key
    · exact .pure
    · rcases digest with _ | name
      · exact .pure
      · dsimp only
        rcases digestGetByName name with ret | digest <;> exact .pure

theorem sigInit_within :
    Keeps (env O) (Within S st) (sigInit alg operation ctx c key params) :=
  .bind (sigOpInit_within hO hH) fun _ => .ite .pure sigSetCtxParams_within

theorem digestInit_within :
    Keeps (env O) (Within S st) (alg.digestInit operation ctx c digest key params) := by
  have hinit : ∀ {alg : SigAlg} {default : Option Bytes}, Keeps (env O) (Within S st)
      (sigDigestInit alg default operation ctx c digest key params) :=
    .bind (sigOpInit_within hO hH) fun _ => .ite .pure sigSetCtxParams_within
  cases alg with
  | rsasig => exact hinit
  | ecdsa => exact hinit
  | mldsa => exact hinit
  | eddsa =>
    refine .ite .pure <| .bind (sigOpInit_within hO hH) fun _ => .ite .pure ?_
    refine .bind (.ite .pure <| .bind sigKey_within fun _ => .ite .pure <| .ite .pure .pure) ?_
    exact fun _ => .ite .pure sigSetCtxParams_within

end Init

/-! ## One operation on a session -/

section Operate

variable (hO : OpensFresh O) (hH : ObjectHandles O)

/-- An operation that is started does not change what the objects refer to. -/
theorem sigOperateInit_pooled {digestOp : Bool} (hH : ObjectHandles O) :
    Keeps (env O) RefsPooled (sigOperateInit ctx c digestOp) := by
  have hI := refsPooled_objectInvariant (O := O)
  have hfallback : Keeps (env O) RefsPooled (mechFallbackInit c) := by
    unfold mechFallbackInit
    rcases digestGetName c.digest with ret | name
    · exact .pure
    · refine .bind ObjectInvariant.keeps_call fun _ => .ite .pure ?_
      refine .bind (fun _ h => wp_alloc.2 fun _ => h) fun _ => .ite .pure ?_
      exact .bind ObjectInvariant.keeps_call fun _ => .ite .pure .pure
  have hon : ∀ {key handle reqlogin s}, Keeps (env O) RefsPooled
      (operateInitOn ctx c key handle reqlogin s) := by
    intro key handle reqlogin s
    refine .bind ObjectInvariant.sessionHandle fun h => .bind (fun _ h _ _ => h) fun r => ?_
    refine .bind ObjectInvariant.loadObj fun x => .bind (.ite hI.contextSpecificLogin .pure) ?_
    exact fun ret => .ite (.bind hI.returnSession fun _ => .pure) .pure
  refine .bind ObjectInvariant.keeps_call fun _ => .ite .pure ?_
  rcases c.key with _ | key
  · exact .pure
  · refine .bind (hI.getHandle hH) fun handle => .ite .pure <| .bind ObjectInvariant.loadObj ?_
    refine fun x => .ite .pure <| .bind hI.trySessionRef fun r => ?_
    rcases r with ret | s
    · exact .ite (.bind hfallback fun _ => .pure) .pure
    · exact hon

include hO hH

/-- What the start of an operation does: it fails, or falls back, or takes a session that nobody
    else holds, and starts the operation of the context on it. -/
theorem sigOperateInit_spec {digestOp : Bool} (h : Within S st st') :
    wp (env O) (sigOperateInit ctx c digestOp) (fun r st'' => Within S st st'' ∧
      Started c digestOp st'.tok.log r st'' ∧ ∀ s, r.2.2 = some s → s ∉ S ∧ s ∈ st''.inUse ∧
        ∃ key, c.key = some key ∧ Starts c key st'.tok.log s st'') st' := by
  refine wp_mono (wp_and (wp_and (sigOperateInit_held hO hH h.2 h.1) (sigOperateInit_pooled hH st' h.2))
    (wp_and (sigOperateInit_started rfl) (sigOperateInit_starts rfl))) ?_
  rintro r st'' ⟨⟨⟨hu, hheld⟩, hp⟩, hs, hstarts⟩
  exact ⟨⟨hu, hp⟩, hs, fun s e => ⟨(hheld s e).1, (hheld s e).2, hstarts s e⟩⟩

/-- An operation in one call gives its session back, and leaves the context without one that it
    did not have before. -/
theorem sigOperate_within {sig : Option Bytes} {sigsize : Nat} (h : Within S st st') :
    wp (env O) (sigOperate ctx c sig sigsize data)
      (fun r st'' => Within S st st'' ∧ SameFlight c r.2.1) st' := by
  rcases sig with _ | sig
  · exact ⟨h, .rfl'⟩
  refine wp.bind (sigOperateInit_spec hO hH h) ?_
  rintro r st₁ ⟨h₁, hs, hheld⟩
  cases hs with
  | failed => exact ⟨h₁, .rfl'⟩
  | fallback _ hd => exact absurd hd (by decide)
  | refused => exact ⟨h₁, rfl, rfl, rfl⟩
  | @started rv sessionState k handle s =>
    have hsS : s ∉ S := (hheld s rfl).1
    refine wp_bind.2 <| wp_sessionHandle.2 <| wp.bind (P := fun _ st₂ => Within S st st₂) ?_ ?_
    · refine wp_ite.2 ⟨fun _ r _ => h₁.crypto hsS, fun _ => wp_bind.2 fun r _ => ?_⟩
      exact h₁.crypto hsS
    · rintro ⟨ret, out⟩ st₂ h₂
      exact wp.bind (Within.returnSession hO hsS st₂ h₂) fun _ _ h₃ => ⟨h₃, rfl, rfl, rfl⟩

theorem operate_within (alg : SigAlg) {sig : Option Bytes} {sigsize : Nat} (h : Within S st st') :
    wp (env O) (alg.operate ctx c sig sigsize data)
      (fun r st'' => Within S st st'' ∧ SameFlight c r.2.1) st' := by
  have hset : Returns (fun r => OnlyMech c r.2) (alg.setMechanism c) := setMechanism_returns
  have hgo : ∀ {d data st₁}, Within S st st₁ → OnlyMech c d → wp (env O)
      (sigOperate ctx d sig sigsize data) (fun r st'' => Within S st st'' ∧ SameFlight c r.2.1)
      st₁ := fun h₁ hd =>
    wp_mono (sigOperate_within hO hH h₁) fun _ _ h => ⟨h.1, hd.sameFlight.trans h.2⟩
  cases alg with
  | rsasig =>
    change wp (env O) (rsasigOperate ctx c sig sigsize data) _ st'
    unfold rsasigOperate
    rcases rsasigData c sigsize data with ret | tbs
    · exact ⟨h, .rfl'⟩
    · refine wp_bind.2 <| wp_setMechanism .rsasig ?_
      rintro ⟨ret, d⟩ hd
      exact wp_ite.2 ⟨fun _ => ⟨h, hd.sameFlight⟩, fun _ => hgo h hd⟩
  | ecdsa => exact wp_ite.2 ⟨fun _ => ⟨h, OnlyMech.sameFlight hset⟩, fun _ => hgo h hset⟩
  | eddsa => exact wp_ite.2 ⟨fun _ => ⟨h, OnlyMech.sameFlight hset⟩, fun _ => hgo h hset⟩
  | mldsa => exact hgo h hset

end Operate

/-- The cancellation of an operation, and the end of a context. -/
theorem sigFreectx_within (hO : OpensFresh O) (hs : ∀ s, c.session = some s → s ∉ S)
    (h : Within S st st') :
    wp (env O) (sigFreectx ctx c) (fun _ st'' => Within S st st'') st' := by
  have hfree : ∀ st'', Within S st st'' → wp (env O) (objFree? ctx c.key)
      (fun _ st'' => Within S st st'') st'' := fun st'' h'' => Within.objFree? hO st'' h''
  unfold sigFreectx
  rcases hsess : c.session with _ | s
  · exact hfree st' h
  have hsS := hs s hsess
  have hcancel : wp (env O) (sigCancel c s) (fun _ st'' => Within S st st'') st' := by
    refine wp_bind.2 <| wp_sessionHandle.2 fun r _ => ?_
    have h₁ := h.crypto hsS (k := .cancel c.fn) (r := r)
    refine wp_ite.2 ⟨fun _ r' _ => ?_, fun _ => h₁⟩
    have h₂ := h₁.crypto hsS (k := .sessionCancel c.fn) (r := r')
    refine wp_ite.2 ⟨fun _ => wp_storeSess.2 ?_, fun _ => h₂⟩
    exact ⟨h₂.1.setSess (fun _ => rfl) fun _ => rfl, refsPooled_objectInvariant (O := O).markBroken h₂.2⟩
  have hreturn : ∀ st'', Within S st st'' → wp (env O) (do
      returnSession ctx s
      objFree? ctx c.key) (fun _ st'' => Within S st st'') st'' := fun st'' h'' =>
    wp.bind (Within.returnSession hO hsS st'' h'') fun _ st₁ h₁ => hfree st₁ h₁
  refine wp_ite.2 ⟨fun _ => ?_, fun _ => hreturn st' h⟩
  exact wp.bind hcancel fun _ st₁ h₁ => hreturn st₁ h₁

/-! ## Updates -/

/-- The operation that a context starts, on its key as it is in a state. -/
def SigCtx.begunIn (c : SigCtx) (st : State) : Begun :=
  match c.key with
  | none => .nothing
  | some key =>
    let obj := (st.mem.obj key).getD .freed
    if obj.asksLogin c.operation then .unsure
    else .op { fn := c.fn, mech := c.mech, key := obj.current }

theorem wp_sigBegun {Q : Begun → State → Prop} :
    wp (env O) (sigBegun c) Q st ↔ Q (c.begunIn st) st := by
  unfold sigBegun SigCtx.begunIn
  rcases c.key with _ | key
  · exact Iff.rfl
  · exact wp_loadObj

/-- A login is asked for to sign only. -/
theorem SigCtx.begunIn_unsure (h : c.begunIn st = .unsure) : c.operation = Ckf.sign := by
  unfold begunIn at h
  split at h
  · exact absurd h (by simp)
  · dsimp only at h
    split at h
    · rename_i hask
      simp only [Obj.asksLogin, Bool.and_eq_true, beq_iff_eq] at hask
      exact hask.1
    · exact absurd h (by simp)

/-- An operation of a context is in flight, on its session or in its fallback, and took the data;
    or none is. -/
structure InFlight (S : Set SessId) (st : State) (f : Option FallbackOperate)
    (begun : Begun) (data : Bytes) (c : SigCtx) (st' : State) : Prop where
  within : Within S st st'
  started : c.session ≠ none → begun ≠ .nothing
  single : c.fallbackDigest = none ∨ c.session = none
  operate : c.fallbackOperate = f
  fallback : ∀ digest acc, c.fallbackDigest = some (.running digest acc) → acc = data
  session : ∀ s, c.session = some s → s ∉ S ∧ RunsSig begun data s st'

namespace InFlight

variable {f : Option FallbackOperate}

/-- Without a session, there is only the fallback. -/
theorem of_idle (hw : Within S st st') (hs : c.session = none) (hfo : c.fallbackOperate = f)
    (hmd : ∀ digest acc, c.fallbackDigest = some (.running digest acc) → acc = data) :
    InFlight S st f begun data c st' where
  within := hw
  started hne := absurd hs hne
  single := .inr hs
  operate := hfo
  fallback := hmd
  session s e := absurd (hs.symm.trans e) (by simp)

theorem of_same (h : InFlight S st f begun data c st') (hd : SameFlight c d) :
    InFlight S st f begun data d st' where
  within := h.within
  started := by
    rw [hd.session]
    exact h.started
  single := by
    rw [hd.fallbackDigest, hd.session]
    exact h.single
  operate := hd.fallbackOperate.trans h.operate
  fallback digest acc hacc := h.fallback digest acc (hd.fallbackDigest.symm.trans hacc)
  session s hs := by
    rw [hd.session] at hs
    exact h.session s hs

end InFlight

/-- The data that an update adds. -/
def chunk (ret : Nat) (data : Bytes) : Bytes := if ret = retOsslOk then data else []

theorem chunk_ok : chunk retOsslOk data = data := rfl

theorem chunk_err : chunk retOsslErr data = [] := rfl

section Update

variable {f : Option FallbackOperate} {acc : Bytes}

/-- What an update adds goes to the operation in flight. A session that fails is given back. -/
theorem digestUpdateOn_inFlight (hO : OpensFresh O) (h : InFlight S st f begun acc c st') :
    wp (env O) (digestUpdateOn ctx c data) (fun r st'' =>
      InFlight S st f begun (acc ++ chunk r.1 data) r.2 st'' ∧
        (r.1 = retOsslOk → r.2.fresh = false) ∧
        ∀ s, r.2.session = some s → r.2.begunIn st'' = c.begunIn st') st' := by
  have herr : InFlight S st f begun (acc ++ chunk retOsslErr data) c st' := by
    rw [chunk_err, List.append_nil]
    exact h
  rcases hmd : c.fallbackDigest with _ | md
  · rcases hs : c.session with _ | s
    · simp only [digestUpdateOn, hmd, hs]
      exact ⟨herr, fun hok => absurd hok retOsslErr_ne, fun _ _ => rfl⟩
    -- the token takes the data
    obtain ⟨hsS, hruns⟩ := h.session s hs
    have hno : ∀ {acc' digest acc''}, c.fallbackDigest = some (.running digest acc'') →
        acc'' = acc' := fun e => absurd (hmd.symm.trans e) (by simp)
    simp only [digestUpdateOn, hmd, hs]
    refine wp_bind.2 <| wp_sessionHandle.2 fun r hr => ?_
    have hw := h.within.crypto hsS (k := .update c.fn data) (r := r)
    refine wp_ite.2 ⟨fun _ => ?_, fun hret => ?_⟩
    · refine wp.bind (Within.returnSession hO hsS _ hw) fun _ st₂ h₂ => ?_
      exact ⟨.of_idle h₂ rfl h.operate fun _ _ e => hno e, fun hok => absurd hok retOsslErr_ne,
        fun _ e => absurd e (by simp)⟩
    · refine ⟨⟨hw, h.started, h.single, h.operate, fun _ _ e => hno e, fun s' e => ?_⟩,
        fun _ => by simp [SigCtx.fresh, hs], fun _ _ => rfl⟩
      obtain rfl := Option.some.inj (hs.symm.trans e)
      refine ⟨hsS, hruns.crypto fun op b hb hsame hop => ?_⟩
      simp only [CryptoCall.opAfter, if_pos (not_not.1 hret)] at hop
      obtain ⟨op', ho', rfl⟩ := Option.map_eq_some_iff.1 hop
      rw [hsame op' ho', chunk_ok]
  · -- the digest of the fallback takes it
    have hs : c.session = none := h.single.resolve_left (by simp [hmd])
    simp only [digestUpdateOn, hmd]
    rcases md with _ | ⟨digest, acc'⟩ | _
    · exact ⟨herr, fun hok => absurd hok retOsslErr_ne, fun _ _ => rfl⟩
    · obtain rfl := h.fallback digest acc' hmd
      refine wp.bind (Within.call (fun _ _ => rfl) st' h.within) fun ok st₁ h₁ => ?_
      refine wp_ite.2 ⟨fun _ => ?_, fun _ => ?_⟩
      · refine ⟨.of_idle h₁ hs h.operate fun d a e => ?_, fun _ => by simp [SigCtx.fresh],
          fun _ e => absurd (hs.symm.trans e) (by simp)⟩
        simp only [Option.some.injEq, EvpMdCtx.running.injEq] at e
        rw [chunk_ok, ← e.2]
      · exact ⟨.of_idle h₁ hs h.operate herr.fallback, fun hok => absurd hok retOsslErr_ne,
          fun _ e => absurd (hs.symm.trans e) (by simp)⟩
    · exact ⟨herr, fun hok => absurd hok retOsslErr_ne, fun _ _ => rfl⟩

/-- A fallback that is started has taken no data. -/
theorem sigOperateInit_noData {digestOp : Bool} (hf : c.fallbackDigest = none) :
    Returns (fun r => ∀ digest acc, r.2.1.fallbackDigest = some (.running digest acc) → acc = [])
      (sigOperateInit ctx c digestOp) := by
  have hnone : ∀ {digest acc}, c.fallbackDigest = some (.running digest acc) → acc = [] :=
    fun e => absurd (hf.symm.trans e) (by simp)
  have hfallback : Returns (fun r : CkRv × SigCtx => ∀ digest acc,
      r.2.fallbackDigest = some (.running digest acc) → acc = []) (mechFallbackInit c) := by
    unfold mechFallbackInit
    rcases digestGetName c.digest with ret | name
    · exact fun _ _ => hnone
    · refine .andThen fun _ => .ite (fun _ _ _ => hnone) fun _ => .andThen fun _ => ?_
      refine .ite (fun _ _ _ e => absurd e (by simp)) fun _ => .andThen fun _ => ?_
      refine .ite (fun _ _ _ e => absurd e (by simp)) fun _ _ _ e => ?_
      simp only [Option.some.injEq, EvpMdCtx.running.injEq] at e
      exact e.2.symm
  refine .andThen fun _ => .ite (fun _ _ _ => hnone) fun _ => ?_
  rcases c.key with _ | key
  · exact fun _ _ => hnone
  · refine .andThen fun _ => .ite (fun _ _ _ => hnone) fun _ => .andThen fun _ => ?_
    refine .ite (fun _ _ _ => hnone) fun _ => .andThen fun r => ?_
    rcases r with ret | s
    · refine .ite (fun _ => hfallback.bind fun r hr => hr) fun _ _ _ => hnone
    · refine .andThen fun _ => .andThen fun r => .andThen fun _ => .andThen fun _ => ?_
      have hstate : ∀ {digest acc}, (if r.1 = Ckr.ok then { c with sessionState := .initialized }
          else c).fallbackDigest = some (.running digest acc) → acc = [] := by
        intro digest acc e
        split at e <;> exact hnone e
      exact .ite (fun _ => .andThen fun _ _ _ => hstate) fun _ _ _ => hstate

variable (hO : OpensFresh O) (hH : ObjectHandles O)
include hO hH

/-- The start of a message: an operation of the context is in flight then, without data, unless
    it failed. -/
theorem digestStart_inFlight (hf : c.fresh) (hw : Within S st st') :
    wp (env O) (digestStart ctx c) (fun r st'' =>
      InFlight S st c.fallbackOperate (r.2.begunIn st'') [] r.2 st'') st' := by
  obtain ⟨hs, hmd⟩ : c.session = none ∧ c.fallbackDigest = none := by
    simpa [SigCtx.fresh] using hf
  refine wp_ite.2 ⟨fun _ => ?_, fun h => absurd ⟨hmd, hs⟩ h⟩
  refine wp.bind ((sigOperateInit_noData hmd).wp (sigOperateInit_spec hO hH hw)) ?_
  rintro r st₁ ⟨hno, h₁, hstarted, hheld⟩
  cases hstarted with
  | failed _ hret =>
    simp only [if_neg hret]
    exact .of_idle h₁ hs rfl hno
  | @fallback ret md =>
    refine .of_idle h₁ ?_ ?_ ?_
    · split
      · rfl
      · exact hs
    · split <;> rfl
    · intro digest acc e
      split at e <;> exact hno digest acc e
  | refused _ hret =>
    simp only [if_neg hret]
    exact .of_idle h₁ hs rfl hno
  | @started rv sessionState k handle s _ hl hk =>
    obtain ⟨hsS, hin, key, hkey, x, rv', hx, hlog, hsure, hop⟩ := hheld s rfl
    have hbegun : SigCtx.begunIn { c with sessionState, session := some s } st₁ =
        if x.asksLogin c.operation then .unsure
        else .op { fn := c.fn, mech := c.mech, key := x.current } := by
      simp only [SigCtx.begunIn, hkey, hx, Option.getD_some]
      rfl
    refine ⟨h₁, fun _ => ?_, .inl hmd, rfl, hno, fun s' e => ?_⟩
    · refine ne_of_eq_of_ne hbegun ?_
      split <;> simp
    obtain rfl := Option.some.inj e
    refine ⟨hsS, hin, fun _ b op hb ho => ?_⟩
    -- the operation is known to have started where no login was asked for
    have hb := hbegun.symm.trans hb
    split at hb
    · exact absurd hb (by simp)
    · rename_i hask
      obtain rfl := Begun.op.inj hb
      have hrv : rv' = Ckr.ok := hsure (by simpa using hask)
      exact (Option.some.inj ((hop hrv).symm.trans ho)).symm

/-- An update of a context without an operation in flight starts one. -/
theorem sigDigestUpdate_fresh (hf : c.fresh) (hw : Within S st st') :
    wp (env O) (sigDigestUpdate ctx c data) (fun r st'' =>
      InFlight S st c.fallbackOperate (r.2.begunIn st'') (chunk r.1 data) r.2 st'' ∧
        (r.1 = retOsslOk → r.2.fresh = false)) st' := by
  refine wp.bind (digestStart_inFlight hO hH hf hw) ?_
  rintro ⟨ret, d⟩ st₁ h₁
  refine wp_ite.2 ⟨fun _ => ⟨h₁, fun hok => absurd hok retOsslErr_ne⟩, fun _ => ?_⟩
  refine wp_mono (digestUpdateOn_inFlight hO h₁) ?_
  rintro r st₂ ⟨h₂, hok, hbegun⟩
  rcases hs : r.2.session with _ | s
  · exact ⟨.of_idle h₂.within hs h₂.operate h₂.fallback, hok⟩
  · rw [hbegun s hs]
    exact ⟨h₂, hok⟩

omit hH in
/-- An update of a context with an operation in flight goes to it. -/
theorem sigDigestUpdate_inFlight (hf : c.fresh = false) (h : InFlight S st f begun acc c st') :
    wp (env O) (sigDigestUpdate ctx c data) (fun r st'' =>
      InFlight S st f begun (acc ++ chunk r.1 data) r.2 st'' ∧
        (r.1 = retOsslOk → r.2.fresh = false)) st' := by
  have hstart : digestStart ctx c = pure (Ckr.ok, c) := by
    refine if_neg ?_
    rintro ⟨hmd, hs⟩
    simp [SigCtx.fresh, hmd, hs] at hf
  rw [sigDigestUpdate, hstart]
  exact wp_mono (digestUpdateOn_inFlight hO h) fun _ _ h => ⟨h.1, h.2.1⟩

/-- An update keeps a context in order, and what is known of it then is what it took. -/
theorem digestUpdate_fits (h : Fits S st t st') :
    wp (env O) (t.alg.digestUpdate ctx t.ctx data) (fun r st'' =>
      Fits S st (t.took r.2 (r.2.begunIn st'') (r.1 = retOsslOk) data) st'') st' := by
  -- what an update amounts to, from what is in flight after it
  have hfits : ∀ {r : Nat × SigCtx} {st''}, InFlight S st t.alg.fallbackOperate
      (if t.ctx.fresh then r.2.begunIn st'' else t.begun)
      ((if t.ctx.fresh then [] else t.data) ++ chunk r.1 data) r.2 st'' →
      (r.1 = retOsslOk → r.2.fresh = false) → r.2.operation = t.ctx.operation →
      Fits S st (t.took r.2 (r.2.begunIn st'') (r.1 = retOsslOk) data) st'' := by
    intro r st'' hi hok hop
    have hchunk : chunk r.1 data = if decide (r.1 = retOsslOk) then data else [] := by
      simp only [chunk, decide_eq_true_eq]
    rw [hchunk] at hi
    refine ⟨hi.within, ⟨hi.started, hi.single, hi.fallback, hi.operate, fun hc => ?_,
      fun hc _ hb => ?_⟩, hi.session⟩ <;>
        simp only [TrackedSig.took, Bool.and_eq_true, decide_eq_true_eq] at hc
    · simp only [TrackedSig.took, hok hc.2, hc.2, decide_true, if_true, Bool.false_eq_true, if_false,
        h.ok.clean hc.1]
    · cases hf : t.ctx.fresh with
      | true =>
        simp only [TrackedSig.took, hf, if_true] at hb
        exact SigCtx.begunIn_unsure hb
      | false =>
        simp only [TrackedSig.took, hf, Bool.false_eq_true, if_false] at hb
        exact hop.trans (h.ok.unsure hc.1 hf hb)
  have hflight : InFlight S st t.alg.fallbackOperate t.begun t.data t.ctx st' :=
    ⟨h.within, h.ok.started, h.ok.single, h.ok.operate, h.ok.fallback, h.holds⟩
  -- the mechanism may have been set first
  have hgo : ∀ {d}, OnlyMech t.ctx d → wp (env O) (sigDigestUpdate ctx d data) (fun r st'' =>
      Fits S st (t.took r.2 (r.2.begunIn st'') (r.1 = retOsslOk) data) st'') st' := by
    intro d hmech
    have hd := hmech.sameFlight
    have hoperate := hd.fallbackOperate.trans h.ok.operate
    have hop : Returns (fun r => r.2.operation = d.operation) (sigDigestUpdate ctx d data) :=
      sigDigestUpdate_operation
    cases hf : t.ctx.fresh with
    | true =>
      refine wp_mono (hop.wp (sigDigestUpdate_fresh hO hH (hd.fresh.trans hf) h.within)) ?_
      rintro r st'' ⟨hrop, hi, hok⟩
      refine hfits ?_ hok (hrop.trans hmech.operation)
      simpa only [hf, if_true, List.nil_append, ← hoperate] using hi
    | false =>
      refine wp_mono (hop.wp
        (sigDigestUpdate_inFlight hO (hd.fresh.trans hf) (hflight.of_same hd))) ?_
      rintro r st'' ⟨hrop, hi, hok⟩
      refine hfits ?_ hok (hrop.trans hmech.operation)
      simpa only [hf, Bool.false_eq_true, if_false] using hi
  have herr : ∀ {d}, OnlyMech t.ctx d →
      Fits S st (t.took d (d.begunIn st') (retOsslErr = retOsslOk) data) st' := by
    intro d hmech
    have hd := hmech.sameFlight
    refine hfits (r := (retOsslErr, d)) ?_ (fun hok => absurd hok retOsslErr_ne) hmech.operation
    rw [chunk_err, List.append_nil]
    cases hf : t.ctx.fresh with
    | true =>
      obtain ⟨hs, hmd⟩ : d.session = none ∧ d.fallbackDigest = none := by
        simpa [SigCtx.fresh] using hd.fresh.trans hf
      exact .of_idle h.within hs (hd.fallbackOperate.trans h.ok.operate)
        fun _ _ e => absurd (hmd.symm.trans e) (by simp)
    | false =>
      simp only [Bool.false_eq_true, if_false]
      exact hflight.of_same hd
  by_cases ha : t.alg = .eddsa
  · have hnone : t.alg.digestUpdate ctx t.ctx data = pure (retOsslErr, t.ctx) := by
      rw [ha]
      rfl
    rw [hnone]
    exact herr .rfl'
  · rw [digestUpdate_with ha]
    refine wp_ite.2 ⟨fun _ => wp_bind.2 <| wp_setMechanism _ ?_, fun _ => hgo .rfl'⟩
    rintro ⟨ret, d⟩ hd
    exact wp_ite.2 ⟨fun _ => herr hd, fun _ => hgo hd⟩

end Update

/-! ## The end of a message -/

section Final

variable {sig : Option Bytes} {sigsize : Nat} (hO : OpensFresh O) (hH : ObjectHandles O)
include hO hH

theorem fallbackOperateOn_within {f : Option FallbackOperate} (h : Within S st st') :
    wp (env O) (fallbackOperateOn ctx f c sig sigsize data)
      (fun r st'' => Within S st st'' ∧ SameFlight c r.2.1) st' := by
  rcases f with _ | _ | _ | _
  · exact sigOperate_within hO hH h
  · exact operate_within hO hH .rsasig h
  · exact operate_within hO hH .ecdsa h
  · exact operate_within hO hH .mldsa h

/-- The signature of a digest by the fallback, on a session that is given back. -/
theorem mechFallbackFinal_within {mdsize : Nat} :
    Keeps (env O) (Within S st) (mechFallbackFinal ctx c sig sigsize mdsize) := by
  have hfinal : Keeps (env O) (Within S st) (fallbackDigestFinal c) := by
    unfold fallbackDigestFinal
    split
    · exact Within.call
    · exact .pure
  -- the second context has no session, before and after
  have hsub : ∀ {key digest} {sub : SigCtx} {st'}, sub.session = none → Within S st st' →
      wp (env O) (fallbackSubctx ctx c key sig sigsize digest sub)
        (fun r st'' => Within S st st'' ∧ r.2.1.session = none) st' := by
    intro key digest sub st' hs h'
    unfold fallbackSubctx
    rcases digestGetName c.digest with ret | name
    · exact ⟨h', hs⟩
    · refine wp.bind (sigOpInit_flight.wp (sigOpInit_within hO hH st' h')) ?_
      rintro ⟨ret, d⟩ st₁ ⟨hd, h₁⟩
      have hds : d.session = none := hd.session.trans hs
      refine wp_ite.2 ⟨fun _ => ⟨h₁, hds⟩, fun _ => ?_⟩
      exact wp_mono (fallbackOperateOn_within hO hH h₁) fun _ _ h => ⟨h.1, h.2.session.trans hds⟩
  refine .bind hfinal fun r => ?_
  rcases r with _ | digest
  · exact .pure
  refine .ite .pure ?_
  rcases c.key with _ | key
  · exact .pure
  refine .bind (Within.objGetHandle hO hH) fun handle => .ite .pure ?_
  intro st' h'
  refine wp_bind.2 <| wp_bind.2 <| wp_alloc.2 fun ok => wp_ite.2 ⟨fun _ => ?_, fun _ => h'⟩
  refine wp.bind (hsub rfl h') ?_
  rintro ⟨ret, sub, out⟩ st₁ ⟨h₁, hs⟩
  exact wp.bind (sigFreectx_within hO (fun s e => absurd (hs.symm.trans e) (by simp)) h₁)
    fun _ _ h₂ => h₂

/-- The end of an operation, before the session is given back: the context may only have come to
    the end of its fallback. -/
structure Ended (S : Set SessId) (st : State) (c d : SigCtx) (st' : State) : Prop where
  within : Within S st st'
  session : d.session = c.session
  fallbackOperate : d.fallbackOperate = c.fallbackOperate
  fallbackDigest : d.fallbackDigest = some .finished ∨ d.fallbackDigest = c.fallbackDigest

omit hO hH in
theorem Ended.same (h : Within S st st') : Ended S st c c st' := ⟨h, rfl, rfl, .inr rfl⟩

theorem digestFinalOn_ended {sig : Bytes} (hs : ∀ s, c.session = some s → s ∉ S)
    (h : Within S st st') : wp (env O) (digestFinalOn ctx c sig sigsize)
      (fun r st'' => Ended S st c r.2.1 st'') st' := by
  unfold digestFinalOn
  rcases hmd : c.fallbackDigest with _ | md
  · rcases hsess : c.session with _ | s
    · exact .same h
    · refine wp_bind.2 <| wp_sessionHandle.2 <| wp.bind (P := fun _ st'' => Within S st st'') ?_ ?_
      · refine wp_ite.2 ⟨fun _ r _ => ?_, fun _ => wp_bind.2 fun r _ => ?_⟩
        · exact h.crypto (hs s hsess) (k := .signFinal sigsize) (r := r)
        · exact h.crypto (hs s hsess) (k := .verifyFinal sig) (r := r)
      · rintro ⟨ret, out⟩ st₁ h₁
        refine wp_pure.2 ?_
        split <;> exact ⟨h₁, hsess ▸ rfl, rfl, .inr (hmd ▸ rfl)⟩
  · dsimp only
    rcases digestGetDigestSize c.digest with ret | mdsize
    · exact .same h
    · refine wp.bind (mechFallbackFinal_within hO hH st' h) ?_
      rintro ⟨ret, out⟩ st₁ h₁
      refine wp_pure.2 ?_
      split <;> exact ⟨h₁, rfl, rfl, .inl rfl⟩

/-- The end of a message gives the session back. The context keeps what its fallback took. -/
theorem sigDigestFinal_fits (h : Fits S st t st') :
    wp (env O) (sigDigestFinal ctx t.ctx sig sigsize)
      (fun r st'' => Fits S st { t with ctx := r.2.1, clean := false } st'') st' := by
  have hresult : wp (env O) (digestFinalResult ctx t.ctx sig sigsize)
      (fun r st'' => Ended S st t.ctx r.2.1 st'') st' := by
    rcases sig with _ | sig
    · exact .same h.within
    · refine wp_ite.2 ⟨fun _ => .same h.within, fun _ => ?_⟩
      exact digestFinalOn_ended hO hH (fun s hs => (h.holds s hs).1) h.within
  refine wp.bind hresult ?_
  rintro ⟨ret, c, out⟩ st₁ ⟨h₁, hs, hfo, hmd⟩
  have hreturn : wp (env O) (returnSession? ctx c.session) (fun _ st'' => Within S st st'') st₁ := by
    rcases hc : c.session with _ | s
    · exact h₁
    · exact Within.returnSession hO (h.holds s (hs.symm.trans hc)).1 st₁ h₁
  refine wp.bind hreturn fun _ st₂ h₂ => ?_
  refine ⟨h₂, ⟨fun hne => absurd rfl hne, .inr rfl, fun digest acc e => ?_,
    hfo.trans h.ok.operate, fun hc => ?_, fun hc => ?_⟩, fun _ e => absurd e (by simp)⟩
  · rcases hmd with hmd | hmd
    · exact absurd (hmd.symm.trans e) (by simp)
    · exact h.ok.fallback digest acc (hmd.symm.trans e)
  · exact absurd hc (by simp)
  · exact absurd hc (by simp)

end Final

/-! ## Duplicates -/

/-- What the token saves is the operation of a session, and a session ends an operation well only
    if it runs one, and if `V` holds of that and the signature. Any call may fail. -/
structure TokenSigns (O : Oracle) (V : TokenOp → Bytes → Prop) : Prop where
  save : ∀ st h r, O st (.crypto h .getOperationState) r → r.1 = Ckr.ok →
    h ≠ ckInvalidHandle ∧ r.2 = st.tok.op h
  signFinal : ∀ st h size r, O st (.crypto h (.signFinal size)) r → r.1 = Ckr.ok →
    h ≠ ckInvalidHandle ∧ ∃ op, st.tok.op h = some op ∧ V op r.2
  verifyFinal : ∀ st h sig r, O st (.crypto h (.verifyFinal sig)) r → r.1 = Ckr.ok →
    h ≠ ckInvalidHandle ∧ ∃ op, st.tok.op h = some op ∧ V op sig

/-- What a duplication amounts to: it fails, or copies a context without a session, or moves the
    session to the copy, and leaves the original with one that nobody else holds, or with none. -/
inductive Duplicated (S : Set SessId) (t : TrackedSig) (st : State) : Option SigCtx × SigCtx → Prop
  | failed : Duplicated S t st (none, t.ctx)
  | idle {new : SigCtx} (hs : t.ctx.session = none) (hnew : SameFlight t.ctx new)
      (hop : new.operation = t.ctx.operation) :
      Duplicated S t st (some new, t.ctx)
  | moved {new : SigCtx} {s : SessId} {left : Option SessId} {sessionState : SessionState}
      (hs : t.ctx.session = some s) (hnew : SameFlight t.ctx new)
      (hop : new.operation = t.ctx.operation)
      (hleft : ∀ s', left = some s' → s' ∉ S ∧ RunsSig t.begun t.data s' st) :
      Duplicated S t st (some new, { t.ctx with session := left, sessionState })

section Dup

variable {V : TokenOp → Bytes → Prop} {slotid : SlotId} {mechtype : Nat} {reqlogin : Bool}
  {handle : ObjectHandle} {saved : Option TokenOp}

/-- Asking for the operation of a session does not change it. -/
theorem Within.ask (h : Within S st st') {k : Handle} {r : CkRv × Option TokenOp} :
    Within S st ⟨st'.mem, st'.tok.after (.crypto k .getOperationState) r⟩ := by
  have hsame : Function.update st'.tok.op k (st'.tok.op k) = st'.tok.op :=
    Function.update_eq_self ..
  exact ⟨h.1.of_sess rfl rfl rfl hsame, h.2⟩

variable (hO : OpensFresh O)
include hO

theorem sigRestore_within (h : Within S st st')
    (hsaved : ∀ op b, begun = .op b → saved = some op → op = { b with data }) :
    wp (env O) (sigRestore ctx slotid mechtype reqlogin handle saved) (fun r st'' =>
      Within S st st'' ∧ ∀ s, r = some s → s ∉ S ∧ RunsSig begun data s st'') st' := by
  have hno : ∀ {st''}, Within S st st'' → Within S st st'' ∧
      ∀ s, (none : Option SessId) = some s → s ∉ S ∧ RunsSig begun data s st'' :=
    fun h => ⟨h, fun _ e => absurd e (by simp)⟩
  unfold sigRestore
  refine wp.bind (wp_and (getSession_held hO h.1.inUse h.1.handles)
    (refsPooled_objectInvariant.getSession st' h.2)) ?_
  rintro (ret | s) st₁ ⟨⟨hsp, hgot⟩, hp⟩
  · exact hno ⟨h.1.spared hsp, hp⟩
  obtain ⟨hsS, hin, hne⟩ := hgot s rfl
  have h₁ : Within S st st₁ := ⟨h.1.spared hsp, hp⟩
  refine wp_bind.2 <| wp_sessionHandle.2 fun r _ => ?_
  have h₂ := h₁.crypto hsS (k := .setOperationState saved handle) (r := r)
  refine wp_ite.2 ⟨fun _ => ?_, fun hret => ⟨h₂, fun s' e => ?_⟩⟩
  · exact wp.bind (Within.returnSession hO hsS _ h₂) fun _ _ h₃ => hno h₃
  · obtain rfl := Option.some.inj e
    refine ⟨hsS, hin, fun _ b op hb ho => ?_⟩
    have ho := Token.op_after_crypto.symm.trans ho
    simp only [CryptoCall.opAfter, if_pos (not_not.1 hret)] at ho
    exact hsaved op b hb ho

/-- The session that is left to the original context runs what the other one does. -/
theorem sigSplit_within (hV : TokenSigns O V) (h : Within S st st')
    (hruns : RunsSig begun data s st') :
    wp (env O) (sigSplit ctx slotid mechtype reqlogin handle s) (fun r st'' =>
      Within S st st'' ∧ ∀ s', r = some s' → s' ∉ S ∧ RunsSig begun data s' st'') st' := by
  have hno : ∀ {st''}, Within S st st'' → Within S st st'' ∧
      ∀ s', (none : Option SessId) = some s' → s' ∉ S ∧ RunsSig begun data s' st'' :=
    fun h => ⟨h, fun _ e => absurd e (by simp)⟩
  unfold sigSplit
  refine wp_ite.2 ⟨fun _ => hno h, fun _ => ?_⟩
  refine wp_bind.2 <| wp_sessionHandle.2 fun r _ => ?_
  have h₁ := h.ask (k := (st'.mem.sess s).session) (r := r)
  refine wp_ite.2 ⟨fun _ => hno h₁, fun _ => wp_alloc.2 fun ok => ?_⟩
  refine wp_ite.2 ⟨fun _ => hno h₁, fun _ r' hr' => ?_⟩
  have h₂ := h₁.ask (k := (st'.mem.sess s).session) (r := r')
  refine wp_ite.2 ⟨fun _ => hno h₂, fun hret => ?_⟩
  obtain ⟨hne, hsave⟩ := hV.save _ _ _ hr' (not_not.1 hret)
  refine sigRestore_within hO h₂ fun op b hb hop => hruns.running hne b op hb ?_
  -- what was saved is what the session runs, and still ran at the second call
  rw [hsave] at hop
  exact Token.op_after_crypto.symm.trans hop

omit hO in
theorem bufDup_within {p : Option Bytes} {len : Nat} :
    Keeps (env O) (Within S st) (bufDup p len) := by
  unfold bufDup
  rcases p with _ | bs
  · exact .pure
  · exact .ite .pure <| .bind Within.alloc fun _ => .ite .pure .pure

omit hO in
theorem evpMdCtxDup_spec {md : Option EvpMdCtx} (h : Within S st st') :
    wp (env O) (evpMdCtxDup md) (fun r st'' => Within S st st'' ∧ ∀ md' ∈ r, md' = md) st' := by
  unfold evpMdCtxDup
  rcases md with _ | md
  · exact ⟨h, fun _ e => (Option.some.inj e).symm⟩
  · refine wp_alloc.2 fun ok => wp_ite.2 ⟨fun _ => ⟨h, by simp⟩, fun _ => wp_alloc.2 fun ok' => ?_⟩
    exact wp_ite.2 ⟨fun _ => ⟨h, by simp⟩, fun _ => ⟨h, fun _ e => (Option.some.inj e).symm⟩⟩

variable (hH : ObjectHandles O)
include hH

/-- The copy of a context has no session, and falls back as the other does. -/
theorem sigCopy_spec {new : SigCtx} (hnew : new.session = none) (h : Within S st st') :
    wp (env O) (sigCopy ctx c new) (fun r st'' => Within S st st'' ∧
      ∀ d ∈ r, SameFlight { c with session := none } d ∧ d.operation = c.operation) st' := by
  have hkey : wp (env O) (objRef? ctx c.key) (fun _ st'' => Within S st st'') st' := by
    rcases c.key with _ | key
    · exact h
    · exact Within.objRef hO hH st' h
  have hfree : ∀ {d : SigCtx} {st''}, d.session = none → Within S st st'' → wp (env O) (do
      sigFreectx ctx d
      return none) (fun r st'' => Within S st st'' ∧
        ∀ d ∈ r, SameFlight { c with session := none } d ∧ d.operation = c.operation) st'' :=
    fun hd h'' => wp.bind (sigFreectx_within hO (fun _ e => absurd (hd.symm.trans e) (by simp)) h'')
      fun _ _ h => ⟨h, by simp⟩
  have hsignature : Keeps (env O) (Within S st) (signatureDup c.signature) := by
    unfold signatureDup
    rcases c.signature with _ | sig
    · exact .pure
    · refine .bind bufDup_within fun r => ?_
      rcases r with _ | sig <;> exact .pure
  refine wp.bind hkey fun key st₁ h₁ => wp.bind (bufDup_within st₁ h₁) fun p st₂ h₂ => ?_
  refine wp.bind (bufDup_within st₂ h₂) fun q st₃ h₃ => wp.bind (hsignature st₃ h₃) ?_
  rintro (_ | signature) st₄ h₄
  · exact hfree hnew h₄
  refine wp.bind (evpMdCtxDup_spec h₄) ?_
  rintro (_ | md) st₅ ⟨h₅, hmd⟩
  · exact hfree hnew h₅
  · refine ⟨h₅, fun d e => ?_⟩
    obtain rfl := Option.some.inj e
    exact ⟨⟨hnew, hmd md rfl, rfl⟩, rfl⟩

/-- A context is duplicated. -/
theorem sigDupctx_spec (hV : TokenSigns O V) (h : Within S st st)
    (hs : ∀ s, t.ctx.session = some s → s ∈ S ∧ t.Holds s st) :
    wp (env O) (sigDupctx ctx t.ctx) (fun r st' => Within S st st' ∧ Duplicated S t st' r) st := by
  have hhandle : wp (env O) (sigKeyHandle ctx t.ctx) (fun _ st' => Within S st st') st := by
    unfold sigKeyHandle
    rcases t.ctx.key with _ | key
    · exact h
    · refine Keeps.bind Within.loadObj (fun obj => .bind (Within.objGetHandle hO hH) ?_) st h
      exact fun _ => .pure
  refine wp_ite.2 ⟨fun _ => ⟨h, .failed⟩, fun _ => wp.bind hhandle ?_⟩
  rintro ⟨slotid, handle⟩ st₁ h₁
  refine wp_bind.2 <| wp_bind.2 <| wp_alloc.2 fun ok => wp_ite.2 ⟨fun _ => ?_, fun _ => ⟨h₁, .failed⟩⟩
  refine wp.bind (sigCopy_spec hO hH rfl h₁) ?_
  rintro (_ | new) st₂ ⟨h₂, hnew⟩
  · exact ⟨h₂, .failed⟩
  obtain ⟨hnew, hop⟩ := hnew new rfl
  rcases hsess : t.ctx.session with _ | s
  · exact ⟨h₂, .idle hsess ⟨hnew.session.trans hsess.symm, hnew.fallbackDigest,
      hnew.fallbackOperate⟩ hop⟩
  · obtain ⟨hsS, hholds⟩ := hs s hsess
    have hruns : RunsSig t.begun t.data s st₂ := RunsSig.undisturbed hholds hsS h₂.1
    refine wp.bind (sigSplit_within hO hV h₂ hruns) ?_
    rintro left st₃ ⟨h₃, hleft⟩
    exact ⟨h₃, .moved hsess ⟨hsess.symm, hnew.fallbackDigest, hnew.fallbackOperate⟩ hop hleft⟩

end Dup

end P11Prov
