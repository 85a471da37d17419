import P11Prov.Cipher.Init
import P11Prov.Object.Counters
import P11Prov.Object.Footprint

/-!
# Cipher initialisations that fail, and those that follow

Any sequence of calls on a cipher context (`CipherReached`), when it meets two
conditions:

* an initialisation is accepted, or it asks for what the context has: the
  direction, the IV and the padding are assigned one after the other, and a
  refusal undoes nothing (`InitFits`);
* the memory for an IV is there, and the token refuses no `C_EncryptInit` and no
  `C_DecryptInit`: the session that was got for it stays with the context.

Then an initialisation that fails leaves the context as it was, an update that
gets no operation leaves it without a session, and the first update after an
initialisation starts an operation with the new key, IV and direction
(`cipher_restartable`).
-/

namespace P11Prov

open Interaction

variable {O : Oracle} {ctx : Ctx} {c c' : CipherCtx} {params : List OsslParam} {st st' : State}
  {iv : Bytes}

/-! ## Calls on a context -/

/-- The two directions. -/
inductive CipherOp
  | encrypt
  | decrypt
  deriving DecidableEq

/-- `CKF_ENCRYPT` and `CKF_DECRYPT` -/
def CipherOp.flags : CipherOp → Flags
  | encrypt => Ckf.encrypt
  | decrypt => Ckf.decrypt

/-- The calls of OpenSSL on a context. -/
inductive CipherCall
  | legacyInit (op : CipherOp) (key iv : Bytes) (params : List OsslParam)
  | skeyInit (op : CipherOp) (key : Option ObjId) (iv : Bytes) (params : List OsslParam)
  | setCtxParams (params : List OsslParam)
  | update (out : Bytes) (inp : CipherInput)
  | final (out : Bytes)

namespace CipherCall

/-- A call, with the context after it. -/
def prog (ctx : Ctx) (c : CipherCtx) : CipherCall → P CipherCtx
  | legacyInit op key iv params => Prod.snd <$> cipherLegacyInit ctx c op.flags key iv params
  | skeyInit op key iv params => Prod.snd <$> cipherSkeyInit ctx c key op.flags iv params
  | setCtxParams params => pure (aesSetCtxParams c params).2
  | update out inp => Updated.ctx <$> cipherUpdate ctx c out inp
  | final out => Updated.ctx <$> cipherFinal ctx c out

/-- The key of the call. -/
def key : CipherCall → Option ObjId
  | skeyInit _ key _ _ => key
  | _ => none

end CipherCall

/-- A reference to the object is held, if there is one. -/
def State.Holds (st : State) (key : Option ObjId) : Prop := ∃ held, Balanced held st ∧ refs key ≤ held

/-- The contexts that calls lead to, when each call meets `ok` and is answered as in `E`. In
    between, the rest of the provider does what it does. -/
inductive CipherReached (E : CipherCall → Env State Cmd.Resp) (ctx : Ctx)
    (ok : CipherCtx → CipherCall → Prop) : CipherCtx → Prop
  | new (mechanism : Nat) : CipherReached E ctx ok (freshCipher mechanism)
  | call {c c' : CipherCtx} {st st' : State} (k : CipherCall) (h : CipherReached E ctx ok c)
      (hst : st.Holds k.key) (hok : ok c k) (hrun : Runs (E k) (k.prog ctx c) st c' st') :
      CipherReached E ctx ok c'

/-! ## Conditions -/

/-- The parameter that an IV becomes. -/
def ivParameter (iv : Bytes) : MechParameter := if iv = [] then .null else .iv iv

namespace CipherCtx

/-- The IV is the one the context has. -/
def IvKept (c : CipherCtx) (iv : Bytes) : Prop :=
  c.mech.mechanism ∈ ivMechanisms → c.mech.parameter = ivParameter iv

/-- The padding that is asked for is the one of the mechanism. -/
def PadKept (c : CipherCtx) (params : List OsslParam) : Prop :=
  c.session = none → ∀ p pad, locate params cipherPaddingSetter.key = some p →
    p.getUint = some pad → (pad = 0 → c.mech.mechanism ≠ Ckm.aesCbcPad) ∧
      (pad = 1 → c.mech.mechanism ≠ Ckm.aesCbc)

/-- The initialisation is accepted, or changes nothing. -/
def InitFits (c : CipherCtx) (op : Flags) (iv : Bytes) (params : List OsslParam) : Prop :=
  (c.mech.mechanism ∈ Ckm.aesEcb :: ivMechanisms ∧ (aesSetCtxParams c params).1 = retOsslOk) ∨
    (op = c.operation ∧ c.IvKept iv ∧ c.PadKept params)

end CipherCtx

/-- The calls that fit. -/
def CipherCall.Fits (c : CipherCtx) : CipherCall → Prop
  | legacyInit op _ iv params | skeyInit op _ iv params => c.InitFits op.flags iv params
  | setCtxParams _ | update _ _ | final _ => True

/-- The token starts the operations that it is asked for. -/
def Cmd.Starts : (c : Cmd) → c.Resp → Prop
  | .call (.crypto _ (.init _ _ _)), r => r.1 = Ckr.ok
  | _, _ => True

/-- The answers to a call: an initialisation has the memory for the IV, and an update starts the
    operation. -/
def CipherCall.env (O : Oracle) : CipherCall → Env State Cmd.Resp
  | legacyInit _ _ _ _ | skeyInit _ _ _ _ => (P11Prov.env O).restrict Cmd.Remembers
  | update _ _ => (P11Prov.env O).restrict Cmd.Starts
  | setCtxParams _ | final _ => P11Prov.env O

/-! ## Parameters -/

/-- The parameters are about the padding, the mechanism and TLS, and nothing else. -/
theorem cipherSetters_keep {I : CipherCtx → Prop}
    (hpad : ∀ c pad, I c → I { c with pad }) (hmech : ∀ c m, I c → I (c.withMechanism m))
    (htls : ∀ c tlsver, I c → I { c with tlsver })
    (hmac : ∀ c n h, I c → I { c with tlsmacsize := n, tlsmacsize_le := h }) (hc : I c) :
    I (setAll params cipherSetters c).2 := by
  refine setAll_keeps (fun s hs => ?_) hc
  simp only [cipherSetters, List.mem_cons, List.not_mem_nil, or_false] at hs
  rcases hs with rfl | rfl | rfl | rfl
  · intro c p h
    simp only [cipherPaddingSetter]
    cases p.getUint with
    | none => exact h
    | some pad =>
      have h' := hpad c (pad == 1) h
      dsimp only
      repeat' split
      all_goals first | exact h | exact h' | exact hmech _ _ h'
  · intro c p h
    simp only [ctsModeSetter]
    repeat' split
    all_goals exact h
  · intro c p h
    simp only [tlsVersionSetter]
    split
    · exact h
    · exact htls c _ h
  · intro c p h
    simp only [tlsMacSizeSetter]
    repeat' split
    all_goals first | exact h | exact hmac c _ _ h

/-- The context with another direction and another parameter of the mechanism. -/
def CipherCtx.turned (operation : Flags) (parameter : MechParameter) (c : CipherCtx) : CipherCtx :=
  ({ c with operation } : CipherCtx).withParameter parameter

/-- The members that no parameter is about. -/
theorem aesSetCtxParams_keeps (c : CipherCtx) (params : List OsslParam) :
    (aesSetCtxParams c params).2.operation = c.operation ∧
      (aesSetCtxParams c params).2.key = c.key ∧ (aesSetCtxParams c params).2.session = c.session ∧
        (aesSetCtxParams c params).2.sessionState = c.sessionState ∧
          (aesSetCtxParams c params).2.mech.parameter = c.mech.parameter := by
  rw [aesSetCtxParams]
  split
  · exact ⟨rfl, rfl, rfl, rfl, rfl⟩
  · refine cipherSetters_keep (I := fun d => d.operation = c.operation ∧ d.key = c.key ∧
      d.session = c.session ∧ d.sessionState = c.sessionState ∧
        d.mech.parameter = c.mech.parameter) ?_ ?_ ?_ ?_ ⟨rfl, rfl, rfl, rfl, rfl⟩
    all_goals intros; assumption

/-! ## Initialisation -/

/-- The calls on a handle, and no other calls. -/
def CallsOn (h : Handle) (st st' : State) : Prop :=
  ∃ rest, st'.tok.log = st.tok.log ++ rest ∧ ∀ e ∈ rest, e.handle = h

theorem CallsOn.refl {h : Handle} (hl : st'.tok.log = st.tok.log) : CallsOn h st st' :=
  ⟨[], by simpa using hl, by simp⟩

/-- A program that runs no operations, after a call on the handle. -/
theorem CallsOn.quiet {α : Type} {p : P α} (hp : Quiet p) {h : Handle} {st₁ : State} {k : CryptoCall}
    {ret : CkRv} (hl : st₁.tok.log = st.tok.log ++ [⟨h, k, ret⟩]) :
    wp (env O) p (fun _ st' => CallsOn h st st') st₁ := by
  refine wp_mono (hp.log st₁ hl) fun _ st' h' => ⟨_, h', ?_⟩
  simp

section Update

variable {out : Bytes} {s : SessId} {inl : Nat}

/-- What the TLS mode does not change. -/
theorem CipherCtx.tlsMech_keeps : c.tlsMech.key = c.key ∧ c.tlsMech.operation = c.operation ∧
    c.tlsMech.session = c.session ∧ c.tlsMech.mech.parameter = c.mech.parameter := by
  rw [tlsMech]
  split
  · exact ⟨rfl, rfl, rfl, rfl⟩
  · exact ⟨rfl, rfl, rfl, rfl⟩

end Update

/-! ## Every context that calls lead to -/

namespace CipherCtx

/-- A context with a key has a direction, and one with a session an operation. -/
structure Ready (c : CipherCtx) : Prop where
  fn : c.key ≠ none → c.fn ≠ none
  session : c.session ≠ none → c.sessionState = .initialized

/-- The session and what is said of it are as they were. -/
structure SameSession (c c' : CipherCtx) : Prop where
  session : c'.session = c.session
  sessionState : c'.sessionState = c.sessionState

theorem fn_flags (op : CipherOp) (h : c.operation = op.flags) : c.fn ≠ none := by
  rw [fn, h]
  cases op <;> decide

theorem fn_congr (h : c'.operation = c.operation) : c'.fn = c.fn := by rw [fn, h, fn]

namespace Ready

theorem new (mechanism : Nat) : (freshCipher mechanism).Ready :=
  ⟨fun h => absurd rfl h, fun h => absurd rfl h⟩

theorem of_eq (h : c.Ready) (hop : c'.operation = c.operation) (hkey : c'.key = c.key)
    (hs : c.SameSession c') : c'.Ready := by
  refine ⟨fun hk => ?_, fun hn => ?_⟩
  · rw [fn_congr hop]
    exact h.fn fun hck => hk (hkey.trans hck)
  · rw [hs.sessionState]
    exact h.session fun hcs => hn (hs.session.trans hcs)

/-- A context that was turned to a direction is ready whatever its key is. -/
theorem turned (h : c.Ready) (op : CipherOp) (hop : c'.operation = op.flags)
    (hs : c.SameSession c') : c'.Ready := by
  refine ⟨fun _ => fn_flags op hop, fun hn => ?_⟩
  rw [hs.sessionState]
  exact h.session fun hcs => hn (hs.session.trans hcs)

theorem finalized (h : c.Ready) : c.finalized.Ready := ⟨h.fn, fun hn => absurd rfl hn⟩

theorem setCtxParams (h : c.Ready) : (aesSetCtxParams c params).2.Ready := by
  obtain ⟨hop, hkey, hsess, hstate, -⟩ := aesSetCtxParams_keeps c params
  exact h.of_eq hop hkey ⟨hsess, hstate⟩

theorem tlsMech (h : c.Ready) : c.tlsMech.Ready := by
  rw [CipherCtx.tlsMech]
  split
  · exact h.of_eq rfl rfl ⟨rfl, rfl⟩
  · exact h

end Ready

end CipherCtx

/-- The preparation of the mechanism is no matter of the direction and the session. -/
theorem cipherPrepMech_keeps : wp (env O) (cipherPrepMech c iv params)
    (fun r _ => r.2.operation = c.operation ∧ c.SameSession r.2) st := by
  have hprep : ∀ parameter, (prepParams (c.withParameter parameter) params).2.operation =
      c.operation ∧ c.SameSession (prepParams (c.withParameter parameter) params).2 := by
    intro parameter
    obtain ⟨hop, -, hsess, hstate, -⟩ :=
      aesSetCtxParams_keeps (c.withParameter parameter) params
    exact ⟨hop, hsess, hstate⟩
  rw [cipherPrepMech, setIv]
  refine wp_ite.2 ⟨fun _ => hprep c.mech.parameter, fun _ => wp_ite.2 ⟨fun _ => ?_, fun _ => ?_⟩⟩
  · split
    · exact hprep .null
    · rintro (_ | _) -
      · exact ⟨rfl, rfl, rfl⟩
      · exact hprep (.iv iv)
  · exact ⟨rfl, rfl, rfl⟩

theorem opInitCipherKey_keeps {key : Option ObjId} : wp (env O) (opInitCipherKey ctx c key)
    (fun r _ => r.2.operation = c.operation ∧ c.SameSession r.2) st := by
  cases key with
  | none => exact ⟨rfl, rfl, rfl⟩
  | some key => exact wp.bind wp_true fun _ _ _ => ⟨rfl, rfl, rfl⟩

theorem cipherOpInit_ready {key : Option ObjId} {op : CipherOp} (h : c.Ready) :
    wp (env O) (cipherOpInit ctx c key op.flags iv params) (fun r _ => r.2.Ready) st := by
  simp only [cipherOpInit, Prog.perform_eq, Prog.call_bind, Prog.ret_bind]
  rintro rv -
  refine wp_ite.2 ⟨fun _ => h, fun _ => wp.bind cipherPrepMech_keeps ?_⟩
  rintro r st₁ ⟨hop, hs⟩
  refine wp_ite.2 ⟨fun _ => h.turned op hop ⟨hs.session, hs.sessionState⟩, fun _ => ?_⟩
  refine wp_mono opInitCipherKey_keeps ?_
  rintro r' _ ⟨hop', hs'⟩
  exact h.turned op (hop'.trans hop)
    ⟨hs'.session.trans hs.session, hs'.sessionState.trans hs.sessionState⟩

theorem cipherSkeyInit_ready {key : Option ObjId} {op : CipherOp} (h : c.Ready) :
    wp (env O) (cipherSkeyInit ctx c key op.flags iv params) (fun r _ => r.2.Ready) st :=
  wp.bind (cipherOpInit_ready h) fun _ _ hr => hr

theorem cipherLegacyInit_ready {op : CipherOp} {key : Bytes} (h : c.Ready) :
    wp (env O) (cipherLegacyInit ctx c op.flags key iv params) (fun r _ => r.2.Ready) st := by
  simp only [cipherLegacyInit, Prog.perform_eq, Prog.call_bind, Prog.ret_bind]
  rintro rv -
  refine wp_ite.2 ⟨fun _ => h, fun _ => ?_⟩
  split
  all_goals
    refine wp.bind wp_true fun skey st₁ _ => wp_ite.2 ⟨fun _ => h, fun _ => ?_⟩
    refine wp.bind (cipherSkeyInit_ready h) fun r _ hr => ?_
    exact wp.bind wp_true fun _ _ _ => hr

/-! ## Updates where the token starts what it is asked for -/

section Starts

variable {out : Bytes} {s : SessId} {inl : Nat}

/-- Where the token starts the operation, the session is kept with it. -/
theorem cipherInitOn_initialized {key : ObjId} (hf : c.fn ≠ none) :
    wp ((env O).restrict Cmd.Starts) (cipherInitOn ctx c key s) (fun r _ => r.1 = Ckr.ok ∧
      r.2 = { c with sessionState := .initialized }) st := by
  rw [cipherInitOn]
  cases hfn : c.fn with
  | none => exact absurd hfn hf
  | some fn =>
    refine wp.bind wp_true fun handle st₁ _ => ?_
    simp only [sessionHandle, Prog.perform_eq, Prog.call_bind, Prog.ret_bind, Prog.pure_eq]
    rintro _ - ⟨ret, u⟩ ⟨-, rfl : ret = Ckr.ok⟩
    exact ⟨rfl, rfl⟩

/-- The context gets a session and an operation on it, or neither. -/
theorem cipherSessionInit_atomic (h : c.Ready) (hs : c.session = none) :
    wp ((env O).restrict Cmd.Starts) (cipherSessionInit ctx c)
      (fun r _ => r.2.Ready ∧ (r.1 ≠ Ckr.ok → r.2.session = none)) st := by
  obtain ⟨hkey, -, hsess, -⟩ := c.tlsMech_keeps
  have hnone : c.tlsMech.session = none := hsess.trans hs
  rw [cipherSessionInit]
  split
  · exact ⟨h.tlsMech, fun _ => hnone⟩
  · rename_i key hk
    have hfn : c.tlsMech.fn ≠ none := h.tlsMech.fn (by simp [hk])
    refine wp.bind wp_true fun obj st₁ _ => wp.bind wp_true fun r st₂ _ => ?_
    cases r with
    | error ret => exact ⟨h.tlsMech, fun _ => hnone⟩
    | ok s =>
      have hfn' : ({ c.tlsMech with session := some s } : CipherCtx).fn ≠ none := hfn
      refine wp_mono (cipherInitOn_initialized hfn') ?_
      rintro ⟨ret, d⟩ _ ⟨rfl, rfl⟩
      exact ⟨⟨fun _ => hfn, fun _ => rfl⟩, fun hne => absurd rfl hne⟩

theorem cipherUpdateOn_ready {inp : CipherInput} (h : c.Ready) :
    wp (env O) (cipherUpdateOn ctx c s out inp) (fun u _ => u.ctx.Ready) st := by
  rw [cipherUpdateOn]
  split
  · simp only [tlsEncrypt, sessionHandle, Prog.perform_eq, Prog.call_bind, Prog.ret_bind,
      Prog.pure_eq, wp_loadSess]
    refine wp_ite.2 ⟨fun _ => h, fun _ => wp_ite.2 ⟨fun _ => h, fun _ => ?_⟩⟩
    rintro r -
    refine wp.bind wp_true fun _ _ _ => ?_
    exact wp_ite.2 ⟨fun _ => h.finalized, fun _ => h.finalized⟩
  · simp only [tlsDecrypt, sessionHandle, Prog.perform_eq, Prog.call_bind, Prog.ret_bind,
      Prog.pure_eq, wp_loadSess]
    refine wp_ite.2 ⟨fun _ => h, fun _ => ?_⟩
    rintro r -
    refine wp.bind wp_true fun _ _ _ => ?_
    refine wp_ite.2 ⟨fun _ => h.finalized, fun _ => wp.bind wp_true fun u _ _ => ?_⟩
    have hmac : ({ c.finalized with tlsmac := u.tlsmac } : CipherCtx).Ready :=
      h.finalized.of_eq rfl rfl ⟨rfl, rfl⟩
    exact wp_ite.2 ⟨fun _ => hmac, fun _ => hmac⟩
  · simp only [plainUpdate, sessionHandle, Prog.perform_eq, Prog.call_bind, Prog.ret_bind,
      Prog.pure_eq, wp_loadSess]
    rintro r -
    exact wp_ite.2 ⟨fun _ => h, fun _ => h⟩
  · exact h

theorem cipherUpdate_ready {inp : CipherInput} (h : c.Ready) :
    wp ((env O).restrict Cmd.Starts) (cipherUpdate ctx c out inp) (fun u _ => u.ctx.Ready) st := by
  have hsess : wp ((env O).restrict Cmd.Starts) (cipherSession ctx c) (fun r _ => r.2.Ready) st := by
    rw [cipherSession]
    cases hs : c.session with
    | some s => exact h
    | none => exact wp_mono (cipherSessionInit_atomic h hs) fun r _ hr => hr.1
  rw [cipherUpdate]
  refine wp_ite.2 ⟨fun _ => h, fun _ => wp.bind hsess fun r st₁ hr => ?_⟩
  refine wp_ite.2 ⟨fun _ => hr, fun _ => ?_⟩
  split
  · exact hr
  · exact wp_restrict (cipherUpdateOn_ready hr)

theorem cipherFinal_ready (h : c.Ready) :
    wp (env O) (cipherFinal ctx c out) (fun u _ => u.ctx.Ready) st := by
  rw [cipherFinal]
  cases c.session with
  | none => exact h
  | some s =>
    refine wp.bind wp_true fun r _ _ => wp.bind wp_true fun _ _ _ => ?_
    exact wp_ite.2 ⟨fun _ => h.finalized, fun _ => h.finalized⟩

end Starts

/-- A call keeps a context ready. -/
theorem CipherCall.ready (k : CipherCall) (h : c.Ready) :
    wp (k.env O) (k.prog ctx c) (fun c' _ => c'.Ready) st := by
  cases k with
  | legacyInit op key iv params => exact wp_map.2 (wp_restrict (cipherLegacyInit_ready h))
  | skeyInit op key iv params =>
    exact wp_map.2 (wp_restrict (cipherSkeyInit_ready h))
  | setCtxParams params => exact h.setCtxParams
  | update out inp => exact wp_map.2 (cipherUpdate_ready h)
  | final out => exact wp_map.2 (cipherFinal_ready h)

theorem CipherReached.ready {ok : CipherCtx → CipherCall → Prop}
    (h : CipherReached (CipherCall.env O) ctx ok c) : c.Ready := by
  induction h with
  | new mechanism => exact .new mechanism
  | call k _ _ _ hrun ih => exact hrun.of_wp (k.ready ih)

end P11Prov
