import P11Prov.Cipher.Unpad
import P11Prov.Object.Footprint
import P11Prov.Session.Codes
import P11Prov.Run

/-!
# A record is encrypted and decrypted

In TLS mode, an update that encrypts and an update that decrypts are inverse to
each other, if the encryption of the token is (`tls_record_round_trip`): what
the latter returns is the payload, its MAC is the one that was encrypted. The
updates belong to two contexts, which may be those of two peers.

What the token is relied upon for is `TokenCrypts`, a function for what a call
on a session that runs AES in CBC mode returns. A record goes through the
padding of the one side and `tlsunpad` of the other, so the proof is that the
padding is good (`unpadded_padRecord`).
-/

namespace P11Prov

open Interaction

/-! ## The token -/

/-- The token encrypts or decrypts by `F`, in CBC mode and without a padding of its own. -/
def TokenCrypts (O : Oracle) (fn : Fn) (F : Bytes → Bytes) : Prop :=
  ∀ st h data size r op, st.tok.op h = some op → op.fn = fn → op.mech.mechanism = Ckm.aesCbc →
    data.length % aesBlock = 0 → O st (.crypto h (.crypt fn data size)) r → r.1 = Ckr.ok →
      r.2 = { written := F data, len := data.length }

/-- Memory and random bytes are to be had, and the token encrypts and decrypts. -/
def Cmd.Supplied : (c : Cmd) → c.Resp → Prop
  | .mem .alloc, r => r = true
  | .call (.randBytes _), r => r.isSome
  | .call (.crypto _ (.crypt _ _ _)), r => r.1 = Ckr.ok
  | _, _ => True

/-- The environment under an oracle, where nothing is refused once there is a session. -/
abbrev supplied (O : Oracle) : Env State Cmd.Resp := (env O).restrict Cmd.Supplied

/-! ## Padding -/

/-- The padding of a record, as the encryption adds it. -/
def padRecord (data : Bytes) : Bytes :=
  data ++ .replicate (aesBlock - data.length % aesBlock)
    (.ofNat (aesBlock - data.length % aesBlock - 1))

section Padding

variable {data : Bytes}

theorem length_padRecord :
    (padRecord data).length = data.length + (aesBlock - data.length % aesBlock) := by
  rw [padRecord, List.length_append, List.length_replicate]

theorem length_padRecord_mod (data : Bytes) : (padRecord data).length % aesBlock = 0 := by
  have hlt : data.length % aesBlock < aesBlock := Nat.mod_lt _ (by decide)
  rw [length_padRecord, ← Nat.add_sub_assoc (Nat.le_of_lt hlt)]
  have hdiv := Nat.div_add_mod data.length aesBlock
  have heq : data.length + aesBlock - data.length % aesBlock =
      aesBlock * (data.length / aesBlock + 1) := by
    rw [Nat.mul_add]
    omega
  rw [heq]
  exact Nat.mul_mod_right ..

/-- The padding is what the decryption takes off: in front of it is the MAC, in front of that the
    payload. -/
theorem unpadded_padRecord {iv payload mac : Bytes} (randmac : Vector UInt8 evpMaxMdSize) :
    unpadded mac.length (lastByte ((padRecord (iv ++ payload ++ mac)).drop iv.length))
        ((padRecord (iv ++ payload ++ mac)).drop iv.length) randmac =
      { rv := Ckr.ok, outlen := .ofNat 64 payload.length
        tlsmac := if 0 < mac.length then some mac else none } := by
  obtain ⟨n, hn, hlt⟩ : ∃ n, aesBlock - (iv ++ payload ++ mac).length % aesBlock = n + 1 ∧
      n < aesBlock := by
    have hlt : (iv ++ payload ++ mac).length % aesBlock < aesBlock := Nat.mod_lt _ (by decide)
    refine ⟨aesBlock - (iv ++ payload ++ mac).length % aesBlock - 1, by omega, ?_⟩
    have hpos : 0 < aesBlock := by decide
    omega
  have hbody : (padRecord (iv ++ payload ++ mac)).drop iv.length =
      payload ++ mac ++ .replicate (n + 1) (.ofNat n) := by
    rw [padRecord, hn, Nat.add_sub_cancel, List.append_assoc, List.append_assoc,
      List.drop_left, List.append_assoc]
  have hlast : lastByte (payload ++ mac ++ .replicate (n + 1) (.ofNat n)) = n := by
    have hbyte : aesBlock < 2 ^ 8 := by decide
    rw [lastByte, List.replicate_succ', ← List.append_assoc, List.getLastD_concat,
      UInt8.toNat_ofNat', Nat.mod_eq_of_lt (Nat.lt_trans hlt hbyte)]
  have hlen : (payload ++ mac ++ .replicate (n + 1) (.ofNat n : UInt8)).length =
      payload.length + mac.length + (n + 1) := by
    simp only [List.length_append, List.length_replicate]
  have hgood : mac.length + 1 + n ≤ payload.length + mac.length + (n + 1) := by omega
  have hk : payload.length + mac.length + (n + 1) - mac.length - (n + 1) = payload.length := by
    omega
  rw [hbody, hlast]
  simp only [unpadded, hlen, hgood, if_true, or_true, hk]
  rw [List.append_assoc, List.drop_left, List.take_left]

end Padding

/-! ## Sessions -/

/-- The session runs AES in CBC mode. -/
def RunsCbc (st : State) (fn : Fn) (s : SessId) : Prop :=
  ∃ op, st.tok.op (st.mem.sess s).session = some op ∧ op.fn = fn ∧ op.mech.mechanism = Ckm.aesCbc

/-- A context that is in TLS mode and initialised for one direction. A session that it has runs
    the operation. -/
structure TlsContext (v : TlsVersion) (fn : Fn) (c : CipherCtx) (st : State) : Prop where
  tlsver : c.tlsver = some v
  fn_eq : c.fn = some fn
  pad : c.pad = true
  mech : c.mech.mechanism = Ckm.aesCbc ∨ c.mech.mechanism = Ckm.aesCbcPad
  running : ∀ s, c.session = some s → RunsCbc st fn s

/-- A session for the operation of the context can be had. -/
def SessionReady (E : Env State Cmd.Resp) (ctx : Ctx) (c : CipherCtx) (st : State) : Prop :=
  wp E (cipherSession ctx c) (fun r _ => r.1 = Ckr.ok) st

section Sessions

variable {O : Oracle} {ctx : Ctx} {v : TlsVersion} {fn : Fn} {c : CipherCtx} {st : State}
  {key : ObjId}

theorem CipherCtx.tlsMech_mech (h : TlsContext v fn c st) :
    c.tlsMech.mech.mechanism = Ckm.aesCbc := by
  rcases h.mech with hm | hm
  · simp [tlsMech, hm]
  · simp [tlsMech, hm, h.tlsver]

/-- An operation that was started is the one of the context. -/
theorem cipherInitOn_spec {s : SessId} (hfn : c.fn = some fn)
    (hm : c.mech.mechanism = Ckm.aesCbc) :
    wp (env O) (cipherInitOn ctx c key s) (fun r st' => r.1 = Ckr.ok →
      r.2 = { c with sessionState := .initialized } ∧ RunsCbc st' fn s) st := by
  rw [cipherInitOn, hfn]
  refine wp.bind wp_true fun handle st₁ _ => ?_
  simp only [sessionHandle, Prog.perform_eq, Prog.call_bind, Prog.ret_bind, Prog.pure_eq,
    wp_loadSess, wp_callExt, wp_ret]
  rintro ⟨ret, out⟩ _ hok
  have hok : ret = Ckr.ok := hok
  simp only [hok, if_true, true_and]
  refine ⟨{ fn, mech := c.mech, key := handle }, ?_, rfl, hm⟩
  simp [Token.after, CryptoCall.opAfter]

/-- The session of a context in TLS mode runs AES in CBC mode, whatever padding was asked for. -/
theorem cipherSession_spec (h : TlsContext v fn c st) :
    wp (env O) (cipherSession ctx c) (fun r st' => r.1 = Ckr.ok →
      r.2.tlsver = some v ∧ r.2.fn = some fn ∧ r.2.tlsmacsize = c.tlsmacsize ∧
        ∃ s, r.2.session = some s ∧ RunsCbc st' fn s) st := by
  rw [cipherSession]
  cases hs : c.session with
  | some s => exact fun _ => ⟨h.tlsver, h.fn_eq, rfl, s, hs, h.running s hs⟩
  | none =>
    have hsame : c.tlsMech.tlsver = c.tlsver ∧ c.tlsMech.fn = c.fn ∧
        c.tlsMech.tlsmacsize = c.tlsmacsize := by
      rw [CipherCtx.tlsMech]
      split <;> exact ⟨rfl, rfl, rfl⟩
    have hmech := CipherCtx.tlsMech_mech h
    rw [cipherSessionInit]
    generalize c.tlsMech = d at hsame hmech
    dsimp only
    cases d.key with
    | none => exact fun hok => absurd hok (by decide : Ckr.generalError ≠ Ckr.ok)
    | some key =>
      simp only [Prog.perform_eq, Prog.call_bind, Prog.ret_bind, wp_loadObj]
      refine wp.bind (trySessionRef_coded.wp wp_true) fun r st₁ hr => ?_
      cases r with
      | error ret => exact fun hok => absurd hok (hr.1 ret rfl)
      | ok s =>
        have hfn : CipherCtx.fn { d with session := some s } = some fn := hsame.2.1.trans h.fn_eq
        refine wp_mono (cipherInitOn_spec hfn hmech) fun r st₂ hr hok => ?_
        obtain ⟨hd, hrun⟩ := hr hok
        rw [hd]
        exact ⟨hsame.1.trans h.tlsver, hfn, hsame.2.2, s, rfl, hrun⟩

end Sessions

/-! ## Updates -/

section Updates

variable {O : Oracle} {ctx : Ctx} {v : TlsVersion} {fn : Fn} {c : CipherCtx} {st : State}
  {s : SessId} {out : Bytes} {inl : Nat} {E D : Bytes → Bytes}

theorem take_fill (k : Nat) (b : UInt8) (h : inl ≤ out.length) :
    (fill out inl k b).take (inl + k) = out.take inl ++ .replicate k b := by
  have hlen : (out.take inl ++ List.replicate k b).length = inl + k := by
    rw [List.length_append, List.length_take, List.length_replicate, Nat.min_eq_left h]
  rw [fill, ← hlen, List.take_left]

theorem length_fill {k : Nat} {b : UInt8} (h : inl + k ≤ out.length) :
    (fill out inl k b).length = out.length := by
  simp only [fill, List.length_append, List.length_take, List.length_replicate, List.length_drop]
  omega

/-- The record is the encryption of the padded input. -/
def Encrypted (E : Bytes → Bytes) (data out : Bytes) (r : Updated) : Prop :=
  r.ret = retOsslOk ∧ r.outl = some (.ofNat 64 (padRecord data).length) ∧
    r.out.length = out.length ∧ r.out.take (padRecord data).length = E (padRecord data)

theorem tlsEncrypt_spec (hO : TokenCrypts O .encrypt E)
    (hE : ∀ x, x.length % aesBlock = 0 → (E x).length = x.length) (hinl : inl ≤ out.length)
    (hroom : (padRecord (out.take inl)).length ≤ out.length) (hrun : RunsCbc st .encrypt s) :
    wp (supplied O) (tlsEncrypt ctx c s out inl)
      (fun r _ => Encrypted E (out.take inl) out r) st := by
  obtain ⟨op, hop, hfn, hmech⟩ := hrun
  have hlen : (out.take inl).length = inl := by
    rw [List.length_take, Nat.min_eq_left hinl]
  have hfill := take_fill (aesBlock - inl % aesBlock) (.ofNat (aesBlock - inl % aesBlock - 1)) hinl
  have hpadlen : (padRecord (out.take inl)).length = inl + (aesBlock - inl % aesBlock) := by
    rw [length_padRecord, hlen]
  have hpad : padRecord (out.take inl) = out.take inl ++
      .replicate (aesBlock - inl % aesBlock) (.ofNat (aesBlock - inl % aesBlock - 1)) := by
    rw [padRecord, hlen]
  have hmod := length_padRecord_mod (out.take inl)
  simp only [tlsEncrypt, sessionHandle, Prog.perform_eq, Prog.call_bind, Prog.ret_bind,
    Prog.pure_eq, Encrypted]
  rw [hfill, ← hpad, ← hpadlen]
  generalize padRecord (out.take inl) = rec at *
  rintro _ ⟨rfl, -⟩
  dsimp only
  rw [if_neg (Nat.not_lt.2 hroom), if_neg (by rwa [not_not])]
  rintro r ⟨hr, hok⟩
  have hok : r.1 = Ckr.ok := hok
  have hout := hO st _ _ _ r op hop hfn hmech hmod hr hok
  refine wp.bind wp_true fun _ st₁ _ => ?_
  rw [if_neg (show ¬r.1 ≠ Ckr.ok by rwa [not_not]), hout]
  have hEl : (E rec).length = rec.length := hE rec hmod
  have hbuf : (fill out inl (aesBlock - inl % aesBlock)
      (.ofNat (aesBlock - inl % aesBlock - 1))).length = out.length :=
    length_fill (by omega)
  refine ⟨rfl, rfl, (length_overwrite (by rw [hEl, hbuf]; omega)).trans hbuf, ?_⟩
  rw [overwrite, ← hEl, List.take_left]

/-- Without a MAC, neither memory nor random bytes count. -/
theorem tlsunpad_zero {m : CkUlong} {outlen : CkUlong} {alloc : Bool}
    {rand rand' : Option (Vector UInt8 evpMaxMdSize)} :
    tlsunpad v 0 out m outlen alloc rand = tlsunpad v 0 out m outlen true rand' := by
  have h0 : ¬(0 : CkUlong) < BitVec.ofNat 64 0 := by decide
  simp only [tlsunpad, tlsunpadBody, h0, if_false]

/-- What a record asks for is there. -/
theorem tlsunpadRecord_spec {macsize : Nat} (hs : macsize ≤ 64) {m : Nat} (hm : m ≤ out.length)
    (hlt : out.length < 2 ^ 63) (hiv : v.ivLength + macsize + 1 ≤ m) {outlen : CkUlong} :
    wp (supplied O) (tlsunpadRecord v macsize out (.ofNat 64 m) outlen)
      (fun u _ => ∃ randmac, u = unpadded macsize (lastByte ((out.take m).drop v.ivLength))
        ((out.take m).drop v.ivLength) randmac) st := by
  have hval (rand : Vector UInt8 evpMaxMdSize) :
      (tlsunpad v macsize out (.ofNat 64 m) outlen true (some rand)).val =
        unpadded macsize (lastByte ((out.take m).drop v.ivLength)) ((out.take m).drop v.ivLength)
          rand := tlsunpad_val hs hm hlt hiv
  simp only [tlsunpadRecord, Prog.perform_eq, Prog.call_bind, Prog.ret_bind, Prog.pure_eq]
  rcases Nat.eq_zero_or_pos macsize with rfl | hpos
  · have hno : unpadsMac v 0 (.ofNat 64 m) = false := by
      simp [unpadsMac]
    rw [hno]
    exact ⟨.replicate 64 0, by rw [← hval, tlsunpad_zero]⟩
  · have holen : (if v ≠ .tls10 then BitVec.ofNat 64 m - .ofNat 64 aesBlock else .ofNat 64 m) =
        BitVec.ofNat 64 (m - v.ivLength) := by
      cases v with
      | tls10 => rfl
      | tls11 | tls12 =>
        rw [if_pos (by decide)]
        exact ofNat_sub_ofNat (show aesBlock ≤ m by simp only [TlsVersion.ivLength] at hiv; omega)
          (by omega)
    have hyes : unpadsMac v macsize (.ofNat 64 m) = true := by
      have h1 : ¬BitVec.ofNat 64 (m - v.ivLength) < BitVec.ofNat 64 macsize + 1 := by
        rw [show (1 : CkUlong) = BitVec.ofNat 64 1 from rfl, ← BitVec.ofNat_add,
          lt_ofNat (by omega) (by omega)]
        omega
      have h2 : ¬BitVec.ofNat 64 (m - v.ivLength) < BitVec.ofNat 64 macsize := by
        rw [lt_ofNat (by omega) (by omega)]
        omega
      rw [unpadsMac, holen]
      simp only [hpos, h1, h2, decide_true, decide_false, Bool.not_false, Bool.and_true]
    rw [hyes]
    rintro alloc ⟨-, halloc⟩
    obtain rfl : alloc = true := halloc
    rintro randmac ⟨-, hrand⟩
    obtain ⟨rand, rfl⟩ := Option.isSome_iff_exists.1 hrand
    exact ⟨rand, hval rand⟩

/-- What the decryption of a record leaves. -/
def Decrypted (v : TlsVersion) (payload mac : Bytes) (r : Updated) : Prop :=
  r.ret = retOsslOk ∧ r.outl = some (.ofNat 64 payload.length) ∧
    (r.out.drop v.ivLength).take payload.length = payload ∧
      r.ctx.tlsmac = if 0 < mac.length then some mac else none

theorem tlsDecrypt_spec (hO : TokenCrypts O .decrypt D) {iv payload mac : Bytes}
    (hD : D (out.take inl) = padRecord (iv ++ payload ++ mac))
    (hlen : (padRecord (iv ++ payload ++ mac)).length = inl)
    (hiv : iv.length = v.ivLength) (hmac : mac.length = c.tlsmacsize) (hinl : inl ≤ out.length)
    (hlt : out.length < 2 ^ 63) (hrun : RunsCbc st .decrypt s) :
    wp (supplied O) (tlsDecrypt ctx c v s out inl) (fun r _ => Decrypted v payload mac r) st := by
  obtain ⟨op, hop, hfn, hmech⟩ := hrun
  have hmod : inl % aesBlock = 0 := hlen ▸ length_padRecord_mod _
  have htake : (out.take inl).length = inl := by
    rw [List.length_take, Nat.min_eq_left hinl]
  simp only [tlsDecrypt, sessionHandle, Prog.perform_eq, Prog.call_bind, Prog.ret_bind,
    Prog.pure_eq]
  rintro _ ⟨rfl, -⟩
  dsimp only
  rw [if_neg (show ¬inl % aesBlock ≠ 0 by rwa [not_not])]
  rintro r ⟨hr, hok⟩
  have hok : r.1 = Ckr.ok := hok
  have hout := hO st _ _ _ r op hop hfn hmech (by rwa [htake]) hr hok
  refine wp.bind wp_true fun _ st₁ _ => ?_
  rw [if_neg (show ¬r.1 ≠ Ckr.ok by rwa [not_not]), hout, hD]
  dsimp only
  -- the buffer starts with the padded record
  have hbuf : (overwrite out (padRecord (iv ++ payload ++ mac))).length = out.length :=
    length_overwrite (by omega)
  have hrec : (overwrite out (padRecord (iv ++ payload ++ mac))).take inl =
      padRecord (iv ++ payload ++ mac) := by
    rw [overwrite, ← hlen, List.take_left]
  have hpad : v.ivLength + c.tlsmacsize + 1 ≤ inl := by
    rw [← hlen, length_padRecord, ← hiv, ← hmac, List.length_append, List.length_append]
    have hmod' : (iv ++ payload ++ mac).length % aesBlock < aesBlock := Nat.mod_lt _ (by decide)
    rw [List.length_append, List.length_append] at hmod'
    omega
  refine wp.bind (tlsunpadRecord_spec c.tlsmacsize_le (by omega) (by omega) hpad) fun u st₂ hu => ?_
  obtain ⟨randmac, rfl⟩ := hu
  rw [hrec, ← hiv, ← hmac, unpadded_padRecord]
  refine ⟨rfl, rfl, ?_, rfl⟩
  simp only [← hiv, overwrite, padRecord, List.append_assoc, List.drop_left, List.take_left]

/-- An update in TLS mode, by what follows once it has a session. -/
theorem cipherUpdate_spec {Q : Updated → State → Prop} (h : TlsContext v fn c st)
    (hready : SessionReady (supplied O) ctx c st) (hinl : inl ≤ out.length)
    (hQ : ∀ d s st', d.tlsver = some v → d.fn = some fn → d.tlsmacsize = c.tlsmacsize →
      RunsCbc st' fn s → wp (supplied O) (cipherUpdateOn ctx d s out (.inPlace inl)) Q st') :
    wp (supplied O) (cipherUpdate ctx c out (.inPlace inl)) Q st := by
  have hno : (c.tlsver.isSome && CipherInput.tlsRefused out c.pad (.inPlace inl)) = false := by
    simp [CipherInput.tlsRefused, h.pad, hinl]
  rw [cipherUpdate, hno, if_neg (by decide)]
  refine wp.bind (wp_and hready (wp_restrict (cipherSession_spec h))) fun r st₁ hr => ?_
  obtain ⟨hok, hr⟩ := hr
  obtain ⟨hv, hfn, hsize, s, hs, hrun⟩ := hr hok
  dsimp only
  rw [if_neg (show ¬r.1 ≠ Ckr.ok by rwa [not_not]), hs]
  exact hQ r.2 s st₁ hv hfn hsize hrun

end Updates

/-- In TLS mode, decryption inverts encryption: of a record that was encrypted, the payload is left
    in place, behind the explicit IV, and the MAC is handed out. -/
theorem tls_record_round_trip {E D : Bytes → Bytes}
    (hE : ∀ x, x.length % aesBlock = 0 → (E x).length = x.length ∧ D (E x) = x) {O₁ O₂ : Oracle}
    (henc : TokenCrypts O₁ .encrypt E) (hdec : TokenCrypts O₂ .decrypt D) {v : TlsVersion}
    {ctx₁ ctx₂ : Ctx} {c d : CipherCtx} {st₁ st₁' st₂ : State}
    (hc : TlsContext v .encrypt c st₁) (hd : TlsContext v .decrypt d st₂)
    (hready₁ : SessionReady (supplied O₁) ctx₁ c st₁)
    (hready₂ : SessionReady (supplied O₂) ctx₂ d st₂) {iv payload mac out : Bytes} {inl : Nat}
    {r₁ : Updated} (hiv : iv.length = v.ivLength) (hmac : mac.length = d.tlsmacsize)
    (hinl : inl ≤ out.length) (hin : out.take inl = iv ++ payload ++ mac)
    (hroom : (padRecord (iv ++ payload ++ mac)).length ≤ out.length)
    (hrun : Runs (supplied O₁) (cipherUpdate ctx₁ c out (.inPlace inl)) st₁ r₁ st₁') :
    let n := (padRecord (iv ++ payload ++ mac)).length
    r₁.ret = retOsslOk ∧ r₁.outl = some (.ofNat 64 n) ∧ n ≤ r₁.out.length ∧
      ∀ out₂ r₂ st₂', out₂.length < 2 ^ 63 → n ≤ out₂.length → out₂.take n = r₁.out.take n →
        Runs (supplied O₂) (cipherUpdate ctx₂ d out₂ (.inPlace n)) st₂ r₂ st₂' →
          Decrypted v payload mac r₂ := by
  have henc₁ : wp (supplied O₁) (cipherUpdate ctx₁ c out (.inPlace inl))
      (fun r _ => Encrypted E (out.take inl) out r) st₁ := by
    refine cipherUpdate_spec hc hready₁ hinl fun c' s st' hv hfn _ hcbc => ?_
    have hlen : (CipherInput.bytes out (.inPlace inl)).length = inl := by
      rw [CipherInput.bytes, List.length_take, Nat.min_eq_left hinl]
    simp only [cipherUpdateOn, hv, hfn, hlen]
    exact tlsEncrypt_spec henc (fun x hx => (hE x hx).1) hinl (by rwa [hin]) hcbc
  rw [hin] at henc₁
  obtain ⟨hret, houtl, hlen, hrec⟩ := hrun.of_wp henc₁
  refine ⟨hret, houtl, by rwa [hlen], fun out₂ r₂ st₂' hlt hn hsame hrun₂ => ?_⟩
  have hdec₂ : wp (supplied O₂) (cipherUpdate ctx₂ d out₂
      (.inPlace (padRecord (iv ++ payload ++ mac)).length))
      (fun r _ => Decrypted v payload mac r) st₂ := by
    refine cipherUpdate_spec hd hready₂ hn fun d' s st' hv hfn hsize hcbc => ?_
    have hlen₂ : (CipherInput.bytes out₂
        (.inPlace (padRecord (iv ++ payload ++ mac)).length)).length =
          (padRecord (iv ++ payload ++ mac)).length := by
      rw [CipherInput.bytes, List.length_take, Nat.min_eq_left hn]
    simp only [cipherUpdateOn, hv, hfn, hlen₂]
    refine tlsDecrypt_spec hdec ?_ rfl hiv (hmac.trans hsize.symm) hn hlt hcbc
    rw [hsame, hrec]
    exact (hE _ (length_padRecord_mod _)).2
  exact hrun₂.of_wp hdec₂

/-! ## A record -/

/-- A token that encrypts and decrypts by the complement. -/
def complementReply (st : State) : (c : Call) → c.Resp
  | .crypto _ (.crypt _ data _) =>
    (Ckr.ok, { written := data.map (~~~·), len := data.length })
  | c => plain st c

theorem complementReply_tokenCrypts (fn : Fn) :
    TokenCrypts (replies complementReply) fn (·.map (~~~·)) := by
  rintro st h data size r op - - - - rfl -
  rfl

theorem complementReply_supplied (st : State) (c : Cmd) :
    c.Supplied (answers complementReply st c) := by
  cases c with
  | mem c => cases c <;> trivial
  | call c =>
    cases c with
    | crypto h c => cases c <;> trivial
    | _ => trivial

/-- A context whose session runs an operation. -/
def cbcContext (operation : Flags) : CipherCtx where
  mech := ⟨Ckm.aesCbc, .iv (.replicate 16 0)⟩
  operation
  session := some ⟨1, 0⟩
  tlsver := some .tls11
  tlsmacsize := 20

def cbcState (fn : Fn) : State where
  mem := { sess := fun _ => { session := 1, inUse := true } }
  tok := { op := fun _ => some { fn, mech := ⟨Ckm.aesCbc, .iv (.replicate 16 0)⟩, key := 1 } }

/-- An explicit IV, ten bytes of payload and a MAC, with room for the padding. -/
def cbcBuffer : Bytes := .replicate 16 0x49 ++ .replicate 10 0x61 ++ .replicate 20 0x4D ++
  .replicate 2 0

def cbcEncrypted : Updated × State :=
  run complementReply (cipherUpdate plainCtx (cbcContext Ckf.encrypt) cbcBuffer (.inPlace 46))
    (cbcState .encrypt)

def cbcDecrypted : Updated × State :=
  run complementReply (cipherUpdate plainCtx (cbcContext Ckf.decrypt) cbcEncrypted.1.out
    (.inPlace 48)) (cbcState .decrypt)

/-- The payload and the MAC come back. -/
theorem tls_record_round_trip_sample :
    Decrypted .tls11 (.replicate 10 0x61) (.replicate 20 0x4D) cbcDecrypted.1 := by
  have hc : ∀ fn op, (cbcContext op).fn = some fn →
      TlsContext .tls11 fn (cbcContext op) (cbcState fn) := fun fn op h =>
    ⟨rfl, h, rfl, .inl rfl, fun s _ => ⟨_, rfl, rfl, rfl⟩⟩
  have hready : ∀ fn op, SessionReady (supplied (replies complementReply)) plainCtx (cbcContext op)
      (cbcState fn) := fun fn op => rfl
  have hE : ∀ x : Bytes, x.length % aesBlock = 0 →
      (x.map (~~~·)).length = x.length ∧ (x.map (~~~·)).map (~~~·) = x := by
    intro x _
    simp [Function.comp_def]
  have hin : cbcBuffer.take 46 = .replicate 16 0x49 ++ .replicate 10 0x61 ++ .replicate 20 0x4D := by
    decide
  have hround := tls_record_round_trip hE (complementReply_tokenCrypts .encrypt)
    (complementReply_tokenCrypts .decrypt) (hc .encrypt Ckf.encrypt rfl)
    (hc .decrypt Ckf.decrypt rfl) (hready _ _) (hready _ _) rfl rfl (by decide) hin (by decide)
    (runs_run_restrict complementReply_supplied _ _)
  exact hround.2.2.2 _ _ _ (by decide +kernel) (by decide +kernel) rfl
    (runs_run_restrict complementReply_supplied _ _)

end P11Prov
