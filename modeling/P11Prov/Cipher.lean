import P11Prov.Buffer
import P11Prov.Constant
import P11Prov.Object

/-!
# Symmetric ciphers

The contexts of the AES ciphers and their update function, those of `cipher.c`.
In its TLS mode, one update is one record: the provider adds the padding before
it encrypts, and after it decrypted it removes the padding and the MAC
(`tlsunpad`). The latter works on the record with masks and must not branch on
its content. Its reads of the buffer and its subtractions of lengths are noted,
as whether they stay inside the record is a matter of its own.
-/

namespace P11Prov

open Interaction

/-! ## Contexts -/

/-- The TLS versions whose records are protected by CBC mode, 0x301 to 0x303. -/
inductive TlsVersion
  | tls10
  | tls11
  | tls12
  deriving DecidableEq, Repr

/-- `EVP_MAX_MD_SIZE` -/
abbrev evpMaxMdSize : Nat := 64

/-- `struct p11prov_cipher_ctx`. No version is the value zero, which is no TLS mode. A MAC size
    that is larger than that of any digest is refused as a parameter. -/
structure CipherCtx where
  key : Option ObjId := none
  pad : Bool := true
  mech : Mechanism
  operation : Flags := 0
  session : Option SessId := none
  sessionState : SessionState := .unused
  tlsver : Option TlsVersion := none
  tlsmacsize : Nat := 0
  tlsmac : Option Bytes := none
  tlsmacsize_le : tlsmacsize ≤ evpMaxMdSize := by decide

/-- `AESBLOCK` -/
abbrev aesBlock : Nat := 16

/-- `MAX_PADDING` -/
abbrev maxPadding : Nat := 256

/-! ## Padding of records -/

/-- What `tlsunpad` returns, and what it leaves in `*outlen` and `tlsmac`. -/
structure Unpadded where
  rv : CkRv
  outlen : CkUlong
  tlsmac : Option Bytes
  deriving DecidableEq

/-- One step of the loop over the padding: a byte of the padding must be the size. The body
    of the record starts at `off`. -/
def padStep (out : Bytes) (off olen padsize pass : CkUlong) (i : Nat) : Buffered CkUlong := do
  let mask := toByte (constantSmallerMask (.ofNat 64 i) padsize)
  let k ← subLength (← subLength olen (.ofNat 64 i)) 2
  let data ← readByte out (off + k)
  return pass &&& ~~~(ofByte mask &&& (padsize ^^^ ofByte data))

/-- One step of the loop that gathers the MAC, for all bytes of the MAC. -/
def macStep (out : Bytes) (off macPos macsize : CkUlong) (tlsmac : Bytes) (i : Nat) :
    Buffered Bytes :=
  tlsmac.zipIdx.mapM fun m => do
    let mask := toByte (~~~constantSmallerMask (.ofNat 64 i) macPos &&&
      constantSmallerMask (.ofNat 64 i) (macPos + macsize) &&&
      constantEqualMask (.ofNat 64 i) (.ofNat 64 m.2 + macPos))
    let data ← readByte out (off + .ofNat 64 i)
    return m.1 ||| (data &&& mask)

/-- The first place of the body that the MAC may be at: both sizes are public. -/
def macArea (olen macsize : CkUlong) : Buffered CkUlong :=
  if macsize + 256 < olen then do
    subLength (← subLength olen macsize) 256
  else return 0

/-- The part of `tlsunpad` that extracts the MAC, with the outcome of the checks as a mask, the
    allocated memory and the random MAC. -/
def tlsunpadMac (out : Bytes) (off olen macsize pass padsize outlen : CkUlong) (alloc : Bool)
    (randmac : Option (Vector UInt8 evpMaxMdSize)) : Buffered Unpadded := do
  let macPos ← subLength (← subLength olen macsize) (pass &&& (padsize + 1))
  if !alloc then
    return { rv := Ckr.generalError, outlen, tlsmac := none }
  let tlsmac : Bytes := .replicate macsize.toNat 0
  match randmac with
  | none => return { rv := Ckr.generalError, outlen, tlsmac := some tlsmac }
  | some randmac =>
    let start ← macArea olen macsize
    let tlsmac ← (List.range' start.toNat (olen.toNat - start.toNat)).foldlM
      (macStep out off macPos macsize) tlsmac
    let tlsmac := tlsmac.zipWith (constantSelectByteMask · · (toByte pass)) randmac.toList
    let outlen ← subLength (← subLength olen macsize) (pass &&& (padsize + 1))
    return { rv := Ckr.ok, outlen, tlsmac := some tlsmac }

/-- The checks of `tlsunpad`, as a mask. -/
def tlsunpadPass (out : Bytes) (off olen overhead padsize : CkUlong) : Buffered CkUlong := do
  let maxcheck := if olen < .ofNat 64 maxPadding then olen else .ofNat 64 maxPadding
  let pass := ~~~constantSmallerMask olen (overhead + padsize)
  let n ← subLength maxcheck 1
  let pass ← (List.range n.toNat).foldlM (padStep out off olen padsize) pass
  -- renormalised to a word
  return constantEqualMask pass 0xFF

/-- The part of `tlsunpad` that works on the body of the record, which starts at `off`. -/
def tlsunpadBody (out : Bytes) (off olen macsize padsize outlen : CkUlong)
    (alloc : Bool) (randmac : Option (Vector UInt8 evpMaxMdSize)) : Buffered Unpadded := do
  let overhead := macsize + 1
  if olen < overhead then
    return { rv := Ckr.bufferTooSmall, outlen, tlsmac := none }
  if olen < macsize then
    return { rv := Ckr.bufferTooSmall, outlen, tlsmac := none }
  let pass ← tlsunpadPass out off olen overhead padsize
  if 0 < macsize then
    tlsunpadMac out off olen macsize pass padsize outlen alloc randmac
  else
    let rv := if pass + 1 = 0 then Ckr.ok else Ckr.generalError
    let outlen ← subLength (← subLength olen macsize) (pass &&& (padsize + 1))
    return { rv, outlen, tlsmac := none }

/-- `tlsunpad`, on the first `inlen` bytes of a buffer. It may need memory for the MAC and a
    random MAC. A MAC of an earlier record is gone when it is called. -/
def tlsunpad (tlsver : TlsVersion) (tlsmacsize : Nat) (out : Bytes) (inlen outlen : CkUlong)
    (alloc : Bool) (randmac : Option (Vector UInt8 evpMaxMdSize)) : Buffered Unpadded := do
  let padsize ← readByte out (← subLength inlen 1)
  if tlsver ≠ .tls10 then
    -- OpenSSL skips the explicit IV by itself
    let olen ← subLength inlen (.ofNat 64 aesBlock)
    tlsunpadBody out (.ofNat 64 aesBlock) olen (.ofNat 64 tlsmacsize) (ofByte padsize) outlen
      alloc randmac
  else
    tlsunpadBody out 0 inlen (.ofNat 64 tlsmacsize) (ofByte padsize) outlen alloc randmac

/-! ## Updates -/

/-- The input of an update. It is the start of the output buffer in TLS mode. -/
inductive CipherInput
  | null
  | inPlace (inl : Nat)
  | data (data : Bytes)

/-- The bytes of the input, with those of the output buffer. -/
def CipherInput.bytes (out : Bytes) : CipherInput → Bytes
  | null => []
  | inPlace inl => out.take inl
  | data d => d

/-- The test that an update in TLS mode starts with. -/
def CipherInput.tlsRefused (out : Bytes) (pad : Bool) : CipherInput → Bool
  | inPlace inl => out.length < inl || !pad
  | null | data _ => true

/-- What an update returns, with the context, the output buffer and `*outl`. -/
structure Updated where
  ret : Nat
  ctx : CipherCtx
  out : Bytes
  outl : Option CkUlong := none

namespace CipherCtx

/-- The function of the token that the operation of the context uses. -/
def fn (c : CipherCtx) : Option Fn :=
  if c.operation = Ckf.encrypt then some .encrypt
  else if c.operation = Ckf.decrypt then some .decrypt
  else none

/-- In TLS mode the padding is not left to the token. -/
def tlsMech (c : CipherCtx) : CipherCtx :=
  if c.tlsver.isSome ∧ c.mech.mechanism = Ckm.aesCbcPad then
    { c with mech := { c.mech with mechanism := Ckm.aesCbc } }
  else c

/-- The context without its session. -/
def finalized (c : CipherCtx) : CipherCtx := { c with sessionState := .finalized, session := none }

end CipherCtx

/-- The part of `p11prov_cipher_session_init` that has a session. -/
def cipherInitOn (ctx : Ctx) (c : CipherCtx) (key : ObjId) (s : SessId) : P (CkRv × CipherCtx) := do
  match c.fn with
  | none => return (Ckr.generalError, c)
  | some fn =>
    -- the arguments of the call are evaluated in no given order
    let handle ← objGetHandle ctx key
    let h ← sessionHandle s
    let (ret, _) ← call (.crypto h (.init fn c.mech handle))
    let c := if ret = Ckr.ok then { c with sessionState := .initialized } else c
    return (ret, c)

/-- `p11prov_cipher_session_init`. A session that the operation does not start on stays with the
    context. -/
def cipherSessionInit (ctx : Ctx) (c : CipherCtx) : P (CkRv × CipherCtx) := do
  let c := c.tlsMech
  match c.key with
  -- the source dereferences the null pointer
  | none => return (Ckr.generalError, c)
  | some key =>
    let obj ← mem (.loadObj key)
    match ← trySessionRef ctx obj c.mech.mechanism true false with
    | .error ret => return (ret, c)
    | .ok s => cipherInitOn ctx { c with session := some s } key s

/-- `memset` -/
def fill (out : Bytes) (pos n : Nat) (b : UInt8) : Bytes :=
  out.take pos ++ .replicate n b ++ out.drop (pos + n)

/-- The encryption of `p11prov_cipher_update` in TLS mode, in place. The padding is one to
    sixteen bytes. -/
def tlsEncrypt (ctx : Ctx) (c : CipherCtx) (s : SessId) (out : Bytes) (inl : Nat) :
    P Updated := do
  let h ← sessionHandle s
  let padsize := aesBlock - inl % aesBlock
  let inlen := inl + padsize
  if out.length < inlen then
    return { ret := retOsslErr, ctx := c, out }
  if inlen % aesBlock ≠ 0 then
    return { ret := retOsslErr, ctx := c, out }
  let out := fill out inl padsize (.ofNat (padsize - 1))
  -- one shot, as OpenSSL does not finalize
  let (ret, r) ← call (.crypto h (.crypt .encrypt (out.take inlen) out.length))
  let out := overwrite out r.written
  returnSession ctx s
  if ret ≠ Ckr.ok then
    return { ret := retOsslErr, ctx := c.finalized, out }
  return { ret := retOsslOk, ctx := c.finalized, out, outl := some (.ofNat 64 r.len) }

/-- Whether `tlsunpad` gets to the MAC. -/
def unpadsMac (tlsver : TlsVersion) (tlsmacsize : Nat) (inlen : CkUlong) : Bool :=
  let olen := if tlsver ≠ .tls10 then inlen - .ofNat 64 aesBlock else inlen
  0 < tlsmacsize && !(olen < .ofNat 64 tlsmacsize + 1) && !(olen < .ofNat 64 tlsmacsize)

/-- `tlsunpad`, with the memory and the random bytes it asks for. -/
def tlsunpadRecord (tlsver : TlsVersion) (tlsmacsize : Nat) (out : Bytes) (inlen outlen : CkUlong) :
    P Unpadded := do
  if !unpadsMac tlsver tlsmacsize inlen then
    return (tlsunpad tlsver tlsmacsize out inlen outlen true none).val
  if !(← mem .alloc) then
    return (tlsunpad tlsver tlsmacsize out inlen outlen false none).val
  let randmac ← call (.randBytes evpMaxMdSize)
  return (tlsunpad tlsver tlsmacsize out inlen outlen true randmac).val

/-- The decryption of `p11prov_cipher_update` in TLS mode, in place. -/
def tlsDecrypt (ctx : Ctx) (c : CipherCtx) (tlsver : TlsVersion) (s : SessId) (out : Bytes)
    (inl : Nat) : P Updated := do
  let h ← sessionHandle s
  if inl % aesBlock ≠ 0 then
    return { ret := retOsslErr, ctx := c, out }
  let (ret, r) ← call (.crypto h (.crypt .decrypt (out.take inl) out.length))
  let out := overwrite out r.written
  returnSession ctx s
  if ret ≠ Ckr.ok then
    return { ret := retOsslErr, ctx := c.finalized, out }
  -- the length of the input is taken for that of the output
  let u ← tlsunpadRecord tlsver c.tlsmacsize out (.ofNat 64 inl) (.ofNat 64 r.len)
  let c := { c.finalized with tlsmac := u.tlsmac }
  if u.rv ≠ Ckr.ok then
    return { ret := retOsslErr, ctx := c, out }
  return { ret := retOsslOk, ctx := c, out, outl := some u.outlen }

/-- `p11prov_cipher_update` outside of TLS mode. -/
def plainUpdate (c : CipherCtx) (fn : Fn) (s : SessId) (out data : Bytes) : P Updated := do
  let h ← sessionHandle s
  let (ret, r) ← call (.crypto h (.cryptUpdate fn data out.length))
  let out := overwrite out r.written
  if ret ≠ Ckr.ok then
    return { ret := retOsslErr, ctx := c, out }
  return { ret := retOsslOk, ctx := c, out, outl := some (.ofNat 64 r.len) }

/-- `p11prov_cipher_update` with a session, by the mode and the operation of the context. -/
def cipherUpdateOn (ctx : Ctx) (c : CipherCtx) (s : SessId) (out : Bytes) (inp : CipherInput) :
    P Updated :=
  match c.tlsver, c.fn with
  | some _, some .encrypt => tlsEncrypt ctx c s out (inp.bytes out).length
  | some v, some .decrypt => tlsDecrypt ctx c v s out (inp.bytes out).length
  | none, some fn => plainUpdate c fn s out (inp.bytes out)
  | _, _ => pure { ret := retOsslErr, ctx := c, out }

/-- The session of a context, which is got with the first update. -/
def cipherSession (ctx : Ctx) (c : CipherCtx) : P (CkRv × CipherCtx) :=
  match c.session with
  | some _ => pure (Ckr.ok, c)
  | none => cipherSessionInit ctx c

/-- `p11prov_cipher_update`, on a buffer of `outsize` bytes. -/
def cipherUpdate (ctx : Ctx) (c : CipherCtx) (out : Bytes) (inp : CipherInput) : P Updated := do
  if c.tlsver.isSome && inp.tlsRefused out c.pad then
    return { ret := retOsslErr, ctx := c, out }
  let (ret, c) ← cipherSession ctx c
  if ret ≠ Ckr.ok then
    return { ret := retOsslErr, ctx := c, out }
  match c.session with
  | none => return { ret := retOsslErr, ctx := c, out }
  | some s => cipherUpdateOn ctx c s out inp

end P11Prov
