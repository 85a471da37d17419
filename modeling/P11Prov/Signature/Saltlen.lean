import Mathlib.Data.Nat.Size
import P11Prov.Object.PrivateImport
import P11Prov.Signature.Params

/-!
# The longest salt of a PSS signature

The salt of a PSS signature and its digest share an encoded message that is one
bit shorter than the modulus. `p11prov_rsasig_set_pss_saltlen_max` takes the
length of the message from the sizes of the key. Both ways to get an RSA key set
these sizes from the number of bytes of the modulus, so the number of bits is a
multiple of 8 (`IsRsaKey.sizes`), and the case of a modulus whose top byte holds
a single bit never occurs. Nor is the length compared with what the digest
takes. `longestSalt_iff` says for which keys the result is right all the same.
-/

namespace P11Prov

open Encoding.BigEndian (value value_lt)

/-! ## The sizes of an RSA key -/

/-- Assigns the sizes of a key. -/
def Obj.setSizes (obj : Obj) (size bitSize : Nat) : Obj :=
  { obj with key := { obj.key with size, bitSize } }

/-- The RSA keys with a given modulus: those read from a token, and those imported, which get the
    sizes that the search for them was prepared with. The host has the bytes of a number in the
    reverse of the order of the token. -/
inductive IsRsaKey (modulus : Bytes) : Obj → Prop
  | fetched {lib : EcLib} {key key' : Obj} (htype : key.key.type = ckkRsa)
      (hcls : key.cls = Cko.publicKey ∨ key.cls = Cko.privateKey)
      (hattr : key.getAttr ckaModulus = some modulus) (h : fetchKeyData lib key = .ok key') :
      IsRsaKey modulus key'
  | importedPublic {params : KeyParams} {find find' : KeyFindCtx} {key : Obj}
      (hcls : key.cls = Cko.publicKey) (hparam : params.n = some modulus.reverse)
      (h : prepRsaPublicFind params find = .ok find') :
      IsRsaKey modulus (key.setSizes find'.keySize find'.bitSize)
  | importedPrivate {sha256 : Bytes → Except CkRv Bytes} {params : PrivateParams}
      {find find' : KeyFindCtx} {key : Obj} (hcls : key.cls = Cko.privateKey)
      (hparam : params.n.map (·.data) = some modulus.reverse)
      (h : prepRsaPrivateFind sha256 params find = .ok find') :
      IsRsaKey modulus (key.setSizes find'.keySize find'.bitSize)

variable {modulus : Bytes} {key : Obj} {c : SigCtx} {p : OsslData}

/-- A search for a public key is prepared with the number of bytes of the modulus. -/
theorem prepRsaPublicFind_sizes {params : KeyParams} {find find' : KeyFindCtx}
    (hparam : params.n = some modulus.reverse) (h : prepRsaPublicFind params find = .ok find') :
    find'.keySize = modulus.length ∧ find'.bitSize = modulus.length * 8 := by
  rw [prepRsaPublicFind, hparam, keyParamsToAttr] at h
  obtain ⟨f, hf, h⟩ := bind_eq_ok.1 h
  obtain rfl := Except.ok.inj hf
  obtain ⟨f', -, h⟩ := bind_eq_ok.1 h
  obtain rfl := Except.ok.inj h
  simp

/-- And so is one for a private key. -/
theorem prepRsaPrivateFind_sizes {sha256 : Bytes → Except CkRv Bytes} {params : PrivateParams}
    {find find' : KeyFindCtx} (hparam : params.n.map (·.data) = some modulus.reverse)
    (h : prepRsaPrivateFind sha256 params find = .ok find') :
    find'.keySize = modulus.length ∧ find'.bitSize = modulus.length * 8 := by
  rw [prepRsaPrivateFind] at h
  split at h
  · rename_i n e d hn he hd
    obtain ⟨f, -, h⟩ := bind_eq_ok.1 h
    obtain rfl := Except.ok.inj h
    rw [hn, Option.map_some, Option.some_inj] at hparam
    simp [hparam]
  · cases h

/-- The sizes of an RSA key are both those of the bytes of its modulus. -/
theorem IsRsaKey.sizes (h : IsRsaKey modulus key) :
    keyMember (some key) (·.size) = modulus.length ∧
      keyMember (some key) (·.bitSize) = modulus.length * 8 := by
  cases h with
  | fetched htype hcls hattr h =>
    rw [fetchKeyData, if_pos htype, hattr] at h
    obtain rfl := Except.ok.inj h
    rcases hcls with hcls | hcls <;> simp [keyMember, Obj.setKeySize, hcls]
  | importedPublic hcls hparam h =>
    obtain ⟨hsize, hbits⟩ := prepRsaPublicFind_sizes hparam h
    simp [keyMember, Obj.setSizes, hcls, hsize, hbits]
  | importedPrivate hcls hparam h =>
    obtain ⟨hsize, hbits⟩ := prepRsaPrivateFind_sizes hparam h
    simp [keyMember, Obj.setSizes, hcls, hsize, hbits]

/-- A public key with a given modulus, as it is read from a token. -/
def rsaPublicKey (modulus : Bytes) : Obj :=
  { slotid := 0, handle := 1, cls := Cko.publicKey, attrs := [(ckaModulus, modulus)]
    key := { type := ckkRsa, size := modulus.length, bitSize := modulus.length * 8 } }

theorem isRsaKey_rsaPublicKey (modulus : Bytes) : IsRsaKey modulus (rsaPublicKey modulus) :=
  @IsRsaKey.fetched modulus noEcLib { rsaPublicKey modulus with key := { type := ckkRsa } } _ rfl
    (.inl rfl) rfl rfl

/-! ## The longest salt -/

/-- The number of bytes of an encoded message, for a modulus of `b` bits. -/
def emLen (b : Nat) : Nat := (b - 1 + 7) / 8

/-- The salt length to choose for a modulus of `b` bits and a digest of `hLen` bytes, if there
    is one. -/
def longestSalt (b hLen : Nat) (toDigest : Bool) : Option Nat :=
  if hLen + 2 ≤ emLen b then
    let sLen := emLen b - hLen - 2
    some (if toDigest then min sLen hLen else sLen)
  else none

/-- The salt length becomes the given one, or is refused if there is none. -/
def AssignsSaltlen (r : Nat × SigCtx) (c : SigCtx) (sLen : Option Nat) : Prop :=
  match sLen with
  | some n => r = (retOsslOk, c.setSaltlen n)
  | none => r.1 ≠ retOsslOk

/-- None of the differences that `maxSaltlen` takes is negative. -/
def NoBorrow (keySize keyBitSize digestSize : Nat) : Prop :=
  digestSize + 2 ≤ keySize ∧ (keyBitSize % 8 = 1 → digestSize + 3 ≤ keySize)

/-- The parameter chooses the longest salt for the key. -/
def ChoosesLongest (modulus : Bytes) (key : Obj) (c : SigCtx) (p : OsslData) (hLen : Nat)
    (toDigest : Bool) : Prop :=
  AssignsSaltlen ((saltlenSetter (some key)).set c p) c
    (longestSalt (value modulus).size hLen toDigest) ∧
  NoBorrow (keyMember (some key) (·.size)) (keyMember (some key) (·.bitSize)) hLen

theorem ulongSub_eq {a b : Nat} (h : b ≤ a) (ha : a < 0x10000000000000000) :
    ulongSub a b = a - b := by
  simp only [ulongSub]
  omega

theorem SigCtx.setSaltlen_inj {m n : Nat} : c.setSaltlen m = c.setSaltlen n ↔ m = n := by
  simp [SigCtx.setSaltlen]

/-- A modulus has at least as many bytes as an encoded message. -/
theorem emLen_le (modulus : Bytes) : emLen (value modulus).size ≤ modulus.length := by
  have hsize : (value modulus).size ≤ 8 * modulus.length := by
    rw [Nat.size_le, pow_mul]
    exact value_lt modulus
  simp only [emLen]
  omega

theorem digest_ne_zero {hLen : Nat} (h : digestGetDigestSize c.digest = .ok hLen) :
    c.digest ≠ 0 := by
  intro h0
  have herr : digestGetDigestSize 0 = .error Ckr.mechanismInvalid := by decide
  rw [h0, herr] at h
  simp at h

/-- What the setting of the longest salt assigns: the room that the bytes of the modulus leave. -/
theorem saltlenSetter_longest {v : Int} {hLen : Nat} (hkey : IsRsaKey modulus key)
    (hlen : modulus.length < 2 ^ 63) (hm : c.mechtype = Ckm.rsaPkcsPss)
    (hsize : digestGetDigestSize c.digest = .ok hLen) (hp : saltlenValue p = some v)
    (hv : v = -2 ∨ v = -3 ∨ v = -4) :
    (saltlenSetter (some key)).set c p =
      (retOsslOk, c.setSaltlen
        (if v = -4 ∧ hLen < ulongSub (ulongSub modulus.length hLen) 2 then hLen
          else ulongSub (ulongSub modulus.length hLen) 2)) := by
  obtain ⟨hks, hkb⟩ := hkey.sizes
  have hmod : modulus.length * 8 % 8 = 0 := Nat.mul_mod_left _ _
  have hks' : modulus.length ≠ ckUnavailableInformation := by
    simp only [ckUnavailableInformation]
    omega
  have hkb' : modulus.length * 8 ≠ ckUnavailableInformation := by
    simp only [ckUnavailableInformation]
    omega
  rcases hv with rfl | rfl | rfl <;>
    simp [saltlenSetter, hm, hp, rsasigSetSaltlen, setPssSaltlenMax, digest_ne_zero hsize, hsize,
      hks, hkb, hks', hkb', maxSaltlen, hmod]

/-- The longest salt is chosen, and no difference is negative, if and only if the digest fits, and
    an encoded message has as many bytes as the modulus or the length of the digest was asked for
    and leaves room for it. -/
theorem longestSalt_iff {v : Int} {hLen : Nat} (hkey : IsRsaKey modulus key)
    (hlen : modulus.length < 2 ^ 63) (hm : c.mechtype = Ckm.rsaPkcsPss)
    (hsize : digestGetDigestSize c.digest = .ok hLen) (hp : saltlenValue p = some v)
    (hv : v = -2 ∨ v = -3 ∨ v = -4) :
    ChoosesLongest modulus key c p hLen (v = -4) ↔
      hLen + 2 ≤ emLen (value modulus).size ∧
        (emLen (value modulus).size = modulus.length ∨
          (v = -4 ∧ 2 * hLen + 2 ≤ emLen (value modulus).size)) := by
  obtain ⟨hks, hkb⟩ := hkey.sizes
  have hle := emLen_le modulus
  have hmod : modulus.length * 8 % 8 = 0 := Nat.mul_mod_left _ _
  simp only [ChoosesLongest, saltlenSetter_longest hkey hlen hm hsize hp hv, hks, hkb, NoBorrow,
    hmod, longestSalt]
  by_cases hfit : hLen + 2 ≤ emLen (value modulus).size
  · have hsub : ulongSub (ulongSub modulus.length hLen) 2 = modulus.length - hLen - 2 := by
      rw [ulongSub_eq (a := modulus.length) (by omega) (by omega)]
      exact ulongSub_eq (by omega) (by omega)
    rw [hsub]
    simp only [hfit, if_true, AssignsSaltlen, Prod.mk.injEq, true_and, SigCtx.setSaltlen_inj,
      decide_eq_true_eq]
    by_cases h4 : v = -4
    · simp only [h4, true_and, if_true]
      split <;> omega
    · simp only [h4, false_and, if_false, or_false]
      omega
  · simp [hfit, AssignsSaltlen]

theorem size_value {n : Nat} (hlo : 2 ^ n ≤ value modulus) (hhi : value modulus < 2 ^ (n + 1)) :
    (value modulus).size = n + 1 :=
  le_antisymm (Nat.size_le.2 hhi) (Nat.lt_size.2 hlo)

/-- A context with PSS and SHA-256. -/
def pssSha256 : SigCtx := { mechtype := Ckm.rsaPkcsPss, digest := Ckm.sha256 }

/-- A modulus of 1024 bits and SHA-256. -/
theorem longestSalt_1024 :
    ChoosesLongest (0x80 :: List.replicate 127 1) (rsaPublicKey (0x80 :: List.replicate 127 1))
      pssSha256 (.utf8String (some (ascii "max"))) 32 false := by
  have hsize : (value (0x80 :: List.replicate 127 1)).size = 1023 + 1 :=
    size_value (by decide +kernel) (by decide +kernel)
  have hkey := isRsaKey_rsaPublicKey (0x80 :: List.replicate 127 1)
  have hlen : (0x80 :: List.replicate 127 1 : Bytes).length < 2 ^ 63 := by
    rw [List.length_cons, List.length_replicate]
    norm_num
  have hvalue : saltlenValue (.utf8String (some (ascii "max"))) = some (-3) := by decide +kernel
  refine (longestSalt_iff hkey hlen rfl (by decide) hvalue (by decide)).2 ?_
  rw [hsize]
  simp [emLen]

/-- For a modulus of 1025 bits the salt is a byte too long, and with one of 9 bits the length
    wraps around instead of being refused. -/
theorem longestSalt_wrong :
    ¬ChoosesLongest (1 :: (List.replicate 127 0 ++ [1]))
      (rsaPublicKey (1 :: (List.replicate 127 0 ++ [1])))
      pssSha256 (.utf8String (some (ascii "max"))) 32 false ∧
    ¬ChoosesLongest [1, 1] (rsaPublicKey [1, 1])
      pssSha256 (.utf8String (some (ascii "max"))) 32 false ∧
    ((saltlenSetter (some (rsaPublicKey [1, 1]))).set
      pssSha256 (.utf8String (some (ascii "max")))).2.pssParams.sLen = 0xFFFFFFFFFFFFFFE0 := by
  refine ⟨?_, fun h => ?_, by decide +kernel⟩
  · have hsize : (value (1 :: (List.replicate 127 0 ++ [1]))).size = 1024 + 1 :=
      size_value (by decide +kernel) (by decide +kernel)
    have hlen : (1 :: (List.replicate 127 0 ++ [1]) : Bytes).length = 129 := by
      simp only [List.length_cons, List.length_append, List.length_replicate, List.length_nil]
    have hdigest : digestGetDigestSize pssSha256.digest = .ok 32 := by decide
    have hvalue : saltlenValue (.utf8String (some (ascii "max"))) = some (-3) := by decide +kernel
    -- only the number of its bytes and bits matters
    generalize (1 :: (List.replicate 127 0 ++ [1]) : Bytes) = modulus at hsize hlen
    intro h
    have hset := h.1
    rw [hsize, saltlenSetter_longest (isRsaKey_rsaPublicKey modulus) (by omega) rfl hdigest hvalue
      (by decide), hlen] at hset
    simp [AssignsSaltlen, longestSalt, emLen, SigCtx.setSaltlen_inj, ulongSub] at hset
  · have hborrow := h.2.1
    simp [(isRsaKey_rsaPublicKey [1, 1]).sizes] at hborrow

end P11Prov
