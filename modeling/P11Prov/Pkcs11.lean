import Mathlib.Tactic.Common

/-!
# PKCS#11 and OpenSSL constants

The constants of the PKCS#11 headers and of the provider interface of OpenSSL
that the modelled code reads, returns or compares. A `CK_RV` and an OpenSSL
result are both plain integers, as in the source: `CKR_OK` and `RET_OSSL_ERR`
are the same number, and nothing but the reader of a value says which of the
two it is.
-/

namespace P11Prov

/-- `CK_RV`, and also the `int` results of the provider's dispatch functions. -/
abbrev CkRv := Nat
abbrev SlotId := Nat
/-- `CK_SESSION_HANDLE`. -/
abbrev Handle := Nat
abbrev ObjectHandle := Nat
abbrev Flags := Nat
abbrev Bytes := List UInt8
/-- A PIN, as its characters. -/
abbrev Pin := Bytes

/-- The bytes of a string literal. -/
def ascii (s : String) : Bytes := s.toList.map fun c => c.toNat.toUInt8

/-- `isspace` -/
def isSpace (c : UInt8) : Bool := c = 0x20 ∨ (9 ≤ c ∧ c ≤ 13)

/-- `isdigit` -/
def isDigit (c : UInt8) : Bool := 0x30 ≤ c ∧ c ≤ 0x39

/-- The string at the start of an array of `n` bytes: it ends at a zero byte, or with the
    array. -/
def cString (n : Nat) (a : Bytes) : Bytes := (a.take n).takeWhile (· ≠ 0)

/-- `strncmp(a, b, n) == 0` -/
def strncmpEq (n : Nat) (a b : Bytes) : Bool := cString n a == cString n b

/-- `RET_OSSL_OK`. -/
abbrev retOsslOk : Nat := 1
/-- `RET_OSSL_ERR`. -/
abbrev retOsslErr : Nat := 0

theorem retOsslErr_ne : retOsslErr ≠ retOsslOk := by decide

/-- Both computations give a result. -/
theorem bind_eq_ok {ε α β : Type} {x : Except ε α} {f : α → Except ε β} {b : β} :
    x >>= f = .ok b ↔ ∃ a, x = .ok a ∧ f a = .ok b := by
  constructor
  · intro h
    cases x with
    | error e => cases h
    | ok a => exact ⟨a, rfl, h⟩
  · rintro ⟨a, rfl, h⟩
    exact h

theorem map_eq_ok {ε α β : Type} {x : Except ε α} {f : α → β} {b : β} :
    f <$> x = .ok b ↔ ∃ a, x = .ok a ∧ f a = b := by
  rw [map_eq_pure_bind, bind_eq_ok]
  exact exists_congr fun a => and_congr_right fun _ => ⟨Except.ok.inj, congrArg _⟩

/-- `CK_UNAVAILABLE_INFORMATION`, the all-ones `CK_ULONG`. -/
abbrev ckUnavailableInformation : Nat := 0xFFFFFFFFFFFFFFFF
/-- `CK_INVALID_HANDLE`. -/
abbrev ckInvalidHandle : Handle := 0
/-- `CK_EFFECTIVELY_INFINITE`. -/
abbrev ckEffectivelyInfinite : Nat := 0
/-- `CK_P11PROV_IMPORTED_HANDLE`, the handle of objects that are not on a token. -/
abbrev ckP11provImportedHandle : ObjectHandle := ckUnavailableInformation - 1
/-- `MAX_CONCURRENT_SESSIONS`. -/
abbrev maxConcurrentSessions : Nat := 1024

namespace Ckr

abbrev ok : CkRv := 0x0
abbrev cancel : CkRv := 0x1
abbrev hostMemory : CkRv := 0x2
abbrev slotIdInvalid : CkRv := 0x3
abbrev generalError : CkRv := 0x5
abbrev argumentsBad : CkRv := 0x7
abbrev cantLock : CkRv := 0xA
abbrev attributeSensitive : CkRv := 0x11
abbrev attributeTypeInvalid : CkRv := 0x12
abbrev actionProhibited : CkRv := 0x1B
abbrev dataInvalid : CkRv := 0x20
abbrev dataLenRange : CkRv := 0x21
abbrev functionNotSupported : CkRv := 0x54
abbrev keyHandleInvalid : CkRv := 0x60
abbrev keyTypeInconsistent : CkRv := 0x63
abbrev keyNeeded : CkRv := 0x66
abbrev keyIndigestible : CkRv := 0x67
abbrev mechanismInvalid : CkRv := 0x70
abbrev mechanismParamInvalid : CkRv := 0x71
abbrev objectHandleInvalid : CkRv := 0x82
abbrev operationNotInitialized : CkRv := 0x91
abbrev pinIncorrect : CkRv := 0xA0
abbrev pinExpired : CkRv := 0xA3
abbrev pinLocked : CkRv := 0xA4
abbrev sessionClosed : CkRv := 0xB0
abbrev sessionCount : CkRv := 0xB1
abbrev sessionHandleInvalid : CkRv := 0xB3
abbrev sessionReadOnly : CkRv := 0xB5
abbrev signatureLenRange : CkRv := 0xC1
abbrev tokenNotPresent : CkRv := 0xE0
abbrev tokenWriteProtected : CkRv := 0xE2
abbrev userAlreadyLoggedIn : CkRv := 0x100
abbrev bufferTooSmall : CkRv := 0x150
abbrev cryptokiAlreadyInitialized : CkRv := 0x191

end Ckr

namespace Ckf

/-! Session flags. -/

abbrev rwSession : Flags := 0x2
abbrev serialSession : Flags := 0x4

/-! Slot and token flags. -/

abbrev tokenPresent : Flags := 0x1
abbrev writeProtected : Flags := 0x2
abbrev loginRequired : Flags := 0x4
abbrev protectedAuthenticationPath : Flags := 0x100
abbrev tokenInitialized : Flags := 0x400
abbrev userPinFinalTry : Flags := 0x20000
abbrev userPinLocked : Flags := 0x40000
abbrev userPinToBeChanged : Flags := 0x80000

/-! Operation flags. -/

abbrev encrypt : Flags := 0x100
abbrev decrypt : Flags := 0x200
abbrev sign : Flags := 0x800
abbrev verify : Flags := 0x2000

end Ckf

namespace Cks

abbrev roPublicSession : Nat := 0
abbrev roUserFunctions : Nat := 1
abbrev rwUserFunctions : Nat := 3
abbrev rwSoFunctions : Nat := 4

end Cks

namespace Cko

abbrev data : Nat := 0
abbrev certificate : Nat := 1
abbrev publicKey : Nat := 2
abbrev privateKey : Nat := 3
abbrev secretKey : Nat := 4
abbrev domainParameters : Nat := 6

end Cko

/-! Key types. -/

/-- `CKK_RSA` -/
abbrev ckkRsa : Nat := 0x0
/-- `CKK_EC` -/
abbrev ckkEc : Nat := 0x3
/-- `CKK_GENERIC_SECRET` -/
abbrev ckkGenericSecret : Nat := 0x10
/-- `CKK_AES` -/
abbrev ckkAes : Nat := 0x1F
/-- `CKK_EC_EDWARDS` -/
abbrev ckkEcEdwards : Nat := 0x40
/-- `CKK_ML_KEM` -/
abbrev ckkMlKem : Nat := 0x49
/-- `CKK_ML_DSA` -/
abbrev ckkMlDsa : Nat := 0x4A

/-! Attributes. -/

/-- `CKA_CLASS` -/
abbrev ckaClass : Nat := 0x0
/-- `CKA_TOKEN` -/
abbrev ckaToken : Nat := 0x1
/-- `CKA_LABEL` -/
abbrev ckaLabel : Nat := 0x3
/-- `CKA_VALUE` -/
abbrev ckaValue : Nat := 0x11
/-- `CKA_CERTIFICATE_TYPE` -/
abbrev ckaCertificateType : Nat := 0x80
/-- `CKA_ISSUER` -/
abbrev ckaIssuer : Nat := 0x81
/-- `CKA_SERIAL_NUMBER` -/
abbrev ckaSerialNumber : Nat := 0x82
/-- `CKA_TRUSTED` -/
abbrev ckaTrusted : Nat := 0x86
/-- `CKA_CERTIFICATE_CATEGORY` -/
abbrev ckaCertificateCategory : Nat := 0x87
/-- `CKA_KEY_TYPE` -/
abbrev ckaKeyType : Nat := 0x100
/-- `CKA_SUBJECT` -/
abbrev ckaSubject : Nat := 0x101
/-- `CKA_ID` -/
abbrev ckaId : Nat := 0x102
/-- `CKA_SENSITIVE` -/
abbrev ckaSensitive : Nat := 0x103
/-- `CKA_ENCRYPT` -/
abbrev ckaEncrypt : Nat := 0x104
/-- `CKA_DECRYPT` -/
abbrev ckaDecrypt : Nat := 0x105
/-- `CKA_WRAP` -/
abbrev ckaWrap : Nat := 0x106
/-- `CKA_UNWRAP` -/
abbrev ckaUnwrap : Nat := 0x107
/-- `CKA_SIGN` -/
abbrev ckaSign : Nat := 0x108
/-- `CKA_SIGN_RECOVER` -/
abbrev ckaSignRecover : Nat := 0x109
/-- `CKA_VERIFY` -/
abbrev ckaVerify : Nat := 0x10A
/-- `CKA_VERIFY_RECOVER` -/
abbrev ckaVerifyRecover : Nat := 0x10B
/-- `CKA_DERIVE` -/
abbrev ckaDerive : Nat := 0x10C
/-- `CKA_MODULUS` -/
abbrev ckaModulus : Nat := 0x120
/-- `CKA_PUBLIC_EXPONENT` -/
abbrev ckaPublicExponent : Nat := 0x122
/-- `CKA_PRIVATE_EXPONENT` -/
abbrev ckaPrivateExponent : Nat := 0x123
/-- `CKA_PRIME_1` -/
abbrev ckaPrime1 : Nat := 0x124
/-- `CKA_PRIME_2` -/
abbrev ckaPrime2 : Nat := 0x125
/-- `CKA_EXPONENT_1` -/
abbrev ckaExponent1 : Nat := 0x126
/-- `CKA_EXPONENT_2` -/
abbrev ckaExponent2 : Nat := 0x127
/-- `CKA_COEFFICIENT` -/
abbrev ckaCoefficient : Nat := 0x128
/-- `CKA_PUBLIC_KEY_INFO` -/
abbrev ckaPublicKeyInfo : Nat := 0x129
/-- `CKA_VALUE_LEN` -/
abbrev ckaValueLen : Nat := 0x161
/-- `CKA_EXTRACTABLE` -/
abbrev ckaExtractable : Nat := 0x162
/-- `CKA_COPYABLE` -/
abbrev ckaCopyable : Nat := 0x171
/-- `CKA_EC_PARAMS` -/
abbrev ckaEcParams : Nat := 0x180
/-- `CKA_EC_POINT` -/
abbrev ckaEcPoint : Nat := 0x181
/-- `CKA_ALWAYS_AUTHENTICATE` -/
abbrev ckaAlwaysAuthenticate : Nat := 0x202
/-- `CKA_PARAMETER_SET` -/
abbrev ckaParameterSet : Nat := 0x61D
/-- `CKA_DECAPSULATE` -/
abbrev ckaDecapsulate : Nat := 0x634
/-- `CKA_SEED` -/
abbrev ckaSeed : Nat := 0x637
/-- `CKA_ALLOWED_MECHANISMS` -/
abbrev ckaAllowedMechanisms : Nat := 0x40000600
/-- `CKA_P11PROV_CURVE_NAME` -/
abbrev ckaP11provCurveName : Nat := 0x804F5051
/-- `CKA_P11PROV_CURVE_NID` -/
abbrev ckaP11provCurveNid : Nat := 0x804F5052
/-- `CKA_P11PROV_PUB_KEY` -/
abbrev ckaP11provPubKey : Nat := 0x804F5053
/-- `CKA_P11PROV_PUB_KEY_X` -/
abbrev ckaP11provPubKeyX : Nat := 0x804F5054
/-- `CKA_P11PROV_PUB_KEY_Y` -/
abbrev ckaP11provPubKeyY : Nat := 0x804F5055

namespace Ckm

abbrev rsaPkcsKeyPairGen : Nat := 0x0
abbrev rsaPkcs : Nat := 0x1
abbrev rsaX509 : Nat := 0x3
abbrev sha1RsaPkcs : Nat := 0x6
abbrev rsaPkcsOaep : Nat := 0x9
abbrev rsaX9_31 : Nat := 0xB
abbrev rsaPkcsPss : Nat := 0xD
abbrev sha1RsaPkcsPss : Nat := 0xE
abbrev mlKemKeyPairGen : Nat := 0xF
abbrev mlKem : Nat := 0x17
abbrev mlDsaKeyPairGen : Nat := 0x1C
abbrev mlDsa : Nat := 0x1D
abbrev sha256RsaPkcs : Nat := 0x40
abbrev sha384RsaPkcs : Nat := 0x41
abbrev sha512RsaPkcs : Nat := 0x42
abbrev sha256RsaPkcsPss : Nat := 0x43
abbrev sha384RsaPkcsPss : Nat := 0x44
abbrev sha512RsaPkcsPss : Nat := 0x45
abbrev sha224RsaPkcs : Nat := 0x46
abbrev sha224RsaPkcsPss : Nat := 0x47
abbrev sha512_224 : Nat := 0x48
abbrev sha512_256 : Nat := 0x4C
abbrev sha3_256RsaPkcs : Nat := 0x60
abbrev sha3_384RsaPkcs : Nat := 0x61
abbrev sha3_512RsaPkcs : Nat := 0x62
abbrev sha3_256RsaPkcsPss : Nat := 0x63
abbrev sha3_384RsaPkcsPss : Nat := 0x64
abbrev sha3_512RsaPkcsPss : Nat := 0x65
abbrev sha3_224RsaPkcs : Nat := 0x66
abbrev sha3_224RsaPkcsPss : Nat := 0x67
abbrev sha1 : Nat := 0x220
abbrev sha256 : Nat := 0x250
abbrev sha224 : Nat := 0x255
abbrev sha384 : Nat := 0x260
abbrev sha512 : Nat := 0x270
abbrev sha3_256 : Nat := 0x2B0
abbrev sha3_224 : Nat := 0x2B5
abbrev sha3_384 : Nat := 0x2C0
abbrev sha3_512 : Nat := 0x2D0
abbrev ecKeyPairGen : Nat := 0x1040
abbrev ecdsa : Nat := 0x1041
abbrev ecdsaSha1 : Nat := 0x1042
abbrev ecdsaSha224 : Nat := 0x1043
abbrev ecdsaSha256 : Nat := 0x1044
abbrev ecdsaSha384 : Nat := 0x1045
abbrev ecdsaSha512 : Nat := 0x1046
abbrev ecdsaSha3_224 : Nat := 0x1047
abbrev ecdsaSha3_256 : Nat := 0x1048
abbrev ecdsaSha3_384 : Nat := 0x1049
abbrev ecdsaSha3_512 : Nat := 0x104A
abbrev ecdh1Derive : Nat := 0x1050
abbrev ecdh1CofactorDerive : Nat := 0x1051
abbrev ecEdwardsKeyPairGen : Nat := 0x1055
abbrev eddsa : Nat := 0x1057
abbrev aesEcb : Nat := 0x1081
abbrev aesCbc : Nat := 0x1082
abbrev aesCbcPad : Nat := 0x1085
abbrev aesCtr : Nat := 0x1086
abbrev aesCts : Nat := 0x1089
abbrev aesOfb : Nat := 0x2104
abbrev aesCfb8 : Nat := 0x2106
abbrev aesCfb128 : Nat := 0x2107
abbrev aesCfb1 : Nat := 0x2108
abbrev hkdfDerive : Nat := 0x402A
abbrev hkdfData : Nat := 0x402B

end Ckm

namespace Ckg

abbrev mgf1Sha1 : Nat := 0x1
abbrev mgf1Sha256 : Nat := 0x2
abbrev mgf1Sha384 : Nat := 0x3
abbrev mgf1Sha512 : Nat := 0x4
abbrev mgf1Sha224 : Nat := 0x5
abbrev mgf1Sha3_224 : Nat := 0x6
abbrev mgf1Sha3_256 : Nat := 0x7
abbrev mgf1Sha3_384 : Nat := 0x8
abbrev mgf1Sha3_512 : Nat := 0x9

end Ckg

/-! ## Mechanisms -/

/-- `CK_RSA_PKCS_PSS_PARAMS` -/
structure PssParams where
  hashAlg : Nat := 0
  mgf : Nat := 0
  sLen : Nat := 0
  deriving DecidableEq, Repr

/-- `CK_EDDSA_PARAMS` -/
structure EddsaParams where
  phFlag : Bool := false
  ulContextDataLen : Nat := 0
  pContextData : Option Bytes := none
  deriving DecidableEq, Repr

/-- `CKZ_DATA_SPECIFIED` -/
abbrev ckzDataSpecified : Nat := 1

/-- `CK_RSA_PKCS_OAEP_PARAMS` -/
structure OaepParams where
  hashAlg : Nat := 0
  mgf : Nat := 0
  source : Nat := 0
  pSourceData : Option Bytes := none
  ulSourceDataLen : Nat := 0
  deriving DecidableEq, Repr

/-- What the parameter of a mechanism points to. -/
inductive MechParameter
  | null
  | pss (params : PssParams)
  | eddsa (params : EddsaParams)
  | oaep (params : OaepParams)
  | iv (iv : Bytes)
  deriving DecidableEq, Repr

/-- `CK_MECHANISM`, with its parameter block. -/
structure Mechanism where
  mechanism : Nat
  parameter : MechParameter := .null
  deriving DecidableEq, Repr

/-- The two user types the provider logs in as. -/
inductive UserType
  /-- `CKU_USER` -/
  | user
  /-- `CKU_CONTEXT_SPECIFIC` -/
  | contextSpecific
  deriving DecidableEq, Repr

/-- `flags & mask` is not zero, the source's test for a flag. -/
def Flags.has (flags mask : Flags) : Bool := flags &&& mask != 0

end P11Prov
