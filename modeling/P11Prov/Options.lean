import Mathlib.Logic.Function.Basic
import P11Prov.Attributes
import P11Prov.Provider
import P11Prov.Uri.Slices

/-!
# Options

The options that are lists of names with spaces between them, and how they are
parsed: the usage of a key that is generated, the usage of a symmetric key, the
quirks of the module and the operations that are blocked. Each parser cuts its
string at the spaces and keeps the length of what is left on its own. `str` is the
string from the current token on.

The number of sessions to be cached is an option with a single number.
-/

namespace P11Prov

/-- The byte between two names. -/
def isBlank (c : UInt8) : Bool := c = 0x20

/-- The loop over the tokens of a string of length `len`. For each of them, `step` gets the rest of
    the string, and the length of the token. -/
def walkTokens {m : Type → Type} [Monad m] {σ : Type} (step : Bytes → Nat → σ → m σ) (str : Bytes)
    (len : Nat) (s : σ) : m σ :=
  -- where `strchr` finds a space, if it does
  let toklen := (str.takeWhile (!isBlank ·)).length
  if toklen < str.length then do
    let s ← step str toklen s
    walkTokens step (str.drop (toklen + 1)) (len - (toklen + 1)) s
  else step str len s
termination_by str.length
decreasing_by
  rw [List.length_drop]
  omega

/-- A chain of `strncmp(tok, name, toklen) == 0`, with what is done for each name. -/
def optionOf {β : Type} (table : List (Bytes × β)) (tok : Bytes) (toklen : Nat) : Option β :=
  (table.find? fun e => strncmpEq toklen tok e.1).map (·.2)

/-! ## The usage of a key -/

/-- The names of `common_key_usage_to_tmpl`. -/
inductive KeyUsage
  | dataEncipherment
  | digitalSignature
  | keyAgreement
  | keyEncipherment
  deriving DecidableEq

def keyUsageNames : List (Bytes × KeyUsage) :=
  [(ascii "dataEncipherment", .dataEncipherment), (ascii "digitalSignature", .digitalSignature),
    (ascii "keyAgreement", .keyAgreement), (ascii "keyEncipherment", .keyEncipherment)]

/-- The body of the loop: the flag of a name is set, and another token ends the function. -/
def keyUsageStep (tok : Bytes) (toklen : Nat) (flags : KeyUsage → Bool) :
    Option (KeyUsage → Bool) :=
  (optionOf keyUsageNames tok toklen).map fun u => Function.update flags u true

/-- `set_bool_val` -/
def setBoolVal (attr : CkAttribute) (val : Bool) : CkAttribute :=
  { attr with pValue := some [if val then 1 else 0] }

/-- `common_key_usage_set_attrs` -/
def commonKeyUsageSetAttrs (template : List CkAttribute) (flags : KeyUsage → Bool) :
    List CkAttribute :=
  template.map fun attr =>
    if attr.type = ckaEncrypt ∨ attr.type = ckaDecrypt then
      setBoolVal attr (flags .dataEncipherment)
    else if attr.type = ckaVerify ∨ attr.type = ckaVerifyRecover ∨ attr.type = ckaSign ∨
        attr.type = ckaSignRecover then
      setBoolVal attr (flags .digitalSignature)
    else if attr.type = ckaDerive then setBoolVal attr (flags .keyAgreement)
    else if attr.type = ckaWrap ∨ attr.type = ckaUnwrap then
      setBoolVal attr (flags .keyEncipherment)
    else attr

/-- `common_key_usage_to_tmpl`, with the templates it leaves. -/
def commonKeyUsageToTmpl (keyUsage : Option Bytes) (pubtmpl privtmpl : List CkAttribute) :
    CkRv × List CkAttribute × List CkAttribute :=
  match keyUsage with
  -- leave defaults as set by templates
  | none => (Ckr.ok, pubtmpl, privtmpl)
  | some str =>
    match walkTokens keyUsageStep str str.length fun _ => false with
    | none => (Ckr.argumentsBad, pubtmpl, privtmpl)
    | some flags =>
      (Ckr.ok, commonKeyUsageSetAttrs pubtmpl flags, commonKeyUsageSetAttrs privtmpl flags)

/-! ## The usage of a symmetric key -/

/-- The names of `p11prov_cipher_usage_to_flags`. -/
inductive CipherUsage
  | encrypt
  | mac
  | wrap
  | derive
  deriving DecidableEq

def cipherUsageNames : List (Bytes × CipherUsage) :=
  [(ascii "encrypt", .encrypt), (ascii "mac", .mac), (ascii "wrap", .wrap),
    (ascii "derive", .derive)]

/-- `CKF_ENCRYPT | CKF_DECRYPT`, `CKF_SIGN | CKF_VERIFY`, `CKF_WRAP | CKF_UNWRAP` and
    `CKF_DERIVE` -/
def CipherUsage.flags : CipherUsage → Flags
  | .encrypt => 0x300
  | .mac => 0x2800
  | .wrap => 0x60000
  | .derive => 0x80000

/-- The body of the loop for a token of length `tlen`, which has to be that of the name. -/
def addCipherUsage (tok : Bytes) (tlen : Int) (flags : Flags) : Except CkRv Flags :=
  match cipherUsageNames.find? fun e => tlen = e.1.length ∧ strncmpEq e.1.length tok e.1 with
  | some e => .ok (flags ||| e.2.flags)
  | none => .error Ckr.argumentsBad

/-- The conversion of an integer to `size_t`. -/
def toSize (n : Int) : Nat := (n % 0x10000000000000000).toNat

/-- The next `int`, if there is one; an overflow is not defined. -/
def incInt (n : Int) : Option Int := if n = intMax then none else some (n + 1)

/-- The loop of `p11prov_cipher_usage_to_flags`. The lengths of the tokens are `int`s, and `slen` is
    what is left to be parsed. -/
def cipherUsageLoop (str : Bytes) (slen : Nat) (flags : Flags) : ExceptT CkRv Option Flags :=
  if slen = 0 then return flags
  else
    let n := (str.takeWhile (!isBlank ·)).length
    if n < str.length then do
      -- the length and the space are counted with an `int`, what is left with a `size_t`
      let used ← incInt (toInt n)
      let flags ← addCipherUsage str (toInt n) flags
      cipherUsageLoop (str.drop (n + 1)) (toSize (slen - used)) flags
    else addCipherUsage str (toInt slen) flags
termination_by str.length
decreasing_by
  rw [List.length_drop]
  omega

/-- `p11prov_cipher_usage_to_flags`: what it returns, if that is defined. -/
def cipherUsageToFlags (usage : Option Bytes) : Option (Except CkRv Flags) :=
  match usage with
  | none => some (.error Ckr.argumentsBad)
  | some str => (cipherUsageLoop str str.length 0).run

/-! ## The configuration of the provider -/

/-- The names that `pkcs11-module-quirks` may list. -/
inductive Quirk
  | noDeinit
  | noAllowedMechanisms
  | noOperationState
  | noSessionCallbacks
  deriving DecidableEq

def quirkNames : List (Bytes × Quirk) :=
  [(ascii "no-deinit", .noDeinit), (ascii "no-allowed-mechanisms", .noAllowedMechanisms),
    (ascii "no-operation-state", .noOperationState),
    (ascii "no-session-callbacks", .noSessionCallbacks)]

/-- The members of the context that the quirks set. -/
structure CfgQuirks where
  noDeinit : Bool := false
  noAllowedMechanisms : Bool := false
  blockedCalls : BitVec 64 := 0
  noSessionCallbacks : Bool := false
  deriving DecidableEq

/-- `P11PROV_BLOCK_GetOperationState` -/
abbrev blockGetOperationState : BitVec 64 := 8

/-- What a quirk sets. -/
def CfgQuirks.set (ctx : CfgQuirks) : Quirk → CfgQuirks
  | .noDeinit => { ctx with noDeinit := true }
  | .noAllowedMechanisms => { ctx with noAllowedMechanisms := true }
  | .noOperationState => { ctx with blockedCalls := ctx.blockedCalls ||| blockGetOperationState }
  | .noSessionCallbacks => { ctx with noSessionCallbacks := true }

/-- The body of the loop over the quirks. -/
def quirkStep (tok : Bytes) (toklen : Nat) (ctx : CfgQuirks) : Id CfgQuirks :=
  match optionOf quirkNames tok toklen with
  | some quirk => ctx.set quirk
  | none => ctx

/-- `OSSL_provider_init`: the quirks. -/
def initQuirks (cfg : Option Bytes) : CfgQuirks :=
  match cfg with
  | none => {}
  | some str => Id.run (walkTokens quirkStep str str.length {})

/-- `OSSL_OP__HIGHEST`: the number of `OSSL_OP_STORE`, with and without `OSSL_OP_SKEYMGMT`. -/
abbrev opHighest : Nat := 22

/-- `p11prov_block_ops_names`: the operations of OpenSSL that have a name, with their numbers, in the
    order of the array. -/
def blockOpsNames (build : Build) : List (Bytes × Nat) :=
  (ascii "digest", 1) :: (if build.skeySupport then [(ascii "cipher", 2)] else []) ++
    [(ascii "mac", 3), (ascii "kdf", 4), (ascii "rand", 5), (ascii "keymgmt", 10),
      (ascii "keyexch", 11), (ascii "signature", 12), (ascii "asym-cipher", 13),
      (ascii "kem", 14)] ++
    (if build.skeySupport then [(ascii "skeymgmt", 15)] else []) ++
    [(ascii "encoder", 20), (ascii "decoder", 21), (ascii "store", opHighest)]

/-- The body of the loop over the operations to be blocked. -/
def blockOpStep (build : Build) (tok : Bytes) (toklen : Nat) (blocked : Nat → Bool) :
    Id (Nat → Bool) :=
  -- the loop over the array ends before `OSSL_OP__HIGHEST`
  match optionOf ((blockOpsNames build).filter fun e => e.2 < opHighest) tok toklen with
  | some i => Function.update blocked i true
  | none => blocked

/-- `OSSL_provider_init`: the operations that are blocked. -/
def initBlockedOps (build : Build) (cfg : Option Bytes) : Nat → Bool :=
  match cfg with
  | none => fun _ => false
  | some str => Id.run (walkTokens (blockOpStep build) str str.length fun _ => false)

/-- `MAX_CACHE_SESSIONS` -/
abbrev maxCacheSessions : Nat := 5

/-- `OSSL_provider_init`: the number of sessions to be cached, unless its option is invalid. -/
def initCacheSessions (cfg : Option Bytes) : Option Nat :=
  match cfg with
  | none => some maxCacheSessions
  | some str =>
    match parseUlongAt str str.length with
    | .error _ => none
    | .ok val => if maxConcurrentSessions < val then none else some val

end P11Prov
