import P11Prov.Pkcs11

/-!
# The algorithms of the provider

`operations_init` looks at the mechanisms of all slots and fills one table of
algorithms for each operation, as OpenSSL asks for them. A mechanism counts if
it is on a checklist; what it adds, and which mechanisms it takes off the
checklist, is said by one `case` of a `switch`. The `switch` is a list of these
cases here, and the loops of the source go through it.

A table is the array as far as it was written: `none` is the empty entry at its
end, and the empty list is the null pointer of a table that was never
allocated. The memory for four entries is asked for at a time; `alloc op i` says
whether it is there when entry `i` of the table of `op` is written.
-/

namespace P11Prov

/-- What depends on the version of OpenSSL: whether it knows signatures of messages
    (`OSSL_FUNC_SIGNATURE_SIGN_MESSAGE_INIT`) and symmetric key objects (`SKEY_SUPPORT`). -/
structure Build where
  signMessage : Bool
  skeySupport : Bool
  deriving DecidableEq, Repr

/-- The operations with a table of their own. -/
inductive Operation
  | digest
  | kdf
  | random
  | exchange
  | signature
  | asymCipher
  | kem
  | cipher
  deriving DecidableEq, Repr

inductive AesSize
  | aes256
  | aes192
  | aes128
  deriving DecidableEq, Repr

inductive AesMode
  | ecb
  | cbc
  | ofb
  | cfb
  | cfb1
  | cfb8
  | ctr
  | cts
  deriving DecidableEq, Repr

/-- The names of the algorithms, `P11PROV_NAMES_*`. -/
inductive AlgName
  | rsa
  | rsaSha1
  | rsaSha224
  | rsaSha256
  | rsaSha384
  | rsaSha512
  | rsaSha3_224
  | rsaSha3_256
  | rsaSha3_384
  | rsaSha3_512
  | ecdsa
  | ecdsaSha1
  | ecdsaSha224
  | ecdsaSha256
  | ecdsaSha384
  | ecdsaSha512
  | ecdsaSha3_224
  | ecdsaSha3_256
  | ecdsaSha3_384
  | ecdsaSha3_512
  | ecdh
  | hkdf
  | tls13Kdf
  | sha1
  | sha2_224
  | sha2_256
  | sha2_384
  | sha2_512
  | sha2_512_224
  | sha2_512_256
  | sha3_224
  | sha3_256
  | sha3_384
  | sha3_512
  | ed25519
  | ed448
  | ed25519ph
  | ed25519ctx
  | ed448ph
  | mlDsa44
  | mlDsa65
  | mlDsa87
  | mlKem512
  | mlKem768
  | mlKem1024
  | rand
  | aes (size : AesSize) (mode : AesMode)
  deriving DecidableEq, Repr

/-- The two property strings of `get_default_properties`. -/
inductive Properties
  | fips
  | default
  deriving DecidableEq, Repr

/-- `OSSL_ALGORITHM`. The dispatch table and the description go with the name. -/
structure Algorithm where
  names : AlgName
  prop : Properties
  deriving DecidableEq, Repr

/-- `get_default_properties` -/
def defaultProperties (assumeFips : Bool) : Properties := if assumeFips then .fips else .default

/-! ## The checklist -/

def digestMechs : List Nat :=
  [Ckm.sha1, Ckm.sha224, Ckm.sha256, Ckm.sha384, Ckm.sha512, Ckm.sha512_224, Ckm.sha512_256,
    Ckm.sha3_224, Ckm.sha3_256, Ckm.sha3_384, Ckm.sha3_512]

/-- The mechanisms of `RSA_SIG_MECHS` that hash. -/
def rsaShaMechs : List Nat :=
  [Ckm.sha1RsaPkcs, Ckm.sha224RsaPkcs, Ckm.sha256RsaPkcs, Ckm.sha384RsaPkcs, Ckm.sha512RsaPkcs,
    Ckm.sha3_224RsaPkcs, Ckm.sha3_256RsaPkcs, Ckm.sha3_384RsaPkcs, Ckm.sha3_512RsaPkcs]

def rsaSigMechs : List Nat := Ckm.rsaPkcs :: rsaShaMechs

def rsapssSigMechs : List Nat :=
  [Ckm.rsaPkcsPss, Ckm.sha1RsaPkcsPss, Ckm.sha224RsaPkcsPss, Ckm.sha256RsaPkcsPss,
    Ckm.sha384RsaPkcsPss, Ckm.sha512RsaPkcsPss, Ckm.sha3_224RsaPkcsPss, Ckm.sha3_256RsaPkcsPss,
    Ckm.sha3_384RsaPkcsPss, Ckm.sha3_512RsaPkcsPss]

/-- The mechanisms of `RSA_ENC_MECHS` that only encrypt. -/
def rsaOnlyEncMechs : List Nat := [Ckm.rsaPkcsOaep, Ckm.rsaX509, Ckm.rsaX9_31]

def rsaEncMechs : List Nat := Ckm.rsaPkcs :: rsaOnlyEncMechs

/-- The mechanisms of `ECDSA_SIG_MECHS` that hash. -/
def ecdsaShaMechs : List Nat :=
  [Ckm.ecdsaSha1, Ckm.ecdsaSha224, Ckm.ecdsaSha256, Ckm.ecdsaSha384, Ckm.ecdsaSha512,
    Ckm.ecdsaSha3_224, Ckm.ecdsaSha3_256, Ckm.ecdsaSha3_384, Ckm.ecdsaSha3_512]

def ecdsaSigMechs : List Nat := Ckm.ecdsa :: ecdsaShaMechs

def pqcMechs : List Nat :=
  [Ckm.mlDsa, Ckm.mlDsaKeyPairGen, Ckm.mlKem, Ckm.mlKemKeyPairGen]

def aesMechs : List Nat :=
  [Ckm.aesEcb, Ckm.aesCbc, Ckm.aesCbcPad, Ckm.aesCtr, Ckm.aesCts, Ckm.aesOfb, Ckm.aesCfb8,
    Ckm.aesCfb128, Ckm.aesCfb1]

/-- The checklist `operations_init` starts with. -/
def checklist (b : Build) : List Nat :=
  [Ckm.rsaPkcsKeyPairGen] ++ rsaSigMechs ++ rsapssSigMechs ++ rsaEncMechs ++ [Ckm.ecKeyPairGen] ++
    ecdsaSigMechs ++ [Ckm.ecdh1Derive, Ckm.ecdh1CofactorDerive, Ckm.hkdfDerive] ++ digestMechs ++
    [Ckm.eddsa] ++ pqcMechs ++ if b.skeySupport then aesMechs else []

/-! ## The cases -/

/-- A case of the `switch`: the algorithms it adds, in order, the flags it sets for after the
    loop, and the mechanisms it takes off the checklist. -/
structure Case where
  algos : List (Operation × AlgName) := []
  addRsasig : Bool := false
  addRsaenc : Bool := false
  addEcdsasig : Bool := false
  uncheck : List Nat
  deriving DecidableEq, Repr

/-- The case of a mechanism that signs with RSA and a digest. -/
def rsaShaCase (mech : Nat) (name : AlgName) : List Nat × Case :=
  ([mech],
    { algos := [(.signature, name)]
      addRsasig := true
      uncheck := [mech, Ckm.rsaPkcsKeyPairGen] })

/-- The case of a mechanism that signs with ECDSA and a digest. -/
def ecdsaShaCase (mech : Nat) (name : AlgName) : List Nat × Case :=
  ([mech],
    { algos := [(.signature, name)]
      addEcdsasig := true
      uncheck := [Ckm.ecKeyPairGen, mech] })

/-- The case of a digest. -/
def digestCase (mech : Nat) (name : AlgName) : List Nat × Case :=
  ([mech], { algos := [(.digest, name)], uncheck := [mech] })

/-- The case of a mode of AES. -/
def aesCase (mechs : List Nat) (mode : AesMode) : List Nat × Case :=
  (mechs,
    { algos := [(.cipher, .aes .aes256 mode), (.cipher, .aes .aes192 mode),
        (.cipher, .aes .aes128 mode)]
      uncheck := mechs })

/-- The cases for RSA signatures with a digest; without signatures of messages they are one. -/
def rsaShaCases (b : Build) : List (List Nat × Case) :=
  if b.signMessage then
    [rsaShaCase Ckm.sha1RsaPkcs .rsaSha1, rsaShaCase Ckm.sha224RsaPkcs .rsaSha224,
      rsaShaCase Ckm.sha256RsaPkcs .rsaSha256, rsaShaCase Ckm.sha384RsaPkcs .rsaSha384,
      rsaShaCase Ckm.sha512RsaPkcs .rsaSha512, rsaShaCase Ckm.sha3_224RsaPkcs .rsaSha3_224,
      rsaShaCase Ckm.sha3_256RsaPkcs .rsaSha3_256, rsaShaCase Ckm.sha3_384RsaPkcs .rsaSha3_384,
      rsaShaCase Ckm.sha3_512RsaPkcs .rsaSha3_512]
  else
    [(rsaShaMechs, { addRsasig := true, uncheck := Ckm.rsaPkcsKeyPairGen :: rsaSigMechs })]

/-- The cases for ECDSA signatures with a digest; without signatures of messages they are one. -/
def ecdsaShaCases (b : Build) : List (List Nat × Case) :=
  if b.signMessage then
    [ecdsaShaCase Ckm.ecdsaSha1 .ecdsaSha1, ecdsaShaCase Ckm.ecdsaSha224 .ecdsaSha224,
      ecdsaShaCase Ckm.ecdsaSha256 .ecdsaSha256, ecdsaShaCase Ckm.ecdsaSha384 .ecdsaSha384,
      ecdsaShaCase Ckm.ecdsaSha512 .ecdsaSha512, ecdsaShaCase Ckm.ecdsaSha3_224 .ecdsaSha3_224,
      ecdsaShaCase Ckm.ecdsaSha3_256 .ecdsaSha3_256, ecdsaShaCase Ckm.ecdsaSha3_384 .ecdsaSha3_384,
      ecdsaShaCase Ckm.ecdsaSha3_512 .ecdsaSha3_512]
  else
    [(ecdsaShaMechs, { addEcdsasig := true, uncheck := Ckm.ecKeyPairGen :: ecdsaShaMechs })]

def digestCases : List (List Nat × Case) :=
  [digestCase Ckm.sha1 .sha1, digestCase Ckm.sha224 .sha2_224, digestCase Ckm.sha256 .sha2_256,
    digestCase Ckm.sha384 .sha2_384, digestCase Ckm.sha512 .sha2_512,
    digestCase Ckm.sha512_224 .sha2_512_224, digestCase Ckm.sha512_256 .sha2_512_256,
    digestCase Ckm.sha3_224 .sha3_224, digestCase Ckm.sha3_256 .sha3_256,
    digestCase Ckm.sha3_384 .sha3_384, digestCase Ckm.sha3_512 .sha3_512]

def aesCases (b : Build) : List (List Nat × Case) :=
  if b.skeySupport then
    [aesCase [Ckm.aesEcb] .ecb, aesCase [Ckm.aesCbc, Ckm.aesCbcPad] .cbc, aesCase [Ckm.aesOfb] .ofb,
      aesCase [Ckm.aesCfb128] .cfb, aesCase [Ckm.aesCfb1] .cfb1, aesCase [Ckm.aesCfb8] .cfb8,
      aesCase [Ckm.aesCtr] .ctr, aesCase [Ckm.aesCts] .cts]
  else []

/-- The `switch` of `operations_init`, with the mechanisms of each case. -/
def switch (b : Build) : List (List Nat × Case) :=
  [([Ckm.rsaPkcsKeyPairGen], { uncheck := [Ckm.rsaPkcsKeyPairGen] }),
    ([Ckm.rsaPkcs],
      { addRsasig := true
        addRsaenc := true
        uncheck := Ckm.rsaPkcsKeyPairGen :: rsaEncMechs })] ++
  rsaShaCases b ++
  [(rsapssSigMechs, { addRsasig := true, uncheck := Ckm.rsaPkcsKeyPairGen :: rsapssSigMechs }),
    (rsaOnlyEncMechs, { addRsaenc := true, uncheck := Ckm.rsaPkcsKeyPairGen :: rsaEncMechs }),
    ([Ckm.ecKeyPairGen], { uncheck := [Ckm.ecKeyPairGen] }),
    ([Ckm.ecdsa], { addEcdsasig := true, uncheck := [Ckm.ecKeyPairGen, Ckm.ecdsa] })] ++
  ecdsaShaCases b ++
  [([Ckm.ecdh1Derive, Ckm.ecdh1CofactorDerive],
      { algos := [(.exchange, .ecdh)]
        uncheck := [Ckm.ecKeyPairGen, Ckm.ecdh1Derive, Ckm.ecdh1CofactorDerive] }),
    ([Ckm.hkdfDerive],
      { algos := [(.kdf, .hkdf), (.kdf, .tls13Kdf), (.exchange, .hkdf)]
        uncheck := [Ckm.hkdfDerive] })] ++
  digestCases ++
  [([Ckm.eddsa],
      { algos := [(.signature, .ed25519), (.signature, .ed448)] ++
          if b.signMessage then
            [(.signature, .ed25519ph), (.signature, .ed25519ctx), (.signature, .ed448ph)]
          else []
        uncheck := [Ckm.ecEdwardsKeyPairGen, Ckm.eddsa] }),
    ([Ckm.mlDsa, Ckm.mlDsaKeyPairGen],
      { algos := [(.signature, .mlDsa44), (.signature, .mlDsa65), (.signature, .mlDsa87)]
        uncheck := [Ckm.mlDsaKeyPairGen, Ckm.mlDsa] }),
    ([Ckm.mlKem, Ckm.mlKemKeyPairGen],
      { algos := [(.kem, .mlKem512), (.kem, .mlKem768), (.kem, .mlKem1024)]
        uncheck := [Ckm.mlKemKeyPairGen, Ckm.mlKem] })] ++
  aesCases b

/-- The case of a mechanism, if there is one. -/
def mechCase (b : Build) (mech : Nat) : Option Case :=
  ((switch b).find? (·.1.contains mech)).map (·.2)

/-! ## The tables -/

/-- The tables of the operations. -/
abbrev Tables := Operation → List (Option Algorithm)

/-- Whether the memory for the entries of a table from the given one on can be had. -/
abbrev Alloc := Operation → Nat → Bool

/-- `ALGOS_ALLOC` -/
abbrev algosAlloc : Nat := 4

/-- `alg_set_op` on the next entry of a table; fails if there is no memory for it. -/
def algSetOp (alloc : Alloc) (t : Tables) (op : Operation) (alg : Option Algorithm) :
    Except Tables Tables :=
  if (t op).length % algosAlloc = 0 && !alloc op (t op).length then .error t
  else .ok (Function.update t op (t op ++ [alg]))

/-- Entries of tables, one after the other; `ADD_ALGO` and `TERM_ALGO` return at the first that
    cannot be stored. -/
def algSetOps (alloc : Alloc) : Tables → List (Operation × Option Algorithm) → Except Tables Tables
  | t, [] => .ok t
  | t, (op, alg) :: ws => do algSetOps alloc (← algSetOp alloc t op alg) ws

/-- The entries `ADD_ALGO` stores for the names of algorithms. -/
def algEntries (prop : Properties) (l : List (Operation × AlgName)) :
    List (Operation × Option Algorithm) := l.map fun (op, names) => (op, some { names, prop })

/-- The variables of `operations_init`. -/
structure OpsInit where
  checklist : List Nat
  tables : Tables := fun _ => []
  addRsasig : Bool := false
  addRsaenc : Bool := false
  addEcdsasig : Bool := false

/-- `alg_rm_mechs` -/
def algRmMechs (checklist rmlist : List Nat) : List Nat := checklist.filter (!rmlist.contains ·)

section

variable (b : Build) (alloc : Alloc) (prop : Properties)

/-- One mechanism of a slot. -/
def initMech (s : OpsInit) (mech : Nat) : Except Tables OpsInit :=
  if s.checklist.contains mech then
    match mechCase b mech with
    | none => .ok s
    | some c => do
      let tables ← algSetOps alloc s.tables (algEntries prop c.algos)
      return {
        checklist := algRmMechs s.checklist c.uncheck
        tables
        addRsasig := s.addRsasig || c.addRsasig
        addRsaenc := s.addRsaenc || c.addRsaenc
        addEcdsasig := s.addEcdsasig || c.addEcdsasig }
  else .ok s

/-- The mechanisms of a slot, until the checklist is empty. -/
def initSlot : OpsInit → List Nat → Except Tables OpsInit
  | s, [] => .ok s
  | s, mech :: mechs =>
    if s.checklist = [] then .ok s
    else do initSlot (← initMech b alloc prop s mech) mechs

/-- The mechanisms of all slots. -/
def initSlots : OpsInit → List (List Nat) → Except Tables OpsInit
  | s, [] => .ok s
  | s, mechs :: slots => do initSlots (← initSlot b alloc prop s mechs) slots

/-- The tables that are terminated before the random numbers are looked at. -/
def tableOps : List Operation :=
  [.digest, .kdf, .exchange, .signature, .asymCipher, .kem] ++ if b.skeySupport then [.cipher] else []

/-- The algorithms added after the loop. -/
def lateAlgos (s : OpsInit) : List (Operation × AlgName) :=
  (if s.addRsasig then [(.signature, .rsa)] else []) ++
    (if s.addEcdsasig then [(.signature, .ecdsa)] else []) ++
    if s.addRsaenc then [(.asymCipher, .rsa)] else []

/-- The empty entries `TERM_ALGO` puts after the tables that have entries. -/
def termAlgos (ops : List Operation) (t : Tables) : List (Operation × Option Algorithm) :=
  (ops.filter (t · ≠ [])).map (·, none)

/-- `operations_init` from the point where the slots were looked at. -/
def finishOps (checkRandom : CkRv) (s : OpsInit) : Except Tables Tables := do
  let t ← algSetOps alloc s.tables (algEntries prop (lateAlgos s))
  let t ← algSetOps alloc t (termAlgos (tableOps b) t)
  if checkRandom = Ckr.ok then
    algSetOps alloc t (algEntries prop [(.random, .rand)] ++ [(.random, none)])
  else
    return t

/-- `operations_init` on the mechanisms of the slots; `checkRandom` is what
    `p11prov_check_random` returns. If an entry cannot be stored, it returns `RET_OSSL_ERR`. -/
def operationsInit (checkRandom : CkRv) (slots : List (List Nat)) : CkRv × Tables :=
  match initSlots b alloc prop { checklist := checklist b } slots >>=
      finishOps b alloc prop checkRandom with
  | .ok t => (Ckr.ok, t)
  | .error t => (retOsslErr, t)

end

end P11Prov
