import P11Prov.KeySchedule

/-!
# Resetting a context

`p11prov_hkdf_reset` zeroes a context of either algorithm. The flag that tells the
algorithms apart is a member like the others, so that a context of the TLS 1.3 KDF
takes the parameters of HKDF from then on. `p11prov_hkdf_set_ctx_params` takes the
parameters one after the other, and frees the key that it replaces before there is
another one.

Here a context has all members. The calls of a parameter that is taken come with
their answers (`SetAnswers`), those of a derivation with an oracle.
-/

namespace P11Prov.KeySchedule

open Interaction

/-! ## Contexts -/

/-- `struct p11prov_kdf_ctx`, with all members, and whether the object that `key` points to was
    freed. -/
structure KdfState extends KdfCtx where
  saltType : Nat := 0
  info : Option Bytes := none
  dangling : Bool := false

/-- `p11prov_hkdf_newctx` and `p11prov_tls13_kdf_newctx` -/
def kdfNewctx : KdfAlg → KdfState
  | .hkdf => {}
  | .tls13Kdf => { isTls13Kdf := true }

/-- `p11prov_hkdf_reset`: all is zeroed but the provider context. -/
def KdfState.reset (_ : KdfState) : KdfState := {}

/-- `p11prov_hkdf_set_skey` -/
def KdfState.setSkey (c : KdfState) (key : Option ObjId) (paramname : Bytes) : KdfState :=
  if paramname ≠ ascii "key" then c else { c with key, dangling := false }

/-! ## Parameters -/

/-- What the calls of `p11prov_hkdf_set_ctx_params` return: the session, if none is had yet, the key
    that is made on it, and how many parameters `info` there is memory for. An octet string for
    which there is no memory is like one without data. -/
structure SetAnswers where
  session : Option SessId
  created : Option ObjId
  infos : Nat

/-- The parameters, in the order in which they are taken. -/
inductive KdfParam
  | digest
  | mode
  | key
  | salt
  | info
  | prefixData
  | label
  | data
  deriving DecidableEq

/-- The bytes of a parameter as they are in memory. -/
def rawData : OsslData → Option Bytes
  | .utf8String s | .utf8Ptr s | .octetString s => s
  | .integer v => some (Encoding.BigEndian.bytes 8 (v % 0x10000000000000000).toNat).reverse
  | .unsignedInteger v => some (Encoding.BigEndian.bytes 8 v).reverse

namespace KdfState

variable (c : KdfState) (params : List OsslParam) (a : SetAnswers)

/-- A parameter that is kept in a member of its own. -/
def take (s : Setter KdfCtx) : Nat × KdfState :=
  ((s.run params c.toKdfCtx).1, { c with toKdfCtx := (s.run params c.toKdfCtx).2 })

/-- `OSSL_KDF_PARAM_KEY`: the key is freed, and then there is a session and a new key, or not. -/
def setKey : Nat × KdfState :=
  match locate params (ascii "key") with
  | none => (retOsslOk, c)
  | some p =>
    match p.getOctetString with
    | none => (retOsslErr, c)
    | some _ =>
      match c.session.or a.session with
      | none => (retOsslErr, { c with dangling := c.key.isSome })
      | some s =>
        match a.created with
        | none => (retOsslErr, { c with key := none, session := some s, dangling := false })
        | some o => (retOsslOk, { c with key := some o, session := some s, dangling := false })

/-- `OSSL_KDF_PARAM_SALT` -/
def setSalt : Nat × KdfState :=
  let r := c.take params saltSetter
  if r.1 = retOsslOk ∧ (locate params (ascii "salt")).isSome then
    (r.1, { r.2 with saltType := ckfHkdfSaltData })
  else r

/-- The loop over the parameters `OSSL_KDF_PARAM_INFO`. -/
def addInfos : Nat → List OsslData → KdfState → Nat × KdfState
  | _, [], c => (retOsslOk, c)
  | n, p :: infos, c =>
    match (rawData p).getD [] with
    | [] => (retOsslErr, c)
    | b :: bs =>
      match n with
      | 0 => (retOsslErr, { c with info := none })
      | n + 1 => addInfos n infos { c with info := some (c.info.getD [] ++ b :: bs) }

/-- `OSSL_KDF_PARAM_INFO`, which a context of the TLS 1.3 KDF loses once its mode is one that it
    takes. -/
def setInfo : Nat × KdfState :=
  if c.isTls13Kdf then
    if c.mode = modeExtractAndExpand then (retOsslErr, c) else (retOsslOk, { c with info := none })
  else
    match (params.filter (·.key = ascii "info")).map (·.data) with
    | [] => (retOsslOk, c)
    | p :: infos => addInfos a.infos (p :: infos) { c with info := none }

/-- Takes a parameter. -/
def setParam : KdfParam → Nat × KdfState
  | .digest => c.take params hashSetter
  | .mode => c.take params modeSetter
  | .key => c.setKey params a
  | .salt => c.setSalt params
  | .info => c.setInfo params a
  | .prefixData => c.take params prefixSetter
  | .label => c.take params labelSetter
  | .data => c.take params dataSetter

end KdfState

/-- The parameters that a context takes. -/
def kdfParams (isTls13Kdf : Bool) : List KdfParam :=
  [.digest, .mode, .key, .salt, .info] ++ if isTls13Kdf then [.prefixData, .label, .data] else []

/-- The result of `p11prov_hkdf_set_ctx_params`, the parameters that it got to, and the context. -/
structure SetOut where
  ret : Nat
  reached : List KdfParam
  state : KdfState

/-- Takes parameters in their order, up to the first one that is refused. -/
def setParams (params : List OsslParam) (a : SetAnswers) : List KdfParam → KdfState → SetOut
  | [], c => ⟨retOsslOk, [], c⟩
  | p :: ps, c =>
    let r := c.setParam params a p
    if r.1 ≠ retOsslOk then ⟨r.1, [p], r.2⟩
    else
      let out := setParams params a ps r.2
      { out with reached := p :: out.reached }

/-- `p11prov_hkdf_set_ctx_params` -/
def KdfState.setCtxParams (c : KdfState) (a : SetAnswers) : Option (List OsslParam) → SetOut
  | none => ⟨retOsslOk, [], c⟩
  | some params => setParams params a (kdfParams c.isTls13Kdf) c

/-! ## Derivation -/

/-- `p11prov_hkdf_format_params` -/
def KdfState.formatParams (c : KdfState) : Option CkHkdfParams :=
  if c.hashMech = 0 then none
  else some
    { bExtract := c.mode = modeExtractAndExpand ∨ c.mode = modeExtractOnly
      bExpand := c.mode = modeExtractAndExpand ∨ c.mode = modeExpandOnly
      prfHashMechanism := c.hashMech
      -- `CKF_HKDF_SALT_NULL`
      ulSaltType := if c.saltType = 0 then 1 else c.saltType
      pSalt := if c.saltType = ckfHkdfSaltData then c.salt else none
      pInfo := c.info }

/-- `p11prov_hkdf_derive` after its parameters. -/
def hkdfDeriveOn (c : KdfState) (hasBuffer : Bool) (keylen : Nat) : T (Nat × Bytes × KdfCtx) :=
  match c.key with
  | none => return (retOsslErr, [], c.toKdfCtx)
  | some key =>
    if !hasBuffer ∨ keylen = 0 then return (retOsslErr, [], c.toKdfCtx)
    else
      match c.formatParams with
      | none => return (retOsslErr, [], c.toKdfCtx)
      | some params => do
        match ← innerDeriveKey c.toKdfCtx key ⟨Ckm.hkdfData, params⟩ ckUnavailableInformation
            keylen with
        | (.error _, c) => return (retOsslErr, [], c)
        | (.ok dkey, c) =>
          let (ret, key) ← innerExtractKeyValue c dkey keylen
          return (if ret = Ckr.ok then retOsslOk else retOsslErr, key, c)

/-- The derivation that the dispatch table of an algorithm has. -/
def kdfDeriveOn (c : KdfState) (hasBuffer : Bool) (keylen : Nat) (buf : LabelBuffer) :
    KdfAlg → T (Nat × Bytes × KdfCtx)
  | .hkdf => hkdfDeriveOn c hasBuffer keylen
  | .tls13Kdf => tls13KdfDeriveOn c.toKdfCtx hasBuffer keylen buf

/-- Answers to the calls of a derivation, by their number. -/
abbrev KdfOracle := Nat → (c : TokenCall) → c.Resp

/-- What a program returns under an oracle. -/
def answered {α : Type} (ω : KdfOracle) (p : T α) : α :=
  (exec { adm := fun _ _ _ => True, next := fun n _ _ => n + 1 } ω p 0).1

/-! ## Calls -/

/-- A call. -/
inductive KdfCall
  | setSkey (key : Option ObjId) (paramname : Bytes)
  | setCtxParams (params : Option (List OsslParam)) (a : SetAnswers)
  | derive (hasBuffer : Bool) (keylen : Nat) (buf : LabelBuffer) (params : Option (List OsslParam))
      (a : SetAnswers) (ω : KdfOracle)
  | reset

/-- What a call returns, with the buffer after it, and the context. -/
def KdfState.call (alg : KdfAlg) (c : KdfState) : KdfCall → (Nat × Bytes) × KdfState
  | .setSkey key paramname => ((retOsslOk, []), c.setSkey key paramname)
  | .setCtxParams params a => (((c.setCtxParams a params).ret, []), (c.setCtxParams a params).state)
  | .derive hasBuffer keylen buf params a ω =>
    let out := c.setCtxParams a params
    if out.ret ≠ retOsslOk then ((retOsslErr, []), out.state)
    else
      let r := answered ω (kdfDeriveOn out.state hasBuffer keylen buf alg)
      ((r.1, r.2.1), { out.state with toKdfCtx := r.2.2 })
  | .reset => ((retOsslOk, []), c.reset)

/-- The contexts that calls which meet a condition lead to. -/
inductive KdfReaches (alg : KdfAlg) (P : KdfState → KdfCall → Prop) : KdfState → Prop
  | new : KdfReaches alg P (kdfNewctx alg)
  | call {c : KdfState} {call : KdfCall} (h : KdfReaches alg P c) (hcall : P c call) :
      KdfReaches alg P (c.call alg call).2

/-! ## The contract -/

/-- A parameter is in one context what it is in the other. -/
def KdfState.SameAt (c c' : KdfState) : KdfParam → Prop
  | .digest => c'.hashMech = c.hashMech
  | .mode => c'.mode = c.mode
  | .key => c'.key = c.key
  | .salt => c'.salt = c.salt ∧ c'.saltType = c.saltType
  | .info => c'.info = c.info
  | .prefixData => c'.prefixData = c.prefixData
  | .label => c'.label = c.label
  | .data => c'.data = c.data

/-- The parameter is an octet string, if it is there. -/
def OctetOk (params : List OsslParam) (key : Bytes) : Prop :=
  ∀ p ∈ locate params key, p.getOctetString.isSome = true

/-- The parameters after the key are ones that the context takes. -/
structure KdfState.TakesRest (c : KdfState) (params : List OsslParam) (a : SetAnswers) : Prop where
  salt : OctetOk params (ascii "salt")
  mode : c.isTls13Kdf = true →
    ((locate params (ascii "mode")).bind modeValue).getD c.mode ≠ modeExtractAndExpand
  buffers : c.isTls13Kdf = true → OctetOk params (ascii "prefix") ∧
    OctetOk params (ascii "label") ∧ OctetOk params (ascii "data")
  infos : c.isTls13Kdf = false →
    ∀ infos, infos = (params.filter (·.key = ascii "info")).map (·.data) →
      infos.length ≤ a.infos ∧ ∀ p ∈ infos, (rawData p).getD [] ≠ []

/-- The key is given. -/
def KeyGiven (params : List OsslParam) : Prop :=
  ∃ p ∈ locate params (ascii "key"), p.getOctetString.isSome = true

/-- A key that is replaced: the parameters before it are taken, and it is an octet string. -/
structure KdfState.Replaces (c : KdfState) (params : List OsslParam) : Prop where
  digest : (c.take params hashSetter).1 = retOsslOk
  mode : ((c.take params hashSetter).2.take params modeSetter).1 = retOsslOk
  key : KeyGiven params

/-- Where a key is replaced, there is a session if there is a key, and if there is a new key the
    context takes the parameters after it. -/
structure KdfState.KeyFits (c : KdfState) (params : List OsslParam) (a : SetAnswers) : Prop where
  session : c.key.isSome = true → (c.session.or a.session).isSome = true
  rest : (c.session.or a.session).isSome = true → a.created.isSome = true → c.TakesRest params a

/-- The calls that fit. -/
def KdfState.Fits (alg : KdfAlg) (c : KdfState) : KdfCall → Prop
  | .setSkey _ _ => True
  | .setCtxParams params a => ∀ ps ∈ params, c.Replaces ps → c.KeyFits ps a
  | .derive _ _ _ params a _ =>
    ∀ ps ∈ params, c.Replaces ps → c.key.isSome = true → (c.session.or a.session).isSome = true
  | .reset => alg = .hkdf

/-! ## One parameter -/

variable {c : KdfState} {params : List OsslParam} {a : SetAnswers} {alg : KdfAlg} {p q : KdfParam}

/-- What a setter does, if the parameter is there. -/
theorem take_cases (c : KdfState) (params : List OsslParam) (s : Setter KdfCtx) :
    c.take params s = (retOsslOk, c) ∨ ∃ v ∈ locate params s.key, c.take params s =
      ((s.set c.toKdfCtx v).1, { c with toKdfCtx := (s.set c.toKdfCtx v).2 }) := by
  rw [KdfState.take, Setter.run]
  cases locate params s.key with
  | none => exact .inl rfl
  | some v => exact .inr ⟨v, rfl, rfl⟩

/-- A context differs from another in one parameter at most. -/
structure KdfState.Only (p : KdfParam) (c c' : KdfState) : Prop where
  same : ∀ q, q ≠ p → c.SameAt c' q
  alg : c'.isTls13Kdf = c.isTls13Kdf
  held : p ≠ .key → c'.session = c.session ∧ c'.dangling = c.dangling

namespace KdfState.Only

theorem refl : Only p c c where
  same q _ := by cases q <;> first | rfl | exact ⟨rfl, rfl⟩
  alg := rfl
  held _ := ⟨rfl, rfl⟩

theorem digest (hashMech : Nat) : Only .digest c { c with hashMech } where
  same q hq := by cases q <;> first | rfl | exact ⟨rfl, rfl⟩ | exact absurd rfl hq
  alg := rfl
  held _ := ⟨rfl, rfl⟩

theorem mode (mode : Int) : Only .mode c { c with mode } where
  same q hq := by cases q <;> first | rfl | exact ⟨rfl, rfl⟩ | exact absurd rfl hq
  alg := rfl
  held _ := ⟨rfl, rfl⟩

theorem key (key : Option ObjId) (session : Option SessId) (dangling : Bool) :
    Only .key c { c with key, session, dangling } where
  same q hq := by cases q <;> first | rfl | exact ⟨rfl, rfl⟩ | exact absurd rfl hq
  alg := rfl
  held h := absurd rfl h

theorem salt (salt : Option Bytes) (saltType : Nat) : Only .salt c { c with salt, saltType } where
  same q hq := by cases q <;> first | rfl | exact ⟨rfl, rfl⟩ | exact absurd rfl hq
  alg := rfl
  held _ := ⟨rfl, rfl⟩

theorem info (info : Option Bytes) : Only .info c { c with info } where
  same q hq := by cases q <;> first | rfl | exact ⟨rfl, rfl⟩ | exact absurd rfl hq
  alg := rfl
  held _ := ⟨rfl, rfl⟩

theorem prefixData (prefixData : Option Bytes) : Only .prefixData c { c with prefixData } where
  same q hq := by cases q <;> first | rfl | exact ⟨rfl, rfl⟩ | exact absurd rfl hq
  alg := rfl
  held _ := ⟨rfl, rfl⟩

theorem label (label : Option Bytes) : Only .label c { c with label } where
  same q hq := by cases q <;> first | rfl | exact ⟨rfl, rfl⟩ | exact absurd rfl hq
  alg := rfl
  held _ := ⟨rfl, rfl⟩

theorem data (data : Option Bytes) : Only .data c { c with data } where
  same q hq := by cases q <;> first | rfl | exact ⟨rfl, rfl⟩ | exact absurd rfl hq
  alg := rfl
  held _ := ⟨rfl, rfl⟩

/-- A setter of a context that changes one member. -/
theorem take {s : Setter KdfCtx}
    (h : ∀ v, Only p c { c with toKdfCtx := (s.set c.toKdfCtx v).2 }) :
    Only p c (c.take params s).2 := by
  obtain h' | ⟨v, -, h'⟩ := take_cases c params s
  · rw [h']
    exact .refl
  · rw [h']
    exact h v

end KdfState.Only

theorem addInfos_eq (n : Nat) (infos : List OsslData) (c : KdfState) :
    ∃ info, (KdfState.addInfos n infos c).2 = { c with info } := by
  induction infos generalizing n c with
  | nil => exact ⟨c.info, by rw [KdfState.addInfos]⟩
  | cons p infos ih =>
    rw [KdfState.addInfos]
    split
    · exact ⟨c.info, rfl⟩
    split
    · exact ⟨none, rfl⟩
    · exact ih _ _

/-- A parameter changes what it is kept in, and no other. -/
theorem setParam_only (c : KdfState) (params : List OsslParam) (a : SetAnswers) (p : KdfParam) :
    KdfState.Only p c (c.setParam params a p).2 := by
  cases p with
  | digest =>
    refine .take fun v => ?_
    simp only [hashSetter]
    repeat' split
    all_goals first | exact .refl | exact .digest _
  | mode =>
    refine .take fun v => ?_
    simp only [modeSetter]
    repeat' split
    all_goals first | exact .refl | exact .mode _
  | key =>
    rw [KdfState.setParam, KdfState.setKey]
    repeat' split
    all_goals first | exact .refl | exact .key _ _ _
  | salt =>
    have htake : ∃ salt, (c.take params saltSetter).2 = { c with salt } := by
      obtain h | ⟨v, -, h⟩ := take_cases c params saltSetter
      · exact ⟨c.salt, by rw [h]⟩
      · rw [h]
        simp only [saltSetter, bufferSetter]
        split <;> exact ⟨_, rfl⟩
    obtain ⟨salt, hsalt⟩ := htake
    rw [KdfState.setParam, KdfState.setSalt]
    split
    · simp only [hsalt]
      exact .salt _ _
    · rw [hsalt]
      exact .salt _ _
  | info =>
    rw [KdfState.setParam, KdfState.setInfo]
    split
    · split
      · exact .refl
      · exact .info _
    split
    · exact .refl
    · rename_i v infos _
      obtain ⟨info, h⟩ := addInfos_eq a.infos (v :: infos) { c with info := none }
      rw [h]
      exact .info _
  | prefixData =>
    refine .take fun v => ?_
    simp only [prefixSetter, bufferSetter]
    split <;> exact .prefixData _
  | label =>
    refine .take fun v => ?_
    simp only [labelSetter, bufferSetter]
    split <;> exact .label _
  | data =>
    refine .take fun v => ?_
    simp only [dataSetter, bufferSetter]
    split <;> exact .data _

/-! ## All parameters -/

theorem KdfState.SameAt.refl : c.SameAt c q := by
  cases q <;> first | rfl | exact ⟨rfl, rfl⟩

theorem KdfState.SameAt.trans {c' c'' : KdfState} (h : c.SameAt c' q) (h' : c'.SameAt c'' q) :
    c.SameAt c'' q := by
  cases q with
  | salt => exact ⟨h'.1.trans h.1, h'.2.trans h.2⟩
  | _ => exact Eq.trans h' h

/-- Parameters other than the key leave it and the session alone. -/
theorem setParams_held (c : KdfState) (params : List OsslParam) (a : SetAnswers)
    (ps : List KdfParam) (hkey : .key ∉ ps) :
    (setParams params a ps c).state.key = c.key ∧
      (setParams params a ps c).state.dangling = c.dangling := by
  induction ps generalizing c with
  | nil => exact ⟨rfl, rfl⟩
  | cons p ps ih =>
    rw [List.mem_cons, not_or] at hkey
    have hp := setParam_only c params a p
    have hheld := hp.held (Ne.symm hkey.1)
    have hsame : (c.setParam params a p).2.key = c.key := hp.same .key hkey.1
    rw [setParams]
    simp only
    split
    · exact ⟨hsame, hheld.2⟩
    · obtain ⟨hk, hd⟩ := ih (c.setParam params a p).2 hkey.2
      exact ⟨hk.trans hsame, hd.trans hheld.2⟩

/-- Parameters that are taken whenever the algorithm and the mode are those of the context. -/
theorem setParams_ok (ps : List KdfParam) (hmode : .mode ∉ ps)
    (h : ∀ p ∈ ps, ∀ c' : KdfState, c'.isTls13Kdf = c.isTls13Kdf → c'.mode = c.mode →
      (c'.setParam params a p).1 = retOsslOk) : (setParams params a ps c).ret = retOsslOk := by
  induction ps generalizing c with
  | nil => rfl
  | cons p ps ih =>
    rw [List.mem_cons, not_or] at hmode
    have hp := setParam_only c params a p
    have hsame : (c.setParam params a p).2.mode = c.mode := hp.same .mode hmode.1
    rw [setParams]
    simp only [h p List.mem_cons_self c rfl rfl, ne_eq, not_true_eq_false, if_false]
    refine ih hmode.2 fun q hq c' htls hm => ?_
    exact h q (List.mem_cons_of_mem _ hq) c' (htls.trans hp.alg) (hm.trans hsame)

/-! ## What is refused -/

theorem take_octets {key : Bytes} {assign : KdfCtx → Option Bytes → KdfCtx}
    (h : OctetOk params key) : (c.take params (bufferSetter key assign)).1 = retOsslOk := by
  obtain h' | ⟨v, hv, h'⟩ := take_cases c params (bufferSetter key assign)
  · rw [h']
  · rw [h']
    obtain ⟨value, hvalue⟩ := Option.isSome_iff_exists.1 (h v hv)
    simp [bufferSetter, hvalue]

theorem addInfos_ok (n : Nat) (infos : List OsslData) (hlen : infos.length ≤ n)
    (hne : ∀ p ∈ infos, (rawData p).getD [] ≠ []) (c : KdfState) :
    (KdfState.addInfos n infos c).1 = retOsslOk := by
  induction infos generalizing n c with
  | nil => rw [KdfState.addInfos]
  | cons p infos ih =>
    rw [KdfState.addInfos]
    split
    · rename_i hnil
      exact absurd hnil (hne p List.mem_cons_self)
    split
    · simp at hlen
    · refine ih _ (by simpa using hlen) (fun q hq => hne q (List.mem_cons_of_mem _ hq)) _

/-- The parameters after the key. -/
def restParams (isTls13Kdf : Bool) : List KdfParam :=
  [.salt, .info] ++ if isTls13Kdf then [.prefixData, .label, .data] else []

theorem kdfParams_eq (isTls13Kdf : Bool) :
    kdfParams isTls13Kdf = .digest :: .mode :: .key :: restParams isTls13Kdf := rfl

theorem restParams_ne (isTls13Kdf : Bool) :
    .key ∉ restParams isTls13Kdf ∧ .mode ∉ restParams isTls13Kdf := by
  cases isTls13Kdf <;> decide

/-- The mode after it was taken. -/
theorem take_mode (h : (c.take params modeSetter).1 = retOsslOk) :
    (c.take params modeSetter).2.mode =
      ((locate params (ascii "mode")).bind modeValue).getD c.mode := by
  rw [KdfState.take, Setter.run] at h ⊢
  rw [show modeSetter.key = ascii "mode" from rfl] at h ⊢
  cases hl : locate params (ascii "mode") with
  | none => rfl
  | some v =>
    rw [hl] at h
    simp only [modeSetter] at h ⊢
    cases hv : modeValue v with
    | none =>
      rw [hv] at h
      have hne : retOsslErr ≠ retOsslOk := by decide
      exact absurd h hne
    | some m =>
      simp only [Option.bind_some, hv, Option.getD_some]
      split <;> rfl

/-- The parameters after the key are taken. -/
theorem restParams_ok {c₀ : KdfState} (h : c₀.TakesRest params a)
    (halg : c.isTls13Kdf = c₀.isTls13Kdf)
    (hmode : c.mode = ((locate params (ascii "mode")).bind modeValue).getD c₀.mode) :
    (setParams params a (restParams c₀.isTls13Kdf) c).ret = retOsslOk := by
  refine setParams_ok _ (restParams_ne _).2 fun p hp c' halg' hmode' => ?_
  rw [halg] at halg'
  rw [hmode] at hmode'
  have hsalt : (c'.setParam params a .salt).1 = retOsslOk := by
    have htake : (c'.take params saltSetter).1 = retOsslOk := take_octets h.salt
    rw [KdfState.setParam, KdfState.setSalt]
    simp only
    split <;> exact htake
  cases htls : c₀.isTls13Kdf with
  | true =>
    rw [htls] at hp halg'
    have hinfo : (c'.setParam params a .info).1 = retOsslOk := by
      rw [KdfState.setParam, KdfState.setInfo, if_pos halg', if_neg]
      exact hmode' ▸ h.mode htls
    obtain ⟨hpre, hlabel, hdata⟩ := h.buffers htls
    simp only [restParams, if_true, List.cons_append, List.nil_append, List.mem_cons,
      List.not_mem_nil, or_false] at hp
    rcases hp with rfl | rfl | rfl | rfl | rfl
    · exact hsalt
    · exact hinfo
    · exact take_octets hpre
    · exact take_octets hlabel
    · exact take_octets hdata
  | false =>
    rw [htls] at hp halg'
    simp only [restParams, Bool.false_eq_true, if_false, List.append_nil, List.mem_cons,
      List.not_mem_nil, or_false] at hp
    rcases hp with rfl | rfl
    · exact hsalt
    · obtain ⟨hlen, hne⟩ := h.infos htls _ rfl
      rw [KdfState.setParam, KdfState.setInfo, if_neg (by simp [halg'])]
      split
      · rfl
      · rename_i v infos hinfos
        rw [hinfos] at hlen hne
        exact addInfos_ok _ _ hlen hne _

/-! ## Calls that fit -/

/-- What becomes of the key. -/
inductive KeyTaken (c : KdfState) (params : List OsslParam) (a : SetAnswers) : Nat × KdfState → Prop
  | absent {ret : Nat} : KeyTaken c params a (ret, c)
  | noSession (hgiven : KeyGiven params) (h : (c.session.or a.session).isSome = false) :
      KeyTaken c params a (retOsslErr, { c with dangling := c.key.isSome })
  | noKey {session : Option SessId} :
      KeyTaken c params a (retOsslErr, { c with key := none, session, dangling := false })
  | taken {key : Option ObjId} {session : Option SessId} (hgiven : KeyGiven params)
      (h : (c.session.or a.session).isSome = true) (hkey : a.created.isSome = true) :
      KeyTaken c params a (retOsslOk, { c with key, session, dangling := false })

theorem setKey_taken (c : KdfState) (params : List OsslParam) (a : SetAnswers) :
    KeyTaken c params a (c.setParam params a .key) := by
  rw [KdfState.setParam, KdfState.setKey]
  cases hl : locate params (ascii "key") with
  | none => exact .absent
  | some p =>
    dsimp only
    cases hp : p.getOctetString with
    | none => exact .absent
    | some secret =>
      have hgiven : KeyGiven params := ⟨p, hl, by rw [hp]; rfl⟩
      dsimp only
      cases hs : c.session.or a.session with
      | none => exact .noSession hgiven (by rw [hs]; rfl)
      | some s =>
        dsimp only
        cases ha : a.created with
        | none => exact .noKey
        | some o => exact .taken hgiven (by rw [hs]; rfl) (by rw [ha]; rfl)

theorem setParams_refused {ps : List KdfParam} (h : (c.setParam params a p).1 ≠ retOsslOk) :
    (setParams params a (p :: ps) c).state = (c.setParam params a p).2 := by
  rw [setParams]
  simp only [if_pos h]

theorem setParams_taken {ps : List KdfParam} (h : (c.setParam params a p).1 = retOsslOk) :
    (setParams params a (p :: ps) c).ret = (setParams params a ps (c.setParam params a p).2).ret ∧
      (setParams params a (p :: ps) c).state =
        (setParams params a ps (c.setParam params a p).2).state := by
  rw [setParams]
  simp only [h, ne_eq, not_true_eq_false, if_false]
  exact ⟨trivial, trivial⟩

/-- The key from the point where it is taken. -/
theorem setParams_key {c₀ : KdfState} (hd : c.dangling = false)
    (halg : c.isTls13Kdf = c₀.isTls13Kdf)
    (hmode : c.mode = ((locate params (ascii "mode")).bind modeValue).getD c₀.mode)
    (hsession : KeyGiven params →
      c.key.isSome = true → (c.session.or a.session).isSome = true) :
    (setParams params a (.key :: restParams c₀.isTls13Kdf) c).state.dangling = false ∧
      ((KeyGiven params →
          (c.session.or a.session).isSome = true → a.created.isSome = true →
            c₀.TakesRest params a) →
        (setParams params a (.key :: restParams c₀.isTls13Kdf) c).ret ≠ retOsslOk →
        (setParams params a (.key :: restParams c₀.isTls13Kdf) c).state.key = c.key ∨
          (setParams params a (.key :: restParams c₀.isTls13Kdf) c).state.key = none) := by
  have hne : retOsslErr ≠ retOsslOk := by decide
  have htaken := setKey_taken c params a
  generalize hr : c.setParam params a .key = r at htaken
  cases htaken with
  | absent =>
    rename_i ret
    by_cases hret : ret = retOsslOk
    · have hok : (c.setParam params a .key).1 = retOsslOk := by rw [hr]; exact hret
      have hheld := setParams_held c params a _ (restParams_ne c₀.isTls13Kdf).1
      rw [(setParams_taken hok).2, hr]
      exact ⟨hheld.2.trans hd, fun _ _ => .inl hheld.1⟩
    · have href : (c.setParam params a .key).1 ≠ retOsslOk := by rw [hr]; exact hret
      rw [setParams_refused href, hr]
      exact ⟨hd, fun _ _ => .inl rfl⟩
  | noSession hgiven hnone =>
    have href : (c.setParam params a .key).1 ≠ retOsslOk := by rw [hr]; exact hne
    rw [setParams_refused href, hr]
    refine ⟨Bool.eq_false_iff.2 fun hkey => ?_, fun _ _ => .inl rfl⟩
    rw [hsession hgiven hkey] at hnone
    cases hnone
  | noKey =>
    have href : (c.setParam params a .key).1 ≠ retOsslOk := by rw [hr]; exact hne
    rw [setParams_refused href, hr]
    exact ⟨rfl, fun _ _ => .inr rfl⟩
  | taken hgiven hsome hkey =>
    have hok : (c.setParam params a .key).1 = retOsslOk := by rw [hr]
    refine ⟨?_, fun hrest hfail => absurd ?_ hfail⟩
    · rw [(setParams_taken hok).2, (setParams_held _ params a _ (restParams_ne _).1).2, hr]
    · rw [(setParams_taken hok).1, hr]
      exact restParams_ok (hrest hgiven hsome hkey) halg hmode

/-- The key after a call that fits: it is held, and if the call fails it is the one before or
    none. -/
theorem setCtxParams_key (hd : c.dangling = false)
    (hsession : c.Replaces params → c.key.isSome = true → (c.session.or a.session).isSome = true) :
    (c.setCtxParams a params).state.dangling = false ∧
      ((c.Replaces params → (c.session.or a.session).isSome = true → a.created.isSome = true →
          c.TakesRest params a) → (c.setCtxParams a params).ret ≠ retOsslOk →
        (c.setCtxParams a params).state.key = c.key ∨
          (c.setCtxParams a params).state.key = none) := by
  rw [KdfState.setCtxParams, kdfParams_eq]
  have hdigest := setParam_only c params a .digest
  have hd₁ := (hdigest.held (by decide)).2.trans hd
  by_cases h₁ : (c.setParam params a .digest).1 = retOsslOk
  · have hmode := setParam_only (c.setParam params a .digest).2 params a .mode
    have hd₂ := (hmode.held (by decide)).2.trans hd₁
    have hkey : ((c.setParam params a .digest).2.setParam params a .mode).2.key = c.key :=
      (hdigest.same .key (by decide)).trans (hmode.same .key (by decide))
    have hs : ((c.setParam params a .digest).2.setParam params a .mode).2.session = c.session :=
      (hmode.held (by decide)).1.trans (hdigest.held (by decide)).1
    have hm : (c.setParam params a .digest).2.mode = c.mode := hdigest.same .mode (by decide)
    rw [(setParams_taken h₁).1, (setParams_taken h₁).2]
    by_cases h₂ : ((c.setParam params a .digest).2.setParam params a .mode).1 = retOsslOk
    · rw [(setParams_taken h₂).1, (setParams_taken h₂).2]
      have htail := setParams_key (a := a) hd₂ (hmode.alg.trans hdigest.alg)
        (hm ▸ take_mode (c := (c.setParam params a .digest).2) h₂)
      rw [hkey, hs] at htail
      obtain ⟨hheld, hfail⟩ := htail fun hgiven => hsession ⟨h₁, h₂, hgiven⟩
      exact ⟨hheld, fun hrest => hfail fun hgiven => hrest ⟨h₁, h₂, hgiven⟩⟩
    · rw [setParams_refused h₂]
      exact ⟨hd₂, fun _ _ => .inl hkey⟩
  · rw [setParams_refused h₁]
    exact ⟨hd₁, fun _ _ => .inl (hdigest.same .key (by decide))⟩

/-! ## Runs -/

/-- No call that fits leaves a key that was freed. -/
theorem KdfReaches.held {alg : KdfAlg} (h : KdfReaches alg (KdfState.Fits alg) c) :
    c.dangling = false := by
  induction h with
  | new => cases alg <;> rfl
  | @call c call _ hfits ih =>
    cases call with
    | setSkey key paramname =>
      rw [KdfState.call, KdfState.setSkey]
      split
      · exact ih
      · rfl
    | setCtxParams params a =>
      cases params with
      | none => exact ih
      | some params => exact (setCtxParams_key ih fun hrep => (hfits params rfl hrep).session).1
    | derive hasBuffer keylen buf params a ω =>
      have hset : (c.setCtxParams a params).state.dangling = false := by
        cases params with
        | none => exact ih
        | some params => exact (setCtxParams_key ih fun hrep => hfits params rfl hrep).1
      rw [KdfState.call]
      simp only
      split
      · exact hset
      · exact hset
    | reset => rfl

end P11Prov.KeySchedule
