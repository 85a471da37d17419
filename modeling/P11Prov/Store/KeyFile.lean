import P11Prov.Encoding.Integer
import P11Prov.Object.RoundTrip
import P11Prov.Store.Delivery
import P11Prov.Text.Base64
import P11Prov.Uri.RoundTrip

/-!
# Key files

A private key that is on a token is written to a file as its URI: in a structure
of ASN.1 with a description, as PEM. The decoders of the provider read the URI
and let the store fetch the objects that it names, each of them those of one type
of key. ASN.1 and PEM are those of OpenSSL, which reads what it wrote.

In every run of `store_fetch` a file leads back to its key or to nothing, if no
other object on a token that the URI matches has the class, the identifier and the
label of the key. If the slot of the key is visited and nothing fails, the key is
read by some decoder exactly where its type has one (`keyFile_read_iff`): the
decoder that is registered for RSA-PSS keys looks for RSA keys, and there is none
for ML-DSA and ML-KEM.
-/

namespace P11Prov

open Interaction Walk

/-! ## The functions -/

/-- `P11PROV_PK11_URI` -/
structure Pk11Uri where
  desc : Bytes
  uri : Bytes
  deriving DecidableEq

/-- `P11PROV_DESCS_URI_FILE` -/
def descsUriFile : Bytes := ascii "PKCS#11 Provider URI v1.0"

/-- `P11PROV_PEM_LABEL` -/
def pemLabel : Bytes := ascii "PKCS#11 PROVIDER URI"

/-- What OpenSSL does with the structure, by its template, and with PEM. -/
structure KeyFileLib where
  i2dPk11Uri : Pk11Uri → Bytes
  d2iPk11Uri : Bytes → Option Pk11Uri
  /-- `PEM_ASN1_write_bio`, by label and contents -/
  pemWrite : Bytes → Bytes → Bytes
  /-- `PEM_read_bio` -/
  pemRead : Bytes → Option (Bytes × Bytes)

/-- OpenSSL reads what it wrote. -/
structure KeyFileLib.Reads (lib : KeyFileLib) : Prop where
  d2i : ∀ obj, obj.desc.length < intMax → obj.uri.length < intMax → lib.i2dPk11Uri obj ≠ [] ∧
    lib.d2iPk11Uri (lib.i2dPk11Uri obj) = some obj
  pem : ∀ der, lib.pemRead (lib.pemWrite pemLabel der) = some (pemLabel, der)

/-- `p11prov_obj_get_key_type` -/
def Obj.keyType (obj : Obj) : Nat :=
  if obj.cls ∈ [Cko.privateKey, Cko.publicKey, Cko.domainParameters, Cko.secretKey] then
    obj.key.type
  else ckUnavailableInformation

section Encoder

variable (lib : KeyFileLib) (ctx : Ctx)

/-- `p11prov_encoder_private_key_to_asn1` -/
def privateKeyToAsn1 (key : Obj) : Option Pk11Uri :=
  (objToUri ctx key).map fun uri => { desc := descsUriFile, uri := cStr uri }

/-- `p11prov_encoder_private_key_write_pem`: the text that is written. -/
def privateKeyWritePem (expectedKeyType : Nat) (key : Obj) : Option Bytes :=
  if key.keyType ≠ expectedKeyType then none
  else (privateKeyToAsn1 ctx key).map fun asn1 => lib.pemWrite pemLabel (lib.i2dPk11Uri asn1)

/-- The encoders of private keys, by the type of key that they expect. -/
def privKeyInfoEncoders : List Nat := [ckkRsa, ckkEc, ckkEcEdwards, ckkMlDsa, ckkMlKem]

end Encoder

section Decoder

variable {ν : Type} (lib : KeyFileLib) (slib : StoreLib ν)

/-- `obj_desc_verify` -/
def objDescVerify (obj : Pk11Uri) : Bool :=
  obj.desc ≠ [] ∧ obj.desc.length = descsUriFile.length ∧
    strncmpEq obj.desc.length obj.desc descsUriFile = true

/-- `%*s`: a string at the end of a field of at least this width. -/
def padLeft (width : Nat) (s : Bytes) : Bytes := .replicate (width - s.length) 0x20 ++ s

/-- `obj_uri_get1` -/
def objUriGet1 (obj : Pk11Uri) : Option Bytes :=
  if obj.uri = [] then none
  else allocSprintf obj.uri.length (padLeft obj.uri.length (cStr obj.uri))

/-- The data type among the parameters of the callback. -/
def StoreInfo.dataType : StoreInfo → String
  | .pkey dataType _ | .skey dataType _ | .cert dataType _ => dataType

/-- What a callback gets of what `filter_for_desired_data_type` gets. -/
def desiredData (desired : String) (handed : List StoreInfo) : List StoreInfo :=
  handed.filter (·.dataType = desired)

/-- `filter_for_desired_data_type`, with the callback behind it. -/
def filterForDesiredDataType (desired : String) (cb : ObjectCb) : ObjectCb := fun handed info =>
  if info.dataType = desired then cb (desiredData desired handed) info else retOsslOk

/-- `p11prov_store_direct_fetch`, with what its callback gets; `fetch` is what `store_fetch`
    delivers for a URI. -/
def storeDirectFetch (files : PinFiles) (fetch : Uri → Delivery) (cb : ObjectCb) (uri : Bytes) :
    Nat × List StoreInfo :=
  match parseUri files uri with
  | none => (retOsslErr, [])
  | some uri =>
    match directFetchLoop slib (fetch uri) cb ((fetch uri).objects.length + 1) retOsslOk
      { search := {} } with
    | none => (retOsslErr, [])
    | some (ret, it) => (ret, it.handed)

variable (files : PinFiles) (fetch : Uri → Delivery) (desired : String) (cb : ObjectCb)

/-- `load_obj`, which always carries on: what the callback of the decoder gets. -/
def loadObj (der : Bytes) : List StoreInfo :=
  match lib.d2iPk11Uri der with
  | none => []
  | some obj =>
    if objDescVerify obj = false then []
    else
      match objUriGet1 obj with
      | none => []
      | some uri =>
        desiredData desired
          (storeDirectFetch slib files fetch (filterForDesiredDataType desired cb) uri).2

/-- `p11prov_der_decoder_p11prov_obj_decode` -/
def derDecode (der : Bytes) : List StoreInfo :=
  if der = [] then [] else loadObj lib slib files fetch desired cb der

/-- `p11prov_pem_decoder_p11prov_der_decode`: the data for the decoders of `P11PROV_DER_STRUCTURE`. -/
def pemDecode (text : Bytes) : Option Bytes :=
  match lib.pemRead text with
  | none => none
  | some (label, der) => if label = pemLabel then some der else none

/-- What a decoder finds in a file. -/
def decodeKeyFile (text : Bytes) : List StoreInfo :=
  match pemDecode lib text with
  | none => []
  | some der => derDecode lib slib files fetch desired cb der

/-- The decoders that are registered, for RSA, RSA-PSS, EC, Ed25519 and Ed448 keys, by the type of
    data that they look for. -/
def derDecoders : List String := ["RSA", "RSA", "EC", "ED25519", "ED448"]

end Decoder

/-! ## The key on its token -/

/-- The object of the token cannot be told from the key by its class, identifier and label. -/
structure TokenAttrs.Resembles (tok : TokenAttrs) (key : Obj) : Prop where
  cls : tok.answer ckaClass = .value (ulongBytes key.cls)
  id : ∀ id ∈ nonEmpty ((key.getAttr ckaId).getD []), tok.answer ckaId = .value id
  label : ∀ label ∈ nonEmpty ((key.getAttr ckaLabel).getD []), tok.answer ckaLabel = .value label

/-- The key was made of an object of the token in a slot, and its URI names nothing else: there is
    no zero byte in its label, it is shorter than `INT_MAX`, and no other object on a token that it
    matches resembles the key. -/
structure NamedByUri (ctx : Ctx) (lib : EcLib) (ts : SlotTokens) (slot : Slot)
    (handle : ObjectHandle) (key : Obj) : Prop where
  found : ctx.getSlotById slot.id = some slot
  ids : ctx.slotIds.Nodup
  unavailable : ckUnavailableInformation ∉ ctx.slotIds
  mem : handle ∈ (ts.token slot.id).handles
  handles : (ts.token slot.id).handles.Nodup
  cls : ((ts.token slot.id).attrs handle).answer ckaClass = .value (ulongBytes Cko.privateKey)
  made : ∃ supported,
    (objFromToken lib slot.id handle ((ts.token slot.id).attrs handle) supported).1 = .ok key
  label : ∀ label, key.getAttr ckaLabel = some label → 0 ∉ label
  short : (key.uriText slot (ascii "private")).length < intMax
  only : ∀ slot' ∈ ctx.slotsFor (key.uriFields slot), ∀ handle' ∈ (ts.token slot'.id).handles,
    ((ts.token slot'.id).attrs handle').Resembles key → slot'.id = slot.id ∧ handle' = handle

/-! ## The attributes of a key -/

section Attrs

variable {lib : EcLib} {tok : TokenAttrs} {key obj : Obj} {type : Nat} {supported : Bool}

theorem getAttr_append_ne {l : List (Nat × Bytes)} (h : ∀ a ∈ l, a.1 ≠ type) :
    Obj.getAttr { key with attrs := key.attrs ++ l } type = key.getAttr type := by
  have hnone : l.find? (·.1 = type) = none := by
    rw [List.find?_eq_none]
    intro a ha heq
    exact h a ha (of_decide_eq_true heq)
  rw [Obj.getAttr, Obj.getAttr, List.find?_append, hnone, Option.or_none]

theorem getAttr_fetchAllowedMechanisms (h : type ≠ ckaAllowedMechanisms) :
    (fetchAllowedMechanisms tok supported key).1.getAttr type = key.getAttr type := by
  rw [fetchAllowedMechanisms]
  split
  · simp only
    split
    · refine getAttr_append_ne fun a ha => ?_
      rw [List.mem_singleton.1 ha]
      exact h.symm
    · rfl
  · rfl

theorem getAttr_preProcessEcKeyData (h : preProcessEcKeyData lib key = .ok obj)
    (ht : type ∉ [ckaP11provCurveNid, ckaP11provCurveName]) (hp : type ≠ ckaP11provPubKey) :
    obj.getAttr type = key.getAttr type := by
  rw [preProcessEcKeyData] at h
  split at h
  · cases h
  split at h
  · cases h
  simp only at h
  split at h
  · obtain rfl := Except.ok.inj h
    exact getAttr_setCurve ht
  split at h
  · cases h
  obtain rfl := Except.ok.inj h
  refine (getAttr_append_ne fun a ha => ?_).trans (getAttr_setCurve ht)
  rw [List.mem_singleton.1 ha]
  exact hp.symm

/-- What is made of the attributes of a key comes after them. -/
theorem getAttr_fetchKeyData (h : fetchKeyData lib key = .ok obj)
    (ht : type ∉ [ckaP11provCurveNid, ckaP11provCurveName]) (hp : type ≠ ckaP11provPubKey) :
    obj.getAttr type = key.getAttr type := by
  have hsize {size : Nat} (h : (.ok (key.setKeySize size) : Except CkRv Obj) = .ok obj) :
      obj.getAttr type = key.getAttr type := by
    obtain rfl := Except.ok.inj h
    rfl
  rw [fetchKeyData] at h
  split at h
  · split at h
    · cases h
    · exact hsize h
  split at h
  · exact getAttr_preProcessEcKeyData h ht hp
  split at h
  · split at h
    · cases h
    · exact hsize h
  split at h
  · split at h
    · cases h
    · exact hsize h
  split at h
  · obtain rfl := Except.ok.inj h
    rfl
  split at h
  · cases h
  · exact hsize h

/-- The number of bits of an Edwards key is that of its curve. -/
theorem bitSize_edwards (h : fetchKeyData lib key = .ok obj) (htype : key.key.type = ckkEcEdwards) :
    obj.key.bitSize = 256 ∨ obj.key.bitSize = 456 := by
  have hcurve {ecparams : Bytes} {curve : Curve}
      (h : ecCurve lib ckkEcEdwards ecparams = some curve) :
      curve.bits = 256 ∨ curve.bits = 456 := by
    rw [ecCurve, if_neg (by decide), if_pos rfl] at h
    split at h
    · obtain rfl := Option.some.inj h
      exact .inl rfl
    split at h
    · obtain rfl := Option.some.inj h
      exact .inr rfl
    split at h
    · cases h
    split at h
    · obtain rfl := Option.some.inj h
      exact .inl rfl
    split at h
    · obtain rfl := Option.some.inj h
      exact .inr rfl
    · cases h
  rw [fetchKeyData, if_neg (htype ▸ by decide), if_pos (.inr htype), preProcessEcKeyData] at h
  split at h
  · cases h
  split at h
  · cases h
  rename_i curve hc
  have hbits := hcurve (htype ▸ hc)
  simp only at h
  split at h
  · obtain rfl := Except.ok.inj h
    exact hbits
  split at h
  · cases h
  · obtain rfl := Except.ok.inj h
    exact hbits

end Attrs

/-! ## Writing -/

section Write

variable {lib : KeyFileLib} {ctx : Ctx} {eclib : EcLib} {ts : SlotTokens} {slot : Slot}
  {handle : ObjectHandle} {key k : Obj} {supported : Bool}

theorem cStr_eq_self {s : Bytes} (h : 0 ∉ s) : cStr s = s := by
  refine List.takeWhile_eq_self_iff.2 fun c hc => ?_
  rw [decide_eq_true_eq]
  rintro rfl
  exact h hc

/-- The URI of a private key is a C string that can be parsed. -/
theorem uri_of_key (hslot : ctx.getSlotById key.slotid = some slot)
    (hcls : key.cls = Cko.privateKey)
    (hlabel : ∀ label, key.getAttr ckaLabel = some label → 0 ∉ label)
    (hlen : (key.uriText slot (ascii "private")).length < intMax) :
    ∃ uri, objToUri ctx key = some uri ∧ uri ≠ [] ∧ 0 ∉ uri ∧ uri.length < intMax ∧
      ∀ files, parseUri files uri = some (key.uriFields slot) := by
  have htype : uriType key.cls = some (ascii "private") := by
    rw [hcls]
    rfl
  have htext := (objToUri_eq hslot htype).trans (if_pos hlen)
  obtain ⟨uri, huri, hzero, hparse, -⟩ := parse_objToUri hslot (by simp [hcls]) hlabel
    (by rwa [htype, Option.getD_some])
  obtain rfl := Option.some.inj (htext.symm.trans huri)
  refine ⟨_, huri, ?_, hzero, hlen, hparse⟩
  intro hnil
  have := hparse fun _ => .error .noent
  rw [hnil] at this
  cases this

/-- What is decoded of a file is what the store fetches for the URI of the key. -/
theorem decodeKeyFile_eq {ν : Type} {slib : StoreLib ν} (hlib : lib.Reads) {uri : Bytes}
    (hne : uri ≠ []) (hzero : 0 ∉ uri) (hlen : uri.length < intMax) (files : PinFiles)
    (fetch : Uri → Delivery) (desired : String) (cb : ObjectCb) :
    decodeKeyFile lib slib files fetch desired cb
        (lib.pemWrite pemLabel (lib.i2dPk11Uri { desc := descsUriFile, uri := uri })) =
      desiredData desired
        (storeDirectFetch slib files fetch (filterForDesiredDataType desired cb) uri).2 := by
  have hshort : descsUriFile.length < intMax := by decide
  obtain ⟨hder, hd2i⟩ := hlib.d2i { desc := descsUriFile, uri := uri } hshort hlen
  have hdesc : objDescVerify { desc := descsUriFile, uri := uri } = true := by
    simp only [objDescVerify, strncmpEq]
    decide
  have hget : objUriGet1 { desc := descsUriFile, uri := uri } = some uri := by
    rw [objUriGet1, if_neg hne, cStr_eq_self hzero, padLeft, Nat.sub_self, List.replicate_zero,
      List.nil_append, allocSprintf_eq (by exact_mod_cast hlen.le), if_pos hlen]
  simp only [decodeKeyFile, pemDecode, hlib.pem, if_true, derDecode, hder, if_false, loadObj, hd2i,
    hdesc, Bool.true_eq_false, hget]

end Write

/-! ## Fetching -/

section Fetch

variable {ν : Type} {slib : StoreLib ν} {ctx : Ctx} {eclib : EcLib} {ts : SlotTokens} {slot : Slot}
  {handle : ObjectHandle} {key k : Obj} {supported : Bool}

/-- All objects whose type has a name are handed over, if private keys are delivered. -/
theorem storeDirectFetch_eq {uri : Bytes} {u : Uri} {fetch : Uri → Delivery} {cb : ObjectCb}
    {files : PinFiles} (hparse : parseUri files uri = some u)
    (hcls : ∀ obj ∈ (fetch u).objects, obj.cls = Cko.privateKey) :
    (storeDirectFetch slib files fetch cb uri).2 =
      if (fetch u).ok then (fetch u).objects.filterMap (storeInfo slib) else [] := by
  have hiter : IteratesOnce slib {} (fetch u) cb := iteratesOnce ..
  obtain ⟨ret, n, hloop, heof⟩ := hiter.direct _ (Nat.lt_succ_self (fetch u).objects.length)
  have hall : (fetch u).objects.filter (storeMatches slib {}) = (fetch u).objects := by
    refine List.filter_eq_self.2 fun obj hobj => ?_
    rw [storeMatches, if_neg (by rw [hcls obj hobj]; decide), if_pos (.inr (hcls obj hobj))]
    rfl
  have hhanded := hiter.handed n heof
  rw [wanted_eq, hall] at hhanded
  simp only [storeDirectFetch, hparse, hloop, hhanded]

theorem ulongBytes_privateKey {tok : TokenAttrs}
    (h : tok.answer ckaClass = .value (ulongBytes Cko.privateKey)) : tok.cls = Cko.privateKey :=
  TokenAttrs.number_eq h (by decide)

/-- The objects found are those that resemble the key. -/
theorem mem_found_iff {tok : SearchToken} (hcls : key.cls = Cko.privateKey) {h : ObjectHandle} :
    h ∈ tok.found (key.uriFields slot) ↔ h ∈ tok.handles ∧ (tok.attrs h).Resembles key := by
  have hfind : findableClass (key.uriFields slot).type = true := by
    rw [Obj.uriFields, hcls]
    rfl
  have htype : (key.uriFields slot).type ≠ ckUnavailableInformation := by
    change key.cls ≠ _
    rw [hcls]
    decide
  have hattr (type : Nat) (val : Bytes) (answers : (Nat × Bytes) → Bool) :
      (findAttr type (nonEmpty val)).all answers = true ↔
        ∀ v ∈ nonEmpty val, answers (type, v) = true := by
    rw [findAttr, nonEmpty]
    by_cases hval : val = []
    · simp [hval]
    · simp [hval, List.length_eq_zero_iff]
  rw [SearchToken.found, if_pos hfind, TokenObjects.matching, List.mem_filter, TokenAttrs.matchesAll,
    searchTemplate, if_neg htype, List.all_append, List.all_append, Bool.and_eq_true,
    Bool.and_eq_true]
  refine and_congr_right fun _ => ?_
  change (_ ∧ (findAttr ckaId (nonEmpty _)).all _ = true) ∧
    (findAttr ckaLabel (nonEmpty _)).all _ = true ↔ _
  rw [hattr, hattr]
  constructor
  · rintro ⟨⟨hc, hid⟩, hl⟩
    refine ⟨?_, fun v hv => of_decide_eq_true (hid v hv), fun v hv => of_decide_eq_true (hl v hv)⟩
    simpa [Obj.uriFields] using hc
  · rintro ⟨hc, hid, hl⟩
    refine ⟨⟨?_, fun v hv => decide_eq_true (hid v hv)⟩, fun v hv => decide_eq_true (hl v hv)⟩
    simpa [Obj.uriFields] using hc

/-- What a private key that was made of an object of the token has of it. -/
structure MadeOf (lib : EcLib) (slotid : SlotId) (handle : ObjectHandle) (tok : TokenAttrs)
    (key : Obj) : Prop where
  digestible : tok.Digestible lib
  slotid : key.slotid = slotid
  handle : key.handle = handle
  cls : key.cls = Cko.privateKey
  type : key.key.type = tok.keyType
  encoder : key.key.type ∈ privKeyInfoEncoders
  attrs : ∀ type ∈ [ckaId, ckaLabel], key.getAttr type = tok.valueOf type
  edwards : key.key.type = ckkEcEdwards → key.key.bitSize = 256 ∨ key.key.bitSize = 456

theorem madeOf {tok : TokenAttrs} {slotid : SlotId}
    (h : (objFromToken eclib slotid handle tok supported).1 = .ok key)
    (hcls : tok.cls = Cko.privateKey) : MadeOf eclib slotid handle tok key := by
  rcases objFromToken_spec eclib tok slotid handle supported with ⟨-, herr⟩ | ⟨-, hreads⟩
  · rw [herr] at h
    cases h
  obtain ⟨hdig, obj, hobj, hext⟩ | ⟨-, ret, herr, -⟩ := hreads
  swap
  · rw [herr] at h
    cases h
  obtain rfl := Except.ok.inj (h.symm.trans hobj)
  have hne : tok.cls ≠ Cko.certificate := by
    rw [hcls]
    decide
  obtain ⟨⟨rs, hprep, -⟩, -⟩ := (digestible_key_iff hdig.attrs.object hne).1 hdig
  obtain ⟨raw, -, hrtype, -, hasked, -, hfetch⟩ :=
    objFromToken_key eclib hdig.attrs (.inr (.inl hcls)) hprep slotid handle supported
  rw [hobj] at hfetch
  rcases hdata : fetchKeyData eclib raw with ret | fetched
  · rw [hdata] at hfetch
    cases hfetch
  rw [hdata] at hfetch
  obtain rfl := Except.ok.inj hfetch
  -- every private key is asked for its identifier and its label
  have hrs : rs ∈ [rsaPrivateAttrs, ecPrivateAttrs, mlDsaPrivateAttrs] ∧
      tok.keyType ∈ privKeyInfoEncoders := by
    rw [hcls, prepKeyAttrs, if_neg (by decide), if_pos rfl] at hprep
    split at hprep
    · obtain rfl := Option.some.inj hprep
      exact ⟨by simp, by simp [privKeyInfoEncoders, *]⟩
    split at hprep
    · rename_i htype
      obtain rfl := Option.some.inj hprep
      exact ⟨by simp, by rcases htype with h | h <;> simp [privKeyInfoEncoders, h]⟩
    split at hprep
    · rename_i htype
      obtain rfl := Option.some.inj hprep
      exact ⟨by simp, by rcases htype with h | h <;> simp [privKeyInfoEncoders, h]⟩
    · cases hprep
  refine ⟨hdig, hext.slotid, hext.handle, hext.cls.trans hcls, hext.type, hext.type ▸ hrs.2, ?_, ?_⟩
  · intro type htype
    have hraw : raw.getAttr type = tok.valueOf type := by
      refine hasked type ⟨fetchAlloc type false, ?_, rfl, rfl⟩
      have hall : ∀ rs ∈ [rsaPrivateAttrs, ecPrivateAttrs, mlDsaPrivateAttrs],
          ∀ type ∈ [ckaId, ckaLabel], fetchAlloc type false ∈ rs := by decide
      exact hall rs hrs.1 type htype
    have hother : ∀ type ∈ [ckaId, ckaLabel], type ≠ ckaAllowedMechanisms ∧
        type ∉ [ckaP11provCurveNid, ckaP11provCurveName] ∧ type ≠ ckaP11provPubKey := by decide
    obtain ⟨ham, hcurve, hpub⟩ := hother type htype
    rw [getAttr_fetchAllowedMechanisms ham, getAttr_fetchKeyData hdata hcurve hpub, hraw]
  · intro hed
    have hbits : (fetchAllowedMechanisms tok supported fetched).1.key.bitSize =
        fetched.key.bitSize := by
      rw [fetchAllowedMechanisms]
      split
      · simp only
        split <;> rfl
      · rfl
    rw [hbits]
    exact bitSize_edwards hdata (hrtype.trans (hext.type.symm.trans hed))

end Fetch

/-! ## The key is found -/

section Found

variable {ν : Type} {slib : StoreLib ν} {O : Oracle} {ctx : Ctx} {eclib : EcLib} {ts : SlotTokens} {slot : Slot}
  {handle : ObjectHandle} {key k : Obj}

/-- What all elements but one leave out is what that one has. -/
theorem flatMap_eq_of_unique {α β : Type} {l : List α} {f : α → List β} {a : α} (hl : l.Nodup)
    (ha : a ∈ l) (h : ∀ b ∈ l, b ≠ a → f b = []) : l.flatMap f = f a := by
  obtain ⟨before, after, rfl⟩ := List.append_of_mem ha
  have hbefore : before.flatMap f = [] := by
    refine List.flatMap_eq_nil_iff.2 fun b hb => h b (List.mem_append_left _ hb) ?_
    rintro rfl
    exact (List.nodup_append.1 hl).2.2 b hb b List.mem_cons_self rfl
  have hafter : after.flatMap f = [] := by
    refine List.flatMap_eq_nil_iff.2 fun b hb =>
      h b (List.mem_append_right _ (List.mem_cons_of_mem a hb)) ?_
    rintro rfl
    exact (List.nodup_cons.1 (List.nodup_append.1 hl).2.1).1 hb
  rw [List.flatMap_append, List.flatMap_cons, hbefore, hafter, List.nil_append, List.append_nil]

theorem NamedByUri.madeOf (h : NamedByUri ctx eclib ts slot handle key) :
    MadeOf eclib slot.id handle ((ts.token slot.id).attrs handle) key := by
  obtain ⟨supported, hmade⟩ := h.made
  exact P11Prov.madeOf hmade (ulongBytes_privateKey h.cls)

/-- The object of the key resembles it. -/
theorem NamedByUri.resembles (h : NamedByUri ctx eclib ts slot handle key) :
    ((ts.token slot.id).attrs handle).Resembles key := by
  have hattr {type : Nat} (htype : type ∈ [ckaId, ckaLabel]) :
      ∀ v ∈ nonEmpty ((key.getAttr type).getD []),
        ((ts.token slot.id).attrs handle).answer type = .value v := by
    intro v hv
    rw [h.madeOf.attrs type htype, TokenAttrs.valueOf] at hv
    rcases hans : ((ts.token slot.id).attrs handle).answer type with w | _ | _ | _
    · simp only [hans, Option.getD_some, nonEmpty] at hv
      split at hv
      · cases hv
      · rw [Option.some.inj hv]
    · simp [hans, nonEmpty] at hv
    · simp [hans, nonEmpty] at hv
    · simp [hans, nonEmpty] at hv
  refine ⟨?_, hattr (by simp), hattr (by simp)⟩
  rw [h.madeOf.cls]
  exact h.cls

/-- On the slots that pass the checks, the key is all that is found. -/
theorem NamedByUri.found_eq (h : NamedByUri ctx eclib ts slot handle key) {id : SlotId}
    (hid : ∃ slot' ∈ ctx.slotsFor (key.uriFields slot), slot'.id = id) :
    ts.found (key.uriFields slot) id = if id = slot.id then [(slot.id, handle)] else [] := by
  have hcls := h.madeOf.cls
  obtain ⟨slot', hslot', rfl⟩ := hid
  have hall : ∀ h' ∈ (ts.token slot'.id).found (key.uriFields slot),
      slot'.id = slot.id ∧ h' = handle := by
    intro h' hh'
    obtain ⟨hmem, hres⟩ := (mem_found_iff hcls).1 hh'
    exact h.only slot' hslot' h' hmem hres
  rw [SlotTokens.found]
  split
  · rename_i heq
    have hnodup : ((ts.token slot.id).found (key.uriFields slot)).Nodup := by
      rw [SearchToken.found]
      split
      · exact h.handles.filter _
      · exact List.nodup_nil
    have hin : handle ∈ (ts.token slot.id).found (key.uriFields slot) :=
      (mem_found_iff hcls).2 ⟨h.mem, h.resembles⟩
    have hone : (ts.token slot.id).found (key.uriFields slot) = [handle] := by
      refine List.perm_singleton.1 ((List.perm_ext_iff_of_nodup hnodup (List.nodup_singleton _)).2 ?_)
      intro h'
      rw [List.mem_singleton]
      refine ⟨fun hh' => (hall h' (heq ▸ hh')).2, ?_⟩
      rintro rfl
      exact hin
    rw [heq, hone]
    rfl
  · rename_i hne
    rw [List.map_eq_nil_iff]
    exact List.eq_nil_iff_forall_not_mem.2 fun h' hh' => hne (hall h' hh').1

/-- What is found on them can be read. -/
theorem NamedByUri.findable (h : NamedByUri ctx eclib ts slot handle key) {id : SlotId}
    (hid : ∃ slot' ∈ ctx.slotsFor (key.uriFields slot), slot'.id = id) :
    ts.Findable eclib (key.uriFields slot) id := by
  have hfound := h.found_eq hid
  constructor
  · have hlen : (ts.found (key.uriFields slot) id).length ≤ 1 := by
      rw [hfound]
      split
      · exact Nat.le_refl 1
      · exact Nat.zero_le 1
    rw [SlotTokens.found, List.length_map] at hlen
    exact Nat.lt_of_le_of_lt hlen (by decide)
  · intro p hp
    rw [hfound] at hp
    split at hp
    · rw [List.mem_singleton.1 hp]
      exact .inl h.madeOf.digestible
    · cases hp

/-- What is made of the handle of the key is the key, as it is read again. -/
theorem NamedByUri.madeOf_makes (h : NamedByUri ctx eclib ts slot handle key)
    (hk : ts.Makes eclib (slot.id, handle) k) :
    MadeOf eclib slot.id handle ((ts.token slot.id).attrs handle) k := by
  obtain ⟨supported, obj, pooled, hobj, heq⟩ := hk
  have hmade : MadeOf eclib slot.id handle ((ts.token slot.id).attrs handle) obj :=
    P11Prov.madeOf hobj (ulongBytes_privateKey h.cls)
  rw [heq]
  exact ⟨hmade.digestible, rfl, rfl, hmade.cls, hmade.type, hmade.encoder, hmade.attrs,
    hmade.edwards⟩

/-- The store delivers the key, as it is read again, or nothing. -/
theorem NamedByUri.delivered (h : NamedByUri ctx eclib ts slot handle key) {sure : Prop}
    {steps : List SlotStep} {d : Delivery}
    (hd : Delivered eclib ts ctx (key.uriFields slot) sure steps d) :
    ∃ k, MadeOf eclib slot.id handle ((ts.token slot.id).attrs handle) k ∧
      (d.objects = [] ∨ d.objects = [k]) ∧
      (sure → slot.id ∈ visits steps → d.ok = true ∧ d.objects = [k] ∧
        k.refreshUri = some (key.uriFields slot)) := by
  obtain ⟨objects, ok⟩ := d
  obtain ⟨l, hsub, hmade, hall⟩ := hd.objects
  simp only at hmade
  have hnodup : (visits steps).Nodup := hd.order.nodup h.ids
  have hfound : (visits steps).flatMap (ts.found (key.uriFields slot)) =
      if slot.id ∈ visits steps then [(slot.id, handle)] else [] := by
    split
    · rename_i hmem
      rw [flatMap_eq_of_unique hnodup hmem fun id hid hne => ?_, h.found_eq (hd.slots _ hmem),
        if_pos rfl]
      rw [h.found_eq (hd.slots id hid), if_neg hne]
    · rename_i hmem
      refine List.flatMap_eq_nil_iff.2 fun id hid => ?_
      rw [h.found_eq (hd.slots id hid), if_neg]
      rintro rfl
      exact hmem hid
  rw [hfound] at hsub hall
  rcases hmade with _ | ⟨hfirst, hrest⟩
  · -- nothing is delivered
    refine ⟨key, h.madeOf, .inl rfl, fun hs hv => ?_⟩
    rw [if_pos hv] at hall
    exact absurd (hall hs _ List.mem_cons_self h.madeOf.digestible) List.not_mem_nil
  · rename_i k p ks ps
    have hone : slot.id ∈ visits steps := by
      by_contra hno
      rw [if_neg hno] at hsub
      exact absurd (List.eq_nil_of_sublist_nil hsub) (List.cons_ne_nil p ps)
    rw [if_pos hone, List.sublist_singleton] at hsub
    obtain ⟨rfl, rfl⟩ := List.cons.inj (hsub.resolve_left (List.cons_ne_nil p ps))
    obtain rfl : ks = [] := List.forall₂_nil_right_iff.1 hrest
    exact ⟨k, h.madeOf_makes hfirst.makes, .inr rfl, fun hs hv =>
      ⟨hd.ok hs (List.ne_nil_of_mem hv), rfl, hfirst.copied hs⟩⟩

variable {lib : KeyFileLib}

/-- The file of a key leads to what the store delivers for its URI. -/
theorem decode_writePem (hlib : lib.Reads) (h : NamedByUri ctx eclib ts slot handle key) :
    ∃ text, privateKeyWritePem lib ctx key.key.type key = some text ∧
      ∀ {fetch : Uri → Delivery}, (∀ obj ∈ (fetch (key.uriFields slot)).objects,
        obj.cls = Cko.privateKey) → ∀ files desired cb,
          decodeKeyFile lib slib files fetch desired cb text = desiredData desired
            (if (fetch (key.uriFields slot)).ok then
              (fetch (key.uriFields slot)).objects.filterMap (storeInfo slib) else []) := by
  have hkey := h.madeOf
  obtain ⟨uri, huri, hne, hzero, hlen, hparse⟩ :=
    uri_of_key (hkey.slotid ▸ h.found) hkey.cls h.label h.short
  refine ⟨lib.pemWrite pemLabel (lib.i2dPk11Uri { desc := descsUriFile, uri := uri }), ?_,
    fun hcls files desired cb => ?_⟩
  · have htype : key.keyType = key.key.type := if_pos (by simp [hkey.cls])
    rw [privateKeyWritePem, htype, if_neg (not_not_intro rfl), privateKeyToAsn1, huri,
      Option.map_some, cStr_eq_self hzero, Option.map_some]
  · rw [decodeKeyFile_eq hlib hne hzero hlen, storeDirectFetch_eq (hparse files) hcls]

/-- A decoder gets a private key if it looks for the type of its data. -/
theorem desiredData_key (hcls : k.cls = Cko.privateKey) (desired : String) :
    desiredData desired ([k].filterMap (storeInfo slib)) =
      if pkeyDataType slib k = some desired then [.pkey desired k] else [] := by
  rw [List.filterMap_cons, storeInfo, if_pos (.inr hcls)]
  rcases pkeyDataType slib k with _ | name
  · simp [desiredData]
  · by_cases hd : name = desired
    · simp [desiredData, hd, StoreInfo.dataType]
    · simp [desiredData, hd, StoreInfo.dataType]

/-- The types of keys that some decoder looks for. -/
def Decoded (slib : StoreLib ν) (k : Obj) : Prop :=
  (k.key.type = ckkRsa ∧ slib.isRsaPss k = false) ∨ k.key.type = ckkEc ∨ k.key.type = ckkEcEdwards

/-- A decoder looks for the data type of a private key exactly if it is one of these. -/
theorem MadeOf.decoded_iff {tok : TokenAttrs} {slotid : SlotId}
    (hk : MadeOf eclib slotid handle tok k) :
    (∃ desired ∈ derDecoders, pkeyDataType slib k = some desired) ↔ Decoded slib k := by
  have htype := hk.encoder
  simp only [privKeyInfoEncoders, List.mem_cons, List.not_mem_nil, or_false] at htype
  rcases htype with h | h | h | h | h
  · rcases hpss : slib.isRsaPss k with _ | _
    · exact iff_of_true ⟨"RSA", by simp [derDecoders], by simp [pkeyDataType, h, hpss]⟩
        (.inl ⟨h, hpss⟩)
    · simp [derDecoders, pkeyDataType, Decoded, h, hpss]
  · exact iff_of_true ⟨"EC", by simp [derDecoders], by simp [pkeyDataType, h]⟩ (.inr (.inl h))
  · refine iff_of_true ?_ (.inr (.inr h))
    rcases hk.edwards h with hb | hb
    · exact ⟨"ED25519", by simp [derDecoders], by simp [pkeyDataType, h, hb]⟩
    · exact ⟨"ED448", by simp [derDecoders], by simp [pkeyDataType, h, hb]⟩
  · refine iff_of_false ?_ (by simp [Decoded, h])
    rintro ⟨desired, hmem, hname⟩
    rw [pkeyDataType, h, if_neg (by decide), if_neg (by decide), if_neg (by decide),
      if_pos rfl] at hname
    split at hname <;> cases hname <;> simp [derDecoders] at hmem
  · refine iff_of_false ?_ (by simp [Decoded, h])
    rintro ⟨desired, hmem, hname⟩
    rw [pkeyDataType, h, if_neg (by decide), if_neg (by decide), if_neg (by decide),
      if_neg (by decide), if_pos rfl] at hname
    split at hname <;> cases hname <;> simp [derDecoders] at hmem

/-- What `store_fetch` delivers for a URI in some run, with the steps of its last pass. -/
def Fetches (E : Env Searching Cmd.Resp) (ctx : Ctx) (x : Searching) (uri : Uri)
    (steps : List SlotStep) (d : Delivery) : Prop :=
  ∃ pwCb n passes sc x', Runs E (storeFetch ctx pwCb n { parsedUri := uri, expectKey := true }) x
      (passes, some sc) x' ∧
    passes.getLast? = some steps ∧ d = sc.delivery x'.st.mem

/-- A private key can be written to a file. Whatever the store fetches for it, the decoders find in
    the file this key or nothing. If the slot of the key is visited and nothing fails, one of them
    finds it exactly if the key is an EC or an Edwards key, or an RSA key that is not for PSS only. -/
theorem keyFile_read_iff (hlib : lib.Reads) (hO : ObjectHandles O) (hf : OpensFresh O)
    (h : NamedByUri ctx eclib ts slot handle key) (slib : StoreLib ν) (files : PinFiles)
    (cb : ObjectCb) : ∃ text,
      (∃ type ∈ privKeyInfoEncoders, privateKeyWritePem lib ctx type key = some text) ∧
      ∀ {okFork : State → Prop} {reliable : Prop} {x : Searching} {steps : List SlotStep}
        {fetch : Uri → Delivery}, Reachable ctx O (fun st op => op.Fits True st) okFork x.st →
        Fetches (searchEnv eclib ts O reliable) ctx x (key.uriFields slot) steps
          (fetch (key.uriFields slot)) →
        ∃ k, MadeOf eclib slot.id handle ((ts.token slot.id).attrs handle) k ∧
          (∀ desired ∈ derDecoders, decodeKeyFile lib slib files fetch desired cb text = [] ∨
            decodeKeyFile lib slib files fetch desired cb text = [.pkey desired k]) ∧
          (reliable → slot.id ∈ visits steps → k.refreshUri = some (key.uriFields slot) ∧
            ((∃ desired ∈ derDecoders,
              decodeKeyFile lib slib files fetch desired cb text = [.pkey desired k]) ↔
              Decoded slib k)) := by
  obtain ⟨text, hwrite, hdecode⟩ := decode_writePem hlib h
  refine ⟨text, ⟨_, h.madeOf.encoder, hwrite⟩, ?_⟩
  rintro okFork reliable x steps fetch hst ⟨pwCb, n, passes, sc, x', hrun, hlast, hfetch⟩
  obtain ⟨steps', hlast', hd⟩ :=
    storeFetch_delivered hf h.ids h.unavailable (placed_of_reachable hO hf hst) hrun
  obtain rfl := Option.some.inj (hlast.symm.trans hlast')
  rw [← hfetch] at hd
  obtain ⟨k, hk, hobjects, hsure⟩ := h.delivered hd
  have hcls : ∀ obj ∈ (fetch (key.uriFields slot)).objects, obj.cls = Cko.privateKey := by
    rcases hobjects with hnil | hone
    · rw [hnil]
      exact fun _ => nofun
    · rw [hone]
      simpa using hk.cls
  refine ⟨k, hk, fun desired _ => ?_, fun hr hv => ?_⟩
  · rw [hdecode hcls]
    split
    · rcases hobjects with hnil | hone
      · rw [hnil]
        exact .inl rfl
      · rw [hone, desiredData_key hk.cls]
        split
        · exact .inr rfl
        · exact .inl rfl
    · exact .inl rfl
  · obtain ⟨hok, hone, hrefresh⟩ := hsure ⟨hr, fun id hid => h.findable (hd.slots id hid)⟩ hv
    refine ⟨hrefresh, ?_⟩
    rw [← hk.decoded_iff]
    refine exists_congr fun desired => and_congr_right fun _ => ?_
    rw [hdecode hcls, hok, hone, if_pos rfl, desiredData_key hk.cls]
    split
    · exact iff_of_true rfl ‹_›
    · exact iff_of_false (by simp) ‹_›

end Found

/-! ## A file -/

/-- The structure as its template says: a `VisibleString` and a `UTF8String`. -/
def derPk11Uri (obj : Pk11Uri) : Bytes :=
  Encoding.Der.sequence (Encoding.Der.tlv 0x1A obj.desc ++ Encoding.Der.tlv 0x0C obj.uri)

def readPk11Uri (der : Bytes) : Option Pk11Uri := do
  let seq ← Encoding.Der.readTlv 0x30 der
  let desc ← Encoding.Der.readTlv 0x1A seq.1
  let uri ← Encoding.Der.readTlv 0x0C desc.2
  return { desc := desc.1, uri := uri.1 }

/-- The first and the last line of PEM. -/
def pemBoundary (word label : Bytes) : Bytes :=
  ascii "-----" ++ word ++ label ++ ascii "-----" ++ [0x0A]

/-- PEM, in lines of 64 columns. -/
def pemText (label der : Bytes) : Bytes :=
  pemBoundary (ascii "BEGIN ") label ++ (Base64.wrap 64 64 (Base64.encode der) ++
    pemBoundary (ascii "END ") label)

/-- Reads PEM of the label of key files. -/
def readPemText (text : Bytes) : Option (Bytes × Bytes) :=
  let first := pemBoundary (ascii "BEGIN ") pemLabel
  if first.isPrefixOf text then
    (Base64.decode (((text.drop first.length).takeWhile (· ≠ 0x2D)).filter (· ≠ 0x0A))).map
      (pemLabel, ·)
  else none

def pemLib : KeyFileLib where
  i2dPk11Uri := derPk11Uri
  d2iPk11Uri := readPk11Uri
  pemWrite := pemText
  pemRead := readPemText

theorem readPk11Uri_der {obj : Pk11Uri} (hdesc : obj.desc.length < intMax)
    (huri : obj.uri.length < intMax) : readPk11Uri (derPk11Uri obj) = some obj := by
  have hmax : intMax < 256 ^ 4 := by decide
  have hlen (tag : UInt8) {c : Bytes} (h : c.length < intMax) :
      (Encoding.Der.tlv tag c).length ≤ c.length + 6 := by
    have hl : (Encoding.Der.length c.length).length ≤ 4 + 1 :=
      Encoding.Der.length_length_le (by omega)
    simp only [Encoding.Der.tlv, List.length_append, List.length_cons]
    omega
  have hseq : (Encoding.Der.tlv 0x1A obj.desc ++
      Encoding.Der.tlv 0x0C obj.uri).length < 2 ^ 64 := by
    have h₁ := hlen 0x1A hdesc
    have h₂ := hlen 0x0C huri
    rw [List.length_append]
    omega
  have h₁ : Encoding.Der.readTlv 0x30 (derPk11Uri obj ++ []) =
      some (Encoding.Der.tlv 0x1A obj.desc ++ Encoding.Der.tlv 0x0C obj.uri, []) :=
    Encoding.Der.readTlv_tlv hseq
  have h₂ : Encoding.Der.readTlv 0x1A (Encoding.Der.tlv 0x1A obj.desc ++
      Encoding.Der.tlv 0x0C obj.uri) = some (obj.desc, Encoding.Der.tlv 0x0C obj.uri) :=
    Encoding.Der.readTlv_tlv (by omega)
  have h₃ : Encoding.Der.readTlv 0x0C (Encoding.Der.tlv 0x0C obj.uri ++ []) = some (obj.uri, []) :=
    Encoding.Der.readTlv_tlv (by omega)
  rw [List.append_nil] at h₁ h₃
  simp only [readPk11Uri, h₁, h₂, h₃, Option.bind_eq_bind, Option.bind_some, Option.pure_def]

theorem readPemText_pem (der : Bytes) :
    readPemText (pemText pemLabel der) = some (pemLabel, der) := by
  have hletters {c : UInt8} (hv : Base64.value c = none) (hp : c ≠ Base64.pad) :
      c ∉ Base64.encode der := Base64.not_mem_encode hv hp
  have hnewline : Base64.newline ∉ Base64.encode der := hletters (by decide) (by decide)
  -- no dash is in the lines, and the last line starts with one
  have hdash : ∀ c ∈ Base64.wrap 64 64 (Base64.encode der), decide (c ≠ 0x2D) = true := by
    intro c hc
    refine decide_eq_true ?_
    rintro rfl
    rcases Base64.mem_wrap hc with h | h
    · exact hletters (by decide) (by decide) h
    · exact absurd h (by decide)
  have hend : (pemBoundary (ascii "END ") pemLabel).takeWhile (· ≠ 0x2D) = [] := by decide +kernel
  have hfilter : (Base64.wrap 64 64 (Base64.encode der)).filter (· ≠ 0x0A) = Base64.encode der :=
    Base64.filter_wrap 64 64 hnewline
  have hpre : (pemBoundary (ascii "BEGIN ") pemLabel).isPrefixOf (pemText pemLabel der) = true :=
    List.isPrefixOf_iff_prefix.2 (List.prefix_append _ _)
  rw [readPemText]
  simp only [hpre, if_true]
  rw [pemText, List.drop_left, List.takeWhile_append_of_pos hdash, hend, List.append_nil, hfilter,
    Base64.decode_encode]
  rfl

theorem pemLib_reads : pemLib.Reads where
  d2i obj hdesc huri := by
    refine ⟨?_, readPk11Uri_der hdesc huri⟩
    simp [pemLib, derPk11Uri, Encoding.Der.sequence, Encoding.Der.tlv]
  pem := readPemText_pem

/-- The answers of a token for an object with these attributes. -/
def listAnswer (attrs : List (Nat × Bytes)) (type : Nat) : AttrAnswer :=
  ((attrs.find? (·.1 = type)).map fun a => .value a.2).getD .unavailable

theorem listAnswer_short {attrs : List (Nat × Bytes)}
    (h : ∀ a ∈ attrs, a.2.length < ckUnavailableInformation) {type : Nat} {v : Bytes}
    (hv : listAnswer attrs type = .value v) : v.length < ckUnavailableInformation := by
  rw [listAnswer] at hv
  rcases hfind : attrs.find? (·.1 = type) with _ | a
  · rw [hfind] at hv
    cases hv
  · rw [hfind] at hv
    obtain rfl := AttrAnswer.value.inj hv
    exact h a (List.mem_of_find?_eq_some hfind)

/-- A pair of RSA keys with the same identifier. -/
def pairAttrs (h : ObjectHandle) : List (Nat × Bytes) :=
  [(ckaClass, ulongBytes (if h = 5 then Cko.privateKey else Cko.publicKey)),
    (ckaKeyType, ulongBytes ckkRsa), (ckaModulus, [0xC1, 0x03]), (ckaPublicExponent, [0x03]),
    (ckaId, [0x01]), (ckaLabel, ascii "a key")]

theorem pairAttrs_short (h : ObjectHandle) :
    ∀ a ∈ pairAttrs h, a.2.length < ckUnavailableInformation := by
  have hlen (n : Nat) : (ulongBytes n).length < ckUnavailableInformation := by
    rw [ulongBytes, List.length_reverse, Encoding.BigEndian.length_bytes]
    decide
  simp only [pairAttrs, List.forall_mem_cons, hlen, true_and]
  decide

/-- A token with the two keys. -/
def pairToken (id : SlotId) : SearchToken where
  handles := [5, 6]
  attrs h :=
    { answer := listAnswer (pairAttrs h)
      short := listAnswer_short (pairAttrs_short h)
      pick := fun codes => codes.headD Ckr.ok
      pick_mem := headD_mem }
  slotid := id
  batch _ := 1
  supported := false

def pairTokens : SlotTokens where
  token := pairToken

/-- The private key as it is made of its object. -/
def pairKey : Obj where
  slotid := 1
  handle := 5
  cls := Cko.privateKey
  ckaCopyable := false
  ckaToken := false
  key := { type := ckkRsa, size := 2, bitSize := 16 }
  attrs := [(ckaModulus, [0xC1, 0x03]), (ckaPublicExponent, [0x03]), (ckaId, [0x01]),
    (ckaLabel, ascii "a key")]

theorem pairKey_namedByUri : NamedByUri plainCtx noEcLib pairTokens plainSlot 5 pairKey where
  found := rfl
  ids := by decide
  unavailable := by decide
  mem := by decide
  handles := by decide
  cls := by decide +kernel
  made := ⟨false, rfl⟩
  label := by
    intro label h
    obtain rfl : ascii "a key" = label := Option.some.inj h
    decide
  short := by decide +kernel
  only := by
    intro slot' hslot' handle' hmem hres
    obtain rfl : slot' = plainSlot := List.mem_singleton.1 (List.mem_of_mem_filter hslot')
    have hcls := hres.cls
    obtain rfl | rfl : handle' = 5 ∨ handle' = 6 := by simpa [pairTokens, pairToken] using hmem
    · exact ⟨rfl, rfl⟩
    · exact absurd hcls (by decide +kernel)

/-- What OpenSSL is asked of the keys: it knows no names and no numbers of certificates. -/
def plainStoreLib : StoreLib Unit where
  d2iX509Name _ := none
  x509NameCmp _ _ := 0
  asn1Integer _ := none
  skey := true
  isRsaPss _ := false

/-- The store fetches the URI of the key. -/
def pairRun : (List (List SlotStep) × Option StoreCtx) × Searching :=
  exec (searchEnv noEcLib pairTokens searched True) (pairTokens.answer noEcLib)
    (storeFetch plainCtx false 2 { parsedUri := pairKey.uriFields plainSlot, expectKey := true })
    ⟨{}, fun _ => []⟩

/-- What it delivers. -/
def pairDelivery : Delivery := (pairRun.1.2.map (·.delivery pairRun.2.st.mem)).getD ⟨[], false⟩

theorem pairRun_fetches : Fetches (searchEnv noEcLib pairTokens searched True) plainCtx
    ⟨{}, fun _ => []⟩ (pairKey.uriFields plainSlot) [.visit 1] pairDelivery := by
  have hhandles : ∀ id, ∀ h ∈ (pairTokens.token id).handles, h ≠ ckP11provImportedHandle := by
    have hpair : ∀ h ∈ [5, 6], h ≠ ckP11provImportedHandle := by decide
    exact fun _ => hpair
  have hrun : Runs (searchEnv noEcLib pairTokens searched True) (storeFetch plainCtx false 2
      { parsedUri := pairKey.uriFields plainSlot, expectKey := true }) ⟨{}, fun _ => []⟩
      pairRun.1 pairRun.2 := runs_searched hhandles _ _ fun _ _ => nofun
  have hpasses : pairRun.1.1 = [[.visit 1]] := by decide +kernel
  have hsome : pairRun.1.2.isSome = true := by decide +kernel
  obtain ⟨sc, hsc⟩ := Option.isSome_iff_exists.1 hsome
  rw [← Prod.mk.eta (p := pairRun.1), hpasses, hsc] at hrun
  refine ⟨false, 2, _, sc, _, hrun, rfl, ?_⟩
  rw [pairDelivery, hsc]
  rfl

/-- The file of the private key is written, and the decoder for RSA keys finds the key. -/
theorem keyFile_read_iff_pair : ∃ text k,
    (∃ type ∈ privKeyInfoEncoders, privateKeyWritePem pemLib plainCtx type pairKey = some text) ∧
    MadeOf noEcLib plainSlot.id 5 ((pairTokens.token plainSlot.id).attrs 5) k ∧
    k.refreshUri = some (pairKey.uriFields plainSlot) ∧
    ∃ desired ∈ derDecoders, decodeKeyFile pemLib plainStoreLib (fun _ => .error .noent)
      (fun _ => pairDelivery) desired (fun _ _ => retOsslOk) text = [.pkey desired k] := by
  have hO : ObjectHandles searched := ⟨plain_objectHandles.1, fun _ _ _ hr => hr⟩
  have hf : OpensFresh searched := plain_opensFresh
  obtain ⟨text, hwrite, hread⟩ := keyFile_read_iff pemLib_reads hO hf pairKey_namedByUri
    plainStoreLib (fun _ => .error .noent) (fun _ _ => retOsslOk)
  have hst : Reachable plainCtx searched (fun st op => op.Fits True st) (fun _ => True) {} := .init
  obtain ⟨k, hk, -, hiff⟩ := @hread _ True ⟨{}, fun _ => []⟩ [.visit 1] (fun _ => pairDelivery) hst
    pairRun_fetches
  obtain ⟨hrefresh, hdecoded⟩ := hiff trivial List.mem_cons_self
  exact ⟨text, k, hwrite, hk, hrefresh, hdecoded.2 (.inl ⟨hk.type, rfl⟩)⟩

end P11Prov
