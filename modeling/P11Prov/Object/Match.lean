import P11Prov.Object.Compare

/-!
# Comparing a private key with a public one

A private key often lacks the values of its public key. `match_public_keys` then
compares those of the public key on the token with the same identifier, and if
there is none, those of the certificate with it.

The first of the two says whether the keys belong together (`keyCmp_publicKey`).
The second compares the bytes of the key on the token, with the most significant
one first, with those that OpenSSL has for the certificate, with this one last, and
it has nothing to compare for ML-DSA and ML-KEM keys (`keyCmp_certificate`). So the
two agree for a private key exactly if its numbers read the same from both ends and
it is not such a key: `certificate_agrees_iff`.
-/

namespace P11Prov

open Interaction Encoding

variable {lib : CmpLib} {priv pub assoc : KeyView} {p q : PublicKey} {key : CertKey}

/-- The key has the type, the size and the curve of the public key. -/
inductive KeyView.HasParams (lib : CmpLib) (key : KeyView) : PublicKey → Prop
  | rsa {n : Bytes} {e : Nat} (htype : key.type = ckkRsa) (hbits : key.bitSize = n.length * 8)
      (hn0 : n.head? ≠ some 0) : HasParams lib key (.rsa (BigEndian.value n) e)
  | ec {ecparams point : Bytes} {group : EcGroup} (htype : key.type = ckkEc)
      (hparams : key.attr ckaEcParams = some ecparams) (hgroup : lib.group ecparams = some group)
      (hbits : key.bitSize = group.orderBits) : HasParams lib key (.ec group point)
  | ed {ecparams point : Bytes} {nid : Nat} (htype : key.type = ckkEcEdwards)
      (hparams : key.attr ckaEcParams = some ecparams)
      (hnid : objGetEdNid lib.toEcLib ecparams = some nid)
      (hbits : key.bitSize = if nid = nidEd25519 then 256 else 456) :
      HasParams lib key (.ed nid point)
  | ml {value : Bytes} (htype : key.type = ckkMlDsa ∨ key.type = ckkMlKem)
      (hbits : key.bitSize = value.length * 8) : HasParams lib key (.ml key.type value)

/-- The attributes with the values of a key. -/
def PublicKey.types : PublicKey → List Nat
  | .rsa _ _ => [ckaModulus, ckaPublicExponent]
  | .ec _ _ | .ed _ _ => [ckaP11provPubKey]
  | .ml _ _ => [ckaValue]

/-- A private key that belongs to the public key but lacks values of it. -/
structure KeyView.Lacks (lib : CmpLib) (priv : KeyView) (q : PublicKey) : Prop where
  params : priv.HasParams lib q
  missing : ∃ type ∈ q.types, priv.attr type = none

/-- The certificate has the public key. OpenSSL is not asked for ML-DSA and ML-KEM keys. -/
inductive CertKey.Of : PublicKey → CertKey → Prop
  | rsa {n e : Nat} (hn : n ≠ 0) (hodd : e % 2 = 1) : Of (.rsa n e) (.rsa n e)
  | ec {group : EcGroup} {name : Option Bytes} {point : Bytes} (hlen : point ≠ []) :
      Of (.ec group point) (.ec name point)
  | ed {nid : Nat} {point : Bytes} (hlen : point ≠ []) : Of (.ed nid point) (.ed point)
  | ml {type : Nat} {value : Bytes} : Of (.ml type value) .other

/-- The public key that a public key must have to be compared as the same with a certificate of
    this one. -/
def PublicKey.inCertificate : PublicKey → Option PublicKey
  | .rsa n e => some (.rsa (BigEndian.value (bnNative n)) (BigEndian.value (bnNative e)))
  | .ec group point => some (.ec group point)
  | .ed nid point => some (.ed nid point)
  | .ml _ _ => none

/-- The search finds the public key or the certificate. -/
def findPublicKey (assoc : KeyView) (cls : Nat) : Id (Option KeyView) :=
  if cls = Cko.publicKey then some assoc else none

def findCertificate (crt : KeyView) (cls : Nat) : Id (Option KeyView) :=
  if cls = Cko.certificate then some crt else none

/-! ## The values are missing -/

theorem cmpBnAttr_none {a1 a2 : Nat → Option Bytes} {attr : Nat} (h : a1 attr = none) :
    cmpBnAttr a1 a2 attr = false := by
  rw [cmpBnAttr, h]
  split <;> rfl

theorem cmpAttr_none {a1 a2 : Nat → Option Bytes} {attr : Nat} (h : a1 attr = none) :
    cmpAttr a1 a2 attr = false := by
  rw [cmpAttr, h]

theorem KeyView.Lacks.cmpPublicKeyValues (h : priv.Lacks lib q) (pub : KeyView) :
    cmpPublicKeyValues priv pub = false := by
  obtain ⟨hparams, type, htypes, hnone⟩ := h
  rw [P11Prov.cmpPublicKeyValues]
  rcases hparams with ⟨ht, hb, hn0⟩ | ⟨ht, hp, hg, hb⟩ | ⟨ht, hp, hd, hb⟩ | ⟨ht, hb⟩
  · rw [if_pos ht]
    rcases List.mem_pair.1 htypes with rfl | rfl
    · rw [cmpBnAttr_none hnone, Bool.false_and]
    · rw [cmpBnAttr_none hnone, Bool.and_false]
  · obtain rfl := List.mem_singleton.1 htypes
    rw [if_neg (by rw [ht]; decide), if_pos (.inl ht), cmpAttr_none hnone]
  · obtain rfl := List.mem_singleton.1 htypes
    rw [if_neg (by rw [ht]; decide), if_pos (.inr ht), cmpAttr_none hnone]
  · obtain rfl := List.mem_singleton.1 htypes
    rw [if_neg (by rcases ht with h | h <;> rw [h] <;> decide),
      if_neg (by rcases ht with h | h <;> rw [h] <;> decide), if_pos ht, cmpAttr_none hnone]

/-- What is compared of the keys themselves, as far as a private key has it. -/
def cmpParams (lib : CmpLib) (key1 key2 : KeyView) : Bool :=
  key1.type = key2.type ∧ key1.bitSize = key2.bitSize ∧ cmpKeyParams lib key1 key2 = true

theorem cmpParams_eq_true {key1 key2 : KeyView} : cmpParams lib key1 key2 = true ↔
    key1.type = key2.type ∧ key1.bitSize = key2.bitSize ∧ cmpKeyParams lib key1 key2 = true :=
  decide_eq_true_iff

/-- A private key without values is compared by what it is associated with. -/
theorem keyCmp_private {find1 find2 : Nat → Id (Option KeyView)} (h : priv.Lacks lib q)
    (hpriv : priv.cls = Cko.privateKey) (hpub : pub.cls = Cko.publicKey)
    (hnot : ¬priv.SameHandle pub) :
    keyCmp lib find1 find2 priv pub ckUnavailableInformation { pub := true } = true ↔
      cmpParams lib priv pub = true ∧ matchAssociated lib find1 pub = true := by
  have hne : Cko.privateKey ≠ Cko.publicKey := by decide
  have hmatch : matchPublicKeys lib find1 find2 priv pub = matchAssociated lib find1 pub := by
    rw [matchPublicKeys, h.cmpPublicKeyValues pub, hpriv, hpub]
    rfl
  have hsame : ¬(priv.slotid = pub.slotid ∧ priv.handle = pub.handle) := hnot
  rw [keyCmp, hmatch, cmpParams_eq_true]
  simp only [if_neg hsame, hpriv, hpub, hne, hne.symm, ne_eq, not_true_eq_false, and_false, false_and,
    if_false, not_false_eq_true, Bool.false_eq_true, or_true, if_true]
  by_cases htype : priv.type = pub.type
  · by_cases hbits : priv.bitSize = pub.bitSize
    · cases hparams : cmpKeyParams lib priv pub with
      | false => simp [htype, hbits]
      | true => simp [htype, hbits]
    · simp [htype, hbits]
  · simp [htype]

/-! ## The sizes and the curves -/

/-- The keys have the same type, size and curve. -/
def PublicKey.SameParams (lib : CmpLib) : PublicKey → PublicKey → Prop
  | .rsa n _, .rsa n' _ => (Der.octets 256 n).length = (Der.octets 256 n').length
  | .ec group _, .ec group' _ => lib.groupCmp group group' = true
  | .ed nid _, .ed nid' _ => nid = nid'
  | .ml type value, .ml type' value' => type = type' ∧ value.length = value'.length
  | _, _ => False

theorem PublicKey.SameParams.symm (hg : lib.ComparesGroups) (h : p.SameParams lib q) :
    q.SameParams lib p := by
  rcases p with ⟨n, e⟩ | ⟨group, point⟩ | ⟨nid, point⟩ | ⟨type, value⟩ <;>
    rcases q with ⟨n', e'⟩ | ⟨group', point'⟩ | ⟨nid', point'⟩ | ⟨type', value'⟩ <;>
    first
    | exact h.elim
    | exact h.symm
    | exact hg.equivalence.symm h
    | exact ⟨h.1.symm, h.2.symm⟩

theorem PublicKey.Same.sameParams (h : p.Same lib q) : p.SameParams lib q := by
  rcases p with ⟨n, e⟩ | ⟨group, point⟩ | ⟨nid, point⟩ | ⟨type, value⟩ <;>
    rcases q with ⟨n', e'⟩ | ⟨group', point'⟩ | ⟨nid', point'⟩ | ⟨type', value'⟩ <;>
    first
    | exact h.elim
    | exact h.1
    | exact ⟨h.1, congrArg List.length h.2⟩
    | exact congrArg (fun n => (Der.octets 256 n).length) h.1

theorem KeyView.Means.hasParams (h : pub.Means lib p) : pub.HasParams lib p := by
  rcases h with ⟨ht, -, -, hb, hn0, -, -⟩ | ⟨ht, hp, hg, -, hb⟩ | ⟨ht, hp, hd, -, hb⟩ | ⟨ht, -, hb⟩
  · exact .rsa ht hb hn0
  · exact .ec ht hp hg hb
  · exact .ed ht hp hd hb
  · exact .ml ht hb

theorem cmpParams_iff (hg : lib.ComparesGroups) (h1 : priv.HasParams lib q)
    (h2 : pub.HasParams lib p) : cmpParams lib priv pub = true ↔ q.SameParams lib p := by
  -- keys of different types are never the same
  have hother (hne : priv.type ≠ pub.type) (hsame : ¬q.SameParams lib p) :
      cmpParams lib priv pub = true ↔ q.SameParams lib p :=
    iff_of_false (fun h => hne (cmpParams_eq_true.1 h).1) hsame
  rcases h1 with ⟨ht, hb, hn0⟩ | ⟨ht, hp, hg', hb⟩ | ⟨ht, hp, hd, hb⟩ | ⟨ht, hb⟩
  · rcases h2 with ⟨ht', hb', hn0'⟩ | ⟨ht', hp', hg'', hb'⟩ | ⟨ht', hp', hd', hb'⟩ | ⟨ht', hb'⟩
    · rw [cmpParams_eq_true, cmpKeyParams, if_pos (.inl ht), hb, hb', PublicKey.SameParams,
        BigEndian.octets_value hn0, BigEndian.octets_value hn0', ht, ht']
      simp
    · exact hother (by rw [ht, ht']; decide) id
    · exact hother (by rw [ht, ht']; decide) id
    · exact hother (by rw [ht]; rcases ht' with h | h <;> rw [h] <;> decide) id
  · rcases h2 with ⟨ht', hb', hn0'⟩ | ⟨ht', hp', hg'', hb'⟩ | ⟨ht', hp', hd', hb'⟩ | ⟨ht', hb'⟩
    · exact hother (by rw [ht, ht']; decide) id
    · rw [cmpParams_eq_true, cmpKeyParams_ec ht, cmpEcGroups_iff hg hp hg' hp' hg'', hb, hb',
        PublicKey.SameParams]
      constructor
      · exact fun h => h.2.2
      · intro h
        exact ⟨ht.trans ht'.symm, hg.orderBits _ _ h, h⟩
    · exact hother (by rw [ht, ht']; decide) id
    · exact hother (by rw [ht]; rcases ht' with h | h <;> rw [h] <;> decide) id
  · rcases h2 with ⟨ht', hb', hn0'⟩ | ⟨ht', hp', hg'', hb'⟩ | ⟨ht', hp', hd', hb'⟩ | ⟨ht', hb'⟩
    · exact hother (by rw [ht, ht']; decide) id
    · exact hother (by rw [ht, ht']; decide) id
    · rw [cmpParams_eq_true, cmpKeyParams_ed ht, cmpEdCurves_iff hp hd hp' hd', hb, hb',
        PublicKey.SameParams]
      constructor
      · exact fun h => h.2.2
      · intro h
        exact ⟨ht.trans ht'.symm, by rw [h], h⟩
    · exact hother (by rw [ht]; rcases ht' with h | h <;> rw [h] <;> decide) id
  · rcases h2 with ⟨ht', hb', hn0'⟩ | ⟨ht', hp', hg'', hb'⟩ | ⟨ht', hp', hd', hb'⟩ | ⟨ht', hb'⟩
    · exact hother (by rw [ht']; rcases ht with h | h <;> rw [h] <;> decide) id
    · exact hother (by rw [ht']; rcases ht with h | h <;> rw [h] <;> decide) id
    · exact hother (by rw [ht']; rcases ht with h | h <;> rw [h] <;> decide) id
    · rw [cmpParams_eq_true, cmpKeyParams, if_pos (.inr ht), hb, hb', PublicKey.SameParams]
      simp

/-! ## What the key is associated with -/

theorem matchAssociated_publicKey : matchAssociated lib (findPublicKey assoc) pub = true ↔
    assoc.type = pub.type ∧ cmpPublicKeyValues pub assoc = true := decide_eq_true_iff

/-- Through the public key on the token, a private key is compared right. -/
theorem keyCmp_publicKey (hg : lib.ComparesGroups) (find2 : Nat → Id (Option KeyView))
    (hpriv : priv.Lacks lib q) (hpub : pub.Means lib p) (hassoc : assoc.Means lib q)
    (hcls : priv.cls = Cko.privateKey) (hcls' : pub.cls = Cko.publicKey)
    (hnot : ¬priv.SameHandle pub) :
    keyCmp lib (findPublicKey assoc) find2 priv pub ckUnavailableInformation { pub := true } = true ↔
      p.Same lib q := by
  rw [keyCmp_private hpriv hcls hcls' hnot, cmpParams_iff hg hpriv.params hpub.hasParams,
    matchAssociated_publicKey, ← cmpKey_iff hg hpub hassoc, cmpKey_eq_true]
  constructor
  · rintro ⟨hparams, htype, hvalues⟩
    have hcmp := (cmpParams_iff hg hpub.hasParams hassoc.hasParams).2 (hparams.symm hg)
    obtain ⟨-, hbits, hkey⟩ := cmpParams_eq_true.1 hcmp
    exact ⟨htype.symm, hbits, hkey, hvalues⟩
  · rintro ⟨htype, hbits, hkey, hvalues⟩
    have hparams := (cmpParams_iff hg hpub.hasParams hassoc.hasParams).1
      (cmpParams_eq_true.2 ⟨htype, hbits, hkey⟩)
    exact ⟨hparams.symm hg, htype.symm, hvalues⟩

variable {crt : KeyView} {der : Bytes}

theorem matchAssociated_certificate {values : List Bytes}
    (h : getAttrsFromCert lib.x509 crt.attr (certTypes pub.type) = .ok values) :
    matchAssociated lib (findCertificate crt) pub = true ↔
      certTypes pub.type ≠ [] ∧ (certTypes pub.type).map pub.attr = values.map some := by
  change matchKeyWithCert lib (findCertificate crt) pub = true ↔ _
  simp only [matchKeyWithCert, findCertificate, if_true, bind, h]
  exact decide_eq_true_iff

theorem matchAssociated_certificate_error {ret : CkRv}
    (h : getAttrsFromCert lib.x509 crt.attr (certTypes pub.type) = .error ret) :
    matchAssociated lib (findCertificate crt) pub = false := by
  change matchKeyWithCert lib (findCertificate crt) pub = false
  simp only [matchKeyWithCert, findCertificate, if_true, bind, h]
  rfl

/-- The certificate has one key, and the comparison reads it. -/
structure HasCertificate (lib : CmpLib) (crt : KeyView) (key : CertKey) : Prop where
  type : crt.attr ckaCertificateType = none
  reads : ∃ der, crt.attr ckaValue = some der ∧ lib.x509 der = some (some key)

theorem HasCertificate.attrs (h : HasCertificate lib crt key) (hother : key ≠ .other)
    (types : List Nat) : getAttrsFromCert lib.x509 crt.attr types = certKeyAttrs key types := by
  obtain ⟨der, hvalue, hder⟩ := h.reads
  exact getAttrsFromCert_eq h.type hvalue hder hother types

theorem HasCertificate.attrs_other (h : HasCertificate lib crt .other) (types : List Nat) :
    getAttrsFromCert lib.x509 crt.attr types = .error Ckr.objectHandleInvalid := by
  obtain ⟨der, hvalue, hder⟩ := h.reads
  rw [getAttrsFromCert, h.type, hvalue]
  simp only [Option.any_none, hder]
  rfl

theorem certKeyAttrs_rsa (n e : Nat) :
    certKeyAttrs (.rsa n e) [ckaModulus, ckaPublicExponent] = .ok [bnNative n, bnNative e] := by
  refine certKeyAttrs_ok (l := [(ckaModulus, bnNative n), (ckaPublicExponent, bnNative e)])
    (by simp) ?_ ?_ (by simp)
  · simp [bnNative_ne_nil]
  · simp [CertKey.param]

theorem certKeyAttrs_point {point : Bytes} (hlen : point ≠ [])
    (hkey : key.param ckaP11provPubKey = some (some point)) :
    certKeyAttrs key [ckaP11provPubKey] = .ok [point] :=
  certKeyAttrs_ok (l := [(ckaP11provPubKey, point)]) (by simp) (by simpa using hlen)
    (by simpa using hkey) (by simp)

theorem length_bnNative {n : Nat} (h : n ≠ 0) : (bnNative n).length = (Der.octets 256 n).length := by
  rw [bnNative, if_neg h, List.length_reverse]

/-- The native form of an odd number starts with its last octet. -/
theorem head_bnNative {n : Nat} (h : n % 2 = 1) : (bnNative n).head? ≠ some 0 := by
  have hn : n ≠ 0 := by
    rintro rfl
    simp at h
  rw [bnNative, if_neg hn, List.head?_reverse]
  exact BigEndian.getLast_of_odd (by rwa [BigEndian.value_octets])

/-- Through a certificate, a private key is compared with the public key that the certificate has if
    its numbers are read from the wrong end. -/
theorem keyCmp_certificate (hg : lib.ComparesGroups) (find2 : Nat → Id (Option KeyView))
    (hpriv : priv.Lacks lib q) (hpub : pub.Means lib p) (hcrt : HasCertificate lib crt key)
    (hof : CertKey.Of q key) (hcls : priv.cls = Cko.privateKey) (hcls' : pub.cls = Cko.publicKey)
    (hnot : ¬priv.SameHandle pub) :
    keyCmp lib (findCertificate crt) find2 priv pub ckUnavailableInformation { pub := true } = true ↔
      q.SameParams lib p ∧ ∃ q', q.inCertificate = some q' ∧ p.Same lib q' := by
  rw [keyCmp_private hpriv hcls hcls' hnot, cmpParams_iff hg hpriv.params hpub.hasParams]
  refine and_congr_right fun hparams => ?_
  rcases hof with ⟨hn, hodd⟩ | ⟨hlen⟩ | ⟨hlen⟩ | _
  · rcases hpub with ⟨ht, hn', he', hb', hn0', he0', ho'⟩ | ⟨ht, -⟩ | ⟨ht, -⟩ | ⟨ht, -⟩
    · rename_i n e np ep
      have htypes : certTypes pub.type = [ckaModulus, ckaPublicExponent] := by
        rw [ht]
        rfl
      rw [matchAssociated_certificate (htypes ▸ (hcrt.attrs (by simp) _).trans (certKeyAttrs_rsa n e)),
        htypes]
      simp only [ne_eq, List.cons_ne_nil, not_false_eq_true, true_and, List.map_cons, List.map_nil, hn',
        he', List.cons.injEq, Option.some.injEq, and_true, PublicKey.inCertificate, PublicKey.Same,
        exists_eq_left']
      rw [PublicKey.SameParams, BigEndian.octets_value hn0', ← length_bnNative hn] at hparams
      constructor
      · rintro ⟨hnp, hep⟩
        rw [hnp, hep]
        exact ⟨rfl, rfl⟩
      · rintro ⟨hnp, hep⟩
        exact ⟨BigEndian.value_inj_of_length hparams.symm hnp,
          BigEndian.value_inj_of_head he0' (head_bnNative hodd) hep⟩
    · exact hparams.elim
    · exact hparams.elim
    · exact hparams.elim
  · rcases hpub with ⟨ht, -⟩ | ⟨ht, -, -, hv, -⟩ | ⟨ht, -⟩ | ⟨ht, -⟩
    · exact hparams.elim
    · have htypes : certTypes pub.type = [ckaP11provPubKey] := by
        rw [ht]
        rfl
      rw [matchAssociated_certificate (htypes ▸ (hcrt.attrs (by simp) _).trans
        (certKeyAttrs_point hlen rfl)), htypes]
      simpa [hv, PublicKey.inCertificate, PublicKey.Same] using
        fun _ => hg.equivalence.symm hparams
    · exact hparams.elim
    · exact hparams.elim
  · rcases hpub with ⟨ht, -⟩ | ⟨ht, -⟩ | ⟨ht, -, -, hv, -⟩ | ⟨ht, -⟩
    · exact hparams.elim
    · exact hparams.elim
    · have htypes : certTypes pub.type = [ckaP11provPubKey] := by
        rw [ht]
        rfl
      rw [matchAssociated_certificate (htypes ▸ (hcrt.attrs (by simp) _).trans
        (certKeyAttrs_point hlen rfl)), htypes]
      simpa [hv, PublicKey.inCertificate, PublicKey.Same] using fun _ => Eq.symm hparams
    · exact hparams.elim
  · rw [matchAssociated_certificate_error (hcrt.attrs_other _)]
    simp [PublicKey.inCertificate]

/-- The numbers of the key read the same from both ends, and a certificate with it is read. -/
def PublicKey.Symmetric : PublicKey → Prop
  | .rsa n e => (bnNative n).reverse = bnNative n ∧ (bnNative e).reverse = bnNative e
  | .ec _ _ | .ed _ _ => True
  | .ml _ _ => False

theorem PublicKey.Symmetric.inCertificate (h : q.Symmetric) : q.inCertificate = some q := by
  rcases q with ⟨n, e⟩ | ⟨group, point⟩ | ⟨nid, point⟩ | ⟨type, value⟩
  · obtain ⟨hn, he⟩ := h
    rw [PublicKey.inCertificate, (value_bnNative_iff n).2 hn, (value_bnNative_iff e).2 he]
  · rfl
  · rfl
  · exact h.elim

theorem PublicKey.Same.symmetric {q' : PublicKey} (hq : q.inCertificate = some q')
    (h : q.Same lib q') : q.Symmetric := by
  rcases q with ⟨n, e⟩ | ⟨group, point⟩ | ⟨nid, point⟩ | ⟨type, value⟩
  · obtain rfl := Option.some.inj hq
    exact ⟨(value_bnNative_iff n).1 h.1.symm, (value_bnNative_iff e).1 h.2.symm⟩
  · trivial
  · trivial
  · cases hq

theorem PublicKey.Same.refl (hg : lib.ComparesGroups) (p : PublicKey) : p.Same lib p := by
  rcases p with ⟨n, e⟩ | ⟨group, point⟩ | ⟨nid, point⟩ | ⟨type, value⟩
  · exact ⟨rfl, rfl⟩
  · exact ⟨hg.equivalence.refl group, rfl⟩
  · exact ⟨rfl, rfl⟩
  · exact ⟨rfl, rfl⟩

/-- A private key is compared with every public key through the certificate as it is through the
    public key on the token exactly if its numbers read the same from both ends. -/
theorem certificate_agrees_iff (hg : lib.ComparesGroups) {find2 : Nat → Id (Option KeyView)}
    (hpriv : priv.Lacks lib q) (hassoc : assoc.Means lib q) (hcrt : HasCertificate lib crt key)
    (hof : CertKey.Of q key) (hcls : priv.cls = Cko.privateKey) (hcls' : assoc.cls = Cko.publicKey)
    (hnot : ¬priv.SameHandle assoc) :
    (∀ pub p, pub.Means lib p → pub.cls = Cko.publicKey → ¬priv.SameHandle pub →
      keyCmp lib (findCertificate crt) find2 priv pub ckUnavailableInformation { pub := true } =
        keyCmp lib (findPublicKey assoc) find2 priv pub ckUnavailableInformation { pub := true }) ↔
      q.Symmetric := by
  constructor
  · intro h
    -- the public key on the token is compared with itself
    have hsame := (keyCmp_publicKey hg find2 hpriv hassoc hassoc hcls hcls' hnot).2
      (.refl hg q)
    rw [← h assoc q hassoc hcls' hnot] at hsame
    obtain ⟨-, q', hq', hsame⟩ :=
      (keyCmp_certificate hg find2 hpriv hassoc hcrt hof hcls hcls' hnot).1 hsame
    exact hsame.symmetric hq'
  · intro hsymm pub p hpub hcls'' hnot'
    refine Bool.eq_iff_iff.2 ?_
    have hcertificate := keyCmp_certificate hg find2 hpriv hpub hcrt hof hcls hcls'' hnot'
    have hpublic := keyCmp_publicKey hg find2 hpriv hpub hassoc hcls hcls'' hnot'
    refine hcertificate.trans (Iff.trans ?_ hpublic.symm)
    simp only [hsymm.inCertificate, Option.some.injEq, exists_eq_left']
    exact and_iff_right_of_imp fun h => h.sameParams.symm hg

/-! ## On the token -/

section Search

variable {E : Env State Cmd.Resp} {I : State → Prop} {find find1 find2 : Nat → P (Option KeyView)}
  {find' find1' find2' : Nat → Id (Option KeyView)}

theorem matchKeyWithCert_gives (h : ∀ cls, Gives E I (find cls) (find' cls)) (pub : KeyView) :
    Gives E I (matchKeyWithCert lib find pub) (matchKeyWithCert lib find' pub) := by
  rw [matchKeyWithCert, matchKeyWithCert]
  refine .bind (h Cko.certificate) ?_
  simp only [bind]
  rcases find' Cko.certificate with _ | crt
  · exact .pure
  · simp only
    split
    · exact .pure
    · exact .pure

theorem matchAssociated_gives (h : ∀ cls, Gives E I (find cls) (find' cls)) (pub : KeyView) :
    Gives E I (matchAssociated lib find pub) (matchAssociated lib find' pub) := by
  rw [matchAssociated, matchAssociated]
  refine .bind (h Cko.publicKey) ?_
  simp only [bind]
  rcases find' Cko.publicKey with _ | assoc
  · exact matchKeyWithCert_gives h pub
  · exact .pure

theorem keyCmp_gives (h1 : ∀ cls, Gives E I (find1 cls) (find1' cls))
    (h2 : ∀ cls, Gives E I (find2 cls) (find2' cls)) (key1 key2 : KeyView) (type : Nat)
    (cmp : CmpType) :
    Gives E I (keyCmp lib find1 find2 key1 key2 type cmp)
      (keyCmp lib find1' find2' key1 key2 type cmp) := by
  have hmatch : Gives E I (matchPublicKeys lib find1 find2 key1 key2)
      (matchPublicKeys lib find1' find2' key1 key2) := by
    rw [matchPublicKeys, matchPublicKeys]
    split_ifs
    · exact .pure
    · exact matchAssociated_gives h2 key1
    · exact matchAssociated_gives h1 key2
    · exact .pure
  rw [keyCmp, keyCmp]
  split_ifs
  all_goals first | exact .pure | exact hmatch

/-- Where the objects stay as they are and the searches find what they are associated with, the
    comparison is that with what they are associated with. -/
theorem objKeyCmp_gives {O : Oracle} {ctx : Ctx} {o1 o2 : ObjId} {key1 key2 : KeyView}
    (hobj1 : ∀ st, I st → ∃ x, st.mem.obj o1 = some x ∧ x.view = key1)
    (hobj2 : ∀ st, I st → ∃ x, st.mem.obj o2 = some x ∧ x.view = key2)
    (h1 : ∀ cls, Gives (env O) I (associatedView ctx o1 cls) (find1' cls))
    (h2 : ∀ cls, Gives (env O) I (associatedView ctx o2 cls) (find2' cls)) (type : Nat)
    (cmp : CmpType) :
    Gives (env O) I (objKeyCmp ctx lib o1 o2 type cmp)
      (keyCmp lib find1' find2' key1 key2 type cmp) := by
  intro st hst
  obtain ⟨x1, hx1, rfl⟩ := hobj1 st hst
  obtain ⟨x2, hx2, rfl⟩ := hobj2 st hst
  refine wp_loadObj.2 ?_
  rw [hx1, Option.getD_some]
  refine wp_loadObj.2 ?_
  rw [hx2, Option.getD_some]
  exact keyCmp_gives h1 h2 x1.view x2.view type cmp st hst

end Search

/-! ## A key with the modulus 259 -/

/-- A public key with the modulus 259 and the exponent 3. -/
def publicKey259 : KeyView where
  slotid := 0
  handle := 1
  cls := Cko.publicKey
  type := ckkRsa
  bitSize := 16
  attr type := if type = ckaModulus then some [1, 3] else if type = ckaPublicExponent then some [3]
    else none

/-- The private key that belongs to it. -/
def privateKey259 : KeyView :=
  { publicKey259 with handle := 2, cls := Cko.privateKey, attr := fun _ => none }

/-- The certificate with it. -/
def certificate259 : KeyView :=
  { publicKey259 with
    handle := 3, cls := Cko.certificate, attr := fun type => if type = ckaValue then some [] else none }

/-- An OpenSSL that reads the certificate, and all groups are the same. -/
def crtCmpLib : CmpLib where
  toExportLib := crtLib (BigEndian.value [1, 3]) (BigEndian.value [3])
  groupCmp group group' := decide (group.orderBits = group'.orderBits)

theorem crtCmpLib_comparesGroups : crtCmpLib.ComparesGroups where
  equivalence := by
    constructor
    · intro group
      exact decide_eq_true rfl
    · intro group group' h
      exact decide_eq_true (of_decide_eq_true h).symm
    · intro group group' group'' h h'
      exact decide_eq_true ((of_decide_eq_true h).trans (of_decide_eq_true h'))
  orderBits group group' h := of_decide_eq_true h

/-- Through the certificate, the private key is not that of its public key. -/
theorem certificate_agrees_iff_259 : ¬∀ pub p, pub.Means crtCmpLib p → pub.cls = Cko.publicKey →
    ¬privateKey259.SameHandle pub →
      keyCmp crtCmpLib (findCertificate certificate259) (fun _ => none) privateKey259 pub
          ckUnavailableInformation { pub := true } =
        keyCmp crtCmpLib (findPublicKey publicKey259) (fun _ => none) privateKey259 pub
          ckUnavailableInformation { pub := true } := by
  have hpriv : privateKey259.Lacks crtCmpLib (.rsa (BigEndian.value [1, 3]) (BigEndian.value [3])) :=
    ⟨.rsa rfl rfl (by decide), ckaModulus, by simp [PublicKey.types], rfl⟩
  have hassoc : publicKey259.Means crtCmpLib
      (.rsa (BigEndian.value [1, 3]) (BigEndian.value [3])) :=
    .rsa rfl rfl rfl rfl (by decide) (by decide) (by decide)
  have hcrt : HasCertificate crtCmpLib certificate259
      (.rsa (BigEndian.value [1, 3]) (BigEndian.value [3])) := ⟨rfl, [], rfl, rfl⟩
  have hnot : ¬privateKey259.SameHandle publicKey259 := fun h => absurd h.2 (by decide)
  intro h
  have hsymm := (certificate_agrees_iff crtCmpLib_comparesGroups hpriv hassoc hcrt
    (.rsa (by decide) (by decide)) rfl rfl hnot).1 h
  have hn : bnNative (BigEndian.value [1, 3]) = [3, 1] := by
    simp [bnNative, BigEndian.value, Der.octets]
  rw [PublicKey.Symmetric, hn] at hsymm
  exact absurd hsymm.1 (by decide)

end P11Prov
