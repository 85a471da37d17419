import P11Prov.Pkcs11

/-!
# Digests and parameters

The table of digests that the rest of the provider looks up by mechanism or by
name, and the parameters that OpenSSL hands to a context (`OSSL_PARAM`).
-/

namespace P11Prov

/-! ## The digest map -/

/-- A letter in lower case, any other byte as it is. -/
def toLower (c : UInt8) : UInt8 := if 0x41 ≤ c ∧ c ≤ 0x5A then c + 0x20 else c

/-- `OPENSSL_strcasecmp(a, b) == 0` -/
def strcasecmpEq (a b : Bytes) : Bool := a.map toLower == b.map toLower

/-- An entry of `digest_map`. -/
structure DigestData where
  digest : Nat
  digestSize : Nat
  names : List Bytes

/-- `digest_map` -/
def digestMap : List DigestData := [
  ⟨Ckm.sha1, 20, [ascii "SHA1", ascii "SHA-1", ascii "SSL3-SHA1", ascii "1.3.14.3.2.26"]⟩,
  ⟨Ckm.sha224, 28,
    [ascii "SHA2-224", ascii "SHA-224", ascii "SHA224", ascii "2.16.840.1.101.3.4.2.4"]⟩,
  ⟨Ckm.sha256, 32,
    [ascii "SHA2-256", ascii "SHA-256", ascii "SHA256", ascii "2.16.840.1.101.3.4.2.1"]⟩,
  ⟨Ckm.sha384, 48,
    [ascii "SHA2-384", ascii "SHA-384", ascii "SHA384", ascii "2.16.840.1.101.3.4.2.2"]⟩,
  ⟨Ckm.sha512, 64,
    [ascii "SHA2-512", ascii "SHA-512", ascii "SHA512", ascii "2.16.840.1.101.3.4.2.3"]⟩,
  ⟨Ckm.sha512_224, 28,
    [ascii "SHA2-512/224", ascii "SHA-512/224", ascii "SHA512-224",
      ascii "2.16.840.1.101.3.4.2.5"]⟩,
  ⟨Ckm.sha512_256, 32,
    [ascii "SHA2-512/256", ascii "SHA-512/256", ascii "SHA512-256",
      ascii "2.16.840.1.101.3.4.2.6"]⟩,
  ⟨Ckm.sha3_224, 28, [ascii "SHA3-224", ascii "2.16.840.1.101.3.4.2.7"]⟩,
  ⟨Ckm.sha3_256, 32, [ascii "SHA3-256", ascii "2.16.840.1.101.3.4.2.8"]⟩,
  ⟨Ckm.sha3_384, 48, [ascii "SHA3-384", ascii "2.16.840.1.101.3.4.2.9"]⟩,
  ⟨Ckm.sha3_512, 64, [ascii "SHA3-512", ascii "2.16.840.1.101.3.4.2.10"]⟩]

/-- The entry of a digest. -/
def digestData (digest : Nat) : Except CkRv DigestData :=
  match digestMap.find? (·.digest = digest) with
  | some data => .ok data
  | none => .error Ckr.mechanismInvalid

/-- `p11prov_digest_get_digest_size` -/
def digestGetDigestSize (digest : Nat) : Except CkRv Nat := (digestData digest).map (·.digestSize)

/-- The size of a digest, and zero for what is no digest. -/
def digestSizeOf (digest : Nat) : Nat := ((digestGetDigestSize digest).toOption).getD 0

/-- `p11prov_digest_get_name` -/
def digestGetName (digest : Nat) : Except CkRv Bytes :=
  (digestData digest).map fun data => data.names.headD []

/-- `p11prov_digest_get_by_name` -/
def digestGetByName (name : Bytes) : Except CkRv Nat :=
  match digestMap.find? fun data => data.names.any (strcasecmpEq name) with
  | some data => .ok data.digest
  | none => .error Ckr.mechanismInvalid

theorem digestData_error {digest : Nat} {ret : CkRv} (h : digestData digest = .error ret) :
    ret = Ckr.mechanismInvalid := by
  simp only [digestData] at h
  split at h
  · simp at h
  · exact (Except.error.inj h).symm

theorem digestGetName_error {digest : Nat} {ret : CkRv} (h : digestGetName digest = .error ret) :
    ret = Ckr.mechanismInvalid := by
  cases hd : digestData digest with
  | ok data => simp [digestGetName, hd, Except.map] at h
  | error r =>
    simp only [digestGetName, hd, Except.map, Except.error.injEq] at h
    exact h ▸ digestData_error hd

theorem digestGetDigestSize_error {digest : Nat} {ret : CkRv}
    (h : digestGetDigestSize digest = .error ret) : ret = Ckr.mechanismInvalid := by
  cases hd : digestData digest with
  | ok data => simp [digestGetDigestSize, hd, Except.map] at h
  | error r =>
    simp only [digestGetDigestSize, hd, Except.map, Except.error.injEq] at h
    exact h ▸ digestData_error hd

/-- The name of a digest is one of that digest only. -/
theorem digestGetByName_getName {digest : Nat} {name : Bytes} (h : digestGetName digest = .ok name) :
    digestGetByName name = .ok digest := by
  have hall : ∀ data ∈ digestMap, digestGetByName (data.names.headD []) = .ok data.digest := by
    decide
  simp only [digestGetName, digestData] at h
  cases hf : digestMap.find? (·.digest = digest) with
  | none => simp [hf, Except.map] at h
  | some data =>
    have hd : data.digest = digest := by simpa using List.find?_some hf
    simp only [hf, Except.map, Except.ok.injEq] at h
    rw [← h, ← hd]
    exact hall data (List.mem_of_find?_eq_some hf)

/-! ## Parameters -/

/-- The data of an `OSSL_PARAM`, by its type. A pointer that is `NULL` is `none`. -/
inductive OsslData
  | integer (v : Int)
  | unsignedInteger (v : Nat)
  | utf8String (s : Option Bytes)
  | utf8Ptr (s : Option Bytes)
  | octetString (s : Option Bytes)
  deriving DecidableEq

/-- `OSSL_PARAM` -/
structure OsslParam where
  key : Bytes
  data : OsslData
  deriving DecidableEq

/-- `OSSL_PARAM_locate_const` -/
def locate (params : List OsslParam) (key : Bytes) : Option OsslData :=
  (params.find? (·.key = key)).map (·.data)

/-- `OSSL_PARAM_get_utf8_string_ptr` -/
def OsslData.getUtf8StringPtr : OsslData → Option Bytes
  | utf8String s | utf8Ptr s => s
  | _ => none

/-- `OSSL_PARAM_get_utf8_ptr`, which takes no string that is not passed by reference. -/
def OsslData.getUtf8Ptr : OsslData → Option Bytes
  | utf8Ptr s => s
  | _ => none

/-- `OSSL_PARAM_get_octet_string`, into a buffer that it allocates. -/
def OsslData.getOctetString : OsslData → Option Bytes
  | octetString s => s
  | _ => none

/-- `OSSL_PARAM_get_int`: the number, if it is an `int`. -/
def OsslData.getInt : OsslData → Option Int
  | integer v => if -0x80000000 ≤ v ∧ v ≤ 0x7FFFFFFF then some v else none
  | unsignedInteger v => if v ≤ 0x7FFFFFFF then some v else none
  | _ => none

/-- `OSSL_PARAM_get_uint`: the number, if it is an `unsigned int`. -/
def OsslData.getUint : OsslData → Option Nat
  | integer v => if 0 ≤ v ∧ v ≤ 0xFFFFFFFF then some v.toNat else none
  | unsignedInteger v => if v ≤ 0xFFFFFFFF then some v else none
  | _ => none

/-- `OSSL_PARAM_get_ulong`: the number, if it is an `unsigned long`. -/
def OsslData.getUlong : OsslData → Option Nat
  | integer v => if 0 ≤ v ∧ v ≤ 0xFFFFFFFFFFFFFFFF then some v.toNat else none
  | unsignedInteger v => if v ≤ 0xFFFFFFFFFFFFFFFF then some v else none
  | _ => none

/-- `OSSL_PARAM_get_size_t` -/
def OsslData.getSizeT : OsslData → Option Nat
  | integer v => if 0 ≤ v ∧ v ≤ 0xFFFFFFFFFFFFFFFF then some v.toNat else none
  | unsignedInteger v => if v ≤ 0xFFFFFFFFFFFFFFFF then some v else none
  | _ => none

/-- The number that the digits at the start of a string denote. -/
def leadingNat (s : Bytes) : Nat :=
  (s.takeWhile isDigit).foldl (fun n c => 10 * n + (c.toNat - 0x30)) 0

/-- `atoi`: the number is read as a `long`, and cut to an `int`. -/
def atoi (s : Bytes) : Int :=
  let s := s.dropWhile isSpace
  let v : Int := match s with
    | 0x2D :: s => -leadingNat s
    | 0x2B :: s => leadingNat s
    | s => leadingNat s
  (max (-0x8000000000000000) (min v 0x7FFFFFFFFFFFFFFF)).bmod 0x100000000

/-! ## Parameters of a context -/

/-- A parameter that a context of the type `σ` takes: its key and what becomes of its value. -/
structure Setter (σ : Type) where
  key : Bytes
  set : σ → OsslData → Nat × σ

/-- Takes the parameter, if it is there. -/
def Setter.run {σ : Type} (s : Setter σ) (params : List OsslParam) (c : σ) : Nat × σ :=
  match locate params s.key with
  | none => (retOsslOk, c)
  | some p => s.set c p

/-- Takes parameters in their order, up to the first one that is refused. -/
def setAll {σ : Type} (params : List OsslParam) : List (Setter σ) → σ → Nat × σ
  | [], c => (retOsslOk, c)
  | s :: setters, c =>
    let r := s.run params c
    if r.1 ≠ retOsslOk then r else setAll params setters r.2

/-- What every parameter keeps is kept by all of them. -/
theorem setAll_keeps {σ : Type} {I : σ → Prop} {params : List OsslParam}
    {setters : List (Setter σ)} (h : ∀ s ∈ setters, ∀ c p, I c → I (s.set c p).2) {c : σ}
    (hc : I c) :
    I (setAll params setters c).2 := by
  induction setters generalizing c with
  | nil => exact hc
  | cons s setters ih =>
    have hs : I (s.run params c).2 := by
      unfold Setter.run
      split
      · exact hc
      · exact h s List.mem_cons_self c _ hc
    simp only [setAll]
    split
    · exact hs
    · exact ih (fun s' hs' => h s' (List.mem_cons_of_mem s hs')) hs

/-- What commutes with every parameter commutes with all of them. -/
theorem setAll_comm {σ : Type} {f : σ → σ} {params : List OsslParam} {setters : List (Setter σ)}
    (h : ∀ s ∈ setters, ∀ c p, s.set (f c) p = ((s.set c p).1, f (s.set c p).2)) (c : σ) :
    setAll params setters (f c) =
      ((setAll params setters c).1, f (setAll params setters c).2) := by
  induction setters generalizing c with
  | nil => rfl
  | cons s setters ih =>
    have hs : s.run params (f c) = ((s.run params c).1, f (s.run params c).2) := by
      unfold Setter.run
      split
      · rfl
      · exact h s List.mem_cons_self c _
    simp only [setAll, hs]
    split
    · rfl
    · exact ih (fun s' hs' => h s' (List.mem_cons_of_mem s hs')) _

/-- Two results are of the same code, and `R` holds of what they are about. -/
def Alike {σ τ : Type} (R : σ → τ → Prop) (r : Nat × σ) (r' : Nat × τ) : Prop :=
  r.1 = r'.1 ∧ R r.2 r'.2

section Alike

variable {σ τ : Type} {R : σ → τ → Prop} {params : List OsslParam} {s : Setter σ} {t : Setter τ}
  {c : σ} {d : τ}

theorem Setter.run_alike (hkey : t.key = s.key) (h : R c d)
    (hset : ∀ p, locate params s.key = some p → Alike R (s.set c p) (t.set d p)) :
    Alike R (s.run params c) (t.run params d) := by
  rw [Setter.run, Setter.run, hkey]
  cases hp : locate params s.key with
  | none => exact ⟨rfl, h⟩
  | some p => exact hset p hp

/-- Two lists of parameters are alike if the first ones are, and the rest after them. -/
theorem setAll_alike {l : List (Setter σ)} {l' : List (Setter τ)}
    (h : Alike R (s.run params c) (t.run params d))
    (hl : (s.run params c).1 = retOsslOk →
      Alike R (setAll params l (s.run params c).2) (setAll params l' (t.run params d).2)) :
    Alike R (setAll params (s :: l) c) (setAll params (t :: l') d) := by
  simp only [setAll, ← h.1]
  split
  · exact h
  · rename_i hok
    exact hl (not_not.1 hok)

end Alike

/-- An entry of a `padding_map`. -/
structure Padding where
  type : Nat
  osslId : Int
  string : Bytes
  deriving DecidableEq, Repr

end P11Prov
