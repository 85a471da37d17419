import P11Prov.AsymmetricCipher

/-!
# Decisions after a decryption

What a decryption with PKCS #1 padding returns, and what it copies with TLS
padding. The conditions are computed by `constant_equal`, which takes more codes
than `CKR_OK` for it, and the code of the token decides on the result, but not
on the copy. So both are right as long as the code is not above half the range,
and, with TLS padding, nothing that looks like a key was left in the buffer by a
decryption that failed (`rsaencPkcs_decides_iff`).
-/

namespace P11Prov

open Interaction Words

/-! ## Conditions as words -/

section Words

variable {w : Nat} {p q : Prop} [Decidable p] [Decidable q]

theorem and_cond : (if p then 1#w else 0#w) &&& (if q then 1#w else 0#w) =
    if p ∧ q then 1#w else 0#w := by
  by_cases hp : p <;> by_cases hq : q <;> simp [hp, hq]

theorem or_cond : (if p then 1#w else 0#w) ||| (if q then 1#w else 0#w) =
    if p ∨ q then 1#w else 0#w := by
  by_cases hp : p <;> by_cases hq : q <;> simp [hp, hq]

/-- The selection between two buffers takes one of them. -/
theorem constantSelectBuf_cond (hw : 0 < w) {n : Nat} {a b : Bytes} (ha : a.length = n)
    (hb : b.length = n) :
    constantSelectBuf (if p then 1#w else 0#w) n a b = if p then a else b := by
  rw [constantSelectBuf_eq p hw ha.ge hb.ge, List.take_of_length_le]
  split
  · exact ha.le
  · exact hb.le

theorem byteEqual_eq (hw : 8 < w) (a b : UInt8) :
    byteEqual w a b = if a = b then 1#w else 0#w := by
  have hlt (x : UInt8) : (x.toBitVec.setWidth w).toNat = x.toNat ∧ x.toNat < 2 ^ (w - 1) := by
    have hx := x.toNat_lt
    have h8 : 2 ^ 8 ≤ 2 ^ (w - 1) := Nat.pow_le_pow_right (by decide) (by omega)
    have h8' : 2 ^ 8 ≤ 2 ^ w := Nat.pow_le_pow_right (by decide) (by omega)
    refine ⟨?_, by omega⟩
    rw [BitVec.toNat_setWidth, UInt8.toNat_toBitVec, Nat.mod_eq_of_lt (by omega)]
  have hiff : LooksEqual (a.toBitVec.setWidth w) (b.toBitVec.setWidth w) ↔ a = b := by
    rw [looksEqual_iff (by rw [(hlt a).1]; exact (hlt a).2) (by rw [(hlt b).1]; exact (hlt b).2),
      ← BitVec.toNat_inj, (hlt a).1, (hlt b).1, UInt8.toNat_inj]
  rw [byteEqual, constantEqual_eq (by omega)]
  simp only [hiff]

end Words

/-! ## The right decision -/

/-- The first bytes of a buffer, as many as a key has. -/
def keyBytes (buf : Bytes) : Bytes := (List.range sslMaxMasterKeyLength).map fun i => buf.getD i 0

/-- The version at the start of a buffer is that of the client, or the alternative one if its major
    is not zero. -/
def VersionMatches (t : TlsPadding) (buf : Bytes) : Prop :=
  (buf.getD 0 0 = t.clientVerMajor ∧ buf.getD 1 0 = t.clientVerMinor) ∨
    (t.altVerMajor ≠ 0 ∧ buf.getD 0 0 = t.altVerMajor ∧ buf.getD 1 0 = t.altVerMinor)

instance (t : TlsPadding) (buf : Bytes) : Decidable (VersionMatches t buf) :=
  inferInstanceAs (Decidable (_ ∨ _))

/-- A decryption is to be accepted. -/
def Accepts {w : Nat} (t : TlsPadding) (buf : Bytes) (ret outSize : BitVec w) : Prop :=
  ret = .ofNat w Ckr.ok ∧
    (t.enabled → outSize = .ofNat w sslMaxMasterKeyLength ∧ VersionMatches t buf)

/-- The right decision, and with TLS padding the right copy: what was decrypted if it is accepted,
    and random bytes if not. -/
structure DecidesRight {w : Nat} (t : TlsPadding) (buf : Bytes) (ret outSize : BitVec w)
    (randbuf : Vector UInt8 sslMaxMasterKeyLength) (r : RsaencDecrypted) : Prop where
  ret_iff : r.ret = retOsslOk ↔ Accepts t buf ret outSize
  accepted : t.enabled → Accepts t buf ret outSize →
    r.out.take sslMaxMasterKeyLength = keyBytes buf
  rejected : t.enabled → ¬Accepts t buf ret outSize →
    r.out.take sslMaxMasterKeyLength = randbuf.toList

section Decide

variable {w : Nat} {t : TlsPadding} {out buf : Bytes} {ret outSize : BitVec w}
  {randbuf : Vector UInt8 sslMaxMasterKeyLength}

theorem versionCond_eq (hw : 8 < w) :
    versionCond w t (buf.getD 0 0) (buf.getD 1 0) = if VersionMatches t buf then 1#w else 0#w := by
  simp only [versionCond, byteEqual_eq hw, and_cond, or_cond, VersionMatches]
  by_cases halt : t.altVerMajor ≠ 0
  · simp [halt]
  · simp [halt]

/-- The condition of the copy does not know the code. -/
theorem tlsConstantTimeDepadding_val (hw : 8 < w) :
    (tlsConstantTimeDepadding t buf outSize randbuf).val =
      (if LooksEqual outSize (.ofNat w sslMaxMasterKeyLength) ∧ VersionMatches t buf then 1#w
        else 0#w,
      if LooksEqual outSize (.ofNat w sslMaxMasterKeyLength) ∧ VersionMatches t buf then
        keyBytes buf else randbuf.toList) := by
  have hbytes : (List.range sslMaxMasterKeyLength).map (fun i => (readByte buf (.ofNat 64 i)).val) =
      keyBytes buf := by
    refine List.map_congr_left fun i hi => ?_
    have hi : i < sslMaxMasterKeyLength := List.mem_range.1 hi
    simp only [readByte, BitVec.toNat_ofNat]
    rw [Nat.mod_eq_of_lt (Nat.lt_trans hi (by decide))]
  simp only [tlsConstantTimeDepadding, Traced.val_bind, Traced.val_pure, Traced.val_mapM, hbytes]
  have hver : versionCond w t (readByte buf 0).val (readByte buf 1).val =
      if VersionMatches t buf then 1#w else 0#w := versionCond_eq hw
  have hkey : (keyBytes buf).length = sslMaxMasterKeyLength := by
    rw [keyBytes, List.length_map, List.length_range]
  rw [hver, constantEqual_eq (by omega), and_cond, constantSelectBuf_cond (by omega) hkey
    randbuf.length_toList]

/-- The results of a selection tell its sides apart. -/
theorem select_ret (hw : 0 < w) {p : Prop} [Decidable p] :
    (constantSelectInt (if p then 1#w else 0#w) retOsslOk retOsslErr).toNat = retOsslOk ↔ p := by
  rw [constantSelectInt_eq p hw]
  by_cases hp : p
  · simp only [hp, if_true, iff_true]
    decide
  · simp only [hp, if_false, iff_false]
    decide

/-- What `constant_equal` takes for `CKR_OK`. -/
theorem looksOk_iff : LooksEqual ret (.ofNat w Ckr.ok) ↔ ret = .ofNat w Ckr.ok ∨
    2 ^ (w - 1) < ret.toNat := by
  rw [LooksEqual]
  simp

/-- With TLS padding, the code counts for the result only. -/
theorem rsaencPkcsResult_tls (hw : 8 < w) (ht : t.enabled = true) (out buf : Bytes)
    (ret outSize : BitVec w) (randbuf : Vector UInt8 sslMaxMasterKeyLength) :
    ((rsaencPkcsResult t out buf ret outSize (some randbuf)).ret = retOsslOk ↔
      LooksEqual ret (.ofNat w Ckr.ok) ∧
        LooksEqual outSize (.ofNat w sslMaxMasterKeyLength) ∧ VersionMatches t buf) ∧
    (rsaencPkcsResult t out buf ret outSize (some randbuf)).out.take sslMaxMasterKeyLength =
      if LooksEqual outSize (.ofNat w sslMaxMasterKeyLength) ∧ VersionMatches t buf then
        keyBytes buf else randbuf.toList := by
  simp only [rsaencPkcsResult, ht, if_true, tlsConstantTimeDepadding_val hw]
  rw [constantEqual_eq (by omega), and_cond]
  refine ⟨select_ret (by omega), ?_⟩
  refine take_overwrite ?_
  split
  · rw [keyBytes, List.length_map, List.length_range]
  · exact randbuf.length_toList

/-- The decision is right without TLS padding exactly if the code is not above half the range, and
    with it exactly if no key that matches is left by a decryption that failed. -/
theorem rsaencPkcs_decides_iff (hw : 8 < w) :
    DecidesRight t buf ret outSize randbuf
        (rsaencPkcsResult t out buf ret outSize (some randbuf)) ↔
      (t.enabled = false → ret.toNat ≤ 2 ^ (w - 1)) ∧
        (t.enabled → VersionMatches t buf →
          LooksEqual outSize (.ofNat w sslMaxMasterKeyLength) →
            (ret = .ofNat w Ckr.ok ∧ outSize = .ofNat w sslMaxMasterKeyLength) ∨
              (ret ≠ .ofNat w Ckr.ok ∧ ret.toNat ≤ 2 ^ (w - 1) ∧
                keyBytes buf = randbuf.toList)) := by
  have hpow : 0 < 2 ^ (w - 1) := Nat.two_pow_pos _
  cases ht : t.enabled with
  | false =>
    have hret : (rsaencPkcsResult t out buf ret outSize (some randbuf)).ret = retOsslOk ↔
        LooksEqual ret (.ofNat w Ckr.ok) := by
      simp only [rsaencPkcsResult, ht, Bool.false_eq_true, if_false]
      rw [constantEqual_eq (by omega), select_ret (by omega)]
    have hacc : Accepts t buf ret outSize ↔ ret = .ofNat w Ckr.ok := by
      simp [Accepts, ht]
    simp only [Bool.false_eq_true, false_implies, and_true, true_implies]
    constructor
    · intro h
      by_contra hlt
      have hok := hacc.1 (h.ret_iff.1 (hret.2 (looksOk_iff.2 (.inr (by omega)))))
      rw [hok] at hlt
      simp at hlt
    · intro hle
      refine ⟨?_, fun h => absurd (ht.symm.trans h) (by decide),
        fun h => absurd (ht.symm.trans h) (by decide)⟩
      rw [hret, hacc, looksOk_iff]
      exact or_iff_left (by omega)
  | true =>
    obtain ⟨hret, hout⟩ := rsaencPkcsResult_tls hw ht out buf ret outSize randbuf
    have hacc : Accepts t buf ret outSize ↔ ret = .ofNat w Ckr.ok ∧
        outSize = .ofNat w sslMaxMasterKeyLength ∧ VersionMatches t buf := by
      simp [Accepts, ht]
    simp only [Bool.true_eq_false, false_implies, true_and, true_implies]
    by_cases hcopy : LooksEqual outSize (.ofNat w sslMaxMasterKeyLength) ∧ VersionMatches t buf
    · rw [if_pos hcopy] at hout
      have hok : LooksEqual ret (.ofNat w Ckr.ok) ↔
          ret = .ofNat w Ckr.ok ∨ 2 ^ (w - 1) < ret.toNat := looksOk_iff
      constructor
      · intro h _ _
        by_cases ha : Accepts t buf ret outSize
        · exact .inl ⟨(hacc.1 ha).1, (hacc.1 ha).2.1⟩
        · have hno : ¬LooksEqual ret (.ofNat w Ckr.ok) := fun hl =>
            ha (h.ret_iff.1 (hret.2 ⟨hl, hcopy⟩))
          rw [hok, not_or] at hno
          exact .inr ⟨hno.1, by omega, hout.symm.trans (h.rejected ht ha)⟩
      · intro h
        rcases h hcopy.2 hcopy.1 with hgood | ⟨hne, hle, hsame⟩
        · have ha : Accepts t buf ret outSize := hacc.2 ⟨hgood.1, hgood.2, hcopy.2⟩
          exact ⟨⟨fun _ => ha, fun _ => hret.2 ⟨.inl hgood.1, hcopy⟩⟩, fun _ _ => hout,
            fun _ hno => absurd ha hno⟩
        · have ha : ¬Accepts t buf ret outSize := fun ha => hne (hacc.1 ha).1
          have hno : ¬LooksEqual ret (.ofNat w Ckr.ok) := by
            rw [hok, not_or]
            exact ⟨hne, by omega⟩
          exact ⟨⟨fun hr => absurd (hret.1 hr).1 hno, fun h => absurd h ha⟩,
            fun _ h => absurd h ha, fun _ _ => hout.trans hsame⟩
    · rw [if_neg hcopy] at hout
      have ha : ¬Accepts t buf ret outSize := fun ha => hcopy ⟨.inl (hacc.1 ha).2.1, (hacc.1 ha).2.2⟩
      refine ⟨fun _ hver hlen => absurd ⟨hlen, hver⟩ hcopy, fun _ => ?_⟩
      exact ⟨⟨fun hr => absurd (hret.1 hr).2 hcopy, fun h => absurd h ha⟩, fun _ h => absurd h ha,
        fun _ _ => hout⟩

end Decide

/-- The padding of a client that speaks TLS 1.2. -/
def sampleTls : TlsPadding where
  enabled := true
  clientVerMajor := 3
  clientVerMinor := 3

/-- A buffer that starts with the version. -/
def sampleKey : Bytes := 3 :: 3 :: .replicate 126 0x4B

/-- A key that was decrypted is decided on rightly. -/
theorem rsaencPkcs_decides_sample :
    DecidesRight sampleTls sampleKey (0 : BitVec 64) 48 (.replicate 48 0)
      (rsaencPkcsResult sampleTls (.replicate 128 0) sampleKey (0 : BitVec 64) 48
        (some (.replicate 48 0))) :=
  (rsaencPkcs_decides_iff (by decide)).2
    ⟨fun h => absurd h (by decide), fun _ _ _ => .inl ⟨rfl, rfl⟩⟩

/-- A code that looks like `CKR_OK` to the comparison is returned as a success where a `CK_ULONG` has
    32 bits, and with TLS padding a decryption that failed hands out what it left in the buffer. -/
theorem rsaencPkcs_decides_wrong :
    ¬DecidesRight {} sampleKey (0x80000001 : BitVec 32) 128 (.replicate 48 0)
        (rsaencPkcsResult {} (.replicate 128 0) sampleKey (0x80000001 : BitVec 32) 128
          (some (.replicate 48 0))) ∧
      ¬DecidesRight sampleTls sampleKey (6 : BitVec 64) 48 (.replicate 48 0)
        (rsaencPkcsResult sampleTls (.replicate 128 0) sampleKey (6 : BitVec 64) 48
          (some (.replicate 48 0))) := by
  refine ⟨fun h => ?_, fun h => ?_⟩
  · have hacc := (h.ret_iff.1 (by decide +kernel)).1
    exact absurd hacc (by decide)
  · have hno : ¬Accepts sampleTls sampleKey (6 : BitVec 64) 48 := fun ha =>
      absurd ha.1 (by decide)
    exact absurd (h.rejected rfl hno) (by decide +kernel)

end P11Prov
