import P11Prov.Cipher.Unpad

/-!
# The reads of a record stay inside

What `tlsunpad` reads of a buffer and what it subtracts. On a record that is
not empty and a multiple of the block size, it stays inside of the record
whatever its content. The empty record is one of these multiples too: its last
byte, the size of the padding, is read in front of it (`tlsunpad_inside_iff`).
-/

namespace P11Prov

open Interaction Words

/-! ## Reads and differences -/

section Steps

variable {α : Type} {out : Bytes} {n a b c : Nat} {f : CkUlong → Buffered α}

theorem StaysIn.sub (h : b ≤ a) (ha : a < 2 ^ 64) :
    StaysIn n (subLength (.ofNat 64 a) (.ofNat 64 b)) := by
  rintro _ (_ | ⟨_, he⟩)
  · simp only [BufferEvent.Inside, BitVec.toNat_ofNat]
    rwa [Nat.mod_eq_of_lt (by omega), Nat.mod_eq_of_lt ha]
  · exact absurd he List.not_mem_nil

/-- A difference, and what is done with it. -/
theorem StaysIn.sub_bind (h : b ≤ a) (ha : a < 2 ^ 64) (hf : StaysIn n (f (.ofNat 64 (a - b)))) :
    StaysIn n (subLength (.ofNat 64 a) (.ofNat 64 b) >>= f) := by
  refine .bind (StaysIn.sub h ha) ?_
  change StaysIn n (f (.ofNat 64 a - .ofNat 64 b))
  rwa [ofNat_sub_ofNat h ha]

/-- Two differences, one after the other. -/
theorem StaysIn.sub_sub (h : b + c ≤ a) (ha : a < 2 ^ 64)
    (hf : StaysIn n (f (.ofNat 64 (a - b - c)))) :
    StaysIn n (do f (← subLength (← subLength (.ofNat 64 a) (.ofNat 64 b)) (.ofNat 64 c))) :=
  StaysIn.sub_bind (by omega) ha (StaysIn.sub_bind (by omega) (by omega) hf)

end Steps

/-! ## The loops -/

section Loops

variable {out mac : Bytes} {n off m s k : Nat} {p : UInt8} {pass : CkUlong}

theorem padStep_inside {i : Nat} (hi : i + 2 ≤ m) (hn : off + m ≤ n) (hlt : n < 2 ^ 63) :
    StaysIn n (padStep out (.ofNat 64 off) (.ofNat 64 m) (ofByte p) pass i) := by
  refine StaysIn.sub_sub (c := 2) hi (by omega) ?_
  rw [← BitVec.ofNat_add]
  exact .bind (StaysIn.read (by omega) hlt) .pure

theorem macStep_inside {i : Nat} (hi : i < m) (hn : off + m ≤ n) (hlt : n < 2 ^ 63) :
    StaysIn n (macStep out (.ofNat 64 off) (.ofNat 64 k) (.ofNat 64 s) mac i) := by
  refine .mapM fun _ _ => .bind ?_ .pure
  rw [← BitVec.ofNat_add]
  exact StaysIn.read (by omega) hlt

theorem macArea_inside (hm : m < 2 ^ 63) (hs : s ≤ 64) :
    StaysIn n (macArea (.ofNat 64 m) (.ofNat 64 s)) := by
  have hiff : BitVec.ofNat 64 s + 256 < BitVec.ofNat 64 m ↔ s + 256 < m := by
    rw [show (256 : CkUlong) = BitVec.ofNat 64 256 from rfl, ← BitVec.ofNat_add,
      lt_ofNat (by omega) (by omega)]
  by_cases h : s + 256 < m
  · rw [macArea, if_pos (hiff.2 h)]
    refine StaysIn.sub_bind (by omega) (by omega) ?_
    exact StaysIn.sub (b := 256) (by omega) (by omega)
  · rw [macArea, if_neg (mt hiff.1 h)]
    exact .pure

/-- The loop over the padding does not reach the last byte of the body. -/
theorem tlsunpadPass_inside {overhead : CkUlong} (hm : 1 ≤ m) (hn : off + m ≤ n)
    (hlt : n < 2 ^ 63) :
    StaysIn n (tlsunpadPass out (.ofNat 64 off) (.ofNat 64 m) overhead (ofByte p)) := by
  have hmin : (if BitVec.ofNat 64 m < .ofNat 64 maxPadding then BitVec.ofNat 64 m
      else .ofNat 64 maxPadding) = .ofNat 64 (min m maxPadding) := by
    simp only [lt_ofNat (show m < 2 ^ 64 by omega) (show maxPadding < 2 ^ 64 by decide)]
    split
    · rw [Nat.min_eq_left (by omega)]
    · rw [Nat.min_eq_right (by omega)]
  have hpos : 1 ≤ min m maxPadding := le_min hm (by decide)
  simp only [tlsunpadPass, hmin]
  refine StaysIn.sub_bind (b := 1) hpos (by omega) (.bind (.foldlM (fun i hi pass => ?_) _) .pure)
  have hi : i < min m maxPadding - 1 := by
    rwa [List.mem_range, BitVec.toNat_ofNat, Nat.mod_eq_of_lt (by omega)] at hi
  exact padStep_inside (by omega) hn hlt

end Loops

/-! ## The record -/

section Record

variable {out : Bytes} {n off m s : Nat} {p : UInt8} {outlen : CkUlong} {alloc : Bool}
  {randmac : Option (Vector UInt8 evpMaxMdSize)}

theorem tlsunpadMac_inside {b : Bool} (hs : s ≤ 64) (hm : s ≤ m) (hb : b → s + 1 + p.toNat ≤ m)
    (hn : off + m ≤ n) (hlt : n < 2 ^ 63) :
    StaysIn n (tlsunpadMac out (.ofNat 64 off) (.ofNat 64 m) (.ofNat 64 s) (mask 64 b) (ofByte p)
      outlen alloc randmac) := by
  obtain ⟨q, hq, hqs⟩ : ∃ q, (if b then p.toNat + 1 else 0) = q ∧ s + q ≤ m := by
    cases b with
    | false => exact ⟨0, rfl, hm⟩
    | true => exact ⟨p.toNat + 1, rfl, by have := hb rfl; omega⟩
  simp only [tlsunpadMac, pass_and, hq]
  refine StaysIn.sub_sub hqs (by omega) ?_
  cases alloc with
  | false => exact .pure
  | true =>
    cases randmac with
    | none => exact .pure
    | some randmac =>
      refine .bind (macArea_inside (by omega) hs) (.bind (.foldlM (fun i hi mac => ?_) _) ?_)
      · -- the window ends with the body
        rw [macArea_val (by omega) hs, BitVec.toNat_ofNat, BitVec.toNat_ofNat,
          Nat.mod_eq_of_lt (by omega), Nat.mod_eq_of_lt (by omega), List.mem_range'_1] at hi
        exact macStep_inside (by omega) hn hlt
      · exact StaysIn.sub_sub hqs (by omega) .pure

theorem tlsunpadBody_inside (hs : s ≤ 64) (hn : off + m ≤ n) (hlt : n < 2 ^ 63) :
    StaysIn n (tlsunpadBody out (.ofNat 64 off) (.ofNat 64 m) (.ofNat 64 s) (ofByte p) outlen alloc
      randmac) := by
  have hp := p.toNat_lt
  have h1 : BitVec.ofNat 64 m < BitVec.ofNat 64 s + 1 ↔ m < s + 1 := by
    rw [show (1 : CkUlong) = BitVec.ofNat 64 1 from rfl, ← BitVec.ofNat_add,
      lt_ofNat (by omega) (by omega)]
  have h2 : BitVec.ofNat 64 m < BitVec.ofNat 64 s ↔ m < s := lt_ofNat (by omega) (by omega)
  have hpass : (!(BitVec.ofNat 64 m).ult (BitVec.ofNat 64 s + 1 + ofByte p)) =
      decide (s + 1 + p.toNat ≤ m) := by
    rw [ofByte_eq, show (1 : CkUlong) = BitVec.ofNat 64 1 from rfl, ← BitVec.ofNat_add,
      ← BitVec.ofNat_add, ult_ofNat (by omega) (by omega), ← decide_not, decide_eq_decide]
    omega
  simp only [tlsunpadBody, h1, h2]
  split
  · exact .pure
  split
  · exact .pure
  refine .bind (tlsunpadPass_inside (by omega) hn hlt) ?_
  rw [tlsunpadPass_val, hpass]
  split
  · exact tlsunpadMac_inside hs (by omega) (by simp) hn hlt
  · rw [pass_and]
    refine StaysIn.sub_sub ?_ (by omega) .pure
    by_cases hgood : s + 1 + p.toNat ≤ m
    · simp only [hgood, decide_true, if_true]
      omega
    · simp only [hgood, decide_false, Bool.false_eq_true, if_false]
      omega

/-- What is left of the body is not longer than it. -/
theorem tlsunpadBody_le (hs : s ≤ 64) (hlen : off + m ≤ out.length) (hlt : out.length < 2 ^ 63)
    (hok : (tlsunpadBody out (.ofNat 64 off) (.ofNat 64 m) (.ofNat 64 s) (ofByte p) outlen alloc
      randmac).val.rv = Ckr.ok) :
    (tlsunpadBody out (.ofNat 64 off) (.ofNat 64 m) (.ofNat 64 s) (ofByte p) outlen alloc
      randmac).val.outlen.toNat ≤ m := by
  have h1 : BitVec.ofNat 64 m < BitVec.ofNat 64 s + 1 ↔ m < s + 1 := by
    rw [show (1 : CkUlong) = BitVec.ofNat 64 1 from rfl, ← BitVec.ofNat_add,
      lt_ofNat (by omega) (by omega)]
  by_cases hm : m < s + 1
  · rw [tlsunpadBody, if_pos (h1.2 hm)] at hok
    exact absurd hok (by decide : Ckr.bufferTooSmall ≠ Ckr.ok)
  -- with memory and random bytes
  have hle (rand : Vector UInt8 evpMaxMdSize) : (tlsunpadBody out (.ofNat 64 off) (.ofNat 64 m)
      (.ofNat 64 s) (ofByte p) outlen true (some rand)).val.outlen.toNat ≤ m := by
    rw [tlsunpadBody_val hs hlen hlt (by omega)]
    have hbody : ((out.drop off).take m).length ≤ m := List.length_take_le ..
    rw [unpadded, BitVec.toNat_ofNat]
    exact Nat.le_trans (Nat.mod_le ..) (by omega)
  rcases Nat.eq_zero_or_pos s with rfl | hpos
  · -- no MAC, for which they are not needed
    have h0 : ¬(0 : CkUlong) < BitVec.ofNat 64 0 := by decide
    have heq : tlsunpadBody out (.ofNat 64 off) (.ofNat 64 m) (.ofNat 64 0) (ofByte p) outlen alloc
        randmac = tlsunpadBody out (.ofNat 64 off) (.ofNat 64 m) (.ofNat 64 0) (ofByte p) outlen true
          (some (.replicate 64 0)) := by
      simp only [tlsunpadBody, h0, if_false]
    rw [heq]
    exact hle _
  · have h2 : ¬BitVec.ofNat 64 m < BitVec.ofNat 64 s := by
      rw [lt_ofNat (by omega) (by omega)]
      omega
    have h3 : (0 : CkUlong) < BitVec.ofNat 64 s := (lt_ofNat (by decide) (by omega)).2 hpos
    cases alloc with
    | false =>
      simp only [tlsunpadBody, mt h1.1 hm, h2, h3, if_false, if_true] at hok
      exact absurd hok (by decide : Ckr.generalError ≠ Ckr.ok)
    | true =>
      cases randmac with
      | none =>
        simp only [tlsunpadBody, mt h1.1 hm, h2, h3, if_false, if_true] at hok
        exact absurd hok (by decide : Ckr.generalError ≠ Ckr.ok)
      | some rand => exact hle rand

end Record

/-- Whatever the record holds, no read is outside of it, no difference wraps and no more than the
    body is left, exactly if it is not empty. -/
theorem tlsunpad_inside_iff {v : TlsVersion} {macsize : Nat} (hmac : macsize ≤ evpMaxMdSize)
    (r : Record) (hblocks : r.data.length % aesBlock = 0) (outlen : CkUlong) (alloc : Bool)
    (randmac : Option (Vector UInt8 evpMaxMdSize)) :
    StaysIn r.data.length (tlsunpad v macsize r.data r.size outlen alloc randmac) ∧
        ((tlsunpad v macsize r.data r.size outlen alloc randmac).val.rv = Ckr.ok →
          (tlsunpad v macsize r.data r.size outlen alloc randmac).val.outlen.toNat ≤
            (r.body v).length) ↔
      r.data ≠ [] := by
  have hlt := r.length_lt
  constructor
  · rintro ⟨hin, -⟩ hnil
    -- the length minus one
    have hsub : BufferEvent.Inside r.data.length (.sub r.size 1) := hin _ List.mem_cons_self
    rw [BufferEvent.Inside, Record.size, hnil] at hsub
    exact absurd hsub (by decide)
  · intro hne
    have hpos : 0 < r.data.length := List.length_pos_iff.2 hne
    have hiv : v.ivLength ≤ r.data.length := by
      have hblock : aesBlock ≤ r.data.length :=
        Nat.le_of_dvd hpos (Nat.dvd_of_mod_eq_zero hblocks)
      cases v with
      | tls10 => exact Nat.zero_le _
      | tls11 | tls12 => exact hblock
    have hbody : (r.body v).length = r.data.length - v.ivLength := List.length_drop
    refine ⟨?_, ?_⟩
    · refine StaysIn.sub_bind (b := 1) hpos (by omega) (.bind (StaysIn.read (by omega) hlt) ?_)
      cases v with
      | tls10 =>
        have hn : 0 + r.data.length ≤ r.data.length := by omega
        exact tlsunpadBody_inside hmac hn hlt
      | tls11 | tls12 =>
        have hn : aesBlock + (r.data.length - aesBlock) ≤ r.data.length :=
          Nat.le_of_eq (Nat.add_sub_cancel' hiv)
        exact StaysIn.sub_bind hiv (by omega) (tlsunpadBody_inside hmac hn hlt)
    · rw [Record.size, tlsunpad_eq hpos hlt hiv, hbody]
      exact tlsunpadBody_le hmac (by omega) hlt

/-- No block at all. -/
def emptyRecord : Record where
  data := []
  length_lt := by decide

/-- The forged record has two blocks. -/
theorem tlsunpad_inside_sample :
    StaysIn (sampleRecord 0 1).data.length (tlsunpad .tls10 20 (sampleRecord 0 1).data
        (sampleRecord 0 1).size 0 true (some (.replicate 64 0))) ∧
      ((tlsunpad .tls10 20 (sampleRecord 0 1).data (sampleRecord 0 1).size 0 true
          (some (.replicate 64 0))).val.rv = Ckr.ok →
        (tlsunpad .tls10 20 (sampleRecord 0 1).data (sampleRecord 0 1).size 0 true
          (some (.replicate 64 0))).val.outlen.toNat ≤ ((sampleRecord 0 1).body .tls10).length) :=
  (tlsunpad_inside_iff (by decide) (sampleRecord 0 1) (by decide) 0 true _).2 (by decide)

/-- An update without input is admitted, and the last byte is read in front of the buffer. -/
theorem tlsunpad_outside : emptyRecord.data.length % aesBlock = 0 ∧
    ¬StaysIn emptyRecord.data.length
      (tlsunpad .tls10 20 emptyRecord.data emptyRecord.size 0 true (some (.replicate 64 0))) := by
  decide +kernel

end P11Prov
