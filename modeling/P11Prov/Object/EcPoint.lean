import P11Prov.Exchange
import P11Prov.Run
import P11Prov.Encoding.RsassaPss

/-!
# The points of public keys

A token holds the point of a key of an EC curve as the encoding of an octet
string, and that of a key of an Edwards curve either so or as it is
(`HoldsPoint`). `decode_ec_point` tells the two apart by whether its parser finds
an octet string at the start of the value. So it is right exactly where this
octet string is all of the value, and where a bare point does not start with one
(`recoversPoint_iff`).
-/

namespace P11Prov

open Interaction Encoding Encoding.Der

variable {O : Oracle} {d2i : Bytes → Option Bytes} {keyType n : Nat} {p v : Bytes} {st : State}

/-- The parser of `d2i_ASN1_OCTET_STRING`, which reads one encoding at the start of its input. -/
structure ParsesPrefix (d2i : Bytes → Option Bytes) : Prop where
  iff : ∀ v p, v.length < 2 ^ 64 → (d2i v = some p ↔ ∃ rest, v = octetString p ++ rest)

/-- The parser that reads the encoding and forgets what follows it. -/
def readOctetString (v : Bytes) : Option Bytes := (RsassaPss.readElement 0x04 v).map (·.1)

theorem readOctetString_parsesPrefix : ParsesPrefix readOctetString where
  iff v p hv := by
    constructor
    · intro h
      obtain ⟨q, hq, rfl⟩ := Option.map_eq_some_iff.1 h
      rw [RsassaPss.readElement, Option.filter_eq_some_iff, decide_eq_true_eq] at hq
      exact ⟨q.2, hq.2.symm⟩
    · rintro ⟨rest, rfl⟩
      have hlt : p.length < (octetString p).length := length_tlv_le
      have hp : p.length < 2 ^ 64 := by
        rw [List.length_append] at hv
        omega
      rw [readOctetString, octetString, RsassaPss.readElement_tlv hp]
      rfl

/-- The values that a token may hold for the point `p` of a key. -/
inductive HoldsPoint (keyType : Nat) (p : Bytes) : Bytes → Prop
  | der : HoldsPoint keyType p (octetString p)
  | raw (h : keyType = ckkEcEdwards) : HoldsPoint keyType p p

/-- The decoder recovers the points of `n` bytes from the value, and accepts no value for an EC
    key that is not all of an octet string. -/
structure RecoversPoint (O : Oracle) (d2i : Bytes → Option Bytes) (keyType n : Nat) (v : Bytes) :
    Prop where
  point : ∀ p, p.length = n → HoldsPoint keyType p v → ∀ st,
    wp ((env O).restrict Cmd.Remembers) (decodeEcPoint d2i keyType v) (fun r _ => r = some p) st
  strict : keyType = ckkEc → (∀ p, v ≠ octetString p) → ∀ st,
    wp ((env O).restrict Cmd.Remembers) (decodeEcPoint d2i keyType v) (fun r _ => r = none) st

/-- The values that the decoder takes for another point: an octet string that is followed by
    more, or a bare point that starts with an octet string. -/
def Misread (keyType n : Nat) (v : Bytes) : Prop :=
  ∃ p rest, v = octetString p ++ rest ∧ if keyType = ckkEc then rest ≠ [] else v.length = n

theorem octetString_inj {p q rest rest' : Bytes} (h : (octetString p ++ rest).length < 2 ^ 64)
    (he : octetString p ++ rest = octetString q ++ rest') : p = q ∧ rest = rest' := by
  have hp := (readOctetString_parsesPrefix.iff _ p h).2 ⟨rest, rfl⟩
  have hq := (readOctetString_parsesPrefix.iff _ q h).2 ⟨rest', he⟩
  obtain rfl := Option.some.inj (hp.symm.trans hq)
  exact ⟨rfl, List.append_cancel_left he⟩

/-- What the decoder returns, where there is memory. -/
theorem decodeEcPoint_spec {Q : Option Bytes → State → Prop} :
    wp ((env O).restrict Cmd.Remembers) (decodeEcPoint d2i keyType v) Q st ↔
      Q ((d2i v).orElse fun _ => if keyType = ckkEc then none else some v) st := by
  rw [decodeEcPoint]
  cases d2i v with
  | some p => rfl
  | none =>
    by_cases hk : keyType = ckkEc
    · simp only [hk, if_true]
      rfl
    · simp only [hk, if_false, Prog.perform_eq, Prog.call_bind, Prog.ret_bind, Prog.pure_eq,
        wp_alloc_remembers, if_true]
      rfl

theorem octetString_ne_append {q rest : Bytes} : octetString q ++ rest ≠ q := by
  intro h
  have hl := congrArg List.length h
  have hlt : q.length < (octetString q).length := length_tlv_le
  rw [List.length_append] at hl
  omega

/-- The decoder recovers the key from a value exactly if it does not misread it: the octet string
    of an EC key is all of the value, and a bare point of an Edwards key does not start with an
    octet string. -/
theorem recoversPoint_iff (hd : ParsesPrefix d2i) (hk : keyType = ckkEc ∨ keyType = ckkEcEdwards)
    (hv : v.length < 2 ^ 64) : RecoversPoint O d2i keyType n v ↔ ¬Misread keyType n v := by
  constructor
  · rintro ⟨hpoint, hstrict⟩ ⟨q, rest, rfl, hq⟩
    have hdec : d2i (octetString q ++ rest) = some q := (hd.iff _ q hv).2 ⟨rest, rfl⟩
    rcases hk with rfl | rfl
    · -- the decoder accepts a value that is not all of an octet string
      rw [if_pos rfl] at hq
      have hne : ∀ p, octetString q ++ rest ≠ octetString p := by
        intro p he
        rw [← List.append_nil (octetString p)] at he
        exact hq (octetString_inj hv he).2
      have h := decodeEcPoint_spec.1 (hstrict rfl hne {})
      simp [hdec] at h
    · -- the point is read as the octet string that it starts with
      rw [if_neg (by decide)] at hq
      have h := decodeEcPoint_spec.1 (hpoint _ hq (.raw rfl) {})
      rw [hdec, Option.orElse_some, Option.some.injEq] at h
      exact octetString_ne_append h.symm
  · intro hm
    refine ⟨fun p hp hholds st => decodeEcPoint_spec.2 ?_, fun hec hne st => decodeEcPoint_spec.2 ?_⟩
    · cases hholds with
      | der =>
        rw [(hd.iff _ p hv).2 ⟨[], (List.append_nil _).symm⟩]
        rfl
      | raw hed =>
        have hne : keyType ≠ ckkEc := by
          rw [hed]
          decide
        have hnone : d2i v = none := by
          refine Option.eq_none_iff_forall_not_mem.2 fun q hq => hm ?_
          obtain ⟨rest, hrest⟩ := (hd.iff _ q hv).1 hq
          exact ⟨q, rest, hrest, by rwa [if_neg hne]⟩
        rw [hnone, Option.orElse_none, if_neg hne]
    · have hnone : d2i v = none := by
        refine Option.eq_none_iff_forall_not_mem.2 fun q hq => ?_
        obtain ⟨rest, hrest⟩ := (hd.iff _ q hv).1 hq
        by_cases hr : rest = []
        · rw [hr, List.append_nil] at hrest
          exact hne q hrest
        · exact hm ⟨q, rest, hrest, by rwa [if_pos hec]⟩
      rw [hnone, Option.orElse_none, if_pos hec]

/-- A point of Ed25519 whose first byte is not the tag of an octet string is recovered, bare or
    encoded. -/
theorem recoversPoint_ed25519 :
    RecoversPoint (replies plain) readOctetString ckkEcEdwards 32 (.replicate 32 0x20) ∧
      RecoversPoint (replies plain) readOctetString ckkEcEdwards 32
        (octetString (.replicate 32 0x20)) := by
  have hbare : ¬Misread ckkEcEdwards 32 (.replicate 32 0x20) := by
    rintro ⟨p, rest, he, -⟩
    have hhead := congrArg List.head? he
    exact absurd hhead (by simp [octetString, tlv])
  have hencoded : ¬Misread ckkEcEdwards 32 (octetString (.replicate 32 0x20)) := by
    rintro ⟨p, rest, -, hl⟩
    have hne : (octetString (.replicate 32 0x20)).length ≠ 32 := by decide
    exact hne hl
  exact ⟨(recoversPoint_iff readOctetString_parsesPrefix (.inr rfl) (by decide)).2 hbare,
    (recoversPoint_iff readOctetString_parsesPrefix (.inr rfl) (by decide)).2 hencoded⟩

/-- A point of Ed25519 whose first bytes are those of an octet string of two bytes. -/
def misreadPoint : Bytes := 0x04 :: 0x02 :: .replicate 30 0x20

/-- This point is read as the two bytes after the header. -/
theorem decodeEcPoint_misreads : ¬∀ keyType n v, keyType = ckkEc ∨ keyType = ckkEcEdwards →
    v.length < 2 ^ 64 → RecoversPoint (replies plain) readOctetString keyType n v := by
  intro h
  have hr := h ckkEcEdwards 32 misreadPoint (.inr rfl) (by decide)
  have hp := decodeEcPoint_spec.1 (hr.point misreadPoint rfl (.raw rfl) {})
  exact absurd hp (by decide)

end P11Prov
