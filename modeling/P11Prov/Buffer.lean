import P11Prov.Interaction.Traced
import P11Prov.Pkcs11
import Mathlib.Algebra.Order.Ring.Int

/-!
# Buffers

Memory that a function of the source gets by a pointer and a length, as its
bytes. A function may read where it should not, so the reads and the
subtractions of lengths are noted (`BufferEvent`), and what is read outside of a
buffer is zero here.
-/

namespace P11Prov

open Interaction

/-- `CK_ULONG` and `size_t` -/
abbrev CkUlong := BitVec 64

/-- A byte as a word. -/
def ofByte (b : UInt8) : CkUlong := b.toBitVec.setWidth 64

/-- A word cut to a byte. -/
def toByte (x : CkUlong) : UInt8 := UInt8.ofBitVec (x.setWidth 8)

/-- What is noted of the work on a buffer: the places that are read, and the lengths that are
    subtracted from one another. -/
inductive BufferEvent
  | read (i : CkUlong)
  | sub (a b : CkUlong)
  deriving DecidableEq

abbrev Buffered := Traced BufferEvent

/-- Reads a byte of a buffer. What is outside of it reads as zero here. -/
def readByte (out : Bytes) (i : CkUlong) : Buffered UInt8 := ⟨out.getD i.toNat 0, [.read i]⟩

/-- Subtracts lengths. -/
def subLength (a b : CkUlong) : Buffered CkUlong := ⟨a - b, [.sub a b]⟩

/-- Writes to the start of a buffer. -/
def overwrite (out data : Bytes) : Bytes := data ++ out.drop data.length

theorem length_overwrite {out data : Bytes} (h : data.length ≤ out.length) :
    (overwrite out data).length = out.length := by
  rw [overwrite, List.length_append, List.length_drop]
  omega

theorem take_overwrite {out data : Bytes} {n : Nat} (h : data.length = n) :
    (overwrite out data).take n = data := by
  subst h
  rw [overwrite, List.take_left]

/-! ## Staying inside -/

/-- A read inside of the first `n` bytes, or a difference that does not wrap. -/
def BufferEvent.Inside (n : Nat) : BufferEvent → Prop
  | read i => i.toNat < n
  | sub a b => b.toNat ≤ a.toNat

instance (n : Nat) : DecidablePred (BufferEvent.Inside n)
  | .read _ => inferInstanceAs (Decidable (_ < _))
  | .sub _ _ => inferInstanceAs (Decidable (_ ≤ _))

/-- The computation stays inside of the first `n` bytes of its buffer. -/
abbrev StaysIn {α : Type} (n : Nat) (x : Buffered α) : Prop := x.All (BufferEvent.Inside n)

theorem StaysIn.read_iff {out : Bytes} {n a : Nat} (ha : a < 2 ^ 64) :
    StaysIn n (readByte out (.ofNat 64 a)) ↔ a < n := by
  have hlog : StaysIn n (readByte out (.ofNat 64 a)) ↔
      (BufferEvent.read (.ofNat 64 a)).Inside n := List.forall_mem_singleton
  rw [hlog, BufferEvent.Inside, BitVec.toNat_ofNat, Nat.mod_eq_of_lt ha]

theorem StaysIn.read {out : Bytes} {n a : Nat} (h : a < n) (hn : n < 2 ^ 63) :
    StaysIn n (readByte out (.ofNat 64 a)) := (StaysIn.read_iff (by omega)).2 h

end P11Prov
