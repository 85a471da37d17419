import Mathlib.Tactic.Common

/-!
# Locks for readers and writers

A lock that is held by a number of readers, or by a writer, as a program sees it
that does not wait for others: an attempt that would have to wait fails.
-/

namespace Interaction

structure RwLock where
  readers : Nat := 0
  writer : Bool := false
  deriving DecidableEq, Repr

namespace RwLock

/-- Locks for reading. -/
def rdlock (l : RwLock) : Option RwLock :=
  if l.writer then none else some { l with readers := l.readers + 1 }

/-- Locks for writing. -/
def wrlock (l : RwLock) : Option RwLock :=
  if l.writer ∨ l.readers ≠ 0 then none else some { l with writer := true }

/-- Gives up a lock. -/
def unlock (l : RwLock) : RwLock :=
  if l.writer then { l with writer := false } else { l with readers := l.readers - 1 }

variable {l l' : RwLock}

theorem unlock_rdlock (h : l.rdlock = some l') : l'.unlock = l := by
  obtain ⟨readers, writer⟩ := l
  cases writer with
  | false =>
    obtain rfl := Option.some.inj h
    rfl
  | true => cases h

theorem unlock_wrlock (h : l.wrlock = some l') : l'.unlock = l := by
  obtain ⟨readers, writer⟩ := l
  simp only [wrlock] at h
  split at h
  · cases h
  · next hn =>
    obtain rfl := Option.some.inj h
    obtain rfl : writer = false := by simpa using fun hw => hn (.inl hw)
    rfl

/-- After a lock is given up, or taken for reading, no writer holds it. -/
theorem writer_unlock (l : RwLock) : l.unlock.writer = false := by
  obtain ⟨readers, writer⟩ := l
  cases writer <;> rfl

theorem writer_rdlock (h : l.rdlock = some l') : l'.writer = false := by
  obtain ⟨readers, writer⟩ := l
  cases writer with
  | false =>
    obtain rfl := Option.some.inj h
    rfl
  | true => cases h

/-- Without a writer, a lock can be taken for writing or for reading. -/
theorem exists_lock (h : l.writer = false) : ∃ l', l.wrlock.or l.rdlock = some l' ∧ l'.unlock = l := by
  cases hw : l.wrlock with
  | some l' => exact ⟨l', rfl, unlock_wrlock hw⟩
  | none =>
    have hr : l.rdlock = some { l with readers := l.readers + 1 } := by
      rw [rdlock, h]
      rfl
    exact ⟨_, hr, unlock_rdlock hr⟩

end RwLock

end Interaction
