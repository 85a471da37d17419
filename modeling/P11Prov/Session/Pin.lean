import P11Prov.Run
import P11Prov.Interaction.Trace

/-!
# Refused PINs

A PIN that the token refused must not be tried again from where it is stored:
a few more tries lock the token. `token_login` remembers the PIN that was
refused with the slot and passes over a stored PIN that equals it.

Only one PIN is remembered, though, and the law is about whole histories. So we
look at runs of logins on one slot with their traces (`PinRun`), under any
arguments and any configuration, with anything in between that leaves the PINs
of the slot alone. As long as every PIN that is refused is the one remembered,
no refused PIN is sent again unless the user gives it (`bad_pin_not_retried`).
Two PINs that take turns overwrite each other (`bad_pin_retried`).
-/

namespace P11Prov

open Interaction

/-! ## What is seen of the PINs in a trace -/

/-- A sequence of commands with their answers. -/
abbrev Trace := List (Event Cmd.Resp)

/-- The PIN that an event sends to `C_Login`, with the answer. -/
def loginEvent : Event Cmd.Resp → Option (Option Pin × CkRv)
  | ⟨.call (.login _ _ pin), ret⟩ => some (pin, ret)
  | _ => none

/-- The PIN that an event gets from the user. -/
def promptEvent : Event Cmd.Resp → Option Pin
  | ⟨.call (.promptPin _), pin⟩ => pin
  | _ => none

/-- The outcome of an event that remembers a bad PIN. -/
def noteEvent : Event Cmd.Resp → Option CkRv
  | ⟨.mem (.setBadPin _ _), ret⟩ => some ret
  | _ => none

namespace Trace

/-- The PINs sent to `C_Login`, with the answers. -/
def logins (tr : Trace) : List (Option Pin × CkRv) := tr.filterMap loginEvent

/-- The PINs given by the user. -/
def prompts (tr : Trace) : List Pin := tr.filterMap promptEvent

/-- The outcomes of remembering a bad PIN. -/
def notes (tr : Trace) : List CkRv := tr.filterMap noteEvent

/-- The PIN was sent to `C_Login`. -/
def Sent (tr : Trace) (pin : Pin) : Prop := ∃ ret, (some pin, ret) ∈ tr.logins

/-- The PIN was sent to `C_Login` and refused. -/
def Refused (tr : Trace) (pin : Pin) : Prop := (some pin, Ckr.pinIncorrect) ∈ tr.logins

instance (tr : Trace) (pin : Pin) : Decidable (tr.Refused pin) :=
  inferInstanceAs (Decidable (_ ∈ _))

@[simp] theorem logins_cons (e : Event Cmd.Resp) (tr : Trace) :
    Trace.logins (e :: tr) = (loginEvent e).toList ++ tr.logins := by
  cases h : loginEvent e <;> simp [logins, h]

@[simp] theorem notes_cons (e : Event Cmd.Resp) (tr : Trace) :
    Trace.notes (e :: tr) = (noteEvent e).toList ++ tr.notes := by
  cases h : noteEvent e <;> simp [notes, h]

@[simp] theorem logins_append (tr tr' : Trace) :
    (tr ++ tr' : Trace).logins = tr.logins ++ tr'.logins := List.filterMap_append

@[simp] theorem prompts_append (tr tr' : Trace) :
    (tr ++ tr' : Trace).prompts = tr.prompts ++ tr'.prompts := List.filterMap_append

@[simp] theorem notes_append (tr tr' : Trace) :
    (tr ++ tr' : Trace).notes = tr.notes ++ tr'.notes := List.filterMap_append

end Trace

/-! ## One login -/

section Login

variable {O : Oracle} {ctx : Ctx} {s : SessId} {uri : Option Uri} {pwCb : Bool} {slot : Slot}
  {as : UserType} {st : State} {α : Type} {Q : Trace → α → State → Prop}

theorem wpt_mem {c : MemCmd} {f : c.Resp → P α} : wpt (env O) (mem c >>= f) Q st ↔
    ∀ r, st.mem.Answers c r →
      wpt (env O) (f r) (fun tr => Q (⟨.mem c, r⟩ :: tr)) ⟨st.mem.after c r, st.tok⟩ := Iff.rfl

theorem wpt_callExt {c : Call} {f : c.Resp → P α} : wpt (env O) (call c >>= f) Q st ↔
    ∀ r, O st c r →
      wpt (env O) (f r) (fun tr => Q (⟨.call c, r⟩ :: tr)) ⟨st.mem, st.tok.after c r⟩ := Iff.rfl

/-- The PIN of a login is given by the user or found stored. -/
theorem loginPin_trace : wpt (env O) (loginPin ctx uri pwCb slot) (fun tr r st' =>
    st'.mem = st.mem ∧ Trace.logins tr = [] ∧ Trace.notes tr = [] ∧
      ∀ pin cache, r = .ok (some pin, cache) →
        pin ∈ Trace.prompts tr ∨ storedPin ctx uri (st.mem.pins slot.id) = some pin) st := by
  unfold loginPin
  split
  · exact ⟨rfl, rfl, rfl, by simp⟩
  · rw [wpt_mem]
    rintro _ rfl
    split
    next pin h =>
      refine ⟨rfl, rfl, rfl, ?_⟩
      rintro _ _ ⟨⟩
      exact .inr h
    next =>
      rw [wpt_callExt]
      intro r hr
      rcases r with _ | _ | ⟨c, cs⟩
      · exact ⟨rfl, rfl, rfl, by simp⟩
      · exact ⟨rfl, rfl, rfl, by simp⟩
      · refine ⟨rfl, rfl, rfl, ?_⟩
        rintro _ _ ⟨⟩
        exact .inl (List.mem_singleton_self _)

theorem checkPinFlagsOk_trace {id : SlotId} : wpt (env O) (checkPinFlagsOk id) (fun tr _ st' =>
    st'.mem = st.mem ∧ Trace.logins tr = [] ∧ Trace.notes tr = []) st := by
  unfold checkPinFlagsOk
  rw [wpt_callExt]
  intro r hr
  repeat' split
  all_goals exact ⟨rfl, rfl, rfl⟩

/-- What a login attempt leaves of the bad PIN: one that was refused is the bad PIN from
    then on, or there is none if it could not be remembered. -/
def badPinAfter (bad : Option Pin) (pin : Option Pin) (ret : CkRv) (notes : List CkRv) :
    Option Pin :=
  if pin.isSome ∧ ret = Ckr.pinIncorrect then (if ∀ r ∈ notes, r = Ckr.ok then pin else none)
  else bad

theorem notePin_trace {pin : Option Pin} {cache : Bool} {ret : CkRv} :
    wpt (env O) (notePin slot.id pin cache ret) (fun tr _ st' => Trace.logins tr = [] ∧
      (st'.mem.pins slot.id).badPin =
        badPinAfter (st.mem.pins slot.id).badPin pin ret (Trace.notes tr)) st := by
  cases pin with
  | none => exact ⟨rfl, rfl⟩
  | some pin =>
    simp only [notePin]
    by_cases h : ret = Ckr.pinIncorrect
    · subst h
      rw [if_pos rfl, if_neg fun h => absurd h.1 (by decide), wpt_mem]
      rintro r (rfl | rfl)
      · exact ⟨rfl, by simp [badPinAfter, Mem.after, Trace.notes, noteEvent]⟩
      · exact ⟨rfl, by simp [badPinAfter, Mem.after, Trace.notes, noteEvent, Ckr.hostMemory, Ckr.ok]⟩
    · rw [if_neg h]
      split
      · rw [wpt_mem]
        intro r hr
        exact ⟨rfl, by simp [badPinAfter, h, Mem.after]⟩
      · exact ⟨rfl, by simp [badPinAfter, h]⟩

/-- What a call of `token_login` shows: no login, and the bad PIN is kept, or one login with
    a PIN that is given by the user or found stored (or none). -/
def LoginSeen (stored bad : Option Pin) (tr : Trace) (bad' : Option Pin) : Prop :=
  (tr.logins = [] ∧ bad' = bad) ∨ ∃ pin ret, tr.logins = [(pin, ret)] ∧
    (∀ p, pin = some p → p ∈ tr.prompts ∨ stored = some p) ∧ bad' = badPinAfter bad pin ret tr.notes

theorem tokenLogin_trace : wpt (env O) (tokenLogin ctx s uri pwCb slot as) (fun tr _ st' =>
    LoginSeen (storedPin ctx uri (st.mem.pins slot.id)) (st.mem.pins slot.id).badPin tr
      (st'.mem.pins slot.id).badPin) st := by
  unfold tokenLogin
  refine wpt.bind loginPin_trace ?_
  rintro tr₁ (ret | ⟨pin, cache⟩) st₁ ⟨hm₁, hl₁, hn₁, hp⟩
  · exact .inl ⟨by simpa using hl₁, by rw [hm₁]⟩
  refine wpt.bind checkPinFlagsOk_trace ?_
  rintro tr₂ ret st₂ ⟨hm₂, hl₂, hn₂⟩
  split
  · exact .inl ⟨by simp [hl₁, hl₂], by rw [hm₂, hm₁]⟩
  rw [wpt_mem]
  rintro _ rfl
  rw [wpt_callExt]
  intro ret' hr
  -- what is noted of the PIN does not depend on whether the session is marked in between
  have hnote : ∀ st₃ : State, st₃.mem.pins = st₂.mem.pins → ∀ mid : Trace, mid.logins = [] →
      mid.notes = [] → wpt (env O) (do
        notePin slot.id pin cache ret'
        return if ret' = Ckr.userAlreadyLoggedIn then Ckr.ok else ret') (fun tr _ st' =>
          LoginSeen (storedPin ctx uri (st.mem.pins slot.id)) (st.mem.pins slot.id).badPin
            (tr₁ ++ (tr₂ ++ ⟨.mem (.loadSess s), st₂.mem.sess s⟩ ::
              ⟨.call (.login (st₂.mem.sess s).session as pin), ret'⟩ :: (mid ++ tr)))
            (st'.mem.pins slot.id).badPin) st₃ := by
    intro st₃ hp₃ mid hlm hnm
    refine wpt.bind notePin_trace ?_
    rintro tr₃ _ st₄ ⟨hl₃, hb⟩
    refine .inr ⟨pin, ret', ?_, ?_, ?_⟩
    · simp [hl₁, hl₂, hlm, hl₃, loginEvent]
    · rintro p rfl
      refine (hp p cache rfl).imp_left fun h => ?_
      simp [h]
    · rw [hp₃, hm₂, hm₁] at hb
      simpa [hn₁, hn₂, hnm, noteEvent] using hb
  simp only
  split
  · rw [wpt_mem]
    intro _ _
    rw [wpt_mem]
    intro _ _
    refine hnote _ ?_ [⟨.mem (.ref s), ()⟩, ⟨.mem (.storeSess s _), ()⟩] rfl rfl
    rfl
  · refine hnote _ ?_ [] rfl rfl
    rfl

end Login

/-! ## Runs of logins -/

/-- The logins on a slot one after the other, each with its trace: `token_login` is called
    with any configuration, session, URI and user type, if it meets `ok` in the state before,
    and what happens in between leaves the PINs of the slot alone. -/
inductive PinRun (O : Oracle) (slot : Slot) (ok : State → Trace → Prop) :
    List Trace → State → Prop
  | init {st : State} (h : st.mem.pins slot.id = {}) : PinRun O slot ok [] st
  | login {trs : List Trace} {st st' : State} {ctx : Ctx} {s : SessId} {uri : Option Uri}
      {pwCb : Bool} {as : UserType} {tr : Trace} {ret : CkRv} (h : PinRun O slot ok trs st)
      (hrun : Traces (env O) (tokenLogin ctx s uri pwCb slot as) st tr ret st') (hok : ok st tr) :
      PinRun O slot ok (trs ++ [tr]) st'
  | other {trs : List Trace} {st st' : State} (h : PinRun O slot ok trs st)
      (hp : st'.mem.pins slot.id = st.mem.pins slot.id) : PinRun O slot ok trs st'

/-- A PIN that is refused is the bad PIN remembered, if there is one, and the memory to
    remember it is there. -/
def OneBadPin (slot : Slot) (st : State) (tr : Trace) : Prop :=
  (∀ pin bad, tr.Refused pin → (st.mem.pins slot.id).badPin = some bad → pin = bad) ∧
    ∀ ret ∈ tr.notes, ret = Ckr.ok

/-- A PIN refused in the first trace is sent in the second one only if the user gave it. -/
def NotRetried (tr tr' : Trace) : Prop := ∀ pin, tr.Refused pin → tr'.Sent pin → pin ∈ tr'.prompts

theorem storedPin_ne_bad {ctx : Ctx} {uri : Option Uri} {pins : Pins} {pin : Pin}
    (h : storedPin ctx uri pins = some pin) : pins.badPin ≠ some pin := by
  intro hb
  simp only [storedPin] at h
  split at h
  · cases h
  · exact absurd (hb ▸ h) (by simp_all)

namespace PinRun

variable {O : Oracle} {slot : Slot} {trs : List Trace} {st : State}

/-- One login keeps that the PINs refused so far are all the bad PIN remembered. -/
theorem badPin_eq_step {bad bad' stored : Option Pin} {tr : Trace}
    (hseen : LoginSeen stored bad tr bad')
    (hone : ∀ pin b, tr.Refused pin → bad = some b → pin = b) (hnote : ∀ ret ∈ tr.notes, ret = Ckr.ok)
    {pin : Pin} (h : bad = some pin ∨ tr.Refused pin) : bad' = some pin := by
  rcases hseen with ⟨hl, rfl⟩ | ⟨pin', ret', hl, -, rfl⟩
  · exact h.resolve_right (by simp [Trace.Refused, hl])
  · have href : ∀ p, tr.Refused p ↔ pin' = some p ∧ ret' = Ckr.pinIncorrect := by
      simp [Trace.Refused, hl, eq_comm]
    by_cases hr : pin'.isSome ∧ ret' = Ckr.pinIncorrect
    · obtain ⟨⟨p, rfl⟩, hret⟩ := hr.imp_left Option.isSome_iff_exists.1
      have hp : p = pin := by
        rcases h with h | h
        · exact hone p pin ((href p).2 ⟨rfl, hret⟩) h
        · exact Option.some.inj ((href pin).1 h).1
      rw [badPinAfter, if_pos hr, if_pos hnote, hp]
    · rw [badPinAfter, if_neg hr]
      refine h.resolve_right fun h => hr ?_
      rw [((href pin).1 h).1]
      exact ⟨rfl, ((href pin).1 h).2⟩

theorem badPin_eq (h : PinRun O slot (OneBadPin slot) trs st) :
    ∀ tr ∈ trs, ∀ pin, tr.Refused pin → (st.mem.pins slot.id).badPin = some pin := by
  induction h with
  | init => simp
  | other _ hp ih => rwa [hp]
  | @login trs st st' ctx s uri pwCb as tr ret _ hrun hok ih =>
    intro tr₁ htr₁ pin hpin
    refine badPin_eq_step (hrun.of_wpt tokenLogin_trace) hok.1 hok.2 ?_
    rcases List.mem_append.1 htr₁ with htr₁ | htr₁
    · exact .inl (ih tr₁ htr₁ pin hpin)
    · obtain rfl := List.mem_singleton.1 htr₁
      exact .inr hpin

end PinRun

/-- A refused PIN is not sent to the token again from where it is stored. -/
theorem bad_pin_not_retried {O : Oracle} {slot : Slot} {trs : List Trace} {st : State}
    (h : PinRun O slot (OneBadPin slot) trs st) :
    trs.Pairwise NotRetried := by
  induction h with
  | init => exact .nil
  | other _ _ ih => exact ih
  | @login trs st st' ctx s uri pwCb as tr ret h hrun hok ih =>
    refine List.pairwise_append.2 ⟨ih, List.pairwise_singleton _ _, ?_⟩
    intro tr₁ htr₁ tr' htr' pin hpin
    obtain rfl := List.mem_singleton.1 htr'
    rintro ⟨ret', hsent⟩
    have hbad := h.badPin_eq tr₁ htr₁ pin hpin
    rcases hrun.of_wpt tokenLogin_trace with ⟨hl, -⟩ | ⟨pin', ret', hl, hsrc, -⟩
    · simp [hl] at hsent
    · rw [hl] at hsent
      obtain ⟨rfl, -⟩ := Prod.mk.inj (List.mem_singleton.1 hsent)
      exact (hsrc pin rfl).resolve_right fun hst => storedPin_ne_bad hst hbad

/-! ## Two PINs in turn -/

/-- The trace of a login with the PIN of a URI, on a token to whom no PIN is the right one. -/
def lockedTrace (pin : Pin) (st : State) : Trace :=
  trace (env (replies locked)) (answers locked)
    (tokenLogin plainCtx ⟨1, 0⟩ (some { pin := some pin }) false plainSlot .user) st

/-- The state after this login. -/
def lockedState (pin : Pin) (st : State) : State :=
  (run locked (tokenLogin plainCtx ⟨1, 0⟩ (some { pin := some pin }) false plainSlot .user) st).2

theorem PinRun.locked {ok : State → Trace → Prop} {trs : List Trace} {st : State} (pin : Pin)
    (h : PinRun (replies locked) plainSlot ok trs st) (hok : ok st (lockedTrace pin st)) :
    PinRun (replies locked) plainSlot ok (trs ++ [lockedTrace pin st]) (lockedState pin st) :=
  .login h (traces_trace adm_answers _ _) hok

/-- A PIN is refused, and is blocked when it comes from a URI again. -/
theorem bad_pin_not_retried_twice :
    [lockedTrace [0x31] {}, lockedTrace [0x31] (lockedState [0x31] {})].Pairwise NotRetried := by
  have h₀ : PinRun (replies locked) plainSlot (OneBadPin plainSlot) [] {} := .init rfl
  have h₁ := h₀.locked [0x31] ⟨by simp, by decide⟩
  have hlogins : (lockedTrace [0x31] (lockedState [0x31] {})).logins = [] := rfl
  exact bad_pin_not_retried (h₁.locked [0x31] ⟨by simp [Trace.Refused, hlogins], by decide⟩)

/-- The PINs of two URIs take turns: the second one is refused as well and overwrites the first
    one, which is then sent once more. -/
theorem bad_pin_retried : ∃ trs st, PinRun (replies locked) plainSlot (fun _ _ => True) trs st ∧
    ¬ trs.Pairwise NotRetried := by
  have h₀ : PinRun (replies locked) plainSlot (fun _ _ => True) [] {} := .init rfl
  have h := ((h₀.locked [0x31] trivial).locked [0x32] trivial).locked [0x31] trivial
  refine ⟨_, _, h, fun hp => ?_⟩
  have hnot := (List.pairwise_cons.1 hp).1 _ (.tail _ (List.mem_singleton_self _)) [0x31] (by decide)
  have hgiven := hnot ⟨Ckr.pinIncorrect, by decide⟩
  exact absurd hgiven (by decide)

end P11Prov
