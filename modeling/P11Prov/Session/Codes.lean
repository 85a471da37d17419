import P11Prov.Interaction.Footprint
import P11Prov.Session

/-!
# The codes of the session layer

A function that returns a session or a code returns the code of a failure with
no session: the code is never `CKR_OK`. So a caller that goes by the code, as
those of the source do, has a session when it believes so.
-/

namespace P11Prov

open Interaction

/-- A code without a session is that of a failure. -/
def Coded {α : Type} (r : Except CkRv α) : Prop := ∀ ret, r = .error ret → ret ≠ Ckr.ok

theorem coded_ok {α : Type} (a : α) : Coded (.ok a : Except CkRv α) := by
  intro ret h
  exact absurd h (by simp)

theorem coded_error {α : Type} {ret : CkRv} (h : ret ≠ Ckr.ok) :
    Coded (.error ret : Except CkRv α) := by
  rintro _ ⟨⟩
  exact h

/-- The same of a search, which may find nothing. -/
def Coded? {α : Type} (r : Option (Except CkRv α)) : Prop := ∀ r' ∈ r, Coded r'

section Coded

variable {ctx : Ctx} {slot : Slot} {slotid : SlotId} {s : SessId} {flags : Flags} {login : Bool}
  {req : Request} {ret : CkRv} {obj : Obj} {mechtype : Nat} {reqlogin rw : Bool}

theorem coded?_none {α : Type} : Coded? (none : Option (Except CkRv α)) := by
  simp [Coded?]

theorem coded?_some {α : Type} {r : Except CkRv α} (h : Coded r) : Coded? (some r) := by
  rintro _ ⟨⟩
  exact h

theorem takeLogin_coded : Returns Coded? (takeLogin s) := by
  refine .andThen fun x => .ite (fun _ => coded?_none) fun _ => .andThen fun x => ?_
  refine .ite (fun _ => coded?_none) fun _ => .ite (fun _ => ?_) fun _ => .ite (fun _ => ?_) fun _ => ?_
  · exact coded?_some (coded_error (by split <;> decide))
  · exact coded?_some (coded_error (by decide))
  · exact coded?_some (coded_ok s)

theorem takeFree_coded {test : Session → Bool} : Returns Coded? (takeFree test s) := by
  refine .andThen fun x => .ite (fun _ => coded?_none) fun _ => .andThen fun x => .pure ?_
  split
  · exact coded?_some (coded_ok s)
  · exact coded?_none

theorem takeBroken_coded : Returns Coded? (takeBroken s) := by
  refine .andThen fun x => .ite (fun _ => coded?_none) fun _ => .andThen fun x => ?_
  exact .ite (fun _ => .andThen fun _ => coded?_some (coded_ok s)) fun _ => coded?_none

theorem orElse_coded {f : SessId → P (Option (Except CkRv SessId))} {k : P (Except CkRv SessId)}
    (hf : ∀ s, Returns Coded? (f s)) (hk : Returns Coded k) : Returns Coded (orElse slotid f k) := by
  refine .andThen fun l => (Returns.firstM coded?_none hf l).bind fun r hr => ?_
  cases r with
  | some r => exact hr r rfl
  | none => exact hk

theorem takeNew_coded : Returns Coded (takeNew slot) := by
  refine .andThen fun r => .pure ?_
  split
  · exact coded_ok _
  · exact coded_error ‹_›

theorem fetchSession_coded : Returns Coded (fetchSession slot flags login) := by
  have hrest : Returns Coded (fetchSession slot flags false) := by
    refine orElse_coded (fun _ => takeFree_coded) <| orElse_coded (fun _ => takeFree_coded) ?_
    exact orElse_coded (fun _ => takeFree_coded) <| orElse_coded (fun _ => takeBroken_coded)
      takeNew_coded
  cases login with
  | true => exact orElse_coded (fun _ => takeLogin_coded) hrest
  | false => exact hrest

theorem openTaken_coded : Returns Coded (openTaken ctx req s) := by
  refine .andThen fun ret => .ite (fun h => .andThen fun _ => coded_error h.1) fun _ => ?_
  refine .andThen fun x => .ite (fun _ => coded_ok s) fun _ => .andThen fun ret => ?_
  exact .ite (fun h => .andThen fun _ => coded_error h) fun _ => coded_ok s

theorem openOnSlot_coded : Returns Coded (openOnSlot ctx req slot) := by
  refine fetchSession_coded.bind fun r hr => ?_
  cases r with
  | error ret => exact coded_error (hr ret rfl)
  | ok s => exact openTaken_coded

theorem cycleSlots_coded (slots : List Slot) {id : SlotId} (hret : ret ≠ Ckr.ok) :
    Returns Coded (cycleSlots ctx req id ret slots) := by
  induction slots generalizing id ret with
  | nil => exact coded_error hret
  | cons slot slots ih =>
    refine .ite (fun _ => ih hret) fun _ => .andThen fun ret => ?_
    exact .ite (fun _ => coded_ok _) fun h => ih h

theorem getSession_coded : Returns Coded (getSession ctx slotid req) := by
  refine .ite (fun _ => ?_) fun _ => ?_
  · have hnext : Returns (fun r => Coded r.1) (getSessionNext ctx slotid req) := by
      refine (cycleSlots_coded ctx.slots (by decide)).bind fun r hr => ?_
      cases r with
      | error ret => exact coded_error (hr ret rfl)
      | ok r =>
        refine openOnSlot_coded.bind fun r' hr' => ?_
        cases r' with
        | error ret => exact coded_error (hr' ret rfl)
        | ok s => exact coded_ok _
    refine hnext.bind fun r hr => .pure ?_
    obtain ⟨r, _⟩ := r
    cases r with
    | error ret => exact coded_error (hr ret rfl)
    | ok s => exact coded_ok _
  · cases ctx.getSlotById slotid with
    | none => exact coded_error (by decide)
    | some slot =>
      exact .andThen fun ret => .ite (fun h => coded_error h) fun _ => openOnSlot_coded

theorem trySessionRef_coded : Returns Coded (trySessionRef ctx obj mechtype reqlogin rw) := by
  refine .ite (fun h => coded_error h.2) fun _ => ?_
  cases obj.refSession with
  | none => exact getSession_coded
  | some s => exact .andThen fun b => .ite (fun _ => coded_ok s) fun _ => getSession_coded

end Coded

end P11Prov
