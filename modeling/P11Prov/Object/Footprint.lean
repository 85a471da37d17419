import P11Prov.Object
import P11Prov.Interaction.Footprint

/-!
# The session and object layers run no operations

Taking a session, logging in, finding, refreshing and creating objects never
calls one of the functions that sign, verify, encrypt or digest. So what the
token knows of such operations is left alone by these layers. A login on a
session that is held leaves the handles of the sessions alone as well.
-/

namespace P11Prov

open Interaction

/-- The command runs no operation on a session. -/
def Cmd.Quiet : Cmd → Prop
  | .call (.crypto _ _) => False
  | _ => True

/-- The program runs no operations. -/
abbrev Quiet {α : Type} (p : P α) : Prop := Only Cmd.Quiet p

theorem Token.log_after (t : Token) {c : Call} (r : c.Resp) (hc : Cmd.Quiet (.call c)) :
    (t.after c r).log = t.log := by
  cases c with
  | openSession slotid flags =>
    simp only [after]
    split <;> rfl
  | login h as pin =>
    simp only [after, loginHandle]
    split
    · split <;> rfl
    · rfl
  | crypto h c => exact hc.elim
  | _ => rfl

/-- Such a program adds nothing to the log of the operations. -/
theorem Quiet.log {α : Type} {p : P α} (hp : Quiet p) {O : Oracle} {l : List CryptoEvent} :
    Keeps (env O) (fun st => st.tok.log = l) p := by
  refine hp.keeps fun st c r hc hl _ => ?_
  cases c with
  | mem c => exact hl
  | call c => exact (st.tok.log_after r hc).trans hl

namespace Quiet

variable {ctx : Ctx} {slot : Slot} {slotid : SlotId} {s : SessId} {flags : Flags} {login : Bool}
  {uri : Option Uri} {pwCb reqlogin keep rw : Bool} {req : Request} {o : ObjId} {n : Nat}
  {ret : CkRv} {obj : Obj} {mechtype : Nat}

theorem mem {c : MemCmd} : Quiet (mem c) := .perform trivial

/-! ## Sessions -/

theorem openAttempts : Quiet (openAttempts slotid flags n) := by
  induction n with
  | zero => exact .perform trivial
  | succ n ih => exact .bind (.perform trivial) fun _ => .ite ih .pure

theorem tokenSessionOpen : Quiet (tokenSessionOpen s flags) := by
  refine .bind (.perform trivial) fun _ => .bind openAttempts fun _ => .ite ?_ ?_
  · exact .bind mem fun _ => .pure
  · exact .bind mem fun _ => .bind (.perform trivial) fun _ => .ite (.bind mem fun _ => .pure) .pure

theorem tokenSessionClose : Quiet (tokenSessionClose s) :=
  .bind mem fun _ => .ite (.bind (.perform trivial) fun _ => mem) .pure

theorem sessionCheck : Quiet (sessionCheck s flags) := by
  refine .bind mem fun _ => .ite .pure <| .ite .pure <| .bind (.perform trivial) fun _ => .ite ?_ ?_
  · refine .bind mem fun _ => .ite .pure <| .bind mem fun _ => .ite .pure ?_
    exact .bind (.perform trivial) fun _ => .bind mem fun _ => .pure
  · exact .bind mem fun _ => .pure

theorem poolSessions : Quiet (poolSessions slotid) := .bind mem fun _ => .pure

theorem countOpen (l : List SessId) : Quiet (countOpen l) := by
  induction l with
  | nil => exact .pure
  | cons s l ih => exact .bind mem fun _ => .bind ih fun _ => .pure

theorem returnSession : Quiet (returnSession ctx s) := by
  refine .bind mem fun _ => .ite (.bind mem fun _ => .ite ?_ ?_) mem
  · exact .bind tokenSessionClose fun _ => mem
  · refine .bind poolSessions fun l => .bind (countOpen l) fun _ => .ite ?_ mem
    exact .bind tokenSessionClose fun _ => mem

theorem returnSession? (s : Option SessId) : Quiet (returnSession? ctx s) := by
  cases s with
  | none => exact .pure
  | some s => exact returnSession

theorem loginPin : Quiet (loginPin ctx uri pwCb slot) := by
  refine .ite .pure <| .bind mem fun pins => ?_
  split
  · exact .pure
  · refine .bind (.perform trivial) fun r => ?_
    split <;> exact .pure

theorem notePin {pin : Option Pin} {cache : Bool} : Quiet (notePin slotid pin cache ret) := by
  cases pin with
  | none => exact .pure
  | some pin =>
    refine .ite (.bind mem fun _ => .ite ?_ .pure) (.ite ?_ .pure)
    · exact .bind mem fun _ => .pure
    · exact .bind mem fun _ => .pure

theorem checkPinFlagsOk : Quiet (checkPinFlagsOk slotid) :=
  .bind (.perform trivial) fun _ => .ite .pure <| .ite .pure <| .ite .pure <| .ite .pure .pure

theorem tokenLogin {as : UserType} : Quiet (tokenLogin ctx s uri pwCb slot as) := by
  refine .bind loginPin fun r => ?_
  cases r with
  | error ret => exact .pure
  | ok r =>
    refine .bind checkPinFlagsOk fun _ => .ite .pure <| .bind mem fun _ =>
      .bind (.perform trivial) fun _ => .ite ?_ (.bind notePin fun _ => .pure)
    exact .bind mem fun _ => .bind mem fun _ => .bind notePin fun _ => .pure

theorem contextSpecificLogin : Quiet (contextSpecificLogin ctx s uri pwCb) := by
  unfold P11Prov.contextSpecificLogin
  split
  · exact .pure
  · exact tokenLogin

theorem takeLogin : Quiet (takeLogin s) :=
  .bind mem fun _ => .ite .pure <| .bind mem fun _ => .ite .pure <| .ite .pure <| .ite .pure .pure

theorem takeFree {test : Session → Bool} : Quiet (takeFree test s) :=
  .bind mem fun _ => .ite .pure <| .bind mem fun _ => .pure

theorem takeBroken : Quiet (takeBroken s) :=
  .bind mem fun _ => .ite .pure <| .bind mem fun _ =>
    .ite (.bind tokenSessionClose fun _ => .pure) .pure

theorem orElse {f : SessId → P (Option (Except CkRv SessId))} {k : P (Except CkRv SessId)}
    (hf : ∀ s, Quiet (f s)) (hk : Quiet k) : Quiet (orElse slotid f k) := by
  refine .bind poolSessions fun l => .bind (.firstM hf l) fun r => ?_
  cases r with
  | none => exact hk
  | some r => exact .pure

theorem fetchSession : Quiet (fetchSession slot flags login) := by
  have hrest : Quiet <| P11Prov.orElse slot.id (P11Prov.takeFree fun x => x.cached flags && x.refcnt != 0) <|
      P11Prov.orElse slot.id (P11Prov.takeFree (·.cached flags)) <|
      P11Prov.orElse slot.id (P11Prov.takeFree fun _ => true) <|
      P11Prov.orElse slot.id P11Prov.takeBroken <| takeNew slot :=
    orElse (fun _ => takeFree) <| orElse (fun _ => takeFree) <| orElse (fun _ => takeFree) <|
      orElse (fun _ => takeBroken) <| .bind mem fun _ => .pure
  unfold P11Prov.fetchSession
  split
  · exact orElse (fun _ => takeLogin) hrest
  · exact hrest

theorem fetchAttempts : Quiet (fetchAttempts slot n) := by
  induction n with
  | zero => exact fetchSession
  | succ n ih =>
    refine .bind fetchSession fun r => ?_
    cases r with
    | ok s => exact .pure
    | error ret => exact ih

theorem loginSession : Quiet (loginSession ctx slot uri pwCb s) := by
  have hrest : Quiet (do
      let x ← P11Prov.mem (.loadSess s)
      if isLoginState x.state then
        return Ckr.ok
      else
        P11Prov.tokenLogin ctx s uri pwCb slot .user) :=
    .bind mem fun _ => .ite .pure tokenLogin
  refine .bind mem fun _ => .bind sessionCheck fun _ => .ite .pure <| .bind mem fun _ => .ite ?_ ?_
  · exact .bind tokenSessionOpen fun _ => .ite .pure hrest
  · exact .bind .pure fun _ => .ite .pure hrest

theorem unmarkLogin : Quiet (unmarkLogin s) :=
  .bind mem fun _ => .ite (.bind mem fun _ => mem) .pure

theorem finishLogin : Quiet (finishLogin ctx keep s ret) :=
  .ite (.ite .pure (.bind returnSession fun _ => .pure))
    (.bind unmarkLogin fun _ => .bind returnSession fun _ => .pure)

theorem loginWith {r : Except CkRv SessId} : Quiet (loginWith ctx slot uri pwCb keep r) := by
  cases r with
  | error ret => exact .pure
  | ok s => exact .bind loginSession fun _ => finishLogin

theorem slotLogin : Quiet (slotLogin ctx slot uri pwCb reqlogin keep) :=
  .bind fetchSession fun _ => .ite .pure <| .ite loginWith <|
    .bind (.perform trivial) fun _ => .bind fetchAttempts fun _ => loginWith

theorem trySlot : Quiet (trySlot ctx req slot) :=
  .ite .pure <| .ite (.bind slotLogin fun _ => .pure) .pure

theorem openOnSlot : Quiet (openOnSlot ctx req slot) := by
  refine .bind fetchSession fun r => ?_
  cases r with
  | error ret => exact .pure
  | ok s =>
    refine .bind sessionCheck fun _ => .ite (.bind returnSession fun _ => .pure) ?_
    refine .bind mem fun _ => .ite .pure <| .bind tokenSessionOpen fun _ => ?_
    exact .ite (.bind returnSession fun _ => .pure) .pure

theorem cycleSlots {id : SlotId} {slots : List Slot} : Quiet (cycleSlots ctx req id ret slots) := by
  induction slots generalizing id ret with
  | nil => exact .pure
  | cons slot slots ih => exact .ite ih (.bind trySlot fun _ => .ite .pure ih)

theorem getSessionNext : Quiet (getSessionNext ctx slotid req) := by
  refine .bind cycleSlots fun r => ?_
  cases r with
  | error ret => exact .pure
  | ok r =>
    refine .bind openOnSlot fun r => ?_
    cases r <;> exact .pure

theorem getSession : Quiet (getSession ctx slotid req) := by
  refine .ite (.bind getSessionNext fun _ => .pure) ?_
  cases ctx.getSlotById slotid with
  | none => exact .pure
  | some slot => exact .bind trySlot fun _ => .ite .pure openOnSlot

theorem tryRef : Quiet (tryRef s req) := by
  refine .bind mem fun _ => .ite .pure <| .bind sessionCheck fun _ => .ite ?_ ?_
  · exact .bind tokenSessionOpen fun _ => .ite .pure (.bind mem fun _ => .pure)
  · exact .ite .pure (.bind mem fun _ => .pure)

theorem trySessionRef : Quiet (trySessionRef ctx obj mechtype reqlogin rw) := by
  refine .ite .pure ?_
  cases obj.refSession with
  | none => exact getSession
  | some s => exact .bind tryRef fun _ => .ite .pure getSession

theorem takeLoginSession : Quiet (takeLoginSession ctx slotid) := by
  unfold P11Prov.takeLoginSession
  cases ctx.getSlotById slotid with
  | none => exact .pure
  | some slot =>
    refine .bind slotLogin fun r => ?_
    split <;> exact .pure

/-! ## Objects -/

theorem objNew {handle : ObjectHandle} {cls : Nat} : Quiet (objNew slotid handle cls) := by
  refine .bind mem fun r => ?_
  cases r with
  | none => exact .pure
  | some o => exact .ite .pure <| .bind mem fun _ => .ite (.bind mem fun _ => .pure) .pure

theorem sessionHandle : Quiet (sessionHandle s) := .bind mem fun _ => .pure

theorem objRefNoCache : Quiet (objRefNoCache o) := .bind mem fun _ => .pure

theorem destroyKeyCacheOn : Quiet (destroyKeyCacheOn o s) :=
  .bind mem fun _ => .ite (.bind sessionHandle fun _ => .bind (.perform trivial) fun _ => mem) .pure

theorem destroyKeyCache : Quiet (destroyKeyCache ctx obj) := by
  refine .ite (.bind takeLoginSession fun r => ?_) .pure
  cases r with
  | error ret => exact .pure
  | ok s => exact .bind sessionHandle fun _ => .bind (.perform trivial) fun _ => returnSession

theorem objFreeChain : Quiet (objFreeChain ctx n o) := by
  induction n generalizing o with
  | zero => exact .pure
  | succ n ih =>
    refine .bind mem fun r => ?_
    cases r with
    | none => exact .pure
    | some x =>
      -- the associated object is freed the same way with and without a session
      dsimp only
      rcases x.refSession with _ | s
      · refine .bind destroyKeyCache fun _ => ?_
        rcases x.assocObj with _ | a
        · exact .pure
        · exact ih
      · refine .bind mem fun _ => .bind destroyKeyCache fun _ => ?_
        rcases x.assocObj with _ | a
        · exact .pure
        · exact ih

theorem objFree : Quiet (objFree ctx o) := .bind mem fun _ => objFreeChain

theorem objFree? (o : Option ObjId) : Quiet (objFree? ctx o) := by
  cases o with
  | none => exact .pure
  | some o => exact objFree

theorem objFromHandle {handle : ObjectHandle} {home : Option Handle} :
    Quiet (objFromHandle ctx s handle home) := by
  refine .bind objNew fun r => ?_
  cases r with
  | none => exact .pure
  | some o =>
    refine .bind sessionHandle fun _ => .bind (.perform trivial) fun _ => .ite ?_ (.ite ?_ ?_)
    · exact .bind objFree fun _ => .pure
    · exact .bind objFree fun _ => .pure
    · exact .bind mem fun _ => .pure

theorem findOne {h : Handle} {cls : Nat} {attrs : List (Nat × Bytes)} :
    Quiet (findOne h cls attrs) :=
  .bind (.perform trivial) fun _ => .ite .pure <| .bind (.perform trivial) fun _ =>
    .bind (.perform trivial) fun _ => .ite .pure .pure

theorem objRefreshOn : Quiet (objRefreshOn ctx o obj s) := by
  refine .bind sessionHandle fun _ => .bind findOne fun r => ?_
  split
  · refine .bind objFromHandle fun r => ?_
    cases r with
    | error ret => exact .pure
    | ok t => exact .bind mem fun _ => .bind mem fun _ => .bind objFree fun _ => mem
  · exact .pure

theorem objRefresh : Quiet (objRefresh ctx n o) := by
  induction n generalizing o with
  | zero => exact .pure
  | succ n ih =>
    refine .bind mem fun _ => .bind trySessionRef fun r => ?_
    cases r with
    | error ret => exact .pure
    | ok s =>
      refine .bind objRefreshOn fun _ => .bind mem fun _ => ?_
      dsimp only
      split
      · exact .bind mem fun _ => .ite (.bind ih fun _ => returnSession) returnSession
      · exact returnSession

theorem storeKey : Quiet (storeKey ctx o) := by
  refine .ite .pure <| .bind mem fun _ => .bind getSession fun r => ?_
  cases r with
  | error ret => exact .pure
  | ok s =>
    refine .bind sessionHandle fun _ => .bind (.perform trivial) fun _ => .ite ?_ ?_
    · exact .bind mem fun _ => .bind (.bind mem fun _ => mem) fun _ =>
        .bind returnSession fun _ => .pure
    · exact .bind returnSession fun _ => .pure

theorem objStorePublicKey : Quiet (objStorePublicKey ctx o) :=
  .bind mem fun _ => .ite .pure <| .ite .pure <| .bind storeKey fun _ =>
    .ite (.bind mem fun _ => .pure) .pure

theorem objGetHandle : Quiet (objGetHandle ctx o) := by
  have hend : Quiet (do
      let obj ← P11Prov.mem (.loadObj o)
      return obj.handle) := .bind mem fun _ => .pure
  have hrest : Quiet (do
      let obj ← P11Prov.mem (.loadObj o)
      if obj.cached ≠ ckInvalidHandle then
        return obj.cached
      if obj.handle = ckP11provImportedHandle then
        let ret ← P11Prov.objStorePublicKey ctx o
        if ret ≠ Ckr.ok then
          return ckInvalidHandle
      let obj ← P11Prov.mem (.loadObj o)
      return obj.handle) :=
    .bind mem fun _ => .ite .pure <|
      .ite (.bind objStorePublicKey fun _ => .ite .pure hend) hend
  exact .bind mem fun _ => .ite (.bind mem fun _ => .bind objRefresh fun _ => hrest) hrest

theorem cacheKeyOn : Quiet (cacheKeyOn ctx o s) :=
  .bind destroyKeyCacheOn fun _ => .bind sessionHandle fun _ => .bind objGetHandle fun _ =>
    .bind (.perform trivial) fun _ => .ite mem mem

theorem cacheKey : Quiet (cacheKey ctx o) := by
  refine .ite .pure <| .bind mem fun _ => .ite .pure <| .bind (.perform trivial) fun _ => .ite ?_ ?_
  · exact .bind mem fun _ => .pure
  · refine .bind takeLoginSession fun r => ?_
    cases r with
    | error ret => exact .pure
    | ok s => exact .bind cacheKeyOn fun _ => returnSession

theorem objRef : Quiet (objRef ctx o) :=
  .bind objRefNoCache fun _ => .ite
    (.bind mem fun _ => .ite (.bind cacheKey fun _ => .pure) .pure) .pure

theorem associate {a : ObjId} : Quiet (associate o a) :=
  .bind mem fun _ => .ite (.bind objRefNoCache fun _ => mem) .pure

theorem findAssociatedOn {cls : Nat} {id : Bytes} : Quiet (findAssociatedOn ctx o cls id s) := by
  refine .bind sessionHandle fun _ => .bind findOne fun r => ?_
  split
  · refine .bind objFromHandle fun r => ?_
    cases r with
    | error ret => exact .pure
    | ok a => exact .bind associate fun _ => .pure
  · exact .pure

theorem objFindAssociated {cls : Nat} : Quiet (objFindAssociated ctx o cls) := by
  refine .bind mem fun x => .bind ?_ fun known => ?_
  · unfold knownAssociated
    cases x.assocObj with
    | none => exact .pure
    | some a => exact .bind mem fun _ => .pure
  cases known with
  | some a => exact .bind objRefNoCache fun _ => .pure
  | none =>
    dsimp only
    split
    · exact .pure
    · exact .pure
    · refine .bind trySessionRef fun r => ?_
      cases r with
      | error ret => exact .pure
      | ok s => exact .bind findAssociatedOn fun _ => .bind returnSession fun _ => .pure

end Quiet

/-! ## Handles -/

/-- The command assigns no session a handle. -/
def Cmd.KeepsHandle : Cmd → Prop
  | .mem (.storeSess _ f) => ∀ x, (f x).session = x.session
  | .mem (.sessionNew _) => False
  | _ => True

/-- Sessions keep their handles where no command assigns one. -/
theorem handle_kept {α : Type} {p : P α} (hp : Only Cmd.KeepsHandle p) {O : Oracle} {s : SessId}
    {h : Handle} : Keeps (env O) (fun st => (st.mem.sess s).session = h) p := by
  refine hp.keeps fun st c r hc hh _ => ?_
  cases c with
  | call c => exact hh
  | mem c =>
    cases c with
    | storeSess s' f => exact (Mem.session_setSess hc).trans hh
    | tryTake s' test =>
      refine Eq.trans ?_ hh
      by_cases ht : test r
      · simp [env, Mem.after, ht, Mem.session_setSess]
      · simp [env, Mem.after, ht]
    | release s' | ref s' | deref s' =>
      refine Eq.trans ?_ hh
      simp [env, Mem.after, Mem.session_setSess]
    | sessionNew slot => exact hc.elim
    | objAlloc obj =>
      refine Eq.trans ?_ hh
      cases r <;> rfl
    | objAddToPool o =>
      refine Eq.trans ?_ hh
      simp only [env, Mem.after]
      split <;> rfl
    | _ => exact hh

/-- A login assigns no session a handle. -/
theorem contextSpecificLogin_keepsHandle {ctx : Ctx} {s : SessId} {uri : Option Uri} {pwCb : Bool} :
    Only Cmd.KeepsHandle (contextSpecificLogin ctx s uri pwCb) := by
  unfold contextSpecificLogin
  cases ctx.getSlotById s.slot with
  | none => exact .pure
  | some slot =>
    have hpin : Only Cmd.KeepsHandle (loginPin ctx uri pwCb slot) := by
      refine .ite .pure <| .bind (.perform trivial) fun pins => ?_
      cases storedPin ctx uri pins with
      | some pin => exact .pure
      | none => exact .bind (.perform trivial) fun pin => by split <;> exact .pure
    have hnote : ∀ pin cache ret, Only Cmd.KeepsHandle (notePin slot.id pin cache ret) := by
      intro pin cache ret
      cases pin with
      | none => exact .pure
      | some pin =>
        refine .ite (.bind (.perform trivial) fun _ => ?_) ?_ <;>
          exact .ite (.bind (.perform trivial) fun _ => .pure) .pure
    refine .bind hpin fun r => ?_
    cases r with
    | error ret => exact .pure
    | ok pin =>
      refine .bind (.bind (.perform trivial) fun _ => .ite .pure <| .ite .pure <| .ite .pure <|
        .ite .pure .pure) fun _ => .ite .pure <| .bind (.perform trivial) fun _ => ?_
      refine .bind (.perform trivial) fun ret => .ite ?_ <| .bind (hnote _ _ _) fun _ => .pure
      refine .bind (.perform trivial) fun _ => .bind (.perform fun _ => rfl) fun _ => ?_
      exact .bind (hnote _ _ _) fun _ => .pure

end P11Prov
