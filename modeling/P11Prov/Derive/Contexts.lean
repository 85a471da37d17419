import P11Prov.Derive.Placement
import P11Prov.Exchange
import P11Prov.Kdf
import P11Prov.Session.Codes

/-!
# Contexts and the slots of their sessions

A context fits a state if its session serves its key and all uses it made of
handles were on sessions of the slots of the handles (`Holding.Fits`). Each function
of `exchange.c` and `kdf.c` leads from a context that fits to one that does
(`Fitting`), under a condition where it needs one: a key is given to a context
whose session serves it (`MayGive`), and a TLS 1.3 secret is derived with a salt on
the slot of the key (`SecretServed`).
-/

namespace P11Prov

open Interaction

variable {O : Oracle} {ctx : Ctx} {st st' st₁ : State} {s : SessId} {slotid : SlotId}

/-! ## Contexts -/

/-- What a context holds, and the uses it made of handles. -/
structure Holding where
  key : Option ObjId
  session : Option SessId
  uses : List Use

/-- The key of a context can be used with its session, and all uses were on sessions of the
    slots of the handles. -/
structure Holding.Fits (st : State) (c : Holding) : Prop where
  key : ∀ k, c.key = some k → ∃ slotid, st.OnSlot k slotid ∧ ServesSlot slotid c.session
  uses : ∀ u ∈ c.uses, u.OwnSlot

theorem Holding.Fits.later {c : Holding} (h : c.Fits st) (hl : Later st st') : c.Fits st' where
  key k hk := by
    obtain ⟨slotid, hon, hs⟩ := h.key k hk
    exact ⟨slotid, hl.onSlot k slotid hon, hs⟩
  uses := h.uses

def ExchCtx.holding (c : ExchCtx) : Holding := ⟨c.key, c.session, c.uses⟩

def KdfCtx.holding (c : KdfCtx) : Holding := ⟨c.key, c.session, c.uses⟩

/-- A key that can be given to a context: it is there, and on a slot that the session of the
    context serves. -/
def MayGive (st : State) (key : ObjId) (session : Option SessId) : Prop :=
  ∃ x, st.mem.obj key = some x ∧ x.handle ≠ ckP11provImportedHandle ∧ ServesSlot x.slotid session

/-- The state is a later one, and the context fits it. -/
def Fitting (st : State) (c : Holding) (st' : State) : Prop := Later st st' ∧ c.Fits st'

theorem Fitting.after {c : Holding} (h : Later st st₁) (h' : Fitting st₁ c st') : Fitting st c st' :=
  ⟨h.trans h'.1, h'.2⟩

section Keys

variable {key : ObjId} {session : Option SessId}

theorem objFree?_later (h : RefsPooled st) (o : Option ObjId) :
    wp (env O) (objFree? ctx o) (fun _ st' => Later st st') st := by
  cases o with
  | none => exact .refl h
  | some o => exact later_of_keeps Later.objectInvariant.free h

theorem returnSession?_later (h : RefsPooled st) (s : Option SessId) :
    wp (env O) (returnSession? ctx s) (fun _ st' => Later st st') st := by
  cases s with
  | none => exact .refl h
  | some s => exact later_of_keeps Later.objectInvariant.returnSession h

variable (hO : ObjectHandles O)
include hO

theorem objRef_spec (h : RefsPooled st) : wp (env O) (objRef ctx key) (fun r st' =>
    (∀ k, r = some k → k = key) ∧ Later st st') st := by
  refine Returns.wp ?_ (later_of_keeps (Later.objectInvariant.ref hO) h)
  refine .andThen fun _ => .ite (fun _ => ?_) fun _ => .pure (by simp)
  refine .andThen fun _ => .ite (fun _ => .andThen fun _ => ?_) fun _ => ?_
  · exact .pure fun k hk => (Option.some.inj hk).symm
  · exact .pure fun k hk => (Option.some.inj hk).symm

theorem objRef?_spec (h : RefsPooled st) (o : Option ObjId) : wp (env O) (objRef? ctx o)
    (fun r st' => (∀ k, r = some k → o = some k) ∧ Later st st') st := by
  cases o with
  | none => exact ⟨by simp, .refl h⟩
  | some o => exact wp_mono (objRef_spec hO h) fun r _ hr =>
      ⟨fun k hk => congrArg some (hr.1 k hk).symm, hr.2⟩

end Keys

/-- A context takes a key that it may be given. -/
theorem MayGive.fits {key : ObjId} {session : Option SessId} {uses : List Use} {r : Option ObjId}
    (hk : MayGive st key session) (hr : ∀ k, r = some k → k = key) (hu : ∀ u ∈ uses, u.OwnSlot)
    (hl : Later st st') : Holding.Fits st' ⟨r, session, uses⟩ where
  key k hk' := by
    obtain ⟨x, hx, hh, hs⟩ := hk
    obtain rfl := hr k hk'
    exact ⟨x.slotid, hl.onSlot k x.slotid (.of_obj hx hh), hs⟩
  uses := hu

/-! ## ECDH -/

section Ecdh

variable {c : ExchCtx} {key : ObjId} {params : List OsslParam} (hO : ObjectHandles O)
  (hD : DerivedHandles O)

theorem ecdhSetCtxParams_holding : (ecdhSetCtxParams c params).2.holding = c.holding := by
  refine setAll_keeps (I := fun c' : ExchCtx => c'.holding = c.holding) (fun s hs c' p hc => ?_) rfl
  simp only [ecdhSetters, List.mem_cons, List.not_mem_nil, or_false] at hs
  rcases hs with rfl | rfl | rfl | rfl | rfl
  · simp only [cofactorModeSetter]
    split
    · exact hc
    · split <;> exact hc
  · simp only [kdfTypeSetter]
    split
    · exact hc
    · split
      · exact hc
      · split <;> exact hc
  · simp only [kdfDigestSetter]
    split
    · exact hc
    · split <;> exact hc
  · simp only [kdfOutlenSetter]
    split <;> exact hc
  · simp only [kdfUkmSetter]
    split <;> exact hc

theorem setKdf_holding : c.setKdf.2.holding = c.holding := by
  unfold ExchCtx.setKdf
  split <;> rfl

theorem checkClass_spec {key : Option ObjId} {cls : Nat} :
    wp (env O) (checkClass key cls) (fun _ st' => st = st') st := by
  cases key with
  | none => rfl
  | some o => exact wp_loadObj.2 rfl

include hO in
theorem ecdhInit_spec (h : RefsPooled st) (hc : c.holding.Fits st) (hk : MayGive st key c.session) :
    wp (env O) (ecdhInit ctx c key params) (fun r st' => Fitting st r.2.holding st') st := by
  simp only [ecdhInit, Prog.perform_eq, Prog.call_bind, Prog.ret_bind, wp_callExt]
  intro ret _
  split
  · exact ⟨.refl h, hc⟩
  refine wp.bind (objFree?_later h c.key) fun _ st₁ h₁ => ?_
  refine wp.bind (objRef_spec hO h₁.refs) ?_
  rintro r st₂ ⟨hr, h₂⟩
  have hfit : Fitting st ⟨r, c.session, c.uses⟩ st₂ :=
    ⟨h₁.trans h₂, hk.fits hr hc.uses (h₁.trans h₂)⟩
  refine wp.bind checkClass_spec ?_
  rintro b _ rfl
  split
  · exact hfit
  · rwa [wp_pure, ecdhSetCtxParams_holding]

include hO in
theorem ecdhSetPeer_spec (h : RefsPooled st) (hc : c.holding.Fits st) :
    wp (env O) (ecdhSetPeer ctx c key) (fun r st' => Fitting st r.2.holding st') st := by
  refine wp.bind (objFree?_later h c.peerKey) fun _ st₁ h₁ => ?_
  refine wp.bind (objRef_spec hO h₁.refs) ?_
  rintro r st₂ ⟨hr, h₂⟩
  have hfit : Fitting st c.holding st₂ := ⟨h₁.trans h₂, hc.later (h₁.trans h₂)⟩
  refine wp.bind checkClass_spec ?_
  rintro b _ rfl
  split <;> exact hfit

theorem ecdhFreectx_later (h : RefsPooled st) :
    wp (env O) (ecdhFreectx ctx c) (fun _ st' => Later st st') st := by
  refine wp.bind (returnSession?_later h c.session) fun _ st₁ h₁ => ?_
  refine wp.bind (objFree?_later h₁.refs c.key) fun _ st₂ h₂ => ?_
  exact wp_mono (objFree?_later h₂.refs c.peerKey) fun _ _ h₃ => h₁.trans (h₂.trans h₃)

theorem ecdhNewctx_spec : wp (env O) ecdhNewctx (fun r st' => st = st' ∧
    ∀ c, r = some c → c = {}) st := by
  rintro (_ | _) _
  · exact ⟨rfl, by simp⟩
  · exact ⟨rfl, fun c hc => (Option.some.inj hc).symm⟩

theorem memdup_spec {data : Bytes} : wp (env O) (memdup data) (fun _ st' => st = st') st := by
  unfold memdup
  split
  · rfl
  · exact fun _ _ => rfl

include hO in
/-- A copy of a context fits where the context does. -/
theorem ecdhDupctx_spec (h : RefsPooled st) (hc : c.holding.Fits st) :
    wp (env O) (ecdhDupctx ctx c) (fun r st' => Later st st' ∧
      ∀ new, r = some new → new.holding.Fits st') st := by
  refine wp.bind ecdhNewctx_spec ?_
  rintro (_ | new) _ ⟨rfl, hnew⟩
  · exact ⟨.refl h, by simp⟩
  obtain rfl := hnew new rfl
  refine wp.bind (objRef?_spec hO h c.key) ?_
  rintro key st₁ ⟨hkey, h₁⟩
  refine wp.bind (objRef?_spec hO h₁.refs c.peerKey) ?_
  rintro peerKey st₂ ⟨_, h₂⟩
  have hfree : ∀ new, wp (env O) (do
      ecdhFreectx ctx new
      return (none : Option ExchCtx)) (fun r st' => Later st st' ∧
        ∀ new, r = some new → new.holding.Fits st') st₂ := by
    intro new
    refine wp.bind (ecdhFreectx_later h₂.refs) fun _ st₃ h₃ => ?_
    exact ⟨h₁.trans (h₂.trans h₃), by simp⟩
  refine wp.bind memdup_spec ?_
  rintro b _ rfl
  split
  · exact hfree _
  refine wp.bind memdup_spec ?_
  rintro b _ rfl
  split
  · exact hfree _
  refine ⟨h₁.trans h₂, ?_⟩
  rintro _ ⟨⟩
  refine ⟨fun k hk => ?_, ?_⟩
  · exact (hc.later (h₁.trans h₂)).key k (hkey k hk)
  · simp [ExchCtx.holding, ExchCtx.copyTo]

theorem objGetEcPublicRaw_later {d2i : Bytes → Option Bytes} (h : RefsPooled st) :
    wp (env O) (objGetEcPublicRaw d2i key) (fun _ st' => Later st st') st := by
  have hI : ObjectInvariant O True (Later st) := Later.objectInvariant
  have halloc : Keeps (env O) (Later st) (mem .alloc) := fun _ h _ _ => h
  refine later_of_keeps (.bind ?_ fun o => ?_) h
  · refine .bind ObjectInvariant.loadObj fun x => .ite .pure <| .ite .pure ?_
    split
    · exact .pure
    · exact .bind ObjectInvariant.loadObj fun _ => .pure
  cases o with
  | none => exact .pure
  | some o =>
    refine .bind ObjectInvariant.loadObj fun x => ?_
    split
    · exact .pure
    · exact .pure
    refine .bind ?_ fun r => ?_
    · unfold decodeEcPoint
      split
      · exact .pure
      · exact .ite .pure (.bind halloc fun _ => .pure)
    cases r with
    | none => exact .pure
    | some pubKey =>
      refine .bind halloc fun _ => .ite .pure <| .bind (hI.storeObj fun x => ?_) fun _ => .pure
      exact .of_eq rfl rfl rfl rfl

/-- An object that was derived is on the slot of the session of the context. -/
def DerivedOn (st : State) (skey : Option ObjId) (session : Option SessId) : Prop :=
  ∀ o, skey = some o → ∃ s, session = some s ∧ st.OnSlot o s.slot

omit hO hD in
theorem DerivedOn.none {session : Option SessId} : DerivedOn st none session := by
  intro o ho
  cases ho

include hO hD in
theorem ecdhDeriveOn_spec (h : RefsPooled st) (hc : c.holding.Fits st) (hk : c.key = some key) :
    wp (env O) (ecdhDeriveOn ctx c key) (fun r st' => Fitting st r.2.holding st' ∧
      DerivedOn st' r.1 r.2.session) st := by
  obtain ⟨slotid, hon, hs⟩ := hc.key key hk
  refine wp.bind (deriveKeyNoted_spec hO hD h hon hs) ?_
  rintro ⟨ret | ⟨dkey, s⟩, uses⟩ st₁ ⟨h₁, hu, hr⟩
  · have hu₁ : ∀ u ∈ c.uses ++ uses, u.OwnSlot := List.forall_mem_append.2 ⟨hc.uses, hu⟩
    exact ⟨⟨h₁, (hc.later h₁).key, hu₁⟩, .none⟩
  obtain ⟨hslot, hne⟩ := hr _ rfl
  have hs' : ∀ s', some s = some s' → s'.slot = s.slot := fun s' e => Option.some.inj e ▸ rfl
  refine wp.bind (objFromDerived_spec h₁.refs ⟨dkey, s.slot⟩ hs') ?_
  rintro ⟨r, uses'⟩ st₂ ⟨h₂, hu', hr'⟩
  have h₁₂ := h₁.trans h₂
  refine ⟨⟨h₁₂, fun k hk' => ?_, ?_⟩, fun o ho => ?_⟩
  · obtain rfl := Option.some.inj (hk.symm.trans hk')
    exact ⟨slotid, h₁₂.onSlot key slotid hon, hslot⟩
  · exact List.forall_mem_append.2 ⟨List.forall_mem_append.2 ⟨hc.uses, hu⟩, hu'⟩
  · refine ⟨s, rfl, hr' o ?_ hne⟩
    cases r with
    | error ret => simp [Except.toOption] at ho
    | ok a => simpa [Except.toOption] using ho

include hO hD in
theorem ecdhDeriveSkey_spec {d2i : Bytes → Option Bytes} {keyType : Option Bytes}
    (h : RefsPooled st) (hc : c.holding.Fits st) :
    wp (env O) (ecdhDeriveSkey d2i ctx c keyType) (fun r st' => Fitting st r.2.holding st' ∧
      DerivedOn st' r.1 r.2.session) st := by
  have hstay : ∀ {c' : ExchCtx} {st'}, c'.holding = c.holding → Later st st' →
      Fitting st c'.holding st' ∧ DerivedOn st' none c'.session :=
    fun e hl => ⟨⟨hl, e ▸ hc.later hl⟩, .none⟩
  unfold ecdhDeriveSkey
  split
  · rename_i key peer hkey hpeer
    split
    · exact hstay rfl (.refl h)
    have hset := setKdf_holding (c := c)
    rcases hset' : c.setKdf with ⟨ok, c'⟩
    rw [hset'] at hset
    dsimp only
    split
    · exact hstay hset (.refl h)
    refine wp.bind (objGetEcPublicRaw_later h) ?_
    rintro (_ | publicData) st₁ h₁
    · exact hstay hset h₁
    have hc₁ : Holding.Fits st₁ (ExchCtx.holding { c' with publicData }) := by
      exact (show ExchCtx.holding { c' with publicData } = c.holding from hset) ▸ hc.later h₁
    refine wp_mono (ecdhDeriveOn_spec hO hD h₁.refs hc₁ ?_) fun r st₂ h₂ => ?_
    · exact (congrArg Holding.key hset).trans hkey
    · exact ⟨.after h₁ h₂.1, h₂.2⟩
  · exact hstay rfl (.refl h)

include hO hD in
theorem ecdhDerive_spec {d2i : Bytes → Option Bytes} {outlen : Option Nat} (h : RefsPooled st)
    (hc : c.holding.Fits st) :
    wp (env O) (ecdhDerive d2i ctx c outlen) (fun r st' => Fitting st r.2.2.holding st') st := by
  cases outlen with
  | none =>
    simp only [ecdhDerive]
    cases c.key with
    | none => exact ⟨.refl h, hc⟩
    | some k => exact wp_loadObj.2 ⟨.refl h, hc⟩
  | some n =>
    refine wp.bind (ecdhDeriveSkey_spec hO hD h hc) ?_
    rintro ⟨_ | skey, c'⟩ st₁ ⟨⟨h₁, hc₁⟩, hon⟩
    · exact ⟨h₁, hc₁⟩
    obtain ⟨s, hs, hon⟩ := hon skey rfl
    refine wp.bind (objGetHandle_onSlot hO h₁.refs hon) ?_
    rintro handle st₂ ⟨h₂, halive⟩
    have h₁₂ := h₁.trans h₂
    split
    · refine wp.bind (later_of_keeps Later.objectInvariant.free h₂.refs) fun _ st₃ h₃ => ?_
      exact ⟨h₁₂.trans h₃, hc₁.later (h₂.trans h₃)⟩
    rename_i hh
    obtain ⟨x, hx, hslot⟩ := halive hh
    simp only [Prog.perform_eq, Prog.call_bind, Prog.ret_bind, wp_loadObj, hx, Option.getD_some]
    refine wp.bind (fetchValue_spec (fun s' hs' => ?_)) ?_
    · obtain rfl := Option.some.inj (hs.symm.trans hs')
      exact hslot.symm
    rintro ⟨ret, len, uses⟩ _ ⟨rfl, hu⟩
    refine wp.bind (later_of_keeps Later.objectInvariant.free h₂.refs) fun _ st₃ h₃ => ?_
    have hfit : Fitting st (c'.note uses).holding st₃ :=
      ⟨h₁₂.trans h₃, (hc₁.later (h₂.trans h₃)).key, List.forall_mem_append.2 ⟨hc₁.uses, hu⟩⟩
    split <;> exact hfit

end Ecdh

/-! ## HKDF and the TLS 1.3 KDF -/

section Kdf

variable {c : KdfCtx} {key : ObjId} {mechtype n : Nat} {params : Option (List OsslParam)}
  (hO : ObjectHandles O) (hD : DerivedHandles O)

theorem hkdfReset_spec (h : RefsPooled st) (hc : c.holding.Fits st) :
    wp (env O) (hkdfReset ctx c) (fun r st' => Fitting st r.holding st') st := by
  refine wp.bind (objFree?_later h c.key) fun _ st₁ h₁ => ?_
  refine wp.bind (returnSession?_later h₁.refs c.session) fun _ st₂ h₂ => ?_
  refine ⟨h₁.trans h₂, ?_, hc.uses⟩
  intro k hk
  cases hk

include hO in
theorem hkdfSetSkey_spec {key : Option ObjId} {paramname : Bytes} (h : RefsPooled st)
    (hc : c.holding.Fits st)
    (hk : paramname = ascii "key" → ∀ k, key = some k → MayGive st k c.session) :
    wp (env O) (hkdfSetSkey ctx c key paramname) (fun r st' => Fitting st r.2.holding st') st := by
  unfold hkdfSetSkey
  split
  · exact ⟨.refl h, hc⟩
  have hk := hk (not_not.1 ‹_›)
  refine wp.bind (objFree?_later h c.key) fun _ st₁ h₁ => ?_
  refine wp.bind (objRef?_spec hO h₁.refs key) ?_
  rintro r st₂ ⟨hr, h₂⟩
  refine ⟨h₁.trans h₂, fun k hk' => ?_, hc.uses⟩
  exact ((hk k (hr k hk')).fits (fun _ e => (Option.some.inj e).symm) hc.uses
    (h₁.trans h₂)).key k rfl

/-- The session that a key of secret bytes is made on: that of the context, else one on a slot
    that serves the mechanism. -/
def TakenFor (ctx : Ctx) (mechtype : Nat) (s : SessId) : Option SessId → Prop
  | some s' => s = s'
  | none => ∃ slot ∈ ctx.slots, checkSlot ctx slot none mechtype false = Ckr.ok ∧ slot.id = s.slot

theorem kdfSession_spec (h : RefsPooled st) {session : Option SessId} :
    wp (env O) (kdfSession ctx mechtype session) (fun r st' => Coded r ∧ Later st st' ∧
      ∀ s, r = .ok s → TakenFor ctx mechtype s session) st := by
  cases session with
  | some s => exact ⟨coded_ok s, .refl h, fun s' e => (Except.ok.inj e).symm⟩
  | none =>
    refine Returns.wp getSession_coded (wp_and ?_ getSession_checked)
    exact later_of_keeps Later.objectInvariant.getSession h

/-- What `inner_pkcs11_key` does: nothing without a session, else the key that is made, if any,
    is on the slot of the session. -/
def KeyMade (ctx : Ctx) (c : KdfCtx) (mechtype : Nat) (keyobj : Option ObjId)
    (r : CkRv × Option ObjId × KdfCtx) (st : State) : Prop :=
  (r.1 ≠ Ckr.ok ∧ r.2 = (keyobj, c)) ∨ ∃ s, r.2.2 = { c with session := some s } ∧
    TakenFor ctx mechtype s c.session ∧ ∀ o, r.2.1 = some o → st.OnSlot o s.slot

include hO in
theorem innerPkcs11Key_spec (h : RefsPooled st) {keyobj : Option ObjId} :
    wp (env O) (innerPkcs11Key ctx c mechtype n keyobj) (fun r st' => Later st st' ∧
      KeyMade ctx c mechtype keyobj r st') st := by
  refine wp.bind (kdfSession_spec h) ?_
  rintro (ret | s) st₁ ⟨hret, h₁, hs⟩
  · exact ⟨h₁, .inl ⟨hret ret rfl, rfl⟩⟩
  refine wp.bind (createSecretKey_spec hO h₁.refs) ?_
  rintro (_ | o) st₂ ⟨h₂, ho⟩
  · exact ⟨h₁.trans h₂, .inr ⟨s, rfl, hs s rfl, by simp⟩⟩
  · exact ⟨h₁.trans h₂, .inr ⟨s, rfl, hs s rfl, ho⟩⟩

/-! ### Parameters -/

/-- The mode that parameters leave. -/
def KdfCtx.modeAfter (c : KdfCtx) : Option (List OsslParam) → Int
  | none => c.mode
  | some params => (setAll params [hashSetter, modeSetter] c).2.mode

/-- The salt that parameters leave. -/
def KdfCtx.saltAfter (c : KdfCtx) : Option (List OsslParam) → Option Bytes
  | none => c.salt
  | some params => (saltSetter.run params c).2.salt

/-- The parameters make no key. -/
def NoKey (params : Option (List OsslParam)) : Prop :=
  ∀ ps, params = some ps → locate ps (ascii "key") = none

theorem hashMode_keeps (ps : List OsslParam) (c : KdfCtx) :
    (setAll ps [hashSetter, modeSetter] c).2.holding = c.holding ∧
      (setAll ps [hashSetter, modeSetter] c).2.salt = c.salt := by
  refine setAll_keeps (I := fun c' : KdfCtx => c'.holding = c.holding ∧ c'.salt = c.salt)
    (fun s hs c' p hc => ?_) ⟨rfl, rfl⟩
  simp only [List.mem_cons, List.not_mem_nil, or_false] at hs
  rcases hs with rfl | rfl
  · simp only [hashSetter]
    split
    · exact hc
    · split <;> exact hc
  · simp only [modeSetter]
    split
    · exact hc
    · split <;> exact hc

/-- The salt is read from the parameters, if it is there. -/
theorem saltSetter_run (ps : List OsslParam) (c : KdfCtx) :
    (saltSetter.run ps c).2 = { c with salt := (saltSetter.run ps c).2.salt } ∧
      ∀ c' : KdfCtx, c'.salt = c.salt →
        (saltSetter.run ps c').2.salt = (saltSetter.run ps c).2.salt := by
  simp only [Setter.run]
  split
  · exact ⟨rfl, fun _ h => h⟩
  · simp only [saltSetter, bufferSetter]
    split <;> exact ⟨rfl, fun _ _ => rfl⟩

/-- An assignment of one of the buffers that only the labels of TLS 1.3 are made of. -/
theorem labels_keep {ps : List OsslParam} {c' : KdfCtx}
    (he : (setAll ps [prefixSetter, labelSetter, dataSetter] c).2 = c') :
    c'.holding = c.holding ∧ c'.mode = c.mode ∧ c'.salt = c.salt := by
  subst he
  refine setAll_keeps (I := fun c' : KdfCtx => c'.holding = c.holding ∧ c'.mode = c.mode ∧
    c'.salt = c.salt) (fun s hs c' p hc => ?_) ⟨rfl, rfl, rfl⟩
  simp only [List.mem_cons, List.not_mem_nil, or_false] at hs
  rcases hs with rfl | rfl | rfl
  · simp only [prefixSetter, bufferSetter]
    split <;> exact hc
  · simp only [labelSetter, bufferSetter]
    split <;> exact hc
  · simp only [dataSetter, bufferSetter]
    split <;> exact hc

theorem infosAccepted_spec {ps : List OsslParam} :
    wp (env O) (infosAccepted ps) (fun _ st' => st = st') st := by
  have halloc : Keeps (env O) (fun st' => st = st') (mem .alloc) := fun _ h _ _ => h
  unfold infosAccepted
  split
  · rfl
  · rename_i p infos _
    split
    · rfl
    · exact Keeps.bind halloc (.foldlM (fun _ _ => .ite halloc .pure) infos) st rfl

theorem setRest_spec {ps : List OsslParam} : wp (env O) (setRest c ps) (fun r st' => st = st' ∧
    r.2.holding = c.holding ∧ r.2.mode = c.mode ∧ r.2.salt = c.salt) st := by
  unfold setRest
  split
  · split
    · exact ⟨rfl, rfl, rfl, rfl⟩
    · exact ⟨rfl, labels_keep rfl⟩
  · refine wp.bind infosAccepted_spec ?_
    rintro b _ rfl
    exact ⟨rfl, rfl, rfl, rfl⟩

include hO in
theorem setKey_spec {ps : List OsslParam} (h : RefsPooled st) (hc : c.holding.Fits st) :
    wp (env O) (setKey ctx c ps) (fun r st' => Fitting st r.2.holding st' ∧
      r.2.mode = c.mode ∧ r.2.salt = c.salt ∧
      (NoKey (some ps) → r.2 = c) ∧ (r.1 = retOsslOk → NoKey (some ps) ∨ r.2.session ≠ none)) st := by
  unfold setKey
  split
  · rename_i hl
    refine ⟨⟨.refl h, hc⟩, rfl, rfl, fun _ => rfl, fun _ => .inl fun ps' e => ?_⟩
    exact Option.some.inj e ▸ hl
  rename_i p hl
  have hkey : ¬NoKey (some ps) := fun hn => by simp [hn ps rfl] at hl
  split
  · exact ⟨⟨.refl h, hc⟩, rfl, rfl, fun hn => absurd hn hkey, by simp⟩
  refine wp.bind (objFree?_later h c.key) fun _ st₁ h₁ => ?_
  refine wp.bind (innerPkcs11Key_spec hO h₁.refs) ?_
  rintro ⟨ret, key, c'⟩ st₂ ⟨h₂, hmade⟩
  have h₁₂ := h₁.trans h₂
  rcases hmade with ⟨hret, e⟩ | ⟨s, e, hs, ho⟩
  · obtain ⟨rfl, rfl⟩ := Prod.mk.inj e
    refine ⟨⟨h₁₂, hc.later h₁₂⟩, rfl, rfl, fun hn => absurd hn hkey, fun e => ?_⟩
    simp [hret, retOsslErr, retOsslOk] at e
  · obtain rfl : c' = { c with session := some s } := e
    refine ⟨⟨h₁₂, fun k hk => ?_, hc.uses⟩, rfl, rfl, fun hn => absurd hn hkey, fun _ => .inr (by simp)⟩
    exact ⟨s.slot, ho k hk, rfl⟩

include hO in
theorem hkdfSetCtxParams_spec (h : RefsPooled st) (hc : c.holding.Fits st) :
    wp (env O) (hkdfSetCtxParams ctx c params) (fun r st' => Fitting st r.2.holding st' ∧
      (r.1 = retOsslOk → r.2.mode = c.modeAfter params ∧ r.2.salt = c.saltAfter params ∧
        (r.2.session = none → NoKey params ∧ c.session = none ∧ r.2.key = c.key))) st := by
  cases params with
  | none => exact ⟨⟨.refl h, hc⟩, fun _ => ⟨rfl, rfl, fun hs => ⟨fun ps hps => absurd hps (by simp), hs, rfl⟩⟩⟩
  | some ps =>
    obtain ⟨hhold, hsalt⟩ := hashMode_keeps ps c
    have hmode : c.modeAfter (some ps) = (setAll ps [hashSetter, modeSetter] c).2.mode := rfl
    rcases hset : setAll ps [hashSetter, modeSetter] c with ⟨ret, c₁⟩
    simp only [hset] at hhold hsalt hmode
    have hc₁ : c₁.holding.Fits st := hhold ▸ hc
    simp only [hkdfSetCtxParams, hset]
    split
    · exact ⟨⟨.refl h, hc₁⟩, fun e => absurd e ‹_›⟩
    refine wp.bind (setKey_spec hO h hc₁) ?_
    rintro ⟨ret, c₂⟩ st₂ ⟨hfit, hmode₂, hsalt₂, hno, hyes⟩
    split
    · exact ⟨hfit, fun e => absurd e ‹_›⟩
    rename_i hret
    have hrun := saltSetter_run ps c₂
    have hsalt' : (saltSetter.run ps c₂).2.salt = c.saltAfter (some ps) :=
      (saltSetter_run _ _).2 c₂ (hsalt₂.trans hsalt)
    rcases hrun' : saltSetter.run ps c₂ with ⟨ret, c₃⟩
    simp only [hrun'] at hrun hsalt'
    have hhold₃ : c₃.holding = c₂.holding := by rw [hrun.1]; rfl
    have hmode₃ : c₃.mode = c₂.mode := by rw [hrun.1]
    split
    · exact ⟨hhold₃ ▸ hfit, fun e => absurd e ‹_›⟩
    refine wp_mono setRest_spec ?_
    rintro ⟨ret, c₄⟩ _ ⟨rfl, hhold₄, hmode₄, hsalt₄⟩
    have hhold' : c₄.holding = c₂.holding := hhold₄.trans hhold₃
    refine ⟨by rwa [hhold'], fun _ => ⟨?_, hsalt₄.trans hsalt', fun hs => ?_⟩⟩
    · exact hmode₄.trans (hmode₃.trans (hmode₂.trans hmode.symm))
    have hs₂ : c₂.session = none := (congrArg Holding.session hhold').symm.trans hs
    have hnokey : NoKey (some ps) := (hyes (not_not.1 hret)).resolve_right fun hn => hn hs₂
    have hhold₂ : c₄.holding = c.holding :=
      hhold'.trans ((congrArg KdfCtx.holding (hno hnokey)).trans hhold)
    exact ⟨hnokey, (congrArg Holding.session hhold₂).symm.trans hs, congrArg Holding.key hhold₂⟩

/-! ### Derivation -/

/-- What was derived is on the slot of the session of the context. -/
def DerivedWith (r : Except CkRv Derived) (session : Option SessId) : Prop :=
  ∀ d, r = .ok d → ∀ s, session = some s → s.slot = d.slotid

theorem DerivedWith.error {ret : CkRv} {session : Option SessId} :
    DerivedWith (.error ret) session := by
  intro d hd
  cases hd

/-- A key on a slot that the session of the context serves. If there is no session yet, it is
    the key of the context. -/
def Usable (st : State) (c : KdfCtx) (key : ObjId) : Prop :=
  (∃ slotid, st.OnSlot key slotid ∧ ServesSlot slotid c.session) ∧
    (c.session = none → c.key = some key)

/-- The key of a context is usable. -/
theorem Holding.Fits.usable (hc : c.holding.Fits st) (hk : c.key = some key) : Usable st c key :=
  ⟨hc.key key hk, fun _ => hk⟩

include hO hD in
theorem innerDeriveKey_spec (h : RefsPooled st) (hc : c.holding.Fits st) (hk : Usable st c key) :
    wp (env O) (innerDeriveKey ctx c key mechtype) (fun r st' => Fitting st r.2.holding st' ∧
      r.2.key = c.key ∧ (c.session ≠ none → r.2.session ≠ none) ∧
      DerivedWith r.1 r.2.session) st := by
  unfold innerDeriveKey
  split
  · exact ⟨⟨.refl h, hc⟩, rfl, id, .error⟩
  obtain ⟨⟨slotid, hon, hs⟩, hsame⟩ := hk
  refine wp.bind (deriveKeyNoted_spec hO hD h hon hs) ?_
  rintro ⟨ret | ⟨dkey, s⟩, uses⟩ st₁ ⟨h₁, hu, hr⟩
  · have hu₁ : ∀ u ∈ c.uses ++ uses, u.OwnSlot := List.forall_mem_append.2 ⟨hc.uses, hu⟩
    exact ⟨⟨h₁, (hc.later h₁).key, hu₁⟩, rfl, id, .error⟩
  have hslot : s.slot = slotid := (hr _ rfl).1
  refine ⟨⟨h₁, fun k hk => ?_, List.forall_mem_append.2 ⟨hc.uses, hu⟩⟩, rfl, fun _ => by simp, ?_⟩
  · cases hsess : c.session with
    | none =>
      obtain rfl := Option.some.inj ((hsame hsess).symm.trans hk)
      exact ⟨slotid, h₁.onSlot key slotid hon, hslot⟩
    | some s₀ =>
      obtain ⟨slotid', hon', hs'⟩ := (hc.later h₁).key k hk
      have hs₀ : ServesSlot slotid (some s₀) := hsess ▸ hs
      have hs₀' : ServesSlot slotid' (some s₀) := hsess ▸ hs'
      exact ⟨slotid', hon', hslot.trans (hs₀.symm.trans hs₀')⟩
  · rintro _ ⟨⟩ _ ⟨⟩
    rfl

theorem innerExtractKeyValue_spec {dkey : Derived} (h : RefsPooled st) (hc : c.holding.Fits st)
    (hd : DerivedWith (.ok dkey) c.session) :
    wp (env O) (innerExtractKeyValue c dkey n) (fun r st' => Fitting st r.2.holding st' ∧
      r.2.key = c.key ∧ r.2.session = c.session) st := by
  refine wp.bind (fetchValue_spec (hd dkey rfl)) ?_
  rintro ⟨ret, len, uses⟩ _ ⟨rfl, hu⟩
  have hfit : Fitting st (c.note uses).holding st :=
    ⟨.refl h, hc.key, List.forall_mem_append.2 ⟨hc.uses, hu⟩⟩
  dsimp only
  split <;> exact ⟨hfit, rfl, rfl⟩

theorem kdfObjFromHandle_spec {dkey : Derived} (h : RefsPooled st) (hc : c.holding.Fits st)
    (hd : DerivedWith (.ok dkey) c.session) :
    wp (env O) (kdfObjFromHandle ctx c dkey) (fun r st' => Fitting st r.2.holding st') st := by
  refine wp.bind (objFromDerived_spec h dkey (hd dkey rfl)) ?_
  rintro ⟨r, uses⟩ st₁ ⟨h₁, hu, -⟩
  exact ⟨h₁, (hc.later h₁).key, List.forall_mem_append.2 ⟨hc.uses, hu⟩⟩

/-! ### TLS 1.3 -/

include hO hD in
theorem tls13ExpandLabel_spec {data : Option Bytes} {keylen : Nat} (h : RefsPooled st)
    (hc : c.holding.Fits st) (hk : Usable st c key) :
    wp (env O) (tls13ExpandLabel ctx c key data keylen mechtype) (fun r st' =>
      Fitting st r.2.holding st' ∧ r.2.key = c.key ∧ (c.session ≠ none → r.2.session ≠ none) ∧
      DerivedWith r.1 r.2.session) st := by
  unfold tls13ExpandLabel
  split
  · exact innerDeriveKey_spec hO hD h hc hk
  · exact ⟨⟨.refl h, hc⟩, rfl, id, .error⟩

include hO hD in
theorem tls13SaltOn_spec {info : Bytes} {hashlen : Nat} (h : RefsPooled st)
    (hc : c.holding.Fits st) (hk : Usable st c key) :
    wp (env O) (tls13SaltOn ctx c key info hashlen) (fun r st' => Fitting st r.2.holding st' ∧
      r.2.key = c.key) st := by
  refine wp.bind (tls13ExpandLabel_spec hO hD h hc hk) ?_
  rintro ⟨r, c₁⟩ st₁ ⟨⟨h₁, hc₁⟩, hkey, -, hd⟩
  refine wp.bind (later_of_keeps Later.objectInvariant.free h₁.refs) fun _ st₂ h₂ => ?_
  have h₁₂ := h₁.trans h₂
  cases r with
  | error ret => exact ⟨⟨h₁₂, hc₁.later h₂⟩, hkey⟩
  | ok dkey =>
    refine wp_mono (innerExtractKeyValue_spec h₂.refs (hc₁.later h₂) hd) fun r st₃ hr => ?_
    exact ⟨.after h₁₂ hr.1, hr.2.1.trans hkey⟩

/-- A key lies on the only slot that serves the mechanism. -/
def OnOnlySlot (ctx : Ctx) (mechtype : Nat) (st : State) (k : ObjId) : Prop :=
  ∃ slotid, st.OnSlot k slotid ∧
    ∀ slot ∈ ctx.slots, checkSlot ctx slot none mechtype false = Ckr.ok → slot.id = slotid

/-- If a context has a salt and no session, its key lies on the slot that the salt will be made
    a key on. -/
def SaltServed (ctx : Ctx) (st : State) (c : KdfCtx) : Prop :=
  c.session = none → c.salt ≠ none → ∀ k, c.key = some k → OnOnlySlot ctx Ckm.hkdfData st k

/-- The context after a key was made on its session fits, if the session serves its key. -/
theorem KeyMade.fits {keyobj : Option ObjId} {r : CkRv × Option ObjId × KdfCtx}
    (hm : KeyMade ctx c mechtype keyobj r st') (hc : c.holding.Fits st) (hl : Later st st')
    (hs : c.session = none → ∀ k, c.key = some k → OnOnlySlot ctx mechtype st k) :
    r.2.2.holding.Fits st' ∧ r.2.2.key = c.key := by
  rcases hm with ⟨-, e⟩ | ⟨s, e, htaken, -⟩
  · rw [e]
    exact ⟨hc.later hl, rfl⟩
  rw [e]
  refine ⟨⟨fun k hk => ?_, hc.uses⟩, rfl⟩
  cases hsess : c.session with
  | none =>
    obtain ⟨slotid, hon, hall⟩ := hs hsess k hk
    rw [hsess] at htaken
    obtain ⟨slot, hslot, hcheck, hid⟩ := htaken
    exact ⟨slotid, hl.onSlot k slotid hon, hid.symm.trans (hall slot hslot hcheck)⟩
  | some s₀ =>
    rw [hsess] at htaken
    obtain rfl : s = s₀ := htaken
    exact hsess ▸ (hc.later hl).key k hk

theorem digestUtil_spec {digest size : Nat} :
    wp (env O) (digestUtil digest size) (fun _ st' => st = st') st := by
  have halloc : Keeps (env O) (fun st' => st = st') (mem .alloc) := fun _ h _ _ => h
  have hkeep : Keeps (env O) (fun st' => st = st') (digestUtil digest size) := by
    refine .bind ObjectInvariant.keeps_call fun _ => .ite .pure <| .bind halloc fun _ => ?_
    refine .ite .pure <| .bind ObjectInvariant.keeps_call fun _ => .ite .pure ?_
    refine .bind ObjectInvariant.keeps_call fun r => ?_
    split <;> exact .pure
  exact hkeep st rfl

include hO hD in
theorem tls13Salt_spec {hashlen : Nat} (h : RefsPooled st) (hc : c.holding.Fits st)
    (hs : SaltServed ctx st c) :
    wp (env O) (tls13Salt ctx c hashlen) (fun r st' => Fitting st r.2.holding st' ∧
      r.2.key = c.key) st := by
  unfold tls13Salt
  split
  · exact ⟨⟨.refl h, hc⟩, rfl⟩
  rename_i salt hsalt
  split
  · exact ⟨⟨.refl h, hc⟩, rfl⟩
  refine wp.bind digestUtil_spec ?_
  rintro (ret | info) _ rfl
  · exact ⟨⟨.refl h, hc⟩, rfl⟩
  refine wp.bind (innerPkcs11Key_spec hO h) ?_
  rintro ⟨ret, ek, c₁⟩ st₁ ⟨h₁, hmade⟩
  have hserved := fun hn => hs hn (by simp [hsalt])
  obtain ⟨hc₁, hkey⟩ := hmade.fits hc h₁ hserved
  cases ek with
  | none => exact ⟨⟨h₁, hc₁⟩, hkey⟩
  | some ek =>
    rcases hmade with ⟨-, e⟩ | ⟨s, e, -, hon⟩
    · simp at e
    obtain rfl : c₁ = { c with session := some s } := e
    have hk : Usable st₁ { c with session := some s } ek := ⟨⟨s.slot, hon ek rfl, rfl⟩, by simp⟩
    refine wp_mono (tls13SaltOn_spec hO hD h₁.refs hc₁ hk) fun r st₂ hr => ?_
    exact ⟨.after h₁ hr.1, hr.2⟩

include hO hD in
theorem tls13DeriveFrom_spec {hashlen : Nat} (h : RefsPooled st) (hc : c.holding.Fits st) :
    wp (env O) (tls13DeriveFrom ctx c c.key hashlen mechtype) (fun r st' =>
      Fitting st r.2.holding st' ∧ DerivedWith r.1 r.2.session) st := by
  unfold tls13DeriveFrom
  split
  · rename_i key hk
    exact wp_mono (innerDeriveKey_spec hO hD h hc (Holding.Fits.usable hc hk)) fun r st' hr =>
      ⟨hr.1, hr.2.2.2⟩
  rename_i hk
  refine wp.bind (innerPkcs11Key_spec hO h) ?_
  rintro ⟨ret, zerokey, c₁⟩ st₁ ⟨h₁, hmade⟩
  obtain ⟨hc₁, -⟩ := hmade.fits hc h₁ fun _ k hk' => by simp [hk] at hk'
  cases zerokey with
  | none => exact ⟨⟨h₁, hc₁⟩, .error⟩
  | some zerokey =>
    rcases hmade with ⟨-, e⟩ | ⟨s, e, -, hon⟩
    · simp at e
    obtain rfl : c₁ = { c with session := some s } := e
    have hz : Usable st₁ { c with session := some s } zerokey :=
      ⟨⟨s.slot, hon zerokey rfl, rfl⟩, by simp⟩
    refine wp.bind (innerDeriveKey_spec hO hD h₁.refs hc₁ hz) ?_
    rintro ⟨r, c₂⟩ st₂ ⟨⟨h₂, hc₂⟩, -, -, hd⟩
    refine wp.bind (later_of_keeps Later.objectInvariant.free h₂.refs) fun _ st₃ h₃ => ?_
    exact ⟨⟨h₁.trans (h₂.trans h₃), hc₂.later h₃⟩, hd⟩

include hO hD in
theorem tls13DeriveSecret_spec (h : RefsPooled st) (hc : c.holding.Fits st)
    (hs : SaltServed ctx st c) :
    wp (env O) (tls13DeriveSecret ctx c c.key mechtype) (fun r st' =>
      Fitting st r.2.holding st' ∧ DerivedWith r.1 r.2.session) st := by
  unfold tls13DeriveSecret
  split
  · exact ⟨⟨.refl h, hc⟩, .error⟩
  refine wp.bind (tls13Salt_spec hO hD h hc hs) ?_
  rintro ⟨ret, c₁⟩ st₁ ⟨⟨h₁, hc₁⟩, hkey⟩
  dsimp only at hkey ⊢
  split
  · exact ⟨⟨h₁, hc₁⟩, .error⟩
  rw [← hkey]
  exact wp_mono (tls13DeriveFrom_spec hO hD h₁.refs hc₁) fun r st₂ hr => ⟨.after h₁ hr.1, hr.2⟩

include hO hD in
theorem tls13DeriveBy_spec {keylen : Nat} (h : RefsPooled st) (hc : c.holding.Fits st)
    (hs : c.mode = modeExtractOnly → SaltServed ctx st c) :
    wp (env O) (tls13DeriveBy ctx c keylen mechtype) (fun r st' =>
      Fitting st r.2.holding st' ∧ DerivedWith r.1 r.2.session) st := by
  unfold tls13DeriveBy
  split
  · split
    · exact ⟨⟨.refl h, hc⟩, .error⟩
    · rename_i key hk
      exact wp_mono (tls13ExpandLabel_spec hO hD h hc (Holding.Fits.usable hc hk))
        fun r st' hr => ⟨hr.1, hr.2.2.2⟩
  split
  · exact tls13DeriveSecret_spec hO hD h hc (hs ‹_›)
  · exact ⟨⟨.refl h, hc⟩, .error⟩

/-! ### The functions of the contexts -/

include hO hD in
theorem hkdfDerive_spec {hasBuffer : Bool} {keylen : Nat} (h : RefsPooled st)
    (hc : c.holding.Fits st) : wp (env O) (hkdfDerive ctx c hasBuffer keylen params)
      (fun r st' => Fitting st r.2.holding st') st := by
  refine wp.bind (hkdfSetCtxParams_spec hO h hc) ?_
  rintro ⟨ret, c₁⟩ st₁ ⟨hfit₁, -⟩
  dsimp only at hfit₁ ⊢
  split
  · exact hfit₁
  unfold hkdfDeriveOn
  split
  · exact hfit₁
  rename_i key hk
  split
  · exact hfit₁
  refine wp.bind (innerDeriveKey_spec hO hD hfit₁.1.refs hfit₁.2 (Holding.Fits.usable hfit₁.2 hk)) ?_
  rintro ⟨ret | dkey, c₂⟩ st₂ ⟨hfit₂, -, -, hd⟩
  · exact .after hfit₁.1 hfit₂
  refine wp.bind (innerExtractKeyValue_spec hfit₂.1.refs hfit₂.2 hd) fun r st₃ hr => ?_
  exact .after hfit₁.1 (.after hfit₂.1 hr.1)

include hO hD in
theorem hkdfDeriveSkey_spec {keyType : Option Bytes} {keylen : Nat} (h : RefsPooled st)
    (hc : c.holding.Fits st) : wp (env O) (hkdfDeriveSkey ctx c keyType keylen params)
      (fun r st' => Fitting st r.2.holding st') st := by
  refine wp.bind (hkdfSetCtxParams_spec hO h hc) ?_
  rintro ⟨ret, c₁⟩ st₁ ⟨hfit₁, -⟩
  dsimp only at hfit₁ ⊢
  split
  · exact hfit₁
  unfold hkdfDeriveSkeyOn
  split
  · exact hfit₁
  rename_i key hk
  split
  · exact hfit₁
  refine wp.bind (innerDeriveKey_spec hO hD hfit₁.1.refs hfit₁.2 (Holding.Fits.usable hfit₁.2 hk)) ?_
  rintro ⟨ret | dkey, c₂⟩ st₂ ⟨hfit₂, -, -, hd⟩
  · exact .after hfit₁.1 hfit₂
  refine wp_mono (kdfObjFromHandle_spec hfit₂.1.refs hfit₂.2 hd) fun r st₃ hr => ?_
  exact .after hfit₁.1 (.after hfit₂.1 hr)

/-- A secret is derived with a salt only on a session of the slot of the key: a context that
    has a key, but no session yet, has its key on the only slot that the salt can be made a
    key on. -/
def SecretServed (ctx : Ctx) (st : State) (c : KdfCtx) (params : Option (List OsslParam)) : Prop :=
  NoKey params → c.modeAfter params = modeExtractOnly → c.saltAfter params ≠ none →
    c.session = none → ∀ k, c.key = some k → OnOnlySlot ctx Ckm.hkdfData st k

include hO in
/-- The condition carries over to the context with the parameters. -/
theorem tls13Params_spec (h : RefsPooled st) (hc : c.holding.Fits st)
    (hs : SecretServed ctx st c params) :
    wp (env O) (hkdfSetCtxParams ctx c params) (fun r st' => Fitting st r.2.holding st' ∧
      (r.1 = retOsslOk → r.2.mode = modeExtractOnly → SaltServed ctx st' r.2)) st := by
  refine wp_mono (hkdfSetCtxParams_spec hO h hc) ?_
  rintro r st₁ ⟨hfit, hok⟩
  refine ⟨hfit, fun hr hm => ?_⟩
  obtain ⟨hmode, hsalt, hsame⟩ := hok hr
  intro hn hne k hk
  obtain ⟨hnokey, hsess, hkey⟩ := hsame hn
  obtain ⟨slotid, hon, hall⟩ := hs hnokey (hmode ▸ hm) (hsalt ▸ hne) hsess k (hkey ▸ hk)
  exact ⟨slotid, hfit.1.onSlot k slotid hon, hall⟩

include hO hD in
theorem tls13KdfDerive_spec {hasBuffer : Bool} {keylen : Nat} (h : RefsPooled st)
    (hc : c.holding.Fits st) (hs : SecretServed ctx st c params) :
    wp (env O) (tls13KdfDerive ctx c hasBuffer keylen params)
      (fun r st' => Fitting st r.2.holding st') st := by
  refine wp.bind (tls13Params_spec hO h hc hs) ?_
  rintro ⟨ret, c₁⟩ st₁ ⟨hfit₁, hsalt⟩
  dsimp only at hfit₁ hsalt ⊢
  split
  · exact hfit₁
  rename_i hret
  have hret : ret = retOsslOk := not_not.1 fun hne => hret (.inl hne)
  refine wp.bind (tls13DeriveBy_spec hO hD hfit₁.1.refs hfit₁.2 (hsalt hret)) ?_
  rintro ⟨ret | dkey, c₂⟩ st₂ ⟨hfit₂, hd⟩
  · exact .after hfit₁.1 hfit₂
  refine wp.bind (innerExtractKeyValue_spec hfit₂.1.refs hfit₂.2 hd) fun r st₃ hr => ?_
  exact .after hfit₁.1 (.after hfit₂.1 hr.1)

include hO hD in
theorem tls13KdfDeriveSkey_spec {keyType : Option Bytes} {keylen : Nat} (h : RefsPooled st)
    (hc : c.holding.Fits st) (hs : SecretServed ctx st c params) :
    wp (env O) (tls13KdfDeriveSkey ctx c keyType keylen params)
      (fun r st' => Fitting st r.2.holding st') st := by
  refine wp.bind (tls13Params_spec hO h hc hs) ?_
  rintro ⟨ret, c₁⟩ st₁ ⟨hfit₁, hsalt⟩
  dsimp only at hfit₁ hsalt ⊢
  split
  · exact hfit₁
  rename_i hret
  have hret : ret = retOsslOk := not_not.1 fun hne => hret (.inl hne)
  refine wp.bind (tls13DeriveBy_spec hO hD hfit₁.1.refs hfit₁.2 (hsalt hret)) ?_
  rintro ⟨ret | dkey, c₂⟩ st₂ ⟨hfit₂, hd⟩
  · exact .after hfit₁.1 hfit₂
  refine wp_mono (kdfObjFromHandle_spec hfit₂.1.refs hfit₂.2 hd) fun r st₃ hr => ?_
  exact .after hfit₁.1 (.after hfit₂.1 hr)

end Kdf

end P11Prov
