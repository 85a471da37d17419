import P11Prov.Interaction.Agree
import P11Prov.KeySchedule.Reset
import P11Prov.KeySchedule.Tls13
import P11Prov.Session.Codes

/-!
# Three accounts of one file

`kdf.c` is looked at from three sides: on the sessions and objects of the
provider, where the bytes of a secret do not matter (`P11Prov.Kdf`), with the
bytes, where sessions and objects are left to calls (`KeySchedule`), and with the
members that parameters leave in a context, where what the calls return is given
(`KeySchedule.Reset`). They are accounts of the same functions:

* with each call carried out on the sessions and objects (`carryOut`), the
  functions of the second account have the runs of those of the first
  (`tls13KdfDerive_agree`, `hkdfDeriveOn_agree`);
* every run of `p11prov_hkdf_set_ctx_params` in the second account is one of the
  third, for some answers (`setCtxParams_answered`).
-/

namespace P11Prov.KeySchedule

open Interaction

variable {O : Oracle} {ctx : Ctx} {c : KdfCtx} {keylen keyType mechtype hashlen : Nat}

/-! ## Calls -/

/-- The calls on the sessions and objects of the provider. The handle of a new key is not looked
    at, and neither are the parameters of a mechanism, nor the size of a buffer. -/
def carryOut (ctx : Ctx) : (c : TokenCall) → P c.Resp
  | .getSession mechtype => getSession ctx ckUnavailableInformation { mechtype }
  | .trySessionRef key mechtype => do
    trySessionRef ctx (← mem (.loadObj key)) mechtype false false
  | .createSecretKey s secret => do
    return (← createSecretKey ctx s secret.length).map fun o => (o, ckInvalidHandle)
  | .objGetHandle key => objGetHandle ctx key
  | .deriveKey s mechanism handle _ => do
    let h ← sessionHandle s
    let (ret, dkey) ← call (.deriveKey h mechanism.mechanism handle)
    return if ret = Ckr.ok then .ok dkey else .error ret
  | .returnSession s => returnSession ctx s
  | .fetchValue s handle _ => do
    let h ← sessionHandle s
    let (ret, a) ← call (.fetchAttributes h handle)
    let value := (a.attrs.find? (·.1 = ckaValue)).map (·.2)
    return if ret = Ckr.ok then .ok (value.getD []) else .error ret
  | .digestUtil digest size => digestUtil digest size
  | .objFree key => objFree ctx key
  | .alloc => mem .alloc

/-- A context without its notes. -/
def forget (c : KdfCtx) : KdfCtx := { c with uses := [] }

@[simp] theorem forget_note {uses : List Use} : forget (c.note uses) = forget c := rfl

/-- A result with the context, the notes left out. -/
def WithCtx {α β : Type} (T : α → β → Prop) (r : α × KdfCtx) (r' : β × KdfCtx) : Prop :=
  T r.1 r'.1 ∧ r'.2 = forget r.2

/-- The same error, or results that are related. -/
def Both {α β : Type} (T : α → β → Prop) : Except CkRv α → Except CkRv β → Prop
  | .error ret, .error ret' => ret' = ret
  | .ok a, .ok b => T a b
  | _, _ => False

/-- The handle of a derived key. -/
def HandleOf (dkey : Derived) (handle : ObjectHandle) : Prop := handle = dkey.handle

/-! ## Keys -/

theorem kdfSession_interp (session : Option SessId) :
    Prog.interp (carryOut ctx) (kdfSession mechtype session) =
      P11Prov.kdfSession ctx mechtype session := by
  cases session with
  | none => exact Prog.interp_perform (TokenCall.getSession mechtype)
  | some s => rfl

theorem innerPkcs11Key_agree (secret : Bytes) (keyobj : Option ObjId) :
    Agree (env O) (fun r r' => r'.1 = r.1 ∧ r'.2.1 = r.2.1 ∧ r'.2.2 = forget r.2.2)
      (P11Prov.innerPkcs11Key ctx c mechtype secret.length keyobj)
      (Prog.interp (carryOut ctx) (innerPkcs11Key (forget c) mechtype secret keyobj)) := by
  rw [P11Prov.innerPkcs11Key, innerPkcs11Key, Prog.interp_bind, kdfSession_interp]
  refine .bind_same fun r => ?_
  cases r with
  | error ret => exact .pure ⟨rfl, rfl, rfl⟩
  | ok s =>
    simp only [Prog.interp_bind, Prog.interp_perform, carryOut, bind_assoc, pure_bind]
    refine .bind_same fun o => ?_
    cases o with
    | none => exact .pure ⟨rfl, rfl, rfl⟩
    | some o => exact .pure ⟨rfl, rfl, rfl⟩

theorem deriveSession_interp (key : ObjId) (session : Option SessId) :
    Prog.interp (carryOut ctx) (deriveSession key mechtype session) =
      P11Prov.deriveSession ctx key mechtype session := by
  cases session with
  | none => exact Prog.interp_perform (TokenCall.trySessionRef key mechtype)
  | some s => rfl

theorem deriveOn_agree {mechanism : HkdfMechanism} {handle : ObjectHandle}
    {template : DeriveTemplate} {session : Option SessId} {s : SessId} :
    Agree (env O) Eq (P11Prov.deriveOn ctx mechanism.mechanism handle session s)
      (Prog.interp (carryOut ctx) (deriveOn mechanism handle template session s)) := by
  simp only [P11Prov.deriveOn, deriveOn, Prog.interp_bind, Prog.interp_perform, carryOut, bind_assoc]
  refine .bind_same fun h => .bind_same ?_
  rintro ⟨ret, dkey⟩
  by_cases hret : ret = Ckr.ok
  · simp only [hret, ↓reduceIte]
    exact .refl _
  · simp only [hret, ↓reduceIte, pure_bind, Prog.interp_ite, Prog.interp_bind, Prog.interp_perform]
    exact .refl _

/-- A note of the slot of an object reads the object. -/
theorem Agree.note {α β : Type} {T : α → β → Prop} {o : ObjId} {f : Obj → P α} {q : P β}
    (h : ∀ x, Agree (env O) T (f x) q) : Agree (env O) T (mem (.loadObj o) >>= f) q :=
  .skip (fun _ => ⟨_, rfl⟩) (fun _ _ _ => rfl) h

theorem deriveKey_agree {mechanism : HkdfMechanism} {key : ObjId} {template : DeriveTemplate}
    {session : Option SessId} :
    Agree (env O) (fun r r' => r' = r.1) (deriveKeyNoted ctx key mechanism.mechanism session)
      (Prog.interp (carryOut ctx) (deriveKey key mechanism template session)) := by
  simp only [deriveKeyNoted, deriveKey, Prog.interp_bind, Prog.interp_perform, carryOut]
  refine .bind_same fun handle => ?_
  rw [Prog.interp_ite]
  refine .ite (fun _ => .pure rfl) fun _ => ?_
  rw [Prog.interp_bind, deriveSession_interp]
  refine .bind_same fun r => ?_
  cases r with
  | error ret => exact .pure rfl
  | ok s =>
    refine Agree.note fun obj => ?_
    exact deriveOn_agree.map_left fun r r' h => h.symm

theorem innerDeriveKey_agree {mechanism : HkdfMechanism} {key : ObjId} :
    Agree (env O) (WithCtx (Both HandleOf))
      (P11Prov.innerDeriveKey ctx c key mechanism.mechanism)
      (Prog.interp (carryOut ctx) (innerDeriveKey (forget c) key mechanism keyType keylen)) := by
  rw [P11Prov.innerDeriveKey, innerDeriveKey]
  by_cases h : mechanism.mechanism ≠ Ckm.hkdfDerive ∧ mechanism.mechanism ≠ Ckm.hkdfData
  · rw [if_pos h, if_neg h.1, if_neg h.2]
    exact .pure ⟨rfl, rfl⟩
  · rw [if_neg h]
    -- both mechanisms have a template
    obtain ⟨template, htemplate⟩ : ∃ template : DeriveTemplate,
        (if mechanism.mechanism = Ckm.hkdfDerive then some ⟨Cko.secretKey, keylen, some keyType⟩
        else if mechanism.mechanism = Ckm.hkdfData then some ⟨ckoData, keylen, none⟩
        else none) = some template := by
      by_cases h₁ : mechanism.mechanism = Ckm.hkdfDerive
      · exact ⟨_, if_pos h₁⟩
      · rw [if_neg h₁, if_pos (not_not.1 fun h₂ => h ⟨h₁, h₂⟩)]
        exact ⟨_, rfl⟩
    simp only [htemplate, Prog.interp_bind]
    refine deriveKey_agree.bind ?_
    rintro ⟨_, uses⟩ r rfl
    cases r with
    | error ret => exact .pure ⟨rfl, rfl⟩
    | ok d => exact .pure ⟨rfl, rfl⟩

theorem innerExtractKeyValue_agree {dkey : Derived} :
    Agree (env O) (fun r r' => r'.1 = r.1 ∧ forget r.2 = forget c)
      (P11Prov.innerExtractKeyValue c dkey keylen)
      (Prog.interp (carryOut ctx) (innerExtractKeyValue (forget c) dkey.handle keylen)) := by
  have hsession : (forget c).session = c.session := rfl
  simp only [P11Prov.innerExtractKeyValue, innerExtractKeyValue, hsession]
  cases c.session with
  | none => exact .pure ⟨rfl, rfl⟩
  | some s =>
    simp only [fetchValue, Prog.interp_bind, Prog.interp_perform, carryOut, bind_assoc, pure_bind]
    refine .bind_same fun h => .bind_same ?_
    rintro ⟨ret, a⟩
    by_cases hret : ret = Ckr.ok
    · simp only [hret, ↓reduceIte, ne_eq, not_true_eq_false]
      exact .pure ⟨ite_not .., rfl⟩
    · simp only [hret, ↓reduceIte, ne_eq, not_false_eq_true]
      exact .pure ⟨rfl, rfl⟩

/-! ## Derivation -/

theorem tls13ExpandLabel_agree {key : ObjId} {data : Option Bytes} {info : LabelBuffer} :
    Agree (env O) (WithCtx (Both HandleOf))
      (P11Prov.tls13ExpandLabel ctx c key data keylen mechtype)
      (Prog.interp (carryOut ctx)
        (tls13ExpandLabel (forget c) key data keylen mechtype keyType info)) := by
  rw [P11Prov.tls13ExpandLabel]
  by_cases h : c.labelOk data keylen
  · rw [if_pos h, tls13ExpandLabel_eq (show (forget c).labelOk data keylen from h)]
    exact @innerDeriveKey_agree _ _ _ _ _ ⟨mechtype, _⟩ key
  · have h' : (!(forget c).labelOk data keylen) = true :=
      show (!c.labelOk data keylen) = true by simpa using h
    rw [if_neg h, tls13ExpandLabel, if_pos h']
    exact .pure ⟨rfl, rfl⟩

/-- A code, with bytes that only one of the accounts has. -/
def CodeOf (r : CkRv × KdfCtx) (r' : CkRv × Bytes × KdfCtx) : Prop :=
  r'.1 = r.1 ∧ r'.2.2 = forget r.2

theorem tls13SaltOn_agree {ek : ObjId} {digest : Bytes} {info : LabelBuffer} :
    Agree (env O) CodeOf (P11Prov.tls13SaltOn ctx c ek digest hashlen)
      (Prog.interp (carryOut ctx) (tls13SaltOn (forget c) ek digest hashlen info)) := by
  rw [P11Prov.tls13SaltOn, tls13SaltOn, Prog.interp_bind]
  refine tls13ExpandLabel_agree.bind ?_
  rintro ⟨r, c₁⟩ ⟨r', _⟩ ⟨hr, rfl⟩
  simp only [Prog.interp_bind, Prog.interp_perform, carryOut]
  refine .bind_same fun _ => ?_
  match r, r', hr with
  | .error ret, .error _, rfl => exact .pure ⟨rfl, rfl⟩
  | .ok dkey, .ok _, rfl =>
    rw [Prog.interp_bind]
    refine innerExtractKeyValue_agree.map_right ?_
    rintro ⟨ret, c₂⟩ ⟨ret', saltbuf⟩ ⟨hret, hc⟩
    exact ⟨hret, hc.symm⟩

theorem tls13Salt_agree {info : LabelBuffer} :
    Agree (env O) CodeOf (P11Prov.tls13Salt ctx c hashlen)
      (Prog.interp (carryOut ctx) (tls13Salt (forget c) hashlen info)) := by
  have hsalt : (forget c).salt = c.salt := rfl
  have hhash : (forget c).hashMech = c.hashMech := rfl
  rw [P11Prov.tls13Salt, tls13Salt, hsalt, hhash]
  cases c.salt with
  | none => exact .pure ⟨rfl, rfl⟩
  | some salt =>
    cases digestGetName c.hashMech with
    | error ret => exact .pure ⟨rfl, rfl⟩
    | ok name =>
      simp only [Prog.interp_bind, Prog.interp_perform, carryOut]
      refine .bind_same fun r => ?_
      cases r with
      | error ret => exact .pure ⟨rfl, rfl⟩
      | ok digest =>
        rw [Prog.interp_bind]
        refine (innerPkcs11Key_agree salt none).bind ?_
        rintro ⟨ret, o, c₁⟩ ⟨ret', o', c'⟩ ⟨hret, ho, hc⟩
        obtain rfl : ret' = ret := hret
        obtain rfl : o' = o := ho
        obtain rfl : c' = forget c₁ := hc
        cases o' with
        | none => exact .pure ⟨rfl, rfl⟩
        | some ek => exact tls13SaltOn_agree

theorem tls13DeriveFrom_agree {keyobj : Option ObjId} {salt : Bytes} :
    Agree (env O) (WithCtx (Both HandleOf))
      (P11Prov.tls13DeriveFrom ctx c keyobj hashlen mechtype)
      (Prog.interp (carryOut ctx)
        (tls13DeriveFrom (forget c) keyobj salt hashlen keylen mechtype keyType)) := by
  unfold P11Prov.tls13DeriveFrom tls13DeriveFrom
  cases keyobj with
  | some key => exact @innerDeriveKey_agree _ _ _ _ _ ⟨mechtype, _⟩ key
  | none =>
    have hzeros := @innerPkcs11Key_agree O ctx c mechtype (List.replicate hashlen 0) none
    rw [List.length_replicate] at hzeros
    rw [Prog.interp_bind]
    refine hzeros.bind ?_
    rintro ⟨ret, o, c₁⟩ ⟨ret', o', c'⟩ ⟨hret, ho, hc⟩
    obtain rfl : ret' = ret := hret
    obtain rfl : o' = o := ho
    obtain rfl : c' = forget c₁ := hc
    cases o' with
    | none => exact .pure ⟨rfl, rfl⟩
    | some zerokey =>
      simp only [Prog.interp_bind, Prog.interp_perform, carryOut]
      refine (@innerDeriveKey_agree _ _ _ _ _ ⟨mechtype, _⟩ zerokey).bind ?_
      rintro ⟨r, c₂⟩ ⟨r', _⟩ ⟨hr, rfl⟩
      exact .bind_same fun _ => .pure ⟨hr, rfl⟩

theorem tls13DeriveSecret_agree {keyobj : Option ObjId} {info : LabelBuffer} :
    Agree (env O) (WithCtx (Both HandleOf))
      (P11Prov.tls13DeriveSecret ctx c keyobj mechtype)
      (Prog.interp (carryOut ctx)
        (tls13DeriveSecret (forget c) keyobj keylen mechtype keyType info)) := by
  have hhash : (forget c).hashMech = c.hashMech := rfl
  rw [P11Prov.tls13DeriveSecret, tls13DeriveSecret, hhash]
  cases digestGetDigestSize c.hashMech with
  | error ret => exact .pure ⟨rfl, rfl⟩
  | ok hashlen =>
    rw [Prog.interp_bind]
    refine tls13Salt_agree.bind ?_
    rintro ⟨ret, c₁⟩ ⟨ret', salt, c'⟩ ⟨hret, hc⟩
    obtain rfl : ret' = ret := hret
    obtain rfl : c' = forget c₁ := hc
    rw [Prog.interp_ite]
    exact .ite (fun _ => .pure ⟨rfl, rfl⟩) fun _ => tls13DeriveFrom_agree

theorem tls13DeriveBy_agree {info : LabelBuffer} :
    Agree (env O) (WithCtx (Both HandleOf)) (P11Prov.tls13DeriveBy ctx c keylen Ckm.hkdfData)
      (Prog.interp (carryOut ctx) (tls13DeriveBy (forget c) keylen info)) := by
  have hmode : (forget c).mode = c.mode := rfl
  have hkey : (forget c).key = c.key := rfl
  have hdata : (forget c).data = c.data := rfl
  rw [P11Prov.tls13DeriveBy, tls13DeriveBy, hmode, hkey, hdata, Prog.interp_ite]
  refine .ite (fun _ => ?_) fun _ => ?_
  · cases c.key with
    | none => exact .pure ⟨rfl, rfl⟩
    | some key => exact tls13ExpandLabel_agree
  · rw [Prog.interp_ite]
    exact .ite (fun _ => tls13DeriveSecret_agree) fun _ => .pure ⟨rfl, rfl⟩

/-! ## Parameters -/

variable {params : List OsslParam}

theorem objFree?_interp (key : Option ObjId) :
    Prog.interp (carryOut ctx) (objFree? key) = P11Prov.objFree? ctx key := by
  cases key with
  | none => rfl
  | some o => exact Prog.interp_perform (TokenCall.objFree o)

theorem setKey_agree : Agree (env O) (WithCtx Eq) (P11Prov.setKey ctx c params)
    (Prog.interp (carryOut ctx) (setKey (forget c) params)) := by
  have hkey : (forget c).key = c.key := rfl
  rw [P11Prov.setKey, setKey, hkey]
  cases locate params (ascii "key") with
  | none => exact .pure ⟨rfl, rfl⟩
  | some p =>
    cases hp : p.getOctetString with
    | none =>
      simp only [hp]
      exact .pure ⟨rfl, rfl⟩
    | some secret =>
      simp only [hp, Prog.interp_bind, objFree?_interp]
      refine .bind_same fun _ => (innerPkcs11Key_agree secret c.key).bind ?_
      rintro ⟨ret, o, c₁⟩ ⟨ret', o', c'⟩ ⟨hret, ho, hc⟩
      obtain rfl : ret' = ret := hret
      obtain rfl : o' = o := ho
      obtain rfl : c' = forget c₁ := hc
      exact .pure ⟨rfl, rfl⟩

theorem infosAccepted_interp : Prog.interp (carryOut ctx) (infosAccepted params) =
    P11Prov.infosAccepted params := by
  have halloc : Prog.interp (carryOut ctx) (ask .alloc) = mem .alloc :=
    Prog.interp_perform TokenCall.alloc
  have hfold : ∀ (infos : List OsslData) (ok : Bool), Prog.interp (carryOut ctx)
      (infos.foldlM (fun ok p => if ok && p.hasData then ask .alloc else pure false) ok) =
        infos.foldlM (fun ok p => if ok && p.hasData then mem .alloc else pure false) ok := by
    intro infos
    induction infos with
    | nil => exact fun _ => rfl
    | cons p infos ih =>
      intro ok
      simp only [List.foldlM_cons, Prog.interp_bind, Prog.interp_ite, halloc, Prog.interp_pure, ih]
  rw [infosAccepted, P11Prov.infosAccepted]
  cases (params.filter (·.key = ascii "info")).map (·.data) with
  | nil => rfl
  | cons p infos =>
    simp only [Prog.interp_ite, Prog.interp_bind, Prog.interp_pure, halloc, hfold]

theorem digestMode_forget : setAll params [hashSetter, modeSetter] (forget c) =
    ((setAll params [hashSetter, modeSetter] c).1,
      forget (setAll params [hashSetter, modeSetter] c).2) := by
  refine setAll_comm (fun s hs c p => ?_) c
  simp only [List.mem_cons, List.not_mem_nil, or_false] at hs
  rcases hs with rfl | rfl
  · simp only [hashSetter]
    repeat' split
    all_goals rfl
  · simp only [modeSetter]
    repeat' split
    all_goals rfl

theorem setRest_agree : Agree (env O) (WithCtx Eq) (P11Prov.setRest c params)
    (Prog.interp (carryOut ctx) (setRest (forget c) params)) := by
  have halg : (forget c).isTls13Kdf = c.isTls13Kdf := rfl
  have hmode : (forget c).mode = c.mode := rfl
  simp only [P11Prov.setRest, setRest, halg, hmode, Prog.interp_ite]
  refine .ite (fun _ => .ite (fun _ => .pure ⟨rfl, rfl⟩) fun _ => ?_) fun _ => ?_
  · rw [setRest_comm (fun _ _ => rfl) (fun _ _ => rfl) fun _ _ => rfl]
    exact .pure ⟨rfl, rfl⟩
  · rw [Prog.interp_bind, infosAccepted_interp]
    exact .bind_same fun _ => .pure ⟨rfl, rfl⟩

theorem hkdfSetCtxParams_agree {params : Option (List OsslParam)} :
    Agree (env O) (WithCtx Eq) (P11Prov.hkdfSetCtxParams ctx c params)
      (Prog.interp (carryOut ctx) (hkdfSetCtxParams (forget c) params)) := by
  cases params with
  | none => exact .pure ⟨rfl, rfl⟩
  | some params =>
    simp only [P11Prov.hkdfSetCtxParams, hkdfSetCtxParams, digestMode_forget, Prog.interp_ite,
      Prog.interp_bind]
    refine .ite (fun _ => .pure ⟨rfl, rfl⟩) fun _ => setKey_agree.bind ?_
    rintro ⟨ret, c₁⟩ ⟨ret', c'⟩ ⟨hret, hc⟩
    obtain rfl : ret' = ret := hret.symm
    obtain rfl : c' = forget c₁ := hc
    rw [saltSetter_comm fun _ _ => rfl]
    exact .ite (fun _ => .pure ⟨rfl, rfl⟩) fun _ => .ite (fun _ => .pure ⟨rfl, rfl⟩) fun _ =>
      setRest_agree

/-! ## Whole calls -/

/-- What a derivation returns, with bytes that only one of the accounts has. -/
def DerivedOf (r : Nat × KdfCtx) (r' : Nat × Bytes × KdfCtx) : Prop :=
  r'.1 = r.1 ∧ r'.2.2 = forget r.2

/-- The end of a derivation: the value is read back. -/
theorem deriveEnd_agree {dkey : Derived} : Agree (env O) DerivedOf (do
      let (ret, c) ← P11Prov.innerExtractKeyValue c dkey keylen
      return (if ret = Ckr.ok then retOsslOk else retOsslErr, c))
    (Prog.interp (carryOut ctx) (do
      let (ret, key) ← innerExtractKeyValue (forget c) dkey.handle keylen
      return (if ret = Ckr.ok then retOsslOk else retOsslErr, key, forget c))) := by
  rw [Prog.interp_bind]
  refine innerExtractKeyValue_agree.bind ?_
  rintro ⟨ret, c₁⟩ ⟨ret', key⟩ ⟨hret, hc⟩
  obtain rfl : ret' = ret := hret
  exact .pure ⟨rfl, hc.symm⟩

/-- A TLS 1.3 derivation returns the same code and context in both accounts, and the same calls
    are made. -/
theorem tls13KdfDerive_agree {hasBuffer : Bool} {params : Option (List OsslParam)}
    {info : LabelBuffer} :
    Agree (env O) DerivedOf (P11Prov.tls13KdfDerive ctx c hasBuffer keylen params)
      (Prog.interp (carryOut ctx) (tls13KdfDerive (forget c) hasBuffer keylen params info)) := by
  rw [P11Prov.tls13KdfDerive, tls13KdfDerive, Prog.interp_bind]
  refine hkdfSetCtxParams_agree.bind ?_
  rintro ⟨ret, c₁⟩ ⟨ret', c'⟩ ⟨hret, hc⟩
  obtain rfl : ret' = ret := hret.symm
  obtain rfl : c' = forget c₁ := hc
  by_cases hret : ret' = retOsslOk
  swap
  · simp only [hret, ne_eq, not_false_eq_true, true_or, ↓reduceIte]
    exact .pure ⟨rfl, rfl⟩
  simp only [hret, ne_eq, not_true_eq_false, false_or, ↓reduceIte, tls13KdfDeriveOn,
    Prog.interp_ite]
  refine .ite (fun _ => .pure ⟨rfl, rfl⟩) fun _ => ?_
  rw [Prog.interp_bind]
  refine tls13DeriveBy_agree.bind ?_
  rintro ⟨r, c₂⟩ ⟨r', c'⟩ ⟨hr, hc⟩
  obtain rfl : c' = forget c₂ := hc
  match r, r', hr with
  | .error ret, .error _, rfl => exact .pure ⟨rfl, rfl⟩
  | .ok dkey, .ok _, rfl => exact deriveEnd_agree

/-- The same for HKDF. The salt type and the info that a context has besides are parts of the
    mechanism. -/
theorem hkdfDeriveOn_agree {hasBuffer : Bool} {s : KdfState} (hs : s.toKdfCtx = forget c) :
    Agree (env O) DerivedOf (P11Prov.hkdfDeriveOn ctx c hasBuffer keylen)
      (Prog.interp (carryOut ctx) (hkdfDeriveOn s hasBuffer keylen)) := by
  have hkey : s.key = c.key := by
    rw [hs]
    rfl
  have hhash : s.hashMech = c.hashMech := by
    rw [hs]
    rfl
  rw [P11Prov.hkdfDeriveOn, hkdfDeriveOn, hkey, hs]
  cases c.key with
  | none => exact .pure ⟨rfl, rfl⟩
  | some key =>
    simp only [Prog.interp_ite]
    by_cases hbuf : !hasBuffer ∨ keylen = 0
    · rw [if_pos hbuf, if_pos (by tauto)]
      exact .pure ⟨rfl, rfl⟩
    rw [if_neg hbuf, KdfState.formatParams, hkdfFormatParams, hhash]
    by_cases hmech : c.hashMech = 0
    · have hbad : Ckr.argumentsBad ≠ Ckr.ok := by decide
      simp only [hmech, ↓reduceIte, hbad, ne_eq, not_false_eq_true, or_true]
      exact .pure ⟨rfl, rfl⟩
    · simp only [hmech, ↓reduceIte, ne_eq, not_true_eq_false, or_false]
      rw [if_neg hbuf, Prog.interp_bind]
      refine (@innerDeriveKey_agree _ _ _ _ _ ⟨Ckm.hkdfData, _⟩ key).bind ?_
      rintro ⟨r, c₂⟩ ⟨r', c'⟩ ⟨hr, hc⟩
      obtain rfl : c' = forget c₂ := hc
      match r, r', hr with
      | .error ret, .error _, rfl => exact .pure ⟨rfl, rfl⟩
      | .ok dkey, .ok _, rfl => exact deriveEnd_agree

/-! ## Given answers -/

variable {a : SetAnswers} {s : KdfState} {st : State}

/-- Parameters are taken with a code, and leave the members of a context. -/
def Ends (out : SetOut) (ret : Nat) (c : KdfCtx) : Prop := out.ret = ret ∧ out.state.toKdfCtx = c

theorem Ends.refused {p : KdfParam} {ps : List KdfParam} {r : Nat × KdfState}
    (hr : s.setParam params a p = r) (h : r.1 ≠ retOsslOk) :
    Ends (setParams params a (p :: ps) s) r.1 r.2.toKdfCtx := by
  rw [setParams, hr]
  simp only [if_pos h]
  exact ⟨rfl, rfl⟩

theorem Ends.taken {p : KdfParam} {ps : List KdfParam} {r : Nat × KdfState} {ret : Nat}
    (hr : s.setParam params a p = r) (h : r.1 = retOsslOk) (hps : Ends (setParams params a ps r.2) ret c) :
    Ends (setParams params a (p :: ps) s) ret c := by
  subst hr
  obtain ⟨hret, hstate⟩ := @setParams_taken s params a p ps h
  exact ⟨hret.trans hps.1, (congrArg _ hstate).trans hps.2⟩

/-- Parameters that are kept in members of their own, before others. -/
theorem Ends.setAll {l : List (KdfParam × Setter KdfCtx)}
    (h : ∀ x ∈ l, ∀ s : KdfState, s.setParam params a x.1 = s.take params x.2)
    {rest : List KdfParam} {ret : Nat} {r : Nat × KdfCtx}
    (hr : P11Prov.setAll params (l.map (·.2)) s.toKdfCtx = r) (hrefused : r.1 ≠ retOsslOk → (ret, c) = r)
    (htaken : r.1 = retOsslOk → Ends (setParams params a rest { s with toKdfCtx := r.2 }) ret c) :
    Ends (setParams params a (l.map (·.1) ++ rest) s) ret c := by
  induction l generalizing s with
  | nil =>
    subst hr
    exact htaken rfl
  | cons x l ih =>
    have hx : s.setParam params a x.1 = s.take params x.2 := h x List.mem_cons_self s
    rw [List.map_cons, P11Prov.setAll] at hr
    by_cases hok : (x.2.run params s.toKdfCtx).1 = retOsslOk
    · simp only [hok, ne_eq, not_true_eq_false, ↓reduceIte] at hr
      exact .taken hx hok (ih (fun y hy => h y (List.mem_cons_of_mem _ hy)) hr htaken)
    · simp only [ne_eq, hok, not_false_eq_true, ↓reduceIte] at hr
      subst hr
      obtain ⟨rfl, rfl⟩ := Prod.mk.inj (hrefused hok)
      exact .refused hx hok

theorem hasData_iff {p : OsslData} : p.hasData = true ↔ (rawData p).getD [] ≠ [] := by
  have hbytes : ∀ v, (Encoding.BigEndian.bytes 8 v).reverse ≠ [] := by
    intro v h
    have hlen := congrArg List.length h
    simp at hlen
  cases p with
  | utf8String s | utf8Ptr s | octetString s => cases s <;> simp [OsslData.hasData, rawData]
  | integer v => simpa [OsslData.hasData, rawData] using hbytes _
  | unsignedInteger v => simpa [OsslData.hasData, rawData] using hbytes _

/-- All parameters `info` have data when they are accepted, and there are some when they are
    not. -/
theorem infosAccepted_answered : wp (env O) (P11Prov.infosAccepted params) (fun ok _ =>
    ∀ infos, (params.filter (·.key = ascii "info")).map (·.data) = infos →
      if ok then ∀ p ∈ infos, p.hasData else infos ≠ []) st := by
  rw [P11Prov.infosAccepted]
  cases hinfos : (params.filter (·.key = ascii "info")).map (·.data) with
  | nil =>
    rintro infos rfl
    simp
  | cons p infos =>
    simp only
    split
    · rintro _ rfl
      simp
    · rename_i hp
      refine wp.bind wp_true fun ok st₁ _ => ?_
      -- once refused, always refused
      have hfold : ∀ (infos : List OsslData) (ok : Bool) (st : State), wp (env O)
          (infos.foldlM (fun ok p => if ok && p.hasData then mem .alloc else pure false) ok)
          (fun ok' _ => ok' = true → ok = true ∧ ∀ p ∈ infos, p.hasData) st := by
        intro infos
        induction infos with
        | nil => exact fun ok st h => ⟨h, by simp⟩
        | cons q infos ih =>
          intro ok st
          rw [List.foldlM_cons]
          split
          · rename_i hq
            refine wp.bind wp_true fun ok₁ st₁ _ => wp_mono (ih ok₁ st₁) fun ok' _ h hok' => ?_
            simp only [Bool.and_eq_true] at hq
            exact ⟨hq.1, List.forall_mem_cons.2 ⟨hq.2, (h hok').2⟩⟩
          · exact wp_mono (ih false st) fun ok' _ h hok' => absurd (h hok').1 (by decide)
      refine wp_mono (hfold infos ok st₁) ?_
      rintro ok' _ h _ rfl
      split
      · rename_i hok'
        exact List.forall_mem_cons.2 ⟨by simpa using hp, (h hok').2⟩
      · simp

section

variable {p : OsslData} {secret : Bytes} {session : Option SessId} {created : Option ObjId}
  {infos : Nat}

theorem setKey_noSession (hlocate : locate params (ascii "key") = some p)
    (hp : p.getOctetString = some secret) (h : s.session.or session = none) :
    s.setKey params ⟨session, created, infos⟩ =
      (retOsslErr, { s with dangling := s.key.isSome }) := by
  simp only [KdfState.setKey, hlocate, hp, h]

theorem setKey_noKey {s' : SessId} (hlocate : locate params (ascii "key") = some p)
    (hp : p.getOctetString = some secret) (h : s.session.or session = some s') :
    s.setKey params ⟨session, none, infos⟩ =
      (retOsslErr, { s with key := none, session := some s', dangling := false }) := by
  simp only [KdfState.setKey, hlocate, hp, h]

theorem setKey_created {s' : SessId} {o : ObjId} (hlocate : locate params (ascii "key") = some p)
    (hp : p.getOctetString = some secret) (h : s.session.or session = some s') :
    s.setKey params ⟨session, some o, infos⟩ =
      (retOsslOk, { s with key := some o, session := some s', dangling := false }) := by
  simp only [KdfState.setKey, hlocate, hp, h]

end

/-- The parameter of the key, with what it got. -/
theorem setKey_answered (hs : s.toKdfCtx = forget c) : wp (env O) (P11Prov.setKey ctx c params)
    (fun r _ => ∃ session created, ∀ infos, (s.setKey params ⟨session, created, infos⟩).1 = r.1 ∧
      (s.setKey params ⟨session, created, infos⟩).2.toKdfCtx = forget r.2) st := by
  have hsession : s.session = c.session := by
    rw [hs]
    rfl
  rw [P11Prov.setKey]
  cases hlocate : locate params (ascii "key") with
  | none =>
    refine ⟨none, none, fun infos => ?_⟩
    simp only [KdfState.setKey, hlocate]
    exact ⟨trivial, hs⟩
  | some p =>
    cases hp : p.getOctetString with
    | none =>
      simp only [hp]
      refine ⟨none, none, fun infos => ?_⟩
      simp only [KdfState.setKey, hlocate, hp]
      exact ⟨trivial, hs⟩
    | some secret =>
      simp only [hp]
      have hkdf : ∀ st, wp (env O) (P11Prov.kdfSession ctx Ckm.hkdfDerive c.session)
          (fun r _ => Coded r ∧ ∃ session, c.session.or session = r.toOption) st := by
        intro st
        cases c.session with
        | some s => exact ⟨coded_ok s, none, rfl⟩
        | none => exact wp_mono (getSession_coded.wp wp_true) fun r _ h => ⟨h.1, r.toOption, rfl⟩
      refine wp.bind wp_true fun _ st₁ _ => ?_
      rw [P11Prov.innerPkcs11Key]
      refine wp_bind.2 (wp.bind (hkdf st₁) ?_)
      rintro r st₂ ⟨hcoded, session, hr⟩
      rw [← hsession] at hr
      cases r with
      | error ret =>
        refine ⟨session, none, fun infos => ?_⟩
        rw [setKey_noSession hlocate hp hr, if_neg (hcoded ret rfl)]
        exact ⟨rfl, hs⟩
      | ok s' =>
        refine wp.bind wp_true fun o st₃ _ => ?_
        cases o with
        | none =>
          refine ⟨session, none, fun infos => ?_⟩
          rw [setKey_noKey hlocate hp hr]
          exact ⟨rfl, congrArg (fun c : KdfCtx => { c with key := none, session := some s' }) hs⟩
        | some o =>
          refine ⟨session, some o, fun infos => ?_⟩
          rw [setKey_created hlocate hp hr]
          exact ⟨rfl, congrArg (fun c : KdfCtx => { c with key := some o, session := some s' }) hs⟩

/-- The parameters of a TLS 1.3 context after the salt, which take no memory. -/
theorem setRest_tls (hs : s.toKdfCtx = forget c) (htls : c.isTls13Kdf) :
    ∃ r, P11Prov.setRest c params = pure r ∧ ∀ a,
      Ends (setParams params a [.info, .prefixData, .label, .data] s) r.1 (forget r.2) := by
  have halg : s.isTls13Kdf = c.isTls13Kdf := by
    rw [hs]
    rfl
  have hmode : s.mode = c.mode := by
    rw [hs]
    rfl
  rw [P11Prov.setRest, if_pos htls]
  by_cases hee : c.mode = modeExtractAndExpand
  · rw [if_pos hee]
    refine ⟨_, rfl, fun a => ?_⟩
    have hinfo : s.setParam params a .info = (retOsslErr, s) := by
      rw [KdfState.setParam, KdfState.setInfo, if_pos (halg.trans htls), if_pos (hmode.trans hee)]
    exact hs ▸ .refused hinfo (show retOsslErr ≠ retOsslOk by decide)
  · rw [if_neg hee]
    refine ⟨_, rfl, fun a => ?_⟩
    have hinfo : s.setParam params a .info = (retOsslOk, { s with info := none }) := by
      rw [KdfState.setParam, KdfState.setInfo, if_pos (halg.trans htls), if_neg (by rwa [hmode])]
    have hset := @setRest_comm params forget (fun _ _ => rfl) (fun _ _ => rfl) (fun _ _ => rfl) c
    refine .taken hinfo rfl ?_
    refine @Ends.setAll _ params _ { s with info := none } [(.prefixData, prefixSetter),
      (.label, labelSetter), (.data, dataSetter)] ?_ [] _ _ (hs ▸ hset) (fun _ => rfl) fun hok => ?_
    · intro x hx s
      simp only [List.mem_cons, List.not_mem_nil, or_false] at hx
      rcases hx with rfl | rfl | rfl
      · rfl
      · rfl
      · rfl
    · exact ⟨hok.symm, rfl⟩

/-- The parameters `info` of HKDF are taken as far as there is memory for them. -/
theorem addInfos_answered (hs : s.toKdfCtx = forget c) (htls : ¬s.isTls13Kdf) {ok : Bool}
    {ps : List OsslData} (hinfos : (params.filter (·.key = ascii "info")).map (·.data) = ps)
    (hok : if ok then ∀ p ∈ ps, p.hasData else ps ≠ []) :
    ∃ infos, ∀ session created, Ends (setParams params ⟨session, created, infos⟩ [.info] s)
      (if ok then retOsslOk else retOsslErr) (forget c) := by
  cases ps with
  | nil =>
    have htrue : ok = true := by
      by_contra hno
      rw [if_neg hno] at hok
      exact hok rfl
    refine ⟨0, fun session created => ?_⟩
    have hinfo : s.setParam params ⟨session, created, 0⟩ .info = (retOsslOk, s) := by
      rw [KdfState.setParam, KdfState.setInfo, if_neg htls, hinfos]
    rw [if_pos htrue]
    exact .taken hinfo rfl ⟨rfl, hs⟩
  | cons p ps =>
    have hset : ∀ n session created, s.setParam params ⟨session, created, n⟩ .info =
        KdfState.addInfos n (p :: ps) { s with info := none } := by
      intro n session created
      rw [KdfState.setParam, KdfState.setInfo, if_neg htls, hinfos]
    have hctx : ∀ n, (KdfState.addInfos n (p :: ps) { s with info := none }).2.toKdfCtx =
        forget c := by
      intro n
      obtain ⟨info, hinfo⟩ := addInfos_eq n (p :: ps) { s with info := none }
      rw [hinfo]
      exact hs
    cases ok with
    | true =>
      refine ⟨(p :: ps).length, fun session created => ?_⟩
      have hall : ∀ q ∈ p :: ps, (rawData q).getD [] ≠ [] := fun q hq => hasData_iff.1 (hok q hq)
      exact .taken (hset _ session created) (addInfos_ok _ _ le_rfl hall _) ⟨rfl, hctx _⟩
    | false =>
      -- no memory for the first one
      refine ⟨0, fun session created => ?_⟩
      have hret : (KdfState.addInfos 0 (p :: ps) { s with info := none }).1 = retOsslErr := by
        rw [KdfState.addInfos]
        split
        · rfl
        · rfl
      have hend := @Ends.refused _ _ _ _ [] _ (hset 0 session created) (by rw [hret]; decide)
      rw [hret, hctx] at hend
      exact hend

/-- The parameters after the salt, with the memory there was. -/
theorem setRest_answered (hs : s.toKdfCtx = forget c) : wp (env O) (P11Prov.setRest c params)
    (fun r _ => ∃ infos, ∀ session created, Ends (setParams params ⟨session, created, infos⟩
      (.info :: if s.isTls13Kdf then [.prefixData, .label, .data] else []) s) r.1 (forget r.2)) st := by
  have halg : s.isTls13Kdf = c.isTls13Kdf := by
    rw [hs]
    rfl
  by_cases htls : c.isTls13Kdf
  · obtain ⟨r, hr, hend⟩ := @setRest_tls c params s hs htls
    rw [hr, if_pos (halg.trans htls)]
    exact ⟨0, fun session created => hend _⟩
  · have htls' : ¬s.isTls13Kdf := by rwa [halg]
    rw [P11Prov.setRest, if_neg htls, if_neg htls']
    refine wp.bind infosAccepted_answered fun ok st₁ hok => ?_
    exact addInfos_answered hs htls' rfl (hok _ rfl)

theorem digestMode_alg (c : KdfCtx) :
    (setAll params [hashSetter, modeSetter] c).2.isTls13Kdf = c.isTls13Kdf := by
  refine setAll_keeps (I := fun c' : KdfCtx => c'.isTls13Kdf = c.isTls13Kdf) (fun s hs c' p hc => ?_) rfl
  simp only [List.mem_cons, List.not_mem_nil, or_false] at hs
  rcases hs with rfl | rfl
  · simp only [hashSetter]
    repeat' split
    all_goals exact hc
  · simp only [modeSetter]
    repeat' split
    all_goals exact hc

/-- The digest and the mode are taken first. -/
theorem Ends.digestMode (hs : s.toKdfCtx = forget c) {rest : List KdfParam} {ret ret₁ : Nat}
    {c' c₁ : KdfCtx} (hr : P11Prov.setAll params [hashSetter, modeSetter] c = (ret₁, c₁))
    (hrefused : ret₁ ≠ retOsslOk → ret = ret₁ ∧ c' = forget c₁)
    (htaken : ret₁ = retOsslOk →
      Ends (setParams params a rest { s with toKdfCtx := forget c₁ }) ret c') :
    Ends (setParams params a (.digest :: .mode :: rest) s) ret c' := by
  have hset := @digestMode_forget c params
  rw [← hs, hr] at hset
  refine @Ends.setAll c' params a s [(.digest, hashSetter), (.mode, modeSetter)] ?_ rest ret _
    hset (fun hne => ?_) htaken
  · intro x hx s
    simp only [List.mem_cons, List.not_mem_nil, or_false] at hx
    rcases hx with rfl | rfl
    · rfl
    · rfl
  · obtain ⟨rfl, rfl⟩ := hrefused hne
    rfl

theorem setSalt_eq (hs : s.toKdfCtx = forget c) : (s.setSalt params).1 = (saltSetter.run params c).1 ∧
    (s.setSalt params).2.toKdfCtx = forget (saltSetter.run params c).2 := by
  have hrun := @saltSetter_comm params forget (fun _ _ => rfl) c
  rw [← hs] at hrun
  rw [KdfState.setSalt]
  simp only [KdfState.take, hrun]
  split
  · exact ⟨rfl, rfl⟩
  · exact ⟨rfl, rfl⟩

/-- Whatever happens to the sessions and objects, `p11prov_hkdf_set_ctx_params` ends as the third
    account has it for some answers. -/
theorem setCtxParams_answered {params : Option (List OsslParam)} (hs : s.toKdfCtx = forget c) :
    wp (env O) (P11Prov.hkdfSetCtxParams ctx c params)
      (fun r _ => ∃ a, Ends (s.setCtxParams a params) r.1 (forget r.2)) st := by
  cases params with
  | none => exact ⟨⟨none, none, 0⟩, rfl, hs⟩
  | some params =>
    have halg := @digestMode_alg params c
    rw [P11Prov.hkdfSetCtxParams]
    rcases hr₁ : setAll params [hashSetter, modeSetter] c with ⟨ret₁, c₁⟩
    rw [hr₁] at halg
    simp only
    split
    · rename_i hne
      exact ⟨⟨none, none, 0⟩, .digestMode hs hr₁ (fun _ => ⟨rfl, rfl⟩) fun hok => absurd hok hne⟩
    rename_i hok₁
    have hkeyOut := @setKey_answered O ctx c₁ params { s with toKdfCtx := forget c₁ } st rfl
    refine wp.bind hkeyOut ?_
    rintro ⟨ret₂, c₂⟩ st₂ ⟨session, created, hkey⟩
    have hdigest : ∀ {infos ret c'}, Ends (setParams params ⟨session, created, infos⟩
          (.key :: restParams s.isTls13Kdf) { s with toKdfCtx := forget c₁ }) ret c' →
        Ends (s.setCtxParams ⟨session, created, infos⟩ (some params)) ret c' := fun h =>
      .digestMode hs hr₁ (fun hne => absurd hok₁ (not_not.2 hne)) fun _ => h
    obtain ⟨hret, hctx⟩ := hkey 0
    simp only
    split
    · rename_i hne
      have hend := @Ends.refused params ⟨session, created, 0⟩ { s with toKdfCtx := forget c₁ } .key
        (restParams s.isTls13Kdf) _ rfl (hret ▸ hne)
      exact ⟨⟨session, created, 0⟩, hdigest (hret ▸ hctx ▸ hend)⟩
    rename_i hok₂
    -- the memory there is for `info` does not matter to the key
    generalize hs₂ : (KdfState.setKey { s with toKdfCtx := forget c₁ } params
      ⟨session, created, 0⟩) = r₂ at hret hctx
    have hkeyOk : r₂.1 = retOsslOk := hret.trans (not_not.1 hok₂)
    have halg₂ : r₂.2.isTls13Kdf = s.isTls13Kdf := by
      have hkeyAlg := (setParam_only { s with toKdfCtx := forget c₁ } params
        ⟨session, created, 0⟩ .key).alg
      rw [KdfState.setParam, hs₂] at hkeyAlg
      rw [hkeyAlg, hs]
      exact halg
    obtain ⟨hsalt, hsaltCtx⟩ := @setSalt_eq c₂ params r₂.2 hctx
    split
    · rename_i hne
      have hend := @Ends.refused params ⟨session, created, 0⟩ r₂.2 .salt
        (.info :: if s.isTls13Kdf then [.prefixData, .label, .data] else []) _ rfl (hsalt ▸ hne)
      exact ⟨⟨session, created, 0⟩, hdigest (.taken hs₂ hkeyOk (hsalt ▸ hsaltCtx ▸ hend))⟩
    rename_i hok₃
    have halg₃ : (r₂.2.setSalt params).2.isTls13Kdf = s.isTls13Kdf :=
      (setParam_only r₂.2 params ⟨none, none, 0⟩ .salt).alg.trans halg₂
    refine wp_mono (setRest_answered hsaltCtx) fun r _ hr => ?_
    obtain ⟨infos, hend⟩ := hr
    rw [halg₃] at hend
    exact ⟨⟨session, created, infos⟩, hdigest
      (.taken hs₂ hkeyOk (.taken rfl (hsalt.trans (not_not.1 hok₃)) (hend session created)))⟩

end P11Prov.KeySchedule
