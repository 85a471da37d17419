import P11Prov.KeySchedule

/-!
# What a step of the key schedule computes

The label that `p11prov_tls13_expand_label` writes is the one of RFC 8446 and
stays inside of its buffer (`writeLabel_written`). With it, a derivation of the
TLS 1.3 KDF that succeeds returns what the key schedule says
(`tls13_keySchedule`), as long as it uses the key on the slot that it is on.
-/

namespace P11Prov.KeySchedule

open Interaction
open Hkdf (Label)

/-! ## Labels -/

section Label

variable {info bs w : Bytes} {i n : Nat}

/-- The buffer has `n` bytes, and those up to the index are `w`. -/
structure Written (n : Nat) (info : Bytes) (i : Nat) (w : Bytes) : Prop where
  size : info.length = n
  index : w.length = i
  fits : i ≤ n
  bytes : info.take i = w

/-- Writing at the index adds to what is written. -/
theorem Written.writeAt (h : Written n info i w) (bs : Bytes) {j : Nat} (hj : i + bs.length = j)
    (hfit : j ≤ n) : Written n (writeAt info i bs).val j (w ++ bs) := by
  subst hj
  have htake : (info.take i ++ bs).length = i + bs.length := by
    rw [List.length_append, h.bytes, h.index]
  refine ⟨?_, by rw [List.length_append, h.index], hfit, ?_⟩
  · have hsize := h.size
    simp only [KeySchedule.writeAt, List.length_append, List.length_take, List.length_drop]
    omega
  · simp only [KeySchedule.writeAt]
    rw [← htake, List.take_left, h.bytes]

/-- Every write stays inside of the buffer. -/
abbrev WritesIn {α : Type} (n : Nat) (x : Traced Write α) : Prop :=
  x.All fun e => e.start + e.length ≤ n

theorem writeAt_in (h : i + bs.length ≤ n) : WritesIn n (writeAt info i bs) := by
  intro e he
  obtain rfl := List.mem_singleton.1 he
  exact h

variable {p l d : Bytes} {keylen : Nat}

/-- The label of a prefix, a label and context data. -/
def tls13Label (p l d : Bytes) (keylen : Nat) : Label := ⟨keylen, p ++ l, d⟩

/-- The label ends up at the start of the buffer, and no write leaves the buffer. -/
theorem writeLabel_written (keylen : Nat) (hsize : info.length = n) (hfit : labelInfoLen p l d ≤ n) :
    WritesIn n (writeLabel info p l d keylen) ∧
      Written n (writeLabel info p l d keylen).val.1 (writeLabel info p l d keylen).val.2
        (tls13Label p l d keylen).encode ∧
      (writeLabel info p l d keylen).val.2 = labelInfoLen p l d := by
  have hlen : (Encoding.BigEndian.bytes 2 keylen).length = 2 := Encoding.BigEndian.length_bytes
  unfold labelInfoLen at hfit
  have h₀ : Written n info 0 [] := ⟨hsize, rfl, Nat.zero_le n, rfl⟩
  have h₁ := h₀.writeAt _ (j := 0 + 2) (by rw [hlen]) (by omega)
  have h₂ := h₁.writeAt [(p.length + l.length).toUInt8] rfl (by simp; omega)
  have h₃ := h₂.writeAt p rfl (by simp; omega)
  have h₄ := h₃.writeAt l rfl (by simp; omega)
  have h₅ := h₄.writeAt [d.length.toUInt8] rfl (by simp; omega)
  have h₆ := h₅.writeAt d rfl (by simp; omega)
  have hencode : (tls13Label p l d keylen).encode = [] ++ Encoding.BigEndian.bytes 2 keylen ++
      [(p.length + l.length).toUInt8] ++ p ++ l ++ [d.length.toUInt8] ++ d := by
    simp [tls13Label, Label.encode, Hkdf.vector]
  have hi : 0 + 2 + 1 + p.length + l.length + 1 + d.length = labelInfoLen p l d := by
    unfold labelInfoLen
    omega
  refine ⟨?_, ?_⟩
  · simp only [writeLabel, Traced.All.bind_iff]
    refine ⟨writeAt_in (by omega), writeAt_in (by simp; omega), writeAt_in (by omega),
      writeAt_in (by omega), writeAt_in (by simp; omega), ?_⟩
    split
    · exact .bind (writeAt_in (by omega)) .pure
    · exact .pure
  · simp only [writeLabel, Traced.val_bind, Traced.val_ite, Traced.val_pure]
    by_cases hd : 0 < d.length
    · simp only [hd, if_true]
      exact ⟨hencode ▸ h₆, hi⟩
    · have hnil : d = [] := by simpa using hd
      subst hnil
      simp only [hd, if_false]
      exact ⟨hencode ▸ by simpa using h₅, hi⟩

variable {c : KdfCtx} {data : Option Bytes}

/-- What is checked of a label makes it one that can be written. -/
theorem labelOk_fits (h : c.labelOk data keylen) :
    (tls13Label (c.prefixData.getD []) (c.label.getD []) (data.getD []) keylen).Fits ∧
      labelInfoLen (c.prefixData.getD []) (c.label.getD []) (data.getD []) ≤
        tls13HkdfLabelMaxSize := by
  simp only [KdfCtx.labelOk, decide_eq_true_eq, Bool.decide_and, Bool.and_eq_true] at h
  obtain ⟨-, -, hlabel, -, hctx, hlen⟩ := h
  refine ⟨⟨hlen, by simpa [tls13Label] using hlabel, hctx⟩, ?_⟩
  unfold labelInfoLen tls13HkdfLabelMaxSize
  omega

/-- The label that an expansion of the context has. -/
def labelOf (c : KdfCtx) (data : Bytes) (keylen : Nat) : Label :=
  tls13Label (c.prefixData.getD []) (c.label.getD []) data keylen

/-- With a label that passes the checks, the expansion is a derivation with that label. -/
theorem tls13ExpandLabel_eq {keyobj : ObjId} {mechtype keyType : Nat} {info : LabelBuffer}
    (h : c.labelOk data keylen) : tls13ExpandLabel c keyobj data keylen mechtype keyType info =
      innerDeriveKey c keyobj
        ⟨mechtype, expandParams c (labelOf c (data.getD []) keylen).encode⟩ keyType keylen := by
  obtain ⟨-, hfit⟩ := labelOk_fits h
  obtain ⟨-, hwritten, hindex⟩ := writeLabel_written keylen info.2 hfit
  have hbytes := hwritten.bytes
  rw [hindex] at hbytes
  simp only [tls13ExpandLabel, h, Bool.not_true, Bool.false_eq_true, if_false, not_lt.2 hfit,
    hindex, ne_eq, not_true, hbytes]
  rfl

end Label

/-! ## Calls -/

section Calls

variable {hmac : Nat → Bytes → Bytes → Bytes} {hash : Nat → Bytes → Bytes}
  {offers : Nat → SlotId → Prop} {st st' : Tokens} {c : KdfCtx} {keyType keylen : Nat}

/-- A key is derived under a handle that was not in use, from the value that the token of the
    session holds under the handle of the key. -/
structure DerivedFrom (hmac : Nat → Bytes → Bytes → Bytes) (st : Tokens) (c : KdfCtx) (key : ObjId)
    (p : CkHkdfParams) (keylen : Nat) (dkey : ObjectHandle) (c' : KdfCtx) (st' : Tokens)
    (s : SessId) (k : SlotId × ObjectHandle) (v : Bytes) : Prop where
  obj : st.obj key = some k
  session : c.session = some s ∨ c.session = none ∧ s.slot = k.1
  ctx : c' = { c with session := some s }
  value : st.value s.slot k.2 = some v
  fresh : st.value s.slot dkey = none
  after : st' = st.hold s.slot dkey (rfc5869 hmac p v keylen)

theorem put_self {value : SlotId → ObjectHandle → Option Bytes} {slot : SlotId} {h : ObjectHandle}
    {v : Bytes} : Tokens.put value slot h v slot h = some v := if_pos ⟨rfl, rfl⟩

theorem create_obj {o : ObjId} {slot : SlotId} {h : ObjectHandle} {v : Bytes} :
    (st.create o slot h v).obj o = some (slot, h) := Function.update_self ..

theorem DerivedFrom.holds {key : ObjId} {p : CkHkdfParams} {dkey : ObjectHandle} {c' : KdfCtx}
    {s : SessId} {k : SlotId × ObjectHandle} {v : Bytes}
    (h : DerivedFrom hmac st c key p keylen dkey c' st' s k v) :
    st'.value s.slot dkey = some (rfc5869 hmac p v keylen) := by
  rw [h.after]
  exact put_self

theorem deriveSession_spec {key : ObjId} {mechtype : Nat} :
    wp (tokenEnv hmac hash offers) (deriveSession key mechtype c.session)
      (fun r st' => st' = st ∧ Result r fun s =>
        c.session = some s ∨ c.session = none ∧ st.keySlot key = some s.slot) st := by
  cases c.session with
  | some s => exact ⟨rfl, .inl rfl⟩
  | none =>
    intro r hr
    cases r with
    | error ret => exact ⟨rfl, hr⟩
    | ok s => exact ⟨rfl, .inr ⟨rfl, hr⟩⟩

theorem deriveKey_spec {key : ObjId} {p : CkHkdfParams} {template : DeriveTemplate} :
    wp (tokenEnv hmac hash offers) (deriveKey key ⟨Ckm.hkdfData, p⟩ template c.session)
      (fun r st' => Result r fun d => ∃ k v, DerivedFrom hmac st c key p template.valueLen d.1
        { c with session := some d.2 } st' d.2 k v) st := by
  unfold deriveKey
  intro handle hhandle
  change wp _ _ _ st
  refine wp_ite.2 ⟨fun _ => (by decide : Ckr.keyHandleInvalid ≠ Ckr.ok), fun hvalid => ?_⟩
  obtain ⟨slot, hobj⟩ := hhandle.resolve_left hvalid
  refine wp.bind deriveSession_spec ?_
  rintro r st₁ ⟨rfl, hs⟩
  cases r with
  | error ret => exact hs
  | ok s =>
    intro r' hr'
    cases r' with
    | error ret => exact wp_ite.2 ⟨fun _ _ _ => hr', fun _ => hr'⟩
    | ok dkey =>
      obtain ⟨hsome, hfresh⟩ := hr'
      obtain ⟨v, hv⟩ := Option.isSome_iff_exists.1 hsome
      have hslot : c.session = some s ∨ c.session = none ∧ s.slot = slot := by
        refine hs.imp_right fun h => ⟨h.1, ?_⟩
        have hslot := h.2
        rw [Tokens.keySlot, hobj, Option.map_some, Option.some.injEq] at hslot
        exact hslot.symm
      refine ⟨(slot, handle), v, hobj, hslot, rfl, hv, hfresh, ?_⟩
      simp [tokenEnv, KeySchedule.after, hv]

theorem innerDeriveKey_spec {key : ObjId} {p : CkHkdfParams} :
    wp (tokenEnv hmac hash offers) (innerDeriveKey c key ⟨Ckm.hkdfData, p⟩ keyType keylen)
      (fun r st' => Result r.1 fun dkey =>
        ∃ s k v, DerivedFrom hmac st c key p keylen dkey r.2 st' s k v) st := by
  have hne : Ckm.hkdfData ≠ Ckm.hkdfDerive := by decide
  simp only [innerDeriveKey, hne, if_false, if_true]
  refine wp.bind deriveKey_spec fun r st₁ h => ?_
  cases r with
  | error ret => exact h
  | ok d =>
    obtain ⟨k, v, hd⟩ := h
    exact ⟨d.2, k, v, hd⟩

theorem innerExtractKeyValue_spec {dkey : ObjectHandle} :
    wp (tokenEnv hmac hash offers) (innerExtractKeyValue c dkey keylen)
      (fun r st' => st' = st ∧ (r.1 = Ckr.ok →
        ∃ s, c.session = some s ∧ st.value s.slot dkey = some r.2)) st := by
  unfold innerExtractKeyValue
  cases c.session with
  | none => exact ⟨rfl, fun h => absurd h (by decide)⟩
  | some s =>
    intro r hr
    cases r with
    | error ret => exact ⟨rfl, fun h => absurd h hr⟩
    | ok v => exact ⟨rfl, fun _ => ⟨s, rfl, hr.1⟩⟩

theorem kdfSession_spec {mechtype : Nat} :
    wp (tokenEnv hmac hash offers) (kdfSession mechtype c.session)
      (fun r st' => st' = st ∧ Result r fun s =>
        c.session = some s ∨ c.session = none ∧ offers mechtype s.slot) st := by
  cases c.session with
  | some s => exact ⟨rfl, .inl rfl⟩
  | none =>
    intro r hr
    cases r with
    | error ret => exact ⟨rfl, hr⟩
    | ok s => exact ⟨rfl, .inr ⟨rfl, hr⟩⟩

/-- A key is made of a secret, under a handle that was not in use. -/
structure MadeFrom (offers : Nat → SlotId → Prop) (st : Tokens) (c : KdfCtx) (mechtype : Nat)
    (secret : Bytes) (o : ObjId) (c' : KdfCtx) (st' : Tokens) (s : SessId) (h : ObjectHandle) :
    Prop where
  session : c.session = some s ∨ c.session = none ∧ offers mechtype s.slot
  ctx : c' = { c with session := some s }
  dead : st.obj o = none
  fresh : st.value s.slot h = none
  after : st' = st.create o s.slot h secret

theorem innerPkcs11Key_spec {mechtype : Nat} {secret : Bytes} {keyobj : Option ObjId} :
    wp (tokenEnv hmac hash offers) (innerPkcs11Key c mechtype secret keyobj)
      (fun r st' => (r.1 ≠ Ckr.ok ∧ (r.2.1 = none ∨ r.2.1 = keyobj)) ∨ (r.1 = Ckr.ok ∧
        ∃ o s h, r.2.1 = some o ∧ MadeFrom offers st c mechtype secret o r.2.2 st' s h)) st := by
  unfold innerPkcs11Key
  refine wp.bind kdfSession_spec ?_
  rintro r st₁ ⟨rfl, hr⟩
  cases r with
  | error ret => exact .inl ⟨hr, .inr rfl⟩
  | ok s =>
    intro r' hr'
    cases r' with
    | none => exact .inl ⟨(by decide : Ckr.keyHandleInvalid ≠ Ckr.ok), .inl rfl⟩
    | some k =>
      obtain ⟨o, h⟩ := k
      obtain ⟨hdead, hfresh⟩ := hr' o h rfl
      exact .inr ⟨rfl, o, s, h, rfl, hr, rfl, hdead, hfresh, rfl⟩

/-! ## Derivations -/

/-- The calls left the objects alone, and what the tokens held before. -/
structure Kept (st st' : Tokens) : Prop where
  obj : st'.obj = st.obj
  value : ∀ slot h v, st.value slot h = some v → st'.value slot h = some v

theorem Kept.refl (st : Tokens) : Kept st st := ⟨rfl, fun _ _ _ h => h⟩

theorem put_of_some {value : SlotId → ObjectHandle → Option Bytes} {slot slot' : SlotId}
    {h h' : ObjectHandle} {v v' : Bytes} (hfresh : value slot h = none)
    (hv : value slot' h' = some v') : Tokens.put value slot h v slot' h' = some v' := by
  unfold Tokens.put
  split
  · rename_i heq
    rw [heq.1, heq.2, hfresh] at hv
    simp at hv
  · exact hv

theorem Kept.hold {slot : SlotId} {h : ObjectHandle} {v : Bytes} (hfresh : st.value slot h = none) :
    Kept st (st.hold slot h v) := ⟨rfl, fun _ _ _ hv => put_of_some hfresh hv⟩

/-- A key that is made and freed again leaves no trace but its value. -/
theorem Kept.create_free {o : ObjId} {slot : SlotId} {h : ObjectHandle} {v : Bytes} {st₁ : Tokens}
    (hk : Kept (st.create o slot h v) st₁) (hdead : st.obj o = none)
    (hfresh : st.value slot h = none) : Kept st (st₁.free o) := by
  refine ⟨?_, fun slot' h' v' hv => hk.value slot' h' v' (put_of_some hfresh hv)⟩
  have hobj : st₁.obj = Function.update st.obj o (some (slot, h)) := hk.obj
  simp only [Tokens.free, hobj, Function.update_idem]
  rw [← hdead, Function.update_eq_self]

/-- The value of a key that is there before and after is the same. -/
theorem Kept.keyValue {key : ObjId} {k : SlotId × ObjectHandle} {v : Bytes} (hk : Kept st st')
    (hobj : st'.obj key = some k) (hv : st'.value k.1 k.2 = some v) : st.keyValue key = some v := by
  rw [hk.obj] at hobj
  obtain ⟨v', hv'⟩ := Option.isSome_iff_exists.1 (st.held key k hobj)
  have hsame := hk.value k.1 k.2 v' hv'
  rw [hv] at hsame
  simp only [Tokens.keyValue, hobj, Option.bind_some, hv', ← Option.some.inj hsame]

/-- HKDF-Expand-Label, with the digest, the prefix and the label of a context. -/
def expandLabel (hmac : Nat → Bytes → Bytes → Bytes) (c : KdfCtx) (secret data : Bytes)
    (len : Nat) : Bytes :=
  Hkdf.expand (hmac c.hashMech) (digestSizeOf c.hashMech) secret (labelOf c data len).encode len

theorem rfc5869_expand {data v : Bytes} {len : Nat} :
    rfc5869 hmac (expandParams c (labelOf c data len).encode) v len =
      expandLabel hmac c v data len := rfl

theorem tls13ExpandLabel_spec {key : ObjId} {data : Option Bytes} {info : LabelBuffer} :
    wp (tokenEnv hmac hash offers)
      (tls13ExpandLabel c key data keylen Ckm.hkdfData keyType info)
      (fun r st' => Result r.1 fun dkey => ∃ s k v, DerivedFrom hmac st c key
        (expandParams c (labelOf c (data.getD []) keylen).encode) keylen dkey r.2 st' s k v) st := by
  by_cases h : c.labelOk data keylen
  · rw [tls13ExpandLabel_eq h]
    exact innerDeriveKey_spec
  · simp only [tls13ExpandLabel, h, Bool.not_false, if_true]
    exact (by decide : Ckr.argumentsBad ≠ Ckr.ok)

/-- The salt of an extraction. -/
def saltOf (hmac : Nat → Bytes → Bytes → Bytes) (hash : Nat → Bytes → Bytes) (c : KdfCtx) : Bytes :=
  c.salt.elim (List.replicate (digestSizeOf c.hashMech) 0) fun salt =>
    expandLabel hmac c salt (hash c.hashMech []) (digestSizeOf c.hashMech)

theorem tls13SaltOn_spec {ek : ObjId} {digest salt : Bytes} {hashlen : Nat} {info : LabelBuffer}
    {s : SessId} {h : ObjectHandle} (hs : c.session = some s) (hobj : st.obj ek = some (s.slot, h))
    (hv : st.value s.slot h = some salt) :
    wp (tokenEnv hmac hash offers) (tls13SaltOn c ek digest hashlen info)
      (fun r st' => r.1 = Ckr.ok → r.2.1 = expandLabel hmac c salt digest hashlen ∧ r.2.2 = c ∧
        ∃ st₁, Kept st st₁ ∧ st' = st₁.free ek) st := by
  unfold tls13SaltOn
  refine wp.bind tls13ExpandLabel_spec fun r st₁ hr => ?_
  obtain ⟨r, c'⟩ := r
  refine wp_bind.2 fun _ _ => ?_
  cases r with
  | error ret => exact fun hok => absurd hok hr
  | ok skey =>
    obtain ⟨s', k, v, hd⟩ := hr
    obtain rfl : (s.slot, h) = k := Option.some.inj (hobj.symm.trans hd.obj)
    obtain rfl : s = s' := by
      rcases hd.session with hsame | ⟨hnone, -⟩
      · exact Option.some.inj (hs.symm.trans hsame)
      · simp [hs] at hnone
    obtain rfl : salt = v := Option.some.inj (hv.symm.trans hd.value)
    obtain rfl : c' = c := hd.ctx.trans (by rw [← hs])
    refine wp.bind innerExtractKeyValue_spec ?_
    rintro x st₂ ⟨rfl, hx⟩ hok
    obtain ⟨s₂, hs₂, hvalue⟩ := hx hok
    obtain rfl : s = s₂ := Option.some.inj (hs.symm.trans hs₂)
    refine ⟨?_, rfl, st₁, hd.after ▸ Kept.hold hd.fresh, rfl⟩
    exact (Option.some.inj (hd.holds.symm.trans hvalue)).symm

theorem tls13Salt_spec {hashlen : Nat} (hlen : digestGetDigestSize c.hashMech = .ok hashlen)
    {info : LabelBuffer} :
    wp (tokenEnv hmac hash offers) (tls13Salt c hashlen info)
      (fun r st' => r.1 = Ckr.ok → r.2.1 = saltOf hmac hash c ∧ Kept st st' ∧
        (r.2.2 = c ∨ c.salt ≠ none ∧ c.session = none ∧ ∃ s, offers Ckm.hkdfData s.slot ∧
          r.2.2 = { c with session := some s })) st := by
  have hsize : digestSizeOf c.hashMech = hashlen := by
    simp [digestSizeOf, hlen, Except.toOption]
  unfold tls13Salt
  cases hsalt : c.salt with
  | none =>
    refine fun _ => ⟨?_, .refl st, .inl rfl⟩
    simp [saltOf, hsalt, hsize]
  | some salt =>
    dsimp only
    cases hname : digestGetName c.hashMech with
    | error ret =>
      intro hok
      exact absurd (hok.symm.trans (digestGetName_error hname)) (by decide)
    | ok name =>
      refine wp_bind.2 fun r hr => ?_
      cases r with
      | error ret => exact fun hok => absurd hok hr
      | ok digest =>
        obtain ⟨rfl, -⟩ := hr
        refine wp.bind innerPkcs11Key_spec fun r st₁ h => ?_
        obtain ⟨ret, ko, c'⟩ := r
        rcases h with ⟨hne, hko⟩ | ⟨-, o, s, h, hko, hm⟩
        · obtain rfl : ko = none := hko.elim id id
          exact fun hok => absurd hok hne
        · obtain rfl : ko = some o := hko
          obtain rfl : c' = { c with session := some s } := hm.ctx
          obtain rfl : st₁ = st.create o s.slot h salt := hm.after
          refine wp_mono (tls13SaltOn_spec (s := s) (h := h) rfl create_obj put_self)
            fun r st₂ hr hok => ?_
          obtain ⟨hsaltbuf, hctx, st₃, hkept, rfl⟩ := hr hok
          refine ⟨?_, hkept.create_free hm.dead hm.fresh, ?_⟩
          · rw [hsaltbuf, saltOf, hsalt, hsize]
            rfl
          · rcases hm.session with hs | ⟨hnone, hoffers⟩
            · exact .inl (hctx.trans (by rw [← hs]))
            · exact .inr ⟨by simp, hnone, s, hoffers, hctx.trans (by rw [← hsalt])⟩

theorem tls13DeriveFrom_spec {keyobj : Option ObjId} {salt : Bytes} {hashlen : Nat} :
    wp (tokenEnv hmac hash offers)
      (tls13DeriveFrom c keyobj salt hashlen keylen Ckm.hkdfData keyType)
      (fun r st' => Result r.1 fun dkey => ∃ s ikm, r.2.session = some s ∧
        st'.value s.slot dkey = some (Hkdf.extract (hmac c.hashMech) salt ikm) ∧
        ((keyobj = none ∧ ikm = List.replicate hashlen 0) ∨ ∃ key k, keyobj = some key ∧
          st.obj key = some k ∧ (c.session = some s ∨ c.session = none ∧ s.slot = k.1) ∧
          st.value s.slot k.2 = some ikm)) st := by
  unfold tls13DeriveFrom
  cases keyobj with
  | some key =>
    refine wp_mono innerDeriveKey_spec fun r st₁ h => ?_
    obtain ⟨r, c'⟩ := r
    cases r with
    | error ret => exact h
    | ok dkey =>
      obtain ⟨s, k, v, hd⟩ := h
      exact ⟨s, v, congrArg KdfCtx.session hd.ctx, hd.holds,
        .inr ⟨key, k, rfl, hd.obj, hd.session, hd.value⟩⟩
  | none =>
    refine wp.bind innerPkcs11Key_spec fun r st₁ h => ?_
    obtain ⟨ret, ko, c'⟩ := r
    rcases h with ⟨hne, hko⟩ | ⟨-, o, s, h, hko, hm⟩
    · obtain rfl : ko = none := hko.elim id id
      exact hne
    · obtain rfl : ko = some o := hko
      obtain rfl : c' = { c with session := some s } := hm.ctx
      obtain rfl : st₁ = st.create o s.slot h (List.replicate hashlen 0) := hm.after
      refine wp.bind innerDeriveKey_spec fun r st₂ hr => ?_
      obtain ⟨r, c''⟩ := r
      refine wp_bind.2 fun _ _ => ?_
      cases r with
      | error ret => exact hr
      | ok dkey =>
        obtain ⟨s', k, v, hd⟩ := hr
        obtain rfl : (s.slot, h) = k :=
          Option.some.inj (create_obj.symm.trans hd.obj)
        obtain rfl : s = s' := by
          rcases hd.session with hsame | ⟨hnone, -⟩
          · exact Option.some.inj hsame
          · simp at hnone
        obtain rfl : List.replicate hashlen 0 = v :=
          Option.some.inj (put_self.symm.trans hd.value)
        exact ⟨s, _, congrArg KdfCtx.session hd.ctx, hd.holds, .inl ⟨rfl, rfl⟩⟩

/-! ## The result -/

/-- What the key schedule says that a derivation returns. -/
def expected (hmac : Nat → Bytes → Bytes → Bytes) (hash : Nat → Bytes → Bytes) (c : KdfCtx)
    (key : Option Bytes) (keylen : Nat) : Option Bytes :=
  if c.mode = modeExpandOnly then
    key.map fun key => expandLabel hmac c key (c.data.getD []) keylen
  else if c.mode = modeExtractOnly then
    some (Hkdf.extract (hmac c.hashMech) (saltOf hmac hash c)
      (key.getD (List.replicate (digestSizeOf c.hashMech) 0)))
  else none

/-- A key that is used with the session of a context is on the slot of the session: of the one that
    the context has, or else of one that is taken for a salt. -/
def SameSlot (offers : Nat → SlotId → Prop) (st : Tokens) (c : KdfCtx) : Prop :=
  ∀ key slot, c.key = some key → st.keySlot key = some slot →
    (∀ s, c.session = some s → s.slot = slot) ∧
    (c.session = none → c.mode = modeExtractOnly → c.salt ≠ none →
      ∀ slot', offers Ckm.hkdfData slot' → slot' = slot)

theorem tls13DeriveBy_spec (hs : SameSlot offers st c) {info : LabelBuffer} :
    wp (tokenEnv hmac hash offers) (tls13DeriveBy c keylen info)
      (fun r st' => Result r.1 fun dkey => ∃ s okm, r.2.session = some s ∧
        st'.value s.slot dkey = some okm ∧
        expected hmac hash c (c.key.bind st.keyValue) keylen = some okm) st := by
  unfold tls13DeriveBy
  refine wp_ite.2 ⟨fun hmode => ?_, fun hmode => wp_ite.2 ⟨fun hmode' => ?_, fun _ =>
    (by decide : Ckr.argumentsBad ≠ Ckr.ok)⟩⟩
  · cases hkey : c.key with
    | none => exact (by decide : Ckr.keyHandleInvalid ≠ Ckr.ok)
    | some key =>
      refine wp_mono tls13ExpandLabel_spec fun r st₁ h => ?_
      obtain ⟨r, c'⟩ := r
      cases r with
      | error ret => exact h
      | ok dkey =>
        obtain ⟨s, k, v, hd⟩ := h
        have hslot : s.slot = k.1 := by
          rcases hd.session with hsome | ⟨-, hsame⟩
          · exact (hs key k.1 hkey (by simp [Tokens.keySlot, hd.obj])).1 s hsome
          · exact hsame
        have hv : st.value k.1 k.2 = some v := hslot ▸ hd.value
        refine ⟨s, _, congrArg KdfCtx.session hd.ctx, hd.holds, ?_⟩
        simp [expected, hmode, Tokens.keyValue, hd.obj, hv, rfc5869_expand]
  · unfold tls13DeriveSecret
    cases hlen : digestGetDigestSize c.hashMech with
    | error ret =>
      rw [digestGetDigestSize_error hlen]
      exact (by decide : Ckr.mechanismInvalid ≠ Ckr.ok)
    | ok hashlen =>
      have hsize : digestSizeOf c.hashMech = hashlen := by
        simp [digestSizeOf, hlen, Except.toOption]
      refine wp.bind (tls13Salt_spec hlen) fun r st₁ hr => ?_
      obtain ⟨ret, salt, c'⟩ := r
      refine wp_ite.2 ⟨fun hne => hne, fun hok => ?_⟩
      obtain ⟨hsalt, hkept, hctx⟩ := hr (not_not.1 hok)
      clear hr
      refine wp_mono tls13DeriveFrom_spec fun r st₂ h => ?_
      obtain ⟨r, c''⟩ := r
      cases r with
      | error ret => exact h
      | ok dkey =>
        obtain ⟨s, ikm, hsession, hokm, hikm⟩ := h
        have hhash : c'.hashMech = c.hashMech := by
          rcases hctx with rfl | ⟨-, -, s', -, rfl⟩
          · rfl
          · rfl
        refine ⟨s, _, hsession, hokm, ?_⟩
        have hne : modeExtractOnly ≠ modeExpandOnly := by decide
        simp only [expected, hmode', hne, if_false, if_true, hhash, hsize]
        obtain rfl : salt = saltOf hmac hash c := hsalt
        rcases hikm with ⟨hnone, rfl⟩ | ⟨key, k, hkey, hobj, hses, hv⟩
        · simp [hnone]
        · have hkeySlot : st.keySlot key = some k.1 := by
            rw [Tokens.keySlot, ← hkept.obj, hobj, Option.map_some]
          obtain ⟨hsame, hnew⟩ := hs key k.1 hkey hkeySlot
          have hslot : s.slot = k.1 := by
            rcases hses with hsome | ⟨-, hslot⟩
            · rcases hctx with hc | ⟨hsalt, hnone, s', hoffers, rfl⟩
              · obtain rfl : c' = c := hc
                exact hsame s hsome
              · obtain rfl : s' = s := Option.some.inj hsome
                exact hnew hnone hmode' hsalt s'.slot hoffers
            · exact hslot
          have hvalue := hkept.keyValue hobj (hslot ▸ hv)
          simp [hkey, hvalue]

/-- What a derivation returns after its parameters. -/
theorem tls13KdfDeriveOn_spec (hs : SameSlot offers st c) {hasBuffer : Bool} {info : LabelBuffer} :
    wp (tokenEnv hmac hash offers) (tls13KdfDeriveOn c hasBuffer keylen info)
      (fun r _ => r.1 = retOsslOk →
        expected hmac hash c (c.key.bind st.keyValue) keylen = some r.2.1) st := by
  unfold tls13KdfDeriveOn
  refine wp_ite.2 ⟨fun _ hok => by simp [retOsslErr, retOsslOk] at hok, fun _ => ?_⟩
  refine wp.bind (tls13DeriveBy_spec hs) fun r st₁ h => ?_
  obtain ⟨r, c'⟩ := r
  cases r with
  | error ret => exact fun hok => by simp [retOsslErr, retOsslOk] at hok
  | ok dkey =>
    obtain ⟨s, okm, hsession, hokm, hexp⟩ := h
    refine wp.bind innerExtractKeyValue_spec ?_
    rintro x st₂ ⟨rfl, hx⟩ hok
    have hret : x.1 = Ckr.ok := by
      by_contra hne
      simp [hne, retOsslErr, retOsslOk] at hok
    obtain ⟨s', hs', hvalue⟩ := hx hret
    obtain rfl : s = s' := Option.some.inj (hsession.symm.trans hs')
    rw [hexp, ← hokm, hvalue]

/-! ## Parameters -/

/-- The members of a context that parameters after the salt assign. -/
def givenRest (params : List OsslParam) (c : KdfCtx) : KdfCtx :=
  if c.isTls13Kdf then (setAll params [prefixSetter, labelSetter, dataSetter] c).2 else c

/-- A context after it was given parameters, but for the key. -/
def given : Option (List OsslParam) → KdfCtx → KdfCtx
  | none, c => c
  | some params, c =>
    givenRest params (saltSetter.run params (setAll params [hashSetter, modeSetter] c).2).2

/-- The secret that parameters bring along. -/
def givenSecret (params : Option (List OsslParam)) : Option OsslData :=
  params.bind fun params => locate params (ascii "key")

/-- The key that is there after parameters were given. -/
def givenKey (st : Tokens) (c : KdfCtx) (params : Option (List OsslParam)) : Option Bytes :=
  (givenSecret params).elim (c.key.bind st.keyValue) (·.getOctetString)

/-- The context with another key and session. -/
def rekey (key : Option ObjId) (session : Option SessId) (c : KdfCtx) : KdfCtx :=
  { c with key, session }

variable {params : List OsslParam} {key : Option ObjId} {session : Option SessId}

/-- What setters keep apart from what they set. -/
theorem bufferSetter_comm {f : KdfCtx → KdfCtx} {k : Bytes} {assign : KdfCtx → Option Bytes → KdfCtx}
    (h : ∀ c bs, assign (f c) bs = f (assign c bs)) (c : KdfCtx) (p : OsslData) :
    (bufferSetter k assign).set (f c) p =
      (((bufferSetter k assign).set c p).1, f ((bufferSetter k assign).set c p).2) := by
  simp only [bufferSetter]
  cases p.getOctetString with
  | none => exact congrArg _ (h c none)
  | some bs => exact congrArg _ (h c (some bs))

theorem saltSetter_comm {f : KdfCtx → KdfCtx}
    (h : ∀ (c : KdfCtx) salt, { f c with salt } = f { c with salt }) (c : KdfCtx) :
    saltSetter.run params (f c) = ((saltSetter.run params c).1, f (saltSetter.run params c).2) := by
  unfold Setter.run
  split
  · rfl
  · exact bufferSetter_comm h c _

theorem setRest_comm {f : KdfCtx → KdfCtx}
    (hpre : ∀ (c : KdfCtx) prefixData, { f c with prefixData } = f { c with prefixData })
    (hlabel : ∀ (c : KdfCtx) label, { f c with label } = f { c with label })
    (hdata : ∀ (c : KdfCtx) data, { f c with data } = f { c with data }) (c : KdfCtx) :
    setAll params [prefixSetter, labelSetter, dataSetter] (f c) =
      ((setAll params [prefixSetter, labelSetter, dataSetter] c).1,
        f (setAll params [prefixSetter, labelSetter, dataSetter] c).2) := by
  refine setAll_comm (fun s hs c p => ?_) c
  simp only [List.mem_cons, List.not_mem_nil, or_false] at hs
  rcases hs with rfl | rfl | rfl
  · exact bufferSetter_comm hpre c p
  · exact bufferSetter_comm hlabel c p
  · exact bufferSetter_comm hdata c p

theorem saltSetter_rekey : saltSetter.run params (rekey key session c) =
    ((saltSetter.run params c).1, rekey key session (saltSetter.run params c).2) :=
  saltSetter_comm (fun _ _ => rfl) c

theorem setRest_rekey : setAll params [prefixSetter, labelSetter, dataSetter]
    (rekey key session c) = ((setAll params [prefixSetter, labelSetter, dataSetter] c).1,
      rekey key session (setAll params [prefixSetter, labelSetter, dataSetter] c).2) :=
  setRest_comm (fun _ _ => rfl) (fun _ _ => rfl) (fun _ _ => rfl) c

theorem givenRest_rekey : givenRest params (rekey key session c) =
    rekey key session (givenRest params c) := by
  unfold givenRest
  rw [setRest_rekey]
  exact (apply_ite (rekey key session) ..).symm

theorem infosAccepted_spec : wp (tokenEnv hmac hash offers) (infosAccepted params)
    (fun _ st' => st' = st) st := by
  have halloc : Keeps (tokenEnv hmac hash offers) (fun st' => st' = st) (ask .alloc) :=
    fun _ h _ _ => h
  unfold infosAccepted
  split
  · rfl
  · rename_i p infos _
    split
    · rfl
    · exact Keeps.bind halloc (.foldlM (fun _ _ => .ite halloc .pure) infos) st rfl

theorem setRest_spec : wp (tokenEnv hmac hash offers) (setRest c params)
    (fun r st' => st' = st ∧ (r.1 = retOsslOk → r.2 = givenRest params c)) st := by
  unfold setRest givenRest
  split
  · split
    · exact ⟨rfl, fun hok => by simp [retOsslErr, retOsslOk] at hok⟩
    · exact ⟨rfl, fun _ => rfl⟩
  · refine wp.bind infosAccepted_spec ?_
    rintro b _ rfl
    exact ⟨rfl, fun _ => rfl⟩

/-- A key that is given is made on the session of the context. -/
theorem setKey_spec : wp (tokenEnv hmac hash offers) (setKey c params)
    (fun r st' => r.1 = retOsslOk →
      (locate params (ascii "key") = none ∧ r.2 = c ∧ st' = st) ∨
      ∃ p secret o s h, locate params (ascii "key") = some p ∧ p.getOctetString = some secret ∧
        r.2 = rekey (some o) (some s) c ∧ st'.obj o = some (s.slot, h) ∧
        st'.value s.slot h = some secret) st := by
  unfold setKey
  cases hp : locate params (ascii "key") with
  | none => exact fun _ => .inl ⟨rfl, rfl, rfl⟩
  | some p =>
    cases hsecret : p.getOctetString with
    | none =>
      simp only [hsecret]
      exact fun hok => by simp [retOsslErr, retOsslOk] at hok
    | some secret =>
      simp only [hsecret]
      refine wp.bind (wp_true (p := objFree? c.key)) fun _ st₁ _ => ?_
      refine wp.bind innerPkcs11Key_spec fun r st₂ h hok => .inr ?_
      obtain ⟨ret, ko, c'⟩ := r
      rcases h with ⟨hne, -⟩ | ⟨-, o, s, h, hko, hm⟩
      · simp only [hne, if_false, retOsslErr, retOsslOk] at hok
        exact absurd hok (by decide)
      · obtain rfl : ko = some o := hko
        obtain rfl : c' = { c with session := some s } := hm.ctx
        rw [hm.after]
        exact ⟨p, secret, o, s, h, rfl, hsecret, rfl, create_obj, put_self⟩

/-- The slot of the key and that of the session are the same, after the parameters that do not
    bring a key along. -/
def UsesOwnSlot (offers : Nat → SlotId → Prop) (st : Tokens) (c : KdfCtx)
    (params : Option (List OsslParam)) : Prop :=
  givenSecret params = none → SameSlot offers st (given params c)

theorem digestMode_keep (params : List OsslParam) (c : KdfCtx) :
    (setAll params [hashSetter, modeSetter] c).2.key = c.key ∧
      (setAll params [hashSetter, modeSetter] c).2.session = c.session := by
  refine setAll_keeps (I := fun c' : KdfCtx => c'.key = c.key ∧ c'.session = c.session)
    (fun s hs c' p hc => ?_) ⟨rfl, rfl⟩
  simp only [List.mem_cons, List.not_mem_nil, or_false] at hs
  rcases hs with rfl | rfl
  · simp only [hashSetter]
    split
    · exact hc
    · split <;> exact hc
  · simp only [modeSetter]
    split
    · exact hc
    · split <;> exact hc

/-- But for a key, parameters leave the key and the session alone. -/
theorem given_keep (params : List OsslParam) (c : KdfCtx) :
    (given (some params) c).key = c.key ∧ (given (some params) c).session = c.session := by
  obtain ⟨hkey, hsession⟩ := digestMode_keep params c
  have hgiven : given (some params) c = rekey c.key c.session (given (some params) c) := by
    rw [given]
    generalize (setAll params [hashSetter, modeSetter] c).2 = c₁ at hkey hsession ⊢
    rw [← givenRest_rekey, ← hkey, ← hsession]
    have hsalt : saltSetter.run params (rekey c₁.key c₁.session c₁) = _ := saltSetter_rekey
    exact congrArg (givenRest params) (congrArg Prod.snd hsalt)
  rw [hgiven]
  exact ⟨rfl, rfl⟩

theorem SameSlot.of_made {o : ObjId} {s : SessId} {h : ObjectHandle}
    (hobj : st.obj o = some (s.slot, h)) : SameSlot offers st (rekey (some o) (some s) c) := by
  intro key slot hkey hslot
  obtain rfl : o = key := Option.some.inj hkey
  rw [Tokens.keySlot, hobj, Option.map_some, Option.some.injEq] at hslot
  exact ⟨fun s' hs' => Option.some.inj hs' ▸ hslot, fun hnone => by simp [rekey] at hnone⟩

theorem hkdfSetCtxParams_spec {params : Option (List OsslParam)} :
    wp (tokenEnv hmac hash offers) (hkdfSetCtxParams c params)
      (fun r st' => r.1 = retOsslOk →
        r.2.key.bind st'.keyValue = givenKey st c params ∧
        (∃ key session, r.2 = rekey key session (given params c)) ∧
        (UsesOwnSlot offers st c params → SameSlot offers st' r.2)) st := by
  cases params with
  | none => exact fun _ => ⟨rfl, ⟨c.key, c.session, rfl⟩, fun h => h rfl⟩
  | some params =>
    obtain ⟨hkey, hsession⟩ := given_keep params c
    have hgiven : givenRest params
        (saltSetter.run params (setAll params [hashSetter, modeSetter] c).2).2 =
          given (some params) c := rfl
    rw [hkdfSetCtxParams]
    generalize setAll params [hashSetter, modeSetter] c = r at hgiven ⊢
    obtain ⟨ret, c₁⟩ := r
    refine wp_ite.2 ⟨fun hne hok => absurd hok hne, fun _ => ?_⟩
    refine wp.bind setKey_spec fun r st₁ h => ?_
    obtain ⟨ret, c'⟩ := r
    refine wp_ite.2 ⟨fun hne hok => absurd hok hne, fun hret => ?_⟩
    rcases h (not_not.1 hret) with ⟨hnone, hc, rfl⟩ | ⟨p, secret, o, s, h, hp, hsecret, hc, hobj, hv⟩
    · obtain rfl : c' = c₁ := hc
      generalize saltSetter.run params c' = r at hgiven ⊢
      obtain ⟨ret, c₂⟩ := r
      refine wp_ite.2 ⟨fun hne hok => absurd hok hne, fun _ => ?_⟩
      refine wp_mono setRest_spec ?_
      rintro r st₂ ⟨rfl, hrest⟩ hok
      rw [hrest hok, hgiven]
      refine ⟨?_, ⟨c.key, c.session, ?_⟩, fun hown => hown hnone⟩
      · rw [hkey, givenKey, givenSecret, Option.bind_some, hnone, Option.elim_none]
      · rw [← hkey, ← hsession]
        rfl
    · obtain rfl : c' = rekey (some o) (some s) c₁ := hc
      rw [saltSetter_rekey]
      generalize saltSetter.run params c₁ = r at hgiven ⊢
      obtain ⟨ret, c₂⟩ := r
      refine wp_ite.2 ⟨fun hne hok => absurd hok hne, fun _ => ?_⟩
      refine wp_mono setRest_spec ?_
      rintro r st₂ ⟨rfl, hrest⟩ hok
      rw [hrest hok, givenRest_rekey, hgiven]
      refine ⟨?_, ⟨_, _, rfl⟩, fun _ => .of_made hobj⟩
      rw [givenKey, givenSecret, Option.bind_some, hp, Option.elim_some, hsecret]
      simp [rekey, Tokens.keyValue, hobj, hv]

end Calls

/-! ## The key schedule -/

section Schedule

variable {hmac : Nat → Bytes → Bytes → Bytes} {hash : Nat → Bytes → Bytes}
  {offers : Nat → SlotId → Prop} {st : Tokens} {c : KdfCtx} {params : Option (List OsslParam)}

theorem tls13KdfDerive_spec {hasBuffer : Bool} {keylen : Nat} {info : LabelBuffer}
    (hs : UsesOwnSlot offers st c params) :
    wp (tokenEnv hmac hash offers) (tls13KdfDerive c hasBuffer keylen params info)
      (fun r _ => r.1 = retOsslOk →
        expected hmac hash (given params c) (givenKey st c params) keylen = some r.2.1) st := by
  unfold tls13KdfDerive
  refine wp.bind hkdfSetCtxParams_spec fun r st₁ h => ?_
  obtain ⟨ret, c'⟩ := r
  refine wp_ite.2 ⟨fun _ hok => by simp [retOsslErr, retOsslOk] at hok, fun hret => ?_⟩
  obtain ⟨hkey, ⟨key, session, hc⟩, hslot⟩ := h (not_not.1 hret)
  refine wp_mono (tls13KdfDeriveOn_spec (hslot hs)) fun r st₂ hr hok => ?_
  have hexp := hr hok
  rw [hkey] at hexp
  obtain rfl : c' = rekey key session (given params c) := hc
  exact hexp

/-- The label of a context is written to its buffer as RFC 8446 has it, without leaving the buffer
    and with the length that was computed, and nothing else reads as this label. -/
structure WritesLabel (c : KdfCtx) (data : Bytes) (len : Nat) (info : LabelBuffer) : Prop where
  inside : WritesIn tls13HkdfLabelMaxSize
    (writeLabel info.1 (c.prefixData.getD []) (c.label.getD []) data len)
  fits : labelInfoLen (c.prefixData.getD []) (c.label.getD []) data ≤ tls13HkdfLabelMaxSize
  length : (writeLabel info.1 (c.prefixData.getD []) (c.label.getD []) data len).val.2 =
    labelInfoLen (c.prefixData.getD []) (c.label.getD []) data
  bytes : (writeLabel info.1 (c.prefixData.getD []) (c.label.getD []) data len).val.1.take
    (labelInfoLen (c.prefixData.getD []) (c.label.getD []) data) = (labelOf c data len).encode
  decodes : ∀ bs, Label.decode bs = some (labelOf c data len) ↔ bs = (labelOf c data len).encode

theorem writesLabel {data : Option Bytes} {len : Nat} {info : LabelBuffer}
    (h : c.labelOk data len) : WritesLabel c (data.getD []) len info := by
  obtain ⟨hlabel, hfit⟩ := labelOk_fits h
  obtain ⟨hin, hwritten, hindex⟩ := writeLabel_written len info.2 hfit
  refine ⟨hin, hfit, hindex, hindex ▸ hwritten.bytes, fun bs => ⟨fun hbs => ?_, fun hbs => ?_⟩⟩
  · exact (Label.eq_encode_of_decode hbs).2
  · rw [hbs]
    exact Label.decode_encode hlabel

/-- A derivation that succeeds returns what the key schedule says, and every label that passes the
    checks is written as it should be. -/
theorem tls13_keySchedule {hasBuffer : Bool} {keylen : Nat} {info : LabelBuffer}
    (hs : UsesOwnSlot offers st c params) :
    wp (tokenEnv hmac hash offers) (tls13KdfDerive c hasBuffer keylen params info)
      (fun r _ => r.1 = retOsslOk →
        expected hmac hash (given params c) (givenKey st c params) keylen = some r.2.1) st ∧
    ∀ (c : KdfCtx) (data : Option Bytes) (len : Nat), c.labelOk data len →
      WritesLabel c (data.getD []) len info :=
  ⟨tls13KdfDerive_spec hs, fun _ _ _ h => writesLabel h⟩

/-! ## Two slots -/

/-- A keyed hash function for tests: the start of the key and the message. -/
def testHmac (_ : Nat) (key msg : Bytes) : Bytes := (msg ++ key ++ List.replicate 32 0).take 32

/-- A hash function for tests, which does not look at the message. -/
def testHash (digest : Nat) (_ : Bytes) : Bytes := List.replicate (digestSizeOf digest) 0

/-- Two slots, with one key on each of them under the same handle. The first object is the key of
    the second slot. -/
def twoSlots : Tokens where
  obj o := if o = 1 then some (2, 7) else none
  value slot h := if h = 7 then some [slot.toUInt8] else none
  held o k hk := by
    split at hk
    · obtain rfl := Option.some.inj hk
      rfl
    · simp at hk

/-- A new context with the key of the second slot and a salt, to extract with. -/
def saltedCtx : KdfCtx :=
  { key := some 1, mode := modeExtractOnly, hashMech := Ckm.sha256, salt := some [9]
    prefixData := some (ascii "tls13 "), label := some (ascii "derived"), isTls13Kdf := true }

/-- A local buffer that happens to be zero. -/
def zeroInfo : LabelBuffer :=
  ⟨List.replicate tls13HkdfLabelMaxSize 0, List.length_replicate⟩

/-- Where all sessions are on the slot of the key, the extraction is right. -/
theorem tls13_keySchedule_extract :
    wp (tokenEnv testHmac testHash fun _ slot => slot = 2)
      (tls13KdfDerive saltedCtx true 32 none zeroInfo)
      (fun r _ => r.1 = retOsslOk →
        expected testHmac testHash saltedCtx (some [2]) 32 = some r.2.1) twoSlots ∧
    ∀ (c : KdfCtx) (data : Option Bytes) (len : Nat), c.labelOk data len →
      WritesLabel c (data.getD []) len zeroInfo := by
  have hown : UsesOwnSlot (fun _ slot => slot = 2) twoSlots saltedCtx none := by
    intro _ key slot hkey hslot
    obtain rfl : 1 = key := Option.some.inj hkey
    obtain rfl : 2 = slot := Option.some.inj hslot
    exact ⟨fun s hs => by simp [given, saltedCtx] at hs, fun _ _ _ slot' h => h⟩
  exact tls13_keySchedule hown

/-- Answers under which everything succeeds, with sessions of the first slot where any slot will
    do. -/
def testAnswer (st : Tokens) : (c : TokenCall) → c.Resp
  | .getSession _ => .ok ⟨1, 0⟩
  | .trySessionRef key _ => (st.keySlot key).elim (.error Ckr.generalError) fun slot => .ok ⟨slot, 0⟩
  | .createSecretKey s _ =>
    if st.obj 5 = none ∧ st.value s.slot 8 = none then some (5, 8) else none
  | .objGetHandle key => (st.obj key).elim ckInvalidHandle (·.2)
  | .deriveKey s _ handle _ =>
    if (st.value s.slot handle).isSome then
      if st.value s.slot 9 = none then .ok 9
      else if st.value s.slot 10 = none then .ok 10
      else .error Ckr.generalError
    else .error Ckr.generalError
  | .fetchValue s h size =>
    (st.value s.slot h).elim (.error Ckr.generalError) fun v =>
      if v.length ≤ size then .ok v else .error Ckr.generalError
  | .digestUtil digest _ => .ok (testHash digest [])
  | .returnSession _ | .objFree _ => ()
  | .alloc => true

theorem testAnswer_adm (st : Tokens) (c : TokenCall) :
    Answers testHash (fun _ _ => True) st c (testAnswer st c) := by
  have herr : Ckr.generalError ≠ Ckr.ok := by decide
  cases c with
  | getSession mechtype => trivial
  | trySessionRef key mechtype =>
    cases hslot : st.keySlot key with
    | none =>
      simp only [Answers, testAnswer, hslot, Option.elim_none]
      exact herr
    | some slot =>
      simp only [Answers, testAnswer, hslot, Option.elim_some]
      rfl
  | createSecretKey s secret =>
    intro o h hoh
    simp only [testAnswer] at hoh
    split at hoh
    · rename_i hfresh
      obtain ⟨rfl, rfl⟩ := Prod.mk.inj (Option.some.inj hoh)
      exact hfresh
    · simp at hoh
  | objGetHandle key =>
    cases hobj : st.obj key with
    | none => exact .inl (by simp [testAnswer, hobj])
    | some k => exact .inr ⟨k.1, by simp [testAnswer, hobj]⟩
  | deriveKey s mechanism handle template =>
    simp only [Answers, testAnswer]
    split
    · rename_i hsome
      split
      · exact ⟨hsome, ‹_›⟩
      · split
        · exact ⟨hsome, ‹_›⟩
        · exact herr
    · exact herr
  | fetchValue s h size =>
    simp only [Answers, testAnswer]
    cases hv : st.value s.slot h with
    | none => exact herr
    | some v =>
      simp only [Option.elim_some]
      split
      · exact ⟨rfl, ‹_›⟩
      · exact herr
  | digestUtil digest size => exact ⟨rfl, by simp [testHash]⟩
  | returnSession s => trivial
  | objFree key => trivial
  | alloc => trivial

/-- With a session of the first slot for the salt, the key of that slot is used. -/
theorem tls13_otherSlot : ¬wp (tokenEnv testHmac testHash fun _ _ => True)
    (tls13KdfDerive saltedCtx true 32 none zeroInfo)
    (fun r _ => r.1 = retOsslOk →
      expected testHmac testHash saltedCtx (some [2]) 32 = some r.2.1) twoSlots := by
  intro h
  have hrun := runs_exec (E := tokenEnv testHmac testHash fun _ _ => True) testAnswer_adm
    (tls13KdfDerive saltedCtx true 32 none zeroInfo) twoSlots
  exact absurd (hrun.of_wp h (by decide +kernel)) (by decide +kernel)

end Schedule

end P11Prov.KeySchedule
