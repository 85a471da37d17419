import Mathlib.Data.List.Nodup
import P11Prov.AsymmetricCipher
import P11Prov.Run

/-!
# The padding mode of a context

A context for decryption takes parameters when it is initialised and later. What
it was given is kept as a list, the last value of a parameter first, without the
values that were refused. A fresh context that takes the values of this list is
the context again (`RsaencReach.eq_fresh`), as long as

* a context that was given the padding mode of TLS is given no other one, as the
  flag that says so is never cleared, and
* no digest is refused for the mask generation, as it is assigned all the same.

With such a context the length that is announced for a buffer is not above its
size, and a temporary buffer for a key of at least 48 bytes is not read beyond
its end (`rsaenc_follows_last`).
-/

namespace P11Prov

open Interaction

/-! ## Values that are accepted -/

/-- The value of a parameter is accepted; this does not depend on the context. -/
def Setter.accepts (s : Setter RsaencCtx) (p : OsslData) : Bool := (s.set {} p).1 = retOsslOk

/-- Adds the values of a call that are accepted, up to the first one that is not. -/
def acceptAll (params : List OsslParam) : List (Setter RsaencCtx) → List OsslParam →
    List OsslParam
  | [], a => a
  | s :: l, a =>
    match locate params s.key with
    | none => acceptAll params l a
    | some p => if s.accepts p then acceptAll params l (⟨s.key, p⟩ :: a) else a

/-- What a context was given, after a call. -/
def acceptParams (params : Option (List OsslParam)) (a : List OsslParam) : List OsslParam :=
  params.elim a (acceptAll · rsaencSetters a)

/-- A fresh context with a key that is given the values. -/
def freshContext (a : List OsslParam) (key : Option ObjId) : RsaencCtx :=
  (rsaencSetCtxParams (some a) { key }).2

/-- The parameter is not there, or is accepted. -/
def Setter.Passes (s : Setter RsaencCtx) (params : List OsslParam) : Prop :=
  ∀ p, locate params s.key = some p → s.accepts p

/-- A call keeps to the padding mode of TLS, if the context has it, and every digest for the mask
    generation that is looked at has one. -/
structure KeepsMode (c : RsaencCtx) (params : List OsslParam) : Prop where
  padMode : c.tlsPadding.enabled → ∀ p, locate params rsaencPadModeSetter.key = some p →
    rsaencPadModeSetter.accepts p → isTlsPadMode p
  mgf : rsaencPadModeSetter.Passes params → oaepDigestSetter.Passes params →
    ∀ p name, locate params oaepMgf1DigestSetter.key = some p → p.getUtf8StringPtr = some name →
      rsaencMapMgf name ≠ ckUnavailableInformation

/-- The contexts that calls with parameters and initialisations for decryption reach, with what they
    were given. Every call meets `ok`. -/
inductive RsaencReach (O : Oracle) (ctx : Ctx) (ok : RsaencCtx → List OsslParam → Prop) :
    RsaencCtx → List OsslParam → Prop
  | new : RsaencReach O ctx ok {} []
  | setCtxParams {c : RsaencCtx} {a : List OsslParam} (h : RsaencReach O ctx ok c a)
      (params : Option (List OsslParam)) (hok : ∀ l, params = some l → ok c l) :
      RsaencReach O ctx ok (rsaencSetCtxParams params c).2 (acceptParams params a)
  | refused {c c' : RsaencCtx} {a : List OsslParam} (h : RsaencReach O ctx ok c a)
      (key : Option ObjId) {st st' : State}
      (hrun : Runs (env O) (rsaencDecryptKey ctx c key) st (false, c') st') :
      RsaencReach O ctx ok c' a
  | decryptInit {c c' : RsaencCtx} {a : List OsslParam} (h : RsaencReach O ctx ok c a)
      (key : Option ObjId) (params : Option (List OsslParam)) {st st' : State}
      (hrun : Runs (env O) (rsaencDecryptKey ctx c key) st (true, c') st')
      (hok : ∀ l, params = some l → ok c' l) :
      RsaencReach O ctx ok (rsaencSetCtxParams params c').2 (acceptParams params a)

/-! ## The context of a list of values -/

section Values

variable (a : List OsslParam) (key : Option ObjId)

/-- The value of a parameter. -/
def valueOf (s : Setter RsaencCtx) : Option OsslData := locate a s.key

/-- The context that belongs to accepted values. -/
def contextOf : RsaencCtx where
  key
  mechtype := ((valueOf a rsaencPadModeSetter).bind rsaencPaddingType).getD Ckm.rsaPkcs
  oaepParams :=
    { hashAlg := (((valueOf a oaepDigestSetter).bind (·.getUtf8StringPtr)).bind
        fun name => (digestGetByName name).toOption).getD 0
      mgf := (((valueOf a oaepMgf1DigestSetter).bind (·.getUtf8StringPtr)).map rsaencMapMgf).getD 0
      pSourceData := (valueOf a oaepLabelSetter).bind (·.getOctetString)
      ulSourceDataLen :=
        (((valueOf a oaepLabelSetter).bind (·.getOctetString)).map (·.length)).getD 0 }
  tlsPadding :=
    { enabled := (valueOf a rsaencPadModeSetter).any isTlsPadMode
      clientVerMajor := (((valueOf a tlsClientVersionSetter).bind (·.getUint)).map
        fun v => .ofNat (v / 0x100)).getD 0
      clientVerMinor := (((valueOf a tlsClientVersionSetter).bind (·.getUint)).map .ofNat).getD 0
      altVerMajor := (((valueOf a tlsNegotiatedVersionSetter).bind (·.getUint)).map
        fun v => .ofNat (v / 0x100)).getD 0
      altVerMinor :=
        (((valueOf a tlsNegotiatedVersionSetter).bind (·.getUint)).map .ofNat).getD 0 }

variable {a} {key} {p : OsslData}

theorem valueOf_cons (s t : Setter RsaencCtx) :
    valueOf (⟨s.key, p⟩ :: a) t = if s.key = t.key then some p else valueOf a t := by
  simp only [valueOf, locate, List.find?_cons]
  by_cases h : s.key = t.key <;> simp [h]

/-- The setter does to the context of a list of values what belongs to the value. -/
def Setter.Follows (s : Setter RsaencCtx) (p : OsslData) (a : List OsslParam)
    (key : Option ObjId) : Prop :=
  s.set (contextOf a key) p =
    if s.accepts p then (retOsslOk, contextOf (⟨s.key, p⟩ :: a) key)
    else (retOsslErr, contextOf a key)

/-- A setter that refuses a value without a trace, or assigns what the value stands for. -/
theorem Setter.follows_of_elim {s : Setter RsaencCtx} {α : Type} {f : Option α}
    {u : RsaencCtx → α → RsaencCtx}
    (hset : ∀ c, s.set c p = f.elim (retOsslErr, c) fun v => (retOsslOk, u c v))
    (hu : ∀ v, f = some v → u (contextOf a key) v = contextOf (⟨s.key, p⟩ :: a) key) :
    s.Follows p a key := by
  unfold Setter.Follows Setter.accepts
  cases hf : f with
  | none => rw [hset, hset, hf]; rfl
  | some v => rw [hset, hset, hf, ← hu v hf]; rfl

/-- The padding mode of TLS stands for a mechanism. -/
theorem rsaencPaddingType_tls (h : isTlsPadMode p) : rsaencPaddingType p = some Ckm.rsaPkcs := by
  obtain rfl : p = .integer 7 := by simpa [isTlsPadMode] using h
  decide

theorem rsaencPadModeSetter_set (c : RsaencCtx) (p : OsslData) :
    rsaencPadModeSetter.set c p = (rsaencPaddingType p).elim (retOsslErr, c) fun mechtype =>
      (retOsslOk, { c.enableTls p with mechtype }) := by
  cases ht : rsaencPaddingType p with
  | none =>
    have hp : isTlsPadMode p = false := by
      rw [← Bool.not_eq_true]
      intro hp
      rw [rsaencPaddingType_tls hp] at ht
      exact absurd ht (by decide)
    simp only [rsaencPadModeSetter, ht, RsaencCtx.enableTls, hp, Bool.false_or, Option.elim]
  | some mechtype => simp only [rsaencPadModeSetter, ht, Option.elim]

theorem padMode_follows (h : (contextOf a key).tlsPadding.enabled →
    rsaencPadModeSetter.accepts p → isTlsPadMode p) : rsaencPadModeSetter.Follows p a key := by
  apply Setter.follows_of_elim fun c => rsaencPadModeSetter_set c p
  intro mechtype ht
  have hacc : rsaencPadModeSetter.accepts p := by
    simp [Setter.accepts, rsaencPadModeSetter_set, ht]
  -- the flag is right already, or is set now
  have hflag : (isTlsPadMode p || (valueOf a rsaencPadModeSetter).any isTlsPadMode) =
      isTlsPadMode p := by
    rcases hp : isTlsPadMode p with _ | _
    · rw [Bool.false_or, ← Bool.not_eq_true]
      exact fun he => absurd (hp.symm.trans (h he hacc)) (by decide)
    · rfl
  simp +decide [contextOf, valueOf_cons, RsaencCtx.enableTls, ht, hflag]

theorem oaepDigest_follows : oaepDigestSetter.Follows p a key := by
  apply Setter.follows_of_elim
    (f := p.getUtf8StringPtr.bind fun name => (digestGetByName name).toOption)
    (u := fun c hashAlg => { c with oaepParams := { c.oaepParams with hashAlg } })
  · intro c
    cases hp : p.getUtf8StringPtr with
    | none => simp only [oaepDigestSetter, hp, Option.bind, Option.elim]
    | some name =>
      cases hd : digestGetByName name <;>
        simp only [oaepDigestSetter, hp, hd, Option.bind, Except.toOption, Option.elim]
  · intro hashAlg hf
    simp +decide [contextOf, valueOf_cons, hf]

theorem oaepMgf1Digest_follows (h : ∀ name, p.getUtf8StringPtr = some name →
    rsaencMapMgf name ≠ ckUnavailableInformation) : oaepMgf1DigestSetter.Follows p a key := by
  apply Setter.follows_of_elim (f := p.getUtf8StringPtr)
    (u := fun c name => { c with oaepParams := { c.oaepParams with mgf := rsaencMapMgf name } })
  · intro c
    cases hp : p.getUtf8StringPtr with
    | none => simp only [oaepMgf1DigestSetter, hp, Option.elim]
    | some name => simp only [oaepMgf1DigestSetter, hp, if_neg (h name hp), Option.elim]
  · intro name hf
    simp +decide [contextOf, valueOf_cons, hf]

theorem oaepLabel_follows : oaepLabelSetter.Follows p a key := by
  apply Setter.follows_of_elim (f := p.getOctetString)
    (u := fun c label => { c with oaepParams := { c.oaepParams with
      pSourceData := some label, ulSourceDataLen := label.length } })
  · intro c
    cases hp : p.getOctetString <;> simp only [oaepLabelSetter, hp, Option.elim]
  · intro label hf
    simp +decide [contextOf, valueOf_cons, hf]

theorem tlsClientVersion_follows : tlsClientVersionSetter.Follows p a key := by
  apply Setter.follows_of_elim (f := p.getUint)
    (u := fun c v => { c with tlsPadding := { c.tlsPadding with
      clientVerMajor := .ofNat (v / 0x100), clientVerMinor := .ofNat v } })
  · intro c
    cases hp : p.getUint <;> simp only [tlsClientVersionSetter, hp, Option.elim]
  · intro v hf
    simp +decide [contextOf, valueOf_cons, hf]

theorem tlsNegotiatedVersion_follows : tlsNegotiatedVersionSetter.Follows p a key := by
  apply Setter.follows_of_elim (f := p.getUint)
    (u := fun c v => { c with tlsPadding := { c.tlsPadding with
      altVerMajor := .ofNat (v / 0x100), altVerMinor := .ofNat v } })
  · intro c
    cases hp : p.getUint <;> simp only [tlsNegotiatedVersionSetter, hp, Option.elim]
  · intro v hf
    simp +decide [contextOf, valueOf_cons, hf]

variable {params : List OsslParam} {l : List (Setter RsaencCtx)}

/-- Every setter that is reached does to the context of a list what belongs to its value. -/
def AllFollow (params : List OsslParam) (key : Option ObjId) :
    List (Setter RsaencCtx) → List OsslParam → Prop
  | [], _ => True
  | s :: l, a =>
    match locate params s.key with
    | none => AllFollow params key l a
    | some p => s.Follows p a key ∧ (s.accepts p → AllFollow params key l (⟨s.key, p⟩ :: a))

theorem AllFollow.cons {s : Setter RsaencCtx}
    (hs : ∀ p, locate params s.key = some p → s.Follows p a key)
    (hl : s.Passes params → ∀ a, AllFollow params key l a) : AllFollow params key (s :: l) a := by
  rw [AllFollow]
  cases hp : locate params s.key with
  | none => exact hl (fun p h => absurd (hp.symm.trans h) (by simp)) a
  | some p =>
    refine ⟨hs p hp, fun hacc => hl (fun q h => ?_) _⟩
    obtain rfl := Option.some.inj (hp.symm.trans h)
    exact hacc

theorem setAll_contextOf (h : AllFollow params key l a) :
    (setAll params l (contextOf a key)).2 = contextOf (acceptAll params l a) key := by
  induction l generalizing a with
  | nil => rfl
  | cons s l ih =>
    rw [AllFollow] at h
    cases hp : locate params s.key with
    | none =>
      simp only [hp] at h
      simp only [setAll, Setter.run, acceptAll, hp]
      exact ih h
    | some p =>
      simp only [hp] at h
      have hs := h.1
      unfold Setter.Follows at hs
      simp only [setAll, Setter.run, acceptAll, hp, hs]
      rcases hacc : s.accepts p with _ | _
      · rfl
      · exact ih (h.2 hacc)

theorem KeepsMode.allFollow (h : KeepsMode (contextOf a key) params) :
    AllFollow params key rsaencSetters a :=
  .cons (fun p hp => padMode_follows fun he hacc => h.padMode he p hp hacc) fun hpad _ =>
  .cons (fun _ _ => oaepDigest_follows) fun hdigest _ =>
  .cons (fun p hp => oaepMgf1Digest_follows fun name => h.mgf hpad hdigest p name hp) fun _ _ =>
  .cons (fun _ _ => oaepLabel_follows) fun _ _ =>
  .cons (fun _ _ => tlsClientVersion_follows) fun _ _ =>
  .cons (fun _ _ => tlsNegotiatedVersion_follows) fun _ _ => trivial

/-! ## A fresh context -/

/-- Every value of the list is accepted. -/
def AllAccepted (a : List OsslParam) : Prop := ∀ s ∈ rsaencSetters, s.Passes a

theorem rsaencSetters_key : (rsaencSetters.map (·.key)).Nodup := by decide

theorem AllAccepted.acceptAll (hl : ∀ s ∈ l, s ∈ rsaencSetters) (h : AllAccepted a) :
    AllAccepted (acceptAll params l a) := by
  induction l generalizing a with
  | nil => exact h
  | cons s l ih =>
    have hl' := List.forall_mem_cons.1 hl
    rw [P11Prov.acceptAll]
    cases hp : locate params s.key with
    | none => exact ih hl'.2 h
    | some p =>
      dsimp only
      split
      · next hacc =>
        apply ih hl'.2
        intro t ht q hq
        change valueOf _ t = some q at hq
        rw [valueOf_cons] at hq
        split at hq
        · next heq =>
          -- no two setters have the same key
          obtain rfl := List.inj_on_of_nodup_map rsaencSetters_key hl'.1 ht heq
          exact Option.some.inj hq ▸ hacc
        · exact h t ht q hq
      · exact h

/-- A value that is right stays right. -/
theorem valueOf_acceptAll_of_eq {t : Setter RsaencCtx} (h : valueOf a t = valueOf params t) :
    valueOf (acceptAll params l a) t = valueOf params t := by
  induction l generalizing a with
  | nil => exact h
  | cons s l ih =>
    rw [acceptAll]
    cases hp : locate params s.key with
    | none => exact ih h
    | some p =>
      dsimp only
      split
      · apply ih
        rw [valueOf_cons]
        split
        · next heq => rw [valueOf, ← heq, hp]
        · exact h
      · exact h

/-- From nothing, a value that is looked for becomes right. -/
theorem valueOf_acceptAll {t : Setter RsaencCtx} (hl : ∀ s ∈ l, s.Passes params) (ht : t ∈ l)
    (h : valueOf a t = none) : valueOf (acceptAll params l a) t = valueOf params t := by
  induction l generalizing a with
  | nil => exact absurd ht List.not_mem_nil
  | cons s l ih =>
    have hl' := List.forall_mem_cons.1 hl
    rw [acceptAll]
    by_cases hk : s.key = t.key
    · cases hp : locate params s.key with
      | none => exact valueOf_acceptAll_of_eq (h.trans (by rw [valueOf, ← hk, hp]))
      | some p =>
        dsimp only
        rw [if_pos (hl'.1 p hp)]
        apply valueOf_acceptAll_of_eq
        rw [valueOf_cons, if_pos hk, valueOf, ← hk, hp]
    · have ht' : t ∈ l := (List.mem_cons.1 ht).resolve_left fun he => hk (he ▸ rfl)
      cases hp : locate params s.key with
      | none => exact ih hl'.2 ht' h
      | some p =>
        dsimp only
        rw [if_pos (hl'.1 p hp)]
        exact ih hl'.2 ht' (by rw [valueOf_cons, if_neg hk, h])

theorem contextOf_congr {b : List OsslParam} (h : ∀ s ∈ rsaencSetters, valueOf a s = valueOf b s) :
    contextOf a key = contextOf b key := by
  simp only [rsaencSetters, List.forall_mem_cons] at h
  obtain ⟨hpad, hdigest, hmgf, hlabel, hclient, hnegotiated, -⟩ := h
  simp only [contextOf, hpad, hdigest, hmgf, hlabel, hclient, hnegotiated]

/-- The context of a list of accepted values is what a fresh one becomes with them. -/
theorem AllAccepted.freshContext_eq (h : AllAccepted a) (key : Option ObjId) :
    freshContext a key = contextOf a key := by
  have hkeeps : KeepsMode (contextOf [] key) a :=
    { padMode := fun he => absurd he Bool.false_ne_true
      mgf := by
        intro _ _ p name hp hname hmgf
        have hacc := h oaepMgf1DigestSetter (by simp [rsaencSetters]) p hp
        simp only [Setter.accepts, oaepMgf1DigestSetter, hname, hmgf, if_true] at hacc
        exact absurd hacc (by decide) }
  change (setAll a rsaencSetters (contextOf [] key)).2 = contextOf a key
  rw [setAll_contextOf hkeeps.allFollow]
  exact contextOf_congr fun s hs => valueOf_acceptAll h hs rfl

end Values

/-! ## Runs -/

section Runs

variable {O : Oracle} {ctx : Ctx} {c c' : RsaencCtx} {a : List OsslParam}

/-- An initialisation gives a context another key, or none. -/
theorem rsaencDecryptKey_keeps {key : Option ObjId} {st st' : State} {ok : Bool}
    (h : Runs (env O) (rsaencDecryptKey ctx c key) st (ok, c') st') :
    c' = { c with key := c'.key } := by
  have hwp : wp (env O) (rsaencDecryptKey ctx c key)
      (fun r _ => r.2 = { c with key := r.2.key }) st := by
    unfold rsaencDecryptKey
    rw [wp_bind]
    apply wp_mono wp_true
    intro ret _ _
    split
    · rfl
    · rw [wp_bind]
      apply wp_mono wp_true
      intro obj _ _
      cases obj with
      | none => rfl
      | some obj =>
        dsimp only
        rw [wp_bind]
        apply wp_mono wp_true
        intro _ _ _
        rfl
  exact h.of_wp hwp

/-- What a call with parameters makes of the context of a list. -/
theorem setCtxParams_contextOf {params : Option (List OsslParam)} {key : Option ObjId}
    (h : ∀ l, params = some l → KeepsMode (contextOf a key) l) :
    (rsaencSetCtxParams params (contextOf a key)).2 = contextOf (acceptParams params a) key := by
  cases params with
  | none => rfl
  | some params => exact setAll_contextOf (h params rfl).allFollow

theorem AllAccepted.acceptParams (h : AllAccepted a) (params : Option (List OsslParam)) :
    AllAccepted (acceptParams params a) := by
  cases params with
  | none => exact h
  | some params => exact h.acceptAll fun s hs => hs

theorem contextOf_key (a : List OsslParam) (key key' : Option ObjId) :
    { contextOf a key with key := key' } = contextOf a key' := rfl

/-- The context is that of the values it was given, all of which were accepted. -/
theorem RsaencReach.contextOf_eq (h : RsaencReach O ctx KeepsMode c a) :
    c = contextOf a c.key ∧ AllAccepted a := by
  induction h with
  | new => exact ⟨rfl, fun s _ p hp => by simp [locate] at hp⟩
  | @setCtxParams c a h params hok ih =>
    rw [ih.1] at hok
    rw [ih.1, setCtxParams_contextOf hok]
    exact ⟨rfl, ih.2.acceptParams params⟩
  | @refused c c' a h key st st' hrun ih =>
    refine ⟨?_, ih.2⟩
    conv_lhs => rw [rsaencDecryptKey_keeps hrun, ih.1, contextOf_key]
  | @decryptInit c c' a h key params st st' hrun hok ih =>
    have hc : c' = contextOf a c'.key := by
      conv_lhs => rw [rsaencDecryptKey_keeps hrun, ih.1, contextOf_key]
    rw [hc] at hok
    rw [hc, setCtxParams_contextOf hok]
    exact ⟨rfl, ih.2.acceptParams params⟩

/-- The context is a fresh one with the values it was given. -/
theorem RsaencReach.eq_fresh (h : RsaencReach O ctx KeepsMode c a) :
    c = freshContext a c.key := by
  rw [h.contextOf_eq.2.freshContext_eq]
  exact h.contextOf_eq.1

end Runs

/-! ## Buffers -/

/-- The flag of the TLS padding goes with the mechanism of that padding. -/
theorem contextOf_tls {a : List OsslParam} {key : Option ObjId}
    (h : (contextOf a key).tlsPadding.enabled) : (contextOf a key).mechtype = Ckm.rsaPkcs := by
  change (valueOf a rsaencPadModeSetter).any isTlsPadMode at h
  cases hp : valueOf a rsaencPadModeSetter with
  | none => simp [hp] at h
  | some p =>
    rw [hp, Option.any_some] at h
    simp [contextOf, hp, rsaencPaddingType_tls h]

/-- A buffer is announced with its size, unless the mechanism is not that of the TLS padding. -/
theorem announced_le {c : RsaencCtx} (h : c.tlsPadding.enabled → c.mechtype = Ckm.rsaPkcs)
    (keySize outsize : Nat) :
    (c.decryptBuffer keySize outsize).announced ≤ (c.decryptBuffer keySize outsize).size := by
  by_cases he : c.tlsPadding.enabled
  · simp [RsaencCtx.decryptBuffer, he, h he]
  · simp [RsaencCtx.decryptBuffer, he]

/-- The bytes that are looked at are the first 48 ones. -/
theorem tlsConstantTimeDepadding_staysIn {w : Nat} (t : TlsPadding) (buf : Bytes)
    (outSize : BitVec w) (randbuf : Vector UInt8 sslMaxMasterKeyLength) (n : Nat) :
    StaysIn n (tlsConstantTimeDepadding t buf outSize randbuf) ↔ sslMaxMasterKeyLength ≤ n := by
  have hread (i : Nat) (hi : i < sslMaxMasterKeyLength) :
      StaysIn n (readByte buf (.ofNat 64 i)) ↔ i < n :=
    StaysIn.read_iff (hi.trans (by decide))
  unfold tlsConstantTimeDepadding StaysIn
  rw [Traced.All.bind_iff, Traced.All.bind_iff, Traced.All.bind_iff, Traced.All.mapM_iff]
  constructor
  · rintro ⟨-, -, hall, -⟩
    exact (hread 47 (by decide)).1 (hall 47 (List.mem_range.2 (by decide)))
  · intro hn
    refine ⟨(hread 0 (by decide)).2 ?_, (hread 1 (by decide)).2 ?_, fun i hi => ?_, .pure⟩
    · exact Nat.lt_of_lt_of_le (by decide) hn
    · exact Nat.lt_of_lt_of_le (by decide) hn
    · have hi := List.mem_range.1 hi
      exact (hread i hi).2 (hi.trans_le hn)

/-! ## The last padding mode -/

/-- Decryption follows the values that were accepted last, in runs that stay with the TLS padding
    mode once they have it, and that have no digest for the mask generation refused. The length that
    is announced is that of the buffer, and a temporary buffer is read up to its end if the key has
    the 48 bytes that are looked at. -/
theorem rsaenc_follows_last {O : Oracle} {ctx : Ctx} {c : RsaencCtx} {a : List OsslParam}
    (h : RsaencReach O ctx KeepsMode c a) :
    (∀ w ctx' out inp,
      rsaencDecrypt w ctx' c out inp = rsaencDecrypt w ctx' (freshContext a c.key) out inp) ∧
    ∀ keySize outsize, c.fits keySize outsize →
      (c.decryptBuffer keySize outsize).announced ≤ (c.decryptBuffer keySize outsize).size ∧
      ((c.decryptBuffer keySize outsize).tmp →
        ∀ w buf (outSize : BitVec w) randbuf,
          StaysIn keySize (tlsConstantTimeDepadding c.tlsPadding buf outSize randbuf) ↔
            sslMaxMasterKeyLength ≤ keySize) := by
  refine ⟨fun w ctx' out inp => ?_, fun keySize outsize _ => ⟨?_, fun _ w buf outSize randbuf => ?_⟩⟩
  · rw [← h.eq_fresh]
  · apply announced_le
    rw [h.contextOf_eq.1]
    exact contextOf_tls
  · exact tlsConstantTimeDepadding_staysIn c.tlsPadding buf outSize randbuf keySize

/-- The padding mode of TLS. -/
def tlsMode : List OsslParam := [⟨ascii "pad-mode", .integer rsaPkcs1WithTlsPadding⟩]

/-- The padding mode of OAEP. -/
def oaepMode : List OsslParam := [⟨ascii "pad-mode", .utf8String (some (ascii "oaep"))⟩]

/-- A context with the padding mode of TLS. -/
def tlsContext : RsaencCtx := (rsaencSetCtxParams (some tlsMode) {}).2

theorem tlsContext_reach : RsaencReach (replies plain) plainCtx KeepsMode tlsContext tlsMode := by
  refine .setCtxParams .new (some tlsMode) fun l hl => ⟨fun he => ?_, fun _ _ p name hp => ?_⟩
  · exact absurd he Bool.false_ne_true
  · obtain rfl := Option.some.inj hl
    have hnone : locate tlsMode oaepMgf1DigestSetter.key = none := by decide
    exact absurd (hnone.symm.trans hp) (by simp)

theorem rsaenc_follows_last_tls :
    RsaencReach (replies plain) plainCtx KeepsMode tlsContext tlsMode ∧
    tlsContext.fits 256 100 ∧
    (tlsContext.decryptBuffer 256 100).announced ≤ (tlsContext.decryptBuffer 256 100).size :=
  ⟨tlsContext_reach, by decide, ((rsaenc_follows_last tlsContext_reach).2 256 100 (by decide)).1⟩

/-- Another padding mode after that of TLS leaves the flag: a buffer of 100 bytes of the caller is
    announced with the 256 bytes of the key. -/
theorem rsaenc_announces_too_much :
    RsaencReach (replies plain) plainCtx (fun _ _ => True)
      (rsaencSetCtxParams (some oaepMode) tlsContext).2 (oaepMode ++ tlsMode) ∧
    (rsaencSetCtxParams (some oaepMode) tlsContext).2.fits 256 100 ∧
    (rsaencSetCtxParams (some oaepMode) tlsContext).2.decryptBuffer 256 100 =
      { tmp := false, size := 100, announced := 256 } :=
  ⟨.setCtxParams (.setCtxParams .new (some tlsMode) fun _ _ => trivial) (some oaepMode)
    fun _ _ => trivial, by decide, by decide⟩

end P11Prov
