import P11Prov.Signature.Pss

/-!
# The parameters of a PSS signature

What a context was told about its PSS signatures is its digest and, if they were
given, a salt length and a mask function (`PssSettings`). Whatever was not given
follows from the digest. The context keeps all of it in one block, where a zero
stands for what was not given, and puts the defaults there too: when it signs,
and when it is asked for the identifier of the algorithm. From then on a default
looks as if it had been given, so it outlasts a change of the digest and a new
initialisation. And a salt of no bytes cannot be asked for.

As long as no call runs into this, every signature has the parameters that the
settings stand for, whatever was read or signed before (`pssSent_resolve`).
-/

namespace P11Prov

open Interaction

/-! ## Settings -/

/-- The mask function that goes with a digest. -/
def mgfOf (digest : Nat) : Nat := (rsasigDigestMap digest).elim 0 (·.mgf)

/-- What a context was told: a salt length counts as the number of bytes it stands for when it is
    given. -/
structure PssSettings where
  digest : Nat
  sLen : Option Nat := none
  mgf : Option Nat := none

/-- The salt length that a value stands for, with a given key and digest. -/
def chosenSaltlen (key : Option Obj) (digest : Nat) (v : Int) : Nat :=
  if 0 ≤ v then v.toNat
  else if v = -1 then digestSizeOf digest
  else
    let sLen := maxSaltlen (keyMember key (·.size)) (keyMember key (·.bitSize)) (digestSizeOf digest)
    if v = -4 ∧ digestSizeOf digest < sLen then digestSizeOf digest else sLen

namespace PssSettings

/-- The digest that parameters name. -/
def givenDigest (params : List OsslParam) : Option Nat :=
  (locate params (ascii "digest")).bind fun p =>
    p.getUtf8StringPtr.bind fun name => (digestGetByName name).toOption

/-- The mask function that parameters name. -/
def givenMgf (params : List OsslParam) : Option Nat :=
  (locate params (ascii "mgf1-digest")).bind fun p => p.getUtf8StringPtr.map sigMapMgf

/-- The salt length that parameters give. -/
def givenSaltlen (key : Option Obj) (digest : Nat) (params : List OsslParam) : Option Nat :=
  ((locate params (ascii "saltlen")).bind saltlenValue).map (chosenSaltlen key digest)

/-- The settings after parameters were given. -/
def given (s : PssSettings) (key : Option Obj) (params : List OsslParam) : PssSettings :=
  let digest := (givenDigest params).getD s.digest
  { digest, sLen := (givenSaltlen key digest params).or s.sLen, mgf := (givenMgf params).or s.mgf }

/-- The parameters that the settings stand for. -/
def resolve (s : PssSettings) : PssParams where
  hashAlg := s.digest
  mgf := s.mgf.getD (mgfOf s.digest)
  sLen := s.sLen.getD (digestSizeOf s.digest)

end PssSettings

/-! ## Runs -/

/-- The calls on a context between two initialisations. -/
inductive PssCall
  | set (ctx : Ctx) (key : Option Obj) (params : List OsslParam)
  | get (params : Option (List OutParam))
  | sign

/-- What a call does to the settings and to the context. Parameters must have been accepted; a
    signature sets the mechanism, and may fail. -/
inductive PssStep (O : Oracle) : PssCall → PssSettings → SigCtx → PssSettings → SigCtx → Prop
  | set {ctx : Ctx} {key : Option Obj} {params : List OsslParam} {s : PssSettings} {c : SigCtx}
      (h : (rsasigSetCtxParams ctx key (some params) c).1 = retOsslOk) :
      PssStep O (.set ctx key params) s c (s.given key params)
        (rsasigSetCtxParams ctx key (some params) c).2
  | get {params : Option (List OutParam)} {s : PssSettings} {c : SigCtx} :
      PssStep O (.get params) s c s (rsasigGetCtxParams params c).2.2
  | sign {s : PssSettings} {c : SigCtx} {r : CkRv × SigCtx} {st st' : State}
      (h : Runs (env O) (rsasigSetMechanism c) st r st') : PssStep O .sign s c s r.2

/-- The settings and the context after calls that meet a condition, from a context that was just
    initialised. -/
inductive PssReached (O : Oracle) (ok : PssSettings → SigCtx → PssCall → Prop) (c₀ : SigCtx) :
    PssSettings → SigCtx → Prop
  | init : PssReached O ok c₀ { digest := c₀.digest } c₀
  | step {call : PssCall} {s s' : PssSettings} {c c' : SigCtx} (h : PssReached O ok c₀ s c)
      (hok : ok s c call) (hstep : PssStep O call s c s' c') : PssReached O ok c₀ s' c'

/-- A signature that has PSS parameters has those that the settings stand for. -/
def SendsResolved (O : Oracle) (s : PssSettings) (c : SigCtx) : Prop :=
  c.mechtype = Ckm.rsaPkcsPss → ∀ st, wp (env O) (rsasigSetMechanism c)
    (fun r _ => r.1 = Ckr.ok → r.2.parameter = .pss s.resolve) st

/-- A value is not in the block, or is the default. -/
def Unfixed (default actual : Nat) : Prop := actual = 0 ∨ actual = default

/-- The parameters do not run into what is kept for unset: they ask for no salt of zero bytes, and
    what is in the block without having been given is the default of the new digest. -/
def PssCall.Careful (s : PssSettings) (c : SigCtx) : PssCall → Prop
  | set _ key params =>
    let s' := s.given key params
    s'.sLen ≠ some 0 ∧
      (s'.sLen = none → Unfixed (digestSizeOf s'.digest) c.pssParams.sLen) ∧
      (s'.mgf = none → Unfixed (mgfOf s'.digest) c.pssParams.mgf)
  | _ => True

/-! ## Accepted parameters -/

section Accepted

variable {ctx : Ctx} {key : Option Obj} {params : List OsslParam} {c : SigCtx}

theorem setAll_cons_ok {σ : Type} {s : Setter σ} {setters : List (Setter σ)} {c : σ}
    (h : (setAll params (s :: setters) c).1 = retOsslOk) :
    (s.run params c).1 = retOsslOk ∧
      (setAll params setters (s.run params c).2).1 = retOsslOk ∧
      (setAll params (s :: setters) c).2 = (setAll params setters (s.run params c).2).2 := by
  by_cases hs : (s.run params c).1 = retOsslOk
  · have hall : setAll params (s :: setters) c = setAll params setters (s.run params c).2 := by
      simp [setAll, hs]
    exact ⟨hs, hall ▸ h, congrArg Prod.snd hall⟩
  · simp only [setAll, ne_eq, hs, not_false_eq_true, if_true] at h

theorem digestSetter_ok (h : (digestSetter.run params c).1 = retOsslOk) :
    (digestSetter.run params c).2 =
      { c with digest := (PssSettings.givenDigest params).getD c.digest } := by
  simp only [Setter.run, PssSettings.givenDigest, digestSetter] at h ⊢
  cases hp : locate params (ascii "digest") with
  | none => rfl
  | some p =>
    simp only [hp, Option.bind_some] at h ⊢
    cases hn : p.getUtf8StringPtr with
    | none => simp [hn, retOsslErr, retOsslOk] at h
    | some name =>
      cases hd : digestGetByName name with
      | error ret => simp [hn, hd, retOsslErr, retOsslOk] at h
      | ok digest => simp [hd, Except.toOption]

theorem padModeSetter_keeps : ∃ mechtype, ((padModeSetter ctx key).run params c).2 =
    { c with mechtype } := by
  simp only [Setter.run, padModeSetter]
  cases locate params (ascii "pad-mode") with
  | none => exact ⟨c.mechtype, rfl⟩
  | some p =>
    dsimp only
    cases paddingType p with
    | none => exact ⟨c.mechtype, rfl⟩
    | some mechtype =>
      dsimp only
      split
      · exact ⟨c.mechtype, rfl⟩
      · exact ⟨mechtype, rfl⟩

theorem setPssSaltlenMax_ok {toDigest : Bool} (h : (setPssSaltlenMax key c toDigest).1 = retOsslOk) :
    (setPssSaltlenMax key c toDigest).2 = c.setSaltlen
      (if toDigest ∧ digestSizeOf c.digest < maxSaltlen (keyMember key (·.size))
          (keyMember key (·.bitSize)) (digestSizeOf c.digest) then digestSizeOf c.digest
        else maxSaltlen (keyMember key (·.size)) (keyMember key (·.bitSize))
          (digestSizeOf c.digest)) := by
  unfold setPssSaltlenMax at h ⊢
  split at h
  · simp [retOsslErr, retOsslOk] at h
  rw [if_neg ‹_›]
  cases hd : digestGetDigestSize c.digest with
  | error ret => simp [hd, retOsslErr, retOsslOk] at h
  | ok size =>
    simp only [hd] at h ⊢
    split at h
    · simp [retOsslErr, retOsslOk] at h
    · rw [if_neg ‹_›]
      simp [digestSizeOf, hd, Except.toOption]

/-- An accepted salt length is the one that its value stands for. -/
theorem rsasigSetSaltlen_ok {v : Int} (h : (rsasigSetSaltlen key c v).1 = retOsslOk) :
    (rsasigSetSaltlen key c v).2 = c.setSaltlen (chosenSaltlen key c.digest v) := by
  unfold rsasigSetSaltlen at h ⊢
  by_cases h0 : 0 ≤ v
  · simp [h0, chosenSaltlen]
  by_cases h1 : v = -1
  · subst h1
    simp only [h0, if_false, if_true, setPssSaltlenFromDigest] at h ⊢
    split at h
    · simp [retOsslErr, retOsslOk] at h
    rw [if_neg ‹_›]
    cases hd : digestGetDigestSize c.digest with
    | error ret => simp [hd, retOsslErr, retOsslOk] at h
    | ok size => simp [chosenSaltlen, digestSizeOf, hd, Except.toOption]
  by_cases h2 : v = -2 ∨ v = -3
  · have h4 : v ≠ -4 := by omega
    simp only [h0, h1, h2, if_false, if_true] at h ⊢
    rw [setPssSaltlenMax_ok h]
    simp [chosenSaltlen, h0, h1, h4]
  by_cases h4 : v = -4
  · subst h4
    simp only [h0, h1, h2, if_false, if_true] at h ⊢
    rw [setPssSaltlenMax_ok h]
    simp [chosenSaltlen]
  · simp [h0, h1, h2, h4, retOsslErr, retOsslOk] at h

theorem saltlenSetter_ok (h : ((saltlenSetter key).run params c).1 = retOsslOk) :
    ((saltlenSetter key).run params c).2 =
      (PssSettings.givenSaltlen key c.digest params).elim c c.setSaltlen := by
  simp only [Setter.run, PssSettings.givenSaltlen, saltlenSetter] at h ⊢
  cases hp : locate params (ascii "saltlen") with
  | none => rfl
  | some p =>
    simp only [hp, Option.bind_some] at h ⊢
    split at h
    · simp [retOsslErr, retOsslOk] at h
    rw [if_neg ‹_›]
    cases hv : saltlenValue p with
    | none => simp [hv, retOsslErr, retOsslOk] at h
    | some v =>
      simp only [hv] at h ⊢
      rw [rsasigSetSaltlen_ok h]
      rfl

theorem mgf1DigestSetter_ok (h : (mgf1DigestSetter.run params c).1 = retOsslOk) :
    (mgf1DigestSetter.run params c).2 = { c with pssParams := { c.pssParams with
      mgf := (PssSettings.givenMgf params).getD c.pssParams.mgf } } := by
  simp only [Setter.run, PssSettings.givenMgf, mgf1DigestSetter] at h ⊢
  cases hp : locate params (ascii "mgf1-digest") with
  | none => rfl
  | some p =>
    simp only [hp, Option.bind_some] at h ⊢
    cases hn : p.getUtf8StringPtr with
    | none => simp [hn, retOsslErr, retOsslOk] at h
    | some name => rfl

/-- No name of a mask function stands for the value of an unset one. -/
theorem sigMapMgf_ne_zero (name : Bytes) : sigMapMgf name ≠ 0 := by
  unfold sigMapMgf
  cases digestGetByName name with
  | error ret => exact (by decide : ckUnavailableInformation ≠ 0)
  | ok digest =>
    dsimp only
    cases hdata : rsasigDigestMap digest with
    | none => decide
    | some data =>
      obtain ⟨-, -, -, -, hmgf⟩ := rsasigMechMap_digest (rsasigDigestMap_some hdata).1
      exact hmgf

theorem signatureSetter_keeps : ∃ signature, (signatureSetter.run params c).2 =
    { c with signature } := by
  simp only [Setter.run, signatureSetter]
  cases locate params (ascii "signature") with
  | none => exact ⟨c.signature, rfl⟩
  | some p =>
    dsimp only
    cases p.getOctetString with
    | none => exact ⟨none, rfl⟩
    | some sig => exact ⟨some sig, rfl⟩

/-- What accepted parameters leave in the context: the digest, and in the block what was given. -/
theorem rsasigSetCtxParams_ok (h : (rsasigSetCtxParams ctx key (some params) c).1 = retOsslOk) :
    let digest := (PssSettings.givenDigest params).getD c.digest
    (rsasigSetCtxParams ctx key (some params) c).2.digest = digest ∧
    (rsasigSetCtxParams ctx key (some params) c).2.pssParams.sLen =
      (PssSettings.givenSaltlen key digest params).getD c.pssParams.sLen ∧
    (rsasigSetCtxParams ctx key (some params) c).2.pssParams.mgf =
      (PssSettings.givenMgf params).getD c.pssParams.mgf := by
  intro digest
  simp only [rsasigSetCtxParams, rsasigSetters] at h ⊢
  obtain ⟨hdigest, h, e⟩ := setAll_cons_ok h
  rw [digestSetter_ok hdigest] at h e
  rw [e]
  obtain ⟨-, h, e⟩ := setAll_cons_ok h
  obtain ⟨mechtype, hm⟩ := @padModeSetter_keeps ctx key params { c with digest }
  rw [hm] at h e
  rw [e]
  obtain ⟨hsaltlen, h, e⟩ := setAll_cons_ok h
  rw [saltlenSetter_ok hsaltlen] at h e
  rw [e]
  obtain ⟨hmgf, h, e⟩ := setAll_cons_ok h
  rw [mgf1DigestSetter_ok hmgf] at h e
  rw [e]
  obtain ⟨-, -, e⟩ := setAll_cons_ok h
  rw [e]
  obtain ⟨signature, hsig⟩ := signatureSetter_keeps
  rw [hsig]
  cases PssSettings.givenSaltlen key digest params <;> exact ⟨rfl, rfl, rfl⟩

end Accepted

/-! ## The block of a context -/

/-- A member of the block, against what was given for it and its default. -/
def Kept (given : Option Nat) (default actual : Nat) : Prop :=
  match given with
  | some n => actual = n ∧ n ≠ 0
  | none => Unfixed default actual

/-- The block has what was given, and defaults at most where nothing was. -/
structure PssSettings.Kept (s : PssSettings) (c : SigCtx) : Prop where
  digest : c.digest = s.digest
  sLen : P11Prov.Kept s.sLen (digestSizeOf s.digest) c.pssParams.sLen
  mgf : P11Prov.Kept s.mgf (mgfOf s.digest) c.pssParams.mgf

section Block

variable {given : Option Nat} {default actual : Nat}

/-- Putting the default where nothing is gives the value that is meant. -/
theorem Kept.resolve (h : Kept given default actual) :
    (if actual = 0 then default else actual) = given.getD default := by
  cases given with
  | some n =>
    obtain ⟨rfl, hn⟩ := h
    simp [hn]
  | none =>
    rcases h with rfl | rfl <;> simp

/-- It keeps the block as it should be. -/
theorem Kept.fix (h : Kept given default actual) :
    Kept given default (if actual = 0 then default else actual) := by
  cases given with
  | some n =>
    obtain ⟨rfl, hn⟩ := h
    simp [hn, Kept]
  | none =>
    rcases h with rfl | rfl
    · exact .inr (if_pos rfl)
    · exact .inr (by simp)

/-- A new value, or the old one. -/
theorem Kept.or {new : Option Nat} {default' : Nat} (h : Kept given default actual)
    (hnew : new ≠ some 0) (hnone : new.or given = none → Unfixed default' actual) :
    Kept (new.or given) default' (new.getD actual) := by
  cases new with
  | some n => exact ⟨rfl, fun hn => hnew (congrArg some hn)⟩
  | none =>
    cases given with
    | some n => exact h
    | none => exact hnone rfl

variable {O : Oracle} {s s' : PssSettings} {c c' : SigCtx}

theorem withDefaults_eq {data : RsasigData} (h : rsasigDigestMap c.digest = some data) :
    c.pssParams.withDefaults data =
      { hashAlg := c.digest
        mgf := if c.pssParams.mgf = 0 then mgfOf c.digest else c.pssParams.mgf
        sLen := if c.pssParams.sLen = 0 then digestSizeOf c.digest else c.pssParams.sLen } := by
  obtain ⟨-, hdig⟩ := rsasigDigestMap_some h
  simp [PssParams.withDefaults, mgfOf, h, digestSizeOf, hdig]

/-- The defaults of the digest give the parameters that the settings stand for. -/
theorem PssSettings.Kept.resolve {data : RsasigData} (hk : s.Kept c)
    (h : rsasigDigestMap c.digest = some data) : c.pssParams.withDefaults data = s.resolve := by
  rw [withDefaults_eq h, hk.digest, hk.sLen.resolve, hk.mgf.resolve]
  rfl

theorem PssSettings.Kept.withDefaults {data : RsasigData} (hk : s.Kept c)
    (h : rsasigDigestMap c.digest = some data) (hc : c'.digest = c.digest)
    (hp : c'.pssParams = c.pssParams.withDefaults data) : s.Kept c' where
  digest := hc.trans hk.digest
  sLen := by
    rw [hp, withDefaults_eq h, hk.digest]
    exact hk.sLen.fix
  mgf := by
    rw [hp, withDefaults_eq h, hk.digest]
    exact hk.mgf.fix

/-- What reading and signing do to a context: at most, they put the defaults into its block. -/
def Defaulted (c c' : SigCtx) : Prop :=
  c'.digest = c.digest ∧ (c'.pssParams = c.pssParams ∨ ∃ data,
    rsasigDigestMap c.digest = some data ∧ c'.pssParams = c.pssParams.withDefaults data)

theorem PssSettings.Kept.defaulted (hk : s.Kept c) (h : Defaulted c c') : s.Kept c' := by
  obtain ⟨hdig, hp | ⟨data, hdata, hp⟩⟩ := h
  · exact ⟨hdig.trans hk.digest, hp ▸ hk.sLen, hp ▸ hk.mgf⟩
  · exact hk.withDefaults hdata hdig hp

theorem Defaulted.refl : Defaulted c c := ⟨rfl, .inl rfl⟩

theorem pssDefaults_defaulted : Defaulted c (pssDefaults c).2 := by
  cases h : rsasigDigestMap c.digest with
  | none =>
    simp only [pssDefaults, h]
    exact .refl
  | some data =>
    rw [pssDefaults_eq h]
    exact ⟨rfl, .inr ⟨data, h, rfl⟩⟩

theorem rsapssEncodeAlgorithmId_defaulted : Defaulted c (rsapssEncodeAlgorithmId c).2 := by
  have hctx : (rsapssEncodeAlgorithmId c).2 = (pssDefaults c).2 := by
    unfold rsapssEncodeAlgorithmId
    dsimp only
    split
    · rfl
    · split
      · split <;> rfl
      · rfl
  exact hctx ▸ pssDefaults_defaulted

/-- Of the getters, only that of the identifier touches the context. -/
theorem rsasigGetters_defaulted {g : Bytes × (OutParam → SigCtx → Option OsslData × SigCtx)}
    (hg : g ∈ rsasigGetters) (p : OutParam) : Defaulted c (g.2 p c).2 := by
  simp only [rsasigGetters, List.mem_cons, List.not_mem_nil, or_false] at hg
  rcases hg with rfl | rfl | rfl | rfl
  · simp only [rsasigGetAlgorithmId]
    split
    · exact .refl
    split
    · exact .refl
    split
    · exact rsapssEncodeAlgorithmId_defaulted
    · exact .refl
  · exact .refl
  · exact .refl
  · exact .refl

theorem rsasigSetMechanism_defaulted {st : State} :
    wp (env O) (rsasigSetMechanism c) (fun r _ => Defaulted c r.2) st := by
  have hdefaults : Defaulted c (pssDefaults (c.setMech c.mechtype .null)).2 :=
    pssDefaults_defaulted (c := c.setMech c.mechtype .null)
  unfold rsasigSetMechanism
  refine wp_ite.2 ⟨fun _ => .refl, fun _ => ?_⟩
  refine wp_ite.2 ⟨fun _ => .refl, fun _ => ?_⟩
  refine wp_ite.2 ⟨fun _ => .refl, fun _ => ?_⟩
  refine wp_ite.2 ⟨fun _ => ?_, fun _ => .refl⟩
  refine wp_ite.2 ⟨fun _ => hdefaults, fun _ => ?_⟩
  refine wp_ite.2 ⟨fun _ => ?_, fun _ => hdefaults⟩
  exact wp_bind.2 (wp_mono wp_true fun _ _ _ => hdefaults)

end Block

/-! ## Runs -/

section Runs

variable {O : Oracle} {s s' : PssSettings} {c c' c₀ : SigCtx} {call : PssCall}

/-- Every call keeps the block, if it is careful. -/
theorem PssStep.kept (h : PssStep O call s c s' c') (hc : call.Careful s c) (hk : s.Kept c) :
    s'.Kept c' := by
  cases h with
  | @set ctx key params _ _ hok =>
    obtain ⟨hdigest, hsLen, hmgf⟩ := rsasigSetCtxParams_ok hok
    obtain ⟨hzero, hs, hm⟩ := hc
    rw [hk.digest] at hdigest hsLen
    refine ⟨hdigest, ?_, ?_⟩
    · rw [hsLen]
      refine hk.sLen.or (fun hnew => hzero ?_) hs
      simp only [PssSettings.given, hnew, Option.some_or]
    · rw [hmgf]
      refine hk.mgf.or (fun hnew => ?_) hm
      simp only [PssSettings.givenMgf, Option.bind_eq_some_iff, Option.map_eq_some_iff] at hnew
      obtain ⟨p, -, name, -, hname⟩ := hnew
      exact sigMapMgf_ne_zero name hname
  | @get params =>
    cases params with
    | none => exact hk
    | some params =>
      exact getAll_keeps (fun g hg p c hc => hc.defaulted (rsasigGetters_defaulted hg p)) hk
  | sign hrun => exact hk.defaulted (hrun.of_wp rsasigSetMechanism_defaulted)

theorem PssReached.kept (h : PssReached O (fun s c call => call.Careful s c) c₀ s c)
    (hsLen : c₀.pssParams.sLen = 0) (hmgf : c₀.pssParams.mgf = 0) : s.Kept c := by
  induction h with
  | init => exact ⟨rfl, .inl hsLen, .inl hmgf⟩
  | step _ hok hstep ih => exact hstep.kept hok ih

/-- What was given last is what the next signature is made with, however often the parameters were
    read and signatures were made in between: in every run from a context with an empty block whose
    calls are careful. -/
theorem pssSent_resolve (h : PssReached O (fun s c call => call.Careful s c) c₀ s c)
    (hsLen : c₀.pssParams.sLen = 0) (hmgf : c₀.pssParams.mgf = 0) : SendsResolved O s c := by
  have hk := h.kept hsLen hmgf
  intro hm st
  refine wp_mono rsasigSetMechanism_spec ?_
  rintro r st' ⟨-, hchosen⟩ hok
  have hc := hchosen hok
  cases hdata : rsasigDigestMap c.digest with
  | none =>
    -- no signature is made with a digest that has no mask function
    simp [rsasigChosen, hdata, hm] at hc
  | some data =>
    rw [rsasigChosen_pss hm hdata, Option.some.injEq] at hc
    rw [← hc, ← hk.resolve hdata]
    rfl

/-- A context with PSS and SHA-256, right after its initialisation. -/
def pssFresh : SigCtx := { mechtype := Ckm.rsaPkcsPss, digest := Ckm.sha256 }

/-- The context after it was asked for the identifier of the algorithm. -/
def pssRead : SigCtx :=
  (rsasigGetCtxParams (some [⟨ascii "algorithm-id", .octetString, 128⟩]) pssFresh).2.2

/-- A context after it was given parameters. -/
def pssGiven (params : List OsslParam) (c : SigCtx) : SigCtx :=
  (rsasigSetCtxParams { slots := [] } none (some params) c).2

theorem pssRead_reached {ok : PssSettings → SigCtx → PssCall → Prop}
    (hok : ∀ params, ok { digest := Ckm.sha256 } pssFresh (.get params)) :
    PssReached O ok pssFresh { digest := Ckm.sha256 } pssRead := .step .init (hok _) .get

/-- The identifier is read, and then a salt of 20 bytes is asked for. -/
theorem pssSent_resolve_saltlen : SendsResolved (fun _ _ _ => True)
    (PssSettings.given { digest := Ckm.sha256 } none [⟨ascii "saltlen", .integer 20⟩])
    (pssGiven [⟨ascii "saltlen", .integer 20⟩] pssRead) := by
  have hcareful : (PssCall.set { slots := [] } none [⟨ascii "saltlen", .integer 20⟩]).Careful
      { digest := Ckm.sha256 } pssRead := by
    refine ⟨by decide +kernel, fun h => absurd h (by decide +kernel), fun _ => .inr ?_⟩
    decide +kernel
  have hread : PssReached (fun _ _ _ => True) (fun s c call => call.Careful s c) pssFresh
      { digest := Ckm.sha256 } pssRead := pssRead_reached fun _ => trivial
  exact pssSent_resolve (hread.step hcareful (.set (by decide +kernel))) rfl rfl

/-- A raw signature is made with the block and the defaults of the digest. -/
theorem SendsResolved.eq {data : RsasigData} (h : SendsResolved O s c)
    (hm : c.mechtype = Ckm.rsaPkcsPss) (hop : c.digestOp = false)
    (hdata : rsasigDigestMap c.digest = some data) : c.pssParams.withDefaults data = s.resolve := by
  have hdefaults := pssDefaults_eq (c := c.setMech Ckm.rsaPkcsPss .null) hdata
  have hset : rsasigSetMechanism c = pure (Ckr.ok, { c.setMech Ckm.rsaPkcsPss .pssParams with
      pssParams := c.pssParams.withDefaults data }) := by
    simp only [rsasigSetMechanism, hm, SigCtx.setMech_digestOp, hop, Bool.false_eq_true,
      SigCtx.setMech_digest, false_and, if_false, SigCtx.setMech_mechtype, hdefaults, ne_eq,
      not_true, rsasigMech]
    rfl
  have hsent := h hm {}
  rw [hset] at hsent
  exact MechParameter.pss.inj (hsent rfl)

/-- After the identifier was read, another digest is signed with the salt length and the mask
    function of the first one; and a salt of no bytes becomes one of the size of the digest. -/
theorem pssSent_stale :
    PssReached (fun _ _ _ => True) (fun _ _ _ => True) pssFresh
      (PssSettings.given { digest := Ckm.sha256 } none
        [⟨ascii "digest", .utf8String (some (ascii "SHA512"))⟩])
      (pssGiven [⟨ascii "digest", .utf8String (some (ascii "SHA512"))⟩] pssRead) ∧
    ¬SendsResolved (fun _ _ _ => True)
      (PssSettings.given { digest := Ckm.sha256 } none
        [⟨ascii "digest", .utf8String (some (ascii "SHA512"))⟩])
      (pssGiven [⟨ascii "digest", .utf8String (some (ascii "SHA512"))⟩] pssRead) ∧
    ¬SendsResolved (fun _ _ _ => True)
      (PssSettings.given { digest := Ckm.sha256 } none [⟨ascii "saltlen", .integer 0⟩])
      (pssGiven [⟨ascii "saltlen", .integer 0⟩] pssFresh) := by
  refine ⟨.step (pssRead_reached fun _ => trivial) trivial (.set (by decide +kernel)),
    fun h => ?_, fun h => ?_⟩
  · exact absurd (h.eq (by decide +kernel) (by decide +kernel)
      (show _ = some (rsasigMechMap.get ⟨4, by decide⟩) by decide +kernel)) (by decide +kernel)
  · exact absurd (h.eq (by decide +kernel) (by decide +kernel)
      (show _ = some (rsasigMechMap.get ⟨2, by decide⟩) by decide +kernel)) (by decide +kernel)

end Runs

end P11Prov
