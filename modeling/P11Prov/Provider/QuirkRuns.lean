import P11Prov.Provider.QuirkStore

/-!
# Runs of the store of the quirks

Values are set one after another, by name or for an attribute that a token supports.
In a run whose calls fit the map of what was set before (`QuirkCall.Fits`), the store
stays that map (`QuirkRuns.refines`): the last value is returned, a call that fails
changes nothing, and what is stored for an attribute is what is got for it
(`quirksRightIn`). Two pairs are one too many (`not_quirksRightIn`).
-/

namespace P11Prov

/-- The calls that set a value. -/
inductive QuirkCall
  | setQuirk (id : SlotId) (name data : Bytes)
  | setSupAttr (id : SlotId) (attr : BitVec 64) (data : UInt8)

/-- The slot of the value. -/
def QuirkCall.id : QuirkCall → SlotId
  | setQuirk id _ _ => id
  | setSupAttr id _ _ => id

/-- The name of the value. -/
def QuirkCall.name : QuirkCall → Bytes
  | setQuirk _ name _ => name
  | setSupAttr _ attr _ => supAttrName attr

/-- The value. -/
def QuirkCall.data : QuirkCall → Bytes
  | setQuirk _ _ data => data
  | setSupAttr _ _ data => [data]

/-- The call of the source. -/
def QuirkCall.run (noAllowedMechanisms : Bool) (st : QuirkStore) (env : QuirkEnv) :
    QuirkCall → Option (CkRv × QuirkStore)
  | setQuirk id name data => P11Prov.setQuirk st id name data env
  | setSupAttr id attr data =>
    (tokenSupAttr noAllowedMechanisms st id setAttrAction attr data env).map fun r => (r.1, r.2.2)

/-- The attribute is not stored, as a quirk of the module says so. -/
def Ungated (noAllowedMechanisms : Bool) (attr : BitVec 64) : Prop :=
  ¬(attr = ckaAllowedMechanismsWord ∧ noAllowedMechanisms)

/-- The call is not about an attribute that is not stored, and its value fits the map. -/
def QuirkCall.Fits (noAllowedMechanisms : Bool) (m : QuirkMap) (env : QuirkEnv) (call : QuirkCall) : Prop :=
  (∀ id attr data, call = setSupAttr id attr data → Ungated noAllowedMechanisms attr) ∧
    QuirkFits m call.id call.name call.data env

/-- The stores that are reached, with the values that were set last. -/
inductive QuirkRuns (noAllowedMechanisms : Bool) (fits : QuirkMap → QuirkEnv → QuirkCall → Prop) :
    QuirkStore → QuirkMap → Prop
  | start : QuirkRuns noAllowedMechanisms fits {} .empty
  | step {st st' m env call rv} (hrun : QuirkRuns noAllowedMechanisms fits st m) (henv : env.Ok st)
    (hfits : fits m env call) (hcall : call.run noAllowedMechanisms st env = some (rv, st')) :
    QuirkRuns noAllowedMechanisms fits st' (m.after rv call.id call.name call.data)

/-- The store is the map. -/
structure QuirksRightIn (noAllowedMechanisms : Bool) (fits : QuirkMap → QuirkEnv → QuirkCall → Prop)
    (st : QuirkStore) (m : QuirkMap) : Prop where
  /-- The last value is returned, if the caller has room for it. -/
  get : ∀ id name v size env, m id name = some v → v ≠ [] → env.rdlock = true →
    (size = 0 → env.malloc ≠ none) → (size ≠ 0 → v.length ≤ size) →
    getQuirk st id name true size env = some (Ckr.ok, some v, v.length)
  /-- Nothing is returned if nothing was set, or the last value is empty. -/
  getNothing : ∀ id name wanted size env, (m id name).getD [] = [] → env.rdlock = true →
    getQuirk st id name wanted size env = some (Ckr.ok, none, size)
  /-- A call is defined. -/
  set : ∀ (call : QuirkCall) (env : QuirkEnv), env.Ok st → fits m env call →
    ∃ r, call.run noAllowedMechanisms st env = some r
  /-- A call that fails changes nothing. -/
  setFails : ∀ (call : QuirkCall) (env : QuirkEnv) rv st', env.Ok st →
    call.run noAllowedMechanisms st env = some (rv, st') → rv ≠ Ckr.ok → st' = st
  /-- What is stored for an attribute is what is got for it. -/
  getSupAttr : ∀ id attr val data env, Ungated noAllowedMechanisms attr →
    m id (supAttrName attr) = some [val] → env.rdlock = true →
    tokenSupAttr noAllowedMechanisms st id getAttrAction attr data env = some (Ckr.ok, val, st)
  getSupAttrNothing : ∀ id attr data env, Ungated noAllowedMechanisms attr →
    m id (supAttrName attr) = none → env.rdlock = true →
    tokenSupAttr noAllowedMechanisms st id getAttrAction attr data env = some (Ckr.ok, data, st)
  /-- No other attribute is stored under its name. -/
  supAttr : Function.Injective supAttrName

variable {noAllowedMechanisms : Bool} {st st' : QuirkStore} {m : QuirkMap} {env : QuirkEnv}
  {call : QuirkCall} {rv : CkRv} {id : SlotId} {attr : BitVec 64}

theorem run_setSupAttr (h : Ungated noAllowedMechanisms attr) (b : UInt8) :
    (QuirkCall.setSupAttr id attr b).run noAllowedMechanisms st env =
      setQuirk st id (supAttrName attr) [b] env := by
  rw [QuirkCall.run, tokenSupAttr, if_neg h, if_neg (by decide), if_pos rfl]
  cases setQuirk st id (supAttrName attr) [b] env <;> rfl

/-- A call that fits sets its value. -/
theorem QuirkCall.Fits.run_eq {env : QuirkEnv} (h : call.Fits noAllowedMechanisms m env) :
    call.run noAllowedMechanisms st env = P11Prov.setQuirk st call.id call.name call.data env := by
  cases call with
  | setQuirk id name data => rfl
  | setSupAttr id attr data => exact run_setSupAttr (h.1 id attr data rfl) data

theorem run_fails (henv : env.Ok st) (h : call.run noAllowedMechanisms st env = some (rv, st'))
    (hrv : rv ≠ Ckr.ok) : st' = st := by
  cases call with
  | setQuirk id name data => exact setQuirk_fails henv h hrv
  | setSupAttr id attr data =>
    by_cases hgate : Ungated noAllowedMechanisms attr
    · rw [run_setSupAttr hgate] at h
      exact setQuirk_fails henv h hrv
    · rw [QuirkCall.run, tokenSupAttr, if_pos (not_not.1 hgate)] at h
      exact (Prod.mk.inj (Option.some.inj h)).2.symm

/-- In a run whose calls fit, the store refines the map. -/
theorem QuirkRuns.refines (h : QuirkRuns noAllowedMechanisms (QuirkCall.Fits noAllowedMechanisms) st m) :
    st.Refines m := by
  induction h with
  | start => exact .inl ⟨rfl, rfl⟩
  | step _ henv hfits hcall ih =>
    -- the call is a call of `setQuirk`, also for an attribute
    obtain ⟨rv, st', hset, hrefines⟩ := setQuirk_refines ih henv hfits.2
    rw [hfits.run_eq, hset] at hcall
    obtain ⟨rfl, rfl⟩ := Prod.mk.inj (Option.some.inj hcall)
    exact hrefines

theorem tokenSupAttr_get (h : Ungated noAllowedMechanisms attr) (data : UInt8) :
    tokenSupAttr noAllowedMechanisms st id getAttrAction attr data env =
      (getQuirk st id (supAttrName attr) true 1 env).map fun r =>
        (r.1, (r.2.1.bind (·.head?)).getD data, st) := by
  rw [tokenSupAttr, if_neg h, if_pos rfl, Option.map_eq_bind]
  rfl

/-- In every run whose calls fit, the store is the map of what was set last. -/
theorem quirksRightIn (h : QuirkRuns noAllowedMechanisms (QuirkCall.Fits noAllowedMechanisms) st m) :
    QuirksRightIn noAllowedMechanisms (QuirkCall.Fits noAllowedMechanisms) st m where
  get id name v size env hv hne hlock halloc hroom := getQuirk_value h.refines hv hne hlock halloc hroom
  getNothing id name wanted size env hv hlock := getQuirk_nothing h.refines hv hlock
  set call env henv hfits := by
    obtain ⟨rv, st', hset, -⟩ := setQuirk_refines h.refines henv hfits.2
    exact ⟨_, hfits.run_eq.trans hset⟩
  setFails call env rv st' henv hcall hrv := run_fails henv hcall hrv
  getSupAttr id attr val data env hgate hv hlock := by
    have hget : getQuirk st id (supAttrName attr) true 1 env = some (Ckr.ok, some [val], 1) :=
      getQuirk_value h.refines hv (List.cons_ne_nil _ _) hlock (by simp) (fun _ => le_rfl)
    rw [tokenSupAttr_get hgate, hget]
    rfl
  getSupAttrNothing id attr data env hgate hv hlock := by
    rw [tokenSupAttr_get hgate, getQuirk_nothing h.refines (by rw [hv]; rfl) hlock]
    rfl
  supAttr := supAttrName_injective

/-- Nothing is allocated for small values. -/
theorem quirkEnv_ok (st : QuirkStore) : QuirkEnv.Ok {} st := fun _ hptr => nomatch hptr

/-- A value for one pair, and then another for it. -/
theorem quirksRightIn_replaced :
    ∃ st, QuirksRightIn false (QuirkCall.Fits false) st
      ((QuirkMap.empty.set 1 (ascii "a") [1]).set 1 (ascii "a") [2]) := by
  have hone : (QuirkCall.setQuirk 1 (ascii "a") [1]).Fits false .empty {} :=
    ⟨fun _ _ _ h => (nomatch h), .inr ⟨fun _ _ h => absurd rfl h, fun h => absurd h (by decide)⟩⟩
  have htwo : (QuirkCall.setQuirk 1 (ascii "a") [2]).Fits false
      (QuirkMap.empty.set 1 (ascii "a") [1]) {} := by
    refine ⟨fun _ _ _ h => (nomatch h), .inr ⟨fun id name h => ?_, fun h => absurd h (by decide)⟩⟩
    by_contra hne
    exact h (if_neg hne)
  have hfirst := (QuirkRuns.step .start (quirkEnv_ok {}) hone rfl : QuirkRuns false _ _ _)
  exact ⟨_, quirksRightIn (.step hfirst (quirkEnv_ok _) htwo rfl)⟩

/-- A second pair is not found. -/
theorem not_quirksRightIn : ¬∀ noAllowedMechanisms st m,
    QuirkRuns noAllowedMechanisms (fun _ _ _ => True) st m →
      QuirksRightIn noAllowedMechanisms (fun _ _ _ => True) st m := by
  intro h
  have hfirst := (QuirkRuns.step .start (quirkEnv_ok {}) trivial
    (show (QuirkCall.setQuirk 1 (ascii "a") [1]).run false {} {} = some (Ckr.ok, _) from rfl) :
      QuirkRuns false (fun _ _ _ => True) _ _)
  have hsecond := (QuirkRuns.step hfirst (quirkEnv_ok _) trivial
    (show (QuirkCall.setQuirk 1 (ascii "b") [2]).run false _ {} = some (Ckr.ok, _) from rfl) :
      QuirkRuns false (fun _ _ _ => True) _ _)
  -- the second entry is behind the one that is counted
  have hget := (h false _ _ hsecond).get 1 (ascii "b") [2] 1 {} rfl (by decide) rfl (by decide)
    (by decide)
  exact absurd hget (by decide +kernel)

end P11Prov
