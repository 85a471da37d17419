import P11Prov.Kem

/-!
# Encapsulation and decapsulation

What `p11prov_mlkem_encapsulate` and `p11prov_mlkem_decapsulate` return, and what
they leave on the tokens (`mlkemEncapsulate_spec`, `mlkemDecapsulate_spec`). A
secret that was made is read and destroyed by one function (`takeSecret_spec`).

What one of two peers decapsulates is what the other one encapsulated, on
whatever tokens the two have their keys (`mlkem_round_trip`). With tokens that
accept the calls, and large buffers, the two get this far (`mlkem_agree`).
-/

namespace P11Prov

open Interaction

variable {κ : Type} {kem : MlKem κ} {keys : KemKeys κ} {coins : Nat → Bytes}
  {st st' : KemState} {c : KemCtx} {ctLen ssLen : Nat}

/-! ## Secrets -/

/-- The objects, the references and the sessions are as before, and so is what the tokens hold,
    but for secrets that they refused to destroy. -/
structure Tidied (st st' : KemState) : Prop where
  obj : st'.obj = st.obj
  refs : st'.refs = st.refs
  taken : st'.taken = st.taken
  undestroyed : st.undestroyed ⊆ st'.undestroyed
  secret : ∀ k, k ∉ st'.undestroyed → st'.secret k = st.secret k

theorem Tidied.refl : Tidied st st := ⟨rfl, rfl, rfl, fun _ h => h, fun _ _ => rfl⟩

/-- The state after a session was taken and a secret made on it, if the code says so. -/
def KemState.made (st : KemState) (s : SessId) (rv : CkRv) (secret : ObjectHandle)
    (v : Option Bytes) (drawn : Nat) : KemState :=
  { st with
    taken := s :: st.taken
    secret := if rv = Ckr.ok then Function.update st.secret (s.slot, secret) v else st.secret
    drawn := drawn }

theorem takeSecret_spec {s : SessId} {rv : CkRv} {secret : ObjectHandle} {v : Option Bytes}
    {drawn : Nat} (hnew : st.NewSecret s rv secret) :
    wp (kemEnv kem keys coins) (takeSecret s rv secret ssLen)
      (fun r st' => Tidied st st' ∧ (r.1 = Ckr.ok → rv = Ckr.ok ∧ v = some r.2 ∧
        r.2.length ≤ ssLen)) (st.made s rv secret v drawn) := by
  unfold takeSecret
  by_cases hrv : rv = Ckr.ok
  · rw [KemState.NewSecret, if_pos hrv] at hnew
    rw [if_pos hrv]
    intro r hr
    have hread : r.1 = Ckr.ok → rv = Ckr.ok ∧ v = some r.2 ∧ r.2.length ≤ ssLen := by
      intro h
      have hv := hr h
      simp only [KemState.made, if_pos hrv, Function.update_self] at hv
      exact ⟨hrv, hv⟩
    change wp _ (if secret ≠ ckInvalidHandle then _ else _) _ (st.made s rv secret v drawn)
    rw [if_pos hnew.1]
    intro rv' _ _ _
    refine ⟨?_, hread⟩
    -- the handle was not in use, so a secret that is destroyed leaves nothing; else it is noted
    by_cases hdestroyed : rv' = Ckr.ok
    · simp only [kemEnv, kemAfter, if_pos hdestroyed, KemState.made, if_pos hrv,
        Function.update_idem]
      refine ⟨rfl, rfl, List.erase_cons_head .., fun _ h => h, fun k _ => ?_⟩
      by_cases hk : k = (s.slot, secret)
      · simp [hk, hnew.2]
      · simp [hk]
    · simp only [kemEnv, kemAfter, if_neg hdestroyed, KemState.made, if_pos hrv]
      refine ⟨rfl, rfl, List.erase_cons_head .., List.subset_cons_self .., fun k hk => ?_⟩
      exact Function.update_of_ne (fun h => hk (List.mem_cons.2 (.inl h))) ..
  · -- no secret was made, and its handle is not set
    rw [KemState.NewSecret, if_neg hrv] at hnew
    simp only [if_neg hrv, Prog.pure_eq, Prog.ret_bind]
    rw [if_neg (not_not_intro hnew)]
    intro _ _
    refine ⟨?_, fun h => absurd h hrv⟩
    simp only [kemEnv, kemAfter, KemState.made, if_neg hrv]
    exact ⟨rfl, rfl, List.erase_cons_head .., fun _ h => h, fun _ _ => rfl⟩

/-! ## Keys -/

/-- The value of the key of a context. -/
def KeyIs (keys : KemKeys κ) (st : KemState) (c : KemCtx) (key : κ) : Prop :=
  ∃ o obj, c.key = some o ∧ st.obj o = some obj ∧ keys.value obj.slotid obj.handle = some key

/-- A handle that the token has a key for is that of the key of the context. -/
theorem KeyIs.handle {o : ObjId} {obj : Obj} {key key' : κ} {h : ObjectHandle} {slot : SlotId}
    (hkey : KeyIs keys st c key) (hc : c.key = some o) (hobj : obj = (st.obj o).getD Obj.freed)
    (hslot : slot = obj.slotid)
    (hh : h = ckInvalidHandle ∨ ∃ obj, st.obj o = some obj ∧ h = obj.handle)
    (hvalue : keys.value slot h = some key') : key' = key := by
  obtain ⟨o', obj', hc', hobj', hkey⟩ := hkey
  obtain rfl : o = o' := Option.some.inj (hc.symm.trans hc')
  rw [hobj', Option.getD_some] at hobj
  subst hobj hslot
  rcases hh with rfl | ⟨obj', h', rfl⟩
  · rw [keys.invalid] at hvalue
    cases hvalue
  · obtain rfl := Option.some.inj (hobj'.symm.trans h')
    exact Option.some.inj (hvalue.symm.trans hkey)

/-! ## Encapsulation -/

theorem mlkemEncapsulateOn_spec {s : SessId} {o : ObjId} :
    wp (kemEnv kem keys coins) (mlkemEncapsulateOn s o ctLen ssLen)
      (fun r st' => Tidied st st' ∧ (r.ret = retOsslOk → r.ct.length ≤ ctLen ∧
        r.ss.length ≤ ssLen ∧ ∃ h key, (h = ckInvalidHandle ∨
          ∃ obj, st.obj o = some obj ∧ h = obj.handle) ∧ keys.value s.slot h = some key ∧
        (r.ct, r.ss) = kem.encaps key (coins st.drawn))) { st with taken := s :: st.taken } := by
  intro h hh e he
  have hafter : kemAfter kem keys coins { st with taken := s :: st.taken }
      (.encapsulateKey s Ckm.mlKem h { valueLen := mlkemSsLen } ctLen) e =
      st.made s e.rv e.secret
        ((keys.value s.slot h).map fun key => (kem.encaps key (coins st.drawn)).2)
        (if e.rv = Ckr.ok then st.drawn + 1 else st.drawn) := by
    rw [kemAfter, KemState.made]
    split <;> rfl
  have hnew : st.NewSecret s e.rv e.secret := he.1
  change wp _ (takeSecret s e.rv e.secret ssLen >>= _) _
    (kemAfter kem keys coins { st with taken := s :: st.taken } _ e)
  rw [hafter]
  refine wp.bind (takeSecret_spec hnew) ?_
  rintro r st₂ ⟨htidied, hread⟩
  refine ⟨htidied, fun hret => ?_⟩
  by_cases hr : r.1 = Ckr.ok
  · obtain ⟨hrv, hv, hlen⟩ := hread hr
    obtain ⟨hct, key, hkey, hencaps⟩ := he.2 hrv
    rw [hkey, Option.map_some, Option.some.injEq] at hv
    simp only [if_pos hr, if_pos hrv]
    exact ⟨hct, hlen, h, key, hh, hkey, Prod.ext hencaps hv.symm⟩
  · rw [if_neg hr] at hret
    split at hret <;> cases hret

/-- What the result of an encapsulation says: the ciphertext and the secret are those of the key of
    the context, and they fit into the buffers. -/
theorem mlkemEncapsulate_spec {ct ss : Bool} :
    wp (kemEnv kem keys coins) (mlkemEncapsulate c ct ctLen ss ssLen)
      (fun r st' => Tidied st st' ∧ (r.ret = retOsslOk → ct = true → ss = true →
        r.ct.length ≤ ctLen ∧ r.ss.length ≤ ssLen ∧ ∀ key, KeyIs keys st c key →
          (r.ct, r.ss) = kem.encaps key (coins st.drawn))) st := by
  have hfail : retOsslErr ≠ retOsslOk := by decide
  unfold mlkemEncapsulate
  cases hc : c.key with
  | none => exact ⟨.refl, fun h => absurd h hfail⟩
  | some o =>
    simp only [kemCall, Prog.perform_eq, Prog.call_bind, Prog.ret_bind, wp_call]
    intro obj hobj
    have hst : (kemEnv kem keys coins).next st (.loadObj o) obj = st := rfl
    rw [hst]
    cases mlkemCtLen obj with
    | none => exact ⟨.refl, fun h => absurd h hfail⟩
    | some len =>
      refine wp_ite.2 ⟨fun hnull => ⟨.refl, ?_⟩, fun _ => wp_ite.2
        ⟨fun _ => ⟨.refl, fun h => absurd h hfail⟩, fun _ => wp_ite.2
          ⟨fun _ => ⟨.refl, fun h => absurd h hfail⟩, fun _ => ?_⟩⟩⟩
      · rintro - rfl rfl
        cases hnull
      · intro r hr
        cases r with
        | error rv => exact ⟨.refl, fun h => absurd h hfail⟩
        | ok s =>
          refine wp_mono mlkemEncapsulateOn_spec fun r st' h => ⟨h.1, fun hret _ _ => ?_⟩
          obtain ⟨hct, hss, h', key', hh, hvalue, hout⟩ := h.2 hret
          refine ⟨hct, hss, fun key hkey => ?_⟩
          rw [hout, hkey.handle hc hobj (hr s rfl).1 hh hvalue]

/-! ## Decapsulation -/

theorem mlkemDecapsulateOn_spec {s : SessId} {o : ObjId} {ct : Bytes} :
    wp (kemEnv kem keys coins) (mlkemDecapsulateOn s o ssLen ct)
      (fun r st' => Tidied st st' ∧ (r.ret = retOsslOk → r.ss.length ≤ ssLen ∧
        ∃ h key, (h = ckInvalidHandle ∨ ∃ obj, st.obj o = some obj ∧ h = obj.handle) ∧
        keys.value s.slot h = some key ∧ r.ss = kem.decaps key ct))
      { st with taken := s :: st.taken } := by
  intro h hh e he
  have hafter : kemAfter kem keys coins { st with taken := s :: st.taken }
      (.decapsulateKey s Ckm.mlKem h { valueLen := mlkemSsLen } ct) e =
      st.made s e.1 e.2 ((keys.value s.slot h).map fun key => kem.decaps key ct) st.drawn := by
    rw [kemAfter, KemState.made]
    split <;> rfl
  have hnew : st.NewSecret s e.1 e.2 := he.1
  change wp _ (takeSecret s e.1 e.2 ssLen >>= _) _
    (kemAfter kem keys coins { st with taken := s :: st.taken } _ e)
  rw [hafter]
  refine wp.bind (takeSecret_spec hnew) ?_
  rintro r st₂ ⟨htidied, hread⟩
  refine ⟨htidied, fun hret => ?_⟩
  by_cases hr : r.1 = Ckr.ok
  · obtain ⟨hrv, hv, hlen⟩ := hread hr
    obtain ⟨key, hkey⟩ := he.2 hrv
    rw [hkey, Option.map_some, Option.some.injEq] at hv
    simp only [if_pos hr]
    exact ⟨hlen, h, key, hh, hkey, hv.symm⟩
  · rw [if_neg hr] at hret
    cases hret

/-- What the result of a decapsulation says: the secret is what the key of the context decapsulates,
    and it fits into the buffer. -/
theorem mlkemDecapsulate_spec {ss : Bool} {ct : Bytes} :
    wp (kemEnv kem keys coins) (mlkemDecapsulate c ss ssLen ct)
      (fun r st' => Tidied st st' ∧ (r.ret = retOsslOk → ss = true → r.ss.length ≤ ssLen ∧
        ∀ key, KeyIs keys st c key → r.ss = kem.decaps key ct)) st := by
  have hfail : retOsslErr ≠ retOsslOk := by decide
  unfold mlkemDecapsulate
  cases hc : c.key with
  | none => exact ⟨.refl, fun h => absurd h hfail⟩
  | some o =>
    simp only [kemCall, Prog.perform_eq, Prog.call_bind, Prog.ret_bind, wp_call]
    intro obj hobj
    have hst : (kemEnv kem keys coins).next st (.loadObj o) obj = st := rfl
    rw [hst]
    cases mlkemCtLen obj with
    | none => exact ⟨.refl, fun h => absurd h hfail⟩
    | some len =>
      refine wp_ite.2 ⟨fun hnull => ⟨.refl, ?_⟩, fun _ => wp_ite.2
        ⟨fun _ => ⟨.refl, fun h => absurd h hfail⟩, fun _ => wp_ite.2
          ⟨fun _ => ⟨.refl, fun h => absurd h hfail⟩, fun _ => ?_⟩⟩⟩
      · rintro - rfl
        cases hnull
      · intro r hr
        cases r with
        | error rv => exact ⟨.refl, fun h => absurd h hfail⟩
        | ok s =>
          refine wp_mono mlkemDecapsulateOn_spec fun r st' h => ⟨h.1, fun hret _ => ?_⟩
          obtain ⟨hss, h', key', hh, hvalue, hout⟩ := h.2 hret
          refine ⟨hss, fun key hkey => ?_⟩
          rw [hout, hkey.handle hc hobj (hr s rfl).1 hh hvalue]

/-! ## Calls that are accepted -/

/-- The answers where no call fails. -/
def KemAccepted : (c : KemCall) → c.Resp → Prop
  | .ctxStatus, rv => rv = Ckr.ok
  | .getSession _ _, r => ∃ s, r = .ok s
  | .encapsulateKey _ _ _ _ _, r => r.rv = Ckr.ok
  | .decapsulateKey _ _ _ _ _, r => r.1 = Ckr.ok
  | .getValue _ _ _, r => r.1 = Ckr.ok
  | _, _ => True

/-- The context has an ML-KEM key on a slot, whose ciphertexts have this length. -/
structure KeyReady (st : KemState) (c : KemCtx) (o : ObjId) (obj : Obj) (len : Nat) : Prop where
  key : c.key = some o
  alive : st.obj o = some obj
  len : mlkemCtLen obj = some len
  slot : obj.slotid ≠ ckUnavailableInformation

theorem takeSecret_accepted {s : SessId} {secret : ObjectHandle} :
    wp ((kemEnv kem keys coins).restrict KemAccepted) (takeSecret s Ckr.ok secret ssLen)
      (fun r _ => r.1 = Ckr.ok) st := by
  unfold takeSecret
  rw [if_pos rfl]
  intro r hr
  exact wp_ite.2 ⟨fun _ _ _ _ _ => hr.2, fun _ _ _ => hr.2⟩

/-- With accepted calls and buffers that are large enough, an encapsulation succeeds. -/
theorem mlkemEncapsulate_accepted {o : ObjId} {obj : Obj} {len : Nat}
    (h : KeyReady st c o obj len) (hct : len ≤ ctLen) (hss : mlkemSsLen ≤ ssLen) :
    wp ((kemEnv kem keys coins).restrict KemAccepted) (mlkemEncapsulate c true ctLen true ssLen)
      (fun r _ => r.ret = retOsslOk) st := by
  unfold mlkemEncapsulate
  rw [h.key]
  simp only [kemCall, Prog.perform_eq, Prog.call_bind, Prog.ret_bind, wp_call]
  rintro obj' ⟨hobj', -⟩
  obtain rfl : obj' = obj := hobj'.trans (by rw [h.alive, Option.getD_some])
  simp only [h.len]
  refine wp_ite.2 ⟨fun hnull => absurd hnull (by decide), fun _ => wp_ite.2
    ⟨fun hshort => ?_, fun _ => wp_ite.2 ⟨fun hslot => absurd hslot h.slot, fun _ => ?_⟩⟩⟩
  · omega
  · rintro r ⟨-, s, rfl⟩
    intro handle _ e he
    have hrv : e.rv = Ckr.ok := he.2
    change wp _ (takeSecret s e.rv e.secret ssLen >>= _) _ _
    rw [hrv]
    refine wp.bind takeSecret_accepted fun r _ hr => ?_
    simp [hr]

/-- With accepted calls and a buffer that is large enough, a decapsulation succeeds. -/
theorem mlkemDecapsulate_accepted {o : ObjId} {obj : Obj} {len : Nat} {ct : Bytes}
    (h : KeyReady st c o obj len) (hss : mlkemSsLen ≤ ssLen) :
    wp ((kemEnv kem keys coins).restrict KemAccepted) (mlkemDecapsulate c true ssLen ct)
      (fun r _ => r.ret = retOsslOk) st := by
  unfold mlkemDecapsulate
  rw [h.key]
  simp only [kemCall, Prog.perform_eq, Prog.call_bind, Prog.ret_bind, wp_call]
  rintro obj' ⟨hobj', -⟩
  obtain rfl : obj' = obj := hobj'.trans (by rw [h.alive, Option.getD_some])
  simp only [h.len]
  refine wp_ite.2 ⟨fun hnull => absurd hnull (by decide), fun _ => wp_ite.2
    ⟨fun hshort => ?_, fun _ => wp_ite.2 ⟨fun hslot => absurd hslot h.slot, fun _ => ?_⟩⟩⟩
  · omega
  · rintro r ⟨-, s, rfl⟩
    intro handle _ e he
    have hrv : e.1 = Ckr.ok := he.2
    change wp _ (takeSecret s e.1 e.2 ssLen >>= _) _ _
    rw [hrv]
    refine wp.bind takeSecret_accepted fun r _ hr => ?_
    simp [hr]

/-! ## A token with one key -/

/-- A mechanism that adds a key to each byte, in the place of ML-KEM. -/
def maskKem : MlKem UInt8 where
  encaps key m := (m.map (· + key), m)
  decaps key ct := ct.map (· - key)

theorem maskKem_pair (key : UInt8) (m : Bytes) :
    maskKem.decaps key (maskKem.encaps key m).1 = (maskKem.encaps key m).2 := by
  have hid : (fun x => x - key) ∘ (fun x => x + key) = id := by
    funext x
    exact UInt8.add_sub_cancel x key
  simp [maskKem, hid]

/-- A token with one key of the value 7, under the handle 3 of the slot. -/
def oneKey (slot : SlotId) : KemKeys UInt8 where
  value slot' h := if slot' = slot ∧ h = 3 then some 7 else none
  invalid slot' := if_neg fun h => absurd h.2 (by decide)

/-- A key of ML-KEM-512. -/
def oneObj (cls : Nat) (slot : SlotId) : Obj :=
  { slotid := slot, handle := 3, cls := cls, key := { type := ckkMlKem, size := 800 } }

/-- One object is alive, and the caller has a reference to it. -/
def oneState (cls : Nat) (slot : SlotId) : KemState where
  obj o := if o = 1 then some (oneObj cls slot) else none
  refs o := if o = 1 then 1 else 0

theorem oneState_keyReady (cls : Nat) {slot : SlotId} (h : slot ≠ ckUnavailableInformation)
    (hcls : cls ∈ [Cko.privateKey, Cko.publicKey]) :
    KeyReady (oneState cls slot) { key := some 1 } 1 (oneObj cls slot) 768 where
  key := rfl
  alive := rfl
  len := by
    simp only [List.mem_cons, List.not_mem_nil, or_false] at hcls
    rcases hcls with rfl | rfl <;> rfl
  slot := h

/-! ## Two peers -/

/-- What the private key decapsulates is the secret of the ciphertext. -/
theorem MlKem.decapsulated {pk sk : κ} {m ct ss ss' : Bytes}
    (hpair : ∀ m, kem.decaps sk (kem.encaps pk m).1 = (kem.encaps pk m).2)
    (h : (ct, ss) = kem.encaps pk m) (h' : ss' = kem.decaps sk ct) : ss' = ss := by
  obtain ⟨hct, hss⟩ := Prod.ext_iff.1 h
  calc ss'
    _ = kem.decaps sk ct := h'
    _ = kem.decaps sk (kem.encaps pk m).1 := by rw [← hct]
    _ = (kem.encaps pk m).2 := hpair m
    _ = ss := hss.symm

/-- What is decapsulated with the private key is the secret that was encapsulated with the public
    key. The two may be on different tokens, and the tokens may have been used in between. -/
theorem mlkem_round_trip {keys' : KemKeys κ} {coins' : Nat → Bytes} {d : KemCtx} {pk sk : κ}
    (hpair : ∀ m, kem.decaps sk (kem.encaps pk m).1 = (kem.encaps pk m).2)
    (hc : KeyIs keys st c pk) (hd : KeyIs keys' st' d sk) (ctLen ssLen ssLen' : Nat) :
    wp (kemEnv kem keys coins) (mlkemEncapsulate c true ctLen true ssLen)
      (fun r _ => r.ret = retOsslOk →
        wp (kemEnv kem keys' coins') (mlkemDecapsulate d true ssLen' r.ct)
          (fun r' _ => r'.ret = retOsslOk → r'.ss = r.ss) st') st := by
  refine wp_mono mlkemEncapsulate_spec fun r _ h hret => ?_
  have hencaps := (h.2 hret rfl rfl).2.2 pk hc
  refine wp_mono mlkemDecapsulate_spec fun r' _ h' hret' => ?_
  exact MlKem.decapsulated hpair hencaps ((h'.2 hret' rfl).2 sk hd)

theorem mlkem_round_trip_512 :
    (∀ m, maskKem.decaps 7 (maskKem.encaps 7 m).1 = (maskKem.encaps 7 m).2) ∧
    wp (kemEnv maskKem (oneKey 2) fun n => [UInt8.ofNat n])
      (mlkemEncapsulate { key := some 1 } true 768 true 32) (fun r _ => r.ret = retOsslOk →
        wp (kemEnv maskKem (oneKey 5) fun _ => []) (mlkemDecapsulate { key := some 1 } true 32 r.ct)
          (fun r' _ => r'.ret = retOsslOk → r'.ss = r.ss) (oneState Cko.privateKey 5))
      (oneState Cko.publicKey 2) :=
  ⟨maskKem_pair 7, mlkem_round_trip (maskKem_pair 7)
    ⟨1, oneObj Cko.publicKey 2, rfl, rfl, rfl⟩ ⟨1, oneObj Cko.privateKey 5, rfl, rfl, rfl⟩ 768 32 32⟩

/-- With tokens that accept the calls, and buffers that are large enough, the two have the same
    secret. -/
theorem mlkem_agree {keys' : KemKeys κ} {coins' : Nat → Bytes} {d : KemCtx} {pk sk : κ}
    {o o' : ObjId} {obj obj' : Obj} {len len' ctLen ssLen ssLen' : Nat}
    (hpair : ∀ m, kem.decaps sk (kem.encaps pk m).1 = (kem.encaps pk m).2)
    (hc : KeyReady st c o obj len) (hpk : keys.value obj.slotid obj.handle = some pk)
    (hd : KeyReady st' d o' obj' len') (hsk : keys'.value obj'.slotid obj'.handle = some sk)
    (hct : len ≤ ctLen) (hss : mlkemSsLen ≤ ssLen) (hss' : mlkemSsLen ≤ ssLen') :
    wp ((kemEnv kem keys coins).restrict KemAccepted) (mlkemEncapsulate c true ctLen true ssLen)
      (fun r _ => r.ret = retOsslOk ∧
        wp ((kemEnv kem keys' coins').restrict KemAccepted) (mlkemDecapsulate d true ssLen' r.ct)
          (fun r' _ => r'.ret = retOsslOk ∧ r'.ss = r.ss) st') st := by
  refine wp_mono (wp_and (wp_restrict mlkemEncapsulate_spec)
    (mlkemEncapsulate_accepted hc hct hss)) fun r _ h => ⟨h.2, ?_⟩
  have hencaps := (h.1.2 h.2 rfl rfl).2.2 pk ⟨o, obj, hc.key, hc.alive, hpk⟩
  refine wp_mono (wp_and (wp_restrict mlkemDecapsulate_spec)
    (mlkemDecapsulate_accepted hd hss')) fun r' _ h' => ⟨h'.2, ?_⟩
  have hdecaps := (h'.1.2 h'.2 rfl).2 sk ⟨o', obj', hd.key, hd.alive, hsk⟩
  exact MlKem.decapsulated hpair hencaps hdecaps

theorem mlkem_agree_512 :
    wp ((kemEnv maskKem (oneKey 2) fun n => [UInt8.ofNat n]).restrict KemAccepted)
      (mlkemEncapsulate { key := some 1 } true 768 true 32) (fun r _ => r.ret = retOsslOk ∧
        wp ((kemEnv maskKem (oneKey 5) fun _ => []).restrict KemAccepted)
          (mlkemDecapsulate { key := some 1 } true 32 r.ct)
          (fun r' _ => r'.ret = retOsslOk ∧ r'.ss = r.ss) (oneState Cko.privateKey 5))
      (oneState Cko.publicKey 2) :=
  mlkem_agree (maskKem_pair 7) (oneState_keyReady Cko.publicKey (by decide) (by decide)) rfl
    (oneState_keyReady Cko.privateKey (by decide) (by decide)) rfl le_rfl le_rfl le_rfl

end P11Prov
