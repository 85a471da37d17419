import Mathlib.Data.List.Induction
import P11Prov.Kem.RoundTrip

/-!
# Any calls on any contexts

OpenSSL has any number of contexts at a time, and `KemOp` are its calls on them,
by the position of the context. Whatever the calls are, and whatever the tokens
answer: each context has one reference to its key, all sessions were given back,
and the tokens hold what they held before, but for secrets that they refused to
destroy (`kem_leaves_nothing`).
-/

namespace P11Prov

open Interaction

variable {κ : Type} {kem : MlKem κ} {keys : KemKeys κ} {coins : Nat → Bytes}
  {st st' : KemState} {c : KemCtx}

/-! ## Calls -/

/-- A call of OpenSSL. A context is created behind the others. -/
inductive KemOp
  | newctx
  | freectx (i : Nat)
  | encapsulateInit (i : Nat) (key : Option ObjId) (ikme : Bool)
  | decapsulateInit (i : Nat) (key : Option ObjId) (ikme : Bool)
  | encapsulate (i : Nat) (ct : Bool) (ctLen : Nat) (ss : Bool) (ssLen : Nat)
  | decapsulate (i : Nat) (ss : Bool) (ssLen : Nat) (ct : Bytes)

/-- The contexts, `none` where one was freed. -/
abbrev KemCtxs := List (Option KemCtx)

/-- Runs a function on a context that is there, and keeps what it makes of it. -/
def onKemCtx (ctxs : KemCtxs) (i : Nat) (f : KemCtx → K (Option KemCtx)) : K KemCtxs :=
  match ctxs[i]?.join with
  | none => return ctxs
  | some c => do return ctxs.set i (← f c)

def KemOp.run (ctxs : KemCtxs) : KemOp → K KemCtxs
  | newctx => return ctxs ++ [some {}]
  | freectx i => onKemCtx ctxs i fun c => do
    mlkemFreectx c
    return none
  | encapsulateInit i key ikme => onKemCtx ctxs i fun c => do
    return (← mlkemEncapsulateInit c key ikme).2
  | decapsulateInit i key ikme => onKemCtx ctxs i fun c => do
    return (← mlkemDecapsulateInit c key ikme).2
  | encapsulate i ct ctLen ss ssLen => onKemCtx ctxs i fun c => do
    let _ ← mlkemEncapsulate c ct ctLen ss ssLen
    return c
  | decapsulate i ss ssLen ct => onKemCtx ctxs i fun c => do
    let _ ← mlkemDecapsulate c ss ssLen ct
    return c

/-- What any sequence of calls leads to, from no context. -/
inductive KemReached (E : Env KemState KemCall.Resp) (start : KemState) : KemCtxs → KemState → Prop
  | start : KemReached E start [] start
  | step {ctxs ctxs' : KemCtxs} {st st' : KemState} (h : KemReached E start ctxs st) (op : KemOp)
      (hrun : Runs E (op.run ctxs) st ctxs' st') : KemReached E start ctxs' st'

/-! ## References -/

/-- The context has a reference to the object. -/
def refers (o : ObjId) (c : Option KemCtx) : Bool := (c.bind (·.key)) = some o

/-- The number of references of a context to an object. -/
def refsOf (c : Option KemCtx) (o : ObjId) : Nat := if refers o c then 1 else 0

@[simp] theorem refsOf_none {o : ObjId} : refsOf none o = 0 := rfl

theorem refsOf_key {o o' : ObjId} (h : c.key = some o') :
    refsOf (some c) o = if o' = o then 1 else 0 := by
  simp [refsOf, refers, h]

theorem refsOf_no_key {o : ObjId} (h : c.key = none) : refsOf (some c) o = 0 := by
  simp [refsOf, refers, h]

/-- The state is tidy, and the references are those before with those of a context exchanged for
    those of another one. -/
structure Exchanged (st : KemState) (c c' : Option KemCtx) (st' : KemState) : Prop where
  taken : st'.taken = st.taken
  undestroyed : st.undestroyed ⊆ st'.undestroyed
  secret : ∀ k, k ∉ st'.undestroyed → st'.secret k = st.secret k
  refs : ∀ o, refsOf c o ≤ st.refs o → st'.refs o = st.refs o - refsOf c o + refsOf c' o

theorem Tidied.exchanged {c' : Option KemCtx} (h : Tidied st st') : Exchanged st c' c' st' where
  taken := h.taken
  undestroyed := h.undestroyed
  secret := h.secret
  refs o ho := by rw [h.refs, Nat.sub_add_cancel ho]

theorem mlkemFreectx_spec : wp (kemEnv kem keys coins) (mlkemFreectx c)
    (fun _ st' => Exchanged st (some c) none st') st := by
  unfold mlkemFreectx
  cases hkey : c.key with
  | none =>
    refine ⟨rfl, fun _ h => h, fun _ _ => rfl, fun o _ => ?_⟩
    rw [refsOf_no_key hkey, refsOf_none]
    rfl
  | some key =>
    intro _ _
    refine ⟨rfl, fun _ h => h, fun _ _ => rfl, fun o _ => ?_⟩
    rw [refsOf_key hkey, refsOf_none]
    change Function.update st.refs key (st.refs key - 1) o = _
    by_cases ho : key = o
    · subst ho
      simp
    · simp [ho, Function.update_of_ne (Ne.symm ho)]

/-- A reference that is taken where a context had none. -/
theorem Exchanged.objRef {key : ObjId} {c c' : KemCtx} (h : Exchanged st (some c) none st')
    (hc' : c'.key = some key) :
    Exchanged st (some c) (some c')
      { st' with refs := Function.update st'.refs key (st'.refs key + 1) } where
  taken := h.taken
  undestroyed := h.undestroyed
  secret := h.secret
  refs o ho := by
    change Function.update st'.refs key (st'.refs key + 1) o = _
    have hrefs := h.refs o ho
    rw [refsOf_none, Nat.add_zero] at hrefs
    rw [refsOf_key hc', ← hrefs]
    by_cases hk : key = o
    · subst hk
      simp
    · simp [hk, Function.update_of_ne (Ne.symm hk)]

theorem mlkemInit_spec {op : KemOperation} {key : ObjId} {ikme : Bool} :
    wp (kemEnv kem keys coins) (mlkemInit c op key ikme)
      (fun r st' => Exchanged st (some c) (some r.2) st') st := by
  unfold mlkemInit
  intro rv _
  -- either nothing happens, or the old reference is given up and a new one is taken or not
  refine wp_ite.2 ⟨fun _ => Tidied.refl.exchanged, fun _ => ?_⟩
  refine wp.bind mlkemFreectx_spec fun _ st₁ hfreed => ?_
  intro r hr
  cases r with
  | none =>
    refine ⟨hfreed.taken, hfreed.undestroyed, hfreed.secret, fun o ho => ?_⟩
    rw [refsOf_no_key (c := { c with key := none }) rfl]
    exact hfreed.refs o ho
  | some key' =>
    obtain rfl := hr key' rfl
    intro obj _
    exact wp_ite.2 ⟨fun _ => hfreed.objRef rfl, fun _ => hfreed.objRef rfl⟩

theorem mlkemOperationInit_spec {op : KemOperation} {cls : Nat} {key : Option ObjId} {ikme : Bool} :
    wp (kemEnv kem keys coins) (mlkemOperationInit op cls c key ikme)
      (fun r st' => Exchanged st (some c) (some r.2) st') st := by
  cases key with
  | none => exact Tidied.refl.exchanged
  | some key =>
    intro obj _
    exact wp_ite.2 ⟨fun _ => Tidied.refl.exchanged, fun _ => mlkemInit_spec⟩

/-! ## Runs -/

/-- The invariant: the sessions were given back, the tokens hold what they held at the start but for
    what they refused to destroy, and of the references to an object those of the contexts are
    new. -/
structure KemInv (start : KemState) (ctxs : KemCtxs) (st : KemState) : Prop where
  taken : st.taken = start.taken
  secret : ∀ k, k ∉ st.undestroyed → st.secret k = start.secret k
  refs : ∀ o, st.refs o = start.refs o + ctxs.countP (refers o)

variable {start : KemState} {ctxs : KemCtxs}

theorem KemInv.exchange {i : Nat} {c' : Option KemCtx} (h : KemInv start ctxs st)
    (hi : ctxs[i]? = some (some c)) (hex : Exchanged st (some c) c' st') :
    KemInv start (ctxs.set i c') st' where
  taken := hex.taken.trans h.taken
  secret k hk := (hex.secret k hk).trans (h.secret k fun hmem => hk (hex.undestroyed hmem))
  refs o := by
    obtain ⟨hlt, hget⟩ := List.getElem?_eq_some_iff.1 hi
    have hcount : refsOf (some c) o ≤ ctxs.countP (refers o) := by
      rw [refsOf]
      split
      · rename_i hrefers
        exact List.countP_pos_iff.2 ⟨some c, hget ▸ List.getElem_mem hlt, hrefers⟩
      · exact Nat.zero_le _
    have hrefs := h.refs o
    -- the reference of the context is among those that are counted
    rw [hex.refs o (by omega), List.countP_set hlt, hget]
    change _ = _ + (_ - refsOf (some c) o + refsOf c' o)
    omega

/-- A function on one context keeps the invariant, if it exchanges the references. -/
theorem onKemCtx_inv {i : Nat} {f : KemCtx → K (Option KemCtx)} (h : KemInv start ctxs st)
    (hf : ∀ c, wp (kemEnv kem keys coins) (f c) (fun c' st' => Exchanged st (some c) c' st') st) :
    wp (kemEnv kem keys coins) (onKemCtx ctxs i f) (fun ctxs' st' => KemInv start ctxs' st') st := by
  unfold onKemCtx
  rcases hc : ctxs[i]?.join with _ | c
  · exact h
  · exact wp.bind (hf c) fun c' st' hex => h.exchange (Option.join_eq_some_iff.1 hc) hex

theorem KemOp.run_inv (h : KemInv start ctxs st) (op : KemOp) :
    wp (kemEnv kem keys coins) (op.run ctxs) (fun ctxs' st' => KemInv start ctxs' st') st := by
  cases op with
  | newctx =>
    refine ⟨h.taken, h.secret, fun o => ?_⟩
    rw [h.refs o, List.countP_append]
    rfl
  | freectx i => exact onKemCtx_inv h fun c => wp.bind mlkemFreectx_spec fun _ _ hex => hex
  | encapsulateInit i key ikme =>
    exact onKemCtx_inv h fun c => wp.bind mlkemOperationInit_spec fun _ _ hex => hex
  | decapsulateInit i key ikme =>
    exact onKemCtx_inv h fun c => wp.bind mlkemOperationInit_spec fun _ _ hex => hex
  | encapsulate i ct ctLen ss ssLen =>
    exact onKemCtx_inv h fun c => wp.bind mlkemEncapsulate_spec fun _ _ hr => hr.1.exchanged
  | decapsulate i ss ssLen ct =>
    exact onKemCtx_inv h fun c => wp.bind mlkemDecapsulate_spec fun _ _ hr => hr.1.exchanged

/-- Whatever is called on any contexts and whatever the tokens answer, the sessions were given back,
    the tokens hold what they held at the start, but for secrets that they refused to destroy, and
    each context has one reference to its key. -/
theorem kem_leaves_nothing (h : KemReached (kemEnv kem keys coins) start ctxs st) :
    st.taken = start.taken ∧ (∀ k, k ∉ st.undestroyed → st.secret k = start.secret k) ∧
      ∀ o, st.refs o = start.refs o + ctxs.countP (refers o) := by
  have hinv : KemInv start ctxs st := by
    induction h with
    | start => exact ⟨rfl, fun _ _ => rfl, fun _ => rfl⟩
    | step _ op hrun ih => exact hrun.of_wp (op.run_inv ih)
  exact ⟨hinv.taken, hinv.secret, hinv.refs⟩

/-! ## A run -/

/-- A token that accepts what it can. Its sessions have the index 0, its secrets the handle 40. -/
def willingAnswer (st : KemState) : (c : KemCall) → c.Resp
  | .ctxStatus | .destroyObject _ _ => Ckr.ok
  | .objRef key => some key
  | .objFree _ | .returnSession _ => ()
  | .loadObj key => (st.obj key).getD Obj.freed
  | .objGetHandle key => ((st.obj key).map (·.handle)).getD ckInvalidHandle
  | .getSession slot _ => if ⟨slot, 0⟩ ∈ st.taken then .error Ckr.sessionCount else .ok ⟨slot, 0⟩
  | .encapsulateKey s _ h _ ctLen =>
    match (oneKey 2).value s.slot h with
    | some key =>
      let ct := (maskKem.encaps key [UInt8.ofNat st.drawn]).1
      if ct.length ≤ ctLen ∧ st.secret (s.slot, 40) = none then ⟨Ckr.ok, ct, 40⟩
      else ⟨Ckr.generalError, [], ckInvalidHandle⟩
    | none => ⟨Ckr.generalError, [], ckInvalidHandle⟩
  | .decapsulateKey s _ h _ _ =>
    if ((oneKey 2).value s.slot h).isSome ∧ st.secret (s.slot, 40) = none then (Ckr.ok, 40)
    else (Ckr.generalError, ckInvalidHandle)
  | .getValue s h size =>
    match st.secret (s.slot, h) with
    | some v => if v.length ≤ size then (Ckr.ok, v) else (Ckr.generalError, [])
    | none => (Ckr.generalError, [])

theorem willingAnswer_adm (st : KemState) (c : KemCall) :
    (kemEnv maskKem (oneKey 2) fun n => [UInt8.ofNat n]).adm st c (willingAnswer st c) := by
  have hne : Ckr.generalError ≠ Ckr.ok := by decide
  cases c with
  | objRef key => exact fun o ho => (Option.some.inj ho).symm
  | loadObj key => rfl
  | objGetHandle key =>
    rcases hobj : st.obj key with _ | obj
    · exact .inl (by simp [willingAnswer, hobj])
    · exact .inr ⟨obj, hobj, by simp [willingAnswer, hobj]⟩
  | getSession slot _ =>
    intro s hs
    simp only [willingAnswer] at hs
    split at hs
    · cases hs
    · rename_i hfree
      cases hs
      exact ⟨rfl, hfree⟩
  | encapsulateKey s _ h _ ctLen =>
    simp only [kemEnv, KemAnswers, willingAnswer, KemState.NewSecret]
    rcases hkey : (oneKey 2).value s.slot h with _ | key
    · simp [hne]
    · dsimp only
      split
      · rename_i hnew
        simpa [hnew.2] using hnew.1
      · simp [hne]
  | decapsulateKey s _ h _ ct =>
    simp only [kemEnv, KemAnswers, willingAnswer, KemState.NewSecret]
    split
    · rename_i hnew
      obtain ⟨key, hkey⟩ := Option.isSome_iff_exists.1 hnew.1
      simp [hnew.2, hkey]
    · simp [hne]
  | getValue s h size =>
    simp only [kemEnv, KemAnswers, willingAnswer]
    rcases hv : st.secret (s.slot, h) with _ | v
    · simp [hne]
    · dsimp only
      split
      · rename_i hlen
        exact fun _ => ⟨rfl, hlen⟩
      · simp [hne]
  | ctxStatus | objFree _ | destroyObject _ _ | returnSession _ => trivial

/-- The contexts and the state after calls, with these answers. -/
def kemRun (ops : List KemOp) (start : KemState) : KemCtxs × KemState :=
  ops.foldl (fun p op => exec (kemEnv maskKem (oneKey 2) fun n => [UInt8.ofNat n]) willingAnswer
    (op.run p.1) p.2) ([], start)

theorem kemReached_run (ops : List KemOp) (start : KemState) :
    KemReached (kemEnv maskKem (oneKey 2) fun n => [UInt8.ofNat n]) start
      (kemRun ops start).1 (kemRun ops start).2 := by
  induction ops using List.reverseRecOn with
  | nil => exact .start
  | append_singleton ops op ih =>
    rw [kemRun, List.foldl_append]
    exact ih.step op (runs_exec willingAnswer_adm _ _)

/-- Two contexts take the key, and one of them encapsulates with it. -/
def twoContexts : List KemOp :=
  [.newctx, .newctx, .encapsulateInit 0 (some 1) false, .encapsulateInit 1 (some 1) false,
    .encapsulate 0 true 768 true 32]

theorem kem_leaves_nothing_two :
    (kemRun twoContexts (oneState Cko.publicKey 2)).2.taken = [] ∧
    (kemRun twoContexts (oneState Cko.publicKey 2)).2.secret (2, 40) = none ∧
    (kemRun twoContexts (oneState Cko.publicKey 2)).2.refs 1 = 3 :=
  have h := kem_leaves_nothing (kemReached_run twoContexts (oneState Cko.publicKey 2))
  ⟨h.1, h.2.1 (2, 40) (by decide +kernel), (h.2.2 1).trans (by decide +kernel)⟩

end P11Prov
