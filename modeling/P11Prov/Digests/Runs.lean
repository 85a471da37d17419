import P11Prov.Digests.Contexts
import P11Prov.Run

/-!
# Digest runs

The session of a context runs the digest of what the context took, if it runs a
digest at all: every call keeps this, for all contexts (`DigestInv`), since no
two contexts have the same session. So the digest that the token returns is the
right one. `digestFinal_iff` says when the result of `p11prov_digest_final` can
be relied upon: not with a buffer that is too small, for which it reports
success and writes nothing.
-/

namespace P11Prov

open Interaction

variable {O : Oracle} {H : Nat → Bytes → Bytes} {ctx : Ctx} {cs : DigestCtxs} {S : Set SessId}
  {st st' : State} {s : SessId} {i j mechtype : Nat} {data : Bytes} {c : TrackedDigest}

/-! ## What the token does -/

/-- The token digests by `H`, on sessions that run a digest, and what it saves is the operation
    of the session. Any call may fail. -/
structure TokenDigests (O : Oracle) (H : Nat → Bytes → Bytes) : Prop where
  final : ∀ st h size r, O st (.crypto h (.cryptFinal .digest size)) r → r.1 = Ckr.ok →
    h ≠ ckInvalidHandle ∧ ∃ op, st.tok.op h = some op ∧ op.fn = .digest ∧
      r.2 = ⟨H op.mech.mechanism op.data, (H op.mech.mechanism op.data).length⟩
  save : ∀ st h r, O st (.crypto h .getOperationState) r → r.1 = Ckr.ok → r.2 = st.tok.op h

/-- The digests have the sizes of the digest map. -/
def DigestSizes (H : Nat → Bytes → Bytes) : Prop :=
  ∀ d ∈ digestMap, ∀ data, (H d.digest data).length = d.digestSize

/-! ## The session of a context -/

/-- The session is held and has a handle. If it runs a digest, then of the data. -/
structure HoldsDigest (mechtype : Nat) (data : Bytes) (st : State) (s : SessId) : Prop where
  inUse : s ∈ st.inUse
  handle : (st.mem.sess s).session ≠ ckInvalidHandle
  running : ∀ op, st.tok.op (st.mem.sess s).session = some op → op.fn = .digest →
    op.mech.mechanism = mechtype ∧ op.data = data

theorem HoldsDigest.spared (h : HoldsDigest mechtype data st s) (hs : s ∈ S)
    (hsp : Spared S st st') : HoldsDigest mechtype data st' s where
  inUse := hsp.inUse hs
  handle := by
    rw [hsp.sess s hs]
    exact h.handle
  running := by
    rw [hsp.sess s hs, hsp.op s hs h.handle]
    exact h.running

/-- A call on the handle of the session, by the operation after it. -/
theorem HoldsDigest.crypto {data' : Bytes} {k : CryptoCall} {r : CkRv × k.Out}
    (h : HoldsDigest mechtype data st s)
    (hop : ∀ op, k.opAfter (st.tok.op (st.mem.sess s).session) r.1 = some op → op.fn = .digest →
      op.mech.mechanism = mechtype ∧ op.data = data') :
    HoldsDigest mechtype data'
      ⟨st.mem, st.tok.after (.crypto (st.mem.sess s).session k) r⟩ s where
  inUse := h.inUse
  handle := h.handle
  running op ho := hop op (Token.op_after_crypto.symm.trans ho)

/-! ## The functions -/

section Functions

variable (hS : S ⊆ st.inUse) (hk : SessionsOpen st)
include hS hk

/-- An update adds to what the session runs, if it succeeds. -/
theorem digestUpdate_spec
    (hc : ∀ s, c.ctx.session = some s → s ∉ S ∧ HoldsDigest c.ctx.mechtype c.data st s) :
    wp (env O) (digestUpdate c.ctx data) (fun ret st' => Spared S st st' ∧
      ∀ s, c.ctx.session = some s → HoldsDigest c.ctx.mechtype
        (if ret = retOsslOk then c.data ++ data else c.data) st' s) st := by
  have hrefl : Spared S st st := .refl hS hk
  rw [digestUpdate]
  split
  · rename_i hnil
    refine ⟨hrefl, fun s hs => ?_⟩
    rw [hnil, List.append_nil, ite_self]
    exact (hc s hs).2
  · cases hs : c.ctx.session with
    | none =>
      simp only [sessionHandle?, Prog.perform_eq, Prog.call_bind, Prog.ret_bind, Prog.pure_eq]
      rintro ⟨ret, _⟩ _
      exact ⟨hrefl.crypto fun _ _ hne => hne, fun s e => absurd e (by simp)⟩
    | some s =>
      obtain ⟨hsS, hold⟩ := hc s hs
      simp only [sessionHandle?, sessionHandle, Prog.perform_eq, Prog.call_bind, Prog.ret_bind,
        Prog.pure_eq, wp_loadSess]
      rintro ⟨ret, _⟩ _
      refine ⟨hrefl.crypto (hrefl.ne_handle hsS), fun s' e => ?_⟩
      obtain rfl := Option.some.inj e
      refine hold.crypto fun op ho hfn => ?_
      simp only [CryptoCall.opAfter] at ho
      by_cases hret : ret = Ckr.ok
      · rw [if_pos hret, Option.map_eq_some_iff] at ho
        obtain ⟨op', ho', rfl⟩ := ho
        obtain ⟨hm, hd⟩ := hold.running op' ho' hfn
        exact ⟨hm, by simp [hret, hd]⟩
      · rw [if_neg hret] at ho
        exact absurd ho (by simp)

/-- The end of an operation ends it. -/
theorem digestFinal_spared {out : Bytes}
    (hc : ∀ s, c.ctx.session = some s → s ∉ S ∧ HoldsDigest c.ctx.mechtype c.data st s) :
    wp (env O) (digestFinal c.ctx out) (fun _ st' => Spared S st st' ∧
      ∀ s, c.ctx.session = some s → HoldsDigest c.ctx.mechtype c.data st' s) st := by
  have hrefl : Spared S st st := .refl hS hk
  have hsame := fun s hs => (hc s hs).2
  rw [digestFinal]
  cases digestGetDigestSize c.ctx.mechtype with
  | error ret => exact ⟨hrefl, hsame⟩
  | ok digestSize =>
    refine wp_ite.2 ⟨fun _ => ⟨hrefl, hsame⟩, fun _ => wp_ite.2 ⟨fun _ => ⟨hrefl, hsame⟩, fun _ => ?_⟩⟩
    cases hs : c.ctx.session with
    | none =>
      simp only [sessionHandle?, Prog.perform_eq, Prog.call_bind, Prog.ret_bind, Prog.pure_eq]
      rintro ⟨ret, r⟩ _
      have h : Spared S st ⟨st.mem, st.tok.after
          (.crypto ckInvalidHandle (.cryptFinal .digest digestSize)) (ret, r)⟩ :=
        hrefl.crypto fun _ _ hne => hne
      exact wp_ite.2 ⟨fun _ => ⟨h, fun s e => absurd e (by simp)⟩,
        fun _ => ⟨h, fun s e => absurd e (by simp)⟩⟩
    | some s =>
      obtain ⟨hsS, hold⟩ := hc s hs
      simp only [sessionHandle?, sessionHandle, Prog.perform_eq, Prog.call_bind, Prog.ret_bind,
        Prog.pure_eq, wp_loadSess]
      rintro ⟨ret, r⟩ _
      have h : Spared S st ⟨st.mem, st.tok.after
          (.crypto (st.mem.sess s).session (.cryptFinal .digest digestSize)) (ret, r)⟩ :=
        hrefl.crypto (hrefl.ne_handle hsS)
      have hold' : ∀ s', some s = some s' → HoldsDigest c.ctx.mechtype c.data ⟨st.mem,
          st.tok.after (.crypto (st.mem.sess s).session (.cryptFinal .digest digestSize))
            (ret, r)⟩ s' := by
        rintro _ ⟨⟩
        refine hold.crypto fun op ho hfn => ?_
        simp only [CryptoCall.opAfter] at ho
        split at ho
        · exact hold.running op ho hfn
        · exact absurd ho (by simp)
      exact wp_ite.2 ⟨fun _ => ⟨h, hold'⟩, fun _ => ⟨h, hold'⟩⟩

variable (hO : OpensFresh O)
include hO

/-- A context that was started took nothing yet. One that was not keeps its session, or lost it. -/
theorem digestInit_spec {params : List OsslParam}
    (hc : ∀ s, c.ctx.session = some s → s ∉ S ∧ HoldsDigest c.ctx.mechtype c.data st s) :
    wp (env O) (digestInit ctx params c.ctx) (fun r st' => Spared S st st' ∧
      r.2.mechtype = c.ctx.mechtype ∧ ∀ s, r.2.session = some s → s ∉ S ∧
        HoldsDigest c.ctx.mechtype (if r.1 = retOsslOk then [] else c.data) st' s) st := by
  have hrefl : Spared S st st := .refl hS hk
  simp only [digestInit, Prog.perform_eq, Prog.call_bind, Prog.ret_bind, wp_callExt]
  intro status _
  refine wp_ite.2 ⟨fun _ => ⟨hrefl, rfl, hc⟩, fun _ => ?_⟩
  cases digestSlot params with
  | none => exact ⟨hrefl, rfl, hc⟩
  | some slotid =>
    -- the session that the context has is left alone too
    have hS' : S ∪ {s | c.ctx.session = some s} ⊆ st.inUse := by
      rintro s (hs | hs)
      · exact hS hs
      · exact (hc s hs).2.inUse
    refine wp.bind (getSession_held hO hS' hk) fun r st₁ h₁ => ?_
    obtain ⟨hsp, hgot⟩ := h₁
    have hsp' : Spared S st st₁ := hsp.mono Set.subset_union_left
    cases r with
    | error ret =>
      exact ⟨hsp', rfl, fun s hs => ⟨(hc s hs).1, (hc s hs).2.spared (.inr hs) hsp⟩⟩
    | ok s =>
      obtain ⟨hnot, hin, hne⟩ := hgot s rfl
      have hsS : s ∉ S := fun h => hnot (.inl h)
      simp only [sessionHandle, Prog.perform_eq, Prog.call_bind, Prog.ret_bind, Prog.pure_eq,
        wp_loadSess]
      rintro ⟨ret, _⟩ _
      have h₂ : Spared S st ⟨st₁.mem, st₁.tok.after (.crypto (st₁.mem.sess s).session
          (.init .digest { mechanism := c.ctx.mechtype } ckInvalidHandle)) (ret, ())⟩ :=
        hsp'.crypto (hsp'.ne_handle hsS)
      refine wp_ite.2 ⟨fun _ => ?_, fun hret => ⟨h₂, rfl, fun s' e => ?_⟩⟩
      · exact wp.bind (returnSession_spares hO h₂ hsS) fun _ _ h =>
          ⟨h, rfl, fun _ e => absurd e (by simp)⟩
      · obtain rfl := Option.some.inj e
        refine ⟨hsS, hin, hne, fun op ho _ => ?_⟩
        have ho := Token.op_after_crypto.symm.trans ho
        simp only [CryptoCall.opAfter, if_pos (not_not.1 hret), Option.some.injEq] at ho
        subst ho
        exact ⟨rfl, rfl⟩

theorem digestRestore_spec {state : Option TokenOp}
    (hstate : ∀ op, state = some op → op.fn = .digest →
      op.mech.mechanism = mechtype ∧ op.data = data) :
    wp (env O) (digestRestore ctx mechtype state) (fun r st' => Spared S st st' ∧
      ∀ s, r = some s → s ∉ S ∧ HoldsDigest mechtype data st' s) st := by
  rw [digestRestore]
  refine wp.bind (getSession_held hO hS hk) fun r st₁ h₁ => ?_
  obtain ⟨hsp, hgot⟩ := h₁
  cases r with
  | error ret => exact ⟨hsp, fun _ e => absurd e (by simp)⟩
  | ok s =>
    obtain ⟨hsS, hin, hne⟩ := hgot s rfl
    simp only [sessionHandle, Prog.perform_eq, Prog.call_bind, Prog.ret_bind, Prog.pure_eq,
      wp_loadSess]
    rintro ⟨ret, _⟩ _
    have h₂ : Spared S st ⟨st₁.mem, st₁.tok.after (.crypto (st₁.mem.sess s).session
        (.setOperationState state ckInvalidHandle)) (ret, ())⟩ :=
      hsp.crypto (hsp.ne_handle hsS)
    refine wp_ite.2 ⟨fun _ => ?_, fun hret => ⟨h₂, fun s' e => ?_⟩⟩
    · exact wp.bind (returnSession_spares hO h₂ hsS) fun _ _ h => ⟨h, fun _ e => absurd e (by simp)⟩
    · obtain rfl := Option.some.inj e
      refine ⟨hsS, hin, hne, fun op ho hfn => ?_⟩
      have ho := Token.op_after_crypto.symm.trans ho
      simp only [CryptoCall.opAfter, if_pos (not_not.1 hret)] at ho
      exact hstate op ho hfn

/-- The session that is left to the original context runs what the other one does. -/
theorem digestSplit_spec (ht : TokenDigests O H) (hold : HoldsDigest mechtype data st s) :
    wp (env O) (digestSplit ctx mechtype s) (fun r st' => Spared S st st' ∧
      ∀ s', r = some s' → s' ∉ S ∧ HoldsDigest mechtype data st' s') st := by
  have hno : ∀ {st₁}, Spared S st st₁ → Spared S st st₁ ∧
      ∀ s', (none : Option SessId) = some s' → s' ∉ S ∧ HoldsDigest mechtype data st₁ s' :=
    fun h => ⟨h, fun _ e => absurd e (by simp)⟩
  -- asking for the state changes nothing
  have hask : ∀ (r : CkRv × Option TokenOp) (st₁ : State), Spared S st st₁ →
      st₁.mem = st.mem → st₁.tok.op = st.tok.op →
        Spared S st ⟨st₁.mem, st₁.tok.after
          (.crypto (st.mem.sess s).session .getOperationState) r⟩ ∧
          (st₁.tok.after (.crypto (st.mem.sess s).session .getOperationState) r).op = st.tok.op := by
    intro r st₁ h hm hop
    have hsame : Function.update st₁.tok.op (st.mem.sess s).session
        (st₁.tok.op (st.mem.sess s).session) = st₁.tok.op := Function.update_eq_self ..
    refine ⟨⟨h.held, h.pooled, h.sess, fun s' hs' hne => ?_, h.handles.of_sess_opened rfl
      fun _ => .inl rfl⟩, hsame.trans hop⟩
    exact (congrFun hsame _).trans (h.op s' hs' hne)
  simp only [digestSplit, sessionHandle, Prog.perform_eq, Prog.call_bind, Prog.ret_bind, wp_loadSess]
  rintro ⟨ret, r⟩ _
  obtain ⟨h₁, hop₁⟩ := hask (ret, r) st (.refl hS hk) rfl rfl
  refine wp_ite.2 ⟨fun _ => hno h₁, fun _ => wp_alloc.2 fun ok => ?_⟩
  refine wp_ite.2 ⟨fun _ => hno h₁, fun _ => ?_⟩
  rintro ⟨ret', state⟩ hanswer
  obtain ⟨h₂, -⟩ := hask (ret', state) _ h₁ rfl hop₁
  refine wp_ite.2 ⟨fun _ => hno h₂, fun hret => ?_⟩
  have hstate : state = st.tok.op (st.mem.sess s).session := by
    have e := ht.save _ _ _ hanswer (not_not.1 hret)
    exact e.trans (congrFun hop₁ _)
  have hrun : ∀ op, state = some op → op.fn = .digest →
      op.mech.mechanism = mechtype ∧ op.data = data := fun op e => hold.running op (hstate ▸ e)
  exact wp_mono (digestRestore_spec h₂.inUse h₂.handles hO hrun) fun r st₃ h => ⟨h₂.trans h.1, h.2⟩

end Functions

/-! ## All contexts -/

/-- The session of every context runs the digest of the context, and no two contexts have the
    same one. -/
structure DigestInv (cs : DigestCtxs) (st : State) : Prop where
  handles : SessionsOpen st
  holds : ∀ i c s, cs i = some c → c.ctx.session = some s →
    HoldsDigest c.ctx.mechtype c.data st s
  distinct : ∀ i j c c' s, cs i = some c → cs j = some c' → c.ctx.session = some s →
    c'.ctx.session = some s → i = j

theorem mem_digestSessions (hi : cs i = some c) (hs : c.ctx.session = some s) :
    s ∈ digestSessions cs := ⟨i, c, hi, hs⟩

/-- The sessions of the contexts but one. -/
def otherSessions (cs : DigestCtxs) (i : Nat) : Set SessId :=
  digestSessions (Function.update cs i none)

theorem mem_otherSessions : s ∈ otherSessions cs i ↔
    ∃ j c, j ≠ i ∧ cs j = some c ∧ c.ctx.session = some s := by
  constructor
  · rintro ⟨j, c, hj, hs⟩
    have hne : j ≠ i := by
      rintro rfl
      rw [Function.update_self] at hj
      exact absurd hj (by simp)
    exact ⟨j, c, hne, (Function.update_of_ne hne ..).symm.trans hj, hs⟩
  · rintro ⟨j, c, hne, hj, hs⟩
    exact ⟨j, c, (Function.update_of_ne hne ..).trans hj, hs⟩

theorem otherSessions_subset : otherSessions cs i ⊆ digestSessions cs := by
  intro s hs
  obtain ⟨j, c, -, hj, hs⟩ := mem_otherSessions.1 hs
  exact mem_digestSessions hj hs

namespace DigestInv

variable (h : DigestInv cs st)
include h

theorem digestSessions_inUse : digestSessions cs ⊆ st.inUse := by
  rintro s ⟨i, c, hi, hs⟩
  exact (h.holds i c s hi hs).inUse

theorem otherSessions_inUse : otherSessions cs i ⊆ st.inUse :=
  otherSessions_subset.trans h.digestSessions_inUse

/-- The session of a context is none of the others. -/
theorem of_eq (hi : cs i = some c) : ∀ s, c.ctx.session = some s →
    s ∉ otherSessions cs i ∧ HoldsDigest c.ctx.mechtype c.data st s := by
  refine fun s hs => ⟨fun ho => ?_, h.holds i c s hi hs⟩
  obtain ⟨j, c', hne, hj, hs'⟩ := mem_otherSessions.1 ho
  exact hne (h.distinct j i c' c s hj hi hs' hs)

/-- A context changes, and the sessions of the others are left alone. -/
theorem update (hsp : Spared (otherSessions cs i) st st') {new : Option TrackedDigest}
    (hnew : ∀ c s, new = some c → c.ctx.session = some s →
      s ∉ otherSessions cs i ∧ HoldsDigest c.ctx.mechtype c.data st' s) :
    DigestInv (Function.update cs i new) st' where
  handles := hsp.handles
  holds j c s hj hs := by
    by_cases hne : j = i
    · subst hne
      rw [Function.update_self] at hj
      exact (hnew c s hj hs).2
    · rw [Function.update_of_ne hne] at hj
      exact (h.holds j c s hj hs).spared (mem_otherSessions.2 ⟨j, c, hne, hj, hs⟩) hsp
  distinct j k c c' s hj hk hs hs' := by
    by_cases hji : j = i <;> by_cases hki : k = i
    · exact hji.trans hki.symm
    · subst hji
      rw [Function.update_self] at hj
      rw [Function.update_of_ne hki] at hk
      exact absurd (mem_otherSessions.2 ⟨k, c', hki, hk, hs'⟩) (hnew c s hj hs).1
    · subst hki
      rw [Function.update_self] at hk
      rw [Function.update_of_ne hji] at hj
      exact absurd (mem_otherSessions.2 ⟨j, c, hji, hj, hs⟩) (hnew c' s hk hs').1
    · rw [Function.update_of_ne hji] at hj
      rw [Function.update_of_ne hki] at hk
      exact h.distinct j k c c' s hj hk hs hs'

theorem spared (hsp : Spared (digestSessions cs) st st') : DigestInv cs st' where
  handles := hsp.handles
  holds i c s hi hs := (h.holds i c s hi hs).spared (mem_digestSessions hi hs) hsp
  distinct := h.distinct

/-- A context is duplicated: the session goes to the duplicate. -/
theorem dupctx (hO : OpensFresh O) (ht : TokenDigests O H) (hi : cs i = some c) (hj : cs j = none) :
    wp (env O) (digestDupctx ctx c.ctx) (fun r st' => DigestInv
      (Function.update (Function.update cs i (some { c with ctx := r.2 })) j
        (r.1.map ({ c with ctx := · }))) st') st := by
  have hij : j ≠ i := by
    rintro rfl
    rw [hi] at hj
    exact absurd hj (by simp)
  have hsame : Function.update cs i (some c) = cs := hi ▸ Function.update_eq_self i cs
  -- a duplicate without a session
  have hbare : ∀ new : Option DigestCtx, (∀ c', new = some c' → c'.session = none) →
      DigestInv (Function.update cs j (new.map ({ c with ctx := · }))) st := by
    refine fun new hnew => h.update (.refl h.otherSessions_inUse h.handles) fun c' s e hs => ?_
    obtain ⟨c'', e', rfl⟩ := Option.map_eq_some_iff.1 e
    rw [hnew c'' e'] at hs
    exact absurd hs (by simp)
  simp only [digestDupctx, Prog.perform_eq, Prog.call_bind, Prog.ret_bind, Prog.pure_eq]
  refine wp_alloc.2 fun ok => wp_ite.2 ⟨fun _ => ?_, fun _ => ?_⟩
  · refine wp_ret.2 ?_
    rw [hsame]
    exact hbare none fun c' e => absurd e (by simp)
  · cases hs : c.ctx.session with
    | none =>
      refine wp_ret.2 ?_
      rw [hsame]
      refine hbare (some { mechtype := c.ctx.mechtype }) fun c' e => ?_
      obtain rfl := Option.some.inj e
      rfl
    | some s =>
      have hold := h.holds i c s hi hs
      refine wp.bind (digestSplit_spec h.digestSessions_inUse h.handles hO ht hold) ?_
      rintro left st₁ ⟨hsp, hleft⟩
      -- the original first: its session is a new one
      have h₁ : DigestInv (Function.update cs i (some { c with ctx := { c.ctx with session := left } }))
          st₁ := by
        refine h.update (hsp.mono otherSessions_subset) fun c' s' e hs' => ?_
        obtain rfl := Option.some.inj e
        obtain ⟨hnot, hold'⟩ := hleft s' hs'
        exact ⟨fun ho => hnot (otherSessions_subset ho), hold'⟩
      refine h₁.update (.refl h₁.otherSessions_inUse h₁.handles) fun c' s' e hs' => ?_
      obtain rfl := Option.some.inj e
      obtain rfl : s = s' := Option.some.inj hs'
      refine ⟨fun ho => ?_, hold.spared (mem_digestSessions hi hs) hsp⟩
      obtain ⟨k, c', hkj, hk, hs''⟩ := mem_otherSessions.1 ho
      by_cases hki : k = i
      · subst hki
        rw [Function.update_self] at hk
        obtain rfl := Option.some.inj hk
        exact (hleft s hs'').1 (mem_digestSessions hi hs)
      · rw [Function.update_of_ne hki] at hk
        exact hki (h.distinct k i c' c s hk hi hs'' hs)

theorem call (hO : OpensFresh O) (ht : TokenDigests O H) {k : DigestCall} :
    wp (env O) (k.prog ctx cs) (fun cs' st' => DigestInv cs' st') st := by
  have hon : ∀ i {f : TrackedDigest → P DigestCtxs}, (∀ c, cs i = some c →
      wp (env O) (f c) (fun cs' st' => DigestInv cs' st') st) →
      wp (env O) (onDigest cs i f) (fun cs' st' => DigestInv cs' st') st := by
    intro i f hf
    rw [onDigest]
    cases hi : cs i with
    | none => exact h
    | some c => exact hf c hi
  cases k with
  | newctx j mechtype =>
    rw [DigestCall.prog]
    refine wp.bind (P := fun _ st' => st = st') (wp_alloc.2 fun _ => rfl) ?_
    rintro ok _ rfl
    refine wp_ite.2 ⟨fun _ => h, fun _ => ?_⟩
    refine h.update (.refl h.otherSessions_inUse h.handles) fun c s e hs => ?_
    obtain rfl := Option.some.inj e
    exact absurd hs (by simp)
  | dupctx i j =>
    refine hon i fun c hi => wp_ite.2 ⟨fun _ => h, fun hj => ?_⟩
    exact wp.bind (h.dupctx hO ht hi (by simpa using hj)) fun _ _ h' => h'
  | freectx i =>
    refine hon i fun c hi => ?_
    have hfree : wp (env O) (digestFreectx ctx c.ctx)
        (fun _ st' => Spared (otherSessions cs i) st st') st := by
      have hrefl : Spared (otherSessions cs i) st st := .refl h.otherSessions_inUse h.handles
      rw [digestFreectx]
      cases hs : c.ctx.session with
      | none => exact hrefl
      | some s => exact returnSession_spares hO hrefl (h.of_eq hi s hs).1
    exact wp.bind hfree fun _ _ hsp => h.update hsp fun _ _ e => absurd e (by simp)
  | init i params =>
    refine hon i fun c hi => ?_
    refine wp.bind (digestInit_spec h.otherSessions_inUse h.handles hO (h.of_eq hi)) ?_
    rintro ⟨ret, c'⟩ st₁ ⟨hsp, hmech, hheld⟩
    refine h.update hsp fun c'' s e hs => ?_
    obtain rfl := Option.some.inj e
    exact hmech ▸ hheld s hs
  | update i data =>
    refine hon i fun c hi => ?_
    refine wp.bind (digestUpdate_spec h.otherSessions_inUse h.handles (h.of_eq hi)) ?_
    rintro ret st₁ ⟨hsp, hheld⟩
    refine h.update hsp fun c'' s e hs => ?_
    obtain rfl := Option.some.inj e
    exact ⟨(h.of_eq hi s hs).1, hheld s hs⟩
  | final i out =>
    refine hon i fun c hi => ?_
    refine wp.bind (digestFinal_spared h.otherSessions_inUse h.handles (h.of_eq hi)) ?_
    rintro r st₁ ⟨hsp, hheld⟩
    have hsame : Function.update cs i (some c) = cs := hi ▸ Function.update_eq_self i cs
    rw [← hsame]
    refine wp_ret.2 (h.update hsp fun c'' s e hs => ?_)
    obtain rfl := Option.some.inj e
    exact ⟨(h.of_eq hi s hs).1, hheld s hs⟩

end DigestInv

/-- In every run, the sessions of the contexts run what the contexts took. -/
theorem DigestReached.inv (hO : OpensFresh O) (ht : TokenDigests O H)
    (h : DigestReached O ctx cs st) : DigestInv cs st := by
  induction h with
  | start => exact ⟨.of_none fun _ => rfl, fun _ _ _ e => absurd e (by simp), fun _ _ _ _ _ e =>
      absurd e (by simp)⟩
  | call k _ hrun ih => exact hrun.of_wp (ih.call hO ht)
  | other _ hs ih => exact ih.spared hs

/-! ## The digest -/

/-- What the result of `p11prov_digest_final` is worth: success means that the buffer is large
    enough and that the context has a session, and comes with the digest. -/
structure DigestRight (H : Nat → Bytes → Bytes) (c : TrackedDigest) (bufSize : Nat)
    (r : DigestFinal) : Prop where
  room : digestSizeOf c.ctx.mechtype ≤ bufSize
  session : c.ctx.session.isSome
  size : r.size = some (digestSizeOf c.ctx.mechtype)
  out : r.out.take (digestSizeOf c.ctx.mechtype) = H c.ctx.mechtype c.data

theorem digestGetDigestSize_ok {n : Nat} (h : digestGetDigestSize mechtype = .ok n) :
    digestSizeOf mechtype = n ∧ ∃ d ∈ digestMap, d.digest = mechtype ∧ d.digestSize = n := by
  refine ⟨by rw [digestSizeOf, h]; rfl, ?_⟩
  simp only [digestGetDigestSize, digestData] at h
  cases hf : digestMap.find? (·.digest = mechtype) with
  | none => simp [hf, Except.map] at h
  | some d =>
    simp only [hf, Except.map, Except.ok.injEq] at h
    exact ⟨d, List.mem_of_find?_eq_some hf, by simpa using List.find?_some hf, h⟩

/-- With a buffer that is large enough, success comes with the digest. -/
theorem digestFinal_right (ht : TokenDigests O H) (hH : DigestSizes H) (h : DigestInv cs st)
    (hi : cs i = some c) {out : Bytes} (hpos : 0 < out.length)
    (hroom : ¬out.length < digestSizeOf c.ctx.mechtype) :
    wp (env O) (digestFinal c.ctx out)
      (fun r _ => r.ret = retOsslOk → DigestRight H c out.length r) st := by
  rw [digestFinal]
  cases hsize : digestGetDigestSize c.ctx.mechtype with
  | error ret => exact fun hok => absurd hok retOsslErr_ne
  | ok digestSize =>
    obtain ⟨hn, d, hd, hdm, hds⟩ := digestGetDigestSize_ok hsize
    rw [hn] at hroom
    refine wp_ite.2 ⟨fun h0 => absurd h0 (Nat.ne_of_gt hpos), fun _ => ?_⟩
    refine wp_ite.2 ⟨fun hlt => absurd hlt hroom, fun _ => ?_⟩
    cases hs : c.ctx.session with
    | none =>
      simp only [sessionHandle?, Prog.perform_eq, Prog.call_bind, Prog.ret_bind, Prog.pure_eq]
      rintro ⟨ret, r⟩ hanswer
      refine wp_ite.2 ⟨fun _ hok => absurd hok retOsslErr_ne, fun hret => ?_⟩
      exact absurd rfl (ht.final _ _ _ _ hanswer (not_not.1 hret)).1
    | some s =>
      simp only [sessionHandle?, sessionHandle, Prog.perform_eq, Prog.call_bind, Prog.ret_bind,
        Prog.pure_eq, wp_loadSess]
      rintro ⟨ret, r⟩ hanswer
      refine wp_ite.2 ⟨fun _ hok => absurd hok retOsslErr_ne, fun hret _ => ?_⟩
      obtain ⟨-, op, hop, hfn, hr⟩ := ht.final _ _ _ _ hanswer (not_not.1 hret)
      obtain ⟨hmech, hdata⟩ := (h.holds i c s hi hs).running op hop hfn
      rw [hmech, hdata] at hr
      have hlen : (H c.ctx.mechtype c.data).length = digestSize := by
        rw [← hdm, ← hds]
        exact hH d hd c.data
      obtain rfl : r = ⟨H c.ctx.mechtype c.data, (H c.ctx.mechtype c.data).length⟩ := hr
      refine ⟨hn ▸ Nat.le_of_not_lt hroom, by simp [hs], ?_, ?_⟩
      · simp only [hlen, hn]
      · rw [hn]
        exact take_overwrite hlen

/-- In every run: what success means can be relied upon if and only if the buffer is not too
    small. -/
theorem digestFinal_iff (hO : OpensFresh O) (ht : TokenDigests O H) (hH : DigestSizes H)
    (h : DigestReached O ctx cs st) (hi : cs i = some c) {out : Bytes} (hpos : 0 < out.length) :
    wp (env O) (digestFinal c.ctx out)
        (fun r _ => r.ret = retOsslOk → DigestRight H c out.length r) st ↔
      ¬out.length < digestSizeOf c.ctx.mechtype := by
  refine ⟨fun hwp hlt => ?_, fun hroom => digestFinal_right ht hH (h.inv hO ht) hi hpos hroom⟩
  cases hsize : digestGetDigestSize c.ctx.mechtype with
  | error ret =>
    have h0 : digestSizeOf c.ctx.mechtype = 0 := by
      rw [digestSizeOf, hsize]
      rfl
    omega
  | ok digestSize =>
    obtain ⟨hn, -⟩ := digestGetDigestSize_ok hsize
    rw [digestFinal, hsize] at hwp
    have hshort := (wp_ite.1 ((wp_ite.1 hwp).2 (Nat.ne_of_gt hpos))).1 (hn ▸ hlt) rfl
    exact absurd hshort.room (Nat.not_le_of_lt hlt)

/-! ## A digest that is duplicated on its way -/

/-- SHA-256 of `abc`. -/
def abcDigest : Bytes := [
  0xba, 0x78, 0x16, 0xbf, 0x8f, 0x01, 0xcf, 0xea, 0x41, 0x41, 0x40, 0xde, 0x5d, 0xae, 0x22, 0x23,
  0xb0, 0x03, 0x61, 0xa3, 0x96, 0x17, 0x7a, 0x9c, 0xb4, 0x10, 0xff, 0x61, 0xf2, 0x00, 0x15, 0xad]

/-- SHA-256 of `abc`, and zeros for the digests that are not asked for here. -/
def abcHash (mechtype : Nat) (data : Bytes) : Bytes :=
  if mechtype = Ckm.sha256 ∧ data = ascii "abc" then abcDigest
  else .replicate (digestSizeOf mechtype) 0

/-- The answers of a token that digests. -/
def digesting (st : State) : (c : Call) → c.Resp
  | .crypto h (.cryptFinal .digest _) =>
    match st.tok.op h with
    | none => (Ckr.operationNotInitialized, ⟨[], 0⟩)
    | some op =>
      if h ≠ ckInvalidHandle ∧ op.fn = .digest then
        (Ckr.ok, ⟨abcHash op.mech.mechanism op.data, (abcHash op.mech.mechanism op.data).length⟩)
      else (Ckr.operationNotInitialized, ⟨[], 0⟩)
  | c => st.tok.reply c

theorem digesting_opensFresh : OpensFresh (replies digesting) := by
  rintro st slot flags _ rfl hok
  exact ⟨Nat.succ_ne_zero _, st.tok.opened_freshHandle⟩

theorem digesting_tokenDigests : TokenDigests (replies digesting) abcHash where
  final := by
    rintro st h size _ rfl hok
    have hne : Ckr.operationNotInitialized ≠ Ckr.ok := by decide
    simp only [digesting] at hok ⊢
    cases ho : st.tok.op h with
    | none =>
      simp only [ho] at hok
      exact absurd hok hne
    | some op =>
      simp only [ho] at hok ⊢
      split at hok
      · rename_i hif
        rw [if_pos hif]
        exact ⟨hif.1, op, rfl, hif.2, rfl⟩
      · exact absurd hok hne
  save := by
    rintro st h _ rfl hok
    rfl

theorem abcHash_sizes : DigestSizes abcHash := by
  have hmap : ∀ d ∈ digestMap, digestSizeOf d.digest = d.digestSize := by decide
  intro d hd data
  rw [abcHash]
  split
  · rename_i h
    rw [← hmap d hd, h.1]
    rfl
  · rw [List.length_replicate, hmap d hd]

/-- A provider with a slot that digests. -/
def digestProvider : Ctx := { plainCtx with slots := [{ plainSlot with mechs := [Ckm.sha256] }] }

/-- One call after another, with the answers of the token. -/
def runDigests : List DigestCall → DigestCtxs × State → DigestCtxs × State
  | [], w => w
  | k :: ks, w => runDigests ks (run digesting (k.prog digestProvider w.1) w.2)

theorem DigestReached.run {ks : List DigestCall} {w : DigestCtxs × State}
    (h : DigestReached (replies digesting) digestProvider w.1 w.2) :
    DigestReached (replies digesting) digestProvider (runDigests ks w).1 (runDigests ks w).2 := by
  induction ks generalizing w with
  | nil => exact h
  | cons k ks ih => exact ih (.call k h (runs_run _ _))

/-- `abc` in two updates, with a duplicate made in between. -/
def abcWorld : DigestCtxs × State := runDigests [.newctx 0 Ckm.sha256, .init 0 [],
  .update 0 (ascii "ab"), .dupctx 0 1, .update 0 (ascii "c")] (fun _ => none, {})

/-- The original context at the end: its session is not the one it was started on. -/
def abcCtx : TrackedDigest where
  ctx := { mechtype := Ckm.sha256, session := some ⟨1, 1⟩ }
  data := ascii "abc"

theorem abcWorld_ctx : abcWorld.1 0 = some abcCtx := by decide +kernel

theorem digestFinal_iff_abc :
    (wp (env (replies digesting)) (digestFinal abcCtx.ctx (.replicate 32 0))
        (fun r _ => r.ret = retOsslOk → DigestRight abcHash abcCtx 32 r) abcWorld.2 ↔
      ¬32 < digestSizeOf Ckm.sha256) ∧
    (run digesting (digestFinal abcCtx.ctx (.replicate 32 0)) abcWorld.2).1 =
      { ret := retOsslOk, out := abcDigest, size := some 32 } :=
  ⟨digestFinal_iff digesting_opensFresh digesting_tokenDigests abcHash_sizes
    (DigestReached.run .start) abcWorld_ctx (by decide), by decide +kernel⟩

/-- With a buffer of sixteen bytes, the end of the same digest is a success without a digest. -/
theorem digestFinal_short :
    DigestReached (replies digesting) digestProvider abcWorld.1 abcWorld.2 ∧
    abcWorld.1 0 = some abcCtx ∧
    (run digesting (digestFinal abcCtx.ctx (.replicate 16 0)) abcWorld.2).1 =
      { ret := retOsslOk, out := .replicate 16 0, size := none } ∧
    ¬wp (env (replies digesting)) (digestFinal abcCtx.ctx (.replicate 16 0))
      (fun r _ => r.ret = retOsslOk → DigestRight abcHash abcCtx 16 r) abcWorld.2 := by
  refine ⟨DigestReached.run .start, abcWorld_ctx, rfl, fun h => ?_⟩
  have hshort : DigestRight abcHash abcCtx 16 { ret := retOsslOk, out := .replicate 16 0 } := h rfl
  exact absurd hshort.room (by decide)

end P11Prov
