import P11Prov.Object.Handles
import P11Prov.Session.Held
import P11Prov.Store.Find
import P11Prov.Store.Load
import P11Prov.Store.Traversal

/-!
# What the store delivers

`store_fetch` goes through the slots and makes an object of every handle that it
finds. Here it runs against tokens that answer as a `SearchToken` does: a search
goes through the objects that match its template, some at each call, and an object
is read as `p11prov_obj_from_handle` reads it. Any call may fail, no session may be
had on a slot, and memory may run out.

In every run what is delivered was made of handles found on the slots that the last
pass visited, in their order (`storeFetch_delivered`). If neither the memory nor one
of these calls fails, all of them that the provider can digest are delivered.
-/

namespace P11Prov

open Interaction Walk

/-! ## The tokens -/

/-- The tokens in the slots, with the objects that a session of the store sees. -/
structure SlotTokens where
  token : SlotId → SearchToken

/-- The classes of the objects that the provider makes. -/
def knownClasses : List Nat := [Cko.certificate, Cko.publicKey, Cko.privateKey, Cko.secretKey]

/-- What was read of an object. -/
def Obj.read (obj : Obj) : ObjAttrs :=
  { cls := obj.cls, ckaCopyable := obj.ckaCopyable, ckaToken := obj.ckaToken, key := obj.key
    attrs := obj.attrs }

/-- The template of a search with a class, if there is one. -/
def classTemplate (cls : Nat) (attrs : List (Nat × Bytes)) : List (Nat × Bytes) :=
  (if cls = ckUnavailableInformation then [] else [(ckaClass, ulongBytes cls)]) ++ attrs

/-- The state of the provider, with the handles that the search of each session has left. -/
structure Searching where
  st : State
  left : Handle → List ObjectHandle

section Tokens

variable (lib : EcLib) (ts : SlotTokens)

/-- The token in a slot says this of one of its objects. -/
def SlotTokens.Says (slotid : SlotId) (handle : ObjectHandle) (a : ObjAttrs) : Prop :=
  ∃ supported,
    match (objFromToken lib slotid handle ((ts.token slotid).attrs handle) supported).1 with
    | .ok obj => a = obj.read
    | .error ret => ret = Ckr.cancel ∧ a.cls ∉ knownClasses

/-- What a search finds on the token of its session. -/
def SlotTokens.matching (t : Token) (h : Handle) (cls : Nat) (attrs : List (Nat × Bytes)) :
    List ObjectHandle :=
  (t.opened h).elim [] fun o => (ts.token o.slot).matching (classTemplate cls attrs)

/-- The answers of the tokens, unless they fail. -/
def SlotTokens.Answers (x : Searching) : (c : Cmd) → c.Resp → Prop
  | .call (.findObjects h), r => r.1 = Ckr.ok →
    r.2.length ≤ objsPerSearch ∧ r.2 <+: x.left h ∧ (r.2 = [] → x.left h = [])
  | .call (.fetchAttributes h object), r => r.1 = Ckr.ok →
    ∃ o, x.st.tok.opened h = some o ∧ ts.Says lib o.slot object r.2
  | _, _ => True

/-- The handles that are left after a command. -/
def SlotTokens.leftAfter (x : Searching) : (c : Cmd) → c.Resp → Handle → List ObjectHandle
  | .call (.findObjectsInit h cls attrs), r =>
    if r = Ckr.ok then Function.update x.left h (ts.matching x.st.tok h cls attrs) else x.left
  | .call (.findObjects h), r =>
    if r.1 = Ckr.ok then Function.update x.left h ((x.left h).drop r.2.length) else x.left
  | _, _ => x.left

/-- There is memory, and the token answers the calls of a search. An object is read if it can be
    digested, or its class is unknown. -/
def SlotTokens.Serves (x : Searching) : (c : Cmd) → c.Resp → Prop
  | .mem (.objAlloc _), r => r.isSome = true
  | .mem (.objAddToPool _), r => r = Ckr.ok
  | .mem .alloc, r => r = true
  | .call (.findObjectsInit _ _ _), r => r = Ckr.ok
  | .call (.findObjects _), r => r.1 = Ckr.ok
  | .call (.fetchAttributes h object), r => ∀ o, x.st.tok.opened h = some o →
    (∃ a, ts.Says lib o.slot object a) → r.1 = Ckr.ok
  | _, _ => True

/-- The environment of the provider with these tokens; if they are `reliable`, nothing fails that
    `store_fetch` asks for once it has a session. -/
def searchEnv (O : Oracle) (reliable : Prop) : Env Searching Cmd.Resp where
  adm x c r := (env O).adm x.st c r ∧ ts.Answers lib x c r ∧ (reliable → ts.Serves lib x c r)
  next x c r := ⟨(env O).next x.st c r, ts.leftAfter x c r⟩

/-- The handles that a search for a URI finds on a slot. -/
def SlotTokens.found (uri : Uri) (id : SlotId) : List (SlotId × ObjectHandle) :=
  ((ts.token id).found uri).map (id, ·)

/-- The provider can make an object of a handle. -/
def SlotTokens.Digestible (p : SlotId × ObjectHandle) : Prop :=
  ((ts.token p.1).attrs p.2).Digestible lib

/-- The provider can make an object of a handle, or it leaves it out. -/
def SlotTokens.Readable (p : SlotId × ObjectHandle) : Prop :=
  ts.Digestible lib p ∨ ((ts.token p.1).attrs p.2).Ignored

/-- The objects of a URI on a slot are not too many, and each of them can be read. -/
structure SlotTokens.Findable (uri : Uri) (id : SlotId) : Prop where
  few : ((ts.token id).found uri).length < maxObjsInStore
  readable : ∀ p ∈ ts.found uri id, ts.Readable lib p

/-- A new object with what was read of it. -/
def ObjAttrs.obj (a : ObjAttrs) (slotid : SlotId) (handle : ObjectHandle) (pooled : Bool) : Obj :=
  { slotid, handle, cls := a.cls, ckaCopyable := a.ckaCopyable, ckaToken := a.ckaToken, key := a.key
    attrs := a.attrs, pooled }

/-- The object was made of a handle. -/
def SlotTokens.Makes (p : SlotId × ObjectHandle) (k : Obj) : Prop :=
  ∃ supported obj pooled,
    (objFromToken lib p.1 p.2 ((ts.token p.1).attrs p.2) supported).1 = .ok obj ∧
      k = { obj.read.obj p.1 p.2 pooled with refreshUri := k.refreshUri }

/-- The object was made of a handle for a URI, by which it is refreshed if it could be copied. -/
structure SlotTokens.Made (sure : Prop) (uri : Uri) (p : SlotId × ObjectHandle) (k : Obj) :
    Prop where
  makes : ts.Makes lib p k
  refreshUri : k.refreshUri = none ∨ k.refreshUri = some uri
  copied : sure → k.refreshUri = some uri

end Tokens

/-- The slots that pass the checks for a URI. -/
def Ctx.slotsFor (ctx : Ctx) (uri : Uri) : List Slot :=
  ctx.slots.filter fun slot => checkSlot ctx slot uri ckUnavailableInformation false = Ckr.ok

/-- What a pass that went along these steps delivers for a URI. -/
structure Delivered (lib : EcLib) (ts : SlotTokens) (ctx : Ctx) (uri : Uri) (sure : Prop)
    (steps : List SlotStep) (d : Delivery) : Prop where
  order : (visits steps).Sublist ctx.slotIds
  slots : ∀ id ∈ visits steps, ∃ slot ∈ ctx.slotsFor uri, slot.id = id
  objects : ∃ l, l.Sublist ((visits steps).flatMap (ts.found uri)) ∧
    List.Forall₂ (fun k p => ts.Made lib sure uri p k) d.objects l ∧
    (sure → ∀ p ∈ (visits steps).flatMap (ts.found uri), ts.Digestible lib p → p ∈ l)
  ok : sure → visits steps ≠ [] → d.ok = true

/-! ## The calls of a search -/

variable {O : Oracle} {lib : EcLib} {ts : SlotTokens} {reliable : Prop} {x x' : Searching}
  {ctx : Ctx} {s : SessId} {sc sc' sc'' : StoreCtx} {uri : Uri}

/-- What is shown of a program without tokens holds with them. -/
theorem wp_searchEnv {α : Type} {p : P α} {Q : α → State → Prop} (h : wp (env O) p Q x.st) :
    wp (searchEnv lib ts O reliable) p (fun a x' => Q a x'.st) x :=
  @wp_of_proj _ _ _ _ (env O) _ _ (searchEnv lib ts O reliable) Searching.st
    (fun _ _ _ hr => hr.1) (fun _ _ _ => rfl) _ _ h

section Rules

variable {α : Type} {Q : α → Searching → Prop}

theorem wp_searchMem {c : MemCmd} {k : c.Resp → P α}
    (h : ∀ r, x.st.mem.Answers c r → (reliable → ts.Serves lib x (.mem c) r) →
      wp (searchEnv lib ts O reliable) (k r) Q ⟨⟨x.st.mem.after c r, x.st.tok⟩, x.left⟩) :
    wp (searchEnv lib ts O reliable) (mem c >>= k) Q x := fun r hr => h r hr.1 hr.2.2

theorem wp_searchCall {c : Call} {k : c.Resp → P α}
    (h : ∀ r, ts.Answers lib x (.call c) r → (reliable → ts.Serves lib x (.call c) r) →
      wp (searchEnv lib ts O reliable) (k r) Q
        ⟨⟨x.st.mem, x.st.tok.after c r⟩, ts.leftAfter x (.call c) r⟩) :
    wp (searchEnv lib ts O reliable) (call c >>= k) Q x := fun r hr => h r hr.2.1 hr.2.2

end Rules

/-- The loop collects handles that the search has left, and all of them if nothing fails and they
    are not too many. -/
theorem findObjects_left {h : Handle} {n : Nat} {objects left : List ObjectHandle}
    (hleft : x.left h = left) :
    wp (searchEnv lib ts O reliable) (findObjects h n objects) (fun r x' => x'.st = x.st ∧
      (∀ ret hs, r = some (ret, hs) → ∃ found, hs = objects ++ found ∧ found <+: left) ∧
      (reliable → maxObjsInStore ≤ n + objects.length →
        objects.length + left.length < maxObjsInStore → r = some (Ckr.ok, objects ++ left))) x := by
  induction n generalizing x objects left with
  | zero =>
    refine ⟨rfl, ?_, fun _ hmax hlt => ?_⟩
    · rintro ret hs ⟨⟩
      exact ⟨[], (List.append_nil objects).symm, List.nil_prefix⟩
    · omega
  | succ n ih =>
    refine wp_searchMem fun room _ hroom => wp_ite.2 ⟨fun hno => ?_, fun _ => ?_⟩
    · refine ⟨rfl, nofun, fun hr => ?_⟩
      rw [show room = true from hroom hr] at hno
      exact absurd hno Bool.false_ne_true
    refine wp_searchCall fun r hans hok => wp_ite.2 ⟨fun hend => ?_, fun hgo => ?_⟩
    · refine ⟨rfl, ?_, fun hr _ _ => ?_⟩
      · rintro _ _ ⟨⟩
        exact ⟨[], (List.append_nil objects).symm, List.nil_prefix⟩
      · have hret : r.1 = Ckr.ok := hok hr
        have hnil : x.left h = [] := (hans hret).2.2 (hend.resolve_left (not_not_intro hret))
        rw [hret, ← hleft, hnil, List.append_nil]
    rw [not_or, not_not] at hgo
    obtain ⟨hret, hne⟩ := hgo
    obtain ⟨-, ⟨rest, hrest⟩, -⟩ := hans hret
    obtain rfl : r.2 ++ rest = left := hrest.trans hleft
    have hdrop : ts.leftAfter ⟨⟨x.st.mem, x.st.tok⟩, x.left⟩ (.call (.findObjects h)) r h = rest := by
      rw [SlotTokens.leftAfter, if_pos hret, Function.update_self, hleft, List.drop_left]
    have hpos := List.length_pos_iff.2 hne
    simp only [List.length_append]
    refine wp_ite.2 ⟨fun hlt => wp_mono (ih hdrop) ?_, fun hmany => ⟨rfl, ?_, fun _ _ hlt => ?_⟩⟩
    · rintro r' x' ⟨hst, hsome, hall⟩
      refine ⟨hst, fun ret hs hr => ?_, fun hr hmax hlt => ?_⟩
      · obtain ⟨more, rfl, hmore⟩ := hsome ret hs hr
        refine ⟨r.2 ++ more, List.append_assoc .., ?_⟩
        exact (List.prefix_append_right_inj _).2 hmore
      · rw [List.length_append] at hall
        rw [hall hr (by omega) (by omega), List.append_assoc]
    · rintro _ _ ⟨⟩
      exact ⟨r.2, rfl, rest, rfl⟩
    · omega

/-! ## Making an object -/

/-- Objects were made, and nothing else happened. -/
structure Grew (st st' : State) : Prop where
  sess : st'.mem.sess = st.mem.sess
  tok : st'.tok = st.tok
  objs : ∀ o k, st.mem.obj o = some k → st'.mem.obj o = some k

namespace Grew

variable {st st' st'' : State} {o : ObjId}

theorem refl : Grew st st := ⟨rfl, rfl, fun _ _ h => h⟩

/-- An object is changed that was not there. -/
theorem setObj (h : Grew st st') (ho : st.mem.obj o = none) {f : Obj → Option Obj} :
    Grew st ⟨st'.mem.setObj o f, st'.tok⟩ where
  sess := h.sess
  tok := h.tok
  objs o' k hk := by
    have hne : o' ≠ o := by
      rintro rfl
      rw [ho] at hk
      cases hk
    exact Mem.obj_setObj.trans ((if_neg hne).trans (h.objs o' k hk))

theorem alloc {k : Obj} : Grew st ⟨{ st.mem with objs := st.mem.objs ++ [some k] }, st.tok⟩ where
  sess := rfl
  tok := rfl
  objs o k' hk := by
    have hlt : o < st.mem.objs.length := (List.getElem?_eq_some_iff.1 (Mem.getElem?_objs hk)).1
    simpa [Mem.obj, List.getElem?_append_left hlt] using hk

end Grew

theorem Mem.obj_length (m : Mem) : m.obj m.objs.length = none := by simp [obj]

/-- An object that nothing refers to and that has no key cached is just gone. -/
theorem objFree_sole {st : State} {o : ObjId} {k : Obj} (hk : st.mem.obj o = some k)
    (hone : k.refcnt = 1) (hr : k.refSession = none) (hc : k.cached = ckInvalidHandle)
    (ha : k.assocObj = none) : wp (env O) (objFree ctx o)
      (fun _ st' => st' = ⟨st.mem.setObj o fun _ => none, st.tok⟩) st := by
  simp only [objFree, objFreeChain, Prog.perform_eq, Prog.call_bind, Prog.ret_bind, wp_numObjs,
    wp_objUnref, hk, Option.filter_some, hone, decide_true, ↓reduceIte, hr, destroyKeyCache, hc, ha,
    ne_eq, not_true_eq_false, Prog.pure_eq, wp_ret]
  rw [Mem.setObj_congr (g := fun _ => none) hk (by simp [hone])]

theorem objNew_grew {slotid : SlotId} {handle : ObjectHandle} {cls : Nat} :
    wp (searchEnv lib ts O reliable) (objNew slotid handle cls) (fun r x' => Grew x.st x'.st ∧
      (reliable → r ≠ none) ∧ ∀ o, r = some o → x.st.mem.obj o = none ∧
        ∃ pooled, x'.st.mem.obj o = some { slotid, handle, cls, pooled }) x := by
  refine wp_searchMem ?_
  rintro r (rfl | rfl) hok
  · exact ⟨.refl, fun hr => absurd (hok hr) Bool.false_ne_true, nofun⟩
  have hfresh := x.st.mem.obj_length
  have hgrew := @Grew.alloc x.st { slotid, handle, cls }
  refine wp_ite.2 ⟨fun _ => ⟨hgrew, fun _ => nofun, ?_⟩, fun _ => ?_⟩
  · rintro _ ⟨⟩
    exact ⟨hfresh, false, ObjectInvariant.obj_alloc⟩
  refine wp_searchMem fun ret _ hpool => wp_ite.2 ⟨fun hno => ?_, fun hyes => ?_⟩
  · refine wp_searchMem fun _ _ _ => ⟨?_, fun hr => absurd (hpool hr) hno, nofun⟩
    simp only [Mem.after, if_neg hno]
    exact hgrew.setObj hfresh
  · rw [not_not] at hyes
    refine ⟨?_, fun _ => nofun, ?_⟩
    · simp only [Mem.after, if_pos hyes]
      exact hgrew.setObj hfresh
    · rintro _ ⟨⟩
      refine ⟨hfresh, true, ?_⟩
      simp only [Mem.after, if_pos hyes]
      exact Mem.obj_setObj_self ObjectInvariant.obj_alloc

/-- The session has a handle that is open on its slot. -/
def State.OpenOnSlot (st : State) (s : SessId) : Prop :=
  ∃ o, st.tok.opened (st.mem.sess s).session = some o ∧ o.slot = s.slot

theorem State.OpenOnSlot.grew {st st' : State} (h : st.OpenOnSlot s) (hg : Grew st st') :
    st'.OpenOnSlot s := by
  rw [OpenOnSlot, hg.tok, hg.sess]
  exact h

/-- What the token says of a handle: the object that is made of it, or its class is unknown. -/
theorem SlotTokens.Says.cases {slotid : SlotId} {handle : ObjectHandle} {a : ObjAttrs}
    (h : ts.Says lib slotid handle a) :
    (a.cls ∈ knownClasses ∧ ∃ supported obj, (objFromToken lib slotid handle
        ((ts.token slotid).attrs handle) supported).1 = .ok obj ∧ a = obj.read) ∨
      (a.cls ∉ knownClasses ∧ ¬ts.Digestible lib (slotid, handle)) := by
  obtain ⟨supported, h⟩ := h
  rcases objFromToken_spec lib ((ts.token slotid).attrs handle) slotid handle supported with
    ⟨hign, herr⟩ | ⟨-, ⟨hdig, obj, hok, hext⟩ | ⟨hnot, ret, herr, hne, -⟩⟩
  · rw [herr] at h
    exact .inr ⟨h.2, hign.not_digestible⟩
  · rw [hok] at h
    obtain rfl : a = obj.read := h
    refine .inl ⟨?_, supported, obj, hok, rfl⟩
    have hcls : obj.cls = ((ts.token slotid).attrs handle).cls := hext.cls
    rw [Obj.read, hcls]
    cases hdig.supported with
    | certificate hcls => simp [hcls, knownClasses]
    | rsa hcls | ec hcls | mlDsa hcls | mlKem hcls =>
      simp only [List.mem_cons, List.not_mem_nil, or_false] at hcls
      rcases hcls with h | h <;> simp [h, knownClasses]
    | secret hcls => simp [hcls, knownClasses]
  · rw [herr] at h
    exact absurd h.1 hne

/-- A token has something to say of a handle that can be read. -/
theorem SlotTokens.Readable.says {p : SlotId × ObjectHandle} (h : ts.Readable lib p) :
    ∃ a, ts.Says lib p.1 p.2 a := by
  rcases objFromToken_spec lib ((ts.token p.1).attrs p.2) p.1 p.2 false with
    ⟨-, herr⟩ | ⟨hnign, ⟨-, obj, hok, -⟩ | ⟨hnot, -⟩⟩
  · refine ⟨{ cls := 0 }, false, ?_⟩
    rw [herr]
    exact ⟨rfl, by decide⟩
  · refine ⟨obj.read, false, ?_⟩
    rw [hok]
  · exact absurd h (not_or.2 ⟨hnot, hnign⟩)

theorem objFromHandle_made {handle : ObjectHandle} (hs : x.st.OpenOnSlot s) :
    wp (searchEnv lib ts O reliable) (objFromHandle ctx s handle none) (fun r x' =>
      Grew x.st x'.st ∧ (∀ o, r = .ok o → x.st.mem.obj o = none ∧
        ∃ k, x'.st.mem.obj o = some k ∧ ts.Makes lib (s.slot, handle) k) ∧
      ∀ ret, r = .error ret → reliable → ts.Readable lib (s.slot, handle) →
        ret = Ckr.cancel ∧ ¬ts.Digestible lib (s.slot, handle)) x := by
  refine wp.bind objNew_grew ?_
  rintro (_ | o) x₁ ⟨hgrew, hnone, hnew⟩
  · exact ⟨hgrew, nofun, fun _ _ hr _ => absurd rfl (hnone hr)⟩
  obtain ⟨hfresh, pooled, hobj⟩ := hnew o rfl
  -- a failure leaves nothing behind
  have hfail {x₂ : Searching} (hst : x₂.st = x₁.st) {ret : CkRv}
      (hret : reliable → ts.Readable lib (s.slot, handle) →
        ret = Ckr.cancel ∧ ¬ts.Digestible lib (s.slot, handle)) :
      wp (searchEnv lib ts O reliable) (do
        objFree ctx o
        return (.error ret : Except CkRv ObjId)) (fun r x' => Grew x.st x'.st ∧
          (∀ o, r = .ok o → x.st.mem.obj o = none ∧
            ∃ k, x'.st.mem.obj o = some k ∧ ts.Makes lib (s.slot, handle) k) ∧
          ∀ ret, r = .error ret → reliable → ts.Readable lib (s.slot, handle) →
            ret = Ckr.cancel ∧ ¬ts.Digestible lib (s.slot, handle)) x₂ := by
    refine wp.bind (wp_searchEnv (objFree_sole (hst ▸ hobj) rfl rfl rfl rfl)) ?_
    rintro - x₃ hst₃
    refine ⟨?_, nofun, ?_⟩
    · rw [hst₃, hst]
      exact hgrew.setObj hfresh
    · rintro _ ⟨⟩
      exact hret
  refine wp_searchMem ?_
  rintro _ rfl -
  obtain ⟨oh, hoh, hslot⟩ := hs.grew hgrew
  refine wp_searchCall fun a hans hok => wp_ite.2 ⟨fun hno => ?_, fun hyes => ?_⟩
  · exact hfail rfl fun hr hread => absurd (hok hr oh hoh (hslot ▸ hread.says)) hno
  rw [not_not] at hyes
  obtain ⟨oh', hoh', hsays⟩ := hans hyes
  obtain rfl := Option.some.inj (hoh.symm.trans hoh')
  rw [hslot] at hsays
  have hknown : a.2.cls ∈ knownClasses ↔ ¬(a.2.cls ≠ Cko.certificate ∧ a.2.cls ≠ Cko.publicKey ∧
      a.2.cls ≠ Cko.privateKey ∧ a.2.cls ≠ Cko.secretKey) := by
    simp only [knownClasses, List.mem_cons, List.not_mem_nil, or_false]
    tauto
  obtain ⟨hcls, supported, obj, hmade, ha⟩ | ⟨hcls, hnot⟩ := hsays.cases
  · rw [if_neg (hknown.1 hcls)]
    refine wp_searchMem fun _ _ _ => ⟨hgrew.setObj hfresh, ?_, nofun⟩
    rintro _ ⟨⟩
    refine ⟨hfresh, _, Mem.obj_setObj_self hobj, supported, obj, pooled, hmade, ?_⟩
    rw [← ha]
    rfl
  · rw [if_pos (not_not.1 fun h => hcls (hknown.2 h))]
    exact hfail rfl fun _ _ => ⟨rfl, hnot⟩

/-! ## Searching a slot -/

/-- Objects were added to those of the store, made of some of these handles in their order; of all
    that the provider can digest if `sure` holds. -/
structure Adds (lib : EcLib) (ts : SlotTokens) (sure : Prop) (all : List (SlotId × ObjectHandle))
    (st st' : State) (sc sc' : StoreCtx) : Prop where
  objs : ∀ o k, st.mem.obj o = some k → st'.mem.obj o = some k
  uri : sc'.parsedUri = sc.parsedUri
  added : ∃ new l, sc'.objects = sc.objects ++ new ∧
    List.Forall₂ (fun o p => ∃ k, st'.mem.obj o = some k ∧ ts.Made lib sure sc.parsedUri p k) new l ∧
    l.Sublist all ∧ (sure → ∀ p ∈ all, ts.Digestible lib p → p ∈ l)

namespace Adds

variable {sure : Prop} {all all' : List (SlotId × ObjectHandle)} {st st' st'' : State}

/-- The objects are as they were, and no handle was looked at that had to be. -/
theorem none (hobjs : ∀ o k, st.mem.obj o = some k → st'.mem.obj o = some k)
    (huri : sc'.parsedUri = sc.parsedUri) (hsc : sc'.objects = sc.objects)
    (hall : sure → ∀ p ∈ all, ¬ts.Digestible lib p) : Adds lib ts sure all st st' sc sc' where
  objs := hobjs
  uri := huri
  added := ⟨[], [], by rw [hsc, List.append_nil], .nil, List.nil_sublist _,
    fun hs p hp hd => absurd hd (hall hs p hp)⟩

theorem trans (h : Adds lib ts sure all st st' sc sc') (h' : Adds lib ts sure all' st' st'' sc' sc'') :
    Adds lib ts sure (all ++ all') st st'' sc sc'' where
  objs o k hk := h'.objs o k (h.objs o k hk)
  uri := h'.uri.trans h.uri
  added := by
    obtain ⟨new, l, hsc, hnew, hl, hall⟩ := h.added
    obtain ⟨new', l', hsc', hnew', hl', hall'⟩ := h'.added
    rw [h.uri] at hnew'
    refine ⟨new ++ new', l ++ l', ?_, List.rel_append ?_ hnew', hl.append hl', fun hs p hp hd => ?_⟩
    · rw [hsc', hsc, List.append_assoc]
    · refine hnew.imp ?_
      rintro o p ⟨k, hk, hmade⟩
      exact ⟨k, h'.objs o k hk, hmade⟩
    · rw [List.mem_append] at hp ⊢
      exact hp.imp (hall hs p · hd) (hall' hs p · hd)

/-- The object of the first handle was added. -/
theorem cons {p : SlotId × ObjectHandle} {o : ObjId} {k : Obj}
    (hobjs : ∀ o k, st.mem.obj o = some k → st'.mem.obj o = some k) (hk : st'.mem.obj o = some k)
    (hmade : ts.Made lib sure sc.parsedUri p k)
    (h : Adds lib ts sure all st' st'' { sc with objects := sc.objects ++ [o] } sc'') :
    Adds lib ts sure (p :: all) st st'' sc sc'' where
  objs o k hk := h.objs o k (hobjs o k hk)
  uri := h.uri
  added := by
    obtain ⟨new, l, hsc, hnew, hl, hall⟩ := h.added
    refine ⟨o :: new, p :: l, ?_, .cons ⟨k, h.objs o k hk, hmade⟩ hnew, hl.cons_cons p, ?_⟩
    · rw [hsc, List.append_assoc, List.singleton_append]
    · intro hs q hq hd
      rw [List.mem_cons] at hq ⊢
      exact hq.imp id (hall hs q · hd)

theorem mono {sure' : Prop} (h : Adds lib ts sure all st st' sc sc') (hsub : all.Sublist all')
    (hall' : sure' → sure ∧ all = all') : Adds lib ts sure' all' st st' sc sc' where
  objs := h.objs
  uri := h.uri
  added := by
    obtain ⟨new, l, hsc, hnew, hl, hall⟩ := h.added
    refine ⟨new, l, hsc, ?_, hl.trans hsub, fun hs => ?_⟩
    · refine hnew.imp ?_
      rintro o p ⟨k, hk, hmade⟩
      exact ⟨k, hk, hmade.makes, hmade.refreshUri, fun hs => hmade.copied (hall' hs).1⟩
    · obtain ⟨hsure, rfl⟩ := hall' hs
      exact hall hsure

end Adds

theorem storeCtxAddObj_cases {o : ObjId} {k : Obj} {p : SlotId × ObjectHandle}
    (hk : x.st.mem.obj o = some k) (hmakes : ts.Makes lib p k) :
    wp (searchEnv lib ts O reliable) (storeCtxAddObj ctx sc o) (fun r x' =>
      (r = (Ckr.ok, { sc with objects := sc.objects ++ [o] }) ∧ x'.st = x.st) ∨
        (¬reliable ∧ r = (Ckr.hostMemory, sc) ∧
          x'.st = ⟨x.st.mem.setObj o fun _ => none, x.st.tok⟩)) x := by
  obtain ⟨-, obj, pooled, -, hmk⟩ := hmakes
  have hfree {x₁ : Searching} (hst : x₁.st = x.st) (hr : ¬reliable) :
      wp (searchEnv lib ts O reliable) (do
        objFree ctx o
        return (Ckr.hostMemory, sc)) (fun r x' =>
          (r = (Ckr.ok, { sc with objects := sc.objects ++ [o] }) ∧ x'.st = x.st) ∨
            (¬reliable ∧ r = (Ckr.hostMemory, sc) ∧
              x'.st = ⟨x.st.mem.setObj o fun _ => none, x.st.tok⟩)) x₁ := by
    rw [hmk] at hk
    refine wp.bind (wp_searchEnv (objFree_sole (hst ▸ hk) rfl rfl rfl rfl)) fun _ x₂ hst₂ => ?_
    exact .inr ⟨hr, rfl, hst ▸ hst₂⟩
  refine wp_ite.2 ⟨fun _ => ?_, fun _ => .inl ⟨rfl, rfl⟩⟩
  refine wp_searchMem fun room _ hroom => wp_ite.2 ⟨fun _ => .inl ⟨rfl, rfl⟩, fun hno => ?_⟩
  exact hfree rfl fun hr => hno (hroom hr)

/-- The loop over the handles makes objects of them. If nothing fails and all can be read, they are
    those that the provider can digest. -/
theorem addObjects_adds {sure : Prop} {handles : List ObjectHandle} {result : CkRv}
    (hsure : sure → reliable ∧ ∀ h ∈ handles, ts.Readable lib (s.slot, h))
    (hs : x.st.OpenOnSlot s) :
    wp (searchEnv lib ts O reliable) (addObjects ctx s result handles sc) (fun r x' =>
      x'.st.mem.sess = x.st.mem.sess ∧ x'.st.tok = x.st.tok ∧
        Adds lib ts sure (handles.map (s.slot, ·)) x.st x'.st sc r.2 ∧ (sure → r.1 = result)) x := by
  induction handles generalizing sc x with
  | nil => exact ⟨rfl, rfl, .none (fun _ _ h => h) rfl rfl (fun _ _ => nofun), fun _ => rfl⟩
  | cons handle handles ih =>
    have hrest (h : sure) : reliable ∧ ∀ h ∈ handles, ts.Readable lib (s.slot, h) :=
      ⟨(hsure h).1, fun h' hmem => (hsure h).2 h' (List.mem_cons_of_mem handle hmem)⟩
    refine wp.bind (objFromHandle_made hs) ?_
    rintro (ret | o) x₁ ⟨hgrew, hok, herr⟩
    · replace herr (h : sure) : ret = Ckr.cancel ∧ ¬ts.Digestible lib (s.slot, handle) :=
        herr ret rfl (hsure h).1 ((hsure h).2 handle List.mem_cons_self)
      refine wp_ite.2 ⟨fun hc => ?_, fun hc => ?_⟩
      · refine wp_mono (ih hrest (hs.grew hgrew)) ?_
        rintro r x' ⟨hsess, htok, hadds, hret⟩
        have hfirst : Adds lib ts sure [(s.slot, handle)] x.st x₁.st sc sc := by
          refine .none hgrew.objs rfl rfl fun h p hp => ?_
          rw [List.mem_singleton.1 hp]
          exact (herr h).2
        exact ⟨hsess.trans hgrew.sess, htok.trans hgrew.tok, hfirst.trans hadds, hret⟩
      · refine ⟨hgrew.sess, hgrew.tok, ?_, fun h => absurd (herr h).1 hc⟩
        exact .none hgrew.objs rfl rfl fun h => absurd (herr h).1 hc
    obtain ⟨hfresh, k, hk, hmakes⟩ := hok o rfl
    refine wp_searchMem fun copied _ hcopied => wp_searchMem fun _ _ _ => ?_
    -- the object with the URI for refreshes
    obtain ⟨supported, obj, pooled, hobj, heq⟩ := hmakes
    have hkept := hgrew.setObj hfresh (f := fun obj => some { obj with
      refreshUri := if copied then sc.parsedUri else none })
    have hk₁ := Mem.obj_setObj_self (f := fun obj => some { obj with
      refreshUri := if copied then some sc.parsedUri else none }) hk
    have hmade₁ : ts.Made lib sure sc.parsedUri (s.slot, handle)
        { k with refreshUri := if copied then some sc.parsedUri else none } := by
      refine ⟨⟨supported, obj, pooled, hobj, ?_⟩, ?_, fun h => if_pos (hcopied (hsure h).1)⟩
      · rw [heq]
      · rcases copied with _ | _
        · exact .inl rfl
        · exact .inr rfl
    refine wp.bind (storeCtxAddObj_cases hk₁ hmade₁.makes) ?_
    rintro r x₂ (⟨rfl, hst⟩ | ⟨hunrel, rfl, hst⟩)
    · refine wp_ite.2 ⟨fun h => absurd rfl h, fun _ => ?_⟩
      have hgrew₂ : Grew x.st x₂.st := hst ▸ hkept
      refine wp_mono (ih hrest (hs.grew hgrew₂)) ?_
      rintro r x' ⟨hsess, htok, hadds, hret⟩
      exact ⟨hsess.trans hgrew₂.sess, htok.trans hgrew₂.tok,
        .cons hgrew₂.objs (hst ▸ hk₁) hmade₁ hadds, hret⟩
    · refine wp_ite.2 ⟨fun _ => ?_, fun h => absurd (by decide) h⟩
      have hgrew₂ : Grew x.st x₂.st := hst ▸ hkept.setObj hfresh
      exact ⟨hgrew₂.sess, hgrew₂.tok, .none hgrew₂.objs rfl rfl fun h => absurd (hsure h).1 hunrel,
        fun h => absurd (hsure h).1 hunrel⟩

theorem searchTemplate_eq (uri : Uri) : searchTemplate uri =
    classTemplate uri.type (findAttr ckaId uri.id ++ findAttr ckaLabel uri.object) :=
  List.append_assoc ..

/-- A search for a URI on the session of a slot finds what its token has. -/
theorem SlotTokens.matching_eq {t : Token} {h : Handle} {o : OpenSession} (ho : t.opened h = some o)
    (hcls : findableClass uri.type = true) :
    ts.matching t h uri.type (findAttr ckaId uri.id ++ findAttr ckaLabel uri.object) =
      (ts.token o.slot).found uri := by
  rw [matching, ho, Option.elim_some, SearchToken.found, if_pos hcls, searchTemplate_eq]

/-- A search adds objects that are found on the slot of the session. -/
theorem objFind_adds {sure : Prop}
    (hsure : sure → reliable ∧ ts.Findable lib sc.parsedUri s.slot) (hs : x.st.OpenOnSlot s) :
    wp (searchEnv lib ts O reliable) (objFind ctx s sc) (fun r x' =>
      x'.st.mem.sess = x.st.mem.sess ∧ x'.st.tok = x.st.tok ∧
        Adds lib ts sure (ts.found sc.parsedUri s.slot) x.st x'.st sc r.2 ∧
        (sure → r.1 = Ckr.ok)) x := by
  obtain ⟨o, ho, hslot⟩ := hs
  refine wp_ite.2 ⟨fun hno => ?_, fun hyes => ?_⟩
  · have hnil : ts.found sc.parsedUri s.slot = [] := by
      rw [SlotTokens.found, SearchToken.found, if_neg (by simpa using hno), List.map_nil]
    rw [hnil]
    exact ⟨rfl, rfl, .none (fun _ _ h => h) rfl rfl fun _ _ => nofun, fun _ => rfl⟩
  have hcls : findableClass sc.parsedUri.type = true := by simpa using hyes
  refine wp_searchMem ?_
  rintro _ rfl -
  refine wp_searchCall fun ret _ hinit => wp_ite.2 ⟨fun hno => ?_, fun hret => ?_⟩
  · exact ⟨rfl, rfl, .none (fun _ _ h => h) rfl rfl fun h => absurd (hinit (hsure h).1) hno,
      fun h => absurd (hinit (hsure h).1) hno⟩
  rw [not_not] at hret
  have hleft : ts.leftAfter x (.call (.findObjectsInit (x.st.mem.sess s).session sc.parsedUri.type
      (findAttr ckaId sc.parsedUri.id ++ findAttr ckaLabel sc.parsedUri.object))) ret
      (x.st.mem.sess s).session = (ts.token s.slot).found sc.parsedUri := by
    rw [SlotTokens.leftAfter, if_pos hret, Function.update_self, SlotTokens.matching_eq ho hcls, hslot]
  refine wp.bind (findObjects_left hleft) ?_
  rintro r x₁ ⟨hst, hsome, hall⟩
  replace hst : x₁.st = x.st := hst
  have hend (h : sure) : r = some (Ckr.ok, [] ++ (ts.token s.slot).found sc.parsedUri) := by
    refine hall (hsure h).1 (Nat.le_refl _) ?_
    rw [List.length_nil, Nat.zero_add]
    exact (hsure h).2.few
  refine wp_searchCall fun _ _ _ => ?_
  rcases r with _ | ⟨result, handles⟩
  · refine ⟨congrArg (·.mem.sess) hst, congrArg State.tok hst, ?_, fun h => nomatch hend h⟩
    exact .none (fun _ _ h => hst ▸ h) rfl rfl fun h => nomatch hend h
  obtain ⟨found, rfl, hpre⟩ := hsome result handles rfl
  have hread (h : sure) : reliable ∧ ∀ h ∈ handles, ts.Readable lib (s.slot, h) :=
    ⟨(hsure h).1, fun h' hmem =>
      (hsure h).2.readable _ (List.mem_map_of_mem (hpre.subset hmem))⟩
  have hs₁ : x₁.st.OpenOnSlot s := hst ▸ ⟨o, ho, hslot⟩
  refine wp_mono (addObjects_adds hread hs₁) ?_
  rintro r' x' ⟨hsess, htok, hadds, hret⟩
  rw [hst] at hsess htok hadds
  refine ⟨hsess, htok, hadds.mono (hpre.sublist.map _) fun h => ⟨h, ?_⟩, fun h => ?_⟩
  · rw [(Prod.mk.inj (Option.some.inj (hend h))).2]
    rfl
  · exact (hret h).trans (Prod.mk.inj (Option.some.inj (hend h))).1

/-! ## Going through the slots -/

section Slots

variable {st st' : State} {req : Request} {pwCb login : Bool} {slotid : SlotId} {n : Nat}

/-- A slot that passed the checks is one of the slots. -/
theorem visitSlots_passes {id : SlotId} {ret : CkRv} {slots : List Slot} :
    wp (env O) (visitSlots ctx req id ret slots) (fun r _ => ∀ slot rest, r.2 = .ok (slot, rest) →
      slot ∈ slots ∧ checkSlot ctx slot req.uri req.mechtype req.rw = Ckr.ok) st := by
  induction slots generalizing id ret st with
  | nil => exact nofun
  | cons slot slots ih =>
    have htail : ∀ {r : Except CkRv (Slot × List Slot)},
        (∀ slot' rest, r = .ok (slot', rest) →
          slot' ∈ slots ∧ checkSlot ctx slot' req.uri req.mechtype req.rw = Ckr.ok) →
        ∀ slot' rest, r = .ok (slot', rest) →
          slot' ∈ slot :: slots ∧ checkSlot ctx slot' req.uri req.mechtype req.rw = Ckr.ok :=
      fun h slot' rest hr => (h slot' rest hr).imp_left (List.mem_cons_of_mem slot)
    have htry : wp (env O) (trySlot ctx req slot) (fun ret _ => ret = Ckr.ok →
        checkSlot ctx slot req.uri req.mechtype req.rw = Ckr.ok) st := by
      refine wp_ite.2 ⟨fun hno h => absurd h hno, fun hyes => ?_⟩
      exact wp_mono wp_true fun _ _ _ _ => not_not.1 hyes
    refine wp_ite.2 ⟨fun _ => wp_mono ih fun _ _ h => htail h, fun _ => ?_⟩
    refine wp.bind htry fun ret st₁ hcheck => wp_ite.2 ⟨fun hok => ?_, fun _ => ?_⟩
    · rintro _ _ ⟨⟩
      exact ⟨List.mem_cons_self, hcheck hok⟩
    · exact wp.bind ih fun _ _ h => htail h

/-- A session of the store is on a slot that passed the checks, and that is the slot searched. -/
theorem getSessionCursor_placed (hO : OpensFresh O) (hst : SessionsPlaced st) :
    wp (env O) (getSessionCursor ctx slotid req) (fun r st' => SessionsPlaced st' ∧
      st'.mem.objs = st.mem.objs ∧ (∀ ret, r.2.1 = .error ret → visits r.1 = []) ∧
      ∀ s, r.2.1 = .ok s → visits r.1 = [s.slot] ∧ st'.OpenOnSlot s ∧
        ∃ slot ∈ ctx.slots, slot.id = s.slot ∧
          checkSlot ctx slot req.uri req.mechtype req.rw = Ckr.ok) st := by
  have hI := SessionsPlaced.sessionInvariant hO
  have hobjs := objs_sessionInvariant (O := O) st.mem.objs
  have hcycle : wp (env O) (visitSlots ctx req slotid Ckr.cancel ctx.slots) (fun _ st' =>
      SessionsPlaced st' ∧ st'.mem.objs = st.mem.objs) st := by
    have h : wp (env O) (cycleSlots ctx req slotid Ckr.cancel ctx.slots) (fun _ st' =>
      SessionsPlaced st' ∧ st'.mem.objs = st.mem.objs) st :=
      wp_and (hI.cycleSlots st hst) (hobjs.cycleSlots st rfl)
    rwa [cycleSlots_eq, wp_map] at h
  refine wp.bind (wp_and hcycle (wp_and visitSlots_passes visitSlots_walk)) ?_
  rintro ⟨steps, ret | ⟨slot, slots⟩⟩ st₁ ⟨⟨hst₁, hobjs₁⟩, hpass, hwalk⟩
  · exact ⟨hst₁, hobjs₁, fun _ _ => hwalk.2.1, nofun⟩
  obtain ⟨hmem, hcheck⟩ := hpass slot slots rfl
  have hspares : wp (env O) (openOnSlot ctx req slot) _ st₁ :=
    openOnSlot_spares hO (.refl (Set.empty_subset _) hst₁.toSessionsOpen)
  refine wp.bind (wp_and (wp_and (hI.openOnSlot st₁ hst₁) (hobjs.openOnSlot st₁ hobjs₁))
    (wp_and openOnSlot_outcome hspares)) ?_
  rintro (ret | s) st₂ ⟨⟨hst₂, hobjs₂⟩, ⟨-, hslot⟩, -, hne⟩
  · refine ⟨hst₂, hobjs₂, fun _ _ => ?_, nofun⟩
    rw [visits_append, hwalk.2.1]
    rfl
  · refine ⟨hst₂, hobjs₂, nofun, ?_⟩
    rintro _ ⟨⟩
    have hs : s.slot = slot.id := hslot s rfl
    refine ⟨?_, hst₂.placed s (hne s rfl), slot, hmem, hs.symm, hcheck⟩
    rw [visits_append, hwalk.2.1, hs]
    rfl

/-- What is known of some rounds of the loop, by the steps they took. -/
structure Loads (lib : EcLib) (ts : SlotTokens) (ctx : Ctx) (reliable : Prop) (st st' : State)
    (sc : StoreCtx) (steps : List SlotStep) (sc' : StoreCtx) : Prop where
  adds : Adds lib ts (reliable ∧ ∀ id ∈ visits steps, ts.Findable lib sc.parsedUri id)
    ((visits steps).flatMap (ts.found sc.parsedUri)) st st' sc sc'
  slots : ∀ id ∈ visits steps, ∃ slot ∈ ctx.slotsFor sc.parsedUri, slot.id = id
  loaded : (reliable ∧ ∀ id ∈ visits steps, ts.Findable lib sc.parsedUri id) →
    visits steps ≠ [] ∨ sc.loaded = 1 → sc'.loaded = 1

theorem Loads.trans {steps rest : List SlotStep} {st'' : State}
    (h : Loads lib ts ctx reliable st st' sc steps sc')
    (h' : Loads lib ts ctx reliable st' st'' sc' rest sc'') :
    Loads lib ts ctx reliable st st'' sc (steps ++ rest) sc'' := by
  obtain ⟨hadds, hslots, hloaded⟩ := h'
  rw [h.adds.uri] at hadds hslots hloaded
  have hfirst (hs : reliable ∧ ∀ id ∈ visits (steps ++ rest), ts.Findable lib sc.parsedUri id) :
      reliable ∧ ∀ id ∈ visits steps, ts.Findable lib sc.parsedUri id := by
    rw [visits_append] at hs
    exact ⟨hs.1, fun id hid => hs.2 id (List.mem_append_left _ hid)⟩
  have hlast (hs : reliable ∧ ∀ id ∈ visits (steps ++ rest), ts.Findable lib sc.parsedUri id) :
      reliable ∧ ∀ id ∈ visits rest, ts.Findable lib sc.parsedUri id := by
    rw [visits_append] at hs
    exact ⟨hs.1, fun id hid => hs.2 id (List.mem_append_right _ hid)⟩
  constructor
  · have hboth := (h.adds.mono (.refl _) fun hs => ⟨hfirst hs, rfl⟩).trans
      (hadds.mono (.refl _) fun hs => ⟨hlast hs, rfl⟩)
    rwa [← List.flatMap_append, ← visits_append] at hboth
  · intro id hid
    rw [visits_append, List.mem_append] at hid
    exact hid.elim (h.slots id) (hslots id)
  · intro hs hv
    by_cases hrest : visits rest = []
    · rw [visits_append, hrest, List.append_nil] at hv
      exact hloaded (hlast hs) (.inr (h.loaded (hfirst hs) hv))
    · exact hloaded (hlast hs) (.inl hrest)

theorem storeRound_loads (hO : OpensFresh O) (hst : SessionsPlaced x.st) :
    wp (searchEnv lib ts O reliable) (storeRound ctx pwCb login sc slotid) (fun r x' =>
      SessionsPlaced x'.st ∧ Loads lib ts ctx reliable x.st x'.st sc r.1 r.2.1) x := by
  have hI := SessionsPlaced.sessionInvariant hO
  have hback : wp (env O) (returnSession? ctx sc.session) (fun _ st' =>
      SessionsPlaced st' ∧ st'.mem.objs = x.st.mem.objs) x.st := by
    cases sc.session with
    | none => exact ⟨hst, rfl⟩
    | some s => exact wp_and (hI.returnSession _ hst) ((objs_sessionInvariant _).returnSession _ rfl)
  refine wp.bind (wp_searchEnv hback) ?_
  rintro - x₁ ⟨hst₁, hobjs₁⟩
  refine wp.bind (wp_searchEnv (getSessionCursor_placed hO hst₁)) ?_
  rintro ⟨steps, ret | s, cur⟩ x₂ ⟨hst₂, hobjs₂, herr, hok⟩
  all_goals
    have hobjs : ∀ o k, x.st.mem.obj o = some k → x₂.st.mem.obj o = some k := by
      intro o k hk
      rwa [Mem.obj, hobjs₂, hobjs₁]
  · have hnil : visits steps = [] := herr ret rfl
    refine ⟨hst₂, ?_, ?_, ?_⟩
    · rw [hnil]
      exact .none hobjs rfl rfl fun _ _ hp => absurd hp List.not_mem_nil
    · rw [hnil]
      exact fun _ hid => absurd hid List.not_mem_nil
    · rintro - (hne | hone)
      · exact absurd hnil hne
      · refine (if_neg ?_).trans hone
        rintro ⟨-, hzero⟩
        rw [hone] at hzero
        exact absurd hzero (by decide)
  · obtain ⟨hvisit, hs, slot, hslot, hid, hcheck⟩ := hok s rfl
    have hsure : (reliable ∧ ∀ id ∈ visits (steps : List SlotStep), ts.Findable lib sc.parsedUri id) →
        reliable ∧ ts.Findable lib sc.parsedUri s.slot := by
      rintro ⟨hr, hfind⟩
      exact ⟨hr, hfind s.slot (by rw [hvisit]; exact List.mem_cons_self)⟩
    refine wp.bind (objFind_adds hsure hs) ?_
    rintro ⟨ret, sc₃⟩ x₃ ⟨hsess, htok, hadds, hret⟩
    refine ⟨hst₂.of_sess htok fun s => .inl (congrArg (·.session) (congrFun hsess s)), ?_, ?_, ?_⟩
    · rw [hvisit] at hadds ⊢
      rw [List.flatMap_singleton]
      exact ⟨fun o k hk => hadds.objs o k (hobjs o k hk), hadds.uri, hadds.added⟩
    · rw [hvisit]
      intro id hmem
      rw [List.mem_singleton.1 hmem]
      exact ⟨slot, List.mem_filter.2 ⟨hslot, decide_eq_true hcheck⟩, hid⟩
    · exact fun h _ => if_pos (hret h)

theorem storePass_loads (hO : OpensFresh O) (hst : SessionsPlaced x.st) :
    wp (searchEnv lib ts O reliable) (storePass ctx pwCb login n sc slotid) (fun r x' =>
      SessionsPlaced x'.st ∧ ∀ sc', r.2 = some sc' →
        Loads lib ts ctx reliable x.st x'.st sc r.1 sc') x := by
  induction n generalizing sc slotid x with
  | zero =>
    refine ⟨hst, ?_⟩
    rintro sc' ⟨⟩
  | succ n ih =>
    refine wp.bind (storeRound_loads hO hst) ?_
    rintro ⟨steps, sc₁, cur⟩ x₁ ⟨hst₁, hround⟩
    refine wp_ite.2 ⟨fun _ => wp.bind (ih hst₁) ?_, fun _ => ⟨hst₁, ?_⟩⟩
    · rintro ⟨rest, r⟩ x₂ ⟨hst₂, hrest⟩
      exact ⟨hst₂, fun sc' hr => hround.trans (hrest sc' hr)⟩
    · rintro _ ⟨⟩
      exact hround

/-- The last pass of `store_fetch` starts without objects, and what it loads is delivered. -/
theorem storeFetch_loads (hO : OpensFresh O) (hst : SessionsPlaced x.st) (hsc : sc.objects = []) :
    wp (searchEnv lib ts O reliable) (storeFetch ctx pwCb n sc) (fun r x' => ∀ sc', r.2 = some sc' →
      ∃ steps x₁ sc₁ sc₂, r.1.getLast? = some steps ∧ sc₁.objects = [] ∧
        sc₁.parsedUri = sc.parsedUri ∧ Loads lib ts ctx reliable x₁ x'.st sc₁ steps sc₂ ∧
        sc' = storeDone sc₂) x := by
  refine wp.bind (storePass_loads hO hst) ?_
  rintro ⟨steps, _ | sc₁⟩ x₁ ⟨hst₁, hpass⟩
  · rintro sc' ⟨⟩
  have hloads := hpass sc₁ rfl
  refine wp_ite.2 ⟨fun hagain => wp.bind (storePass_loads hO hst₁) ?_, fun _ => ?_⟩
  · rintro ⟨again, r⟩ x₂ ⟨-, hpass₂⟩ sc' hr
    obtain ⟨sc₂, rfl, rfl⟩ := Option.map_eq_some_iff.1 hr
    exact ⟨again, x₁.st, { sc₁ with loaded := 0 }, sc₂, rfl, hagain.2.1, hloads.adds.uri,
      hpass₂ sc₂ rfl, rfl⟩
  · rintro _ ⟨⟩
    exact ⟨steps, x.st, sc, sc₁, rfl, hsc, rfl, hloads, rfl⟩

end Slots

/-! ## The delivery -/

/-- What is delivered for a URI in a run was made of handles found on the slots that the last pass
    visited. -/
theorem storeFetch_delivered {pwCb expectKey : Bool} {n : Nat} {passes : List (List SlotStep)}
    (hO : OpensFresh O) (hids : ctx.slotIds.Nodup) (hun : ckUnavailableInformation ∉ ctx.slotIds)
    (hst : SessionsPlaced x.st)
    (hrun : Runs (searchEnv lib ts O reliable)
      (storeFetch ctx pwCb n { parsedUri := uri, expectKey := expectKey }) x (passes, some sc) x') :
    ∃ steps, passes.getLast? = some steps ∧
      Delivered lib ts ctx uri (reliable ∧ ∀ id ∈ visits steps, ts.Findable lib uri id) steps
        (sc.delivery x'.st.mem) := by
  have hloads := hrun.of_wp (storeFetch_loads hO hst rfl)
  have htrav := hrun.of_wp (wp_searchEnv (storeFetch_traversed hids hun))
  obtain ⟨steps, x₁, sc₁, sc₂, hlast, hnil, huri, hload, rfl⟩ := hloads sc rfl
  obtain ⟨hadds, hslots, hloaded⟩ := hload
  change sc₁.parsedUri = uri at huri
  rw [huri] at hadds hslots hloaded
  have hobjects : (storeDone sc₂).objects = sc₂.objects := by
    rw [storeDone]
    split <;> rfl
  refine ⟨steps, hlast, htrav.order steps (List.mem_of_getLast? hlast), hslots, ?_, ?_⟩
  · obtain ⟨new, l, hsc, hnew, hsub, hall⟩ := hadds.added
    rw [hnil, List.nil_append] at hsc
    refine ⟨l, hsub, ?_, hall⟩
    rw [StoreCtx.delivery, hobjects, hsc, List.forall₂_map_left_iff]
    refine hnew.imp ?_
    rintro o p ⟨k, hk, hmade⟩
    rw [hk, Option.getD_some]
    exact huri ▸ hmade
  · intro hsure hne
    have hone := hloaded hsure (.inl hne)
    rw [StoreCtx.delivery, storeDone, if_neg (by rw [hone]; decide), hone]
    rfl

/-! ## Tokens that do not fail -/

/-- The outside of the plain token, where a search is answered by what is on the tokens. -/
def searched : Oracle
  | _, .findObjects _, r => ∀ h ∈ r.2, h ≠ ckP11provImportedHandle
  | _, .fetchAttributes _ _, _ => True
  | st, c, r => r = plain st c

section Answers

variable (lib ts)

/-- What the token in a slot says of one of its objects, or the code of what cannot be read. -/
def SlotTokens.attributes (slotid : SlotId) (handle : ObjectHandle) : CkRv × ObjAttrs :=
  match (objFromToken lib slotid handle ((ts.token slotid).attrs handle)
    (ts.token slotid).supported).1 with
  | .ok obj => (Ckr.ok, obj.read)
  | .error ret => (if ret = Ckr.cancel then Ckr.ok else ret, { cls := 0 })

/-- The answers of the memory and of tokens that find as many objects as they are asked for. -/
def SlotTokens.answer (x : Searching) : (c : Cmd) → c.Resp
  | .mem c => x.st.mem.answer c
  | .call (.findObjects h) => (Ckr.ok, (x.left h).take objsPerSearch)
  | .call (.fetchAttributes h object) =>
    (x.st.tok.opened h).elim (Ckr.sessionHandleInvalid, { cls := 0 }) (ts.attributes lib ·.slot object)
  | .call c => plain x.st c

end Answers

theorem SlotTokens.attributes_spec (slotid : SlotId) (handle : ObjectHandle) :
    ((ts.attributes lib slotid handle).1 = Ckr.ok →
      ts.Says lib slotid handle (ts.attributes lib slotid handle).2) ∧
    ((∃ a, ts.Says lib slotid handle a) → (ts.attributes lib slotid handle).1 = Ckr.ok) := by
  have hspec := objFromToken_spec lib ((ts.token slotid).attrs handle) slotid handle
  rw [attributes]
  obtain ⟨hign, herr⟩ | ⟨hnign, hreads⟩ := hspec (ts.token slotid).supported
  · refine ⟨fun _ => ⟨(ts.token slotid).supported, ?_⟩, fun _ => ?_⟩
    · rw [herr]
      exact ⟨rfl, by decide⟩
    · rw [herr]
      rfl
  obtain ⟨-, obj, hok, -⟩ | ⟨hndig, ret, herr, hne, hnok⟩ := hreads
  · refine ⟨fun _ => ⟨(ts.token slotid).supported, ?_⟩, fun _ => ?_⟩
    · rw [hok]
    · rw [hok]
  · rw [herr]
    simp only [if_neg hne]
    refine ⟨fun h => absurd h hnok, ?_⟩
    rintro ⟨a, supported, hsays⟩
    obtain ⟨hign, -⟩ | ⟨-, ⟨hdig, -⟩ | ⟨-, ret', herr', hne', -⟩⟩ := hspec supported
    · exact absurd hign hnign
    · exact absurd hdig hndig
    · rw [herr'] at hsays
      exact absurd hsays.1 hne'

/-- No handle that is left to a search marks an object on no token. -/
def Searching.OnTokens (x : Searching) : Prop :=
  ∀ h, ∀ object ∈ x.left h, object ≠ ckP11provImportedHandle

/-- The answers are possible. -/
theorem answer_adm {x : Searching} (hx : x.OnTokens) (c : Cmd) :
    (searchEnv lib ts searched reliable).adm x c (ts.answer lib x c) := by
  cases c with
  | mem c =>
    refine ⟨x.st.mem.answers_answer c, trivial, fun _ => ?_⟩
    cases c with
    | objAlloc | objAddToPool | alloc => rfl
    | _ => trivial
  | call c =>
    cases c with
    | findObjects h =>
      refine ⟨fun object hmem => hx h object (List.mem_of_mem_take hmem), fun _ => ?_, fun _ => rfl⟩
      refine ⟨List.length_take_le _ _, List.take_prefix _ _, fun hnil => ?_⟩
      exact (List.take_eq_nil_iff.1 hnil).resolve_left (by decide)
    | fetchAttributes h object =>
      rcases ho : x.st.tok.opened h with _ | o
      · refine ⟨trivial, fun hok => ?_, fun _ o ho' => ?_⟩
        · simp only [SlotTokens.answer, ho, Option.elim_none] at hok
          exact absurd hok (by decide)
        · rw [ho] at ho'
          cases ho'
      · have hspec := @SlotTokens.attributes_spec lib ts o.slot object
        refine ⟨trivial, fun hok => ⟨o, ho, ?_⟩, fun _ o' ho' hsays => ?_⟩
        · simp only [SlotTokens.answer, ho, Option.elim_some] at hok ⊢
          exact hspec.1 hok
        · obtain rfl := Option.some.inj (ho.symm.trans ho')
          simp only [SlotTokens.answer, ho, Option.elim_some]
          exact hspec.2 hsays
    | findObjectsInit => exact ⟨rfl, trivial, fun _ => rfl⟩
    | _ => exact ⟨rfl, trivial, fun _ => trivial⟩

/-- A search that starts or goes on keeps to the handles of the tokens. -/
theorem answer_onTokens (hts : ∀ id, ∀ h ∈ (ts.token id).handles, h ≠ ckP11provImportedHandle)
    {x : Searching} (hx : x.OnTokens) (c : Cmd) :
    ((searchEnv lib ts searched reliable).next x c (ts.answer lib x c)).OnTokens := by
  cases c with
  | mem c => exact hx
  | call c =>
    cases c with
    | findObjects h =>
      intro h' object hmem
      simp only [searchEnv, SlotTokens.leftAfter, SlotTokens.answer, if_true,
        Function.update_apply] at hmem
      split at hmem
      · exact hx h object (List.mem_of_mem_drop hmem)
      · exact hx h' object hmem
    | findObjectsInit h cls attrs =>
      intro h' object hmem
      have hinit : ts.answer lib x (.call (.findObjectsInit h cls attrs)) = Ckr.ok := rfl
      simp only [searchEnv, SlotTokens.leftAfter, hinit, if_true, Function.update_apply] at hmem
      split at hmem
      · rw [SlotTokens.matching] at hmem
        rcases ho : x.st.tok.opened h with _ | o
        · rw [ho] at hmem
          cases hmem
        · rw [ho] at hmem
          exact hts o.slot object (List.mem_of_mem_filter hmem)
      · exact hx h' object hmem
    | _ => exact hx

/-- Programs run with these answers, if no object has the handle that marks one on no token. -/
theorem runs_searched {α : Type} (hts : ∀ id, ∀ h ∈ (ts.token id).handles, h ≠ ckP11provImportedHandle)
    (p : P α) (x : Searching) (hx : x.OnTokens) :
    Runs (searchEnv lib ts searched reliable) p x
      (exec (searchEnv lib ts searched reliable) (ts.answer lib) p x).1
      (exec (searchEnv lib ts searched reliable) (ts.answer lib) p x).2 :=
  runs_exec_of_inv (I := Searching.OnTokens) (fun _ c hx => answer_adm hx c)
    (fun _ c hx => answer_onTokens hts hx c) p hx

end P11Prov
