import P11Prov.Object.Fetch
import P11Prov.Store

/-!
# Objects found for the store

`p11prov_obj_find` collects the handles of the objects that a URI names, makes an
object from each of them and hands it to a callback. An object of an unknown class
is left out; any other error ends the search, and is what the function returns.

The token answers every search call with at least one handle while there are some
left. The calls of the callback are recorded. `findsAll_iff` says for which tokens
all objects that the provider can digest are handed over.
-/

namespace P11Prov

/-! ## The functions -/

/-- The objects of a token, how many handles each call may return, and whether the token is known to
    support `CKA_ALLOWED_MECHANISMS`. -/
structure SearchToken extends TokenObjects where
  slotid : SlotId
  batch : Nat → Nat
  supported : Bool

/-- `OBJS_PER_SEARCH` -/
abbrev objsPerSearch : Nat := 64

/-- How many handles the call of this number returns, if there are so many. -/
def SearchToken.count (tok : SearchToken) (k : Nat) : Nat := min objsPerSearch (max 1 (tok.batch k))

/-- The template of `p11prov_obj_find`. -/
def searchTemplate (uri : Uri) : List (Nat × Bytes) :=
  (if uri.type = ckUnavailableInformation then [] else [(ckaClass, ulongBytes uri.type)]) ++
    findAttr ckaId uri.id ++ findAttr ckaLabel uri.object

/-- The loop over `C_FindObjects`, by the number of rounds it may take; it collects one handle at
    least in each. -/
def SearchToken.collect (tok : SearchToken) :
    Nat → Nat → List ObjectHandle → List ObjectHandle → CkRv × List ObjectHandle
  | 0, _, _, objects => (Ckr.generalError, objects)
  | n + 1, k, left, objects =>
    let found := left.take (tok.count k)
    if found = [] then (Ckr.ok, objects)
    else if (objects ++ found).length < maxObjsInStore then
      tok.collect n (k + 1) (left.drop (tok.count k)) (objects ++ found)
    else (Ckr.generalError, objects ++ found)

/-- What `p11prov_obj_find` returns, and what the callback was called with. -/
structure FindOut (σ : Type) where
  ret : CkRv
  state : σ
  calls : List Obj

section Find

variable {σ : Type} (lib : EcLib) (tok : SearchToken) (uri : Uri) (cb : σ → Obj → CkRv × σ)

/-- The loop over the handles. -/
def deliver (result : CkRv) : Bool → List ObjectHandle → σ → FindOut σ
  | _, [], s => { ret := result, state := s, calls := [] }
  | supported, h :: hs, s =>
    match objFromToken lib tok.slotid h (tok.attrs h) supported with
    | (.error ret, supported) =>
      -- unknown object or other recoverable error to ignore
      if ret = Ckr.cancel then deliver result supported hs s
      else { ret, state := s, calls := [] }
    | (.ok obj, supported) =>
      -- keep a copy of the URI for refreshes
      let obj := { obj with refreshUri := some uri }
      let (ret, s) := cb s obj
      if ret ≠ Ckr.ok then { ret, state := s, calls := [obj] }
      else
        let out := deliver result supported hs s
        { out with calls := obj :: out.calls }

/-- `p11prov_obj_find` -/
def searchToken (s : σ) : FindOut σ :=
  if !findableClass uri.type then { ret := Ckr.ok, state := s, calls := [] }
  else
    let (result, objects) :=
      tok.collect maxObjsInStore 0 (tok.matching (searchTemplate uri)) []
    deliver lib tok uri cb result tok.supported objects s

/-- What `store_fetch` makes of a search. -/
def loadedAfter (ret : CkRv) (loaded : Int) : Int := if ret = Ckr.ok then 1 else loaded

/-! ## The contract -/

/-- The handles of the objects to be found. -/
def SearchToken.found : List ObjectHandle :=
  if findableClass uri.type then tok.matching (searchTemplate uri) else []

/-- The objects that the provider can digest are handed over in the order of their handles, each as
    the token says it is, and the others are skipped. -/
inductive Delivers : List ObjectHandle → List Obj → Prop
  | nil : Delivers [] []
  | call {h hs obj calls} (hdigest : (tok.attrs h).Digestible lib)
      (hobj : obj.Extends (tokenObj tok.slotid h (tok.attrs h))) (huri : obj.refreshUri = some uri)
      (hrest : Delivers hs calls) : Delivers (h :: hs) (obj :: calls)
  | skip {h hs calls} (hnot : ¬(tok.attrs h).Digestible lib) (hrest : Delivers hs calls) :
      Delivers (h :: hs) calls

/-- The search succeeds, it hands over all objects found, up to the limit, that the provider can
    digest, and the store keeps them. -/
structure FindsAll (s : σ) : Prop where
  ok : (searchToken lib tok uri cb s).ret = Ckr.ok
  delivers : ∃ hs, hs <+: tok.found uri ∧
    (hs = tok.found uri ∨ maxObjsInStore ≤ hs.length) ∧
    Delivers lib tok uri hs (searchToken lib tok uri cb s).calls
  kept : (searchToken lib tok uri cb s).calls ≠ [] →
    loadedAfter (searchToken lib tok uri cb s).ret 0 = 1

end Find

/-! ## The loops -/

variable {σ : Type} {lib : EcLib} {tok : SearchToken} {uri : Uri} {cb : σ → Obj → CkRv × σ}

/-- All handles are collected, or the limit is reached. -/
theorem collect_spec (tok : SearchToken) (n k : Nat) (left objects : List ObjectHandle)
    (hn : maxObjsInStore ≤ n + objects.length) (hlt : objects.length < maxObjsInStore) :
    (objects.length + left.length < maxObjsInStore ∧
        tok.collect n k left objects = (Ckr.ok, objects ++ left)) ∨
      (maxObjsInStore ≤ objects.length + left.length ∧
        (tok.collect n k left objects).1 = Ckr.generalError) := by
  induction n generalizing k left objects with
  | zero => omega
  | succ n ih =>
    have hpos : 0 < tok.count k :=
      Nat.lt_min.2 ⟨by decide, Nat.lt_of_lt_of_le Nat.one_pos (Nat.le_max_left _ _)⟩
    have hsplit : (objects ++ left.take (tok.count k)).length + (left.drop (tok.count k)).length =
        objects.length + left.length := by
      rw [List.length_append, Nat.add_assoc, ← List.length_append, List.take_append_drop]
    rw [SearchToken.collect]
    split
    · rename_i hnil
      have hleft : left = [] := (List.take_eq_nil_iff.1 hnil).resolve_left (Nat.ne_of_gt hpos)
      exact .inl ⟨by simpa [hleft] using hlt, by simp [hleft]⟩
    · rename_i hne
      have hgrow : objects.length < (objects ++ left.take (tok.count k)).length := by
        rw [List.length_append]
        have := List.length_pos_iff.2 hne
        omega
      split
      · rename_i hlt'
        have hih := ih (k + 1) (left.drop (tok.count k)) (objects ++ left.take (tok.count k))
          (by omega) hlt'
        rw [hsplit, List.append_assoc, List.take_append_drop] at hih
        exact hih
      · exact .inr ⟨by omega, rfl⟩

/-- The loop over the handles comes to its end exactly if each object can be digested or is of an
    unknown class. -/
theorem deliver_spec (lib : EcLib) (tok : SearchToken) (uri : Uri)
    (hcb : ∀ s obj, (cb s obj).1 = Ckr.ok) (result : CkRv) (supported : Bool)
    (hs : List ObjectHandle) (s : σ) :
    ((∀ h ∈ hs, (tok.attrs h).Digestible lib ∨ (tok.attrs h).Ignored) ∧
        (deliver lib tok uri cb result supported hs s).ret = result ∧
        Delivers lib tok uri hs (deliver lib tok uri cb result supported hs s).calls) ∨
      ((¬∀ h ∈ hs, (tok.attrs h).Digestible lib ∨ (tok.attrs h).Ignored) ∧
        (deliver lib tok uri cb result supported hs s).ret ≠ Ckr.ok) := by
  induction hs generalizing supported s with
  | nil => exact .inl ⟨by simp, rfl, .nil⟩
  | cons h hs ih =>
    rw [deliver]
    rcases hfrom : objFromToken lib tok.slotid h (tok.attrs h) supported with ⟨r, supported'⟩
    have hspec := objFromToken_spec lib (tok.attrs h) tok.slotid h supported
    rw [hfrom] at hspec
    obtain ⟨hign, hr⟩ | ⟨hnign, ⟨hdig, obj, hr, hobj⟩ | ⟨hndig, ret, hr, hcancel, hok⟩⟩ := hspec
    · -- left out
      simp only at hr
      simp only [hr, if_true, List.forall_mem_cons]
      obtain ⟨hall, hret, hcalls⟩ | ⟨hnall, hret⟩ := ih supported' s
      · exact .inl ⟨⟨.inr hign, hall⟩, hret, .skip hign.not_digestible hcalls⟩
      · exact .inr ⟨fun h => hnall h.2, hret⟩
    · -- handed over
      simp only at hr
      simp only [hr, hcb, ne_eq, not_true_eq_false, if_false, List.forall_mem_cons]
      obtain ⟨hall, hret, hcalls⟩ | ⟨hnall, hret⟩ :=
        ih supported' (cb s { obj with refreshUri := some uri }).2
      · refine .inl ⟨⟨.inl hdig, hall⟩, hret, .call hdig ?_ rfl hcalls⟩
        exact ⟨hobj.handle, hobj.slotid, hobj.cls, hobj.cached, hobj.type, hobj.paramSet⟩
      · exact .inr ⟨fun h => hnall h.2, hret⟩
    · -- the end of the search
      simp only at hr
      simp only [hr, if_neg hcancel, List.forall_mem_cons]
      exact .inr ⟨fun h => h.1.elim hndig hnign, hok⟩

/-- All is found exactly if fewer objects match than the limit, and each of them is one that the
    provider can digest or of an unknown class. -/
theorem findsAll_iff (hcb : ∀ s obj, (cb s obj).1 = Ckr.ok) (s : σ) :
    FindsAll lib tok uri cb s ↔ (tok.found uri).length < maxObjsInStore ∧
      ∀ h ∈ tok.found uri, (tok.attrs h).Digestible lib ∨ (tok.attrs h).Ignored := by
  by_cases hcls : findableClass uri.type = true
  · have hfound : tok.found uri = tok.matching (searchTemplate uri) := if_pos hcls
    have hsearch : searchToken lib tok uri cb s =
        deliver lib tok uri cb (tok.collect maxObjsInStore 0 (tok.found uri) []).1 tok.supported
          (tok.collect maxObjsInStore 0 (tok.found uri) []).2 s := by
      rw [searchToken, hfound]
      simp [hcls]
    have hcollect := collect_spec tok maxObjsInStore 0 (tok.found uri) [] (by simp) (by decide)
    simp only [List.length_nil, Nat.zero_add, List.nil_append] at hcollect
    have hdeliver := deliver_spec lib tok uri hcb
      (tok.collect maxObjsInStore 0 (tok.found uri) []).1 tok.supported
      (tok.collect maxObjsInStore 0 (tok.found uri) []).2 s
    rw [← hsearch] at hdeliver
    obtain ⟨hlt, heq⟩ | ⟨hle, hgen⟩ := hcollect
    · rw [heq] at hdeliver
      obtain ⟨hall, hret, hcalls⟩ | ⟨hnall, hret⟩ := hdeliver
      · refine iff_of_true ⟨hret, ⟨_, List.prefix_rfl, .inl rfl, hcalls⟩, fun _ => ?_⟩ ⟨hlt, hall⟩
        rw [hret]
        rfl
      · exact iff_of_false (fun h => hret h.ok) fun h => hnall h.2
    · refine iff_of_false (fun h => ?_) fun h => Nat.not_lt_of_le hle h.1
      obtain ⟨-, hret, -⟩ | ⟨-, hret⟩ := hdeliver
      · rw [h.ok, hgen] at hret
        exact absurd hret (by decide)
      · exact hret h.ok
  · have hfound : tok.found uri = [] := if_neg hcls
    have hsearch : searchToken lib tok uri cb s = { ret := Ckr.ok, state := s, calls := [] } := by
      rw [searchToken]
      simp [hcls]
    refine iff_of_true ?_ (by simp [hfound])
    refine ⟨by rw [hsearch], ⟨[], List.nil_prefix, .inl hfound.symm, ?_⟩, fun h => ?_⟩
    · rw [hsearch]
      exact .nil
    · rw [hsearch] at h
      exact absurd rfl h

/-! ## Two tokens -/

/-- A token with two objects of these classes, each a key of this type. -/
def tokenOfTwo (first second : Nat × Nat) : SearchToken where
  handles := [1, 2]
  attrs h := if h = 1 then bareKey first.1 first.2 else bareKey second.1 second.2
  slotid := 0
  batch _ := 1
  supported := false

/-- Records all objects. -/
def recordAll (objs : List Obj) (obj : Obj) : CkRv × List Obj := (Ckr.ok, objs ++ [obj])

/-- After an object that is no key the secret key is found. -/
theorem findsAll_dataObject :
    FindsAll noEcLib (tokenOfTwo (0, 0) (Cko.secretKey, ckkGenericSecret)) {} recordAll [] := by
  have hfound : (tokenOfTwo (0, 0) (Cko.secretKey, ckkGenericSecret)).found {} = [1, 2] := by decide
  have hreturns {cls type : Nat} {rs : List AttrRequest} (halloc : ∀ r ∈ rs, r.alloc = true)
      (hok : (fetchAttributes (bareKey cls type) (rs.map (·.set)) []).ret = Ckr.ok) :
      (bareKey cls type).Returns rs := (fetchAttributes_ok _ halloc).1 hok
  refine (findsAll_iff (fun _ _ => rfl) []).2 ⟨by decide, fun h hmem => ?_⟩
  rw [hfound, List.mem_pair] at hmem
  obtain rfl | rfl := hmem
  · exact .inr ⟨hreturns (by decide) (by decide), by decide⟩
  · refine .inl ⟨⟨hreturns (by decide) (by decide), fun h => absurd h (by decide), ?_⟩,
      .secret (by decide) (by decide) (by decide)⟩
    intro attrs hprep
    have hattrs : secretKeyAttrs = attrs := Option.some.inj hprep
    subst hattrs
    exact hreturns (by decide) (by decide)

/-- A DSA key hides the secret key after it. -/
theorem not_findsAll_dsaKey :
    ¬FindsAll noEcLib (tokenOfTwo (Cko.publicKey, 1) (Cko.secretKey, ckkGenericSecret)) {} recordAll
      [] := fun h => absurd h.ok (by decide)

end P11Prov
