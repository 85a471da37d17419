import P11Prov.Object.AttrArrays

/-!
# The attributes have room

The room for the attributes of an object is a number in a table, or one that an import
works out, and what is stored is up to the token, the type of the key and its curve. So
each function is read for the types that it stores: `AddsTypes` for one that stores into
what is there, `FillsTypes` for one that allocates the array.

From that, no write is out of bounds and no object has an attribute twice, whatever the
token answers, whatever is imported and whatever memory there is (`arraysHold`). The
functions that add to an array later enlarge it first, and are not among these.
-/

namespace P11Prov

namespace AttrArrays

open Encoding Filling Interaction

variable {β : Type} {s : Cells (Nat × Bytes)} {lib : EcLib} {mem : Memory} {tok : TokenAttrs}
  {ks : List Nat}

/-! ## What is stored -/

/-- The computation adds attributes with some of these types. -/
abbrev AddsTypes (ks : List Nat) (x : AttrFiller β) : Prop := Adds (·.1) ks x

/-- The computation allocates an array for attributes with some of these types, and has room for more
    of them. -/
abbrev FillsTypes (ks : List Nat) (spare : Nat) (x : AttrFiller β) : Prop := Fills (·.1) ks spare x

theorem looks_getAttr (type : Nat) : Looks (getAttr type) := Looks.get.bind fun _ => .pure _

theorem looks_lastLength : Looks lastLength := Looks.get.bind fun _ => .pure _

theorem copyAttr_adds (room : Bool) (a : Nat × Bytes) : AddsTypes [a.1] (copyAttr room a) :=
  .storeCopy _ _ a

theorem copyAttrs_adds (mem : Memory) (attrs : List (Nat × Bytes)) :
    AddsTypes (attrs.map (·.1)) (copyAttrs mem attrs) := by
  induction attrs with
  | nil => exact .quiet (.pure ())
  | cons a attrs ih => exact .after .get fun _ => (copyAttr_adds _ a).bind fun _ => ih

/-! ## Objects of a token -/

/-- The types of the attributes that are allocated. -/
def allocTypes (asked : List AttrRequest) : List Nat :=
  (asked.filter (·.dest.isNone)).map (·.type)

theorem allocTypes_withMemory (mem : Memory) (asked : List AttrRequest) :
    allocTypes (withMemory mem asked) = allocTypes asked := by
  rw [allocTypes, allocTypes, withMemory, List.filter_map, List.map_map]
  rfl

theorem moveAllocAttrs_sublist {rs : List AttrRequest}
    (h : (fetchAttributes tok (rs.map (·.set)) []).ret = Ckr.ok) :
    ((fetchAttributes tok (rs.map (·.set)) []).moveAllocAttrs.map (·.1)).Sublist (allocTypes rs) := by
  rw [moveAllocAttrs_eq h]
  clear h
  induction rs with
  | nil => exact .slnil
  | cons r rs ih =>
    rw [allocTypes] at ih ⊢
    by_cases hdest : r.dest.isNone = true
    · simp only [List.filter_cons, List.filterMap_cons, hdest, if_true]
      rcases r.expected tok with - | v
      · exact ih.cons _
      · exact ih.cons_cons _
    · simp only [List.filter_cons, List.filterMap_cons, hdest]
      exact ih

theorem fetchAttrs_adds (mem : Memory) (tok : TokenAttrs) (asked : List AttrRequest) :
    AddsTypes (allocTypes asked) (fetchAttrs mem tok asked) := by
  rw [fetchAttrs]
  by_cases hok : (fetchAttributes tok ((withMemory mem asked).map (·.set)) []).ret = Ckr.ok
  · rw [if_neg (not_not_intro hok), ← allocTypes_withMemory mem]
    exact (Adds.storeAll _).mono (moveAllocAttrs_sublist hok)
  · rw [if_pos hok]
    exact .quiet (.throw _)

/-- The synthetic attributes of EC keys. -/
def ecTypes : List Nat := [ckaP11provCurveNid, ckaP11provCurveName, ckaP11provPubKey]

theorem storeCurveName_adds (curve : Curve) :
    AddsTypes [ckaP11provCurveName] (storeCurveName mem curve) := by
  rw [storeCurveName]
  rcases curve.name with - | name
  · exact .quiet (.pure ())
  · exact .after (.ensure _ _) fun _ => .store _

theorem storePubKey_adds (type : Nat) (ecPoint : Option Bytes) :
    AddsTypes [ckaP11provPubKey] (storePubKey lib mem type ecPoint) := by
  rcases ecPoint with - | ecPoint
  · exact .quiet (.pure ())
  · exact .after (.ofExcept _) fun _ => .store _

theorem preProcessEcKeyData_adds (type : Nat) : AddsTypes ecTypes (preProcessEcKeyData lib mem type) :=
  .after (looks_getAttr _) fun _ => .after (.expect _ _) fun _ => .after (.expect _ _) fun curve =>
    .after (.ensure _ _) fun _ => (Adds.store _).bind fun _ => (storeCurveName_adds curve).bind fun _ =>
      .after (looks_getAttr _) fun ecPoint => storePubKey_adds type ecPoint

/-- The attributes that `fetch_key` adds to those of the token. -/
def syntheticTypes (type : Nat) : List Nat :=
  if type = ckkEc ∨ type = ckkEcEdwards then ecTypes else []

theorem fetchKeyData_adds (type paramSet : Nat) :
    AddsTypes (syntheticTypes type) (fetchKeyData lib mem type paramSet) := by
  rw [fetchKeyData]
  split
  · exact .after (looks_getAttr _) fun _ => .quiet (.ensure _ _)
  split
  · rename_i htype
    rw [syntheticTypes, if_pos htype]
    exact preProcessEcKeyData_adds type
  split
  · exact .quiet (.ensure _ _)
  split
  · exact .quiet (.ensure _ _)
  · exact .after (looks_getAttr _) fun _ => .quiet (.ensure _ _)

theorem extraAlloc_eq (type : Nat) : extraAlloc type = (syntheticTypes type).length + 1 := by
  rw [extraAlloc, syntheticTypes]
  split
  · rfl
  · rfl

/-- The attributes of a key of the token. -/
def keyTypes (cls type : Nat) : List Nat :=
  match P11Prov.prepKeyAttrs cls type with
  | none => []
  | some asked => allocTypes asked ++ syntheticTypes type

theorem prepKeyAttrs_ok {cls type size : Nat} {prep : List AttrRequest × Nat}
    (h : prepKeyAttrs cls type size = .ok prep) :
    P11Prov.prepKeyAttrs cls type = some prep.1 ∧ prep.2 = prep.1.length + extraAlloc type := by
  rw [prepKeyAttrs] at h
  rcases hasked : P11Prov.prepKeyAttrs cls type with - | asked
  · rw [hasked] at h
    cases h
  · rw [hasked] at h
    dsimp only at h
    split at h
    · cases h
    · obtain rfl := Except.ok.inj h
      exact ⟨rfl, rfl⟩

theorem allocAttrs_fills {n spare : Nat} {y : AttrFiller β} (hy : AddsTypes ks y)
    (hn : ks.length + spare ≤ n) : FillsTypes ks spare (allocAttrs mem n >>= fun _ => y) :=
  .allocate (hy _ (Cells.counted_new n)) hn

/-- There is room for one attribute more, `CKA_ALLOWED_MECHANISMS`. -/
theorem fetchKey_fills (cls type paramSet : Nat) :
    FillsTypes (keyTypes cls type) 1 (fetchKey lib mem tok cls type paramSet) := by
  refine .ofExcept fun prep hprep => ?_
  obtain ⟨hasked, halloc⟩ := prepKeyAttrs_ok hprep
  rw [keyTypes, hasked, halloc]
  refine allocAttrs_fills ((fetchAttrs_adds _ _ _).bind fun _ => fetchKeyData_adds type paramSet) ?_
  have hle : (allocTypes prep.1).length ≤ prep.1.length := by
    rw [allocTypes, List.length_map]
    exact List.length_filter_le _ _
  -- the extra entries are those of the synthetic attributes, and one that stays free
  rw [List.length_append, extraAlloc_eq]
  omega

theorem fetchCertificate_fills :
    FillsTypes (allocTypes certificateAttrs) 0 (fetchCertificate mem tok) :=
  allocAttrs_fills (fetchAttrs_adds _ _ _) (by decide)

theorem fetchAllowedMechanisms_adds (supported : Bool) :
    AddsTypes [ckaAllowedMechanisms] (fetchAllowedMechanisms mem tok supported) := by
  rw [fetchAllowedMechanisms]
  split
  · dsimp only
    split
    · exact .store _
    · exact .quiet (.pure ())
  · exact .quiet (.pure ())

/-- The attributes of an object of the token. -/
def objectTypes (cls type : Nat) : List Nat :=
  if cls = Cko.certificate then allocTypes certificateAttrs
  else keyTypes cls type ++ [ckaAllowedMechanisms]

theorem fetchByClass_fills (ans : Answers) (supported : Bool) (cls type paramSet : Nat) :
    FillsTypes (objectTypes cls type) 0 (fetchByClass lib mem ans supported cls type paramSet) := by
  rw [fetchByClass, objectTypes]
  split
  · exact fetchCertificate_fills
  split
  · exact (fetchKey_fills cls type paramSet).bind (fun _ => fetchAllowedMechanisms_adds supported)
      (Nat.le_refl 1)
  · exact .throw _

/-- None of them is there twice. -/
theorem objectTypes_nodup (cls type : Nat) : (objectTypes cls type).Nodup := by
  have htables : ∀ asked ∈ keyAttrTables,
      (allocTypes asked ++ ecTypes ++ [ckaAllowedMechanisms]).Nodup := by decide
  rw [objectTypes]
  split
  · decide
  · rw [keyTypes]
    rcases hasked : P11Prov.prepKeyAttrs cls type with - | asked
    · exact List.nodup_singleton _
    · have hsub : (syntheticTypes type).Sublist ecTypes := by
        rw [syntheticTypes]
        split
        · exact .refl _
        · exact List.nil_sublist _
      refine (htables asked (prepKeyAttrs_mem_tables hasked)).sublist ?_
      exact (hsub.append_left _).append_right _

theorem objFromHandle_fills (lib : EcLib) (mem : Memory) (ans : Answers) (supported : Bool) :
    ∃ cls type, FillsTypes (objectTypes cls type) 0 (objFromHandle lib mem ans supported) := by
  rw [objFromHandle]
  dsimp only
  split
  · exact ⟨0, 0, .throw _⟩
  · exact ⟨_, _, fetchByClass_fills ans supported _ _ _⟩

/-- What is not there is not found. -/
theorem getAttr_absent {type : Nat} {attr : Option Bytes} (h : type ∉ s.items.map (·.1))
    (hattr : ((getAttr type).exec s).val.1 = .ok attr) : attr = none := by
  obtain rfl : (s.items.find? (·.1 = type)).map (·.2) = attr := Except.ok.inj hattr
  rw [Option.map_eq_none_iff, List.find?_eq_none]
  intro a ha heq
  exact h (List.mem_map.2 ⟨a, ha, of_decide_eq_true heq⟩)

/-- Without `CKA_EC_PARAMS`, nothing is stored. -/
theorem preProcessEcKeyData_noParams (h : ckaEcParams ∉ s.items.map (·.1)) (type : Nat) :
    AddsAt (·.1) [] (preProcessEcKeyData lib mem type) s := by
  refine .after (looks_getAttr _) fun attr hattr => ?_
  obtain rfl := getAttr_absent h hattr
  exact .quiet fun _ => ⟨rfl, rfl⟩

/-- Without `CKA_EC_POINT`, the public key is not stored. -/
theorem preProcessEcKeyData_noPoint (hs : s.Counted) (h : ckaEcPoint ∉ s.items.map (·.1))
    (type : Nat) : AddsAt (·.1) [ckaP11provCurveNid, ckaP11provCurveName]
      (preProcessEcKeyData lib mem type) s := by
  refine .after (looks_getAttr _) fun attr _ => .after (.expect _ _) fun ecparams _ =>
    .after (.expect _ _) fun curve _ => .after (.ensure _ _) fun _ _ => ?_
  refine .bind (Adds.store _ s hs) fun _ l _ hl => ?_
  refine .bind (storeCurveName_adds curve _ (hs.append l)) fun _ l' _ hl' => ?_
  refine .after (looks_getAttr _) fun attr hattr => ?_
  -- what was added has other types, so there still is no point
  have habsent : ckaEcPoint ∉ ((s.append l).append l').items.map (·.1) := by
    rw [Cells.append_append, Cells.append, List.map_append, List.map_append, List.mem_append]
    have hne : ckaEcPoint ∉ [ckaP11provCurveNid] ++ [ckaP11provCurveName] := by decide
    exact not_or.2 ⟨h, fun hmem => hne ((hl.append hl').subset hmem)⟩
  obtain rfl := getAttr_absent habsent hattr
  exact .quiet (.pure ())

/-- What is of use for a mock object is `CKA_EC_PARAMS`, and then there is no point. -/
def mockTypes (ecParams : Nat × Bytes) : List Nat :=
  ecParams.1 :: if ecParams.1 = ckaEcParams then [ckaP11provCurveNid, ckaP11provCurveName] else []

theorem mockPubEcKey_fills (lib : EcLib) (mem : Memory) (type : Nat) (ecParams : Nat × Bytes) :
    FillsTypes (mockTypes ecParams) 0 (mockPubEcKey lib mem type ecParams) := by
  have hcounted : ({ alloc := extraEcParams } : Cells (Nat × Bytes)).Counted := rfl
  have hitems (l : List (Nat × Bytes)) (hl : (l.map (·.1)).Sublist [ecParams.1]) (t : Nat)
      (ht : t ∈ (({ alloc := extraEcParams } : Cells (Nat × Bytes)).append l).items.map (·.1)) :
      t = ecParams.1 := List.mem_singleton.1 (hl.subset ht)
  have hcopy := copyAttr_adds (mem.copy 0) ecParams _ hcounted
  rw [mockTypes]
  by_cases hparams : ecParams.1 = ckaEcParams
  · -- the parameters, the id of the curve and its name
    rw [if_pos hparams]
    refine .allocate (hcopy.bind fun _ l _ hl => ?_) (Nat.le_refl 3)
    refine preProcessEcKeyData_noPoint (hcounted.append l) (fun hmem => ?_) type
    exact absurd ((hitems l hl _ hmem).trans hparams) (by decide)
  · rw [if_neg hparams]
    refine .allocate (hcopy.bind fun _ l _ hl => ?_) (Nat.le_add_right 1 2)
    exact preProcessEcKeyData_noParams (fun hmem => hparams (hitems l hl _ hmem).symm) type

theorem mockTypes_nodup (ecParams : Nat × Bytes) : (mockTypes ecParams).Nodup := by
  rw [mockTypes]
  split
  · rename_i hparams
    rw [hparams]
    decide
  · exact List.nodup_singleton _

/-! ## Templates -/

variable {call : ImportCall} {params : ImportParams}

theorem paramDataToAttr_adds (type : Nat) (data : Bytes) (byteswap : Bool) :
    AddsTypes [type] (paramDataToAttr call type data byteswap) :=
  .after .get fun _ => .after (.ensure _ _) fun _ => copyAttr_adds _ _

theorem paramsToAttr_adds (p : Option Bytes) (type : Nat) (byteswap : Bool) :
    AddsTypes [type] (paramsToAttr call p type byteswap) :=
  .after (.expect _ _) fun data => paramDataToAttr_adds type data byteswap

theorem privateKeyToId_adds (data : List Bytes) : AddsTypes [ckaId] (privateKeyToId call data) :=
  .after (.ofExcept _) fun id => .store (ckaId, id)

/-- The attribute that identifies a key: a public one by its value, a private one by a hash. -/
def identityType (cls valueType : Nat) : Nat := if cls = Cko.publicKey then valueType else ckaId

/-- What is added first, by the class of a key. -/
theorem identity_adds {cls valueType : Nat} {pub priv : AttrFiller β} (hpub : AddsTypes [valueType] pub)
    (hpriv : AddsTypes [ckaId] priv) : AddsTypes [identityType cls valueType]
      (if cls = Cko.publicKey then pub else if cls = Cko.privateKey then priv
        else throw Ckr.generalError) := by
  rw [identityType]
  split
  · exact hpub
  split
  · exact hpriv
  · exact .quiet (.throw _)

theorem ecFindKey_adds (cls : Nat) (group : EcGroup) (name : Option Bytes) (ecparams : Bytes) :
    AddsTypes [identityType cls ckaP11provPubKey] (ecFindKey call params cls group name ecparams) :=
  identity_adds
    (.after (.expect _ _) fun _ => .after (.ofExcept _) fun point => paramDataToAttr_adds _ point _)
    (.after (.expect _ _) fun _ => privateKeyToId_adds _)

theorem edFindKey_adds (cls : Nat) :
    AddsTypes [identityType cls ckaP11provPubKey] (edFindKey call params cls) :=
  identity_adds
    (.after (.expect _ _) fun _ => .after (.expect _ _) fun _ =>
      (paramsToAttr_adds _ _ _).bind fun _ => (.quiet (.pure _) : AddsTypes [] _))
    (.after (.expect _ _) fun _ => .after (.expect _ _) fun _ =>
      (privateKeyToId_adds _).bind fun _ => (.quiet (.pure _) : AddsTypes [] _))

theorem mlFindKey_adds (cls paramSet : Nat) (name : Bytes) (keySize : Nat) :
    AddsTypes [identityType cls ckaValue] (mlFindKey call params cls paramSet name keySize) :=
  identity_adds
    ((paramsToAttr_adds _ _ _).bind fun _ => (.after looks_lastLength fun _ => .quiet (.ensure _ _) :
      AddsTypes [] _))
    (.after (.expect _ _) fun _ => privateKeyToId_adds _)

/-- Nothing is added at the end. -/
theorem adds_pure {f : Unit → β} {x : AttrFiller Unit} (hx : AddsTypes ks x) :
    AddsTypes ks (x >>= fun u => pure (f u)) := by
  rw [← List.append_nil ks]
  exact hx.bind fun _ => .quiet (.pure _)

/-- The attributes of a template. -/
def findTypes (cls type : Nat) : List Nat :=
  if type = ckkRsa then
    if cls = Cko.publicKey then [ckaModulus, ckaPublicExponent] else [ckaId]
  else if type = ckkEc then
    [identityType cls ckaP11provPubKey, ckaEcParams, ckaP11provCurveNid, ckaP11provCurveName]
  else if type = ckkEcEdwards then [identityType cls ckaP11provPubKey, ckaEcParams]
  else [identityType cls ckaValue, ckaParameterSet]

theorem prepRsaFind_adds (cls : Nat) : AddsTypes (if cls = Cko.publicKey then
    [ckaModulus, ckaPublicExponent] else [ckaId]) (prepRsaFind call params cls) := by
  rw [prepRsaFind]
  split
  · exact (paramsToAttr_adds _ _ _).bind fun _ => .after looks_lastLength fun _ =>
      adds_pure (paramsToAttr_adds _ _ _)
  split
  · exact .after (.expect _ _) fun _ => .after (.expect _ _) fun _ => .after (.expect _ _) fun _ =>
      adds_pure (privateKeyToId_adds _)
  · exact .quiet (.throw _)

theorem findCurveName_adds (name : Option Bytes) :
    AddsTypes [ckaP11provCurveName] (findCurveName call name) := by
  rcases name with - | name
  · exact .quiet (.pure ())
  · exact paramDataToAttr_adds _ _ _

theorem prepEcFind_adds (cls : Nat) :
    AddsTypes [identityType cls ckaP11provPubKey, ckaEcParams, ckaP11provCurveNid, ckaP11provCurveName]
      (prepEcFind call params cls) :=
  .after (.expect _ _) fun group => .after (.ofExcept _) fun name => .after (.expect _ _) fun _ =>
    (ecFindKey_adds cls group name _).bind fun _ => (paramDataToAttr_adds _ _ _).bind fun _ =>
      (paramDataToAttr_adds _ _ _).bind fun _ => adds_pure (findCurveName_adds name)

theorem prepEdFind_adds (cls : Nat) : AddsTypes [identityType cls ckaP11provPubKey, ckaEcParams]
    (prepEdFind call params cls) :=
  (edFindKey_adds cls).bind fun _ => adds_pure (paramDataToAttr_adds _ _ _)

theorem prepMlFind_adds (size : Nat → Option Nat) (name : Bytes) (cls paramSet : Nat) :
    AddsTypes [identityType cls ckaValue, ckaParameterSet]
      (prepMlFind call params size name cls paramSet) :=
  .after (.expect _ _) fun _ => (mlFindKey_adds cls _ _ _).bind fun _ =>
    adds_pure (.storeCopy _ _ (ckaParameterSet, ulongBytes paramSet))

theorem prepFind_adds (cls type paramSet : Nat) :
    AddsTypes (findTypes cls type) (prepFind call params cls type paramSet) := by
  rw [prepFind, findTypes]
  split
  · exact prepRsaFind_adds cls
  split
  · exact prepEcFind_adds cls
  split
  · exact prepEdFind_adds cls
  split
  · exact prepMlFind_adds _ _ cls paramSet
  split
  · exact prepMlFind_adds _ _ cls paramSet
  · exact .quiet (.throw _)

theorem findTypes_room (cls type : Nat) : (findTypes cls type).length ≤ maxAttrsSize := by
  rw [findTypes]
  repeat' split
  all_goals exact Nat.le_of_ble_eq_true rfl

/-- `fix_ec_key_import` adds another type. -/
theorem findTypes_nodup (cls type : Nat) : (findTypes cls type ++ [ckaEcPoint]).Nodup := by
  rw [findTypes, identityType, identityType]
  repeat' split
  all_goals decide

/-- The template has room for what is looked for. -/
theorem prepFind_inBounds (cls type paramSet : Nat) :
    ((prepFind call params cls type paramSet).exec { alloc := maxAttrsSize }).All Store.InBounds := by
  refine (prepFind_adds cls type paramSet _ (Cells.counted_new _)).inBounds ?_
  rw [List.length_nil, Nat.zero_add]
  exact findTypes_room cls type

/-! ## Imported keys -/

theorem returnDupKey_fills (src : List (Nat × Bytes)) :
    FillsTypes (src.map (·.1)) 0 (returnDupKey call src) := by
  refine .after (.ensure _ _) fun _ => .after (.ensure _ _) fun _ => ?_
  refine allocAttrs_fills (copyAttrs_adds _ src) ?_
  rw [List.length_map]
  exact Nat.le_refl _

theorem fixEcKeyImport_adds (n : Nat) : AddsTypes [ckaEcPoint] (fixEcKeyImport call n) :=
  .after .get fun _ => .after (.ensure _ _) fun _ => .after (looks_getAttr _) fun _ =>
    .after (.expect _ _) fun pub => .after (.ensure _ _) fun _ => .store (ckaEcPoint, Der.octetString pub)

theorem importMock_fills {find : Cells (Nat × Bytes)} (hfind : find.Counted) (type : Nat) :
    FillsTypes (find.items.map (·.1) ++ [ckaEcPoint]) 0 (importMock call type find) := by
  rw [importMock]
  split
  · refine allocAttrs_fills ((Adds.storeAll _).bind fun _ => fixEcKeyImport_adds _) ?_
    rw [List.length_append, List.length_map, hfind]
    exact Nat.le_refl _
  · have hfills : FillsTypes (find.items.map (·.1)) 0
        (allocAttrs call.mem find.num >>= fun _ => storeAll find.items) := by
      refine allocAttrs_fills (Adds.storeAll _) ?_
      rw [List.length_map, hfind]
      exact Nat.le_refl _
    exact hfills.mono (List.sublist_append_left _ _)

theorem storeFindAttrs_fills {find : Cells (Nat × Bytes)} (hfind : find.Counted) :
    FillsTypes (find.items.map (·.1)) 0 (storeFindAttrs call find) := by
  refine .after (.ensure _ _) fun _ => allocAttrs_fills (copyAttrs_adds _ _) ?_
  rw [List.length_map, hfind]
  exact Nat.le_refl _

theorem storeRsaPrivateKey_fills (find : Cells (Nat × Bytes)) :
    FillsTypes [ckaId, ckaModulus, ckaPublicExponent] 0 (storeRsaPrivateKey call params find) :=
  .after (.ofExcept _) fun n => .after (.ofExcept _) fun e => .after (.ofExcept _) fun _ =>
    .after (.ensure _ _) fun _ => allocAttrs_fills ((copyAttr_adds _ _).bind fun _ =>
      (Adds.store (ckaModulus, n)).bind fun _ => .store (ckaPublicExponent, e)) (Nat.le_refl 3)

theorem storePrivateKey_fills {find : Cells (Nat × Bytes)} (hfind : find.Counted) (type : Nat) :
    FillsTypes (if type = ckkRsa then [ckaId, ckaModulus, ckaPublicExponent]
      else find.items.map (·.1)) 0 (storePrivateKey call params type find) := by
  rw [storePrivateKey]
  split
  · exact storeRsaPrivateKey_fills find
  split
  · exact .after (.ofExcept _) fun _ => storeFindAttrs_fills hfind
  split
  · exact .after (.expect _ _) fun _ => storeFindAttrs_fills hfind
  · exact .throw _

/-- The attributes of an imported key: those of what is found, or else others. -/
def importTypes (call : ImportCall) (absent : List Nat) : List Nat :=
  match call.search with
  | .ok (some src) => src.map (·.1)
  | _ => absent

theorem importFind_fills {absent : Cells (Nat × Bytes) → AttrFiller Unit} {cls type paramSet : Nat}
    (habsent : ∀ find : Cells (Nat × Bytes), find.Counted →
      (find.items.map (·.1)).Sublist (findTypes cls type) → FillsTypes ks 0 (absent find)) :
    FillsTypes (importTypes call ks) 0
      (importFind call params cls type paramSet (returnDupKey call) absent) := by
  refine .after (.ensure _ _) fun _ => .within (prepFind_inBounds cls type paramSet) ?_
  refine .ofExcept fun _ _ => .ofExcept fun src hsrc => ?_
  rw [importTypes]
  rcases hsearch : call.search with rv | src'
  · rw [hsearch] at hsrc
    cases hsrc
  rw [hsearch] at hsrc
  obtain rfl : src' = src := Except.ok.inj hsrc
  rcases src' with - | src
  · have hadds : AddsTypes (findTypes cls type) (prepFind call params cls type paramSet) :=
      prepFind_adds cls type paramSet
    obtain ⟨hcounted, -, hsub⟩ := (hadds _ (Cells.counted_new maxAttrsSize)).items
    exact habsent _ hcounted hsub
  · exact returnDupKey_fills src

/-- The attributes of a public key that is not found. -/
def mockKeyTypes (type : Nat) : List Nat := findTypes Cko.publicKey type ++ [ckaEcPoint]

theorem objImportPublicKey_fills (call : ImportCall) (params : ImportParams) (type paramSet : Nat) :
    FillsTypes (importTypes call (mockKeyTypes type)) 0
      (objImportPublicKey call params type paramSet) :=
  importFind_fills fun _ hcounted hsub =>
    (importMock_fills hcounted type).mono (hsub.append_right _)

/-- The attributes of a private key that is not found. -/
def storedKeyTypes (type : Nat) : List Nat :=
  if type = ckkRsa then [ckaId, ckaModulus, ckaPublicExponent] else findTypes Cko.privateKey type

theorem objImportPrivateKey_fills (call : ImportCall) (params : ImportParams) (type paramSet : Nat) :
    FillsTypes (importTypes call (storedKeyTypes type)) 0
      (objImportPrivateKey call params type paramSet) := by
  refine importFind_fills fun find hcounted hsub => (storePrivateKey_fills hcounted type).mono ?_
  rw [storedKeyTypes]
  split
  · exact .refl _
  · exact hsub

theorem storedKeyTypes_nodup (type : Nat) : (storedKeyTypes type).Nodup := by
  rw [storedKeyTypes]
  split
  · decide
  · exact (findTypes_nodup Cko.privateKey type).sublist (List.sublist_append_left _ _)

/-- What is found has no type twice, or there are others. -/
theorem importTypes_nodup {absent : List Nat} (habsent : absent.Nodup)
    (hfound : ∀ src, call.search = .ok (some src) → (src.map (·.1)).Nodup) :
    (importTypes call absent).Nodup := by
  rw [importTypes]
  split
  · rename_i src hsrc
    exact hfound src hsrc
  · exact habsent

theorem fixEcKeyImport_outcome (hmem : call.mem = .enough) {n : Nat} (hn : s.num < n) :
    outcome (fixEcKeyImport call n) s = (PoolState.fixEcKeyImport s.items).map ((), ·) := by
  rw [fixEcKeyImport, outcome_get_bind, outcome_ensure_bind, decide_eq_true hn, if_pos rfl,
    outcome_getAttr_bind, outcome_expect_bind, PoolState.fixEcKeyImport]
  generalize (s.items.find? (·.1 = ckaP11provPubKey)).map (·.2) = pub
  rcases pub with - | pub
  · rfl
  · dsimp only
    rw [outcome_ensure_bind, hmem, Memory.enough_value, if_pos rfl, outcome_store]
    rfl

theorem importMock_outcome (hmem : call.mem = .enough) {find : Cells (Nat × Bytes)}
    (hfind : find.Counted) (hne : find.items ≠ []) (type : Nat) (s : Cells (Nat × Bytes)) :
    outcome (importMock call type find) s =
      (if type = ckkEc ∨ type = ckkEcEdwards then PoolState.fixEcKeyImport find.items
        else .ok find.items).map ((), ·) := by
  have hnum : find.num ≠ 0 := by
    rw [hfind]
    exact fun h => hne (List.eq_nil_of_length_eq_zero h)
  rw [importMock, hmem]
  split
  · rw [outcome_allocAttrs_bind (Nat.succ_ne_zero _), outcome_storeAll_bind,
      fixEcKeyImport_outcome hmem]
    · rfl
    · rw [hfind, Cells.append, Nat.zero_add]
      exact Nat.lt_succ_self _
  · rw [outcome_allocAttrs_bind hnum, outcome_storeAll]
    rfl

/-- A template asks for something, of keys of the type in question. -/
theorem prepFind_ok {nid2name : Nat → Option Bytes} {params : KeyParams} {type paramSet : Nat}
    {find : KeyFindCtx} (h : P11Prov.prepFind nid2name params { type, paramSet } = .ok find) :
    find.type = type ∧ find.attrs ≠ [] := by
  rw [P11Prov.prepFind] at h
  split at h
  · obtain ⟨hkind, _, _, -, -, hn, -⟩ := prepRsaPublicFind_ok h
    exact ⟨hkind.1, List.ne_nil_of_mem hn⟩
  split at h
  · obtain ⟨hkind, _, _, _, _, -, -, -, -, hparams, -⟩ := prepEcFind_ok h
    exact ⟨hkind.1, List.ne_nil_of_mem hparams⟩
  split at h
  · obtain ⟨hkind, _, -, hpub, -⟩ := prepEdFind_ok h
    exact ⟨hkind.1, List.ne_nil_of_mem hpub⟩
  split at h
  · obtain ⟨hkind, -, -, hset⟩ := prepMlFind_ok h
    exact ⟨hkind.1, List.ne_nil_of_mem hset⟩
  split at h
  · obtain ⟨hkind, -, -, hset⟩ := prepMlFind_ok h
    exact ⟨hkind.1, List.ne_nil_of_mem hset⟩
  · cases h

/-- A public key that is not found has the attributes that it has in `Import`. -/
theorem objImportPublicKey_outcome (hmem : call.mem = .enough) (hctx : call.ctx = true)
    (hsearch : call.search = .ok none) (type paramSet : Nat) :
    outcome (objImportPublicKey call params type paramSet) s =
      match P11Prov.prepFind call.nid2name params.toKeyParams { type, paramSet } with
      | .error rv => .error rv
      | .ok find =>
        (if find.type = ckkEc ∨ find.type = ckkEcEdwards then PoolState.fixEcKeyImport find.attrs
          else .ok find.attrs).map ((), ·) := by
  have hfind : outcome (prepFind call params Cko.publicKey type paramSet)
      { alloc := maxAttrsSize } = _ := prepFind_outcome hmem
  have hadds : AddsTypes (findTypes Cko.publicKey type)
    (prepFind call params Cko.publicKey type paramSet) := prepFind_adds _ type paramSet
  obtain ⟨hcounted, -, -⟩ := (hadds _ (Cells.counted_new maxAttrsSize)).items
  rw [objImportPublicKey, importFind, outcome_ensure_bind, hctx, if_pos rfl, outcome_within_bind,
    outcome_ofExcept_bind, hsearch]
  rcases hprep : P11Prov.prepFind call.nid2name params.toKeyParams { type, paramSet } with rv | find'
  · rw [hprep] at hfind
    obtain ⟨find, hval⟩ := exec_of_outcome_error hfind
    rw [hval]
  · rw [hprep] at hfind
    obtain ⟨find, hval, hitems⟩ := exec_of_outcome_ok hfind
    obtain ⟨htype, hne⟩ := prepFind_ok hprep
    rw [hval] at hcounted ⊢
    have himport := importMock_outcome hmem hcounted (hitems ▸ hne) type s
    dsimp only
    rw [htype, ← hitems]
    exact himport

/-! ### Private keys that are not found -/

theorem getBn_outcome (hmem : call.mem = .enough) (type : Nat) (p : Option ParamValue) :
    getBn call type p = P11Prov.getBn p := by
  rw [getBn, hmem]
  rcases P11Prov.getBn p with rv | bin
  · rfl
  · rfl

theorem copyAttrs_outcome (attrs : List (Nat × Bytes)) :
    outcome (copyAttrs .enough attrs) s = .ok ((), s.items ++ attrs) := by
  induction attrs generalizing s with
  | nil => rw [copyAttrs, outcome_pure, List.append_nil]
  | cons a attrs ih =>
    rw [copyAttrs, outcome_get_bind, copyAttr, Memory.enough, Bool.or_true, outcome_storeCopy_bind]
    exact ih.trans (by rw [Cells.append, List.append_assoc]; rfl)

theorem storeFindAttrs_outcome (hmem : call.mem = .enough) {find : Cells (Nat × Bytes)}
    (hfind : find.Counted) (hne : find.items ≠ []) : outcome (storeFindAttrs call find) s =
      if call.stored = Ckr.ok then .ok ((), find.items) else .error call.stored := by
  have hnum : find.num ≠ 0 := by
    rw [hfind]
    exact fun h => hne (List.eq_nil_of_length_eq_zero h)
  rw [storeFindAttrs, outcome_ensure_bind, hmem, outcome_allocAttrs_bind hnum, copyAttrs_outcome]
  by_cases h : call.stored = Ckr.ok
  · rw [decide_eq_true h, if_pos rfl, if_pos h]
    rfl
  · rw [decide_eq_false h, if_neg Bool.false_ne_true, if_neg h]

/-- The entries of the template up to the public exponent are not taken back, if all optional
    parameters that are given can be read. -/
theorem rsaOptional_keeps {ps : List (Option ParamValue)} {base : List Bytes}
    (h : ∀ p ∈ ps, ∀ q ∈ p, ∃ v, P11Prov.getBn (some q) = .ok v) (read : List Bytes) :
    ∃ rest, rsaOptional ps read.length (base ++ read) = base.take (base.length - 1) ++ rest := by
  induction ps generalizing read with
  | nil =>
    refine ⟨base.drop (base.length - 1) ++ read, ?_⟩
    rw [rsaOptional, ← List.append_assoc, List.take_append_drop]
  | cons p ps ih =>
    rcases p with - | p
    · refine ⟨[], ?_⟩
      have hlen : (base ++ read).length - (read.length + 1) = base.length - 1 := by
        rw [List.length_append]
        omega
      rw [rsaOptional, hlen, List.take_append_of_le_length (Nat.sub_le _ _), List.append_nil]
    · obtain ⟨v, hv⟩ := h _ List.mem_cons_self p rfl
      have hnext := ih (fun q hq => h q (List.mem_cons_of_mem _ hq)) (read ++ [v])
      rw [rsaOptional, hv]
      simp only [List.append_assoc]
      rwa [List.length_append] at hnext

theorem storeRsaPrivateKey_outcome (hmem : call.mem = .enough) {find : Cells (Nat × Bytes)}
    {kf : KeyFindCtx} (hitems : find.items = kf.attrs) (htype : kf.type = ckkRsa)
    (hopt : ∀ p ∈ params.optional, ∀ q ∈ p, ∃ v, P11Prov.getBn (some q) = .ok v) :
    outcome (storeRsaPrivateKey call params find) s =
      match P11Prov.storeRsaPrivateKey params.toPrivateParams kf with
      | .error rv => .error rv
      | .ok template =>
        if call.stored = Ckr.ok then .ok ((), keptAttrs kf template) else .error call.stored := by
  rw [storeRsaPrivateKey, P11Prov.storeRsaPrivateKey, outcome_ofExcept_bind, getBn_outcome hmem]
  rcases P11Prov.getBn params.n with rv | n
  · rfl
  dsimp only
  rw [outcome_ofExcept_bind, getBn_outcome hmem]
  rcases P11Prov.getBn params.e with rv | e
  · rfl
  dsimp only
  rw [outcome_ofExcept_bind, getBn_outcome hmem]
  rcases P11Prov.getBn params.d with rv | d
  · rfl
  dsimp only
  have hkept : ∀ values rest, values = (rsaBase kf n e d).take 11 ++ rest →
      keptAttrs kf (rsaPrivateTypes.zip values) =
        [(ckaId, kf.nth 0), (ckaModulus, n), (ckaPublicExponent, e)] := by
    rintro _ rest rfl
    rw [keptAttrs, if_pos htype]
    rfl
  obtain ⟨rest, hrest⟩ : ∃ rest, rsaOptional params.optional 0 (rsaBase kf n e d ++ []) =
      (rsaBase kf n e d).take 11 ++ rest := rsaOptional_keeps hopt []
  rw [outcome_ensure_bind, hmem, outcome_allocAttrs_bind (by decide)]
  change _ = if call.stored = Ckr.ok then Except.ok ((), keptAttrs kf (rsaPrivateTypes.zip
    (rsaOptional params.optional 0 (rsaBase kf n e d)))) else _
  rw [List.append_nil] at hrest
  rw [hkept _ rest hrest]
  by_cases h : call.stored = Ckr.ok
  · rw [decide_eq_true h, if_pos rfl, if_pos h, copyAttr, Memory.enough, Bool.or_true,
      outcome_storeCopy_bind, outcome_store_bind, outcome_store, hitems, KeyFindCtx.nth,
      List.head?_eq_getElem?]
    rfl
  · rw [decide_eq_false h, if_neg Bool.false_ne_true, if_neg h]

/-- A private key that is not found has the attributes that it has in `PrivateImport`, if the
    optional parameters of an RSA key that are given can be read. -/
theorem storePrivateKey_outcome (hmem : call.mem = .enough) {find : Cells (Nat × Bytes)}
    {kf : KeyFindCtx} (hfind : find.Counted) (hitems : find.items = kf.attrs) (hne : kf.attrs ≠ [])
    (hopt : kf.type = ckkRsa → ∀ p ∈ params.optional, ∀ q ∈ p, ∃ v, P11Prov.getBn (some q) = .ok v) :
    outcome (storePrivateKey call params kf.type find) s =
      match privateKeyTemplate params.toPrivateParams kf with
      | .error rv => .error rv
      | .ok template =>
        if call.stored = Ckr.ok then .ok ((), keptAttrs kf template) else .error call.stored := by
  rw [storePrivateKey, privateKeyTemplate]
  by_cases hrsa : kf.type = ckkRsa
  · rw [if_pos hrsa, if_pos hrsa]
    exact storeRsaPrivateKey_outcome hmem hitems hrsa (hopt hrsa)
  have hkept (template : KeyAttrs) : keptAttrs kf template = find.items := by
    rw [keptAttrs, if_neg hrsa, hitems]
  have hfind' := storeFindAttrs_outcome hmem hfind (hitems ▸ hne) (s := s)
  rw [if_neg hrsa, if_neg hrsa]
  by_cases hec : kf.type = ckkEc ∨ kf.type = ckkEcEdwards
  · rw [if_pos hec, if_pos hec, storeEcPrivateKey, P11Prov.storeEcPrivateKey, outcome_ofExcept_bind,
      getBn_outcome hmem]
    rcases P11Prov.getBn params.priv with rv | value
    · rfl
    · exact hfind'.trans (by rw [← hkept]; rfl)
  rw [if_neg hec, if_neg hec]
  by_cases hmldsa : kf.type = ckkMlDsa
  · rw [if_pos (.inl hmldsa), if_pos hmldsa, storeMlPrivateKey, storeMldsaPrivateKey,
      outcome_expect_bind]
    rcases params.priv with - | priv
    · rfl
    · simp only [hkept]
      exact hfind'
  by_cases hmlkem : kf.type = ckkMlKem
  · rw [if_pos (.inr hmlkem), if_neg hmldsa, if_pos hmlkem, storeMlPrivateKey, storeMlkemPrivateKey,
      outcome_expect_bind]
    rcases params.priv with - | priv
    · rfl
    · simp only [hkept]
      exact hfind'
  · rw [if_neg (not_or.2 ⟨hmldsa, hmlkem⟩), if_neg hmldsa, if_neg hmlkem]
    rfl

theorem prepPrivateFind_ok {sha256 : Bytes → Except CkRv Bytes} {nid2name : Nat → Option Bytes}
    {params : PrivateParams} {type paramSet : Nat} {find : KeyFindCtx}
    (h : prepPrivateFind sha256 nid2name params { type, cls := Cko.privateKey, paramSet } = .ok find) :
    find.type = type ∧ find.attrs ≠ [] := by
  cases prepPrivateFind_search h with
  | rsa | ec | ed | ml => exact ⟨rfl, List.cons_ne_nil _ _⟩

/-- What an import makes of a private key that is not found. -/
theorem objImportPrivateKey_outcome (hmem : call.mem = .enough) (hctx : call.ctx = true)
    (hsearch : call.search = .ok none) (type paramSet : Nat)
    (hopt : type = ckkRsa → ∀ p ∈ params.optional, ∀ q ∈ p, ∃ v, P11Prov.getBn (some q) = .ok v) :
    outcome (objImportPrivateKey call params type paramSet) s =
      match prepPrivateFind call.digest call.nid2name params.toPrivateParams
        { type, cls := Cko.privateKey, paramSet } with
      | .error rv => .error rv
      | .ok find =>
        match privateKeyTemplate params.toPrivateParams find with
        | .error rv => .error rv
        | .ok template =>
          if call.stored = Ckr.ok then .ok ((), keptAttrs find template) else .error call.stored := by
  have hfind : outcome (prepFind call params Cko.privateKey type paramSet)
      { alloc := maxAttrsSize } = _ := prepPrivateFind_outcome hmem
  have hadds : AddsTypes (findTypes Cko.privateKey type)
    (prepFind call params Cko.privateKey type paramSet) := prepFind_adds _ type paramSet
  obtain ⟨hcounted, -, -⟩ := (hadds _ (Cells.counted_new maxAttrsSize)).items
  rw [objImportPrivateKey, importFind, outcome_ensure_bind, hctx, if_pos rfl, outcome_within_bind,
    outcome_ofExcept_bind, hsearch]
  rcases hprep : prepPrivateFind call.digest call.nid2name params.toPrivateParams
    { type, cls := Cko.privateKey, paramSet } with rv | find'
  · rw [hprep] at hfind
    obtain ⟨find, hval⟩ := exec_of_outcome_error hfind
    rw [hval]
  · rw [hprep] at hfind
    obtain ⟨find, hval, hitems⟩ := exec_of_outcome_ok hfind
    obtain ⟨rfl, hne⟩ := prepPrivateFind_ok hprep
    rw [hval] at hcounted ⊢
    exact storePrivateKey_outcome hmem hcounted hitems hne hopt

/-! ## Runs -/

/-- A call that makes an object, with what it is answered, or that imports a key into one. -/
inductive ArrayOp where
  | fromHandle (lib : EcLib) (mem : Memory) (ans : Answers) (supported : Bool)
  | mock (lib : EcLib) (mem : Memory) (type : Nat) (ecParams : Nat × Bytes)
  | importPublic (call : ImportCall) (params : ImportParams) (type paramSet : Nat)
  | importPrivate (call : ImportCall) (params : ImportParams) (type paramSet : Nat)

/-- What a call does to the array of the object; an object that is made has a new one. -/
def ArrayOp.run (s : Cells (Nat × Bytes)) :
    ArrayOp → Traced Store (Except CkRv Unit × Cells (Nat × Bytes))
  | .fromHandle lib mem ans supported => (objFromHandle lib mem ans supported).exec {}
  | .mock lib mem type ecParams => (mockPubEcKey lib mem type ecParams).exec {}
  | .importPublic call params type paramSet => (objImportPublicKey call params type paramSet).exec s
  | .importPrivate call params type paramSet => (objImportPrivateKey call params type paramSet).exec s

/-- The attributes of the object that a search finds, if the call makes one. -/
def ArrayOp.found : ArrayOp → Option (List (Nat × Bytes))
  | .importPublic call _ _ _ | .importPrivate call _ _ _ =>
    match call.search with
    | .ok src => src
    | .error _ => none
  | _ => none

/-- The arrays of the objects there can be. What a search finds is one of them. -/
inductive Reachable : Cells (Nat × Bytes) → Prop
  | new : Reachable {}
  | step {s src : Cells (Nat × Bytes)} (op : ArrayOp) : Reachable s → Reachable src →
      (∀ found ∈ op.found, found = src.items) → Reachable (op.run s).val.2

/-- No array overflows: whatever an array looks like before a call, all writes are in bounds, those to
    the attributes and those to the template of the search. No call makes an attribute be there twice,
    so no object there can be has one twice. -/
structure ArraysHold : Prop where
  writes : ∀ s op, (ArrayOp.run s op).All Store.InBounds
  find : ∀ call params cls type paramSet,
    ((prepFind call params cls type paramSet).exec { alloc := maxAttrsSize }).All Store.InBounds
  distinct : ∀ s op, (s.items.map (·.1)).Nodup →
    (∀ found ∈ ArrayOp.found op, (found.map (·.1)).Nodup) →
      ((ArrayOp.run s op).val.2.items.map (·.1)).Nodup
  once : ∀ s, Reachable s → (s.items.map (·.1)).Nodup

/-- What a call makes of an array has room for all that is written, and if neither the array nor what
    is found has a type twice, the result has none. -/
theorem ArrayOp.run_spec (s : Cells (Nat × Bytes)) (op : ArrayOp) :
    (op.run s).All Store.InBounds ∧ ((s.items.map (·.1)).Nodup →
      (∀ found ∈ op.found, (found.map (·.1)).Nodup) → ((op.run s).val.2.items.map (·.1)).Nodup) := by
  cases op with
  | fromHandle lib mem ans supported =>
    obtain ⟨cls, type, hfills⟩ := objFromHandle_fills lib mem ans supported
    exact ⟨hfills.inBounds {}, fun _ _ => hfills.nodup (objectTypes_nodup cls type) List.nodup_nil⟩
  | mock lib mem type ecParams =>
    have hfills := mockPubEcKey_fills lib mem type ecParams
    exact ⟨hfills.inBounds {}, fun _ _ => hfills.nodup (mockTypes_nodup ecParams) List.nodup_nil⟩
  | importPublic call params type paramSet =>
    have hfills := objImportPublicKey_fills call params type paramSet
    refine ⟨hfills.inBounds s, fun hs hfound => hfills.nodup ?_ hs⟩
    refine importTypes_nodup (findTypes_nodup Cko.publicKey type) fun src hsrc => hfound src ?_
    rw [ArrayOp.found, hsrc]
    rfl
  | importPrivate call params type paramSet =>
    have hfills := objImportPrivateKey_fills call params type paramSet
    refine ⟨hfills.inBounds s, fun hs hfound => hfills.nodup ?_ hs⟩
    refine importTypes_nodup (storedKeyTypes_nodup type) fun src hsrc => hfound src ?_
    rw [ArrayOp.found, hsrc]
    rfl

theorem arraysHold : ArraysHold where
  writes s op := (op.run_spec s).1
  distinct s op := (op.run_spec s).2
  find _ _ cls type paramSet := prepFind_inBounds cls type paramSet
  once s hs := by
    induction hs with
    | new => exact List.nodup_nil
    | step op _ _ hfound ih ihsrc =>
      refine (op.run_spec _).2 ih fun found hmem => ?_
      -- what is found is an array of an object as well
      rw [hfound found hmem]
      exact ihsrc

end AttrArrays
end P11Prov
