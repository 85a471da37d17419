import P11Prov.Pkcs11

/-!
# Fetching attributes

`p11prov_fetch_attributes` asks for all attributes in one call, first for their
lengths and then for the values that it allocates, and one by one if the token
refuses that call for one of them. The token answers each attribute in the same
way in all calls (`TokenAttrs`), and each request comes with the memory there is
for its value.

The error stack is a list of records, the newest first, by the number of the
marks on them.
-/

namespace P11Prov

/-! ## The error stack -/

/-- The marks on the records, the newest first. -/
abbrev ErrStack : Type := List Nat

namespace ErrStack

variable (errs : ErrStack)

/-- The number of marks. -/
def marks : Nat := errs.foldr (· + ·) 0

/-- `P11PROV_raise` -/
def raise : ErrStack := 0 :: errs

/-- `p11prov_set_error_mark`: a mark on the newest record, if there is one. -/
def setMark : ErrStack → ErrStack
  | [] => []
  | m :: errs => (m + 1) :: errs

/-- `p11prov_pop_error_to_mark`: the records after the newest mark and this mark are removed. -/
def popToMark : ErrStack → ErrStack
  | [] => []
  | 0 :: errs => popToMark errs
  | (m + 1) :: errs => m :: errs

/-- `p11prov_clear_last_error_mark`: the newest mark is removed. -/
def clearLastMark : ErrStack → ErrStack
  | [] => []
  | 0 :: errs => 0 :: clearLastMark errs
  | (m + 1) :: errs => m :: errs

end ErrStack

/-! ## The token -/

/-- What a token says of an attribute of an object. -/
inductive AttrAnswer
  | value (value : Bytes)
  | unavailable
  | sensitive
  | typeInvalid
  deriving DecidableEq

/-- The attributes of an object of a token, and which code the token returns when it refuses several
    of them. -/
structure TokenAttrs where
  answer : Nat → AttrAnswer
  short : ∀ {type v}, answer type = .value v → v.length < ckUnavailableInformation
  pick : List CkRv → CkRv
  pick_mem : ∀ {codes}, codes ≠ [] → pick codes ∈ codes

/-- `CK_ATTRIBUTE`, with what `pValue` points to. -/
structure CkAttribute where
  type : Nat
  pValue : Option Bytes
  ulValueLen : Nat
  deriving DecidableEq

namespace TokenAttrs

variable (tok : TokenAttrs)

/-- What `C_GetAttributeValue` does to one entry of its template. -/
def getOne (a : CkAttribute) : CkRv × CkAttribute :=
  match tok.answer a.type with
  | .value v =>
    match a.pValue with
    | none => (Ckr.ok, { a with ulValueLen := v.length })
    | some buf =>
      if v.length ≤ a.ulValueLen then
        (Ckr.ok, { a with pValue := some (v ++ buf.drop v.length), ulValueLen := v.length })
      else (Ckr.bufferTooSmall, { a with ulValueLen := ckUnavailableInformation })
  | .unavailable => (Ckr.ok, { a with ulValueLen := ckUnavailableInformation })
  | .sensitive => (Ckr.attributeSensitive, { a with ulValueLen := ckUnavailableInformation })
  | .typeInvalid => (Ckr.attributeTypeInvalid, { a with ulValueLen := ckUnavailableInformation })

/-- The code of a call, by those of its entries. -/
def codeOf (codes : List CkRv) : CkRv :=
  let errors := codes.filter (· ≠ Ckr.ok)
  if errors = [] then Ckr.ok else tok.pick errors

/-- `C_GetAttributeValue` -/
def getAttributeValue (template : List CkAttribute) : CkRv × List CkAttribute :=
  (tok.codeOf (template.map fun a => (tok.getOne a).1), template.map fun a => (tok.getOne a).2)

end TokenAttrs

/-! ## Requests -/

/-- What a caller asks for: an attribute with the variable for its value, or with none if the value
    is to be allocated, and whether there is memory for it. -/
structure AttrRequest where
  type : Nat
  dest : Option Bytes := none
  required : Bool
  alloc : Bool := true
  deriving DecidableEq

/-- `struct fetch_attrs`, with the memory for the value. -/
structure FetchAttrs where
  attr : CkAttribute
  allocate : Bool
  required : Bool
  alloc : Bool
  deriving DecidableEq

/-- `FA_SET_VAR_VAL` and `FA_SET_BUF_ALLOC` -/
def AttrRequest.set (r : AttrRequest) : FetchAttrs where
  attr := { type := r.type, pValue := r.dest, ulValueLen := (r.dest.map List.length).getD 0 }
  allocate := r.dest.isNone
  required := r.required
  alloc := r.alloc

/-- A variable holds what the token wrote to it. -/
def FetchAttrs.sync (f : FetchAttrs) (q : CkAttribute) : FetchAttrs :=
  if f.allocate then f else { f with attr := { f.attr with pValue := q.pValue } }

/-- `OPENSSL_zalloc`, one byte longer so that strings end with a zero. -/
def zalloc (len : Nat) : Bytes := .replicate (len + 1) 0

/-! ## The function -/

/-- What a strategy leaves, and whether it left the function on its own. -/
structure FetchOut where
  ret : CkRv
  returned : Bool := false
  attrs : List FetchAttrs
  errs : ErrStack

/-- With an attribute that is done with. -/
def FetchOut.cons (f : FetchAttrs) (r : FetchOut) : FetchOut := { r with attrs := f :: r.attrs }

/-- The loop over the attributes after one call for all of them. -/
def takeAll (errs : ErrStack) : List (FetchAttrs × CkAttribute) → FetchOut
  | [] => { ret := Ckr.ok, attrs := [], errs }
  | (f, q) :: l =>
    if q.ulValueLen = ckUnavailableInformation then
      if !f.required then (takeAll errs l).cons f
      else { ret := Ckr.generalError, attrs := f :: l.map (·.1), errs := errs.raise }
    else if f.allocate then
      if !f.alloc then { ret := Ckr.hostMemory, attrs := f :: l.map (·.1), errs := errs.raise }
      else (takeAll errs l).cons { f with attr := { q with pValue := some (zalloc q.ulValueLen) } }
    else (takeAll errs l).cons { f with attr := q }

/-- The attributes that memory was allocated for. -/
def FetchAttrs.again (f : FetchAttrs) : Bool := f.allocate && f.attr.pValue.isSome

/-- The second call, for the attributes that memory was allocated for. -/
def fetchAgain (tok : TokenAttrs) (r : FetchOut) : FetchOut :=
  if r.ret ≠ Ckr.ok ∨ r.attrs.filter (·.again) = [] then r
  else { r with
    ret := (tok.getAttributeValue ((r.attrs.filter (·.again)).map (·.attr))).1
    attrs := r.attrs.map fun f =>
      if f.again then { f with attr := { f.attr with pValue := (tok.getOne f.attr).2.pValue } } else f }

/-- The strategy of one call for all attributes, with what this call answered. -/
def oneShot (tok : TokenAttrs) (fs : List FetchAttrs) (q : List CkAttribute) (errs : ErrStack) :
    FetchOut :=
  fetchAgain tok (takeAll errs (fs.zip q))

/-- The call for the value of an attribute, and the rest of the loop. -/
def queryValue (tok : TokenAttrs) (f : FetchAttrs) (l : List FetchAttrs) (errs : ErrStack)
    (rest : FetchOut) : FetchOut :=
  let (ret, q) := tok.getAttributeValue [f.attr]
  let g := { f with attr := q.headD f.attr }
  if ret ≠ Ckr.ok then
    if f.required then { ret, returned := true, attrs := g :: l, errs }
    else if g.again then rest.cons { g with attr :=
      { g.attr with pValue := none, ulValueLen := ckUnavailableInformation } }
    else rest.cons g
  else rest.cons g

/-- The strategy of asking one by one. -/
def oneByOne (tok : TokenAttrs) (errs : ErrStack) : List FetchAttrs → FetchOut
  | [] => { ret := Ckr.ok, attrs := [], errs }
  | f :: l =>
    if f.allocate then
      let (ret, q) := tok.getAttributeValue [f.attr]
      let g := { f with attr := q.headD f.attr }
      if ret ≠ Ckr.ok then
        if f.required then { ret, returned := true, attrs := g :: l, errs }
        else (oneByOne tok errs l).cons g
      else if g.attr.ulValueLen = ckUnavailableInformation then (oneByOne tok errs l).cons g
      else if !f.alloc then { ret := Ckr.hostMemory, attrs := g :: l, errs := errs.raise }
      else queryValue tok { g with attr := { g.attr with pValue := some (zalloc g.attr.ulValueLen) } }
        l errs (oneByOne tok errs l)
    else queryValue tok f l errs (oneByOne tok errs l)

/-- The common exit. -/
def FetchOut.exit (r : FetchOut) : FetchOut :=
  if r.returned then r
  else if r.ret = Ckr.ok then { r with errs := r.errs.popToMark }
  else { r with errs := r.errs.clearLastMark }

/-- `p11prov_fetch_attributes` -/
def fetchAttributes (tok : TokenAttrs) (fs : List FetchAttrs) (errs : ErrStack) : FetchOut :=
  let errs := errs.setMark
  let (ret, q) := tok.getAttributeValue (fs.map (·.attr))
  let fs := fs.zipWith FetchAttrs.sync q
  if ret = Ckr.ok then (oneShot tok fs q errs).exit
  else if 1 < fs.length ∧ (ret = Ckr.attributeSensitive ∨ ret = Ckr.attributeTypeInvalid) then
    (oneByOne tok errs fs).exit
  else FetchOut.exit { ret, attrs := fs, errs }

/-! ## What is expected -/

/-- The value of an attribute, as its caller sees it: what was allocated, or all of the variable. -/
def FetchAttrs.value (f : FetchAttrs) : Option Bytes :=
  if f.allocate then f.attr.pValue.map (·.take f.attr.ulValueLen) else f.attr.pValue

namespace AttrRequest

variable (r : AttrRequest) (tok : TokenAttrs)

/-- There is room for the value. -/
def Fits (v : Bytes) : Prop := ∀ b ∈ r.dest, v.length ≤ b.length

instance (v : Bytes) : Decidable (r.Fits v) := inferInstanceAs (Decidable (∀ b ∈ r.dest, _))

/-- The value where it is wanted: on its own, or at the start of the variable. -/
def full (v : Bytes) : Bytes := v ++ (r.dest.getD []).drop v.length

/-- The token has the attribute, and there is room for it. -/
def Has (v : Bytes) : Prop := tok.answer r.type = .value v ∧ r.Fits v

/-- The token knows the attribute, and the object has none. -/
def Missing : Prop := tok.answer r.type = .unavailable

/-- The token returns an error for the attribute. -/
def Refused : Prop := (∀ v, ¬r.Has tok v) ∧ ¬r.Missing tok

/-- There is a value to be allocated and no memory for it. -/
def MemFails : Prop := r.dest = none ∧ r.alloc = false ∧ ∃ v, r.Has tok v

/-- The full value if there is one, and else what was there before. -/
def expected : Option Bytes :=
  match tok.answer r.type with
  | .value v => if r.Fits v then some (r.full v) else r.dest
  | _ => r.dest

end AttrRequest

/-- The contract: success means that every required attribute was returned with its value, and an
    optional one has its value or none; both strategies come to the same values; and the marks on
    the error stack are as many as before. -/
structure FetchesRight (tok : TokenAttrs) (rs : List AttrRequest) : Prop where
  ok : ∀ errs, (fetchAttributes tok (rs.map (·.set)) errs).ret = Ckr.ok →
    (fetchAttributes tok (rs.map (·.set)) errs).attrs.map (·.value) = rs.map (·.expected tok) ∧
      ∀ r ∈ rs, r.required → ∃ v, r.Has tok v
  same : ∀ fs q errs, tok.getAttributeValue (rs.map (·.set.attr)) = (Ckr.ok, q) →
    fs = (rs.map (·.set)).zipWith FetchAttrs.sync q → (oneShot tok fs q errs).ret = Ckr.ok →
      (oneByOne tok errs fs).ret = Ckr.ok →
        (oneShot tok fs q errs).attrs.map (·.value) = (oneByOne tok errs fs).attrs.map (·.value)
  marks : ∀ errs, (fetchAttributes tok (rs.map (·.set)) errs).errs.marks = errs.marks

/-- The token refuses to be asked for all attributes at once, with a code that makes the function
    ask one by one. -/
def AsksOneByOne (tok : TokenAttrs) (rs : List AttrRequest) : Prop :=
  1 < rs.length ∧ (tok.getAttributeValue (rs.map (·.set.attr))).1 ∈
    [Ckr.attributeSensitive, Ckr.attributeTypeInvalid]

/-- Asked one by one, no required attribute is refused before the memory runs out, and none is
    missing unless the memory runs out. -/
structure OneByOneFits (tok : TokenAttrs) (rs : List AttrRequest) : Prop where
  refused : ∀ before r after, rs = before ++ r :: after → r.required → r.Refused tok →
    ∃ p ∈ before, p.MemFails tok
  missing : ∀ r ∈ rs, r.required → r.Missing tok → ∃ p ∈ rs, p.MemFails tok

/-! ## What a caller gets -/

/-- What a caller sees of an attribute: its type, whether it was allocated, and its value. -/
def FetchAttrs.view (f : FetchAttrs) : Nat × Bool × Option Bytes := (f.attr.type, f.allocate, f.value)

/-- What a variable holds. -/
def FetchOut.var (s : FetchOut) (type : Nat) : Option Bytes :=
  ((s.attrs.map (·.view)).find? fun x => x.1 = type && !x.2.1).bind (·.2.2)

/-- `p11prov_move_alloc_attrs`: the attributes that were allocated, with their values. -/
def FetchOut.moveAllocAttrs (s : FetchOut) : List (Nat × Bytes) :=
  (s.attrs.map (·.view)).filterMap fun x => if x.2.1 then x.2.2.map (x.1, ·) else none

/-- What is to be seen of a request. -/
def AttrRequest.view (r : AttrRequest) (tok : TokenAttrs) : Nat × Bool × Option Bytes :=
  (r.type, r.dest.isNone, r.expected tok)

/-! ## One attribute -/

variable {tok : TokenAttrs} {r : AttrRequest} {rs : List AttrRequest} {f : FetchAttrs} {v : Bytes}
  {errs : ErrStack} {a : CkAttribute}

theorem FetchAttrs.view_eq (hf : f.value = r.expected tok) (ht : f.attr.type = r.type)
    (ha : f.allocate = r.dest.isNone) : f.view = r.view tok := by
  rw [view, AttrRequest.view, hf, ht, ha]

theorem values_of_views {fs : List FetchAttrs} (h : fs.map (·.view) = rs.map (·.view tok)) :
    fs.map (·.value) = rs.map (·.expected tok) := by
  have hmap := congrArg (List.map (·.2.2)) h
  rwa [List.map_map, List.map_map] at hmap

namespace AttrRequest

variable (r : AttrRequest) (tok : TokenAttrs)

/-- An attribute before it is asked for on its own. The variable may have its value by then. -/
def synced : FetchAttrs :=
  { r.set with attr := { r.set.attr with pValue := if r.dest.isNone then none else r.expected tok } }

theorem cases : (∃ v, r.Has tok v) ∨ r.Missing tok ∨ r.Refused tok := by
  by_cases hh : ∃ v, r.Has tok v
  · exact .inl hh
  · by_cases hm : r.Missing tok
    · exact .inr (.inl hm)
    · exact .inr (.inr ⟨fun v hv => hh ⟨v, hv⟩, hm⟩)

end AttrRequest

theorem AttrRequest.Has.expected (h : r.Has tok v) : r.expected tok = some (r.full v) := by
  rw [AttrRequest.expected, h.1]
  exact if_pos h.2

theorem AttrRequest.expected_of_not_has (h : ∀ v, ¬r.Has tok v) : r.expected tok = r.dest := by
  rw [AttrRequest.expected]
  split
  · rename_i v hv
    exact if_neg fun hf => h v ⟨hv, hf⟩
  · rfl

theorem AttrRequest.full_full : v ++ (r.full v).drop v.length = r.full v := by
  simp [full]

/-- A call for one attribute returns the code for it. -/
theorem TokenAttrs.getAttributeValue_one : tok.getAttributeValue [a] =
    ((tok.getOne a).1, [(tok.getOne a).2]) := by
  have hcode : tok.codeOf [(tok.getOne a).1] = (tok.getOne a).1 := by
    rw [codeOf]
    by_cases h : (tok.getOne a).1 = Ckr.ok
    · simp [h]
    · have hp : tok.pick [(tok.getOne a).1] ∈ [(tok.getOne a).1] := tok.pick_mem (by simp)
      simpa [h] using hp
  rw [getAttributeValue, List.map_singleton, List.map_singleton, hcode]

/-- A call returns no error exactly if there is none for any attribute. -/
theorem TokenAttrs.codeOf_eq_ok {codes : List CkRv} :
    tok.codeOf codes = Ckr.ok ↔ ∀ c ∈ codes, c = Ckr.ok := by
  rw [codeOf]
  by_cases h : codes.filter (· ≠ Ckr.ok) = []
  · rw [if_pos h]
    simpa using h
  · have hp := tok.pick_mem h
    rw [if_neg h]
    refine ⟨fun he => ?_, fun he => absurd ?_ h⟩
    · rw [he] at hp
      simp at hp
    · simpa using he

/-- The attribute as it is asked for: a variable holds what it held before, or has its value. -/
structure AttrRequest.Describes (r : AttrRequest) (tok : TokenAttrs) (a : CkAttribute) : Prop where
  type : a.type = r.type
  pValue : a.pValue.isSome = r.dest.isSome
  ulValueLen : a.ulValueLen = (r.dest.map List.length).getD 0
  full : ∀ v, r.Has tok v → ∀ p ∈ a.pValue, v ++ p.drop v.length = r.full v

theorem AttrRequest.describes_set : r.Describes tok r.set.attr :=
  ⟨rfl, rfl, rfl, fun v _ p hp => by
    have hd : r.dest = some p := hp
    rw [AttrRequest.full, hd, Option.getD_some]⟩

theorem AttrRequest.describes_synced : r.Describes tok (r.synced tok).attr := by
  cases hd : r.dest with
  | none =>
    have hp : (r.synced tok).attr.pValue = none := by simp [synced, hd]
    exact ⟨rfl, by rw [hp, hd], rfl, fun v _ p hp' => by rw [hp] at hp'; cases hp'⟩
  | some b =>
    have hp : (r.synced tok).attr.pValue = r.expected tok := by simp [synced, hd]
    by_cases hh : ∃ v, r.Has tok v
    · obtain ⟨w, hw⟩ := hh
      rw [hw.expected] at hp
      refine ⟨rfl, by rw [hp, hd, Option.isSome_some, Option.isSome_some], rfl, fun v hv p hp' => ?_⟩
      have hvw : v = w := AttrAnswer.value.inj (hv.1.symm.trans hw.1)
      rw [hp, Option.mem_some_iff] at hp'
      rw [← hp', hvw]
      exact full_full
    · rw [expected_of_not_has fun v hv => hh ⟨v, hv⟩] at hp
      exact ⟨rfl, by rw [hp], rfl, fun v hv => absurd ⟨v, hv⟩ hh⟩

namespace AttrRequest.Describes

variable (h : r.Describes tok a)
include h

theorem getOne_missing (hm : r.Missing tok) :
    tok.getOne a = (Ckr.ok, { a with ulValueLen := ckUnavailableInformation }) := by
  rw [TokenAttrs.getOne, h.type, hm]

theorem getOne_has (hv : r.Has tok v) : tok.getOne a = (Ckr.ok, { a with
    pValue := if r.dest.isNone then none else some (r.full v), ulValueLen := v.length }) := by
  rw [TokenAttrs.getOne, h.type, hv.1]
  obtain ⟨type, pValue, len⟩ := a
  cases hd : r.dest with
  | none =>
    have hp := h.pValue
    rw [hd, Option.isSome_none, Option.isSome_eq_false_iff, Option.isNone_iff_eq_none] at hp
    subst hp
    rfl
  | some b =>
    have hp := h.pValue
    rw [hd, Option.isSome_some, Option.isSome_iff_exists] at hp
    obtain ⟨p, rfl⟩ := hp
    have hlen : len = b.length := by simpa [hd] using h.ulValueLen
    have hle : v.length ≤ len := by
      rw [hlen]
      exact hv.2 b hd
    simp [hle, h.full v hv p rfl]

theorem getOne_refused (hr : r.Refused tok) : (tok.getOne a).1 ≠ Ckr.ok ∧
    (tok.getOne a).2 = { a with ulValueLen := ckUnavailableInformation } := by
  rw [TokenAttrs.getOne, h.type]
  cases ha : tok.answer r.type with
  | unavailable => exact absurd ha hr.2
  | sensitive =>
    have hne : Ckr.attributeSensitive ≠ Ckr.ok := by decide
    exact ⟨hne, by rw [← h.type]⟩
  | typeInvalid =>
    have hne : Ckr.attributeTypeInvalid ≠ Ckr.ok := by decide
    exact ⟨hne, by rw [← h.type]⟩
  | value v =>
    have hfit : ¬r.Fits v := fun hf => hr.1 v ⟨ha, hf⟩
    obtain ⟨type, pValue, len⟩ := a
    cases hd : r.dest with
    | none => exact absurd (fun b hb => by rw [hd] at hb; cases hb) hfit
    | some b =>
      have hp := h.pValue
      rw [hd, Option.isSome_some, Option.isSome_iff_exists] at hp
      obtain ⟨p, rfl⟩ := hp
      have hlen : len = b.length := by simpa [hd] using h.ulValueLen
      have hle : ¬v.length ≤ len := by
        rw [hlen]
        intro hle
        refine hfit fun b' hb' => ?_
        rw [hd] at hb'
        rwa [← Option.mem_some_iff.1 hb']
      have hne : Ckr.bufferTooSmall ≠ Ckr.ok := by decide
      simp only [if_neg hle]
      exact ⟨hne, trivial⟩

theorem getOne_ok : (tok.getOne a).1 = Ckr.ok ↔ ¬r.Refused tok := by
  rcases r.cases tok with ⟨v, hv⟩ | hm | hr
  · exact ⟨fun _ hr => hr.1 v hv, fun _ => by rw [h.getOne_has hv]⟩
  · exact ⟨fun _ hr => hr.2 hm, fun _ => by rw [h.getOne_missing hm]⟩
  · exact ⟨fun he => absurd he (h.getOne_refused hr).1, fun hn => absurd hr hn⟩

end AttrRequest.Describes

/-- After the call for all attributes the variables have their values. -/
theorem sync_set : r.set.sync (tok.getOne r.set.attr).2 = r.synced tok := by
  rw [FetchAttrs.sync, AttrRequest.synced]
  cases hd : r.dest with
  | none => simp [AttrRequest.set, hd]
  | some b =>
    have hset : r.set.allocate = false := by simp [AttrRequest.set, hd]
    rw [hset]
    rcases r.cases tok with ⟨v, hv⟩ | hm | hr
    · rw [AttrRequest.describes_set.getOne_has hv, hv.expected]
      simp [hd]
    · have hn : ∀ v, ¬r.Has tok v := fun v hv => by simp [AttrRequest.Missing, hv.1] at hm
      rw [AttrRequest.describes_set.getOne_missing hm, AttrRequest.expected_of_not_has hn]
      simp [AttrRequest.set, hd]
    · rw [(AttrRequest.describes_set.getOne_refused hr).2, AttrRequest.expected_of_not_has hr.1]
      simp [AttrRequest.set, hd]

theorem zipWith_sync (tok : TokenAttrs) (rs : List AttrRequest) :
    (rs.map (·.set)).zipWith FetchAttrs.sync
    (tok.getAttributeValue (rs.map (·.set.attr))).2 = rs.map (·.synced tok) := by
  simp only [TokenAttrs.getAttributeValue, List.map_map]
  induction rs with
  | nil => rfl
  | cons r rs ih =>
    simp only [List.map_cons, List.zipWith_cons_cons, ih]
    exact congrArg (· :: _) sync_set

/-! ## One call for all attributes -/

/-- The records that were raised have no marks. -/
def Raised (errs errs' : ErrStack) : Prop := ∃ n, errs' = .replicate n 0 ++ errs

theorem Raised.refl : Raised errs errs := ⟨0, rfl⟩

theorem Raised.raise : Raised errs errs.raise := ⟨1, rfl⟩

/-- An attribute after the first call. The memory for its value is there and not filled yet. -/
def AttrRequest.taken (r : AttrRequest) (tok : TokenAttrs) : FetchAttrs :=
  match tok.answer r.type with
  | .value v => { r.set with attr :=
      { type := r.type, pValue := some (if r.dest.isNone then zalloc v.length else r.full v)
        ulValueLen := v.length } }
  | _ => r.synced tok

theorem AttrRequest.Has.taken (hv : r.Has tok v) : r.taken tok = { r.set with attr :=
    { type := r.type, pValue := some (if r.dest.isNone then zalloc v.length else r.full v)
      ulValueLen := v.length } } := by
  rw [AttrRequest.taken, hv.1]

theorem AttrRequest.Missing.taken (hm : r.Missing tok) : r.taken tok = r.synced tok := by
  rw [AttrRequest.taken, hm]

theorem AttrRequest.Missing.not_has (hm : r.Missing tok) (v : Bytes) : ¬r.Has tok v := fun hv =>
  absurd (hm.symm.trans hv.1) (by simp)

theorem AttrRequest.synced_again : (r.synced tok).again = false := by
  cases hd : r.dest <;> simp [FetchAttrs.again, synced, set, hd]

/-- An attribute without a value leaves what was there. -/
theorem AttrRequest.synced_value (h : r.dest.isSome = true ∨ ∀ v, ¬r.Has tok v) :
    (r.synced tok).value = r.expected tok := by
  cases hd : r.dest with
  | some b => simp [FetchAttrs.value, synced, set, hd]
  | none =>
    rcases h with h | h
    · rw [hd] at h
      cases h
    · simp [FetchAttrs.value, synced, set, hd, expected_of_not_has h]

/-- What the call for all attributes says of one. -/
theorem takeAll_cons {l : List (FetchAttrs × CkAttribute)} (hr : ¬r.Refused tok) :
    ((takeAll errs ((r.synced tok, (tok.getOne r.set.attr).2) :: l)).ret ≠ Ckr.ok ∧
      Raised errs (takeAll errs ((r.synced tok, (tok.getOne r.set.attr).2) :: l)).errs ∧
      (takeAll errs ((r.synced tok, (tok.getOne r.set.attr).2) :: l)).returned = false ∧
      (r.MemFails tok ∨ r.required ∧ r.Missing tok)) ∨
    (takeAll errs ((r.synced tok, (tok.getOne r.set.attr).2) :: l) =
      (takeAll errs l).cons (r.taken tok) ∧ (r.required → ∃ v, r.Has tok v)) := by
  have hgen : Ckr.generalError ≠ Ckr.ok := by decide
  have hmem : Ckr.hostMemory ≠ Ckr.ok := by decide
  rcases r.cases tok with ⟨v, hv⟩ | hm | hr'
  · have hlen : v.length ≠ ckUnavailableInformation := Nat.ne_of_lt (tok.short hv.1)
    rw [AttrRequest.describes_set.getOne_has hv, takeAll]
    simp only [hlen, if_false]
    cases hd : r.dest with
    | none =>
      have ha : (r.synced tok).allocate = true := by simp [AttrRequest.synced, AttrRequest.set, hd]
      rw [if_pos ha]
      by_cases halloc : (!(r.synced tok).alloc) = true
      · rw [if_pos halloc]
        have hfails : r.alloc = false := by
          simpa [AttrRequest.synced, AttrRequest.set] using halloc
        exact .inl ⟨hmem, .raise, rfl, .inl ⟨hd, hfails, v, hv⟩⟩
      · rw [if_neg halloc, hv.taken]
        refine .inr ⟨?_, fun _ => ⟨v, hv⟩⟩
        simp [AttrRequest.synced, AttrRequest.set, hd]
    | some b =>
      have ha : (r.synced tok).allocate = false := by simp [AttrRequest.synced, AttrRequest.set, hd]
      refine .inr ⟨?_, fun _ => ⟨v, hv⟩⟩
      rw [ha, hv.taken]
      simp [AttrRequest.synced, AttrRequest.set, hd]
  · rw [AttrRequest.describes_set.getOne_missing hm, takeAll]
    simp only [if_true]
    by_cases hreq : (!(r.synced tok).required) = true
    · rw [if_pos hreq, hm.taken]
      refine .inr ⟨rfl, fun h => ?_⟩
      have h' : (r.synced tok).required = true := h
      rw [h'] at hreq
      cases hreq
    · rw [if_neg hreq]
      have hreq' : (r.synced tok).required = true := by simpa using hreq
      exact .inl ⟨hgen, .raise, rfl, .inr ⟨hreq', hm⟩⟩
  · exact absurd hr' hr

theorem takeAll_spec (errs : ErrStack) (hr : ∀ r ∈ rs, ¬r.Refused tok)
    {l : List (FetchAttrs × CkAttribute)}
    (hl : l = rs.map fun r => (r.synced tok, (tok.getOne r.set.attr).2)) :
    Raised errs (takeAll errs l).errs ∧ (takeAll errs l).returned = false ∧
      ((takeAll errs l).ret = Ckr.ok → (takeAll errs l).attrs = rs.map (·.taken tok) ∧
        ∀ r ∈ rs, r.required → ∃ v, r.Has tok v) ∧
      ((∀ r ∈ rs, ¬r.MemFails tok) → (∀ r ∈ rs, r.required → ¬r.Missing tok) →
        (takeAll errs l).ret = Ckr.ok) := by
  subst hl
  induction rs with
  | nil => exact ⟨.refl, rfl, fun _ => ⟨rfl, by simp⟩, fun _ _ => rfl⟩
  | cons r rs ih =>
    obtain ⟨hraised, hret, hok, hconv⟩ := ih fun r h => hr r (List.mem_cons_of_mem _ h)
    rw [List.map_cons]
    rcases takeAll_cons (hr r List.mem_cons_self) with ⟨hne, hraised', hret', hwhy⟩ | ⟨he, hreq⟩
    · refine ⟨hraised', hret', fun h => absurd h hne, fun hm hmiss => ?_⟩
      rcases hwhy with hfails | ⟨hreq, hmissing⟩
      · exact absurd hfails (hm r List.mem_cons_self)
      · exact absurd hmissing (hmiss r List.mem_cons_self hreq)
    · rw [he]
      refine ⟨hraised, hret, fun h => ?_, fun hm hmiss => ?_⟩
      · obtain ⟨hattrs, hall⟩ := hok h
        exact ⟨congrArg (_ :: ·) hattrs, List.forall_mem_cons.2 ⟨hreq, hall⟩⟩
      · exact hconv (fun r h => hm r (List.mem_cons_of_mem _ h)) fun r h =>
          hmiss r (List.mem_cons_of_mem _ h)

theorem AttrRequest.taken_tag : (r.taken tok).attr.type = r.type ∧
    (r.taken tok).allocate = r.dest.isNone := by
  rw [taken]
  split <;> exact ⟨rfl, rfl⟩

/-- The second call fills the memory. -/
theorem getOne_taken (ha : (r.taken tok).again = true) (hr : ¬r.Refused tok) :
    (tok.getOne (r.taken tok).attr).1 = Ckr.ok ∧
      ({ r.taken tok with attr := { (r.taken tok).attr with
        pValue := (tok.getOne (r.taken tok).attr).2.pValue } } : FetchAttrs).value =
          r.expected tok := by
  rcases r.cases tok with ⟨v, hv⟩ | hm | hr'
  · have hd : r.dest.isNone = true := by
      rw [hv.taken, FetchAttrs.again, Bool.and_eq_true] at ha
      exact ha.1
    have htaken := hv.taken
    rw [hd, if_pos rfl] at htaken
    have hone : tok.getOne (r.taken tok).attr = (Ckr.ok, { (r.taken tok).attr with
        pValue := some (v ++ (zalloc v.length).drop v.length) }) := by
      rw [htaken, TokenAttrs.getOne, hv.1]
      exact if_pos (Nat.le_refl _)
    rw [hone, hv.expected, htaken, FetchAttrs.value]
    have hset : r.set.allocate = true := hd
    rw [Option.isNone_iff_eq_none] at hd
    simp [hset, AttrRequest.full, hd]
  · rw [hm.taken, AttrRequest.synced_again] at ha
    cases ha
  · exact absurd hr' hr

/-- An attribute that is not asked for again is done with. -/
theorem value_taken (ha : (r.taken tok).again = false) (hr : ¬r.Refused tok) :
    (r.taken tok).value = r.expected tok := by
  rcases r.cases tok with ⟨v, hv⟩ | hm | hr'
  · rw [hv.taken] at ha ⊢
    have hd : r.dest.isNone = false := by simpa [FetchAttrs.again, AttrRequest.set] using ha
    have hset : r.set.allocate = false := hd
    rw [hv.expected, FetchAttrs.value]
    simp [hset, hd]
  · rw [hm.taken]
    exact AttrRequest.synced_value (.inr hm.not_has)
  · exact absurd hr' hr

/-- After both calls every attribute is as expected. -/
theorem fetchAgain_spec {s : FetchOut} (hr : ∀ r ∈ rs, ¬r.Refused tok) (hs : s.ret = Ckr.ok)
    (hattrs : s.attrs = rs.map (·.taken tok)) : (fetchAgain tok s).ret = Ckr.ok ∧
      (fetchAgain tok s).attrs.map (·.view) = rs.map (·.view tok) := by
  rw [fetchAgain, hattrs]
  by_cases hnil : (rs.map (·.taken tok)).filter (·.again) = []
  · rw [if_pos (.inr hnil), hattrs, List.map_map]
    refine ⟨hs, List.map_congr_left fun r hmem => FetchAttrs.view_eq (value_taken ?_ (hr r hmem))
      AttrRequest.taken_tag.1 AttrRequest.taken_tag.2⟩
    have hall := List.filter_eq_nil_iff.1 hnil _ (List.mem_map_of_mem hmem)
    simpa using hall
  · rw [if_neg (by simp [hs, hnil])]
    refine ⟨TokenAttrs.codeOf_eq_ok.2 fun c hc => ?_, ?_⟩
    · simp only [List.mem_map, List.mem_filter] at hc
      obtain ⟨_, ⟨_, ⟨⟨r, hmem, rfl⟩, hagain⟩, rfl⟩, rfl⟩ := hc
      exact (getOne_taken hagain (hr r hmem)).1
    · simp only [List.map_map]
      refine List.map_congr_left fun r hmem => ?_
      simp only [Function.comp_apply]
      by_cases hagain : (r.taken tok).again = true
      · rw [if_pos hagain]
        exact FetchAttrs.view_eq (getOne_taken hagain (hr r hmem)).2 AttrRequest.taken_tag.1
          AttrRequest.taken_tag.2
      · rw [if_neg hagain]
        exact FetchAttrs.view_eq (value_taken (by simpa using hagain) (hr r hmem))
          AttrRequest.taken_tag.1 AttrRequest.taken_tag.2

/-- What the strategy of one call leaves. -/
theorem oneShot_spec (errs : ErrStack) (hr : ∀ r ∈ rs, ¬r.Refused tok) {fs : List FetchAttrs}
    {q : List CkAttribute} (hfs : fs = rs.map (·.synced tok))
    (hq : q = rs.map fun r => (tok.getOne r.set.attr).2) :
    Raised errs (oneShot tok fs q errs).errs ∧ (oneShot tok fs q errs).returned = false ∧
      ((oneShot tok fs q errs).ret = Ckr.ok →
        (oneShot tok fs q errs).attrs.map (·.view) = rs.map (·.view tok) ∧
          ∀ r ∈ rs, r.required → ∃ v, r.Has tok v) ∧
      ((∀ r ∈ rs, ¬r.MemFails tok) → (∀ r ∈ rs, r.required → ¬r.Missing tok) →
        (oneShot tok fs q errs).ret = Ckr.ok) := by
  have hzip : fs.zip q = rs.map fun r => (r.synced tok, (tok.getOne r.set.attr).2) := by
    rw [hfs, hq, List.zip_map']
  obtain ⟨hraised, hret, hok, hconv⟩ := takeAll_spec errs hr hzip
  rw [oneShot]
  by_cases hs : (takeAll errs (fs.zip q)).ret = Ckr.ok
  · obtain ⟨hattrs, hreq⟩ := hok hs
    refine ⟨?_, ?_, fun _ => ⟨(fetchAgain_spec hr hs hattrs).2, hreq⟩,
      fun _ _ => (fetchAgain_spec hr hs hattrs).1⟩
    · rw [fetchAgain]
      split <;> exact hraised
    · rw [fetchAgain]
      split <;> exact hret
  · have he : fetchAgain tok (takeAll errs (fs.zip q)) = takeAll errs (fs.zip q) := if_pos (.inl hs)
    rw [he]
    exact ⟨hraised, hret, fun h => absurd h hs, hconv⟩

/-! ## One by one -/

theorem FetchAttrs.value_var (h : f.allocate = false) (q : CkAttribute) :
    ({ f with attr := q } : FetchAttrs).value = q.pValue := by simp [value, h]

/-- The call for a variable that may be left as it was. -/
theorem queryValue_var {l : List FetchAttrs} {rest : FetchOut} (ha : f.allocate = false)
    (hok : (tok.getOne f.attr).1 ≠ Ckr.ok → f.required = false) :
    queryValue tok f l errs rest = rest.cons { f with attr := (tok.getOne f.attr).2 } := by
  rw [queryValue, TokenAttrs.getAttributeValue_one]
  by_cases h : (tok.getOne f.attr).1 = Ckr.ok
  · simp [h]
  · simp [h, hok h, FetchAttrs.again, ha]

/-- What the loop does with an attribute: it leaves the function where a required one is refused, it
    ends where there is no memory, and else the attribute is as expected. -/
inductive OneStep (tok : TokenAttrs) (errs : ErrStack) (r : AttrRequest) (rest s : FetchOut) : Prop
  | returned (hreq : r.required = true) (hr : r.Refused tok) (h : s.returned = true)
      (hret : s.ret ≠ Ckr.ok) (he : s.errs = errs)
  | failed (hm : r.MemFails tok) (h : s.returned = false) (hret : s.ret ≠ Ckr.ok)
      (he : s.errs = errs.raise)
  | next (hreq : r.required = true → ¬r.Refused tok) (hm : ¬r.MemFails tok) (f : FetchAttrs)
      (hf : f.view = r.view tok) (h : s = rest.cons f)

/-- The call for a value that is there. -/
theorem queryValue_has {l : List FetchAttrs} {rest : FetchOut}
    (hv : tok.answer f.attr.type = .value v) {buf : Bytes} (hbuf : f.attr.pValue = some buf)
    (hle : v.length ≤ f.attr.ulValueLen) :
    queryValue tok f l errs rest = rest.cons { f with attr :=
      { f.attr with pValue := some (v ++ buf.drop v.length), ulValueLen := v.length } } := by
  have hone : tok.getOne f.attr = (Ckr.ok,
      { f.attr with pValue := some (v ++ buf.drop v.length), ulValueLen := v.length }) := by
    rw [TokenAttrs.getOne, hv]
    simp only [hbuf]
    exact if_pos hle
  rw [queryValue, TokenAttrs.getAttributeValue_one, hone]
  rfl

theorem oneByOne_step (tok : TokenAttrs) (errs : ErrStack) (r : AttrRequest) (rs : List AttrRequest) :
    OneStep tok errs r (oneByOne tok errs (rs.map (·.synced tok)))
      (oneByOne tok errs ((r :: rs).map (·.synced tok))) := by
  have hmem : Ckr.hostMemory ≠ Ckr.ok := by decide
  have hd : r.Describes tok (r.synced tok).attr := AttrRequest.describes_synced
  rw [List.map_cons, oneByOne]
  cases hdest : r.dest with
  | none =>
    have ha : (r.synced tok).allocate = true := by simp [AttrRequest.synced, AttrRequest.set, hdest]
    rw [if_pos ha, TokenAttrs.getAttributeValue_one]
    rcases r.cases tok with ⟨v, hv⟩ | hm | hr
    · have hlen : v.length ≠ ckUnavailableInformation := Nat.ne_of_lt (tok.short hv.1)
      rw [hd.getOne_has hv]
      simp only [List.headD_cons, ne_eq, not_true_eq_false, if_false, hlen]
      by_cases halloc : (!(r.synced tok).alloc) = true
      · rw [if_pos halloc]
        exact .failed ⟨hdest, by simpa [AttrRequest.synced, AttrRequest.set] using halloc, v, hv⟩ rfl
          hmem rfl
      · rw [if_neg halloc, queryValue_has hv.1 rfl (Nat.le_refl _)]
        refine .next (fun _ hr => hr.1 v hv) (fun hm => halloc ?_) _
          (FetchAttrs.view_eq ?_ rfl rfl) rfl
        · have := hm.2.1
          simpa [AttrRequest.synced, AttrRequest.set] using this
        · rw [hv.expected, FetchAttrs.value]
          simp [ha, AttrRequest.full, hdest]
    · rw [hd.getOne_missing hm]
      simp only [List.headD_cons, ne_eq, not_true_eq_false, if_false, if_true]
      refine .next (fun _ hr => hr.2 hm) (fun h => ?_) _ (FetchAttrs.view_eq ?_ rfl rfl) rfl
      · obtain ⟨-, -, v, hv⟩ := h
        exact hm.not_has v hv
      · rw [AttrRequest.expected_of_not_has hm.not_has, FetchAttrs.value]
        simp [AttrRequest.synced, hdest]
    · obtain ⟨hne, he⟩ := hd.getOne_refused hr
      simp only [List.headD_cons, if_pos hne]
      by_cases hreq : (r.synced tok).required = true
      · rw [if_pos hreq]
        exact .returned hreq hr rfl hne rfl
      · rw [if_neg hreq, he]
        refine .next (fun h => absurd h hreq) (fun h => ?_) _ (FetchAttrs.view_eq ?_ rfl rfl) rfl
        · obtain ⟨-, -, v, hv⟩ := h
          exact hr.1 v hv
        · rw [AttrRequest.expected_of_not_has hr.1, FetchAttrs.value]
          simp [AttrRequest.synced, hdest]
  | some b =>
    have ha : (r.synced tok).allocate = false := by simp [AttrRequest.synced, AttrRequest.set, hdest]
    have hnm : ¬r.MemFails tok := fun h => absurd (hdest.symm.trans h.1) (by simp)
    have hp : (r.synced tok).attr.pValue = r.expected tok := by simp [AttrRequest.synced, hdest]
    rw [if_neg (by simp [ha])]
    rcases r.cases tok with ⟨v, hv⟩ | hm | hr
    · rw [queryValue_var ha fun hne => absurd (by rw [hd.getOne_has hv]) hne, hd.getOne_has hv]
      refine .next (fun _ hr => hr.1 v hv) hnm _ (FetchAttrs.view_eq ?_ rfl rfl) rfl
      refine (FetchAttrs.value_var ha _).trans ?_
      simp [hv.expected, hdest]
    · rw [queryValue_var ha fun hne => absurd (by rw [hd.getOne_missing hm]) hne,
        hd.getOne_missing hm]
      refine .next (fun _ hr => hr.2 hm) hnm _ (FetchAttrs.view_eq ?_ rfl rfl) rfl
      exact (FetchAttrs.value_var ha _).trans hp
    · obtain ⟨hne, he⟩ := hd.getOne_refused hr
      by_cases hreq : (r.synced tok).required = true
      · rw [queryValue, TokenAttrs.getAttributeValue_one]
        simp only [if_pos hne, if_pos hreq]
        exact .returned hreq hr rfl hne rfl
      · rw [queryValue_var ha fun _ => by simpa using hreq, he]
        refine .next (fun h => absurd h hreq) hnm _ (FetchAttrs.view_eq ?_ rfl rfl) rfl
        exact (FetchAttrs.value_var ha _).trans hp

/-- What the loop leaves. -/
structure OneByOneSpec (tok : TokenAttrs) (errs : ErrStack) (rs : List AttrRequest) (s : FetchOut) :
    Prop where
  ok : s.ret = Ckr.ok ↔ (∀ r ∈ rs, ¬r.MemFails tok) ∧ ∀ r ∈ rs, r.required → ¬r.Refused tok
  values : s.ret = Ckr.ok → s.attrs.map (·.view) = rs.map (·.view tok)
  returned : s.returned = true ↔ ∃ before r after, rs = before ++ r :: after ∧ r.required ∧
    r.Refused tok ∧ ∀ p ∈ before, ¬p.MemFails tok
  errs_returned : s.returned = true → s.ret ≠ Ckr.ok ∧ s.errs = errs
  errs : Raised errs s.errs

theorem oneByOne_spec (tok : TokenAttrs) (errs : ErrStack) (rs : List AttrRequest) :
    OneByOneSpec tok errs rs (oneByOne tok errs (rs.map (·.synced tok))) := by
  induction rs with
  | nil =>
    refine ⟨by simp [oneByOne], fun _ => rfl, ⟨fun h => (by cases h), ?_⟩, fun h => (by cases h),
      .refl⟩
    rintro ⟨before, r, after, h, -⟩
    simp at h
  | cons r rs ih =>
    cases oneByOne_step tok errs r rs with
    | returned hreq hr h hret he =>
      refine ⟨⟨fun h => absurd h hret, fun hall => ?_⟩, fun h => absurd h hret,
        ⟨fun _ => ?_, fun _ => h⟩, fun _ => ⟨hret, he⟩, by rw [he]; exact .refl⟩
      · exact absurd hr (hall.2 r List.mem_cons_self hreq)
      · exact ⟨[], r, rs, rfl, hreq, hr, by simp⟩
    | failed hm h hret he =>
      refine ⟨⟨fun h => absurd h hret, fun hall => ?_⟩, fun h => absurd h hret, ⟨fun h' => ?_, ?_⟩,
        fun h' => ?_, by rw [he]; exact .raise⟩
      · exact absurd hm (hall.1 r List.mem_cons_self)
      · rw [h] at h'
        cases h'
      · rintro ⟨before, r', after, hrs, -, hr', hb⟩
        rcases before with _ | ⟨p, before⟩
        · rw [List.nil_append, List.cons.injEq] at hrs
          obtain ⟨v, hv⟩ := hm.2.2
          rw [hrs.1] at hv
          exact absurd hv (hr'.1 v)
        · rw [List.cons_append, List.cons.injEq] at hrs
          rw [hrs.1] at hm
          exact absurd hm (hb p List.mem_cons_self)
      · rw [h] at h'
        cases h'
    | next hreq hm f hf h =>
      rw [h]
      refine ⟨?_, fun hret => ?_, ?_, ih.errs_returned, ih.errs⟩
      · refine Iff.trans ih.ok ?_
        simp only [List.forall_mem_cons]
        exact ⟨fun h => ⟨⟨hm, h.1⟩, hreq, h.2⟩, fun h => ⟨h.1.2, h.2.2⟩⟩
      · rw [List.map_cons, ← hf, ← ih.values hret]
        rfl
      · refine Iff.trans ih.returned ⟨?_, ?_⟩
        · rintro ⟨before, r', after, rfl, hreq', hr', hb⟩
          exact ⟨r :: before, r', after, rfl, hreq', hr', List.forall_mem_cons.2 ⟨hm, hb⟩⟩
        · rintro ⟨before, r', after, hrs, hreq', hr', hb⟩
          rcases before with _ | ⟨p, before⟩
          · rw [List.nil_append, List.cons.injEq] at hrs
            rw [← hrs.1] at hreq' hr'
            exact absurd hr' (hreq hreq')
          · rw [List.cons_append, List.cons.injEq] at hrs
            exact ⟨before, r', after, hrs.2, hreq', hr', (List.forall_mem_cons.1 hb).2⟩

/-! ## The function -/

namespace ErrStack

/-- With the mark of the function on it, the stack loses exactly this mark. -/
theorem marks_clearLastMark {errs' : ErrStack} (h : Raised errs.setMark errs') :
    errs'.clearLastMark.marks = errs.marks := by
  obtain ⟨n, rfl⟩ := h
  induction n with
  | zero => cases errs <;> rfl
  | succ n ih =>
    rw [List.replicate_succ, List.cons_append, clearLastMark]
    simpa [marks] using ih

theorem marks_popToMark {errs' : ErrStack} (h : Raised errs.setMark errs') :
    errs'.popToMark.marks = errs.marks := by
  obtain ⟨n, rfl⟩ := h
  induction n with
  | zero => cases errs <;> rfl
  | succ n ih =>
    rw [List.replicate_succ, List.cons_append, popToMark]
    exact ih

end ErrStack

theorem exit_marks {s : FetchOut} (h : s.returned = false) (he : Raised errs.setMark s.errs) :
    s.exit.errs.marks = errs.marks := by
  rw [FetchOut.exit, h]
  simp only [Bool.false_eq_true, if_false]
  split
  · exact ErrStack.marks_popToMark he
  · exact ErrStack.marks_clearLastMark he

theorem exit_ret {s : FetchOut} : s.exit.ret = s.ret ∧ s.exit.attrs = s.attrs := by
  rw [FetchOut.exit]
  repeat' split
  all_goals exact ⟨rfl, rfl⟩

theorem getAttributeValue_set : tok.getAttributeValue (rs.map (·.set.attr)) =
    ((tok.getAttributeValue (rs.map (·.set.attr))).1, rs.map fun r => (tok.getOne r.set.attr).2) := by
  rw [TokenAttrs.getAttributeValue, List.map_map, List.map_map]
  rfl

theorem code_eq_ok : (tok.getAttributeValue (rs.map (·.set.attr))).1 = Ckr.ok ↔
    ∀ r ∈ rs, ¬r.Refused tok := by
  rw [TokenAttrs.getAttributeValue, TokenAttrs.codeOf_eq_ok]
  simp only [List.map_map, List.forall_mem_map, Function.comp_apply]
  exact forall₂_congr fun r _ => AttrRequest.describes_set.getOne_ok

/-- The function, by what the call for all attributes returns. -/
theorem fetchAttributes_eq : fetchAttributes tok (rs.map (·.set)) errs =
    if (tok.getAttributeValue (rs.map (·.set.attr))).1 = Ckr.ok then
      (oneShot tok (rs.map (·.synced tok)) (rs.map fun r => (tok.getOne r.set.attr).2)
        errs.setMark).exit
    else if 1 < rs.length ∧
        ((tok.getAttributeValue (rs.map (·.set.attr))).1 = Ckr.attributeSensitive ∨
          (tok.getAttributeValue (rs.map (·.set.attr))).1 = Ckr.attributeTypeInvalid) then
      (oneByOne tok errs.setMark (rs.map (·.synced tok))).exit
    else FetchOut.exit { ret := (tok.getAttributeValue (rs.map (·.set.attr))).1
                         attrs := rs.map (·.synced tok), errs := errs.setMark } := by
  have hq : (tok.getAttributeValue (rs.map (·.set.attr))).2 =
      rs.map fun r => (tok.getOne r.set.attr).2 := congrArg Prod.snd getAttributeValue_set
  have hsync := zipWith_sync tok rs
  rw [hq] at hsync
  have hmap : (rs.map (·.set)).map (·.attr) = rs.map (·.set.attr) := by rw [List.map_map]; rfl
  simp only [fetchAttributes, hmap, hq, hsync, List.length_map]

theorem asksOneByOne_iff : AsksOneByOne tok rs ↔ 1 < rs.length ∧
    ((tok.getAttributeValue (rs.map (·.set.attr))).1 = Ckr.attributeSensitive ∨
      (tok.getAttributeValue (rs.map (·.set.attr))).1 = Ckr.attributeTypeInvalid) := by
  simp [AsksOneByOne]

/-- One by one the function does as it should exactly if no required attribute is refused before
    the memory runs out, and none is missing unless it runs out. -/
theorem oneByOne_right_iff :
    ((∀ errs : ErrStack,
        (oneByOne tok errs.setMark (rs.map (·.synced tok))).exit.errs.marks = errs.marks) ∧
      ((∀ r ∈ rs, ¬r.MemFails tok) → (∀ r ∈ rs, r.required → ¬r.Refused tok) →
        ∀ r ∈ rs, r.required → ∃ v, r.Has tok v)) ↔ OneByOneFits tok rs := by
  have hspec (errs : ErrStack) := oneByOne_spec tok errs rs
  constructor
  · rintro ⟨hmarks, hhas⟩
    -- a required attribute that is refused first leaves a mark
    have hret : (oneByOne tok (ErrStack.setMark [0]) (rs.map (·.synced tok))).returned = false := by
      by_contra hret
      rw [Bool.not_eq_false] at hret
      have he := hmarks [0]
      rw [FetchOut.exit, hret, if_pos rfl, ((hspec _).errs_returned hret).2] at he
      cases he
    have hrefused : ∀ before r after, rs = before ++ r :: after → r.required → r.Refused tok →
        ∃ p ∈ before, p.MemFails tok := by
      intro before r after hrs hreq hr
      by_contra hno
      rw [not_exists] at hno
      have hb : ∀ p ∈ before, ¬p.MemFails tok := fun p hp hm => hno p ⟨hp, hm⟩
      have htrue := (hspec (ErrStack.setMark [0])).returned.2 ⟨before, r, after, hrs, hreq, hr, hb⟩
      rw [hret] at htrue
      cases htrue
    refine ⟨hrefused, fun r hmem hreq hm => ?_⟩
    by_contra hno
    rw [not_exists] at hno
    have hmemory : ∀ p ∈ rs, ¬p.MemFails tok := fun p hp h => hno p ⟨hp, h⟩
    have hall : ∀ r ∈ rs, r.required → ¬r.Refused tok := by
      intro r' hr' hreq' href
      obtain ⟨before, after, hrs⟩ := List.append_of_mem hr'
      obtain ⟨p, hp, hpm⟩ := hrefused before r' after hrs hreq' href
      exact hmemory p (hrs ▸ List.mem_append_left _ hp) hpm
    obtain ⟨v, hv⟩ := hhas hmemory hall r hmem hreq
    exact hm.not_has v hv
  · rintro ⟨hrefused, hmissing⟩
    refine ⟨fun errs => ?_, fun hmemory hall r hmem hreq => ?_⟩
    · have hret : (oneByOne tok errs.setMark (rs.map (·.synced tok))).returned = false := by
        by_contra hret
        rw [Bool.not_eq_false] at hret
        obtain ⟨before, r, after, hrs, hreq, hr, hb⟩ := (hspec _).returned.1 hret
        obtain ⟨p, hp, hpm⟩ := hrefused before r after hrs hreq hr
        exact hb p hp hpm
      exact exit_marks hret (hspec _).errs
    · rcases r.cases tok with hv | hm | hr
      · exact hv
      · obtain ⟨p, hp, hpm⟩ := hmissing r hmem hreq hm
        exact absurd hpm (hmemory p hp)
      · exact absurd hr (hall r hmem hreq)

/-- Both strategies come to what is expected. -/
theorem strategies_same {fs : List FetchAttrs} {q : List CkAttribute}
    (h : tok.getAttributeValue (rs.map (·.set.attr)) = (Ckr.ok, q))
    (hfs : fs = (rs.map (·.set)).zipWith FetchAttrs.sync q)
    (hone : (oneShot tok fs q errs).ret = Ckr.ok) (hby : (oneByOne tok errs fs).ret = Ckr.ok) :
    (oneShot tok fs q errs).attrs.map (·.value) = (oneByOne tok errs fs).attrs.map (·.value) := by
  have hr : ∀ r ∈ rs, ¬r.Refused tok := code_eq_ok.1 (congrArg Prod.fst h)
  have hq : q = rs.map fun r => (tok.getOne r.set.attr).2 := by
    rw [getAttributeValue_set] at h
    exact (congrArg Prod.snd h).symm
  have hsync : fs = rs.map (·.synced tok) := by
    rw [hfs, ← zipWith_sync tok rs, h]
  have hspec := oneByOne_spec tok errs rs
  rw [values_of_views ((oneShot_spec errs hr hsync hq).2.2.1 hone).1]
  rw [hsync] at hby ⊢
  rw [values_of_views (hspec.values hby)]

/-- The contract is kept exactly if, where the function asks one by one, no required attribute is
    refused before the memory runs out, and none is missing unless it runs out. -/
theorem fetchesRight_iff : FetchesRight tok rs ↔ (AsksOneByOne tok rs → OneByOneFits tok rs) := by
  have hspec (errs : ErrStack) := oneByOne_spec tok errs rs
  by_cases hok : (tok.getAttributeValue (rs.map (·.set.attr))).1 = Ckr.ok
  · -- one call is enough
    have hnot : ¬AsksOneByOne tok rs := by
      rw [AsksOneByOne, hok]
      exact fun h => absurd h.2 (by decide)
    refine iff_of_true ⟨fun errs => ?_, fun fs q errs => strategies_same, fun errs => ?_⟩
      (fun h => absurd h hnot)
    all_goals
      rw [fetchAttributes_eq, if_pos hok]
      obtain ⟨hraised, hret, hval, -⟩ := oneShot_spec errs.setMark (code_eq_ok.1 hok) rfl rfl
    · rw [exit_ret.1, exit_ret.2]
      exact fun hret => (hval hret).imp_left values_of_views
    · exact exit_marks hret hraised
  · by_cases hby : AsksOneByOne tok rs
    · have heq (errs : ErrStack) : fetchAttributes tok (rs.map (·.set)) errs =
          (oneByOne tok errs.setMark (rs.map (·.synced tok))).exit := by
        rw [fetchAttributes_eq, if_neg hok, if_pos (asksOneByOne_iff.1 hby)]
      rw [← oneByOne_right_iff]
      constructor
      · rintro ⟨hval, -, hmarks⟩ _
        refine ⟨fun errs => by rw [← heq]; exact hmarks errs, fun hmemory hall => ?_⟩
        refine (hval [] ?_).2
        rw [heq, exit_ret.1]
        exact (hspec _).ok.2 ⟨hmemory, hall⟩
      · intro h
        obtain ⟨hmarks, hhas⟩ := h hby
        refine ⟨fun errs => ?_, fun fs q errs => strategies_same, fun errs => by
          rw [heq]; exact hmarks errs⟩
        rw [heq, exit_ret.1, exit_ret.2]
        intro hret
        obtain ⟨hmemory, hall⟩ := (hspec _).ok.1 hret
        exact ⟨values_of_views ((hspec _).values hret), hhas hmemory hall⟩
    · -- the error is returned
      refine iff_of_true ⟨fun errs => ?_, fun fs q errs => strategies_same, fun errs => ?_⟩
        (fun h => absurd h hby)
      all_goals rw [fetchAttributes_eq, if_neg hok, if_neg (asksOneByOne_iff.not.1 hby)]
      · rw [exit_ret.1]
        exact fun h => absurd h hok
      · exact exit_marks rfl .refl

/-- After success a caller sees the expected values, whichever way they were asked for. -/
theorem fetchAttributes_views (h : (fetchAttributes tok (rs.map (·.set)) errs).ret = Ckr.ok) :
    (fetchAttributes tok (rs.map (·.set)) errs).attrs.map (·.view) = rs.map (·.view tok) := by
  rw [fetchAttributes_eq] at h ⊢
  split at h
  · rename_i hok
    rw [if_pos hok, exit_ret.2]
    rw [exit_ret.1] at h
    exact ((oneShot_spec _ (code_eq_ok.1 hok) rfl rfl).2.2.1 h).1
  · rename_i hok
    rw [if_neg hok]
    split at h
    · rename_i hby
      rw [if_pos hby, exit_ret.2]
      rw [exit_ret.1] at h
      exact (oneByOne_spec tok _ rs).values h
    · rw [exit_ret.1] at h
      exact absurd h hok

/-- The token returns what is asked for: it has all that is required, or else it knows all of that
    and refuses something optional in a way that makes the function ask one by one. -/
inductive TokenAttrs.Returns (tok : TokenAttrs) (rs : List AttrRequest) : Prop
  | all (hrefused : ∀ r ∈ rs, ¬r.Refused tok) (hmissing : ∀ r ∈ rs, r.required → ¬r.Missing tok)
  | oneByOne (hasks : AsksOneByOne tok rs) (hrefused : ∀ r ∈ rs, r.required → ¬r.Refused tok)

/-- While there is memory, success is up to the token. -/
theorem fetchAttributes_ok_iff (hm : ∀ r ∈ rs, ¬r.MemFails tok) :
    (fetchAttributes tok (rs.map (·.set)) errs).ret = Ckr.ok ↔ tok.Returns rs := by
  have hcode : (tok.getAttributeValue (rs.map (·.set.attr))).1 = Ckr.ok ↔ ∀ r ∈ rs, ¬r.Refused tok :=
    code_eq_ok
  rw [fetchAttributes_eq]
  split
  · rename_i hok
    obtain ⟨-, -, hval, hconv⟩ := oneShot_spec errs.setMark (hcode.1 hok) rfl rfl
    rw [exit_ret.1]
    constructor
    · intro h
      refine .all (hcode.1 hok) fun r hr hreq hmissing => ?_
      obtain ⟨v, hv⟩ := (hval h).2 r hr hreq
      exact hmissing.not_has v hv
    · rintro (⟨-, hmissing⟩ | ⟨hasks, -⟩)
      · exact hconv hm hmissing
      · rw [AsksOneByOne, hok] at hasks
        exact absurd hasks.2 (by decide)
  · rename_i hok
    have hnot : ¬∀ r ∈ rs, ¬r.Refused tok := fun h => hok (hcode.2 h)
    split
    · rename_i hby
      rw [exit_ret.1, (oneByOne_spec tok _ rs).ok]
      constructor
      · exact fun h => .oneByOne (asksOneByOne_iff.2 hby) h.2
      · rintro (⟨hrefused, -⟩ | ⟨-, hrefused⟩)
        · exact absurd hrefused hnot
        · exact ⟨hm, hrefused⟩
    · rename_i hby
      rw [exit_ret.1]
      refine iff_of_false hok ?_
      rintro (⟨hrefused, -⟩ | ⟨hasks, -⟩)
      · exact hnot hrefused
      · exact hby (asksOneByOne_iff.1 hasks)

/-- The codes that there are. -/
def fetchCodes : List CkRv :=
  [Ckr.ok, Ckr.bufferTooSmall, Ckr.attributeSensitive, Ckr.attributeTypeInvalid, Ckr.generalError,
    Ckr.hostMemory]

theorem getOne_mem : (tok.getOne a).1 ∈ fetchCodes := by
  rw [TokenAttrs.getOne]
  repeat' split
  all_goals simp [fetchCodes]

theorem getAttributeValue_mem {template : List CkAttribute} :
    (tok.getAttributeValue template).1 ∈ fetchCodes := by
  rw [TokenAttrs.getAttributeValue, TokenAttrs.codeOf]
  simp only
  split
  · exact List.mem_cons_self
  · rename_i hne
    have hpick := (List.mem_filter.1 (tok.pick_mem hne)).1
    obtain ⟨a, -, ha⟩ := List.mem_map.1 hpick
    rw [← ha]
    exact getOne_mem

theorem takeAll_mem {l : List (FetchAttrs × CkAttribute)} : (takeAll errs l).ret ∈ fetchCodes := by
  induction l with
  | nil => exact List.mem_cons_self
  | cons x l ih =>
    rw [takeAll]
    repeat' split
    all_goals first | exact ih | simp [fetchCodes]

theorem oneByOne_mem {fs : List FetchAttrs} : (oneByOne tok errs fs).ret ∈ fetchCodes := by
  have hquery {f : FetchAttrs} {l : List FetchAttrs} {rest : FetchOut} (h : rest.ret ∈ fetchCodes) :
      (queryValue tok f l errs rest).ret ∈ fetchCodes := by
    rw [queryValue]
    simp only
    repeat' split
    all_goals first | exact getAttributeValue_mem | exact h
  induction fs with
  | nil => exact List.mem_cons_self
  | cons f fs ih =>
    rw [oneByOne]
    simp only
    repeat' split
    all_goals first | exact getAttributeValue_mem | exact ih | exact hquery ih | simp [fetchCodes]

theorem fetchAttributes_mem {fs : List FetchAttrs} :
    (fetchAttributes tok fs errs).ret ∈ fetchCodes := by
  rw [fetchAttributes]
  simp only
  split
  · rw [exit_ret.1, oneShot, fetchAgain]
    split
    · exact takeAll_mem
    · exact getAttributeValue_mem
  split
  · rw [exit_ret.1]
    exact oneByOne_mem
  · rw [exit_ret.1]
    exact getAttributeValue_mem

theorem moveAllocAttrs_eq (h : (fetchAttributes tok (rs.map (·.set)) errs).ret = Ckr.ok) :
    (fetchAttributes tok (rs.map (·.set)) errs).moveAllocAttrs =
      rs.filterMap fun r => if r.dest.isNone then (r.expected tok).map (r.type, ·) else none := by
  rw [FetchOut.moveAllocAttrs, fetchAttributes_views h, List.filterMap_map]
  rfl

/-- A variable holds what is expected of the first request for it. -/
theorem var_eq {before after : List AttrRequest} (hrs : rs = before ++ r :: after)
    (h : (fetchAttributes tok (rs.map (·.set)) errs).ret = Ckr.ok) (hd : r.dest.isSome = true)
    (hfirst : ∀ r' ∈ before, r'.type ≠ r.type) :
    (fetchAttributes tok (rs.map (·.set)) errs).var r.type = r.expected tok := by
  rw [FetchOut.var, fetchAttributes_views h, hrs, List.map_append, List.find?_append]
  have hnone : (before.map (·.view tok)).find? (fun x => x.1 = r.type && !x.2.1) = none := by
    rw [List.find?_eq_none]
    intro x hx
    obtain ⟨r', hr', rfl⟩ := List.mem_map.1 hx
    simp [AttrRequest.view, hfirst r' hr']
  have hview : (r.view tok).1 = r.type ∧ (r.view tok).2.1 = false := by
    rw [Option.isSome_iff_exists] at hd
    obtain ⟨b, hb⟩ := hd
    simp [AttrRequest.view, hb]
  rw [hnone, Option.none_or, List.map_cons, List.find?_cons_of_pos (by simp [hview])]
  rfl

/-- A token that does not know the attribute 1, and has a value for all others. -/
def attrsButOne : TokenAttrs where
  answer type := if type = 1 then .typeInvalid else .value [7]
  short {type v} h := by
    split at h
    · cases h
    · cases h
      decide
  pick codes := codes.headD Ckr.ok
  pick_mem {codes} h := by
    cases codes with
    | nil => exact absurd rfl h
    | cons c codes => exact List.mem_cons_self

/-- The required attribute is refused, and the mark of the function stays on the stack. -/
theorem not_fetchesRight_refused : ¬FetchesRight attrsButOne
    [{ type := 1, required := true }, { type := 2, required := false }] := fun h =>
  absurd (h.marks [0]) (by decide)

end P11Prov
