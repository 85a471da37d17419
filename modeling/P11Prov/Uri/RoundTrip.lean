import Mathlib.Data.List.TakeWhile
import P11Prov.Run
import P11Prov.Uri

/-!
# Reading back the URI of an object

The URI of an object, parsed, gives the id, the label and the class of the
object and the fields of its token that are not empty, and nothing else
(`parse_objToUri`). The writer escapes byte by byte and the parser cuts at the
delimiters before it unescapes, so the argument goes component by component:
no delimiter is left in a written component (`delimFree_encode`), hence the
parser reads exactly what was written (`parseRest_component`).

The text is formatted with `int` lengths. It comes out whole if it is shorter
than `INT_MAX`, and not at all otherwise (`objToUri_eq`).
-/

namespace P11Prov

open Percent

/-- No byte of the text is a delimiter. -/
def DelimFree (s : Bytes) : Prop := ∀ c ∈ s, isUriDelim c = false

instance (s : Bytes) : Decidable (DelimFree s) := List.decidableBAll _ s

theorem DelimFree.append {s t : Bytes} (hs : DelimFree s) (ht : DelimFree t) : DelimFree (s ++ t) := by
  intro c hc
  rcases List.mem_append.1 hc with h | h
  · exact hs c h
  · exact ht c h

/-! ## One component -/

theorem delimFree_encode (bin : Bool) (val : Bytes) : DelimFree (encode (escapes bin) val) := by
  intro c hc
  by_contra h
  have hd : c = 0x3B ∨ c = 0x3F ∨ c = 0x26 := by
    rw [Bool.not_eq_false, isUriDelim, decide_eq_true_eq] at h
    exact h
  rcases hd with rfl | rfl | rfl
  all_goals exact not_mem_encode (by simp [escapes]) (by decide) (by decide) val hc

theorem parseAttr_encode (bin : Bool) (val : Bytes) :
    parseAttr (encode (escapes bin) val) = .ok val := by
  have h : escapes bin mark := by simp [escapes, mark]
  rw [parseAttr, decode_encode h]

theorem parseUtf8str_encode (bin : Bool) {val : Bytes} (h : 0 ∉ val) :
    parseUtf8str (encode (escapes bin) val) = .ok val := by
  rw [parseUtf8str, parseAttr_encode]
  exact if_neg h

/-- The part of `p11prov_parse_uri` after the scheme. -/
def parseRest (files : PinFiles) (u : Uri) (s : Bytes) : Except Errno Uri :=
  (s.splitOnP isUriDelim).foldlM (parseComponent files) u

theorem parseRest_last (files : PinFiles) (u : Uri) {s : Bytes} (h : DelimFree s) :
    parseRest files u s = parseComponent files u s := by
  rw [parseRest, List.splitOnP_eq_singleton h, List.foldlM_cons]
  exact bind_pure _

/-- A component is parsed on its own: the next delimiter is the one it ends with. -/
theorem parseRest_component (files : PinFiles) (u : Uri) {name : Bytes} (hname : DelimFree name)
    (val rest : Bytes) :
    parseRest files u (uriComponent name val ++ rest) =
      parseComponent files u (name ++ 0x3D :: encode (escapes (name.length == 2)) val) >>=
        (parseRest files · rest) := by
  have h : DelimFree (name ++ 0x3D :: encode (escapes (name.length == 2)) val) :=
    hname.append (.append (s := [0x3D]) (by decide) (delimFree_encode _ val))
  have e : uriComponent name val ++ rest =
      name ++ 0x3D :: encode (escapes (name.length == 2)) val ++ 0x3B :: rest := by
    simp [uriComponent]
  rw [e, parseRest, List.splitOnP_append_cons_of_forall_mem h _ rfl, List.foldlM_cons]
  rfl

/-- A component that is left out if it is empty leads to `u'`, if it does so where it is
    written and nothing has to be done where it is not. -/
theorem parseRest_component? {files : PinFiles} {u u' : Uri} {name val : Bytes}
    (hname : DelimFree name) (hempty : val = [] → u' = u)
    (hval : val ≠ [] → parseComponent files u
      (name ++ 0x3D :: encode (escapes (name.length == 2)) val) = .ok u') (rest : Bytes) :
    parseRest files u (uriComponent? name val ++ rest) = parseRest files u' rest := by
  cases val with
  | nil => rw [hempty rfl]; rfl
  | cons c val =>
    rw [uriComponent?, if_neg (by simp), parseRest_component files u hname, hval (by simp)]
    rfl

/-! ## What a URI says -/

/-- A value, unless it is empty. -/
def nonEmpty (val : Bytes) : Option Bytes := if val = [] then none else some val

/-- What the URI of an object on a slot is to say: the fields of the token, the id and the
    label as far as they are not empty, and the class. -/
def Obj.uriFields (obj : Obj) (slot : Slot) : Uri where
  model := nonEmpty (cString 16 slot.model)
  manufacturer := nonEmpty (cString 32 slot.manufacturer)
  serial := nonEmpty (cString 16 slot.serialNumber)
  token := nonEmpty (cString 32 slot.label)
  id := nonEmpty ((obj.getAttr ckaId).getD [])
  object := nonEmpty ((obj.getAttr ckaLabel).getD [])
  type := obj.cls

theorem zero_not_mem_cString (n : Nat) (a : Bytes) : 0 ∉ cString n a := by
  intro h
  simpa using List.mem_takeWhile_imp h

theorem cString_cString (n : Nat) (a : Bytes) : cString n (cString n a) = cString n a := by
  have hlen : (cString n a).length ≤ n :=
    ( List.takeWhile_prefix _).length_le.trans (by simp)
  rw [cString, List.take_of_length_le hlen, cString, List.takeWhile_idem]

/-- A component whose handler parses with `parse` and assigns with `set`. -/
theorem parse_field {files : PinFiles} {u : Uri} {val : Bytes} (name : Bytes)
    (parse : Bytes → Except Errno Bytes) (set : Option Bytes → Uri → Uri) (hname : DelimFree name)
    (hmap : ∀ str, parseComponent files u (name ++ 0x3D :: str) =
      (fun out => set (some out) u) <$> parse str)
    (hparse : parse (encode (escapes (name.length == 2)) val) = .ok val) (hu : set none u = u)
    (rest : Bytes) :
    parseRest files u (uriComponent? name val ++ rest) =
      parseRest files (set (nonEmpty val) u) rest := by
  refine parseRest_component? hname ?_ ?_ rest
  · rintro rfl
    exact hu
  · intro hv
    rw [hmap, hparse, nonEmpty, if_neg hv]
    rfl

/-- The name of a class is read as the class; no delimiter and no zero byte is in it. -/
theorem parseClass_uriType {cls : Nat} {type : Bytes} (h : uriType cls = some type) :
    parseClass type = .ok cls ∧ DelimFree type ∧ 0 ∉ type := by
  unfold uriType at h
  repeat' split at h
  case isFalse => cases h
  all_goals
    rename_i hc
    obtain rfl := Option.some.inj h
    rw [hc]
    exact ⟨by decide +kernel, by decide, by decide⟩

theorem parse_type {files : PinFiles} {u : Uri} {cls : Nat} {type : Bytes}
    (h : uriType cls = some type) :
    parseRest files u (ascii "type=" ++ type) = .ok { u with type := cls } := by
  obtain ⟨hparse, hdelim, -⟩ := parseClass_uriType h
  rw [parseRest_last _ _ (.append (by decide) hdelim)]
  have hmap : parseComponent files u (ascii "type=" ++ type) =
      (fun c => { u with type := c }) <$> parseClass type := rfl
  rw [hmap, hparse]
  rfl

/-- What was written after the scheme is read back. -/
theorem parseRest_uriText (files : PinFiles) {obj : Obj} (slot : Slot) {type : Bytes}
    (htype : uriType obj.cls = some type) (hlabel : 0 ∉ (obj.getAttr ckaLabel).getD []) :
    parseRest files {} ((obj.uriComponents slot).flatten ++ (ascii "type=" ++ type)) =
      .ok (obj.uriFields slot) := by
  simp only [Obj.uriComponents, List.flatten_cons, List.flatten_nil, List.append_nil,
    List.append_assoc]
  have hz := zero_not_mem_cString
  rw [parse_field (ascii "model") parseUtf8str (fun v u => { u with model := v }) (by decide)
      (fun _ => rfl) (parseUtf8str_encode _ (hz _ _)) rfl,
    parse_field (ascii "manufacturer") parseUtf8str (fun v u => { u with manufacturer := v })
      (by decide) (fun _ => rfl) (parseUtf8str_encode _ (hz _ _)) rfl,
    parse_field (ascii "serial") parseUtf8str (fun v u => { u with serial := v }) (by decide)
      (fun _ => rfl) (parseUtf8str_encode _ (hz _ _)) rfl,
    parse_field (ascii "token") parseUtf8str (fun v u => { u with token := v }) (by decide)
      (fun _ => rfl) (parseUtf8str_encode _ (hz _ _)) rfl,
    parse_field (ascii "id") parseAttr (fun v u => { u with id := v }) (by decide)
      (fun _ => rfl) (parseAttr_encode _ _) rfl,
    parse_field (ascii "object") parseUtf8str (fun v u => { u with object := v }) (by decide)
      (fun _ => rfl) (parseUtf8str_encode _ hlabel) rfl,
    parse_type htype]
  rfl

/-- The slot of the object is among those that its URI matches. -/
theorem matchToken_uriFields (obj : Obj) (slot : Slot) :
    (obj.uriFields slot).matchToken slot = Ckr.ok := by
  have h : ∀ n a, uriMatch n (nonEmpty (cString n a)) a = true := by
    intro n a
    unfold nonEmpty
    split
    · rfl
    · simp [uriMatch, strncmpEq, cString_cString]
  have h' : ∀ n a, uriMatch n none a = true := fun _ _ => rfl
  simp [Uri.matchToken, Obj.uriFields, h, h']

/-! ## The text -/

theorem toInt_le (n : Int) : toInt n ≤ intMax := by
  have h := Int.bmod_lt (x := n) (m := 0x100000000) (by decide)
  unfold toInt intMax
  omega

theorem toInt_of_le {n : Nat} (h : n ≤ intMax) : toInt n = n := by
  unfold intMax at h
  rw [toInt, Int.bmod_eq_of_le] <;> omega

/-- A text comes out whole if it is shorter than `INT_MAX`, whatever the size hint: a hint
    that is too small is corrected for the second attempt. -/
theorem allocSprintf_eq {sizeHint : Int} (hint : sizeHint ≤ intMax) (text : Bytes) :
    allocSprintf sizeHint text = if text.length < intMax then some text else none := by
  unfold allocSprintf
  by_cases h : text.length < intMax
  · have hret : vsnprintf text = text.length := if_pos h.le
    have hnext : toInt (text.length + 1) = text.length + 1 := toInt_of_le (n := text.length + 1) h
    simp only [sprintfAttempts, hret, hnext, if_pos h]
    split
    · rw [if_neg (by omega), if_neg (by omega)]
    · rw [if_neg (by omega)]
  · rw [if_neg h]
    by_cases he : text.length = intMax
    · -- the next size hint is past the range
      have hret : vsnprintf text = intMax := by rw [vsnprintf, if_pos he.le, he]
      have hnext : toInt (intMax + 1) ≤ intMax := toInt_le _
      simp only [sprintfAttempts, hret, if_pos hint, if_pos hnext]
    · have hret : vsnprintf text = -1 := if_neg (by omega)
      have hnext : toInt (-1 + 1) = 0 := rfl
      simp only [sprintfAttempts, hret, hnext]
      split <;> rfl

theorem objToUri_eq {ctx : Ctx} {obj : Obj} {slot : Slot} {type : Bytes}
    (hslot : ctx.getSlotById obj.slotid = some slot) (htype : uriType obj.cls = some type) :
    objToUri ctx obj =
      if (obj.uriText slot type).length < intMax then some (obj.uriText slot type) else none := by
  simp only [objToUri, htype, hslot, Option.bind_eq_bind, Option.bind_some]
  exact allocSprintf_eq (toInt_le _) _

theorem zero_not_mem_uriComponent? {name : Bytes} (hname : 0 ∉ name) (val : Bytes) :
    0 ∉ uriComponent? name val := by
  unfold uriComponent?
  split
  · simp
  · have h : 0 ∉ encode (escapes (name.length == 2)) val :=
      not_mem_encode (by simp [escapes]) (by decide) (by decide) val
    simp [uriComponent, hname, h]

/-- The text is a C string: no zero byte is in it. -/
theorem zero_not_mem_uriText {obj : Obj} {slot : Slot} {type : Bytes}
    (htype : uriType obj.cls = some type) : 0 ∉ obj.uriText slot type := by
  have h := fun name (hname : 0 ∉ name) => zero_not_mem_uriComponent? hname
  have htype' := (parseClass_uriType htype).2.2
  have hascii : 0 ∉ ascii "pkcs11:" ∧ 0 ∉ ascii "type=" := by decide
  simp only [Obj.uriText, Obj.uriComponents, List.flatten_cons, List.flatten_nil, List.append_nil,
    List.mem_append, not_or]
  refine ⟨⟨⟨hascii.1, ?_, ?_, ?_, ?_, ?_, ?_⟩, hascii.2⟩, htype'⟩
  all_goals exact h _ (by decide) _

/-- The URI of an object, parsed, says what it is to say, and matches the slot of the object:
    if the URI is shorter than `INT_MAX`. -/
theorem parse_objToUri {ctx : Ctx} {obj : Obj} {slot : Slot}
    (hslot : ctx.getSlotById obj.slotid = some slot)
    (hcls : obj.cls ∈ [Cko.data, Cko.certificate, Cko.publicKey, Cko.privateKey, Cko.secretKey])
    (hlabel : ∀ label, obj.getAttr ckaLabel = some label → 0 ∉ label)
    (hlen : (obj.uriText slot ((uriType obj.cls).getD [])).length < intMax) :
    ∃ text, objToUri ctx obj = some text ∧ 0 ∉ text ∧
      (∀ files, parseUri files text = some (obj.uriFields slot)) ∧
      (obj.uriFields slot).matchToken slot = Ckr.ok := by
  obtain ⟨type, htype⟩ : ∃ type, uriType obj.cls = some type := by
    simp only [List.mem_cons, List.not_mem_nil, or_false] at hcls
    rcases hcls with h | h | h | h | h <;> exact ⟨_, by rw [h]; rfl⟩
  rw [htype, Option.getD_some] at hlen
  refine ⟨_, (objToUri_eq hslot htype).trans (if_pos hlen), zero_not_mem_uriText htype, ?_,
    matchToken_uriFields obj slot⟩
  intro files
  have hlabel' : 0 ∉ (obj.getAttr ckaLabel).getD [] := by
    cases h : obj.getAttr ckaLabel with
    | none => simp
    | some label => exact hlabel label h
  have htext : obj.uriText slot type =
      ascii "pkcs11:" ++ ((obj.uriComponents slot).flatten ++ (ascii "type=" ++ type)) := by
    simp [Obj.uriText]
  have hscheme : (ascii "pkcs11:").length = 7 := by decide
  rw [parseUri, htext, List.take_left' hscheme, if_pos rfl, List.drop_left' hscheme]
  exact congrArg Except.toOption (parseRest_uriText files slot htype hlabel')

/-- A key with bytes to be escaped in its id and its label. -/
def slashKey : Obj where
  slotid := 1
  handle := 5
  cls := Cko.publicKey
  attrs := [(ckaId, [0, 0x25, 0xFF]), (ckaLabel, ascii "a/b;c=%&?")]

theorem parse_objToUri_slash :
    ∃ text, objToUri plainCtx slashKey = some text ∧ 0 ∉ text ∧
      (∀ files, parseUri files text = some (slashKey.uriFields plainSlot)) ∧
      (slashKey.uriFields plainSlot).matchToken plainSlot = Ckr.ok := by
  refine parse_objToUri rfl (by decide) ?_ (by decide +kernel)
  rintro _ ⟨⟩
  decide

/-- All bytes of an id are escaped. -/
theorem le_length_uriText {obj : Obj} {id : Bytes} (hid : obj.getAttr ckaId = some id) (slot : Slot)
    (type : Bytes) : 3 * id.length ≤ (obj.uriText slot type).length := by
  have hcomp : 3 * id.length ≤ (uriComponent? (ascii "id") id).length := by
    unfold uriComponent?
    split
    next h => simp [List.isEmpty_iff.1 h]
    next =>
      have henc : (encode (escapes true) id).length = 3 * id.length :=
        length_encode_of_forall (by simp [escapes])
      have hbin : ((ascii "id").length == 2) = true := by decide
      rw [uriComponent, hbin]
      simp only [List.length_append, List.length_cons, henc]
      omega
  simp only [Obj.uriText, Obj.uriComponents, hid, Option.getD_some, List.flatten_cons,
    List.length_append]
  omega

/-- A key whose id has a third of `2 ^ 32` bytes. -/
def longKey : Obj where
  slotid := 1
  handle := 5
  cls := Cko.publicKey
  attrs := [(ckaId, List.replicate 0x55555555 0)]

/-- Its URI has more than `INT_MAX` bytes and cannot be formatted. -/
theorem objToUri_longKey : objToUri plainCtx longKey = none := by
  have hslot : plainCtx.getSlotById longKey.slotid = some plainSlot := rfl
  have htype : uriType longKey.cls = some (ascii "public") := rfl
  have hid : longKey.getAttr ckaId = some (List.replicate 0x55555555 0) := rfl
  have hlen := le_length_uriText hid plainSlot (ascii "public")
  rw [List.length_replicate] at hlen
  rw [objToUri_eq hslot htype, if_neg]
  exact Nat.not_lt.2 (Nat.le_trans (by decide) hlen)

end P11Prov
