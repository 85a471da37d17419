import Mathlib.Data.List.Find
import Mathlib.Data.List.Nodup
import P11Prov.Text.Decimal
import P11Prov.Text.Tokens
import P11Prov.Uri.RoundTrip

/-!
# Components inside of a URI

The handlers of `p11prov_parse_uri` get a pointer to where the value of a component
starts, with its length: what follows is the rest of the URI. Those that copy the
value copy as many bytes as they are told, but the ones for numbers read from the
pointer, by `strtoul` and `strchr`, and compare where they ended with the length.

Here they are as they are in the source, on the rest of the URI. A number is not
read past a delimiter (`strtoul_append`), and a version whose separator is behind
one has no major number (`parseVersionAt_append`), so that the value alone decides
(`parseUriAt_eq`).
-/

namespace P11Prov

/-! ## The handlers on the rest of the URI -/

/-- `parse_ulong`, which compares the end of the number with that of the value. -/
def parseUlongAt (str : Bytes) (len : Nat) : Except Errno Nat := do
  let (val, rest) ← strtoul str
  if rest.length + len ≠ str.length then
    throw .inval
  return val

/-- One of the numbers of a version. -/
def parseVersionNumberAt (str : Bytes) (len : Nat) : Except Errno UInt8 := do
  let val ← parseUlongAt str len
  if 255 < val then
    throw .inval
  return val.toUInt8

/-- `parse_version`, which looks for the separator in the rest of the URI; `sep` is its offset. The
    length that is left is a `size_t`. -/
def parseVersionAt (str : Bytes) (len : Nat) : Except Errno Version := do
  if len < 3 ∨ 7 < len then
    throw .inval
  if 0x2E ∉ str then
    throw .inval
  let sep := (str.takeWhile (· ≠ 0x2E)).length
  let major ← parseVersionNumberAt str sep
  -- with the separator behind the value, what is left wraps around
  let minor ← parseVersionNumberAt (str.drop (sep + 1))
    ((0x10000000000000000 + len - (sep + 1)) % 0x10000000000000000)
  return { major, minor }

/-- The handler of a component on the rest of the URI. -/
def UriComponent.handlerAt (c : UriComponent) (str : Bytes) (len : Nat) (u : Uri) :
    Except Errno Uri :=
  if c.attr = ascii "library-version" then do
    return { u with libraryVersion := ← parseVersionAt str len }
  else if c.attr = ascii "slot-id" then do
    return { u with slotId := ← parseUlongAt str len }
  -- the others copy the value, or decode as much of it
  else c.handler (str.take len) u

/-- One round of the loop of `p11prov_parse_uri`, for the component of length `len` at `p`. -/
def parseComponentAt (files : PinFiles) (u : Uri) (p : Bytes) (len : Nat) : Except Errno Uri :=
  match (ucmap files).find? fun c => (c.attr ++ [0x3D]).isPrefixOf p with
  | some c => c.handlerAt (p.drop (c.attr.length + 1)) (len - (c.attr.length + 1)) u
  | none => .ok u

/-- The loop of `p11prov_parse_uri`. -/
def parseRestAt (files : PinFiles) (u : Uri) (p : Bytes) : Except Errno Uri :=
  let len := (p.takeWhile (!isUriDelim ·)).length
  if len < p.length then do
    let u ← parseComponentAt files u p len
    parseRestAt files u (p.drop (len + 1))
  else parseComponentAt files u p p.length
termination_by p.length
decreasing_by
  rw [List.length_drop]
  omega

/-- `p11prov_parse_uri`, where every handler gets the rest of the URI. -/
def parseUriAt (files : PinFiles) (uri : Bytes) : Option Uri :=
  if uri.take 7 = ascii "pkcs11:" then (parseRestAt files {} (uri.drop 7)).toOption else none

/-! ## Numbers end where their value ends -/

/-- What a number is not read into: the end of the string, or a byte that is neither white space nor
    a sign nor a digit. -/
def StopsNumber (rest : Bytes) : Prop :=
  ∀ c ∈ rest.head?, isSpace c = false ∧ isDigit c = false ∧ c ≠ 0x2B ∧ c ≠ 0x2D

/-- What follows a component: the end of the URI, or a delimiter. -/
def EndsComponent (rest : Bytes) : Prop := ∀ c ∈ rest.head?, isUriDelim c = true

variable {text rest : Bytes} {files : PinFiles} {u : Uri}

theorem EndsComponent.stopsNumber (h : EndsComponent rest) : StopsNumber rest := by
  intro c hc
  have hd := h c hc
  rw [isUriDelim, decide_eq_true_eq] at hd
  rcases hd with rfl | rfl | rfl <;> decide

theorem stopsNumber_dot : StopsNumber (0x2E :: rest) := by
  rintro c ⟨⟩
  decide

theorem dropWhile_append_of_head {p : UInt8 → Bool} (h : ∀ c ∈ rest.head?, p c = false) :
    (text ++ rest).dropWhile p = text.dropWhile p ++ rest := by
  rw [List.dropWhile_append]
  split
  · rename_i hempty
    rw [List.isEmpty_iff.1 hempty]
    cases rest with
    | nil => rfl
    | cons c rest => exact List.dropWhile_cons_of_neg (by simp [h c rfl])
  · rfl

theorem takeWhile_append_of_head {p : UInt8 → Bool} (h : ∀ c ∈ rest.head?, p c = false) :
    (text ++ rest).takeWhile p = text.takeWhile p := by
  rw [List.takeWhile_append]
  split
  · rename_i hall
    have hrest : rest.takeWhile p = [] := by
      cases rest with
      | nil => rfl
      | cons c rest => exact List.takeWhile_cons_of_neg (by simp [h c rfl])
    rw [hrest, List.append_nil]
    exact ((List.takeWhile_prefix p).eq_of_length hall).symm
  · rfl

theorem takeSign_append (h : StopsNumber rest) :
    takeSign (text ++ rest) = ((takeSign text).1, (takeSign text).2 ++ rest) := by
  cases text with
  | nil =>
    cases rest with
    | nil => rfl
    | cons c rest =>
      obtain ⟨-, -, hplus, hminus⟩ := h c rfl
      rw [List.nil_append, takeSign]
      · rfl
      · exact fun _ he => hminus (List.cons.inj he).1
      · exact fun _ he => hplus (List.cons.inj he).1
  | cons c text =>
    rw [List.cons_append, takeSign.eq_def, takeSign.eq_def]
    split <;> split <;> simp_all

/-- A number is read to its end, whatever follows it. -/
theorem strtoul_append (h : StopsNumber rest) :
    strtoul (text ++ rest) = (strtoul text).map fun r => (r.1, r.2 ++ rest) := by
  have hspace : (text ++ rest).dropWhile isSpace = text.dropWhile isSpace ++ rest :=
    dropWhile_append_of_head fun c hc => (h c hc).1
  rw [strtoul, strtoul, hspace, takeSign_append h]
  simp only
  rw [takeWhile_append_of_head fun c hc => (h c hc).2.1,
    dropWhile_append_of_head fun c hc => (h c hc).2.1]
  split
  · rfl
  · split <;> rfl

/-! ## The value alone decides -/

variable {str : Bytes} {len : Nat} {r : Nat × Bytes}

theorem parseUlong_ok (h : strtoul str = .ok r) :
    parseUlong str = if r.2 = [] then .ok r.1 else .error .inval := by
  rw [parseUlong, h]
  by_cases he : r.2 = []
  · rw [if_pos he]
    exact if_neg (not_not.2 he)
  · rw [if_neg he]
    exact if_pos he

theorem parseUlongAt_ok (h : strtoul str = .ok r) : parseUlongAt str len =
    if r.2.length + len = str.length then .ok r.1 else .error .inval := by
  rw [parseUlongAt, h]
  by_cases he : r.2.length + len = str.length
  · rw [if_pos he]
    exact if_neg (not_not.2 he)
  · rw [if_neg he]
    exact if_pos he

theorem parseUlongAt_append (h : StopsNumber rest) :
    parseUlongAt (text ++ rest) text.length = parseUlong text := by
  cases htext : strtoul text with
  | error e =>
    rw [parseUlongAt, parseUlong, strtoul_append h, htext]
    rfl
  | ok r =>
    have hrest : strtoul (text ++ rest) = .ok (r.1, r.2 ++ rest) := by
      rw [strtoul_append h, htext]
      rfl
    have hend : (r.2 ++ rest).length + text.length = (text ++ rest).length ↔ r.2 = [] := by
      rw [List.length_append, List.length_append, ← List.length_eq_zero_iff]
      omega
    rw [parseUlongAt_ok hrest, parseUlong_ok htext]
    simp only [hend]

theorem parseVersionNumberAt_append (h : StopsNumber rest) :
    parseVersionNumberAt (text ++ rest) text.length = parseVersionNumber text := by
  rw [parseVersionNumberAt, parseUlongAt_append h]
  rfl

theorem length_takeSign_le (s : Bytes) : (takeSign s).2.length ≤ s.length := by
  rw [takeSign.eq_def]
  split <;> simp

/-- What `strtoul` counts is the value of the digits. -/
theorem foldl_digits (digits : Bytes) :
    digits.foldl (fun n d => 10 * n + (d - 0x30).toNat) 0 = Decimal.value digits :=
  Decimal.foldl_value

theorem isDigit_iff {c : UInt8} : isDigit c = true ↔ Decimal.IsDigit c := by
  rw [isDigit, decide_eq_true_eq]
  rfl

/-- The digits of a short text are in range. -/
theorem strtoul_short (h : text.length ≤ 7) : ∃ r, strtoul text = .ok r := by
  rw [strtoul]
  simp only [foldl_digits]
  set digits := ((takeSign (text.dropWhile isSpace)).2).takeWhile isDigit
  have hlen : digits.length ≤ 7 := by
    have hdigits : digits.length ≤ (takeSign (text.dropWhile isSpace)).2.length :=
      ( List.takeWhile_prefix isDigit).length_le
    have hsign := length_takeSign_le (text.dropWhile isSpace)
    have hspace := (List.dropWhile_suffix (l := text) isSpace).length_le
    omega
  have hval : Decimal.value digits < 10 ^ digits.length :=
    Decimal.value_lt fun c hc => isDigit_iff.1 (List.mem_takeWhile_imp hc)
  have hpow : 10 ^ digits.length ≤ 10 ^ 7 := Nat.pow_le_pow_right (by decide) hlen
  split
  · exact ⟨_, rfl⟩
  · rw [if_neg (by omega)]
    exact ⟨_, rfl⟩

theorem parseVersion_eq : parseVersion str =
    if str.length < 3 ∨ 7 < str.length then .error .inval
    else if 0x2E ∉ str then .error .inval
    else (parseVersionNumber (str.takeWhile (· ≠ 0x2E))).bind fun major =>
      (parseVersionNumber ((str.dropWhile (· ≠ 0x2E)).drop 1)).bind fun minor =>
        .ok { major, minor } := by
  rw [parseVersion]
  split
  · rfl
  · split <;> rfl

theorem parseVersionAt_eq : parseVersionAt str len =
    if len < 3 ∨ 7 < len then .error .inval
    else if 0x2E ∉ str then .error .inval
    else (parseVersionNumberAt str (str.takeWhile (· ≠ 0x2E)).length).bind fun major =>
      (parseVersionNumberAt (str.drop ((str.takeWhile (· ≠ 0x2E)).length + 1))
        ((0x10000000000000000 + len - ((str.takeWhile (· ≠ 0x2E)).length + 1)) %
          0x10000000000000000)).bind fun minor => .ok { major, minor } := by
  rw [parseVersionAt]
  split
  · rfl
  · split <;> rfl

/-- A text with a separator is what is before it, the separator, and what is after it. -/
theorem eq_parts_of_mem (h : 0x2E ∈ text) : text =
    text.takeWhile (· ≠ 0x2E) ++ 0x2E :: (text.dropWhile (· ≠ 0x2E)).drop 1 := by
  have hne : text.dropWhile (· ≠ 0x2E) ≠ [] := by
    intro he
    have hall := List.dropWhile_eq_nil_iff.1 he 0x2E h
    simp at hall
  obtain ⟨c, after, hcons⟩ := List.exists_cons_of_ne_nil hne
  have hc := List.head_dropWhile_not (fun c : UInt8 => decide (c ≠ 0x2E)) hne
  simp only [hcons, List.head_cons, decide_eq_false_iff_not, not_not] at hc
  conv_lhs =>
    rw [← List.takeWhile_append_dropWhile (p := fun c : UInt8 => decide (c ≠ 0x2E)) (l := text),
      hcons, hc]
  rw [hcons]
  rfl

/-- A major number that ends at a separator behind the delimiter is refused. -/
theorem parseVersionNumberAt_past (hlen : text.length ≤ 7) (hsep : 0x2E ∉ text)
    (h : EndsComponent rest) (hrest : 0x2E ∈ rest) : parseVersionNumberAt (text ++ rest)
      ((text ++ rest).takeWhile (· ≠ 0x2E)).length = .error .inval := by
  obtain ⟨d, rest', rfl⟩ := List.exists_cons_of_ne_nil (List.ne_nil_of_mem hrest)
  have hd : d ≠ 0x2E := by
    rintro rfl
    exact absurd (h _ rfl) (by decide)
  obtain ⟨r, hr⟩ := strtoul_short hlen
  have hstr : strtoul (text ++ d :: rest') = .ok (r.1, r.2 ++ d :: rest') := by
    rw [strtoul_append h.stopsNumber, hr]
    rfl
  rw [parseVersionNumberAt, parseUlongAt_ok hstr, if_neg]
  · rfl
  · rw [List.takeWhile_append_of_pos (Tokens.forall_ne_of_notMem hsep),
      List.takeWhile_cons_of_pos (by simpa using hd)]
    simp only [List.length_append, List.length_cons]
    omega

/-- A version is what its value says. A separator in a later component is of no use: the major number
    ends before it. -/
theorem parseVersionAt_append (h : EndsComponent rest) :
    parseVersionAt (text ++ rest) text.length = parseVersion text := by
  rw [parseVersionAt_eq, parseVersion_eq]
  by_cases hlen : text.length < 3 ∨ 7 < text.length
  · rw [if_pos hlen, if_pos hlen]
  rw [if_neg hlen, if_neg hlen]
  by_cases hsep : 0x2E ∈ text
  · have hparts := eq_parts_of_mem hsep
    set major := text.takeWhile (· ≠ 0x2E) with hmajor
    set minor := (text.dropWhile (· ≠ 0x2E)).drop 1
    have hsplit : text ++ rest = major ++ 0x2E :: (minor ++ rest) := by
      rw [hparts, List.append_assoc, List.cons_append]
    have htake : (text ++ rest).takeWhile (· ≠ 0x2E) = major := by
      rw [hsplit, takeWhile_append_of_head (by rintro c ⟨⟩; rfl), hmajor, List.takeWhile_idem]
    have hlength : text.length = major.length + (minor.length + 1) := by
      conv_lhs => rw [hparts]
      rw [List.length_append, List.length_cons]
    have hleft : (0x10000000000000000 + text.length - (major.length + 1)) % 0x10000000000000000 =
        minor.length := by
      rw [hlength]
      omega
    rw [if_neg (by simp [hsep]), if_neg (not_not.2 hsep), htake, hleft, hsplit,
      parseVersionNumberAt_append stopsNumber_dot]
    rw [Tokens.drop_append_sep, parseVersionNumberAt_append h.stopsNumber]
  · rw [if_pos hsep]
    -- `strchr` may still find a separator, in a component that follows
    by_cases hrest : 0x2E ∈ rest
    · rw [if_neg (by simp [hrest]), parseVersionNumberAt_past (by omega) hsep h hrest]
      rfl
    · rw [if_pos (by simp [hsep, hrest])]

/-! ## The loop -/

/-- The names of the components. -/
def ucmapNames : List Bytes := (ucmap fun _ => .error .noent).map (·.attr)

theorem attr_mem {c : UriComponent} (hc : c ∈ ucmap files) : c.attr ∈ ucmapNames :=
  show c.attr ∈ (ucmap files).map (·.attr) from List.mem_map_of_mem hc

theorem delimFree_attr {c : UriComponent} (hc : c ∈ ucmap files) : DelimFree (c.attr ++ [0x3D]) := by
  have hall : ∀ name ∈ ucmapNames, DelimFree (name ++ [0x3D]) := by decide
  exact hall _ (attr_mem hc)

/-- A component has one entry in the table. -/
theorem eq_of_attr {c c' : UriComponent} (hc : c ∈ ucmap files) (hc' : c' ∈ ucmap files)
    (h : c.attr = c'.attr) : c = c' := by
  have hnodup : ((ucmap files).map (·.attr)).Nodup :=
    show ucmapNames.Nodup by decide
  exact List.inj_on_of_nodup_map hnodup hc hc' h

/-- The entry for the version of the library. -/
def libraryVersionComponent : UriComponent where
  attr := ascii "library-version"
  handler str u := do return { u with libraryVersion := ← parseVersion str }

/-- The entry for the id of a slot. -/
def slotIdComponent : UriComponent where
  attr := ascii "slot-id"
  handler str u := do return { u with slotId := ← parseUlong str }

theorem libraryVersionComponent_mem : libraryVersionComponent ∈ ucmap files := by
  simp [ucmap, libraryVersionComponent]

theorem slotIdComponent_mem : slotIdComponent ∈ ucmap files := by
  simp [ucmap, slotIdComponent]

/-- A handler needs no more than the value of its component. -/
theorem handlerAt_append {c : UriComponent} (hc : c ∈ ucmap files) (h : EndsComponent rest) :
    c.handlerAt (text ++ rest) text.length u = c.handler text u := by
  by_cases hversion : c.attr = ascii "library-version"
  · rw [UriComponent.handlerAt, if_pos hversion, parseVersionAt_append h,
      eq_of_attr hc libraryVersionComponent_mem hversion]
    rfl
  by_cases hslot : c.attr = ascii "slot-id"
  · rw [UriComponent.handlerAt, if_neg hversion, if_pos hslot, parseUlongAt_append h.stopsNumber,
      eq_of_attr hc slotIdComponent_mem hslot]
    rfl
  · rw [UriComponent.handlerAt, if_neg hversion, if_neg hslot, List.take_left' rfl]

theorem parseComponentAt_append (h : EndsComponent rest) :
    parseComponentAt files u (text ++ rest) text.length = parseComponent files u text := by
  have hfind : ((ucmap files).find? fun c => (c.attr ++ [0x3D]).isPrefixOf (text ++ rest)) =
      (ucmap files).find? fun c => (c.attr ++ [0x3D]).isPrefixOf text :=
    List.find?_congr fun c hc => Tokens.isPrefixOf_append (delimFree_attr hc) h
  rw [parseComponentAt, parseComponent, hfind]
  cases hc : (ucmap files).find? fun c => (c.attr ++ [0x3D]).isPrefixOf text with
  | none => rfl
  | some c =>
    have hprefix : (c.attr ++ [0x3D]).isPrefixOf text = true :=
      List.find?_some (p := fun c : UriComponent => (c.attr ++ [0x3D]).isPrefixOf text) hc
    obtain ⟨value, rfl⟩ := List.isPrefixOf_iff_prefix.1 hprefix
    have hlen : (c.attr ++ [0x3D]).length = c.attr.length + 1 := by simp
    simp only
    rw [List.append_assoc _ value, List.drop_left' hlen, List.drop_left' hlen, List.length_append, hlen,
      Nat.add_sub_cancel_left, handlerAt_append (List.mem_of_find?_eq_some hc) h]

/-- The loop of the source parses the components one by one. -/
theorem parseRestAt_eq (files : PinFiles) (u : Uri) (p : Bytes) :
    parseRestAt files u p = parseRest files u p := by
  induction p using Tokens.induction_on (p := isUriDelim) generalizing u with
  | last text hfree =>
    have hlast : parseComponentAt files u (text ++ []) text.length = parseComponent files u text :=
      parseComponentAt_append fun _ hc => nomatch hc
    rw [List.append_nil] at hlast
    rw [parseRestAt, Tokens.takeWhile_of_forall hfree, if_neg (Nat.lt_irrefl _), hlast,
      parseRest_last files u hfree]
  | cons text d rest hfree hd ih =>
    have hcomp : parseComponentAt files u (text ++ d :: rest) text.length =
        parseComponent files u text := parseComponentAt_append (by rintro c ⟨⟩; exact hd)
    have hsplit : parseRest files u (text ++ d :: rest) =
        parseComponent files u text >>= (parseRest files · rest) := by
      rw [parseRest, List.splitOnP_append_cons_of_forall_mem hfree d hd, List.foldlM_cons]
      rfl
    rw [parseRestAt, Tokens.takeWhile_append_sep hfree hd, if_pos (by simp), hcomp,
      Tokens.drop_append_sep, hsplit]
    exact bind_congr fun u => ih u

/-- The value of a component alone decides, so the parser reads the components of the URI. -/
theorem parseUriAt_eq (files : PinFiles) (uri : Bytes) : parseUriAt files uri = parseUri files uri := by
  rw [parseUriAt, parseUri, parseRestAt_eq]
  rfl

end P11Prov
