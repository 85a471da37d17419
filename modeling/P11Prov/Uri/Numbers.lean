import P11Prov.Options
import P11Prov.Uri.Slices

/-!
# The numbers of a URI

What texts are numbers for the parser: `strtoul` skips white space, and takes a sign
and digits after it, or nothing at all (`parseUlong_eq_ok`). A text that starts with
neither white space nor a sign is a number if and only if it is a decimal numeral
that fits a word (`parseUlong_plain`), and a version needs both of its numbers
(`parseVersion_plain`).

A component is accepted or not by itself, whatever was parsed before it
(`accepts_iff`), so a URI is parsed if every component of it is accepted. The last
component of a name says what its member is.
-/

namespace P11Prov

open Decimal

/-! ## The texts that are numbers -/

/-- The texts that are a number for `parse_ulong`, with the number. -/
inductive UlongText : Bytes → Nat → Prop
  /-- `strtoul` is at the end at once. -/
  | empty : UlongText [] 0
  | unsigned {space digits : Bytes} (hspace : ∀ c ∈ space, isSpace c = true) (hdigits : Numeral digits)
    (hfits : value digits ≤ 0xFFFFFFFFFFFFFFFF) : UlongText (space ++ digits) (value digits)
  | plus {space digits : Bytes} (hspace : ∀ c ∈ space, isSpace c = true) (hdigits : Numeral digits)
    (hfits : value digits ≤ 0xFFFFFFFFFFFFFFFF) : UlongText (space ++ 0x2B :: digits) (value digits)
  /-- A negated number wraps around. -/
  | minus {space digits : Bytes} (hspace : ∀ c ∈ space, isSpace c = true) (hdigits : Numeral digits)
    (hfits : value digits ≤ 0xFFFFFFFFFFFFFFFF) : UlongText (space ++ 0x2D :: digits)
      ((0x10000000000000000 - value digits) % 0x10000000000000000)

variable {str text digits space : Bytes} {n : Nat} {c : UInt8} {neg : Bool}

theorem not_space_of_isDigit (h : IsDigit c) : isSpace c = false ∧ c ≠ 0x2B ∧ c ≠ 0x2D := by
  have h30 := UInt8.le_iff_toNat_le.1 h.1
  refine ⟨?_, ?_, ?_⟩
  · rw [isSpace, decide_eq_false_iff_not]
    rintro (rfl | ⟨-, hle⟩)
    · exact absurd h30 (by decide)
    · exact absurd (h30.trans (UInt8.le_iff_toNat_le.1 hle)) (by decide)
  · rintro rfl
    exact absurd h30 (by decide)
  · rintro rfl
    exact absurd h30 (by decide)

/-- What is after the sign decides, if it is all digits. -/
theorem parseUlong_digits (neg : Bool) (hsign : takeSign (str.dropWhile isSpace) = (neg, digits))
    (hdigits : Numeral digits) (hfits : value digits ≤ 0xFFFFFFFFFFFFFFFF) :
    parseUlong str = .ok (if neg then (0x10000000000000000 - value digits) % 0x10000000000000000
      else value digits) := by
  have hall : ∀ d ∈ digits, isDigit d = true := fun d hd => isDigit_iff.2 (hdigits.2 d hd)
  have htake : digits.takeWhile isDigit = digits := List.takeWhile_eq_self_iff.2 hall
  have hdrop : digits.dropWhile isDigit = [] := List.dropWhile_eq_nil_iff.2 hall
  have hstr : strtoul str = .ok (if neg then
      (0x10000000000000000 - value digits) % 0x10000000000000000 else value digits, []) := by
    rw [strtoul, hsign]
    simp only [htake, hdrop, foldl_digits]
    rw [if_neg (by simpa using hdigits.1), if_neg (Nat.not_lt.2 hfits)]
  rw [parseUlong_ok hstr, if_pos rfl]

/-- White space in front of a byte that is none is skipped. -/
theorem dropWhile_isSpace (hspace : ∀ d ∈ space, isSpace d = true) (hc : isSpace c = false) :
    (space ++ c :: text).dropWhile isSpace = c :: text := by
  rw [List.dropWhile_append_of_pos hspace, List.dropWhile_cons_of_neg (by simp [hc])]

theorem takeSign_digit (hc : IsDigit c) : takeSign (c :: text) = (false, c :: text) := by
  obtain ⟨-, hplus, hminus⟩ := not_space_of_isDigit hc
  rw [takeSign]
  · exact fun _ he => hminus (List.cons.inj he).1
  · exact fun _ he => hplus (List.cons.inj he).1

theorem UlongText.parseUlong (h : UlongText str n) : parseUlong str = .ok n := by
  cases h with
  | empty => rfl
  | unsigned hspace hdigits hfits =>
    obtain ⟨d, rest, rfl, hd⟩ := hdigits.exists_cons
    rw [parseUlong_digits false ?_ hdigits hfits]
    · rfl
    · rw [dropWhile_isSpace hspace (not_space_of_isDigit hd).1, takeSign_digit hd]
  | plus hspace hdigits hfits =>
    rw [parseUlong_digits false ?_ hdigits hfits]
    · rfl
    · rw [dropWhile_isSpace hspace (by decide)]
      rfl
  | minus hspace hdigits hfits =>
    rw [parseUlong_digits true ?_ hdigits hfits]
    · rfl
    · rw [dropWhile_isSpace hspace (by decide)]
      rfl

/-- The sign is a byte in front, unless there is none. -/
theorem eq_of_takeSign (h : takeSign str = (neg, text)) :
    (neg = true ∧ str = 0x2D :: text) ∨ (neg = false ∧ (str = 0x2B :: text ∨ str = text)) := by
  rw [takeSign.eq_def] at h
  split at h
  all_goals
    obtain ⟨rfl, rfl⟩ := Prod.mk.inj h
    simp

theorem parseUlong_inv (h : parseUlong str = .ok n) : UlongText str n := by
  obtain ⟨neg, rest, hsign⟩ : ∃ neg rest, takeSign (str.dropWhile isSpace) = (neg, rest) :=
    ⟨_, _, rfl⟩
  have hstr : str.takeWhile isSpace ++ str.dropWhile isSpace = str := List.takeWhile_append_dropWhile
  have hspace : ∀ c ∈ str.takeWhile isSpace, isSpace c = true := fun c hc => List.mem_takeWhile_imp hc
  cases hnum : strtoul str with
  | error e =>
    rw [parseUlong, hnum] at h
    cases h
  | ok r =>
    rw [parseUlong_ok hnum] at h
    split at h
    case isFalse => cases h
    rename_i hend
    cases h
    rw [strtoul, hsign] at hnum
    simp only [foldl_digits] at hnum
    split at hnum
    · -- nothing is converted, so that the end is where the text starts
      obtain rfl := Except.ok.inj hnum
      obtain rfl : str = [] := hend
      exact .empty
    rename_i hne
    split at hnum
    · -- a number out of range is an error of its own
      cases hnum
    rename_i hfits
    obtain rfl := Except.ok.inj hnum
    have hall : rest.takeWhile isDigit = rest :=
      List.takeWhile_eq_self_iff.2 (List.dropWhile_eq_nil_iff.1 hend)
    rw [hall] at hne hfits ⊢
    have hdigits : Numeral rest :=
      ⟨by simpa using hne, fun c hc => isDigit_iff.1 (List.dropWhile_eq_nil_iff.1 hend c hc)⟩
    have hfits' := Nat.not_lt.1 hfits
    rw [← hstr]
    rcases eq_of_takeSign hsign with ⟨rfl, he⟩ | ⟨rfl, he | he⟩
    · rw [he]
      exact .minus hspace hdigits hfits'
    · rw [he]
      exact .plus hspace hdigits hfits'
    · rw [he]
      exact .unsigned hspace hdigits hfits'

/-- The numbers that `parse_ulong` accepts. -/
theorem parseUlong_eq_ok : parseUlong str = .ok n ↔ UlongText str n :=
  ⟨parseUlong_inv, UlongText.parseUlong⟩

/-- The text has a first byte, which is neither white space nor a sign. -/
def Plain (text : Bytes) : Prop :=
  ∃ c ∈ text.head?, isSpace c = false ∧ c ≠ 0x2B ∧ c ≠ 0x2D

theorem plain_of_numeral (h : Numeral text) : Plain text := by
  obtain ⟨d, rest, rfl, hd⟩ := h.exists_cons
  exact ⟨d, rfl, not_space_of_isDigit hd⟩

/-- White space and a sign are all that a number may have before its digits. -/
theorem UlongText.plain (hplain : Plain text) (h : UlongText text n) :
    Numeral text ∧ value text = n ∧ n ≤ 0xFFFFFFFFFFFFFFFF := by
  obtain ⟨c, hhead, hspace, hplus, hminus⟩ := hplain
  have hnil : ∀ {ws rest : Bytes}, (∀ d ∈ ws, isSpace d = true) → (ws ++ rest).head? = some c →
      ws = [] := by
    -- any white space would be the first byte
    intro ws rest hws hc
    by_contra hne
    obtain ⟨d, ws', rfl⟩ := List.exists_cons_of_ne_nil hne
    obtain rfl : d = c := Option.some.inj hc
    rw [hws d List.mem_cons_self] at hspace
    cases hspace
  cases h with
  | empty => cases hhead
  | unsigned hws hdigits hfits =>
    obtain rfl := hnil hws hhead
    exact ⟨hdigits, rfl, hfits⟩
  | plus hws =>
    obtain rfl := hnil hws hhead
    exact absurd (Option.some.inj hhead).symm hplus
  | minus hws =>
    obtain rfl := hnil hws hhead
    exact absurd (Option.some.inj hhead).symm hminus

/-- A text that starts with neither is accepted if it is a numeral that fits a word. -/
theorem parseUlong_plain (hplain : Plain text) : parseUlong text = .ok n ↔
    Numeral text ∧ value text = n ∧ n ≤ 0xFFFFFFFFFFFFFFFF := by
  rw [parseUlong_eq_ok]
  refine ⟨UlongText.plain hplain, ?_⟩
  rintro ⟨hdigits, rfl, hfits⟩
  have hspace : ∀ c ∈ ([] : Bytes), isSpace c = true := List.forall_mem_nil _
  exact .unsigned hspace hdigits hfits

/-! ## The texts that are versions -/

/-- Both numbers of the text start so, if it has a separator. -/
def PlainVersion (text : Bytes) : Prop :=
  0x2E ∈ text → Plain (text.takeWhile (· ≠ 0x2E)) ∧ Plain ((text.dropWhile (· ≠ 0x2E)).drop 1)

/-- Two numerals with a separator between them, in at most seven bytes, are the version of their
    values, each of which fits a byte. -/
def VersionText (text : Bytes) (v : Version) : Prop :=
  ∃ major minor, text = major ++ 0x2E :: minor ∧ text.length ≤ 7 ∧
    (Numeral major ∧ value major = v.major.toNat) ∧ (Numeral minor ∧ value minor = v.minor.toNat)

theorem parseVersionNumber_eq : parseVersionNumber text = (parseUlong text).bind fun n =>
    if 255 < n then .error .inval else .ok n.toUInt8 := by
  rw [parseVersionNumber]
  refine bind_congr fun n => ?_
  split <;> rfl

theorem parseVersionNumber_plain (hplain : Plain text) {b : UInt8} :
    parseVersionNumber text = .ok b ↔ Numeral text ∧ value text = b.toNat := by
  have hb := b.toNat_lt
  rw [parseVersionNumber_eq]
  cases h : parseUlong text with
  | error e =>
    constructor
    · exact fun he => nomatch he
    · rintro ⟨hdigits, hval⟩
      rw [(parseUlong_plain hplain).2 ⟨hdigits, hval, by omega⟩] at h
      cases h
  | ok n =>
    obtain ⟨hdigits, rfl, -⟩ := (parseUlong_plain hplain).1 h
    have hbyte : value text ≤ 255 → (value text).toUInt8.toNat = value text := by
      intro hle
      rw [Nat.toUInt8, UInt8.toNat_ofNat']
      omega
    change (if 255 < value text then _ else _) = _ ↔ _
    split
    · rename_i hlt
      exact ⟨fun he => (nomatch he), fun ⟨_, hval⟩ => by omega⟩
    · rename_i hle
      have hto := hbyte (Nat.not_lt.1 hle)
      constructor
      · intro he
        rw [← Except.ok.inj he, hto]
        exact ⟨hdigits, rfl⟩
      · rintro ⟨-, hval⟩
        rw [← UInt8.toNat_inj.1 (hto.trans hval)]

/-- The separator is where the first number ends. -/
theorem parts_of_not_mem {major : Bytes} (minor : Bytes) (h : 0x2E ∉ major) :
    (major ++ 0x2E :: minor).takeWhile (· ≠ 0x2E) = major ∧
      ((major ++ 0x2E :: minor).dropWhile (· ≠ 0x2E)).drop 1 = minor := by
  have hmajor := Tokens.forall_ne_of_notMem h
  rw [List.takeWhile_append_of_pos hmajor, List.dropWhile_append_of_pos hmajor]
  simp

theorem not_mem_of_numeral (h : Numeral digits) : 0x2E ∉ digits :=
  fun hmem => absurd (h.2 _ hmem) (by decide)

theorem parseVersion_plain (hplain : PlainVersion text) {v : Version} :
    parseVersion text = .ok v ↔ VersionText text v := by
  rw [parseVersion_eq]
  constructor
  · intro h
    split at h
    · cases h
    rename_i hlen
    split at h
    · cases h
    rename_i hsep
    rw [not_not] at hsep
    obtain ⟨hmajor, hminor⟩ := hplain hsep
    obtain ⟨major, hpmajor, h⟩ := bind_eq_ok.1 h
    obtain ⟨minor, hpminor, h⟩ := bind_eq_ok.1 h
    obtain rfl := Except.ok.inj h
    exact ⟨_, _, eq_parts_of_mem hsep, by omega, (parseVersionNumber_plain hmajor).1 hpmajor,
      (parseVersionNumber_plain hminor).1 hpminor⟩
  · rintro ⟨major, minor, rfl, hlen, hmajor, hminor⟩
    -- neither number is empty, so the length is at least three
    have hmajorlen := List.length_pos_iff.2 hmajor.1.1
    have hminorlen := List.length_pos_iff.2 hminor.1.1
    obtain ⟨htake, hdrop⟩ := parts_of_not_mem minor (not_mem_of_numeral hmajor.1)
    rw [if_neg (by simp only [List.length_append, List.length_cons] at hlen ⊢; omega),
      if_neg (by simp), htake, hdrop,
      (parseVersionNumber_plain (plain_of_numeral hmajor.1)).2 hmajor,
      (parseVersionNumber_plain (plain_of_numeral hminor.1)).2 hminor]
    rfl

/-! ## The components of a URI -/

/-- What `p11prov_parse_uri` takes for the components of a URI, after the scheme. -/
def uriComponents (uri : Bytes) : List Bytes := (uri.drop 7).splitOnP isUriDelim

/-- The component does not make the parser fail. -/
def AcceptsComponent (files : PinFiles) (component : Bytes) : Prop :=
  ∀ u, ∃ u', parseComponent files u component = .ok u'

/-- The id of a slot, as a component. -/
def slotIdComp (text : Bytes) : Bytes := ascii "slot-id=" ++ text

/-- The version of the library, as a component. -/
def libraryVersionComp (text : Bytes) : Bytes := ascii "library-version=" ++ text

theorem slotIdComp_nil : slotIdComp [] = ascii "slot-id" ++ [0x3D] := by decide

theorem libraryVersionComp_nil : libraryVersionComp [] = ascii "library-version" ++ [0x3D] := by
  decide

variable {files : PinFiles} {u u' : Uri} {component : Bytes} {components post : List Bytes}

theorem parseComponent_slotId : parseComponent files u (slotIdComp text) =
    (fun v => { u with slotId := v }) <$> parseUlong text := rfl

theorem parseComponent_libraryVersion : parseComponent files u (libraryVersionComp text) =
    (fun v => { u with libraryVersion := v }) <$> parseVersion text := rfl

/-- A handler accepts its value whatever was parsed before. -/
theorem handler_ok (files : PinFiles) : ∀ c ∈ ucmap files, ∀ str u v,
    (∃ u', c.handler str u = .ok u') → ∃ v', c.handler str v = .ok v' := by
  simp only [ucmap, List.forall_mem_cons, bind_pure_comp, map_eq_ok]
  refine ⟨?_, ?_, ?_, ?_, ?_, ?_, ?_, ?_, ?_, ?_, ?_, ?_, ?_, ?_, ?_, ?_, List.forall_mem_nil _⟩
  all_goals
    rintro str u v ⟨_, a, ha, -⟩
    exact ⟨_, a, ha, rfl⟩

/-- A handler assigns to one member. -/
theorem handler_keeps (files : PinFiles) : ∀ c ∈ ucmap files, ∀ str u u', c.handler str u = .ok u' →
    (c.attr ≠ ascii "slot-id" → u'.slotId = u.slotId) ∧
      (c.attr ≠ ascii "library-version" → u'.libraryVersion = u.libraryVersion) := by
  simp only [ucmap, List.forall_mem_cons, bind_pure_comp, map_eq_ok]
  refine ⟨?_, ?_, ?_, ?_, ?_, ?_, ?_, ?_, ?_, ?_, ?_, ?_, ?_, ?_, ?_, ?_, List.forall_mem_nil _⟩
  all_goals
    rintro str u _ ⟨a, -, rfl⟩
    -- two of the handlers assign to the members in question
    first
    | exact ⟨fun _ => rfl, fun _ => rfl⟩
    | exact ⟨fun h => absurd rfl h, fun _ => rfl⟩
    | exact ⟨fun _ => rfl, fun h => absurd rfl h⟩

/-- The entry of the component, if it has one. -/
theorem parseComponent_ok (h : parseComponent files u component = .ok u') : u' = u ∨
    ∃ c ∈ ucmap files, c.attr ++ [0x3D] <+: component ∧
      c.handler (component.drop (c.attr.length + 1)) u = .ok u' := by
  rw [parseComponent] at h
  cases hc : (ucmap files).find? fun c => (c.attr ++ [0x3D]).isPrefixOf component with
  | none =>
    rw [hc] at h
    exact .inl (Except.ok.inj h).symm
  | some c =>
    rw [hc] at h
    have hpre : (c.attr ++ [0x3D]).isPrefixOf component = true :=
      List.find?_some (p := fun c : UriComponent => (c.attr ++ [0x3D]).isPrefixOf component) hc
    exact .inr ⟨c, List.mem_of_find?_eq_some hc, List.isPrefixOf_iff_prefix.1 hpre, h⟩

/-- A component is accepted by itself. -/
theorem accepts_iff : AcceptsComponent files component ↔
    ∃ u u', parseComponent files u component = .ok u' := by
  refine ⟨fun h => ⟨{}, h {}⟩, ?_⟩
  rintro ⟨u, u', h⟩ v
  rw [parseComponent] at h ⊢
  cases hc : (ucmap files).find? fun c => (c.attr ++ [0x3D]).isPrefixOf component with
  | none => exact ⟨v, rfl⟩
  | some c =>
    rw [hc] at h
    exact handler_ok files c (List.mem_of_find?_eq_some hc) _ u v ⟨u', h⟩

/-- The parser is through if it accepts every component. -/
theorem foldlM_ok_iff : (∃ u', components.foldlM (parseComponent files) u = .ok u') ↔
    ∀ c ∈ components, AcceptsComponent files c := by
  induction components generalizing u with
  | nil => exact ⟨fun _ => nofun, fun _ => ⟨u, rfl⟩⟩
  | cons c components ih =>
    rw [List.foldlM_cons, List.forall_mem_cons]
    constructor
    · rintro ⟨u', h⟩
      obtain ⟨u₁, hc, h⟩ := bind_eq_ok.1 h
      exact ⟨accepts_iff.2 ⟨u, u₁, hc⟩, ih.1 ⟨u', h⟩⟩
    · rintro ⟨hc, hcomponents⟩
      obtain ⟨u₁, hu₁⟩ := hc u
      obtain ⟨u', hu'⟩ := (ih (u := u₁)).2 hcomponents
      exact ⟨u', bind_eq_ok.2 ⟨u₁, hu₁, hu'⟩⟩

/-- A member is left alone by a component that does not have the name of the handlers that assign
    to it. -/
theorem parseComponent_keeps {β : Type} {member : Uri → β} {attr : Bytes}
    (hmember : ∀ c ∈ ucmap files, c.attr ≠ attr → ∀ str u u', c.handler str u = .ok u' →
      member u' = member u)
    (hname : ¬attr ++ [0x3D] <+: component) (h : parseComponent files u component = .ok u') :
    member u' = member u := by
  rcases parseComponent_ok h with rfl | ⟨c, hc, hpre, h⟩
  · rfl
  · refine hmember c hc (fun hattr => hname ?_) _ u u' h
    rwa [hattr] at hpre

/-- A member is left alone by components of other names. -/
theorem foldlM_keeps {β : Type} {member : Uri → β}
    (h : components.foldlM (parseComponent files) u = .ok u')
    (hkeeps : ∀ c ∈ components, ∀ u u', parseComponent files u c = .ok u' → member u' = member u) :
    member u' = member u := by
  induction components generalizing u with
  | nil => rw [← Except.ok.inj h]
  | cons c components ih =>
    rw [List.foldlM_cons] at h
    obtain ⟨u₁, hc, h⟩ := bind_eq_ok.1 h
    rw [List.forall_mem_cons] at hkeeps
    rw [ih h hkeeps.2, hkeeps.1 u u₁ hc]

/-- The last component of a name assigns the member. -/
theorem foldlM_last {β : Type} (member : Uri → β) {pre : List Bytes}
    (h : (pre ++ component :: post).foldlM (parseComponent files) u = .ok u')
    (hkeeps : ∀ c ∈ post, ∀ u u', parseComponent files u c = .ok u' → member u' = member u) :
    ∃ u₁ u₂, parseComponent files u₁ component = .ok u₂ ∧ member u' = member u₂ := by
  rw [List.foldlM_append] at h
  obtain ⟨u₁, -, h⟩ := bind_eq_ok.1 h
  rw [List.foldlM_cons] at h
  obtain ⟨u₂, hcomponent, h⟩ := bind_eq_ok.1 h
  exact ⟨u₁, u₂, hcomponent, foldlM_keeps h hkeeps⟩

theorem parseUriAt_eq_some {uri : Bytes} : parseUriAt files uri = some u ↔
    uri.take 7 = ascii "pkcs11:" ∧ (uriComponents uri).foldlM (parseComponent files) {} = .ok u := by
  rw [parseUriAt_eq, parseUri, uriComponents]
  split
  · rename_i hscheme
    cases (uri.drop 7 |>.splitOnP isUriDelim).foldlM (parseComponent files) {} with
    | error e =>
      constructor
      · intro h
        cases h
      · rintro ⟨-, h⟩
        cases h
    | ok u₁ => exact ⟨fun h => ⟨hscheme, congrArg _ (Option.some.inj h)⟩,
        fun h => congrArg _ (Except.ok.inj h.2)⟩
  · rename_i hscheme
    exact iff_of_false (Option.some_ne_none u).symm fun h => hscheme h.1

/-! ## The grammar -/

/-- The numbers of a URI and of the configuration are those of a grammar. The texts that it says
    nothing about are those that are not `plain`. -/
structure NumbersRight (plain plainVersion : Bytes → Prop) (versionText : Bytes → Version → Prop)
    (files : PinFiles) (uri : Bytes) : Prop where
  /-- A component that is not accepted makes the parser fail, and nothing else does. -/
  parses : (∃ u, parseUriAt files uri = some u) ↔
    uri.take 7 = ascii "pkcs11:" ∧ ∀ c ∈ uriComponents uri, AcceptsComponent files c
  slotId : ∀ text, slotIdComp text ∈ uriComponents uri → plain text →
    (AcceptsComponent files (slotIdComp text) ↔
      Numeral text ∧ value text ≤ 0xFFFFFFFFFFFFFFFF)
  slotIdValue : ∀ u pre text post, parseUriAt files uri = some u →
    uriComponents uri = pre ++ slotIdComp text :: post → (∀ c ∈ post, ¬slotIdComp [] <+: c) →
    plain text → u.slotId = value text
  libraryVersion : ∀ text, libraryVersionComp text ∈ uriComponents uri → plainVersion text →
    (AcceptsComponent files (libraryVersionComp text) ↔ ∃ v, versionText text v)
  libraryVersionValue : ∀ u pre text post, parseUriAt files uri = some u →
    uriComponents uri = pre ++ libraryVersionComp text :: post →
    (∀ c ∈ post, ¬libraryVersionComp [] <+: c) → plainVersion text →
    versionText text u.libraryVersion
  cacheSessions : ∀ text n, plain text → (initCacheSessions (some text) = some n ↔
    Numeral text ∧ value text = n ∧ n ≤ maxConcurrentSessions)

/-- The versions of the scheme: the second number may be missing, and a number may have as many
    digits as it likes. -/
def SchemeVersion (text : Bytes) (v : Version) : Prop :=
  (∃ major minor, text = major ++ 0x2E :: minor ∧ (Numeral major ∧ value major = v.major.toNat) ∧
    (Numeral minor ∧ value minor = v.minor.toNat)) ∨
  (Numeral text ∧ value text = v.major.toNat ∧ v.minor = 0)

theorem initCacheSessions_plain (hplain : Plain text) : initCacheSessions (some text) = some n ↔
    Numeral text ∧ value text = n ∧ n ≤ maxConcurrentSessions := by
  have hat : parseUlongAt text text.length = parseUlong text := by
    have h : parseUlongAt (text ++ []) text.length = parseUlong text :=
      parseUlongAt_append fun _ hc => nomatch hc
    rwa [List.append_nil] at h
  rw [initCacheSessions, hat]
  cases h : parseUlong text with
  | error e =>
    refine ⟨fun he => (nomatch he), ?_⟩
    rintro ⟨hdigits, hval, hmax⟩
    rw [(parseUlong_plain hplain).2 ⟨hdigits, hval, hmax.trans (by decide)⟩] at h
    cases h
  | ok m =>
    obtain ⟨hdigits, hval, -⟩ := (parseUlong_plain hplain).1 h
    simp only
    split
    · rename_i hlt
      refine ⟨fun he => (nomatch he), ?_⟩
      rintro ⟨-, rfl, hmax⟩
      omega
    · rename_i hmax
      constructor
      · intro he
        obtain rfl := Option.some.inj he
        exact ⟨hdigits, hval, Nat.not_lt.1 hmax⟩
      · rintro ⟨-, rfl, -⟩
        rw [hval]

/-- Where a text does not start with white space or a sign, the numbers are decimal numerals that fit
    the member, and a version is two of them in at most seven bytes. -/
theorem numbersRight (files : PinFiles) (uri : Bytes) :
    NumbersRight Plain PlainVersion VersionText files uri where
  parses := by
    simp only [parseUriAt_eq_some, exists_and_left, foldlM_ok_iff]
  slotId text _ hplain := by
    simp only [accepts_iff, parseComponent_slotId, map_eq_ok, parseUlong_plain hplain]
    constructor
    · rintro ⟨u, _, n, ⟨hdigits, rfl, hfits⟩, -⟩
      exact ⟨hdigits, hfits⟩
    · rintro ⟨hdigits, hfits⟩
      exact ⟨{}, _, _, ⟨hdigits, rfl, hfits⟩, rfl⟩
  slotIdValue u pre text post h hcomponents hpost hplain := by
    obtain ⟨-, h⟩ := parseUriAt_eq_some.1 h
    rw [hcomponents] at h
    rw [slotIdComp_nil] at hpost
    have hmember : ∀ c ∈ ucmap files, c.attr ≠ ascii "slot-id" → ∀ str u u',
        c.handler str u = .ok u' → u'.slotId = u.slotId :=
      fun c hc hattr str u u' h => (handler_keeps files c hc str u u' h).1 hattr
    obtain ⟨u₁, u₂, htext, hu⟩ := foldlM_last (·.slotId) h fun c hc v v' hv =>
      parseComponent_keeps hmember (hpost c hc) hv
    obtain ⟨n, hn, rfl⟩ := map_eq_ok.1 (parseComponent_slotId.symm.trans htext)
    rw [hu, ((parseUlong_plain hplain).1 hn).2.1]
  libraryVersion text _ hplain := by
    simp only [accepts_iff, parseComponent_libraryVersion, map_eq_ok, parseVersion_plain hplain]
    constructor
    · rintro ⟨u, _, v, hv, -⟩
      exact ⟨v, hv⟩
    · rintro ⟨v, hv⟩
      exact ⟨{}, _, v, hv, rfl⟩
  libraryVersionValue u pre text post h hcomponents hpost hplain := by
    obtain ⟨-, h⟩ := parseUriAt_eq_some.1 h
    rw [hcomponents] at h
    rw [libraryVersionComp_nil] at hpost
    have hmember : ∀ c ∈ ucmap files, c.attr ≠ ascii "library-version" → ∀ str u u',
        c.handler str u = .ok u' → u'.libraryVersion = u.libraryVersion :=
      fun c hc hattr str u u' h => (handler_keeps files c hc str u u' h).2 hattr
    obtain ⟨u₁, u₂, htext, hu⟩ := foldlM_last (·.libraryVersion) h fun c hc v v' hv =>
      parseComponent_keeps hmember (hpost c hc) hv
    obtain ⟨w, hw, rfl⟩ := map_eq_ok.1 (parseComponent_libraryVersion.symm.trans htext)
    rw [hu]
    exact (parseVersion_plain hplain).1 hw
  cacheSessions text n hplain := initCacheSessions_plain hplain

/-- A version with one number is refused, which the scheme allows. -/
theorem not_numbersRight_scheme : ¬∀ files uri,
    NumbersRight (fun _ => True) (fun _ => True) SchemeVersion files uri := by
  intro h
  have hversion := (h (fun _ => .error .noent) (ascii "pkcs11:library-version=1")).libraryVersion
    (ascii "1") (by decide +kernel) trivial
  obtain ⟨u, hu⟩ := hversion.2 ⟨{ major := 1 }, .inr (by decide +kernel)⟩ {}
  exact nomatch hu

end P11Prov
