import P11Prov.Options

/-!
# Options and the names that they list

An option that is a list of names ought to set the flags of the names that are among
its words, and the two parsers that can fail ought to do so if there is a word that is
not a name. They look for the first name that a word is the start of instead, with
`strncmp` over the length of the word (`optionOf_eq`), the exception being the usage of
a symmetric key, which compares the lengths but computes them as `int`s (`takenFor`).

So a start of a name sets its flag, and the empty word sets the first one. The
usage of a symmetric key has the opposite fault: it refuses an empty word, unless it is
the last one. The store has the highest number of the operations and cannot be blocked at all,
since the loop over the names stops before it.
-/

namespace P11Prov

open Tokens

/-- A C string: no byte of it is zero, and a `size_t` counts them. -/
structure CStr where
  bytes : Bytes
  zero_notMem : 0 ∉ bytes
  length_lt : bytes.length < 0x10000000000000000

/-- The words of an option. -/
def CStr.words (s : CStr) : List Bytes := Tokens.words isBlank s.bytes

/-! ## Tokens and words -/

variable {β : Type} {table : List (Bytes × β)} {w rest name str : Bytes} {ws : List Bytes}

/-- A token ends at a space, or where the string ends. -/
def EndsToken (rest : Bytes) : Prop := ∀ c ∈ rest.head?, isBlank c = true

theorem cString_append (h : 0 ∉ w) : cString w.length (w ++ rest) = w := by
  rw [cString, List.take_left' rfl, List.takeWhile_eq_self_iff]
  exact forall_ne_of_notMem h

theorem cString_name {n : Nat} (h : 0 ∉ name) : cString n name = name.take n := by
  rw [cString, List.takeWhile_eq_self_iff]
  exact forall_ne_of_notMem fun hmem => h (List.mem_of_mem_take hmem)

/-- With the length of the word, `strncmp` says whether the word is the start of the name. -/
theorem strncmpEq_word (hw : 0 ∉ w) (hname : 0 ∉ name) :
    strncmpEq w.length (w ++ rest) name = w.isPrefixOf name := by
  rw [strncmpEq, cString_append hw, cString_name hname, Bool.eq_iff_iff, beq_iff_eq,
    List.isPrefixOf_iff_prefix, List.prefix_iff_eq_take]

/-- A chain of comparisons takes the first name that the word is the start of. -/
theorem optionOf_eq (hw : 0 ∉ w) (htable : ∀ e ∈ table, 0 ∉ e.1) :
    optionOf table (w ++ rest) w.length = abbreviated table w := by
  rw [optionOf, abbreviated]
  congr 1
  exact List.find?_congr fun e he => strncmpEq_word hw (htable e he)

/-- The loop goes over the words, if its body needs no more than the word of a token. -/
theorem walkTokens_eq {m : Type → Type} [Monad m] [LawfulMonad m] {σ : Type}
    {step : Bytes → Nat → σ → m σ} {f : σ → Bytes → m σ} (s : σ) (h : 0 ∉ str)
    (hstep : ∀ w rest s, 0 ∉ w → step (w ++ rest) w.length s = f s w) :
    walkTokens step str str.length s = (Tokens.words isBlank str).foldlM f s := by
  induction str using Tokens.induction_on (p := isBlank) generalizing s with
  | last w hfree =>
    have hlast := hstep w [] s h
    rw [List.append_nil] at hlast
    rw [walkTokens, takeWhile_of_forall hfree, if_neg (Nat.lt_irrefl _), hlast, words_of_forall hfree,
      List.foldlM_cons]
    exact (bind_pure _).symm
  | cons w d rest hfree hd ih =>
    rw [List.mem_append, List.mem_cons, not_or, not_or] at h
    have hlen : (w ++ d :: rest).length - (w.length + 1) = rest.length := by
      rw [List.length_append, List.length_cons]
      omega
    rw [walkTokens, takeWhile_append_sep hfree hd, if_pos (by simp), hlen, drop_append_sep,
      hstep w _ s h.1, words_append hfree hd, List.foldlM_cons]
    exact bind_congr fun s => ih s h.2.2

/-- The flags of the names that are among the words. -/
def namedFlags [DecidableEq β] (table : List (Bytes × β)) (ws : List Bytes) (b : β) : Bool :=
  ws.any fun w => decide ((w, b) ∈ table)

theorem namedFlags_eq_true [DecidableEq β] {b : β} :
    namedFlags table ws b = true ↔ Named table ws b := by
  simp [namedFlags, Named]

/-! ## The usage of a key -/

theorem prefixFree_keyUsage : PrefixFree keyUsageNames := by
  unfold PrefixFree keyUsageNames
  decide +kernel

/-- The flags that the words set, in the order of the source. -/
def keyUsageFlags (ws : List Bytes) : KeyUsage → Bool :=
  ws.foldl (setFlag (abbreviated keyUsageNames)) fun _ => false

theorem keyUsageFlags_eq_true {u : KeyUsage} : keyUsageFlags ws u = true ↔
    ∃ w ∈ ws, abbreviated keyUsageNames w = some u := by
  rw [keyUsageFlags, foldl_setFlag]
  simp

theorem walkTokens_keyUsage (h : 0 ∉ str) :
    walkTokens keyUsageStep str str.length (fun _ => false) =
      if ∀ w ∈ Tokens.words isBlank str, (abbreviated keyUsageNames w).isSome
      then some (keyUsageFlags (Tokens.words isBlank str)) else none := by
  have hnames : ∀ e ∈ keyUsageNames, 0 ∉ e.1 := by decide
  have hstep : ∀ w rest (flags : KeyUsage → Bool), 0 ∉ w → keyUsageStep (w ++ rest) w.length flags =
      (abbreviated keyUsageNames w).map fun u => Function.update flags u true := by
    intro w rest flags hw
    rw [keyUsageStep, optionOf_eq hw hnames]
  rw [walkTokens_eq (fun _ => false) h hstep, foldlM_setFlag]
  rfl

theorem commonKeyUsageToTmpl_eq (s : CStr) (pub priv : List CkAttribute) :
    commonKeyUsageToTmpl (some s.bytes) pub priv =
      if ∀ w ∈ s.words, (abbreviated keyUsageNames w).isSome then
        (Ckr.ok, commonKeyUsageSetAttrs pub (keyUsageFlags s.words),
          commonKeyUsageSetAttrs priv (keyUsageFlags s.words))
      else (Ckr.argumentsBad, pub, priv) := by
  rw [commonKeyUsageToTmpl]
  simp only [walkTokens_keyUsage s.zero_notMem]
  by_cases hall : ∀ w ∈ s.words, (abbreviated keyUsageNames w).isSome
  · rw [if_pos hall, if_pos (show ∀ w ∈ Tokens.words isBlank s.bytes, _ from hall)]
    rfl
  · rw [if_neg hall, if_neg (show ¬∀ w ∈ Tokens.words isBlank s.bytes, _ from hall)]

/-- The templates tell the flags apart. -/
theorem commonKeyUsageSetAttrs_inj {f g : KeyUsage → Bool}
    (h : ∀ tmpl, commonKeyUsageSetAttrs tmpl f = commonKeyUsageSetAttrs tmpl g) : f = g := by
  have hval : ∀ {a b : Bool}, (if a then (1 : UInt8) else 0) = (if b then 1 else 0) → a = b := by decide
  -- one attribute for each of the flags
  have hattrs := h ([ckaEncrypt, ckaSign, ckaDerive, ckaWrap].map fun t => ⟨t, none, 0⟩)
  simp [commonKeyUsageSetAttrs, setBoolVal] at hattrs
  obtain ⟨henc, hsig, hder, hwrap⟩ := hattrs
  funext u
  rcases u with _ | _ | _ | _
  · exact hval henc
  · exact hval hsig
  · exact hval hder
  · exact hval hwrap

/-- The parser of the usage of a key fails for what is not a list of names, and sets the flags of the
    names. -/
def KeyUsageRight (s : CStr) : Prop :=
  ∀ pub priv : List CkAttribute,
    ((commonKeyUsageToTmpl (some s.bytes) pub priv).1 = Ckr.ok ↔ KnownWords keyUsageNames s.words) ∧
    ((commonKeyUsageToTmpl (some s.bytes) pub priv).1 = Ckr.ok →
      (commonKeyUsageToTmpl (some s.bytes) pub priv).2 =
        (commonKeyUsageSetAttrs pub (namedFlags keyUsageNames s.words),
          commonKeyUsageSetAttrs priv (namedFlags keyUsageNames s.words)))

/-- A word is the start of no name, or all words are names, the first of them among them if there is
    an empty word. -/
def KeyUsageFits (s : CStr) : Prop :=
  (∃ w ∈ s.words, ∀ e ∈ keyUsageNames, ¬w <+: e.1) ∨
    KnownWords keyUsageNames s.words ∧ ([] ∈ s.words → ascii "dataEncipherment" ∈ s.words)

theorem keyUsageFlags_eq_named : keyUsageFlags ws = namedFlags keyUsageNames ws ↔
    SpeltOut keyUsageNames ws := by
  rw [speltOut_iff prefixFree_keyUsage, funext_iff]
  refine forall_congr' fun u => ?_
  rw [Bool.eq_iff_iff, keyUsageFlags_eq_true, namedFlags_eq_true]

/-- The empty word stands for the first of the names. -/
theorem keyUsage_speltOut (h : KnownWords keyUsageNames ws) : SpeltOut keyUsageNames ws ↔
    ([] ∈ ws → ascii "dataEncipherment" ∈ ws) := by
  have hempty : abbreviated keyUsageNames [] = some .dataEncipherment := rfl
  have hname : ∀ name, (name, KeyUsage.dataEncipherment) ∈ keyUsageNames ↔
      name = ascii "dataEncipherment" := by
    simp [keyUsageNames]
  rw [speltOut_of_known prefixFree_keyUsage h]
  simp only [hempty, Option.some.injEq, forall_eq', Named, hname, exists_eq_right]

theorem keyUsageRight_iff (s : CStr) : KeyUsageRight s ↔ KeyUsageFits s := by
  have hbad : Ckr.argumentsBad ≠ Ckr.ok := by decide
  unfold KeyUsageRight
  simp only [commonKeyUsageToTmpl_eq]
  by_cases hall : ∀ w ∈ s.words, (abbreviated keyUsageNames w).isSome
  · have hstart : ¬∃ w ∈ s.words, ∀ e ∈ keyUsageNames, ¬w <+: e.1 := by
      rintro ⟨w, hw, hnone⟩
      have hsome := hall w hw
      rw [abbreviated_eq_none.2 hnone] at hsome
      cases hsome
    simp only [if_pos hall, true_iff, forall_const, Prod.mk.injEq]
    rw [KeyUsageFits, or_iff_right hstart]
    constructor
    · intro h
      refine ⟨(h [] []).1, (keyUsage_speltOut (h [] []).1).1 (keyUsageFlags_eq_named.1 ?_)⟩
      exact commonKeyUsageSetAttrs_inj fun tmpl => (h tmpl []).2.1
    · rintro ⟨hknown, hempty⟩ pub priv
      rw [keyUsageFlags_eq_named.2 ((keyUsage_speltOut hknown).2 hempty)]
      exact ⟨hknown, rfl, rfl⟩
  · -- the parser fails at a word that is the start of no name
    obtain ⟨w, hw, hnone⟩ : ∃ w ∈ s.words, abbreviated keyUsageNames w = none := by
      simpa using hall
    have hunknown := not_known_of_eq_none prefixFree_keyUsage (List.cons_ne_nil _ _) hw hnone
    simp only [if_neg hall, hbad, hunknown, false_implies, and_self, implies_true, true_iff]
    exact .inl ⟨w, hw, abbreviated_eq_none.1 hnone⟩

/-! ## The usage of a symmetric key -/

/-- A word is taken for a name that it starts with if its length is that of the name, computed as an
    `int`. -/
def takenFor (w : Bytes) : Option CipherUsage :=
  (cipherUsageNames.find? fun e => w.length % 0x100000000 = e.1.length ∧ e.1.isPrefixOf w).map (·.2)

theorem toInt_eq_iff {n k : Nat} (hk : k ≤ 0x7FFFFFFF) : toInt n = k ↔ n % 0x100000000 = k := by
  rw [toInt, Int.bmod_def]
  split <;> omega

/-- With the length of the name, `strncmp` says whether the name is the start of the token. -/
theorem strncmpEq_name (hname : 0 ∉ name) : strncmpEq name.length str name = name.isPrefixOf str := by
  rw [strncmpEq, cString_name (n := name.length) hname, List.take_length, Bool.eq_iff_iff, beq_iff_eq,
    List.isPrefixOf_iff_prefix, List.prefix_iff_eq_take]
  constructor
  · intro h
    have hpre : cString name.length str <+: str.take name.length := List.takeWhile_prefix _
    rw [h] at hpre
    exact hpre.eq_of_length_le (List.length_take_le _ _)
  · intro h
    rw [cString, ← h, List.takeWhile_eq_self_iff]
    exact forall_ne_of_notMem hname

theorem addCipherUsage_eq {m : Nat} (flags : Flags) (hrest : EndsToken rest)
    (hm : m % 0x100000000 = w.length % 0x100000000) : addCipherUsage (w ++ rest) (toInt m) flags =
      match takenFor w with
      | some u => .ok (flags ||| u.flags)
      | none => .error Ckr.argumentsBad := by
  have hnames : ∀ e ∈ cipherUsageNames, e.1.length ≤ 0x7FFFFFFF ∧ 0 ∉ e.1 ∧
      ∀ c ∈ e.1, isBlank c = false := by
    decide +kernel
  have hfind : (cipherUsageNames.find? fun e =>
      toInt m = e.1.length ∧ strncmpEq e.1.length (w ++ rest) e.1) =
        cipherUsageNames.find? fun e => w.length % 0x100000000 = e.1.length ∧ e.1.isPrefixOf w := by
    refine List.find?_congr fun e he => ?_
    obtain ⟨hlen, hzero, hblank⟩ := hnames e he
    rw [strncmpEq_name hzero, isPrefixOf_append hblank hrest, decide_eq_decide, toInt_eq_iff hlen, hm]
  rw [addCipherUsage, hfind, takenFor]
  cases cipherUsageNames.find? fun e => w.length % 0x100000000 = e.1.length ∧ e.1.isPrefixOf w <;> rfl

/-- What the loop makes of the words; `whole` if the length that is left is that of the words that
    are left. -/
def cipherUsageWords : List Bytes → Bool → Flags → Option (Except CkRv Flags)
  | [], _, flags => some (.ok flags)
  | w :: ws, whole, flags =>
    if ws = [] ∧ whole ∧ w = [] then some (.ok flags)
    else if ws ≠ [] ∧ w.length % 0x100000000 = intMax then none
    else
      match takenFor w with
      | none => some (.error Ckr.argumentsBad)
      | some u => cipherUsageWords ws (whole && w.length < 0x100000000) (flags ||| u.flags)

/-- The length of a word is that of the name it is taken for, and a multiple of what an `int` can
    count. -/
theorem length_of_takenFor {u : CipherUsage} (h : takenFor w = some u) :
    ∃ k, w.length % 0x100000000 = k ∧ 0 < k ∧ k ≤ 7 := by
  rw [takenFor, Option.map_eq_some_iff] at h
  obtain ⟨e, he, -⟩ := h
  have hnames : ∀ e ∈ cipherUsageNames, 0 < e.1.length ∧ e.1.length ≤ 7 := by decide
  have htaken := List.find?_some he
  rw [decide_eq_true_eq] at htaken
  exact ⟨_, htaken.1, hnames e (List.mem_of_find?_eq_some he)⟩

theorem cipherUsageLoop_eq (str : Bytes) (slen : Nat) (flags : Flags) (hlen : str.length ≤ slen)
    (hsize : slen < 0x10000000000000000) (hmod : slen % 0x100000000 = str.length % 0x100000000) :
    (cipherUsageLoop str slen flags).run =
      cipherUsageWords (Tokens.words isBlank str) (slen = str.length) flags := by
  induction str using Tokens.induction_on (p := isBlank) generalizing slen flags with
  | last w hfree =>
    have hw : addCipherUsage (w ++ []) (toInt slen) flags = _ :=
      addCipherUsage_eq flags (fun _ hc => nomatch hc) hmod
    rw [List.append_nil] at hw
    rw [cipherUsageLoop, words_of_forall hfree, cipherUsageWords, takeWhile_of_forall hfree]
    -- the loop ends without a last word only if nothing is left of the count either
    by_cases hslen : slen = 0
    · have hnil : w = [] := List.length_eq_zero_iff.1 (by omega)
      subst hnil
      rw [if_pos hslen, if_pos ⟨rfl, by simpa using hslen, rfl⟩]
      rfl
    · have hne : ¬(([] : List Bytes) = [] ∧ decide (slen = w.length) = true ∧ w = []) := by
        rintro ⟨-, hwhole, rfl⟩
        exact hslen (of_decide_eq_true hwhole)
      rw [if_neg hslen, if_neg (Nat.lt_irrefl _), if_neg hne, if_neg (fun h => h.1 rfl), hw]
      cases takenFor w <;> rfl
  | cons w d rest hfree hd ih =>
    have hlength : (w ++ d :: rest).length = w.length + (rest.length + 1) := by
      rw [List.length_append, List.length_cons]
    rw [hlength] at hlen hmod
    have hw : addCipherUsage (w ++ d :: rest) (toInt w.length) flags = _ :=
      addCipherUsage_eq flags (by rintro c ⟨⟩; exact hd) rfl
    have hint : toInt w.length = intMax ↔ w.length % 0x100000000 = intMax :=
      toInt_eq_iff (k := intMax) le_rfl
    rw [cipherUsageLoop, words_append hfree hd, cipherUsageWords, takeWhile_append_sep hfree hd,
      if_neg (by omega), if_pos (by omega), if_neg (fun h => words_ne_nil h.1),
      drop_append_sep, hw, incInt]
    by_cases hover : w.length % 0x100000000 = intMax
    · rw [if_pos (hint.2 hover), if_pos ⟨words_ne_nil, hover⟩]
      rfl
    rw [if_neg (mt hint.1 hover), if_neg (fun h => hover h.2)]
    cases htaken : takenFor w with
    | none => rfl
    | some u =>
      obtain ⟨k, hk, hpos, hle⟩ := length_of_takenFor htaken
      -- the count goes down by the length of the name, which may be less than that of the word
      have htoInt : toInt w.length = k := (toInt_eq_iff (by omega)).2 hk
      have hleft : toSize (slen - (toInt w.length + 1)) = slen - (k + 1) := by
        rw [toSize, htoInt]
        omega
      have hwhole : decide (slen - (k + 1) = rest.length) =
          (decide (slen = (w ++ d :: rest).length) && decide (w.length < 0x100000000)) := by
        rw [hlength, ← Bool.decide_and, decide_eq_decide]
        omega
      have hrest := ih (slen - (k + 1)) (flags ||| u.flags) (by omega) (by omega) (by omega)
      rw [hwhole] at hrest
      refine Eq.trans ?_ hrest
      rw [← hleft]
      rfl

theorem takenFor_name {u : CipherUsage} (h : (w, u) ∈ cipherUsageNames) :
    takenFor w = some u ∧ w ≠ [] ∧ w.length < 0x7FFFFFFF := by
  have hnames : ∀ e ∈ cipherUsageNames,
      takenFor e.1 = some e.2 ∧ e.1 ≠ [] ∧ e.1.length < 0x7FFFFFFF := by
    decide
  exact hnames _ h

/-- A word that an `int` can count is a name if it is taken for one. -/
theorem mem_of_takenFor {u : CipherUsage} (hlen : w.length < 0x100000000) (h : takenFor w = some u) :
    (w, u) ∈ cipherUsageNames := by
  rw [takenFor, Option.map_eq_some_iff] at h
  obtain ⟨⟨name, u⟩, he, rfl⟩ := h
  have htaken := List.find?_some he
  rw [decide_eq_true_eq, List.isPrefixOf_iff_prefix, Nat.mod_eq_of_lt hlen] at htaken
  rw [← htaken.2.eq_of_length htaken.1.symm]
  exact List.mem_of_find?_eq_some he

/-- The flags of the names that are among the words. -/
def namedUsage (ws : List Bytes) : Flags :=
  ((cipherUsageNames.filter fun e => e.1 ∈ ws).map (·.2.flags)).foldr (· ||| ·) 0

theorem testBit_foldr_or (l : List Nat) (i : Nat) :
    (l.foldr (· ||| ·) 0).testBit i = true ↔ ∃ n ∈ l, n.testBit i = true := by
  induction l with
  | nil => simp
  | cons n l ih => simp [ih]

theorem testBit_namedUsage (ws : List Bytes) (i : Nat) : (namedUsage ws).testBit i = true ↔
    ∃ u, Named cipherUsageNames ws u ∧ u.flags.testBit i = true := by
  rw [namedUsage, testBit_foldr_or]
  simp only [List.mem_map, List.mem_filter, decide_eq_true_eq, Named]
  constructor
  · rintro ⟨_, ⟨⟨name, u⟩, ⟨hmem, hname⟩, rfl⟩, hi⟩
    exact ⟨u, ⟨name, hname, hmem⟩, hi⟩
  · rintro ⟨u, ⟨name, hname, hmem⟩, hi⟩
    exact ⟨_, ⟨(name, u), ⟨hmem, hname⟩, rfl⟩, hi⟩

/-- A list of names sets their flags, if no word but the last is empty. -/
theorem cipherUsageWords_known (flags : Flags) (hknown : KnownWords cipherUsageNames ws)
    (hempty : [] ∉ ws.dropLast) : ∃ flags', cipherUsageWords ws true flags = some (.ok flags') ∧
      ∀ i, flags'.testBit i = true ↔
        flags.testBit i = true ∨ ∃ u, Named cipherUsageNames ws u ∧ u.flags.testBit i = true := by
  induction ws generalizing flags with
  | nil => exact ⟨flags, rfl, fun i => by simp [Named]⟩
  | cons w ws ih =>
    have hnil : ∀ u, ([], u) ∉ cipherUsageNames := by
      intro u hu
      exact (takenFor_name hu).2.1 rfl
    rw [cipherUsageWords]
    by_cases hw : w = []
    · subst hw
      have hlast : ws = [] := by
        by_contra hne
        rw [List.dropLast_cons_of_ne_nil hne] at hempty
        exact hempty List.mem_cons_self
      subst hlast
      refine ⟨flags, if_pos ⟨rfl, rfl, rfl⟩, fun i => ?_⟩
      simp [Named, hnil]
    · obtain ⟨u, hu⟩ := hknown w List.mem_cons_self hw
      obtain ⟨htaken, -, hlen⟩ := takenFor_name hu
      have hrest : [] ∉ ws.dropLast := by
        rcases eq_or_ne ws [] with rfl | hne
        · simp
        · rw [List.dropLast_cons_of_ne_nil hne, List.mem_cons, not_or] at hempty
          exact hempty.2
      obtain ⟨flags', hflags', hbits⟩ := ih (flags ||| u.flags)
        (fun v hv => hknown v (List.mem_cons_of_mem w hv)) hrest
      rw [if_neg (fun h => hw h.2.2), if_neg (fun h => absurd h.2 (by unfold intMax; omega)), htaken]
      refine ⟨flags', by simpa [show w.length < 4294967296 by omega] using hflags', fun i => ?_⟩
      have hunique : ∀ u', (w, u') ∈ cipherUsageNames ↔ u' = u := by
        intro u'
        refine ⟨fun h => ?_, fun h => h ▸ hu⟩
        exact Option.some.inj ((takenFor_name h).1.symm.trans htaken)
      rw [hbits, Nat.testBit_or, Bool.or_eq_true, or_assoc]
      simp only [Named, List.mem_cons, hunique, or_and_right, exists_or,
        exists_eq_left]

/-- A list of names is refused if a word before the last is empty. -/
theorem cipherUsageWords_empty (flags : Flags) (hknown : KnownWords cipherUsageNames ws)
    (hempty : [] ∈ ws.dropLast) :
    cipherUsageWords ws true flags = some (.error Ckr.argumentsBad) := by
  induction ws generalizing flags with
  | nil => cases hempty
  | cons w ws ih =>
    have hne : ws ≠ [] := by
      rintro rfl
      cases hempty
    rw [List.dropLast_cons_of_ne_nil hne, List.mem_cons] at hempty
    rw [cipherUsageWords, if_neg (fun h => hne h.1)]
    by_cases hw : w = []
    · subst hw
      exact if_neg fun h => absurd h.2 (by decide)
    · obtain ⟨u, hu⟩ := hknown w List.mem_cons_self hw
      obtain ⟨htaken, -, hlen⟩ := takenFor_name hu
      have hrest := ih (flags ||| u.flags) (fun v hv => hknown v (List.mem_cons_of_mem w hv))
        (hempty.resolve_left (Ne.symm hw))
      rw [if_neg (fun h => absurd h.2 (by unfold intMax; omega)), htaken]
      simpa [show w.length < 4294967296 by omega] using hrest

/-- The words from the first that is not taken for a name: there is one, and its length does not
    overflow unless it is the last word. -/
def StopsAtWord (ws : List Bytes) : Prop :=
  ∃ w post, ws.dropWhile (fun w => (takenFor w).isSome) = w :: post ∧
    (post = [] ∨ w.length % 0x100000000 ≠ intMax)

/-- What is not a list of names is refused at the first word that is not taken for one. -/
theorem cipherUsageWords_unknown {whole : Bool} (flags : Flags)
    (h : ¬(whole = true ∧ KnownWords cipherUsageNames ws)) :
    (∃ e, cipherUsageWords ws whole flags = some (.error e)) ↔ StopsAtWord ws := by
  induction ws generalizing whole flags with
  | nil => simp [cipherUsageWords, StopsAtWord]
  | cons w ws ih =>
    have hlast : ¬(ws = [] ∧ whole = true ∧ w = []) := by
      rintro ⟨rfl, hwhole, rfl⟩
      refine h ⟨hwhole, fun v hv hne => absurd (List.mem_singleton.1 hv) hne⟩
    rw [cipherUsageWords, if_neg hlast, StopsAtWord]
    cases htaken : takenFor w with
    | none =>
      rw [List.dropWhile_cons_of_neg (by simp [htaken])]
      by_cases hover : ws ≠ [] ∧ w.length % 0x100000000 = intMax
      · rw [if_pos hover]
        refine iff_of_false (fun ⟨_, he⟩ => nomatch he) ?_
        rintro ⟨w', post, he, hstop⟩
        obtain ⟨rfl, rfl⟩ := List.cons.inj he
        exact hstop.elim hover.1 fun hne => hne hover.2
      · rw [if_neg hover]
        exact iff_of_true ⟨_, rfl⟩ ⟨w, ws, rfl, by tauto⟩
    | some u =>
      obtain ⟨k, hk, -, hle⟩ := length_of_takenFor htaken
      rw [List.dropWhile_cons_of_pos (by simp [htaken]),
        if_neg (fun h => absurd h.2 (by unfold intMax; omega))]
      refine ih (flags ||| u.flags) ?_
      rw [Bool.and_eq_true, decide_eq_true_eq]
      rintro ⟨⟨hwhole, hlen⟩, hknown⟩
      refine h ⟨hwhole, fun v hv hne => ?_⟩
      rcases List.mem_cons.1 hv with rfl | hv
      · exact ⟨u, mem_of_takenFor hlen htaken⟩
      · exact hknown v hv hne

/-- The parser of the usage of a symmetric key is defined, fails for what is not a list of names, and
    gives the flags of the names. -/
def CipherUsageRight (s : CStr) : Prop :=
  ∃ r, cipherUsageToFlags (some s.bytes) = some r ∧
    ((∃ flags, r = .ok flags) ↔ KnownWords cipherUsageNames s.words) ∧
    ∀ flags, r = .ok flags → flags = namedUsage s.words

/-- All words are names, no word but the last being empty, or some word is not taken for a name. -/
def CipherUsageFits (s : CStr) : Prop :=
  (KnownWords cipherUsageNames s.words ∧ [] ∉ s.words.dropLast) ∨
    (¬KnownWords cipherUsageNames s.words ∧ StopsAtWord s.words)

theorem cipherUsageToFlags_eq (s : CStr) :
    cipherUsageToFlags (some s.bytes) = cipherUsageWords s.words true 0 := by
  have h := cipherUsageLoop_eq s.bytes s.bytes.length 0 le_rfl s.length_lt rfl
  rw [decide_eq_true rfl] at h
  exact h

theorem cipherUsageRight_iff (s : CStr) : CipherUsageRight s ↔ CipherUsageFits s := by
  unfold CipherUsageRight
  rw [cipherUsageToFlags_eq, CipherUsageFits]
  by_cases hknown : KnownWords cipherUsageNames s.words
  · simp only [hknown, true_and, not_true_eq_false, false_and, or_false, iff_true]
    by_cases hempty : [] ∈ s.words.dropLast
    · rw [cipherUsageWords_empty 0 hknown hempty]
      simp [hempty]
    · obtain ⟨flags, hflags, hbits⟩ := cipherUsageWords_known 0 hknown hempty
      refine iff_of_true ⟨_, hflags, ⟨flags, rfl⟩, ?_⟩ hempty
      intro flags' h
      obtain rfl := Except.ok.inj h
      refine Nat.eq_of_testBit_eq fun i => ?_
      rw [Bool.eq_iff_iff, hbits, testBit_namedUsage]
      simp
  · have hstops : (∃ e, cipherUsageWords s.words true 0 = some (.error e)) ↔ StopsAtWord s.words :=
      cipherUsageWords_unknown 0 fun h => hknown h.2
    rw [← hstops]
    simp only [hknown, false_and, not_false_iff, true_and, false_or, iff_false]
    constructor
    · rintro ⟨r, hr, hnone, -⟩
      rcases r with e | flags
      · exact ⟨e, hr⟩
      · exact absurd ⟨flags, rfl⟩ hnone
    · rintro ⟨e, he⟩
      exact ⟨_, he, fun ⟨_, h⟩ => (nomatch h), fun _ h => nomatch h⟩

/-! ## The configuration -/

theorem prefixFree_quirk : PrefixFree quirkNames := by
  unfold PrefixFree quirkNames
  decide +kernel

/-- Whether a quirk is set. -/
def CfgQuirks.has (ctx : CfgQuirks) : Quirk → Bool
  | .noDeinit => ctx.noDeinit
  | .noAllowedMechanisms => ctx.noAllowedMechanisms
  | .noOperationState => ctx.blockedCalls &&& blockGetOperationState ≠ 0
  | .noSessionCallbacks => ctx.noSessionCallbacks

theorem CfgQuirks.has_set (ctx : CfgQuirks) (q : Quirk) :
    (ctx.set q).has = Function.update ctx.has q true := by
  have hblocked : ((ctx.blockedCalls ||| blockGetOperationState) &&& blockGetOperationState) =
      blockGetOperationState := by
    ext i hi
    simp +contextual
  funext q'
  rcases eq_or_ne q' q with rfl | hne
  · rw [Function.update_self]
    rcases q' with _ | _ | _ | _
    · rfl
    · rfl
    · rw [CfgQuirks.set, CfgQuirks.has, hblocked]
      rfl
    · rfl
  · rw [Function.update_of_ne hne]
    rcases q with _ | _ | _ | _ <;> rcases q' with _ | _ | _ | _ <;> first | rfl | exact absurd rfl hne

/-- The quirks with that of a word, if there is one. -/
def CfgQuirks.takeWord (ctx : CfgQuirks) (w : Bytes) : CfgQuirks :=
  (abbreviated quirkNames w).elim ctx ctx.set

/-- A quirk is set by the words that stand for it. -/
theorem initQuirks_has (s : CStr) (q : Quirk) : (initQuirks (some s.bytes)).has q = true ↔
    ∃ w ∈ s.words, abbreviated quirkNames w = some q := by
  have hnames : ∀ e ∈ quirkNames, 0 ∉ e.1 := by decide
  have hstep : ∀ w rest (ctx : CfgQuirks), 0 ∉ w →
      quirkStep (w ++ rest) w.length ctx = (pure (ctx.takeWord w) : Id CfgQuirks) := by
    intro w rest ctx hw
    rw [quirkStep, optionOf_eq hw hnames, CfgQuirks.takeWord]
    cases abbreviated quirkNames w <;> rfl
  have hhas : ∀ (ctx : CfgQuirks) w,
      setFlag (abbreviated quirkNames) ctx.has w = (ctx.takeWord w).has := by
    intro ctx w
    simp only [setFlag, CfgQuirks.takeWord]
    cases abbreviated quirkNames w with
    | none => rfl
    | some q => exact (ctx.has_set q).symm
  have hinit : CfgQuirks.has {} = fun _ => false := by
    funext q
    rcases q with _ | _ | _ | _ <;> rfl
  have hwalk : initQuirks (some s.bytes) = s.words.foldl CfgQuirks.takeWord {} := by
    rw [initQuirks, walkTokens_eq {} s.zero_notMem hstep, List.foldlM_pure]
    rfl
  rw [hwalk, ← List.foldl_hom CfgQuirks.has hhas, hinit, foldl_setFlag]
  simp

/-- The quirks that are set are those whose names are listed. -/
def QuirksRight (s : CStr) : Prop :=
  ∀ q, (initQuirks (some s.bytes)).has q = true ↔ Named quirkNames s.words q

theorem quirksRight_iff (s : CStr) : QuirksRight s ↔ SpeltOut quirkNames s.words := by
  rw [speltOut_iff prefixFree_quirk]
  exact forall_congr' fun q => by rw [initQuirks_has]

variable {build : Build}

theorem prefixFree_blockOps (build : Build) : PrefixFree (blockOpsNames build) := by
  rcases build with ⟨signMessage, skeySupport⟩
  revert signMessage skeySupport
  unfold PrefixFree blockOpsNames
  decide +kernel

/-- The names that the loop over the operations gets to. -/
abbrev reachedOps (build : Build) : List (Bytes × Nat) :=
  (blockOpsNames build).filter fun e => e.2 < opHighest

/-- An operation is blocked by the words that stand for it. -/
theorem initBlockedOps_eq_true (s : CStr) (i : Nat) : initBlockedOps build (some s.bytes) i = true ↔
    ∃ w ∈ s.words, abbreviated (reachedOps build) w = some i := by
  have hnames : ∀ e ∈ reachedOps build, 0 ∉ e.1 := by
    intro e he
    have hall : ∀ signMessage skeySupport, ∀ e ∈ blockOpsNames ⟨signMessage, skeySupport⟩, 0 ∉ e.1 := by
      decide
    exact hall _ _ e (List.mem_filter.1 he).1
  have hstep : ∀ w rest (blocked : Nat → Bool), 0 ∉ w →
      blockOpStep build (w ++ rest) w.length blocked =
        (pure (setFlag (abbreviated (reachedOps build)) blocked w) : Id (Nat → Bool)) := by
    intro w rest blocked hw
    rw [blockOpStep, optionOf_eq hw hnames, setFlag]
    cases abbreviated (reachedOps build) w <;> rfl
  have hwalk : initBlockedOps build (some s.bytes) =
      s.words.foldl (setFlag (abbreviated (reachedOps build))) fun _ => false := by
    rw [initBlockedOps, walkTokens_eq _ s.zero_notMem hstep, List.foldlM_pure]
    rfl
  rw [hwalk, foldl_setFlag]
  simp

/-- The operations that are blocked are those whose names are listed. -/
def BlockedRight (build : Build) (s : CStr) : Prop :=
  ∀ i, initBlockedOps build (some s.bytes) i = true ↔ Named (blockOpsNames build) s.words i

/-- The highest number is that of the store. -/
theorem named_opHighest {build : Build} {ws : List Bytes} :
    Named (blockOpsNames build) ws opHighest ↔ ascii "store" ∈ ws := by
  have hname : ∀ name, (name, opHighest) ∈ blockOpsNames build ↔ name = ascii "store" := by
    intro name
    rcases build with ⟨signMessage, skeySupport⟩
    cases skeySupport <;> simp [blockOpsNames]
  simp only [Named, hname, exists_eq_right]

/-- The store, which has the highest number, is not listed, and the start of another operation's name
    comes with that name. -/
def BlockedFits (build : Build) (s : CStr) : Prop :=
  SpeltOut (reachedOps build) s.words ∧ ascii "store" ∉ s.words

theorem blockedRight_iff (build : Build) (s : CStr) : BlockedRight build s ↔ BlockedFits build s := by
  have hfree : PrefixFree (reachedOps build) := (prefixFree_blockOps build).filter _
  have hle : ∀ e ∈ blockOpsNames build, e.2 ≤ opHighest := by
    have hall : ∀ signMessage skeySupport, ∀ e ∈ blockOpsNames ⟨signMessage, skeySupport⟩,
        e.2 ≤ opHighest := by
      decide
    exact hall _ _
  have hreached : ∀ i, Named (reachedOps build) s.words i ↔
      Named (blockOpsNames build) s.words i ∧ i ≠ opHighest := by
    intro i
    simp only [Named, List.mem_filter, decide_eq_true_eq]
    constructor
    · rintro ⟨name, hname, hmem, hlt⟩
      exact ⟨⟨name, hname, hmem⟩, hlt.ne⟩
    · rintro ⟨⟨name, hname, hmem⟩, hne⟩
      exact ⟨name, hname, hmem, lt_of_le_of_ne (hle _ hmem) hne⟩
  unfold BlockedRight
  simp only [initBlockedOps_eq_true]
  rw [BlockedFits, speltOut_iff hfree, ← @named_opHighest build]
  simp only [hreached]
  constructor
  · intro h
    have hhighest : ¬Named (blockOpsNames build) s.words opHighest := by
      -- no entry that the loop gets to has the highest number
      rintro hnamed
      obtain ⟨w, hw, hb⟩ := (h _).2 hnamed
      obtain ⟨name, hmem, -⟩ := exists_of_abbreviated hb
      have hlt := (List.mem_filter.1 hmem).2
      simp at hlt
    refine ⟨fun i => ⟨fun hw => ⟨(h i).1 hw, ?_⟩, fun hn => (h i).2 hn.1⟩, hhighest⟩
    rintro rfl
    exact hhighest ((h _).1 hw)
  · rintro ⟨h, hhighest⟩ i
    rw [h i, and_iff_left_iff_imp]
    rintro hnamed rfl
    exact hhighest hnamed

/-! ## Exact names -/

/-- Each of the parsers reads a string as the list of the names that are among its words if, and only
    if, the string is as it needs it to be. -/
theorem optionNames_iff (s : CStr) :
    (KeyUsageRight s ↔ KeyUsageFits s) ∧ (CipherUsageRight s ↔ CipherUsageFits s) ∧
      (QuirksRight s ↔ SpeltOut quirkNames s.words) ∧
      ∀ build, (BlockedRight build s ↔ BlockedFits build s) :=
  ⟨keyUsageRight_iff s, cipherUsageRight_iff s, quirksRight_iff s,
    fun build => blockedRight_iff build s⟩

/-- The empty string sets the first usage of a key, a second space between two usages of a symmetric key
    is refused, the start of a quirk is the quirk, and the store is not blocked, with or without keys for
    symmetric ciphers. -/
theorem not_optionNames :
    ¬KeyUsageRight ⟨[], by decide, by decide⟩ ∧
      ¬CipherUsageRight ⟨ascii "encrypt  mac", by decide, by decide⟩ ∧
      ¬QuirksRight ⟨ascii "no", by decide, by decide⟩ ∧
      ¬BlockedRight ⟨false, false⟩ ⟨ascii "store", by decide, by decide⟩ ∧
      ¬BlockedRight ⟨true, true⟩ ⟨ascii "store", by decide, by decide⟩ := by
  refine ⟨fun h => ?_, fun h => ?_, fun h => ?_, fun h => ?_, fun h => ?_⟩
  · rcases (keyUsageRight_iff _).1 h with ⟨w, hw, hnone⟩ | ⟨-, hempty⟩
    · obtain rfl := List.mem_singleton.1 hw
      exact hnone _ List.mem_cons_self List.nil_prefix
    · exact absurd (hempty List.mem_cons_self) (by decide +kernel)
  · obtain ⟨_, hr, ⟨-, hknown⟩, -⟩ := h
    have hwords : ∀ w ∈ CStr.words ⟨ascii "encrypt  mac", by decide, by decide⟩, w ≠ [] →
        w = ascii "encrypt" ∨ w = ascii "mac" := by decide +kernel
    obtain ⟨flags, rfl⟩ := hknown fun w hw hne => by
      rcases hwords w hw hne with rfl | rfl
      · exact ⟨.encrypt, by decide⟩
      · exact ⟨.mac, by decide⟩
    -- between the two spaces there is an empty word, and it is not the last one
    have hrefused : cipherUsageWords (CStr.words ⟨ascii "encrypt  mac", by decide, by decide⟩) true 0 =
        some (.error Ckr.argumentsBad) := by decide +kernel
    rw [cipherUsageToFlags_eq, hrefused] at hr
    cases hr
  · obtain ⟨name, hname, hmem⟩ := (quirksRight_iff _).1 h (ascii "no") List.mem_cons_self .noDeinit rfl
    obtain rfl := List.mem_singleton.1 hname
    exact absurd hmem (by decide)
  · exact ((blockedRight_iff _ _).1 h).2 List.mem_cons_self
  · exact ((blockedRight_iff _ _).1 h).2 List.mem_cons_self

end P11Prov
