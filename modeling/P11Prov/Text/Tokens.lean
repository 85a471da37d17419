import Mathlib.Data.List.Find
import Mathlib.Data.List.TakeWhile
import Mathlib.Logic.Function.Basic
import Mathlib.Tactic.Common

/-!
# Texts cut at separators

A text that is a list of words, with a separator between each of them and the
next. Code walks along such a text by looking for the next separator
(`induction_on`), and the words are what it passes (`words_append`, `words_of_forall`).

A word may be looked up in a table of names, where it stands for the first name
that it is the start of (`abbreviated`). If no name of the table is the start of
another, every name stands for itself (`abbreviated_name`), and the words mean what
the names among them mean if every abbreviated name is there as well (`speltOut_iff`).
-/

namespace Tokens

variable {α β : Type} {p : α → Bool} {w rest s : List α} {d : α}

/-- The words of a text. -/
def words (p : α → Bool) (s : List α) : List (List α) := s.splitOnP p

/-- A text is a last word, or a word with a separator and a text after it. -/
@[elab_as_elim]
theorem induction_on {motive : List α → Prop} (s : List α)
    (last : ∀ w, (∀ c ∈ w, p c = false) → motive w)
    (cons : ∀ w d rest, (∀ c ∈ w, p c = false) → p d = true → motive rest →
      motive (w ++ d :: rest)) : motive s := by
  induction h : s.length using Nat.strong_induction_on generalizing s with
  | _ n ih =>
    subst h
    have hw : ∀ c ∈ s.takeWhile (!p ·), p c = false := by
      intro c hc
      simpa using List.mem_takeWhile_imp hc
    have hs : s.takeWhile (!p ·) ++ s.dropWhile (!p ·) = s := List.takeWhile_append_dropWhile
    cases hrest : s.dropWhile (!p ·) with
    | nil =>
      rw [hrest, List.append_nil] at hs
      exact last s (hs ▸ hw)
    | cons d rest =>
      have hd : p d = true := by
        have hhead := List.head?_dropWhile_not (!p ·) s
        rw [hrest] at hhead
        simpa using hhead
      rw [hrest] at hs
      rw [← hs]
      -- the walk goes on behind the separator, so with a shorter text
      refine cons _ d rest hw hd (ih rest.length ?_ rest rfl)
      rw [← hs, List.length_append, List.length_cons]
      omega

theorem words_of_forall (h : ∀ c ∈ w, p c = false) : words p w = [w] :=
  List.splitOnP_eq_singleton h

theorem words_append (h : ∀ c ∈ w, p c = false) (hd : p d = true) :
    words p (w ++ d :: rest) = w :: words p rest :=
  List.splitOnP_append_cons_of_forall_mem h d hd rest

theorem words_ne_nil : words p s ≠ [] := List.splitOnP_ne_nil p s

/-- What is in front of the first separator. -/
theorem takeWhile_append_sep (h : ∀ c ∈ w, p c = false) (hd : p d = true) :
    (w ++ d :: rest).takeWhile (!p ·) = w := by
  rw [List.takeWhile_append_of_pos (by simpa using h), List.takeWhile_cons_of_neg (by simp [hd]),
    List.append_nil]

theorem takeWhile_of_forall (h : ∀ c ∈ w, p c = false) : w.takeWhile (!p ·) = w :=
  List.takeWhile_eq_self_iff.2 (by simpa using h)

/-- What is behind the first separator. -/
theorem drop_append_sep : (w ++ d :: rest).drop (w.length + 1) = rest := by
  rw [← List.drop_drop, List.drop_left' rfl]
  rfl

theorem forall_ne_of_notMem [DecidableEq α] (h : d ∉ w) : ∀ c ∈ w, decide (c ≠ d) = true := by
  intro c hc
  rw [decide_eq_true_eq]
  rintro rfl
  exact h hc

/-! ## Abbreviated names -/

section Table

variable [BEq α] [LawfulBEq α] {table : List (List α × β)} {name : List α} {b : β}

/-- A name has no separator, so it is not the start of more than a word. -/
theorem isPrefixOf_append (hname : ∀ c ∈ name, p c = false) (hrest : ∀ c ∈ rest.head?, p c = true) :
    name.isPrefixOf (w ++ rest) = name.isPrefixOf w := by
  induction name generalizing w with
  | nil => rfl
  | cons c name ih =>
    cases w with
    | nil =>
      cases rest with
      | nil => rfl
      | cons d rest =>
        -- the name would go on with the separator
        have hne : (c == d) = false := by
          rw [beq_eq_false_iff_ne]
          rintro rfl
          exact absurd (hrest c rfl) (by simp [hname c List.mem_cons_self])
        simp [List.isPrefixOf, hne]
    | cons d w =>
      have hname' : ∀ c ∈ name, p c = false := fun d hd => hname d (List.mem_cons_of_mem c hd)
      simp [List.isPrefixOf, ih hname']

/-- The entry of the first name that the word is the start of. -/
def abbreviated (table : List (List α × β)) (w : List α) : Option β :=
  (table.find? fun e => w.isPrefixOf e.1).map (·.2)

/-- No name of the table is the start of another one. -/
def PrefixFree (table : List (List α × β)) : Prop :=
  table.Pairwise fun e e' => e.1.isPrefixOf e'.1 = false ∧ e'.1.isPrefixOf e.1 = false

theorem abbreviated_name (hfree : PrefixFree table) (h : (name, b) ∈ table) :
    abbreviated table name = some b := by
  induction table with
  | nil => cases h
  | cons e table ih =>
    rw [PrefixFree, List.pairwise_cons] at hfree
    rcases List.mem_cons.1 h with rfl | h
    · simp [abbreviated, List.isPrefixOf_iff_prefix]
    · have hne : ¬name.isPrefixOf e.1 = true := by
        rw [(hfree.1 _ h).2]
        decide
      have hfind : (e :: table).find? (fun e => name.isPrefixOf e.1) =
          table.find? fun e => name.isPrefixOf e.1 := List.find?_cons_of_neg hne
      rw [← ih hfree.2 h, abbreviated, hfind, abbreviated]

/-- An abbreviated name is in the table, and the word is its start. -/
theorem exists_of_abbreviated (h : abbreviated table w = some b) :
    ∃ name, (name, b) ∈ table ∧ w <+: name := by
  rw [abbreviated, Option.map_eq_some_iff] at h
  obtain ⟨e, he, rfl⟩ := h
  have hpre : w.isPrefixOf e.1 = true :=
    List.find?_some (p := fun e : List α × β => w.isPrefixOf e.1) he
  exact ⟨e.1, List.mem_of_find?_eq_some he, List.isPrefixOf_iff_prefix.1 hpre⟩

theorem abbreviated_eq_none : abbreviated table w = none ↔ ∀ e ∈ table, ¬w <+: e.1 := by
  simp [abbreviated, List.isPrefixOf_iff_prefix]

variable {ws : List (List α)}

/-- A name of the entry is among the words. -/
def Named (table : List (List α × β)) (ws : List (List α)) (b : β) : Prop :=
  ∃ name ∈ ws, (name, b) ∈ table

/-- Every word is a name, unless it is empty. -/
def KnownWords (table : List (List α × β)) (ws : List (List α)) : Prop :=
  ∀ w ∈ ws, w ≠ [] → ∃ b, (w, b) ∈ table

/-- Every word that is the start of a name comes with that name. -/
def SpeltOut (table : List (List α × β)) (ws : List (List α)) : Prop :=
  ∀ w ∈ ws, ∀ b, abbreviated table w = some b → Named table ws b

/-- Abbreviations make no difference if the names are there as well. -/
theorem speltOut_iff (hfree : PrefixFree table) : SpeltOut table ws ↔
    ∀ b, (∃ w ∈ ws, abbreviated table w = some b) ↔ Named table ws b := by
  constructor
  · rintro h b
    constructor
    · rintro ⟨w, hw, hb⟩
      exact h w hw b hb
    · rintro ⟨name, hname, hb⟩
      exact ⟨name, hname, abbreviated_name hfree hb⟩
  · exact fun h w hw b hb => (h b).1 ⟨w, hw, hb⟩

/-- Where every word is a name, only an empty one can abbreviate another. -/
theorem speltOut_of_known (hfree : PrefixFree table) (hknown : KnownWords table ws) :
    SpeltOut table ws ↔ ([] ∈ ws → ∀ b, abbreviated table [] = some b → Named table ws b) := by
  refine ⟨fun h hnil => h [] hnil, fun h w hw b hb => ?_⟩
  by_cases hne : w = []
  · subst hne
    exact h hw b hb
  · obtain ⟨b', hb'⟩ := hknown w hw hne
    rw [abbreviated_name hfree hb'] at hb
    exact ⟨w, hw, Option.some.inj hb ▸ hb'⟩

/-- What abbreviates nothing is not a name, nor empty. -/
theorem not_known_of_eq_none (hfree : PrefixFree table) (hne : table ≠ []) (hw : w ∈ ws)
    (h : abbreviated table w = none) : ¬KnownWords table ws := by
  intro hknown
  have hempty : w ≠ [] := by
    rintro rfl
    obtain ⟨e, rest, rfl⟩ := List.exists_cons_of_ne_nil hne
    exact abbreviated_eq_none.1 h e List.mem_cons_self List.nil_prefix
  obtain ⟨b, hb⟩ := hknown w hw hempty
  rw [abbreviated_name hfree hb] at h
  cases h

end Table

/-! ## Flags that words set -/

section Flags

variable [DecidableEq β] {g : List α → Option β} {flags : β → Bool} {ws : List (List α)} {b : β}

/-- A word sets the flag that `g` has for it, if any. -/
def setFlag (g : List α → Option β) (flags : β → Bool) (w : List α) : β → Bool :=
  match g w with
  | some b => Function.update flags b true
  | none => flags

theorem setFlag_eq_true : setFlag g flags w b = true ↔ flags b = true ∨ g w = some b := by
  rw [setFlag]
  cases g w with
  | none => simp
  | some b' =>
    rcases eq_or_ne b b' with rfl | hne
    · simp
    · simp [Function.update_of_ne hne, hne.symm]

theorem foldl_setFlag : ws.foldl (setFlag g) flags b = true ↔
    flags b = true ∨ ∃ w ∈ ws, g w = some b := by
  induction ws generalizing flags with
  | nil => simp
  | cons w ws ih =>
    rw [List.foldl_cons, ih, setFlag_eq_true, or_assoc]
    simp only [List.mem_cons, exists_eq_or_imp]

/-- If a word without a flag is an error, all of the words have one or there are no flags. -/
theorem foldlM_setFlag : (ws.foldlM (fun flags w => (g w).map fun b => Function.update flags b true)
    flags) = if ∀ w ∈ ws, (g w).isSome then some (ws.foldl (setFlag g) flags) else none := by
  induction ws generalizing flags with
  | nil => simp
  | cons w ws ih =>
    rw [List.foldlM_cons, List.foldl_cons, setFlag]
    cases hw : g w with
    | none => simp [hw]
    | some b => simp [hw, ih]

end Flags

end Tokens
