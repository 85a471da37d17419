import Mathlib.Data.List.Nodup
import P11Prov.Interaction.Traced

/-!
# Arrays that are filled

A computation that fills an array stores each item at the index that it counts, without
looking whether there is room for it; the array has as many entries as were allocated.
Every write is noted with its index.

* `Looks x`: `x` only looks.
* `Adds key ks x`: `x` adds items whose keys are some of `ks`, in their order. The rules
  go along with the code, so this is a matter of reading it. `AddsAt key ks x s` is for
  one array, where it matters what is found there.
* `Fills key ks spare x`: `x` may allocate the array anew, and then has room for items with
  the keys `ks` and for `spare` more.

From that, no write is out of bounds (`Fills.inBounds`), and if the keys are distinct
those of the items are (`Fills.nodup`).
-/

namespace Filling

open Interaction

variable {ε α β γ κ : Type}

/-- A write to an entry of an array, with the number of entries that are allocated. -/
structure Store where
  index : Nat
  alloc : Nat
  deriving DecidableEq

/-- The entry is one of those. -/
def Store.InBounds (e : Store) : Prop := e.index < e.alloc

instance (e : Store) : Decidable e.InBounds := inferInstanceAs (Decidable (_ < _))

/-- The items of an array, how many are counted, and the number of entries that are allocated. -/
structure Cells (α : Type) where
  items : List α := []
  num : Nat := 0
  alloc : Nat := 0
  deriving DecidableEq

/-- The count is that of the items. -/
def Cells.Counted (s : Cells α) : Prop := s.num = s.items.length

theorem Cells.counted_new (n : Nat) : ({ alloc := n } : Cells α).Counted := rfl

/-- With items behind those that are there. -/
def Cells.append (s : Cells α) (l : List α) : Cells α :=
  { s with items := s.items ++ l, num := s.num + l.length }

/-- A computation that fills an array and may fail. What it stored stays then. -/
abbrev Filler (ε α : Type) := ExceptT ε (StateT (Cells α) (Traced Store))

/-- Runs a computation on an array. -/
def Filler.exec (x : Filler ε α β) (s : Cells α) : Traced Store (Except ε β × Cells α) := x.run.run s

/-- Fails unless the condition holds. -/
def ensure (b : Bool) (e : ε) : Filler ε α Unit := if b then pure () else throw e

/-- Fails unless there is a value. -/
def expect (o : Option β) (e : ε) : Filler ε α β := ofExcept (o.elim (.error e) .ok)

/-- Writes to the entry that is next. -/
def touch : Filler ε α Unit := do
  let s ← get
  liftM (Traced.note ⟨s.num, s.alloc⟩ : Traced Store Unit)

/-- Stores an item. -/
def store (a : α) : Filler ε α Unit := do
  touch
  modify (·.append [a])

/-- Stores an item, if there is memory for what belongs to it. -/
def storeCopy (room : Bool) (e : ε) (a : α) : Filler ε α Unit := do
  touch
  ensure room e
  modify (·.append [a])

/-- Stores the items of a list, one after another. -/
def storeAll : List α → Filler ε α Unit
  | [] => pure ()
  | a :: l => do
    store a
    storeAll l

/-- An array without items is allocated, if there is memory for it; otherwise there is none, and the
    count is that of the last one. -/
def allocate (room : Bool) (e : ε) (n : Nat) : Filler ε α Unit := do
  let s ← get
  if room then set ({ alloc := n } : Cells α)
  else
    set ({ num := s.num } : Cells α)
    throw e

/-- Runs a computation on another array. -/
def within (other : Cells α) (x : Filler ε α β) : Filler ε α (Except ε β × Cells α) :=
  ExceptT.mk fun s => do
    let r ← x.exec other
    return (.ok r, s)

variable {x : Filler ε α β} {f : β → Filler ε α γ} {s : Cells α} {e : ε}

/-- What is next is done on what the first computation leaves, unless that fails. -/
theorem exec_bind (x : Filler ε α β) (f : β → Filler ε α γ) (s : Cells α) :
    (x >>= f).exec s = x.exec s >>= fun r =>
      match r.1 with
      | .ok b => (f b).exec r.2
      | .error e => pure (.error e, r.2) := by
  rcases hx : x.exec s with ⟨⟨r, s'⟩, log⟩
  cases r
  -- the transformers are unfolded here, and nowhere else
  all_goals
    change StateT.bind x (ExceptT.bindCont f) s = _
    change (x s >>= _) = _
    rw [show x s = _ from hx]
    rfl

theorem exec_bind_ok {b : β} {s' : Cells α} (h : (x.exec s).val = (.ok b, s')) :
    ((x >>= f).exec s).val = ((f b).exec s').val := by
  rw [exec_bind, Traced.val_bind, h]

theorem exec_bind_error {s' : Cells α} (h : (x.exec s).val = (.error e, s')) :
    ((x >>= f).exec s).val = (.error e, s') := by
  rw [exec_bind, Traced.val_bind, h]
  rfl

theorem Cells.append_nil (s : Cells α) : s.append [] = s := by
  rw [Cells.append, List.append_nil]
  rfl

theorem Cells.append_append (s : Cells α) (l l' : List α) :
    (s.append l).append l' = s.append (l ++ l') := by
  simp only [Cells.append, List.append_assoc, List.length_append, Nat.add_assoc]

theorem Cells.Counted.append (h : s.Counted) (l : List α) : (s.append l).Counted := by
  rw [Counted, Cells.append, List.length_append, h]

theorem exec_store (a : α) (s : Cells α) : (store a : Filler ε α Unit).exec s =
    ⟨(.ok (), s.append [a]), [⟨s.num, s.alloc⟩]⟩ := rfl

theorem exec_storeAll (l : List α) (s : Cells α) :
    ((storeAll l : Filler ε α Unit).exec s).val = (.ok (), s.append l) := by
  induction l generalizing s with
  | nil => rw [Cells.append_nil]; rfl
  | cons a l ih =>
    have hstore := congrArg Traced.val (exec_store a s : (store a : Filler ε α Unit).exec s = _)
    rw [storeAll, exec_bind_ok hstore, ih, Cells.append_append]
    rfl

/-! ## What is in the array in the end -/

/-- What a computation returns if it succeeds, with the items that it leaves. -/
def outcome (x : Filler ε α β) (s : Cells α) : Except ε (β × List α) :=
  (x.exec s).val.1.map (·, (x.exec s).val.2.items)

section Outcome

@[simp] theorem outcome_pure (b : β) : outcome (pure b : Filler ε α β) s = .ok (b, s.items) := rfl

theorem outcome_bind_ok {b : β} {s' : Cells α} (h : (x.exec s).val = (.ok b, s')) :
    outcome (x >>= f) s = outcome (f b) s' := by
  rw [outcome, exec_bind_ok h]
  rfl

theorem outcome_bind_error {s' : Cells α} (h : (x.exec s).val = (.error e, s')) :
    outcome (x >>= f) s = .error e := by
  rw [outcome, exec_bind_error h]
  rfl

theorem exec_of_outcome_ok {b : β} {l : List α} (h : outcome x s = .ok (b, l)) :
    ∃ s', (x.exec s).val = (.ok b, s') ∧ s'.items = l := by
  rcases hx : (x.exec s).val with ⟨e | b', s'⟩
  · rw [outcome, hx] at h
    exact nomatch h
  · rw [outcome, hx] at h
    obtain ⟨rfl, rfl⟩ := Prod.mk.inj (Except.ok.inj h)
    exact ⟨s', rfl, rfl⟩

theorem exec_of_outcome_error (h : outcome x s = .error e) : ∃ s', (x.exec s).val = (.error e, s') := by
  rcases hx : (x.exec s).val with ⟨e' | b, s'⟩
  · rw [outcome, hx] at h
    exact ⟨s', by rw [Except.error.inj h]⟩
  · rw [outcome, hx] at h
    exact nomatch h

theorem outcome_bind_of_ok {b : β} {l : List α} {r : Except ε (γ × List α)}
    (h : outcome x s = .ok (b, l)) (hf : ∀ s' : Cells α, s'.items = l → outcome (f b) s' = r) :
    outcome (x >>= f) s = r := by
  obtain ⟨s', hx, hs'⟩ := exec_of_outcome_ok h
  rw [outcome_bind_ok hx]
  exact hf s' hs'

theorem outcome_bind_of_error (h : outcome x s = .error e) : outcome (x >>= f) s = .error e := by
  obtain ⟨s', hx⟩ := exec_of_outcome_error h
  exact outcome_bind_error hx

@[simp] theorem outcome_get_bind {f : Cells α → Filler ε α γ} :
    outcome (get >>= f) s = outcome (f s) s := outcome_bind_ok rfl

@[simp] theorem outcome_ofExcept_bind {r : Except ε β} : outcome (ofExcept r >>= f) s =
    match r with
    | .ok b => outcome (f b) s
    | .error e => .error e := by
  rcases r with e | b
  · exact outcome_bind_error rfl
  · exact outcome_bind_ok rfl

@[simp] theorem outcome_expect_bind {o : Option β} : outcome (expect o e >>= f) s =
    match o with
    | some b => outcome (f b) s
    | none => .error e := by
  rw [expect, outcome_ofExcept_bind]
  rcases o <;> rfl

@[simp] theorem outcome_ensure {b : Bool} :
    outcome (ensure b e : Filler ε α Unit) s = if b then .ok ((), s.items) else .error e := by
  rcases b <;> rfl

@[simp] theorem outcome_ensure_bind {b : Bool} {f : Unit → Filler ε α γ} :
    outcome (ensure b e >>= f) s = if b then outcome (f ()) s else .error e := by
  rcases b
  · exact outcome_bind_error rfl
  · exact outcome_bind_ok rfl

@[simp] theorem outcome_store (a : α) :
    outcome (store a : Filler ε α Unit) s = .ok ((), s.items ++ [a]) := rfl

@[simp] theorem outcome_store_bind {a : α} {f : Unit → Filler ε α γ} :
    outcome (store a >>= f) s = outcome (f ()) (s.append [a]) := outcome_bind_ok rfl

@[simp] theorem outcome_storeCopy_bind {a : α} {f : Unit → Filler ε α γ} :
    outcome (storeCopy true e a >>= f) s = outcome (f ()) (s.append [a]) := outcome_bind_ok rfl

@[simp] theorem outcome_storeAll (l : List α) :
    outcome (storeAll l : Filler ε α Unit) s = .ok ((), s.items ++ l) := by
  rw [outcome, exec_storeAll]
  rfl

@[simp] theorem outcome_storeAll_bind {l : List α} {f : Unit → Filler ε α γ} :
    outcome (storeAll l >>= f) s = outcome (f ()) (s.append l) := outcome_bind_ok (exec_storeAll l s)

@[simp] theorem outcome_allocate_bind {n : Nat} {f : Unit → Filler ε α γ} :
    outcome (allocate true e n >>= f) s = outcome (f ()) { alloc := n } := outcome_bind_ok rfl

@[simp] theorem outcome_within_bind {other : Cells α} {f : Except ε β × Cells α → Filler ε α γ} :
    outcome (within other x >>= f) s = outcome (f (x.exec other).val) s := outcome_bind_ok rfl

end Outcome

/-! ## Looking only -/

/-- The computation leaves the array alone. -/
def Looks (x : Filler ε α β) : Prop := ∀ s, (x.exec s).val.2 = s ∧ (x.exec s).log = []

namespace Looks

theorem pure (b : β) : Looks (Pure.pure b : Filler ε α β) := fun _ => ⟨rfl, rfl⟩

theorem throw (e : ε) : Looks (MonadExcept.throw e : Filler ε α β) := fun _ => ⟨rfl, rfl⟩

theorem get : Looks (MonadState.get : Filler ε α (Cells α)) := fun _ => ⟨rfl, rfl⟩

theorem ensure (b : Bool) (e : ε) : Looks (Filling.ensure b e : Filler ε α Unit) := by
  rw [Filling.ensure]
  split
  · exact pure ()
  · exact throw e

theorem ofExcept (r : Except ε β) : Looks (MonadExcept.ofExcept r : Filler ε α β) := by
  rcases r with e | b
  · exact throw e
  · exact pure b

theorem expect (o : Option β) (e : ε) : Looks (Filling.expect o e : Filler ε α β) := ofExcept _

theorem bind (hx : Looks x) (hf : ∀ b, Looks (f b)) : Looks (x >>= f) := by
  intro s
  rcases hval : x.exec s with ⟨⟨r, s'⟩, log⟩
  obtain ⟨rfl, rfl⟩ : s' = s ∧ log = [] := by
    have hs := hx s
    rwa [hval] at hs
  rw [exec_bind, hval]
  cases r with
  | error e => exact ⟨rfl, rfl⟩
  | ok b => exact hf b s'

end Looks

/-! ## Adding items -/

variable {key : α → κ} {ks us : List κ}

/-- On an array, the computation adds items with some of the keys, in their order, and writes only to
    as many entries behind those that are there. -/
def AddsAt (key : α → κ) (ks : List κ) (x : Filler ε α β) (s : Cells α) : Prop :=
  ∃ l, (x.exec s).val.2 = s.append l ∧ (l.map key).Sublist ks ∧
    (x.exec s).All fun e => e.alloc = s.alloc ∧ e.index < s.items.length + ks.length

namespace AddsAt

theorem quiet (h : Looks x) : AddsAt key ks x s := by
  refine ⟨[], ?_, List.nil_sublist _, ?_⟩
  · rw [(h s).1, Cells.append_nil]
  · intro e he
    rw [(h s).2] at he
    exact absurd he List.not_mem_nil

theorem mono (h : AddsAt key ks x s) (hsub : ks.Sublist us) : AddsAt key us x s := by
  obtain ⟨l, hl, hkeys, hlog⟩ := h
  refine ⟨l, hl, hkeys.trans hsub, fun e he => ⟨(hlog e he).1, ?_⟩⟩
  exact Nat.lt_of_lt_of_le (hlog e he).2 (Nat.add_le_add_left hsub.length_le _)

theorem bind (hx : AddsAt key ks x s)
    (hf : ∀ b l, (x.exec s).val = (.ok b, s.append l) → (l.map key).Sublist ks →
      AddsAt key us (f b) (s.append l)) : AddsAt key (ks ++ us) (x >>= f) s := by
  obtain ⟨l, hl, hkeys, hlog⟩ := hx
  have hlen : l.length ≤ ks.length := by
    have hle := hkeys.length_le
    rwa [List.length_map] at hle
  have hlog' : (x.exec s).All fun e =>
      e.alloc = s.alloc ∧ e.index < s.items.length + (ks ++ us).length := by
    intro e he
    have hlt := (hlog e he).2
    rw [List.length_append]
    exact ⟨(hlog e he).1, by omega⟩
  rw [AddsAt, exec_bind]
  rcases hval : (x.exec s).val with ⟨e | b, s'⟩
  · -- the first computation fails, and what it added stays
    rw [hval] at hl
    obtain rfl : s' = _ := hl
    refine ⟨l, ?_, hkeys.trans (List.sublist_append_left _ _), .bind hlog' ?_⟩
    · rw [Traced.val_bind, hval]
      rfl
    · rw [hval]
      exact Traced.All.pure
  · rw [hval] at hl
    obtain rfl : s' = _ := hl
    obtain ⟨l', hl', hkeys', hlog''⟩ := hf b l hval hkeys
    refine ⟨l ++ l', ?_, ?_, .bind hlog' ?_⟩
    · rw [Traced.val_bind, hval, ← Cells.append_append]
      exact hl'
    · rw [List.map_append]
      exact hkeys.append hkeys'
    · rw [hval]
      intro e he
      obtain ⟨halloc, hlt⟩ := hlog'' e he
      rw [Cells.append, List.length_append] at hlt
      rw [List.length_append]
      exact ⟨halloc, by omega⟩

/-- What is looked up first adds nothing. -/
theorem after (hx : Looks x)
    (hf : ∀ b, (x.exec s).val.1 = .ok b → AddsAt key us (f b) s) : AddsAt key us (x >>= f) s := by
  refine (quiet hx : AddsAt key [] x s).bind fun b l hval hkeys => ?_
  obtain rfl : l = [] := List.map_eq_nil_iff.1 (List.sublist_nil.1 hkeys)
  rw [Cells.append_nil]
  exact hf b (congrArg Prod.fst hval)

/-- Where there is room for all of the keys, no write is out of bounds. -/
theorem inBounds (h : AddsAt key ks x s) (hroom : s.items.length + ks.length ≤ s.alloc) :
    (x.exec s).All Store.InBounds := by
  obtain ⟨-, -, -, hlog⟩ := h
  intro e he
  rw [Store.InBounds, (hlog e he).1]
  exact Nat.lt_of_lt_of_le (hlog e he).2 hroom

/-- On an array without items, those that are added are all there are. -/
theorem items {n : Nat} (h : AddsAt key ks x { alloc := n }) :
    (x.exec { alloc := n }).val.2.Counted ∧ (x.exec { alloc := n }).val.2.alloc = n ∧
      ((x.exec { alloc := n }).val.2.items.map key).Sublist ks := by
  obtain ⟨l, hl, hkeys, -⟩ := h
  rw [hl]
  exact ⟨(Cells.counted_new n).append l, rfl, hkeys⟩

end AddsAt

/-- The computation does so on every array. -/
def Adds (key : α → κ) (ks : List κ) (x : Filler ε α β) : Prop :=
  ∀ s : Cells α, s.Counted → AddsAt key ks x s

namespace Adds

theorem quiet (h : Looks x) : Adds key ks x := fun _ _ => .quiet h

theorem mono (h : Adds key ks x) (hsub : ks.Sublist us) : Adds key us x :=
  fun s hs => (h s hs).mono hsub

theorem store (a : α) : Adds key [key a] (Filling.store a : Filler ε α Unit) := by
  intro s hs
  refine ⟨[a], rfl, List.Sublist.refl _, fun e he => ?_⟩
  obtain rfl := List.mem_singleton.1 he
  exact ⟨rfl, hs ▸ Nat.lt_succ_self _⟩

theorem storeCopy (room : Bool) (e : ε) (a : α) : Adds key [key a] (Filling.storeCopy room e a) := by
  intro s hs
  rcases room
  · refine ⟨[], (Cells.append_nil s).symm, List.nil_sublist _, fun e he => ?_⟩
    obtain rfl := List.mem_singleton.1 he
    exact ⟨rfl, hs ▸ Nat.lt_succ_self _⟩
  · exact (store a : Adds key [key a] (Filling.store a : Filler ε α Unit)) s hs

theorem bind (hx : Adds key ks x) (hf : ∀ b, Adds key us (f b)) : Adds key (ks ++ us) (x >>= f) :=
  fun s hs => (hx s hs).bind fun b l _ _ => hf b _ (hs.append l)

/-- What is looked up first adds nothing. -/
theorem after (hx : Looks x) (hf : ∀ b, Adds key us (f b)) : Adds key us (x >>= f) :=
  fun s hs => .after hx fun b _ => hf b s hs

theorem storeAll (l : List α) : Adds key (l.map key) (Filling.storeAll l : Filler ε α Unit) := by
  induction l with
  | nil => exact quiet (.pure ())
  | cons a l ih => exact (store a).bind fun _ => ih

end Adds

/-! ## Arrays that are allocated -/

/-- The computation leaves the items, or replaces the array by one with items of the keys `ks`; if it
    succeeds that is done, and there is room for `spare` more. -/
def Fills (key : α → κ) (ks : List κ) (spare : Nat) (x : Filler ε α β) : Prop :=
  ∀ s, (x.exec s).All Store.InBounds ∧
    ((x.exec s).val.2.items = s.items ∨ ((x.exec s).val.2.items.map key).Sublist ks) ∧
    ∀ b, (x.exec s).val.1 = .ok b → (x.exec s).val.2.Counted ∧
      ((x.exec s).val.2.items.map key).Sublist ks ∧
        (x.exec s).val.2.items.length + spare ≤ (x.exec s).val.2.alloc

namespace Fills

variable {spare : Nat}

theorem inBounds (h : Fills key ks spare x) (s : Cells α) : (x.exec s).All Store.InBounds := (h s).1

/-- If the keys are distinct, so are those of the items. -/
theorem nodup (h : Fills key ks spare x) (hks : ks.Nodup) (hs : (s.items.map key).Nodup) :
    ((x.exec s).val.2.items.map key).Nodup := by
  rcases (h s).2.1 with hsame | hkeys
  · rwa [hsame]
  · exact hkeys.nodup hks

/-- A failure. -/
theorem throw (e : ε) : Fills key ks spare (MonadExcept.throw e : Filler ε α β) :=
  fun _ => ⟨Traced.All.pure, .inl rfl, fun _ h => nomatch h⟩

theorem mono (h : Fills key ks spare x) (hsub : ks.Sublist us) : Fills key us spare x := by
  intro s
  obtain ⟨hlog, hitems, hok⟩ := h s
  refine ⟨hlog, hitems.imp_right (·.trans hsub), fun b hb => ?_⟩
  obtain ⟨hcounted, hkeys, hroom⟩ := hok b hb
  exact ⟨hcounted, hkeys.trans hsub, hroom⟩

/-- The array is allocated with room for what is added. -/
theorem allocate {room : Bool} {n : Nat} {y : Filler ε α β} (hy : AddsAt key ks y { alloc := n })
    (hn : ks.length + spare ≤ n) : Fills key ks spare (Filling.allocate room e n >>= fun _ => y) := by
  intro s
  rcases room
  · -- without memory there is no array any more, and nothing was written
    exact ⟨fun _ h => absurd h List.not_mem_nil, .inr (List.nil_sublist ks), fun _ h => nomatch h⟩
  · have hexec : ((Filling.allocate true e n >>= fun _ => y) : Filler ε α β).exec s =
        y.exec { alloc := n } := by
      rw [exec_bind]
      rfl
    obtain ⟨hcounted, halloc, hkeys⟩ := hy.items
    have hlen := hkeys.length_le
    rw [List.length_map] at hlen
    rw [hexec]
    refine ⟨hy.inBounds ?_, .inr hkeys, fun _ _ => ⟨hcounted, hkeys, ?_⟩⟩
    · rw [List.length_nil, Nat.zero_add]
      exact Nat.le_of_add_right_le hn
    · rw [halloc]
      omega

/-- What comes before the allocation. -/
theorem after (hx : Looks x) (hf : ∀ b, Fills key ks spare (f b)) : Fills key ks spare (x >>= f) := by
  intro s
  rcases hval : x.exec s with ⟨⟨r, s'⟩, log⟩
  obtain ⟨rfl, rfl⟩ : s' = s ∧ log = [] := by
    have hs := hx s
    rwa [hval] at hs
  rw [exec_bind, hval]
  rcases r with e | b
  · exact throw e s'
  · exact hf b s'

theorem ofExcept {r : Except ε β} (h : ∀ b, r = .ok b → Fills key ks spare (f b)) :
    Fills key ks spare (MonadExcept.ofExcept r >>= f) := by
  rcases r with e | b
  · exact fun s => throw e s
  · exact h b rfl

/-- What is done on another array. -/
theorem within {other : Cells α} {g : Except ε β × Cells α → Filler ε α γ}
    (hx : (x.exec other).All Store.InBounds) (hg : Fills key ks spare (g (x.exec other).val)) :
    Fills key ks spare (Filling.within other x >>= g) := by
  intro s
  obtain ⟨hlog, hitems⟩ := hg s
  have hexec : (Filling.within other x : Filler ε α _).exec s =
      x.exec other >>= fun r => pure (.ok r, s) := rfl
  rw [exec_bind, hexec]
  exact ⟨.bind (.bind hx .pure) hlog, hitems⟩

/-- What is added to the array afterwards. -/
theorem bind (hx : Fills key ks spare x) (hf : ∀ b, Adds key us (f b)) (hus : us.length ≤ spare) :
    Fills key (ks ++ us) (spare - us.length) (x >>= f) := by
  intro s
  obtain ⟨hlog, hitems, hok⟩ := hx s
  rw [exec_bind]
  rcases hval : (x.exec s).val with ⟨r, s'⟩
  rw [hval] at hitems hok
  rcases r with e | b
  · refine ⟨hlog.bind ?_, ?_, ?_⟩
    · rw [hval]
      exact Traced.All.pure
    · rw [Traced.val_bind, hval]
      exact hitems.imp_right (·.trans (List.sublist_append_left _ _))
    · rw [Traced.val_bind, hval]
      exact fun _ h => nomatch h
  · obtain ⟨hcounted, hkeys, hroom⟩ := hok b rfl
    obtain ⟨l, hl, hkeys', -⟩ := hf b s' hcounted
    have hsub : ((s'.append l).items.map key).Sublist (ks ++ us) := by
      rw [Cells.append, List.map_append]
      exact hkeys.append hkeys'
    have hlen := hkeys'.length_le
    rw [List.length_map] at hlen
    -- the room that was spare is what is written to
    have hle : s'.items.length + l.length + (spare - us.length) ≤ s'.alloc := by
      dsimp only at hroom
      omega
    have hle' : s'.items.length + us.length ≤ s'.alloc := by
      dsimp only at hroom
      omega
    refine ⟨hlog.bind ?_, .inr ?_, fun c _ => ?_⟩
    · rw [hval]
      exact (hf b s' hcounted).inBounds hle'
    · rw [Traced.val_bind, hval, hl]
      exact hsub
    · rw [Traced.val_bind, hval, hl]
      refine ⟨hcounted.append l, hsub, ?_⟩
      rw [Cells.append, List.length_append]
      exact hle

end Fills

end Filling
