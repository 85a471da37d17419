import P11Prov.Session.LoginProtocol
import P11Prov.Run
import Mathlib.Data.Set.Insert

/-!
# One login session

The functions of the session layer follow the `loginProtocol`, from any view of
their own sessions; so its invariant holds at any point of any interleaving of
any number of callers. `login_unique` reads off it what this means for the
login session and the bound of the pool.
-/

namespace P11Prov

open Interaction

namespace View

/-- The sessions a thread holds. -/
def dom (v : View) : Set SessId := {s | v.held s ≠ none}

/-- Between two functions: no step is outstanding, and the sessions held are in use with
    counters that cover their marks. -/
structure Ok (v : View) : Prop where
  mode : v.mode = .idle
  held : ∀ s x, v.held s = some x → x.inUse ∧ x.Counted

end View

section Rules

variable {slot : Slot} {v v' : View} {s : SessId} {x : Session} {α : Type} {Q : α → View → Prop}

theorem View.Ok.set (hv : v.Ok) (hx : v.held s ≠ none) {y : Session} (hu : y.inUse) (hc : y.Counted) :
    View.Ok { v.set s (some y) with mode := .idle } ∧
      View.dom { v.set s (some y) with mode := .idle } = v.dom := by
  refine ⟨⟨rfl, fun s' x' hx' => ?_⟩, Set.ext fun s' => ?_⟩
  · by_cases hs : s' = s
    · subst hs
      obtain rfl := Option.some.inj ((View.set_held (v := v)).symm.trans hx')
      exact ⟨hu, hc⟩
    · exact hv.held s' x' ((View.set_held_ne (v := v) hs).symm.trans hx')
  · by_cases hs : s' = s
    · subst hs
      simp [View.dom, hx]
    · simp [View.dom, View.set_held_ne hs]

theorem follows_loadSess {k : Session → P α} (hx : v.held s = some x)
    (h : follows (loginProtocol slot) (k x) Q v) :
    follows (loginProtocol slot) (.call (Cmd.mem (.loadSess s)) k) Q v := by
  refine ⟨trivial, fun r hr => ?_⟩
  obtain rfl : r = x := hr x hx
  exact h

theorem follows_loadSess_any {k : Session → P α}
    (h : ∀ x, follows (loginProtocol slot) (k x) Q v) :
    follows (loginProtocol slot) (.call (Cmd.mem (.loadSess s)) k) Q v := ⟨trivial, fun r _ => h r⟩

theorem follows_storeSess {f : Session → Session} {k : Unit → P α} (hx : v.held s = some x)
    (hu : (f x).inUse) (hr : (f x).refcnt = x.refcnt) (ha : v.mode.Allows s x (f x))
    (h : follows (loginProtocol slot) (k ()) Q { v.set s (some (f x)) with mode := .idle }) :
    follows (loginProtocol slot) (.call (Cmd.mem (.storeSess s f)) k) Q v := by
  refine ⟨⟨x, hx, hu, hr, ha⟩, fun _ _ => ?_⟩
  simp only [loginProtocol, hx, Option.map_some]
  exact h

theorem follows_ref {k : Unit → P α} (hx : v.held s = some x)
    (h : follows (loginProtocol slot) (k ()) Q
      (v.set s (some { x with refcnt := x.refcnt + 1 }))) :
    follows (loginProtocol slot) (.call (Cmd.mem (.ref s)) k) Q v := by
  refine ⟨by simp [loginProtocol, hx], fun _ _ => ?_⟩
  simp only [loginProtocol, hx, Option.map_some]
  exact h

theorem follows_deref {k : Unit → P α} (hx : v.held s = some x)
    (h : follows (loginProtocol slot) (k ()) Q
      (v.set s (some { x with refcnt := x.refcnt - 1 }))) :
    follows (loginProtocol slot) (.call (Cmd.mem (.deref s)) k) Q v := by
  refine ⟨by simp [loginProtocol, hx], fun _ _ => ?_⟩
  simp only [loginProtocol, hx, Option.map_some]
  exact h

/-- A command that is always allowed and teaches nothing. -/
theorem follows_quiet {c : Cmd} {k : c.Resp → P α} (hp : (loginProtocol slot).pre v c)
    (hn : ∀ r, (loginProtocol slot).next v c r = v)
    (h : ∀ r, follows (loginProtocol slot) (k r) Q v) :
    follows (loginProtocol slot) (.call c k) Q v := by
  refine ⟨hp, fun r _ => ?_⟩
  rw [hn r]
  exact h r

end Rules

/-! ## Work on a session that is held -/

section Work

variable {slot : Slot} {v v' : View} {s : SessId} {x : Session} {flags : Flags} {ctx : Ctx}
  {uri : Option Uri} {pwCb : Bool}

/-- A thread holds the sessions it held before. -/
structure View.Same (v v' : View) : Prop where
  ok : v'.Ok
  dom : v'.dom = v.dom

theorem View.Same.refl (hv : v.Ok) : v.Same v := ⟨hv, rfl⟩

theorem View.Same.trans {v'' : View} (h : v.Same v') (h' : v'.Same v'') : v.Same v'' :=
  ⟨h'.ok, h'.dom.trans h.dom⟩

theorem View.Same.held (h : v.Same v') (hx : v.held s ≠ none) : v'.held s ≠ none :=
  (Set.ext_iff.1 h.dom s).2 hx

theorem View.Same.of_set (hv : v.Ok) (hx : v.held s = some x) {y : Session} (hu : y.inUse)
    (hc : y.Counted) : v.Same { v.set s (some y) with mode := .idle } := by
  obtain ⟨h₁, h₂⟩ := hv.set (s := s) (by simp [hx]) hu hc
  exact ⟨h₁, h₂⟩

/-- An assignment to a session that keeps its handle or drops it, and sets no mark. -/
theorem View.Ok.store (hv : v.Ok) (hx : v.held s = some x) {f : Session → Session}
    (hu : (f x).inUse = x.inUse) (hr : (f x).refcnt = x.refcnt)
    (hl : (f x).isLogin → x.isLogin) :
    v.Same { v.set s (some (f x)) with mode := .idle } := by
  obtain ⟨hu', hc⟩ := hv.held s x hx
  exact .of_set hv hx (hu.trans hu') ⟨hr ▸ hc.nonneg, fun h => hr ▸ hc.login (hl h)⟩

/-- A session that is not referred to is closed, and its handle dropped. -/
theorem follows_close {α : Type} {Q : α → View → Prop} {h : Handle} {f : Session → Session}
    {k : Unit → P α} (hv : v.Ok) (hx : v.held s = some x) (hs : x.session = h)
    (h0 : h ≠ ckInvalidHandle) (hl : x.isLogin = false) (hu : (f x).inUse = x.inUse)
    (hr : (f x).refcnt = x.refcnt) (hf : (f x).session = ckInvalidHandle)
    (hfl : (f x).isLogin = x.isLogin)
    (hk : ∀ v', v.Same v' → follows (loginProtocol slot) (k ()) Q v') :
    follows (loginProtocol slot) (.call (Cmd.call (.closeSession h)) fun _ =>
      .call (Cmd.mem (.storeSess s f)) k) Q v := by
  refine ⟨⟨hv.mode, h0, s, x, hx, hs, hl⟩, fun _ _ => ?_⟩
  refine follows_storeSess (v := { v with mode := .closed h }) hx (hu.trans (hv.held s x hx).1) hr
    ⟨hs, hf, fun h => hfl ▸ h⟩ (hk _ ?_)
  exact hv.store hx hu hr fun h => hfl ▸ h

theorem sessionCheck_follows (hv : v.Ok) (hx : v.held s = some x) :
    follows (loginProtocol slot) (sessionCheck s flags) (fun _ v' => v.Same v') v := by
  obtain ⟨hu, hc⟩ := hv.held s x hx
  simp only [sessionCheck, Prog.perform_eq, Prog.call_bind, Prog.ret_bind]
  refine follows_loadSess hx ?_
  rw [if_neg (by simp [hu])]
  split
  · exact .refl hv
  rename_i h0
  refine follows_quiet trivial (fun _ => rfl) fun info => ?_
  split
  · have hst : v.Same { v.set s (some { x with state := info.2.state }) with mode := .idle } :=
      hv.store (f := fun x => { x with state := info.2.state }) hx rfl rfl id
    refine follows_storeSess hx hu rfl ?_ ?_
    · rw [hv.mode]
      exact ⟨.inl rfl, id⟩
    split
    · exact hst
    refine follows_loadSess View.set_held ?_
    split
    · exact hst
    · rename_i hr
      have hl : x.isLogin = false := by
        by_contra hl
        have := hc.login (by simpa using hl)
        simp only [ne_eq, not_not] at hr
        omega
      exact follows_close hst.ok View.set_held rfl h0 hl rfl rfl rfl rfl fun v' h => hst.trans h
  · refine follows_storeSess hx hu rfl ?_ ?_
    · rw [hv.mode]
      exact ⟨.inr rfl, id⟩
    · exact hv.store hx rfl rfl id

theorem openAttempts_follows {slotid : SlotId} {n : Nat} (hv : v.Ok) :
    follows (loginProtocol slot) (openAttempts slotid flags n) (fun r v' =>
      if r.1 = Ckr.ok then r.2 ≠ ckInvalidHandle ∧ v' = { v with mode := .opened r.2 slotid }
      else v' = v) v := by
  have hone : ∀ r : CkRv × Handle, (loginProtocol slot).adm v (.call (.openSession slotid flags)) r →
      if r.1 = Ckr.ok then r.2 ≠ ckInvalidHandle ∧
        (loginProtocol slot).next v (.call (.openSession slotid flags)) r =
          { v with mode := .opened r.2 slotid }
      else (loginProtocol slot).next v (.call (.openSession slotid flags)) r = v := by
    intro r hr
    by_cases hok : r.1 = Ckr.ok
    · simp only [hok, loginProtocol, ↓reduceIte, and_true]
      exact hr hok
    · simp only [hok, loginProtocol, ↓reduceIte]
  induction n with
  | zero => exact ⟨hv.mode, fun r hr => hone r hr⟩
  | succ n ih =>
    simp only [openAttempts, Prog.perform_eq, Prog.call_bind, Prog.ret_bind]
    refine ⟨hv.mode, fun r hr => ?_⟩
    beta_reduce
    split
    · rename_i hc
      have := hone r hr
      rw [if_neg (by simp [hc])] at this
      rw [this]
      exact ih
    · exact hone r hr

theorem tokenSessionOpen_follows (hv : v.Ok) (hx : v.held s = some x) :
    follows (loginProtocol slot) (tokenSessionOpen s flags) (fun ret v' => v.Same v' ∧
      (ret = Ckr.ok → ∃ y, v'.held s = some y ∧ y.session ≠ ckInvalidHandle)) v := by
  obtain ⟨hu, hc⟩ := hv.held s x hx
  simp only [tokenSessionOpen, Prog.perform_eq, Prog.call_bind, Prog.ret_bind]
  refine follows_quiet trivial (fun _ => rfl) fun n => ?_
  refine (openAttempts_follows hv).bind fun r v₁ h₁ => ?_
  by_cases hok : r.1 = Ckr.ok
  · rw [if_pos hok] at h₁
    obtain ⟨h0, rfl⟩ := h₁
    rw [if_neg (by simp [hok])]
    have hst := hv.store (f := fun x => { x with session := r.2, flags := flags }) hx rfl rfl id
    refine follows_storeSess (v := { v with mode := .opened r.2 s.slot }) hx hu rfl ⟨rfl, rfl, id⟩ ?_
    refine follows_quiet trivial (fun _ => rfl) fun info => ?_
    split
    · refine follows_storeSess View.set_held hu rfl ⟨.inl rfl, id⟩ ?_
      have hinfo := hst.ok.store (f := fun x => { x with flags := info.2.flags, state := info.2.state })
        View.set_held rfl rfl id
      exact ⟨hst.trans hinfo, fun _ => ⟨_, View.set_held, h0⟩⟩
    · rename_i hi
      exact ⟨hst, fun h => absurd h hi⟩
  · rw [if_neg hok] at h₁
    subst h₁
    rw [if_pos hok]
    refine follows_storeSess hx hu rfl ?_ ?_
    · rw [hv.mode]
      exact ⟨.inr rfl, id⟩
    · exact ⟨hv.store hx rfl rfl id, fun h => absurd h hok⟩

theorem tokenSessionClose_follows (hv : v.Ok) (hx : v.held s = some x) (hl : x.isLogin = false) :
    follows (loginProtocol slot) (tokenSessionClose s) (fun _ v' => v.Same v') v := by
  simp only [tokenSessionClose, Prog.perform_eq, Prog.call_bind, Prog.ret_bind]
  refine follows_loadSess hx ?_
  split
  · rename_i h0
    exact follows_close hv hx rfl h0 hl rfl rfl rfl rfl fun v' h => h
  · exact .refl hv

/-! ### Logging in -/

theorem loginPin_follows {slot' : Slot} :
    follows (loginProtocol slot) (loginPin ctx uri pwCb slot') (fun _ v' => v' = v) v := by
  simp only [loginPin, Prog.perform_eq, Prog.call_bind, Prog.ret_bind]
  split
  · exact rfl
  refine follows_quiet trivial (fun _ => rfl) fun pins => ?_
  split
  · exact rfl
  refine follows_quiet trivial (fun _ => rfl) fun pin => ?_
  split <;> exact rfl

theorem checkPinFlagsOk_follows {slotid : SlotId} :
    follows (loginProtocol slot) (checkPinFlagsOk slotid) (fun _ v' => v' = v) v := by
  simp only [checkPinFlagsOk, Prog.perform_eq, Prog.call_bind, Prog.ret_bind]
  refine follows_quiet trivial (fun _ => rfl) fun info => ?_
  repeat' split
  all_goals exact rfl

theorem notePin_follows {slotid : SlotId} {pin : Option Pin} {cache : Bool} {ret : CkRv} :
    follows (loginProtocol slot) (notePin slotid pin cache ret) (fun _ v' => v' = v) v := by
  cases pin with
  | none => exact rfl
  | some pin =>
    simp only [notePin, Prog.perform_eq, Prog.call_bind, Prog.ret_bind, Prog.pure_eq]
    split
    · refine follows_quiet trivial (fun _ => rfl) fun _ => ?_
      split
      · exact follows_quiet trivial (fun _ => rfl) fun _ => rfl
      · exact rfl
    · split
      · exact follows_quiet trivial (fun _ => rfl) fun _ => rfl
      · exact rfl

/-- What `token_login` does after the login. -/
theorem loggedIn_follows {slotid : SlotId} {pin : Option Pin} {cache : Bool} {ret : CkRv}
    {α : Type} {a : α} (hv : v.Ok) (hx : v.held s = some x) :
    follows (loginProtocol slot) (.call (Cmd.mem (.ref s)) fun _ =>
      .call (Cmd.mem (.storeSess s fun x => { x with isLogin := true })) fun _ =>
        notePin slotid pin cache ret >>= fun _ => .ret a) (fun _ v' => v.Same v')
      { v with mode := .loggedIn x.session } := by
  obtain ⟨hu, hc⟩ := hv.held s x hx
  have hn := hc.nonneg
  refine follows_ref (v := { v with mode := .loggedIn x.session }) hx ?_
  refine follows_storeSess View.set_held hu rfl ⟨rfl, rfl⟩ ?_
  refine notePin_follows.bind fun _ _ h => ?_
  subst h
  rw [View.set_set]
  refine View.Same.of_set hv hx hu ⟨?_, fun _ => ?_⟩
  all_goals
    simp only
    omega

theorem tokenLogin_follows {slot' : Slot} {userType : UserType} (hv : v.Ok)
    (hx : v.held s = some x) (h0 : userType = .user → x.session ≠ ckInvalidHandle) :
    follows (loginProtocol slot) (tokenLogin ctx s uri pwCb slot' userType)
      (fun _ v' => v.Same v') v := by
  simp only [tokenLogin, Prog.perform_eq, Prog.call_bind, Prog.ret_bind, Prog.pure_eq]
  refine loginPin_follows.bind fun r _ hr => ?_
  subst hr
  split
  · exact .refl hv
  refine checkPinFlagsOk_follows.bind fun ret _ hret => ?_
  subst hret
  split
  · exact .refl hv
  refine follows_loadSess hx ?_
  cases userType with
  | contextSpecific =>
    refine follows_quiet trivial (fun _ => rfl) fun ret => ?_
    rw [if_neg (by simp)]
    refine notePin_follows.bind fun _ _ h => ?_
    subst h
    exact .refl hv
  | user =>
    refine ⟨⟨hv.mode, h0 rfl, s, x, hx, rfl⟩, fun ret _ => ?_⟩
    beta_reduce
    by_cases hret : ret = Ckr.ok
    · rw [if_pos ⟨hret, rfl⟩]
      simp only [loginProtocol, hret, ↓reduceIte]
      exact loggedIn_follows hv hx
    · rw [if_neg (by simp [hret])]
      refine notePin_follows.bind fun _ v' h => ?_
      simp only [loginProtocol, hret, ↓reduceIte] at h
      subst h
      exact .refl hv

theorem loginSession_follows {slot' : Slot} (hv : v.Ok) (hx : v.held s ≠ none) :
    follows (loginProtocol slot) (loginSession ctx slot' uri pwCb s) (fun _ v' => v.Same v') v := by
  obtain ⟨x, hx⟩ := Option.ne_none_iff_exists'.1 hx
  simp only [loginSession, Prog.perform_eq, Prog.call_bind, Prog.ret_bind, Prog.pure_eq]
  refine follows_loadSess hx ?_
  refine (sessionCheck_follows hv hx).bind fun ret v₁ h₁ => ?_
  split
  · exact h₁
  obtain ⟨x₁, hx₁⟩ := Option.ne_none_iff_exists'.1 (h₁.held (s := s) (by simp [hx]))
  refine follows_loadSess hx₁ ?_
  -- the session is open
  have hrest : ∀ v₂ y, v.Same v₂ → v₂.held s = some y → y.session ≠ ckInvalidHandle →
      follows (loginProtocol slot) (.call (Cmd.mem (.loadSess s)) fun x =>
        if isLoginState x.state then .ret Ckr.ok else tokenLogin ctx s uri pwCb slot' .user)
        (fun _ v' => v.Same v') v₂ := by
    intro v₂ y h₂ hy h0
    refine follows_loadSess hy ?_
    split
    · exact h₂
    · exact follows_mono (tokenLogin_follows h₂.ok hy fun _ => h0) fun _ v' h => h₂.trans h
  split
  · refine (tokenSessionOpen_follows h₁.ok hx₁).bind fun ret v₂ h₂ => ?_
    split
    · exact h₁.trans h₂.1
    · rename_i hret
      obtain ⟨y, hy, h0⟩ := h₂.2 (not_not.1 hret)
      exact hrest v₂ y (h₁.trans h₂.1) hy h0
  · rename_i h0
    exact hrest v₁ x₁ h₁ hx₁ h0

theorem unmarkLogin_follows (hv : v.Ok) (hx : v.held s ≠ none) :
    follows (loginProtocol slot) (unmarkLogin s) (fun _ v' => v.Same v') v := by
  obtain ⟨x, hx⟩ := Option.ne_none_iff_exists'.1 hx
  obtain ⟨hu, hc⟩ := hv.held s x hx
  simp only [unmarkLogin, Prog.perform_eq, Prog.call_bind, Prog.ret_bind, Prog.pure_eq]
  refine follows_loadSess hx ?_
  split
  · rename_i hl
    refine follows_deref hx ?_
    refine follows_storeSess View.set_held hu rfl ?_ ?_
    · rw [View.set_mode, hv.mode]
      exact ⟨.inl rfl, by simp⟩
    rw [View.set_set]
    refine View.Same.of_set hv hx hu ⟨?_, by simp⟩
    have := hc.login hl
    simp only
    omega
  · exact .refl hv

end Work

/-! ## Taking sessions and giving them back -/

/-- A thread holds one session more. -/
structure View.Took (v : View) (s : SessId) (v' : View) : Prop where
  new : s ∉ v.dom
  ok : v'.Ok
  dom : v'.dom = insert s v.dom

/-- A thread holds one session less. -/
structure View.Gave (v : View) (s : SessId) (v' : View) : Prop where
  ok : v'.Ok
  dom : v'.dom = v.dom \ {s}

/-- The outcome of a function that takes a session, or fails. -/
def View.Fetched (v : View) : Except CkRv SessId → View → Prop
  | .ok s, v' => v.Took s v'
  | .error _, v' => v.Same v'

section Take

variable {slot : Slot} {v v' v'' : View} {s : SessId} {flags : Flags} {ctx : Ctx}
  {uri : Option Uri} {pwCb : Bool}

theorem View.Took.held (h : v.Took s v') : v'.held s ≠ none := by
  have : s ∈ v'.dom := h.dom ▸ Set.mem_insert s v.dom
  exact this

theorem View.Took.trans (h : v.Took s v') (h' : v'.Same v'') : v.Took s v'' :=
  ⟨h.new, h'.ok, h'.dom.trans h.dom⟩

/-- A session was taken and given back. -/
theorem View.Took.gave (h : v.Took s v') (h' : v'.Gave s v'') : v.Same v'' := by
  refine ⟨h'.ok, ?_⟩
  rw [h'.dom, h.dom, Set.insert_sdiff_of_mem _ (Set.mem_singleton s),
    Set.sdiff_singleton_eq_self h.new]

theorem View.Same.fetched {r : Except CkRv SessId} (h : v.Same v') (h' : v'.Fetched r v'') :
    v.Fetched r v'' := by
  cases r with
  | error ret => exact h.trans h'
  | ok s => exact ⟨h.dom ▸ h'.new, h'.ok, h'.dom.trans (h.dom ▸ rfl)⟩

theorem View.Ok.took (hv : v.Ok) {x : Session} (hs : v.held s = none) (hu : x.inUse)
    (hc : x.Counted) : v.Took s (v.set s (some x)) := by
  refine ⟨by simp [View.dom, hs], ⟨hv.mode, fun s' x' hx' => ?_⟩, Set.ext fun s' => ?_⟩
  · by_cases h : s' = s
    · subst h
      obtain rfl := Option.some.inj (View.set_held.symm.trans hx')
      exact ⟨hu, hc⟩
    · rw [View.set_held_ne h] at hx'
      exact hv.held s' x' hx'
  · by_cases h : s' = s
    · subst h
      simp [View.dom]
    · simp [View.dom, View.set_held_ne h, h]

theorem View.Ok.gave (hv : v.Ok) : v.Gave s (v.set s none) := by
  refine ⟨⟨hv.mode, fun s' x' hx' => ?_⟩, Set.ext fun s' => ?_⟩
  · by_cases h : s' = s
    · subst h
      simp at hx'
    · rw [View.set_held_ne h] at hx'
      exact hv.held s' x' hx'
  · by_cases h : s' = s
    · subst h
      simp [View.dom]
    · simp [View.dom, View.set_held_ne h, h]

theorem countOpen_follows {l : List SessId} :
    follows (loginProtocol slot) (countOpen l) (fun _ v' => v' = v) v := by
  induction l with
  | nil => exact rfl
  | cons s l ih =>
    simp only [countOpen, Prog.perform_eq, Prog.call_bind, Prog.ret_bind, Prog.pure_eq]
    refine follows_loadSess_any fun x => ih.bind fun n v' h => ?_
    exact h

theorem release_follows (hv : v.Ok) (hx : v.held s ≠ none) :
    follows (loginProtocol slot) (mem (.release s)) (fun _ v' => v.Gave s v') v := by
  obtain ⟨x, hx⟩ := Option.ne_none_iff_exists'.1 hx
  exact ⟨⟨hv.mode, x, hx, (hv.held s x hx).2⟩, fun _ _ => hv.gave⟩

theorem returnSession_follows (hv : v.Ok) (hx : v.held s ≠ none) :
    follows (loginProtocol slot) (returnSession ctx s) (fun _ v' => v.Gave s v') v := by
  have hrelease : ∀ v', v.Same v' →
      follows (loginProtocol slot) (mem (.release s)) (fun _ v'' => v.Gave s v'') v' :=
    fun v' h => follows_mono (release_follows h.ok (h.held hx)) fun _ v'' h' =>
      ⟨h'.ok, h.dom ▸ h'.dom⟩
  obtain ⟨x, hx⟩ := Option.ne_none_iff_exists'.1 hx
  simp only [returnSession, poolSessions, Prog.call_bind, Prog.ret_bind, Prog.perform_eq,
    Prog.pure_eq]
  refine follows_loadSess hx ?_
  split
  · rename_i hr
    have hl : x.isLogin = false := by
      by_contra hl
      have := (hv.held s x hx).2.login (by simpa using hl)
      omega
    refine follows_loadSess hx ?_
    split
    · exact (tokenSessionClose_follows hv hx hl).bind fun _ v' h => hrelease v' h
    · refine ⟨trivial, fun n _ => countOpen_follows.bind fun n v' h => ?_⟩
      have hs : v.Same v' := h ▸ ⟨⟨hv.mode, hv.held⟩, rfl⟩
      have hx' : v'.held s = some x := h ▸ hx
      split
      · exact (tokenSessionClose_follows hs.ok hx' hl).bind fun _ v'' h' => hrelease v'' (hs.trans h')
      · exact hrelease v' hs
  · exact hrelease v (.refl hv)

theorem follows_tryTake {α : Type} {Q : α → View → Prop} {test : Session → Bool}
    {k : Session → P α} (hv : v.Ok) (hs : s.idx < v.num s.slot) (ht : ∀ x, test x → x.inUse = false)
    (hyes : ∀ x v', test x → x.Counted → v'.held s = some { x with inUse := true } → v.Took s v' →
      follows (loginProtocol slot) (k x) Q v')
    (hno : ∀ x, test x = false → follows (loginProtocol slot) (k x) Q v) :
    follows (loginProtocol slot) (.call (Cmd.mem (.tryTake s test)) k) Q v := by
  refine ⟨⟨hv.mode, hs, ht⟩, fun x hx => ?_⟩
  by_cases h : test x
  · have hnone : v.held s = none := by
      by_contra hh
      obtain ⟨y, hy⟩ := Option.ne_none_iff_exists'.1 hh
      obtain rfl := hx.1 y hy
      exact absurd (hv.held s x hy).1 (by simp [ht x h])
    simp only [loginProtocol, h, ↓reduceIte]
    have hc := hx.2 (ht x h)
    exact hyes x _ h hc View.set_held (hv.took hnone rfl ⟨hc.nonneg, hc.login⟩)
  · simp only [loginProtocol, h, Bool.false_eq_true, ↓reduceIte]
    exact hno x (by simpa using h)

/-- The outcome of one step of a loop of `fetch_session`. -/
def View.Step (v : View) (r : Option (Except CkRv SessId)) (v' : View) : Prop :=
  r.elim (v' = v) (v.Fetched · v')

theorem takeLogin_follows (hv : v.Ok) (hs : s.idx < v.num s.slot) :
    follows (loginProtocol slot) (takeLogin s) v.Step v := by
  simp only [takeLogin, Prog.perform_eq, Prog.call_bind, Prog.ret_bind, Prog.pure_eq]
  refine follows_loadSess_any fun x => ?_
  split
  · exact rfl
  refine follows_tryTake hv hs (fun x hx => ?_) (fun x v' hx _ _ h => ?_) fun x hx => ?_
  · simp only [Bool.and_eq_true, Bool.not_eq_true'] at hx
    exact hx.1.2
  · simp only [Bool.and_eq_true, Bool.not_eq_true'] at hx
    simp only [hx.1.1, hx.1.2, hx.2, Bool.not_true, Bool.false_eq_true, ↓reduceIte]
    exact h
  · split
    · exact rfl
    split
    · exact .refl hv
    split
    · exact .refl hv
    · simp_all

theorem takeFree_follows {test : Session → Bool} (hv : v.Ok) (hs : s.idx < v.num s.slot) :
    follows (loginProtocol slot) (takeFree test s) v.Step v := by
  simp only [takeFree, Prog.perform_eq, Prog.call_bind, Prog.ret_bind, Prog.pure_eq]
  refine follows_loadSess_any fun x => ?_
  split
  · exact rfl
  refine follows_tryTake hv hs (fun x hx => ?_) (fun x v' hx _ _ h => ?_) fun x hx => ?_
  · simp only [Session.free, Bool.and_eq_true, Bool.not_eq_true'] at hx
    exact hx.1.1
  · rw [if_pos hx]
    exact h
  · rw [if_neg (by simp [hx])]
    exact rfl

theorem takeBroken_follows (hv : v.Ok) (hs : s.idx < v.num s.slot) :
    follows (loginProtocol slot) (takeBroken s) v.Step v := by
  simp only [takeBroken, Prog.perform_eq, Prog.call_bind, Prog.ret_bind, Prog.pure_eq]
  refine follows_loadSess_any fun x => ?_
  split
  · exact rfl
  refine follows_tryTake hv hs (fun x hx => ?_) (fun x v' hx hc hx' h => ?_) fun x hx => ?_
  · simp only [Session.recyclable, Bool.and_eq_true, Bool.not_eq_true'] at hx
    exact hx.1.1
  · rw [if_pos hx]
    have hl : x.isLogin = false := by
      by_contra hl
      have := hc.login (by simpa using hl)
      simp only [Session.recyclable, Bool.and_eq_true, beq_iff_eq] at hx
      omega
    exact (tokenSessionClose_follows h.ok hx' hl).bind fun _ v'' h' => h.trans h'
  · rw [if_neg (by simp [hx])]
    exact rfl

theorem takeNew_follows (hv : v.Ok) :
    follows (loginProtocol slot) (takeNew slot) v.Fetched v := by
  simp only [takeNew, Prog.perform_eq, Prog.call_bind, Prog.ret_bind, Prog.pure_eq]
  refine ⟨⟨hv.mode, rfl⟩, fun r hr => ?_⟩
  by_cases hok : r.1 = Ckr.ok
  · simp only [loginProtocol, hok, ↓reduceIte]
    exact hv.took (hr hok) rfl ⟨le_rfl, by simp⟩
  · simp only [loginProtocol, hok, ↓reduceIte]
    exact .refl hv

theorem orElse_follows {f : SessId → P (Option (Except CkRv SessId))} {k : P (Except CkRv SessId)}
    (hv : v.Ok)
    (hf : ∀ s v', v'.Ok → s.idx < v'.num s.slot → follows (loginProtocol slot) (f s) v'.Step v')
    (hk : ∀ v', v'.Ok → follows (loginProtocol slot) k v'.Fetched v') :
    follows (loginProtocol slot) (orElse slot.id f k) v.Fetched v := by
  simp only [orElse, poolSessions, Prog.perform_eq, Prog.call_bind, Prog.ret_bind, Prog.pure_eq]
  refine ⟨trivial, fun n _ => ?_⟩
  -- the view does not change before a session is found
  have hs : v.Same { v with num := Function.update v.num slot.id n } := ⟨⟨hv.mode, hv.held⟩, rfl⟩
  have hloop : follows (loginProtocol slot) (Prog.firstM f ((List.range n).map (⟨slot.id, ·⟩)))
      (View.Step { v with num := Function.update v.num slot.id n })
      { v with num := Function.update v.num slot.id n } := by
    refine follows_firstM (I := fun v' => v' = { v with num := Function.update v.num slot.id n })
      rfl (fun v' h => by exact h) fun s hmem v' h => ?_
    subst h
    refine follows_mono (hf s _ hs.ok ?_) fun r v' h => ?_
    · obtain ⟨i, hi, rfl⟩ := List.mem_map.1 hmem
      simpa using List.mem_range.1 hi
    · cases r with
      | none => exact h
      | some r => exact h
  refine hloop.bind fun r v' h => ?_
  cases r with
  | some r => exact hs.fetched h
  | none =>
    obtain rfl : v' = _ := h
    exact follows_mono (hk _ hs.ok) fun r v'' h' => hs.fetched h'

theorem fetchSession_follows {login : Bool} (hv : v.Ok) :
    follows (loginProtocol slot) (fetchSession slot flags login) v.Fetched v := by
  have hrest : ∀ v, v.Ok →
      follows (loginProtocol slot) (fetchSession slot flags false) v.Fetched v := fun v hv =>
    orElse_follows hv (fun s v' h hs => takeFree_follows h hs) fun v hv =>
      orElse_follows hv (fun s v' h hs => takeFree_follows h hs) fun v hv =>
      orElse_follows hv (fun s v' h hs => takeFree_follows h hs) fun v hv =>
      orElse_follows hv (fun s v' h hs => takeBroken_follows h hs) fun v hv => takeNew_follows hv
  cases login with
  | false => exact hrest v hv
  | true => exact orElse_follows hv (fun s v' h hs => takeLogin_follows h hs) hrest

theorem fetchAttempts_follows {n : Nat} (hv : v.Ok) :
    follows (loginProtocol slot) (fetchAttempts slot n) v.Fetched v := by
  induction n generalizing v with
  | zero => exact fetchSession_follows hv
  | succ n ih =>
    refine (fetchSession_follows hv).bind fun r v' h => ?_
    cases r with
    | ok s => exact h
    | error ret => exact follows_mono (ih h.ok) fun r v'' h' => View.Same.fetched h h'

/-! ### The functions -/

theorem finishLogin_follows {keep : Bool} {ret : CkRv} (h : v.Took s v') :
    follows (loginProtocol slot) (finishLogin ctx keep s ret)
      (fun r v'' => r.2.elim (v.Same v'') fun s => keep ∧ v.Took s v'') v' := by
  simp only [finishLogin, Prog.pure_eq]
  split
  · split
    · rename_i hk
      exact ⟨hk, h⟩
    · exact (returnSession_follows h.ok h.held).bind fun _ v'' h' => h.gave h'
  · refine (unmarkLogin_follows h.ok h.held).bind fun _ v₁ h₁ => ?_
    refine (returnSession_follows h₁.ok (h₁.held h.held)).bind fun _ v'' h' => ?_
    exact (h.trans h₁).gave h'

theorem loginWith_follows {keep : Bool} {r : Except CkRv SessId} (h : v.Fetched r v') :
    follows (loginProtocol slot) (loginWith ctx slot uri pwCb keep r)
      (fun r v'' => r.2.elim (v.Same v'') fun s => keep ∧ v.Took s v'') v' := by
  cases r with
  | error ret => exact h
  | ok s =>
    refine (loginSession_follows h.ok (View.Took.held h)).bind fun ret v₁ h₁ => ?_
    exact finishLogin_follows (View.Took.trans h h₁)

theorem slotLogin_follows {reqlogin keep : Bool} (hv : v.Ok) :
    follows (loginProtocol slot) (slotLogin ctx slot uri pwCb reqlogin keep)
      (fun r v' => r.2.elim (v.Same v') fun s => keep ∧ v.Took s v') v := by
  simp only [slotLogin, Prog.perform_eq, Prog.call_bind, Prog.ret_bind, Prog.pure_eq]
  refine (fetchSession_follows hv).bind fun r v' h => ?_
  split
  · rename_i hr
    rw [hr.1] at h
    exact h
  split
  · exact loginWith_follows h
  · rename_i hr
    cases r with
    | ok s => simp [Except.isOk, Except.toBool] at hr
    | error ret =>
      refine follows_quiet trivial (fun _ => rfl) fun n => ?_
      refine (fetchAttempts_follows h.ok).bind fun r v'' h' => ?_
      exact loginWith_follows (View.Same.fetched h h')

theorem openTaken_follows {req : Request} (h : v.Took s v') :
    follows (loginProtocol slot) (openTaken ctx req s) v.Fetched v' := by
  obtain ⟨x, hx⟩ := Option.ne_none_iff_exists'.1 h.held
  simp only [openTaken, Prog.perform_eq, Prog.call_bind, Prog.ret_bind, Prog.pure_eq]
  refine (sessionCheck_follows h.ok hx).bind fun ret v₁ h₁ => ?_
  have hreturn : ∀ ret v₁, v.Took s v₁ →
      follows (loginProtocol slot) (returnSession ctx s >>= fun _ => .ret (.error ret)) v.Fetched v₁ :=
    fun ret v₁ h₁ => (returnSession_follows h₁.ok h₁.held).bind fun _ v₂ h₂ => h₁.gave h₂
  have ht := h.trans h₁
  split
  · exact hreturn ret v₁ ht
  obtain ⟨y, hy⟩ := Option.ne_none_iff_exists'.1 ht.held
  refine follows_loadSess hy ?_
  split
  · exact ht
  refine (tokenSessionOpen_follows ht.ok hy).bind fun ret v₂ h₂ => ?_
  split
  · exact hreturn ret v₂ (ht.trans h₂.1)
  · exact ht.trans h₂.1

theorem trySlot_follows {req : Request} (hv : v.Ok) :
    follows (loginProtocol slot) (trySlot ctx req slot) (fun _ v' => v.Same v') v := by
  simp only [trySlot, Prog.pure_eq]
  split
  · exact .refl hv
  split
  · refine (slotLogin_follows hv).bind fun r v' h => ?_
    rcases r with ⟨ret, _ | s⟩
    · exact h
    · exact absurd h.1 (by simp)
  · exact .refl hv

theorem getSession_follows {req : Request} (hslot : ctx.getSlotById slot.id = some slot)
    (hid : slot.id ≠ ckUnavailableInformation) (hv : v.Ok) :
    follows (loginProtocol slot) (getSession ctx slot.id req) v.Fetched v := by
  simp only [getSession, hid, hslot, ↓reduceIte, Prog.pure_eq, openOnSlot]
  refine (trySlot_follows hv).bind fun ret v₁ h₁ => ?_
  split
  · exact h₁
  refine (fetchSession_follows h₁.ok).bind fun r v₂ h₂ => ?_
  cases r with
  | error ret => exact h₁.trans h₂
  | ok s => exact openTaken_follows (h₁.fetched (r := .ok s) h₂)

theorem takeLoginSession_follows (hslot : ctx.getSlotById slot.id = some slot) (hv : v.Ok) :
    follows (loginProtocol slot) (takeLoginSession ctx slot.id) v.Fetched v := by
  simp only [takeLoginSession, hslot, Prog.pure_eq]
  refine (slotLogin_follows hv).bind fun r v' h => ?_
  rcases r with ⟨ret, _ | s⟩
  · exact h
  · exact h.2

end Take

/-! ## The callers -/

/-- The sessions of a caller after a function that takes one, or fails. -/
def keepTaken (l : List SessId) : Except CkRv SessId → List SessId
  | .ok s => s :: l
  | .error _ => l

/-- What a caller that holds the sessions `l` may do on the pool of a slot, and the sessions it
    holds then. -/
inductive Caller (ctx : Ctx) (slot : Slot) (l : List SessId) : P (List SessId) → Prop
  | get (req : Request) (h : slot.id ≠ ckUnavailableInformation) :
    Caller ctx slot l (do return keepTaken l (← getSession ctx slot.id req))
  | takeLogin : Caller ctx slot l (do return keepTaken l (← takeLoginSession ctx slot.id))
  | login (uri : Option Uri) (pwCb reqlogin : Bool) :
    Caller ctx slot l (do
      let _ ← slotLogin ctx slot uri pwCb reqlogin false
      return l)
  | contextLogin {s : SessId} (h : s ∈ l) (uri : Option Uri) (pwCb : Bool) :
    Caller ctx slot l (do
      let _ ← contextSpecificLogin ctx s uri pwCb
      return l)
  | markBroken {s : SessId} (h : s ∈ l) :
    Caller ctx slot l (do
      sessionMarkBroken s
      return l)
  | giveBack {s : SessId} (h : s ∈ l) :
    Caller ctx slot l (do
      returnSession ctx s
      return l.erase s)

/-- A caller that is idle holds the sessions it knows of. -/
structure View.Rest (l : List SessId) (v : View) : Prop where
  ok : v.Ok
  dom : v.dom = {s | s ∈ l}
  nodup : l.Nodup

section Callers

variable {O : Oracle} {ctx : Ctx} {slot : Slot} {l : List SessId} {v v' : View} {s : SessId}

theorem View.Rest.same (h : v.Rest l) (h' : v.Same v') : v'.Rest l :=
  ⟨h'.ok, h'.dom.trans h.dom, h.nodup⟩

theorem View.Rest.held (h : v.Rest l) (hs : s ∈ l) : v.held s ≠ none := by
  have : s ∈ v.dom := h.dom ▸ hs
  exact this

theorem View.Rest.fetched {r : Except CkRv SessId} (h : v.Rest l) (h' : v.Fetched r v') :
    v'.Rest (keepTaken l r) := by
  cases r with
  | error ret => exact h.same h'
  | ok s =>
    have hs : s ∉ l := by simpa [h.dom] using View.Took.new h'
    refine ⟨h'.ok, ?_, List.nodup_cons.2 ⟨hs, h.nodup⟩⟩
    rw [View.Took.dom h', h.dom]
    ext s'
    simp [keepTaken]

theorem View.Rest.gave (h : v.Rest l) (h' : v.Gave s v') : v'.Rest (l.erase s) := by
  refine ⟨h'.ok, ?_, h.nodup.erase s⟩
  rw [h'.dom, h.dom]
  ext s'
  simp [h.nodup.mem_erase_iff, and_comm]

theorem Caller.follows {p : P (List SessId)} (hslot : ctx.getSlotById slot.id = some slot)
    (hp : Caller ctx slot l p) (h : v.Rest l) :
    Interaction.follows (loginProtocol slot) p (fun l v => v.Rest l) v := by
  cases hp with
  | get req hid => exact (getSession_follows hslot hid h.ok).bind fun r v' h' => h.fetched h'
  | takeLogin => exact (takeLoginSession_follows hslot h.ok).bind fun r v' h' => h.fetched h'
  | login uri pwCb reqlogin =>
    refine (slotLogin_follows h.ok).bind fun r v' h' => ?_
    rcases r with ⟨ret, _ | s⟩
    · exact h.same h'
    · exact absurd h'.1 (by simp)
  | @contextLogin s hs uri pwCb =>
    obtain ⟨x, hx⟩ := Option.ne_none_iff_exists'.1 (h.held hs)
    simp only [contextSpecificLogin]
    split
    · exact h
    · exact (tokenLogin_follows h.ok hx (by simp)).bind fun _ v' h' => h.same h'
  | @markBroken s hs =>
    obtain ⟨x, hx⟩ := Option.ne_none_iff_exists'.1 (h.held hs)
    refine follows_storeSess hx (h.ok.held s x hx).1 rfl ?_ (h.same ?_)
    · rw [h.ok.mode]
      exact ⟨.inl rfl, id⟩
    · exact h.ok.store (f := fun x => { x with isBroken := true }) hx rfl rfl id
  | @giveBack s hs =>
    exact (returnSession_follows h.ok (h.held hs)).bind fun _ v' h' => h.gave h'

/-- The commands of a fetch that is not for a login session: a session is taken by a test that
    rules out the mark, or that there is a reference to it. -/
def TestsUnmarked : Cmd → Prop
  | .mem (.tryTake _ test) => ∀ x, test x → x.isLogin = false ∨ x.refcnt = 0
  | _ => True

theorem orElse_testsUnmarked {slotid : SlotId} {f : SessId → P (Option (Except CkRv SessId))}
    {k : P (Except CkRv SessId)}
    (hf : ∀ s, follows (Protocol.only TestsUnmarked) (f s) (fun _ _ => True) ())
    (hk : follows (Protocol.only TestsUnmarked) k (fun _ _ => True) ()) :
    follows (Protocol.only TestsUnmarked) (orElse slotid f k) (fun _ _ => True) () := by
  simp only [orElse, poolSessions, Prog.perform_eq, Prog.call_bind, Prog.ret_bind, Prog.pure_eq]
  refine ⟨trivial, fun n _ => ?_⟩
  refine follows.bind (P := fun _ _ => True) (follows_firstM (I := fun _ => True) trivial
    (fun _ _ => trivial) fun s _ _ _ => ?_) fun r _ _ => ?_
  · exact follows_mono (hf s) fun r _ _ => by cases r <;> trivial
  · cases r with
    | some r => trivial
    | none => exact hk

theorem takeFree_testsUnmarked {test : Session → Bool} :
    follows (Protocol.only TestsUnmarked) (takeFree test s) (fun _ _ => True) () := by
  simp only [takeFree, Prog.perform_eq, Prog.call_bind, Prog.ret_bind, Prog.pure_eq]
  refine ⟨trivial, fun x _ => ?_⟩
  beta_reduce
  split
  · trivial
  · refine ⟨fun x hx => .inl ?_, fun _ _ => trivial⟩
    simp only [Session.free, Bool.and_eq_true, Bool.not_eq_true'] at hx
    exact hx.1.2

theorem takeBroken_testsUnmarked :
    follows (Protocol.only TestsUnmarked) (takeBroken s) (fun _ _ => True) () := by
  simp only [takeBroken, tokenSessionClose, Prog.perform_eq, Prog.call_bind, Prog.ret_bind,
    Prog.pure_eq]
  refine ⟨trivial, fun x _ => ?_⟩
  beta_reduce
  split
  · trivial
  · refine ⟨fun x hx => .inr ?_, fun x _ => ?_⟩
    · simp only [Session.recyclable, Bool.and_eq_true, beq_iff_eq] at hx
      exact hx.2
    · beta_reduce
      split
      · refine ⟨trivial, fun y _ => ?_⟩
        beta_reduce
        split
        · exact ⟨trivial, fun _ _ => ⟨trivial, fun _ _ => trivial⟩⟩
        · trivial
      · trivial

theorem fetchSession_testsUnmarked {flags : Flags} :
    follows (Protocol.only TestsUnmarked) (fetchSession slot flags false) (fun _ _ => True) () :=
  orElse_testsUnmarked (fun _ => takeFree_testsUnmarked) <|
    orElse_testsUnmarked (fun _ => takeFree_testsUnmarked) <|
    orElse_testsUnmarked (fun _ => takeFree_testsUnmarked) <|
    orElse_testsUnmarked (fun _ => takeBroken_testsUnmarked) ⟨trivial, fun _ _ => trivial⟩

/-- The step that answers a command by `r` takes the session. -/
def Takes : (c : Cmd) → c.Resp → SessId → Prop
  | .mem (.tryTake s test), r, s' => s' = s ∧ test r
  | .mem (.sessionNew _), r, s' => s' = r.2 ∧ r.1 = Ckr.ok
  | _, _, _ => False

theorem LoginInv.not_closed {Tid : Type} {vs : Tid → View} {st : State} (hI : LoginInv slot vs st)
    {t : Tid} {h : Handle} (hpre : (loginProtocol slot).pre (vs t) (.call (.closeSession h)))
    (hs : (st.mem.sess s).isLogin) : (st.mem.sess s).session ≠ h := by
  intro hh
  obtain ⟨hm, h0, s', x, hx, hxh, hl⟩ := hpre
  obtain ⟨rfl, -, -⟩ := hI.hold.sync t s' x hx
  -- both the session that is closed and the one that is marked own the handle
  have hown' : Owns vs st s' h := by
    refine ⟨hxh, h0, fun t' ht' hmode => ?_⟩
    obtain rfl := hI.hold.disjoint t' t s' ht' (by simp [hx])
    simp [hm] at hmode
  have hown : Owns vs st s h := by
    refine ⟨hh, h0, fun t' ht' hmode => ?_⟩
    simp [hI.tok.unmarked t' h s hmode ht' hh] at hs
  obtain rfl := hI.tok.distinct s s' h hown hown'
  simp [hl] at hs

theorem LoginInv.taken_unmarked {Tid : Type} {vs : Tid → View} {st : State}
    (hI : LoginInv slot vs st) {t : Tid} {c : Cmd} {r : c.Resp}
    (hpre : (loginProtocol slot).pre (vs t) c) (hc : TestsUnmarked c) (hr : (env O).adm st c r)
    (hs : Takes c r s) : (((env O).next st c r).mem.sess s).isLogin = false := by
  cases c with
  | call c => exact False.elim hs
  | mem c =>
    cases c with
    | tryTake s' test =>
      obtain ⟨rfl, ht⟩ := hs
      obtain rfl : r = st.mem.sess s := hr
      have hu := hI.hold.counted s (hI.hold.held_eq_none (hpre.2.2 _ ht))
      have hl : (st.mem.sess s).isLogin = false := by
        rcases hc _ ht with h | h
        · exact h
        · by_contra hl
          have := hu.login (by simpa using hl)
          omega
      simp only [env, Mem.after, ht, ↓reduceIte, Mem.setSess_sess]
      exact hl
    | sessionNew slot' =>
      obtain ⟨hs, hok⟩ := hs
      have : r = (Ckr.ok, ⟨slot'.id, st.mem.num slot'.id⟩) := by
        rcases hr with ⟨-, h⟩ | ⟨-, h | h⟩
        · simp [h] at hok
        · simp [h] at hok
        · exact h
      subst this
      simp [hs, env, Mem.after]
    | _ => exact False.elim hs

/-- Before anything was done there is nothing to know. -/
theorem LoginInv.init {Tid : Type} : LoginInv slot (fun _ : Tid => {}) {} := by
  have hown : ∀ s h, ¬Owns (fun _ : Tid => {}) {} s h := fun s h ho => ho.valid ho.session.symm
  have hmark : ∀ s, ¬Marked (fun _ : Tid => {}) {} s := by simp [Marked]
  constructor
  · exact ⟨nofun, fun t t' s h => absurd rfl h, fun s _ => ⟨le_rfl, nofun⟩, fun _ _ => le_rfl,
      Nat.zero_le _⟩
  · exact ⟨fun s h ho => absurd ho (hown s h), fun s s' h ho => absurd ho (hown s h), nofun, nofun,
      nofun, nofun, fun s hs => absurd hs (hmark s), fun s s' hs => absurd hs (hmark s)⟩

/-- The callers of one pool, in any number and in any order of their steps: at most one session
    is the login session, its handle is not closed, a session taken by a fetch that is not for a
    login session is not the login session, and the pool does not outgrow its bound. -/
theorem login_unique {Tid : Type} [DecidableEq Tid] (hf : OpensFresh O) (hl : LoginOnce O)
    (hslot : ctx.getSlotById slot.id = some slot)
    {w : Threads State Cmd.Resp (List SessId) Tid}
    (hw : Reach (env O) (Caller ctx slot) [] {} w) :
    (∀ s s', (w.state.mem.sess s).isLogin → (w.state.mem.sess s').isLogin → s.slot = s'.slot →
      s = s') ∧
    (∀ t h k, w.prog t = .call (.call (.closeSession h)) k →
      ∀ s, (w.state.mem.sess s).isLogin → (w.state.mem.sess s).session ≠ h) ∧
    (∀ t flags c q k, Residual (fetchSession slot flags false) (.call c q) →
      w.prog t = .call c q >>= k →
      ∀ r s, (env O).adm w.state c r → Takes c r s →
        (((env O).next w.state c r).mem.sess s).isLogin = false) ∧
    w.state.mem.num slot.id ≤ slot.maxSessions := by
  have hrest : View.Rest [] {} := ⟨⟨rfl, nofun⟩, by simp [View.dom], .nil⟩
  obtain ⟨vs, hI, hvs⟩ := hw.follows (loginProtocol_sound hf hl slot) .init hrest
    fun l p v hp h => hp.follows hslot h
  refine ⟨fun s s' h h' => hI.tok.unique s s' (.inl h) (.inl h'), fun t h k ht s hs => ?_,
    fun t flags c q k hq ht r s hr hs => ?_, hI.hold.bound⟩
  · have := hvs t
    rw [ht] at this
    exact hI.not_closed this.1 hs
  · have := hvs t
    rw [ht] at this
    exact hI.taken_unmarked this.1 (fetchSession_testsUnmarked.residual hq).1 hr hs

theorem plain_loginOnce : LoginOnce (replies plain) := by
  intro st h pin hok
  simp only [replies, plain, Token.reply] at hok
  cases ho : st.tok.opened h with
  | none => simp [ho] at hok
  | some o =>
    refine ⟨o, rfl, ?_⟩
    by_contra hl
    simp [ho, hl] at hok

/-- A caller logs in, and then another one takes a session. -/
theorem login_unique_two :
    let st := (run plain (takeLoginSession plainCtx 1) {}).2
    let st' := (run plain (getSession plainCtx 1 {}) st).2
    (st'.mem.sess ⟨1, 0⟩).isLogin ∧ st'.mem.num 1 = 2 ∧
      ∀ s, (st'.mem.sess s).isLogin → s.slot = 1 → s = ⟨1, 0⟩ := by
  intro st st'
  have hrun : ∀ (p : P (List SessId)) st,
      Runs (env (replies plain)) p st (run plain p st).1 (run plain p st).2 := runs_run
  have h₀ : Reach (env (replies plain)) (Caller plainCtx plainSlot) [] {}
      ⟨{}, fun _ : Bool => .ret []⟩ := .init
  have h₁ := (h₀.start (t := false) rfl .takeLogin).runs (Function.update_self ..) (hrun _ _)
  have h₂ := (h₁.start (t := true) rfl (.get {} (by decide))).runs (Function.update_self ..)
    (hrun _ _)
  have hl : (st'.mem.sess ⟨1, 0⟩).isLogin := by decide
  refine ⟨hl, by decide, fun s hs h1 => ?_⟩
  exact (login_unique plain_opensFresh plain_loginOnce rfl h₂).1 s ⟨1, 0⟩ hs hl h1

end Callers

end P11Prov
