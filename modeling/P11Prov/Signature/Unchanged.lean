import P11Prov.Signature.Mechanism

/-!
# What parameters leave alone

The parameters of a context set what its mechanism is made from. They leave
alone the key and the operation that the context is for, its mechanism once
there is one, and its session (`setCtxParams_same`).
-/

namespace P11Prov

open Interaction

/-- The members that parameters leave alone. -/
structure SameOperation (c c' : SigCtx) : Prop where
  key : c'.key = c.key
  digestOp : c'.digestOp = c.digestOp
  mechanism : c'.mechanism = c.mechanism
  pParameter : c'.pParameter = c.pParameter
  session : c'.session = c.session
  fallbackDigest : c'.fallbackDigest = c.fallbackDigest
  fallbackOperate : c'.fallbackOperate = c.fallbackOperate

section Same

variable {ctx : Ctx} {alg : SigAlg} {c c' c'' : SigCtx} {key : Option Obj}

theorem sameOperation_rfl : SameOperation c c := ⟨rfl, rfl, rfl, rfl, rfl, rfl, rfl⟩

theorem SameOperation.trans (h : SameOperation c c') (h' : SameOperation c' c'') :
    SameOperation c c'' where
  key := h'.key.trans h.key
  digestOp := h'.digestOp.trans h.digestOp
  mechanism := h'.mechanism.trans h.mechanism
  pParameter := h'.pParameter.trans h.pParameter
  session := h'.session.trans h.session
  fallbackDigest := h'.fallbackDigest.trans h.fallbackDigest
  fallbackOperate := h'.fallbackOperate.trans h.fallbackOperate

theorem setAll_same {params : List OsslParam} {setters : List (Setter SigCtx)}
    (h : ∀ s ∈ setters, ∀ c p, SameOperation c (s.set c p).2) :
    SameOperation c (setAll params setters c).2 :=
  setAll_keeps (fun s hs c' p hc => hc.trans (h s hs c' p)) sameOperation_rfl

theorem digestSetter_same (p : OsslData) : SameOperation c (digestSetter.set c p).2 := by
  simp only [digestSetter]
  repeat' split
  all_goals exact ⟨rfl, rfl, rfl, rfl, rfl, rfl, rfl⟩

theorem signatureSetter_same (p : OsslData) : SameOperation c (signatureSetter.set c p).2 := by
  simp only [signatureSetter]
  split <;> exact ⟨rfl, rfl, rfl, rfl, rfl, rfl, rfl⟩

theorem rsasigSetters_same {s : Setter SigCtx} (hs : s ∈ rsasigSetters ctx key) (p : OsslData) :
    SameOperation c (s.set c p).2 := by
  simp only [rsasigSetters, List.mem_cons, List.not_mem_nil, or_false] at hs
  rcases hs with rfl | rfl | rfl | rfl | rfl
  · exact digestSetter_same p
  · simp only [padModeSetter]
    repeat' split
    all_goals exact ⟨rfl, rfl, rfl, rfl, rfl, rfl, rfl⟩
  · simp only [saltlenSetter, rsasigSetSaltlen, setPssSaltlenFromDigest, setPssSaltlenMax]
    repeat' split
    all_goals exact ⟨rfl, rfl, rfl, rfl, rfl, rfl, rfl⟩
  · simp only [mgf1DigestSetter]
    split <;> exact ⟨rfl, rfl, rfl, rfl, rfl, rfl, rfl⟩
  · exact signatureSetter_same p

theorem eddsaSetters_same {s : Setter SigCtx} (hs : s ∈ [instanceSetter, edContextStringSetter])
    (p : OsslData) : SameOperation c (s.set c p).2 := by
  simp only [List.mem_cons, List.not_mem_nil, or_false] at hs
  rcases hs with rfl | rfl
  · simp only [instanceSetter]
    repeat' split
    all_goals exact ⟨rfl, rfl, rfl, rfl, rfl, rfl, rfl⟩
  · simp only [edContextStringSetter]
    split <;> exact ⟨rfl, rfl, rfl, rfl, rfl, rfl, rfl⟩

theorem eddsaInstanceToParams_same : SameOperation c (eddsaInstanceToParams c).2 := by
  unfold eddsaInstanceToParams
  cases c.edInstance <;> exact ⟨rfl, rfl, rfl, rfl, rfl, rfl, rfl⟩

theorem mldsaSetters_same {s : Setter SigCtx} (hs : s ∈ mldsaSetters) (p : OsslData) :
    SameOperation c (s.set c p).2 := by
  simp only [mldsaSetters, List.mem_cons, List.not_mem_nil, or_false] at hs
  rcases hs with rfl | rfl | rfl | rfl | rfl
  · simp only [mlContextStringSetter]
    split <;> exact ⟨rfl, rfl, rfl, rfl, rfl, rfl, rfl⟩
  · simp only [deterministicSetter]
    repeat' split
    all_goals exact ⟨rfl, rfl, rfl, rfl, rfl, rfl, rfl⟩
  · exact sameOperation_rfl
  · exact sameOperation_rfl
  · exact signatureSetter_same p

theorem setCtxParams_same {params : Option (List OsslParam)} :
    SameOperation c (alg.setCtxParams ctx key params c).2 := by
  cases alg with
  | rsasig =>
    cases params with
    | none => exact sameOperation_rfl
    | some params => exact setAll_same fun s hs c p => rsasigSetters_same hs p
  | ecdsa =>
    cases params with
    | none => exact sameOperation_rfl
    | some params =>
      refine setAll_same fun s hs c p => ?_
      simp only [List.mem_cons, List.not_mem_nil, or_false] at hs
      rcases hs with rfl | rfl
      · exact digestSetter_same p
      · exact signatureSetter_same p
  | eddsa =>
    have hset : SameOperation c
        (setAll (params.getD []) [instanceSetter, edContextStringSetter] c).2 :=
      setAll_same fun s hs c p => eddsaSetters_same hs p
    simp only [SigAlg.setCtxParams, eddsaSetCtxParams]
    split
    · exact hset
    · exact hset.trans eddsaInstanceToParams_same
  | mldsa =>
    cases params with
    | none => exact sameOperation_rfl
    | some params => exact setAll_same fun s hs c p => mldsaSetters_same hs p

end Same

end P11Prov
