import ZendRawTx.Sign.Loop

/-!
# The invariant of the signing loops

Everything but the scriptSigs is the base entity's, unvisited inputs are the base's, and the
errors name the visited inputs that are missing or fail mid-loop (`midLoopContext`). One step
lemma serves both loops.
-/

namespace ZendRawTx

set_option autoImplicit false

open HasInputs

section Invariant

variable {σ : Type} [HasInputs σ]

/-- What pass `i` verifies against: inputs up to `i` as in `final`, later ones as in `base`. -/
def midLoopContext (base final : σ) (i : Nat) : σ :=
  withVin final ((vin final).take (i + 1) ++ (vin base).drop (i + 1))

/-- The error object the loop records for input `i`, if any. -/
def inputError (ops : ScriptOps σ) (view : CCoinsViewCache) (base final : σ) (i : Nat) :
    Option UniValue :=
  match prevPubKeyOf view (vinAt base i).prevout with
  | none => some (txInErrorEntry (vinAt final i) "Input not found or already spent")
  | some prevPubKey =>
    match ops.verifyScript (vinAt final i).scriptSig prevPubKey (midLoopContext base final i) i with
    | .ok _ => none
    | .error serror => some (txInErrorEntry (vinAt final i) (ops.scriptErrorString serror))

/-- The invariant after the passes over inputs `0, …, k - 1`. -/
structure LoopInv (ops : ScriptOps σ) (view : CCoinsViewCache) (base : σ) (k : Nat)
    (st : SignState σ) : Prop where
  strip : stripScriptSigs st.merged = stripScriptSigs base
  untouched : ∀ j, k ≤ j ∨ prevPubKeyOf view (vinAt base j).prevout = none →
    vinAt st.merged j = vinAt base j
  errors : st.vErrors = (List.range k).filterMap (inputError ops view base st.merged)

theorem length_vin_eq_of_strip {a b : σ} (h : stripScriptSigs a = stripScriptSigs b) :
    (vin a).length = (vin b).length := by
  simpa [stripScriptSigs] using congrArg (fun e => (vin e).length) h

theorem midLoopContext_setScriptSig_of_lt (base m : σ) {j k : Nat} (s : CScript)
    (hjk : j < k) : midLoopContext base (setScriptSig m k s) j = midLoopContext base m j := by
  simp only [midLoopContext, setScriptSig, vin_withVin, withVin_withVin, List.take_modify]
  rw [List.modify_eq_self (by simp; omega)]

theorem inputError_setScriptSig_of_lt (ops : ScriptOps σ) (view : CCoinsViewCache)
    (base m : σ) {j k : Nat} (s : CScript) (hjk : j < k) :
    inputError ops view base (setScriptSig m k s) j = inputError ops view base m j := by
  simp only [inputError, midLoopContext_setScriptSig_of_lt base m s hjk,
    vinAt_setScriptSig_of_ne m s (Nat.ne_of_gt hjk)]

theorem midLoopContext_eq_self {base m : σ} {i : Nat}
    (hlen : (vin m).length = (vin base).length)
    (hlater : ∀ j, i < j → vinAt m j = vinAt base j) : midLoopContext base m i = m := by
  have hdrop : (vin base).drop (i + 1) = (vin m).drop (i + 1) := by
    apply List.ext_getElem (by simp [hlen])
    intro j h₁ h₂
    simp only [List.length_drop] at h₁ h₂
    simp only [List.getElem_drop]
    rw [← vinAt_eq_getElem _ (by omega), ← vinAt_eq_getElem _ (by omega), hlater _ (by omega)]
  rw [midLoopContext, hdrop, List.take_append_drop, withVin_vin]

theorem LoopInv.midLoopContext_setScriptSig {ops : ScriptOps σ} {view : CCoinsViewCache}
    {base : σ} {k : Nat} {st : SignState σ} (hinv : LoopInv ops view base k st) (s : CScript) :
    midLoopContext base (setScriptSig st.merged k s) k = setScriptSig st.merged k s := by
  apply midLoopContext_eq_self (by rw [length_vin_setScriptSig]; exact length_vin_eq_of_strip hinv.strip)
  intro j hj
  rw [vinAt_setScriptSig_of_ne _ _ (by omega)]
  exact hinv.untouched j (.inl (by omega))

theorem SignStep.frozen {ops : ScriptOps σ} {view : CCoinsViewCache} {k j : Nat}
    {st st' : SignState σ} (hstep : SignStep ops view st k st') (base : σ) (hj : j < k) :
    midLoopContext base st'.merged j = midLoopContext base st.merged j ∧
      vinAt st'.merged j = vinAt st.merged j := by
  rcases hstep with ⟨-, rfl⟩ | ⟨-, s, -, hmerged, -⟩
  · exact ⟨rfl, rfl⟩
  · rw [hmerged]
    exact ⟨midLoopContext_setScriptSig_of_lt base _ s hj, vinAt_setScriptSig_of_ne _ s (by omega)⟩

theorem LoopInv.step {ops : ScriptOps σ} {view : CCoinsViewCache} {base : σ} {k : Nat}
    {st st' : SignState σ} (hinv : LoopInv ops view base k st) (hstep : SignStep ops view st k st') :
    LoopInv ops view base (k + 1) st' := by
  have hk := hinv.untouched k (.inl (Nat.le_refl k))
  rcases hstep with ⟨hnone, rfl⟩ | ⟨prevPubKey, s, hprev, hmerged, herr⟩
  · refine ⟨hinv.strip, fun j hj => hinv.untouched j (hj.imp (by omega) id), ?_⟩
    rw [List.range_succ, List.filterMap_append, ← hinv.errors]
    simp [txInErrorToJSON, inputError, ← hk, hnone]
  · obtain ⟨merged', errs'⟩ := st'
    simp only at hmerged herr
    subst hmerged herr
    have hother : ∀ j, k + 1 ≤ j ∨ prevPubKeyOf view (vinAt base j).prevout = none →
        vinAt (setScriptSig st.merged k s) j = vinAt base j := by
      intro j hj
      have hne : k ≠ j := by
        rintro rfl
        rcases hj with hj | hj
        · omega
        · simp_all
      rw [vinAt_setScriptSig_of_ne _ _ hne]
      exact hinv.untouched j (hj.imp (by omega) id)
    refine ⟨by rw [stripScriptSigs_setScriptSig, hinv.strip], hother, ?_⟩
    have hold : (List.range k).filterMap (inputError ops view base (setScriptSig st.merged k s)) =
        (List.range k).filterMap (inputError ops view base st.merged) :=
      List.filterMap_congr fun j hj =>
        inputError_setScriptSig_of_lt ops view base st.merged s (List.mem_range.mp hj)
    rw [List.range_succ, List.filterMap_append, hold, ← hinv.errors]
    simp only [verifyInput, List.filterMap_cons, List.filterMap_nil, inputError, ← hk, hprev,
      hinv.midLoopContext_setScriptSig]
    cases ops.verifyScript (vinAt (setScriptSig st.merged k s) k).scriptSig prevPubKey
      (setScriptSig st.merged k s) k <;> simp [txInErrorToJSON]

theorem loopInv_zero (ops : ScriptOps σ) (view : CCoinsViewCache) (base : σ) :
    LoopInv ops view base 0 ⟨base, []⟩ :=
  ⟨rfl, fun _ _ => rfl, rfl⟩

/-- The invariant, plus a fact `Q` each pass establishes about the input it visits. -/
def Visited (ops : ScriptOps σ) (view : CCoinsViewCache) (base : σ) (Q : Nat → σ → CTxIn → Prop)
    (k : Nat) (st : SignState σ) : Prop :=
  LoopInv ops view base k st ∧ ∀ j < k, Q j (midLoopContext base st.merged j) (vinAt st.merged j)

theorem Visited.step {ops : ScriptOps σ} {view : CCoinsViewCache} {base : σ}
    {Q : Nat → σ → CTxIn → Prop} {k : Nat} {st st' : SignState σ}
    (hv : Visited ops view base Q k st) (hstep : SignStep ops view st k st')
    (hQ : Q k (midLoopContext base st'.merged k) (vinAt st'.merged k)) :
    Visited ops view base Q (k + 1) st' := by
  refine ⟨hv.1.step hstep, fun j hj => ?_⟩
  rcases Nat.lt_succ_iff_lt_or_eq.mp hj with hj | rfl
  · rw [(hstep.frozen base hj).1, (hstep.frozen base hj).2]
    exact hv.2 j hj
  · exact hQ

end Invariant

theorem signTransactionInputs_visited (ops : ScriptOps CMutableTransaction)
    (view : CCoinsViewCache) (keystore : CBasicKeyStore) (nHashType : BitVec 32)
    (txVariants : List CMutableTransaction) (base : CMutableTransaction)
    (Q : Nat → CMutableTransaction → CTxIn → Prop)
    (hQ : ∀ k st st', k < (vin base).length → LoopInv ops view base k st →
      signTransactionInput ops view keystore nHashType txVariants st k = some st' →
      Q k (midLoopContext base st'.merged k) (vinAt st'.merged k))
    {n : Nat} (hn : n ≤ (vin base).length) {r : SignState CMutableTransaction}
    (h : (List.range n).foldlM (signTransactionInput ops view keystore nHashType txVariants)
      ⟨base, []⟩ = some r) :
    Visited ops view base Q n r := by
  induction n generalizing r with
  | zero => cases h; exact ⟨loopInv_zero ops view base, fun _ h => absurd h (Nat.not_lt_zero _)⟩
  | succ n ih =>
    rw [List.range_succ, List.foldlM_append] at h
    obtain ⟨st, hst, hlast⟩ := Option.bind_eq_some.mp h
    have hpass : signTransactionInput ops view keystore nHashType txVariants st n = some r := by
      simpa using hlast
    have hv := ih (by omega) hst
    exact hv.step (signTransactionInput_step ops view keystore nHashType txVariants _ _ _ hpass)
      (hQ n st r (by omega) hv.1 hpass)

theorem signTransactionInputs_inv (ops : ScriptOps CMutableTransaction) (view : CCoinsViewCache)
    (keystore : CBasicKeyStore) (nHashType : BitVec 32) (txVariants : List CMutableTransaction)
    (base : CMutableTransaction) {r : SignState CMutableTransaction}
    (h : signTransactionInputs ops view keystore nHashType txVariants base = some r) :
    LoopInv ops view base (vin base).length r :=
  (signTransactionInputs_visited ops view keystore nHashType txVariants base (fun _ _ _ => True)
    (fun _ _ _ _ _ _ => trivial) (Nat.le_refl _) h).1

theorem signCertificateInputs_visited (ops : ScriptOps CMutableScCertificate)
    (view : CCoinsViewCache) (keystore : CBasicKeyStore) (base : CMutableScCertificate)
    (Q : Nat → CMutableScCertificate → CTxIn → Prop)
    (hQ : ∀ k st, k < (vin base).length → LoopInv ops view base k st →
      Q k (midLoopContext base (signCertificateInput ops view keystore st k).merged k)
        (vinAt (signCertificateInput ops view keystore st k).merged k)) :
    Visited ops view base Q (vin base).length (signCertificateInputs ops view keystore base) := by
  unfold signCertificateInputs
  suffices ∀ n ≤ (vin base).length, Visited ops view base Q n
      ((List.range n).foldl (signCertificateInput ops view keystore) ⟨base, []⟩) from
    this _ (Nat.le_refl _)
  intro n hn
  induction n with
  | zero => exact ⟨loopInv_zero ops view base, fun _ h => absurd h (Nat.not_lt_zero _)⟩
  | succ n ih =>
    rw [List.range_succ, List.foldl_append, List.foldl_cons, List.foldl_nil]
    have hv := ih (by omega)
    exact hv.step (signCertificateInput_step ops view keystore _ n) (hQ n _ (by omega) hv.1)

theorem signCertificateInputs_inv (ops : ScriptOps CMutableScCertificate)
    (view : CCoinsViewCache) (keystore : CBasicKeyStore) (base : CMutableScCertificate) :
    LoopInv ops view base (vin base).length (signCertificateInputs ops view keystore base) :=
  (signCertificateInputs_visited ops view keystore base (fun _ _ _ => True)
    (fun _ _ _ _ => trivial)).1

end ZendRawTx
