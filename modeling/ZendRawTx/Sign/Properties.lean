import ZendRawTx.Sign.Invariant

/-!
# What the signing loops return

The errors name exactly the missing or failing inputs, a complete result verifies in the
returned entity, and only the scriptSigs of available inputs change.
-/

namespace ZendRawTx

set_option autoImplicit false

open HasInputs

section Report

variable {σ : Type} [HasInputs σ]

/-- Every input verifies against its spent output, the entity itself being the context. -/
def AllInputsVerify (ops : ScriptOps σ) (view : CCoinsViewCache) (e : σ) : Prop :=
  ∀ i < (vin e).length, ∃ prevPubKey, prevPubKeyOf view (vinAt e i).prevout = some prevPubKey ∧
    ops.verifyScript (vinAt e i).scriptSig prevPubKey e i = .ok ()

/-- The digest of input `i` reads no other input's scriptSig, as `SignatureHash`. -/
def DigestIgnoresOtherScriptSigs (ops : ScriptOps σ) : Prop :=
  ∀ s prevPubKey (e e' : σ) i, stripScriptSigs e = stripScriptSigs e' →
    (vinAt e i).scriptSig = (vinAt e' i).scriptSig →
    ops.verifyScript s prevPubKey e i = ops.verifyScript s prevPubKey e' i

@[simp] theorem vinAt_stripScriptSigs (e : σ) (i : Nat) :
    vinAt (stripScriptSigs e) i = { vinAt e i with scriptSig := [] } := by
  simp only [vinAt, stripScriptSigs, vin_withVin, List.getD_eq_getElem?_getD, List.getElem?_map]
  cases (vin e)[i]? <;> rfl

theorem prevout_vinAt_of_strip {a b : σ} (h : stripScriptSigs a = stripScriptSigs b) (i : Nat) :
    (vinAt a i).prevout = (vinAt b i).prevout := by
  simpa using congrArg (fun e => (vinAt e i).prevout) h

theorem stripScriptSigs_midLoopContext {base final : σ}
    (h : stripScriptSigs final = stripScriptSigs base) (i : Nat) :
    stripScriptSigs (midLoopContext base final i) = stripScriptSigs final := by
  have hmap := congrArg vin h
  simp only [stripScriptSigs, vin_withVin] at hmap
  simp only [stripScriptSigs, midLoopContext, vin_withVin, withVin_withVin, List.map_append,
    List.map_take, List.map_drop, ← hmap, List.take_append_drop]

theorem vinAt_midLoopContext_self (base final : σ) {i : Nat} (hi : i < (vin final).length) :
    vinAt (midLoopContext base final i) i = vinAt final i := by
  rw [vinAt_eq_getElem _ (by simp [midLoopContext]; omega), vinAt_eq_getElem _ hi]
  simp only [midLoopContext, vin_withVin]
  rw [List.getElem_append_left (by simp; omega)]
  simp

theorem setScriptSig_vinAt (e : σ) {i : Nat} (hi : i < (vin e).length) :
    setScriptSig e i (vinAt e i).scriptSig = e := by
  rw [setScriptSig, vinAt_eq_getElem _ hi]
  conv_rhs => rw [← withVin_vin e]
  congr 1
  apply List.ext_getElem (by simp)
  intro j _ _
  simp only [List.getElem_modify]
  split <;> simp_all

theorem inputError_eq_none {ops : ScriptOps σ} {view : CCoinsViewCache} {base final : σ}
    {i : Nat} : inputError ops view base final i = none ↔
      ∃ prevPubKey, prevPubKeyOf view (vinAt base i).prevout = some prevPubKey ∧
        ops.verifyScript (vinAt final i).scriptSig prevPubKey (midLoopContext base final i) i =
          .ok () := by
  unfold inputError
  split
  · simp_all
  · rename_i prevPubKey hprev
    split <;> simp_all

theorem LoopInv.report {ops : ScriptOps σ} {view : CCoinsViewCache} {base : σ}
    {r : SignState σ} (hinv : LoopInv ops view base (vin base).length r) :
    r.vErrors = (List.range (vin base).length).filterMap (inputError ops view base r.merged) ∧
      (r.fComplete = true ↔ r.vErrors = []) ∧
      (DigestIgnoresOtherScriptSigs ops → r.fComplete = true → AllInputsVerify ops view r.merged) := by
  refine ⟨hinv.errors, by simp [SignState.fComplete], fun hdigest hc i hi => ?_⟩
  have hlen := length_vin_eq_of_strip hinv.strip
  have hnil : r.vErrors = [] := by simpa [SignState.fComplete] using hc
  rw [hinv.errors, List.filterMap_eq_nil_iff] at hnil
  obtain ⟨prevPubKey, hprev, hok⟩ :=
    inputError_eq_none.mp (hnil i (List.mem_range.mpr (by omega)))
  refine ⟨prevPubKey, by rwa [prevout_vinAt_of_strip hinv.strip], ?_⟩
  rw [← hok]
  exact hdigest _ _ _ _ _ (stripScriptSigs_midLoopContext hinv.strip i).symm
    (by rw [vinAt_midLoopContext_self base _ hi])

theorem LoopInv.complete_iff {ops : ScriptOps σ} {view : CCoinsViewCache} {base : σ}
    {r : SignState σ} (hinv : LoopInv ops view base (vin base).length r)
    (hdigest : DigestIgnoresOtherScriptSigs ops) :
    r.fComplete = true ↔ AllInputsVerify ops view r.merged := by
  refine ⟨hinv.report.2.2 hdigest, fun hall => ?_⟩
  have hlen := length_vin_eq_of_strip hinv.strip
  simp only [SignState.fComplete, List.isEmpty_iff, hinv.errors, List.filterMap_eq_nil_iff,
    List.mem_range]
  intro i hi
  obtain ⟨prevPubKey, hprev, hok⟩ := hall i (by omega)
  refine inputError_eq_none.mpr ⟨prevPubKey, by rwa [← prevout_vinAt_of_strip hinv.strip], ?_⟩
  exact (hdigest _ _ _ _ _ (stripScriptSigs_midLoopContext hinv.strip i)
    (by rw [vinAt_midLoopContext_self base r.merged (by omega)])).trans hok

end Report

/-- A script system for concrete runs: a scriptSig unlocks exactly the script equal to it. -/
def exactMatchOps (σ : Type) : ScriptOps σ where
  signSignature keystore prevPubKey _ _ _ := if prevPubKey ∈ keystore.keys then prevPubKey else []
  combineSignatures prevPubKey _ _ a b := if a = prevPubKey then a else b
  verifyScript s prevPubKey _ _ := if s = prevPubKey then .ok () else .error ⟨2⟩
  scriptErrorString _ := "Script evaluated without error but finished with a false/empty top stack element"

/-- An input spending output 0 of transaction 1. -/
def fixtureTxIn (scriptSig : CScript) : CTxIn := ⟨⟨1, 0⟩, scriptSig, 0⟩

/-- A view where output 0 of transaction 1 is available, locked by the script `0x51`. -/
def fixtureView : CCoinsViewCache := fun h => if h = 1 then some ⟨[⟨0, [0x51]⟩]⟩ else none

def fixtureTx (vin : List CTxIn) : CMutableTransaction :=
  { nVersion := 1, vin, vout := [], nLockTime := 0, vjoinsplit := [], joinSplitPubKey := 0,
    joinSplitSig := [], vsc_ccout := [], vft_ccout := [] }

theorem signing_loops_report_exactly_the_failed_inputs :
    (∀ (ops : ScriptOps CMutableTransaction) (view : CCoinsViewCache) (keystore : CBasicKeyStore)
        (nHashType : BitVec 32) (txVariants : List CMutableTransaction)
        (base : CMutableTransaction),
      ((∀ txv ∈ txVariants, (vin base).length ≤ txv.vin.length) →
          (signTransactionInputs ops view keystore nHashType txVariants base).isSome) ∧
        ∀ r, signTransactionInputs ops view keystore nHashType txVariants base = some r →
          r.vErrors = (List.range (vin base).length).filterMap (inputError ops view base r.merged) ∧
          (r.fComplete = true ↔ r.vErrors = []) ∧
          (DigestIgnoresOtherScriptSigs ops → r.fComplete = true →
            AllInputsVerify ops view r.merged)) ∧
    (∀ (ops : ScriptOps CMutableScCertificate) (view : CCoinsViewCache)
        (keystore : CBasicKeyStore) (base : CMutableScCertificate),
      (signCertificateInputs ops view keystore base).vErrors =
          (List.range (vin base).length).filterMap
            (inputError ops view base (signCertificateInputs ops view keystore base).merged) ∧
      ((signCertificateInputs ops view keystore base).fComplete = true ↔
          (signCertificateInputs ops view keystore base).vErrors = []) ∧
      (DigestIgnoresOtherScriptSigs ops → (signCertificateInputs ops view keystore base).fComplete →
        AllInputsVerify ops view (signCertificateInputs ops view keystore base).merged)) :=
  ⟨fun ops view keystore nHashType txVariants base =>
      ⟨signTransactionInputs_isSome_of_variants ops view keystore nHashType txVariants base,
        fun _ h => (signTransactionInputs_inv ops view keystore nHashType txVariants base h).report⟩,
    fun ops view keystore base => (signCertificateInputs_inv ops view keystore base).report⟩

theorem signing_loops_report_exactly_the_failed_inputs_of_fixture :
    (signTransactionInputs (exactMatchOps _) fixtureView ⟨[], []⟩ SIGHASH_ALL
        [fixtureTx [fixtureTxIn []]] (fixtureTx [fixtureTxIn []])).isSome ∧
      signTransactionInputs (exactMatchOps _) fixtureView ⟨[], []⟩ SIGHASH_ALL
          [fixtureTx [fixtureTxIn []]] (fixtureTx [fixtureTxIn []]) =
        some ⟨fixtureTx [fixtureTxIn []], [txInErrorEntry (fixtureTxIn [])
          "Script evaluated without error but finished with a false/empty top stack element"]⟩ ∧
      [txInErrorEntry (fixtureTxIn [])
          "Script evaluated without error but finished with a false/empty top stack element"] =
        (List.range 1).filterMap (inputError (exactMatchOps _) fixtureView
          (fixtureTx [fixtureTxIn []]) (fixtureTx [fixtureTxIn []])) :=
  have h := signing_loops_report_exactly_the_failed_inputs.1 (exactMatchOps _) fixtureView
    ⟨[], []⟩ SIGHASH_ALL [fixtureTx [fixtureTxIn []]] (fixtureTx [fixtureTxIn []])
  ⟨h.1 (by decide), rfl, (h.2 _ rfl).1⟩

theorem signing_loops_rewrite_only_available_scriptSigs :
    (∀ (ops : ScriptOps CMutableTransaction) (view : CCoinsViewCache) (keystore : CBasicKeyStore)
        (nHashType : BitVec 32) (txVariants : List CMutableTransaction)
        (base : CMutableTransaction),
      ((∀ txv ∈ txVariants, (vin base).length ≤ txv.vin.length) →
          (signTransactionInputs ops view keystore nHashType txVariants base).isSome) ∧
        ∀ r, signTransactionInputs ops view keystore nHashType txVariants base = some r →
          stripScriptSigs r.merged = stripScriptSigs base ∧
          ∀ i, prevPubKeyOf view (vinAt base i).prevout = none → vinAt r.merged i = vinAt base i) ∧
    (∀ (ops : ScriptOps CMutableScCertificate) (view : CCoinsViewCache)
        (keystore : CBasicKeyStore) (base : CMutableScCertificate),
      stripScriptSigs (signCertificateInputs ops view keystore base).merged = stripScriptSigs base ∧
      ∀ i, prevPubKeyOf view (vinAt base i).prevout = none →
        vinAt (signCertificateInputs ops view keystore base).merged i = vinAt base i) :=
  ⟨fun ops view keystore nHashType txVariants base =>
      ⟨signTransactionInputs_isSome_of_variants ops view keystore nHashType txVariants base,
        fun _ h =>
          have hinv := signTransactionInputs_inv ops view keystore nHashType txVariants base h
          ⟨hinv.strip, fun i hi => hinv.untouched i (.inr hi)⟩⟩,
    fun ops view keystore base =>
      have hinv := signCertificateInputs_inv ops view keystore base
      ⟨hinv.strip, fun i hi => hinv.untouched i (.inr hi)⟩⟩

/-- An input spending output 0 of transaction 2, which the fixture view does not hold. -/
def missingTxIn : CTxIn := ⟨⟨2, 0⟩, [0x07], 0⟩

theorem signing_loops_rewrite_only_available_scriptSigs_of_fixture :
    (signTransactionInputs (exactMatchOps _) fixtureView ⟨[[0x51]], []⟩ SIGHASH_ALL
        [fixtureTx [fixtureTxIn [], missingTxIn]] (fixtureTx [fixtureTxIn [], missingTxIn])).isSome ∧
      signTransactionInputs (exactMatchOps _) fixtureView ⟨[[0x51]], []⟩ SIGHASH_ALL
          [fixtureTx [fixtureTxIn [], missingTxIn]] (fixtureTx [fixtureTxIn [], missingTxIn]) =
        some ⟨fixtureTx [fixtureTxIn [0x51], missingTxIn],
          [txInErrorEntry missingTxIn "Input not found or already spent"]⟩ ∧
      stripScriptSigs (fixtureTx [fixtureTxIn [0x51], missingTxIn]) =
        stripScriptSigs (fixtureTx [fixtureTxIn [], missingTxIn]) ∧
      vinAt (fixtureTx [fixtureTxIn [0x51], missingTxIn]) 1 =
        vinAt (fixtureTx [fixtureTxIn [], missingTxIn]) 1 :=
  have h := signing_loops_rewrite_only_available_scriptSigs.1 (exactMatchOps _) fixtureView
    ⟨[[0x51]], []⟩ SIGHASH_ALL [fixtureTx [fixtureTxIn [], missingTxIn]]
    (fixtureTx [fixtureTxIn [], missingTxIn])
  ⟨h.1 (by decide), rfl, (h.2 _ rfl).1, (h.2 _ rfl).2 1 rfl⟩

end ZendRawTx
