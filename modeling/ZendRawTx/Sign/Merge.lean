import ZendRawTx.Sign.Properties

/-!
# Merging variants and signing again

Under the combiner's contract the variant fold never loses a passing candidate, but it reads
`txv.vin[i]` of every variant. `signrawcertificate` has no fold: an available input ends with
the signer's scriptSig alone.
-/

namespace ZendRawTx

set_option autoImplicit false

open HasInputs

section Passes

variable {σ : Type} [HasInputs σ]

/-- A scriptSig `s` passes for input `i` of `e`: input `i`, carrying `s`, verifies. -/
def Passes (ops : ScriptOps σ) (prevPubKey : CScript) (e : σ) (i : Nat) (s : CScript) : Prop :=
  ops.verifyScript s prevPubKey (setScriptSig e i s) i = .ok ()

/-- The contract of `CombineSignatures`: the merge passes whenever one of the two does. -/
def CombinerKeepsValid (ops : ScriptOps σ) : Prop :=
  ∀ prevPubKey e i a b, Passes ops prevPubKey e i a ∨ Passes ops prevPubKey e i b →
    Passes ops prevPubKey e i (ops.combineSignatures prevPubKey e i a b)

@[simp] theorem passes_setScriptSig (ops : ScriptOps σ) (prevPubKey : CScript) (e : σ) (i : Nat)
    (a s : CScript) : Passes ops prevPubKey (setScriptSig e i a) i s ↔ Passes ops prevPubKey e i s := by
  simp [Passes]

theorem inputError_eq_none_of_passes {ops : ScriptOps σ} {view : CCoinsViewCache} {base final : σ}
    {i : Nat} {prevPubKey : CScript} (hi : i < (vin final).length)
    (hprev : prevPubKeyOf view (vinAt base i).prevout = some prevPubKey)
    (hpass : Passes ops prevPubKey (midLoopContext base final i) i (vinAt final i).scriptSig) :
    inputError ops view base final i = none := by
  refine inputError_eq_none.mpr ⟨prevPubKey, hprev, ?_⟩
  rw [Passes, ← vinAt_midLoopContext_self base final hi, setScriptSig_vinAt _ (by
    simp [midLoopContext]; omega)] at hpass
  rwa [← vinAt_midLoopContext_self base final hi]

end Passes

theorem exactMatchOps_combinerKeepsValid (σ : Type) [HasInputs σ] :
    CombinerKeepsValid (exactMatchOps σ) := by
  intro prevPubKey e i a b h
  simp only [Passes, exactMatchOps] at *
  split_ifs at * <;> simp_all

@[simp] theorem vout_setScriptSig (e : CMutableTransaction) (i : Nat) (s : CScript) :
    (setScriptSig e i s).vout = e.vout := rfl

theorem signTransactionInput_fold (ops : ScriptOps CMutableTransaction) (view : CCoinsViewCache)
    (keystore : CBasicKeyStore) (nHashType : BitVec 32) (txVariants : List CMutableTransaction)
    {st st' : SignState CMutableTransaction} {i : Nat} {prevPubKey : CScript}
    (h : signTransactionInput ops view keystore nHashType txVariants st i = some st')
    (hprev : prevPubKeyOf view (vinAt st.merged i).prevout = some prevPubKey) :
    txVariants.foldlM (combineVariant ops prevPubKey i) (setScriptSig st.merged i
      (if (!fHashSingle nHashType || decide (i < st.merged.vout.length)) = true then
        ops.signSignature keystore prevPubKey (setScriptSig st.merged i []) i nHashType
      else [])) = some st'.merged := by
  simp only [signTransactionInput, hprev, vout_setScriptSig] at h
  obtain ⟨merged, hfold, rfl⟩ := Option.map_eq_some'.mp h
  rw [← hfold]
  by_cases hsign : (!fHashSingle nHashType || decide (i < st.merged.vout.length)) = true <;>
    simp [hsign]

theorem combineVariants_passes (ops : ScriptOps CMutableTransaction)
    (hc : CombinerKeepsValid ops) (prevPubKey : CScript) {i : Nat} (e : CMutableTransaction)
    (hi : i < (vin e).length) :
    ∀ (txVariants : List CMutableTransaction) (a : CScript) {e' : CMutableTransaction},
      txVariants.foldlM (combineVariant ops prevPubKey i) (setScriptSig e i a) = some e' →
      (Passes ops prevPubKey e i a ∨ ∃ txv ∈ txVariants, ∃ txvin, txv.vin[i]? = some txvin ∧
        Passes ops prevPubKey e i txvin.scriptSig) →
      Passes ops prevPubKey e i (vinAt e' i).scriptSig := by
  intro txVariants
  induction txVariants with
  | nil =>
    intro a e' h hcand
    cases h
    simpa [hi] using hcand
  | cons txv rest ih =>
    intro a e' h hcand
    simp only [List.foldlM_cons, combineVariant, Option.bind_eq_bind] at h
    cases hv : txv.vin[i]? with
    | none => simp [hv] at h
    | some txvin =>
      simp only [hv, Option.map_some', Option.some_bind, setScriptSig_setScriptSig,
        vinAt_setScriptSig_self _ _ hi] at h
      refine ih _ h ?_
      rcases hcand with hcand | ⟨txv', hmem, txvin', hv', hpass⟩
      · exact .inl (by simpa using hc prevPubKey (setScriptSig e i a) i a txvin.scriptSig (.inl (by simpa using hcand)))
      · rcases List.mem_cons.mp hmem with rfl | hmem
        · rw [hv] at hv'
          cases hv'
          exact .inl (by simpa using hc prevPubKey (setScriptSig e i a) i a txvin.scriptSig (.inr (by simpa using hpass)))
        · exact .inr ⟨txv', hmem, txvin', hv', hpass⟩

/-- Some scriptSig pass `i` folds in passes in `ctx`: the one it signs, or a variant's. -/
def SomeCandidatePasses (ops : ScriptOps CMutableTransaction) (keystore : CBasicKeyStore)
    (nHashType : BitVec 32) (txVariants : List CMutableTransaction) (prevPubKey : CScript)
    (ctx : CMutableTransaction) (i : Nat) : Prop :=
  ((!fHashSingle nHashType || decide (i < ctx.vout.length)) = true ∧
      Passes ops prevPubKey ctx i
        (ops.signSignature keystore prevPubKey (setScriptSig ctx i []) i nHashType)) ∨
    ∃ txv ∈ txVariants, ∃ txvin, txv.vin[i]? = some txvin ∧
      Passes ops prevPubKey ctx i txvin.scriptSig

theorem signTransactionInput_keeps_candidate (ops : ScriptOps CMutableTransaction)
    (hc : CombinerKeepsValid ops) (view : CCoinsViewCache) (keystore : CBasicKeyStore)
    (nHashType : BitVec 32) (txVariants : List CMutableTransaction) (base : CMutableTransaction)
    {k : Nat} {st st' : SignState CMutableTransaction} (hk : k < (vin base).length)
    (hinv : LoopInv ops view base k st)
    (h : signTransactionInput ops view keystore nHashType txVariants st k = some st')
    (prevPubKey : CScript) (hprev : prevPubKeyOf view (vinAt base k).prevout = some prevPubKey)
    (hcand : SomeCandidatePasses ops keystore nHashType txVariants prevPubKey
      (midLoopContext base st'.merged k) k) :
    Passes ops prevPubKey (midLoopContext base st'.merged k) k (vinAt st'.merged k).scriptSig := by
  rw [← hinv.untouched k (.inl (Nat.le_refl k))] at hprev
  have hfold := signTransactionInput_fold ops view keystore nHashType txVariants h hprev
  have hlen : k < (vin st.merged).length := by rw [length_vin_eq_of_strip hinv.strip]; exact hk
  obtain ⟨s', hs'⟩ := combineVariants_eq ops prevPubKey k txVariants st.merged _ hfold
  rw [hs', hinv.midLoopContext_setScriptSig] at hcand ⊢
  rw [passes_setScriptSig, ← hs']
  refine combineVariants_passes ops hc prevPubKey st.merged hlen txVariants _ hfold ?_
  simp only [SomeCandidatePasses, passes_setScriptSig, setScriptSig_setScriptSig,
    vout_setScriptSig] at hcand
  rcases hcand with ⟨hsign, hpass⟩ | hvar
  · exact .inl (by rwa [if_pos hsign])
  · exact .inr hvar

theorem merging_keeps_a_valid_candidate (ops : ScriptOps CMutableTransaction)
    (hc : CombinerKeepsValid ops) (view : CCoinsViewCache) (keystore : CBasicKeyStore)
    (nHashType : BitVec 32) (txVariants : List CMutableTransaction) (base : CMutableTransaction) :
    ((∀ txv ∈ txVariants, (vin base).length ≤ txv.vin.length) →
        (signTransactionInputs ops view keystore nHashType txVariants base).isSome) ∧
      ∀ r, signTransactionInputs ops view keystore nHashType txVariants base = some r →
        ∀ i < (vin base).length, ∀ prevPubKey,
          prevPubKeyOf view (vinAt base i).prevout = some prevPubKey →
          SomeCandidatePasses ops keystore nHashType txVariants prevPubKey
            (midLoopContext base r.merged i) i →
          Passes ops prevPubKey (midLoopContext base r.merged i) i (vinAt r.merged i).scriptSig ∧
            inputError ops view base r.merged i = none := by
  refine ⟨signTransactionInputs_isSome_of_variants ops view keystore nHashType txVariants base,
    fun r h i hi prevPubKey hprev hcand => ?_⟩
  have hv := signTransactionInputs_visited ops view keystore nHashType txVariants base
    (fun k ctx txin => ∀ prevPubKey, prevPubKeyOf view (vinAt base k).prevout = some prevPubKey →
      SomeCandidatePasses ops keystore nHashType txVariants prevPubKey ctx k →
      Passes ops prevPubKey ctx k txin.scriptSig)
    (fun _ _ _ hk hinv hpass => signTransactionInput_keeps_candidate ops hc view keystore
      nHashType txVariants base hk hinv hpass) (Nat.le_refl _) h
  have hpass := hv.2 i hi prevPubKey hprev hcand
  exact ⟨hpass, inputError_eq_none_of_passes
    (by rw [length_vin_eq_of_strip hv.1.strip]; exact hi) hprev hpass⟩

theorem merging_keeps_a_valid_candidate_of_second_variant :
    (signTransactionInputs (exactMatchOps _) fixtureView ⟨[], []⟩ SIGHASH_ALL
        [fixtureTx [fixtureTxIn [0x52]], fixtureTx [fixtureTxIn [0x51]]]
        (fixtureTx [fixtureTxIn []])).isSome ∧
      signTransactionInputs (exactMatchOps _) fixtureView ⟨[], []⟩ SIGHASH_ALL
          [fixtureTx [fixtureTxIn [0x52]], fixtureTx [fixtureTxIn [0x51]]]
          (fixtureTx [fixtureTxIn []]) =
        some ⟨fixtureTx [fixtureTxIn [0x51]], []⟩ ∧
      Passes (exactMatchOps _) [0x51]
          (midLoopContext (fixtureTx [fixtureTxIn []]) (fixtureTx [fixtureTxIn [0x51]]) 0) 0
          [0x51] ∧
        inputError (exactMatchOps _) fixtureView (fixtureTx [fixtureTxIn []])
          (fixtureTx [fixtureTxIn [0x51]]) 0 = none :=
  have h := merging_keeps_a_valid_candidate (exactMatchOps _) (exactMatchOps_combinerKeepsValid _)
    fixtureView ⟨[], []⟩ SIGHASH_ALL [fixtureTx [fixtureTxIn [0x52]], fixtureTx [fixtureTxIn [0x51]]]
    (fixtureTx [fixtureTxIn []])
  ⟨h.1 (by decide), rfl, h.2 _ rfl 0 (by decide) [0x51] rfl
    (.inr ⟨_, List.mem_cons_of_mem _ (List.mem_singleton_self _), fixtureTxIn [0x51], rfl, rfl⟩)⟩

theorem signTransactionInputs_eq_none_iff (ops : ScriptOps CMutableTransaction)
    (view : CCoinsViewCache) (keystore : CBasicKeyStore) (nHashType : BitVec 32)
    (txVariants : List CMutableTransaction) (base : CMutableTransaction) :
    signTransactionInputs ops view keystore nHashType txVariants base = none ↔
      ∃ i < (vin base).length, (prevPubKeyOf view (vinAt base i).prevout).isSome ∧
        ∃ txv ∈ txVariants, txv.vin.length ≤ i := by
  unfold signTransactionInputs
  suffices ∀ n ≤ (vin base).length,
      (List.range n).foldlM (signTransactionInput ops view keystore nHashType txVariants)
        ⟨base, []⟩ = none ↔
      ∃ i < n, (prevPubKeyOf view (vinAt base i).prevout).isSome ∧
        ∃ txv ∈ txVariants, txv.vin.length ≤ i from this _ (Nat.le_refl _)
  intro n hn
  induction n with
  | zero => simp
  | succ n ih =>
    rw [List.range_succ, List.foldlM_append]
    cases hpre : (List.range n).foldlM (signTransactionInput ops view keystore nHashType
      txVariants) ⟨base, []⟩ with
    | none =>
      obtain ⟨i, hi, hbad⟩ := (ih (by omega)).mp hpre
      exact ⟨fun _ => ⟨i, by omega, hbad⟩, fun _ => rfl⟩
    | some st =>
      have hinv := (signTransactionInputs_visited ops view keystore nHashType txVariants base
        (fun _ _ _ => True) (fun _ _ _ _ _ _ => trivial) (by omega) hpre).1
      have hearlier : ¬ ∃ i < n, (prevPubKeyOf view (vinAt base i).prevout).isSome ∧
          ∃ txv ∈ txVariants, txv.vin.length ≤ i := fun hbad => by
        rw [(ih (by omega)).mpr hbad] at hpre; cases hpre
      simp only [List.foldlM_cons, List.foldlM_nil, Option.some_bind, Option.bind_eq_bind,
        Option.pure_def, Option.bind_some, signTransactionInput_eq_none,
        hinv.untouched n (.inl (Nat.le_refl n))]
      constructor
      · exact fun hbad => ⟨n, by omega, hbad⟩
      · rintro ⟨i, hi, hbad⟩
        rcases Nat.lt_succ_iff_lt_or_eq.mp hi with hi | rfl
        · exact absurd ⟨i, hi, hbad⟩ hearlier
        · exact hbad

theorem signrawtransaction_reads_past_a_short_variant :
    signTransactionInputs (exactMatchOps _) fixtureView ⟨[], []⟩ SIGHASH_ALL
      [fixtureTx [fixtureTxIn []], fixtureTx []] (fixtureTx [fixtureTxIn []]) = none := rfl

theorem signCertificateInputs_scriptSig (ops : ScriptOps CMutableScCertificate)
    (view : CCoinsViewCache) (keystore : CBasicKeyStore) (base : CMutableScCertificate)
    {i : Nat} (hi : i < (vin base).length) {prevPubKey : CScript}
    (hprev : prevPubKeyOf view (vinAt base i).prevout = some prevPubKey) :
    (vinAt (signCertificateInputs ops view keystore base).merged i).scriptSig =
      ops.signSignature keystore prevPubKey
        (setScriptSig (midLoopContext base (signCertificateInputs ops view keystore base).merged i)
          i []) i SIGHASH_ALL := by
  refine (signCertificateInputs_visited ops view keystore base
    (fun k ctx txin => ∀ prevPubKey, prevPubKeyOf view (vinAt base k).prevout = some prevPubKey →
      txin.scriptSig = ops.signSignature keystore prevPubKey (setScriptSig ctx k []) k SIGHASH_ALL)
    ?_).2 i hi prevPubKey hprev
  intro k st hk hinv prevPubKey hprev
  have hlen : k < (vin st.merged).length := by rw [length_vin_eq_of_strip hinv.strip]; exact hk
  rw [← hinv.untouched k (.inl (Nat.le_refl k))] at hprev
  simp only [signCertificateInput, hprev, setScriptSig_setScriptSig,
    hinv.midLoopContext_setScriptSig, vinAt_setScriptSig_self _ _ hlen]

/-- A certificate whose input already carries the scriptSig that unlocks it. -/
def fixtureCert : CMutableScCertificate :=
  { nVersion := -5, vin := [fixtureTxIn [0x51]], vout := [], scId := 0, epochNumber := 0,
    quality := 0, endEpochBlockHash := 0, scProof := [], nFirstBwtPos := 0 }

theorem signrawcertificate_discards_a_valid_scriptSig :
    (exactMatchOps _).verifyScript (vinAt fixtureCert 0).scriptSig [0x51] fixtureCert 0 = .ok () ∧
      (signCertificateInputs (exactMatchOps _) fixtureView ⟨[], []⟩ fixtureCert).merged =
        setScriptSig fixtureCert 0 [] ∧
      (signCertificateInputs (exactMatchOps _) fixtureView ⟨[], []⟩ fixtureCert).vErrors =
        [txInErrorEntry (fixtureTxIn [])
          "Script evaluated without error but finished with a false/empty top stack element"] := by
  have hinv := signCertificateInputs_inv (exactMatchOps _) fixtureView ⟨[], []⟩ fixtureCert
  have hsig := signCertificateInputs_scriptSig (exactMatchOps _) fixtureView ⟨[], []⟩ fixtureCert
    (i := 0) (by decide) (rfl : prevPubKeyOf fixtureView (vinAt fixtureCert 0).prevout = some [0x51])
  -- the signer holds no key, so input 0 ends with the empty scriptSig
  have hmerged : (signCertificateInputs (exactMatchOps _) fixtureView ⟨[], []⟩ fixtureCert).merged =
      setScriptSig fixtureCert 0 [] := by
    refine eq_of_stripScriptSigs (by rw [hinv.strip, stripScriptSigs_setScriptSig]) fun j => ?_
    rcases j with _ | j
    · exact hsig
    · rw [hinv.untouched _ (.inl (Nat.le_add_left 1 j)),
        vinAt_setScriptSig_of_ne _ _ (Nat.succ_ne_zero j).symm]
  exact ⟨rfl, hmerged, by rw [hinv.errors, hmerged]; rfl⟩

end ZendRawTx
