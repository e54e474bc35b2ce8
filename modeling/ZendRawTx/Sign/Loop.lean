import ZendRawTx.State

/-!
# The signing loops

"Sign what we can": for each input, look the spent output up, clear, sign, fold in every
variant (transactions only), verify. The script machinery is a parameter (`ScriptOps`); a read
of `txv.vin[i]` past a variant's end is undefined, and the loop is `none` there.
-/

namespace ZendRawTx

set_option autoImplicit false

open HasInputs

structure ScriptError where
  code : Nat
  deriving DecidableEq, Repr

/-- Modelled from the spec: the sighash types of `script/interpreter.h`. -/
def SIGHASH_ALL : BitVec 32 := 1

def SIGHASH_NONE : BitVec 32 := 2

def SIGHASH_SINGLE : BitVec 32 := 3

def SIGHASH_ANYONECANPAY : BitVec 32 := 0x80

/-- The script machinery the loops call: `SignSignature`, `CombineSignatures`, `VerifyScript`. -/
structure ScriptOps (σ : Type) where
  signSignature : CBasicKeyStore → CScript → σ → Nat → BitVec 32 → CScript
  combineSignatures : CScript → σ → Nat → CScript → CScript → CScript
  verifyScript : CScript → CScript → σ → Nat → Except ScriptError Unit
  scriptErrorString : ScriptError → String

/-- The object `TxInErrorToJSON` builds for an input. -/
def txInErrorEntry (txin : CTxIn) (strMessage : String) : UniValue :=
  .obj [("txid", .str (getHex txin.prevout.hash)), ("vout", .num (toString txin.prevout.n)),
    ("scriptSig", .str (hexStr txin.scriptSig)), ("sequence", .num (toString txin.nSequence)),
    ("error", .str strMessage)]

def txInErrorToJSON (txin : CTxIn) (vErrorsRet : List UniValue) (strMessage : String) :
    List UniValue :=
  vErrorsRet ++ [txInErrorEntry txin strMessage]

/-- The loop's variables: the entity being merged and the script verification errors. -/
structure SignState (σ : Type) where
  merged : σ
  vErrors : List UniValue

def SignState.fComplete {σ : Type} (st : SignState σ) : Bool := st.vErrors.isEmpty

section Verify

variable {σ : Type} [HasInputs σ]

/-- The end of a pass: `VerifyScript` on input `i` in the entity as it now stands. -/
def verifyInput (ops : ScriptOps σ) (e : σ) (i : Nat) (prevPubKey : CScript)
    (vErrors : List UniValue) : List UniValue :=
  match ops.verifyScript (vinAt e i).scriptSig prevPubKey e i with
  | .ok _ => vErrors
  | .error serror => txInErrorToJSON (vinAt e i) vErrors (ops.scriptErrorString serror)

end Verify

/-- One pass of the loop of `signrawcertificate`: clear, sign with `SIGHASH_ALL`, verify. -/
def signCertificateInput (ops : ScriptOps CMutableScCertificate) (view : CCoinsViewCache)
    (keystore : CBasicKeyStore) (st : SignState CMutableScCertificate) (i : Nat) :
    SignState CMutableScCertificate :=
  match prevPubKeyOf view (vinAt st.merged i).prevout with
  | none => ⟨st.merged, txInErrorToJSON (vinAt st.merged i) st.vErrors
      "Input not found or already spent"⟩
  | some prevPubKey =>
    let cleared := setScriptSig st.merged i []
    let signed := setScriptSig cleared i
      (ops.signSignature keystore prevPubKey cleared i SIGHASH_ALL)
    ⟨signed, verifyInput ops signed i prevPubKey st.vErrors⟩

def signCertificateInputs (ops : ScriptOps CMutableScCertificate) (view : CCoinsViewCache)
    (keystore : CBasicKeyStore) (mergedCert : CMutableScCertificate) :
    SignState CMutableScCertificate :=
  (List.range (vin mergedCert).length).foldl (signCertificateInput ops view keystore)
    ⟨mergedCert, []⟩

def fHashSingle (nHashType : BitVec 32) : Bool :=
  (nHashType &&& ~~~SIGHASH_ANYONECANPAY) == SIGHASH_SINGLE

/-- `CombineSignatures` with input `i` of `txv`; `none` when `txv` has no input `i`. -/
def combineVariant (ops : ScriptOps CMutableTransaction) (prevPubKey : CScript) (i : Nat)
    (mergedTx txv : CMutableTransaction) : Option CMutableTransaction :=
  txv.vin[i]?.map fun txvin => setScriptSig mergedTx i
    (ops.combineSignatures prevPubKey mergedTx i (vinAt mergedTx i).scriptSig txvin.scriptSig)

/-- One pass of `signrawtransaction`'s loop: clear, sign, fold in every variant, verify. -/
def signTransactionInput (ops : ScriptOps CMutableTransaction) (view : CCoinsViewCache)
    (keystore : CBasicKeyStore) (nHashType : BitVec 32) (txVariants : List CMutableTransaction)
    (st : SignState CMutableTransaction) (i : Nat) : Option (SignState CMutableTransaction) :=
  match prevPubKeyOf view (vinAt st.merged i).prevout with
  | none => some ⟨st.merged, txInErrorToJSON (vinAt st.merged i) st.vErrors
      "Input not found or already spent"⟩
  | some prevPubKey =>
    let cleared := setScriptSig st.merged i []
    let signed := if !fHashSingle nHashType || decide (i < cleared.vout.length) then
        setScriptSig cleared i (ops.signSignature keystore prevPubKey cleared i nHashType)
      else cleared
    (txVariants.foldlM (combineVariant ops prevPubKey i) signed).map fun merged =>
      ⟨merged, verifyInput ops merged i prevPubKey st.vErrors⟩

def signTransactionInputs (ops : ScriptOps CMutableTransaction) (view : CCoinsViewCache)
    (keystore : CBasicKeyStore) (nHashType : BitVec 32) (txVariants : List CMutableTransaction)
    (mergedTx : CMutableTransaction) : Option (SignState CMutableTransaction) :=
  (List.range (vin mergedTx).length).foldlM
    (signTransactionInput ops view keystore nHashType txVariants) ⟨mergedTx, []⟩

section Step

variable {σ : Type} [HasInputs σ]

/-- One pass over input `i`, as both loops make it: only input `i`'s scriptSig changes. -/
def SignStep (ops : ScriptOps σ) (view : CCoinsViewCache) (st : SignState σ) (i : Nat)
    (st' : SignState σ) : Prop :=
  (prevPubKeyOf view (vinAt st.merged i).prevout = none ∧
    st' = ⟨st.merged, txInErrorToJSON (vinAt st.merged i) st.vErrors
      "Input not found or already spent"⟩) ∨
  ∃ prevPubKey s, prevPubKeyOf view (vinAt st.merged i).prevout = some prevPubKey ∧
    st'.merged = setScriptSig st.merged i s ∧
    st'.vErrors = verifyInput ops st'.merged i prevPubKey st.vErrors

end Step

theorem signCertificateInput_step (ops : ScriptOps CMutableScCertificate)
    (view : CCoinsViewCache) (keystore : CBasicKeyStore) (st : SignState CMutableScCertificate)
    (i : Nat) : SignStep ops view st i (signCertificateInput ops view keystore st i) := by
  unfold signCertificateInput
  split
  · exact .inl ⟨‹_›, rfl⟩
  · exact .inr ⟨_, _, ‹_›, setScriptSig_setScriptSig _ _ _ _, rfl⟩

theorem combineVariants_eq (ops : ScriptOps CMutableTransaction) (prevPubKey : CScript)
    (i : Nat) (txVariants : List CMutableTransaction) (e : CMutableTransaction) (s : CScript)
    {e' : CMutableTransaction}
    (h : txVariants.foldlM (combineVariant ops prevPubKey i) (setScriptSig e i s) = some e') :
    ∃ s', e' = setScriptSig e i s' := by
  induction txVariants generalizing s with
  | nil => exact ⟨s, (Option.some.inj h).symm⟩
  | cons txv rest ih =>
    simp only [List.foldlM_cons, combineVariant, Option.bind_eq_bind] at h
    cases hv : txv.vin[i]? with
    | none => simp [hv] at h
    | some txvin =>
      simp only [hv, Option.map_some', Option.some_bind, setScriptSig_setScriptSig] at h
      exact ih _ h

theorem combineVariants_isSome (ops : ScriptOps CMutableTransaction) (prevPubKey : CScript)
    (i : Nat) (txVariants : List CMutableTransaction) (e : CMutableTransaction) :
    (txVariants.foldlM (combineVariant ops prevPubKey i) e).isSome ↔
      ∀ txv ∈ txVariants, i < txv.vin.length := by
  induction txVariants generalizing e with
  | nil => simp
  | cons txv rest ih =>
    simp only [List.foldlM_cons, combineVariant, Option.bind_eq_bind, List.mem_cons,
      forall_eq_or_imp]
    cases hv : txv.vin[i]? with
    | none => simp_all [List.getElem?_eq_none_iff]
    | some txvin =>
      have hi : i < txv.vin.length := (List.getElem?_eq_some_iff.mp hv).1
      simp [hi, ih]

theorem signTransactionInput_step (ops : ScriptOps CMutableTransaction)
    (view : CCoinsViewCache) (keystore : CBasicKeyStore) (nHashType : BitVec 32)
    (txVariants : List CMutableTransaction) (st st' : SignState CMutableTransaction) (i : Nat)
    (h : signTransactionInput ops view keystore nHashType txVariants st i = some st') :
    SignStep ops view st i st' := by
  unfold signTransactionInput at h
  split at h
  · exact .inl ⟨‹_›, (Option.some.inj h).symm⟩
  · rename_i prevPubKey hprev
    obtain ⟨merged, hfold, rfl⟩ := Option.map_eq_some'.mp h
    have hsigned : ∃ s, (if !fHashSingle nHashType || decide (i < (setScriptSig st.merged i []).vout.length) then
        setScriptSig (setScriptSig st.merged i []) i
          (ops.signSignature keystore prevPubKey (setScriptSig st.merged i []) i nHashType)
      else setScriptSig st.merged i []) = setScriptSig st.merged i s := by
      split
      · exact ⟨_, setScriptSig_setScriptSig _ _ _ _⟩
      · exact ⟨[], rfl⟩
    obtain ⟨s, hs⟩ := hsigned
    rw [hs] at hfold
    obtain ⟨s', rfl⟩ := combineVariants_eq ops prevPubKey i txVariants st.merged s hfold
    exact .inr ⟨prevPubKey, s', hprev, rfl, rfl⟩

theorem signTransactionInput_eq_none (ops : ScriptOps CMutableTransaction)
    (view : CCoinsViewCache) (keystore : CBasicKeyStore) (nHashType : BitVec 32)
    (txVariants : List CMutableTransaction) (st : SignState CMutableTransaction) (i : Nat) :
    signTransactionInput ops view keystore nHashType txVariants st i = none ↔
      (prevPubKeyOf view (vinAt st.merged i).prevout).isSome ∧
        ∃ txv ∈ txVariants, txv.vin.length ≤ i := by
  unfold signTransactionInput
  split
  · simp_all
  · rename_i prevPubKey hprev
    rw [Option.map_eq_none', ← Option.not_isSome_iff_eq_none, combineVariants_isSome]
    simp [hprev]

theorem signTransactionInputs_isSome_of_variants (ops : ScriptOps CMutableTransaction)
    (view : CCoinsViewCache) (keystore : CBasicKeyStore) (nHashType : BitVec 32)
    (txVariants : List CMutableTransaction) (base : CMutableTransaction)
    (h : ∀ txv ∈ txVariants, (vin base).length ≤ txv.vin.length) :
    (signTransactionInputs ops view keystore nHashType txVariants base).isSome := by
  unfold signTransactionInputs
  suffices ∀ (l : List Nat) (st : SignState CMutableTransaction),
      (∀ i ∈ l, i < (vin base).length) →
      (l.foldlM (signTransactionInput ops view keystore nHashType txVariants) st).isSome from
    this _ _ fun i hi => List.mem_range.mp hi
  intro l
  induction l with
  | nil => intro _ _; rfl
  | cons i l ih =>
    intro st hl
    rw [List.foldlM_cons]
    cases hs : signTransactionInput ops view keystore nHashType txVariants st i with
    | none =>
      obtain ⟨-, txv, htxv, hlen⟩ := (signTransactionInput_eq_none ops view keystore nHashType
        txVariants st i).mp hs
      have := h txv htxv
      have := hl i (List.mem_cons_self _ _)
      omega
    | some st' => exact ih st' fun j hj => hl j (List.mem_cons_of_mem _ hj)

end ZendRawTx
