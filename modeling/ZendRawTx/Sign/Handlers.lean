import ZendRawTx.Sign.Merge
import ZendRawTx.Sign.PrevTxs
import ZendRawTx.Hex

/-!
# `signrawtransaction` and `signrawcertificate`

The handlers around the loops: reading entities (`EntityReader`, outside the sources), the
view, the keys, the `prevtxs` overlay, the sighash type and the result. The build without a
wallet is modelled.
-/

namespace ZendRawTx

set_option autoImplicit false

open HasInputs

/-- `ssData >> entity`: the entity and the bytes left, or `none`; a read consumes bytes. -/
structure EntityReader (α : Type) where
  read : List UInt8 → Option (α × List UInt8)
  read_shortens : ∀ bs a rest, read bs = some (a, rest) → rest.length < bs.length

/-- The loop `while (!ssData.empty()) { ssData >> tx; txVariants.push_back(tx); }`. -/
def readTxVariants {α : Type} (reader : EntityReader α) (bs : List UInt8) :
    Except RPCError (List α) :=
  if bs = [] then .ok []
  else match _hread : reader.read bs with
    | none => .error (.jsonRPCError .rpcDeserializationError "TX decode failed")
    | some (tx, rest) => (tx :: ·) <$> readTxVariants reader rest
termination_by bs.length
decreasing_by exact reader.read_shortens _ _ _ _hread

theorem readTxVariants_nil {α : Type} (reader : EntityReader α) :
    readTxVariants reader [] = .ok [] := by
  rw [readTxVariants, if_pos rfl]

theorem readTxVariants_cons {α : Type} (reader : EntityReader α) {bs : List UInt8}
    (hbs : bs ≠ []) {a : α} {rest : List UInt8} (h : reader.read bs = some (a, rest)) :
    readTxVariants reader bs = (a :: ·) <$> readTxVariants reader rest := by
  rw [readTxVariants, if_neg hbs]
  split
  · rename_i heq; rw [h] at heq; cases heq
  · rename_i heq; rw [h] at heq; cases heq; rfl

theorem readTxVariants_flatMap {α : Type} (reader : EntityReader α) (serialize : α → List UInt8) :
    ∀ txs : List α, (∀ tx ∈ txs, ∀ rest, reader.read (serialize tx ++ rest) = some (tx, rest)) →
      readTxVariants reader (txs.flatMap serialize) = .ok txs := by
  intro txs
  induction txs with
  | nil => intro _; rw [List.flatMap_nil, readTxVariants_nil]
  | cons tx txs ih =>
    intro h
    have hread := h tx (List.mem_cons_self _ _) (txs.flatMap serialize)
    have hne : serialize tx ++ txs.flatMap serialize ≠ [] :=
      List.ne_nil_of_length_pos (Nat.zero_lt_of_lt (reader.read_shortens _ _ _ hread))
    rw [List.flatMap_cons, readTxVariants_cons reader hne hread,
      ih fun t ht => h t (List.mem_cons_of_mem _ ht)]
    rfl

/-- A reader of entities of one byte each, `decode` giving the entity a byte stands for. -/
def byteReader {α : Type} (decode : UInt8 → α) : EntityReader α where
  read
    | [] => none
    | b :: rest => some (decode b, rest)
  read_shortens := by
    intro bs a rest h
    cases bs <;> cases h
    exact Nat.lt_succ_self _

theorem readTxVariants_of_versionBytes :
    readTxVariants (byteReader fun b => { (default : CMutableTransaction) with nVersion := b.toNat })
      [1, 2] = .ok [{ (default : CMutableTransaction) with nVersion := 1 },
        { (default : CMutableTransaction) with nVersion := 2 }] :=
  readTxVariants_flatMap
    (byteReader fun b => { (default : CMutableTransaction) with nVersion := b.toNat })
    (fun tx => [UInt8.ofNat tx.nVersion.toNat])
    [{ (default : CMutableTransaction) with nVersion := 1 },
      { (default : CMutableTransaction) with nVersion := 2 }]
    fun tx htx _ => by rcases List.mem_pair.mp htx with rfl | rfl <;> rfl

theorem readTxVariants_ne_nil {α : Type} (reader : EntityReader α) {bs : List UInt8}
    (hbs : bs ≠ []) {txs : List α} (h : readTxVariants reader bs = .ok txs) : txs ≠ [] := by
  rw [readTxVariants, if_neg hbs] at h
  split at h
  · cases h
  · obtain ⟨l, -, rfl⟩ := map_eq_ok.mp h
    exact List.cons_ne_nil _ _

/-- The certificate `signrawcertificate` reads: one, with no byte left after it. -/
def readCertificate (reader : EntityReader CMutableScCertificate) (certData : List UInt8) :
    Except RPCError CMutableScCertificate :=
  if certData = [] then .error (.jsonRPCError .rpcDeserializationError "Missing input certificate")
  else match reader.read certData with
    | none => .error (.jsonRPCError .rpcDeserializationError "Cert decode failed")
    | some (cert, []) => .ok cert
    | some (_, rest) => .error (.jsonRPCError .rpcDeserializationError
        ("Found " ++ toString rest.length ++ " extra byte" ++
          (if rest.length > 1 then "s " else " ") ++ "after certificate"))

/-- The view both handlers fill before signing: the node's coins of the inputs' txids only. -/
def populateView (backend : CCoinsViewCache) (vin : List CTxIn) : CCoinsViewCache :=
  fun h => if h ∈ vin.map (·.prevout.hash) then backend h else none

theorem prevPubKeyOf_populateView_of_mem {backend : CCoinsViewCache} {vin : List CTxIn}
    {o : COutPoint} (h : o.hash ∈ vin.map (·.prevout.hash)) :
    prevPubKeyOf (populateView backend vin) o = prevPubKeyOf backend o := by
  simp only [prevPubKeyOf, populateView, if_pos h]

theorem allInputsVerify_populateView_iff {σ : Type} [HasInputs σ] {ops : ScriptOps σ}
    {backend : CCoinsViewCache} {base e : σ} (h : stripScriptSigs e = stripScriptSigs base) :
    AllInputsVerify ops (populateView backend (vin base)) e ↔ AllInputsVerify ops backend e := by
  have hlen := length_vin_eq_of_strip h
  refine forall₂_congr fun i hi => ?_
  rw [prevPubKeyOf_populateView_of_mem]
  rw [prevout_vinAt_of_strip h, vinAt_eq_getElem _ (by omega)]
  exact List.mem_map_of_mem _ (List.getElem_mem _)

/-- One entry of the keys argument: a string `CBitcoinSecret` decodes to a valid key. -/
def addKey (decodeSecret : String → Option CKey) (isValidKey : CKey → Bool)
    (keystore : CBasicKeyStore) (k : UniValue) : Except RPCError CBasicKeyStore := do
  let s ← k.getStr
  match decodeSecret s with
  | none => .error (.jsonRPCError .rpcInvalidAddressOrKey "Invalid private key")
  | some key =>
    if !isValidKey key then
      .error (.jsonRPCError .rpcInvalidAddressOrKey "Private key outside allowed range")
    else pure { keystore with keys := keystore.keys ++ [key] }

/-- The keys argument `params[k]`: `fGivenKeys` and their key store, or an empty one. -/
def readKeys (decodeSecret : String → Option CKey) (isValidKey : CKey → Bool)
    (params : List UniValue) (k : Nat) : Except RPCError (Bool × CBasicKeyStore) :=
  if k < params.length ∧ !(params.getD k .null).isNull then do
    let keys ← (params.getD k .null).getArray
    let keystore ← keys.foldlM (addKey decodeSecret isValidKey) ⟨[], []⟩
    pure (true, keystore)
  else pure (false, ⟨[], []⟩)

def prevTxsOf (ops : PrevTxsOps) (params : List UniValue) (fGivenKeys : Bool)
    (st : PrevTxsState) : Except RPCError PrevTxsState :=
  if 1 < params.length ∧ !(params.getD 1 .null).isNull then do
    let prevTxs ← (params.getD 1 .null).getArray
    addPrevTxs ops fGivenKeys st prevTxs
  else pure st

def mapSigHashValues : List (String × BitVec 32) :=
  [("ALL", SIGHASH_ALL), ("ALL|ANYONECANPAY", SIGHASH_ALL ||| SIGHASH_ANYONECANPAY),
    ("NONE", SIGHASH_NONE), ("NONE|ANYONECANPAY", SIGHASH_NONE ||| SIGHASH_ANYONECANPAY),
    ("SINGLE", SIGHASH_SINGLE), ("SINGLE|ANYONECANPAY", SIGHASH_SINGLE ||| SIGHASH_ANYONECANPAY)]

/-- The sighash argument `params[3]`: `SIGHASH_ALL` unless given and not null. -/
def sigHashTypeOf (params : List UniValue) : Except RPCError (BitVec 32) :=
  if 3 < params.length ∧ !(params.getD 3 .null).isNull then do
    let strHashType ← (params.getD 3 .null).getStr
    match mapSigHashValues.lookup strHashType with
    | some nHashType => pure nHashType
    | none => .error (.jsonRPCError .rpcInvalidParameter "Invalid sighash param")
  else pure SIGHASH_ALL

/-- The result object of both handlers: the hex, `complete`, and the errors if any. -/
def signResult (hex : String) (vErrors : List UniValue) : UniValue :=
  .obj ([("hex", .str hex), ("complete", .bool vErrors.isEmpty)] ++
    if vErrors.isEmpty then [] else [("errors", .arr vErrors)])

/-- What the signing handlers call beyond the script machinery. -/
structure SignOps (σ : Type) where
  script : ScriptOps σ
  reader : EntityReader σ
  decodeSecret : String → Option CKey
  isValidKey : CKey → Bool
  encodeHex : σ → String

/-- `signrawtransaction`, `backend` being the node's view of chain and mempool. -/
def signrawtransaction (ops : SignOps CMutableTransaction) (prevTxsOps : PrevTxsOps)
    (backend : CCoinsViewCache) (params : List UniValue) : Except RPCError UniValue := do
  rpcTypeCheckAllowNull params [.VSTR, .VARR, .VARR, .VSTR]
  let txData ← parseHexV (params.getD 0 .null) "argument 1"
  let txVariants ← readTxVariants ops.reader txData
  match txVariants with
  | [] => .error (.jsonRPCError .rpcDeserializationError "Missing transaction")
  | mergedTx :: _ =>
    let keys ← readKeys ops.decodeSecret ops.isValidKey params 2
    let st ← prevTxsOf prevTxsOps params keys.1 ⟨populateView backend mergedTx.vin, keys.2⟩
    let nHashType ← sigHashTypeOf params
    match signTransactionInputs ops.script st.view st.keystore nHashType txVariants mergedTx with
    | none => .error (.undefinedBehaviour "txVariants[j].vin[i] read past the end of a variant")
    | some r => pure (signResult (ops.encodeHex r.merged) r.vErrors)

def signrawcertificate (ops : SignOps CMutableScCertificate) (backend : CCoinsViewCache)
    (params : List UniValue) : Except RPCError UniValue := do
  rpcTypeCheckAllowNull params [.VSTR, .VARR]
  let certData ← parseHexV (params.getD 0 .null) "argument 1"
  let mergedCert ← readCertificate ops.reader certData
  let keys ← readKeys ops.decodeSecret ops.isValidKey params 1
  let r := signCertificateInputs ops.script (populateView backend mergedCert.vin) keys.2 mergedCert
  pure (signResult (ops.encodeHex r.merged) r.vErrors)

theorem findValue_signResult_hex (hex : String) (vErrors : List UniValue) :
    (signResult hex vErrors).findValue "hex" = .str hex := rfl

theorem findValue_signResult_complete (hex : String) (vErrors : List UniValue) :
    (signResult hex vErrors).findValue "complete" = .bool vErrors.isEmpty := rfl

theorem signrawcertificate_eq_ok {ops : SignOps CMutableScCertificate}
    {backend : CCoinsViewCache} {params : List UniValue} {result : UniValue}
    (h : signrawcertificate ops backend params = .ok result) :
    ∃ certData cert keys, parseHexV (params.getD 0 .null) "argument 1" = .ok certData ∧
      readCertificate ops.reader certData = .ok cert ∧
      readKeys ops.decodeSecret ops.isValidKey params 1 = .ok keys ∧
      result = signResult
        (ops.encodeHex (signCertificateInputs ops.script (populateView backend cert.vin) keys.2
          cert).merged)
        (signCertificateInputs ops.script (populateView backend cert.vin) keys.2 cert).vErrors := by
  unfold signrawcertificate at h
  obtain ⟨_, -, h⟩ := bind_eq_ok.mp h
  obtain ⟨certData, hdata, h⟩ := bind_eq_ok.mp h
  obtain ⟨cert, hcert, h⟩ := bind_eq_ok.mp h
  obtain ⟨keys, hkeys, h⟩ := bind_eq_ok.mp h
  cases h
  exact ⟨certData, cert, keys, hdata, hcert, hkeys, rfl⟩

theorem signTransactionInputs_complete_iff_all_inputs_verify (ops : ScriptOps CMutableTransaction)
    (view : CCoinsViewCache) (keystore : CBasicKeyStore) (nHashType : BitVec 32)
    (txVariants : List CMutableTransaction) (base : CMutableTransaction)
    (r : SignState CMutableTransaction) (hdigest : DigestIgnoresOtherScriptSigs ops)
    (h : signTransactionInputs ops view keystore nHashType txVariants base = some r) :
    r.fComplete = true ↔ AllInputsVerify ops view r.merged :=
  (signTransactionInputs_inv ops view keystore nHashType txVariants base h).complete_iff hdigest

theorem signTransactionInputs_complete_iff_all_inputs_verify_of_fixture :
    signTransactionInputs (exactMatchOps _) fixtureView ⟨[[0x51]], []⟩ SIGHASH_ALL
        [fixtureTx [fixtureTxIn []]] (fixtureTx [fixtureTxIn []]) =
      some ⟨fixtureTx [fixtureTxIn [0x51]], []⟩ ∧
    ((⟨fixtureTx [fixtureTxIn [0x51]], []⟩ : SignState CMutableTransaction).fComplete = true ↔
      AllInputsVerify (exactMatchOps _) fixtureView (fixtureTx [fixtureTxIn [0x51]])) :=
  ⟨rfl, signTransactionInputs_complete_iff_all_inputs_verify _ _ ⟨[[0x51]], []⟩ SIGHASH_ALL
    [fixtureTx [fixtureTxIn []]] (fixtureTx [fixtureTxIn []]) _ (fun _ _ _ _ _ _ _ => rfl) rfl⟩

theorem resigning_keeps_a_complete_transaction_complete (ops : ScriptOps CMutableTransaction)
    (hc : CombinerKeepsValid ops) (hdigest : DigestIgnoresOtherScriptSigs ops)
    (view : CCoinsViewCache) (keystore keystore' : CBasicKeyStore) (nHashType nHashType' : BitVec 32)
    (txVariants : List CMutableTransaction) (base : CMutableTransaction)
    (r : SignState CMutableTransaction)
    (h : signTransactionInputs ops view keystore nHashType txVariants base = some r)
    (hcomplete : r.fComplete = true) :
    ∃ r', signTransactionInputs ops view keystore' nHashType' [r.merged] r.merged = some r' ∧
      r'.fComplete = true ∧ stripScriptSigs r'.merged = stripScriptSigs base := by
  have hinv := signTransactionInputs_inv ops view keystore nHashType txVariants base h
  have hall := (hinv.complete_iff hdigest).mp hcomplete
  obtain ⟨r', hr'⟩ := Option.isSome_iff_exists.mp
    (signTransactionInputs_isSome_of_variants ops view keystore' nHashType' [r.merged] r.merged
      fun _ htxv => List.mem_singleton.mp htxv ▸ Nat.le_refl _)
  have hv := signTransactionInputs_visited ops view keystore' nHashType' [r.merged] r.merged
    (fun k ctx txin => ∀ prevPubKey, prevPubKeyOf view (vinAt r.merged k).prevout = some prevPubKey →
      SomeCandidatePasses ops keystore' nHashType' [r.merged] prevPubKey ctx k →
      Passes ops prevPubKey ctx k txin.scriptSig)
    (fun _ _ _ hk hinv hpass => signTransactionInput_keeps_candidate ops hc view keystore'
      nHashType' [r.merged] r.merged hk hinv hpass) (Nat.le_refl _) hr'
  refine ⟨r', hr', ?_, hv.1.strip.trans hinv.strip⟩
  simp only [SignState.fComplete, List.isEmpty_iff, hv.1.errors, List.filterMap_eq_nil_iff,
    List.mem_range]
  intro i hi
  obtain ⟨prevPubKey, hprev, hok⟩ := hall i hi
  have hmid := stripScriptSigs_midLoopContext hv.1.strip i
  have hlen : i < (vin (midLoopContext r.merged r'.merged i)).length := by
    rw [length_vin_eq_of_strip (hmid.trans hv.1.strip)]
    exact hi
  -- the variant's own input `i` is the candidate that passes
  have hpass : Passes ops prevPubKey (midLoopContext r.merged r'.merged i) i
      (vinAt r.merged i).scriptSig :=
    (hdigest _ _ _ r.merged i (by rw [stripScriptSigs_setScriptSig, hmid, hv.1.strip])
      (by rw [vinAt_setScriptSig_self _ _ hlen])).trans hok
  exact inputError_eq_none_of_passes (by rwa [length_vin_eq_of_strip hv.1.strip]) hprev
    (hv.2 i hi prevPubKey hprev (.inr ⟨r.merged, List.mem_singleton_self _, vinAt r.merged i,
      by rw [vinAt_eq_getElem _ hi]; exact List.getElem?_eq_getElem hi, hpass⟩))

theorem resigning_keeps_a_complete_transaction_complete_of_fixture :
    signTransactionInputs (exactMatchOps _) fixtureView ⟨[[0x51]], []⟩ SIGHASH_ALL
        [fixtureTx [fixtureTxIn []]] (fixtureTx [fixtureTxIn []]) =
      some ⟨fixtureTx [fixtureTxIn [0x51]], []⟩ ∧
    ∃ r', signTransactionInputs (exactMatchOps _) fixtureView ⟨[], []⟩ SIGHASH_NONE
        [fixtureTx [fixtureTxIn [0x51]]] (fixtureTx [fixtureTxIn [0x51]]) = some r' ∧
      r'.fComplete = true ∧
      stripScriptSigs r'.merged = stripScriptSigs (fixtureTx [fixtureTxIn []]) :=
  ⟨rfl, resigning_keeps_a_complete_transaction_complete _ (exactMatchOps_combinerKeepsValid _)
    (fun _ _ _ _ _ _ _ => rfl) fixtureView ⟨[[0x51]], []⟩ ⟨[], []⟩ SIGHASH_ALL SIGHASH_NONE
    [fixtureTx [fixtureTxIn []]] (fixtureTx [fixtureTxIn []]) ⟨fixtureTx [fixtureTxIn [0x51]], []⟩
    rfl rfl⟩

theorem signrawcertificate_complete_iff_verified_against_the_node
    (ops : SignOps CMutableScCertificate) (backend : CCoinsViewCache) (params : List UniValue)
    (result : UniValue) (hdigest : DigestIgnoresOtherScriptSigs ops.script)
    (h : signrawcertificate ops backend params = .ok result) :
    ∃ certData cert merged, parseHexV (params.getD 0 .null) "argument 1" = .ok certData ∧
      readCertificate ops.reader certData = .ok cert ∧
      stripScriptSigs merged = stripScriptSigs cert ∧
      result.findValue "hex" = .str (ops.encodeHex merged) ∧
      (result.findValue "complete" = .bool true ↔ AllInputsVerify ops.script backend merged) := by
  obtain ⟨certData, cert, keys, hdata, hcert, -, rfl⟩ := signrawcertificate_eq_ok h
  have hinv := signCertificateInputs_inv ops.script (populateView backend cert.vin) keys.2 cert
  refine ⟨certData, cert, _, hdata, hcert, hinv.strip, findValue_signResult_hex _ _, ?_⟩
  rw [findValue_signResult_complete, UniValue.bool.injEq,
    ← allInputsVerify_populateView_iff hinv.strip]
  exact hinv.complete_iff hdigest

/-- Collaborators of a sample call: one-byte certificates and the one key `0x51`. -/
def sampleCertSignOps : SignOps CMutableScCertificate where
  script := exactMatchOps _
  reader := byteReader fun _ => { (default : CMutableScCertificate) with vin := [fixtureTxIn []] }
  decodeSecret := fun _ => some [0x51]
  isValidKey := fun _ => true
  encodeHex := fun _ => ""

def sampleSignParams : List UniValue := [.str (hexStr [0]), .arr [.str "k"]]

theorem signrawcertificate_complete_iff_verified_against_the_node_of_fixture :
    signrawcertificate sampleCertSignOps fixtureView sampleSignParams = .ok (signResult "" []) ∧
    ∃ certData cert merged,
      parseHexV (sampleSignParams.getD 0 .null) "argument 1" = .ok certData ∧
      readCertificate sampleCertSignOps.reader certData = .ok cert ∧
      stripScriptSigs merged = stripScriptSigs cert ∧
      (signResult "" []).findValue "hex" = .str (sampleCertSignOps.encodeHex merged) ∧
      ((signResult "" []).findValue "complete" = .bool true ↔
        AllInputsVerify sampleCertSignOps.script fixtureView merged) :=
  ⟨rfl, signrawcertificate_complete_iff_verified_against_the_node _ _ _ _
    (fun _ _ _ _ _ _ _ => rfl) rfl⟩

theorem signrawtransaction_eq_ok {ops : SignOps CMutableTransaction} {prevTxsOps : PrevTxsOps}
    {backend : CCoinsViewCache} {params : List UniValue} {result : UniValue}
    (h : signrawtransaction ops prevTxsOps backend params = .ok result) :
    ∃ txData mergedTx rest keys st nHashType r,
      parseHexV (params.getD 0 .null) "argument 1" = .ok txData ∧
      readTxVariants ops.reader txData = .ok (mergedTx :: rest) ∧
      readKeys ops.decodeSecret ops.isValidKey params 2 = .ok keys ∧
      prevTxsOf prevTxsOps params keys.1 ⟨populateView backend mergedTx.vin, keys.2⟩ = .ok st ∧
      sigHashTypeOf params = .ok nHashType ∧
      signTransactionInputs ops.script st.view st.keystore nHashType (mergedTx :: rest) mergedTx =
        some r ∧
      result = signResult (ops.encodeHex r.merged) r.vErrors := by
  unfold signrawtransaction at h
  obtain ⟨_, -, h⟩ := bind_eq_ok.mp h
  obtain ⟨txData, hdata, h⟩ := bind_eq_ok.mp h
  obtain ⟨txVariants, hread, h⟩ := bind_eq_ok.mp h
  cases txVariants with
  | nil => cases h
  | cons mergedTx rest =>
    obtain ⟨keys, hkeys, h⟩ := bind_eq_ok.mp h
    obtain ⟨st, hst, h⟩ := bind_eq_ok.mp h
    obtain ⟨nHashType, hsig, h⟩ := bind_eq_ok.mp h
    split at h
    · cases h
    · rename_i r hr
      cases h
      exact ⟨txData, mergedTx, rest, keys, st, nHashType, r, hdata, hread, hkeys, hst, hsig, hr, rfl⟩

theorem signrawtransaction_complete_iff_verified (ops : SignOps CMutableTransaction)
    (prevTxsOps : PrevTxsOps) (backend : CCoinsViewCache) (params : List UniValue)
    (result : UniValue) (hdigest : DigestIgnoresOtherScriptSigs ops.script)
    (h : signrawtransaction ops prevTxsOps backend params = .ok result) :
    ∃ txData mergedTx rest, ∃ keys : Bool × CBasicKeyStore, ∃ st merged,
      parseHexV (params.getD 0 .null) "argument 1" = .ok txData ∧
      readTxVariants ops.reader txData = .ok (mergedTx :: rest) ∧
      prevTxsOf prevTxsOps params keys.1 ⟨populateView backend mergedTx.vin, keys.2⟩ = .ok st ∧
      stripScriptSigs merged = stripScriptSigs mergedTx ∧
      result.findValue "hex" = .str (ops.encodeHex merged) ∧
      (result.findValue "complete" = .bool true ↔ AllInputsVerify ops.script st.view merged) := by
  obtain ⟨txData, mergedTx, rest, keys, st, nHashType, r, hdata, hread, -, hst, -, hr, rfl⟩ :=
    signrawtransaction_eq_ok h
  have hinv := signTransactionInputs_inv ops.script st.view st.keystore nHashType _ mergedTx hr
  refine ⟨txData, mergedTx, rest, keys, st, r.merged, hdata, hread, hst, hinv.strip,
    findValue_signResult_hex _ _, ?_⟩
  rw [findValue_signResult_complete, UniValue.bool.injEq]
  exact hinv.complete_iff hdigest

/-- Collaborators of a sample call: one-byte transactions and the one key `0x51`. -/
def sampleTxSignOps : SignOps CMutableTransaction where
  script := exactMatchOps _
  reader := byteReader fun _ => fixtureTx [fixtureTxIn []]
  decodeSecret := fun _ => some [0x51]
  isValidKey := fun _ => true
  encodeHex := fun _ => ""

def sampleTxSignParams : List UniValue := [.str (hexStr [0]), .null, .arr [.str "k"]]

theorem signrawtransaction_complete_iff_verified_of_fixture :
    signrawtransaction sampleTxSignOps ⟨fun _ => false, fun _ => ""⟩ fixtureView
        sampleTxSignParams = .ok (signResult "" []) ∧
    ∃ txData mergedTx rest, ∃ keys : Bool × CBasicKeyStore, ∃ st merged,
      parseHexV (sampleTxSignParams.getD 0 .null) "argument 1" = .ok txData ∧
      readTxVariants sampleTxSignOps.reader txData = .ok (mergedTx :: rest) ∧
      prevTxsOf ⟨fun _ => false, fun _ => ""⟩ sampleTxSignParams keys.1
        ⟨populateView fixtureView mergedTx.vin, keys.2⟩ = .ok st ∧
      stripScriptSigs merged = stripScriptSigs mergedTx ∧
      (signResult "" []).findValue "hex" = .str (sampleTxSignOps.encodeHex merged) ∧
      ((signResult "" []).findValue "complete" = .bool true ↔
        AllInputsVerify sampleTxSignOps.script st.view merged) :=
  have hread : readTxVariants sampleTxSignOps.reader [0] = .ok [fixtureTx [fixtureTxIn []]] := by
    rw [readTxVariants_cons _ (List.cons_ne_nil _ _) rfl, readTxVariants_nil]
    rfl
  have hrun : signrawtransaction sampleTxSignOps ⟨fun _ => false, fun _ => ""⟩ fixtureView
      sampleTxSignParams = .ok (signResult "" []) :=
    bind_eq_ok.mpr ⟨(), rfl, bind_eq_ok.mpr ⟨[0], parseHexV_hexStr (List.cons_ne_nil _ _) _,
      bind_eq_ok.mpr ⟨_, hread, rfl⟩⟩⟩
  ⟨hrun, signrawtransaction_complete_iff_verified _ _ _ _ _ (fun _ _ _ _ _ _ _ => rfl) hrun⟩

theorem signing_handlers_never_miss_their_entity (readerTx : EntityReader CMutableTransaction)
    (readerCert : EntityReader CMutableScCertificate) (v : UniValue) (bytes : List UInt8)
    (h : parseHexV v "argument 1" = .ok bytes) :
    (∀ txVariants, readTxVariants readerTx bytes = .ok txVariants → txVariants ≠ []) ∧
    readCertificate readerCert bytes ≠
      .error (.jsonRPCError .rpcDeserializationError "Missing input certificate") := by
  have hne := parseHexV_ne_nil h
  refine ⟨fun _ hv => readTxVariants_ne_nil readerTx hne hv, ?_⟩
  rw [readCertificate, if_neg hne]
  split
  · intro he
    exact absurd (RPCError.jsonRPCError.inj (Except.error.inj he)).2 (by decide)
  · nofun
  · intro he
    have := congrArg (fun e => match e with
      | .error (.jsonRPCError _ m) => m.data.head?
      | _ => none) he
    simp [String.data_append] at this

theorem signing_handlers_never_miss_their_entity_of_hexStr :
    (∀ txVariants, readTxVariants (byteReader fun _ => (default : CMutableTransaction)) [0] =
      .ok txVariants → txVariants ≠ []) ∧
    readCertificate (byteReader fun _ => (default : CMutableScCertificate)) [0] ≠
      .error (.jsonRPCError .rpcDeserializationError "Missing input certificate") :=
  signing_handlers_never_miss_their_entity _ _ (.str (hexStr [0])) [0]
    (parseHexV_hexStr (List.cons_ne_nil _ _) _)

end ZendRawTx
