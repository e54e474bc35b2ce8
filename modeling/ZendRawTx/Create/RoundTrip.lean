import ZendRawTx.Create.RawTransaction
import ZendRawTx.Create.Properties
import ZendRawTx.Decode.TxToJson

/-!
# Created entities decode to their arguments

Printed back by `TxToJSON` and `CertToJSON`, what `createrawtransaction` and
`createrawcertificate` build shows each input's txid and `vout` and each output's amount and
script.
-/

namespace ZendRawTx

set_option autoImplicit false

/-- The JSON of the input an entry of the inputs array yields. -/
def InputJSONFor (ops : CertJsonOps) (input entry : UniValue) : Prop :=
  ∃ txid nOutput, parseHashO input "txid" = .ok txid ∧
    (input.findValue "vout").getInt = .ok nOutput ∧ 0 ≤ nOutput ∧
    entry = .obj [("txid", .str (getHex txid)), ("vout", .ofInt nOutput),
      ("scriptSig", .obj [("asm", .str (ops.scriptToString [])), ("hex", .str "")]),
      ("sequence", .ofInt 4294967295)]

/-- The JSON of output `j`, made from key `name_` of a standard-outputs object. -/
def OutputJSONFor (ops : CertCreateOps) (jsonOps : CertJsonOps) (sendTo : UniValue) (j : Nat)
    (name_ : String) (entry : UniValue) : Prop :=
  ∃ nAmount, ops.amountFromValue (sendTo.findValue name_) = .ok nAmount ∧
    entry = .obj (txOutEntries jsonOps j ⟨nAmount, getScriptForDestination
      ops.checkBlockAtHeight ((ops.setString name_).get ops.base58Prefixes) true⟩)

theorem inputJSONFor_of_inputFor (ops : CertJsonOps) {input : UniValue} {txin : CTxIn}
    (h : InputFor input txin) : InputJSONFor ops input (txInToJSON ops txin) := by
  obtain ⟨txid, nOutput, htxid, hn, hpos, rfl⟩ := h
  refine ⟨txid, nOutput, htxid, hn, hpos, ?_⟩
  simp only [txInToJSON, Int.toNat_of_nonneg hpos]
  rfl

theorem outputJSONFor_of_outputFor {ops : CertCreateOps} (jsonOps : CertJsonOps)
    {sendTo : UniValue} {name_ : String} {out : CTxOut}
    (h : OutputFor ops ops.setString true sendTo name_ out) (j : Nat) :
    OutputJSONFor ops jsonOps sendTo j name_ (.obj (txOutEntries jsonOps j out)) := by
  obtain ⟨hamount, hscript⟩ := h
  exact ⟨out.nValue, hamount, by rw [← hscript]⟩

theorem isCoinBase_eq_false_of_inputFor {inputs : List UniValue} {tx : CMutableTransaction}
    (h : List.Forall₂ InputFor inputs tx.vin) : tx.isCoinBase = false := by
  unfold CMutableTransaction.isCoinBase
  split
  · rename_i txin hvin
    rw [hvin] at h
    cases h with
    | cons hin _ =>
      obtain ⟨txid, nOutput, -, hn, -, rfl⟩ := hin
      have hle := (UniValue.getInt_range hn).2
      simp only [COutPoint.isNull, Bool.and_eq_false_iff, beq_eq_false_iff_ne]
      right; omega
  · rfl

theorem createrawtransaction_decodes_to_its_arguments (ops : TxCreateOps) (jsonOps : TxJsonOps)
    (chain : ChainState) (params : List UniValue) (tx : CMutableTransaction)
    (h : createrawtransaction ops params = .ok tx) :
    ∃ inputs vinJson voutJson, params.getD 0 .null = .arr inputs ∧
      (UniValue.obj (txToJSON jsonOps chain tx 0)).findValue "vin" = .arr vinJson ∧
      List.Forall₂ (InputJSONFor jsonOps.toCertJsonOps) inputs vinJson ∧
      (UniValue.obj (txToJSON jsonOps chain tx 0)).findValue "vout" = .arr voutJson ∧
      voutJson.length = (params.getD 1 .null).getKeys.length ∧
      ∀ j < voutJson.length, OutputJSONFor ops.toCertCreateOps jsonOps.toCertJsonOps
        (params.getD 1 .null) j ((params.getD 1 .null).getKeys.getD j "")
        (voutJson.getD j .null) := by
  have hc := createrawtransaction_eq_ok h
  obtain ⟨inputs, hinputs, hall⟩ := hc.inputs
  have hvin : tx.vin.map (txVinToJSON jsonOps tx) = tx.vin.map (txInToJSON jsonOps.toCertJsonOps) :=
    List.map_congr_left fun _ _ => by simp [txVinToJSON, isCoinBase_eq_false_of_inputFor hall]
  have hlen := hc.outputs.length_eq
  refine ⟨inputs, _, _, hinputs, by rw [← hvin]; rfl,
    List.forall₂_map_right_iff.mpr (hall.imp fun _ _ => inputJSONFor_of_inputFor _), rfl,
    by rw [List.length_map, List.length_range, hlen], fun j hj => ?_⟩
  rw [List.length_map, List.length_range] at hj
  have hentry : ((List.range tx.vout.length).map fun i =>
      txOutToJSON jsonOps i (tx.vout.getD i default)).getD j .null =
      txOutToJSON jsonOps j (tx.vout.getD j default) := by
    simp [List.getD_eq_getElem?_getD, hj]
  rw [hentry]
  exact outputJSONFor_of_outputFor _ (forall₂_getD hc.outputs (by omega) "" default) j

def sampleTxJsonOps : TxJsonOps :=
  { sampleJsonOps with
    getTxHash := fun _ => 0
    addSidechainOutsToJSON := fun _ => []
    joinSplitToJSON := fun _ _ => .null }

theorem createrawtransaction_decodes_to_its_arguments_of_sample :
    createrawtransaction sampleTxCreateOps sampleTxParams = .ok sampleTransaction ∧
      ∃ inputs vinJson voutJson, sampleTxParams.getD 0 .null = .arr inputs ∧
        (UniValue.obj (txToJSON sampleTxJsonOps emptyChain sampleTransaction 0)).findValue "vin" =
          .arr vinJson ∧
        List.Forall₂ (InputJSONFor sampleTxJsonOps.toCertJsonOps) inputs vinJson ∧
        (UniValue.obj (txToJSON sampleTxJsonOps emptyChain sampleTransaction 0)).findValue "vout" =
          .arr voutJson ∧
        voutJson.length = (sampleTxParams.getD 1 .null).getKeys.length ∧
        ∀ j < voutJson.length, OutputJSONFor sampleTxCreateOps.toCertCreateOps
          sampleTxJsonOps.toCertJsonOps (sampleTxParams.getD 1 .null) j
          ((sampleTxParams.getD 1 .null).getKeys.getD j "") (voutJson.getD j .null) :=
  ⟨createrawtransaction_sample, createrawtransaction_decodes_to_its_arguments _ _ emptyChain _ _
    createrawtransaction_sample⟩

theorem mapM_range_getD {f : Nat → Option UniValue} {n : Nat} {values : List UniValue}
    (h : (List.range n).mapM f = some values) {i : Nat} (hi : i < n) :
    f i = some (values.getD i .null) := by
  have hall := (mapM_option_eq_some _ _ _).mp h
  have hr : (List.range n).getD i 0 = i := by
    rw [List.getD_eq_getElem?_getD, List.getElem?_range hi]; rfl
  have := forall₂_getD hall (by simpa using hi) 0 .null
  rwa [hr] at this

theorem certToJSON_vin {ops : CertJsonOps} {chain : ChainState} {cert : CMutableScCertificate}
    {hashBlock : Uint256} {entry : List (String × UniValue)}
    (h : certToJSON ops chain cert hashBlock = some entry) :
    (UniValue.obj entry).findValue "vin" = .arr (cert.vin.map (txInToJSON ops)) := by
  unfold certToJSON at h
  cases hm : (List.range cert.vout.length).mapM
      (fun i => certOutputToJSON ops cert i (cert.vout.getD i default)) with
  | none => rw [hm] at h; cases h
  | some vout => rw [hm] at h; cases h; rfl

theorem createrawcertificate_decodes_inputs_and_outputs (ops : CertCreateOps)
    (jsonOps : CertJsonOps) (chain : ChainState) (hashBlock : Uint256)
    (transactions voutAddresses backwardAddresses certificateParameters : UniValue)
    (cert : CMutableScCertificate)
    (h : createrawcertificate ops transactions voutAddresses backwardAddresses
      certificateParameters = .ok cert) :
    ∃ inputs entry vinJson vout, transactions = .arr inputs ∧
      certToJSON jsonOps chain cert hashBlock = some entry ∧
      (UniValue.obj entry).findValue "vin" = .arr vinJson ∧
      List.Forall₂ (InputJSONFor jsonOps) inputs vinJson ∧
      (UniValue.obj entry).findValue "vout" = .arr vout ∧
      ∀ j < voutAddresses.getKeys.length, OutputJSONFor ops jsonOps voutAddresses j
        (voutAddresses.getKeys.getD j "") (vout.getD j .null) := by
  have hc := createrawcertificate_eq_ok h
  obtain ⟨inputs, hinputs, hall⟩ := createrawcertificate_vin h
  obtain ⟨stdOuts, bwtOuts, hvout, hfirst, hstd, hbwt⟩ := hc.outputs
  cases hm : (List.range cert.vout.length).mapM
      (fun i => certOutputToJSON jsonOps cert i (cert.vout.getD i default)) with
  | none =>
    obtain ⟨i, -, hnone⟩ := (mapM_option_eq_none _ _).mp hm
    exact absurd (certOutputToJSON_isSome_of_created jsonOps hc i) (by rw [hnone]; decide)
  | some vout =>
    obtain ⟨entry, hentry, hfind⟩ := certToJSON_of_mapM chain hashBlock hm
    refine ⟨inputs, entry, _, vout, hinputs, hentry, certToJSON_vin hentry,
      List.forall₂_map_right_iff.mpr (hall.imp fun _ _ => inputJSONFor_of_inputFor _), hfind,
      fun j hj => ?_⟩
    have hjstd : j < stdOuts.length := hstd.length_eq ▸ hj
    have hnotbwt : isBackwardTransfer cert j = false := by
      simp [isBackwardTransfer, hfirst, hjstd]
    have hat := mapM_range_getD hm (show j < cert.vout.length by
      rw [hvout, List.length_append]; omega)
    rw [certOutputToJSON_of_not_backward hnotbwt, Option.some.injEq, hvout,
      List.getD_append _ _ _ _ hjstd] at hat
    rw [← hat]
    exact outputJSONFor_of_outputFor _ (forall₂_getD hstd hj "" default) j

theorem createrawcertificate_decodes_inputs_and_outputs_of_sample :
    createrawcertificate sampleCreateOps (.arr []) sampleVoutAddresses sampleBackwardAddresses
        sampleParameters = .ok sampleCertificate ∧
      ∃ inputs entry vinJson vout, UniValue.arr [] = .arr inputs ∧
        certToJSON sampleJsonOps emptyChain sampleCertificate 0 = some entry ∧
        (UniValue.obj entry).findValue "vin" = .arr vinJson ∧
        List.Forall₂ (InputJSONFor sampleJsonOps) inputs vinJson ∧
        (UniValue.obj entry).findValue "vout" = .arr vout ∧
        ∀ j < sampleVoutAddresses.getKeys.length, OutputJSONFor sampleCreateOps sampleJsonOps
          sampleVoutAddresses j (sampleVoutAddresses.getKeys.getD j "") (vout.getD j .null) :=
  ⟨createrawcertificate_sample, createrawcertificate_decodes_inputs_and_outputs _ _ emptyChain 0
    _ _ _ _ _ createrawcertificate_sample⟩

end ZendRawTx
