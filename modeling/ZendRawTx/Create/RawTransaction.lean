import ZendRawTx.Create.Properties

/-!
# `createrawtransaction`

The handler spends the given inputs and pays the given addresses through the helpers it shares
with `createrawcertificate`. `Sidechain::AddSidechainCreationOutputs` and
`AddSidechainForwardOutputs`, outside the sources, take the whole transaction by reference;
they are parameters, assumed only to leave its inputs and standard outputs alone.
-/

namespace ZendRawTx

set_option autoImplicit false

/-- A sidechain output builder: it rewrites the whole transaction but its inputs and outputs. -/
structure SidechainOutputBuilder where
  run : List UniValue → CMutableTransaction → Except String CMutableTransaction
  keeps_vin_vout : ∀ entries rawTx rawTx', run entries rawTx = .ok rawTx' →
    rawTx'.vin = rawTx.vin ∧ rawTx'.vout = rawTx.vout

/-- What `createrawtransaction` calls beyond `createrawcertificate`'s collaborators. -/
structure TxCreateOps extends CertCreateOps where
  txVersion : Int
  addSidechainCreationOutputs : SidechainOutputBuilder
  addSidechainForwardOutputs : SidechainOutputBuilder

/-- The optional crosschain argument `params[k]`, run through `add` when not empty. -/
def crosschainOutputs (add : SidechainOutputBuilder) (params : List UniValue) (k : Nat)
    (rawTx : CMutableTransaction) : Except RPCError CMutableTransaction :=
  if k < params.length ∧ !(params.getD k .null).isNull then do
    let entries ← (params.getD k .null).getArray
    if entries.length ≠ 0 then
      match add.run entries rawTx with
      | .ok rawTx' => pure rawTx'
      | .error errString => .error (.jsonRPCError .rpcTypeError errString)
    else pure rawTx
  else pure rawTx

def createrawtransaction (ops : TxCreateOps) (params : List UniValue) :
    Except RPCError CMutableTransaction := do
  rpcTypeCheck params [.VARR, .VOBJ, .VARR, .VARR]
  let inputs ← (params.getD 0 .null).getArray
  let sendTo ← (params.getD 1 .null).getObj
  let rawTx ← addInputsToRawObject { (default : CMutableTransaction) with
    nVersion := ops.txVersion } inputs
  let rawTx ← addOutputsToRawObject ops.toCertCreateOps CMutableTransaction.addOut rawTx sendTo
  let rawTx ← crosschainOutputs ops.addSidechainCreationOutputs params 2 rawTx
  crosschainOutputs ops.addSidechainForwardOutputs params 3 rawTx

theorem crosschainOutputs_keeps_vin_vout {add : SidechainOutputBuilder} {params : List UniValue}
    {k : Nat} {rawTx rawTx' : CMutableTransaction}
    (h : crosschainOutputs add params k rawTx = .ok rawTx') :
    rawTx'.vin = rawTx.vin ∧ rawTx'.vout = rawTx.vout := by
  unfold crosschainOutputs at h
  split_ifs at h
  · obtain ⟨entries, -, h⟩ := bind_eq_ok.mp h
    split_ifs at h
    · split at h
      · cases h; exact add.keeps_vin_vout _ _ _ (by assumption)
      · cases h
    · cases h; exact ⟨rfl, rfl⟩
  · cases h; exact ⟨rfl, rfl⟩

/-- What a transaction `createrawtransaction` returns is made of. -/
structure CreatedTransaction (ops : TxCreateOps) (params : List UniValue)
    (tx : CMutableTransaction) : Prop where
  inputs : ∃ inputs, params.getD 0 .null = .arr inputs ∧ List.Forall₂ InputFor inputs tx.vin
  outputs : List.Forall₂ (OutputFor ops.toCertCreateOps ops.setString true (params.getD 1 .null))
    (params.getD 1 .null).getKeys tx.vout
  addresses : ((params.getD 1 .null).getKeys.map ops.setString).Nodup

theorem createrawtransaction_eq_ok {ops : TxCreateOps} {params : List UniValue}
    {tx : CMutableTransaction} (h : createrawtransaction ops params = .ok tx) :
    CreatedTransaction ops params tx := by
  unfold createrawtransaction at h
  obtain ⟨_, -, h⟩ := bind_eq_ok.mp h
  obtain ⟨inputs, hinputs, h⟩ := bind_eq_ok.mp h
  obtain ⟨sendTo, hsendTo, h⟩ := bind_eq_ok.mp h
  obtain ⟨rawTx₁, hin, h⟩ := bind_eq_ok.mp h
  obtain ⟨rawTx₂, hout, h⟩ := bind_eq_ok.mp h
  obtain ⟨rawTx₃, hsc, hft⟩ := bind_eq_ok.mp h
  have hvin := (crosschainOutputs_keeps_vin_vout hft).1.trans (crosschainOutputs_keeps_vin_vout hsc).1
  have hvout := (crosschainOutputs_keeps_vin_vout hft).2.trans (crosschainOutputs_keeps_vin_vout hsc).2
  cases UniValue.getObj_eq_ok hsendTo
  generalize hc₀ : { (default : CMutableTransaction) with nVersion := ops.txVersion } = c₀ at hin
  have hv₀ : c₀.vin = [] ∧ c₀.vout = [] := by subst hc₀; exact ⟨rfl, rfl⟩
  obtain ⟨txins, hall, rfl⟩ := addInputsToRawObject_inputFor _ _ _ hin
  obtain ⟨⟨_, rawTx₂'⟩, hloop, rfl⟩ := map_eq_ok.mp hout
  obtain ⟨outs, hstd, hnodup, -, hr⟩ := foldlM_addOutputFor_eq_ok _ _ _ List.nodup_nil hloop
  cases hr
  simp only [CMutableTransaction.foldl_addOut, HasInputs.withVin, HasInputs.vin, hv₀,
    List.nil_append] at hvin hvout
  exact ⟨⟨inputs, UniValue.getArray_eq_ok hinputs, hvin ▸ hall⟩, hvout ▸ hstd,
    by simpa using hnodup⟩

theorem createrawtransaction_pays_each_address_once (ops : TxCreateOps) (params : List UniValue)
    (tx : CMutableTransaction) (h : createrawtransaction ops params = .ok tx) :
    ((params.getD 1 .null).getKeys.map ops.setString).Nodup ∧
      tx.vout.length = (params.getD 1 .null).getKeys.length ∧
      (∃ inputs, params.getD 0 .null = .arr inputs ∧ tx.vin.length = inputs.length) := by
  have hc := createrawtransaction_eq_ok h
  obtain ⟨inputs, hinputs, hall⟩ := hc.inputs
  exact ⟨hc.addresses, hc.outputs.length_eq.symm, ⟨inputs, hinputs, hall.length_eq.symm⟩⟩

def keepTransaction : SidechainOutputBuilder := ⟨fun _ rawTx => .ok rawTx, fun _ _ _ h => by
  cases h; exact ⟨rfl, rfl⟩⟩

def sampleTxCreateOps : TxCreateOps :=
  { sampleCreateOps with
    txVersion := 1
    addSidechainCreationOutputs := keepTransaction
    addSidechainForwardOutputs := keepTransaction }

def sampleTxParams : List UniValue :=
  [.arr [.obj [("txid", .str "ab"), ("vout", .num "1")]], sampleVoutAddresses]

def sampleTransaction : CMutableTransaction :=
  { (default : CMutableTransaction) with
    nVersion := 1
    vin := [⟨⟨setHex 256 "ab", 1⟩, [], 4294967295⟩]
    vout := [⟨100000, getScriptForDestination [] (.keyID (blobOfBytes 160 (leBytes 20 3))) true⟩] }

theorem createrawtransaction_sample :
    createrawtransaction sampleTxCreateOps sampleTxParams = .ok sampleTransaction := rfl

theorem createrawtransaction_pays_each_address_once_of_sample :
    createrawtransaction sampleTxCreateOps sampleTxParams = .ok sampleTransaction ∧
      ((sampleTxParams.getD 1 .null).getKeys.map sampleTxCreateOps.setString).Nodup ∧
      sampleTransaction.vout.length = (sampleTxParams.getD 1 .null).getKeys.length ∧
      (∃ inputs, sampleTxParams.getD 0 .null = .arr inputs ∧
        sampleTransaction.vin.length = inputs.length) :=
  ⟨createrawtransaction_sample,
    createrawtransaction_pays_each_address_once _ _ _ createrawtransaction_sample⟩

end ZendRawTx
