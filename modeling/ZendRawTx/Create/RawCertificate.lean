import Mathlib.Data.List.Nodup
import ZendRawTx.Transaction

/-!
# `createrawcertificate`

Inputs and standard outputs are read by the helpers `createrawtransaction` shares, backward
transfers by the same loop over key hashes. Addresses are modelled from the spec; base58, the
amounts and the proof checks are parameters.
-/

namespace ZendRawTx

set_option autoImplicit false

def OP_DUP : UInt8 := 0x76

def OP_EQUAL : UInt8 := 0x87

def OP_EQUALVERIFY : UInt8 := 0x88

def OP_CHECKSIG : UInt8 := 0xac

inductive CTxDestination where
  | noDestination
  | keyID (id : Uint160)
  | scriptID (id : Uint160)
  deriving DecidableEq, Repr

/-- `CBitcoinAddress`, as `CBase58Data` holds it: the version bytes and the payload. -/
structure CBitcoinAddress where
  vchVersion : List UInt8
  vchData : List UInt8
  deriving DecidableEq, Repr

structure Base58Prefixes where
  pubkeyAddress : List UInt8
  scriptAddress : List UInt8

namespace CBitcoinAddress

variable (prefixes : Base58Prefixes)

/-- Modelled from the spec: `CBitcoinAddress(CKeyID)`. -/
def ofKeyID (keyID : Uint160) : CBitcoinAddress := ⟨prefixes.pubkeyAddress, toByteVector keyID⟩

/-- Modelled from the spec: `CBitcoinAddress::IsValid`, twenty bytes under a known version. -/
def isValid (a : CBitcoinAddress) : Bool :=
  a.vchData.length == 20 &&
    (a.vchVersion == prefixes.pubkeyAddress || a.vchVersion == prefixes.scriptAddress)

/-- Modelled from the spec: `CBitcoinAddress::Get`. -/
def get (a : CBitcoinAddress) : CTxDestination :=
  if !a.isValid prefixes then .noDestination
  else if a.vchVersion = prefixes.pubkeyAddress then .keyID (blobOfBytes 160 a.vchData)
  else if a.vchVersion = prefixes.scriptAddress then .scriptID (blobOfBytes 160 a.vchData)
  else .noDestination

theorem get_ofKeyID (keyID : Uint160) :
    (ofKeyID prefixes keyID).isValid prefixes ∧ (ofKeyID prefixes keyID).get prefixes = .keyID keyID := by
  have hlen : (toByteVector keyID).length = 20 := length_leBytes _ _
  have hvalid : (ofKeyID prefixes keyID).isValid prefixes := by simp [isValid, ofKeyID, hlen]
  refine ⟨hvalid, ?_⟩
  rw [get, if_neg (by simpa using hvalid),
    if_pos (show (ofKeyID prefixes keyID).vchVersion = prefixes.pubkeyAddress from rfl), ofKeyID,
    blobOfBytes_toByteVector (by decide)]

end CBitcoinAddress

/-- Modelled from the spec: `GetScriptForDestination`, with the replay protection. -/
def getScriptForDestination (checkBlockAtHeight : CScript) (dest : CTxDestination)
    (withCheckBlockAtHeight : Bool) : CScript :=
  let suffix := if withCheckBlockAtHeight then checkBlockAtHeight else []
  match dest with
  | .noDestination => []
  | .keyID id => [OP_DUP, OP_HASH160, 20] ++ toByteVector id ++ [OP_EQUALVERIFY, OP_CHECKSIG] ++ suffix
  | .scriptID id => [OP_HASH160, 20] ++ toByteVector id ++ [OP_EQUAL] ++ suffix

/-- What `createrawcertificate` calls outside this file. -/
structure CertCreateOps where
  base58Prefixes : Base58Prefixes
  setString : String → CBitcoinAddress
  checkBlockAtHeight : CScript
  amountFromValue : UniValue → Except RPCError Int
  addScData : String → Except String (List UInt8)
  isValidScProof : List UInt8 → Bool
  scCertVersion : Int

open HasInputs in
/-- One entry of `AddInputsToRawObject`. -/
def addInput {σ : Type} [HasInputs σ] (rawTxObj : σ) (input : UniValue) : Except RPCError σ := do
  let o ← input.getObj
  let txid ← parseHashO o "txid"
  let vout_v := o.findValue "vout"
  if vout_v.type ≠ .VNUM then
    .error (.jsonRPCError .rpcInvalidParameter "Invalid parameter, missing vout key")
  else do
    let nOutput ← vout_v.getInt
    if nOutput < 0 then
      .error (.jsonRPCError .rpcInvalidParameter "Invalid parameter, vout must be positive")
    else pure (withVin rawTxObj (vin rawTxObj ++ [⟨⟨txid, nOutput.toNat⟩, [], 4294967295⟩]))

def addInputsToRawObject {σ : Type} [HasInputs σ] (rawTxObj : σ) (inputs : List UniValue) :
    Except RPCError σ :=
  inputs.foldlM addInput rawTxObj

/-- One key of an outputs object, as `AddOutputsToRawObject` and the backward loop read it. -/
def addOutputFor {σ : Type} (ops : CertCreateOps) (toAddress : String → CBitcoinAddress)
    (withCheckBlockAtHeight : Bool) (add : σ → CTxOut → σ) (sendTo : UniValue)
    (acc : List CBitcoinAddress × σ) (name_ : String) :
    Except RPCError (List CBitcoinAddress × σ) :=
  let address := toAddress name_
  if !address.isValid ops.base58Prefixes then
    .error (.jsonRPCError .rpcInvalidAddressOrKey ("Invalid Horizen address: " ++ name_))
  else if address ∈ acc.1 then
    .error (.jsonRPCError .rpcInvalidParameter ("Invalid parameter, duplicated address: " ++ name_))
  else do
    let nAmount ← ops.amountFromValue (sendTo.findValue name_)
    pure (acc.1 ++ [address], add acc.2 ⟨nAmount, getScriptForDestination ops.checkBlockAtHeight
      (address.get ops.base58Prefixes) withCheckBlockAtHeight⟩)

def addOutputsToRawObject {σ : Type} (ops : CertCreateOps) (addOut : σ → CTxOut → σ)
    (rawTxObj : σ) (sendTo : UniValue) : Except RPCError σ :=
  Prod.snd <$> sendTo.getKeys.foldlM (addOutputFor ops ops.setString true addOut sendTo)
    ([], rawTxObj)

/-- The backward-transfer loop: each key's address is the key hash `SetHex` reads. -/
def addBackwardOutputs (ops : CertCreateOps) (rawCert : CMutableScCertificate)
    (backwardOutputs : UniValue) : Except RPCError CMutableScCertificate :=
  Prod.snd <$> backwardOutputs.getKeys.foldlM
    (addOutputFor ops (fun name_ => .ofKeyID ops.base58Prefixes (setHex 160 name_)) false
      CMutableScCertificate.addBwt backwardOutputs) ([], rawCert)

def validKeyArgs : List String :=
  ["scid", "withdrawalEpochNumber", "quality", "endEpochBlockHash", "scProof"]

/-- One key of the sanity loop: known, and not seen before. -/
def checkKeyArg (setKeyArgs : List String) (s : String) : Except RPCError (List String) :=
  if s ∉ validKeyArgs then
    .error (.jsonRPCError .rpcInvalidParameter ("Invalid parameter, unknown key: " ++ s))
  else if s ∈ setKeyArgs then
    .error (.jsonRPCError .rpcInvalidParameter ("Duplicate key in input: " ++ s))
  else .ok (setKeyArgs ++ [s])

def checkCertParamKeys (cert_params : UniValue) : Except RPCError (List String) :=
  if cert_params.isObject then cert_params.getKeys.foldlM checkKeyArg []
  else .error (.jsonRPCError .rpcInvalidParameter "Invalid parameter, expected object")

def mandatoryParam {α : Type} (setKeyArgs : List String) (key : String)
    (read : Except RPCError α) : Except RPCError α :=
  if key ∈ setKeyArgs then read
  else .error (.jsonRPCError .rpcInvalidParameter
    ("Missing mandatory parameter in input: \"" ++ key ++ "\""))

def readQuality (cert_params : UniValue) : Except RPCError Int := do
  let quality ← (cert_params.findValue "quality").getInt64
  if quality < 0 then
    .error (.jsonRPCError .rpcInvalidParameter
      "Invalid parameter \"quality\": must be a positive number")
  else pure quality

def readScProof (ops : CertCreateOps) (cert_params : UniValue) : Except RPCError (List UInt8) := do
  let inputString ← (cert_params.findValue "scProof").getStr
  match ops.addScData inputString with
  | .error error => .error (.jsonRPCError .rpcTypeError ("scProof: " ++ error))
  | .ok scProofVec =>
    if ops.isValidScProof scProofVec then pure scProofVec
    else .error (.jsonRPCError .rpcInvalidParameter "invalid cert \"scProof\"")

def createrawcertificate (ops : CertCreateOps)
    (transactions voutAddresses backwardAddresses certificateParameters : UniValue) :
    Except RPCError CMutableScCertificate := do
  rpcTypeCheck [transactions, voutAddresses, backwardAddresses, certificateParameters]
    [.VARR, .VOBJ, .VOBJ, .VOBJ]
  let inputs ← transactions.getArray
  let standardOutputs ← voutAddresses.getObj
  let backwardOutputs ← backwardAddresses.getObj
  let cert_params ← certificateParameters.getObj
  let rawCert ← addInputsToRawObject { (default : CMutableScCertificate) with
    nVersion := ops.scCertVersion } inputs
  let rawCert ← addOutputsToRawObject ops CMutableScCertificate.addOut rawCert standardOutputs
  let rawCert ← addBackwardOutputs ops rawCert backwardOutputs
  let setKeyArgs ← checkCertParamKeys cert_params
  let scId ← mandatoryParam setKeyArgs "scid"
    (setHex 256 <$> (cert_params.findValue "scid").getStr)
  let withdrawalEpochNumber ← mandatoryParam setKeyArgs "withdrawalEpochNumber"
    (cert_params.findValue "withdrawalEpochNumber").getInt
  let quality ← mandatoryParam setKeyArgs "quality" (readQuality cert_params)
  let endEpochBlockHash ← mandatoryParam setKeyArgs "endEpochBlockHash"
    (setHex 256 <$> (cert_params.findValue "endEpochBlockHash").getStr)
  let scProof ← mandatoryParam setKeyArgs "scProof" (readScProof ops cert_params)
  pure { rawCert with
    scProof := scProof
    scId := scId
    epochNumber := withdrawalEpochNumber
    quality := quality
    endEpochBlockHash := endEpochBlockHash }

section Steps

variable {σ : Type}

open HasInputs in
theorem addInput_eq_ok [HasInputs σ] {rawTxObj r : σ} {input : UniValue}
    (h : addInput rawTxObj input = .ok r) : ∃ txin, r = withVin rawTxObj (vin rawTxObj ++ [txin]) := by
  unfold addInput at h
  obtain ⟨o, -, h⟩ := bind_eq_ok.mp h
  obtain ⟨txid, -, h⟩ := bind_eq_ok.mp h
  dsimp only at h
  split_ifs at h
  obtain ⟨nOutput, -, h⟩ := bind_eq_ok.mp h
  split_ifs at h
  cases h
  exact ⟨_, rfl⟩

open HasInputs in
theorem addInputsToRawObject_eq_ok [HasInputs σ] :
    ∀ (inputs : List UniValue) (rawTxObj r : σ), addInputsToRawObject rawTxObj inputs = .ok r →
      ∃ l, r = withVin rawTxObj l := by
  intro inputs
  induction inputs with
  | nil => intro rawTxObj r h; cases h; exact ⟨_, (withVin_vin rawTxObj).symm⟩
  | cons input inputs ih =>
    intro rawTxObj r h
    rw [addInputsToRawObject, List.foldlM_cons] at h
    obtain ⟨r₁, h₁, h⟩ := bind_eq_ok.mp h
    obtain ⟨txin, rfl⟩ := addInput_eq_ok h₁
    obtain ⟨l, rfl⟩ := ih _ r h
    exact ⟨l, withVin_withVin _ _ _⟩

/-- The input an entry of the inputs array yields. -/
def InputFor (input : UniValue) (txin : CTxIn) : Prop :=
  ∃ txid nOutput, parseHashO input "txid" = .ok txid ∧
    (input.findValue "vout").getInt = .ok nOutput ∧ 0 ≤ nOutput ∧
    txin = ⟨⟨txid, nOutput.toNat⟩, [], 4294967295⟩

open HasInputs in
theorem addInput_inputFor [HasInputs σ] {rawTxObj r : σ} {input : UniValue}
    (h : addInput rawTxObj input = .ok r) :
    ∃ txin, InputFor input txin ∧ r = withVin rawTxObj (vin rawTxObj ++ [txin]) := by
  unfold addInput at h
  obtain ⟨o, ho, h⟩ := bind_eq_ok.mp h
  cases UniValue.getObj_eq_ok ho
  obtain ⟨txid, htxid, h⟩ := bind_eq_ok.mp h
  dsimp only at h
  split_ifs at h
  obtain ⟨nOutput, hn, h⟩ := bind_eq_ok.mp h
  split_ifs at h with hneg
  cases h
  exact ⟨_, ⟨txid, nOutput, htxid, hn, by omega, rfl⟩, rfl⟩

open HasInputs in
theorem addInputsToRawObject_inputFor [HasInputs σ] :
    ∀ (inputs : List UniValue) (rawTxObj r : σ), addInputsToRawObject rawTxObj inputs = .ok r →
      ∃ txins, List.Forall₂ InputFor inputs txins ∧ r = withVin rawTxObj (vin rawTxObj ++ txins) := by
  intro inputs
  induction inputs with
  | nil => intro rawTxObj r h; cases h; exact ⟨[], .nil, by simp [withVin_vin]⟩
  | cons input inputs ih =>
    intro rawTxObj r h
    rw [addInputsToRawObject, List.foldlM_cons] at h
    obtain ⟨r₁, h₁, h⟩ := bind_eq_ok.mp h
    obtain ⟨txin, htxin, rfl⟩ := addInput_inputFor h₁
    obtain ⟨txins, hall, rfl⟩ := ih _ r h
    exact ⟨txin :: txins, .cons htxin hall, by simp [vin_withVin, withVin_withVin]⟩

/-- The output a key of an outputs object yields. -/
def OutputFor (ops : CertCreateOps) (toAddress : String → CBitcoinAddress)
    (withCheckBlockAtHeight : Bool) (sendTo : UniValue) (name_ : String) (out : CTxOut) : Prop :=
  ops.amountFromValue (sendTo.findValue name_) = .ok out.nValue ∧
    out.scriptPubKey = getScriptForDestination ops.checkBlockAtHeight
      ((toAddress name_).get ops.base58Prefixes) withCheckBlockAtHeight

variable {ops : CertCreateOps} {toAddress : String → CBitcoinAddress}
  {withCheckBlockAtHeight : Bool} {add : σ → CTxOut → σ} {sendTo : UniValue}

theorem addOutputFor_eq_ok {acc r : List CBitcoinAddress × σ} {name_ : String}
    (h : addOutputFor ops toAddress withCheckBlockAtHeight add sendTo acc name_ = .ok r) :
    (toAddress name_).isValid ops.base58Prefixes ∧ toAddress name_ ∉ acc.1 ∧
      ∃ out, OutputFor ops toAddress withCheckBlockAtHeight sendTo name_ out ∧
        r = (acc.1 ++ [toAddress name_], add acc.2 out) := by
  unfold addOutputFor at h
  dsimp only at h
  split_ifs at h with hvalid hfresh
  obtain ⟨nAmount, hamount, h⟩ := bind_eq_ok.mp h
  cases h
  exact ⟨by simpa using hvalid, hfresh, _, ⟨hamount, rfl⟩, rfl⟩

theorem foldlM_addOutputFor_eq_ok :
    ∀ (keys : List String) (acc r : List CBitcoinAddress × σ), acc.1.Nodup →
      keys.foldlM (addOutputFor ops toAddress withCheckBlockAtHeight add sendTo) acc = .ok r →
      ∃ outs, List.Forall₂ (OutputFor ops toAddress withCheckBlockAtHeight sendTo) keys outs ∧
        (acc.1 ++ keys.map toAddress).Nodup ∧
        (∀ name_ ∈ keys, (toAddress name_).isValid ops.base58Prefixes) ∧
        r = (acc.1 ++ keys.map toAddress, outs.foldl add acc.2) := by
  intro keys
  induction keys with
  | nil => intro acc r hacc h; cases h; exact ⟨[], .nil, by simpa using hacc, by simp, by simp⟩
  | cons name_ keys ih =>
    intro acc r hacc h
    rw [List.foldlM_cons] at h
    obtain ⟨acc₁, h₁, h⟩ := bind_eq_ok.mp h
    obtain ⟨hvalid, hfresh, out, hout, rfl⟩ := addOutputFor_eq_ok h₁
    obtain ⟨outs, hall, hnodup, hvalids, rfl⟩ := ih _ r (by simpa using hacc.concat hfresh) h
    exact ⟨out :: outs, .cons hout hall, by simpa using hnodup,
      List.forall_mem_cons.mpr ⟨hvalid, hvalids⟩, by simp⟩

theorem checkKeyArg_eq_ok {setKeyArgs r : List String} {s : String}
    (h : checkKeyArg setKeyArgs s = .ok r) :
    s ∈ validKeyArgs ∧ s ∉ setKeyArgs ∧ r = setKeyArgs ++ [s] := by
  unfold checkKeyArg at h
  split_ifs at h with hknown hfresh
  cases h
  exact ⟨hknown, hfresh, rfl⟩

theorem foldlM_checkKeyArg_eq_ok :
    ∀ (keys acc r : List String), acc.Nodup → keys.foldlM checkKeyArg acc = .ok r →
      r = acc ++ keys ∧ (acc ++ keys).Nodup ∧ ∀ k ∈ keys, k ∈ validKeyArgs := by
  intro keys
  induction keys with
  | nil => intro acc r hacc h; cases h; exact ⟨by simp, by simpa using hacc, by simp⟩
  | cons k keys ih =>
    intro acc r hacc h
    rw [List.foldlM_cons] at h
    obtain ⟨acc₁, h₁, h⟩ := bind_eq_ok.mp h
    obtain ⟨hknown, hfresh, rfl⟩ := checkKeyArg_eq_ok h₁
    obtain ⟨rfl, hnodup, hvalid⟩ := ih _ r (by simpa using hacc.concat hfresh) h
    exact ⟨by simp, by simpa using hnodup, List.forall_mem_cons.mpr ⟨hknown, hvalid⟩⟩

theorem mandatoryParam_eq_ok {α : Type} {setKeyArgs : List String} {key : String}
    {read : Except RPCError α} {a : α} (h : mandatoryParam setKeyArgs key read = .ok a) :
    key ∈ setKeyArgs ∧ read = .ok a := by
  unfold mandatoryParam at h
  split_ifs at h with hkey
  exact ⟨hkey, h⟩

theorem readQuality_eq_ok {cert_params : UniValue} {quality : Int}
    (h : readQuality cert_params = .ok quality) :
    (cert_params.findValue "quality").getInt64 = .ok quality ∧ 0 ≤ quality := by
  unfold readQuality at h
  obtain ⟨q, hq, h⟩ := bind_eq_ok.mp h
  split_ifs at h with hneg
  cases h
  exact ⟨hq, by omega⟩

end Steps

/-- What a certificate `createrawcertificate` returns is made of. -/
structure CreatedCertificate (ops : CertCreateOps)
    (voutAddresses backwardAddresses certificateParameters : UniValue)
    (cert : CMutableScCertificate) : Prop where
  outputs : ∃ stdOuts bwtOuts, cert.vout = stdOuts ++ bwtOuts ∧
    cert.nFirstBwtPos = stdOuts.length ∧
    List.Forall₂ (OutputFor ops ops.setString true voutAddresses) voutAddresses.getKeys stdOuts ∧
    List.Forall₂ (OutputFor ops (fun name_ => .ofKeyID ops.base58Prefixes (setHex 160 name_))
      false backwardAddresses) backwardAddresses.getKeys bwtOuts
  standard_addresses : (voutAddresses.getKeys.map ops.setString).Nodup
  backward_addresses : (backwardAddresses.getKeys.map fun name_ =>
    CBitcoinAddress.ofKeyID ops.base58Prefixes (setHex 160 name_)).Nodup
  keys_nodup : certificateParameters.getKeys.Nodup
  keys_valid : ∀ k ∈ certificateParameters.getKeys, k ∈ validKeyArgs
  keys_given : ∀ k ∈ validKeyArgs, k ∈ certificateParameters.getKeys
  epochNumber :
    (certificateParameters.findValue "withdrawalEpochNumber").getInt = .ok cert.epochNumber
  quality : (certificateParameters.findValue "quality").getInt64 = .ok cert.quality ∧
    0 ≤ cert.quality

theorem createrawcertificate_eq_ok {ops : CertCreateOps}
    {transactions voutAddresses backwardAddresses certificateParameters : UniValue}
    {cert : CMutableScCertificate}
    (h : createrawcertificate ops transactions voutAddresses backwardAddresses
      certificateParameters = .ok cert) :
    CreatedCertificate ops voutAddresses backwardAddresses certificateParameters cert := by
  unfold createrawcertificate at h
  obtain ⟨_, -, h⟩ := bind_eq_ok.mp h
  obtain ⟨inputs, -, h⟩ := bind_eq_ok.mp h
  obtain ⟨standardOutputs, hstd, h⟩ := bind_eq_ok.mp h
  obtain ⟨backwardOutputs, hbwt, h⟩ := bind_eq_ok.mp h
  obtain ⟨cert_params, hparams, h⟩ := bind_eq_ok.mp h
  obtain ⟨rawCert₁, hin, h⟩ := bind_eq_ok.mp h
  obtain ⟨rawCert₂, hout, h⟩ := bind_eq_ok.mp h
  obtain ⟨rawCert₃, hbwtout, h⟩ := bind_eq_ok.mp h
  obtain ⟨setKeyArgs, hkeys, h⟩ := bind_eq_ok.mp h
  obtain ⟨scId, hscid, h⟩ := bind_eq_ok.mp h
  obtain ⟨epoch, hepoch, h⟩ := bind_eq_ok.mp h
  obtain ⟨quality, hquality, h⟩ := bind_eq_ok.mp h
  obtain ⟨endEpochBlockHash, hend, h⟩ := bind_eq_ok.mp h
  obtain ⟨scProof, hproof, h⟩ := bind_eq_ok.mp h
  cases h
  cases UniValue.getObj_eq_ok hstd
  cases UniValue.getObj_eq_ok hbwt
  cases UniValue.getObj_eq_ok hparams
  obtain ⟨vin, rfl⟩ := addInputsToRawObject_eq_ok _ _ _ hin
  generalize hc₁ : HasInputs.withVin { (default : CMutableScCertificate) with
    nVersion := ops.scCertVersion } vin = c₁ at hout
  have hv₁ : c₁.vout = [] ∧ c₁.nFirstBwtPos = 0 := by subst hc₁; exact ⟨rfl, rfl⟩
  obtain ⟨⟨_, rawCert₂'⟩, hstdloop, rfl⟩ := map_eq_ok.mp hout
  obtain ⟨stdOuts, hstdall, hstdnodup, -, hstdr⟩ :=
    foldlM_addOutputFor_eq_ok _ _ _ List.nodup_nil hstdloop
  obtain ⟨⟨_, rawCert₃'⟩, hbwtloop, rfl⟩ := map_eq_ok.mp hbwtout
  obtain ⟨bwtOuts, hbwtall, hbwtnodup, -, hbwtr⟩ :=
    foldlM_addOutputFor_eq_ok _ _ _ List.nodup_nil hbwtloop
  cases hstdr
  cases hbwtr
  unfold checkCertParamKeys at hkeys
  split_ifs at hkeys
  obtain ⟨rfl, hnodup, hvalid⟩ := foldlM_checkKeyArg_eq_ok _ _ _ List.nodup_nil hkeys
  have hvout := CMutableScCertificate.foldl_addOut stdOuts c₁ (by simp [hv₁])
  have hgiven : ∀ k ∈ validKeyArgs, k ∈ certificateParameters.getKeys := by
    simpa [validKeyArgs] using ⟨(mandatoryParam_eq_ok hscid).1, (mandatoryParam_eq_ok hepoch).1,
      (mandatoryParam_eq_ok hquality).1, (mandatoryParam_eq_ok hend).1,
      (mandatoryParam_eq_ok hproof).1⟩
  refine ⟨⟨stdOuts, bwtOuts, ?_, ?_, hstdall, hbwtall⟩, by simpa using hstdnodup,
    by simpa using hbwtnodup, by simpa using hnodup, hvalid, hgiven,
    (mandatoryParam_eq_ok hepoch).2, readQuality_eq_ok (mandatoryParam_eq_ok hquality).2⟩ <;>
    simp [CMutableScCertificate.foldl_addBwt, hvout, hv₁]

theorem foldl_vin_of_keeps {α : Type} {f : CMutableScCertificate → α → CMutableScCertificate}
    (hf : ∀ c a, (f c a).vin = c.vin) (l : List α) (c : CMutableScCertificate) :
    (l.foldl f c).vin = c.vin := by
  induction l generalizing c with
  | nil => rfl
  | cons a l ih => rw [List.foldl_cons, ih, hf]

theorem createrawcertificate_vin {ops : CertCreateOps}
    {transactions voutAddresses backwardAddresses certificateParameters : UniValue}
    {cert : CMutableScCertificate}
    (h : createrawcertificate ops transactions voutAddresses backwardAddresses
      certificateParameters = .ok cert) :
    ∃ inputs, transactions = .arr inputs ∧ List.Forall₂ InputFor inputs cert.vin := by
  unfold createrawcertificate at h
  obtain ⟨_, -, h⟩ := bind_eq_ok.mp h
  obtain ⟨inputs, hinputs, h⟩ := bind_eq_ok.mp h
  obtain ⟨_, -, h⟩ := bind_eq_ok.mp h
  obtain ⟨_, -, h⟩ := bind_eq_ok.mp h
  obtain ⟨_, -, h⟩ := bind_eq_ok.mp h
  obtain ⟨rawCert₁, hin, h⟩ := bind_eq_ok.mp h
  obtain ⟨rawCert₂, hout, h⟩ := bind_eq_ok.mp h
  obtain ⟨rawCert₃, hbwtout, h⟩ := bind_eq_ok.mp h
  obtain ⟨_, -, h⟩ := bind_eq_ok.mp h
  obtain ⟨_, -, h⟩ := bind_eq_ok.mp h
  obtain ⟨_, -, h⟩ := bind_eq_ok.mp h
  obtain ⟨_, -, h⟩ := bind_eq_ok.mp h
  obtain ⟨_, -, h⟩ := bind_eq_ok.mp h
  obtain ⟨_, -, h⟩ := bind_eq_ok.mp h
  cases h
  obtain ⟨txins, hall, rfl⟩ := addInputsToRawObject_inputFor _ _ _ hin
  obtain ⟨⟨_, rawCert₂'⟩, hstdloop, rfl⟩ := map_eq_ok.mp hout
  obtain ⟨_, -, -, -, hstdr⟩ := foldlM_addOutputFor_eq_ok _ _ _ List.nodup_nil hstdloop
  obtain ⟨⟨_, rawCert₃'⟩, hbwtloop, rfl⟩ := map_eq_ok.mp hbwtout
  obtain ⟨_, -, -, -, hbwtr⟩ := foldlM_addOutputFor_eq_ok _ _ _ List.nodup_nil hbwtloop
  cases hstdr
  cases hbwtr
  have hkeepOut : ∀ (l : List CTxOut) c, (l.foldl CMutableScCertificate.addOut c).vin = c.vin :=
    foldl_vin_of_keeps fun _ _ => rfl
  have hkeepBwt : ∀ (l : List CTxOut) c, (l.foldl CMutableScCertificate.addBwt c).vin = c.vin :=
    foldl_vin_of_keeps fun _ _ => rfl
  refine ⟨inputs, UniValue.getArray_eq_ok hinputs, ?_⟩
  simpa [hkeepOut, hkeepBwt, HasInputs.withVin, HasInputs.vin] using hall

end ZendRawTx
