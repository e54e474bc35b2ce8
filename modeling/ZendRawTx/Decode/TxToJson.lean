import ZendRawTx.Decode.CertToJson
import ZendRawTx.Hex

/-!
# `TxToJSON`, `decoderawtransaction`, `decodescript` and the `getraw` handlers

The sidechain outputs and joinsplits are printed by code outside the sources: parameters.
-/

namespace ZendRawTx

set_option autoImplicit false

/-- Modelled from the spec: `GROTH_TX_VERSION`, `0xFFFFFFFD`. -/
def GROTH_TX_VERSION : Int := -3

/-- What `TxToJSON` calls outside this file beyond `CertToJSON`'s collaborators. -/
structure TxJsonOps extends CertJsonOps where
  getTxHash : CMutableTransaction → Uint256
  addSidechainOutsToJSON : CMutableTransaction → List (String × UniValue)
  joinSplitToJSON : Bool → JSDescription → UniValue

def txJoinSplitToJSON (ops : TxJsonOps) (tx : CMutableTransaction) : UniValue :=
  .arr (tx.vjoinsplit.map (ops.joinSplitToJSON (tx.nVersion == GROTH_TX_VERSION)))

def txVinToJSON (ops : TxJsonOps) (tx : CMutableTransaction) (txin : CTxIn) : UniValue :=
  if tx.isCoinBase then
    .obj [("coinbase", .str (hexStr txin.scriptSig)), ("sequence", .ofInt txin.nSequence)]
  else txInToJSON ops.toCertJsonOps txin

/-- The fields of output `i`, as `TxToJSON` and `CertToJSON` print them. -/
def txOutEntries (ops : CertJsonOps) (i : Nat) (txout : CTxOut) : List (String × UniValue) :=
  [("value", ops.valueFromAmount txout.nValue), ("valueZat", .ofInt txout.nValue),
    ("n", .ofInt i), ("scriptPubKey", .obj (scriptPubKeyToJSON ops txout.scriptPubKey true))]

def txOutToJSON (ops : TxJsonOps) (i : Nat) (txout : CTxOut) : UniValue :=
  .obj (txOutEntries ops.toCertJsonOps i txout)

theorem certOutputToJSON_of_not_backward {ops : CertJsonOps} {cert : CMutableScCertificate}
    {i : Nat} (h : isBackwardTransfer cert i = false) (txout : CTxOut) :
    certOutputToJSON ops cert i txout = some (.obj (txOutEntries ops i txout)) := by
  simp [certOutputToJSON, h, txOutEntries]

def txBlockToJSON (chain : ChainState) (hashBlock : Uint256) : List (String × UniValue) :=
  if hashBlock = 0 then []
  else ("blockhash", .str (getHex hashBlock)) ::
    match chain.mapBlockIndex hashBlock with
    | some pindex =>
      if chain.contains pindex then
        [("confirmations", .ofInt (1 + chain.height - pindex.nHeight)),
          ("time", .ofInt pindex.nTime), ("blocktime", .ofInt pindex.nTime)]
      else [("confirmations", .ofInt 0)]
    | none => []

def txToJSON (ops : TxJsonOps) (chain : ChainState) (tx : CMutableTransaction)
    (hashBlock : Uint256) : List (String × UniValue) :=
  [("txid", .str (getHex (ops.getTxHash tx))), ("version", .ofInt tx.nVersion),
    ("locktime", .ofInt tx.nLockTime), ("vin", .arr (tx.vin.map (txVinToJSON ops tx))),
    ("vout", .arr ((List.range tx.vout.length).map fun i =>
      txOutToJSON ops i (tx.vout.getD i default)))] ++
  ops.addSidechainOutsToJSON tx ++ [("vjoinsplit", txJoinSplitToJSON ops tx)] ++
  txBlockToJSON chain hashBlock

def decoderawtransaction (ops : TxJsonOps) (decodeHexTx : String → Option CMutableTransaction)
    (chain : ChainState) (hexstring : UniValue) : Except RPCError UniValue :=
  match hexstring with
  | .str s =>
    match decodeHexTx s with
    | some tx => .ok (.obj (txToJSON ops chain tx 0))
    | none => .error (.jsonRPCError .rpcDeserializationError "TX decode failed")
  | v => .error (.jsonRPCError .rpcTypeError
      ("Expected type " ++ uvTypeName .VSTR ++ ", got " ++ uvTypeName v.type))

/-- `decodescript`, the pay-to-script-hash address of a script a parameter. -/
def decodescript (ops : CertJsonOps) (p2shAddress : CScript → String) (hex : UniValue) :
    Except RPCError UniValue := do
  rpcTypeCheck [hex] [.VSTR]
  let s ← hex.getStr
  let script ← if 0 < s.length then parseHexV hex "argument" else pure []
  pure (.obj (scriptPubKeyToJSON ops script false ++ [("p2sh", .str (p2shAddress script))]))

theorem decodescript_hexStr (ops : CertJsonOps) (p2shAddress : CScript → String)
    (script : CScript) :
    decodescript ops p2shAddress (.str (hexStr script)) =
      .ok (.obj (scriptPubKeyToJSON ops script false ++ [("p2sh", .str (p2shAddress script))])) := by
  cases script with
  | nil => rfl
  | cons b bytes =>
    have hlen : 0 < (hexStr (b :: bytes)).length := by rw [length_hexStr]; simp
    simp only [decodescript, rpcTypeCheck, UniValue.getStr, if_pos hlen,
      parseHexV_hexStr (List.cons_ne_nil b bytes)]
    rfl

def fVerboseOf (params : List UniValue) : Except RPCError Bool :=
  if 1 < params.length then (fun n => decide (n ≠ 0)) <$> (params.getD 1 .null).getInt
  else pure false

/-- The body both `getraw` handlers share. -/
def getRaw {α : Type} (getEntity : Uint256 → Option (α × Uint256)) (encodeHex : α → String)
    (toJSON : α → Uint256 → Except RPCError (List (String × UniValue))) (notFound : String)
    (params : List UniValue) : Except RPCError UniValue := do
  let hash ← parseHashV (params.getD 0 .null) "parameter 1"
  let fVerbose ← fVerboseOf params
  match getEntity hash with
  | none => .error (.jsonRPCError .rpcInvalidAddressOrKey notFound)
  | some (x, hashBlock) =>
    let strHex := encodeHex x
    if !fVerbose then pure (.str strHex)
    else (fun entry => .obj ([("hex", .str strHex)] ++ entry)) <$> toJSON x hashBlock

def getrawtransaction (ops : TxJsonOps)
    (getTransaction : Uint256 → Option (CMutableTransaction × Uint256))
    (encodeHexTx : CMutableTransaction → String) (chain : ChainState) (params : List UniValue) :
    Except RPCError UniValue :=
  getRaw getTransaction encodeHexTx (fun tx hashBlock => pure (txToJSON ops chain tx hashBlock))
    "No information available about transaction" params

def getrawcertificate (ops : CertJsonOps)
    (getCertificate : Uint256 → Option (CMutableScCertificate × Uint256))
    (encodeHexCert : CMutableScCertificate → String) (chain : ChainState)
    (params : List UniValue) : Except RPCError UniValue :=
  getRaw getCertificate encodeHexCert
    (fun cert hashBlock => match certToJSON ops chain cert hashBlock with
      | some entry => pure entry
      | none => .error (.undefinedBehaviour "CertToJSON reads past the end of a scriptPubKey"))
    "No information available about certificate" params

end ZendRawTx
