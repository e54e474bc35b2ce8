import ZendRawTx.Transaction

/-!
# `sendrawtransaction` and `sendrawcertificate`

The node is a parameter (`NodeOps`). The chain holding the entity stops a call, the mempool
holding it skips the acceptance; a failed acceptance returns no node, so it changes nothing.
-/

namespace ZendRawTx

set_option autoImplicit false

/-- What a failed acceptance to the mempool leaves: the validation state, `fMissingInputs`. -/
structure MempoolRejection where
  isInvalid : Bool
  rejectCode : Nat
  rejectReason : String
  fMissingInputs : Bool

/-- What a submission handler reads and changes of the node `ν` for entities `α`. -/
structure NodeOps (ν α : Type) where
  decodeHex : String → Option α
  getHash : α → Uint256
  coinsHeight : ν → Uint256 → Option Int
  existsInMempool : ν → Uint256 → Bool
  acceptToMemoryPool : ν → α → Bool → Except MempoolRejection ν
  relay : ν → α → ν

/-- The error a failed acceptance is thrown as. -/
def rejectionError (notAccepted : MempoolRejection → String) (r : MempoolRejection) : RPCError :=
  if r.isInvalid then
    .jsonRPCError .rpcTransactionRejected (toString r.rejectCode ++ ": " ++ r.rejectReason)
  else if r.fMissingInputs then .jsonRPCError .rpcTransactionError "Missing inputs"
  else .jsonRPCError .rpcTransactionError (notAccepted r)

def fOverrideFeesOf (params : List UniValue) : Except RPCError Bool :=
  if 1 < params.length then (params.getD 1 .null).getBool else pure false

/-- The node after the mempool and the chain are consulted on entity `x`. -/
def submitToMempool {ν α : Type} (ops : NodeOps ν α) (fHaveChainOf : Option Int → Bool)
    (notAccepted : MempoolRejection → String) (alreadyInChain : String) (node : ν) (x : α)
    (fOverrideFees : Bool) : Except RPCError ν :=
  let fHaveMempool := ops.existsInMempool node (ops.getHash x)
  let fHaveChain := fHaveChainOf (ops.coinsHeight node (ops.getHash x))
  if !fHaveMempool && !fHaveChain then
    (ops.acceptToMemoryPool node x !fOverrideFees).mapError (rejectionError notAccepted)
  else if fHaveChain then .error (.jsonRPCError .rpcTransactionAlreadyInChain alreadyInChain)
  else pure node

/-- The body both handlers share; it returns `hash.GetHex()` and the node after the call. -/
def sendRaw {ν α : Type} (ops : NodeOps ν α) (decodeFailed : String)
    (fHaveChainOf : Option Int → Bool) (notAccepted : MempoolRejection → String)
    (alreadyInChain : String) (node : ν) (params : List UniValue) :
    Except RPCError (String × ν) := do
  rpcTypeCheck params [.VSTR, .VBOOL]
  let s ← (params.getD 0 .null).getStr
  match ops.decodeHex s with
  | none => .error (.jsonRPCError .rpcDeserializationError decodeFailed)
  | some x =>
    let fOverrideFees ← fOverrideFeesOf params
    let node' ← submitToMempool ops fHaveChainOf notAccepted alreadyInChain node x fOverrideFees
    pure (getHex (ops.getHash x), ops.relay node' x)

/-- `existingCoins && existingCoins->nHeight < 1000000000`. -/
def txHaveChain : Option Int → Bool
  | some nHeight => decide (nHeight < 1000000000)
  | none => false

def sendrawtransaction {ν : Type} (ops : NodeOps ν CMutableTransaction) (node : ν)
    (params : List UniValue) : Except RPCError (String × ν) :=
  sendRaw ops "TX decode failed" txHaveChain (·.rejectReason) "transaction already in block chain"
    node params

/-- `sendrawcertificate`: any coins are the chain's. -/
def sendrawcertificate {ν : Type} (ops : NodeOps ν CMutableScCertificate) (node : ν)
    (params : List UniValue) : Except RPCError (String × ν) :=
  sendRaw ops "Certificate decode failed" Option.isSome
    (fun _ => "certificate not accepted to mempool") "certificate already in block chain" node
    params

end ZendRawTx
