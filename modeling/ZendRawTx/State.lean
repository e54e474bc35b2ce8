import ZendRawTx.Transaction

/-!
# The coins view, the key store and the chain

Only what the handlers read: of a `CCoins` its outputs, of a block its header's Merkle root and
its transaction ids, of the node its block index, active chain, disk and coins.
-/

namespace ZendRawTx

set_option autoImplicit false

/-- `CCoins`, by its outputs; a spent or never filled slot holds a null output. -/
structure CCoins where
  vout : List CTxOut
  deriving DecidableEq, Repr

def CCoins.isAvailable (coins : CCoins) (nPos : Nat) : Bool :=
  nPos < coins.vout.length && !(coins.vout.getD nPos default).isNull

/-- `CCoinsViewCache`, as the coins it holds for each transaction id. -/
abbrev CCoinsViewCache := Uint256 → Option CCoins

/-- The lookup a signing pass starts with: the spent output's script, when available. -/
def prevPubKeyOf (view : CCoinsViewCache) (prevout : COutPoint) : Option CScript :=
  match view prevout.hash with
  | some coins =>
    if coins.isAvailable prevout.n then some (coins.vout.getD prevout.n default).scriptPubKey
    else none
  | none => none

abbrev CKey := List UInt8

/-- `CBasicKeyStore`: the keys and the redeem scripts added to it. -/
structure CBasicKeyStore where
  keys : List CKey
  scripts : List CScript
  deriving DecidableEq, Repr

/-- `CBlockHeader`: its Merkle root, and the other fields as bytes for its hash. -/
structure CBlockHeader where
  hashMerkleRoot : Uint256
  otherFields : List UInt8
  deriving DecidableEq, Repr

/-- `CBlock`: its header and the ids of its transactions, in block order. -/
structure CBlock where
  header : CBlockHeader
  vtx : List Uint256
  deriving DecidableEq, Repr

/-- `CBlockIndex`: the block's hash, height, and time (`GetBlockTime`). -/
structure CBlockIndex where
  phashBlock : Uint256
  nHeight : Nat
  nTime : Nat
  deriving DecidableEq, Repr

/-- What the handlers read of the node under `cs_main`. -/
structure ChainState where
  mapBlockIndex : Uint256 → Option CBlockIndex
  chainActive : List CBlockIndex
  readBlockFromDisk : CBlockIndex → Option CBlock
  coinsHeight : Uint256 → Option Int
  getTransaction : Uint256 → Option Uint256

def ChainState.height (chain : ChainState) : Int := chain.chainActive.length - 1

/-- `CChain::Contains`: the active chain holds the index at its height. -/
def ChainState.contains (chain : ChainState) (pindex : CBlockIndex) : Bool :=
  decide (chain.chainActive[pindex.nHeight]? = some pindex)

end ZendRawTx
