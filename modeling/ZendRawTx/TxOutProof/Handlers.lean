import Mathlib.Data.List.Nodup
import ZendRawTx.Merkle.Extract
import ZendRawTx.Merkle.Serialize

/-!
# `gettxoutproof` and `verifytxoutproof`

The double SHA-256 of two nodes and the hash of a header are parameters, and the node is what
the handlers read of it.
-/

namespace ZendRawTx

set_option autoImplicit false

/-- One round of `gettxoutproof`'s loop over the requested txids. -/
def addTxid (setTxids : List Uint256) (txid : UniValue) : Except RPCError (List Uint256) := do
  let s ← txid.getStr
  if s.length ≠ 64 ∨ isHex s = false then
    throw (.jsonRPCError .rpcInvalidParameter ("Invalid txid " ++ s))
  let hash := uint256S s
  if hash ∈ setTxids then
    throw (.jsonRPCError .rpcInvalidParameter ("Invalid parameter, duplicated txid: " ++ s))
  pure (setTxids ++ [hash])

/-- The block index `gettxoutproof` reads: by `blockhash`, by the coins, or by the txindex. -/
def findBlockIndex (chain : ChainState) (oneTxid : Uint256) (blockhash : Option UniValue) :
    Except RPCError CBlockIndex := do
  let pblockindex ← match blockhash with
    | some v => do
      let hashBlock := uint256S (← v.getStr)
      match chain.mapBlockIndex hashBlock with
      | some pindex => pure (some pindex)
      | none => throw (.jsonRPCError .rpcInvalidAddressOrKey "Block not found")
    | none => pure <| match chain.coinsHeight oneTxid with
      | some nHeight =>
        if 0 < nHeight ∧ nHeight ≤ chain.height then chain.chainActive[nHeight.toNat]? else none
      | none => none
  match pblockindex with
  | some pindex => pure pindex
  | none =>
    match chain.getTransaction oneTxid with
    | some hashBlock =>
      if hashBlock = 0 then
        throw (.jsonRPCError .rpcInvalidAddressOrKey "Transaction not yet in block")
      else match chain.mapBlockIndex hashBlock with
        | some pindex => pure pindex
        | none => throw (.jsonRPCError .rpcInternalError "Transaction index corrupt")
    | none => throw (.jsonRPCError .rpcInvalidAddressOrKey "Transaction not yet in block")

/-- The end of `gettxoutproof` once the block is read: `ntxFound`, then the proof. -/
def txOutProofOfBlock (hash : Uint256 → Uint256 → Uint256) (setTxids : List Uint256)
    (block : CBlock) : Except RPCError CMerkleBlockWire :=
  if block.vtx.countP (fun h => decide (h ∈ setTxids)) ≠ setTxids.length then
    .error (.jsonRPCError .rpcInvalidAddressOrKey
      "(Not all) transactions not found in specified block")
  else if block.vtx = [] then
    .error (.undefinedBehaviour "CalcHash reads vTxid[0] of a block with no transaction")
  else .ok (CMerkleBlock.ofBlock hash block setTxids).serialize

def gettxoutproof (hash : Uint256 → Uint256 → Uint256) (chain : ChainState) (txids : UniValue)
    (blockhash : Option UniValue) : Except RPCError CMerkleBlockWire := do
  let setTxids ← (← txids.getArray).foldlM addTxid []
  let pblockindex ← findBlockIndex chain (setTxids.getLastD 0) blockhash
  match chain.readBlockFromDisk pblockindex with
  | some block => txOutProofOfBlock hash setTxids block
  | none => .error (.jsonRPCError .rpcInternalError "Can't read block from disk")

def verifytxoutproof (hash : Uint256 → Uint256 → Uint256) (getHash : CBlockHeader → Uint256)
    (chain : ChainState) (proof : CMerkleBlockWire) : Except RPCError (List String) :=
  let merkleBlock := proof.deserialize
  let extracted := merkleBlock.txn.extractMatches hash
  if extracted.1 ≠ merkleBlock.header.hashMerkleRoot then pure []
  else match chain.mapBlockIndex (getHash merkleBlock.header) with
    | some pindex =>
      if chain.contains pindex then pure (extracted.2.map getHex)
      else throw (.jsonRPCError .rpcInvalidAddressOrKey "Block not found in chain")
    | none => throw (.jsonRPCError .rpcInvalidAddressOrKey "Block not found in chain")

theorem addTxid_eq_ok {setTxids r : List Uint256} {txid : UniValue} :
    addTxid setTxids txid = .ok r ↔
      ∃ s, txid = .str s ∧ s.length = 64 ∧ isHex s = true ∧ uint256S s ∉ setTxids ∧
        r = setTxids ++ [uint256S s] := by
  cases txid with
  | str s =>
    simp only [addTxid, UniValue.getStr, bind, Except.bind, UniValue.str.injEq, exists_eq_left']
    by_cases hbad : s.length ≠ 64 ∨ isHex s = false
    · simp only [hbad, if_true]
      constructor
      · intro h; cases h
      · rintro ⟨hlen, hhex, -⟩; simp_all
    · simp only [hbad, if_false]
      by_cases hdup : uint256S s ∈ setTxids
      · simp [hdup, throw, throwThe, MonadExceptOf.throw, pure, Except.pure]
      · simp only [not_or, Bool.not_eq_false, ne_eq, not_not] at hbad
        simp [hdup, hbad, pure, Except.pure, eq_comm]
  | _ => simp [addTxid, UniValue.getStr, bind, Except.bind]

theorem foldlM_addTxid_eq_ok (vs : List UniValue) :
    ∀ acc r : List Uint256, acc.Nodup →
      (vs.foldlM addTxid acc = .ok r ↔
        ∃ strs : List String, vs = strs.map .str ∧ (∀ s ∈ strs, s.length = 64 ∧ isHex s = true) ∧
          (acc ++ strs.map uint256S).Nodup ∧ r = acc ++ strs.map uint256S) := by
  induction vs with
  | nil =>
    intro acc r _
    simp only [List.foldlM_nil, pure, Except.pure, Except.ok.injEq]
    constructor
    · rintro rfl; exact ⟨[], rfl, by simp, by simpa, by simp⟩
    · rintro ⟨strs, hstrs, -, -, rfl⟩
      rw [List.eq_nil_of_map_eq_nil hstrs.symm]; simp
  | cons v vs ih =>
    intro acc r hacc
    have hacc' : ∀ s, uint256S s ∉ acc → (acc ++ [uint256S s]).Nodup := fun s hfresh => by
      simpa using hacc.concat hfresh
    rw [List.foldlM_cons, bind_eq_ok]
    constructor
    · rintro ⟨acc', hstep, hrest⟩
      obtain ⟨s, rfl, hlen, hhex, hfresh, rfl⟩ := addTxid_eq_ok.mp hstep
      obtain ⟨strs, rfl, hvalid, hnodup, rfl⟩ := (ih _ r (hacc' s hfresh)).mp hrest
      refine ⟨s :: strs, rfl, ?_, by simpa using hnodup, by simp⟩
      simp only [List.mem_cons, forall_eq_or_imp]
      exact ⟨⟨hlen, hhex⟩, hvalid⟩
    · rintro ⟨_ | ⟨s, strs⟩, hvs, hvalid, hnodup, rfl⟩
      · cases hvs
      · simp only [List.map_cons, List.cons.injEq] at hvs
        obtain ⟨rfl, rfl⟩ := hvs
        have hfresh : uint256S s ∉ acc := by
          intro hmem
          exact (List.nodup_append.mp hnodup).2.2 hmem (List.mem_cons_self _ _)
        refine ⟨acc ++ [uint256S s], addTxid_eq_ok.mpr ⟨s, rfl, (hvalid s (by simp)).1,
          (hvalid s (by simp)).2, hfresh, rfl⟩, (ih _ _ (hacc' s hfresh)).mpr ⟨strs, rfl,
          fun t ht => hvalid t (by simp [ht]), by simpa using hnodup, by simp⟩⟩

theorem verifytxoutproof_eq_ok {hash : Uint256 → Uint256 → Uint256}
    {getHash : CBlockHeader → Uint256} {chain : ChainState} {proof : CMerkleBlockWire}
    {res : List String} :
    verifytxoutproof hash getHash chain proof = .ok res ↔
      ((proof.deserialize.txn.extractMatches hash).1 ≠ proof.header.hashMerkleRoot ∧ res = []) ∨
      ((proof.deserialize.txn.extractMatches hash).1 = proof.header.hashMerkleRoot ∧
        ∃ pindex, chain.mapBlockIndex (getHash proof.header) = some pindex ∧
          chain.contains pindex = true ∧
          res = (proof.deserialize.txn.extractMatches hash).2.map getHex) := by
  unfold verifytxoutproof
  by_cases hroot : (proof.deserialize.txn.extractMatches hash).1 = proof.header.hashMerkleRoot
  · simp only [CMerkleBlockWire.deserialize] at hroot ⊢
    rw [if_neg (not_not.mpr hroot)]
    cases hidx : chain.mapBlockIndex (getHash proof.header) with
    | none => simp [throw, throwThe, MonadExceptOf.throw, hroot]
    | some pindex =>
      simp only [hroot, ne_eq, not_true_eq_false, false_and, false_or, true_and,
        Option.some.injEq, exists_eq_left']
      split
      · rename_i hin
        simp only [pure, Except.pure, Except.ok.injEq, hin, true_and]
        exact eq_comm
      · rename_i hin
        simp [throw, throwThe, MonadExceptOf.throw, hin]
  · simp only [CMerkleBlockWire.deserialize] at hroot ⊢
    rw [if_pos hroot]
    simp only [pure, Except.pure, Except.ok.injEq, hroot, ne_eq, not_false_eq_true, true_and,
      false_and, or_false]
    exact eq_comm

theorem findBlockIndex_of_blockhash {chain : ChainState} {oneTxid : Uint256} {s : String}
    {pindex : CBlockIndex} (h : chain.mapBlockIndex (uint256S s) = some pindex) :
    findBlockIndex chain oneTxid (some (.str s)) = .ok pindex := by
  simp [findBlockIndex, UniValue.getStr, h, bind, Except.bind, pure, Except.pure]

theorem txOutProofOfBlock_eq_ok {hash : Uint256 → Uint256 → Uint256} {setTxids : List Uint256}
    {block : CBlock} {proof : CMerkleBlockWire} :
    txOutProofOfBlock hash setTxids block = .ok proof ↔
      block.vtx.countP (fun h => decide (h ∈ setTxids)) = setTxids.length ∧ block.vtx ≠ [] ∧
        proof = (CMerkleBlock.ofBlock hash block setTxids).serialize := by
  unfold txOutProofOfBlock
  split_ifs <;> simp_all [eq_comm]

theorem gettxoutproof_eq_ok {hash : Uint256 → Uint256 → Uint256} {chain : ChainState}
    {txids : UniValue} {blockhash : Option UniValue} {proof : CMerkleBlockWire} :
    gettxoutproof hash chain txids blockhash = .ok proof ↔
      ∃ strs : List String, txids = .arr (strs.map .str) ∧
        (∀ s ∈ strs, s.length = 64 ∧ isHex s = true) ∧ (strs.map uint256S).Nodup ∧
        ∃ pindex block, findBlockIndex chain ((strs.map uint256S).getLastD 0) blockhash = .ok pindex ∧
          chain.readBlockFromDisk pindex = some block ∧
          txOutProofOfBlock hash (strs.map uint256S) block = .ok proof := by
  cases txids with
  | arr vs =>
    simp only [gettxoutproof, UniValue.getArray, bind_eq_ok, Except.ok.injEq, exists_eq_left',
      foldlM_addTxid_eq_ok vs [] _ List.nodup_nil, List.nil_append, UniValue.arr.injEq]
    constructor
    · rintro ⟨_, ⟨strs, rfl, hvalid, hnodup, rfl⟩, pindex, hfind, hread⟩
      split at hread
      · exact ⟨strs, rfl, hvalid, hnodup, pindex, _, hfind, by assumption, hread⟩
      · cases hread
    · rintro ⟨strs, rfl, hvalid, hnodup, pindex, block, hfind, hdisk, hproof⟩
      exact ⟨_, ⟨strs, rfl, hvalid, hnodup, rfl⟩, pindex, hfind, by rw [hdisk]; exact hproof⟩
  | _ => exact iff_of_false (fun h => nomatch h) fun ⟨_, h, _⟩ => nomatch h

end ZendRawTx
