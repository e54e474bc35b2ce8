import Mathlib.Data.List.Nodup
import ZendRawTx.TxOutProof.Handlers

/-!
# Proofs of inclusion, built and checked

A proof `gettxoutproof` builds for distinct txids of a block on the active chain verifies to
exactly those txids, in block order. `ntxFound` counts block entries, so a block listing a
transaction twice can stand in for a requested id it lacks; `verifytxoutproof` takes the leaf
count from the proof, so a one-leaf proof of any active block's root verifies.
-/

namespace ZendRawTx

set_option autoImplicit false

theorem filter_range_getD_map {α : Type} [Inhabited α] (l : List α) (f : α → Bool) :
    ((List.range l.length).filter fun p => (l.map f).getD p false).map (fun p => l.getD p default) =
      l.filter f := by
  induction l with
  | nil => rfl
  | cons x l ih =>
    rw [List.length_cons, List.range_succ_eq_map, List.filter_cons]
    simp only [List.filter_map, Function.comp_def, List.map_cons, List.getD_cons_succ,
      List.getD_cons_zero]
    split <;> simp only [List.map_cons, List.map_map, Function.comp_def, List.getD_cons_succ,
      List.getD_cons_zero, ih, List.filter_cons, *, if_true, if_false, Bool.false_eq_true]

theorem extractMatches_serialize_ofBlock (hash : Uint256 → Uint256 → Uint256) (block : CBlock)
    (txids : List Uint256) (hne : block.vtx ≠ []) :
    (CMerkleBlock.ofBlock hash block txids).serialize.deserialize.txn.extractMatches hash =
      (merkleRoot hash block.vtx, block.vtx.filter fun h => decide (h ∈ txids)) := by
  have hpos : 0 < block.vtx.length := List.length_pos.mpr hne
  have hread : (CMerkleBlock.ofBlock hash block txids).serialize.deserialize.txn =
      { CPartialMerkleTree.ofTxids hash block.vtx (block.vtx.map fun h => decide (h ∈ txids)) with
        vBits := (CPartialMerkleTree.ofTxids hash block.vtx
            (block.vtx.map fun h => decide (h ∈ txids))).vBits ++
          List.replicate (((CPartialMerkleTree.ofTxids hash block.vtx
            (block.vtx.map fun h => decide (h ∈ txids))).vBits.length + 7) / 8 * 8 -
              (CPartialMerkleTree.ofTxids hash block.vtx
                (block.vtx.map fun h => decide (h ∈ txids))).vBits.length) false } := by
    simp only [CMerkleBlock.serialize, CMerkleBlockWire.deserialize, CMerkleBlock.ofBlock,
      unpackBits_packBits]
  rw [hread, extractMatches_ofTxids hash _ _ hpos _ (by simp only [List.length_replicate]; omega),
    filter_range_getD_map]

theorem perm_filter_mem {vtx ids : List Uint256} (hvtx : vtx.Nodup) (hids : ids.Nodup)
    (hsub : ∀ h ∈ ids, h ∈ vtx) : (vtx.filter fun h => decide (h ∈ ids)).Perm ids :=
  (List.perm_ext_iff_of_nodup (hvtx.filter _) hids).mpr fun h => by
    simp only [List.mem_filter, decide_eq_true_eq]
    exact ⟨And.right, fun hh => ⟨hsub h hh, hh⟩⟩

theorem mem_of_countP_eq_length {vtx ids : List Uint256} (hvtx : vtx.Nodup)
    (hcount : vtx.countP (fun h => decide (h ∈ ids)) = ids.length) : ∀ h ∈ ids, h ∈ vtx := by
  have hsub : (vtx.filter fun h => decide (h ∈ ids)).Subperm ids :=
    List.subperm_of_subset (hvtx.filter _) fun h hh => by simpa using (List.mem_filter.mp hh).2
  have hperm := hsub.perm_of_length_le (by rw [← List.countP_eq_length_filter, hcount])
  exact fun h hh => (List.mem_filter.mp (hperm.mem_iff.mpr hh)).1

theorem gettxoutproof_of_blockhash (hash : Uint256 → Uint256 → Uint256) (chain : ChainState)
    (block : CBlock) (pindex : CBlockIndex) (strs : List String) (s : String)
    (hindex : chain.mapBlockIndex (uint256S s) = some pindex)
    (hdisk : chain.readBlockFromDisk pindex = some block)
    (hhex : ∀ t ∈ strs, t.length = 64 ∧ isHex t = true) (hnodup : (strs.map uint256S).Nodup)
    (hcount : block.vtx.countP (fun h => decide (h ∈ strs.map uint256S)) = strs.length)
    (hne : block.vtx ≠ []) :
    gettxoutproof hash chain (.arr (strs.map .str)) (some (.str s)) =
      .ok (CMerkleBlock.ofBlock hash block (strs.map uint256S)).serialize :=
  gettxoutproof_eq_ok.mpr ⟨strs, rfl, hhex, hnodup, pindex, block, findBlockIndex_of_blockhash hindex,
    hdisk, txOutProofOfBlock_eq_ok.mpr ⟨by rw [List.length_map]; exact hcount, hne, rfl⟩⟩

theorem verifytxoutproof_returns_the_requested_txids (hash : Uint256 → Uint256 → Uint256)
    (getHash : CBlockHeader → Uint256) (chain : ChainState) (pindex : CBlockIndex)
    (block : CBlock) (hindex : chain.mapBlockIndex (getHash block.header) = some pindex)
    (hactive : chain.contains pindex = true) (hdisk : chain.readBlockFromDisk pindex = some block)
    (hroot : block.header.hashMerkleRoot = merkleRoot hash block.vtx) (hnodup : block.vtx.Nodup)
    (strs : List String) (hne : strs ≠ []) (hhex : ∀ s ∈ strs, s.length = 64 ∧ isHex s = true)
    (hin : ∀ s ∈ strs, uint256S s ∈ block.vtx) (hdistinct : (strs.map uint256S).Nodup)
    (blockhash : String) (hblockhash : uint256S blockhash = getHash block.header) :
    ∃ proof, gettxoutproof hash chain (.arr (strs.map .str)) (some (.str blockhash)) = .ok proof ∧
      verifytxoutproof hash getHash chain proof =
        .ok ((block.vtx.filter fun h => decide (h ∈ strs.map uint256S)).map getHex) ∧
      (block.vtx.filter fun h => decide (h ∈ strs.map uint256S)).Perm (strs.map uint256S) := by
  have hperm := perm_filter_mem hnodup hdistinct (by simpa using hin)
  have hvtx : block.vtx ≠ [] := by
    obtain ⟨s, hs⟩ := List.exists_mem_of_ne_nil strs hne
    exact List.ne_nil_of_mem (hin s hs)
  refine ⟨(CMerkleBlock.ofBlock hash block (strs.map uint256S)).serialize, ?_, ?_, hperm⟩
  · refine gettxoutproof_of_blockhash hash chain block pindex strs blockhash
      (hblockhash ▸ hindex) hdisk hhex hdistinct ?_ hvtx
    rw [List.countP_eq_length_filter, hperm.length_eq, List.length_map]
  · rw [verifytxoutproof_eq_ok, extractMatches_serialize_ofBlock hash block _ hvtx]
    exact .inr ⟨hroot.symm, pindex, hindex, hactive, rfl⟩

/-- A stand-in for the double SHA-256 of two nodes. -/
def sampleNodeHash (left right : Uint256) : Uint256 := left + 2 * right + 7

def sampleHeaderHash (header : CBlockHeader) : Uint256 := header.hashMerkleRoot + 1

/-- A node whose active chain is one block, the genesis. -/
def singleBlockChain (block : CBlock) : ChainState where
  mapBlockIndex h := if h = sampleHeaderHash block.header then some ⟨h, 0, 0⟩ else none
  chainActive := [⟨sampleHeaderHash block.header, 0, 0⟩]
  readBlockFromDisk pindex :=
    if pindex = ⟨sampleHeaderHash block.header, 0, 0⟩ then some block else none
  coinsHeight _ := none
  getTransaction _ := none

/-- A block of the transactions `1` and `2`, its header committing to their root. -/
def pairBlock : CBlock := ⟨⟨sampleNodeHash 1 2, []⟩, [1, 2]⟩

def txidOneHex : String := "0000000000000000000000000000000000000000000000000000000000000001"
def txidTwoHex : String := "0000000000000000000000000000000000000000000000000000000000000002"
def pairBlockHashHex : String := "000000000000000000000000000000000000000000000000000000000000000d"

theorem verifytxoutproof_returns_the_requested_txids_of_pairBlock :
    ∃ proof, gettxoutproof sampleNodeHash (singleBlockChain pairBlock)
        (.arr ([txidOneHex, txidTwoHex].map .str)) (some (.str pairBlockHashHex)) = .ok proof ∧
      verifytxoutproof sampleNodeHash sampleHeaderHash (singleBlockChain pairBlock) proof =
        .ok ((pairBlock.vtx.filter fun h => decide (h ∈ [txidOneHex, txidTwoHex].map uint256S)).map
          getHex) ∧
      (pairBlock.vtx.filter fun h => decide (h ∈ [txidOneHex, txidTwoHex].map uint256S)).Perm
        ([txidOneHex, txidTwoHex].map uint256S) :=
  verifytxoutproof_returns_the_requested_txids sampleNodeHash sampleHeaderHash
    (singleBlockChain pairBlock) ⟨sampleHeaderHash pairBlock.header, 0, 0⟩ pairBlock rfl rfl rfl rfl
    (by decide) [txidOneHex, txidTwoHex] (by decide) (by decide) (by decide) (by decide)
    pairBlockHashHex (by decide)

theorem gettxoutproof_ok_counts_the_requested_txids (hash : Uint256 → Uint256 → Uint256)
    (chain : ChainState) (txids : UniValue) (blockhash : Option UniValue)
    (proof : CMerkleBlockWire) (h : gettxoutproof hash chain txids blockhash = .ok proof) :
    ∃ strs : List String, txids = .arr (strs.map .str) ∧
      (∀ s ∈ strs, s.length = 64 ∧ isHex s = true) ∧ (strs.map uint256S).Nodup ∧
      ∃ pindex block, findBlockIndex chain ((strs.map uint256S).getLastD 0) blockhash = .ok pindex ∧
        chain.readBlockFromDisk pindex = some block ∧
        block.vtx.countP (fun h => decide (h ∈ strs.map uint256S)) = strs.length ∧
        proof = (CMerkleBlock.ofBlock hash block (strs.map uint256S)).serialize ∧
        (block.vtx.Nodup → ∀ s ∈ strs, uint256S s ∈ block.vtx) := by
  obtain ⟨strs, htxids, hhex, hnodup, pindex, block, hfind, hdisk, hproof⟩ :=
    gettxoutproof_eq_ok.mp h
  obtain ⟨hcount, -, rfl⟩ := txOutProofOfBlock_eq_ok.mp hproof
  rw [List.length_map] at hcount
  refine ⟨strs, htxids, hhex, hnodup, pindex, block, hfind, hdisk, hcount, rfl,
    fun hvtx s hs => ?_⟩
  exact mem_of_countP_eq_length hvtx (by rw [hcount, List.length_map]) _
    (List.mem_map_of_mem _ hs)

theorem gettxoutproof_ok_counts_the_requested_txids_of_pairBlock :
    gettxoutproof sampleNodeHash (singleBlockChain pairBlock) (.arr [.str txidOneHex])
        (some (.str pairBlockHashHex)) =
      .ok (CMerkleBlock.ofBlock sampleNodeHash pairBlock [1]).serialize ∧
    ∃ strs : List String, UniValue.arr [.str txidOneHex] = .arr (strs.map .str) ∧
      (∀ s ∈ strs, s.length = 64 ∧ isHex s = true) ∧ (strs.map uint256S).Nodup ∧
      ∃ pindex block, findBlockIndex (singleBlockChain pairBlock) ((strs.map uint256S).getLastD 0)
          (some (.str pairBlockHashHex)) = .ok pindex ∧
        (singleBlockChain pairBlock).readBlockFromDisk pindex = some block ∧
        block.vtx.countP (fun h => decide (h ∈ strs.map uint256S)) = strs.length ∧
        (CMerkleBlock.ofBlock sampleNodeHash pairBlock [1]).serialize =
          (CMerkleBlock.ofBlock sampleNodeHash block (strs.map uint256S)).serialize ∧
        (block.vtx.Nodup → ∀ s ∈ strs, uint256S s ∈ block.vtx) :=
  have hproof := gettxoutproof_of_blockhash sampleNodeHash (singleBlockChain pairBlock) pairBlock
    ⟨sampleHeaderHash pairBlock.header, 0, 0⟩ [txidOneHex] pairBlockHashHex (by decide) rfl
    (by decide) (by decide) (by decide) (by decide)
  ⟨hproof, gettxoutproof_ok_counts_the_requested_txids _ _ _ _ _ hproof⟩

/-- A coinbase `3` and the transactions `1`, `2`, `1`: no level ends with two equal hashes. -/
def repeatedTxBlock : CBlock := ⟨⟨merkleRoot sampleNodeHash [3, 1, 2, 1], []⟩, [3, 1, 2, 1]⟩

def repeatedTxBlockHashHex : String :=
  "000000000000000000000000000000000000000000000000000000000000002a"
def txidFourHex : String := "0000000000000000000000000000000000000000000000000000000000000004"

/-- A node that keeps `block` indexed and on disk off its active chain. -/
def storedBlockNode (block : CBlock) : ChainState := { singleBlockChain block with chainActive := [] }

theorem gettxoutproof_accepts_a_txid_missing_from_the_block :
    repeatedTxBlock.header.hashMerkleRoot = merkleRoot sampleNodeHash repeatedTxBlock.vtx ∧
      merkleMutated sampleNodeHash repeatedTxBlock.vtx = false ∧
      gettxoutproof sampleNodeHash (storedBlockNode repeatedTxBlock)
          (.arr [.str txidOneHex, .str txidFourHex]) (some (.str repeatedTxBlockHashHex)) =
        .ok (CMerkleBlock.ofBlock sampleNodeHash repeatedTxBlock [1, 4]).serialize ∧
      uint256S txidFourHex ∉ repeatedTxBlock.vtx :=
  ⟨rfl, by decide, gettxoutproof_of_blockhash sampleNodeHash _ repeatedTxBlock
    ⟨sampleHeaderHash repeatedTxBlock.header, 0, 0⟩ [txidOneHex, txidFourHex] _ (by decide) rfl
    (by decide) (by decide) (by decide) (by decide), by decide⟩

theorem verifytxoutproof_one_leaf (hash : Uint256 → Uint256 → Uint256)
    (getHash : CBlockHeader → Uint256) (chain : ChainState) (header : CBlockHeader)
    (pindex : CBlockIndex) (hindex : chain.mapBlockIndex (getHash header) = some pindex)
    (hactive : chain.contains pindex = true) :
    verifytxoutproof hash getHash chain ⟨header, 1, [header.hashMerkleRoot], [1]⟩ =
      .ok [getHex header.hashMerkleRoot] := by
  have hextract : (CMerkleBlockWire.deserialize
      ⟨header, 1, [header.hashMerkleRoot], [1]⟩).txn.extractMatches hash =
        (header.hashMerkleRoot, [header.hashMerkleRoot]) := by
    have hbits : unpackBits [1] = [true, false, false, false, false, false, false, false] := rfl
    simp [CMerkleBlockWire.deserialize, hbits, CPartialMerkleTree.extractMatches,
      traverseAndExtract, useStoredHash, treeHeight, treeHeightFrom, calcTreeWidth]
  rw [verifytxoutproof_eq_ok, hextract]
  exact .inr ⟨rfl, pindex, hindex, hactive, rfl⟩

theorem verifytxoutproof_returns_an_id_outside_the_block :
    (∀ pindex ∈ (singleBlockChain pairBlock).chainActive, ∀ block,
        (singleBlockChain pairBlock).readBlockFromDisk pindex = some block →
          block.header.hashMerkleRoot = merkleRoot sampleNodeHash block.vtx) ∧
    verifytxoutproof sampleNodeHash sampleHeaderHash (singleBlockChain pairBlock)
        ⟨pairBlock.header, 1, [pairBlock.header.hashMerkleRoot], [1]⟩ =
      .ok [getHex pairBlock.header.hashMerkleRoot] ∧
    getHex pairBlock.header.hashMerkleRoot ∉ pairBlock.vtx.map getHex := by
  refine ⟨fun pindex _ block hblock => ?_,
    verifytxoutproof_one_leaf _ _ _ _ ⟨sampleHeaderHash pairBlock.header, 0, 0⟩ rfl rfl, by decide⟩
  simp only [singleBlockChain] at hblock
  split at hblock
  · cases hblock; rfl
  · cases hblock

end ZendRawTx
