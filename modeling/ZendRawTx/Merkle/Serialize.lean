import Mathlib.Data.Nat.Bits
import Mathlib.Data.Nat.Bitwise
import ZendRawTx.State
import ZendRawTx.Merkle.PartialMerkleTree

/-!
# Merkle blocks on the wire

The flag bits travel as bytes, bit `p` at bit `p % 8` of byte `p / 8`; the rest of the byte
layout is not modelled.
-/

namespace ZendRawTx

set_option autoImplicit false

def bitsToNat : List Bool → Nat
  | [] => 0
  | b :: bs => Nat.bit b (bitsToNat bs)

/-- Modelled from the spec: the flag bytes `SerializationOp` writes. -/
def packBits (vBits : List Bool) : List UInt8 :=
  (List.range ((vBits.length + 7) / 8)).map fun i =>
    UInt8.ofNat (bitsToNat ((List.range 8).map fun j => vBits.getD (8 * i + j) false))

/-- Modelled from the spec: the flag bits `SerializationOp` reads, every bit of every byte. -/
def unpackBits (vBytes : List UInt8) : List Bool :=
  (List.range (vBytes.length * 8)).map fun p => (vBytes.getD (p / 8) 0).toNat.testBit (p % 8)

structure CMerkleBlock where
  header : CBlockHeader
  txn : CPartialMerkleTree Uint256
  deriving DecidableEq, Repr

/-- Modelled from the spec: `CMerkleBlock(block, txids)`. -/
def CMerkleBlock.ofBlock (hash : Uint256 → Uint256 → Uint256) (block : CBlock)
    (txids : List Uint256) : CMerkleBlock :=
  ⟨block.header, CPartialMerkleTree.ofTxids hash block.vtx (block.vtx.map fun h => decide (h ∈ txids))⟩

/-- A `CMerkleBlock` as serialized: the flag bits packed into bytes. -/
structure CMerkleBlockWire where
  header : CBlockHeader
  nTransactions : Nat
  vHash : List Uint256
  vBytes : List UInt8
  deriving DecidableEq, Repr

def CMerkleBlock.serialize (mb : CMerkleBlock) : CMerkleBlockWire :=
  ⟨mb.header, mb.txn.nTransactions, mb.txn.vHash, packBits mb.txn.vBits⟩

def CMerkleBlockWire.deserialize (w : CMerkleBlockWire) : CMerkleBlock :=
  ⟨w.header, ⟨w.nTransactions, unpackBits w.vBytes, w.vHash⟩⟩

theorem bitsToNat_lt (bs : List Bool) : bitsToNat bs < 2 ^ bs.length := by
  induction bs with
  | nil => simp [bitsToNat]
  | cons b bs ih => simpa [bitsToNat] using ih

theorem testBit_bitsToNat (bs : List Bool) (j : Nat) : (bitsToNat bs).testBit j = bs.getD j false := by
  induction bs generalizing j with
  | nil => simp [bitsToNat]
  | cons b bs ih =>
    cases j with
    | zero => simp [bitsToNat, Nat.testBit_bit_zero]
    | succ j => simp [bitsToNat, Nat.testBit_bit_succ, ih]

theorem unpackBits_packBits (vBits : List Bool) :
    unpackBits (packBits vBits) =
      vBits ++ List.replicate ((vBits.length + 7) / 8 * 8 - vBits.length) false := by
  apply List.ext_getElem (by simp [unpackBits, packBits]; omega)
  intro p hp _
  have hbyte : p / 8 < (vBits.length + 7) / 8 := by
    simp only [unpackBits, packBits, List.length_map, List.length_range] at hp
    omega
  have hbound : bitsToNat ((List.range 8).map fun j => vBits.getD (8 * (p / 8) + j) false) <
      UInt8.size := by
    simpa using bitsToNat_lt ((List.range 8).map fun j => vBits.getD (8 * (p / 8) + j) false)
  have hbit : (unpackBits (packBits vBits))[p] = vBits.getD p false := by
    simp only [unpackBits, List.getElem_map, List.getElem_range]
    rw [packBits, getD_map_range _ hbyte, UInt8.toNat_ofNat_of_lt hbound, testBit_bitsToNat,
      getD_map_range _ (Nat.mod_lt p (by omega)), Nat.div_add_mod]
  rw [hbit, List.getElem_append]
  split
  · simp [List.getD_eq_getElem?_getD, *]
  · simp [List.getD_eq_getElem?_getD, List.getElem?_eq_none (by omega : vBits.length ≤ p)]

end ZendRawTx
