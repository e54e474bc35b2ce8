import Mathlib.Data.List.Basic
import Mathlib.Data.Nat.Bits

/-!
# Partial Merkle trees

`CPartialMerkleTree` and `CBlock::BuildMerkleTree` are outside the sources and modelled from
the spec. The bound `nTransactions <= MAX_BLOCK_SIZE / 60` of `ExtractMatches` and its check
that two children differ are left out.
-/
namespace ZendRawTx

set_option autoImplicit false

section Tree

variable {H : Type} [Inhabited H] (hash : H → H → H)

/-- Modelled from the spec: `CalcTreeWidth`, the width of level `height`. -/
def calcTreeWidth (nTransactions height : Nat) : Nat :=
  (nTransactions + 2 ^ height - 1) / 2 ^ height

/-- Modelled from the spec: `while (CalcTreeWidth(nHeight) > 1) nHeight++`, `fuel` rounds. -/
def treeHeightFrom (nTransactions : Nat) : Nat → Nat → Nat
  | 0, height => height
  | fuel + 1, height =>
    if 1 < calcTreeWidth nTransactions height then treeHeightFrom nTransactions fuel (height + 1)
    else height

def treeHeight (nTransactions : Nat) : Nat := treeHeightFrom nTransactions nTransactions 0

/-- Modelled from the spec: `CalcHash`; a node with no right child is hashed with itself. -/
def calcHash (vTxid : List H) : Nat → Nat → H
  | 0, pos => vTxid.getD pos default
  | height + 1, pos =>
    hash (calcHash vTxid height (2 * pos))
      (if 2 * pos + 1 < calcTreeWidth vTxid.length height then calcHash vTxid height (2 * pos + 1)
        else calcHash vTxid height (2 * pos))

/-- Modelled from the spec: one round of `BuildMerkleTree`. -/
def merkleLevelUp (level : List H) : List H :=
  (List.range ((level.length + 1) / 2)).map fun p =>
    hash (level.getD (2 * p) default) (level.getD (min (2 * p + 1) (level.length - 1)) default)

def merkleRootFrom : Nat → List H → H
  | 0, level => level.headD default
  | fuel + 1, level =>
    if level.length ≤ 1 then level.headD default else merkleRootFrom fuel (merkleLevelUp hash level)

/-- Modelled from the spec: the root `BuildMerkleTree` computes over a block's ids. -/
def merkleRoot (vtx : List H) : H := merkleRootFrom hash vtx.length vtx

/-- `BuildMerkleTree`'s `mutated` flag: a level of even width ends with two equal hashes. -/
def merkleMutatedFrom [DecidableEq H] : Nat → List H → Bool
  | 0, _ => false
  | fuel + 1, level =>
    if level.length ≤ 1 then false
    else decide (level.length % 2 = 0 ∧
        level.getD (level.length - 2) default = level.getD (level.length - 1) default) ||
      merkleMutatedFrom fuel (merkleLevelUp hash level)

def merkleMutated [DecidableEq H] (vtx : List H) : Bool := merkleMutatedFrom hash vtx.length vtx

def leafMatched (vMatch : List Bool) (nTransactions p : Nat) : Bool :=
  p < nTransactions && vMatch.getD p false

/-- `fParentOfMatch`: some leaf below node `pos` at `height` is matched. -/
def parentOfMatch (vMatch : List Bool) (nTransactions height pos : Nat) : Bool :=
  (List.range' (pos * 2 ^ height) (2 ^ height)).any (leafMatched vMatch nTransactions)

/-- Modelled from the spec: `TraverseAndBuild`, the bits and hashes emitted below a node. -/
def traverseAndBuild (vTxid : List H) (vMatch : List Bool) : Nat → Nat → List Bool × List H
  | 0, pos => ([parentOfMatch vMatch vTxid.length 0 pos], [calcHash hash vTxid 0 pos])
  | height + 1, pos =>
    if parentOfMatch vMatch vTxid.length (height + 1) pos then
      let left := traverseAndBuild vTxid vMatch height (2 * pos)
      let right := if 2 * pos + 1 < calcTreeWidth vTxid.length height then
          traverseAndBuild vTxid vMatch height (2 * pos + 1)
        else ([], [])
      (true :: (left.1 ++ right.1), left.2 ++ right.2)
    else ([false], [calcHash hash vTxid (height + 1) pos])

structure CPartialMerkleTree (H : Type) where
  nTransactions : Nat
  vBits : List Bool
  vHash : List H
  deriving DecidableEq, Repr

/-- Modelled from the spec: the constructor `CPartialMerkleTree(vTxid, vMatch)`. -/
def CPartialMerkleTree.ofTxids (vTxid : List H) (vMatch : List Bool) : CPartialMerkleTree H :=
  let built := traverseAndBuild hash vTxid vMatch (treeHeight vTxid.length) 0
  ⟨vTxid.length, built.1, built.2⟩

/-- The counters `TraverseAndExtract` threads through the walk. -/
structure ExtractState (H : Type) where
  nBitsUsed : Nat
  nHashUsed : Nat
  vMatch : List H
  fBad : Bool
  deriving DecidableEq, Repr

def useStoredHash (vHash : List H) (matched : Bool) (st : ExtractState H) : H × ExtractState H :=
  if vHash.length ≤ st.nHashUsed then (default, { st with fBad := true })
  else
    let h := vHash.getD st.nHashUsed default
    (h, { st with
      nHashUsed := st.nHashUsed + 1
      vMatch := if matched then st.vMatch ++ [h] else st.vMatch })

/-- Modelled from the spec: `TraverseAndExtract`; a bad walk goes on and is rejected at its end. -/
def traverseAndExtract (vBits : List Bool) (vHash : List H) (nTransactions : Nat) :
    Nat → Nat → ExtractState H → H × ExtractState H
  | 0, _, st =>
    if vBits.length ≤ st.nBitsUsed then (default, { st with fBad := true })
    else useStoredHash vHash (vBits.getD st.nBitsUsed false) { st with nBitsUsed := st.nBitsUsed + 1 }
  | height + 1, pos, st =>
    if vBits.length ≤ st.nBitsUsed then (default, { st with fBad := true })
    else if vBits.getD st.nBitsUsed false then
      let left := traverseAndExtract vBits vHash nTransactions height (2 * pos)
        { st with nBitsUsed := st.nBitsUsed + 1 }
      if 2 * pos + 1 < calcTreeWidth nTransactions height then
        let right := traverseAndExtract vBits vHash nTransactions height (2 * pos + 1) left.2
        (hash left.1 right.1, right.2)
      else (hash left.1 left.1, left.2)
    else useStoredHash vHash false { st with nBitsUsed := st.nBitsUsed + 1 }

/-- Modelled from the spec: `ExtractMatches`, the root (null when malformed) and the matches. -/
def CPartialMerkleTree.extractMatches (pmt : CPartialMerkleTree H) : H × List H :=
  if pmt.nTransactions = 0 ∨ pmt.nTransactions < pmt.vHash.length ∨
      pmt.vBits.length < pmt.vHash.length then (default, [])
  else
    let walk := traverseAndExtract hash pmt.vBits pmt.vHash pmt.nTransactions
      (treeHeight pmt.nTransactions) 0 ⟨0, 0, [], false⟩
    if walk.2.fBad ∨ (walk.2.nBitsUsed + 7) / 8 ≠ (pmt.vBits.length + 7) / 8 ∨
        walk.2.nHashUsed ≠ pmt.vHash.length then (default, walk.2.vMatch)
    else (walk.1, walk.2.vMatch)

theorem getD_map_range {α : Type} (f : Nat → α) {w i : Nat} (hi : i < w) (d : α) :
    ((List.range w).map f).getD i d = f i := by
  simp [List.getD_eq_getElem?_getD, hi]

@[simp] theorem calcTreeWidth_zero (n : Nat) : calcTreeWidth n 0 = n := by
  simp [calcTreeWidth]

theorem calcTreeWidth_succ (n h : Nat) :
    calcTreeWidth n (h + 1) = (calcTreeWidth n h + 1) / 2 := by
  have hm : 0 < 2 ^ h := Nat.two_pow_pos h
  unfold calcTreeWidth
  rw [Nat.pow_succ, ← Nat.div_div_eq_div_mul,
    show n + 2 ^ h * 2 - 1 = (n + 2 ^ h - 1) + 1 * 2 ^ h by omega, Nat.add_mul_div_right _ _ hm]

theorem calcTreeWidth_le_one_iff (n h : Nat) : calcTreeWidth n h ≤ 1 ↔ n ≤ 2 ^ h := by
  have hm : 0 < 2 ^ h := Nat.two_pow_pos h
  rw [calcTreeWidth, ← Nat.lt_succ_iff, Nat.div_lt_iff_lt_mul hm]
  omega

theorem one_le_calcTreeWidth {n : Nat} (hn : 0 < n) (h : Nat) : 1 ≤ calcTreeWidth n h := by
  have hm : 0 < 2 ^ h := Nat.two_pow_pos h
  rw [calcTreeWidth, Nat.le_div_iff_mul_le hm]
  omega

theorem two_mul_lt_calcTreeWidth {n h pos : Nat} (hpos : pos < calcTreeWidth n (h + 1)) :
    2 * pos < calcTreeWidth n h := by
  rw [calcTreeWidth_succ] at hpos
  omega

theorem treeHeightFrom_spec (n : Nat) :
    ∀ fuel height, height ≤ treeHeightFrom n fuel height ∧
      (∀ k, height ≤ k → k < treeHeightFrom n fuel height → 1 < calcTreeWidth n k) ∧
      (calcTreeWidth n (treeHeightFrom n fuel height) ≤ 1 ∨
        treeHeightFrom n fuel height = height + fuel) := by
  intro fuel
  induction fuel with
  | zero =>
    intro height
    simp only [treeHeightFrom]
    exact ⟨le_rfl, fun k hk hkr => absurd hkr (by omega), .inr rfl⟩
  | succ fuel ih =>
    intro height
    unfold treeHeightFrom
    split
    · obtain ⟨hle, hwide, hend⟩ := ih (height + 1)
      refine ⟨by omega, fun k hk hkr => ?_, by omega⟩
      rcases Nat.eq_or_lt_of_le hk with rfl | hk
      · assumption
      · exact hwide k hk hkr
    · exact ⟨Nat.le_refl _, fun k hk hkr => absurd hkr (by omega), .inl (by omega)⟩

theorem calcTreeWidth_treeHeight {n : Nat} (hn : 0 < n) : calcTreeWidth n (treeHeight n) = 1 := by
  have hone := one_le_calcTreeWidth hn (treeHeight n)
  rcases (treeHeightFrom_spec n n 0).2.2 with h | h
  · rw [treeHeight] at hone ⊢; omega
  · rw [treeHeight, h, Nat.zero_add]
    exact Nat.le_antisymm ((calcTreeWidth_le_one_iff n n).mpr (Nat.lt_two_pow n).le)
      (one_le_calcTreeWidth hn n)

theorem one_lt_calcTreeWidth_of_lt_treeHeight {n k : Nat} (hk : k < treeHeight n) :
    1 < calcTreeWidth n k :=
  (treeHeightFrom_spec n n 0).2.1 k (Nat.zero_le k) hk

theorem treeHeight_le (n : Nat) : treeHeight n ≤ n := by
  rcases (treeHeightFrom_spec n n 0).2.2 with h | h
  · by_contra hlt
    have := one_lt_calcTreeWidth_of_lt_treeHeight (Nat.lt_of_not_le hlt)
    rw [calcTreeWidth_le_one_iff] at h
    have hn : n ≤ 2 ^ n := (Nat.lt_two_pow n).le
    rw [← calcTreeWidth_le_one_iff] at hn
    omega
  · rw [treeHeight, h]; omega

end Tree

end ZendRawTx
