import Mathlib.Tactic.Ring
import ZendRawTx.Merkle.PartialMerkleTree

/-!
# Extracting what was built

`TraverseAndExtract` replays `TraverseAndBuild`, so `ExtractMatches` accepts every tree built
over a non-empty id list and returns `BuildMerkleTree`'s root and the matched ids.
-/

namespace ZendRawTx

set_option autoImplicit false

section RoundTrip

variable {H : Type} [Inhabited H] (hash : H → H → H)

/-- The matched leaves below node `pos` at `height`, in leaf order. -/
def matchedLeaves (vTxid : List H) (vMatch : List Bool) (height pos : Nat) : List H :=
  ((List.range' (pos * 2 ^ height) (2 ^ height)).filter (leafMatched vMatch vTxid.length)).map
    fun p => vTxid.getD p default

theorem le_calcTreeWidth_mul (n h : Nat) : n ≤ calcTreeWidth n h * 2 ^ h := by
  have := Nat.lt_div_mul_add (a := n + 2 ^ h - 1) (Nat.two_pow_pos h)
  unfold calcTreeWidth
  omega

theorem mul_two_pow_lt_of_lt_calcTreeWidth {n h pos : Nat} (hpos : pos < calcTreeWidth n h) :
    pos * 2 ^ h < n := by
  have hm : 0 < 2 ^ h := Nat.two_pow_pos h
  rw [calcTreeWidth, Nat.lt_iff_add_one_le, Nat.le_div_iff_mul_le hm, Nat.succ_mul] at hpos
  omega

theorem range'_children (height pos : Nat) :
    List.range' (pos * 2 ^ (height + 1)) (2 ^ (height + 1)) =
      List.range' (2 * pos * 2 ^ height) (2 ^ height) ++
        List.range' ((2 * pos + 1) * 2 ^ height) (2 ^ height) := by
  rw [show (2 * pos + 1) * 2 ^ height = 2 * pos * 2 ^ height + 2 ^ height by ring,
    List.range'_append_1, Nat.pow_succ]
  congr 1 <;> ring

theorem parentOfMatch_zero (vMatch : List Bool) (n pos : Nat) :
    parentOfMatch vMatch n 0 pos = leafMatched vMatch n pos := by
  simp [parentOfMatch]

theorem matchedLeaves_zero (vTxid : List H) (vMatch : List Bool) (pos : Nat) :
    matchedLeaves vTxid vMatch 0 pos =
      if leafMatched vMatch vTxid.length pos then [vTxid.getD pos default] else [] := by
  simp only [matchedLeaves, Nat.pow_zero, Nat.mul_one, List.range'_one, List.filter_cons,
    List.filter_nil]
  split <;> rfl

theorem matchedLeaves_succ (vTxid : List H) (vMatch : List Bool) (height pos : Nat) :
    matchedLeaves vTxid vMatch (height + 1) pos =
      matchedLeaves vTxid vMatch height (2 * pos) ++
        matchedLeaves vTxid vMatch height (2 * pos + 1) := by
  simp only [matchedLeaves, range'_children, List.filter_append, List.map_append]

theorem matchedLeaves_eq_nil {vTxid : List H} {vMatch : List Bool} {height pos : Nat}
    (h : parentOfMatch vMatch vTxid.length height pos = false) :
    matchedLeaves vTxid vMatch height pos = [] := by
  simp only [parentOfMatch, List.any_eq_false] at h
  simp only [matchedLeaves, List.map_eq_nil_iff, List.filter_eq_nil_iff]
  exact h

theorem parentOfMatch_of_calcTreeWidth_le {vMatch : List Bool} {n height pos : Nat}
    (hpos : calcTreeWidth n height ≤ pos) : parentOfMatch vMatch n height pos = false := by
  have hn := le_calcTreeWidth_mul n height
  have hle : calcTreeWidth n height * 2 ^ height ≤ pos * 2 ^ height := Nat.mul_le_mul_right _ hpos
  simp only [parentOfMatch, List.any_eq_false, List.mem_range', leafMatched, Bool.and_eq_true,
    decide_eq_true_eq, not_and]
  omega

theorem getD_append_cons_length {α : Type} (pre rest : List α) (x d : α) :
    (pre ++ x :: rest).getD pre.length d = x := by
  rw [List.getD_eq_getElem?_getD, List.getElem?_append_right (Nat.le_refl _), Nat.sub_self,
    List.getElem?_cons_zero, Option.getD_some]

theorem lt_length_append_cons {α : Type} {n : Nat} {pre rest : List α} {x : α}
    (h : n = pre.length) : n < (pre ++ x :: rest).length := by
  rw [h, List.length_append, List.length_cons]
  omega

theorem useStoredHash_append (hpre hpost : List H) (x : H) (matched : Bool) (st : ExtractState H)
    (hst : st.nHashUsed = hpre.length) :
    useStoredHash (hpre ++ x :: hpost) matched st =
      (x, { st with
        nHashUsed := st.nHashUsed + 1
        vMatch := st.vMatch ++ if matched then [x] else [] }) := by
  simp only [useStoredHash, List.length_append, List.length_cons, hst, List.getD_eq_getElem?_getD,
    List.getElem?_append_right (Nat.le_refl _), Nat.sub_self, List.getElem?_cons_zero,
    Option.getD_some]
  rw [if_neg (by omega)]
  cases matched <;> simp

theorem traverseAndExtract_succ_true (vBits : List Bool) (vHash : List H) (n height pos : Nat)
    (st : ExtractState H) (hlt : st.nBitsUsed < vBits.length)
    (hbit : vBits.getD st.nBitsUsed false = true) :
    traverseAndExtract hash vBits vHash n (height + 1) pos st =
      let left := traverseAndExtract hash vBits vHash n height (2 * pos)
        { st with nBitsUsed := st.nBitsUsed + 1 }
      if 2 * pos + 1 < calcTreeWidth n height then
        let right := traverseAndExtract hash vBits vHash n height (2 * pos + 1) left.2
        (hash left.1 right.1, right.2)
      else (hash left.1 left.1, left.2) := by
  rw [traverseAndExtract, if_neg (by omega), if_pos hbit]

theorem traverseAndExtract_stored (vBits : List Bool) (vHash : List H) (n height pos : Nat)
    (st : ExtractState H) (hlt : st.nBitsUsed < vBits.length)
    (hstop : height = 0 ∨ vBits.getD st.nBitsUsed false = false) :
    traverseAndExtract hash vBits vHash n height pos st =
      useStoredHash vHash (height = 0 && vBits.getD st.nBitsUsed false)
        { st with nBitsUsed := st.nBitsUsed + 1 } := by
  cases height with
  | zero => rw [traverseAndExtract, if_neg (by omega)]; simp
  | succ height =>
    have hbit : vBits.getD st.nBitsUsed false = false := by simpa using hstop
    rw [traverseAndExtract, if_neg (by omega), hbit]
    simp

theorem traverseAndExtract_stop (pre post : List Bool) (b : Bool) (hpre hpost : List H) (x : H)
    (n height pos : Nat) (st : ExtractState H) (hbits : st.nBitsUsed = pre.length)
    (hhash : st.nHashUsed = hpre.length) (hstop : height = 0 ∨ b = false) :
    traverseAndExtract hash (pre ++ b :: post) (hpre ++ x :: hpost) n height pos st =
      (x, { st with
        nBitsUsed := st.nBitsUsed + 1
        nHashUsed := st.nHashUsed + 1
        vMatch := st.vMatch ++ if (height = 0 && b) = true then [x] else [] }) := by
  rw [traverseAndExtract_stored hash _ _ _ _ _ _ (lt_length_append_cons hbits)
      (by rwa [hbits, getD_append_cons_length]), hbits, getD_append_cons_length,
    useStoredHash_append _ _ _ _ _ (by exact hhash)]

theorem traverseAndExtract_traverseAndBuild (vTxid : List H) (vMatch : List Bool) :
    ∀ height pos, pos < calcTreeWidth vTxid.length height →
    ∀ (vBits pre post : List Bool) (vHash hpre hpost : List H) (st : ExtractState H),
      vBits = pre ++ (traverseAndBuild hash vTxid vMatch height pos).1 ++ post →
      vHash = hpre ++ (traverseAndBuild hash vTxid vMatch height pos).2 ++ hpost →
      st.nBitsUsed = pre.length → st.nHashUsed = hpre.length →
      traverseAndExtract hash vBits vHash vTxid.length height pos st =
        (calcHash hash vTxid height pos,
          { st with
            nBitsUsed := st.nBitsUsed + (traverseAndBuild hash vTxid vMatch height pos).1.length
            nHashUsed := st.nHashUsed + (traverseAndBuild hash vTxid vMatch height pos).2.length
            vMatch := st.vMatch ++ matchedLeaves vTxid vMatch height pos }) := by
  intro height
  induction height with
  | zero =>
    intro pos _ vBits pre post vHash hpre hpost st hvb hvh hbits hhash
    simp only [traverseAndBuild, List.singleton_append, List.append_assoc] at hvb hvh ⊢
    subst hvb hvh
    rw [traverseAndExtract_stop hash _ _ _ _ _ _ _ _ _ _ hbits hhash (.inl rfl), matchedLeaves_zero,
      parentOfMatch_zero]
    simp [calcHash]
  | succ height ih =>
    intro pos hpos vBits pre post vHash hpre hpost st hvb hvh hbits hhash
    have hleft := two_mul_lt_calcTreeWidth hpos
    by_cases hpar : parentOfMatch vMatch vTxid.length (height + 1) pos = true
    · have hb : traverseAndBuild hash vTxid vMatch (height + 1) pos =
          let right := if 2 * pos + 1 < calcTreeWidth vTxid.length height then
              traverseAndBuild hash vTxid vMatch height (2 * pos + 1) else ([], [])
          (true :: ((traverseAndBuild hash vTxid vMatch height (2 * pos)).1 ++ right.1),
            (traverseAndBuild hash vTxid vMatch height (2 * pos)).2 ++ right.2) := by
        simp only [traverseAndBuild, hpar, if_true]
      have ihl := ih (2 * pos) hleft
      rw [hb] at hvb hvh ⊢
      generalize traverseAndBuild hash vTxid vMatch height (2 * pos) = L at ihl hvb hvh ⊢
      obtain ⟨bl, hl⟩ := L
      have hvb' : vBits = pre ++ true :: (bl ++ (if 2 * pos + 1 < calcTreeWidth vTxid.length height
          then traverseAndBuild hash vTxid vMatch height (2 * pos + 1) else ([], [])).1 ++ post) := by
        rw [hvb, List.append_assoc, List.cons_append]
      have hbit : vBits.getD st.nBitsUsed false = true := by
        rw [hvb', hbits, getD_append_cons_length]
      rw [traverseAndExtract_succ_true hash _ _ _ _ _ _ (hvb' ▸ lt_length_append_cons hbits) hbit]
      by_cases hr : 2 * pos + 1 < calcTreeWidth vTxid.length height
      · have ihr := ih (2 * pos + 1) hr
        simp only [hr, if_true] at hvb hvh ⊢
        generalize traverseAndBuild hash vTxid vMatch height (2 * pos + 1) = R at ihr hvb hvh ⊢
        obtain ⟨br, hr'⟩ := R
        rw [ihl vBits (pre ++ [true]) (br ++ post) vHash hpre (hr' ++ hpost)
          { st with nBitsUsed := st.nBitsUsed + 1 } (by simp [hvb]) (by simp [hvh])
          (by simp [hbits]) hhash]
        simp only
        rw [ihr vBits (pre ++ [true] ++ bl) post vHash (hpre ++ hl) hpost _ (by simp [hvb])
          (by simp [hvh]) (by simp [hbits]; omega) (by simp [hhash])]
        rw [matchedLeaves_succ]
        simp [calcHash, hr]
        omega
      · simp only [hr, if_false, List.append_nil] at hvb hvh ⊢
        rw [ihl vBits (pre ++ [true]) post vHash hpre hpost
          { st with nBitsUsed := st.nBitsUsed + 1 } (by simp [hvb]) (by simp [hvh])
          (by simp [hbits]) hhash, matchedLeaves_succ,
          matchedLeaves_eq_nil (parentOfMatch_of_calcTreeWidth_le (Nat.le_of_not_lt hr))]
        simp [calcHash, hr]
        omega
    · simp only [Bool.not_eq_true] at hpar
      simp only [traverseAndBuild, hpar, Bool.false_eq_true, if_false, List.singleton_append,
        List.append_assoc] at hvb hvh ⊢
      subst hvb hvh
      rw [traverseAndExtract_stop hash _ _ _ _ _ _ _ _ _ _ hbits hhash (.inr rfl),
        matchedLeaves_eq_nil hpar]
      simp

theorem length_hashes_le_bits (vTxid : List H) (vMatch : List Bool) :
    ∀ height pos, (traverseAndBuild hash vTxid vMatch height pos).2.length ≤
      (traverseAndBuild hash vTxid vMatch height pos).1.length := by
  intro height
  induction height with
  | zero => intro pos; simp [traverseAndBuild]
  | succ height ih =>
    intro pos
    have hl := ih (2 * pos)
    have hr := ih (2 * pos + 1)
    simp only [traverseAndBuild]
    split_ifs <;> simp <;> omega

theorem length_hashes_le_leaves (vTxid : List H) (vMatch : List Bool) :
    ∀ height pos, pos < calcTreeWidth vTxid.length height →
      (traverseAndBuild hash vTxid vMatch height pos).2.length ≤
        min (2 ^ height) (vTxid.length - pos * 2 ^ height) := by
  intro height
  induction height with
  | zero =>
    intro pos hpos
    simp only [calcTreeWidth_zero] at hpos
    simp only [traverseAndBuild, List.length_singleton, Nat.pow_zero, Nat.mul_one]
    omega
  | succ height ih =>
    intro pos hpos
    have hcover := mul_two_pow_lt_of_lt_calcTreeWidth hpos
    have hl := ih (2 * pos) (two_mul_lt_calcTreeWidth hpos)
    have e2 : (2 * pos + 1) * 2 ^ height = 2 * (pos * 2 ^ height) + 2 ^ height := by
      rw [Nat.add_mul, Nat.one_mul, Nat.mul_assoc]
    have e3 : pos * 2 ^ (height + 1) = 2 * (pos * 2 ^ height) := by
      rw [Nat.pow_succ', Nat.mul_left_comm]
    have e4 : 2 ^ (height + 1) = 2 * 2 ^ height := Nat.pow_succ'
    rw [Nat.mul_assoc, Nat.le_min] at hl
    rw [e3] at hcover
    simp only [traverseAndBuild]
    rw [e3, e4, Nat.le_min]
    split_ifs with hpar hr
    · have hr' := ih (2 * pos + 1) hr
      rw [e2, Nat.le_min] at hr'
      simp only [List.length_append, List.length_singleton]
      omega
    · simp only [List.append_nil]
      omega
    · simp only [List.length_singleton]
      have := Nat.two_pow_pos height
      omega

def levelAt (vTxid : List H) (height : Nat) : List H :=
  (List.range (calcTreeWidth vTxid.length height)).map (calcHash hash vTxid height)

theorem levelAt_zero (vTxid : List H) : levelAt hash vTxid 0 = vTxid := by
  apply List.ext_getElem (by simp [levelAt])
  intro p _ hp
  simp [levelAt, calcHash, List.getD_eq_getElem?_getD, hp]

theorem merkleLevelUp_levelAt (vTxid : List H) (height : Nat) :
    merkleLevelUp hash (levelAt hash vTxid height) = levelAt hash vTxid (height + 1) := by
  apply List.ext_getElem (by simp only [merkleLevelUp, levelAt, List.length_map, List.length_range,
    calcTreeWidth_succ])
  intro p _ hp
  have hp' : p < calcTreeWidth vTxid.length (height + 1) := by simpa [levelAt] using hp
  have hleft := two_mul_lt_calcTreeWidth hp'
  simp only [merkleLevelUp, levelAt, List.getElem_map, List.getElem_range, List.length_map,
    List.length_range, calcHash]
  rw [getD_map_range _ hleft]
  by_cases hr : 2 * p + 1 < calcTreeWidth vTxid.length height
  · rw [Nat.min_eq_left (by omega), getD_map_range _ hr, if_pos hr]
  · rw [show min (2 * p + 1) (calcTreeWidth vTxid.length height - 1) = 2 * p by omega,
      getD_map_range _ hleft, if_neg hr]

theorem merkleRootFrom_levelAt (vTxid : List H) (hne : 0 < vTxid.length) :
    ∀ fuel k, k ≤ treeHeight vTxid.length → treeHeight vTxid.length ≤ k + fuel →
      merkleRootFrom hash fuel (levelAt hash vTxid k) =
        calcHash hash vTxid (treeHeight vTxid.length) 0 := by
  have htop : levelAt hash vTxid (treeHeight vTxid.length) =
      [calcHash hash vTxid (treeHeight vTxid.length) 0] := by
    simp [levelAt, calcTreeWidth_treeHeight hne, List.range_succ]
  intro fuel
  induction fuel with
  | zero =>
    intro k hk hfuel
    obtain rfl : k = treeHeight vTxid.length := by omega
    rw [htop]; rfl
  | succ fuel ih =>
    intro k hk hfuel
    rw [merkleRootFrom]
    split
    · rename_i hlen
      obtain rfl : k = treeHeight vTxid.length := by
        by_contra hne'
        have := one_lt_calcTreeWidth_of_lt_treeHeight (Nat.lt_of_le_of_ne hk hne')
        simp only [levelAt, List.length_map, List.length_range] at hlen
        omega
      rw [htop]; rfl
    · rename_i hlen
      have hk' : k < treeHeight vTxid.length := by
        refine Nat.lt_of_le_of_ne hk fun heq => hlen ?_
        rw [heq, htop]; rfl
      rw [merkleLevelUp_levelAt]
      exact ih (k + 1) hk' (by omega)

theorem calcHash_treeHeight (vTxid : List H) (hne : 0 < vTxid.length) :
    calcHash hash vTxid (treeHeight vTxid.length) 0 = merkleRoot hash vTxid := by
  calc calcHash hash vTxid (treeHeight vTxid.length) 0
      = merkleRootFrom hash vTxid.length (levelAt hash vTxid 0) :=
        (merkleRootFrom_levelAt hash vTxid hne _ 0 (Nat.zero_le _) (by simpa using treeHeight_le _)).symm
    _ = merkleRoot hash vTxid := by rw [levelAt_zero]; rfl

theorem matchedLeaves_treeHeight (vTxid : List H) (vMatch : List Bool) (hne : 0 < vTxid.length) :
    matchedLeaves vTxid vMatch (treeHeight vTxid.length) 0 =
      ((List.range vTxid.length).filter fun p => vMatch.getD p false).map
        fun p => vTxid.getD p default := by
  have hcov : vTxid.length ≤ 2 ^ treeHeight vTxid.length :=
    (calcTreeWidth_le_one_iff _ _).mp (by rw [calcTreeWidth_treeHeight hne])
  have hpast : (List.range' vTxid.length (2 ^ treeHeight vTxid.length - vTxid.length)).filter
      (leafMatched vMatch vTxid.length) = [] :=
    List.filter_eq_nil_iff.mpr fun p hp => by
      simp only [List.mem_range'] at hp
      simp [leafMatched]; omega
  rw [matchedLeaves, Nat.zero_mul, ← Nat.sub_add_cancel hcov, ← List.range'_append_1,
    List.filter_append, Nat.zero_add, hpast, List.append_nil, ← List.range_eq_range']
  congr 1
  exact List.filter_congr fun p hp => by simp_all [leafMatched]

theorem extractMatches_ofTxids (vTxid : List H) (vMatch : List Bool) (hne : 0 < vTxid.length)
    (pad : List Bool)
    (hpad : ((CPartialMerkleTree.ofTxids hash vTxid vMatch).vBits.length + pad.length + 7) / 8 =
      ((CPartialMerkleTree.ofTxids hash vTxid vMatch).vBits.length + 7) / 8) :
    CPartialMerkleTree.extractMatches hash
        { CPartialMerkleTree.ofTxids hash vTxid vMatch with
          vBits := (CPartialMerkleTree.ofTxids hash vTxid vMatch).vBits ++ pad } =
      (merkleRoot hash vTxid,
        ((List.range vTxid.length).filter fun p => vMatch.getD p false).map
          fun p => vTxid.getD p default) := by
  have hwalk := traverseAndExtract_traverseAndBuild hash vTxid vMatch (treeHeight vTxid.length) 0
    (by rw [calcTreeWidth_treeHeight hne]; exact Nat.one_pos)
    _ [] pad _ [] [] ⟨0, 0, [], false⟩ rfl rfl rfl rfl
  have hleaves : (traverseAndBuild hash vTxid vMatch (treeHeight vTxid.length) 0).2.length ≤
      vTxid.length := by
    have := length_hashes_le_leaves hash vTxid vMatch (treeHeight vTxid.length) 0
      (by rw [calcTreeWidth_treeHeight hne]; exact Nat.one_pos)
    rw [Nat.zero_mul, Nat.sub_zero] at this
    exact Nat.le_trans this (Nat.min_le_right _ _)
  have hbits := length_hashes_le_bits hash vTxid vMatch (treeHeight vTxid.length) 0
  simp only [CPartialMerkleTree.ofTxids] at hpad ⊢
  rw [CPartialMerkleTree.extractMatches, if_neg (by simp only [List.length_append]; omega)]
  simp only [List.nil_append, List.append_nil] at hwalk
  rw [hwalk, if_neg (by simp only [List.length_append] at hpad ⊢; simp [hpad]),
    calcHash_treeHeight hash vTxid hne, matchedLeaves_treeHeight vTxid vMatch hne]

end RoundTrip

end ZendRawTx
