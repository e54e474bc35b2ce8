import ZendRawTx.State

/-!
# The `prevtxs` overlay of `signrawtransaction`

Each entry makes an output available with its script and changes no other output; an index at
or past the end first resizes the outputs to `nOut + 1`, computed in `int`.
-/

namespace ZendRawTx

set_option autoImplicit false

/-- What the loop calls of the script code: `IsPayToScriptHash` and `ToString`. -/
structure PrevTxsOps where
  isPayToScriptHash : CScript → Bool
  scriptToString : CScript → String

structure PrevTxsState where
  view : CCoinsViewCache
  keystore : CBasicKeyStore

def INT_MAX : Int := 2147483647

/-- The checks of one entry up to its `scriptPubKey`. -/
def parsePrevTx (p : UniValue) : Except RPCError (Uint256 × Int × CScript) :=
  if !p.isObject then
    .error (.jsonRPCError .rpcDeserializationError
      "expected object with \x7b\"txid\x27\",\"vout\",\"scriptPubKey\"\x7d")
  else do
    rpcTypeCheckObj p [("scriptPubKey", .VSTR), ("txid", .VSTR), ("vout", .VNUM)]
    let txid ← parseHashO p "txid"
    let nOut ← (p.findValue "vout").getInt
    if nOut < 0 then .error (.jsonRPCError .rpcDeserializationError "vout must be positive")
    else do
      let scriptPubKey ← parseHexO p "scriptPubKey"
      pure (txid, nOut, scriptPubKey)

/-- `coins->vout.resize(nOut+1)` when `nOut` is past the end, `nOut+1` computed in `int`. -/
def resizeVout (vout : List CTxOut) (nOut : Int) : Except RPCError (List CTxOut) :=
  if vout.length ≤ nOut.toNat then
    if nOut = INT_MAX then
      .error (.undefinedBehaviour "signed overflow of nOut+1 in coins->vout.resize(nOut+1)")
    else .ok (vout ++ List.replicate (nOut.toNat + 1 - vout.length) default)
  else .ok vout

/-- The block on `view.ModifyCoins(txid)`: the conflict check, the resize, the output set. -/
def modifyCoins (ops : PrevTxsOps) (view : CCoinsViewCache) (txid : Uint256) (nOut : Int)
    (scriptPubKey : CScript) : Except RPCError CCoinsViewCache :=
  let coins := (view txid).getD ⟨[]⟩
  if coins.isAvailable nOut.toNat ∧
      (coins.vout.getD nOut.toNat default).scriptPubKey ≠ scriptPubKey then
    .error (.jsonRPCError .rpcDeserializationError
      ("Previous output scriptPubKey mismatch:\n" ++
        ops.scriptToString (coins.vout.getD nOut.toNat default).scriptPubKey ++ "\nvs:\n" ++
        ops.scriptToString scriptPubKey))
  else do
    let vout ← resizeVout coins.vout nOut
    pure fun h => if h = txid then some ⟨vout.set nOut.toNat ⟨0, scriptPubKey⟩⟩ else view h

/-- With keys given, a pay-to-script-hash entry's `redeemScript` goes to the key store. -/
def addRedeemScript (ops : PrevTxsOps) (fGivenKeys : Bool) (p : UniValue)
    (scriptPubKey : CScript) (keystore : CBasicKeyStore) : Except RPCError CBasicKeyStore :=
  if fGivenKeys && ops.isPayToScriptHash scriptPubKey then do
    rpcTypeCheckObj p
      [("redeemScript", .VSTR), ("scriptPubKey", .VSTR), ("txid", .VSTR), ("vout", .VNUM)]
    let v := p.findValue "redeemScript"
    if !v.isNull then do
      let redeemScript ← parseHexV v "redeemScript"
      pure { keystore with scripts := keystore.scripts ++ [redeemScript] }
    else pure keystore
  else pure keystore

/-- One round of the `prevtxs` loop. -/
def addPrevTx (ops : PrevTxsOps) (fGivenKeys : Bool) (st : PrevTxsState) (p : UniValue) :
    Except RPCError PrevTxsState := do
  let (txid, nOut, scriptPubKey) ← parsePrevTx p
  let view ← modifyCoins ops st.view txid nOut scriptPubKey
  let keystore ← addRedeemScript ops fGivenKeys p scriptPubKey st.keystore
  pure ⟨view, keystore⟩

def addPrevTxs (ops : PrevTxsOps) (fGivenKeys : Bool) (st : PrevTxsState)
    (prevTxs : List UniValue) : Except RPCError PrevTxsState :=
  prevTxs.foldlM (addPrevTx ops fGivenKeys) st

/-- The script of output `nPos` when it is available. -/
def CCoins.scriptAt (coins : CCoins) (nPos : Nat) : Option CScript :=
  if coins.isAvailable nPos then some (coins.vout.getD nPos default).scriptPubKey else none

theorem prevPubKeyOf_eq_scriptAt (view : CCoinsViewCache) (o : COutPoint) :
    prevPubKeyOf view o = ((view o.hash).getD ⟨[]⟩).scriptAt o.n := by
  unfold prevPubKeyOf CCoins.scriptAt
  cases view o.hash <;> simp [CCoins.isAvailable]

theorem scriptAt_append_null (vout : List CTxOut) (k m : Nat) :
    (⟨vout ++ List.replicate k default⟩ : CCoins).scriptAt m = (⟨vout⟩ : CCoins).scriptAt m := by
  unfold CCoins.scriptAt CCoins.isAvailable
  by_cases hm : m < vout.length
  · simp [List.getD_eq_getElem?_getD, List.getElem?_append_left hm, hm, Nat.lt_add_right]
  · have hdef : (default : CTxOut).isNull = true := rfl
    simp [List.getD_eq_getElem?_getD, List.getElem?_append_right (Nat.le_of_not_lt hm), hm,
      List.getElem?_replicate]
    split_ifs <;> simp [hdef]

theorem scriptAt_set (vout : List CTxOut) {n : Nat} (hn : n < vout.length) (s : CScript)
    (m : Nat) : (⟨vout.set n ⟨0, s⟩⟩ : CCoins).scriptAt m =
      if m = n then some s else (⟨vout⟩ : CCoins).scriptAt m := by
  unfold CCoins.scriptAt CCoins.isAvailable
  by_cases hmn : m = n
  · subst hmn
    simp [List.getD_eq_getElem?_getD, hn, CTxOut.isNull]
  · simp [List.getD_eq_getElem?_getD, List.getElem?_set, hmn, Ne.symm hmn]

theorem resizeVout_eq_ok {vout vout' : List CTxOut} {nOut : Int}
    (h : resizeVout vout nOut = .ok vout') :
    nOut.toNat < vout'.length ∧ ∃ k, vout' = vout ++ List.replicate k default := by
  unfold resizeVout at h
  split_ifs at h with hle
  · cases h
    exact ⟨by simp; omega, _, rfl⟩
  · cases h
    exact ⟨by omega, 0, by simp⟩

theorem modifyCoins_eq_ok {ops : PrevTxsOps} {view view' : CCoinsViewCache} {txid : Uint256}
    {nOut : Int} {scriptPubKey : CScript}
    (h : modifyCoins ops view txid nOut scriptPubKey = .ok view') :
    (prevPubKeyOf view ⟨txid, nOut.toNat⟩ = none ∨
      prevPubKeyOf view ⟨txid, nOut.toNat⟩ = some scriptPubKey) ∧
    ∀ o, prevPubKeyOf view' o =
      if o = ⟨txid, nOut.toNat⟩ then some scriptPubKey else prevPubKeyOf view o := by
  have hprev := prevPubKeyOf_eq_scriptAt view ⟨txid, nOut.toNat⟩
  unfold modifyCoins at h
  dsimp only at h hprev
  split at h
  · cases h
  · rename_i hfree
    obtain ⟨vout, hresize, hview⟩ := bind_eq_ok.mp h
    cases hview
    obtain ⟨hlen, k, rfl⟩ := resizeVout_eq_ok hresize
    refine ⟨?_, fun o => ?_⟩
    · rw [hprev]
      unfold CCoins.scriptAt
      split
      · exact .inr (by simp only [not_and, not_not] at hfree; rw [hfree ‹_›])
      · exact .inl rfl
    · rw [prevPubKeyOf_eq_scriptAt, prevPubKeyOf_eq_scriptAt]
      by_cases hh : o.hash = txid
      · simp only [hh, if_true, Option.getD_some]
        rw [scriptAt_set _ hlen, scriptAt_append_null]
        obtain ⟨h1, n1⟩ := o
        simp only at hh
        subst hh
        simp
      · have ho : o ≠ ⟨txid, nOut.toNat⟩ := fun heq => hh (by rw [heq])
        simp [hh, ho]

theorem addPrevTx_eq_ok {ops : PrevTxsOps} {fGivenKeys : Bool} {st st' : PrevTxsState}
    {p : UniValue} (h : addPrevTx ops fGivenKeys st p = .ok st') :
    ∃ txid nOut scriptPubKey, parsePrevTx p = .ok (txid, nOut, scriptPubKey) ∧
      (prevPubKeyOf st.view ⟨txid, nOut.toNat⟩ = none ∨
        prevPubKeyOf st.view ⟨txid, nOut.toNat⟩ = some scriptPubKey) ∧
      ∀ o, prevPubKeyOf st'.view o =
        if o = ⟨txid, nOut.toNat⟩ then some scriptPubKey else prevPubKeyOf st.view o := by
  unfold addPrevTx at h
  obtain ⟨⟨txid, nOut, scriptPubKey⟩, hparse, h⟩ := bind_eq_ok.mp h
  obtain ⟨view, hmod, h⟩ := bind_eq_ok.mp h
  obtain ⟨keystore, -, h⟩ := bind_eq_ok.mp h
  cases h
  exact ⟨txid, nOut, scriptPubKey, hparse, modifyCoins_eq_ok hmod⟩

theorem addPrevTxs_overlay (ops : PrevTxsOps) (fGivenKeys : Bool) :
    ∀ (prevTxs : List UniValue) (st st' : PrevTxsState),
      addPrevTxs ops fGivenKeys st prevTxs = .ok st' →
      ∃ parsed : List (COutPoint × CScript),
        List.Forall₂ (fun p e => ∃ nOut : Int,
          parsePrevTx p = .ok (e.1.hash, nOut, e.2) ∧ e.1.n = nOut.toNat) prevTxs parsed ∧
        (∀ e ∈ parsed, prevPubKeyOf st'.view e.1 = some e.2) ∧
        (∀ o s, prevPubKeyOf st.view o = some s → prevPubKeyOf st'.view o = some s) ∧
        (∀ o, (prevPubKeyOf st'.view o).isSome →
          (prevPubKeyOf st.view o).isSome ∨ ∃ e ∈ parsed, e.1 = o) := by
  intro prevTxs
  induction prevTxs with
  | nil =>
    intro st st' h
    cases h
    exact ⟨[], .nil, by simp, fun _ _ h => h, fun _ h => .inl h⟩
  | cons p rest ih =>
    intro st st' h
    unfold addPrevTxs at h
    rw [List.foldlM_cons] at h
    obtain ⟨st₁, hstep, hrest⟩ := bind_eq_ok.mp h
    obtain ⟨txid, nOut, scriptPubKey, hparse, hfree, hframe⟩ := addPrevTx_eq_ok hstep
    obtain ⟨parsed, hall, hmem, hkeep, hnew⟩ := ih st₁ st' hrest
    have hhead : prevPubKeyOf st₁.view ⟨txid, nOut.toNat⟩ = some scriptPubKey := by
      rw [hframe]; simp
    refine ⟨(⟨txid, nOut.toNat⟩, scriptPubKey) :: parsed, .cons ⟨nOut, hparse, rfl⟩ hall,
      List.forall_mem_cons.mpr ⟨hkeep _ _ hhead, hmem⟩, ?_, ?_⟩
    · intro o s hs
      apply hkeep
      rw [hframe]
      split
      · rename_i ho
        subst ho
        rcases hfree with h0 | h0 <;> rw [h0] at hs
        · cases hs
        · exact hs
      · exact hs
    · intro o ho
      rcases hnew o ho with h1 | ⟨e, he, rfl⟩
      · rw [hframe] at h1
        split at h1
        · exact .inr ⟨_, List.mem_cons_self _ _, (by assumption : o = _).symm⟩
        · exact .inl h1
      · exact .inr ⟨e, List.mem_cons_of_mem _ he, rfl⟩

def firstVoutEntry : UniValue :=
  .obj [("txid", .str "0000000000000000000000000000000000000000000000000000000000000000"),
    ("vout", .num "0"), ("scriptPubKey", .str "51")]

theorem addPrevTxs_overlay_of_firstVoutEntry :
    addPrevTxs ⟨fun _ => false, fun _ => ""⟩ false ⟨fun _ => none, ⟨[], []⟩⟩ [firstVoutEntry] =
        .ok ⟨fun h => if h = 0 then some ⟨[⟨0, [0x51]⟩]⟩ else none, ⟨[], []⟩⟩ ∧
      ∃ parsed : List (COutPoint × CScript),
        List.Forall₂ (fun p e => ∃ nOut : Int,
          parsePrevTx p = .ok (e.1.hash, nOut, e.2) ∧ e.1.n = nOut.toNat) [firstVoutEntry] parsed ∧
        (∀ e ∈ parsed, prevPubKeyOf (fun h => if h = 0 then some ⟨[⟨0, [0x51]⟩]⟩ else none) e.1 =
          some e.2) ∧
        (∀ o s, prevPubKeyOf (fun _ => none) o = some s →
          prevPubKeyOf (fun h => if h = 0 then some ⟨[⟨0, [0x51]⟩]⟩ else none) o = some s) ∧
        (∀ o, (prevPubKeyOf (fun h => if h = 0 then some ⟨[⟨0, [0x51]⟩]⟩ else none) o).isSome →
          (prevPubKeyOf (fun _ => none) o).isSome ∨ ∃ e ∈ parsed, e.1 = o) :=
  have hrun : addPrevTxs ⟨fun _ => false, fun _ => ""⟩ false ⟨fun _ => none, ⟨[], []⟩⟩
      [firstVoutEntry] = .ok ⟨fun h => if h = 0 then some ⟨[⟨0, [0x51]⟩]⟩ else none, ⟨[], []⟩⟩ :=
    rfl
  ⟨hrun, addPrevTxs_overlay _ _ _ _ _ hrun⟩

/-- An entry for output `2147483647`, the largest `int` index. -/
def maxVoutEntry : UniValue :=
  .obj [("txid", .str "0000000000000000000000000000000000000000000000000000000000000000"),
    ("vout", .num "2147483647"), ("scriptPubKey", .str "51")]

theorem prevtxs_overflow_at_the_largest_vout (ops : PrevTxsOps) (fGivenKeys : Bool)
    (keystore : CBasicKeyStore) :
    parsePrevTx maxVoutEntry = .ok (0, INT_MAX, [0x51]) ∧
    addPrevTxs ops fGivenKeys ⟨fun _ => none, keystore⟩ [maxVoutEntry] =
      .error (.undefinedBehaviour "signed overflow of nOut+1 in coins->vout.resize(nOut+1)") :=
  ⟨rfl, rfl⟩

end ZendRawTx
