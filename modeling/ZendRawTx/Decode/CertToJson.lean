import ZendRawTx.State

/-!
# `CertToJSON` and `decoderawcertificate`

A backward transfer's `pubkeyhash` is copied without a bound check from two past the first
`OP_HASH160`; the model returns `none` where that reads past the end of the script.
-/

namespace ZendRawTx

set_option autoImplicit false

/-- What `CertToJSON` calls outside this file. -/
structure CertJsonOps where
  getHash : CMutableScCertificate → Uint256
  scriptToString : CScript → String
  valueFromAmount : Int → UniValue
  extractDestinations : CScript → String × Option (Int × List String)
  valueOfBackwardTransfers : CMutableScCertificate → Int

/-- A JSON number, as `UniValue`'s integer constructors print it. -/
def UniValue.ofInt (n : Int) : UniValue := .num (toString n)

def scriptPubKeyToJSON (ops : CertJsonOps) (scriptPubKey : CScript) (fIncludeHex : Bool) :
    List (String × UniValue) :=
  let out := [("asm", UniValue.str (ops.scriptToString scriptPubKey))] ++
    if fIncludeHex then [("hex", .str (hexStr scriptPubKey))] else []
  match ops.extractDestinations scriptPubKey with
  | (type, none) => out ++ [("type", .str type)]
  | (type, some (nRequired, addresses)) =>
    out ++ [("reqSigs", .ofInt nRequired), ("type", .str type),
      ("addresses", .arr (addresses.map .str))]

/-- Modelled from the spec: `CScCertificate::IsBackwardTransfer`. -/
def isBackwardTransfer (cert : CMutableScCertificate) (pos : Nat) : Bool :=
  cert.nFirstBwtPos ≤ pos

/-- The `pubkeyhash` of a backward transfer; `none` past the end of the script. -/
def backwardTransferPubKeyHash (scriptPubKey : CScript) : Option String :=
  match scriptPubKey.findIdx? (· == OP_HASH160) with
  | some p =>
    if p + 2 + 20 ≤ scriptPubKey.length then
      some (hexStr ((scriptPubKey.drop (p + 2)).take 20).reverse)
    else none
  | none => some "<<Decode error>>"

def certOutputToJSON (ops : CertJsonOps) (cert : CMutableScCertificate) (i : Nat)
    (txout : CTxOut) : Option UniValue :=
  let out := [("value", ops.valueFromAmount txout.nValue), ("valueZat", .ofInt txout.nValue),
    ("n", .ofInt i), ("scriptPubKey", .obj (scriptPubKeyToJSON ops txout.scriptPubKey true))]
  if isBackwardTransfer cert i then
    (backwardTransferPubKeyHash txout.scriptPubKey).map fun pkhStr =>
      .obj (out ++ [("backward transfer", .bool true), ("pubkeyhash", .str pkhStr)])
  else some (.obj out)

def txInToJSON (ops : CertJsonOps) (txin : CTxIn) : UniValue :=
  .obj [("txid", .str (getHex txin.prevout.hash)), ("vout", .ofInt txin.prevout.n),
    ("scriptSig", .obj [("asm", .str (ops.scriptToString txin.scriptSig)),
      ("hex", .str (hexStr txin.scriptSig))]),
    ("sequence", .ofInt txin.nSequence)]

def blockToJSON (chain : ChainState) (hashBlock : Uint256) : List (String × UniValue) :=
  if hashBlock = 0 then []
  else ("blockhash", .str (getHex hashBlock)) ::
    match chain.mapBlockIndex hashBlock with
    | some pindex =>
      if chain.contains pindex then
        [("confirmations", .ofInt (1 + chain.height - pindex.nHeight)),
          ("blocktime", .ofInt pindex.nTime)]
      else [("confirmations", .ofInt 0)]
    | none => []

/-- `CertToJSON`: the fields it appends, or `none` when it reads outside a script. -/
def certToJSON (ops : CertJsonOps) (chain : ChainState) (cert : CMutableScCertificate)
    (hashBlock : Uint256) : Option (List (String × UniValue)) := do
  let vout ← (List.range cert.vout.length).mapM fun i =>
    certOutputToJSON ops cert i (cert.vout.getD i default)
  let x : List (String × UniValue) :=
    [("scid", .str (getHex cert.scId)), ("epochNumber", .ofInt cert.epochNumber),
      ("quality", .ofInt cert.quality), ("endEpochBlockHash", .str (getHex cert.endEpochBlockHash)),
      ("scProof", .str (hexStr cert.scProof)),
      ("totalAmount", ops.valueFromAmount (ops.valueOfBackwardTransfers cert))]
  pure ([("certid", .str (getHex (ops.getHash cert))), ("version", .ofInt cert.nVersion),
    ("vin", .arr (cert.vin.map (txInToJSON ops))), ("cert", .obj x), ("vout", .arr vout)] ++
    blockToJSON chain hashBlock)

def decoderawcertificate (ops : CertJsonOps) (decodeHexCert : String → Option CMutableScCertificate)
    (chain : ChainState) (hexstring : UniValue) : Except RPCError UniValue :=
  match hexstring with
  | .str s =>
    match decodeHexCert s with
    | some cert =>
      match certToJSON ops chain cert 0 with
      | some entry => .ok (.obj entry)
      | none => .error (.undefinedBehaviour "CertToJSON reads past the end of a scriptPubKey")
    | none => .error (.jsonRPCError .rpcDeserializationError "TX decode failed")
  | v => .error (.jsonRPCError .rpcTypeError
      ("Expected type " ++ uvTypeName .VSTR ++ ", got " ++ uvTypeName v.type))

theorem mapM_option_eq_none {α β : Type} (f : α → Option β) (l : List α) :
    l.mapM f = none ↔ ∃ x ∈ l, f x = none := by
  induction l with
  | nil => rw [List.mapM_nil]; simp
  | cons x l ih =>
    rw [List.mapM_cons]
    simp only [List.mem_cons, exists_eq_or_imp, ← ih]
    cases f x with
    | none => simp
    | some b =>
      simp only [Option.bind_eq_bind, Option.some_bind]
      cases l.mapM f <;> simp

theorem mapM_option_eq_some {α β : Type} (f : α → Option β) :
    ∀ (l : List α) (r : List β), l.mapM f = some r ↔ List.Forall₂ (fun x y => f x = some y) l r := by
  intro l
  induction l with
  | nil =>
    intro r
    rw [List.mapM_nil]
    cases r with
    | nil => exact iff_of_true rfl .nil
    | cons y r => exact iff_of_false nofun nofun
  | cons x l ih =>
    intro r
    rw [List.mapM_cons]
    cases r with
    | nil => exact iff_of_false (by cases f x <;> cases l.mapM f <;> simp) nofun
    | cons y r =>
      rw [List.forall₂_cons, ← ih]
      cases f x <;> cases l.mapM f <;> simp [eq_comm]

theorem certOutputToJSON_fields {ops : CertJsonOps} {cert : CMutableScCertificate} {i : Nat}
    {txout : CTxOut} {y : UniValue} (h : certOutputToJSON ops cert i txout = some y) :
    y.findValue "valueZat" = .ofInt txout.nValue ∧
      y.findValue "backward transfer" = (if isBackwardTransfer cert i then .bool true else .null) ∧
      (isBackwardTransfer cert i = true → ∃ pkhStr,
        backwardTransferPubKeyHash txout.scriptPubKey = some pkhStr ∧
        y.findValue "pubkeyhash" = .str pkhStr) := by
  unfold certOutputToJSON at h
  split at h
  · rename_i hbt
    obtain ⟨pkhStr, hpkh, rfl⟩ := Option.map_eq_some'.mp h
    simp [UniValue.findValue, hbt, hpkh]
  · cases h
    simp [UniValue.findValue, *]
theorem certToJSON_of_mapM {ops : CertJsonOps} (chain : ChainState) {cert : CMutableScCertificate}
    (hashBlock : Uint256) {vout : List UniValue}
    (h : (List.range cert.vout.length).mapM
      (fun i => certOutputToJSON ops cert i (cert.vout.getD i default)) = some vout) :
    ∃ entry, certToJSON ops chain cert hashBlock = some entry ∧
      (UniValue.obj entry).findValue "vout" = .arr vout := by
  refine ⟨_, by rw [certToJSON, h]; rfl, ?_⟩
  simp [UniValue.findValue]

end ZendRawTx
