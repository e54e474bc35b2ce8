import Mathlib.Data.List.Forall2
import Mathlib.Data.List.GetD
import ZendRawTx.Create.RawCertificate
import ZendRawTx.Decode.CertToJson

/-!
# What `createrawcertificate` guarantees

Backward transfers round-trip through `CertToJSON`, the parameters are exactly the five keys,
the quality is not negative and the payees are distinct; the epoch number is never checked.
-/

namespace ZendRawTx

set_option autoImplicit false

/-- `SC_PROOF_SIZE`, the size in bytes of a certificate's SNARK proof. -/
def SC_PROOF_SIZE : Nat := 771

/-- Collaborators for the samples; `AddScData` reads the hex strings of `SC_PROOF_SIZE` bytes. -/
def sampleCreateOps : CertCreateOps where
  base58Prefixes := ⟨[0x20, 0x89], [0x20, 0x96]⟩
  setString := fun address => ⟨[0x20, 0x89], leBytes 20 address.length⟩
  checkBlockAtHeight := []
  amountFromValue := fun _ => .ok 100000
  addScData := fun inputString =>
    if isHex inputString ∧ inputString.length = 2 * SC_PROOF_SIZE then .ok (parseHex inputString)
    else .error "Invalid length"
  isValidScProof := fun _ => true
  scCertVersion := -5

def sampleProofHex : String := ⟨List.replicate (2 * SC_PROOF_SIZE) '1'⟩

set_option maxRecDepth 8000 in
theorem sampleCreateOps_addScData :
    sampleCreateOps.addScData sampleProofHex = .ok (List.replicate SC_PROOF_SIZE 0x11) := rfl

def sampleVoutAddresses : UniValue := .obj [("ztA", .num "1")]

def sampleBackwardAddresses : UniValue := .obj [("fde1", .num "0.5")]

def sampleParameters : UniValue :=
  .obj [("scid", .str "ab"), ("withdrawalEpochNumber", .num "3"), ("quality", .num "10"),
    ("endEpochBlockHash", .str "cd"), ("scProof", .str sampleProofHex)]

def sampleCertificate : CMutableScCertificate :=
  { nVersion := -5
    vin := []
    vout := [⟨100000, getScriptForDestination [] (.keyID (blobOfBytes 160 (leBytes 20 3))) true⟩,
      ⟨100000, getScriptForDestination [] (.keyID (setHex 160 "fde1")) false⟩]
    scId := setHex 256 "ab"
    epochNumber := 3
    quality := 10
    endEpochBlockHash := setHex 256 "cd"
    scProof := List.replicate SC_PROOF_SIZE 0x11
    nFirstBwtPos := 1 }

set_option maxRecDepth 8000 in
theorem createrawcertificate_sample :
    createrawcertificate sampleCreateOps (.arr []) sampleVoutAddresses sampleBackwardAddresses
      sampleParameters = .ok sampleCertificate := rfl

def emptyChain : ChainState :=
  ⟨fun _ => none, [], fun _ => none, fun _ => none, fun _ => none⟩

def sampleJsonOps : CertJsonOps :=
  ⟨fun _ => 0, fun _ => "", .ofInt, fun _ => ("nonstandard", none), fun _ => 0⟩

theorem forall₂_getD {α β : Type} {R : α → β → Prop} {l₁ : List α} {l₂ : List β}
    (h : List.Forall₂ R l₁ l₂) {i : Nat} (hi : i < l₁.length) (d₁ : α) (d₂ : β) :
    R (l₁.getD i d₁) (l₂.getD i d₂) := by
  have hi₂ : i < l₂.length := h.length_eq ▸ hi
  simpa [List.getD_eq_getElem?_getD, List.getElem?_eq_getElem hi, List.getElem?_eq_getElem hi₂]
    using h.get hi hi₂

theorem backwardTransferPubKeyHash_keyID (checkBlockAtHeight : CScript) (keyID : Uint160) :
    backwardTransferPubKeyHash (getScriptForDestination checkBlockAtHeight (.keyID keyID) false) =
      some (getHex keyID) := by
  have hlen : (toByteVector keyID).length = 20 := length_leBytes _ _
  simp only [getScriptForDestination, backwardTransferPubKeyHash, Bool.false_eq_true, if_false,
    List.append_nil, List.cons_append, List.nil_append, List.findIdx?_cons, OP_DUP, OP_HASH160]
  simp [hlen, List.take_left' hlen, getHex_eq_hexStr (w := 160) (by decide) (by decide)]

theorem certOutputToJSON_isSome_of_created {ops : CertCreateOps} (jsonOps : CertJsonOps)
    {voutAddresses backwardAddresses certificateParameters : UniValue}
    {cert : CMutableScCertificate}
    (hc : CreatedCertificate ops voutAddresses backwardAddresses certificateParameters cert)
    (i : Nat) : (certOutputToJSON jsonOps cert i (cert.vout.getD i default)).isSome := by
  obtain ⟨stdOuts, bwtOuts, hvout, hfirst, -, hbwt⟩ := hc.outputs
  unfold certOutputToJSON
  split
  · rename_i hbt
    have hle : stdOuts.length ≤ i := by simpa [isBackwardTransfer, hfirst] using hbt
    rw [hvout, List.getD_append_right _ _ _ _ hle]
    by_cases hj : i - stdOuts.length < backwardAddresses.getKeys.length
    · obtain ⟨-, hscript⟩ := forall₂_getD hbwt hj "" default
      rw [hscript, (CBitcoinAddress.get_ofKeyID _ _).2, backwardTransferPubKeyHash_keyID]
      rfl
    · rw [List.getD_eq_default _ _ (by rw [← hbwt.length_eq]; omega)]
      rfl
  · rfl

theorem createrawcertificate_backward_transfers_round_trip (ops : CertCreateOps)
    (jsonOps : CertJsonOps) (chain : ChainState) (hashBlock : Uint256)
    (transactions voutAddresses backwardAddresses certificateParameters : UniValue)
    (cert : CMutableScCertificate)
    (h : createrawcertificate ops transactions voutAddresses backwardAddresses
      certificateParameters = .ok cert) :
    ∃ entry vout, certToJSON jsonOps chain cert hashBlock = some entry ∧
      (UniValue.obj entry).findValue "vout" = .arr vout ∧
      vout.length = voutAddresses.getKeys.length + backwardAddresses.getKeys.length ∧
      (∀ i < vout.length, (vout.getD i .null).findValue "backward transfer" =
        if voutAddresses.getKeys.length ≤ i then .bool true else .null) ∧
      ∀ j < backwardAddresses.getKeys.length, ∃ nAmount,
        ops.amountFromValue (backwardAddresses.findValue (backwardAddresses.getKeys.getD j "")) =
          .ok nAmount ∧
        (vout.getD (voutAddresses.getKeys.length + j) .null).findValue "valueZat" =
          .ofInt nAmount ∧
        (vout.getD (voutAddresses.getKeys.length + j) .null).findValue "pubkeyhash" =
          .str (getHex (setHex 160 (backwardAddresses.getKeys.getD j ""))) := by
  have hc := createrawcertificate_eq_ok h
  obtain ⟨stdOuts, bwtOuts, hvout, hfirst, hstd, hbwt⟩ := hc.outputs
  have hnstd : stdOuts.length = voutAddresses.getKeys.length := hstd.length_eq.symm
  have hlen : cert.vout.length = voutAddresses.getKeys.length + backwardAddresses.getKeys.length := by
    rw [hvout, List.length_append, ← hnstd, ← hbwt.length_eq]
  -- every output's JSON is read, so `CertToJSON` returns
  cases hm : (List.range cert.vout.length).mapM
      (fun i => certOutputToJSON jsonOps cert i (cert.vout.getD i default)) with
  | none =>
    obtain ⟨i, -, hnone⟩ := (mapM_option_eq_none _ _).mp hm
    exact absurd (certOutputToJSON_isSome_of_created jsonOps hc i)
      (by rw [hnone]; decide)
  | some vout =>
    obtain ⟨entry, hentry, hfind⟩ := certToJSON_of_mapM chain hashBlock hm
    have hall := (mapM_option_eq_some _ _ _).mp hm
    have hvlen : vout.length = cert.vout.length := by rw [← hall.length_eq, List.length_range]
    have hat : ∀ i < cert.vout.length,
        certOutputToJSON jsonOps cert i (cert.vout.getD i default) = some (vout.getD i .null) := by
      intro i hi
      have hr : (List.range cert.vout.length).getD i 0 = i := by
        rw [List.getD_eq_getElem?_getD, List.getElem?_range hi]; rfl
      have := forall₂_getD hall (by simpa using hi) 0 .null
      rwa [hr] at this
    have hbt : ∀ i, isBackwardTransfer cert i = decide (voutAddresses.getKeys.length ≤ i) := by
      simp [isBackwardTransfer, hfirst, hnstd]
    refine ⟨entry, vout, hentry, hfind, by omega, fun i hi => ?_, fun j hj => ?_⟩
    · rw [(certOutputToJSON_fields (hat i (by omega))).2.1, hbt]
      by_cases hle : voutAddresses.getKeys.length ≤ i <;> simp [hle]
    · have hi : voutAddresses.getKeys.length + j < cert.vout.length := by omega
      obtain ⟨hvalue, -, hpkh⟩ := certOutputToJSON_fields (hat _ hi)
      obtain ⟨hamount, hscript⟩ := forall₂_getD hbwt hj "" default
      have hout : cert.vout.getD (voutAddresses.getKeys.length + j) default = bwtOuts.getD j default := by
        rw [hvout, List.getD_append_right _ _ _ _ (by omega), ← hnstd, Nat.add_sub_cancel_left]
      obtain ⟨pkhStr, hpkhStr, hfield⟩ := hpkh (by simp [hbt])
      rw [hout, hscript, (CBitcoinAddress.get_ofKeyID _ _).2, backwardTransferPubKeyHash_keyID,
        Option.some.injEq] at hpkhStr
      refine ⟨_, hamount, ?_, ?_⟩
      · rw [hvalue, hout]
      · rw [hfield, hpkhStr]

theorem createrawcertificate_backward_transfers_round_trip_of_sample :
    createrawcertificate sampleCreateOps (.arr []) sampleVoutAddresses sampleBackwardAddresses
        sampleParameters = .ok sampleCertificate ∧
      ∃ entry vout, certToJSON sampleJsonOps emptyChain sampleCertificate 0 = some entry ∧
        (UniValue.obj entry).findValue "vout" = .arr vout ∧
        vout.length = sampleVoutAddresses.getKeys.length + sampleBackwardAddresses.getKeys.length ∧
        (∀ i < vout.length, (vout.getD i .null).findValue "backward transfer" =
          if sampleVoutAddresses.getKeys.length ≤ i then .bool true else .null) ∧
        ∀ j < sampleBackwardAddresses.getKeys.length, ∃ nAmount,
          sampleCreateOps.amountFromValue (sampleBackwardAddresses.findValue
            (sampleBackwardAddresses.getKeys.getD j "")) = .ok nAmount ∧
          (vout.getD (sampleVoutAddresses.getKeys.length + j) .null).findValue "valueZat" =
            .ofInt nAmount ∧
          (vout.getD (sampleVoutAddresses.getKeys.length + j) .null).findValue "pubkeyhash" =
            .str (getHex (setHex 160 (sampleBackwardAddresses.getKeys.getD j ""))) :=
  ⟨createrawcertificate_sample, createrawcertificate_backward_transfers_round_trip sampleCreateOps
    sampleJsonOps emptyChain 0 _ _ _ _ _ createrawcertificate_sample⟩

theorem createrawcertificate_accepts_exactly_the_parameter_grammar (ops : CertCreateOps)
    (transactions voutAddresses backwardAddresses certificateParameters : UniValue)
    (cert : CMutableScCertificate)
    (h : createrawcertificate ops transactions voutAddresses backwardAddresses
      certificateParameters = .ok cert) :
    certificateParameters.getKeys.Perm
      ["scid", "withdrawalEpochNumber", "quality", "endEpochBlockHash", "scProof"] := by
  have hc := createrawcertificate_eq_ok h
  exact (List.perm_ext_iff_of_nodup hc.keys_nodup (by decide)).mpr
    fun k => ⟨hc.keys_valid k, hc.keys_given k⟩

theorem createrawcertificate_accepts_exactly_the_parameter_grammar_of_sample :
    createrawcertificate sampleCreateOps (.arr []) sampleVoutAddresses sampleBackwardAddresses
        sampleParameters = .ok sampleCertificate ∧
      sampleParameters.getKeys.Perm
        ["scid", "withdrawalEpochNumber", "quality", "endEpochBlockHash", "scProof"] :=
  ⟨createrawcertificate_sample,
    createrawcertificate_accepts_exactly_the_parameter_grammar _ _ _ _ _ _ createrawcertificate_sample⟩

theorem createrawcertificate_quality_and_payees (ops : CertCreateOps)
    (transactions voutAddresses backwardAddresses certificateParameters : UniValue)
    (cert : CMutableScCertificate)
    (h : createrawcertificate ops transactions voutAddresses backwardAddresses
      certificateParameters = .ok cert) :
    0 ≤ cert.quality ∧ (voutAddresses.getKeys.map ops.setString).Nodup ∧
      (backwardAddresses.getKeys.map (setHex 160)).Nodup ∧
      cert.nFirstBwtPos = voutAddresses.getKeys.length ∧
      cert.vout.length = voutAddresses.getKeys.length + backwardAddresses.getKeys.length := by
  have hc := createrawcertificate_eq_ok h
  obtain ⟨stdOuts, bwtOuts, hvout, hfirst, hstd, hbwt⟩ := hc.outputs
  have hbwtNodup : ((backwardAddresses.getKeys.map (setHex 160)).map
      (CBitcoinAddress.ofKeyID ops.base58Prefixes)).Nodup := by
    simpa only [List.map_map] using hc.backward_addresses
  exact ⟨hc.quality.2, hc.standard_addresses, hbwtNodup.of_map _,
    by rw [hfirst, hstd.length_eq],
    by rw [hvout, List.length_append, hstd.length_eq, hbwt.length_eq]⟩

theorem createrawcertificate_quality_and_payees_of_sample :
    createrawcertificate sampleCreateOps (.arr []) sampleVoutAddresses sampleBackwardAddresses
        sampleParameters = .ok sampleCertificate ∧
      0 ≤ sampleCertificate.quality ∧
      (sampleVoutAddresses.getKeys.map sampleCreateOps.setString).Nodup ∧
      (sampleBackwardAddresses.getKeys.map (setHex 160)).Nodup ∧
      sampleCertificate.nFirstBwtPos = sampleVoutAddresses.getKeys.length ∧
      sampleCertificate.vout.length =
        sampleVoutAddresses.getKeys.length + sampleBackwardAddresses.getKeys.length :=
  ⟨createrawcertificate_sample,
    createrawcertificate_quality_and_payees _ _ _ _ _ _ createrawcertificate_sample⟩

def negativeEpochParameters (scProof : String) : UniValue :=
  .obj [("scid", .str "ab"), ("withdrawalEpochNumber", .num "-1"), ("quality", .num "0"),
    ("endEpochBlockHash", .str "cd"), ("scProof", .str scProof)]

theorem createrawcertificate_accepts_a_negative_epoch (ops : CertCreateOps) (scProof : String)
    (scProofVec : List UInt8) (hproof : ops.addScData scProof = .ok scProofVec)
    (hvalid : ops.isValidScProof scProofVec = true) :
    ∃ cert, createrawcertificate ops (.arr []) (.obj []) (.obj [])
      (negativeEpochParameters scProof) = .ok cert ∧ cert.epochNumber = -1 := by
  have hread : readScProof ops (negativeEpochParameters scProof) = .ok scProofVec := by
    simp [readScProof, negativeEpochParameters, UniValue.findValue, UniValue.getStr, bind,
      Except.bind, hproof, hvalid, pure, Except.pure]
  have hrun : createrawcertificate ops (.arr []) (.obj []) (.obj [])
      (negativeEpochParameters scProof) =
      (fun scProof => { nVersion := ops.scCertVersion
                        vin := []
                        vout := []
                        scId := setHex 256 "ab"
                        epochNumber := -1
                        quality := 0
                        endEpochBlockHash := setHex 256 "cd"
                        scProof := scProof
                        nFirstBwtPos := 0 }) <$> readScProof ops (negativeEpochParameters scProof) :=
    rfl
  rw [hrun, hread]
  exact ⟨_, rfl, rfl⟩

theorem createrawcertificate_accepts_a_negative_epoch_of_sample :
    sampleCreateOps.addScData sampleProofHex = .ok (List.replicate SC_PROOF_SIZE 0x11) ∧
      sampleCreateOps.isValidScProof (List.replicate SC_PROOF_SIZE 0x11) = true ∧
      ∃ cert, createrawcertificate sampleCreateOps (.arr []) (.obj []) (.obj [])
        (negativeEpochParameters sampleProofHex) = .ok cert ∧ cert.epochNumber = -1 :=
  ⟨sampleCreateOps_addScData, rfl, createrawcertificate_accepts_a_negative_epoch sampleCreateOps
    sampleProofHex _ sampleCreateOps_addScData rfl⟩

end ZendRawTx
