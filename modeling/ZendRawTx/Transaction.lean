import ZendRawTx.Primitives

/-!
# Transactions and certificates

The joinsplit, sidechain and proof payloads pass through every handler untouched and are kept
as bytes. `HasInputs` is what the signing loops see of either entity: its input list.
-/

namespace ZendRawTx

set_option autoImplicit false

structure COutPoint where
  hash : Uint256
  n : Nat
  deriving DecidableEq, Repr, Inhabited

structure CTxIn where
  prevout : COutPoint
  scriptSig : CScript
  nSequence : Nat
  deriving DecidableEq, Repr, Inhabited

structure CTxOut where
  nValue : Int
  scriptPubKey : CScript
  deriving DecidableEq, Repr

/-- A default-constructed `CTxOut` is null: `nValue = -1`. -/
instance : Inhabited CTxOut := ⟨⟨-1, []⟩⟩

def CTxOut.isNull (out : CTxOut) : Bool := out.nValue == -1

structure CMutableTransactionBase where
  nVersion : Int
  vin : List CTxIn
  vout : List CTxOut
  deriving DecidableEq, Repr, Inhabited

/-- A joinsplit description, as its serialized bytes. -/
abbrev JSDescription := List UInt8

abbrev CTxScCreationOut := List UInt8

abbrev CTxForwardTransferOut := List UInt8

structure CMutableTransaction extends CMutableTransactionBase where
  nLockTime : Nat
  vjoinsplit : List JSDescription
  joinSplitPubKey : Uint256
  joinSplitSig : List UInt8
  vsc_ccout : List CTxScCreationOut
  vft_ccout : List CTxForwardTransferOut
  deriving DecidableEq, Repr, Inhabited

/-- Backward transfers are the outputs from `nFirstBwtPos` on. -/
structure CMutableScCertificate extends CMutableTransactionBase where
  scId : Uint256
  epochNumber : Int
  quality : Int
  endEpochBlockHash : Uint256
  scProof : List UInt8
  nFirstBwtPos : Nat
  deriving DecidableEq, Repr, Inhabited

/-- Modelled from the spec: `COutPoint::IsNull`, the null hash at index `(uint32_t) -1`. -/
def COutPoint.isNull (o : COutPoint) : Bool := o.hash == 0 && o.n == 4294967295

/-- Modelled from the spec: `IsCoinBase`, one input spending the null outpoint. -/
def CMutableTransaction.isCoinBase (tx : CMutableTransaction) : Bool :=
  match tx.vin with
  | [txin] => txin.prevout.isNull
  | _ => false

/-- Modelled from the spec: `CMutableTransaction::addOut`, the output last. -/
def CMutableTransaction.addOut (tx : CMutableTransaction) (out : CTxOut) : CMutableTransaction :=
  { tx with vout := tx.vout ++ [out] }

theorem CMutableTransaction.foldl_addOut (outs : List CTxOut) (tx : CMutableTransaction) :
    outs.foldl addOut tx = { tx with vout := tx.vout ++ outs } := by
  induction outs generalizing tx with
  | nil => simp
  | cons out outs ih => rw [List.foldl_cons, ih]; simp [addOut]

namespace CMutableScCertificate

/-- Modelled from the spec: `CMutableScCertificate::addOut`, before the backward transfers. -/
def addOut (cert : CMutableScCertificate) (out : CTxOut) : CMutableScCertificate :=
  { cert with
    vout := cert.vout.take cert.nFirstBwtPos ++ out :: cert.vout.drop cert.nFirstBwtPos
    nFirstBwtPos := cert.nFirstBwtPos + 1 }

/-- Modelled from the spec: `CMutableScCertificate::addBwt`, the backward transfer last. -/
def addBwt (cert : CMutableScCertificate) (out : CTxOut) : CMutableScCertificate :=
  { cert with vout := cert.vout ++ [out] }

theorem foldl_addOut (outs : List CTxOut) (cert : CMutableScCertificate)
    (h : cert.nFirstBwtPos ≤ cert.vout.length) :
    outs.foldl addOut cert =
      { cert with
        vout := cert.vout.take cert.nFirstBwtPos ++ outs ++ cert.vout.drop cert.nFirstBwtPos
        nFirstBwtPos := cert.nFirstBwtPos + outs.length } := by
  induction outs generalizing cert with
  | nil => simp
  | cons out outs ih =>
    have hA : (cert.vout.take cert.nFirstBwtPos ++ [out]).length = cert.nFirstBwtPos + 1 := by
      simp [List.length_take_of_le h]
    rw [List.foldl_cons, ih _ (by simp [addOut]; omega)]
    simp only [addOut]
    rw [List.append_cons (cert.vout.take cert.nFirstBwtPos) out (cert.vout.drop cert.nFirstBwtPos),
      List.take_left' hA, List.drop_left' hA]
    simp [Nat.add_assoc, Nat.add_comm 1]

theorem foldl_addBwt (outs : List CTxOut) (cert : CMutableScCertificate) :
    outs.foldl addBwt cert = { cert with vout := cert.vout ++ outs } := by
  induction outs generalizing cert with
  | nil => simp
  | cons out outs ih => rw [List.foldl_cons, ih]; simp [addBwt]

end CMutableScCertificate

/-- What the signing loops see of an entity: the inputs, read and replaced. -/
class HasInputs (σ : Type) where
  vin : σ → List CTxIn
  withVin : σ → List CTxIn → σ
  vin_withVin (e : σ) (l : List CTxIn) : vin (withVin e l) = l
  withVin_withVin (e : σ) (l l' : List CTxIn) : withVin (withVin e l) l' = withVin e l'
  withVin_vin (e : σ) : withVin e (vin e) = e

instance : HasInputs CMutableTransaction where
  vin e := e.vin
  withVin e l := { e with vin := l }
  vin_withVin _ _ := rfl
  withVin_withVin _ _ _ := rfl
  withVin_vin _ := rfl

instance : HasInputs CMutableScCertificate where
  vin e := e.vin
  withVin e l := { e with vin := l }
  vin_withVin _ _ := rfl
  withVin_withVin _ _ _ := rfl
  withVin_vin _ := rfl

namespace HasInputs

variable {σ : Type} [HasInputs σ]

attribute [simp] vin_withVin withVin_withVin withVin_vin

/-- `vin[i]`; every read of the loops is below the input count. -/
def vinAt (e : σ) (i : Nat) : CTxIn := (vin e).getD i default

/-- `txin.scriptSig = s` for `txin = vin[i]`. -/
def setScriptSig (e : σ) (i : Nat) (s : CScript) : σ :=
  withVin e ((vin e).modify (fun txin => { txin with scriptSig := s }) i)

/-- The entity with every scriptSig emptied: all a signing loop must leave alone. -/
def stripScriptSigs (e : σ) : σ :=
  withVin e ((vin e).map fun txin => { txin with scriptSig := [] })

theorem vinAt_eq_getElem (e : σ) {i : Nat} (h : i < (vin e).length) :
    vinAt e i = (vin e)[i] := by
  simp [vinAt, List.getD_eq_getElem?_getD, List.getElem?_eq_getElem h]

@[simp] theorem length_vin_setScriptSig (e : σ) (i : Nat) (s : CScript) :
    (vin (setScriptSig e i s)).length = (vin e).length := by
  simp [setScriptSig]

theorem vinAt_setScriptSig (e : σ) (i j : Nat) (s : CScript) :
    vinAt (setScriptSig e i s) j =
      if i = j ∧ j < (vin e).length then { vinAt e j with scriptSig := s } else vinAt e j := by
  simp only [vinAt, setScriptSig, vin_withVin, List.getD_eq_getElem?_getD, List.getElem?_modify]
  by_cases hj : j < (vin e).length
  · by_cases h : i = j <;> simp [List.getElem?_eq_getElem hj, h, hj]
  · simp [List.getElem?_eq_none (Nat.le_of_not_lt hj), hj]

@[simp] theorem vinAt_setScriptSig_self (e : σ) {i : Nat} (s : CScript)
    (hi : i < (vin e).length) :
    vinAt (setScriptSig e i s) i = { vinAt e i with scriptSig := s } := by
  simp [vinAt_setScriptSig, hi]

theorem vinAt_setScriptSig_of_ne (e : σ) {i j : Nat} (s : CScript) (h : i ≠ j) :
    vinAt (setScriptSig e i s) j = vinAt e j := by
  simp [vinAt_setScriptSig, h]

@[simp] theorem setScriptSig_setScriptSig (e : σ) (i : Nat) (s t : CScript) :
    setScriptSig (setScriptSig e i s) i t = setScriptSig e i t := by
  simp only [setScriptSig, vin_withVin, withVin_withVin, List.modify_modify_eq]
  rfl

@[simp] theorem stripScriptSigs_setScriptSig (e : σ) (i : Nat) (s : CScript) :
    stripScriptSigs (setScriptSig e i s) = stripScriptSigs e := by
  simp only [stripScriptSigs, setScriptSig, vin_withVin, withVin_withVin]
  congr 1
  apply List.ext_getElem (by simp)
  intro j h₁ h₂
  simp only [List.getElem_map, List.getElem_modify]
  split <;> rfl

theorem eq_of_stripScriptSigs {a b : σ} (h : stripScriptSigs a = stripScriptSigs b)
    (hs : ∀ j, (vinAt a j).scriptSig = (vinAt b j).scriptSig) : a = b := by
  have hmap := congrArg vin h
  simp only [stripScriptSigs, vin_withVin] at hmap
  have hlen : (vin a).length = (vin b).length := by simpa using congrArg List.length hmap
  have hvin : vin a = vin b := List.ext_getElem hlen fun j h₁ h₂ => by
    have hj := List.getElem_of_eq hmap (by simpa using h₁)
    have hsj := hs j
    simp only [List.getElem_map] at hj
    rw [vinAt_eq_getElem _ h₁, vinAt_eq_getElem _ h₂] at hsj
    revert hj hsj
    cases (vin a)[j]; cases (vin b)[j]
    simp_all
  calc a = withVin (stripScriptSigs a) (vin a) := by simp [stripScriptSigs]
    _ = withVin (stripScriptSigs b) (vin b) := by rw [h, hvin]
    _ = b := by simp [stripScriptSigs]

end HasInputs

end ZendRawTx
