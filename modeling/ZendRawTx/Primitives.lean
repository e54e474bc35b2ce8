import Mathlib.Algebra.Group.Nat.Basic
import Mathlib.Data.List.Basic

/-!
# Hashes, scripts, hex strings and JSON values

A `uint256` is the number `GetHex` prints, a script its bytes, a `UniValue` number its text.
The string and argument helpers of `utilstrencodings.cpp`, univalue and `rpcserver.cpp` are
outside the sources and modelled from the spec.
-/

namespace ZendRawTx

set_option autoImplicit false

/-- `uint256`, as the number its `GetHex` prints. -/
abbrev Uint256 := BitVec 256

abbrev Uint160 := BitVec 160

abbrev CScript := List UInt8

def OP_HASH160 : UInt8 := 0xa9

/-- Modelled from the spec: `HexDigit`, the value of one hexadecimal digit. -/
def hexDigit (c : Char) : Option Nat :=
  if '0' ≤ c ∧ c ≤ '9' then some (c.toNat - '0'.toNat)
  else if 'a' ≤ c ∧ c ≤ 'f' then some (c.toNat - 'a'.toNat + 10)
  else if 'A' ≤ c ∧ c ≤ 'F' then some (c.toNat - 'A'.toNat + 10)
  else none

/-- Modelled from the spec: `IsHex`: non-empty, of even length, hexadecimal digits only. -/
def isHex (s : String) : Bool :=
  s.data.all (fun c => (hexDigit c).isSome) && 0 < s.length && s.length % 2 == 0

/-- `HexStr`: two lowercase digits per byte, the high half first. -/
def hexStr (bytes : List UInt8) : String :=
  ⟨bytes.flatMap fun b => [Nat.digitChar (b.toNat / 16), Nat.digitChar (b.toNat % 16)]⟩

/-- `base_blob::GetHex`: the `w / 4` lowercase digits of the value, most significant first. -/
def getHex {w : Nat} (x : BitVec w) : String :=
  ⟨(Nat.toDigits 16 x.toNat).leftpad (w / 4) '0'⟩

def isSpace (c : Char) : Bool :=
  c = ' ' || c = '\t' || c = '\n' || c = Char.ofNat 11 || c = Char.ofNat 12 || c = '\r'

def hexValue (cs : List Char) : Nat :=
  cs.foldl (fun acc c => 16 * acc + (hexDigit c).getD 0) 0

/-- Modelled from the spec: `base_blob::SetHex`, the value modulo `2 ^ w`. -/
def setHex (w : Nat) (s : String) : BitVec w :=
  let cs := s.data.dropWhile isSpace
  let cs := match cs with
    | '0' :: c :: rest => if c = 'x' ∨ c = 'X' then rest else cs
    | _ => cs
  BitVec.ofNat w (hexValue (cs.takeWhile fun c => (hexDigit c).isSome))

def uint256S (s : String) : Uint256 := setHex 256 s

/-- `ParseHex`'s loop, at most `fuel` bytes. -/
def parseHexAux : Nat → List Char → List UInt8
  | 0, _ => []
  | fuel + 1, cs =>
    match cs.dropWhile isSpace with
    | c1 :: c2 :: rest =>
      match hexDigit c1, hexDigit c2 with
      | some hi, some lo => UInt8.ofNat (16 * hi + lo) :: parseHexAux fuel rest
      | _, _ => []
    | _ => []

/-- Modelled from the spec: `ParseHex`, the bytes of a hex dump. -/
def parseHex (s : String) : List UInt8 := parseHexAux s.length s.data

/-- The `k` bytes of `n`, least significant first, as a `base_blob` holds its value. -/
def leBytes : Nat → Nat → List UInt8
  | 0, _ => []
  | k + 1, n => UInt8.ofNat (n % 256) :: leBytes k (n / 256)

def toByteVector {w : Nat} (x : BitVec w) : List UInt8 := leBytes (w / 8) x.toNat

def leValue (bytes : List UInt8) : Nat := bytes.foldr (fun b acc => b.toNat + 256 * acc) 0

/-- A `base_blob` filled by `memcpy` from bytes in memory order. -/
def blobOfBytes (w : Nat) (bytes : List UInt8) : BitVec w := BitVec.ofNat w (leValue bytes)

/-- `%0*x`: the `m` low hexadecimal digits of `n`, most significant first. -/
def hexDigits : Nat → Nat → List Char
  | 0, _ => []
  | m + 1, n => hexDigits m (n / 16) ++ [Nat.digitChar (n % 16)]

@[simp] theorem length_leBytes (k n : Nat) : (leBytes k n).length = k := by
  induction k generalizing n with
  | zero => rfl
  | succ k ih => simp [leBytes, ih]

theorem leValue_leBytes (k n : Nat) : leValue (leBytes k n) = n % 256 ^ k := by
  induction k generalizing n with
  | zero => simp [leBytes, leValue, Nat.mod_one]
  | succ k ih =>
    have ih' := ih (n / 256)
    simp only [leValue] at ih' ⊢
    rw [leBytes, List.foldr_cons, ih', Nat.pow_succ', Nat.mod_mul,
      UInt8.toNat_ofNat_of_lt (Nat.mod_lt _ (by decide))]

theorem blobOfBytes_toByteVector {w : Nat} (hw : w % 8 = 0) (x : BitVec w) :
    blobOfBytes w (toByteVector x) = x := by
  have hlt : x.toNat < 256 ^ (w / 8) := by
    have h := x.isLt
    rwa [show 2 ^ w = 256 ^ (w / 8) by rw [show (256 : Nat) = 2 ^ 8 from rfl, ← Nat.pow_mul]; congr 1; omega] at h
  rw [blobOfBytes, toByteVector, leValue_leBytes, Nat.mod_eq_of_lt hlt, BitVec.ofNat_toNat, BitVec.setWidth_eq]

theorem toDigits_eq_toDigitsCore (n : Nat) :
    Nat.toDigits 16 n = Nat.toDigitsCore 16 (n + 1) n [] := rfl

theorem toDigitsCore_succ (f n : Nat) (ds : List Char) :
    Nat.toDigitsCore 16 (f + 1) n ds =
      if n / 16 = 0 then Nat.digitChar (n % 16) :: ds
      else Nat.toDigitsCore 16 f (n / 16) (Nat.digitChar (n % 16) :: ds) := rfl

theorem toDigitsCore_acc (f n : Nat) (ds : List Char) :
    Nat.toDigitsCore 16 f n ds = Nat.toDigitsCore 16 f n [] ++ ds := by
  induction f generalizing n ds with
  | zero => rfl
  | succ f ih =>
    simp only [toDigitsCore_succ]
    split
    · rfl
    · rw [ih _ (_ :: ds), ih _ [_], List.append_assoc, List.singleton_append]

theorem toDigitsCore_fuel (f g n : Nat) (ds : List Char) (hf : n < f) (hg : n < g) :
    Nat.toDigitsCore 16 f n ds = Nat.toDigitsCore 16 g n ds := by
  induction f generalizing g n ds with
  | zero => omega
  | succ f ih =>
    obtain ⟨g, rfl⟩ : ∃ g', g = g' + 1 := ⟨g - 1, by omega⟩
    simp only [toDigitsCore_succ]
    split
    · rfl
    · exact ih _ _ _ (by omega) (by omega)

theorem toDigits_sixteen (n : Nat) :
    Nat.toDigits 16 n = (if n < 16 then [] else Nat.toDigits 16 (n / 16)) ++
      [Nat.digitChar (n % 16)] := by
  rw [toDigits_eq_toDigitsCore, toDigitsCore_succ]
  by_cases hn : n < 16
  · rw [if_pos (by omega), if_pos hn]; rfl
  · rw [if_neg (by omega), if_neg hn, toDigitsCore_acc, toDigits_eq_toDigitsCore,
      toDigitsCore_fuel n (n / 16 + 1) _ _ (by omega) (by omega)]

theorem hexDigits_zero (m : Nat) : hexDigits m 0 = List.replicate m '0' := by
  induction m with
  | zero => rfl
  | succ m ih => rw [hexDigits, ih, List.replicate_succ']; rfl

theorem leftpad_append_singleton (m : Nat) (l : List Char) (c : Char) :
    (l ++ [c]).leftpad (m + 1) '0' = l.leftpad m '0' ++ [c] := by
  simp only [List.leftpad, List.length_append, List.length_singleton, List.append_assoc]
  congr 2
  omega

theorem leftpad_toDigits (m n : Nat) (hm : 0 < m) (hn : n < 16 ^ m) :
    (Nat.toDigits 16 n).leftpad m '0' = hexDigits m n := by
  induction m generalizing n with
  | zero => omega
  | succ m ih =>
    rw [toDigits_sixteen, leftpad_append_singleton, hexDigits]
    congr 1
    by_cases h16 : n < 16
    · rw [if_pos h16, Nat.div_eq_of_lt h16, hexDigits_zero]
      simp [List.leftpad]
    · rw [if_neg h16]
      have hm' : 0 < m := by
        rcases m with _ | m
        · simp at hn; omega
        · omega
      exact ih _ hm' (by rw [Nat.pow_succ] at hn; omega)

theorem hexStr_leBytes_reverse (k n : Nat) :
    (hexStr (leBytes k n).reverse).data = hexDigits (2 * k) n := by
  induction k generalizing n with
  | zero => rfl
  | succ k ih =>
    have hb : (UInt8.ofNat (n % 256)).toNat = n % 256 :=
      UInt8.toNat_ofNat_of_lt (Nat.mod_lt _ (by decide))
    rw [show 2 * (k + 1) = 2 * k + 1 + 1 by omega, hexDigits, hexDigits, Nat.div_div_eq_div_mul]
    simp only [hexStr, leBytes, List.reverse_cons, List.flatMap_append, List.flatMap_cons,
      List.flatMap_nil, List.append_nil, hb] at ih ⊢
    rw [ih, List.append_assoc, show n % 256 / 16 = n / 16 % 16 by omega,
      show n % 256 % 16 = n % 16 by omega]
    rfl

theorem getHex_eq_hexStr {w : Nat} (hw : w % 8 = 0) (hpos : 0 < w) (x : BitVec w) :
    getHex x = hexStr (toByteVector x).reverse := by
  have hlt : x.toNat < 16 ^ (w / 4) := by
    have h := x.isLt
    rwa [show 2 ^ w = 16 ^ (w / 4) by rw [show (16 : Nat) = 2 ^ 4 from rfl, ← Nat.pow_mul]; congr 1; omega] at h
  rw [getHex, toByteVector, String.ext_iff, hexStr_leBytes_reverse,
    leftpad_toDigits _ _ (by omega) hlt, show w / 4 = 2 * (w / 8) by omega]

theorem bind_eq_ok {ε α β : Type} {x : Except ε α} {f : α → Except ε β} {b : β} :
    x >>= f = .ok b ↔ ∃ a, x = .ok a ∧ f a = .ok b := by
  cases x <;> simp [bind, Except.bind]

theorem map_eq_ok {ε α β : Type} {x : Except ε α} {f : α → β} {b : β} :
    f <$> x = .ok b ↔ ∃ a, x = .ok a ∧ f a = b := by
  cases x <;> simp [Functor.map, Except.map]

/-- `UniValue`; a number keeps its text, an object its keys in order with repetitions. -/
inductive UniValue where
  | null
  | bool (b : Bool)
  | num (val : String)
  | str (val : String)
  | arr (values : List UniValue)
  | obj (entries : List (String × UniValue))
  deriving Inhabited

inductive VType where
  | VNULL
  | VOBJ
  | VARR
  | VSTR
  | VNUM
  | VBOOL
  deriving DecidableEq, Repr

def UniValue.type : UniValue → VType
  | null => .VNULL
  | bool _ => .VBOOL
  | num _ => .VNUM
  | str _ => .VSTR
  | arr _ => .VARR
  | obj _ => .VOBJ

def uvTypeName : VType → String
  | .VNULL => "null"
  | .VBOOL => "bool"
  | .VOBJ => "object"
  | .VARR => "array"
  | .VSTR => "string"
  | .VNUM => "number"

inductive RPCErrorCode where
  | rpcInvalidParameter
  | rpcInvalidAddressOrKey
  | rpcDeserializationError
  | rpcInternalError
  | rpcTypeError
  | rpcTransactionError
  | rpcTransactionRejected
  | rpcTransactionAlreadyInChain
  deriving DecidableEq, Repr

/-- How a failed call ends: a `JSONRPCError`, another exception, or undefined behaviour. -/
inductive RPCError where
  | jsonRPCError (code : RPCErrorCode) (message : String)
  | runtimeError (what : String)
  | undefinedBehaviour (what : String)
  deriving DecidableEq, Repr

namespace UniValue

def isNull : UniValue → Bool
  | null => true
  | _ => false

def isObject : UniValue → Bool
  | obj _ => true
  | _ => false

/-- `find_value`: the value of the first entry with this key, `null` when there is none. -/
def findValue (o : UniValue) (key : String) : UniValue :=
  match o with
  | obj entries => ((entries.find? fun e => e.1 = key).map Prod.snd).getD null
  | _ => null

/-- `UniValue::getKeys`, in order and with repetitions. -/
def getKeys : UniValue → List String
  | obj entries => entries.map Prod.fst
  | _ => []

def getStr : UniValue → Except RPCError String
  | str s => .ok s
  | _ => .error (.runtimeError "JSON value is not a string as expected")

def getArray : UniValue → Except RPCError (List UniValue)
  | arr values => .ok values
  | _ => .error (.runtimeError "JSON value is not an array as expected")

def getObj : UniValue → Except RPCError UniValue
  | obj entries => .ok (obj entries)
  | _ => .error (.runtimeError "JSON value is not an object as expected")

def getBool : UniValue → Except RPCError Bool
  | bool b => .ok b
  | _ => .error (.runtimeError "JSON value is not a boolean as expected")

theorem getObj_eq_ok {v o : UniValue} (h : v.getObj = .ok o) : o = v := by
  cases v <;> cases h
  rfl

theorem getArray_eq_ok {v : UniValue} {values : List UniValue} (h : v.getArray = .ok values) :
    v = .arr values := by
  cases v <;> cases h
  rfl

end UniValue

/-- Modelled from the spec: `RPCTypeCheckObj`, each expected key present with its type. -/
def rpcTypeCheckObj (o : UniValue) (typesExpected : List (String × VType)) :
    Except RPCError Unit :=
  typesExpected.forM fun t =>
    let v := o.findValue t.1
    if v.isNull then .error (.jsonRPCError .rpcTypeError ("Missing " ++ t.1))
    else if v.type ≠ t.2 then
      .error (.jsonRPCError .rpcTypeError
        ("Expected type " ++ uvTypeName t.2 ++ " for " ++ t.1 ++ ", got " ++ uvTypeName v.type))
    else .ok ()

/-- Modelled from the spec: `RPCTypeCheck`, the parameters of the types expected. -/
def rpcTypeCheck (params : List UniValue) (typesExpected : List VType) : Except RPCError Unit :=
  (params.zip typesExpected).forM fun vt =>
    if vt.1.type ≠ vt.2 then
      .error (.jsonRPCError .rpcTypeError
        ("Expected type " ++ uvTypeName vt.2 ++ ", got " ++ uvTypeName vt.1.type))
    else .ok ()

/-- Modelled from the spec: `RPCTypeCheck` with `fAllowNull`. -/
def rpcTypeCheckAllowNull (params : List UniValue) (typesExpected : List VType) :
    Except RPCError Unit :=
  (params.zip typesExpected).forM fun vt =>
    if vt.1.type ≠ vt.2 ∧ !vt.1.isNull then
      .error (.jsonRPCError .rpcTypeError
        ("Expected type " ++ uvTypeName vt.2 ++ ", got " ++ uvTypeName vt.1.type))
    else .ok ()

/-- The string `ParseHashV` and `ParseHexV` read, empty for a value that is not one. -/
def hexArgument : UniValue → String
  | .str s => s
  | _ => ""

/-- Modelled from the spec: `ParseHexV`, the bytes of a hex string. -/
def parseHexV (v : UniValue) (strName : String) : Except RPCError (List UInt8) :=
  if isHex (hexArgument v) then .ok (parseHex (hexArgument v))
  else .error (.jsonRPCError .rpcInvalidParameter
    (strName ++ " must be hexadecimal string (not \x27" ++ hexArgument v ++ "\x27)"))

/-- Modelled from the spec: `ParseHashV`, the `uint256` a hex string sets. -/
def parseHashV (v : UniValue) (strName : String) : Except RPCError Uint256 :=
  if isHex (hexArgument v) then .ok (uint256S (hexArgument v))
  else .error (.jsonRPCError .rpcInvalidParameter
    (strName ++ " must be hexadecimal string (not \x27" ++ hexArgument v ++ "\x27)"))

def parseHexO (o : UniValue) (strKey : String) : Except RPCError (List UInt8) :=
  parseHexV (o.findValue strKey) strKey

def parseHashO (o : UniValue) (strKey : String) : Except RPCError Uint256 :=
  parseHashV (o.findValue strKey) strKey

/-- Modelled from the spec: the loop of `ParseInt32` and `ParseInt64`, in `[lo, hi]`. -/
def parseIntInRange (lo hi : Int) (s : String) : Option Int :=
  let (neg, ds) := match s.data with
    | '-' :: ds => (true, ds)
    | '+' :: ds => (false, ds)
    | ds => (false, ds)
  if ds ≠ [] ∧ ds.all Char.isDigit then
    let v : Int := if neg then -(ds.foldl (fun a c => 10 * a + (c.toNat - '0'.toNat)) 0 : Nat)
      else (ds.foldl (fun a c => 10 * a + (c.toNat - '0'.toNat)) 0 : Nat)
    if lo ≤ v ∧ v ≤ hi then some v else none
  else none

def parseInt32 (s : String) : Option Int := parseIntInRange (-2147483648) 2147483647 s

def parseInt64 (s : String) : Option Int :=
  parseIntInRange (-9223372036854775808) 9223372036854775807 s

/-- What `UniValue::get_int` and `UniValue::get_int64` share: a number, read by `parse`. -/
def UniValue.getIntWith (parse : String → Option Int) : UniValue → Except RPCError Int
  | num val => match parse val with
    | some v => .ok v
    | none => .error (.runtimeError "JSON integer out of range")
  | _ => .error (.runtimeError "JSON value is not an integer as expected")

def UniValue.getInt (v : UniValue) : Except RPCError Int := v.getIntWith parseInt32

def UniValue.getInt64 (v : UniValue) : Except RPCError Int := v.getIntWith parseInt64

theorem parseIntInRange_range {lo hi v : Int} {s : String} (h : parseIntInRange lo hi s = some v) :
    lo ≤ v ∧ v ≤ hi := by
  unfold parseIntInRange at h
  split at h
  dsimp only at h
  split_ifs at h <;> cases h <;> assumption

theorem UniValue.getInt_range {u : UniValue} {n : Int} (h : u.getInt = .ok n) :
    -2147483648 ≤ n ∧ n ≤ 2147483647 := by
  cases u with
  | num val =>
    simp only [UniValue.getInt, UniValue.getIntWith] at h
    split at h
    · cases h; exact parseIntInRange_range ‹_›
    · cases h
  | _ => cases h

end ZendRawTx
