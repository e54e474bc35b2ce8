import ZendRawTx.Primitives

/-!
# Printing and parsing hex

Each parser reads back what its printer writes: `ParseHex (HexStr b) = b` and
`SetHex (GetHex x) = x`.
-/

namespace ZendRawTx

set_option autoImplicit false

theorem hexDigit_digitChar_fin : ∀ d : Fin 16, hexDigit (Nat.digitChar d) = some d := by
  decide

theorem isSpace_digitChar_fin : ∀ d : Fin 16, isSpace (Nat.digitChar d) = false := by
  decide

theorem hexDigit_digitChar {d : Nat} (hd : d < 16) : hexDigit (Nat.digitChar d) = some d :=
  hexDigit_digitChar_fin ⟨d, hd⟩

theorem isSpace_digitChar {d : Nat} (hd : d < 16) : isSpace (Nat.digitChar d) = false :=
  isSpace_digitChar_fin ⟨d, hd⟩

theorem ofNat_toNat_uint8 (b : UInt8) : UInt8.ofNat b.toNat = b :=
  UInt8.eq_of_val_eq (by simp [UInt8.ofNat, UInt8.toNat])

theorem hexStr_data_cons (b : UInt8) (bytes : List UInt8) :
    (hexStr (b :: bytes)).data =
      Nat.digitChar (b.toNat / 16) :: Nat.digitChar (b.toNat % 16) :: (hexStr bytes).data := rfl

theorem toNat_div_sixteen_lt (b : UInt8) : b.toNat / 16 < 16 := by
  have : b.toNat < 256 := b.toNat_lt_size
  omega

theorem length_hexStr (bytes : List UInt8) : (hexStr bytes).length = 2 * bytes.length := by
  induction bytes with
  | nil => rfl
  | cons b bytes ih =>
    simp only [String.length, hexStr_data_cons, List.length_cons] at ih ⊢
    omega

theorem parseHexAux_hexStr (bytes : List UInt8) :
    ∀ fuel, bytes.length ≤ fuel → parseHexAux fuel (hexStr bytes).data = bytes := by
  induction bytes with
  | nil => intro fuel _; cases fuel <;> rfl
  | cons b bytes ih =>
    intro fuel hfuel
    obtain ⟨f, rfl⟩ : ∃ f, fuel = f + 1 := ⟨fuel - 1, by simp at hfuel; omega⟩
    have hhi := toNat_div_sixteen_lt b
    have hlo : b.toNat % 16 < 16 := Nat.mod_lt _ (by decide)
    rw [hexStr_data_cons, parseHexAux, List.dropWhile_cons_of_neg (by simp [isSpace_digitChar hhi])]
    simp only [hexDigit_digitChar hhi, hexDigit_digitChar hlo, ih f (by simp at hfuel; omega),
      Nat.div_add_mod, ofNat_toNat_uint8]

theorem parseHex_hexStr (bytes : List UInt8) : parseHex (hexStr bytes) = bytes :=
  parseHexAux_hexStr bytes _ (by rw [length_hexStr]; omega)

theorem hexStr_digits (bytes : List UInt8) :
    ∀ c ∈ (hexStr bytes).data, ∃ d < 16, c = Nat.digitChar d := by
  induction bytes with
  | nil => simp [hexStr]
  | cons b bytes ih =>
    intro c hc
    rw [hexStr_data_cons] at hc
    rcases List.mem_cons.mp hc with rfl | hc
    · exact ⟨_, toNat_div_sixteen_lt b, rfl⟩
    rcases List.mem_cons.mp hc with rfl | hc
    · exact ⟨_, Nat.mod_lt _ (by decide), rfl⟩
    · exact ih c hc

theorem isHex_hexStr (bytes : List UInt8) : isHex (hexStr bytes) = true ↔ bytes ≠ [] := by
  have hall : (hexStr bytes).data.all (fun c => (hexDigit c).isSome) = true :=
    List.all_eq_true.mpr fun c hc => by
      obtain ⟨d, hd, rfl⟩ := hexStr_digits bytes c hc
      simp [hexDigit_digitChar hd]
  simp only [isHex, hall, length_hexStr, Bool.true_and, Bool.and_eq_true, decide_eq_true_eq,
    beq_iff_eq, ne_eq, ← List.length_eq_zero]
  omega

theorem parseHexV_hexStr {bytes : List UInt8} (h : bytes ≠ []) (strName : String) :
    parseHexV (.str (hexStr bytes)) strName = .ok bytes := by
  rw [parseHexV, hexArgument, if_pos ((isHex_hexStr bytes).mpr h), parseHex_hexStr]

theorem digitChar_ne_x_fin : ∀ d : Fin 16, Nat.digitChar d ≠ 'x' ∧ Nat.digitChar d ≠ 'X' := by
  decide

theorem hexValue_append_singleton (cs : List Char) (c : Char) :
    hexValue (cs ++ [c]) = 16 * hexValue cs + (hexDigit c).getD 0 := by
  simp [hexValue, List.foldl_append]

theorem hexValue_toDigits (n : Nat) : hexValue (Nat.toDigits 16 n) = n := by
  induction n using Nat.strong_induction_on with
  | _ n ih =>
    rw [toDigits_sixteen, hexValue_append_singleton, hexDigit_digitChar (Nat.mod_lt _ (by decide)),
      Option.getD_some]
    split
    · simp only [hexValue, List.foldl_nil]; omega
    · rw [ih _ (by omega)]; omega

theorem hexValue_replicate_append (k : Nat) (cs : List Char) :
    hexValue (List.replicate k '0' ++ cs) = hexValue cs := by
  have hzero : (List.replicate k '0').foldl (fun acc c => 16 * acc + (hexDigit c).getD 0) 0 = 0 := by
    induction k with
    | zero => rfl
    | succ k ih => rw [List.replicate_succ', List.foldl_append, ih]; rfl
  rw [hexValue, List.foldl_append, hzero, hexValue]

theorem toDigits_digits (n : Nat) : ∀ c ∈ Nat.toDigits 16 n, ∃ d < 16, c = Nat.digitChar d := by
  induction n using Nat.strong_induction_on with
  | _ n ih =>
    intro c hc
    rw [toDigits_sixteen, List.mem_append, List.mem_singleton] at hc
    rcases hc with hc | rfl
    · split at hc
      · cases hc
      · exact ih _ (by omega) c hc
    · exact ⟨_, Nat.mod_lt _ (by decide), rfl⟩

theorem setHex_of_digits (w : Nat) (cs : List Char) (hcs : ∀ c ∈ cs, ∃ d < 16, c = Nat.digitChar d) :
    setHex w ⟨cs⟩ = BitVec.ofNat w (hexValue cs) := by
  have hdrop : cs.dropWhile isSpace = cs := by
    cases cs with
    | nil => rfl
    | cons c rest =>
      obtain ⟨d, hd, rfl⟩ := hcs _ (List.mem_cons_self _ _)
      exact List.dropWhile_cons_of_neg (by simp [isSpace_digitChar hd])
  have htake : cs.takeWhile (fun c => (hexDigit c).isSome) = cs :=
    List.takeWhile_eq_self_iff.mpr fun c hc => by
      obtain ⟨d, hd, rfl⟩ := hcs c hc
      simp [hexDigit_digitChar hd]
  simp only [setHex, hdrop]
  split
  · rename_i c rest
    obtain ⟨d, hd, rfl⟩ := hcs c (List.mem_cons_of_mem _ (List.mem_cons_self _ _))
    rw [if_neg (by simpa using digitChar_ne_x_fin ⟨d, hd⟩), htake]
  · rw [htake]

theorem setHex_getHex {w : Nat} (x : BitVec w) : setHex w (getHex x) = x := by
  have hcs : ∀ c ∈ (Nat.toDigits 16 x.toNat).leftpad (w / 4) '0', ∃ d < 16, c = Nat.digitChar d := by
    intro c hc
    rw [List.leftpad, List.mem_append] at hc
    rcases hc with hc | hc
    · exact ⟨0, by decide, (List.eq_of_mem_replicate hc)⟩
    · exact toDigits_digits _ c hc
  rw [getHex, setHex_of_digits _ _ hcs, List.leftpad, hexValue_replicate_append, hexValue_toDigits,
    BitVec.ofNat_toNat, BitVec.setWidth_eq]

theorem parseHashV_getHex (h : Uint256) (strName : String) :
    parseHashV (.str (getHex h)) strName = .ok h := by
  have hne : (toByteVector h).reverse ≠ [] := by
    simp [← List.length_pos, toByteVector]
  have hhex : isHex (getHex h) = true := by
    rw [getHex_eq_hexStr (by decide) (by decide)]; exact (isHex_hexStr _).mpr hne
  rw [parseHashV, hexArgument, if_pos hhex, uint256S, setHex_getHex]

theorem isSpace_eq_false_of_hexDigit {c : Char} (h : (hexDigit c).isSome) : isSpace c = false := by
  cases hs : isSpace c with
  | false => rfl
  | true =>
    simp only [isSpace, Bool.or_eq_true, decide_eq_true_eq] at hs
    rcases hs with ((((rfl | rfl) | rfl) | rfl) | rfl) | rfl <;> exact absurd h (by decide)

theorem parseHex_ne_nil {s : String} (h : isHex s = true) : parseHex s ≠ [] := by
  simp only [isHex, Bool.and_eq_true, List.all_eq_true, decide_eq_true_eq, beq_iff_eq] at h
  obtain ⟨⟨hdigits, hpos⟩, heven⟩ := h
  obtain ⟨c1, c2, rest, hdata⟩ : ∃ c1 c2 rest, s.data = c1 :: c2 :: rest := by
    match hs : s.data, hpos, heven with
    | c1 :: c2 :: rest, _, _ => exact ⟨c1, c2, rest, rfl⟩
    | [c1], _, heven => simp [String.length, hs] at heven
    | [], hpos, _ => simp [String.length, hs] at hpos
  obtain ⟨hi, hhi⟩ := Option.isSome_iff_exists.mp (hdigits c1 (by simp [hdata]))
  obtain ⟨lo, hlo⟩ := Option.isSome_iff_exists.mp (hdigits c2 (by simp [hdata]))
  have hspace := isSpace_eq_false_of_hexDigit (hdigits c1 (by simp [hdata]))
  obtain ⟨f, hf⟩ : ∃ f, s.length = f + 1 := ⟨s.length - 1, by omega⟩
  rw [parseHex, hf, hdata, parseHexAux, List.dropWhile_cons_of_neg (by simp [hspace])]
  simp [hhi, hlo]

theorem parseHexV_ne_nil {v : UniValue} {strName : String} {bytes : List UInt8}
    (h : parseHexV v strName = .ok bytes) : bytes ≠ [] := by
  unfold parseHexV at h
  split_ifs at h with hhex
  cases h
  exact parseHex_ne_nil hhex

end ZendRawTx
