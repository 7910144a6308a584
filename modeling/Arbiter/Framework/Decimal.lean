import Mathlib.Data.Nat.Digits.Lemmas
import Mathlib.Data.NNRat.Floor
import Mathlib.Algebra.Order.Field.Rat
import Mathlib.Tactic.Linarith
import Arbiter.Framework.Text

/-! # Decimal Text

  Numbers as text: zero-padded whole numbers and numbers with a fixed count of
  decimals. Padding loses nothing, so two numbers with one text are equal.
-/

namespace Decimal

/-! ### Zero-padded whole numbers -/

/-- The character of a decimal digit. -/
def digit_char (d : ℕ) : Char := Char.ofNat (48 + d)

/-- The digits of `n`, least significant first, filled up to width `w` with zeros. -/
def padded_digits (w n : ℕ) : List ℕ :=
  Nat.digits 10 n ++ List.replicate (w - (Nat.digits 10 n).length) 0

/-- `n` in decimal, filled up with leading zeros to at least `w` characters. -/
def padded (w n : ℕ) : String :=
  String.ofList ((padded_digits w n).reverse.map digit_char)

/-- The digit a digit character stands for. -/
private theorem toNat_digit_char {d : ℕ} (hd : d < 10) : (digit_char d).toNat - 48 = d := by
  interval_cases d <;> rfl

private theorem padded_digits_lt {w n d : ℕ} (hd : d ∈ padded_digits w n) : d < 10 := by
  rcases List.mem_append.1 hd with h | h
  · exact Nat.digits_lt_base (by decide) h
  · rw [(List.mem_replicate.1 h).2]
    decide

private theorem ofDigits_padded_digits (w n : ℕ) : Nat.ofDigits 10 (padded_digits w n) = n := by
  rw [padded_digits, Nat.ofDigits_append_replicate_zero, Nat.ofDigits_digits]

/-- Reading the characters back gives the digits. -/
private theorem map_toNat_map_digit_char {l : List ℕ} (h : ∀ d ∈ l, d < 10) :
    (l.map digit_char).map (fun c => c.toNat - 48) = l := by
  rw [List.map_map]
  calc l.map ((fun c => c.toNat - 48) ∘ digit_char)
      = l.map id := List.map_congr_left fun d hd => toNat_digit_char (h d hd)
    _ = l := List.map_id l

/-- Padded numbers with one text are the same number. -/
theorem padded_injective (w : ℕ) : Function.Injective (padded w) := by
  intro a b h
  have hlt : ∀ n, ∀ d ∈ (padded_digits w n).reverse, d < 10 :=
    fun n d hd => padded_digits_lt (List.mem_reverse.1 hd)
  have hmap := congrArg (List.map fun c => c.toNat - 48) (String.ofList_injective h)
  rw [map_toNat_map_digit_char (hlt a), map_toNat_map_digit_char (hlt b)] at hmap
  rw [← ofDigits_padded_digits w a, List.reverse_injective hmap, ofDigits_padded_digits]

/-- A padded number is written in digits. -/
theorem isDigit_of_mem_padded {w n : ℕ} {c : Char} (hc : c ∈ (padded w n).toList) :
    c.isDigit = true := by
  rw [padded, String.toList_ofList, List.mem_map] at hc
  obtain ⟨d, hd, rfl⟩ := hc
  have hlt := padded_digits_lt (List.mem_reverse.mp hd)
  interval_cases d <;> rfl

/-! ### Fixed decimals -/

/-- The nearest whole number, ties to the even one. -/
def round_half_even (q : ℚ≥0) : ℕ :=
  let n := ⌊q⌋₊
  if q - n < 1 / 2 then n
  else if 1 / 2 < q - n then n + 1
  else if n % 2 = 0 then n else n + 1

/-- `q` with exactly `k` decimals. -/
def fixed (k : ℕ) (q : ℚ≥0) : String :=
  let m := round_half_even (q * 10 ^ k)
  if k = 0 then padded 1 m
  else padded 1 (m / 10 ^ k) ++ "." ++ padded k (m % 10 ^ k)

theorem isDigit_of_mem_fixed {k : ℕ} {q : ℚ≥0} {c : Char} (hc : c ∈ (fixed k q).toList) :
    c.isDigit = true ∨ c = '.' := by
  unfold fixed at hc
  dsimp only at hc
  split_ifs at hc
  · exact .inl (isDigit_of_mem_padded hc)
  · rw [String.toList_append, String.toList_append, List.mem_append, List.mem_append] at hc
    obtain (hc | hc) | hc := hc
    · exact .inl (isDigit_of_mem_padded hc)
    · exact .inr (by simpa using hc)
    · exact .inl (isDigit_of_mem_padded hc)

/-- A signed number with exactly `k` decimals. -/
def fixed_signed (k : ℕ) (q : ℚ) : String :=
  if q < 0 then "-" ++ fixed k (-q).toNNRat else fixed k q.toNNRat

/-- A signed number rounded to `k` decimals, ties to the even last digit. -/
def round_to (k : ℕ) (q : ℚ) : ℚ :=
  if q < 0 then -(round_half_even ((-q).toNNRat * 10 ^ k) / 10 ^ k)
  else round_half_even (q.toNNRat * 10 ^ k) / 10 ^ k

/-- The number that digits stand for. -/
def of_digits (l : List Char) : ℕ := l.foldl (fun n c => n * 10 + (c.toNat - 48)) 0

/-- `float(s)`, of digits with at most one point. -/
def read (s : String) : Option ℚ≥0 :=
  let whole := s.toList.takeWhile (· ≠ '.')
  let decimals := (s.toList.dropWhile (· ≠ '.')).drop 1
  if (whole ++ decimals).all Char.isDigit && whole ++ decimals ≠ [] then
    some (of_digits (whole ++ decimals) / 10 ^ decimals.length)
  else none

/-! ### Texts of rounded numbers -/

/-- With a given number of decimals, one text is one rounded number. -/
theorem round_half_even_of_fixed {k : ℕ} {q r : ℚ≥0} (h : fixed k q = fixed k r) :
    round_half_even (q * 10 ^ k) = round_half_even (r * 10 ^ k) := by
  unfold fixed at h
  dsimp only at h
  by_cases hk : k = 0
  · rw [if_pos hk, if_pos hk] at h
    exact padded_injective 1 h
  · rw [if_neg hk, if_neg hk] at h
    have hplain (n : ℕ) : '.' ∉ (padded k n).toList := by
      intro hdot
      have hdigit := isDigit_of_mem_padded hdot
      revert hdigit
      decide
    -- the point tells the two parts apart
    obtain ⟨hwhole, hrest⟩ := Text.append_sep_inj rfl (hplain _) (hplain _) h
    have hdiv := padded_injective 1 hwhole
    have hmod := padded_injective k hrest
    rw [← Nat.div_add_mod (round_half_even (q * 10 ^ k)) (10 ^ k), hdiv, hmod, Nat.div_add_mod]

/-- The sign included. -/
theorem round_to_of_fixed_signed {k : ℕ} {q r : ℚ} (h : fixed_signed k q = fixed_signed k r) :
    round_to k q = round_to k r := by
  -- a text with a sign is none without: digits and a dot have no sign among them
  have hsign (s : ℚ≥0) (t : String) : "-" ++ t ≠ fixed k s := by
    intro heq
    have hmem : '-' ∈ (fixed k s).toList := by
      rw [← heq]
      simp
    rcases isDigit_of_mem_fixed hmem with hdigit | hdot
    · revert hdigit
      decide
    · revert hdot
      decide
  unfold fixed_signed at h
  unfold round_to
  by_cases hq : q < 0
  · rw [if_pos hq] at h ⊢
    by_cases hr : r < 0
    · rw [if_pos hr] at h ⊢
      have hfixed : fixed k (-q).toNNRat = fixed k (-r).toNNRat := by
        have hlist := congrArg String.toList h
        simp only [String.toList_append, List.append_cancel_left_eq] at hlist
        exact String.toList_injective hlist
      rw [round_half_even_of_fixed hfixed]
    · rw [if_neg hr] at h
      exact absurd h (hsign _ _)
  · rw [if_neg hq] at h ⊢
    by_cases hr : r < 0
    · rw [if_pos hr] at h
      exact absurd h.symm (hsign _ _)
    · rw [if_neg hr] at h ⊢
      rw [round_half_even_of_fixed h]

theorem length_padded {w n : ℕ} (h : n < 10 ^ w) : (padded w n).toList.length = w := by
  have hle := (Nat.digits_length_le_iff (by decide) n).2 h
  rw [padded, String.toList_ofList, List.length_map, List.length_reverse, padded_digits,
    List.length_append, List.length_replicate]
  omega

/-- The decimals are what is behind the last point. -/
theorem length_decimals {k : ℕ} (hk : k ≠ 0) (q : ℚ) :
    ((fixed_signed k q).toList.rtakeWhile (· ≠ '.')).length = k := by
  have hfixed (q : ℚ≥0) (front : List Char) :
      ((front ++ (fixed k q).toList).rtakeWhile (· ≠ '.')).length = k := by
    unfold fixed
    dsimp only
    rw [if_neg hk]
    have hplain : ∀ c ∈ (padded k (round_half_even (q * 10 ^ k) % 10 ^ k)).toList.reverse,
        decide (c ≠ '.') = true := by
      intro c hc
      have hdigit := isDigit_of_mem_padded (List.mem_reverse.1 hc)
      rw [decide_eq_true_eq]
      rintro rfl
      revert hdigit
      decide
    have hlength := length_padded (Nat.mod_lt (round_half_even (q * 10 ^ k))
      (Nat.pow_pos (by decide : 0 < 10) (n := k)))
    rw [List.rtakeWhile, List.length_reverse]
    simp only [String.toList_append, List.reverse_append]
    rw [List.append_assoc, List.append_assoc, List.takeWhile_append_of_pos hplain]
    simpa using hlength
  unfold fixed_signed
  split
  · rw [String.toList_append]
    exact hfixed _ _
  · exact hfixed _ []

/-! ### Rounding errors -/

/-- The nearest whole number is at most a half away. -/
theorem abs_round_half_even_sub_le (q : ℚ≥0) : |(round_half_even q : ℚ) - q| ≤ 1 / 2 := by
  have hle : (⌊q⌋₊ : ℚ≥0) ≤ q := Nat.floor_le (by positivity)
  have hlt : (q : ℚ) < ⌊q⌋₊ + 1 := by exact_mod_cast Nat.lt_floor_add_one q
  -- The difference taken in `ℚ≥0` is the one in `ℚ`: the floor is not above `q`.
  have hdiff : ((q - ⌊q⌋₊ : ℚ≥0) : ℚ) = q - ⌊q⌋₊ := NNRat.coe_sub hle
  have hlow : q - ⌊q⌋₊ < 1 / 2 ↔ (q : ℚ) - ⌊q⌋₊ < 1 / 2 := by
    rw [← hdiff]
    exact_mod_cast Iff.rfl
  have hhigh : 1 / 2 < q - ⌊q⌋₊ ↔ (1 / 2 : ℚ) < q - ⌊q⌋₊ := by
    rw [← hdiff]
    exact_mod_cast Iff.rfl
  have hpos : (0 : ℚ) ≤ q - ⌊q⌋₊ := hdiff ▸ (q - ⌊q⌋₊).2
  simp only [round_half_even, hlow, hhigh]
  split_ifs <;> rw [abs_le] <;> push_cast <;> constructor <;> linarith

private theorem abs_round_scaled_sub_le (k : ℕ) (q : ℚ≥0) :
    |(round_half_even (q * 10 ^ k) : ℚ) / 10 ^ k - q| ≤ 1 / 2 / 10 ^ k := by
  have hpow : (0 : ℚ) < 10 ^ k := by positivity
  have h := abs_round_half_even_sub_le (q * 10 ^ k)
  have hscale : (round_half_even (q * 10 ^ k) : ℚ) / 10 ^ k - q =
      ((round_half_even (q * 10 ^ k) : ℚ) - (q * 10 ^ k : ℚ≥0)) / 10 ^ k := by
    push_cast
    rw [sub_div, mul_div_cancel_right₀ _ hpow.ne']
  rw [hscale, abs_div, abs_of_pos hpow]
  exact div_le_div_of_nonneg_right h hpow.le

/-- A rounded number is within half a unit of its last digit. -/
theorem abs_round_to_sub_le (k : ℕ) (q : ℚ) : |round_to k q - q| ≤ 1 / 2 / 10 ^ k := by
  rw [round_to]
  split
  case isTrue h =>
    have hq : ((-q).toNNRat : ℚ) = -q := Rat.coe_toNNRat _ (by linarith)
    have hround := abs_round_scaled_sub_le k (-q).toNNRat
    rw [hq, sub_neg_eq_add] at hround
    rw [← abs_neg]
    calc |-(-((round_half_even ((-q).toNNRat * 10 ^ k) : ℚ) / 10 ^ k) - q)|
        = |(round_half_even ((-q).toNNRat * 10 ^ k) : ℚ) / 10 ^ k + q| := by ring_nf
      _ ≤ 1 / 2 / 10 ^ k := hround
  case isFalse h =>
    have hq : (q.toNNRat : ℚ) = q := Rat.coe_toNNRat _ (not_lt.1 h)
    have hround := abs_round_scaled_sub_le k q.toNNRat
    rwa [hq] at hround

/-- Rounding leaves a number alone that has no more decimals. -/
theorem round_to_eq_self {x : ℚ} {k n : ℕ} (h : x * 10 ^ k = n) : round_to k x = x := by
  have hpow : (0 : ℚ) < 10 ^ k := by positivity
  have hnonneg : 0 ≤ x := by
    have hcast : (0 : ℚ) ≤ n := Nat.cast_nonneg n
    rw [← h] at hcast
    exact nonneg_of_mul_nonneg_left hcast hpow
  have hscaled : x.toNNRat * 10 ^ k = n := by
    have : ((x.toNNRat * 10 ^ k : ℚ≥0) : ℚ) = ((n : ℚ≥0) : ℚ) := by
      rw [NNRat.cast_mul, Rat.coe_toNNRat _ hnonneg]
      push_cast
      exact h
    exact_mod_cast this
  have hround : round_half_even (n : ℚ≥0) = n := by
    simp [round_half_even]
  rw [round_to, if_neg (not_lt.mpr hnonneg), hscaled, hround, ← h]
  exact mul_div_cancel_right₀ x hpow.ne'

end Decimal
