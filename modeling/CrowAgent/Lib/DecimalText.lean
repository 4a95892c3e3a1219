import Mathlib.Algebra.Order.Field.Basic
import Mathlib.Algebra.Order.Ring.Int
import Mathlib.Data.List.DropRight
import Mathlib.Data.Nat.Cast.Field
import Mathlib.Data.Nat.Digits.Defs
import Mathlib.Data.Rat.Cast.Order

/-!
# Decimal texts

The text of `n / 10 ^ scale` with a point and without zeros at the end (`fixedText`).  Its digits
are `Digits`, its value is exact (`valueOf_kept`), and it has no more decimals than the units of
`n` need (`length_kept_le`).

Conversely `Numeral` is the grammar of a text with a sign and a point, and `valueOf_eq_iff` says
which of them denote a multiple of `10 ^ -scale`.
-/

namespace DecimalText

/-- A text of decimal digits. -/
def Digits (text : List Char) : Prop := ∀ c ∈ text, c.isDigit = true

/-- The value of the digits before and after a point. -/
def valueOf (whole fraction : List Char) : ℚ :=
  (Nat.ofDigitChars 10 (whole ++ fraction) 0 : ℚ) / 10 ^ fraction.length

/-- The digits of a value, with zeros in front of them up to a width. -/
def padded (width value : Nat) : List Char :=
  List.replicate (width - (Nat.toDigits 10 value).length) '0' ++ Nat.toDigits 10 value

/-- A text without the zeros at its end. -/
def trimZeros (text : List Char) : List Char := text.rdropWhile (· = '0')

/-- The decimals of `n / 10 ^ scale` that are kept. -/
def kept (scale n : Nat) : List Char := trimZeros (padded scale (n % 10 ^ scale))

/-- The text of `n / 10 ^ scale`. -/
def fixedText (scale n : Nat) : List Char :=
  if n % 10 ^ scale = 0 then Nat.toDigits 10 (n / 10 ^ scale)
  else trimZeros (Nat.toDigits 10 (n / 10 ^ scale) ++ '.' :: padded scale (n % 10 ^ scale))

/-! ## Digits -/

theorem digits_toDigits (value : Nat) : Digits (Nat.toDigits 10 value) :=
  fun _ mem => Nat.isDigit_of_mem_toDigits (by decide) (by decide) mem

theorem Digits.append {a b : List Char} (digitsA : Digits a) (digitsB : Digits b) :
    Digits (a ++ b) :=
  fun c mem => (List.mem_append.mp mem).elim (digitsA c) (digitsB c)

theorem Digits.not_point {text : List Char} (digits : Digits text) : ∀ c ∈ text, c ≠ '.' := by
  rintro c mem rfl
  exact absurd (digits _ mem) (by decide)

/-- A digit is one byte. -/
theorem utf8Size_of_isDigit {c : Char} (digit : c.isDigit = true) : c.utf8Size = 1 := by
  obtain ⟨-, high⟩ := Char.isDigit_iff_toNat.mp digit
  have nine : '9'.toNat = 57 := rfl
  rw [Char.utf8Size_eq_one_iff, UInt32.le_iff_toNat_le]
  exact le_trans high (by decide)

theorem sum_utf8Size_of_digits {text : List Char} (digits : Digits text) :
    (text.map Char.utf8Size).sum = text.length := by
  induction text with
  | nil => rfl
  | cons c text ih =>
    rw [List.map_cons, List.sum_cons, utf8Size_of_isDigit (digits c List.mem_cons_self),
      ih fun c mem => digits c (List.mem_cons_of_mem _ mem), List.length_cons, add_comm]

theorem digits_padded (width value : Nat) : Digits (padded width value) := by
  refine Digits.append (fun c mem => ?_) (digits_toDigits value)
  rw [List.eq_of_mem_replicate mem]
  rfl

theorem digits_kept (scale n : Nat) : Digits (kept scale n) :=
  fun c mem => digits_padded scale _ c ((List.rdropWhile_prefix _ _).subset mem)

theorem length_padded {width value : Nat} (pos : 0 < width) (small : value < 10 ^ width) :
    (padded width value).length = width := by
  have length := Nat.toDigits_length 10 value width pos small
  rw [padded, List.length_append, List.length_replicate]
  omega

theorem ofDigitChars_padded (width value : Nat) :
    Nat.ofDigitChars 10 (padded width value) 0 = value := by
  rw [padded, Nat.ofDigitChars_append, Nat.ofDigitChars_replicate_zero, mul_zero,
    Nat.ofDigitChars_ten_toDigits]

/-! ## Zeros at the end -/

/-- What is trimmed off a text are zeros. -/
theorem exists_zeros (text : List Char) :
    ∃ zeros, text = trimZeros text ++ List.replicate zeros '0' := by
  refine ⟨(text.rtakeWhile (· = '0')).length, ?_⟩
  have all : ∀ c ∈ text.rtakeWhile (· = '0'), c = '0' := fun c mem => by
    simpa using List.mem_rtakeWhile_imp mem
  rw [← List.eq_replicate_of_mem all]
  exact (List.rdropWhile_append_rtakeWhile).symm

/-- A point stops the trimming. -/
theorem trimZeros_point (whole fraction : List Char) :
    trimZeros (whole ++ '.' :: fraction) = whole ++ '.' :: trimZeros fraction := by
  induction fraction using List.reverseRecOn with
  | nil => exact List.rdropWhile_concat_neg _ _ _ (by decide)
  | append_singleton fraction c ih =>
    rw [← List.cons_append, ← List.append_assoc]
    by_cases zero : c = '0'
    · subst zero
      rw [trimZeros, List.rdropWhile_concat_pos _ _ _ (by decide), trimZeros,
        List.rdropWhile_concat_pos _ _ _ (by decide)]
      exact ih
    · rw [trimZeros, List.rdropWhile_concat_neg _ _ _ (by simpa using zero), trimZeros,
        List.rdropWhile_concat_neg _ _ _ (by simpa using zero)]
      simp

/-- The value of digits with zeros after them. -/
theorem ofDigitChars_append_zeros (digits : List Char) (zeros : Nat) :
    Nat.ofDigitChars 10 (digits ++ List.replicate zeros '0') 0 =
      10 ^ zeros * Nat.ofDigitChars 10 digits 0 := by
  rw [Nat.ofDigitChars_append, Nat.ofDigitChars_replicate_zero]

/-- The value of a digit other than zero. -/
theorem digit_bounds {c : Char} (digit : c.isDigit = true) (nonzero : c ≠ '0') :
    0 < c.toNat - '0'.toNat ∧ c.toNat - '0'.toNat < 10 := by
  obtain ⟨low, high⟩ := Char.isDigit_iff_toNat.mp digit
  have zero : '0'.toNat = 48 := rfl
  have nine : '9'.toNat = 57 := rfl
  have different : c.toNat ≠ 48 := fun same => nonzero (Char.toNat_inj.mp (same.trans zero.symm))
  omega

/-- Trimmed digits are no multiple of ten. -/
theorem not_dvd_trimZeros {digits : List Char} (isDigits : Digits digits)
    (some : trimZeros digits ≠ []) : ¬10 ∣ Nat.ofDigitChars 10 (trimZeros digits) 0 := by
  induction digits using List.reverseRecOn with
  | nil => exact absurd (List.rdropWhile_nil _) some
  | append_singleton digits c ih =>
    by_cases zero : c = '0'
    · subst zero
      rw [trimZeros, List.rdropWhile_concat_pos _ _ _ (by decide)] at some ⊢
      exact ih (fun c mem => isDigits c (List.mem_append_left _ mem)) some
    · rw [trimZeros, List.rdropWhile_concat_neg _ _ _ (by simpa using zero),
        Nat.ofDigitChars_append, Nat.ofDigitChars_cons, Nat.ofDigitChars_nil]
      have bounds := digit_bounds (isDigits c (by simp)) zero
      omega

/-! ## Texts of quotients -/

section Quotient

variable {scale n : Nat}

/-- The decimals that are kept have, with the zeros that are not, the value of the remainder. -/
theorem exists_kept (scalePos : 0 < scale) :
    ∃ zeros, (kept scale n).length + zeros = scale ∧
      10 ^ zeros * Nat.ofDigitChars 10 (kept scale n) 0 = n % 10 ^ scale := by
  obtain ⟨zeros, split⟩ := exists_zeros (padded scale (n % 10 ^ scale))
  have length := length_padded scalePos (Nat.mod_lt n (by positivity))
  refine ⟨zeros, ?_, ?_⟩
  · rw [split, List.length_append, List.length_replicate] at length
    exact length
  · rw [kept, ← ofDigitChars_append_zeros, ← split, ofDigitChars_padded]

theorem kept_ne_nil (scalePos : 0 < scale) (remains : n % 10 ^ scale ≠ 0) : kept scale n ≠ [] := by
  intro none
  obtain ⟨zeros, -, value⟩ := @exists_kept scale n scalePos
  rw [none, Nat.ofDigitChars_nil, mul_zero] at value
  exact remains value.symm

theorem fixedText_of_mod (remains : n % 10 ^ scale ≠ 0) :
    fixedText scale n = Nat.toDigits 10 (n / 10 ^ scale) ++ '.' :: kept scale n := by
  rw [fixedText, if_neg remains, trimZeros_point, kept]

/-- **Exact text.**  What is kept denotes the quotient. -/
theorem valueOf_kept (scalePos : 0 < scale) :
    valueOf (Nat.toDigits 10 (n / 10 ^ scale)) (kept scale n) = (n : ℚ) / 10 ^ scale := by
  obtain ⟨zeros, length, value⟩ := @exists_kept scale n scalePos
  have whole : 10 ^ zeros * Nat.ofDigitChars 10
      (Nat.toDigits 10 (n / 10 ^ scale) ++ kept scale n) 0 = n := by
    rw [Nat.ofDigitChars_append, Nat.ofDigitChars_ten_toDigits,
      Nat.ofDigitChars_eq_ofDigitChars_zero, mul_add, value, ← mul_assoc, ← pow_add, add_comm zeros, length, Nat.div_add_mod]
  have powers : 10 ^ scale = 10 ^ (kept scale n).length * 10 ^ zeros := by
    rw [← pow_add, length]
  rw [valueOf, div_eq_div_iff (by positivity) (by positivity)]
  norm_cast
  generalize Nat.ofDigitChars 10 (Nat.toDigits 10 (n / 10 ^ scale) ++ kept scale n) 0 = digits
    at whole ⊢
  generalize (kept scale n).length = length at powers ⊢
  rw [← whole, powers]
  ring

/-- **Decimals of multiples.**  A multiple of `10 ^ (scale - places)` keeps at most `places`
decimals. -/
theorem length_kept_le {places : Nat} (scalePos : 0 < scale) (remains : n % 10 ^ scale ≠ 0)
    (placesLe : places ≤ scale) (multiple : 10 ^ (scale - places) ∣ n) :
    (kept scale n).length ≤ places := by
  obtain ⟨zeros, length, value⟩ := @exists_kept scale n scalePos
  by_contra more
  have fewer : zeros < scale - places := by omega
  have dvd : 10 ^ (zeros + 1) ∣ n % 10 ^ scale :=
    (Nat.dvd_mod_iff (pow_dvd_pow 10 (by omega))).mpr
      ((pow_dvd_pow 10 fewer).trans multiple)
  rw [← value, pow_succ] at dvd
  exact not_dvd_trimZeros (digits_padded scale _) (kept_ne_nil scalePos remains)
    (Nat.dvd_of_mul_dvd_mul_left (by positivity) dvd)

/-- The text of a positive quotient below `10 ^ width` is short. -/
theorem length_text_le {width : Nat} (scalePos : 0 < scale) (widthPos : 0 < width)
    (small : n < 10 ^ width) :
    (Nat.toDigits 10 (n / 10 ^ scale) ++ kept scale n).length ≤ width + scale := by
  obtain ⟨zeros, length, -⟩ := @exists_kept scale n scalePos
  have whole := Nat.toDigits_length 10 (n / 10 ^ scale) width widthPos
    ((Nat.div_le_self _ _).trans_lt small)
  rw [List.length_append]
  omega

end Quotient

/-! ## Numerals -/

/-- The text `-?[0-9]+(\.[0-9]*)?`: a sign, digits, and perhaps a point with digits after it. -/
structure Numeral (text : List Char) (negative : Bool) (whole fraction : List Char) : Prop where
  wholeSome : whole ≠ []
  wholeDigits : Digits whole
  fractionDigits : Digits fraction
  isText : text = (if negative then ['-'] else []) ++ whole ∧ fraction = [] ∨
    text = (if negative then ['-'] else []) ++ whole ++ '.' :: fraction

/-- The number a numeral denotes. -/
def signedValue (negative : Bool) (whole fraction : List Char) : ℚ :=
  if negative then -valueOf whole fraction else valueOf whole fraction

/-- A fraction of exactly `scale` digits: cut off, or with zeros after it. -/
def fitted (scale : Nat) (fraction : List Char) : List Char :=
  fraction.take scale ++ List.replicate (scale - fraction.length) '0'

/-- The text of a quotient is a numeral of it. -/
theorem exists_numeral_fixedText (scale n : Nat) :
    ∃ whole fraction, Numeral (fixedText scale n) false whole fraction ∧
      valueOf whole fraction = (n : ℚ) / 10 ^ scale := by
  have digits := digits_toDigits (n / 10 ^ scale)
  by_cases whole : n % 10 ^ scale = 0
  · refine ⟨_, [], ⟨Nat.toDigits_ne_nil, digits, nofun, .inl ⟨if_pos whole, rfl⟩⟩, ?_⟩
    rw [valueOf, List.append_nil, Nat.ofDigitChars_ten_toDigits, List.length_nil, pow_zero,
      div_one, Nat.cast_div (Nat.dvd_of_mod_eq_zero whole) (by positivity)]
    push_cast
    rfl
  · have scalePos : 0 < scale := by
      by_contra zero
      rw [Nat.eq_zero_of_not_pos zero, pow_zero, Nat.mod_one] at whole
      exact whole rfl
    exact ⟨_, _, ⟨Nat.toDigits_ne_nil, digits, digits_kept scale n,
      .inr (fixedText_of_mod whole)⟩, valueOf_kept scalePos⟩

theorem Digits.take {text : List Char} (digits : Digits text) (count : Nat) :
    Digits (text.take count) :=
  fun c mem => digits c (List.mem_of_mem_take mem)

theorem Digits.drop {text : List Char} (digits : Digits text) (count : Nat) :
    Digits (text.drop count) :=
  fun c mem => digits c (List.mem_of_mem_drop mem)

/-- A digit is below ten. -/
theorem digit_le {c : Char} (digit : c.isDigit = true) : c.toNat - '0'.toNat ≤ 9 := by
  by_cases zero : c = '0'
  · subst zero
    exact Nat.zero_le _
  · exact Nat.le_of_lt_succ (digit_bounds digit zero).2

theorem ofDigitChars_lt {text : List Char} (digits : Digits text) :
    Nat.ofDigitChars 10 text 0 < 10 ^ text.length := by
  induction text using List.reverseRecOn with
  | nil => exact Nat.one_pos
  | append_singleton text c ih =>
    have below := ih fun c mem => digits c (List.mem_append_left _ mem)
    have last := digit_le (digits c (by simp))
    rw [Nat.ofDigitChars_append, Nat.ofDigitChars_cons, Nat.ofDigitChars_nil, List.length_append,
      List.length_singleton, pow_succ]
    omega

/-- Digits have the value zero when all of them are zeros. -/
theorem ofDigitChars_eq_zero_iff {text : List Char} (digits : Digits text) :
    Nat.ofDigitChars 10 text 0 = 0 ↔ ∀ c ∈ text, c = '0' := by
  induction text using List.reverseRecOn with
  | nil => simp
  | append_singleton text c ih =>
    have last : c.toNat - '0'.toNat = 0 ↔ c = '0' := by
      constructor
      · intro zero
        by_contra nonzero
        exact (digit_bounds (digits c (by simp)) nonzero).1.ne' zero
      · rintro rfl
        exact Nat.sub_self _
    have front := ih fun c mem => digits c (List.mem_append_left _ mem)
    rw [Nat.ofDigitChars_append, Nat.ofDigitChars_cons, Nat.ofDigitChars_nil, Nat.add_eq_zero_iff,
      Nat.mul_eq_zero, last, front, List.forall_mem_append, List.forall_mem_singleton]
    simp only [OfNat.ofNat_ne_zero, false_or]

/-- The digits of a numeral, cut at the scale. -/
theorem ofDigitChars_cut (scale : Nat) (whole fraction : List Char) :
    Nat.ofDigitChars 10 (whole ++ fraction) 0 * 10 ^ (scale - fraction.length) =
      (Nat.ofDigitChars 10 whole 0 * 10 ^ scale + Nat.ofDigitChars 10 (fitted scale fraction) 0) *
          10 ^ (fraction.drop scale).length +
        Nat.ofDigitChars 10 (fraction.drop scale) 0 * 10 ^ (scale - fraction.length) := by
  have width : (fraction.take scale).length + (scale - fraction.length) = scale := by
    rw [List.length_take]
    omega
  have split : whole ++ fraction = whole ++ fraction.take scale ++ fraction.drop scale := by
    rw [List.append_assoc, List.take_append_drop]
  have powers : (10 : Nat) ^ scale =
      10 ^ (fraction.take scale).length * 10 ^ (scale - fraction.length) := by
    rw [← pow_add, width]
  rw [split, fitted, ofDigitChars_append_zeros, Nat.ofDigitChars_append,
    Nat.ofDigitChars_eq_ofDigitChars_zero, Nat.ofDigitChars_append,
    Nat.ofDigitChars_eq_ofDigitChars_zero (l := fraction.take scale), powers]
  ring

/-- **Multiples.**  A numeral denotes `n / 10 ^ scale` exactly when the digits after the scale are
zeros and the others are those of `n`. -/
theorem valueOf_eq_iff {scale : Nat} {whole fraction : List Char} {n : Int}
    (digits : Digits fraction) :
    valueOf whole fraction = (n : ℚ) / 10 ^ scale ↔
      (∀ c ∈ fraction.drop scale, c = '0') ∧
        n = Nat.ofDigitChars 10 whole 0 * 10 ^ scale +
          Nat.ofDigitChars 10 (fitted scale fraction) 0 := by
  have cut := ofDigitChars_cut scale whole fraction
  have cutDigits := digits.drop scale
  have below := ofDigitChars_lt cutDigits
  rw [← ofDigitChars_eq_zero_iff cutDigits, valueOf,
    div_eq_div_iff (by positivity) (by positivity)]
  norm_cast
  rw [List.length_drop] at cut below
  generalize Nat.ofDigitChars 10 (whole ++ fraction) 0 = all at cut ⊢
  generalize Nat.ofDigitChars 10 (fraction.drop scale) 0 = rest at cut below ⊢
  generalize Nat.ofDigitChars 10 whole 0 * 10 ^ scale +
    Nat.ofDigitChars 10 (fitted scale fraction) 0 = units at cut ⊢
  rcases Nat.le_total fraction.length scale with short | long
  · -- The fraction ends before the scale, and nothing is cut off.
    obtain ⟨zeros, rfl⟩ := Nat.exists_eq_add_of_le short
    rw [Nat.sub_eq_zero_of_le short, pow_zero, Nat.lt_one_iff] at below
    rw [Nat.sub_eq_zero_of_le short, Nat.add_sub_cancel_left, pow_zero, mul_one, below, zero_mul,
      add_zero] at cut
    rw [pow_add, mul_left_comm, cut, mul_comm n, Nat.cast_mul,
      Int.mul_eq_mul_left_iff (by positivity)]
    exact ⟨fun same => ⟨below, same.symm⟩, fun same => same.2.symm⟩
  · -- What is cut off is less than one unit.
    obtain ⟨more, isLength⟩ := Nat.exists_eq_add_of_le long
    rw [isLength, Nat.sub_eq_zero_of_le (Nat.le_add_right _ _), Nat.add_sub_cancel_left, pow_zero,
      mul_one, mul_one] at cut
    rw [isLength, Nat.add_sub_cancel_left] at below
    rw [isLength, pow_add, mul_comm all, Nat.cast_mul, Nat.cast_mul, mul_left_comm,
      Int.mul_eq_mul_left_iff (by positivity), cut]
    constructor
    · intro same
      have multiple : ((10 ^ more : Nat) : Int) ∣ rest :=
        ⟨n - units, by push_cast at same ⊢; linarith⟩
      have none : rest = 0 := Nat.eq_zero_of_dvd_of_lt (Int.natCast_dvd_natCast.mp multiple) below
      rw [none, add_zero, Nat.cast_mul] at same
      exact ⟨none, (Int.eq_of_mul_eq_mul_right (by positivity) same).symm⟩
    · rintro ⟨none, same⟩
      rw [none, same, add_zero, Nat.cast_mul]

/-- The digits of a numeral in units of a scale, and what is cut off as a share of one unit. -/
theorem valueOf_mul {scale : Nat} {whole fraction : List Char} (long : scale < fraction.length) :
    valueOf whole fraction * 10 ^ scale =
      ((Nat.ofDigitChars 10 whole 0 * 10 ^ scale + Nat.ofDigitChars 10 (fraction.take scale) 0 :
        Nat) : ℚ) +
        (Nat.ofDigitChars 10 (fraction.drop scale) 0 : ℚ) / 10 ^ (fraction.drop scale).length := by
  have cut := ofDigitChars_cut scale whole fraction
  rw [fitted, Nat.sub_eq_zero_of_le long.le, List.replicate_zero, List.append_nil, pow_zero,
    mul_one, mul_one] at cut
  have powers : (10 : ℚ) ^ fraction.length =
      10 ^ scale * 10 ^ (fraction.drop scale).length := by
    rw [← pow_add, List.length_drop]
    congr 1
    omega
  rw [valueOf, cut, powers]
  push_cast
  rw [div_mul_eq_mul_div, mul_comm (10 ^ scale), mul_div_mul_right _ _ (by positivity), add_div,
    mul_div_assoc, div_self (by positivity), mul_one]

/-- The first digit that is cut off says whether half a unit is. -/
theorem half_le_iff {scale : Nat} {fraction : List Char} (digits : Digits fraction)
    (long : scale < fraction.length) :
    fraction[scale]?.any ('5' ≤ ·) = true ↔
      10 ^ (fraction.drop scale).length ≤ 2 * Nat.ofDigitChars 10 (fraction.drop scale) 0 := by
  obtain ⟨c, rest, isDrop⟩ : ∃ c rest, fraction.drop scale = c :: rest :=
    List.exists_cons_of_length_pos (by rw [List.length_drop]; omega)
  have first : fraction[scale]? = some c := by
    rw [← Nat.add_zero scale, ← List.getElem?_drop, isDrop]
    rfl
  have dropDigits := digits.drop scale
  rw [isDrop] at dropDigits
  have below := ofDigitChars_lt fun d mem => dropDigits d (List.mem_cons_of_mem _ mem)
  have isDigit := digit_le (dropDigits c List.mem_cons_self)
  have five : ('5' : Char) ≤ c ↔ 5 ≤ c.toNat - '0'.toNat := by
    rw [Char.le_def, UInt32.le_iff_toNat_le]
    change 53 ≤ c.toNat ↔ 5 ≤ c.toNat - 48
    omega
  rw [first, Option.any_some, decide_eq_true_iff, five, isDrop, Nat.ofDigitChars_cons,
    Nat.ofDigitChars_eq_ofDigitChars_zero, List.length_cons, pow_succ]
  generalize c.toNat - '0'.toNat = digit at isDigit ⊢
  generalize Nat.ofDigitChars 10 rest 0 = tail at below ⊢
  generalize 10 ^ rest.length = power at below ⊢
  constructor
  · intro atLeast
    nlinarith
  · intro half
    by_contra less
    have : digit ≤ 4 := by omega
    nlinarith

/-- A short fraction has zeros after it. -/
theorem ofDigitChars_fitted {scale : Nat} {fraction : List Char} (short : fraction.length ≤ scale) :
    Nat.ofDigitChars 10 (fitted scale fraction) 0 =
      Nat.ofDigitChars 10 fraction 0 * 10 ^ (scale - fraction.length) := by
  rw [fitted, List.take_of_length_le short, ofDigitChars_append_zeros, mul_comm]

end DecimalText
