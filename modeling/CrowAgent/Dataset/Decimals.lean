import CrowAgent.Core.VenueNumbers
import CrowAgent.Dataset.Publisher

/-!
# Decimals of the publisher

The publisher reads prices and rates exactly and rounds volumes; the venue client reads the same
texts with a parser of its own.

* `parseScaled_agrees`: the three agree on what is read exactly, and rounding is to the nearest.
-/

namespace CrowAgent

open FixedWidth DecimalText

/-! ## Steps of the reading -/

/-- A text without its sign. -/
theorem stripSign_eq (text : List Char) :
    stripSign text = (decide (text.head? = some '-'), unsigned text) := by
  unfold stripSign unsigned
  split_ifs with sign
  · rw [decide_eq_true sign]
  · rw [decide_eq_false sign]

theorem checkedPowTen_eq {scale : Nat} (small : scale ≤ 18) :
    checkedPowTen scale = some (10 ^ scale) :=
  if_pos ((pow_le_pow_right₀ (by decide) small).trans_lt (by decide))

/-- Digits of a text are narrowed with their sign. -/
theorem signedDigits_eq_ok {text : List Char} {units : Nat} {n : Int64} :
    signedDigits (decide (text.head? = some '-')) units = .ok n ↔
      n.toInt = signedUnits text units := by
  have isSigned : (if decide (text.head? = some '-') = true then -(units : Int) else units) =
      signedUnits text units := by
    simp only [decide_eq_true_eq, signedUnits]
  rw [signedDigits, isSigned, ← FixedWidth.toI64?_eq_some]
  cases toI64? (signedUnits text units) <;> simp

/-- A short fraction is worth its digits with zeros after them. -/
theorem digitsValue_fitted {scale : Nat} {fraction : List Char} (short : fraction.length ≤ scale) :
    digitsValue (fitted scale fraction) =
      digitsValue fraction * 10 ^ (scale - fraction.length) := ofDigitChars_fitted short

/-- What has been computed is narrowed with its sign. -/
theorem signedDigits_of_match {negative : Bool} {scaled : Option Int} {n : Int64}
    (ok : (match scaled with
      | some scaled => signedDigits negative scaled
      | none => .error .decimal) = .ok n) :
    ∃ digits, scaled = some digits ∧ signedDigits negative digits = .ok n := by
  cases scaled with
  | none => exact absurd ok nofun
  | some digits => exact ⟨digits, rfl, ok⟩

/-! ## What is read -/

/-- What is read has at most the decimals of the scale, and their value. -/
theorem units_of_parseScaled {value : String} {scale : Nat} {n : Int64} {whole fraction : List Char}
    (small : scale ≤ 18) (isSplit : splitPoint (unsigned value.toList) = (whole, fraction))
    (ok : parseScaled value scale = .ok n) :
    (whole ≠ [] ∧ Digits whole ∧ Digits fraction) ∧ fraction.length ≤ scale ∧
      n.toInt = signedUnits value.toList (fixedUnits scale whole fraction) := by
  have isFactor := checkedPowTen_eq small
  unfold parseScaled at ok
  generalize checkedPowTen scale = factor at isFactor ok
  split at ok
  rename_i negative plain isStrip
  obtain ⟨rfl, rfl⟩ := Prod.mk.inj ((stripSign_eq _).symm.trans isStrip)
  split at ok
  rename_i isSplit'
  obtain ⟨rfl, rfl⟩ := Prod.mk.inj (isSplit.symm.trans isSplit')
  by_cases empty : unsigned value.toList = [] ∨ (unsigned value.toList).head? = some '+'
  · rw [if_pos empty] at ok
    cases ok
  rw [if_neg empty] at ok
  by_cases refused : whole = [] ∨ (!whole.all Char.isDigit) = true ∨
      (!fraction.all Char.isDigit) = true ∨ fraction.length > scale
  · rw [if_pos refused] at ok
    cases ok
  rw [if_neg refused] at ok
  simp only [not_or, not_lt, Bool.not_eq_true', Bool.not_eq_false, List.all_eq_true] at refused
  obtain ⟨some, digits, fractionDigits, short⟩ := refused
  refine ⟨⟨some, digits, fractionDigits⟩, short, ?_⟩
  obtain ⟨read, isRead, narrowed⟩ := signedDigits_of_match ok
  subst isFactor
  have isUnits : read = fixedUnits scale whole fraction := by
    by_cases none : fraction = []
    · simp only [if_pos none, Option.bind_eq_bind, Option.bind_some, Option.bind_eq_some_iff,
        checkedMulI128_eq_some, checkedAddI128_eq_some] at isRead
      obtain ⟨high, isHigh, product, ⟨-, isProduct⟩, -, isSum⟩ := isRead
      obtain ⟨-, rfl⟩ := (parseI128_eq_some some).mp isHigh
      rw [← isSum, ← isProduct, fixedUnits, digitsValue_fitted short, none]
      simp [digitsValue]
    · simp only [if_neg none, Option.bind_eq_bind, Option.bind_some, Option.bind_eq_some_iff,
        checkedMulI128_eq_some, checkedAddI128_eq_some] at isRead
      obtain ⟨high, isHigh, low, isLow, power, isPower, share, ⟨-, isShare⟩, product,
        ⟨-, isProduct⟩, -, isSum⟩ := isRead
      rw [checkedPowTen_eq ((Nat.sub_le scale fraction.length).trans small)] at isPower
      obtain rfl := Option.some.inj isPower
      obtain ⟨-, rfl⟩ := (parseI128_eq_some some).mp isHigh
      obtain ⟨-, rfl⟩ := (parseI128_eq_some none).mp isLow
      rw [← isSum, ← isProduct, ← isShare, fixedUnits, digitsValue_fitted short]
      push_cast
      rfl
  rw [isUnits] at narrowed
  exact signedDigits_eq_ok.mp narrowed

/-- What is read of more decimals is the value of those of the scale, rounded up from half a
unit. -/
theorem units_of_parseScaledRounded {value : String} {scale : Nat} {n : Int64}
    {whole fraction : List Char} (small : scale ≤ 18)
    (isSplit : splitPoint (unsigned value.toList) = (whole, fraction))
    (long : scale < fraction.length) (ok : parseScaledRounded value scale = .ok n) :
    (whole ≠ [] ∧ Digits whole ∧ Digits fraction) ∧
      n.toInt = signedUnits value.toList (digitsValue whole * 10 ^ scale +
        digitsValue (fraction.take scale) +
        if fraction[scale]?.any ('5' ≤ ·) then 1 else 0) := by
  have isFactor := checkedPowTen_eq small
  unfold parseScaledRounded at ok
  generalize checkedPowTen scale = factor at isFactor ok
  split at ok
  rename_i negative plain isStrip
  obtain ⟨rfl, rfl⟩ := Prod.mk.inj ((stripSign_eq _).symm.trans isStrip)
  split at ok
  rename_i isSplit'
  obtain ⟨rfl, rfl⟩ := Prod.mk.inj (isSplit.symm.trans isSplit')
  by_cases refused : whole = [] ∨ (!whole.all Char.isDigit) = true ∨
      (!fraction.all Char.isDigit) = true ∨ fraction.length ≤ scale
  · rw [if_pos refused] at ok
    obtain ⟨numeral, short, -⟩ := units_of_parseScaled small isSplit ok
    exact absurd short (not_le.mpr long)
  rw [if_neg refused] at ok
  simp only [not_or, not_le, Bool.not_eq_true', Bool.not_eq_false, List.all_eq_true] at refused
  obtain ⟨some, digits, fractionDigits, -⟩ := refused
  refine ⟨⟨some, digits, fractionDigits⟩, ?_⟩
  by_cases tooLong : fraction.length > 18
  · rw [if_pos tooLong] at ok
    cases ok
  rw [if_neg tooLong] at ok
  obtain ⟨read, isRead, narrowed⟩ := signedDigits_of_match ok
  subst isFactor
  have isUnits : read = ((digitsValue whole * 10 ^ scale + digitsValue (fraction.take scale) +
      if fraction[scale]?.any ('5' ≤ ·) then 1 else 0 : Nat) : Int) := by
    by_cases none : fraction.take scale = []
    · simp only [if_pos none, Option.bind_eq_bind, Option.bind_some, Option.bind_eq_some_iff,
        checkedMulI128_eq_some, checkedAddI128_eq_some] at isRead
      obtain ⟨high, isHigh, product, ⟨-, isProduct⟩, sum, ⟨-, isSum⟩, -, isRead⟩ := isRead
      obtain ⟨-, rfl⟩ := (parseI128_eq_some some).mp isHigh
      rw [← isRead, ← isSum, ← isProduct, none]
      push_cast
      rfl
    · simp only [if_neg none, Option.bind_eq_bind, Option.bind_some, Option.bind_eq_some_iff,
        checkedMulI128_eq_some, checkedAddI128_eq_some] at isRead
      obtain ⟨high, isHigh, low, isLow, product, ⟨-, isProduct⟩, sum, ⟨-, isSum⟩, -, isRead⟩ :=
        isRead
      obtain ⟨-, rfl⟩ := (parseI128_eq_some some).mp isHigh
      obtain ⟨-, rfl⟩ := (parseI128_eq_some none).mp isLow
      rw [← isRead, ← isSum, ← isProduct]
      push_cast
      rfl
  rw [isUnits] at narrowed
  exact signedDigits_eq_ok.mp narrowed

/-! ## Rounding -/

/-- Units nearest to the digits of a numeral are, with its sign, nearest to its value. -/
theorem nearestAway_signedUnits {text : List Char} {scale units : Nat}
    {whole fraction : List Char}
    (nearest : Rounding.NearestAway units (valueOf whole fraction * 10 ^ scale)) :
    Rounding.NearestAway (signedUnits text units)
      (signedValue (decide (text.head? = some '-')) whole fraction * 10 ^ scale) := by
  unfold signedUnits signedValue
  by_cases negative : text.head? = some '-'
  · rw [if_pos negative, if_pos (decide_eq_true negative), neg_mul]
    exact nearest.neg
  · rw [if_neg negative, if_neg (by simpa using negative)]
    exact nearest

/-- Digits rounded up from half a unit are nearest to the value. -/
theorem nearestAway_rounded {scale : Nat} {whole fraction : List Char} (digits : Digits fraction)
    (long : scale < fraction.length) :
    Rounding.NearestAway ((digitsValue whole * 10 ^ scale + digitsValue (fraction.take scale) +
      if fraction[scale]?.any ('5' ≤ ·) then 1 else 0 : Nat) : Int)
      (valueOf whole fraction * 10 ^ scale) := by
  have half := half_le_iff digits long
  have below := ofDigitChars_lt (digits.drop scale)
  rw [valueOf_mul long, ← digitsValue_eq, ← digitsValue_eq]
  generalize digitsValue whole * 10 ^ scale + digitsValue (fraction.take scale) = units
  generalize Nat.ofDigitChars 10 (fraction.drop scale) 0 = rest at half below ⊢
  have isPower : (10 : ℚ) ^ (fraction.drop scale).length =
      ((10 ^ (fraction.drop scale).length : Nat) : ℚ) := by push_cast; rfl
  rw [isPower]
  generalize 10 ^ (fraction.drop scale).length = power at half below ⊢
  have powerPos : (0 : ℚ) < power := by exact_mod_cast below.pos
  have isShare : (rest : ℚ) / power < 1 := (div_lt_one powerPos).mpr (by exact_mod_cast below)
  have shareNonneg : (0 : ℚ) ≤ (rest : ℚ) / power := by positivity
  have unitsNonneg : (0 : ℚ) ≤ units := by positivity
  by_cases up : fraction[scale]?.any ('5' ≤ ·) = true
  · have atLeast : (1 / 2 : ℚ) ≤ rest / power := by
      have twice : (power : ℚ) ≤ 2 * rest := by exact_mod_cast half.mp up
      rw [le_div_iff₀ powerPos]
      linarith
    rw [if_pos up]
    refine Rounding.nearestAway_of_nonneg (by linarith) ?_ ?_ <;> push_cast <;> linarith
  · have less : (rest : ℚ) / power < 1 / 2 := by
      have twice : (2 * rest : ℚ) < power := by exact_mod_cast not_le.mp (half.not.mp up)
      rw [div_lt_iff₀ powerPos]
      linarith
    rw [if_neg up]
    refine Rounding.nearestAway_of_nonneg (by linarith) ?_ ?_ <;> push_cast <;> linarith

/-- A text with few decimals is not rounded. -/
theorem parseScaledRounded_of_short {value : String} {scale : Nat} {whole fraction : List Char}
    (isSplit : splitPoint (unsigned value.toList) = (whole, fraction))
    (short : fraction.length ≤ scale) : parseScaledRounded value scale = parseScaled value scale := by
  unfold parseScaledRounded
  split
  rename_i negative plain isStrip
  obtain ⟨rfl, rfl⟩ := Prod.mk.inj ((stripSign_eq _).symm.trans isStrip)
  split
  rename_i isSplit'
  obtain ⟨rfl, rfl⟩ := Prod.mk.inj (isSplit.symm.trans isSplit')
  exact if_pos (.inr (.inr (.inr short)))

/-- What is read without rounding is the value of the text. -/
theorem signedValue_of_parseScaled {value : String} {scale : Nat} {n : Int64} (small : scale ≤ 18)
    (ok : parseScaled value scale = .ok n) :
    ∃ negative whole fraction, Numeral value.toList negative whole fraction ∧
      fraction.length ≤ scale ∧ splitPoint (unsigned value.toList) = (whole, fraction) ∧
      signedValue negative whole fraction = (n.toInt : ℚ) / 10 ^ scale := by
  obtain ⟨whole, fraction, isSplit⟩ : ∃ whole fraction,
      splitPoint (unsigned value.toList) = (whole, fraction) := ⟨_, _, rfl⟩
  obtain ⟨numeral, short, isUnits⟩ := units_of_parseScaled small isSplit ok
  refine ⟨_, whole, fraction, numeral_iff.mpr ⟨rfl, isSplit, numeral⟩, short, isSplit,
    (signedValue_eq_iff numeral.2.2).mpr ⟨?_, isUnits⟩⟩
  rw [List.drop_eq_nil_of_le short]
  exact nofun

/-- **One reading of decimals.**  What the publisher reads exactly it reads the same when it may
round, and so does the venue client; and what it reads when it may round is the integer nearest to
the value of the text, away from zero between two. -/
theorem parseScaled_agrees (value : String) (scale : Nat) (small : scale ≤ 18) (n : Int64) :
    (parseScaled value scale = .ok n →
      parseScaledRounded value scale = .ok n ∧
        decimalStringToFixed value (UInt8.ofNat scale) = .ok n) ∧
    (parseScaledRounded value scale = .ok n →
      ∃ negative whole fraction, Numeral value.toList negative whole fraction ∧
        Rounding.NearestAway n.toInt (signedValue negative whole fraction * 10 ^ scale) ∧
        ∀ m, Rounding.NearestAway m (signedValue negative whole fraction * 10 ^ scale) →
          m = n.toInt) := by
  have isScale : (UInt8.ofNat scale).toNat = scale :=
    UInt8.toNat_ofNat_of_lt (small.trans_lt (by decide))
  constructor
  · intro ok
    obtain ⟨negative, whole, fraction, numeral, short, isSplit, isValue⟩ :=
      signedValue_of_parseScaled small ok
    refine ⟨(parseScaledRounded_of_short isSplit short).trans ok, ?_⟩
    refine (decimalStringToFixed_iff (isScale.trans_le small)).mpr
      ⟨negative, whole, fraction, numeral, ?_⟩
    rw [isScale]
    exact isValue
  · intro ok
    obtain ⟨negative, whole, fraction, numeral, nearest⟩ : ∃ negative whole fraction,
        Numeral value.toList negative whole fraction ∧
          Rounding.NearestAway n.toInt (signedValue negative whole fraction * 10 ^ scale) := by
      obtain ⟨whole, fraction, isSplit⟩ : ∃ whole fraction,
          splitPoint (unsigned value.toList) = (whole, fraction) := ⟨_, _, rfl⟩
      rcases Nat.lt_or_ge scale fraction.length with long | short
      · obtain ⟨numeral, isUnits⟩ := units_of_parseScaledRounded small isSplit long ok
        refine ⟨_, whole, fraction, numeral_iff.mpr ⟨rfl, isSplit, numeral⟩, ?_⟩
        rw [isUnits]
        exact nearestAway_signedUnits (nearestAway_rounded numeral.2.2 long)
      · rw [parseScaledRounded_of_short isSplit short] at ok
        obtain ⟨negative, whole, fraction, numeral, -, -, isValue⟩ :=
          signedValue_of_parseScaled small ok
        refine ⟨negative, whole, fraction, numeral, ?_⟩
        rw [isValue, div_mul_cancel₀ _ (by positivity)]
        exact Rounding.nearestAway_cast n.toInt
    exact ⟨negative, whole, fraction, numeral, nearest, fun m other => other.unique nearest⟩

/-- A rate of the venue and a volume that is rounded up. -/
theorem parseScaled_agrees_example :
    decimalStringToFixed "-0.5" (UInt8.ofNat 12) = .ok (-500000000000) ∧
      ∃ negative whole fraction, Numeral "1.005".toList negative whole fraction ∧
        Rounding.NearestAway 101 (signedValue negative whole fraction * 10 ^ 2) ∧
        ∀ m, Rounding.NearestAway m (signedValue negative whole fraction * 10 ^ 2) → m = 101 :=
  ⟨((parseScaled_agrees "-0.5" 12 (by decide) (-500000000000)).1 (by decide +kernel)).2,
    (parseScaled_agrees "1.005" 2 (by decide) 101).2 (by decide)⟩

end CrowAgent
