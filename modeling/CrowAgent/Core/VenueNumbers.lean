import CrowAgent.Core.IocRequest

/-!
# Numbers of the venue

Prices, sizes and balances come as decimal texts and are kept as integers of a scale.

* `decimalStringToFixed_exact`: a text is read exactly when it is a numeral of a number of the
  scale that fits, and what is written is read back.
-/

namespace CrowAgent

open FixedWidth DecimalText

/-! ## The parts of a text -/

/-- A text is its parts and the point between them, if there is one. -/
theorem splitPoint_cases (text : List Char) :
    text = (splitPoint text).1 ∧ (splitPoint text).2 = [] ∨
      text = (splitPoint text).1 ++ '.' :: (splitPoint text).2 := by
  induction text with
  | nil => exact .inl ⟨rfl, rfl⟩
  | cons c text ih =>
    by_cases isPoint : c = '.'
    · subst isPoint
      exact .inr rfl
    · have parts : splitPoint (c :: text) = (c :: (splitPoint text).1, (splitPoint text).2) := by
        simp [splitPoint, isPoint]
      rw [parts]
      rcases ih with ⟨isText, none⟩ | isText
      · exact .inl ⟨congrArg (c :: ·) isText, none⟩
      · exact .inr (congrArg (c :: ·) isText)

/-- A text without its sign. -/
def unsigned (text : List Char) : List Char :=
  if text.head? = some '-' then text.drop 1 else text

/-- A numeral is split into its sign and its digits. -/
theorem numeral_iff {text whole fraction : List Char} {negative : Bool} :
    Numeral text negative whole fraction ↔
      negative = decide (text.head? = some '-') ∧
      splitPoint (unsigned text) = (whole, fraction) ∧
      whole ≠ [] ∧ Digits whole ∧ Digits fraction := by
  constructor
  · rintro ⟨some, digits, fractionDigits, isText⟩
    have notSign : ∀ rest, (whole ++ rest).head? ≠ Option.some '-' := by
      intro rest
      cases whole with
      | nil => exact absurd rfl some
      | cons c whole =>
        intro sign
        obtain rfl := Option.some.inj sign
        exact absurd (digits _ List.mem_cons_self) (by decide)
    have isNegative : negative = decide (text.head? = Option.some '-') ∧
        (unsigned text = whole ∧ fraction = [] ∨ unsigned text = whole ++ '.' :: fraction) := by
      cases negative with
      | true =>
        rcases isText with ⟨rfl, none⟩ | rfl
        · exact ⟨rfl, .inl ⟨rfl, none⟩⟩
        · exact ⟨rfl, .inr rfl⟩
      | false =>
        rcases isText with ⟨rfl, none⟩ | rfl
        · have plain := notSign []
          rw [List.append_nil] at plain
          exact ⟨(decide_eq_false plain).symm, .inl ⟨if_neg plain, none⟩⟩
        · have plain := notSign ('.' :: fraction)
          exact ⟨(decide_eq_false plain).symm, .inr (if_neg plain)⟩
    refine ⟨isNegative.1, ?_, some, digits, fractionDigits⟩
    rcases isNegative.2 with ⟨isWhole, rfl⟩ | isBoth
    · rw [isWhole, splitPoint_whole digits]
    · rw [isBoth, splitPoint_point digits]
  · rintro ⟨isNegative, isSplit, some, digits, fractionDigits⟩
    have isText : text = (if negative then ['-'] else []) ++ unsigned text := by
      rw [isNegative]
      cases text with
      | nil => rfl
      | cons c text =>
        by_cases sign : c = '-'
        · subst sign
          rfl
        · have plain : ¬(c :: text).head? = Option.some '-' := by simpa using sign
          rw [unsigned, if_neg plain, decide_eq_false plain]
          rfl
    refine ⟨some, digits, fractionDigits, ?_⟩
    have parts := splitPoint_cases (unsigned text)
    simp only [isSplit] at parts
    rcases parts with ⟨isWhole, none⟩ | isBoth
    · exact .inl ⟨by rw [← isWhole, ← isText], none⟩
    · exact .inr (by rw [List.append_assoc, ← isBoth, ← isText])

/-! ## Reading -/

theorem digitsValue_eq (digits : List Char) : digitsValue digits = Nat.ofDigitChars 10 digits 0 :=
  rfl

/-- Digits that are worth little enough are read. -/
theorem parseI128_eq_some {digits : List Char} {value : Nat} (some : digits ≠ []) :
    parseI128 digits = .some value ↔ digitsValue digits < 2 ^ 127 ∧ value = digitsValue digits := by
  unfold parseI128
  split_ifs with fits
  · simp only [Option.some.injEq, fits.2, true_and, eq_comm]
  · exact ⟨nofun, fun ok => absurd ⟨some, ok.1⟩ fits⟩

/-- The digits that are read at a scale. -/
def fixedUnits (scale : Nat) (whole fraction : List Char) : Nat :=
  digitsValue whole * 10 ^ scale + digitsValue (fitted scale fraction)

theorem digits_fitted {scale : Nat} {fraction : List Char} (digits : Digits fraction) :
    Digits (fitted scale fraction) :=
  (digits.take scale).append fun c mem => by rw [List.eq_of_mem_replicate mem]; rfl

theorem length_fitted (scale : Nat) (fraction : List Char) :
    (fitted scale fraction).length = scale := by
  rw [fitted, List.length_append, List.length_take, List.length_replicate]
  omega

theorem digitsValue_fitted_lt {scale : Nat} {fraction : List Char} (digits : Digits fraction) :
    digitsValue (fitted scale fraction) < 10 ^ scale := by
  have below := ofDigitChars_lt (@digits_fitted scale fraction digits)
  rwa [length_fitted] at below

/-- The digits of a fraction are read at every small scale. -/
theorem parse_fitted {scale : Nat} {fraction : List Char} (digits : Digits fraction)
    (small : scale ≤ 18) :
    (if fitted scale fraction = [] then some 0 else parseI128 (fitted scale fraction)) =
      some (digitsValue (fitted scale fraction)) := by
  have below := @digitsValue_fitted_lt scale fraction digits
  have bound : 10 ^ scale ≤ 10 ^ 18 := Nat.pow_le_pow_right (by decide) small
  split_ifs with none
  · rw [none]
    rfl
  · exact (parseI128_eq_some none).mpr ⟨by omega, rfl⟩

/-- Units with the sign of a text. -/
def signedUnits (text : List Char) (units : Nat) : Int :=
  if text.head? = some '-' then -(units : Int) else units

theorem natAbs_signedUnits (text : List Char) (units : Nat) :
    (signedUnits text units).natAbs = units := by
  unfold signedUnits
  split_ifs
  · exact (Int.natAbs_neg _).trans (Int.natAbs_natCast _)
  · exact Int.natAbs_natCast _

/-- Units that have the value of a machine integer are few. -/
theorem units_le {text : List Char} {units : Nat} {n : Int64}
    (isValue : n.toInt = signedUnits text units) : units ≤ 2 ^ 63 := by
  have abs := natAbs_signedUnits text units
  have lower := n.le_toInt
  have upper := n.toInt_lt
  omega

/-- The last steps of the reading. -/
theorem narrow_eq_some {scale units : Nat} {text : List Char} {n : Int64} (small : scale ≤ 18) :
    (if 10 ^ scale < 2 ^ 127 ∧ units < 2 ^ 127 then toI64? (signedUnits text units) else none) =
      some n ↔ n.toInt = signedUnits text units := by
  have power : 10 ^ scale ≤ 10 ^ 18 := Nat.pow_le_pow_right (by decide) small
  constructor
  · intro ok
    split_ifs at ok
    exact FixedWidth.toI64?_eq_some.mp ok
  · intro isValue
    have few := units_le isValue
    rw [if_pos ⟨by omega, by omega⟩]
    exact FixedWidth.toI64?_eq_some.mpr isValue

/-- A text of digits is read when the digits after the scale are zeros and its value fits. -/
theorem decimalStringToFixed_eq_ok {value : String} {scale : UInt8} {n : Int64}
    {whole fraction : List Char} (small : scale.toNat ≤ 18)
    (isSplit : splitPoint (unsigned value.toList) = (whole, fraction)) :
    decimalStringToFixed value scale = .ok n ↔
      (whole ≠ [] ∧ Digits whole ∧ Digits fraction) ∧
      (∀ c ∈ fraction.drop scale.toNat, c = '0') ∧
      n.toInt = signedUnits value.toList (fixedUnits scale.toNat whole fraction) := by
  have split : splitPoint (if value.toList.head? = some '-' then value.toList.drop 1
      else value.toList) = (whole, fraction) := isSplit
  have power : 10 ^ scale.toNat ≤ 10 ^ 18 := Nat.pow_le_pow_right (by decide) small
  have multiplier : checkedU128 (10 ^ scale.toNat) = some (10 ^ scale.toNat) :=
    if_pos (by omega)
  have numeralIff : whole = [] ∨ (!whole.all Char.isDigit) = true ∨
      (!fraction.all Char.isDigit) = true ↔ ¬(whole ≠ [] ∧ Digits whole ∧ Digits fraction) := by
    simp only [Digits, Bool.not_eq_true', List.all_eq_false, not_and_or, not_not, not_forall,
      exists_prop]
  have zerosIff : (fraction.drop scale.toNat).any (· ≠ '0') = true ↔
      ¬∀ c ∈ fraction.drop scale.toNat, c = '0' := by
    simp
  unfold decimalStringToFixed
  dsimp only
  rw [split]
  by_cases numeral : whole ≠ [] ∧ Digits whole ∧ Digits fraction
  · rw [if_neg (numeralIff.not.mpr (not_not.mpr numeral))]
    by_cases zeros : ∀ c ∈ fraction.drop scale.toNat, c = '0'
    · rw [if_neg (zerosIff.not.mpr (not_not.mpr zeros))]
      refine fixed_eq_ok.trans (Option.bind_eq_some_iff.trans ?_)
      rw [show List.take scale.toNat (whole, fraction).2 ++
        List.replicate (scale.toNat - (whole, fraction).2.length) '0' =
          fitted scale.toNat fraction from rfl]
      have fits := parse_fitted numeral.2.2 small
      have read : ∀ high : Nat, (if fitted scale.toNat fraction = [] then do
            let fractional ← some 0
            let multiplier ← checkedU128 (10 ^ scale.toNat)
            if multiplier < 2 ^ 127 ∧ high * multiplier + fractional < 2 ^ 127 then
              toI64? (signedUnits value.toList (high * multiplier + fractional))
            else none
          else do
            let fractional ← parseI128 (fitted scale.toNat fraction)
            let multiplier ← checkedU128 (10 ^ scale.toNat)
            if multiplier < 2 ^ 127 ∧ high * multiplier + fractional < 2 ^ 127 then
              toI64? (signedUnits value.toList (high * multiplier + fractional))
            else none) = some n ↔ n.toInt = signedUnits value.toList
              (high * 10 ^ scale.toNat + digitsValue (fitted scale.toNat fraction)) := by
        intro high
        split_ifs with none
        · rw [none, multiplier]
          exact narrow_eq_some small
        · rw [if_neg none] at fits
          rw [fits, multiplier]
          exact narrow_eq_some small
      constructor
      · rintro ⟨high, isHigh, ok⟩
        obtain ⟨-, rfl⟩ := (parseI128_eq_some numeral.1).mp isHigh
        exact ⟨numeral, zeros, (read _).mp ok⟩
      · rintro ⟨-, -, isValue⟩
        have few := units_le isValue
        have high : digitsValue whole ≤ digitsValue whole * 10 ^ scale.toNat :=
          Nat.le_mul_of_pos_right _ (by positivity)
        unfold fixedUnits at few
        exact ⟨_, (parseI128_eq_some numeral.1).mpr ⟨by omega, rfl⟩, (read _).mpr isValue⟩
    · rw [if_pos (zerosIff.mpr zeros)]
      exact ⟨(fun ok => by cases ok), fun ok => absurd ok.2.1 zeros⟩
  · rw [if_pos (numeralIff.mpr numeral)]
    exact ⟨(fun ok => by cases ok), fun ok => absurd ok.1 numeral⟩

/-- The number of a numeral in units of a scale. -/
theorem signedValue_eq_iff {text whole fraction : List Char} {scale : Nat} {n : Int}
    (digits : Digits fraction) :
    signedValue (decide (text.head? = some '-')) whole fraction = (n : ℚ) / 10 ^ scale ↔
      (∀ c ∈ fraction.drop scale, c = '0') ∧
        n = signedUnits text (fixedUnits scale whole fraction) := by
  unfold signedValue signedUnits fixedUnits
  by_cases negative : text.head? = some '-'
  · rw [if_pos (decide_eq_true negative), if_pos negative, neg_eq_iff_eq_neg, ← neg_div,
      ← Int.cast_neg, valueOf_eq_iff digits]
    refine and_congr_right fun _ => ?_
    rw [neg_eq_iff_eq_neg]
    push_cast
    rfl
  · rw [if_neg (by simpa using negative), if_neg negative, valueOf_eq_iff digits]
    push_cast
    rfl

/-- A text is read exactly when it is a numeral of a number of the scale. -/
theorem decimalStringToFixed_iff {value : String} {scale : UInt8} {n : Int64}
    (small : scale.toNat ≤ 18) :
    decimalStringToFixed value scale = .ok n ↔
      ∃ negative whole fraction, Numeral value.toList negative whole fraction ∧
        signedValue negative whole fraction = (n.toInt : ℚ) / 10 ^ scale.toNat := by
  obtain ⟨whole, fraction, isSplit⟩ : ∃ whole fraction,
      splitPoint (unsigned value.toList) = (whole, fraction) := ⟨_, _, rfl⟩
  rw [decimalStringToFixed_eq_ok small isSplit]
  constructor
  · rintro ⟨⟨some, digits, fractionDigits⟩, isValue⟩
    exact ⟨_, whole, fraction, numeral_iff.mpr ⟨rfl, isSplit, some, digits, fractionDigits⟩,
      (signedValue_eq_iff fractionDigits).mpr isValue⟩
  · rintro ⟨negative, whole', fraction', numeral, isValue⟩
    obtain ⟨rfl, isSplit', numeral⟩ := numeral_iff.mp numeral
    obtain ⟨rfl, rfl⟩ := Prod.mk.inj (isSplit.symm.trans isSplit')
    exact ⟨numeral, (signedValue_eq_iff numeral.2.2).mp isValue⟩

/-! ## Writing -/

/-- A positive integer has a text at every small scale. -/
theorem fixedDecimal_eq {value : Int64} {scale : UInt8} (positive : 0 < value.toInt)
    (small : scale.toNat ≤ 18) :
    fixedDecimal value scale =
      .ok (String.ofList (fixedText scale.toNat value.toInt.toNat)) := by
  have zero : (0 : Int64).toInt = 0 := by decide
  have notNonpos : ¬value ≤ 0 := by
    rw [Int64.le_iff_toInt_le, zero]
    exact not_le.mpr positive
  have power : (10 : Int) ^ scale.toNat < 2 ^ 63 :=
    (pow_le_pow_right₀ (by decide) small).trans_lt (by decide)
  rw [fixedDecimal, if_neg notNonpos, if_pos power]

/-- **Exact numbers.**  At a scale of at most 18 a text is read exactly when it is a numeral of a
number of the scale that fits into 64 bits, and the text of a positive integer is read back. -/
theorem decimalStringToFixed_exact (scale : UInt8) (small : scale.toNat ≤ 18) :
    (∀ (value : String) (n : Int64), decimalStringToFixed value scale = .ok n ↔
      ∃ negative whole fraction, Numeral value.toList negative whole fraction ∧
        signedValue negative whole fraction = (n.toInt : ℚ) / 10 ^ scale.toNat) ∧
    ∀ value : Int64, 0 < value.toInt →
      ∃ text, fixedDecimal value scale = .ok text ∧
        decimalStringToFixed text scale = .ok value := by
  refine ⟨fun value n => decimalStringToFixed_iff small, fun value positive => ?_⟩
  obtain ⟨whole, fraction, numeral, isValue⟩ :=
    exists_numeral_fixedText scale.toNat value.toInt.toNat
  refine ⟨_, fixedDecimal_eq positive small, (decimalStringToFixed_iff small).mpr
    ⟨false, whole, fraction, by rwa [String.toList_ofList], ?_⟩⟩
  have isInt : (value.toInt.toNat : ℚ) = value.toInt := by
    exact_mod_cast Int.toNat_of_nonneg positive.le
  exact isValue.trans (congrArg (· / _) isInt)

/-- A price of the book at the scale of prices. -/
theorem decimalStringToFixed_exact_price :
    ∃ text, fixedDecimal 60000500000 6 = .ok text ∧
      decimalStringToFixed text 6 = .ok 60000500000 :=
  (decimalStringToFixed_exact 6 (by decide)).2 60000500000 (by decide)

end CrowAgent
