import CrowAgent.Lib.DecimalText
import Mathlib.Algebra.Order.Group.Abs
import Mathlib.Data.List.Lex
import Mathlib.Data.String.Basic

/-!
# RFC 3339 texts

The text of a time is its local second, in fields of fixed widths, then the decimals of the second
without the zeros at their end, then the offset.

* `stamp_lt`: the fixed fields are in the order of the local seconds.
* `text_lt_iff`: what decides the order of two texts.
* `text_injective`: a text is that of one time only.
-/

namespace Rfc3339

open DecimalText

/-! ## Days -/

/-- The days before a year, from the first day of year 0. -/
def daysBefore (year : Nat) : Nat :=
  365 * year + (year + 3) / 4 - (year + 99) / 100 + (year + 399) / 400

def isLeap (year : Nat) : Bool := year % 4 = 0 && (year % 100 ≠ 0 || year % 400 = 0)

def monthLengths (leap : Bool) : List Nat :=
  [31, if leap then 29 else 28, 31, 30, 31, 30, 31, 31, 30, 31, 30, 31]

/-- The year of a day: a year of the mean length, or a neighbour of it. -/
def yearOf (day : Nat) : Nat :=
  let mean := day * 400 / 146097
  if daysBefore (mean + 1) ≤ day then mean + 1
  else if daysBefore mean ≤ day then mean
  else mean - 1

/-- The month and the day of the month, from the days since the month began. -/
def monthDay : List Nat → Nat → Nat → Nat × Nat
  | [], month, day => (month, day + 1)
  | length :: lengths, month, day =>
    if day < length then (month, day + 1) else monthDay lengths (month + 1) (day - length)

theorem daysBefore_succ (year : Nat) :
    daysBefore (year + 1) = daysBefore year + (monthLengths (isLeap year)).sum := by
  have days : (monthLengths (isLeap year)).sum = if isLeap year then 366 else 365 := by
    cases isLeap year <;> rfl
  have four : (year + 1 + 3) / 4 = (year + 3) / 4 + if year % 4 = 0 then 1 else 0 := by
    split_ifs <;> omega
  have hundred : (year + 1 + 99) / 100 = (year + 99) / 100 + if year % 100 = 0 then 1 else 0 := by
    split_ifs <;> omega
  have fourHundred : (year + 1 + 399) / 400 =
      (year + 399) / 400 + if year % 400 = 0 then 1 else 0 := by
    split_ifs <;> omega
  have byHundred : year % 100 = 0 → year % 4 = 0 := by omega
  have byFourHundred : year % 400 = 0 → year % 100 = 0 := by omega
  have enough : (year + 99) / 100 ≤ 365 * year + (year + 3) / 4 := by omega
  rw [days, daysBefore, daysBefore, four, hundred, fourHundred, isLeap]
  generalize (year + 3) / 4 = fours, (year + 99) / 100 = hundreds,
    (year + 399) / 400 = fourHundreds at enough ⊢
  by_cases isFour : year % 4 = 0
  · by_cases isHundred : year % 100 = 0
    · by_cases isFourHundred : year % 400 = 0
      · simp only [isFour, isHundred, isFourHundred, if_true, decide_true, ne_eq,
          not_true_eq_false, decide_false, Bool.or_true, Bool.and_true]
        omega
      · simp only [isFour, isHundred, isFourHundred, if_true, if_false, decide_true, ne_eq,
          not_true_eq_false, decide_false, Bool.or_false, Bool.and_false, Bool.false_eq_true]
        omega
    · have isFourHundred : ¬year % 400 = 0 := fun is => isHundred (byFourHundred is)
      simp only [isFour, isHundred, isFourHundred, if_true, if_false, decide_true, ne_eq,
        not_false_eq_true, Bool.true_or, Bool.and_true]
      omega
  · have isHundred : ¬year % 100 = 0 := fun is => isFour (byHundred is)
    have isFourHundred : ¬year % 400 = 0 := fun is => isHundred (byFourHundred is)
    simp only [isFour, isHundred, isFourHundred, if_false, decide_false, Bool.false_and,
      Bool.false_eq_true]
    omega

theorem daysBefore_mono : Monotone daysBefore :=
  monotone_nat_of_le_succ fun year => by
    rw [daysBefore_succ]
    exact Nat.le_add_right _ _

/-- Years have their mean length but for a few days. -/
theorem daysBefore_bounds (year : Nat) :
    146097 * year ≤ 400 * daysBefore year + 396 ∧ 400 * daysBefore year ≤ 146097 * year + 699 := by
  have four : (year + 3) / 4 * 4 ≤ year + 3 ∧ year ≤ (year + 3) / 4 * 4 := by omega
  have hundred : (year + 99) / 100 * 100 ≤ year + 99 ∧ year ≤ (year + 99) / 100 * 100 := by omega
  have fourHundred : (year + 399) / 400 * 400 ≤ year + 399 ∧ year ≤ (year + 399) / 400 * 400 := by
    omega
  unfold daysBefore
  generalize (year + 3) / 4 = fours, (year + 99) / 100 = hundreds,
    (year + 399) / 400 = fourHundreds at four hundred fourHundred ⊢
  omega

theorem yearOf_spec (day : Nat) :
    daysBefore (yearOf day) ≤ day ∧ day < daysBefore (yearOf day + 1) := by
  unfold yearOf
  dsimp only
  have low := Nat.div_mul_le_self (day * 400) 146097
  have high := @Nat.lt_div_mul_add (day * 400) 146097 (by decide)
  generalize day * 400 / 146097 = mean at low high ⊢
  split_ifs with after within
  · have next := daysBefore_bounds (mean + 1 + 1)
    exact ⟨after, by omega⟩
  · exact ⟨within, not_le.mp after⟩
  · have first : daysBefore 0 = 0 := rfl
    have positive : 0 < mean := by
      by_contra zero
      rw [Nat.eq_zero_of_not_pos zero, first] at within
      exact within (Nat.zero_le _)
    have before := daysBefore_bounds (mean - 1)
    rw [Nat.sub_add_cancel positive]
    exact ⟨by omega, not_le.mp within⟩

theorem yearOf_mono {a b : Nat} (le : a ≤ b) : yearOf a ≤ yearOf b := by
  by_contra less
  have before := daysBefore_mono (Nat.succ_le_of_lt (not_le.mp less))
  have specA := yearOf_spec a
  have specB := yearOf_spec b
  rw [Nat.succ_eq_add_one] at before
  omega

theorem le_monthDay (lengths : List Nat) (month day : Nat) :
    month ≤ (monthDay lengths month day).1 := by
  induction lengths generalizing month day with
  | nil => exact le_refl _
  | cons length lengths ih =>
    rw [monthDay]
    split_ifs
    · exact le_refl _
    · exact (Nat.le_succ month).trans (ih _ _)

/-- A later day is in a later month, or later in the month. -/
theorem monthDay_lt {lengths : List Nat} {month a b : Nat} (less : a < b) :
    (monthDay lengths month a).1 < (monthDay lengths month b).1 ∨
      (monthDay lengths month a).1 = (monthDay lengths month b).1 ∧
        (monthDay lengths month a).2 < (monthDay lengths month b).2 := by
  induction lengths generalizing month a b with
  | nil => exact .inr ⟨rfl, Nat.succ_lt_succ less⟩
  | cons length lengths ih =>
    rw [monthDay, monthDay]
    split_ifs with insideA insideB insideB
    · exact .inr ⟨rfl, Nat.succ_lt_succ less⟩
    · exact .inl (Nat.lt_of_succ_le (le_monthDay _ _ _))
    · omega
    · exact ih (by omega)

/-- A month and a day of it have two digits. -/
theorem monthDay_bounds {lengths : List Nat} {month day : Nat} (inside : day < lengths.sum)
    (short : ∀ length ∈ lengths, length ≤ 31) :
    (monthDay lengths month day).1 < month + lengths.length ∧
      (monthDay lengths month day).2 ≤ 31 := by
  induction lengths generalizing month day with
  | nil => cases inside
  | cons length lengths ih =>
    rw [List.forall_mem_cons] at short
    rw [List.sum_cons] at inside
    rw [monthDay, List.length_cons]
    split_ifs with first
    · dsimp only
      omega
    · have rest := @ih (month + 1) (day - length) (by omega) short.2
      omega

/-! ## Fields of a second -/

/-- The year, the month, the day, the hour, the minute and the second of a second since year 0. -/
def fields (second : Nat) : List Nat :=
  let day := second / 86400
  let time := second % 86400
  let year := yearOf day
  let date := monthDay (monthLengths (isLeap year)) 1 (day - daysBefore year)
  [year, date.1, date.2, time / 3600, time / 60 % 60, time % 60]

/-- What stands before a field, and its width. -/
def stampWidths : List (List Char × Nat) :=
  [([], 4), (['-'], 2), (['-'], 2), (['T'], 2), ([':'], 2), ([':'], 2)]

def render : List (List Char × Nat) → List Nat → List Char
  | (lead, width) :: widths, value :: values => lead ++ (padded width value ++ render widths values)
  | _, _ => []

/-- The text of a second, up to its decimals. -/
def stamp (second : Nat) : List Char := render stampWidths (fields second)

/-- The end of the year 9999. -/
def stampEnd : Nat := daysBefore 10000 * 86400

/-- Later seconds have greater fields. -/
theorem fields_lt {a b : Nat} (less : a < b) : fields a < fields b := by
  have days : a / 86400 < b / 86400 ∨ a / 86400 = b / 86400 ∧ a % 86400 < b % 86400 := by omega
  rcases days with before | ⟨same, time⟩
  · rcases (yearOf_mono before.le).lt_or_eq with year | year
    · exact List.cons_lt_cons_iff.mpr (.inl year)
    · have specA := (yearOf_spec (a / 86400)).1
      rw [year] at specA
      have later : a / 86400 - daysBefore (yearOf (b / 86400)) <
          b / 86400 - daysBefore (yearOf (b / 86400)) := by omega
      unfold fields
      dsimp only
      rw [year]
      refine List.cons_lt_cons_iff.mpr (.inr ⟨rfl, ?_⟩)
      rcases monthDay_lt later with month | ⟨month, day⟩
      · exact List.cons_lt_cons_iff.mpr (.inl month)
      · exact List.cons_lt_cons_iff.mpr (.inr ⟨month, List.cons_lt_cons_iff.mpr (.inl day)⟩)
  · unfold fields
    rw [same]
    simp only [List.cons_lt_cons_iff, lt_self_iff_false, false_or, true_and]
    simp only [and_false, or_false]
    omega

theorem yearOf_lt {day year : Nat} (below : day < daysBefore year) : yearOf day < year := by
  by_contra late
  have from_ := daysBefore_mono (not_lt.mp late)
  have spec := yearOf_spec day
  omega

/-- The fields of a text have their widths. -/
def Fits : List (List Char × Nat) → List Nat → Prop :=
  List.Forall₂ fun width value => 0 < width.2 ∧ value < 10 ^ width.2

theorem fits_fields {second : Nat} (inside : second < stampEnd) : Fits stampWidths (fields second) := by
  have day : second / 86400 < daysBefore 10000 :=
    Nat.div_lt_of_lt_mul (lt_of_lt_of_eq inside (Nat.mul_comm _ _))
  have year := yearOf_lt day
  have spec := yearOf_spec (second / 86400)
  rw [daysBefore_succ] at spec
  have date := @monthDay_bounds (monthLengths (isLeap (yearOf (second / 86400)))) 1
    (second / 86400 - daysBefore (yearOf (second / 86400))) (by omega)
    (by cases isLeap (yearOf (second / 86400)) <;> decide)
  have months : (monthLengths (isLeap (yearOf (second / 86400)))).length = 12 := by
    cases isLeap (yearOf (second / 86400)) <;> rfl
  rw [months] at date
  have time := Nat.mod_lt second (show 0 < 86400 by decide)
  refine .cons ⟨by decide, year⟩ (.cons ⟨by decide, ?_⟩ (.cons ⟨by decide, ?_⟩
    (.cons ⟨by decide, ?_⟩ (.cons ⟨by decide, ?_⟩ (.cons ⟨by decide, ?_⟩ .nil)))))
  · exact date.1.trans (by decide)
  · exact lt_of_le_of_lt date.2 (by decide)
  · dsimp only
    omega
  · dsimp only
    omega
  · dsimp only
    omega

/-! ## The order of digits -/

/-- Of two texts of as many digits, the one of the smaller value is smaller. -/
theorem lt_of_ofDigitChars_lt {a b : List Char} (digitsA : Digits a) (digitsB : Digits b)
    (length : a.length = b.length)
    (less : Nat.ofDigitChars 10 a 0 < Nat.ofDigitChars 10 b 0) : a < b := by
  induction a generalizing b with
  | nil =>
    rw [List.length_eq_zero_iff.mp length.symm] at less
    exact absurd less (lt_irrefl _)
  | cons c a ih =>
    cases b with
    | nil => cases length
    | cons d b =>
      have restA : Digits a := fun e mem => digitsA e (List.mem_cons_of_mem c mem)
      have restB : Digits b := fun e mem => digitsB e (List.mem_cons_of_mem d mem)
      have sameLength : a.length = b.length := Nat.succ.inj length
      have boundA := ofDigitChars_lt restA
      have boundB := ofDigitChars_lt restB
      have zero : '0'.toNat = 48 := rfl
      have lowC := (Char.isDigit_iff_toNat.mp (digitsA c List.mem_cons_self)).1
      have lowD := (Char.isDigit_iff_toNat.mp (digitsB d List.mem_cons_self)).1
      rw [Nat.ofDigitChars_cons, Nat.ofDigitChars_cons, Nat.ofDigitChars_eq_ofDigitChars_zero,
        @Nat.ofDigitChars_eq_ofDigitChars_zero b, sameLength, Nat.mul_zero, Nat.zero_add,
        Nat.zero_add] at less
      rw [sameLength] at boundA
      rw [List.cons_lt_cons_iff]
      rcases Nat.lt_trichotomy c.toNat d.toNat with lower | same | higher
      · exact .inl lower
      · refine .inr ⟨Char.toNat_inj.mp same, ih restA restB sameLength ?_⟩
        rw [same] at less
        omega
      · have atLeast : d.toNat - '0'.toNat + 1 ≤ c.toNat - '0'.toNat := by omega
        have more := Nat.mul_le_mul_left (10 ^ b.length) atLeast
        rw [Nat.mul_add] at more
        omega

theorem padded_lt {width a b : Nat} (pos : 0 < width) (less : a < b) (small : b < 10 ^ width) :
    padded width a < padded width b := by
  refine lt_of_ofDigitChars_lt (digits_padded _ _) (digits_padded _ _) ?_ ?_
  · rw [length_padded pos (less.trans small), length_padded pos small]
  · rw [ofDigitChars_padded, ofDigitChars_padded]
    exact less

theorem padded_injective {width a b : Nat} (same : padded width a = padded width b) : a = b := by
  rw [← ofDigitChars_padded width a, same, ofDigitChars_padded]

/-- Texts that begin with as many characters are compared there first. -/
theorem append_lt_append_iff {a b c d : List Char} (length : a.length = c.length) :
    a ++ b < c ++ d ↔ a < c ∨ a = c ∧ b < d := by
  induction a generalizing c with
  | nil =>
    rw [List.length_eq_zero_iff.mp length.symm]
    simp
  | cons x a ih =>
    cases c with
    | nil => cases length
    | cons y c =>
      rw [List.cons_append, List.cons_append, List.cons_lt_cons_iff, List.cons_lt_cons_iff,
        ih (Nat.succ.inj length), List.cons.injEq]
      constructor
      · rintro (less | ⟨same, less | ⟨rest, less⟩⟩)
        · exact .inl (.inl less)
        · exact .inl (.inr ⟨same, less⟩)
        · exact .inr ⟨⟨same, rest⟩, less⟩
      · rintro ((less | ⟨same, less⟩) | ⟨⟨same, rest⟩, less⟩)
        · exact .inl less
        · exact .inr ⟨same, .inl less⟩
        · exact .inr ⟨same, .inr ⟨rest, less⟩⟩

theorem length_render {widths : List (List Char × Nat)} {values : List Nat}
    (fits : Fits widths values) :
    (render widths values).length = (widths.map fun width => width.1.length + width.2).sum := by
  induction fits with
  | nil => rfl
  | cons fit _ ih =>
    rw [render, List.length_append, List.length_append, length_padded fit.1 fit.2, ih,
      List.map_cons, List.sum_cons, Nat.add_assoc]

/-- Smaller fields are rendered as a smaller text. -/
theorem render_lt {widths : List (List Char × Nat)} {a b : List Nat} (fitsA : Fits widths a)
    (fitsB : Fits widths b) (less : a < b) : render widths a < render widths b := by
  induction fitsA generalizing b with
  | nil =>
    cases fitsB
    exact absurd less (lt_irrefl _)
  | cons fit fits ih =>
    cases fitsB with
    | cons fitB fitsB =>
      rw [render, render]
      refine List.append_left_lt ?_
      rcases List.cons_lt_cons_iff.mp less with lower | ⟨rfl, rest⟩
      · refine (append_lt_append_iff ?_).mpr (.inl (padded_lt fit.1 lower fitB.2))
        rw [length_padded fit.1 fit.2, length_padded fitB.1 fitB.2]
      · exact List.append_left_lt (ih fitsB rest)

theorem length_stamp {second : Nat} (inside : second < stampEnd) : (stamp second).length = 19 :=
  length_render (fits_fields inside)

/-- **Order of stamps.**  A later second has a greater stamp. -/
theorem stamp_lt {a b : Nat} (less : a < b) (inside : b < stampEnd) : stamp a < stamp b :=
  render_lt (fits_fields (less.trans inside)) (fits_fields inside) (fields_lt less)

theorem stamp_injective {a b : Nat} (insideA : a < stampEnd) (insideB : b < stampEnd)
    (same : stamp a = stamp b) : a = b := by
  rcases Nat.lt_trichotomy a b with less | equal | more
  · have apart := stamp_lt less insideB
    rw [same] at apart
    exact absurd apart (lt_irrefl _)
  · exact equal
  · have apart := stamp_lt more insideA
    rw [same] at apart
    exact absurd apart (lt_irrefl _)

/-! ## What follows a stamp -/

/-- The decimals of a second. -/
def decimals (nanosecond : Nat) : List Char :=
  if nanosecond = 0 then [] else '.' :: kept 9 nanosecond

/-- An offset of whole minutes. -/
def offsetText (offset : Int) : List Char :=
  if offset = 0 then ['Z']
  else (if offset < 0 then '-' else '+') ::
    (padded 2 (offset.natAbs / 3600) ++ ':' :: padded 2 (offset.natAbs / 60 % 60))

/-- The text after the stamp. -/
def tail (nanosecond : Nat) (offset : Int) : List Char := decimals nanosecond ++ offsetText offset

theorem exists_offsetText (offset : Int) :
    ∃ c rest, offsetText offset = c :: rest ∧ c ∈ ['Z', '-', '+'] := by
  unfold offsetText
  split_ifs
  · exact ⟨'Z', [], rfl, by simp⟩
  · exact ⟨'-', _, rfl, by simp⟩
  · exact ⟨'+', _, rfl, by simp⟩

theorem kept_injective {scale a b : Nat} (pos : 0 < scale) (smallA : a < 10 ^ scale)
    (smallB : b < 10 ^ scale) (same : kept scale a = kept scale b) : a = b := by
  obtain ⟨zerosA, lengthA, valueA⟩ := @exists_kept scale a pos
  obtain ⟨zerosB, lengthB, valueB⟩ := @exists_kept scale b pos
  rw [Nat.mod_eq_of_lt smallA] at valueA
  rw [Nat.mod_eq_of_lt smallB] at valueB
  rw [same] at lengthA valueA
  have zeros : zerosA = zerosB := by omega
  rw [zeros, valueB] at valueA
  exact valueA.symm

theorem offsetText_injective {a b : Int} (smallA : a.natAbs < 86400) (smallB : b.natAbs < 86400)
    (minuteA : a % 60 = 0) (minuteB : b % 60 = 0) (same : offsetText a = offsetText b) : a = b := by
  have hours : ∀ offset : Int, offset.natAbs < 86400 →
      (padded 2 (offset.natAbs / 3600)).length = 2 := fun offset small =>
    length_padded (by decide) (by omega)
  unfold offsetText at same
  split_ifs at same
  all_goals simp only [List.cons.injEq, Char.reduceEq, false_and, true_and] at same
  all_goals first
    | omega
    | (obtain ⟨hour, minute⟩ := List.append_inj same (by rw [hours a smallA, hours b smallB])
       have hour := padded_injective hour
       have minute := padded_injective (List.cons.inj minute).2
       omega)

theorem tail_injective {nanoA nanoB : Nat} {offsetA offsetB : Int} (nanosA : nanoA < 10 ^ 9)
    (nanosB : nanoB < 10 ^ 9) (same : tail nanoA offsetA = tail nanoB offsetB) :
    nanoA = nanoB ∧ offsetText offsetA = offsetText offsetB := by
  obtain ⟨c, restA, textA, signA⟩ := exists_offsetText offsetA
  obtain ⟨d, restB, textB, signB⟩ := exists_offsetText offsetB
  have noDigit : ∀ sign ∈ ['Z', '-', '+'], sign.isDigit = false ∧ sign ≠ '.' := by
    intro sign mem
    simp only [List.mem_cons, List.not_mem_nil, or_false] at mem
    rcases mem with rfl | rfl | rfl
    · exact ⟨rfl, by decide⟩
    · exact ⟨rfl, by decide⟩
    · exact ⟨rfl, by decide⟩
  have digits : ∀ nano sign rest, sign ∈ ['Z', '-', '+'] →
      (kept 9 nano ++ sign :: rest).takeWhile Char.isDigit = kept 9 nano := by
    intro nano sign rest isSign
    rw [List.takeWhile_append_of_pos (digits_kept 9 nano), List.takeWhile_cons_of_neg,
      List.append_nil]
    rw [(noDigit sign isSign).1]
    decide
  rw [tail, tail, textA, textB, decimals, decimals] at same
  split_ifs at same with zeroA zeroB zeroB
  · rw [textA, textB]
    exact ⟨zeroA.trans zeroB.symm, same⟩
  · exact absurd (List.cons.inj same).1 (noDigit c signA).2
  · exact absurd (List.cons.inj same).1.symm (noDigit d signB).2
  · have rest : kept 9 nanoA ++ c :: restA = kept 9 nanoB ++ d :: restB := (List.cons.inj same).2
    have kepts := congrArg (List.takeWhile Char.isDigit) rest
    rw [digits _ _ _ signA, digits _ _ _ signB] at kepts
    rw [kepts] at rest
    rw [textA, textB]
    exact ⟨kept_injective (by decide) nanosA nanosB kepts, List.append_cancel_left rest⟩

/-! ## Times -/

/-- A point in time and the offset from UTC it is told under, in seconds. -/
structure Moment : Type where
  unixNanoseconds : Int
  offset : Int

namespace Moment

/-- The time of day and the date under the offset, as nanoseconds since year 0. -/
def localNanoseconds (moment : Moment) : Int :=
  moment.unixNanoseconds + moment.offset * 10 ^ 9 + daysBefore 1970 * 86400 * 10 ^ 9

def second (moment : Moment) : Nat := (moment.localNanoseconds / 10 ^ 9).toNat

def nanosecond (moment : Moment) : Nat := (moment.localNanoseconds % 10 ^ 9).toNat

/-- The year has four digits and the offset two for its hours and no seconds. -/
def Printable (moment : Moment) : Prop :=
  0 ≤ moment.localNanoseconds ∧ moment.localNanoseconds < stampEnd * 10 ^ 9 ∧
    moment.offset.natAbs < 86400 ∧ moment.offset % 60 = 0

instance (moment : Moment) : Decidable moment.Printable := instDecidableAnd

/-- The text after the stamp. -/
def rest (moment : Moment) : List Char := tail moment.nanosecond moment.offset

def text (moment : Moment) : Option (List Char) :=
  if moment.Printable then some (stamp moment.second ++ moment.rest) else none

/-- The stamp of the first moment is earlier, or it is the same and the text after it smaller. -/
def Before (a b : Moment) : Prop :=
  a.second < b.second ∨ a.second = b.second ∧ a.rest < b.rest

instance (a b : Moment) : Decidable (a.Before b) := instDecidableOr

variable {a b moment : Moment} {textA textB : List Char}

theorem printable_of_text (written : moment.text = some textA) :
    moment.Printable ∧ stamp moment.second ++ moment.rest = textA := by
  unfold text at written
  split_ifs at written with printable
  exact ⟨printable, Option.some.inj written⟩

theorem second_lt (printable : moment.Printable) : moment.second < stampEnd := by
  obtain ⟨low, high, -, -⟩ := printable
  unfold second
  omega

/-- **Order of texts.**  Stamps decide, and after equal ones what follows. -/
theorem text_lt_iff (writtenA : a.text = some textA) (writtenB : b.text = some textB) :
    textA < textB ↔ a.Before b := by
  obtain ⟨printableA, rfl⟩ := printable_of_text writtenA
  obtain ⟨printableB, rfl⟩ := printable_of_text writtenB
  have insideA := second_lt printableA
  have insideB := second_lt printableB
  rw [append_lt_append_iff (by rw [length_stamp insideA, length_stamp insideB]), Before]
  constructor
  · rintro (less | ⟨same, less⟩)
    · rcases Nat.lt_trichotomy a.second b.second with before | same | after
      · exact .inl before
      · rw [same] at less
        exact absurd less (lt_irrefl _)
      · exact absurd (less.trans (stamp_lt after insideA)) (lt_irrefl _)
    · exact .inr ⟨stamp_injective insideA insideB same, less⟩
  · rintro (before | ⟨same, less⟩)
    · exact .inl (stamp_lt before insideB)
    · exact .inr ⟨by rw [same], less⟩

/-- **One time.**  Equal texts are of one time under one offset. -/
theorem text_injective (writtenA : a.text = some textA) (writtenB : b.text = some textA) :
    a = b := by
  obtain ⟨printableA, rfl⟩ := printable_of_text writtenA
  obtain ⟨printableB, same⟩ := printable_of_text writtenB
  have insideA := second_lt printableA
  have insideB := second_lt printableB
  obtain ⟨stamps, rests⟩ := List.append_inj same (by rw [length_stamp insideA, length_stamp insideB])
  have seconds := stamp_injective insideB insideA stamps
  have below : ∀ moment : Moment, moment.nanosecond < 10 ^ 9 := fun moment => by
    unfold nanosecond
    omega
  obtain ⟨nanos, offsets⟩ := tail_injective (below b) (below a) rests
  obtain ⟨lowA, -, smallA, minuteA⟩ := printableA
  obtain ⟨lowB, -, smallB, minuteB⟩ := printableB
  have offset := offsetText_injective smallB smallA minuteB minuteA offsets
  have nanoseconds : a.localNanoseconds = b.localNanoseconds := by
    unfold second at seconds
    unfold nanosecond at nanos
    omega
  unfold localNanoseconds at nanoseconds
  obtain ⟨unixA, offsetA⟩ := a
  obtain ⟨unixB, offsetB⟩ := b
  dsimp only at offset nanoseconds
  subst offset
  rw [Moment.mk.injEq]
  exact ⟨by omega, rfl⟩

end Moment

example : (Moment.mk 1767571200500000000 0).text = some "2026-01-05T00:00:00.5Z".toList := by
  decide

example : (Moment.mk 1709210096000000000 (-12600)).text =
    some "2024-02-29T09:04:56-03:30".toList := by
  decide

end Rfc3339
