import CrowAgent.Lib.FixedWidth
import CrowAgent.Lib.MeanRank
import CrowAgent.Scoring.Ranks

/-!
# Percentiles

The percentile of a run is its mean rank among the eligible runs as a share of a million, and its
score is a tenth of that.

* `scoreRuns_percentiles`: with at most 100001 eligible runs nothing overflows, and percentiles,
  scores and ranks agree with the order of the net returns.
-/

namespace CrowAgent

open FixedWidth MeanRank

/-- A division of 64-bit integers, which traps on a zero divisor and on overflow. -/
def i64Div (numerator denominator : Int64) : Exec Empty Int64 :=
  if denominator = 0 then .error .trap else i64 (numerator.toInt.tdiv denominator.toInt)

/-- `percentile` in a build that checks its arithmetic. -/
def checkedPercentile (values : List Int64) (target : Int64) : Exec Empty Int64 :=
  if values.length ≤ 1 then .ok percentileScale
  else do
    let lower := countI64 (values.countP (· < target))
    let equal := countI64 (values.countP (· = target))
    let valueCount := countI64 values.length
    let lowerTwice ← i64 (lower.toInt * 2)
    let sum ← addI64 lowerTwice equal
    let averageRankTwice ← subI64 sum 1
    let scaled ← i64 (averageRankTwice.toInt * percentileScale.toInt)
    let others ← subI64 valueCount 1
    let divisor ← i64 (2 * others.toInt)
    i64Div scaled divisor

/-! ## Exact percentiles -/

section Percentile

variable {values : List Int64} {target a b : Int64}

theorem toInt_countI64 {count : Nat} (few : count ≤ 100001) : (countI64 count).toInt = count := by
  rw [countI64, min_eq_left (by omega)]
  exact Int64.toInt_ofNat_of_lt (by omega)

/-- The share of a value's mean rank among the values. -/
def percentileOf (values : List Int64) (target : Int64) : Nat :=
  rankShare 1000000 (values.map Int64.toInt) target.toInt

theorem meanRankTwice_toInt (values : List Int64) (target : Int64) :
    meanRankTwice (values.map Int64.toInt) target.toInt =
      values.countP (· < target) * 2 + values.countP (· = target) - 1 := by
  unfold meanRankTwice
  rw [List.countP_map, List.countP_map]
  have less : ((fun value => decide (value < target.toInt)) ∘ Int64.toInt) = (· < target) :=
    funext fun value => decide_eq_decide.mpr Int64.lt_iff_toInt_lt.symm
  have same : ((fun value => decide (value = target.toInt)) ∘ Int64.toInt) = (· = target) :=
    funext fun value => decide_eq_decide.mpr Int64.toInt_inj
  rw [less, same]

/-- Integers that fit are computed exactly. -/
theorem toInt_eq_of_bmod {x : Int64} {exact : Int} (wrapped : x.toInt = exact.bmod (2 ^ 64))
    (low : -2 ^ 63 ≤ exact) (high : exact < 2 ^ 63) : x.toInt = exact := by
  rw [wrapped]
  exact Int.bmod_eq_of_le (by omega) (by omega)

/-- A small quotient is computed exactly. -/
theorem toInt_div_of_le {x y : Int64} {quotient : Nat}
    (isQuotient : (quotient : Int) = x.toInt.tdiv y.toInt) (small : quotient ≤ 1000000) :
    (x / y).toInt = quotient := by
  have wrapped := Int64.toInt_div x y
  rw [← isQuotient] at wrapped
  exact toInt_eq_of_bmod wrapped (by omega) (by omega)

/-- Few counts of values are combined exactly. -/
theorem steps_exact {lower equal valueCount : Int64} {lowerCount equalCount count : Nat}
    (isLower : lower.toInt = lowerCount) (isEqual : equal.toInt = equalCount)
    (isCount : valueCount.toInt = count) (own : 0 < equalCount) (two : 1 < count)
    (few : count ≤ 100001) (rankLe : lowerCount * 2 + equalCount - 1 ≤ 2 * (count - 1)) :
    (do
      let lowerTwice ← i64 (lower.toInt * 2)
      let sum ← addI64 lowerTwice equal
      let averageRankTwice ← subI64 sum 1
      let scaled ← i64 (averageRankTwice.toInt * percentileScale.toInt)
      let others ← subI64 valueCount 1
      let divisor ← i64 (2 * others.toInt)
      i64Div scaled divisor) =
        .ok ((lower * 2 + equal - 1) * percentileScale / (2 * (valueCount - 1))) ∧
      ((lower * 2 + equal - 1) * percentileScale / (2 * (valueCount - 1))).toInt =
        ((lowerCount * 2 + equalCount - 1) * 1000000 / (2 * (count - 1)) : Nat) := by
  have isScale : percentileScale.toInt = 1000000 := by decide
  have isOne : (1 : Int64).toInt = 1 := by decide
  have isTwo : (2 : Int64).toInt = 2 := by decide
  have twice : (lower * 2).toInt = lower.toInt * 2 :=
    toInt_eq_of_bmod (by rw [Int64.toInt_mul, isTwo]) (by omega) (by omega)
  have sum : (lower * 2 + equal).toInt = (lower * 2).toInt + equal.toInt :=
    toInt_eq_of_bmod (Int64.toInt_add _ _) (by omega) (by omega)
  have rank : (lower * 2 + equal - 1).toInt = (lower * 2 + equal).toInt - (1 : Int64).toInt :=
    toInt_eq_of_bmod (Int64.toInt_sub _ _) (by omega) (by omega)
  have scaled : ((lower * 2 + equal - 1) * percentileScale).toInt =
      (lower * 2 + equal - 1).toInt * percentileScale.toInt :=
    toInt_eq_of_bmod (Int64.toInt_mul _ _) (by rw [isScale]; omega) (by rw [isScale]; omega)
  have others : (valueCount - 1).toInt = valueCount.toInt - (1 : Int64).toInt :=
    toInt_eq_of_bmod (Int64.toInt_sub _ _) (by omega) (by omega)
  have divisor : (2 * (valueCount - 1)).toInt = 2 * (valueCount - 1).toInt :=
    toInt_eq_of_bmod (by rw [Int64.toInt_mul, isTwo]) (by omega) (by omega)
  have nonzero : 2 * (valueCount - 1) ≠ 0 := by
    intro zero
    rw [zero] at divisor
    have isZero : (0 : Int64).toInt = 0 := by decide
    omega
  have numerator : ((lowerCount * 2 + equalCount - 1 : Nat) : Int) =
      (lower * 2 + equal - 1).toInt := by omega
  have denominator : ((2 * (count - 1) : Nat) : Int) = (2 * (valueCount - 1)).toInt := by omega
  have share : (((lowerCount * 2 + equalCount - 1) * 1000000 / (2 * (count - 1)) : Nat) : Int) =
      ((lower * 2 + equal - 1) * percentileScale).toInt.tdiv (2 * (valueCount - 1)).toInt := by
    rw [Int.tdiv_eq_ediv_of_nonneg (by rw [scaled, isScale]; omega), scaled, isScale,
      ← numerator, ← denominator]
    push_cast
    rfl
  have small : (lowerCount * 2 + equalCount - 1) * 1000000 / (2 * (count - 1)) ≤ 1000000 :=
    Nat.div_le_of_le_mul (Nat.mul_le_mul_right _ rankLe)
  have quotient := toInt_div_of_le share small
  refine ⟨?_, quotient⟩
  simp only [bind_eq_ok, i64_eq_ok, addI64_eq_ok, subI64_eq_ok]
  exact ⟨_, twice, _, sum, _, rank, _, scaled, _, others, _, divisor,
    (if_neg nonzero).trans (i64_eq_ok.mpr (quotient.trans share))⟩

/-- Nothing overflows in the percentile of one of few values, which is exact. -/
theorem percentile_exact (mem : target ∈ values) (few : values.length ≤ 100001) :
    checkedPercentile values target = .ok (percentile values target) ∧
      (1 < values.length →
        (percentile values target).toInt = (percentileOf values target : Int)) := by
  unfold checkedPercentile percentile
  split_ifs with one
  · exact ⟨rfl, fun two => absurd one (not_le.mpr two)⟩
  have isRank := meanRankTwice_toInt values target
  have rankLe := meanRankTwice_le (List.mem_map_of_mem mem : target.toInt ∈ _)
  have own : 0 < values.countP (· = target) := List.countP_pos_iff.mpr ⟨target, mem, by simp⟩
  have lowerLe := List.countP_le_length (l := values) (p := (· < target))
  have equalLe := List.countP_le_length (l := values) (p := (· = target))
  rw [isRank, List.length_map] at rankLe
  unfold percentileOf rankShare
  rw [isRank, List.length_map]
  have exact := steps_exact (toInt_countI64 (lowerLe.trans few))
    (toInt_countI64 (equalLe.trans few)) (toInt_countI64 few) own (not_le.mp one) few rankLe
  exact ⟨exact.1, fun _ => exact.2⟩

/-- A percentile is a share of a million. -/
theorem percentile_bounds (mem : target ∈ values) (few : values.length ≤ 100001) :
    0 ≤ (percentile values target).toInt ∧ (percentile values target).toInt ≤ 1000000 := by
  rcases Nat.lt_or_ge 1 values.length with two | one
  · rw [(percentile_exact mem few).2 two]
    have le : percentileOf values target ≤ 1000000 := rankShare_le (List.mem_map_of_mem mem)
    omega
  · rw [percentile, if_pos one]
    decide

/-- A greater value has a percentile that is greater by a thousandth of a percent. -/
theorem percentile_lt (memA : a ∈ values) (memB : b ∈ values) (less : a < b)
    (few : values.length ≤ 100001) :
    (percentile values a).toInt + 10 ≤ (percentile values b).toInt := by
  have two : 1 < values.length := by
    by_contra one
    obtain ⟨only, rfl⟩ := List.length_eq_one_iff.mp
      (le_antisymm (not_lt.mp one) (List.length_pos_of_mem memA))
    rw [List.mem_singleton] at memA memB
    exact Int64.lt_irrefl (memA ▸ memB ▸ less)
  rw [(percentile_exact memA few).2 two, (percentile_exact memB few).2 two]
  have apart : percentileOf values a + 10 ≤ percentileOf values b := by
    refine rankShare_lt (List.mem_map_of_mem memA) (List.mem_map_of_mem memB)
      (Int64.lt_iff_toInt_lt.mp less) ?_
    rw [List.length_map]
    omega
  exact_mod_cast apart

end Percentile

/-! ## Scores -/

/-- The compatibility score of a percentile. -/
def scoreOf (net : Int64) : Int64 := max 0 (min maxScoreMillis (net / 10))

theorem toInt_scoreOf {net : Int64} (nonneg : 0 ≤ net.toInt) (le : net.toInt ≤ 1000000) :
    (scoreOf net).toInt = net.toInt / 10 := by
  have isTen : (10 : Int64).toInt = 10 := by decide
  have isZero : (0 : Int64).toInt = 0 := by decide
  have isMax : maxScoreMillis.toInt = 100000 := by decide
  have tenth : (net / 10).toInt = net.toInt / 10 := by
    refine toInt_eq_of_bmod ?_ (by omega) (by omega)
    rw [Int64.toInt_div, isTen, Int.tdiv_eq_ediv_of_nonneg nonneg]
  rw [scoreOf, toInt_max, toInt_min, tenth, isZero, isMax]
  omega

/-- The net returns the runs are compared with. -/
def eligibleReturns (runs : List RunScoreInput) : List Int64 :=
  (eligible runs).map (·.netReturnMicros)

/-- The percentile and the score of an eligible run. -/
structure ScoredAt (runs : List RunScoreInput) (run : RunScoreInput) (scored : ScoredRun) :
    Prop where
  percentile : scored.netReturnPercentileMicros =
    percentile (eligibleReturns runs) run.netReturnMicros
  score : scored.scoreMillis =
    scoreOf (CrowAgent.percentile (eligibleReturns runs) run.netReturnMicros)

theorem scoredAt_scoreRun {runs : List RunScoreInput} {run : RunScoreInput}
    (isEligible : run.disqualifiedReason = none) :
    ScoredAt runs run (scoreRun (eligible runs) run) := by
  unfold scoreRun
  rw [isEligible]
  exact ⟨rfl, rfl⟩

section Ranking

variable {runs front back : List RunScoreInput} {scored : List ScoredRun} {entry : ScoredRun}
  {run : RunScoreInput}

/-- The entries of a ranking: numbered ones of the eligible runs and those of the others. -/
theorem Ranking.mem_iff (ranking : Ranking runs scored front back) :
    entry ∈ scored ↔
      (∃ (index : Nat) (inside : index < front.length),
        (scoreRun (eligible runs) front[index]).withRank (index + 1) = entry) ∨
      ∃ run ∈ back, scoreRun (eligible runs) run = entry := by
  rw [ranking.scored, List.mem_append, List.mem_mapIdx, List.mem_map]
  simp only [List.length_map, List.getElem_map]

theorem Ranking.mem_front (ranking : Ranking runs scored front back) (mem : run ∈ eligible runs) :
    run ∈ front := by
  obtain ⟨mem, isNone⟩ := List.mem_filter.mp mem
  rcases List.mem_append.mp (ranking.once.mem_iff.mpr mem) with inFront | inBack
  · exact inFront
  · exact absurd (Option.isNone_iff_eq_none.mp isNone) (ranking.disqualified run inBack)

theorem Ranking.eligible_of_mem (ranking : Ranking runs scored front back) (mem : run ∈ front) :
    run ∈ eligible runs :=
  List.mem_filter.mpr ⟨ranking.once.mem_iff.mp (List.mem_append_left _ mem),
    Option.isNone_iff_eq_none.mpr (ranking.qualified run mem)⟩

/-- Each eligible run has an entry. -/
theorem Ranking.exists_entry (ranking : Ranking runs scored front back)
    (mem : run ∈ eligible runs) : ∃ entry ∈ scored, entry.runId = run.runId := by
  obtain ⟨index, inside, rfl⟩ := List.mem_iff_getElem.mp (ranking.mem_front mem)
  exact ⟨_, ranking.mem_iff.mpr (.inl ⟨index, inside, rfl⟩), scoreRun_runId _ _⟩

/-- The entry of an eligible run is scored with its net return. -/
theorem Ranking.scoredAt (ranking : Ranking runs scored front back)
    (distinct : (runs.map (·.runId)).Nodup) (mem : run ∈ eligible runs) (isEntry : entry ∈ scored)
    (sameId : entry.runId = run.runId) : ScoredAt runs run entry := by
  have only : ∀ other ∈ front ++ back, other.runId = run.runId → other = run :=
    fun other memOther same => List.inj_on_of_nodup_map distinct
      (ranking.once.mem_iff.mp memOther) (List.mem_filter.mp mem).1 same
  have isNone := Option.isNone_iff_eq_none.mp (List.mem_filter.mp mem).2
  rcases ranking.mem_iff.mp isEntry with ⟨index, inside, rfl⟩ | ⟨other, inBack, rfl⟩
  · have isRun := only _ (List.mem_append_left _ (List.getElem_mem inside))
      ((scoreRun_runId _ _).symm.trans sameId)
    rw [isRun]
    exact ⟨(scoredAt_scoreRun isNone).percentile, (scoredAt_scoreRun isNone).score⟩
  · have isRun := only _ (List.mem_append_right _ inBack) ((scoreRun_runId _ _).symm.trans sameId)
    exact absurd (isRun ▸ isNone) (ranking.disqualified other inBack)

/-- A ranked entry is that of an eligible run in its place. -/
theorem Ranking.of_rank (ranking : Ranking runs scored front back)
    (few : (eligible runs).length ≤ 100001) {rank : UInt32} (isEntry : entry ∈ scored)
    (isRank : entry.rank = some rank) :
    ∃ (index : Nat) (inside : index < front.length), rank.toNat = index + 1 ∧
      ScoredAt runs front[index] entry := by
  have frontFew : front.length ≤ 100001 := by
    have all : front.filter (·.disqualifiedReason.isNone) = front :=
      List.filter_eq_self.mpr fun run mem => Option.isNone_iff_eq_none.mpr
        (ranking.qualified run mem)
    have part := ((List.sublist_append_left front back).filter
      (·.disqualifiedReason.isNone)).length_le
    rw [all, (ranking.once.filter _).length_eq] at part
    exact part.trans few
  rcases ranking.mem_iff.mp isEntry with ⟨index, inside, rfl⟩ | ⟨other, inBack, rfl⟩
  · have small : index + 1 < UInt32.size := by
      rw [UInt32.size]
      omega
    refine ⟨index, inside, ?_, ?_⟩
    · rw [← Option.some.inj isRank, UInt32.toNat_ofNat_of_lt' small]
    · have isNone := ranking.qualified _ (List.getElem_mem inside)
      exact ⟨(scoredAt_scoreRun isNone).percentile, (scoredAt_scoreRun isNone).score⟩
  · rw [(ranking.unranked other inBack).1] at isRank
    cases isRank

end Ranking

theorem eligibleReturns_mem {runs : List RunScoreInput} {run : RunScoreInput}
    (mem : run ∈ eligible runs) : run.netReturnMicros ∈ eligibleReturns runs :=
  List.mem_map_of_mem mem

/-- A greater net return has a greater score. -/
theorem scoreOf_percentile_lt {values : List Int64} {a b : Int64} (memA : a ∈ values)
    (memB : b ∈ values) (less : a < b) (few : values.length ≤ 100001) :
    scoreOf (percentile values a) < scoreOf (percentile values b) := by
  have boundsA := percentile_bounds memA few
  have boundsB := percentile_bounds memB few
  have apart := percentile_lt memA memB less few
  rw [Int64.lt_iff_toInt_lt, toInt_scoreOf boundsA.1 boundsA.2, toInt_scoreOf boundsB.1 boundsB.2]
  omega

/-- **Percentiles.**  With distinct ids and at most 100001 eligible runs, every eligible run is
scored, nothing overflows and nothing is divided by zero; the percentile is at most a million and
the score at most 100000; equal net returns are scored equally and a greater one greater; and a
better rank never has the smaller score. -/
theorem scoreRuns_percentiles {runs : List RunScoreInput}
    (distinct : (runs.map (·.runId)).Nodup) (few : (eligible runs).length ≤ 100001)
    (weights : ScoringWeightsV1) (penalties : PenaltyRulesV1) :
    (∀ run ∈ eligible runs,
      checkedPercentile (eligibleReturns runs) run.netReturnMicros =
        .ok (percentile (eligibleReturns runs) run.netReturnMicros) ∧
      (∃ scored ∈ scoreRuns runs weights penalties, scored.runId = run.runId) ∧
      ∀ scored ∈ scoreRuns runs weights penalties, scored.runId = run.runId →
        scored.netReturnPercentileMicros =
          percentile (eligibleReturns runs) run.netReturnMicros ∧
        (0 ≤ scored.netReturnPercentileMicros ∧ scored.netReturnPercentileMicros ≤ 1000000) ∧
        0 ≤ scored.scoreMillis ∧ scored.scoreMillis ≤ 100000) ∧
    (∀ a ∈ eligible runs, ∀ b ∈ eligible runs,
      ∀ scoredA ∈ scoreRuns runs weights penalties,
      ∀ scoredB ∈ scoreRuns runs weights penalties,
        scoredA.runId = a.runId → scoredB.runId = b.runId →
        (a.netReturnMicros = b.netReturnMicros →
          scoredA.netReturnPercentileMicros = scoredB.netReturnPercentileMicros ∧
          scoredA.scoreMillis = scoredB.scoreMillis) ∧
        (a.netReturnMicros < b.netReturnMicros →
          scoredA.netReturnPercentileMicros < scoredB.netReturnPercentileMicros ∧
          scoredA.scoreMillis < scoredB.scoreMillis)) ∧
    ∀ scoredA ∈ scoreRuns runs weights penalties, ∀ scoredB ∈ scoreRuns runs weights penalties,
      ∀ rankA rankB, scoredA.rank = some rankA → scoredB.rank = some rankB → rankA < rankB →
        scoredB.scoreMillis ≤ scoredA.scoreMillis := by
  obtain ⟨front, back, ranking⟩ :=
    exists_ranking distinct (few.trans_lt (by decide)) weights penalties
  have fewReturns : (eligibleReturns runs).length ≤ 100001 := by
    rwa [eligibleReturns, List.length_map]
  refine ⟨fun run mem => ⟨(percentile_exact (eligibleReturns_mem mem) fewReturns).1,
    ranking.exists_entry mem, fun scored isEntry sameId => ?_⟩, ?_, ?_⟩
  · have scoredAt := ranking.scoredAt distinct mem isEntry sameId
    have bounds := percentile_bounds (eligibleReturns_mem mem) fewReturns
    have isZero : (0 : Int64).toInt = 0 := by decide
    have isMillion : (1000000 : Int64).toInt = 1000000 := by decide
    have isMax : (100000 : Int64).toInt = 100000 := by decide
    refine ⟨scoredAt.percentile, ?_, ?_⟩
    · rw [scoredAt.percentile, Int64.le_iff_toInt_le, Int64.le_iff_toInt_le, isZero, isMillion]
      exact bounds
    · rw [scoredAt.score, Int64.le_iff_toInt_le, Int64.le_iff_toInt_le,
        toInt_scoreOf bounds.1 bounds.2, isZero, isMax]
      omega
  · intro a memA b memB scoredA entryA scoredB entryB idA idB
    have atA := ranking.scoredAt distinct memA entryA idA
    have atB := ranking.scoredAt distinct memB entryB idB
    rw [atA.percentile, atB.percentile, atA.score, atB.score]
    refine ⟨fun same => by rw [same]; exact ⟨rfl, rfl⟩, fun less => ⟨?_, ?_⟩⟩
    · have apart := percentile_lt (eligibleReturns_mem memA) (eligibleReturns_mem memB) less
        fewReturns
      rw [Int64.lt_iff_toInt_lt]
      omega
    · exact scoreOf_percentile_lt (eligibleReturns_mem memA) (eligibleReturns_mem memB) less
        fewReturns
  · intro scoredA entryA scoredB entryB rankA rankB isRankA isRankB better
    obtain ⟨indexA, insideA, toNatA, atA⟩ := ranking.of_rank few entryA isRankA
    obtain ⟨indexB, insideB, toNatB, atB⟩ := ranking.of_rank few entryB isRankB
    have before : indexA < indexB := by
      rw [UInt32.lt_iff_toNat_lt] at better
      omega
    rw [atA.score, atB.score]
    rcases List.pairwise_iff_getElem.mp ranking.ordered indexA indexB insideA insideB before with
      less | ⟨same, -⟩
    · exact Int64.le_of_lt (scoreOf_percentile_lt
        (eligibleReturns_mem (ranking.eligible_of_mem (List.getElem_mem insideB)))
        (eligibleReturns_mem (ranking.eligible_of_mem (List.getElem_mem insideA))) less fewReturns)
    · rw [same]
      exact Int64.le_refl _

/-- The first of the sample runs is compared with itself and the last one. -/
theorem scoreRuns_percentiles_sample :
    checkedPercentile (eligibleReturns sampleRuns) 10 =
      .ok (percentile (eligibleReturns sampleRuns) 10) :=
  ((scoreRuns_percentiles (by decide : (sampleRuns.map (·.runId)).Nodup)
    (by decide) {} {}).1 ⟨⟨.ofNat 16 2⟩, 10, 10, 10, 0, 0, none⟩
    (by decide)).1

end CrowAgent
