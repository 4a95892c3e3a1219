import CrowAgent.Protocol.Manifest
import Mathlib.Data.List.Sort

/-!
# Ranks of runs

`scoreRuns` orders the runs of an arena: the eligible ones by their net return and the text of
their id, then the disqualified ones, and numbers the eligible ones from one.

* `ranking_scoreRuns`: the order, the ranks, and that nothing else of the input is looked at.
-/

namespace CrowAgent

def percentileScale : Int64 := 1000000

def maxScoreMillis : Int64 := 100000

structure RunScoreInput : Type where
  runId : Uuid
  netReturnMicros : Int64
  sortinoMicros : Int64
  maxDrawdownMicros : Int64
  policyRejections : UInt32
  missedCycles : UInt32
  disqualifiedReason : Option String
  deriving DecidableEq, Repr

structure ScoredRun : Type where
  runId : Uuid
  rank : Option UInt32
  scoreMillis : Int64
  netReturnPercentileMicros : Int64
  sortinoPercentileMicros : Int64
  inverseDrawdownPercentileMicros : Int64
  penaltyMillis : Int64
  disqualifiedReason : Option String
  deriving DecidableEq, Repr

/-- A count as an `i64`, or the largest one. -/
def countI64 (count : Nat) : Int64 := .ofNat (min count (2 ^ 63 - 1))

/-- The mean rank of a target among the values, as a share of a million. -/
def percentile (values : List Int64) (target : Int64) : Int64 :=
  if values.length ≤ 1 then percentileScale
  else
    let lower := countI64 (values.countP (· < target))
    let equal := countI64 (values.countP (· = target))
    let valueCount := countI64 values.length
    let averageRankTwice := lower * 2 + equal - 1
    averageRankTwice * percentileScale / (2 * (valueCount - 1))

/-- The runs that are not disqualified. -/
def eligible (runs : List RunScoreInput) : List RunScoreInput :=
  runs.filter (·.disqualifiedReason.isNone)

/-- The score of a run before it is ranked. -/
def scoreRun (eligible : List RunScoreInput) (run : RunScoreInput) : ScoredRun :=
  match run.disqualifiedReason with
  | some reason => {
      runId := run.runId
      rank := none
      scoreMillis := 0
      netReturnPercentileMicros := 0
      sortinoPercentileMicros := 0
      inverseDrawdownPercentileMicros := 0
      penaltyMillis := 0
      disqualifiedReason := some reason }
  | none =>
    let net := percentile (eligible.map (·.netReturnMicros)) run.netReturnMicros
    { runId := run.runId
      rank := none
      scoreMillis := max 0 (min maxScoreMillis (net / 10))
      netReturnPercentileMicros := net
      sortinoPercentileMicros := 0
      inverseDrawdownPercentileMicros := 0
      penaltyMillis := 0
      disqualifiedReason := none }

/-- The net return of the run with an id; the map of the inputs keeps the last of equal ids. -/
def inputNetReturn (runs : List RunScoreInput) (runId : Uuid) : Int64 :=
  ((runs.reverse.find? (·.runId = runId)).map (·.netReturnMicros)).getD 0

/-- The comparator of the sort. -/
def compareScored (runs : List RunScoreInput) (left right : ScoredRun) : Ordering :=
  match left.disqualifiedReason.isSome, right.disqualifiedReason.isSome with
  | false, true => .lt
  | true, false => .gt
  | true, true => compare left.runId.hyphenated right.runId.hyphenated
  | false, false =>
    (compare (inputNetReturn runs right.runId) (inputNetReturn runs left.runId)).then
      (compare left.runId.hyphenated right.runId.hyphenated)

/-- `saturating_add(1)`. -/
def nextRank (rank : UInt32) : UInt32 := .ofNat (min (rank.toNat + 1) (2 ^ 32 - 1))

/-- Number the eligible runs from a rank on. -/
def assignRanks (rank : UInt32) : List ScoredRun → List ScoredRun
  | [] => []
  | run :: rest =>
    if run.disqualifiedReason.isNone then
      { run with rank := some rank } :: assignRanks (nextRank rank) rest
    else run :: assignRanks rank rest

def scoreRuns (runs : List RunScoreInput) (_weights : ScoringWeightsV1)
    (_penalties : PenaltyRulesV1) : List ScoredRun :=
  assignRanks 1 ((runs.map (scoreRun (eligible runs))).mergeSort fun left right =>
    (compareScored runs left right).isLE)

/-! ## The ranking -/

/-- What of a run its score depends on. -/
def ranked (run : RunScoreInput) : Uuid × Int64 × Option String :=
  (run.runId, run.netReturnMicros, run.disqualifiedReason)

/-- A higher net return, or the same one and a smaller text of the id. -/
def AheadOf (left right : RunScoreInput) : Prop :=
  right.netReturnMicros < left.netReturnMicros ∨
    left.netReturnMicros = right.netReturnMicros ∧ left.runId.hyphenated < right.runId.hyphenated

def ScoredRun.withRank (run : ScoredRun) (rank : Nat) : ScoredRun :=
  { run with rank := some (.ofNat rank) }

/-- Eligible runs `front` in order with their ranks, and disqualified ones `back` behind them. -/
structure Ranking (runs : List RunScoreInput) (scored : List ScoredRun)
    (front back : List RunScoreInput) : Prop where
  once : (front ++ back).Perm runs
  qualified : ∀ run ∈ front, run.disqualifiedReason = none
  disqualified : ∀ run ∈ back, run.disqualifiedReason ≠ none
  ordered : front.Pairwise AheadOf
  behind : back.Pairwise (·.runId.hyphenated < ·.runId.hyphenated)
  scored : scored =
    ((front.map (scoreRun (eligible runs))).mapIdx fun index run => run.withRank (index + 1)) ++
      back.map (scoreRun (eligible runs))
  unranked : ∀ run ∈ back, (scoreRun (eligible runs) run).rank = none ∧
    (scoreRun (eligible runs) run).scoreMillis = 0

/-! ## The comparator -/

/-- What of a scored run the comparator looks at. -/
def sortKey (runs : List RunScoreInput) (run : ScoredRun) : Bool × Int64 × String :=
  (run.disqualifiedReason.isSome, inputNetReturn runs run.runId, run.runId.hyphenated)

/-- A run is not behind another one. -/
def NotBehind : Bool × Int64 × String → Bool × Int64 × String → Prop
  | (false, _, _), (true, _, _) => True
  | (true, _, _), (false, _, _) => False
  | (true, _, text), (true, _, text') => text ≤ text'
  | (false, net, text), (false, net', text') => net' < net ∨ net = net' ∧ text ≤ text'

theorem isLE_compare_text {a b : String} : (compare a b).isLE = true ↔ a ≤ b := by
  change (compareOfLessAndEq a b).isLE = true ↔ a ≤ b
  unfold compareOfLessAndEq
  split_ifs with less same
  · exact iff_of_true rfl (String.not_lt.mp fun greater => String.lt_irrefl _
      (String.lt_trans less greater))
  · exact iff_of_true rfl (same ▸ String.le_refl _)
  · refine iff_of_false (by decide) fun le => less (String.not_le.mp fun ge => same ?_)
    exact String.le_antisymm le ge

theorem isLE_compareScored {runs : List RunScoreInput} {left right : ScoredRun} :
    (compareScored runs left right).isLE = true ↔
      NotBehind (sortKey runs left) (sortKey runs right) := by
  unfold compareScored sortKey
  rcases left.disqualifiedReason.isSome with _ | _ <;>
    rcases right.disqualifiedReason.isSome with _ | _
  · rw [Ordering.isLE_then_iff_or, isLE_compare_text, Std.compare_eq_lt,
      Std.LawfulEqCmp.compare_eq_iff_eq, NotBehind,
      eq_comm (a := inputNetReturn runs right.runId)]
  · exact iff_of_true rfl trivial
  · exact iff_of_false Bool.false_ne_true id
  · exact isLE_compare_text

theorem NotBehind.trans : ∀ {a b c : Bool × Int64 × String}, NotBehind a b → NotBehind b c →
    NotBehind a c
  | (false, _, _), _, (true, _, _), _, _ => trivial
  | (true, _, _), (false, _, _), _, first, _ => first.elim
  | _, (true, _, _), (false, _, _), _, second => second.elim
  | (true, _, _), (true, _, _), (true, _, _), first, second => String.le_trans first second
  | (false, _, _), (false, _, _), (false, _, _), first, second => by
    rcases first with less | ⟨rfl, le⟩
    · rcases second with less' | ⟨rfl, -⟩
      · exact .inl (Int64.lt_trans less' less)
      · exact .inl less
    · exact second.imp_right fun ⟨same, le'⟩ => ⟨same, String.le_trans le le'⟩

theorem NotBehind.total : ∀ a b : Bool × Int64 × String, NotBehind a b ∨ NotBehind b a
  | (false, _, _), (true, _, _) => .inl trivial
  | (true, _, _), (false, _, _) => .inr trivial
  | (true, _, text), (true, _, text') => String.le_total text text'
  | (false, net, text), (false, net', text') => by
    rcases Int64.lt_or_le net' net with less | le
    · exact .inl (.inl less)
    · rcases Int64.lt_or_eq_of_le le with less | rfl
      · exact .inr (.inl less)
      · exact (String.le_total text text').imp (fun le => .inr ⟨rfl, le⟩) fun le => .inr ⟨rfl, le⟩

/-! ## The rank loop -/

theorem toNat_nextRank {rank : UInt32} (few : rank.toNat + 1 < 2 ^ 32) :
    (nextRank rank).toNat = rank.toNat + 1 := by
  rw [nextRank, min_eq_left (by omega), UInt32.toNat_ofNat_of_lt' few]

/-- Eligible runs at the front get the ranks from the first one on. -/
theorem assignRanks_eligible {front rest : List ScoredRun} {rank : UInt32}
    (all : ∀ run ∈ front, run.disqualifiedReason = none)
    (few : rank.toNat + front.length < 2 ^ 32) :
    ∃ rank', assignRanks rank (front ++ rest) =
      (front.mapIdx fun index run => run.withRank (rank.toNat + index)) ++
        assignRanks rank' rest := by
  induction front generalizing rank with
  | nil => exact ⟨rank, rfl⟩
  | cons run front ih =>
    rw [List.forall_mem_cons] at all
    rw [List.length_cons] at few
    have next := @toNat_nextRank rank (by omega)
    obtain ⟨rank', isRest⟩ := @ih (nextRank rank) all.2 (by omega)
    have isEligible : run.disqualifiedReason.isNone = true := by
      rw [all.1]
      rfl
    have isFirst : { run with rank := some rank } = run.withRank (rank.toNat + 0) := by
      rw [ScoredRun.withRank, Nat.add_zero, UInt32.ofNat_toNat]
    refine ⟨rank', ?_⟩
    rw [List.cons_append, assignRanks, if_pos isEligible, isRest, next, List.mapIdx_cons,
      List.cons_append, isFirst]
    simp only [Nat.add_assoc, Nat.add_comm 1]

/-- Disqualified runs get no rank. -/
theorem assignRanks_disqualified {runs : List ScoredRun} {rank : UInt32}
    (all : ∀ run ∈ runs, run.disqualifiedReason ≠ none) : assignRanks rank runs = runs := by
  induction runs with
  | nil => rfl
  | cons run runs ih =>
    rw [List.forall_mem_cons] at all
    rw [assignRanks, if_neg (by simpa using all.1), ih all.2]

/-! ## The order -/

/-- A list whose elements with a property come first is made of those and of the others. -/
theorem filter_append_of_pairwise {α : Type} {p : α → Bool} {l : List α}
    (first : l.Pairwise fun a b => p b = true → p a = true) :
    l = l.filter p ++ l.filter fun a => !p a := by
  induction l with
  | nil => rfl
  | cons a l ih =>
    obtain ⟨ahead, rest⟩ := List.pairwise_cons.mp first
    cases isA : p a with
    | true => rw [List.filter_cons_of_pos isA, List.filter_cons_of_neg (by simp [isA]),
        List.cons_append, ← ih rest]
    | false =>
      have none : ∀ b ∈ l, p b = false := fun b mem =>
        Bool.eq_false_iff.mpr fun isB => Bool.eq_false_iff.mp isA (ahead b mem isB)
      rw [List.filter_cons_of_neg (by simp [isA]), List.filter_cons_of_pos (by simp [isA]),
        List.filter_eq_nil_iff.mpr fun b mem => by simp [none b mem],
        List.filter_eq_self.mpr fun b mem => by simp [none b mem], List.nil_append]

@[simp] theorem scoreRun_runId (eligible : List RunScoreInput) (run : RunScoreInput) :
    (scoreRun eligible run).runId = run.runId := by
  unfold scoreRun
  split <;> rfl

@[simp] theorem scoreRun_disqualifiedReason (eligible : List RunScoreInput)
    (run : RunScoreInput) :
    (scoreRun eligible run).disqualifiedReason = run.disqualifiedReason := by
  unfold scoreRun
  split
  · rename_i reason isReason
    exact isReason.symm
  · rename_i isNone
    exact isNone.symm

/-- The net return of an id is that of its run. -/
theorem inputNetReturn_of_mem {runs : List RunScoreInput} {run : RunScoreInput}
    (distinct : (runs.map (·.runId)).Nodup) (mem : run ∈ runs) :
    inputNetReturn runs run.runId = run.netReturnMicros := by
  rw [inputNetReturn]
  cases found : runs.reverse.find? (·.runId = run.runId) with
  | none =>
    exact absurd (List.find?_eq_none.mp found run (List.mem_reverse.mpr mem)) (by simp)
  | some other =>
    have isRun : other = run := List.inj_on_of_nodup_map distinct
      (List.mem_reverse.mp (List.mem_of_find?_eq_some found)) mem
      (by simpa using List.find?_some found)
    rw [isRun, Option.map_some, Option.getD_some]

/-- The runs in the order of the comparator. -/
def rankingOrder (runs : List RunScoreInput) : List RunScoreInput :=
  runs.mergeSort fun left right =>
    (compareScored runs (scoreRun (eligible runs) left) (scoreRun (eligible runs) right)).isLE

def rankKey (run : RunScoreInput) : Bool × Int64 × String :=
  (run.disqualifiedReason.isSome, run.netReturnMicros, run.runId.hyphenated)

theorem rankingOrder_perm (runs : List RunScoreInput) : (rankingOrder runs).Perm runs :=
  List.mergeSort_perm _ _

theorem scoreRuns_eq (runs : List RunScoreInput) (weights : ScoringWeightsV1)
    (penalties : PenaltyRulesV1) :
    scoreRuns runs weights penalties =
      assignRanks 1 ((rankingOrder runs).map (scoreRun (eligible runs))) := by
  refine congrArg (assignRanks 1) (Eq.symm ?_)
  exact List.map_mergeSort fun _ _ _ _ => rfl

/-- No run is behind a later one. -/
theorem pairwise_rankingOrder {runs : List RunScoreInput}
    (distinct : (runs.map (·.runId)).Nodup) :
    (rankingOrder runs).Pairwise fun a b => NotBehind (rankKey a) (rankKey b) := by
  have key : ∀ run ∈ runs, sortKey runs (scoreRun (eligible runs) run) = rankKey run := by
    intro run mem
    rw [sortKey, scoreRun_runId, scoreRun_disqualifiedReason, inputNetReturn_of_mem distinct mem,
      rankKey]
  refine (List.pairwise_mergeSort ?_ ?_ runs).imp_of_mem fun {a b} memA memB le => ?_
  · intro a b c first second
    exact isLE_compareScored.mpr ((isLE_compareScored.mp first).trans
      (isLE_compareScored.mp second))
  · intro a b
    rw [Bool.or_eq_true]
    exact (NotBehind.total _ _).imp isLE_compareScored.mpr isLE_compareScored.mpr
  · have notBehind := isLE_compareScored.mp le
    rwa [key a ((rankingOrder_perm runs).mem_iff.mp memA),
      key b ((rankingOrder_perm runs).mem_iff.mp memB)] at notBehind

theorem text_lt_of_le {a b : RunScoreInput} (le : a.runId.hyphenated ≤ b.runId.hyphenated)
    (other : a.runId ≠ b.runId) : a.runId.hyphenated < b.runId.hyphenated :=
  String.not_le.mp fun ge => other (Uuid.hyphenated_injective (String.le_antisymm le ge))

/-- Of two eligible runs, the one that is not behind is ahead. -/
theorem aheadOf_of_notBehind {a b : RunScoreInput} (isA : a.disqualifiedReason = none)
    (isB : b.disqualifiedReason = none) (other : a.runId ≠ b.runId)
    (notBehind : NotBehind (rankKey a) (rankKey b)) : AheadOf a b := by
  rw [rankKey, rankKey, isA, isB] at notBehind
  exact notBehind.imp_right fun ⟨same, le⟩ => ⟨same, text_lt_of_le le other⟩

theorem text_lt_of_notBehind {a b : RunScoreInput} (isA : a.disqualifiedReason ≠ none)
    (isB : b.disqualifiedReason ≠ none) (other : a.runId ≠ b.runId)
    (notBehind : NotBehind (rankKey a) (rankKey b)) :
    a.runId.hyphenated < b.runId.hyphenated := by
  rw [rankKey, rankKey, Option.isSome_iff_ne_none.mpr isA, Option.isSome_iff_ne_none.mpr isB]
    at notBehind
  exact text_lt_of_le notBehind other

/-- Only an eligible run is not behind an eligible one. -/
theorem eligible_of_notBehind {a b : RunScoreInput}
    (notBehind : NotBehind (rankKey a) (rankKey b)) (isB : b.disqualifiedReason.isNone = true) :
    a.disqualifiedReason.isNone = true := by
  rw [Option.isNone_iff_eq_none] at isB ⊢
  rw [rankKey, rankKey, isB] at notBehind
  cases isA : a.disqualifiedReason with
  | none => rfl
  | some reason =>
    rw [isA] at notBehind
    exact notBehind.elim

/-- The eligible runs are ranked by their net return and the text of their id. -/
theorem exists_ranking {runs : List RunScoreInput} (distinct : (runs.map (·.runId)).Nodup)
    (few : (eligible runs).length < 2 ^ 32 - 1) (weights : ScoringWeightsV1)
    (penalties : PenaltyRulesV1) :
    ∃ front back, Ranking runs (scoreRuns runs weights penalties) front back := by
  have ahead := pairwise_rankingOrder distinct
  have split := filter_append_of_pairwise (ahead.imp eligible_of_notBehind)
  have ids : (rankingOrder runs).Pairwise fun a b => a.runId ≠ b.runId :=
    List.pairwise_map.mp (((rankingOrder_perm runs).map _).nodup_iff.mpr distinct)
  have isFront : ((rankingOrder runs).filter (·.disqualifiedReason.isNone)).Perm (eligible runs) :=
    (rankingOrder_perm runs).filter _
  generalize isFrontList : (rankingOrder runs).filter (·.disqualifiedReason.isNone) = front
    at split isFront
  generalize isBackList : (rankingOrder runs).filter (fun run => !run.disqualifiedReason.isNone) =
    back at split
  have qualified : ∀ run ∈ front, run.disqualifiedReason = none := by
    intro run mem
    rw [← isFrontList] at mem
    exact Option.isNone_iff_eq_none.mp (List.mem_filter.mp mem).2
  have disqualified : ∀ run ∈ back, run.disqualifiedReason ≠ none := by
    intro run mem isNone
    rw [← isBackList, List.mem_filter, isNone] at mem
    exact Bool.false_ne_true mem.2
  rw [split] at ahead ids
  obtain ⟨frontAhead, backAhead, -⟩ := List.pairwise_append.mp ahead
  obtain ⟨frontIds, backIds, -⟩ := List.pairwise_append.mp ids
  refine ⟨front, back, {
    once := split ▸ rankingOrder_perm runs
    qualified
    disqualified
    ordered := (frontAhead.and frontIds).imp_of_mem fun memA memB both =>
      aheadOf_of_notBehind (qualified _ memA) (qualified _ memB) both.2 both.1
    behind := (backAhead.and backIds).imp_of_mem fun memA memB both =>
      text_lt_of_notBehind (disqualified _ memA) (disqualified _ memB) both.2 both.1
    scored := ?_
    unranked := ?_ }⟩
  · have one : (1 : UInt32).toNat = 1 := rfl
    have length := isFront.length_eq
    obtain ⟨rank, assigned⟩ := @assignRanks_eligible (front.map (scoreRun (eligible runs)))
      (back.map (scoreRun (eligible runs))) 1
      (by simpa using qualified) (by rw [one, List.length_map]; omega)
    rw [scoreRuns_eq, split, List.map_append, assigned,
      assignRanks_disqualified (by simpa using disqualified), one]
    simp only [Nat.add_comm 1]
  · intro run mem
    rw [scoreRun]
    split
    · exact ⟨rfl, rfl⟩
    · rename_i isNone
      exact absurd isNone (disqualified run mem)

/-! ## What the ranking looks at -/

theorem percentile_of_perm {values values' : List Int64} (perm : values.Perm values')
    (target : Int64) : percentile values target = percentile values' target := by
  simp only [percentile, perm.length_eq, perm.countP_eq]

/-- The score of a run depends on what is ranked. -/
theorem scoreRun_of_ranked {eligible eligible' : List RunScoreInput} {run run' : RunScoreInput}
    (perm : (eligible.map (·.netReturnMicros)).Perm (eligible'.map (·.netReturnMicros)))
    (same : ranked run = ranked run') : scoreRun eligible run = scoreRun eligible' run' := by
  obtain ⟨sameId, sameRest⟩ := Prod.mk.inj same
  obtain ⟨sameNet, sameReason⟩ := Prod.mk.inj sameRest
  simp only [scoreRun, sameId, sameNet, sameReason, percentile_of_perm perm]

/-- Lists with the same images under one function have the same images under those that depend on
it. -/
theorem map_eq_of_map_eq {α β γ : Type} {f : α → β} {g g' : α → γ} {l l' : List α}
    (image : l.map f = l'.map f) (same : ∀ a a', f a = f a' → g a = g' a') :
    l.map g = l'.map g' := by
  induction l generalizing l' with
  | nil => rw [List.map_eq_nil_iff.mp image.symm, List.map_nil, List.map_nil]
  | cons a l ih =>
    obtain ⟨a', rest, rfl, isA, isRest⟩ := List.map_eq_cons_iff.mp image.symm
    rw [List.map_cons, List.map_cons, same a a' isA.symm, ih isRest.symm]

/-- `AheadOf` of what is ranked. -/
def RankedAhead (left right : Uuid × Int64 × Option String) : Prop :=
  right.2.1 < left.2.1 ∨
    left.2.1 = right.2.1 ∧ left.1.hyphenated < right.1.hyphenated

theorem RankedAhead.asymm {a b : Uuid × Int64 × Option String} (ahead : RankedAhead a b) :
    ¬RankedAhead b a := by
  rcases ahead with less | ⟨same, less⟩
  · rintro (less' | ⟨same', -⟩)
    · exact Int64.lt_irrefl (Int64.lt_trans less less')
    · exact Int64.lt_irrefl (same' ▸ less)
  · rintro (less' | ⟨-, less'⟩)
    · exact Int64.lt_irrefl (same ▸ less')
    · exact String.lt_irrefl _ (String.lt_trans less less')

/-- The eligible runs of a ranking and the disqualified ones. -/
theorem Ranking.filter_ranked {runs front back : List RunScoreInput} {scored : List ScoredRun}
    (ranking : Ranking runs scored front back) :
    ((front ++ back).map ranked).filter (·.2.2.isNone) = front.map ranked ∧
      ((front ++ back).map ranked).filter (!·.2.2.isNone) = back.map ranked := by
  have isFront : ∀ entry ∈ front.map ranked, entry.2.2.isNone = true := by
    rw [List.forall_mem_map]
    exact fun run mem => Option.isNone_iff_eq_none.mpr (ranking.qualified run mem)
  have isBack : ∀ entry ∈ back.map ranked, entry.2.2.isNone = false := by
    rw [List.forall_mem_map]
    exact fun run mem => Bool.eq_false_iff.mpr fun isNone =>
      ranking.disqualified run mem (Option.isNone_iff_eq_none.mp isNone)
  rw [List.map_append, List.filter_append, List.filter_append]
  constructor
  · rw [List.filter_eq_self.mpr isFront,
      List.filter_eq_nil_iff.mpr fun entry mem => by simp [isBack entry mem], List.append_nil]
  · rw [List.filter_eq_nil_iff.mpr fun entry mem => by simp [isFront entry mem],
      List.filter_eq_self.mpr fun entry mem => by simp [isBack entry mem], List.nil_append]

/-- Rankings of inputs that agree in what is ranked are equal. -/
theorem Ranking.unique {runs runs' front front' back back' : List RunScoreInput}
    {scored scored' : List ScoredRun} (same : (runs.map ranked).Perm (runs'.map ranked))
    (ranking : Ranking runs scored front back) (ranking' : Ranking runs' scored' front' back') :
    scored = scored' := by
  have perm : ((front ++ back).map ranked).Perm ((front' ++ back').map ranked) :=
    (ranking.once.map _).trans (same.trans (ranking'.once.map _).symm)
  have fronts := perm.filter (·.2.2.isNone)
  have backs := perm.filter (!·.2.2.isNone)
  rw [ranking.filter_ranked.1, ranking'.filter_ranked.1] at fronts
  rw [ranking.filter_ranked.2, ranking'.filter_ranked.2] at backs
  have sameFront : front.map ranked = front'.map ranked :=
    fronts.eq_of_pairwise (fun _ _ _ _ ahead behind => absurd behind ahead.asymm)
      (List.pairwise_map.mpr ranking.ordered : (front.map ranked).Pairwise RankedAhead)
      (List.pairwise_map.mpr ranking'.ordered)
  have sameBack : back.map ranked = back'.map ranked :=
    backs.eq_of_pairwise
      (fun _ _ _ _ less less' => absurd (String.lt_trans less less') (String.lt_irrefl _))
      (List.pairwise_map.mpr ranking.behind :
        (back.map ranked).Pairwise (·.1.hyphenated < ·.1.hyphenated))
      (List.pairwise_map.mpr ranking'.behind)
  have returns : ((eligible runs).map (·.netReturnMicros)).Perm
      ((eligible runs').map (·.netReturnMicros)) := by
    have filtered := (same.filter (·.2.2.isNone)).map (·.2.1)
    rwa [List.filter_map, List.filter_map, List.map_map, List.map_map] at filtered
  have scores := fun a b => @scoreRun_of_ranked _ _ a b returns
  rw [ranking.scored, ranking'.scored, map_eq_of_map_eq sameFront scores,
    map_eq_of_map_eq sameBack scores]

/-- **Ranks.**  Runs with distinct ids are ranked by their net return and the text of their id, the
disqualified ones behind; and neither the order of the runs, nor their other fields, the weights or
the penalties matter. -/
theorem ranking_scoreRuns {runs : List RunScoreInput} (distinct : (runs.map (·.runId)).Nodup)
    (few : (eligible runs).length < 2 ^ 32 - 1) (weights : ScoringWeightsV1)
    (penalties : PenaltyRulesV1) :
    (∃ front back, Ranking runs (scoreRuns runs weights penalties) front back) ∧
      ∀ (runs' : List RunScoreInput) (weights' : ScoringWeightsV1) (penalties' : PenaltyRulesV1),
        (runs'.map ranked).Perm (runs.map ranked) →
          scoreRuns runs' weights' penalties' = scoreRuns runs weights penalties := by
  obtain ⟨front, back, ranking⟩ := exists_ranking distinct few weights penalties
  refine ⟨⟨front, back, ranking⟩, fun runs' weights' penalties' same => ?_⟩
  have distinct' : (runs'.map (·.runId)).Nodup := by
    have ids := same.map (·.1)
    rw [List.map_map, List.map_map] at ids
    exact ids.nodup_iff.mpr distinct
  have few' : (eligible runs').length < 2 ^ 32 - 1 := by
    have lengths := (same.filter (·.2.2.isNone)).length_eq
    rw [List.filter_map, List.filter_map, List.length_map, List.length_map] at lengths
    exact lengths.trans_lt few
  obtain ⟨front', back', ranking'⟩ := exists_ranking distinct' few' weights' penalties'
  exact ranking'.unique same ranking

/-- Two runs with the same net return and one that is disqualified. -/
def sampleRuns : List RunScoreInput := [
  ⟨⟨.ofNat 16 2⟩, 10, 10, 10, 0, 0, none⟩,
  ⟨⟨.ofNat 16 3⟩, 99, 99, 0, 0, 0, some "event chain gap"⟩,
  ⟨⟨.ofNat 16 1⟩, 10, 10, 5, 1, 0, none⟩]

/-- The sample runs are ranked, and so they are in reverse under other weights. -/
theorem ranking_sampleRuns :
    (∃ front back, Ranking sampleRuns (scoreRuns sampleRuns {} {}) front back) ∧
      scoreRuns sampleRuns.reverse { netReturn := 0, sortino := 100 } { capMillis := 7 } =
        scoreRuns sampleRuns {} {} := by
  have ranking := ranking_scoreRuns (by decide : (sampleRuns.map (·.runId)).Nodup)
    (by decide) {} {}
  exact ⟨ranking.1, ranking.2 _ _ _ ((List.reverse_perm _).map _)⟩

end CrowAgent
