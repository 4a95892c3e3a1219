import CrowAgent.Core.ModelTurn
import CrowAgent.Lib.Words

/-!
# What a decision summary may publish

`validateDecisionSummary` puts the words of a summary together, refuses one that says too much, and
publishes the part that fits.  `Publishable` is what the published part ought to be like.

* `publishable_iff`: it is exactly when every quotation between the published part and the strategy
  is one that the two texts show as they are compared (`QuotesShow`): the strategy with the white
  space it was written with, the summary as a whole.
* `publishable_of_written`: that is so for a short summary and a strategy written with single
  spaces.
-/

namespace CrowAgent

open Words

/-! ## The texts -/

theorem joinWords_eq (text : List Char) : joinWords text = join isWhitespace ' ' text := rfl

theorem trim_eq (text : List Char) : CrowAgent.trim text = Words.trim isWhitespace text := rfl

theorem trimEnd_eq (text : List Char) : trimEnd text = text.rdropWhile isWhitespace := rfl

theorem space_separates : isWhitespace ' ' := by decide

/-- Lower case keeps white space and letters apart. -/
theorem isWhitespace_toLower (c : Char) : isWhitespace c.toLower = isWhitespace c := by
  by_cases upper : c.val ≥ 'A'.val ∧ c.val ≤ 'Z'.val
  · obtain ⟨low, high⟩ := upper
    have none : ∀ {c : Char}, 65 ≤ c.toNat → c.toNat ≤ 122 → isWhitespace c = false := by
      intro c low high
      simp only [isWhitespace, decide_eq_false_iff_not, List.mem_cons, List.not_mem_nil, or_false]
      omega
    rw [ge_iff_le, UInt32.le_iff_toNat_le] at low
    rw [UInt32.le_iff_toNat_le] at high
    have least : 65 ≤ c.toNat := low
    have greatest : c.toNat ≤ 90 := high
    have lower : c.toLower.toNat = c.toNat + 32 := by
      have sum : (c.val + 32).toNat = c.val.toNat + 32 := by
        rw [UInt32.toNat_add]
        exact Nat.mod_eq_of_lt (show c.toNat + 32 < 2 ^ 32 by omega)
      exact (congrArg Char.toNat (dif_pos ⟨low, high⟩)).trans sum
    rw [none least (by omega), none (by omega) (by omega)]
  · rw [show c.toLower = c from dif_neg upper]

theorem toLower_space : ' '.toLower = ' ' := by decide

theorem joinWords_toAsciiLowercase (text : List Char) :
    joinWords (toAsciiLowercase text) = toAsciiLowercase (joinWords text) :=
  join_map isWhitespace_toLower toLower_space text

theorem trim_toAsciiLowercase (text : List Char) :
    CrowAgent.trim (toAsciiLowercase text) = toAsciiLowercase (CrowAgent.trim text) :=
  trim_map isWhitespace_toLower text

/-- The words of a summary, as far as they are published. -/
def publishedPart (summary : String) : List Char :=
  trimEnd ((joinWords summary.toList).take maxDecisionSummaryChars)

/-- A strategy with its white space normalised, and as it is compared; both in lower case. -/
def spacedStrategy (strategyInstructions : String) : List Char :=
  toAsciiLowercase (joinWords strategyInstructions.toList)

def comparedStrategy (strategyInstructions : String) : List Char :=
  toAsciiLowercase (CrowAgent.trim strategyInstructions.toList)

/-- The words of a summary as they are compared. -/
def comparedSummary (summary : String) : List Char := toAsciiLowercase (joinWords summary.toList)

theorem spacedStrategy_eq (strategyInstructions : String) :
    spacedStrategy strategyInstructions = joinWords (comparedStrategy strategyInstructions) := by
  rw [comparedStrategy, joinWords_toAsciiLowercase, spacedStrategy, joinWords_eq, joinWords_eq,
    trim_eq, join_trim]

theorem trimmed_comparedStrategy (strategyInstructions : String) :
    Trimmed isWhitespace (comparedStrategy strategyInstructions) := by
  rw [comparedStrategy, ← trim_toAsciiLowercase]
  exact trimmed_trim _

theorem spaced_toAsciiLowercase {text : List Char} (spaced : Spaced isWhitespace ' ' text) :
    Spaced isWhitespace ' ' (toAsciiLowercase text) := by
  have same := joinWords_toAsciiLowercase text
  rw [joinWords_eq, joinWords_eq, spaced.join_eq space_separates] at same
  rw [← same]
  exact (spaced_join _).resolve_left fun none =>
    spaced.ne_nil (List.map_eq_nil_iff.mp (same ▸ none))

/-- What is published begins the words of the summary, and is spaced like them. -/
theorem publishedPart_isPrefix (summary : String) :
    publishedPart summary <+: joinWords summary.toList :=
  (List.rdropWhile_prefix _ _).trans (List.take_prefix _ _)

theorem spaced_publishedPart {summary : String} (some : joinWords summary.toList ≠ []) :
    Spaced isWhitespace ' ' (publishedPart summary) := by
  have spaced := (spaced_join summary.toList).resolve_left some
  obtain ⟨c, text, whole⟩ := List.exists_cons_of_ne_nil some
  have letter : isWhitespace c = false := by
    have head := spaced.head
    rw [← joinWords_eq, whole] at head
    simpa using head
  have begins : publishedPart summary ≠ [] := by
    rw [publishedPart, whole, trimEnd_eq, ne_eq, List.rdropWhile_eq_nil_iff]
    intro all
    have gap := all c List.mem_cons_self
    rw [letter] at gap
    cases gap
  obtain ⟨rest, split⟩ := publishedPart_isPrefix summary
  rw [joinWords_eq] at split
  rw [← split] at spaced
  refine spaced.of_isPrefix space_separates begins fun c mem => ?_
  obtain ⟨some, rfl⟩ := List.mem_getLast?_eq_getLast mem
  exact Bool.eq_false_iff.mpr (List.rdropWhile_last_not _ _ some)

/-! ## What is published -/

/-- The summary passes the checks that do not look at the strategy. -/
structure Unobjectionable (summary : String) : Prop where
  controls : ∀ c ∈ summary.toList, isControl c → isWhitespace c
  words : joinWords summary.toList ≠ []
  references : ∀ phrase ∈ privateReferences,
    containsText (comparedSummary summary) phrase.toList = false

theorem quotesStrategy_eq_true {normalized strategy : List Char} :
    quotesStrategy normalized strategy = true ↔ 24 ≤ normalized.length ∧ 24 ≤ strategy.length ∧
      (strategy <:+: normalized ∨ normalized <:+: strategy) := by
  simp [quotesStrategy, containsText, and_assoc]

theorem validateDecisionSummary_eq_ok {summary strategyInstructions out : String} :
    validateDecisionSummary summary strategyInstructions = .ok out ↔
      Unobjectionable summary ∧
        quotesStrategy (comparedSummary summary) (comparedStrategy strategyInstructions) = false ∧
        out = String.ofList (publishedPart summary) := by
  unfold validateDecisionSummary
  dsimp only
  constructor
  · intro valid
    split at valid
    · cases valid
    · rename_i controls
      split at valid
      · cases valid
      · rename_i checks
        rw [not_or, not_or, Bool.not_eq_true, Bool.not_eq_true] at checks
        obtain ⟨words, references, quotes⟩ := checks
        refine ⟨⟨?_, words, ?_⟩, quotes, (Except.ok.inj valid).symm⟩
        · simpa using controls
        · simpa [comparedSummary] using references
  · rintro ⟨⟨controls, words, references⟩, quotes, rfl⟩
    rw [if_neg (by simpa using controls), if_neg]
    · rfl
    · rw [not_or, not_or, Bool.not_eq_true, Bool.not_eq_true]
      exact ⟨words, by simpa [comparedSummary] using references, quotes⟩

/-- What a published summary ought to be: short, of single spaces, without control characters and
private references, quoting the strategy as little as quoted from it, and valid as it is. -/
structure Publishable (strategyInstructions out : String) : Prop where
  short : out.toList.length ≤ maxDecisionSummaryChars
  normal : joinWords out.toList = out.toList
  controls : ∀ c ∈ out.toList, isControl c → isWhitespace c
  references : ∀ phrase ∈ privateReferences,
    containsText (toAsciiLowercase out.toList) phrase.toList = false
  quotes : 24 ≤ (comparedSummary out).length → 24 ≤ (spacedStrategy strategyInstructions).length →
    ¬spacedStrategy strategyInstructions <:+: comparedSummary out ∧
      ¬comparedSummary out <:+: spacedStrategy strategyInstructions
  again : validateDecisionSummary out strategyInstructions = .ok out

/-- A quotation between the published part of a summary and the strategy shows in the texts that
are compared: a strategy inside the part has no white space but single spaces, and a part inside
the strategy comes from a summary that is inside the strategy as it was written, or around it. -/
structure QuotesShow (summary strategyInstructions : String) : Prop where
  strategy : spacedStrategy strategyInstructions <:+: toAsciiLowercase (publishedPart summary) →
    spacedStrategy strategyInstructions = comparedStrategy strategyInstructions
  summary : toAsciiLowercase (publishedPart summary) <:+: spacedStrategy strategyInstructions →
    comparedSummary summary <:+: comparedStrategy strategyInstructions ∨
      comparedStrategy strategyInstructions <:+: comparedSummary summary

section Published

variable {summary strategyInstructions : String}

theorem lower_publishedPart_isPrefix :
    toAsciiLowercase (publishedPart summary) <+: comparedSummary summary :=
  (publishedPart_isPrefix summary).map _

theorem length_publishedPart : (publishedPart summary).length ≤ maxDecisionSummaryChars :=
  (List.rdropWhile_prefix _ _).length_le.trans (List.length_take_le _ _)

/-- The words of what is published are what is published. -/
theorem joinWords_publishedPart (words : joinWords summary.toList ≠ []) :
    joinWords (publishedPart summary) = publishedPart summary :=
  (spaced_publishedPart words).join_eq space_separates

theorem publishedPart_publishedPart (words : joinWords summary.toList ≠ []) :
    publishedPart (String.ofList (publishedPart summary)) = publishedPart summary := by
  rw [publishedPart, String.toList_ofList, joinWords_publishedPart words,
    List.take_of_length_le length_publishedPart, trimEnd_eq, publishedPart, trimEnd_eq,
    List.rdropWhile_idempotent]

theorem comparedSummary_publishedPart (words : joinWords summary.toList ≠ []) :
    comparedSummary (String.ofList (publishedPart summary)) =
      toAsciiLowercase (publishedPart summary) := by
  rw [comparedSummary, String.toList_ofList, joinWords_publishedPart words]

/-- What is published is as unobjectionable as the summary. -/
theorem Unobjectionable.publishedPart (fine : Unobjectionable summary) :
    Unobjectionable (String.ofList (publishedPart summary)) where
  controls := by
    intro c mem control
    rw [String.toList_ofList] at mem
    by_contra letter
    have kept : c ∈ (joinWords summary.toList).filter (!isWhitespace ·) :=
      List.mem_filter.mpr ⟨(publishedPart_isPrefix summary).subset mem, by simp [letter]⟩
    rw [joinWords_eq, filter_join space_separates] at kept
    exact letter (fine.controls c (List.mem_filter.mp kept).1 control)
  words := by
    rw [String.toList_ofList, joinWords_publishedPart fine.words]
    exact (spaced_publishedPart fine.words).ne_nil
  references := by
    intro phrase mem
    have none := fine.references phrase mem
    rw [containsText, decide_eq_false_iff_not] at none ⊢
    rw [comparedSummary_publishedPart fine.words]
    exact fun inside => none (inside.trans lower_publishedPart_isPrefix.isInfix)

/-- A strategy inside the summary as it is compared has single spaces only. -/
theorem spaced_of_comparedStrategy_isInfix (some : comparedStrategy strategyInstructions ≠ [])
    (words : joinWords summary.toList ≠ [])
    (inside : comparedStrategy strategyInstructions <:+: comparedSummary summary) :
    spacedStrategy strategyInstructions = comparedStrategy strategyInstructions := by
  have spaced := spaced_toAsciiLowercase ((spaced_join summary.toList).resolve_left words)
  rw [spacedStrategy_eq]
  exact (spaced.of_infix space_separates some (trimmed_comparedStrategy _) inside).join_eq
    space_separates

/-- A summary inside the strategy as it is compared is inside the spaced one. -/
theorem infix_spacedStrategy {part : List Char} (spaced : Spaced isWhitespace ' ' part)
    (inside : part <:+: comparedStrategy strategyInstructions) :
    part <:+: spacedStrategy strategyInstructions := by
  rw [spacedStrategy_eq]
  exact spaced.infix_join space_separates inside

/-- Texts that quote each other as they are compared do so with the spaced strategy. -/
theorem spaced_of_quotes (words : joinWords summary.toList ≠ [])
    (quotes : quotesStrategy (comparedSummary summary) (comparedStrategy strategyInstructions)) :
    spacedStrategy strategyInstructions <:+: comparedSummary summary →
      spacedStrategy strategyInstructions = comparedStrategy strategyInstructions := by
  obtain ⟨-, long, inside | inside⟩ := quotesStrategy_eq_true.mp quotes
  · have some : comparedStrategy strategyInstructions ≠ [] := by
      intro none
      rw [none] at long
      exact absurd long (by decide)
    exact fun _ => spaced_of_comparedStrategy_isInfix some words inside
  · intro spaced
    rw [spacedStrategy_eq] at spaced ⊢
    exact join_eq_of_infix space_separates (trimmed_comparedStrategy _) (spaced.trans inside)

/-- Published parts that do not quote the spaced strategy pass the checks again. -/
theorem validate_publishedPart (fine : Unobjectionable summary)
    (quotes : 24 ≤ (publishedPart summary).length →
      24 ≤ (spacedStrategy strategyInstructions).length →
      ¬spacedStrategy strategyInstructions <:+: toAsciiLowercase (publishedPart summary) ∧
        ¬toAsciiLowercase (publishedPart summary) <:+: spacedStrategy strategyInstructions) :
    validateDecisionSummary (String.ofList (publishedPart summary)) strategyInstructions =
      .ok (String.ofList (publishedPart summary)) := by
  rw [validateDecisionSummary_eq_ok, publishedPart_publishedPart fine.words,
    comparedSummary_publishedPart fine.words]
  refine ⟨fine.publishedPart, ?_, rfl⟩
  rw [Bool.eq_false_iff, ne_eq, quotesStrategy_eq_true]
  rintro ⟨long, longStrategy, inside⟩
  rw [toAsciiLowercase, List.length_map] at long
  rcases inside with inside | inside
  · have some : comparedStrategy strategyInstructions ≠ [] := by
      intro none
      rw [none] at longStrategy
      exact absurd longStrategy (by decide)
    have same := spaced_of_comparedStrategy_isInfix some fine.words
      (inside.trans lower_publishedPart_isPrefix.isInfix)
    rw [← same] at longStrategy inside
    exact (quotes long longStrategy).1 inside
  · have spaced := infix_spacedStrategy
      (spaced_toAsciiLowercase (spaced_publishedPart fine.words)) inside
    have longer := spaced.length_le
    rw [toAsciiLowercase, List.length_map] at longer
    exact (quotes long (by omega)).2 spaced

end Published

/-- **What is published is publishable exactly when the texts as they are compared show every
quotation.** -/
theorem publishable_iff (summary strategyInstructions : String) :
    (∀ out, validateDecisionSummary summary strategyInstructions = .ok out →
        Publishable strategyInstructions out) ↔
      (Unobjectionable summary → 24 ≤ (publishedPart summary).length →
        24 ≤ (spacedStrategy strategyInstructions).length →
        QuotesShow summary strategyInstructions) := by
  have lengths : ∀ text : List Char, (toAsciiLowercase text).length = text.length :=
    fun text => List.length_map _
  constructor
  · intro publishable fine long longStrategy
    cases quotes : quotesStrategy (comparedSummary summary)
        (comparedStrategy strategyInstructions) with
    | true =>
      obtain ⟨-, -, inside⟩ := quotesStrategy_eq_true.mp quotes
      refine ⟨fun spaced => ?_, fun _ => inside.symm⟩
      exact spaced_of_quotes fine.words quotes (spaced.trans lower_publishedPart_isPrefix.isInfix)
    | false =>
      have valid := publishable _ (validateDecisionSummary_eq_ok.mpr ⟨fine, quotes, rfl⟩)
      have apart := valid.quotes
      rw [comparedSummary_publishedPart fine.words, lengths] at apart
      obtain ⟨notInside, notAround⟩ := apart long longStrategy
      exact ⟨fun inside => absurd inside notInside, fun around => absurd around notAround⟩
  · intro shows out valid
    obtain ⟨fine, compared, rfl⟩ := validateDecisionSummary_eq_ok.mp valid
    have apart : 24 ≤ (publishedPart summary).length →
        24 ≤ (spacedStrategy strategyInstructions).length →
        ¬spacedStrategy strategyInstructions <:+: toAsciiLowercase (publishedPart summary) ∧
          ¬toAsciiLowercase (publishedPart summary) <:+: spacedStrategy strategyInstructions := by
      intro long longStrategy
      obtain ⟨strategy, summary'⟩ := shows fine long longStrategy
      rw [Bool.eq_false_iff, ne_eq, quotesStrategy_eq_true] at compared
      have longSummary : 24 ≤ (comparedSummary summary).length := by
        have longer := (@lower_publishedPart_isPrefix summary).length_le
        rw [lengths] at longer
        omega
      constructor
      · intro inside
        have same := strategy inside
        rw [same] at inside longStrategy
        exact compared ⟨longSummary, longStrategy,
          .inl (inside.trans lower_publishedPart_isPrefix.isInfix)⟩
      · intro around
        rcases summary' around with inside | inside
        · have longer := inside.length_le
          exact compared ⟨longSummary, by omega, .inr inside⟩
        · have some : comparedStrategy strategyInstructions ≠ [] := by
            intro none
            rw [spacedStrategy_eq, none] at longStrategy
            exact absurd longStrategy (by decide)
          rw [spaced_of_comparedStrategy_isInfix some fine.words inside] at longStrategy
          exact compared ⟨longSummary, longStrategy, .inl inside⟩
    refine {
      short := (congrArg List.length String.toList_ofList).trans_le length_publishedPart
      normal := ?_
      controls := fine.publishedPart.controls
      references := ?_
      quotes := ?_
      again := validate_publishedPart fine apart }
    · rw [String.toList_ofList, joinWords_publishedPart fine.words]
    · rw [String.toList_ofList]
      have references := fine.publishedPart.references
      rw [comparedSummary_publishedPart fine.words] at references
      exact references
    · rw [comparedSummary_publishedPart fine.words, lengths]
      exact apart

/-- A short summary is published with all its words. -/
theorem publishedPart_of_short {summary : String} (words : joinWords summary.toList ≠ [])
    (short : (joinWords summary.toList).length ≤ maxDecisionSummaryChars) :
    publishedPart summary = joinWords summary.toList := by
  have back : ∀ c ∈ (joinWords summary.toList).rtakeWhile isWhitespace, isWhitespace c :=
    fun c mem => List.mem_rtakeWhile_imp mem
  have spaced := (spaced_join summary.toList).resolve_left words
  calc publishedPart summary
      = joinWords (publishedPart summary) := (joinWords_publishedPart words).symm
    _ = join isWhitespace ' ' ((joinWords summary.toList).rdropWhile isWhitespace) := by
        rw [publishedPart, List.take_of_length_le short, joinWords_eq, trimEnd_eq]
    _ = joinWords summary.toList := by
        rw [← join_append_of_blank back, List.rdropWhile_append_rtakeWhile]
        exact spaced.join_eq space_separates

/-- Short summaries never quote a strategy that is written with single spaces. -/
theorem publishable_of_written {summary strategyInstructions out : String}
    (written : joinWords strategyInstructions.toList = CrowAgent.trim strategyInstructions.toList)
    (short : (joinWords summary.toList).length ≤ maxDecisionSummaryChars)
    (valid : validateDecisionSummary summary strategyInstructions = .ok out) :
    Publishable strategyInstructions out := by
  have same : spacedStrategy strategyInstructions = comparedStrategy strategyInstructions :=
    congrArg toAsciiLowercase written
  refine (publishable_iff summary strategyInstructions).mpr (fun fine _ _ => ?_) out valid
  refine ⟨fun _ => same, fun inside => .inl ?_⟩
  rwa [publishedPart_of_short fine.words short, same] at inside

/-! ### A quotation across two spaces -/

def quotingSummary : String := "Buy BTC on every strong momentum break."

def quotedStrategy : String := "Buy BTC  on every strong momentum break."

/-- A strategy written with two spaces is published word for word. -/
theorem quotingSummary_published :
    validateDecisionSummary quotingSummary quotedStrategy = .ok quotingSummary ∧
      ¬Publishable quotedStrategy quotingSummary := by
  refine ⟨by decide, fun valid => ?_⟩
  exact (valid.quotes (by decide) (by decide)).1 (by decide)

end CrowAgent
