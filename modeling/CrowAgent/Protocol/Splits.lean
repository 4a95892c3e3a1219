import CrowAgent.Protocol.Manifest

/-!
# The splits of a ticket

The sums of the splits are taken in 16 bits before they are compared.  `sumsExact_iff` says for
which manifests this makes no difference: in both builds the sums are the exact ones just when they
fit into 16 bits whenever they are taken.
-/

namespace CrowAgent

open FixedWidth

theorem toNat_add_of_fits {a b : UInt16} (fits : a.toNat + b.toNat < 2 ^ 16) :
    (a + b).toNat = a.toNat + b.toNat := by
  rw [UInt16.toNat_add, Nat.mod_eq_of_lt fits]

/-- The checked addition panics at a sum that does not fit. -/
theorem Build.addU16_trap {ε : Type} {a b : UInt16} (large : ¬a.toNat + b.toNat < 2 ^ 16) :
    (Build.checked.addU16 a b : Exec ε UInt16) = .error .trap := if_neg large

/-- Where the checked addition returns, the wrapping one returns the same. -/
theorem Build.addU16_eq {ε : Type} {a b : UInt16} (fits : a.toNat + b.toNat < 2 ^ 16)
    (build : Build) : (build.addU16 a b : Exec ε UInt16) = .ok (a + b) := by
  cases build with
  | checked => exact if_pos fits
  | wrapping => rfl

namespace ArenaManifestV1

/-- The share of the prizes and of the protocol, as an exact sum. -/
def ticketSum (manifest : ArenaManifestV1) : Nat :=
  manifest.ticket.prizeBps.toNat + manifest.ticket.protocolBps.toNat

/-- The shares of the first two winners. -/
def twoWinners (manifest : ArenaManifestV1) : Nat :=
  manifest.ticket.winnerBps.1.toNat + manifest.ticket.winnerBps.2.1.toNat

def winnerSum (manifest : ArenaManifestV1) : Nat :=
  manifest.twoWinners + manifest.ticket.winnerBps.2.2.toNat

/-- The sums `validate` takes are exact: it does not panic, it does the same in both builds, and
the splits it accepts add up. -/
structure SumsExact (manifest : ArenaManifestV1) : Prop where
  noPanic : manifest.validateIn .checked ≠ .error .trap
  noWrap : manifest.validateIn .wrapping = manifest.validateIn .checked
  addUp : ∀ build, manifest.validateIn build = .ok () → manifest.ccEntry = false →
    manifest.ticketSum = 10000 ∧ manifest.winnerSum = 10000

/-- The sums fit into 16 bits whenever they are taken. -/
def SumsFit (manifest : ArenaManifestV1) : Prop :=
  manifest.validateTerms = .ok () → manifest.ccEntry = false →
    manifest.ticketSum < 2 ^ 16 ∧ (manifest.ticketSum = 10000 → manifest.winnerSum < 2 ^ 16)

/-- Sums that fit are compared as they are, in both builds. -/
theorem splitsValidIn_eq {manifest : ArenaManifestV1} (ticket : manifest.ticketSum < 2 ^ 16)
    (winners : manifest.ticketSum = 10000 → manifest.winnerSum < 2 ^ 16) (build : Build) :
    manifest.splitsValidIn build =
      .ok (decide (manifest.ticketSum = 10000 ∧ manifest.winnerSum = 10000)) := by
  have whole : (10000 : UInt16).toNat = 10000 := by decide
  have isTicket : manifest.ticket.prizeBps + manifest.ticket.protocolBps = 10000 ↔
      manifest.ticketSum = 10000 := by
    rw [← UInt16.toNat_inj, toNat_add_of_fits ticket, whole]
    rfl
  unfold splitsValidIn
  rw [Build.addU16_eq ticket]
  change (if _ then _ else _) = _
  by_cases isWhole : manifest.ticketSum = 10000
  · have sum := winners isWhole
    have two : manifest.twoWinners < 2 ^ 16 := Nat.lt_of_le_of_lt (Nat.le_add_right _ _) sum
    have twoValue := toNat_add_of_fits two
    have three : (manifest.ticket.winnerBps.1 + manifest.ticket.winnerBps.2.1).toNat +
        manifest.ticket.winnerBps.2.2.toNat < 2 ^ 16 := by
      rw [twoValue]
      exact sum
    rw [if_neg (not_not.mpr (isTicket.mpr isWhole)), Build.addU16_eq two]
    change Build.addU16 _ _ _ >>= _ = _
    rw [Build.addU16_eq three]
    change Except.ok (decide (_ = (10000 : UInt16))) = _
    rw [Except.ok.injEq, decide_eq_decide, ← UInt16.toNat_inj, toNat_add_of_fits three, twoValue,
      whole]
    exact ⟨fun same => ⟨isWhole, same⟩, fun same => same.2⟩
  · rw [if_pos fun same => isWhole (isTicket.mp same)]
    simp [isWhole, pure, Except.pure]

/-- Sums that do not fit are a panic of the checked build. -/
theorem splitsValidIn_trap {manifest : ArenaManifestV1}
    (large : ¬(manifest.ticketSum < 2 ^ 16 ∧
      (manifest.ticketSum = 10000 → manifest.winnerSum < 2 ^ 16))) :
    manifest.splitsValidIn .checked = .error .trap := by
  have whole : (10000 : UInt16).toNat = 10000 := by decide
  unfold splitsValidIn
  by_cases ticket : manifest.ticketSum < 2 ^ 16
  · obtain ⟨isWhole, sum⟩ := Classical.not_imp.mp (not_and.mp large ticket)
    have isTicket : manifest.ticket.prizeBps + manifest.ticket.protocolBps = 10000 := by
      rw [← UInt16.toNat_inj, toNat_add_of_fits ticket, whole]
      exact isWhole
    rw [Build.addU16_eq ticket]
    change (if _ then _ else _) = _
    rw [if_neg (not_not.mpr isTicket)]
    by_cases two : manifest.twoWinners < 2 ^ 16
    · rw [Build.addU16_eq two]
      change Build.addU16 _ _ _ >>= _ = _
      have three : ¬(manifest.ticket.winnerBps.1 + manifest.ticket.winnerBps.2.1).toNat +
          manifest.ticket.winnerBps.2.2.toNat < 2 ^ 16 := by
        rw [toNat_add_of_fits two]
        exact sum
      rw [Build.addU16_trap three]
      rfl
    · rw [Build.addU16_trap two]
      rfl
  · rw [Build.addU16_trap ticket]
    rfl

/-- A manifest whose terms hold is accepted only with valid splits. -/
theorem splits_of_validateIn {manifest : ArenaManifestV1} {build : Build}
    (valid : manifest.validateIn build = .ok ()) (notCc : manifest.ccEntry = false) :
    manifest.validateTerms = .ok () ∧ manifest.splitsValidIn build = .ok true := by
  simp only [validateIn, splitsAccepted, bind_eq_ok, notCc, Bool.false_eq_true, if_false,
    rejectIf_eq_ok] at valid
  obtain ⟨⟨⟩, terms, splits, isSplits, -, accepted, -⟩ := valid
  refine ⟨terms, ?_⟩
  rw [isSplits]
  simpa using accepted

/-- Two builds that sum the splits alike validate alike. -/
theorem validateIn_congr {manifest : ArenaManifestV1} {build build' : Build}
    (same : manifest.validateTerms = .ok () → manifest.ccEntry = false →
      manifest.splitsValidIn build = manifest.splitsValidIn build') :
    manifest.validateIn build = manifest.validateIn build' := by
  unfold validateIn splitsAccepted
  cases terms : manifest.validateTerms with
  | error halt => rfl
  | ok _ =>
    cases cc : manifest.ccEntry with
    | true => rfl
    | false => rw [same terms cc]

theorem noTrap_validateTerms (manifest : ArenaManifestV1) : NoTrap manifest.validateTerms := by
  unfold validateTerms
  refine .bind .rejectIf fun _ _ => .bind .rejectIf fun _ _ => .bind .rejectIf fun _ _ => ?_
  split
  · simp [NoTrap]
  · exact .bind .rejectIf fun _ _ => .bind .rejectIf fun _ _ => .bind .rejectIf fun _ _ => .rejectIf

/-- Validation panics at the sums of the splits or nowhere. -/
theorem noTrap_validateIn {manifest : ArenaManifestV1} {build : Build}
    (splits : manifest.validateTerms = .ok () → manifest.ccEntry = false →
      NoTrap (manifest.splitsValidIn build)) : NoTrap (manifest.validateIn build) := by
  unfold validateIn
  refine .bind (noTrap_validateTerms manifest) fun _ terms => .bind ?_ fun _ _ =>
    .bind .rejectIf fun _ _ => .bind .rejectIf fun _ _ => .bind .rejectIf fun _ _ => ?_
  · unfold splitsAccepted
    split
    · exact .ok
    · rename_i notCc
      exact splits terms (Bool.eq_false_iff.mpr notCc)
  · split
    · exact .ok
    · simp [NoTrap]

/-- **Exact sums.**  The splits are summed without overflow and add up, in both builds, exactly for
the manifests whose sums fit into 16 bits when they are taken. -/
theorem sumsExact_iff (manifest : ArenaManifestV1) : manifest.SumsExact ↔ manifest.SumsFit := by
  constructor
  · rintro ⟨noPanic, -, -⟩ terms notCc
    by_contra large
    refine noPanic ?_
    unfold validateIn splitsAccepted
    rw [terms, notCc, if_neg Bool.false_ne_true, splitsValidIn_trap large]
    rfl
  · intro fits
    have splits : manifest.validateTerms = .ok () → manifest.ccEntry = false → ∀ build,
        manifest.splitsValidIn build =
          .ok (decide (manifest.ticketSum = 10000 ∧ manifest.winnerSum = 10000)) :=
      fun terms notCc => splitsValidIn_eq (fits terms notCc).1 (fits terms notCc).2
    refine ⟨?_, ?_, ?_⟩
    · refine noTrap_validateIn fun terms notCc => ?_
      rw [splits terms notCc]
      exact .ok
    · exact validateIn_congr fun terms notCc => by
        rw [splits terms notCc, splits terms notCc]
    · intro build valid notCc
      obtain ⟨terms, accepted⟩ := splits_of_validateIn valid notCc
      rw [splits terms notCc, Except.ok.injEq] at accepted
      exact of_decide_eq_true accepted

/-- A manifest that is sound but for its splits, whose first sum is 2 ^ 16 above the whole. -/
def wrappingManifest : ArenaManifestV1 where
  arenaId := ⟨.ofNat 16 1⟩
  manifestVersion := 1
  mode := .hyperliquidTestnet
  startsAt := ⟨0, 0⟩
  endsAt := ⟨3600 * 10 ^ 9, 0⟩
  eligibleModels := ["crow-qwen3-5-27b"]
  requiredClientVersion := "0.1.0"
  startingCapitalMicroUsdc := 1000000000
  riskRules := .default
  execution := { halfSpreadBps := 2, slippageBps := 3, takerFeeBps := 5 }
  ticket := { enabled := false, asset := "", prizeBps := 65535, protocolBps := 10001 }

/-- The manifest is accepted where arithmetic wraps, and a panic where it is checked. -/
theorem wrappingManifest_accepted :
    wrappingManifest.validateIn .wrapping = .ok () ∧
      wrappingManifest.validateIn .checked = .error .trap ∧
      wrappingManifest.ccEntry = false ∧ wrappingManifest.ticketSum = 75536 := by
  decide

end ArenaManifestV1

end CrowAgent
