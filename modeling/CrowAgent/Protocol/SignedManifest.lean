import CrowAgent.Lib.JsonText
import CrowAgent.Protocol.CanonicalJson
import CrowAgent.Protocol.Manifest
import CrowAgent.Protocol.RunEvent

/-!
# Signed arena manifests

A manifest is signed over its canonical JSON, or it carries the JSON its operator signed and is
verified over that.  It is written to a file as one document and read back by the daemon.

* `ofJson?_sortJson_toJson`: the typed manifest is read back from what it is written as.
* `readDocument_document`: so is every accepted signed manifest, whichever way it was made.
* `reads_of_verify`: the document verifies with the same manifest, and the manifest is what the
  JSON under the digest and the signature reads as.
-/

namespace CrowAgent

open FixedWidth Json

/-- The crates with the reader of RFC 3339 texts. -/
structure WirePrimitives : Type extends Primitives where
  parseRfc3339 : String → Option OffsetDateTime

/-- Identifiers and times are read back as they were written, and every time that is read has a
text. -/
structure WirePrimitives.RoundTrips (prims : WirePrimitives) : Prop where
  uuid : ∀ id : Uuid, prims.parseUuid id.hyphenated = some id
  time : ∀ time text, prims.rfc3339 time = some text → prims.parseRfc3339 text = some time
  written : ∀ text time, prims.parseRfc3339 text = some time → (prims.rfc3339 time).isSome

/-! ## The parts of a manifest -/

def ArenaMode.toText : ArenaMode → String
  | .historicalBacktest => "historical_backtest"
  | .hyperliquidTestnet => "hyperliquid_testnet"
  | .hyperliquidMainnet => "hyperliquid_mainnet"

def ArenaMode.ofText? (name : String) : Option ArenaMode :=
  [historicalBacktest, hyperliquidTestnet, hyperliquidMainnet].find? (·.toText = name)

theorem ArenaMode.ofText?_toText (mode : ArenaMode) : ofText? mode.toText = some mode := by
  cases mode <;> rfl

namespace RiskRulesV1

def toJson (rules : RiskRulesV1) : Json := .object [
  ("cash_reserve_bps", ofU64 rules.cashReserveBps.toUInt64),
  ("daily_loss_bps", ofU64 rules.dailyLossBps.toUInt64),
  ("drawdown_bps", ofU64 rules.drawdownBps.toUInt64),
  ("max_order_bps", ofU64 rules.maxOrderBps.toUInt64),
  ("max_position_bps", ofU64 rules.maxPositionBps.toUInt64),
  ("max_spread_bps", ofU64 rules.maxSpreadBps.toUInt64),
  ("max_oracle_gap_bps", ofU64 rules.maxOracleGapBps.toUInt64),
  ("book_max_age_seconds", ofU64 rules.bookMaxAgeSeconds.toUInt64),
  ("max_orders_day", ofU64 rules.maxOrdersDay.toUInt64),
  ("isolated_leverage", ofU64 rules.isolatedLeverage.toUInt64),
  ("long_only", .bool rules.longOnly),
  ("ioc_only", .bool rules.iocOnly)]

def ofJson? (json : Json) : Option RiskRulesV1 := do
  let [some cashReserveBps, some dailyLossBps, some drawdownBps, some maxOrderBps,
      some maxPositionBps, some maxSpreadBps, some maxOracleGapBps, some bookMaxAgeSeconds,
      some maxOrdersDay, some isolatedLeverage, some longOnly, some iocOnly] ←
    json.structFields? ["cash_reserve_bps", "daily_loss_bps", "drawdown_bps", "max_order_bps",
      "max_position_bps", "max_spread_bps", "max_oracle_gap_bps", "book_max_age_seconds",
      "max_orders_day", "isolated_leverage", "long_only", "ioc_only"] | none
  let cashReserveBps ← cashReserveBps.toU16?
  let dailyLossBps ← dailyLossBps.toU16?
  let drawdownBps ← drawdownBps.toU16?
  let maxOrderBps ← maxOrderBps.toU16?
  let maxPositionBps ← maxPositionBps.toU16?
  let maxSpreadBps ← maxSpreadBps.toU16?
  let maxOracleGapBps ← maxOracleGapBps.toU16?
  let bookMaxAgeSeconds ← bookMaxAgeSeconds.toU16?
  let maxOrdersDay ← maxOrdersDay.toU16?
  let isolatedLeverage ← isolatedLeverage.toU8?
  let longOnly ← longOnly.toBool?
  let iocOnly ← iocOnly.toBool?
  return {
    cashReserveBps, dailyLossBps, drawdownBps, maxOrderBps, maxPositionBps, maxSpreadBps,
    maxOracleGapBps, bookMaxAgeSeconds, maxOrdersDay, isolatedLeverage, longOnly, iocOnly }

theorem ofJson?_sortJson_toJson (rules : RiskRulesV1) :
    ofJson? (sortJson rules.toJson) = some rules := by
  refine bind_of_some (structFields?_sortJson rfl (by decide)) ?_
  exact bind_of_some (toU16?_ofU64 _) (bind_of_some (toU16?_ofU64 _)
    (bind_of_some (toU16?_ofU64 _) (bind_of_some (toU16?_ofU64 _)
    (bind_of_some (toU16?_ofU64 _) (bind_of_some (toU16?_ofU64 _)
    (bind_of_some (toU16?_ofU64 _) (bind_of_some (toU16?_ofU64 _)
    (bind_of_some (toU16?_ofU64 _) (bind_of_some (toU8?_ofU64 _)
    (bind_of_some rfl (bind_of_some rfl rfl)))))))))))

end RiskRulesV1

def ScoringWeightsV1.toJson (scoring : ScoringWeightsV1) : Json := .object [
  ("net_return", ofU64 scoring.netReturn.toUInt64),
  ("sortino", ofU64 scoring.sortino.toUInt64),
  ("inverse_drawdown", ofU64 scoring.inverseDrawdown.toUInt64)]

def ScoringWeightsV1.ofJson? (json : Json) : Option ScoringWeightsV1 := do
  let [some netReturn, some sortino, some inverseDrawdown] ←
    json.structFields? ["net_return", "sortino", "inverse_drawdown"] | none
  let netReturn ← netReturn.toU8?
  let sortino ← sortino.toU8?
  let inverseDrawdown ← inverseDrawdown.toU8?
  return { netReturn, sortino, inverseDrawdown }

theorem ScoringWeightsV1.ofJson?_sortJson_toJson (scoring : ScoringWeightsV1) :
    ofJson? (sortJson scoring.toJson) = some scoring := by
  rw [ofJson?, toJson, structFields?_sortJson]
  · simp only [List.map_cons, List.map_nil, sortJson_ofU64, Option.bind_eq_bind, Option.bind_some,
      toU8?_ofU64]
    rfl
  · rfl
  · decide

def PenaltyRulesV1.toJson (penalties : PenaltyRulesV1) : Json := .object [
  ("policy_rejection_millis", ofU64 penalties.policyRejectionMillis.toUInt64),
  ("missed_cycle_millis", ofU64 penalties.missedCycleMillis.toUInt64),
  ("cap_millis", ofU64 penalties.capMillis.toUInt64)]

def PenaltyRulesV1.ofJson? (json : Json) : Option PenaltyRulesV1 := do
  let [some policyRejectionMillis, some missedCycleMillis, some capMillis] ←
    json.structFields? ["policy_rejection_millis", "missed_cycle_millis", "cap_millis"] | none
  let policyRejectionMillis ← policyRejectionMillis.toU32?
  let missedCycleMillis ← missedCycleMillis.toU32?
  let capMillis ← capMillis.toU32?
  return { policyRejectionMillis, missedCycleMillis, capMillis }

theorem PenaltyRulesV1.ofJson?_sortJson_toJson (penalties : PenaltyRulesV1) :
    ofJson? (sortJson penalties.toJson) = some penalties := by
  rw [ofJson?, toJson, structFields?_sortJson]
  · simp only [List.map_cons, List.map_nil, sortJson_ofU64, Option.bind_eq_bind, Option.bind_some,
      toU32?_ofU64]
    rfl
  · rfl
  · decide

def ExecutionAssumptionsV1.toJson (execution : ExecutionAssumptionsV1) : Json := .object [
  ("half_spread_bps", ofU64 execution.halfSpreadBps.toUInt64),
  ("slippage_bps", ofU64 execution.slippageBps.toUInt64),
  ("taker_fee_bps", ofU64 execution.takerFeeBps.toUInt64)]

def ExecutionAssumptionsV1.ofJson? (json : Json) : Option ExecutionAssumptionsV1 := do
  let [some halfSpreadBps, some slippageBps, some takerFeeBps] ←
    json.structFields? ["half_spread_bps", "slippage_bps", "taker_fee_bps"] | none
  let halfSpreadBps ← halfSpreadBps.toU16?
  let slippageBps ← slippageBps.toU16?
  let takerFeeBps ← takerFeeBps.toU16?
  return { halfSpreadBps, slippageBps, takerFeeBps }

theorem ExecutionAssumptionsV1.ofJson?_sortJson_toJson (execution : ExecutionAssumptionsV1) :
    ofJson? (sortJson execution.toJson) = some execution := by
  rw [ofJson?, toJson, structFields?_sortJson]
  · simp only [List.map_cons, List.map_nil, sortJson_ofU64, Option.bind_eq_bind, Option.bind_some,
      toU16?_ofU64]
    rfl
  · rfl
  · decide

/-- The shares of the three winners. -/
def winnersOf? : Json → Option (UInt16 × UInt16 × UInt16)
  | .array [first, second, third] => do
    let first ← first.toU16?
    let second ← second.toU16?
    let third ← third.toU16?
    return (first, second, third)
  | _ => none

namespace TicketConfigV1

def toJson (ticket : TicketConfigV1) : Json := .object [
  ("enabled", .bool ticket.enabled),
  ("asset", .string ticket.asset),
  ("chain_id", ofU64 ticket.chainId),
  ("token_address", ofOptionStr ticket.tokenAddress),
  ("ticket_base_units", .string ticket.ticketBaseUnits),
  ("escrow_address", ofOptionStr ticket.escrowAddress),
  ("withdrawal_policy", .string ticket.withdrawalPolicy),
  ("payout_policy", .string ticket.payoutPolicy),
  ("prize_asset", .string ticket.prizeAsset),
  ("prize_base_units", .string ticket.prizeBaseUnits),
  ("usdc_address", ofOptionStr ticket.usdcAddress),
  ("ticket_micro_usdc", ofU64 ticket.ticketMicroUsdc),
  ("participant_cap", ofU64 ticket.participantCap.toUInt64),
  ("prize_bps", ofU64 ticket.prizeBps.toUInt64),
  ("protocol_bps", ofU64 ticket.protocolBps.toUInt64),
  ("winner_bps", .array [
    ofU64 ticket.winnerBps.1.toUInt64,
    ofU64 ticket.winnerBps.2.1.toUInt64,
    ofU64 ticket.winnerBps.2.2.toUInt64])]

def ofJson? (json : Json) : Option TicketConfigV1 := do
  let [some enabled, asset, chainId, tokenAddress, ticketBaseUnits, escrowAddress,
      withdrawalPolicy, payoutPolicy, prizeAsset, prizeBaseUnits, usdcAddress,
      some ticketMicroUsdc, some participantCap, some prizeBps, some protocolBps,
      some winnerBps] ←
    json.structFields? ["enabled", "asset", "chain_id", "token_address", "ticket_base_units",
      "escrow_address", "withdrawal_policy", "payout_policy", "prize_asset", "prize_base_units",
      "usdc_address", "ticket_micro_usdc", "participant_cap", "prize_bps", "protocol_bps",
      "winner_bps"] | none
  let enabled ← enabled.toBool?
  let asset ← orDefault asStr? "" asset
  let chainId ← orDefault toU64? 0 chainId
  let tokenAddress ← toOptionStr? tokenAddress
  let ticketBaseUnits ← orDefault asStr? "" ticketBaseUnits
  let escrowAddress ← toOptionStr? escrowAddress
  let withdrawalPolicy ← orDefault asStr? "" withdrawalPolicy
  let payoutPolicy ← orDefault asStr? "" payoutPolicy
  let prizeAsset ← orDefault asStr? "" prizeAsset
  let prizeBaseUnits ← orDefault asStr? "" prizeBaseUnits
  let usdcAddress ← toOptionStr? usdcAddress
  let ticketMicroUsdc ← ticketMicroUsdc.toU64?
  let participantCap ← participantCap.toU32?
  let prizeBps ← prizeBps.toU16?
  let protocolBps ← protocolBps.toU16?
  let winnerBps ← winnersOf? winnerBps
  return {
    enabled, asset, chainId, tokenAddress, ticketBaseUnits, escrowAddress, withdrawalPolicy,
    payoutPolicy, prizeAsset, prizeBaseUnits, usdcAddress, ticketMicroUsdc, participantCap,
    prizeBps, protocolBps, winnerBps }

theorem ofJson?_sortJson_toJson (ticket : TicketConfigV1) :
    ofJson? (sortJson ticket.toJson) = some ticket := by
  have winners : winnersOf? (sortJson (.array [
      ofU64 ticket.winnerBps.1.toUInt64,
      ofU64 ticket.winnerBps.2.1.toUInt64,
      ofU64 ticket.winnerBps.2.2.toUInt64])) = some ticket.winnerBps := by
    simp only [sortJson, sortValues, sortJson_ofU64, winnersOf?, toU16?_ofU64, Option.bind_eq_bind,
      Option.bind_some]
    rfl
  have optional : ∀ text, toOptionStr? (some (sortJson (ofOptionStr text))) = some text := by
    intro text
    rw [sortJson_ofOptionStr, toOptionStr?_ofOptionStr]
  refine bind_of_some (structFields?_sortJson rfl (by decide)) ?_
  exact bind_of_some rfl (bind_of_some rfl (bind_of_some rfl (bind_of_some (optional _)
    (bind_of_some rfl (bind_of_some (optional _) (bind_of_some rfl (bind_of_some rfl
    (bind_of_some rfl (bind_of_some rfl (bind_of_some (optional _) (bind_of_some rfl
    (bind_of_some (toU32?_ofU64 _) (bind_of_some (toU16?_ofU64 _)
    (bind_of_some (toU16?_ofU64 _) (bind_of_some winners rfl)))))))))))))))

end TicketConfigV1

/-! ## The typed manifest -/

namespace ArenaManifestV1

def defaultStartingCapitalMicroUsdc : UInt64 := 1000000000

/-- The fields of a manifest, with the texts of its times. -/
def fields (manifest : ArenaManifestV1) (startsAt endsAt : String) : List (String × Json) := [
  ("protocol", .string manifest.protocol),
  ("arena_id", .string manifest.arenaId.hyphenated),
  ("manifest_version", ofU64 manifest.manifestVersion.toUInt64),
  ("mode", .string manifest.mode.toText),
  ("starts_at", .string startsAt),
  ("ends_at", .string endsAt),
  ("decision_interval_seconds", ofU64 manifest.decisionIntervalSeconds.toUInt64),
  ("symbols", ofStrings manifest.symbols),
  ("eligible_models", ofStrings manifest.eligibleModels),
  ("dataset_sha256", ofOptionStr manifest.datasetSha256),
  ("required_client_version", .string manifest.requiredClientVersion),
  ("starting_capital_micro_usdc", ofU64 manifest.startingCapitalMicroUsdc),
  ("risk_rules", manifest.riskRules.toJson),
  ("execution", manifest.execution.toJson),
  ("scoring", manifest.scoring.toJson),
  ("penalties", manifest.penalties.toJson),
  ("ticket", manifest.ticket.toJson)]

/-- What a manifest is serialised as, where its times have texts. -/
def toJson (prims : Primitives) (manifest : ArenaManifestV1) : Option Json := do
  let startsAt ← prims.rfc3339 manifest.startsAt
  let endsAt ← prims.rfc3339 manifest.endsAt
  return .object (manifest.fields startsAt endsAt)

/-- `serde_json::from_value` of a manifest. -/
def ofJson? (prims : WirePrimitives) (json : Json) : Option ArenaManifestV1 := do
  let [some protocol, some arenaId, some manifestVersion, some mode, some startsAt, some endsAt,
      some decisionIntervalSeconds, some symbols, some eligibleModels, datasetSha256,
      some requiredClientVersion, startingCapitalMicroUsdc, some riskRules, some execution,
      some scoring, some penalties, some ticket] ←
    json.structFields? ["protocol", "arena_id", "manifest_version", "mode", "starts_at", "ends_at",
      "decision_interval_seconds", "symbols", "eligible_models", "dataset_sha256",
      "required_client_version", "starting_capital_micro_usdc", "risk_rules", "execution",
      "scoring", "penalties", "ticket"] | none
  let protocol ← protocol.asStr?
  let arenaId ← arenaId.asStr?.bind prims.parseUuid
  let manifestVersion ← manifestVersion.toU32?
  let mode ← mode.unitVariant?.bind ArenaMode.ofText?
  let startsAt ← startsAt.asStr?.bind prims.parseRfc3339
  let endsAt ← endsAt.asStr?.bind prims.parseRfc3339
  let decisionIntervalSeconds ← decisionIntervalSeconds.toU32?
  let symbols ← symbols.toStrings?
  let eligibleModels ← eligibleModels.toStrings?
  let datasetSha256 ← toOptionStr? datasetSha256
  let requiredClientVersion ← requiredClientVersion.asStr?
  let startingCapitalMicroUsdc ←
    orDefault toU64? defaultStartingCapitalMicroUsdc startingCapitalMicroUsdc
  let riskRules ← RiskRulesV1.ofJson? riskRules
  let execution ← ExecutionAssumptionsV1.ofJson? execution
  let scoring ← ScoringWeightsV1.ofJson? scoring
  let penalties ← PenaltyRulesV1.ofJson? penalties
  let ticket ← TicketConfigV1.ofJson? ticket
  return {
    protocol, arenaId, manifestVersion, mode, startsAt, endsAt, decisionIntervalSeconds, symbols,
    eligibleModels, datasetSha256, requiredClientVersion, startingCapitalMicroUsdc, riskRules,
    execution, scoring, penalties, ticket }

theorem toJson_eq_some {prims : Primitives} {manifest : ArenaManifestV1} {json : Json} :
    manifest.toJson prims = some json ↔ ∃ startsAt, prims.rfc3339 manifest.startsAt = some startsAt ∧
      ∃ endsAt, prims.rfc3339 manifest.endsAt = some endsAt ∧
        json = .object (manifest.fields startsAt endsAt) := by
  simp only [toJson, Option.bind_eq_bind, Option.bind_eq_some_iff, Option.pure_def,
    Option.some.injEq, @eq_comm _ _ json]

/-- **A manifest is read back from what it is serialised as.** -/
theorem ofJson?_sortJson_toJson {prims : WirePrimitives} (trips : prims.RoundTrips)
    {manifest : ArenaManifestV1} {json : Json}
    (written : manifest.toJson prims.toPrimitives = some json) :
    ofJson? prims (sortJson json) = some manifest := by
  obtain ⟨startsAt, isStart, endsAt, isEnd, rfl⟩ := toJson_eq_some.mp written
  have strings : ∀ texts, toStrings? (sortJson (ofStrings texts)) = some texts := by
    intro texts
    rw [sortJson_ofStrings, toStrings?_ofStrings]
  have optional : ∀ text, toOptionStr? (some (sortJson (ofOptionStr text))) = some text := by
    intro text
    rw [sortJson_ofOptionStr, toOptionStr?_ofOptionStr]
  refine bind_of_some (structFields?_sortJson rfl (by decide)) ?_
  refine bind_of_some rfl (bind_of_some (trips.uuid _) (bind_of_some (toU32?_ofU64 _)
    (bind_of_some (ArenaMode.ofText?_toText _) (bind_of_some (trips.time _ _ isStart)
    (bind_of_some (trips.time _ _ isEnd) (bind_of_some (toU32?_ofU64 _)
    (bind_of_some (strings _) (bind_of_some (strings _) (bind_of_some (optional _)
    (bind_of_some rfl (bind_of_some rfl ?_)))))))))))
  exact bind_of_some (RiskRulesV1.ofJson?_sortJson_toJson _)
    (bind_of_some (ExecutionAssumptionsV1.ofJson?_sortJson_toJson _)
    (bind_of_some (ScoringWeightsV1.ofJson?_sortJson_toJson _)
    (bind_of_some (PenaltyRulesV1.ofJson?_sortJson_toJson _)
    (bind_of_some (TicketConfigV1.ofJson?_sortJson_toJson _) rfl))))

/-- The times of a manifest that was read have texts again. -/
theorem toJson_of_ofJson? {prims : WirePrimitives} (trips : prims.RoundTrips)
    {manifest : ArenaManifestV1} {json : Json} (read : ofJson? prims json = some manifest) :
    ∃ written, manifest.toJson prims.toPrimitives = some written := by
  rw [ofJson?, Option.bind_eq_bind, Option.bind_eq_some_iff] at read
  obtain ⟨fields, -, read⟩ := read
  split at read
  · obtain ⟨_, -, read⟩ := Option.bind_eq_some_iff.mp read
    obtain ⟨_, -, read⟩ := Option.bind_eq_some_iff.mp read
    obtain ⟨_, -, read⟩ := Option.bind_eq_some_iff.mp read
    obtain ⟨_, -, read⟩ := Option.bind_eq_some_iff.mp read
    obtain ⟨startsAt, startRead, read⟩ := Option.bind_eq_some_iff.mp read
    obtain ⟨endsAt, endRead, read⟩ := Option.bind_eq_some_iff.mp read
    obtain ⟨_, -, read⟩ := Option.bind_eq_some_iff.mp read
    obtain ⟨_, -, read⟩ := Option.bind_eq_some_iff.mp read
    obtain ⟨_, -, read⟩ := Option.bind_eq_some_iff.mp read
    obtain ⟨_, -, read⟩ := Option.bind_eq_some_iff.mp read
    obtain ⟨_, -, read⟩ := Option.bind_eq_some_iff.mp read
    obtain ⟨_, -, read⟩ := Option.bind_eq_some_iff.mp read
    obtain ⟨_, -, read⟩ := Option.bind_eq_some_iff.mp read
    obtain ⟨_, -, read⟩ := Option.bind_eq_some_iff.mp read
    obtain ⟨_, -, read⟩ := Option.bind_eq_some_iff.mp read
    obtain ⟨_, -, read⟩ := Option.bind_eq_some_iff.mp read
    obtain ⟨_, -, read⟩ := Option.bind_eq_some_iff.mp read
    obtain rfl := Option.some.inj read
    obtain ⟨text, -, isStart⟩ := Option.bind_eq_some_iff.mp startRead
    obtain ⟨text', -, isEnd⟩ := Option.bind_eq_some_iff.mp endRead
    obtain ⟨start, isText⟩ := Option.isSome_iff_exists.mp (trips.written _ _ isStart)
    obtain ⟨stop, isText'⟩ := Option.isSome_iff_exists.mp (trips.written _ _ isEnd)
    exact ⟨_, toJson_eq_some.mpr ⟨start, isText, stop, isText', rfl⟩⟩
  · cases read

/-- Two manifests are equal as the program compares them: times by their instants. -/
def same (a b : ArenaManifestV1) : Bool :=
  { a with startsAt := b.startsAt, endsAt := b.endsAt } = b &&
    a.startsAt.unixNanoseconds = b.startsAt.unixNanoseconds &&
    a.endsAt.unixNanoseconds = b.endsAt.unixNanoseconds

theorem same_refl (manifest : ArenaManifestV1) : manifest.same manifest := by
  simp [same]

end ArenaManifestV1

/-! ## Signing and verifying -/

namespace SignedArenaManifestV1

variable (build : Build) (prims : WirePrimitives)

/-- The JSON that the digest is taken of: the one the manifest carries, which has to read as the
typed manifest, or what the typed manifest is serialised as. -/
def coveredJson (signed : SignedArenaManifestV1) : Exec ProtocolError Json :=
  match signed.signedManifest with
  | some value => do
    let typedManifest ← okOr (ArenaManifestV1.ofJson? prims value) .canonicalJson
    rejectIf (!typedManifest.same signed.manifest) .invalidEventHash
    return value
  | none => okOr (signed.manifest.toJson prims.toPrimitives) .canonicalJson

def verify (signed : SignedArenaManifestV1) : Exec ProtocolError Unit := do
  signed.manifest.validateIn build
  let covered ← signed.coveredJson prims
  let digest := prims.sha256 (canonicalJson prims.toPrimitives covered)
  rejectIf (Hex.encode digest.val ≠ signed.manifestSha256) .invalidEventHash
  liftResult
    (verifySignature prims.toPrimitives signed.signerPublicKey signed.signature digest.val)

def sign (manifest : ArenaManifestV1) (signingKey : FixedBytes 32) :
    Exec ProtocolError SignedArenaManifestV1 := do
  manifest.validateIn build
  let value ← okOr (manifest.toJson prims.toPrimitives) .canonicalJson
  let digest := prims.sha256 (canonicalJson prims.toPrimitives value)
  return {
    manifest
    manifestSha256 := Hex.encode digest.val
    signerPublicKey := prims.base64Encode (prims.verifyingKey signingKey).val
    signature := prims.base64Encode (prims.sign signingKey digest.val).val
    signedManifest := none }

def fromSignedValue (manifest : Json) (manifestSha256 signerPublicKey signature : String) :
    Exec ProtocolError SignedArenaManifestV1 := do
  let typedManifest ← okOr (ArenaManifestV1.ofJson? prims manifest) .canonicalJson
  let signed : SignedArenaManifestV1 := {
    manifest := typedManifest
    manifestSha256
    signerPublicKey
    signature
    signedManifest := some manifest }
  signed.verify build prims
  return signed

/-! ## The document -/

/-- What a signed manifest is serialised as; JSON it does not carry is left out. -/
def toJson (signed : SignedArenaManifestV1) : Option Json := do
  let manifest ← signed.manifest.toJson prims.toPrimitives
  let signedManifest := signed.signedManifest.map fun value => ("signed_manifest", value)
  return .object ([
    ("manifest", manifest),
    ("manifest_sha256", .string signed.manifestSha256),
    ("signer_public_key", .string signed.signerPublicKey),
    ("signature", .string signed.signature)] ++ signedManifest.toList)

/-- The fields of a signed manifest; a list of them may leave the last one out. -/
def fieldsOf? : Json → Option (List (Option Json))
  | .array [manifest, manifestSha256, signerPublicKey, signature] =>
    some [some manifest, some manifestSha256, some signerPublicKey, some signature, none]
  | json => json.structFields?
    ["manifest", "manifest_sha256", "signer_public_key", "signature", "signed_manifest"]

def signedManifestOf : Option Json → Option Json
  | none | some .null => none
  | some value => some value

def ofJson? (json : Json) : Option SignedArenaManifestV1 := do
  let [some manifest, some manifestSha256, some signerPublicKey, some signature,
      signedManifest] ← fieldsOf? json | none
  let manifest ← ArenaManifestV1.ofJson? prims manifest
  let manifestSha256 ← manifestSha256.asStr?
  let signerPublicKey ← signerPublicKey.asStr?
  let signature ← signature.asStr?
  return {
    manifest, manifestSha256, signerPublicKey, signature
    signedManifest := signedManifestOf signedManifest }

/-- `serde_json::from_slice` of a signed manifest. -/
def readDocument (document : Bytes) : Option SignedArenaManifestV1 :=
  (prims.parseJson document).bind (ofJson? prims)

/-- The ways a signed manifest is made; the JSON that comes in has ordered maps for its objects. -/
inductive Made : SignedArenaManifestV1 → Prop
  | sign {manifest : ArenaManifestV1} {signingKey : FixedBytes 32} {signed : SignedArenaManifestV1}
      (made : sign build prims manifest signingKey = .ok signed) : Made signed
  | fromSignedValue {value : Json} {manifestSha256 signerPublicKey signature : String}
      {signed : SignedArenaManifestV1} (ordered : value.KeySorted)
      (made : fromSignedValue build prims value manifestSha256 signerPublicKey signature =
        .ok signed) : Made signed
  | read {json : Json} {signed : SignedArenaManifestV1} (ordered : json.KeySorted)
      (made : ofJson? prims json = some signed) : Made signed

/-- The reader of JSON gives back what is written of a signed manifest, as ordered maps: its
document, and the JSON under its digest. -/
structure ReadsBack (signed : SignedArenaManifestV1) : Prop where
  document : ∀ json, signed.toJson prims = some json →
    prims.parseJson (prims.jsonBytes json) = some (sortJson json)
  covered : ∀ json, signed.coveredJson prims = .ok json →
    prims.parseJson (canonicalJson prims.toPrimitives json) = some (sortJson json)

variable {build : Build} {prims : WirePrimitives} {signed : SignedArenaManifestV1}

theorem toJson_eq_some {json : Json} :
    signed.toJson prims = some json ↔
      ∃ manifest, signed.manifest.toJson prims.toPrimitives = some manifest ∧
        json = .object ([
          ("manifest", manifest),
          ("manifest_sha256", .string signed.manifestSha256),
          ("signer_public_key", .string signed.signerPublicKey),
          ("signature", .string signed.signature)] ++
            (signed.signedManifest.map fun value => ("signed_manifest", value)).toList) := by
  simp only [toJson, Option.bind_eq_bind, Option.bind_eq_some_iff, Option.pure_def,
    Option.some.injEq, @eq_comm _ _ json]

theorem verify_eq_ok :
    signed.verify build prims = .ok () ↔
      signed.manifest.validateIn build = .ok () ∧
        ∃ covered, signed.coveredJson prims = .ok covered ∧
          Hex.encode (prims.sha256 (canonicalJson prims.toPrimitives covered)).val =
            signed.manifestSha256 ∧
          verifySignature prims.toPrimitives signed.signerPublicKey signed.signature
            (prims.sha256 (canonicalJson prims.toPrimitives covered)).val = .ok () := by
  simp only [verify, bind_eq_ok, rejectIf_eq_ok, not_not, liftResult_eq_ok, exists_const]
  constructor
  · rintro ⟨⟨⟩, valid, covered, isCovered, hash, signature⟩
    exact ⟨valid, covered, isCovered, hash, signature⟩
  · rintro ⟨valid, covered, isCovered, hash, signature⟩
    exact ⟨⟨⟩, valid, covered, isCovered, hash, signature⟩

/-- The JSON that the digest of an accepted manifest is taken of. -/
theorem coveredJson_eq_ok {covered : Json} :
    signed.coveredJson prims = .ok covered ↔
      (signed.signedManifest = some covered ∧ ∃ typedManifest,
        ArenaManifestV1.ofJson? prims covered = some typedManifest ∧
          typedManifest.same signed.manifest) ∨
      (signed.signedManifest = none ∧
        signed.manifest.toJson prims.toPrimitives = some covered) := by
  unfold coveredJson
  cases signed.signedManifest with
  | none => simp
  | some value =>
    simp only [bind_eq_ok, okOr_eq_ok, rejectIf_eq_ok, Bool.not_eq_true', Bool.not_eq_false,
      exists_const, pure, Except.pure, Except.ok.injEq, Option.some.injEq, reduceCtorEq, false_and,
      or_false]
    constructor
    · rintro ⟨typedManifest, read, same, rfl⟩
      exact ⟨rfl, typedManifest, read, same⟩
    · rintro ⟨rfl, typedManifest, read, same⟩
      exact ⟨typedManifest, read, same, rfl⟩

theorem keySorted_of_fieldsOf? {json value : Json} {fields : List (Option Json)}
    (ordered : json.KeySorted) (read : fieldsOf? json = some fields) (mem : some value ∈ fields) :
    value.KeySorted := by
  unfold fieldsOf? at read
  split at read
  · obtain rfl := Option.some.inj read
    cases ordered with
    | array elements => exact elements value (by simpa using mem)
  · exact ordered.of_structFields? read mem

/-- Whichever way a signed manifest was made, its times have texts and the JSON it carries is
ordered. -/
theorem Made.writable (trips : prims.RoundTrips) (made : Made build prims signed) :
    (∃ json, signed.manifest.toJson prims.toPrimitives = some json) ∧
      ∀ value, signed.signedManifest = some value → value.KeySorted := by
  cases made with
  | sign made =>
    simp only [SignedArenaManifestV1.sign, bind_eq_ok, okOr_eq_ok, pure, Except.pure,
      Except.ok.injEq] at made
    obtain ⟨⟨⟩, -, json, written, rfl⟩ := made
    exact ⟨⟨json, written⟩, fun value same => by cases same⟩
  | fromSignedValue ordered made =>
    simp only [SignedArenaManifestV1.fromSignedValue, bind_eq_ok, okOr_eq_ok, pure, Except.pure,
      Except.ok.injEq] at made
    obtain ⟨typedManifest, read, ⟨⟩, -, rfl⟩ := made
    exact ⟨ArenaManifestV1.toJson_of_ofJson? trips read,
      fun value same => Option.some.inj same ▸ ordered⟩
  | read ordered made =>
    rw [ofJson?, Option.bind_eq_bind, Option.bind_eq_some_iff] at made
    obtain ⟨fields, isFields, made⟩ := made
    split at made
    · rename_i manifest manifestSha256 signerPublicKey signature signedManifest
      simp only [Option.bind_eq_bind, Option.bind_eq_some_iff, Option.pure_def,
        Option.some.injEq] at made
      obtain ⟨typedManifest, read, -, -, -, -, -, -, rfl⟩ := made
      refine ⟨ArenaManifestV1.toJson_of_ofJson? trips read, fun value same => ?_⟩
      have given : signedManifest = some value := by
        cases signedManifest with
        | none => cases same
        | some given =>
          cases given with
          | null => cases same
          | _ => exact same
      exact keySorted_of_fieldsOf? ordered isFields (by simp [given])
    · cases made

/-- The fields of a document without and with JSON that the manifest carries. -/
theorem fieldsOf?_sortJson_base {manifest : Json} {manifestSha256 signerPublicKey signature : String} :
    fieldsOf? (sortJson (.object [
      ("manifest", manifest),
      ("manifest_sha256", .string manifestSha256),
      ("signer_public_key", .string signerPublicKey),
      ("signature", .string signature)])) =
    some [some (sortJson manifest), some (.string manifestSha256),
      some (.string signerPublicKey), some (.string signature), none] := by
  exact @structFields?_sortJson_missing _
    ["manifest", "manifest_sha256", "signer_public_key", "signature"] "signed_manifest" rfl
    (by decide) (by decide)

theorem fieldsOf?_sortJson_carried {manifest value : Json}
    {manifestSha256 signerPublicKey signature : String} :
    fieldsOf? (sortJson (.object [
      ("manifest", manifest),
      ("manifest_sha256", .string manifestSha256),
      ("signer_public_key", .string signerPublicKey),
      ("signature", .string signature),
      ("signed_manifest", value)])) =
    some [some (sortJson manifest), some (.string manifestSha256),
      some (.string signerPublicKey), some (.string signature), some (sortJson value)] := by
  exact @structFields?_sortJson _
    ["manifest", "manifest_sha256", "signer_public_key", "signature", "signed_manifest"] rfl
    (by decide)

/-- **An accepted manifest is read back from its document.** -/
theorem ofJson?_sortJson_toJson (trips : prims.RoundTrips)
    (ordered : ∀ value, signed.signedManifest = some value → value.KeySorted)
    (accepted : signed.verify build prims = .ok ()) {json : Json}
    (written : signed.toJson prims = some json) :
    ofJson? prims (sortJson json) = some signed := by
  obtain ⟨manifest, isManifest, rfl⟩ := toJson_eq_some.mp written
  have read := ArenaManifestV1.ofJson?_sortJson_toJson trips isManifest
  obtain ⟨typed, manifestSha256, signerPublicKey, signature, carried⟩ := signed
  cases carried with
  | none =>
    change ofJson? prims (sortJson (.object [
      ("manifest", manifest),
      ("manifest_sha256", .string manifestSha256),
      ("signer_public_key", .string signerPublicKey),
      ("signature", .string signature)])) = _
    rw [ofJson?, fieldsOf?_sortJson_base]
    simp only [Option.bind_eq_bind, Option.bind_some, read]
    rfl
  | some value =>
    change ofJson? prims (sortJson (.object [
      ("manifest", manifest),
      ("manifest_sha256", .string manifestSha256),
      ("signer_public_key", .string signerPublicKey),
      ("signature", .string signature),
      ("signed_manifest", value)])) = _
    rw [ofJson?, fieldsOf?_sortJson_carried, sortJson_of_keySorted (ordered value rfl)]
    simp only [Option.bind_eq_bind, Option.bind_some, read]
    obtain ⟨-, covered, isCovered, -⟩ := verify_eq_ok.mp accepted
    rcases coveredJson_eq_ok.mp isCovered with ⟨same, typedManifest, isTyped, -⟩ | ⟨none, -⟩
    · obtain rfl := Option.some.inj same
      cases value with
      | null => cases isTyped
      | _ => rfl
    · cases none

/-- **The executed manifest is the signed one.**  Whichever way a manifest was made, when it is
accepted its document reads back as an accepted manifest with the same terms, and its terms are what
the JSON under its digest and its signature reads as. -/
theorem reads_of_verify (trips : prims.RoundTrips) (made : Made build prims signed)
    (accepted : signed.verify build prims = .ok ()) (reads : signed.ReadsBack prims) :
    (∃ json back, signed.toJson prims = some json ∧
      readDocument prims (prims.jsonBytes json) = some back ∧
      back.verify build prims = .ok () ∧ back.manifest = signed.manifest) ∧
    ∃ covered typedManifest,
      Hex.encode (prims.sha256 covered).val = signed.manifestSha256 ∧
      verifySignature prims.toPrimitives signed.signerPublicKey signed.signature
        (prims.sha256 covered).val = .ok () ∧
      (prims.parseJson covered).bind (ArenaManifestV1.ofJson? prims) = some typedManifest ∧
      typedManifest.same signed.manifest := by
  obtain ⟨⟨manifest, isManifest⟩, ordered⟩ := made.writable trips
  constructor
  · obtain ⟨json, written⟩ : ∃ json, signed.toJson prims = some json :=
      ⟨_, toJson_eq_some.mpr ⟨manifest, isManifest, rfl⟩⟩
    refine ⟨json, signed, written, ?_, accepted, rfl⟩
    rw [readDocument, reads.document json written, Option.bind_some,
      ofJson?_sortJson_toJson trips ordered accepted written]
  · obtain ⟨-, covered, isCovered, hash, signature⟩ := verify_eq_ok.mp accepted
    have parsed := reads.covered covered isCovered
    rcases coveredJson_eq_ok.mp isCovered with
      ⟨carried, typedManifest, read, same⟩ | ⟨-, written⟩
    · refine ⟨_, typedManifest, hash, signature, ?_, same⟩
      rw [parsed, Option.bind_some, sortJson_of_keySorted (ordered covered carried), read]
    · refine ⟨_, signed.manifest, hash, signature, ?_, ArenaManifestV1.same_refl _⟩
      rw [parsed, Option.bind_some, ArenaManifestV1.ofJson?_sortJson_toJson trips written]

end SignedArenaManifestV1

/-! ### A manifest with an operator's timestamps -/

def operatorManifest : ArenaManifestV1 where
  arenaId := ⟨.ofNat 16 0⟩
  manifestVersion := 1
  mode := .historicalBacktest
  startsAt := ⟨1782864000000000000, 0⟩
  endsAt := ⟨1782950400000000000, 0⟩
  eligibleModels := ["crow-qwen3-5-27b"]
  datasetSha256 := some "aaaaaaaaaaaaaaaaaaaaaaaaaaaaaaaaaaaaaaaaaaaaaaaaaaaaaaaaaaaaaaaa"
  requiredClientVersion := "0.1.0"
  startingCapitalMicroUsdc := 1000000000
  riskRules := .default
  execution := { halfSpreadBps := 2, slippageBps := 3, takerFeeBps := 5 }
  ticket := { enabled := false, asset := "" }

/-- The operator wrote milliseconds and a note. -/
def operatorValue : Json := sortJson (.object
  (operatorManifest.fields "2026-07-01T00:00:00.000Z" "2026-07-02T00:00:00.000Z" ++
    [("operator_note", .string "opening arena")]))

def operatorDigest : FixedBytes 32 :=
  .ofNat 32 0xb85ed659d1003d0e429af5498b538dc47562ea3b8b5c6818b8a8952101f1af88

def operatorSignature : FixedBytes 64 :=
  .ofNat 64 (0xd36bc66f58e43e1dd1beefae28cc608c8375f23a4fa08ff63d1fad7422b6079a * 2 ^ 256 +
    0x65bd3ba88911d00d205313705cec8d5a384e502975c08f178a1f9abb4c12a204)

def operatorSignatureText : String :=
  "02vGb1jkPh3Rvu-uKMxgjIN18jpPoI_2PR-tdCK2B5plvTuoiRHQDSBTE3Bc7I1aOE5QKXXAjxeKH5q7TBKiBA"

def operatorTimeText (time : OffsetDateTime) : Option String :=
  if time = operatorManifest.startsAt then some "2026-07-01T00:00:00Z"
  else if time = operatorManifest.endsAt then some "2026-07-02T00:00:00Z"
  else none

def readOperatorTime (text : String) : Option OffsetDateTime :=
  if text = "2026-07-01T00:00:00Z" ∨ text = "2026-07-01T00:00:00.000Z" then
    some operatorManifest.startsAt
  else if text = "2026-07-02T00:00:00Z" ∨ text = "2026-07-02T00:00:00.000Z" then
    some operatorManifest.endsAt
  else none

theorem readOperatorTime_text {time : OffsetDateTime} {text : String}
    (written : operatorTimeText time = some text) : readOperatorTime text = some time := by
  unfold operatorTimeText at written
  split_ifs at written with start stop
  · obtain rfl := Option.some.inj written
    rw [readOperatorTime, if_pos (.inl rfl), start]
  · obtain rfl := Option.some.inj written
    rw [readOperatorTime, if_neg (by decide), if_pos (.inl rfl), stop]

theorem operatorTimeText_read {text : String} {time : OffsetDateTime}
    (read : readOperatorTime text = some time) : (operatorTimeText time).isSome := by
  unfold readOperatorTime at read
  split_ifs at read with start stop
  · obtain rfl := Option.some.inj read
    rw [operatorTimeText, if_pos rfl]
    rfl
  · obtain rfl := Option.some.inj read
    rw [operatorTimeText, if_neg (by decide), if_pos rfl]
    rfl

/-- The digest, the key and the signature of the JSON, and the texts of its times. -/
def operatorTexts : Primitives :=
  { samplePrimitives with
    sha256 := fun _ => operatorDigest
    rfc3339 := operatorTimeText
    parseUuid := readUuid
    base64Decode := fun text =>
      if text = sampleKeyText then some sampleKey.val
      else if text = operatorSignatureText then some operatorSignature.val
      else none
    verifies := fun key digest signature =>
      key = sampleKey && digest = operatorDigest.val && signature = operatorSignature }

def operatorSigned : SignedArenaManifestV1 where
  manifest := operatorManifest
  manifestSha256 := "b85ed659d1003d0e429af5498b538dc47562ea3b8b5c6818b8a8952101f1af88"
  signerPublicKey := sampleKeyText
  signature := operatorSignatureText
  signedManifest := some operatorValue

/-- The document begins with the typed manifest, the JSON under the digest with the arena. -/
def operatorPrimitives : WirePrimitives where
  toPrimitives := { operatorTexts with
    parseJson := fun bytes =>
      if bytes[2]? = some 109 then
        (operatorSigned.toJson ⟨operatorTexts, readOperatorTime⟩).map sortJson
      else some operatorValue }
  parseRfc3339 := readOperatorTime

theorem operatorPrimitives_roundTrips : operatorPrimitives.RoundTrips where
  uuid := fun id => by
    rw [show operatorPrimitives.parseUuid = readUuid from rfl, readUuid_hyphenated]
  time := fun time text written => by
    rw [show operatorPrimitives.rfc3339 = operatorTimeText from rfl] at written
    rw [show operatorPrimitives.parseRfc3339 = readOperatorTime from rfl,
      readOperatorTime_text written]
  written := fun text time read => by
    rw [show operatorPrimitives.parseRfc3339 = readOperatorTime from rfl] at read
    rw [show operatorPrimitives.rfc3339 = operatorTimeText from rfl]
    exact operatorTimeText_read read

/-- The third byte of an object is the first one of its first key. -/
theorem jsonBytes_object_getElem? (prims : Primitives) {key : String} {c : Char} {cs : List Char}
    {byte : UInt8} (value : Json) (rest : List (String × Json)) (text : key.toList = c :: cs)
    (plain : escapeChar c = [c]) (front : utf8 (String.ofList ['\x7b', '"', c]) = [123, 34, byte]) :
    (prims.jsonBytes (.object ((key, value) :: rest)))[2]? = some byte := by
  rw [Primitives.jsonBytes, compact, compactFields_cons, quoted, text, List.flatMap_cons, plain]
  simp only [List.append_assoc]
  have split : ∀ back, utf8 (String.ofList (['\x7b'] ++ (['"'] ++ ([c] ++ back)))) =
      [123, 34, byte] ++ utf8 (String.ofList back) := by
    intro back
    rw [← front, ← utf8_append]
    rfl
  rw [split]
  rfl

/-- The fields of the operator's manifest in the order of their names. -/
def operatorFields : List (String × Json) :=
  sortFields (operatorManifest.fields "2026-07-01T00:00:00.000Z" "2026-07-02T00:00:00.000Z" ++
    [("operator_note", .string "opening arena")]) []

theorem operatorValue_eq : ∃ value rest, operatorValue = .object (("arena_id", value) :: rest) := by
  have first : operatorFields.head?.map Prod.fst = some "arena_id" := by decide
  obtain ⟨⟨key, value⟩, head, isFirst⟩ := Option.map_eq_some_iff.mp first
  obtain ⟨rest, fields⟩ := List.head?_eq_some_iff.mp head
  obtain rfl : key = "arena_id" := isFirst
  refine ⟨value, rest, ?_⟩
  rw [← fields, operatorFields, operatorValue, sortJson]

theorem operatorSigned_read :
    ArenaManifestV1.ofJson? operatorPrimitives operatorValue = some operatorManifest := by
  decide

theorem operatorSigned_verify : operatorSigned.verify .checked operatorPrimitives = .ok () := by
  decide

theorem operatorSigned_made :
    SignedArenaManifestV1.fromSignedValue .checked operatorPrimitives operatorValue
      operatorSigned.manifestSha256 sampleKeyText operatorSignatureText = .ok operatorSigned := by
  rw [SignedArenaManifestV1.fromSignedValue, bind_eq_ok]
  refine ⟨operatorManifest, okOr_eq_ok.mpr operatorSigned_read, ?_⟩
  rw [bind_eq_ok]
  exact ⟨⟨⟩, operatorSigned_verify, rfl⟩

theorem operatorPrimitives_parseJson (bytes : Bytes) :
    operatorPrimitives.parseJson bytes =
      if bytes[2]? = some 109 then
        (operatorSigned.toJson ⟨operatorTexts, readOperatorTime⟩).map sortJson
      else some operatorValue := rfl

theorem operatorSigned_readsBack : operatorSigned.ReadsBack operatorPrimitives where
  document := by
    intro json written
    have document : operatorSigned.toJson ⟨operatorTexts, readOperatorTime⟩ = some json := written
    obtain ⟨manifest, -, rfl⟩ := SignedArenaManifestV1.toJson_eq_some.mp written
    have first := @jsonBytes_object_getElem? operatorPrimitives.toPrimitives "manifest" 'm'
      "anifest".toList 109 manifest
      ([("manifest_sha256", .string operatorSigned.manifestSha256),
        ("signer_public_key", .string operatorSigned.signerPublicKey),
        ("signature", .string operatorSigned.signature)] ++
          (operatorSigned.signedManifest.map fun value => ("signed_manifest", value)).toList)
      rfl (by decide) (by decide)
    rw [operatorPrimitives_parseJson]
    exact (if_pos first).trans (by rw [document, Option.map_some])
  covered := by
    intro json covered
    have sorted : sortJson operatorValue = operatorValue :=
      sortJson_of_keySorted (keySorted_sortJson _)
    rcases SignedArenaManifestV1.coveredJson_eq_ok.mp covered with ⟨carried, -⟩ | ⟨none, -⟩
    · obtain rfl : operatorValue = json := Option.some.inj carried
      obtain ⟨value, rest, fields⟩ := operatorValue_eq
      have first := @jsonBytes_object_getElem? operatorPrimitives.toPrimitives "arena_id" 'a'
        "rena_id".toList 97 value rest rfl (by decide) (by decide)
      rw [← fields] at first
      rw [operatorPrimitives_parseJson, canonicalJson, sorted, if_neg]
      rw [first]
      decide
    · cases none

/-- The file of an operator's manifest, with milliseconds and a note, reads back as the manifest. -/
theorem reads_of_verify_operatorSigned :
    (∃ json back, operatorSigned.toJson operatorPrimitives = some json ∧
      SignedArenaManifestV1.readDocument operatorPrimitives
        (operatorPrimitives.jsonBytes json) = some back ∧
      back.verify .checked operatorPrimitives = .ok () ∧
      back.manifest = operatorManifest) ∧
    ∃ covered typedManifest,
      Hex.encode (operatorPrimitives.sha256 covered).val = operatorSigned.manifestSha256 ∧
      verifySignature operatorPrimitives.toPrimitives operatorSigned.signerPublicKey
        operatorSigned.signature (operatorPrimitives.sha256 covered).val = .ok () ∧
      (operatorPrimitives.parseJson covered).bind (ArenaManifestV1.ofJson? operatorPrimitives) =
        some typedManifest ∧
      typedManifest.same operatorManifest :=
  SignedArenaManifestV1.reads_of_verify operatorPrimitives_roundTrips
    (.fromSignedValue (keySorted_sortJson _) operatorSigned_made) operatorSigned_verify
    operatorSigned_readsBack

end CrowAgent
