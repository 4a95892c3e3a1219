import CrowAgent.Lib.FixedWidth
import CrowAgent.Protocol.RiskRules

/-!
# Arena manifests

The fields of a signed manifest, and the checks it passes before a daemon or a replay works with it.
-/

namespace CrowAgent

open FixedWidth

inductive ArenaMode : Type
  | historicalBacktest
  | hyperliquidTestnet
  | hyperliquidMainnet
  deriving DecidableEq, Repr

structure PenaltyRulesV1 : Type where
  policyRejectionMillis : UInt32 := 0
  missedCycleMillis : UInt32 := 0
  capMillis : UInt32 := 0
  deriving DecidableEq, Repr

structure ExecutionAssumptionsV1 : Type where
  halfSpreadBps : UInt16
  slippageBps : UInt16
  takerFeeBps : UInt16
  deriving DecidableEq, Repr

structure TicketConfigV1 : Type where
  enabled : Bool
  asset : String
  chainId : UInt64 := 0
  tokenAddress : Option String := none
  ticketBaseUnits : String := ""
  escrowAddress : Option String := none
  withdrawalPolicy : String := ""
  payoutPolicy : String := ""
  prizeAsset : String := ""
  prizeBaseUnits : String := ""
  usdcAddress : Option String := none
  ticketMicroUsdc : UInt64 := 0
  participantCap : UInt32 := 0
  prizeBps : UInt16 := 9000
  protocolBps : UInt16 := 1000
  winnerBps : UInt16 × UInt16 × UInt16 := (5000, 3000, 2000)
  deriving DecidableEq, Repr

structure ScoringWeightsV1 : Type where
  netReturn : UInt8 := 100
  sortino : UInt8 := 0
  inverseDrawdown : UInt8 := 0
  deriving DecidableEq, Repr

structure ArenaManifestV1 : Type where
  protocol : String := harnessProtocolV1
  arenaId : Uuid
  manifestVersion : UInt32
  mode : ArenaMode
  startsAt : OffsetDateTime
  endsAt : OffsetDateTime
  decisionIntervalSeconds : UInt32 := 900
  symbols : List String := allowedSymbols
  eligibleModels : List String
  datasetSha256 : Option String := none
  requiredClientVersion : String
  startingCapitalMicroUsdc : UInt64
  riskRules : RiskRulesV1
  execution : ExecutionAssumptionsV1
  scoring : ScoringWeightsV1 := {}
  penalties : PenaltyRulesV1 := {}
  ticket : TicketConfigV1
  deriving DecidableEq, Repr

structure SignedArenaManifestV1 : Type where
  manifest : ArenaManifestV1
  manifestSha256 : String
  signerPublicKey : String
  signature : String
  /-- The JSON the operator signed, when it is not the one the manifest is written as. -/
  signedManifest : Option Json := none
  deriving Repr

/-! ## Checks -/

def minStartingCapitalMicroUsdc : UInt64 := 500000000

def replacementBetaStartingCapitalMicroUsdc : UInt64 := 100000000

def maxStartingCapitalMicroUsdc : UInt64 := 1000000000000

def minLiveDecisionIntervalSeconds : UInt32 := 60

def allowedModels : List String := ["crow-qwen3-5-27b", "crow-qwen3-5-35b-a3b", "crow-gpt-oss-20b"]

/-- `is_ascii_hexdigit`. -/
def isHexDigit (c : Char) : Bool :=
  ('0' ≤ c && c ≤ '9') || ('a' ≤ c && c ≤ 'f') || ('A' ≤ c && c ≤ 'F')

/-- `is_sha256`. -/
def isSha256 (text : String) : Bool := text.utf8ByteSize = 64 && text.toList.all isHexDigit

/-- `eq_ignore_ascii_case`. -/
def eqIgnoreAsciiCase (a b : String) : Bool := a.toList.map Char.toLower = b.toList.map Char.toLower

/-- `whole_seconds` of the time between two points. -/
def wholeSeconds (start stop : OffsetDateTime) : Int :=
  (stop.unixNanoseconds - start.unixNanoseconds).tdiv (10 ^ 9)

/-- The sum of 16-bit numbers, which traps outside the type. -/
def addU16 {ε : Type} (a b : UInt16) : Exec ε UInt16 :=
  if a.toNat + b.toNat < 2 ^ 16 then .ok (a + b) else .error .trap

/-- How the program was built: with overflow checks, or without, where arithmetic wraps around. -/
inductive Build : Type
  | checked
  | wrapping
  deriving DecidableEq, Repr

/-- The sum of 16-bit numbers in a build. -/
def Build.addU16 {ε : Type} (build : Build) (a b : UInt16) : Exec ε UInt16 :=
  match build with
  | .checked => CrowAgent.addU16 a b
  | .wrapping => .ok (a + b)

namespace ArenaManifestV1

/-- The entry is paid in the token of the beta. -/
def ccEntry (manifest : ArenaManifestV1) : Bool :=
  manifest.ticket.enabled && manifest.ticket.asset = "CC"

def validAddress (address : Option String) : Bool :=
  address.any fun address => address.utf8ByteSize = 42 && "0x".isPrefixOf address &&
    (address.toList.drop 2).all isHexDigit

/-- The ticket of the beta is the one it was announced with. -/
def ccEntryValid (manifest : ArenaManifestV1) : Bool :=
  manifest.mode = .hyperliquidMainnet && manifest.ticket.chainId = 4663
    && manifest.startingCapitalMicroUsdc = replacementBetaStartingCapitalMicroUsdc
    && manifest.ticket.ticketBaseUnits = "250000000000000000000000"
    && manifest.ticket.participantCap = 100
    && manifest.ticket.tokenAddress.any
      (eqIgnoreAsciiCase · "0x859ead0ee2fd39a2804bb27713742577f7be79c1")
    && validAddress manifest.ticket.escrowAddress
    && manifest.ticket.withdrawalPolicy = "owner_anytime"
    && manifest.ticket.payoutPolicy = "manual_owner_payout"
    && manifest.ticket.prizeAsset = "ETH"
    && manifest.ticket.prizeBaseUnits = "1000000000000000000"
    && manifest.ticket.prizeBps = 0 && manifest.ticket.protocolBps = 0
    && manifest.ticket.winnerBps = (0, 0, 0)

/-- The splits of the ticket add up. -/
def splitsValidIn (build : Build) (manifest : ArenaManifestV1) : Exec ProtocolError Bool := do
  let ticket ← build.addU16 manifest.ticket.prizeBps manifest.ticket.protocolBps
  if ticket ≠ 10000 then return false
  else
    let winners := manifest.ticket.winnerBps
    let two ← build.addU16 winners.1 winners.2.1
    let three ← build.addU16 two winners.2.2
    return three = 10000

/-- The splits matter for every ticket but the one of the beta. -/
def splitsAccepted (build : Build) (manifest : ArenaManifestV1) : Exec ProtocolError Bool :=
  if manifest.ccEntry then .ok true else manifest.splitsValidIn build

/-- The interval between two decisions fits the mode of the arena. -/
def cadenceError (manifest : ArenaManifestV1) : Option String :=
  match manifest.mode with
  | .historicalBacktest =>
    if manifest.decisionIntervalSeconds ≠ 900 then
      some "historical arenas require the dataset's 15-minute cadence"
    else none
  | .hyperliquidTestnet | .hyperliquidMainnet =>
    if manifest.decisionIntervalSeconds < minLiveDecisionIntervalSeconds then
      some "live arena cadence must be at least one minute"
    else none

/-- The checks before the splits: protocol, time, cadence, capital, symbols, models and scoring. -/
def validateTerms (manifest : ArenaManifestV1) : Exec ProtocolError Unit := do
  let duration := wholeSeconds manifest.startsAt manifest.endsAt
  rejectIf (manifest.protocol ≠ harnessProtocolV1) (.invalidManifest "unsupported protocol")
  rejectIf (manifest.endsAt.unixNanoseconds ≤ manifest.startsAt.unixNanoseconds)
    (.invalidManifest "arena time window is empty")
  rejectIf (duration ≤ 0 ∨
      duration.tmod (max manifest.decisionIntervalSeconds.toNat 1 : Nat) ≠ 0)
    (.invalidManifest "arena duration must contain a whole number of decision cycles")
  match manifest.cadenceError with
  | some reason => raise (.invalidManifest reason)
  | none => do
    rejectIf
      (¬(manifest.mode = .hyperliquidMainnet ∧ manifest.ccEntry ∧
          manifest.startingCapitalMicroUsdc = replacementBetaStartingCapitalMicroUsdc) ∧
        ¬(minStartingCapitalMicroUsdc ≤ manifest.startingCapitalMicroUsdc ∧
          manifest.startingCapitalMicroUsdc ≤ maxStartingCapitalMicroUsdc))
      (.invalidManifest "starting capital must be between 500 and 1,000,000 USDC")
    rejectIf (manifest.symbols ≠ allowedSymbols)
      (.invalidManifest "v1 symbols must be BTC, ETH, and SOL in canonical order")
    rejectIf (manifest.eligibleModels = [] ∨
        ¬manifest.eligibleModels.all fun model => decide (model ∈ allowedModels))
      (.invalidManifest "eligible model set is invalid")
    rejectIf (manifest.scoring.netReturn.toNat + manifest.scoring.sortino.toNat +
        manifest.scoring.inverseDrawdown.toNat ≠ 100)
      (.invalidManifest "scoring weights must sum to 100")

/-- `ArenaManifestV1::validate` in a build. -/
def validateIn (build : Build) (manifest : ArenaManifestV1) : Exec ProtocolError Unit := do
  manifest.validateTerms
  let splits ← manifest.splitsAccepted build
  rejectIf (!splits)
    (.invalidManifest "ticket and winner splits must each sum to 10000 bps")
  rejectIf (manifest.ccEntry && !manifest.ccEntryValid)
    (.invalidManifest "CC-entry beta ticket configuration is invalid")
  rejectIf (manifest.mode = .historicalBacktest ∧ ¬manifest.datasetSha256.any isSha256)
    (.invalidManifest "historical arenas require a SHA-256 dataset digest")
  match manifest.riskRules.validateCeiling with
  | .ok () => return ()
  | .error error => raise error

/-- `ArenaManifestV1::validate`, where an overflow is a panic. -/
def validate (manifest : ArenaManifestV1) : Exec ProtocolError Unit := manifest.validateIn .checked

/-- A valid manifest runs for a positive whole number of its intervals. -/
theorem duration_of_validate {manifest : ArenaManifestV1} (valid : manifest.validate = .ok ()) :
    0 < wholeSeconds manifest.startsAt manifest.endsAt ∧
      ((max manifest.decisionIntervalSeconds.toNat 1 : Nat) : Int) ∣
        wholeSeconds manifest.startsAt manifest.endsAt := by
  simp only [validate, validateIn, validateTerms, bind_eq_ok, rejectIf_eq_ok, exists_const] at valid
  obtain ⟨⟨⟩, ⟨-, -, duration, -⟩, -⟩ := valid
  rw [not_or, not_not] at duration
  obtain ⟨positive, whole⟩ := duration
  refine ⟨by omega, ?_⟩
  exact Int.dvd_of_tmod_eq_zero whole

end ArenaManifestV1

end CrowAgent
