import BatCave.Contracts.Snapshot
import BatCave.ProcessView.Rows

/-! The health that a publication reports, as the store builds it and as it reads when the
clock has gone on. -/
namespace BatCave.RuntimeStore
open BatCave.Contracts BatCave.ProcessView
open BatCave.RuntimeStore.Warnings (RuntimeWarning)

section Evaluation

/-- The reasons that every evaluation decides anew. -/
def temporalReason : RuntimeHealthReason → Bool
  | .engineFatal | .heartbeatStale | .publicationStale | .sampleStale => true
  | _ => false

def fatalSummary : String := "Sampling engine stopped after a fatal error."

/-- The staleness reasons of a snapshot that is neither fatal, paused nor starting. -/
def staleReasons (snapshot : RuntimeSnapshot) (nowMs : Nat) : List RuntimeHealthReason :=
  let maxAgeMs := max 500 (min snapshot.settings.sampleIntervalMs 5000)*2
  let running := decide (snapshot.health.engineState=some .running)
  (if running && snapshot.health.lastHeartbeatAtMs.all (fun at' => maxAgeMs < nowMs-at') then
      [.heartbeatStale] else [])++
    (if running && maxAgeMs < nowMs-snapshot.publishedAtMs then [.publicationStale] else [])++
    (if snapshot.sampledAtMs.all (fun at' => maxAgeMs < nowMs-at') then [.sampleStale] else [])

/-- `evaluated_health` -/
def evaluatedHealth (snapshot : RuntimeSnapshot) (nowMs : Nat) : RuntimeHealth :=
  let nowMs := max nowMs snapshot.publishedAtMs
  let health := snapshot.health
  let kept := health.reasonCodes.filter (fun reason => !temporalReason reason)
  let evaluated (reasons : List RuntimeHealthReason) (freshness : RuntimeFreshness)
      (summary : String) : RuntimeHealth :=
    { health with
      updatedAtMs := nowMs
      reasonCodes := reasons
      freshness := freshness
      statusSummary := summary
      degraded := !reasons.isEmpty }
  if health.engineState=some .fatal then evaluated (kept++[.engineFatal]) .stale fatalSummary
  else if snapshot.settings.paused ∨ health.engineState=some .paused then
    evaluated kept .paused health.statusSummary
  else if snapshot.sampledAtMs.isNone ∨ health.engineState=some .starting then
    evaluated kept .starting health.statusSummary
  else
    let stale := staleReasons snapshot nowMs
    if stale≠[] then
      evaluated (kept++stale) .stale
        (if .heartbeatStale∈stale then "Sampling engine heartbeat is stale."
          else if .publicationStale∈stale then "Snapshot publication is stale."
          else "Telemetry sample is stale.")
    else if health.collectorState=some .unavailable then
      evaluated kept .stale health.statusSummary
    else evaluated kept .live health.statusSummary

/-- `evaluate_snapshot_health` -/
def evaluateSnapshotHealth (snapshot : RuntimeSnapshot) (nowMs : Nat) : RuntimeSnapshot :=
  { snapshot with health := evaluatedHealth snapshot nowMs }

end Evaluation

section Build

def cadenceDegradedMinRecentMisses : Nat := 3
def appCpuDegradePct : Float := 25.0
def appRssDegradeBytes : Nat := 350*1024*1024

def warningDegradesHealth (category : String) : Bool :=
  category∈["collector","admin_mode","persistence"]

/-- What the store knows about itself. -/
structure HealthState where
  sampleSeq : Nat
  paused : Bool
  adminModeState : RuntimeAdminModeState
  engineState : RuntimeEngineState
  collectorState : Option RuntimeCollectorState
  lastHeartbeatAtMs : Option Nat
  deadlineMisses : Nat
  recentDeadlineMisses : Nat
  deadlineLatenessP95Ms : Float
  collectionLatencyMs : Option Float
  publicationLatencyMs : Option Float
  fatalError : Option RuntimeFatalError
  warnings : List RuntimeWarning
  persistenceState : RuntimePersistenceState

/-- What is measured at the time: the clock, the latency windows and the own process. -/
structure HealthReadings where
  nowMs : Nat
  latencyMs : Nat
  appCpuPercent : Float
  appRssBytes : Nat
  tickP95Ms : Float
  sortP95Ms : Float
  publicationP95Ms : Float

/-- The conditions that `build_health` looks at, each with the reason it gives. -/
def healthReasons (s : HealthState) (r : HealthReadings) : List RuntimeHealthReason :=
  let persistenceWarning := s.warnings.any (fun warning => warning.category=="persistence")
  ([(decide (s.collectorState=some .unavailable),RuntimeHealthReason.collectorUnavailable),
    (decide (s.collectorState=some .limited),.collectorLimited),
    (s.warnings.any (fun warning => warning.category=="collector" ||
      warning.category=="admin_mode"),.collectorWarning),
    (decide (s.persistenceState=.unavailable),.persistenceUnavailable),
    (decide (s.persistenceState=.degraded) ||
      (persistenceWarning && decide (s.persistenceState=.healthy)),.persistenceDegraded),
    (decide (cadenceDegradedMinRecentMisses ≤ s.recentDeadlineMisses),.cadenceMissed),
    (decide (appCpuDegradePct ≤ r.appCpuPercent),.runtimeCpuBudget),
    (decide (appRssDegradeBytes ≤ r.appRssBytes),.runtimeMemoryBudget),
    (decide (s.engineState=.fatal),.engineFatal)].filter Prod.fst).map Prod.snd

def healthSummary (s : HealthState) (r : HealthReadings) : String :=
  let cpuDegraded := decide (appCpuDegradePct ≤ r.appCpuPercent)
  let rssDegraded := decide (appRssDegradeBytes ≤ r.appRssBytes)
  let degrading := s.warnings.countP (fun warning => warningDegradesHealth warning.category)
  if s.engineState=.fatal then fatalSummary
  else if s.paused then "Paused."
  else if s.adminModeState=.requesting then "Waiting for Windows approval."
  else if s.adminModeState=.recovering then
    "Privileged collection is recovering; standard monitoring remains current."
  else if s.collectorState=some .unavailable then
    "Collector unavailable; retaining the last published sample."
  else if s.collectorState=some .limited then "Collecting with limited telemetry quality."
  else if s.persistenceState=.unavailable then
    "Local persistence is unavailable; monitoring continues with session-only state."
  else if s.persistenceState≠.healthy ∨
      s.warnings.any (fun warning => warning.category=="persistence") then
    "Local persistence is degraded; monitoring continues with visible state loss risk."
  else if cadenceDegradedMinRecentMisses ≤ s.recentDeadlineMisses then
    "Sampling missed "++toString s.recentDeadlineMisses++
      " deadline(s) in the current health window."
  else if 0 < degrading then
    toString degrading++" telemetry limitation"++(if degrading=1 then "" else "s")++"."
  else if cpuDegraded && rssDegraded then "Degraded: app CPU and RSS above budget."
  else if cpuDegraded then "Degraded: app CPU above budget."
  else if rssDegraded then "Degraded: app RSS above budget."
  else "Healthy."

/-- `RuntimeStore::build_health` -/
def buildHealth (s : HealthState) (r : HealthReadings) : RuntimeHealth where
  freshness := .starting
  reasonCodes := healthReasons s r
  tickCount := s.sampleSeq
  snapshotLatencyMs := r.latencyMs
  degraded := decide (s.engineState=.fatal) || decide (s.collectorState=some .limited) ||
    decide (s.collectorState=some .unavailable) ||
    decide (cadenceDegradedMinRecentMisses ≤ s.recentDeadlineMisses) ||
    decide (appCpuDegradePct ≤ r.appCpuPercent) || decide (appRssDegradeBytes ≤ r.appRssBytes) ||
    s.warnings.any (fun warning => warningDegradesHealth warning.category) ||
    decide (s.persistenceState≠.healthy)
  collectorWarnings := s.warnings.countP (fun warning => warning.category=="collector")
  runtimeLoopEnabled := true
  runtimeLoopRunning := decide (s.engineState=.running)
  statusSummary := healthSummary s r
  updatedAtMs := r.nowMs
  tickP95Ms := round1 r.tickP95Ms
  sortP95Ms := round1 r.sortP95Ms
  jitterP95Ms := round1 s.deadlineLatenessP95Ms
  droppedTicks := s.deadlineMisses
  appCpuPercent := round1 r.appCpuPercent
  appRssBytes := r.appRssBytes
  lastWarning := s.warnings.getLast?.map RuntimeWarning.message
  engineState := some s.engineState
  collectorState := s.collectorState
  lastHeartbeatAtMs := s.lastHeartbeatAtMs
  deadlineMisses := some s.deadlineMisses
  deadlineLatenessP95Ms := some (round1 s.deadlineLatenessP95Ms)
  collectionLatencyMs := s.collectionLatencyMs.map round1
  collectionP95Ms := some (round1 r.tickP95Ms)
  publicationLatencyMs := s.publicationLatencyMs.map round1
  publicationP95Ms := some (round1 r.publicationP95Ms)
  fatalError := s.fatalError

end Build
end BatCave.RuntimeStore
