import BatCave.Contracts.Snapshot
import BatCave.Lib.Binary64
import BatCave.Lib.Table
import BatCave.Lib.Text
import BatCave.Lib.Word
import Mathlib.Data.Finset.Basic

/-! The recent values that every generation of a process leaves, the averages that rank and
show it, and which generations are busy. -/
namespace BatCave.ProcessView
open BatCave.Contracts BatCave.Lib BatCave.Lib.Word

/-- A process is told apart from an earlier one of its PID by its start. -/
abbrev Generation := String × Nat

def generation (process : ProcessSample) : Generation := (process.pid,process.startTimeMs)

def processIoRate (process : ProcessSample) : Nat := satAdd process.ioReadBps process.ioWriteBps

def processNetworkRate (process : ProcessSample) : Nat :=
  satAdd (process.networkReceivedBps.getD 0) (process.networkTransmittedBps.getD 0)

section Qualities

def cpuQuality (process : ProcessSample) : Option MetricQualityInfo :=
  process.quality.bind ProcessMetricQuality.cpu

def memoryQuality (process : ProcessSample) : Option MetricQualityInfo :=
  process.quality.bind ProcessMetricQuality.memory

def ioQuality (process : ProcessSample) : Option MetricQualityInfo :=
  process.quality.bind ProcessMetricQuality.io

def networkQuality (process : ProcessSample) : Option MetricQualityInfo :=
  process.quality.bind ProcessMetricQuality.network

/-- `contributor_quality_is_publishable`: a missing quality does not stand in the way. -/
def contributorQualityIsPublishable (quality : Option MetricQualityInfo) : Bool :=
  !quality.any (fun quality => quality.quality=.unavailable ∨ quality.quality=.held)

end Qualities

section Rings

def rankingWindowSamples : Nat := 5
def rankingMinSamples : Nat := 3

structure ProcessRankingValues where
  cpuPercent : Float := 0.0
  ioBps : Nat := 0
  networkBps : Nat := 0
  established : Bool := false
  deriving DecidableEq, Repr

structure RankingRing where
  cpuPercent : List Float := []
  ioBps : List Nat := []
  networkBps : List Nat := []
  deriving DecidableEq, Repr

/-- `iter().sum::<f64>()` -/
def sumF64 (values : List Float) : Float := values.foldl (· + ·) (-0.0)

/-- `iter().sum::<u64>()` as a release build computes it. -/
def sumU64 (values : List Nat) : Nat := values.foldl (fun total value => (total+value)%2^64) 0

namespace RankingRing
variable (ring : RankingRing)

def isEstablished : Bool := rankingMinSamples ≤ ring.cpuPercent.length

def cpuAverage : Float :=
  if ring.cpuPercent=[] then 0.0
  else sumF64 ring.cpuPercent/Binary64.ofUnsigned ring.cpuPercent.length

def average (values : List Nat) : Nat := if values=[] then 0 else sumU64 values/values.length

def ioAverage : Nat := average ring.ioBps
def networkAverage : Nat := average ring.networkBps

/-- Earlier samples that are missing count as zero. -/
def windowValues : ProcessRankingValues where
  cpuPercent := sumF64 ring.cpuPercent/Binary64.ofUnsigned rankingWindowSamples
  ioBps := sumU64 ring.ioBps/rankingWindowSamples
  networkBps := sumU64 ring.networkBps/rankingWindowSamples
  established := ring.isEstablished

def observedValues : ProcessRankingValues where
  cpuPercent := ring.cpuAverage
  ioBps := ring.ioAverage
  networkBps := ring.networkAverage
  established := ring.isEstablished

/-- `push_back`, and `pop_front` while there are too many. -/
def pushed {α : Type} (values : List α) (value : α) : List α :=
  (values++[value]).drop ((values++[value]).length-rankingWindowSamples)

def push (process : ProcessSample) : RankingRing where
  cpuPercent := pushed ring.cpuPercent
    (if contributorQualityIsPublishable (cpuQuality process) then process.cpuPercent else 0.0)
  ioBps := pushed ring.ioBps
    (if contributorQualityIsPublishable (ioQuality process) then processIoRate process else 0)
  networkBps := pushed ring.networkBps
    (if contributorQualityIsPublishable (networkQuality process) then processNetworkRate process
      else 0)

end RankingRing

abbrev RankingHistory := AList (fun _ : Generation => RankingRing)

/-- `ranking_values_for` -/
def rankingValuesFor (history : RankingHistory) (process : ProcessSample) : ProcessRankingValues :=
  match history.lookup (generation process) with
  | none =>
    { cpuPercent := process.cpuPercent
      ioBps := processIoRate process
      networkBps := processNetworkRate process
      established := true }
  | some ring => if ring.isEstablished then ring.windowValues else {}

/-- `display_values_for`: young generations show the mean of the samples they have. -/
def displayValuesFor (history : RankingHistory) (process : ProcessSample) : ProcessRankingValues :=
  match history.lookup (generation process) with
  | some ring =>
    if ring.isEstablished then rankingValuesFor history process else ring.observedValues
  | none => rankingValuesFor history process

end Rings

section Attention

def attentionLeaveFactor : Float := 0.7
def attentionCpuPercent : Float := 10.0
def attentionCpuLeavePercent : Float := attentionCpuPercent*attentionLeaveFactor
def attentionMemoryBytes : Nat := 900*1024*1024
def attentionIoBps : Nat := 500*1024
def attentionNetworkBps : Nat := 1024*1024

/-- The floor a member stays above: the share of its threshold, cut to an integer. -/
def leaveFloor (threshold : Nat) : Nat :=
  Binary64.toU64 (Binary64.ofUnsigned threshold*attentionLeaveFactor)

def attentionMemoryLeaveBytes : Nat := leaveFloor attentionMemoryBytes
def attentionIoLeaveBps : Nat := leaveFloor attentionIoBps
def attentionNetworkLeaveBps : Nat := leaveFloor attentionNetworkBps

/-- `attention_enters_ring` -/
def attentionEntersRing (process : ProcessSample) (ring : RankingRing) : Bool :=
  ring.isEstablished &&
    (attentionMemoryBytes ≤ process.memoryBytes || attentionCpuPercent ≤ ring.cpuAverage ||
      attentionIoBps ≤ ring.ioAverage || attentionNetworkBps ≤ ring.networkAverage)

/-- `attention_retains_ring` -/
def attentionRetainsRing (process : ProcessSample) (ring : RankingRing) : Bool :=
  attentionMemoryLeaveBytes ≤ process.memoryBytes || attentionCpuLeavePercent ≤ ring.cpuAverage ||
    attentionIoLeaveBps ≤ ring.ioAverage || attentionNetworkLeaveBps ≤ ring.networkAverage

/-- `attention_candidates`: without a ring the values of the sample decide. -/
def attentionCandidates (processes : List ProcessSample) (history : RankingHistory) :
    Finset Generation :=
  ((processes.filter (fun process =>
    match history.lookup (generation process) with
    | some ring => attentionEntersRing process ring
    | none => attentionMemoryBytes ≤ process.memoryBytes ||
        attentionCpuPercent ≤ process.cpuPercent || attentionIoBps ≤ processIoRate process ||
        attentionNetworkBps ≤ processNetworkRate process)).map generation).toFinset

/-- `HashMap::retain` by the key. -/
def retainKeys (history : RankingHistory) (seen : List Generation) : RankingHistory :=
  ⟨history.entries.filter (fun entry => entry.1∈seen),
    history.nodupKeys.sublist List.filter_sublist⟩

/-- What one process makes of the busy generations. -/
def settleAttention (history : RankingHistory) (members : Finset Generation)
    (process : ProcessSample) : Finset Generation :=
  match history.lookup (generation process) with
  | none => members
  | some ring =>
    if !ring.isEstablished then members.erase (generation process)
    else if attentionEntersRing process ring then insert (generation process) members
    else if generation process∈members ∧ attentionRetainsRing process ring=false then
      members.erase (generation process)
    else members

/-- `update_ranking_history`: the rings take in the sample, generations that are gone leave,
and the busy ones are settled. -/
def updateRankingHistory (history : RankingHistory) (members : Finset Generation)
    (processes : List ProcessSample) : RankingHistory × Finset Generation :=
  let seen := processes.map generation
  let grown := processes.foldl (fun history process => history.insert (generation process)
    (((history.lookup (generation process)).getD {}).push process)) history
  let history := retainKeys grown seen
  (history,processes.foldl (settleAttention history) (members.filter (fun key => key∈seen)))

end Attention
end BatCave.ProcessView
