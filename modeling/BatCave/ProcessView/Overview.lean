import BatCave.ProcessView.Rows

/-! What a snapshot adds to the rows: the values they show, the selection for the overview
and the largest contributor to each metric. -/
namespace BatCave.ProcessView
open BatCave.Contracts BatCave.Lib BatCave.Lib.Word BatCave.Lib.Text

section Display

abbrev ValuesByWorkload := AList (fun _ : String => ProcessRankingValues)

/-- The loops of `ranking_by_workload` and `display_by_workload`. -/
def valuesByWorkload (ofGroup : ProcessAppGroup → ProcessRankingValues)
    (ofMembers : ProcessAppGroup → List ProcessRankingValues) (groups : List ProcessAppGroup) :
    ValuesByWorkload :=
  groups.foldl (fun values group => (group.processes.zip (ofMembers group)).foldl
    (fun values member => values.insert (processWorkloadId member.1) member.2)
    (values.insert (groupWorkloadId group.key) (ofGroup group))) ∅

def rankingByWorkload : List ProcessAppGroup → ValuesByWorkload :=
  valuesByWorkload ProcessAppGroup.ranking ProcessAppGroup.memberRanking

def displayByWorkload : List ProcessAppGroup → ValuesByWorkload :=
  valuesByWorkload ProcessAppGroup.display ProcessAppGroup.memberDisplay

/-- `scale_rate_pair`: the sum becomes the total, each side keeps its share. -/
def scaleRatePair (first second total : Nat) : Nat × Nat :=
  let current := satAdd first second
  if current=0 then (first,second)
  else
    let scaled := Binary64.toU64 (Binary64.round (Binary64.ofUnsigned total*
      (Binary64.ofUnsigned first/Binary64.ofUnsigned current)))
    (min scaled total,total-min scaled total)

/-- The pair of network rates, of which either may be missing. -/
def scaleNetworkRates (received transmitted : Option Nat) (total : Nat) :
    Option Nat × Option Nat :=
  match received,transmitted with
  | some received,some transmitted =>
    ((scaleRatePair received transmitted total).1,(scaleRatePair received transmitted total).2)
  | some _,none => (some total,none)
  | none,some _ => (none,some total)
  | none,none => (none,none)

def displayProcess (values : ProcessRankingValues) (process : ProcessSample) : ProcessSample :=
  let io := scaleRatePair process.ioReadBps process.ioWriteBps values.ioBps
  let network := scaleNetworkRates process.networkReceivedBps process.networkTransmittedBps
    values.networkBps
  { process with
    cpuPercent := round1 values.cpuPercent
    ioReadBps := io.1
    ioWriteBps := io.2
    networkReceivedBps := network.1
    networkTransmittedBps := network.2 }

/-- The body of `apply_display_values`. -/
def displayRow (display : ValuesByWorkload) : ProcessViewRow → ProcessViewRow
  | .process detail groupKey groupLabel groupCategory groupCount iconKind isChild isGrouped label =>
    .process (match display.lookup detail.workloadId with
      | none => detail
      | some values =>
        { detail with
          process := displayProcess values detail.process
          ioBps := values.ioBps
          networkBps := values.networkBps })
      groupKey groupLabel groupCategory groupCount iconKind isChild isGrouped label
  | .group detail iconKind iconSource exampleLabel label =>
    .group (match display.lookup detail.workloadId with
      | none => detail
      | some values =>
        { detail with
          cpuPercent := round1 values.cpuPercent
          ioBps := values.ioBps
          networkBps := values.networkBps })
      iconKind iconSource exampleLabel label

/-- `apply_display_values` -/
def applyDisplayValues (rows : List ProcessViewRow) (display : ValuesByWorkload) :
    List ProcessViewRow :=
  rows.map (displayRow display)

end Display

section Overview

def rowWorkloadId : ProcessViewRow → String
  | .process detail _ _ _ _ _ _ _ _ => detail.workloadId
  | .group detail _ _ _ _ => detail.workloadId

def rowKey : ProcessViewRow → String
  | .process _ groupKey _ _ _ _ _ _ _ => groupKey
  | .group detail _ _ _ _ => detail.groupKey

/-- The columns that select for the overview. -/
inductive OverviewColumn where
  | cpu | memory | io | network
  deriving DecidableEq, Repr

def overviewColumns : List OverviewColumn := [.cpu,.memory,.io,.network]

def liveQuality (quality : MetricQualityInfo) : Bool :=
  quality.quality==.native || quality.quality==.estimated || quality.quality==.partialQuality

def groupColumn (detail : GroupDetail) : OverviewColumn → MetricQualityInfo × MetricCoverage
  | .cpu => (detail.quality.cpu,detail.coverage.cpu)
  | .memory => (detail.quality.memory,detail.coverage.memory)
  | .io => (detail.quality.io,detail.coverage.io)
  | .network => (detail.quality.network,detail.coverage.network)

def processColumn (process : ProcessSample) : OverviewColumn → Option MetricQualityInfo
  | .cpu => cpuQuality process
  | .memory => memoryQuality process
  | .io => ioQuality process
  | .network => networkQuality process

/-- The row takes part in the ranking by a column. -/
def overviewRanks (column : OverviewColumn) : ProcessViewRow → Bool
  | .process detail _ _ _ _ _ _ isGrouped _ =>
    !isGrouped && (processColumn detail.process column).any liveQuality
  | .group detail _ _ _ _ =>
    (groupColumn detail column).2.available != 0 && liveQuality (groupColumn detail column).1

/-- The value a row is ranked by: the smoothed one where there is one. -/
def overviewValue (ranking : ValuesByWorkload) (column : OverviewColumn) (row : ProcessViewRow) :
    Float :=
  let smoothed := ranking.lookup (rowWorkloadId row)
  let (cpuPercent,memoryBytes,ioBps,networkBps) := match row with
    | .process detail _ _ _ _ _ _ _ _ =>
      (detail.process.cpuPercent,detail.process.memoryBytes,detail.ioBps,detail.networkBps)
    | .group detail _ _ _ _ =>
      (detail.cpuPercent,detail.memoryBytes,detail.ioBps,detail.networkBps)
  match column with
  | .cpu => smoothed.elim cpuPercent ProcessRankingValues.cpuPercent
  | .memory => Binary64.ofUnsigned memoryBytes
  | .io => Binary64.ofUnsigned (smoothed.elim ioBps ProcessRankingValues.ioBps)
  | .network => Binary64.ofUnsigned (smoothed.elim networkBps ProcessRankingValues.networkBps)

/-- The place of a float in the order of `total_cmp`. -/
def totalKey (x : Float) : Int :=
  let bits := x.toBits.toNat
  if bits < 2^63 then bits else -(bits-2^63 : Int)-1

/-- The keys that one column selects. -/
def overviewKeys (ranking : ValuesByWorkload) (rows : List ProcessViewRow)
    (column : OverviewColumn) : List String :=
  ((sortBy (fun left right =>
    (compare (totalKey (overviewValue ranking column right))
      (totalKey (overviewValue ranking column left))).then (compare (rowKey left) (rowKey right)))
    (rows.filter (overviewRanks column))).take 5).map rowKey

/-- `shape_overview_rows` -/
def shapeOverviewRows (rows : List ProcessViewRow) (ranking : ValuesByWorkload) :
    List ProcessViewRow :=
  let selected := overviewColumns.flatMap (overviewKeys ranking rows)
  rows.filter (fun row => rowKey row∈selected)

end Overview

section Contributors

def contributorQualityRank : MetricQuality → Nat
  | .native => 1
  | .estimated => 2
  | .partialQuality => 3
  | .held => 4
  | .unavailable => 5

/-- `Iterator::max_by`: the last of the largest. -/
def maxBy {α : Type} (cmp : α → α → Ordering) : List α → Option α
  | [] => none
  | x::xs => some (xs.foldl (fun best y => if cmp best y=.gt then best else y) x)

variable (processes : List ProcessSample)

/-- `process_contributor_coverage_quality` -/
def processContributorCoverageQuality (quality : ProcessSample → Option MetricQualityInfo) :
    Option MetricQualityInfo :=
  if processes.any (fun process => (quality process).isNone) then none
  else maxBy (fun left right => compare (contributorQualityRank left.quality)
    (contributorQualityRank right.quality)) (processes.filterMap quality)

def contributes (quality : ProcessSample → Option MetricQualityInfo) (process : ProcessSample) :
    Bool :=
  (quality process).any (fun quality => contributorQualityIsPublishable (some quality))

/-- `top_process_contributor`, for values with their `partial_cmp`. -/
def topProcessContributor {τ : Type} (cmp : τ → τ → Ordering) (zero : τ)
    (metric : ProcessSample → τ) (quality : ProcessSample → Option MetricQualityInfo)
    (metricLabel : String) : ProcessContributor :=
  let coverageQuality := processContributorCoverageQuality processes quality
  let measured := processes.filter (contributes quality)
  let coverage : MetricCoverage := ⟨measured.length,processes.length⟩
  let winner := maxBy (fun left right => cmp (metric left) (metric right)) measured
  match winner.filter (fun process => cmp (metric process) zero==.gt) with
  | some process =>
    { name := some process.name
      identity := some ⟨process.pid,process.startTimeMs⟩
      coverage := some coverage
      quality := if coverage.available=coverage.total then coverageQuality
        else some {
          quality := .partialQuality
          source := some .processAggregate
          limitationCode := some .groupPartialCoverage
          message := some (toString coverage.available++" of "++toString coverage.total++
            " processes report "++metricLabel++"; unmeasured processes could be higher.") }
      nameAmbiguous := decide
        (1 < processes.countP (fun candidate => candidate.name==process.name)) }
  | none => ⟨none,none,some coverage,coverageQuality,false⟩

/-- `summarize_process_contributors` -/
def summarizeProcessContributors : ProcessContributorSummary where
  cpu := topProcessContributor processes partialOrder 0.0 ProcessSample.cpuPercent cpuQuality "CPU"
  memory := topProcessContributor processes compare 0 ProcessSample.memoryBytes memoryQuality
    "memory"
  io := topProcessContributor processes compare 0 processIoRate ioQuality "I/O"
  network := topProcessContributor processes compare 0 processNetworkRate networkQuality "network"

end Contributors
end BatCave.ProcessView
