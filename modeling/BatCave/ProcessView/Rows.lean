import BatCave.ProcessView.Groups

/-! The rows of a view: what a group reports of its members, the order of groups and
members, and the rows that a query selects. -/
namespace BatCave.ProcessView
open BatCave.Contracts BatCave.Lib BatCave.Lib.Word BatCave.Lib.Text

def collectorHeldMessage : String :=
  "Collector unavailable; showing the last successful observation."

def round1 (value : Float) : Float := Binary64.round (value*10.0)/10.0

section Summary
variable (processes : List ProcessSample) (metric : GroupMetric)

def reportedQualities : List MetricQualityInfo :=
  processes.filterMap (fun process => groupMetricQuality process metric)

def availableQualities : List MetricQuality :=
  ((processes.filter (fun process => groupMetricAvailable process metric)).filterMap
    (fun process => groupMetricQuality process metric)).map MetricQualityInfo.quality

def availableCount : Nat := processes.countP (fun process => groupMetricAvailable process metric)

/-- The quality of the aggregate. -/
def summaryQuality : MetricQuality :=
  let reported := (reportedQualities processes metric).map MetricQualityInfo.quality
  if metric=.otherIo ∨ processes.countP (fun process => groupMetricHasValue process metric)=0 then
    .unavailable
  else if availableCount processes metric=0 then
    if 0 < processes.length-reported.length then .partialQuality
    else if reported.all (· ==.held) then .held
    else if reported.all (· ==.unavailable) then .unavailable
    else .partialQuality
  else if availableCount processes metric < processes.length ∨
      .partialQuality∈availableQualities processes metric then .partialQuality
  else if .estimated∈availableQualities processes metric then .estimated
  else .native

/-- `group_metric_summary` -/
def groupMetricSummary : MetricQualityInfo × MetricCoverage :=
  let total := processes.length
  let available := availableCount processes metric
  let quality := summaryQuality processes metric
  let held := if quality=.held then
      (reportedQualities processes metric).find? (fun quality => quality.quality==.held)
    else none
  let limitation : Option (MetricLimitationCode × String) :=
    if quality=.held then
      some (.heldValue,(held.bind MetricQualityInfo.message).getD collectorHeldMessage)
    else if available < total then
      some (.groupPartialCoverage,
        toString available++" of "++toString total++" processes contribute to this aggregate.")
    else if .partialQuality∈availableQualities processes metric then
      some (.partialCoverage,"At least one process contributes partial-quality data.")
    else none
  ({ quality := quality
     source := some .processAggregate
     updatedAtMs := held.bind MetricQualityInfo.updatedAtMs
     ageMs := held.bind MetricQualityInfo.ageMs
     limitationCode := limitation.map Prod.fst
     message := limitation.map Prod.snd },
    ⟨available,total⟩)

end Summary

def processWorkloadId (process : ProcessSample) : String :=
  "process:"++process.pid++":"++toString process.startTimeMs

def groupWorkloadId (groupKey : String) : String := "group:"++groupKey

/-- `group_detail` -/
def groupDetail (group : ProcessAppGroup) : GroupDetail :=
  let summary := groupMetricSummary group.processes
  { workloadId := groupWorkloadId group.key
    groupKey := group.key
    label := group.label
    category := group.category
    processCount := group.processes.length
    cpuPercent := round1 group.cpuPercent
    memoryBytes := group.memoryBytes
    ioBps := group.ioBps
    otherIoBps := none
    networkBps := group.networkBps
    threads := group.threads
    quality := {
      cpu := (summary .cpu).1
      memory := (summary .memory).1
      io := (summary .io).1
      otherIo := (summary .otherIo).1
      network := (summary .network).1
      threads := (summary .threads).1 }
    coverage := {
      cpu := (summary .cpu).2
      memory := (summary .memory).2
      io := (summary .io).2
      otherIo := (summary .otherIo).2
      network := (summary .network).2
      threads := (summary .threads).2 } }

section Labels

inductive ProcessAttentionMetricState where
  | native | estimated | partialQuality | held | unavailable | missing
  deriving DecidableEq, Repr

def processAttentionMetricState (process : ProcessSample) (metric : GroupMetric) :
    ProcessAttentionMetricState :=
  match groupMetricQuality process metric with
  | none => .missing
  | some quality =>
    match quality.quality with
    | .held => .held
    | .unavailable => .unavailable
    | .native => if groupMetricHasValue process metric then .native else .unavailable
    | .estimated => if groupMetricHasValue process metric then .estimated else .unavailable
    | .partialQuality =>
      if groupMetricHasValue process metric then .partialQuality else .unavailable

def processActivityAttentionLabel (label : String) (state : ProcessAttentionMetricState)
    (allMetricsComplete : Bool) : String :=
  let qualifiers := (if state=.partialQuality then ["limited"] else [])++
    (if state=.estimated then ["estimated"] else [])++
    (if !allMetricsComplete && state != .partialQuality then ["telemetry limited"] else [])
  if qualifiers=[] then label else label++" · "++" · ".intercalate qualifiers

/-- `process_attention_label` -/
def processAttentionLabel (process : ProcessSample) : String :=
  let states := [GroupMetric.cpu,.memory,.io,.network].map (processAttentionMetricState process)
  let complete := states.all (fun state => state==.native || state==.estimated)
  let activities := [(decide (attentionCpuPercent ≤ process.cpuPercent),"CPU activity"),
    (decide (attentionMemoryBytes ≤ process.memoryBytes),"memory activity"),
    (decide (attentionIoBps ≤ processIoRate process),"I/O activity"),
    (decide (attentionNetworkBps ≤ processNetworkRate process),"network activity")]
  match (activities.zip states).find? (fun entry => entry.1.1 &&
      (entry.2==.native || entry.2==.estimated || entry.2==.partialQuality)) with
  | some entry => processActivityAttentionLabel entry.1.2 entry.2 complete
  | none =>
    if .unavailable∈states then "Unavailable"
    else if .held∈states then "Pending"
    else if .missing∈states ∨ .partialQuality∈states then "Limited"
    else if process.accessState≠.full then "access limited"
    else if .estimated∈states then "steady · estimated"
    else "steady"

def groupMetricCanDisplay (quality : MetricQualityInfo) (coverage : MetricCoverage) : Bool :=
  0 < coverage.available && !(quality.quality==.held || quality.quality==.unavailable)

def groupMetricIsComplete (quality : MetricQualityInfo) (coverage : MetricCoverage) : Bool :=
  groupMetricCanDisplay quality coverage && quality.quality != .partialQuality &&
    coverage.available==coverage.total

def groupActivityLabel (label : String) (quality : MetricQualityInfo) (coverage : MetricCoverage)
    (allMetricsComplete : Bool) : String :=
  if quality.quality=.partialQuality ∨ coverage.available < coverage.total then
    label++" · "++toString coverage.available++"/"++toString coverage.total++" · limited"
  else if !allMetricsComplete then label++" · telemetry limited"
  else if quality.quality=.estimated then label++" · estimated"
  else label

/-- `group_attention_label` -/
def groupAttentionLabel (detail : GroupDetail) (accessLimited : Bool) : String :=
  let metrics := [(detail.quality.cpu,detail.coverage.cpu),
    (detail.quality.memory,detail.coverage.memory),(detail.quality.io,detail.coverage.io),
    (detail.quality.network,detail.coverage.network)]
  let complete := metrics.all (fun metric => groupMetricIsComplete metric.1 metric.2)
  let activities := [(decide (attentionCpuPercent ≤ detail.cpuPercent),"CPU activity"),
    (decide (attentionMemoryBytes ≤ detail.memoryBytes),"memory activity"),
    (decide (attentionIoBps ≤ detail.ioBps),"I/O activity"),
    (decide (attentionNetworkBps ≤ detail.networkBps),"network activity")]
  match (activities.zip metrics).find? (fun entry => entry.1.1 &&
      groupMetricCanDisplay entry.2.1 entry.2.2) with
  | some entry => groupActivityLabel entry.1.2 entry.2.1 entry.2.2 complete
  | none =>
    if complete then (if accessLimited then "access limited" else "steady")
    else
      let state := if metrics.all (fun metric => metric.1.quality==.held) then "Pending"
        else if metrics.all (fun metric => metric.1.quality==.unavailable) then "Unavailable"
        else "Limited"
      let coverage := ((metrics.find? (fun metric =>
        !groupMetricIsComplete metric.1 metric.2)).map Prod.snd).getD ⟨0,detail.processCount⟩
      state++" · "++toString coverage.available++"/"++toString coverage.total++" coverage"

end Labels

section Order
variable (lower : Lowercase)

/-- `partial_cmp` with `Equal` for what cannot be compared. -/
def partialOrder (left right : Float) : Ordering :=
  if left < right then .lt else if right < left then .gt else .eq

/-- `f64::min` -/
def minF64 (x y : Float) : Float :=
  if x.isNaN then y else if y.isNaN then x else if y < x then y else x

def attentionScore (ranking : ProcessRankingValues) (memoryBytes : Nat) : Float :=
  ranking.cpuPercent*3.0+
    minF64 (Binary64.ofUnsigned memoryBytes/(128.0*1024.0*1024.0)) 20.0+
    minF64 (Binary64.ofUnsigned ranking.ioBps/(512.0*1024.0)) 20.0+
    minF64 (Binary64.ofUnsigned ranking.networkBps/(1024.0*1024.0)) 20.0

def processAttentionScore (process : ProcessSample) (ranking : ProcessRankingValues) : Float :=
  attentionScore ranking process.memoryBytes

/-- `group_attention_score`: a group of one scores as its member. -/
def groupAttentionScore (group : ProcessAppGroup) : Float :=
  match group.processes,group.memberRanking with
  | [process],[ranking] => processAttentionScore process ranking
  | _,_ => attentionScore group.ranking group.memoryBytes

def rankedColumn : SortColumn → Bool
  | .cpuPct | .ioBps | .networkBps | .attention => true
  | _ => false

def numericPid (pid : String) : Nat := (parseU64 pid).getD u64Max

def directed (direction : SortDirection) (ordering : Ordering) : Ordering :=
  match direction with
  | .asc => ordering
  | .desc => ordering.swap

/-- Generations with too little history stay behind the others in ranked columns. -/
def parked (column : SortColumn) (left right : ProcessRankingValues) : Ordering :=
  if rankedColumn column then compare right.established left.established else .eq

/-- `compare_process` -/
def compareProcess (column : SortColumn) (direction : SortDirection)
    (left right : ProcessSample × ProcessRankingValues) : Ordering :=
  (parked column left.2 right.2).then
    ((directed direction (match column with
      | .name => compare (lower.apply left.1.name) (lower.apply right.1.name)
      | .pid => compare (numericPid left.1.pid) (numericPid right.1.pid)
      | .memoryBytes => compare left.1.memoryBytes right.1.memoryBytes
      | .ioBps => compare left.2.ioBps right.2.ioBps
      | .networkBps => compare left.2.networkBps right.2.networkBps
      | .threads => compare left.1.threads right.1.threads
      | .handles => compare left.1.handles right.1.handles
      | .startTimeMs => compare left.1.startTimeMs right.1.startTimeMs
      | .attention => partialOrder (processAttentionScore left.1 left.2)
          (processAttentionScore right.1 right.2)
      | .cpuPct => partialOrder left.2.cpuPercent right.2.cpuPercent)).then
      (compare (lower.apply left.1.name) (lower.apply right.1.name)))

def groupMemorySortValue (group : ProcessAppGroup) : Nat :=
  match group.processes with
  | [process] => process.memoryBytes
  | _ => group.memoryBytes

def groupThreadsSortValue (group : ProcessAppGroup) : Nat :=
  match group.processes with
  | [process] => process.threads
  | _ => group.threads

/-- `compare_process_group` -/
def compareProcessGroup (column : SortColumn) (direction : SortDirection)
    (left right : ProcessAppGroup) : Ordering :=
  let presented := left.presentationProcess
  let presented' := right.presentationProcess
  (parked column left.ranking right.ranking).then
    ((directed direction (match column with
      | .name => compare (lower.apply left.label) (lower.apply right.label)
      | .pid => compare (numericPid presented.pid) (numericPid presented'.pid)
      | .memoryBytes => compare (groupMemorySortValue left) (groupMemorySortValue right)
      | .ioBps => compare left.ranking.ioBps right.ranking.ioBps
      | .networkBps => compare left.ranking.networkBps right.ranking.networkBps
      | .threads => compare (groupThreadsSortValue left) (groupThreadsSortValue right)
      | .handles => compare presented.handles presented'.handles
      | .startTimeMs => compare presented.startTimeMs presented'.startTimeMs
      | .attention => partialOrder (groupAttentionScore left) (groupAttentionScore right)
      | .cpuPct => partialOrder left.ranking.cpuPercent right.ranking.cpuPercent)).then
      ((compare (lower.apply left.label) (lower.apply right.label)).then
        ((compare (numericPid presented.pid) (numericPid presented'.pid)).then
          (compare presented.startTimeMs presented'.startTimeMs))))

/-- `sort_by`: stable, by the order of a comparison. -/
def sortBy {α : Type} (cmp : α → α → Ordering) (xs : List α) : List α :=
  xs.mergeSort (fun a b => cmp a b != .gt)

end Order

section Emit
variable (lower : Lowercase)

def matchesFocusMode (process : ProcessSample) (focusMode : ProcessFocusMode)
    (attention : Finset Generation) : Bool :=
  match focusMode with
  | .all => true
  | .attention => generation process∈attention
  | .io => 0 < processIoRate process

/-- The group has a member that the query selects. -/
def groupMatches (query : RuntimeQuery) (attention : Finset Generation) (group : ProcessAppGroup) :
    Bool :=
  let needle := lower.apply (trim query.filterText)
  group.processes.any (fun process =>
    (needle=="" || contains (lower.apply group.label) needle ||
      contains (lower.apply process.name) needle || contains process.pid needle ||
      contains (lower.apply process.exe) needle) &&
      matchesFocusMode process query.focusMode attention)

def processRow (group : ProcessAppGroup) (process : ProcessSample) : ProcessViewRow :=
  let grouped := decide (1 < group.processes.length)
  .process
    { workloadId := processWorkloadId process
      ioBps := processIoRate process
      networkBps := processNetworkRate process
      process := process }
    group.key group.label group.category group.processes.length
    (if grouped then group.iconKind else (processIdentity lower process).iconKind)
    (grouped && process.pid != group.presentationProcess.pid) grouped
    (processAttentionLabel process)

def groupRow (group : ProcessAppGroup) : ProcessViewRow :=
  .group (groupDetail group) group.iconKind
    (if trim group.presentationProcess.exe="" then none else some group.presentationProcess.exe)
    (if group.presentationProcess.name=group.label then none
      else some group.presentationProcess.name)
    (groupAttentionLabel (groupDetail group)
      (group.processes.any (fun process => process.accessState != .full)))

/-- The rows of one group: its own if it has several members, and one for each member. -/
def groupRows (query : RuntimeQuery) (group : ProcessAppGroup) : List ProcessViewRow :=
  (if 1 < group.processes.length then [groupRow group] else [])++
    (sortBy (compareProcess lower query.sortColumn query.sortDirection)
      (group.processes.zip group.memberRanking)).map (fun member => processRow lower group member.1)

/-- `emit_process_view` -/
def emitProcessView (groups : List ProcessAppGroup) (query : RuntimeQuery)
    (attention : Finset Generation) : List ProcessViewRow :=
  ((sortBy (compareProcessGroup lower query.sortColumn query.sortDirection)
    (groups.filter (groupMatches lower query attention))).take (max query.limit.toNat 1)).flatMap
    (groupRows lower query)

/-- `full_view_query` -/
def fullViewQuery : RuntimeQuery := { limit := 18446744073709551615 }

/-- `query_is_full_view` -/
def queryIsFullView (query : RuntimeQuery) (groupCount : Nat) : Bool :=
  let default : RuntimeQuery := {}
  trim query.filterText=="" && query.focusMode==default.focusMode &&
    query.sortColumn==default.sortColumn && query.sortDirection==default.sortDirection &&
    groupCount ≤ max query.limit.toNat 1

/-- `rank_processes` and `shape_rows_with_history` -/
def shapeRowsWithHistory (processes : List ProcessSample) (history : RankingHistory)
    (attention : Finset Generation) (query : RuntimeQuery) : List ProcessSample :=
  let needle := lower.apply (trim query.filterText)
  let rows := processes.filter (fun process =>
    (needle=="" || contains (lower.apply process.name) needle || contains process.pid needle ||
      contains (lower.apply process.exe) needle) &&
      matchesFocusMode process query.focusMode attention)
  (sortBy (fun left right => compareProcess lower query.sortColumn query.sortDirection
    (left,rankingValuesFor history left) (right,rankingValuesFor history right)) rows).take
    (max query.limit.toNat 1)

end Emit
end BatCave.ProcessView
