import BatCave.Reader.Catalog
import BatCave.Lib.Text

/-! The desktop reader's checks of workloads and contributors. -/
namespace BatCave.Reader
open BatCave.Lib.Js BatCave.Lib.Js.Value BatCave.Lib.Result

section Processes

def processIdentityStabilities : List String := ["stable","publication"]
def accessStates : List String := ["full","partial","denied"]

def processMalformed (ids : List String) (detail : Value) : Bool :=
  let presentation := detail.get "presentation"
  !nonEmptyString (detail.get "stable_id") || ids.contains (detail.get "stable_id").text ||
    (parseJsSafeDecimal (detail.get "pid") true).isNone ||
    !(detail.get "identity_stability").isIn processIdentityStabilities ||
    (!(detail.get "parent_pid").isNull && !(detail.get "parent_pid").isString) ||
    (!(detail.get "parent_process_id").isNull && !(detail.get "parent_process_id").isString) ||
    !nonEmptyString (detail.get "display_name") || !(detail.get "executable").isString ||
    !nonEmptyString (detail.get "status") || !(detail.get "access_state").isIn accessStates ||
    !presentation.isRecord ||
    (!(presentation.get "group_id").isNull && !(presentation.get "group_id").isString) ||
    !nonEmptyString (presentation.get "group_key") ||
    !nonEmptyString (presentation.get "group_label") ||
    !nonEmptyString (presentation.get "group_category") ||
    !safeInteger (presentation.get "group_count") ||
    (presentation.get "group_count").same (.nat 0) ||
    !nonEmptyString (presentation.get "icon_kind") || !(presentation.get "is_child").isBoolean ||
    !(presentation.get "is_grouped").isBoolean

def processIdentityMismatch (payload detail : Value) : Bool :=
  let startTime := detail.get "start_time_ms"
  let expectedId :=
    if startTime.isNull then
      "process:"++(detail.get "pid").shown++":publication:"++(payload.get "sample_seq").shown
    else "process:"++(detail.get "pid").shown++":"++startTime.shown
  (!startTime.isNull && (!safeInteger startTime || startTime.same (.nat 0))) ||
    (if startTime.isNull then !(detail.get "identity_stability").isStr "publication"
      else !(detail.get "identity_stability").isStr "stable") ||
    !(detail.get "stable_id").isStr expectedId

/-- One workload of the first loop, with the ids of the processes so far. -/
def readWorkload (payload : Value) (ids : List String) (workload : Value) :
    Except String (List String) := do
  let _ ← reject (!workload.isRecord || !(workload.get "detail").isRecord) "Workload is malformed."
  let detail := workload.get "detail"
  if (workload.get "kind").isStr "process" then
    let _ ← reject (processMalformed ids detail)
      "Process identity or presentation is malformed or duplicated."
    let _ ← reject (processIdentityMismatch payload detail)
      "Process stable identity does not match its PID and start time."
    let _ ← validateObservations payload (detail.get "metrics") "process"
    return (detail.get "stable_id").text::ids
  else
    let _ ← reject (!(workload.get "kind").isStr "group") "Workload kind is unknown."
    return ids

/-- The processes in the map after the first loop. -/
def processesOf (workloads : List Value) : List Value :=
  (workloads.filter (fun workload => (workload.get "kind").isStr "process")).map (get · "detail")

/-- `processes.get` -/
def findProcess (processes : List Value) (id : Value) : Option Value :=
  processes.find? (fun process => (process.get "stable_id").same id)

/-- The walk up the parents, with fuel for every process once. -/
def ancestorCycle (processes : List Value) : Nat → List String → Option Value → Bool
  | _,_,none => false
  | 0,_,some _ => true
  | fuel+1,visited,some ancestor => visited.contains (ancestor.get "stable_id").text ||
      ancestorCycle processes fuel ((ancestor.get "stable_id").text::visited)
        (if (ancestor.get "parent_process_id").isNull then none
          else findProcess processes (ancestor.get "parent_process_id"))

def parentInconsistent (process parent : Value) : Bool :=
  (process.get "parent_pid").isNull || !(parent.get "pid").same (process.get "parent_pid") ||
    (parent.get "stable_id").same (process.get "stable_id") ||
    !safeInteger (parent.get "start_time_ms") || !safeInteger (process.get "start_time_ms") ||
    (parent.get "start_time_ms").same (.nat 0) || (process.get "start_time_ms").same (.nat 0) ||
    !(parent.get "start_time_ms").lt (process.get "start_time_ms")

def readParent (processes : List Value) (process : Value) : Except String Unit :=
  if (process.get "parent_process_id").isNull then .ok ()
  else do
    let parent ← okOr (findProcess processes (process.get "parent_process_id"))
      "Parent process identity is inconsistent."
    reject (parentInconsistent process parent) "Parent process identity is inconsistent."
    reject (ancestorCycle processes processes.length [(process.get "stable_id").text] (some parent))
      "Parent process identity contains a cycle."

end Processes

section Groups

def groupMalformed (groupIds : List String) (detail : Value) : Bool :=
  !detail.isRecord || !nonEmptyString (detail.get "stable_id") ||
    !nonEmptyString (detail.get "group_key") || !nonEmptyString (detail.get "label") ||
    !nonEmptyString (detail.get "category") || !nonEmptyString (detail.get "icon_kind") ||
    (!(detail.get "icon_source").isNull && !nonEmptyString (detail.get "icon_source")) ||
    (!(detail.get "example_label").isNull && !nonEmptyString (detail.get "example_label")) ||
    groupIds.contains (detail.get "stable_id").text || !(detail.get "member_ids").isArray ||
    (detail.get "member_ids").items.length < 2 ||
    (detail.get "member_ids").items.any (fun member => !nonEmptyString member) ||
    !(detail.get "coverage").isArray

def presentationMismatch (detail presentation : Value) : Bool :=
  !(presentation.get "is_grouped").truthy ||
    !(presentation.get "group_id").same (detail.get "stable_id") ||
    !(presentation.get "group_key").same (detail.get "group_key") ||
    !(presentation.get "group_label").same (detail.get "label") ||
    !(presentation.get "group_category").same (detail.get "category") ||
    !(presentation.get "group_count").same (.nat (detail.get "member_ids").items.length) ||
    !(presentation.get "icon_kind").same (detail.get "icon_kind")

def readMember (processes : List Value) (detail : Value) (claimedMembers : List String)
    (member : Value) : Except String (List String) := do
  let process ← okOr (findProcess processes member) "Group member identity is dangling or reused."
  let _ ← reject (claimedMembers.contains member.text)
    "Group member identity is dangling or reused."
  let _ ← reject (presentationMismatch detail (process.get "presentation"))
    "Group presentation does not match its membership."
  return member.text::claimedMembers

/-- One coverage, with the descriptors covered so far. -/
def readCoverage (payload detail : Value) (covered : List Value) (coverage : Value) :
    Except String (List Value) := do
  let _ ← reject (!coverage.isRecord || !safeInteger (coverage.get "descriptor_index") ||
      covered.any (coverage.get "descriptor_index").same ||
      !safeInteger (coverage.get "available_contributors") ||
      !safeInteger (coverage.get "total_contributors") ||
      (coverage.get "total_contributors").lt (coverage.get "available_contributors") ||
      !(coverage.get "total_contributors").same (.nat (detail.get "member_ids").items.length) ||
      !validIndex (coverage.get "limitation_index") (payload.get "limitations").items.length)
    "Group coverage is malformed or inconsistent with membership."
  return coverage.get "descriptor_index"::covered

def readCovered (payload detail observation : Value) : Except String Unit := do
  let coverage ← okOr ((detail.get "coverage").items.find? (fun coverage =>
      (coverage.get "descriptor_index").same (observation.atIndex (.nat 0))))
    "Group coverage is inconsistent with membership."
  reject (!(coverage.get "limitation_index").same (observation.atIndex (.nat 4)))
    "Group coverage limitation does not match its observation."
  let lost := (coverage.get "available_contributors").lt (coverage.get "total_contributors")
  reject (lost && (coverage.get "limitation_index").isNull) "Group coverage loss is unexplained."
  let quality := (payload.get "quality_codes").atIndex (observation.atIndex (.nat 2))
  reject (lost && (quality.isStr "native" || quality.isStr "estimated"))
    "Group quality contradicts contributor coverage."

/-- One group, with the members claimed and the groups seen so far. -/
def readGroup (payload : Value) (processes : List Value) (claims : List String × List String)
    (detail : Value) : Except String (List String × List String) := do
  let members := (detail.get "member_ids").items
  let _ ← reject (groupMalformed claims.2 detail)
    "Group identity, presentation, or coverage is malformed."
  let _ ← reject (!(detail.get "stable_id").isStr ("group:"++(detail.get "group_key").shown))
    "Group stable identity does not match its group key."
  let _ ← reject (!Value.distinct members) "Group member identity is duplicated."
  let claimedMembers ← members.foldlM (readMember processes detail) claims.1
  let _ ← validateObservations payload (detail.get "metrics") "group"
  let _ ← reject ((detail.get "coverage").items.length != (detail.get "metrics").items.length)
    "Group coverage count does not match observations."
  let _ ← (detail.get "coverage").items.foldlM (readCoverage payload detail) []
  let _ ← (detail.get "metrics").items.forM (readCovered payload detail)
  return (claimedMembers,(detail.get "stable_id").text::claims.2)

def groupsOf (workloads : List Value) : List Value :=
  (workloads.filter (fun workload => (workload.get "kind").isStr "group")).map (get · "detail")

def groupingInconsistent (claimedMembers : List String) (process : Value) : Bool :=
  let presentation := process.get "presentation"
  let isGrouped := (presentation.get "is_grouped").truthy
  isGrouped != claimedMembers.contains (process.get "stable_id").text ||
    isGrouped != !(presentation.get "group_id").isNull ||
    (!isGrouped &&
      ((presentation.get "is_child").truthy || !(presentation.get "group_count").same (.nat 1)))

end Groups

section Contributors

def contributorMetrics : List String := ["cpu","memory","io","network"]

/-- `validProcessId` -/
def validProcessId (value : String) (sampleSeq : Value) : Bool :=
  match Lib.Text.split ':' value with
  | ["process",pid,startTime] => (parseJsSafeDecimal (.str pid) true).isSome &&
      (parseJsSafeDecimal (.str startTime) false).isSome
  | ["process",pid,"publication",sequence] => (parseJsSafeDecimal (.str pid) true).isSome &&
      (parseJsSafeDecimal (.str sequence) true).any
        (fun parsed => (Value.nat parsed).same sampleSeq)
  | _ => false

def contributorMalformed (payload : Value) (seen : List String) (contributor : Value) : Bool :=
  let processId := contributor.get "process_id"
  let displayName := contributor.get "display_name"
  !contributor.isRecord || !(contributor.get "metric").isIn contributorMetrics ||
    seen.contains (contributor.get "metric").text ||
    !safeInteger (contributor.get "quality_code") ||
    !((payload.get "quality_codes").atIndex (contributor.get "quality_code")).truthy ||
    !safeInteger (contributor.get "available_contributors") ||
    !safeInteger (contributor.get "total_contributors") ||
    (contributor.get "total_contributors").lt (contributor.get "available_contributors") ||
    !(contributor.get "total_contributors").same (payload.get "total_process_count") ||
    !(contributor.get "source").isIn sources ||
    (!processId.isNull &&
      (!processId.isString || !validProcessId processId.text (payload.get "sample_seq"))) ||
    (!displayName.isNull && !displayName.isString) ||
    !(contributor.get "name_ambiguous").isBoolean ||
    !validIndex (contributor.get "limitation_index") (payload.get "limitations").items.length

def readContributor (payload : Value) (seen : List String) (contributor : Value) :
    Except String (List String) := do
  let _ ← reject (contributorMalformed payload seen contributor)
    "Process contributor metadata is malformed."
  let quality := (payload.get "quality_codes").atIndex (contributor.get "quality_code")
  let processId := contributor.get "process_id"
  let _ ← reject (!processId.isNull && (!nonEmptyString (contributor.get "display_name") ||
      (contributor.get "available_contributors").same (.nat 0) ||
      (contributor.get "total_contributors").same (.nat 0) || quality.isStr "held" ||
      quality.isStr "unavailable"))
    "Process contributor identity is inconsistent."
  let _ ← reject (processId.isNull && !(contributor.get "display_name").isNull)
    "Process contributor name lacks stable identity."
  let lost := (contributor.get "available_contributors").lt (contributor.get "total_contributors")
  let limitationIndex := contributor.get "limitation_index"
  let _ ← reject (lost && limitationIndex.isNull) "Process contributor coverage is unexplained."
  let _ ← validateQualityLimitation payload quality limitationIndex
  let _ ← reject ((contributor.get "source").isStr "unknown" && (!quality.isStr "unavailable" ||
      !(limitationCode payload limitationIndex).isStr "missing_metadata"))
    "Process contributor source contradicts its quality."
  let _ ← reject (lost && (quality.isStr "native" || quality.isStr "estimated"))
    "Process contributor quality contradicts coverage."
  return (contributor.get "metric").text::seen

def readContributors (payload : Value) : Except String Unit := do
  let contributors := (payload.get "contributors").items
  let seen ← contributors.foldlM (readContributor payload) []
  reject (seen.length != contributorMetrics.length || contributors.length != 4)
    "Process contributor catalog is incomplete."

end Contributors

/-- `validateWorkloads` -/
def validateWorkloads (input payload : Value) (includeContributors : Bool) :
    Except String Unit := do
  reject (!input.isArray) "Workload catalog is not an array."
  let workloads := input.items
  let ids ← workloads.foldlM (readWorkload payload) []
  let processes := processesOf workloads
  processes.forM (readParent processes)
  let claims ← (groupsOf workloads).foldlM (readGroup payload processes) ([],[])
  processes.forM (fun process => reject (groupingInconsistent claims.1 process)
    "Process grouping state is inconsistent.")
  let visible := payload.get "visible_process_count"
  reject (!safeInteger visible || !safeInteger (payload.get "total_process_count") ||
      !visible.same (.nat ids.length) || (payload.get "total_process_count").lt (.nat ids.length))
    "Process counts are inconsistent."
  if includeContributors then readContributors payload else .ok ()

end BatCave.Reader
