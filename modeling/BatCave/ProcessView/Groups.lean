import BatCave.ProcessView.Ranking
import BatCave.WorkloadIdentity.Membership

/-! The groups of a sample: which processes belong together, what they add up to, and how
sure each of the sums is. -/
namespace BatCave.ProcessView
open BatCave.Contracts BatCave.Lib BatCave.Lib.Word BatCave.Lib.Text
open BatCave.WorkloadIdentity (BatCaveWorkloadContext WorkloadMembership
  workloadMembershipsWithContext workloadMemberships)

inductive GroupMetric where
  | cpu | memory | io | otherIo | network | threads
  deriving DecidableEq, Repr

section Metrics
variable (process : ProcessSample) (metric : GroupMetric)

def groupMetricQuality : Option MetricQualityInfo :=
  process.quality.bind (fun quality =>
    match metric with
    | .cpu => quality.cpu
    | .memory => quality.memory
    | .io => quality.io
    | .otherIo => quality.otherIo
    | .network => quality.network
    | .threads => quality.threads)

def groupMetricHasValue : Bool :=
  match metric with
  | .otherIo => false
  | .network => process.networkReceivedBps.isSome || process.networkTransmittedBps.isSome
  | _ => true

def groupMetricAvailable : Bool :=
  groupMetricHasValue process metric &&
    (groupMetricQuality process metric).any (fun quality =>
      !(quality.quality==.unavailable || quality.quality==.held))

/-- Held values count too, if they were observed once. -/
def groupMetricHasObservedValue : Bool :=
  groupMetricAvailable process metric ||
    (groupMetricHasValue process metric &&
      (groupMetricQuality process metric).any (fun quality =>
        quality.quality==.held && quality.limitationCode==some .heldValue &&
          quality.updatedAtMs.isSome))

end Metrics

section Identity
variable (lower : Lowercase)

structure ProcessIdentity where
  iconKind : String
  category : String
  deriving DecidableEq, Repr

def matchesAny (haystack : String) (needles : List String) : Bool := needles.any (contains haystack)

/-- The kinds of `process_identity`, in the order they are tried. -/
def processKinds : List (List String × ProcessIdentity) :=
  [(["batcave"],⟨"batcave","BatCave"⟩),
    (["chrome","msedge","firefox","brave","browser"],⟨"browser","Browsers"⟩),
    (["code.exe","visual studio code","\\code\\","/code/"],⟨"code","Developer tools"⟩),
    (["node","npm","deno","bun.exe"],⟨"node","Runtimes"⟩),
    (["docker"],⟨"container","Containers"⟩),
    (["postgres","mysql","redis","sqlserver","mariadb"],⟨"database","Databases"⟩),
    (["slack","teams","discord","zoom"],⟨"chat","Communication"⟩),
    (["spotify","vlc","media player"],⟨"media","Media"⟩),
    (["dropbox","onedrive","googledrive"],⟨"sync","Sync"⟩),
    (["nvidia","amd","radeon","intel graphics"],⟨"gpu","GPU"⟩),
    (["applicationframehost","conhost","ctfmon","dwm","explorer.exe","phoneexperiencehost",
      "searchindexer","securityhealthservice","shellexperiencehost","sihost",
      "startmenuexperiencehost","svchost","textinputhost","widgetservice","windows"],
      ⟨"windows","Windows"⟩)]

/-- `process_identity` -/
def processIdentity (process : ProcessSample) : ProcessIdentity :=
  let haystack := lower.apply (process.name++" "++process.exe)
  ((processKinds.find? (fun kind => matchesAny haystack kind.1)).map Prod.snd).getD
    ⟨"process","Processes"⟩

/-- `rsplit_once`, on characters. -/
def rsplitOnce (separator : Char) (text : List Char) : Option (List Char × List Char) :=
  let suffix := text.reverse.takeWhile (· ≠ separator)
  if suffix.length=text.length then none
  else some (text.take (text.length-suffix.length-1),suffix.reverse)

/-- `normalized_process_name`: a number behind the stem of an executable is dropped. The
last four bytes are the four characters of the extension. -/
def normalizedProcessName (name : String) : String :=
  if !".exe".toList.isSuffixOf (lower.apply name).toList then name
  else
    match rsplitOnce '-' (name.toList.take (name.length-4)) with
    | some (base,suffix) =>
      if suffix≠[] ∧ suffix.all Char.isDigit then String.ofList base++".exe" else name
    | none => name

def processAppLabel (process : ProcessSample) : String := normalizedProcessName lower process.name

end Identity

structure ProcessAppGroup where
  key : String
  label : String
  category : String
  iconKind : String
  presentationProcess : ProcessSample
  processes : List ProcessSample := []
  cpuPercent : Float := 0.0
  memoryBytes : Nat := 0
  ioBps : Nat := 0
  networkBps : Nat := 0
  threads : Nat := 0
  ranking : ProcessRankingValues := {}
  memberRanking : List ProcessRankingValues := []
  display : ProcessRankingValues := {}
  memberDisplay : List ProcessRankingValues := []
  deriving DecidableEq, Repr

section Groups
variable (lower : Lowercase)

/-- A group without members, which the representative presents. -/
def newGroup (membership : WorkloadMembership) (representative : ProcessSample) :
    ProcessAppGroup :=
  let identity := processIdentity lower representative
  { key := membership.key
    label := if membership.batcave then "BatCave" else processAppLabel lower representative
    category := if membership.batcave then "BatCave" else identity.category
    iconKind := if membership.batcave then "batcave" else identity.iconKind
    presentationProcess := representative }

/-- What a member shows: metrics that nothing was observed of contribute nothing. -/
def memberDisplayValues (history : RankingHistory) (process : ProcessSample) :
    ProcessRankingValues :=
  let values := displayValuesFor history process
  { values with
    cpuPercent := if groupMetricHasObservedValue process .cpu then values.cpuPercent else 0.0
    ioBps := if groupMetricHasObservedValue process .io then values.ioBps else 0
    networkBps := if groupMetricHasObservedValue process .network then values.networkBps else 0 }

/-- The body of the loop over the processes, for the group of the process. -/
def ProcessAppGroup.absorb (history : RankingHistory) (group : ProcessAppGroup)
    (process : ProcessSample) : ProcessAppGroup :=
  let ranking := rankingValuesFor history process
  let display := memberDisplayValues history process
  { group with
    cpuPercent := if groupMetricHasObservedValue process .cpu then
        group.cpuPercent+process.cpuPercent else group.cpuPercent
    memoryBytes := if groupMetricHasObservedValue process .memory then
        satAdd group.memoryBytes process.memoryBytes else group.memoryBytes
    ioBps := if groupMetricHasObservedValue process .io then
        satAdd group.ioBps (processIoRate process) else group.ioBps
    networkBps := if groupMetricHasObservedValue process .network then
        satAdd group.networkBps (processNetworkRate process) else group.networkBps
    threads := if groupMetricHasObservedValue process .threads then
        satAdd group.threads process.threads else group.threads
    ranking := {
      cpuPercent := group.ranking.cpuPercent+ranking.cpuPercent
      ioBps := satAdd group.ranking.ioBps ranking.ioBps
      networkBps := satAdd group.ranking.networkBps ranking.networkBps
      established := group.ranking.established || ranking.established }
    memberRanking := group.memberRanking++[ranking]
    display := { group.display with
      cpuPercent := group.display.cpuPercent+display.cpuPercent
      ioBps := satAdd group.display.ioBps display.ioBps
      networkBps := satAdd group.display.networkBps display.networkBps }
    memberDisplay := group.memberDisplay++[display]
    processes := group.processes++[process] }

/-- One turn of the loop. `group_indexes` finds the group of a key; the representative is a
row of the sample. -/
def addToGroups (history : RankingHistory) (processes : List ProcessSample)
    (groups : List ProcessAppGroup) (member : ProcessSample × WorkloadMembership) :
    List ProcessAppGroup :=
  match groups.findIdx? (fun group => group.key==member.2.key) with
  | some index => groups.modify index (fun group => group.absorb history member.1)
  | none =>
    groups++[(newGroup lower member.2
      (processes[member.2.representativeIndex]?.getD member.1)).absorb history member.1]

variable (sha256 : List UInt8 → List UInt8)

/-- `build_process_groups_with_context` -/
def buildProcessGroupsWithContext (processes : List ProcessSample) (history : RankingHistory)
    (context : Option BatCaveWorkloadContext) : List ProcessAppGroup :=
  let memberships := match context with
    | some context => workloadMembershipsWithContext processes (some context) sha256
    | none => workloadMemberships processes sha256
  (processes.zip memberships).foldl (addToGroups lower history processes) []

/-- `build_process_groups` -/
def buildProcessGroups (processes : List ProcessSample) (history : RankingHistory) :
    List ProcessAppGroup :=
  buildProcessGroupsWithContext lower sha256 processes history none

end Groups
end BatCave.ProcessView
