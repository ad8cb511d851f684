import BatCave.Lib.Distinct
import BatCave.Protocol.Payload

/-! What the writer checks of a set of workloads: identities, parents, groups with their
members and coverage, and the observations of every subject. -/
namespace BatCave.Protocol
open BatCave.Contracts BatCave.Lib BatCave.Lib.Result BatCave.Lib.Text

section Checks

/-- `valid_js_safe_decimal`. Digits take one byte each, so the lengths are those of the text. -/
def validJsSafeDecimal (value : String) (allowZero : Bool) : Option Nat :=
  if value.toList.isEmpty || (1 < value.toList.length && value.toList.head?==some '0') ||
      !value.toList.all Char.isDigit then none
  else (parseU64 value).filter (fun parsed =>
    parsed ≤ jsMaxSafeInteger && (allowZero || 0 < parsed))

def WorkloadDetailV4.process? : WorkloadDetailV4 → Option ProcessDetailV4
  | .process detail => some detail
  | .group _ => none

def WorkloadDetailV4.group? : WorkloadDetailV4 → Option GroupDetailV4
  | .process _ => none
  | .group detail => some detail

def processDetails (workloads : List WorkloadDetailV4) : List ProcessDetailV4 :=
  workloads.filterMap WorkloadDetailV4.process?

def groupDetails (workloads : List WorkloadDetailV4) : List GroupDetailV4 :=
  workloads.filterMap WorkloadDetailV4.group?

/-- `known_processes.get` -/
def findProcess (known : List ProcessDetailV4) (id : String) : Option ProcessDetailV4 :=
  known.find? (fun process => process.stableId==id)

def expectedProcessId (sampleSeq : Nat) (process : ProcessDetailV4) : String :=
  match process.startTimeMs with
  | some startTime => "process:"++process.pid++":"++toString startTime
  | none => "process:"++process.pid++":publication:"++toString sampleSeq

def identityStabilityInvalid (process : ProcessDetailV4) : Bool :=
  match process.startTimeMs with
  | some startTime => startTime==0 || jsMaxSafeInteger < startTime ||
      process.identityStability != .stable
  | none => process.identityStability != .publication

def validateProcessIdentity (sampleSeq : Nat) (process : ProcessDetailV4) : Except String Unit := do
  reject (identityStabilityInvalid process) "protocol_process_identity_stability_invalid"
  reject ((validJsSafeDecimal process.pid true).isNone ||
      process.stableId != expectedProcessId sampleSeq process)
    "protocol_process_identity_invalid"

/-- `value.trim().is_empty()` -/
def blank (value : String) : Bool := trim value==""

/-- The texts of a process that have to say something. -/
def ProcessDetailV4.texts (process : ProcessDetailV4) : List String :=
  [process.displayName,process.status,process.presentation.groupKey,
    process.presentation.groupLabel,process.presentation.groupCategory,
    process.presentation.iconKind]

/-- The walk up the parents. It takes fuel for every process once, which is enough: a walk
that comes to one twice ends there. -/
def parentCycle (known : List ProcessDetailV4) : Nat → List String → Option String → Bool
  | _,_,none => false
  | 0,_,some _ => true
  | fuel+1,chain,some current => chain.contains current ||
      parentCycle known fuel (current::chain)
        ((findProcess known current).bind (fun process => process.parentProcessId))

def startsBefore : Option Nat → Option Nat → Bool
  | some first,some second => first < second
  | _,_ => false

def validateParent (known : List ProcessDetailV4) (process : ProcessDetailV4) :
    Except String Unit :=
  match process.parentProcessId with
  | none => .ok ()
  | some parentId => do
    let parentPid ← okOr process.parentPid "protocol_parent_identity_invalid"
    let parent ← okOr (findProcess known parentId) "protocol_parent_identity_invalid"
    reject (parent.pid != parentPid || !startsBefore parent.startTimeMs process.startTimeMs ||
        parentId==process.stableId)
      "protocol_parent_identity_invalid"

def validateProcess (known : List ProcessDetailV4) (process : ProcessDetailV4) :
    Except String Unit := do
  reject (process.texts.any blank || process.presentation.groupCount==0)
    "protocol_process_presentation_invalid"
  reject (parentCycle known (known.length+1) [] (some process.stableId))
    "protocol_parent_identity_cycle"
  validateParent known process

def GroupDetailV4.texts (detail : GroupDetailV4) : List String :=
  [detail.groupKey,detail.label,detail.category,detail.iconKind]++
    detail.iconSource.toList++detail.exampleLabel.toList

def GroupDetailV4.presents (detail : GroupDetailV4) (presentation : ProcessPresentationV4) : Bool :=
  presentation.isGrouped && presentation.groupId==some detail.stableId &&
    presentation.groupKey==detail.groupKey && presentation.groupLabel==detail.label &&
    presentation.groupCategory==detail.category &&
    presentation.groupCount==detail.memberIds.length && presentation.iconKind==detail.iconKind

/-- One member of a group; `processGroup` holds those claimed so far. -/
def validateMember (known : List ProcessDetailV4) (detail : GroupDetailV4)
    (processGroup : List String) (member : String) : Except String (List String) := do
  let process ← okOr (findProcess known member) "protocol_dangling_group_member"
  let _ ← reject (processGroup.contains member) "protocol_process_in_multiple_groups"
  let _ ← reject (!detail.presents process.presentation) "protocol_group_presentation_mismatch"
  return member::processGroup

/-- The coverage of one observation of a group. -/
def validateCoverage (payload : PublicationFacts) (detail : GroupDetailV4)
    (observation : MetricObservation) : Except String Unit :=
  match detail.coverage.filter (fun coverage =>
      coverage.descriptorIndex==observation.descriptorIndex) with
  | [coverage] => do
    reject (coverage.totalContributors != detail.memberIds.length ||
        coverage.totalContributors < coverage.availableContributors)
      "protocol_group_coverage_invalid"
    validateLimitationIndex payload coverage.limitationIndex
    reject (coverage.limitationIndex != observation.limitationIndex)
      "protocol_group_coverage_limitation_mismatch"
    reject (coverage.availableContributors < coverage.totalContributors &&
        coverage.limitationIndex.isNone)
      "protocol_group_coverage_unexplained"
    reject (coverage.availableContributors < coverage.totalContributors &&
        payload.qualityCodes[observation.qualityCode]?.any
          (fun quality => quality==.native || quality==.estimated))
      "protocol_group_quality_coverage_contradiction"
  | _ => .error "protocol_group_coverage_descriptor_mismatch"

/-- One group, with the members claimed and the groups seen so far. -/
def validateGroup (payload : PublicationFacts) (known : List ProcessDetailV4)
    (claims : List String × List String) (detail : GroupDetailV4) :
    Except String (List String × List String) := do
  let _ ← reject (detail.stableId != "group:"++detail.groupKey) "protocol_group_identity_invalid"
  let _ ← reject (claims.2.contains detail.stableId) "protocol_duplicate_group_id"
  let _ ← reject (detail.memberIds.length < 2) "protocol_group_requires_multiple_members"
  let _ ← reject (detail.texts.any blank) "protocol_group_presentation_invalid"
  let _ ← reject (!detail.memberIds.Nodup) "protocol_duplicate_group_member"
  let processGroup ← detail.memberIds.foldlM (validateMember known detail) claims.1
  let _ ← validateObservations payload .group detail.metrics
  let _ ← reject (detail.coverage.length != detail.metrics.length)
    "protocol_group_coverage_count_mismatch"
  let _ ← detail.metrics.forM (validateCoverage payload detail)
  return (processGroup,detail.stableId::claims.2)

def validateWorkload (payload : PublicationFacts) (known : List ProcessDetailV4)
    (claims : List String × List String) : WorkloadDetailV4 →
      Except String (List String × List String)
  | .process detail => do
    let _ ← validateObservations payload .process detail.metrics
    return claims
  | .group detail => validateGroup payload known claims detail

def groupStateMismatch (processGroup : List String) (process : ProcessDetailV4) : Bool :=
  process.presentation.isGrouped != processGroup.contains process.stableId ||
    process.presentation.isGrouped != process.presentation.groupId.isSome ||
    (!process.presentation.isGrouped &&
      (process.presentation.isChild || process.presentation.groupCount != 1))

def validateSystemObservations (payload : PublicationFacts) (system : SystemDetailV4) :
    Except String Unit := do
  validateObservations payload .system system.metrics
  system.logicalCpus.forM (fun logical => validateObservations payload .system logical.metrics)
  system.kernelPoolTags.forM (fun tag => validateObservations payload .system tag.metrics)

/-- `validate_workload_set` -/
def validateWorkloadSet (workloads : List WorkloadDetailV4) (visibleProcessCount : Nat)
    (payload : RuntimeSnapshotPayloadV4) : Except String Unit := do
  let known := processDetails workloads
  reject (!(known.map (fun process => process.stableId)).Nodup) "protocol_duplicate_process_id"
  reject (visibleProcessCount != known.length) "protocol_visible_process_count_mismatch"
  reject (payload.totalProcessCount < visibleProcessCount) "protocol_total_process_count_invalid"
  known.forM (validateProcessIdentity payload.sampleSeq)
  known.forM (validateProcess known)
  validateSystemObservations payload.toPublicationFacts payload.system
  let claims ← workloads.foldlM (validateWorkload payload.toPublicationFacts known) ([],[])
  known.forM (fun process =>
    reject (groupStateMismatch claims.1 process) "protocol_process_group_state_mismatch")

end Checks

section Readable
variable (isBlank : String → Bool)

/-- What is asked of a group; which texts count as blank is up to the reader. -/
structure GroupReadable (payload : PublicationFacts) (known : List ProcessDetailV4)
    (detail : GroupDetailV4) : Prop where
  identity : detail.stableId="group:"++detail.groupKey
  size : 2 ≤ detail.memberIds.length
  texts : detail.texts.any isBlank=false
  presented : ∀ member∈detail.memberIds, ∃ process, findProcess known member=some process ∧
    detail.presents process.presentation=true
  measured : validateObservations payload .group detail.metrics=.ok ()
  counted : detail.coverage.length=detail.metrics.length
  covered : ∀ observation∈detail.metrics, validateCoverage payload detail observation=.ok ()

/-- What is asked of a set of workloads. -/
structure WorkloadsReadable (payload : PublicationFacts) (sampleSeq totalProcessCount : Nat)
    (visibleProcessCount : Nat) (workloads : List WorkloadDetailV4) : Prop where
  distinct : ((processDetails workloads).map (fun process => process.stableId)).Nodup
  visible : visibleProcessCount=(processDetails workloads).length
  total : visibleProcessCount ≤ totalProcessCount
  identity : ∀ process∈processDetails workloads, validateProcessIdentity sampleSeq process=.ok ()
  texts : ∀ process∈processDetails workloads, process.texts.any isBlank=false
  count : ∀ process∈processDetails workloads, process.presentation.groupCount≠0
  parent : ∀ process∈processDetails workloads,
    validateParent (processDetails workloads) process=.ok ()
  measured : ∀ process∈processDetails workloads,
    validateObservations payload .process process.metrics=.ok ()
  groups : ∀ detail∈groupDetails workloads,
    GroupReadable isBlank payload (processDetails workloads) detail
  groupIds : ((groupDetails workloads).map (fun detail => detail.stableId)).Nodup
  members : ((groupDetails workloads).flatMap (fun detail => detail.memberIds)).Nodup
  grouped : ∀ process∈processDetails workloads,
    groupStateMismatch ((groupDetails workloads).flatMap (fun detail => detail.memberIds))
      process=false

end Readable

section Parents
variable {known : List ProcessDetailV4}

theorem findProcess_some {id : String} {process : ProcessDetailV4}
    (h : findProcess known id=some process) : process∈known ∧ process.stableId=id := by
  rw [findProcess] at h
  have hid := List.find?_some h
  exact ⟨List.mem_of_find?_eq_some h,eq_of_beq hid⟩

theorem findProcess_of_mem (hnodup : (known.map (fun process => process.stableId)).Nodup)
    {process : ProcessDetailV4} (hmem : process∈known) :
    findProcess known process.stableId=some process := by
  cases hfound : findProcess known process.stableId with
  | none =>
    have hnone := List.find?_eq_none.1 hfound process hmem
    simp at hnone
  | some found =>
    obtain ⟨hin,hid⟩ := findProcess_some hfound
    rw [List.inj_on_of_nodup_map hnodup hin hmem hid]

theorem validateParent_some {process : ProcessDetailV4} {parentId : String}
    (hid : process.parentProcessId=some parentId) :
    validateParent known process=.ok () ↔ ∃ parent, findProcess known parentId=some parent ∧
      process.parentPid=some parent.pid ∧
      startsBefore parent.startTimeMs process.startTimeMs=true ∧ parentId≠process.stableId := by
  rw [validateParent,hid]
  simp only [okOr_bind_ok,reject_ok,Bool.or_eq_false_iff,bne_eq_false_iff_eq,Bool.not_eq_false',
    beq_eq_false_iff_ne]
  constructor
  · intro h
    obtain ⟨pid,hpid,parent,hparent,⟨hsame,hbefore⟩,hne⟩ := h
    rw [← hsame] at hpid
    exact ⟨parent,hparent,hpid,hbefore,hne⟩
  · intro h
    obtain ⟨parent,hparent,hpid,hbefore,hne⟩ := h
    exact ⟨parent.pid,hpid,parent,hparent,⟨rfl,hbefore⟩,hne⟩

theorem startsBefore_irrefl (start : Option Nat) : startsBefore start start=false := by
  cases start with
  | none => rfl
  | some start => simp [startsBefore]

theorem startsBefore_trans {first second third : Option Nat}
    (h : startsBefore first second=true) (h' : startsBefore second third=true) :
    startsBefore first third=true := by
  cases first with
  | none => cases h
  | some first =>
    cases second with
    | none => cases h
    | some second =>
      cases third with
      | none => cases h'
      | some third =>
        simp only [startsBefore,decide_eq_true_eq] at h h' ⊢
        omega

/-- Where every parent started before its child, no walk comes back; whoever was visited
started after the one that the walk has come to. -/
theorem parentCycle_of_parents (hnodup : (known.map (fun process => process.stableId)).Nodup)
    (hparents : ∀ process∈known, validateParent known process=.ok ()) (fuel : Nat) :
    ∀ (chain : List String) (process : ProcessDetailV4), process∈known → chain.Nodup →
      (∀ id∈chain, ∃ visited∈known, visited.stableId=id ∧
        startsBefore process.startTimeMs visited.startTimeMs=true) →
      chain.length+fuel=known.length+1 →
      parentCycle known fuel chain (some process.stableId)=false := by
  induction fuel with
  | zero =>
    intro chain process hmem hchain hvisited hlength
    have hsub : chain ⊆ known.map (fun process => process.stableId) := by
      intro id hid
      obtain ⟨visited,hin,hsame,_⟩ := hvisited id hid
      exact List.mem_map.2 ⟨visited,hin,hsame⟩
    have hle := (List.subperm_of_subset hchain hsub).length_le
    rw [List.length_map] at hle
    omega
  | succ fuel ih =>
    intro chain process hmem hchain hvisited hlength
    have hnew : process.stableId∉chain := by
      intro hid
      obtain ⟨visited,hin,hsame,hbefore⟩ := hvisited _ hid
      rw [List.inj_on_of_nodup_map hnodup hin hmem hsame,startsBefore_irrefl] at hbefore
      cases hbefore
    have hcontains : chain.contains process.stableId=false := by simpa using hnew
    rw [parentCycle,hcontains,Bool.false_or,findProcess_of_mem hnodup hmem,Option.bind_some]
    cases hparent : process.parentProcessId with
    | none =>
      rw [parentCycle.eq_def]
    | some parentId =>
      obtain ⟨parent,hfound,_,hbefore,_⟩ :=
        (validateParent_some hparent).1 (hparents process hmem)
      obtain ⟨hin,hsame⟩ := findProcess_some hfound
      rw [← hsame]
      refine ih _ parent hin (List.nodup_cons.2 ⟨hnew,hchain⟩) ?_ ?_
      · intro id hid
        cases List.mem_cons.1 hid with
        | inl hself => exact ⟨process,hmem,hself.symm,hbefore⟩
        | inr hold =>
          obtain ⟨visited,hin',hsame',hbefore'⟩ := hvisited id hold
          exact ⟨visited,hin',hsame',startsBefore_trans hbefore hbefore'⟩
      · rw [List.length_cons]
        omega

theorem validateProcess_ok (hnodup : (known.map (fun process => process.stableId)).Nodup) :
    (∀ process∈known, validateProcess known process=.ok ()) ↔
      (∀ process∈known, process.texts.any blank=false) ∧
      (∀ process∈known, process.presentation.groupCount≠0) ∧
      ∀ process∈known, validateParent known process=.ok () := by
  simp only [validateProcess,unit_bind_ok,reject_ok,Bool.or_eq_false_iff,beq_eq_false_iff_ne]
  constructor
  · intro h
    exact ⟨fun process hmem => (h process hmem).1.1,fun process hmem => (h process hmem).1.2,
      fun process hmem => (h process hmem).2.2⟩
  · intro h process hmem
    refine ⟨⟨h.1 process hmem,h.2.1 process hmem⟩,?_,h.2.2 process hmem⟩
    exact parentCycle_of_parents hnodup h.2.2 _ [] process hmem List.nodup_nil nofun (by simp)

end Parents

section Groups
variable {payload : PublicationFacts} {known : List ProcessDetailV4}

theorem validateMembers_ok {detail : GroupDetailV4} {claimed claimed' : List String} :
    detail.memberIds.foldlM (validateMember known detail) claimed=.ok claimed' ↔
      (∀ member∈detail.memberIds, ∃ process, findProcess known member=some process ∧
        detail.presents process.presentation=true) ∧ detail.memberIds.Nodup ∧
      (∀ member∈detail.memberIds, member∉claimed) ∧
      claimed'=detail.memberIds.reverse++claimed := by
  have hstep : ∀ member∈detail.memberIds, Distinct.Adds (Distinct.seen String)
      (fun member => ∃ process, findProcess known member=some process ∧
        detail.presents process.presentation=true) (fun member => [member])
      (validateMember known detail) member := by
    intro member _ s s'
    simp only [validateMember,okOr_bind_ok,unit_bind_ok,reject_ok,pure_ok,Distinct.seen,
      Bool.not_eq_false']
    constructor
    · intro h
      obtain ⟨process,hfound,hnew,hpresents,hs'⟩ := h
      exact ⟨⟨process,hfound,hpresents⟩,List.nodup_singleton member,by simpa using hnew,hs'.symm⟩
    · intro h
      obtain ⟨⟨process,hfound,hpresents⟩,_,hnew,hs'⟩ := h
      exact ⟨process,hfound,by simpa using hnew,hpresents,hs'.symm⟩
  rw [Distinct.foldlM_ok hstep,List.flatMap_singleton',Distinct.foldl_seen]
  rfl

/-- The keys a group adds: its members to one list, itself to the other. -/
def groupKeys (detail : GroupDetailV4) : List (String ⊕ String) :=
  detail.memberIds.map Sum.inl++[Sum.inr detail.stableId]

theorem groupKeys_members (detail : GroupDetailV4) :
    (groupKeys detail).filterMap Sum.getLeft?=detail.memberIds := by
  simp [groupKeys,List.filterMap_map,Function.comp_def]

theorem groupKeys_id (detail : GroupDetailV4) :
    (groupKeys detail).filterMap Sum.getRight?=[detail.stableId] := by
  simp [groupKeys,List.filterMap_map,Function.comp_def]

theorem validateGroup_adds (detail : GroupDetailV4) :
    Distinct.Adds (Distinct.seenBoth String String) (GroupReadable blank payload known)
      groupKeys (validateGroup payload known) detail := by
  intro claims claims'
  simp only [validateGroup,bind_ok,exists_unit,reject_ok,pure_ok,validateMembers_ok,forM_ok,
    decide_eq_false_iff_not,bne_eq_false_iff_eq,Bool.not_eq_false',decide_eq_true_eq,not_lt]
  rw [Distinct.foldl_seenBoth,Distinct.nodup_sum,groupKeys_members,groupKeys_id]
  constructor
  · intro h
    obtain ⟨hidentity,hnew,hsize,htexts,hnodup,_,⟨hpresented,_,hunclaimed,rfl⟩,hmeasured,
      hcounted,hcovered,rfl⟩ := h
    refine ⟨⟨hidentity,hsize,htexts,hpresented,hmeasured,hcounted,hcovered⟩,
      ⟨hnodup,List.nodup_singleton _⟩,?_,rfl⟩
    intro k hk
    cases List.mem_append.1 hk with
    | inl hmember =>
      obtain ⟨member,hin,rfl⟩ := List.mem_map.1 hmember
      exact hunclaimed member hin
    | inr hself =>
      rw [List.mem_singleton.1 hself]
      simpa [Distinct.seenBoth] using hnew
  · intro h
    obtain ⟨hgood,⟨hmembers,_⟩,hnew,rfl⟩ := h
    refine ⟨hgood.identity,?_,hgood.size,hgood.texts,hmembers,_,
      ⟨hgood.presented,hmembers,?_,rfl⟩,hgood.measured,hgood.counted,hgood.covered,rfl⟩
    · have hself := hnew (Sum.inr detail.stableId) (by simp [groupKeys])
      simpa [Distinct.seenBoth] using hself
    · intro member hmember
      exact hnew (Sum.inl member) (by simp [groupKeys,hmember])

/-- What is asked of one workload apart from the keys it adds. -/
def WorkloadReadable (isBlank : String → Bool) (payload : PublicationFacts)
    (known : List ProcessDetailV4) : WorkloadDetailV4 → Prop
  | .process detail => validateObservations payload .process detail.metrics=.ok ()
  | .group detail => GroupReadable isBlank payload known detail

def workloadKeys (workload : WorkloadDetailV4) : List (String ⊕ String) :=
  (workload.group?.map groupKeys).getD []

theorem flatMap_workloadKeys (workloads : List WorkloadDetailV4) :
    workloads.flatMap workloadKeys=(groupDetails workloads).flatMap groupKeys :=
  Distinct.flatMap_picked (fun workload => by cases workload <;> rfl) workloads

theorem forall_workloads {isBlank : String → Bool} {workloads : List WorkloadDetailV4} :
    (∀ workload∈workloads, WorkloadReadable isBlank payload known workload) ↔
      (∀ process∈processDetails workloads,
        validateObservations payload .process process.metrics=.ok ()) ∧
      ∀ detail∈groupDetails workloads, GroupReadable isBlank payload known detail := by
  induction workloads with
  | nil => simp [processDetails,groupDetails]
  | cons workload workloads ih =>
    rw [List.forall_mem_cons,ih]
    cases workload with
    | process detail =>
      simp only [processDetails,groupDetails,List.filterMap_cons,WorkloadDetailV4.process?,
        WorkloadDetailV4.group?,List.forall_mem_cons,WorkloadReadable,and_assoc]
    | group detail =>
      simp only [processDetails,groupDetails,List.filterMap_cons,WorkloadDetailV4.process?,
        WorkloadDetailV4.group?,List.forall_mem_cons,WorkloadReadable,and_left_comm]

theorem validateWorkload_adds (workload : WorkloadDetailV4) :
    Distinct.Adds (Distinct.seenBoth String String) (WorkloadReadable blank payload known)
      workloadKeys (validateWorkload payload known) workload := by
  cases workload with
  | process detail =>
    intro claims claims'
    rw [validateWorkload,unit_bind_ok,pure_ok]
    simp [WorkloadReadable,workloadKeys,WorkloadDetailV4.group?,eq_comm]
  | group detail => exact validateGroup_adds detail

/-- The loop over the workloads, with the members it claims. -/
theorem validateWorkloads_ok {workloads : List WorkloadDetailV4}
    {claims : List String × List String} :
    workloads.foldlM (validateWorkload payload known) ([],[])=.ok claims ↔
      (∀ process∈processDetails workloads,
        validateObservations payload .process process.metrics=.ok ()) ∧
      (∀ detail∈groupDetails workloads, GroupReadable blank payload known detail) ∧
      ((groupDetails workloads).flatMap (fun detail => detail.memberIds)).Nodup ∧
      ((groupDetails workloads).map (fun detail => detail.stableId)).Nodup ∧
      claims=(((groupDetails workloads).flatMap (fun detail => detail.memberIds)).reverse,
        ((groupDetails workloads).map (fun detail => detail.stableId)).reverse) := by
  rw [Distinct.foldlM_ok (fun workload _ => validateWorkload_adds workload),forall_workloads,
    flatMap_workloadKeys,Distinct.foldl_seenBoth,Distinct.nodup_sum,List.filterMap_flatMap,
    List.filterMap_flatMap]
  simp only [groupKeys_members,groupKeys_id,← List.map_eq_flatMap,List.append_nil,and_assoc]
  have hnone : ∀ k : String ⊕ String, ¬(Distinct.seenBoth String String).has ([],[]) k := by
    intro k
    cases k with
    | inl id => simp [Distinct.seenBoth]
    | inr id => simp [Distinct.seenBoth]
  simp [hnone]

theorem groupStateMismatch_reverse (ids : List String) (process : ProcessDetailV4) :
    groupStateMismatch ids.reverse process=groupStateMismatch ids process := by
  have hcontains : ids.reverse.contains process.stableId=ids.contains process.stableId := by
    rw [Bool.eq_iff_iff]
    simp
  rw [groupStateMismatch,hcontains]
  rfl

end Groups

/-- The checks pass exactly for the readable sets, with the writer's notion of a blank. -/
theorem validateWorkloadSet_ok {payload : RuntimeSnapshotPayloadV4} {visible : Nat}
    {workloads : List WorkloadDetailV4} :
    validateWorkloadSet workloads visible payload=.ok () ↔
      WorkloadsReadable blank payload.toPublicationFacts payload.sampleSeq
        payload.totalProcessCount visible workloads ∧
      validateSystemObservations payload.toPublicationFacts payload.system=.ok () := by
  simp only [validateWorkloadSet,bind_ok,exists_unit,reject_ok,forM_ok,validateWorkloads_ok,
    Bool.not_eq_false',decide_eq_true_eq,decide_eq_false_iff_not,not_lt,bne_eq_false_iff_eq]
  constructor
  · intro h
    obtain ⟨hdistinct,hvisible,htotal,hidentity,hprocess,hsystem,_,
      ⟨hmeasured,hgroups,hmembers,hids,rfl⟩,hgrouped⟩ := h
    obtain ⟨htexts,hcount,hparent⟩ := (validateProcess_ok hdistinct).1 hprocess
    refine ⟨⟨hdistinct,hvisible,htotal,hidentity,htexts,hcount,hparent,hmeasured,hgroups,hids,
      hmembers,?_⟩,hsystem⟩
    intro process hmem
    rw [← groupStateMismatch_reverse]
    exact hgrouped process hmem
  · intro h
    obtain ⟨h,hsystem⟩ := h
    refine ⟨h.distinct,h.visible,h.total,h.identity,
      (validateProcess_ok h.distinct).2 ⟨h.texts,h.count,h.parent⟩,hsystem,_,
      ⟨h.measured,h.groups,h.members,h.groupIds,rfl⟩,?_⟩
    intro process hmem
    rw [groupStateMismatch_reverse]
    exact h.grouped process hmem

end BatCave.Protocol
