import BatCave.Protocol.ViewShape
import BatCave.RuntimeStore.ReadHealth

/-! An encoded view passes the checks of a set of workloads, whatever was filtered, limited or
selected for the overview. -/
namespace BatCave.Protocol
open BatCave.Contracts BatCave.Lib BatCave.Lib.Binary64 BatCave.Lib.Result BatCave.Lib.Text
open BatCave.ProcessView CatalogBuilder
open BatCave.WorkloadIdentity (BatCaveWorkloadContext)
open BatCave.WorkloadHistory (RuntimePlatform)

section Requests

theorem scope_processRequests (platform : RuntimePlatform) (process : ProcessSample) :
    ∀ r∈processRequests platform process, r.definition.scope=.process := by
  have hscope : (processRequests platform process).map (fun r => r.definition.scope)=
      List.replicate 15 .process := rfl
  intro r hr
  have hmem := List.mem_map_of_mem (f := fun r : Request => r.definition.scope) hr
  rw [hscope] at hmem
  exact List.eq_of_mem_replicate hmem

theorem semantics_processRequests (platform : RuntimePlatform) (process : ProcessSample) :
    ((processRequests platform process).map (fun r => r.definition.semantic)).Nodup := by
  have hsemantics : (processRequests platform process).map (fun r => r.definition.semantic)=
      [.cpuUsage,.kernelCpuUsage,.residentMemory,.privateMemory,.virtualMemory,.readIoTotal,
        .writeIoTotal,.otherIoTotal,.readIoRate,.writeIoRate,.otherIoRate,.networkReceiveRate,
        .networkTransmitRate,.threadCount,.handleCount] := rfl
  rw [hsemantics]
  decide

theorem scope_groupSpecs (detail : GroupDetail) :
    ∀ r∈(groupSpecs detail).map Prod.fst, r.definition.scope=.group := by
  have hscope : ((groupSpecs detail).map Prod.fst).map (fun r => r.definition.scope)=
      List.replicate 6 .group := rfl
  intro r hr
  have hmem := List.mem_map_of_mem (f := fun r : Request => r.definition.scope) hr
  rw [hscope] at hmem
  exact List.eq_of_mem_replicate hmem

theorem semantics_groupSpecs (detail : GroupDetail) :
    ((groupSpecs detail).map (fun spec => spec.1.definition.semantic)).Nodup := by
  have hsemantics : (groupSpecs detail).map (fun spec => spec.1.definition.semantic)=
      [.cpuUsage,.residentMemory,.readWriteIoRate,.otherIoRate,.networkRate,.threadCount] := rfl
  rw [hsemantics]
  decide

variable (platform : RuntimePlatform) {row : ProcessViewRow}

theorem rowRequests_process {process : ProcessSample} (h : rowProcess? row=some process) :
    rowRequests platform row=processRequests platform process := by
  cases row with
  | process detail key label category count icon child grouped attention =>
    rw [← Option.some.inj h]
    rfl
  | group detail icon source label attention => cases h

theorem rowRequests_group {detail : GroupDetail} (h : rowGroup row=some detail) :
    rowRequests platform row=(groupSpecs detail).map Prod.fst := by
  cases row with
  | process own key label category count icon child grouped attention => cases h
  | group own icon source label attention =>
    rw [← Option.some.inj h]
    rfl

theorem rowFits_group {detail : GroupDetail} (h : rowGroup row=some detail)
    (hfits : ∀ spec∈groupSpecs detail, spec.2.available < 2^32 ∧ spec.2.total < 2^32) :
    rowFits row := by
  cases row with
  | process own key label category count icon child grouped attention => cases h
  | group own icon source label attention =>
    rw [← Option.some.inj h] at hfits
    exact hfits

end Requests

section Texts
variable {tables : RowTables} {process : ProcessSample} {presentation : ProcessPresentationV4}

theorem texts_of_head {detail : ProcessDetailV4}
    (h : detail.toProcessHeadV4=processHead tables process presentation) :
    detail.texts=[process.name,process.status,presentation.groupKey,presentation.groupLabel,
      presentation.groupCategory,presentation.iconKind] := by
  obtain ⟨head,metrics⟩ := detail
  simp only at h
  rw [h]
  rfl

variable {lower : Lowercase} {group : ProcessAppGroup} {detail : GroupDetailV4}

theorem texts_of_groupHead (h : detail.toGroupHeadV4=shownGroupHead tables group) :
    detail.texts=[group.key,group.label,group.category,group.iconKind]++
      (if trim group.presentationProcess.exe="" then none
        else some group.presentationProcess.exe).toList++
      (if group.presentationProcess.name=group.label then none
        else some group.presentationProcess.name).toList := by
  obtain ⟨head,metrics,coverage⟩ := detail
  simp only at h
  rw [h]
  rfl

/-- What a group is called is not blank if its name, category and icon are not. -/
theorem groupTexts_spoken (hkey : trim group.key≠"") (hlabel : trim group.label≠"")
    (hcategory : trim group.category≠"") (hicon : trim group.iconKind≠"")
    (hname : trim group.presentationProcess.name≠"") :
    ∀ text∈[group.key,group.label,group.category,group.iconKind]++
      (if trim group.presentationProcess.exe="" then none
        else some group.presentationProcess.exe).toList++
      (if group.presentationProcess.name=group.label then none
        else some group.presentationProcess.name).toList, trim text≠"" := by
  intro text htext
  rw [List.mem_append,List.mem_append] at htext
  obtain (hown | hexe) | hexample := htext
  · simp only [List.mem_cons,List.not_mem_nil,or_false] at hown
    obtain rfl | rfl | rfl | rfl := hown
    · exact hkey
    · exact hlabel
    · exact hcategory
    · exact hicon
  · split at hexe
    · cases hexe
    · next hspoken =>
      rw [Option.toList_some,List.mem_singleton] at hexe
      rwa [hexe]
  · split at hexample
    · cases hexample
    · rw [Option.toList_some,List.mem_singleton] at hexample
      rwa [hexample]

/-- A member is presented as its group is. -/
theorem presents_of_groupHead (h : detail.toGroupHeadV4=shownGroupHead tables group)
    (hmany : 1 < group.processes.length)
    (hlength : detail.memberIds.length=group.processes.length) :
    detail.presents (memberPresentation lower group process)=true := by
  have hid : detail.stableId="group:"++group.key := congrArg GroupHeadV4.stableId h
  have hkey : detail.groupKey=group.key := congrArg GroupHeadV4.groupKey h
  have hlabel : detail.label=group.label := congrArg GroupHeadV4.label h
  have hcategory : detail.category=group.category := congrArg GroupHeadV4.category h
  have hicon : detail.iconKind=group.iconKind := congrArg GroupHeadV4.iconKind h
  simp [GroupDetailV4.presents,memberPresentation,processPresentation,hmany,hid,hkey,hlabel,
    hcategory,hicon,hlength]

end Texts

section View
variable {lower : Lowercase} {sha256 : List UInt8 → List UInt8} {history : RankingHistory}
  {processes : List ProcessSample} {context : Option BatCaveWorkloadContext}
  {query : RuntimeQuery} {shown : List ProcessAppGroup} {sampleSeq interval : Nat}
  {platform : RuntimePlatform} {payload : PublicationFacts} {ws : List WorkloadDetailV4}

variable (lower sha256 history processes context shown) in
/-- Some groups of a sound sample. -/
structure ShownView (sampledAtMs : Option Nat) (publishedAtMs : Nat) : Prop where
  sample : SampleSound processes history sampledAtMs publishedAtMs
  selected : shown.Subperm (buildProcessGroupsWithContext lower sha256 processes history context)
  time : ∀ sampled, sampledAtMs=some sampled → sampled ≤ publishedAtMs

section Shown
variable {sampledAtMs : Option Nat} {publishedAtMs : Nat}
  (h : ShownView lower sha256 history processes context shown sampledAtMs publishedAtMs)

include h

theorem ShownView.adds : ∀ group∈shown, Adds group := (shown_adds h.selected).1

theorem ShownView.keys : (shown.map (·.key)).Nodup := (shown_adds h.selected).2.1

theorem ShownView.subperm : (shown.flatMap (·.processes)).Subperm processes :=
  (shown_adds h.selected).2.2

theorem ShownView.mem {group : ProcessAppGroup} (hgroup : group∈shown)
    {process : ProcessSample} (hprocess : process∈group.processes) : process∈processes :=
  h.subperm.subset (List.mem_flatMap.mpr ⟨group,hgroup,hprocess⟩)

/-- The shown members are identified as the sample is. -/
theorem ShownView.identified : Identified (shown.flatMap (·.processes)) := by
  refine h.sample.identified.of_subperm ?_
  obtain ⟨kept,hperm,hsublist⟩ := h.subperm
  exact ⟨kept.map identityOf,hperm.map identityOf,hsublist.map identityOf⟩

theorem ShownView.mem_groups {group : ProcessAppGroup} (hgroup : group∈shown) :
    group∈buildProcessGroupsWithContext lower sha256 processes history context :=
  h.selected.subset hgroup

theorem ShownView.presents {group : ProcessAppGroup} (hgroup : group∈shown) :
    Presents processes group :=
  presents_build lower sha256 context h.sample.history h.sample.named
    (fun process hprocess => (h.sample.metrics process hprocess).cpu) group (h.mem_groups hgroup)

theorem ShownView.shown_metrics {group : ProcessAppGroup} (hgroup : group∈shown)
    {process : ProcessSample} (hprocess : process∈group.processes) :
    MetricsSound sampledAtMs publishedAtMs (shownProcess (displayByWorkload
      (buildProcessGroupsWithContext lower sha256 processes history context)) process) := by
  refine metrics_shownProcess h.sample process (h.mem hgroup hprocess) ?_
  refine display_member (displays_build lower sha256 history processes context)
    (h.mem_groups hgroup) hprocess ?_
  intro other hother sample hsample hsame
  exact List.inj_on_of_nodup_map h.sample.identified.distinct (mem_of_mem_group hother hsample)
    (h.mem hgroup hprocess) (congrArg Prod.fst hsame)

variable (platform) in
/-- The rows ask for observations that are accepted, and their counts fit. -/
theorem ShownView.rows_accepted (hfew : processes.length < 2^32) {row : ProcessViewRow}
    (hrow : row∈viewRows lower query (displayByWorkload
      (buildProcessGroupsWithContext lower sha256 processes history context)) shown) :
    rowFits row ∧ ∀ r∈rowRequests platform row, RequestAccepted sampledAtMs publishedAtMs r := by
  obtain ⟨group,hgroup,hstands⟩ := (mem_viewRows lower query _ h.adds).mp hrow
  have hmembers : group.processes.length ≤ processes.length := by
    refine le_trans ?_ h.subperm.length_le
    exact (List.sublist_flatten_of_mem (List.mem_map_of_mem hgroup)).length_le
  cases hstands with
  | inl hof =>
    obtain ⟨_,rfl⟩ := hof
    have hsound := groupSpecs_sound (h.adds group hgroup).nonempty
      (fun process hprocess => (h.sample.metrics process (h.mem hgroup hprocess)).qualities)
      (summarizes_shownDetail h.sample (h.mem_groups hgroup))
    refine ⟨rowFits_group (rowGroup_shown _ group) ?_,?_⟩
    · intro spec hspec
      obtain ⟨metric,_,hcover⟩ := (hsound spec hspec).summary
      have hle := @availableCount_le group.processes metric
      rw [hcover]
      refine ⟨?_,?_⟩
      · exact lt_of_le_of_lt (hle.trans hmembers) hfew
      · exact lt_of_le_of_lt hmembers hfew
    · intro r hr
      rw [rowRequests_group platform (rowGroup_shown _ group)] at hr
      obtain ⟨spec,hspec,rfl⟩ := List.mem_map.mp hr
      exact (hsound spec hspec).accepted
  | inr hof =>
    obtain ⟨process,hprocess,rfl⟩ := hof
    refine ⟨lt_of_le_of_lt hmembers hfew,?_⟩
    intro r hr
    rw [rowRequests_process platform (rowProcess_shown lower _ group process)] at hr
    exact processRequests_accepted (h.shown_metrics hgroup hprocess) platform r hr

end Shown

variable (lower sha256 history processes context query shown sampleSeq interval platform payload
  ws) in
/-- The workloads that are encoded of some groups of a sample. -/
structure EncodedView : Prop extends ShownView lower sha256 history processes context shown
    payload.sampledAtMs payload.publishedAtMs where
  codes : payload.qualityCodes=qualityCodes
  recorded :
    let rows := viewRows lower query (displayByWorkload
      (buildProcessGroupsWithContext lower sha256 processes history context)) shown
    List.Forall₂ (RowRecorded (rowTables rows sampleSeq) platform interval payload.sampledAtMs
      payload.toCatalogs) rows ws

section Encoded
variable (h : EncodedView lower sha256 history processes context query shown sampleSeq interval
  platform payload ws)

include h

/-- No two ids of processes are the same, and every parent passes. -/
theorem EncodedView.parents :
    ((processDetails ws).map (fun detail => detail.stableId)).Nodup ∧
      ∀ detail∈processDetails ws, validateParent (processDetails ws) detail=.ok () := by
  have hrows := h.identified.of_subperm (identities_viewRows lower query (displayByWorkload
    (buildProcessGroupsWithContext lower sha256 processes history context)) h.adds).subperm
  refine @validateParent_identified _ (rowTables _ sampleSeq) _ hrows rfl ?_
  have hheads := heads_of_processes (rowTables (viewRows lower query (displayByWorkload
    (buildProcessGroupsWithContext lower sha256 processes history context)) shown) sampleSeq)
    (viewRows lower query (displayByWorkload
      (buildProcessGroupsWithContext lower sha256 processes history context)) shown)
  rw [← processHeads_eq (heads_recorded h.recorded),List.forall₂_map_right_iff] at hheads
  exact hheads

/-- The observations of every process pass. -/
theorem EncodedView.measured : ∀ detail∈processDetails ws,
    validateObservations payload .process detail.metrics=.ok () := by
  intro detail hdetail
  obtain ⟨group,hgroup,process,hprocess,_,hmetrics⟩ := process_recorded h.adds h.recorded hdetail
  refine (validateObservations_ok h.codes (scope_processRequests platform _) hmetrics).mpr
    ⟨semantics_processRequests platform _,?_⟩
  intro r hr
  exact (processRequests_accepted (h.shown_metrics hgroup hprocess) platform r hr).accepted h.time

theorem EncodedView.identity : ∀ detail∈processDetails ws,
    validateProcessIdentity sampleSeq detail=.ok () := by
  intro detail hdetail
  obtain ⟨group,hgroup,process,hprocess,hhead,_⟩ := process_recorded h.adds h.recorded hdetail
  have hmem := h.mem hgroup hprocess
  obtain ⟨n,hn,hpid⟩ := h.sample.identified.decimal process hmem
  have hpass := validateProcessIdentity_head hhead hpid hn
    (h.sample.identified.start process hmem)
  exact hpass

/-- What a process and its group are called is not blank. -/
theorem EncodedView.texts : ∀ detail∈processDetails ws,
    detail.texts.any blank=false ∧ detail.presentation.groupCount≠0 := by
  intro detail hdetail
  obtain ⟨group,hgroup,process,hprocess,hhead,_⟩ := process_recorded h.adds h.recorded hdetail
  have hpresents := h.presents hgroup
  have hkey := key_spoken lower history (h.mem_groups hgroup) (h.adds group hgroup).nonempty
  have hname := h.sample.named process (h.mem hgroup hprocess)
  have hstatus := h.sample.status process (h.mem hgroup hprocess)
  have hpositive := List.length_pos_iff.mpr (h.adds group hgroup).nonempty
  have hicon : trim (memberPresentation lower group process).iconKind≠"" := by
    simp only [memberPresentation,processPresentation]
    split
    · exact hpresents.icon
    · exact (processIdentity_spoken process).1
  refine ⟨?_,?_⟩
  · rw [texts_of_head hhead]
    have hall : ∀ text∈[process.name,process.status,group.key,group.label,group.category,
        (memberPresentation lower group process).iconKind], trim text≠"" := by
      simp only [List.forall_mem_cons]
      exact ⟨hname,hstatus,hkey,hpresents.label,hpresents.category,hicon,nofun⟩
    rw [List.any_eq_false]
    intro text htext
    rw [blank,beq_iff_eq]
    exact hall text htext
  · have hcount : detail.presentation.groupCount=group.processes.length :=
      congrArg (fun head => head.presentation.groupCount) hhead
    omega

/-- A member of a group is found under its id, with the presentation of the group. -/
theorem EncodedView.presented {group : ProcessAppGroup} (hgroup : group∈shown)
    {process : ProcessSample} (hprocess : process∈group.processes) :
    ∃ detail, findProcess (processDetails ws) (stableProcessSampleId process sampleSeq)=
      some detail ∧
      detail.presentation=memberPresentation lower group process := by
  obtain ⟨detail,hdetail,hhead⟩ := process_of_member h.adds h.recorded hgroup hprocess
  have hid : detail.stableId=stableProcessSampleId process sampleSeq :=
    congrArg ProcessHeadV4.stableId hhead
  refine ⟨detail,?_,congrArg ProcessHeadV4.presentation hhead⟩
  rw [← hid]
  exact findProcess_of_mem h.parents.1 hdetail

/-- The members that a group lists are those of the shown group. -/
theorem EncodedView.memberIds {detail : GroupDetailV4} {group : ProcessAppGroup}
    (hgroup : group∈shown) (hmany : 1 < group.processes.length)
    (hhead : detail.toGroupHeadV4=shownGroupHead (rowTables (viewRows lower query
      (displayByWorkload (buildProcessGroupsWithContext lower sha256 processes history context))
      shown) sampleSeq) group) : detail.memberIds.Perm
        (group.processes.map (fun process => stableProcessSampleId process sampleSeq)) := by
  have hids := congrArg GroupHeadV4.memberIds hhead
  rw [hids]
  exact memberIds_perm h.adds h.keys hgroup hmany

theorem EncodedView.group_readable : ∀ detail∈groupDetails ws,
    GroupReadable blank payload (processDetails ws) detail := by
  intro detail hdetail
  obtain ⟨group,hgroup,hmany,hhead,os,hos,hmetrics,hcoverage⟩ :=
    group_recorded h.adds h.recorded hdetail
  have hids := h.memberIds hgroup hmany hhead
  have hlength : detail.memberIds.length=group.processes.length := by
    rw [hids.length_eq,List.length_map]
  have hpresents := h.presents hgroup
  have hne := (h.adds group hgroup).nonempty
  have hsound := groupSpecs_sound hne
    (fun process hprocess => (h.sample.metrics process (h.mem hgroup hprocess)).qualities)
    (summarizes_shownDetail h.sample (h.mem_groups hgroup))
  have hfirst : List.Forall₂ (fun r o => Request.Recorded r interval payload.sampledAtMs
      payload.toCatalogs o) ((groupSpecs (shownDetail (displayByWorkload
        (buildProcessGroupsWithContext lower sha256 processes history context)) group)).map
          Prod.fst) (os.map Prod.fst) := by
    rw [List.forall₂_map_left_iff,List.forall₂_map_right_iff]
    exact hos.imp (fun _ _ hrecorded => hrecorded.observation)
  refine ⟨?_,by omega,?_,?_,?_,?_,?_⟩
  · have hid : detail.stableId="group:"++group.key := congrArg GroupHeadV4.stableId hhead
    have hkey : detail.groupKey=group.key := congrArg GroupHeadV4.groupKey hhead
    rw [hid,hkey]
  · have hall : ∀ text∈detail.texts, trim text≠"" := by
      rw [texts_of_groupHead hhead]
      refine groupTexts_spoken ?_ hpresents.label hpresents.category hpresents.icon
        (h.sample.named _ hpresents.presented)
      exact key_spoken lower history (h.mem_groups hgroup) hne
    rw [List.any_eq_false]
    intro text htext
    rw [blank,beq_iff_eq]
    exact hall text htext
  · intro member hmember
    obtain ⟨process,hprocess,rfl⟩ := List.mem_map.mp (hids.mem_iff.mp hmember)
    obtain ⟨found,hfound,hpresentation⟩ := h.presented hgroup hprocess
    refine ⟨found,hfound,?_⟩
    rw [hpresentation]
    exact presents_of_groupHead hhead hmany hlength
  · rw [hmetrics]
    refine (validateObservations_ok h.codes (scope_groupSpecs _) hfirst).mpr ⟨?_,?_⟩
    · rw [List.map_map]
      exact semantics_groupSpecs _
    · intro r hr
      obtain ⟨spec,hspec,rfl⟩ := List.mem_map.mp hr
      exact (hsound spec hspec).accepted.accepted h.time
  · rw [hmetrics,hcoverage,List.length_map,List.length_map]
  · rw [hmetrics]
    exact validateCoverage_sound h.codes h.time hsound (semantics_groupSpecs _) hos hcoverage
      hlength

/-- The ids of the groups differ, and each process is listed by the group it belongs to. -/
theorem EncodedView.membership :
    ((groupDetails ws).map (fun detail => detail.stableId)).Nodup ∧
      ((groupDetails ws).flatMap (fun detail => detail.memberIds)).Nodup ∧
      ∀ detail∈processDetails ws, groupStateMismatch
        ((groupDetails ws).flatMap (fun detail => detail.memberIds)) detail=false := by
  have hheads := groupHeads_eq (heads_recorded h.recorded)
  rw [groupHeads_viewRows lower query _ _ h.adds] at hheads
  have hids := stableIds_nodup sampleSeq h.identified
  rw [List.map_flatMap] at hids
  have hmembers : ((groupDetails ws).flatMap (fun detail => detail.memberIds)).Perm
      ((shown.filter (fun group => 1 < group.processes.length)).flatMap (fun group =>
        group.processes.map (fun process => stableProcessSampleId process sampleSeq))) := by
    have hflat : (groupDetails ws).flatMap (fun detail => detail.memberIds)=
        ((groupDetails ws).map GroupDetailV4.toGroupHeadV4).flatMap GroupHeadV4.memberIds := by
      rw [List.flatMap_map]
    rw [hflat,hheads,List.flatMap_map]
    refine List.Perm.flatMap_left _ ?_
    intro group hgroup
    obtain ⟨hmem,hmany⟩ := List.mem_filter.mp hgroup
    exact memberIds_perm h.adds h.keys hmem (by simpa using hmany)
  refine ⟨?_,?_,?_⟩
  · have hmap : (groupDetails ws).map (fun detail => detail.stableId)=
        ((groupDetails ws).map GroupDetailV4.toGroupHeadV4).map GroupHeadV4.stableId := by
      rw [List.map_map]
      rfl
    have hkeys : ((shown.filter (fun group => 1 < group.processes.length)).map (·.key)).Nodup :=
      h.keys.sublist (List.filter_sublist.map _)
    have hworkload := hkeys.map (fun a b hab => groupWorkloadId_inj hab)
    rw [List.map_map] at hworkload
    rw [hmap,hheads,List.map_map]
    exact hworkload
  · refine hmembers.nodup_iff.mpr (hids.sublist ?_)
    exact List.filter_sublist.flatMap _
  · intro detail hdetail
    obtain ⟨group,hgroup,process,hprocess,hhead,_⟩ := process_recorded h.adds h.recorded hdetail
    have hid : detail.stableId=stableProcessSampleId process sampleSeq :=
      congrArg ProcessHeadV4.stableId hhead
    have hpresentation : detail.presentation=memberPresentation lower group process :=
      congrArg ProcessHeadV4.presentation hhead
    have hcontains : (((groupDetails ws).flatMap (fun detail => detail.memberIds)).contains
        detail.stableId)=decide (1 < group.processes.length) := by
      rw [Bool.eq_iff_iff,List.contains_iff_mem,hmembers.mem_iff,hid,decide_eq_true_iff]
      constructor
      · intro hmem
        obtain ⟨other,hother,hin⟩ := List.mem_flatMap.mp hmem
        obtain ⟨hothers,hmany⟩ := List.mem_filter.mp hother
        have hsame : other=group := by
          by_contra hne
          have hsymm : Std.Symm (Function.onFun List.Disjoint (fun group : ProcessAppGroup =>
              group.processes.map (fun process => stableProcessSampleId process sampleSeq))) :=
            ⟨fun _ _ hab => hab.symm⟩
          exact (List.nodup_flatMap.mp hids).2.forall hothers hgroup hne hin
            (List.mem_map_of_mem hprocess)
        rw [← hsame]
        simpa using hmany
      · intro hmany
        exact List.mem_flatMap.mpr ⟨group,List.mem_filter.mpr ⟨hgroup,by simpa using hmany⟩,
          List.mem_map_of_mem hprocess⟩
    have hpositive := List.length_pos_iff.mpr (h.adds group hgroup).nonempty
    rw [groupStateMismatch,hcontains,hpresentation]
    by_cases hmany : 1 < group.processes.length
    · simp [memberPresentation,processPresentation,hmany]
    · have hone : group.processes.length=1 := by omega
      simp [memberPresentation,processPresentation,hone]

/-- The workloads of a view are readable. -/
theorem EncodedView.readable {total : Nat} (htotal : processes.length ≤ total) :
    WorkloadsReadable blank payload sampleSeq total (processDetails ws).length ws := by
  obtain ⟨hdistinct,hparents⟩ := h.parents
  obtain ⟨hgroupIds,hmembers,hgrouped⟩ := h.membership
  refine ⟨hdistinct,rfl,?_,h.identity,fun detail hdetail => (h.texts detail hdetail).1,
    fun detail hdetail => (h.texts detail hdetail).2,hparents,h.measured,h.group_readable,
    hgroupIds,hmembers,hgrouped⟩
  have hlength := congrArg List.length (processHeads_eq (heads_recorded h.recorded))
  have hrows := (heads_of_processes (rowTables (viewRows lower query (displayByWorkload
    (buildProcessGroupsWithContext lower sha256 processes history context)) shown) sampleSeq)
    (viewRows lower query (displayByWorkload
      (buildProcessGroupsWithContext lower sha256 processes history context)) shown)).length_eq
  have hmembers := (identities_viewRows lower query (displayByWorkload
    (buildProcessGroupsWithContext lower sha256 processes history context)) h.adds).length_eq
  have hle := h.subperm.length_le
  rw [List.length_map] at hlength
  rw [List.length_map,List.length_map] at hmembers
  omega

end Encoded
end View

section Views
variable (lower : Lowercase) (query : RuntimeQuery)

/-- All rows of a group have its key, so the overview takes groups as a whole. -/
theorem shapeOverviewRows_groups (shown : List ProcessAppGroup) (ranking : ValuesByWorkload) :
    ∃ selected : List ProcessAppGroup, selected.Sublist shown ∧
      shapeOverviewRows (shown.flatMap (groupRows lower query)) ranking=
        selected.flatMap (groupRows lower query) := by
  have hblock : ∀ keys : List String, ∀ group : ProcessAppGroup,
      (groupRows lower query group).filter (fun row => rowKey row∈keys)=
        if group.key∈keys then groupRows lower query group else [] := by
    intro keys group
    have hkey : ∀ row∈groupRows lower query group, rowKey row=group.key := by
      intro row hrow
      cases standsFor_of_mem_groupRows hrow with
      | inl hown => rw [hown]; rfl
      | inr hof =>
        obtain ⟨process,_,rfl⟩ := hof
        rfl
    split
    · next hmem =>
      rw [List.filter_eq_self]
      intro row hrow
      simpa [hkey row hrow] using hmem
    · next hmem =>
      rw [List.filter_eq_nil_iff]
      intro row hrow
      simpa [hkey row hrow] using hmem
  refine ⟨shown.filter (fun group => group.key∈overviewColumns.flatMap (overviewKeys ranking
    (shown.flatMap (groupRows lower query)))),List.filter_sublist,?_⟩
  rw [shapeOverviewRows,List.filter_flatMap]
  simp only [hblock]
  generalize overviewColumns.flatMap (overviewKeys ranking
    (shown.flatMap (groupRows lower query)))=keys
  clear hblock
  induction shown with
  | nil => rfl
  | cons group shown ih =>
    rw [List.flatMap_cons,ih]
    by_cases hmem : group.key∈keys
    · rw [if_pos hmem,List.filter_cons_of_pos (by simpa using hmem),List.flatMap_cons]
    · rw [if_neg hmem,List.filter_cons_of_neg (by simpa using hmem),List.nil_append]

/-- The rows of a view and those of its overview, with the values they show: the encoder takes
them if the catalogs have room, and what it writes passes the checks of a set of workloads
wherever the observations of the system do. -/
theorem encoded_views_pass (sha256 : List UInt8 → List UInt8) (history : RankingHistory)
    (processes : List ProcessSample) (context : Option BatCaveWorkloadContext)
    (attention : Finset Generation) (ranking : ValuesByWorkload) (platform : RuntimePlatform)
    {c : CatalogBuilder} (hc : c.Ok) (hinterval : c.sampleIntervalMs≠0)
    {payload : RuntimeSnapshotPayloadV4}
    (hsample : SampleSound processes history payload.sampledAtMs payload.publishedAtMs)
    (htime : ∀ sampled, payload.sampledAtMs=some sampled → sampled ≤ payload.publishedAtMs)
    (hsafe : payload.publishedAtMs ≤ jsMaxSafeInteger)
    (hcodes : payload.qualityCodes=qualityCodes)
    (htotal : processes.length ≤ payload.totalProcessCount)
    (hfits : payload.totalProcessCount < 2^32) :
    let groups := buildProcessGroupsWithContext lower sha256 processes history context
    let view := emitProcessView lower groups query attention
    ∀ rows∈[view,shapeOverviewRows view ranking],
      let shownRows := applyDisplayValues rows (displayByWorkload groups)
      let encoded := encodeWorkloads shownRows payload.sampleSeq payload.sampledAtMs platform c
      ((∃ written, encoded=.ok written) ↔ c.Room
        ((rowsRequests platform shownRows).map (fun r => r.descriptor c.sampleIntervalMs))
        (limitationsOf payload.sampledAtMs (rowsRequests platform shownRows))) ∧
      ∀ ws c', encoded=.ok (ws,c') → c'.Within payload.toCatalogs →
        (validateWorkloadSet ws (processDetails ws).length payload=.ok () ↔
          validateSystemObservations payload.toPublicationFacts payload.system=.ok ()) := by
  intro groups view rows hrows
  have hselected : ∃ shown : List ProcessAppGroup, shown.Subperm groups ∧
      rows=shown.flatMap (groupRows lower query) := by
    obtain ⟨rest,hperm,_⟩ := shownGroups_perm lower query attention groups
    have hview : (shownGroups lower query attention groups).Subperm groups :=
      (List.sublist_append_left _ rest).subperm.trans
        (hperm.subperm.trans List.filter_sublist.subperm)
    simp only [List.mem_cons,List.not_mem_nil,or_false] at hrows
    cases hrows with
    | inl hall => exact ⟨_,hview,hall⟩
    | inr hsome =>
      obtain ⟨selected,hsublist,heq⟩ := shapeOverviewRows_groups lower query
        (shownGroups lower query attention groups) ranking
      exact ⟨selected,hsublist.subperm.trans hview,hsome.trans heq⟩
  obtain ⟨shown,hsub,rfl⟩ := hselected
  intro shownRows encoded
  have hshown : ShownView lower sha256 history processes context shown payload.sampledAtMs
      payload.publishedAtMs := ⟨hsample,hsub,htime⟩
  have hencodes := @encodeWorkloads_encodes c.sampleIntervalMs payload.sampledAtMs hinterval
    shownRows payload.sampleSeq platform
  have hfew : processes.length < 2^32 := by omega
  refine ⟨?_,?_⟩
  · refine (hencodes.runs c hc rfl).trans (and_iff_right ⟨?_,?_⟩)
    · exact fun row hrow => (hshown.rows_accepted platform hfew hrow).1
    · intro r hr
      obtain ⟨row,hrow,hrequest⟩ := List.mem_flatMap.mp hr
      have haccepted := (hshown.rows_accepted platform hfew hrow).2 r hrequest
      exact (haccepted.accepted htime).timeSafe hsafe
  · intro ws c' hwritten hwithin
    have hrecorded := (hencodes.result c ws c' hc rfl hwritten).2 _ hwithin
    have hview : EncodedView lower sha256 history processes context query shown payload.sampleSeq
        c.sampleIntervalMs platform payload.toPublicationFacts ws := ⟨hshown,hcodes,hrecorded⟩
    exact validateWorkloadSet_ok.trans (and_iff_right (hview.readable htotal))

end Views

namespace Crew
open BatCave.ProcessView.Sorted (scopeText ring)

/-- The scopes of the groups, each with its SHA-256. -/
def digests : List (List UInt8 × List UInt8) :=
  [(scopeText ["exe:/usr/bin/worker","20:1000","21:2000"] [],
      [130,79,215,11,200,83,52,222,9,82,29,140,28,218,213,152,243,20,77,2,30,8,132,201,249,200,47,
      174,185,72,12,188]),
    (scopeText ["exe:/usr/bin/backup","30:3000"] [],
      [218,176,85,180,186,170,94,15,195,225,198,36,33,65,243,40,76,207,165,6,48,126,73,110,42,9,
      228,143,39,109,93,59]),
    (scopeText ["exe:/usr/bin/worker","7:1000"] [],
      [110,141,53,53,241,192,35,189,224,155,71,56,33,151,177,56,165,163,10,185,151,103,139,20,163,
      114,105,164,17,42,123,71]),
    (scopeText ["exe:/usr/bin/worker","7:1000","8:2000"] [],
      [37,100,76,143,56,247,135,235,111,107,2,224,143,143,200,24,222,224,156,167,204,87,213,202,
      75,11,145,241,135,132,68,143])]

def digest (text : List UInt8) : List UInt8 :=
  ((digests.find? (fun entry => entry.1==text)).map Prod.snd).getD text

def native : Option MetricQualityInfo := some (.new .native .procfs)

def limited (quality : MetricQuality) (code : MetricLimitationCode) (message : String) :
    Option MetricQualityInfo :=
  some ((MetricQualityInfo.new quality .procfs).withLimitation code message)

/-- A process of which the processor was read. -/
def process : ProcessSample :=
  { Limited.process "7" "worker" with quality := some { cpu := native } }

/-- It started when no reader can hold the time. -/
def late : List ProcessSample × RankingHistory := ([{ process with startTimeMs := 2^53 }],∅)

/-- Its share of the processor is below zero. -/
def negative : List ProcessSample × RankingHistory := ([{ process with cpuPercent := -1.0 }],∅)

/-- Its shares were below zero before. -/
def recovering : List ProcessSample × RankingHistory :=
  ([process],(∅ : RankingHistory).insert ("7",1000) ⟨[-1.0,-1.0,-1.0],[0,0,0],[0,0,0]⟩)

/-- Its child names it by another text for its PID. -/
def padded : List ProcessSample × RankingHistory :=
  ([process,{ process with pid := "8", parentPid := some "07", startTimeMs := 2000 }],∅)

/-- Two workers of which the second could not be measured in full, and another child of the
first. The first has a history, that of the second is too short. -/
def crew : List ProcessSample × RankingHistory :=
  ([{ Limited.process "20" "worker" with
        cpuPercent := 12.5
        ioReadBps := 500
        networkReceivedBps := some 7
        networkTransmittedBps := some 0
        quality := some
          { cpu := native, memory := native, io := native, network := native
            threads := native } },
      { Limited.process "21" "worker" with
        parentPid := some "20"
        startTimeMs := 2000
        cpuPercent := 3.0
        ioReadBps := 300
        networkReceivedBps := some 5
        networkTransmittedBps := some 2
        accessState := .partialAccess
        quality := some
          { cpu := limited .partialQuality .accessDenied "proc_stat_denied"
            memory := native
            io := limited .unavailable .accessDenied "proc_io_denied"
            network := (limited .held .heldValue "network_held").map (fun info =>
              { info with updatedAtMs := some 9000 }) } },
      { Limited.process "30" "backup" with
        parentPid := some "20"
        startTimeMs := 3000
        ioReadBps := 40
        quality := some { cpu := native, io := native } }],
    ((∅ : RankingHistory).insert ("20",1000) (ring 3 500)).insert ("21",2000) (ring 1 30))

abbrev groups (sample : List ProcessSample × RankingHistory) : List ProcessAppGroup :=
  buildProcessGroupsWithContext .ascii digest sample.1 sample.2 none

abbrev rows (sample : List ProcessSample × RankingHistory) : List ProcessViewRow :=
  applyDisplayValues (emitProcessView .ascii (groups sample) {} ∅)
    (displayByWorkload (groups sample))

abbrev encoded (sample : List ProcessSample × RankingHistory) :
    Except String (List WorkloadDetailV4 × CatalogBuilder) :=
  encodeWorkloads (rows sample) 3 (some 10000) .linux ⟨⟨[],[]⟩,1000⟩

/-- What carries the rows of up to three processes. -/
def payload (catalogs : Catalogs) : RuntimeSnapshotPayloadV4 :=
  assemblePayload ⟨.x86_64,⟨"1.0.0",none⟩⟩ RuntimeStore.runningSnapshot
    RuntimeStore.runningSnapshot.health 12500 ⟨⟨"system",[],[],[]⟩,[],[],[]⟩ catalogs ⟨0,0,3,3⟩

/-- The groups and their members come in the order of the view. -/
def InOrder (groups : List ProcessAppGroup) : Prop :=
  groups.Pairwise (fun a b => (compareProcessGroup .ascii .attention .desc a b != .gt)=true) ∧
    groups.length ≤ 5000 ∧ ∀ group∈groups, (group.processes.zip group.memberRanking).Pairwise
      (fun a b => (compareProcess .ascii .attention .desc a b != .gt)=true)

instance (groups : List ProcessAppGroup) : Decidable (InOrder groups) :=
  inferInstanceAs (Decidable (_ ∧ _ ∧ _))

/-- The rows of groups in order, encoded. -/
abbrev listed (sample : List ProcessSample × RankingHistory) :
    Except String (List WorkloadDetailV4 × CatalogBuilder) :=
  encodeWorkloads (applyDisplayValues ((groups sample).flatMap (listedRows .ascii))
    (displayByWorkload (groups sample))) 3 (some 10000) .linux ⟨⟨[],[]⟩,1000⟩

theorem encoded_listed {sample : List ProcessSample × RankingHistory}
    (h : InOrder (groups sample)) : encoded sample=listed sample := by
  obtain ⟨hsorted,hfew,hmembers⟩ := h
  obtain ⟨_,_,hgrouped⟩ := grouped_build .ascii digest sample.2 sample.1 none
  have hshown : shownGroups .ascii {} ∅ (groups sample)=groups sample :=
    shown_sorted hgrouped.adds trim_empty rfl hsorted hfew
  rw [encoded,rows,emit_sorted hshown hmembers]

/-- A sample of one process is a group of one. -/
theorem groups_lone (process : ProcessSample) (history : RankingHistory) :
    ∃ group, groups ([process],history)=[group] ∧ group.processes=[process] ∧ Adds group := by
  obtain ⟨members,hmembers,hgrouped⟩ := grouped_build .ascii digest history [process] none
  have hsplit := hgrouped.split
  rw [hmembers,List.perm_singleton] at hsplit
  change (groups ([process],history)).flatMap (·.processes)=[process] at hsplit
  have hadds : ∀ group∈groups ([process],history), Adds group := hgrouped.adds
  generalize groups ([process],history)=groups at hsplit hadds
  cases groups with
  | nil => cases hsplit
  | cons group rest =>
    have hgroup := hadds group List.mem_cons_self
    rw [List.flatMap_cons,List.append_eq_singleton_iff] at hsplit
    obtain ⟨hnone,_⟩ | ⟨hprocesses,hrest⟩ := hsplit
    · exact absurd hnone hgroup.nonempty
    · have hlast : rest=[] := by
        cases rest with
        | nil => rfl
        | cons other rest =>
          have hother := hadds other (List.mem_cons_of_mem _ List.mem_cons_self)
          rw [List.flatMap_cons,List.append_eq_nil_iff] at hrest
          exact absurd hrest.1 hother.nonempty
      exact ⟨group,by rw [hlast],hprocesses,hgroup⟩

/-- The row of a process that is alone. -/
theorem rows_lone (process : ProcessSample) (history : RankingHistory) : ∃ group,
    rows ([process],history)=
      [displayRow (displayByWorkload [group]) (processRow .ascii group process)] := by
  obtain ⟨group,hgroups,hprocesses,hadds⟩ := groups_lone process history
  obtain ⟨ranking,hranking⟩ := List.length_eq_one_iff.mp
    (hadds.ranked.trans (congrArg List.length hprocesses))
  have hmembers : group.processes.zip group.memberRanking=[(process,ranking)] := by
    rw [hprocesses,hranking]
    rfl
  have hshown : shownGroups .ascii {} ∅ [group]=[group] :=
    shown_sorted (List.forall_mem_singleton.mpr hadds) trim_empty rfl (List.pairwise_singleton _ _)
      (Nat.le_max_right _ 1)
  have horder : ∀ own∈[group], (own.processes.zip own.memberRanking).Pairwise (fun a b =>
      (compareProcess .ascii ({} : RuntimeQuery).sortColumn ({} : RuntimeQuery).sortDirection a b
        != .gt)=true) := by
    refine List.forall_mem_singleton.mpr ?_
    rw [hmembers]
    exact List.pairwise_singleton _ _
  refine ⟨group,?_⟩
  rw [rows,hgroups,emit_sorted hshown horder,List.flatMap_singleton,listedRows,hmembers,hprocesses]
  rfl

/-- The processes are named, and their qualities keep to the policy. -/
structure Named (processes : List ProcessSample) : Prop where
  decimal : ∀ process∈processes, ∃ n ≤ jsMaxSafeInteger, process.pid=Nat.repr n
  distinct : (processes.map (·.pid)).Nodup
  named : ∀ process∈processes, trim process.name≠""
  status : ∀ process∈processes, trim process.status≠""
  qualities : ∀ process∈processes, ∀ quality∈processQualities process,
    QualitySound (some 10000) 10000 quality

instance (quality : MetricQualityInfo) : Decidable (QualitySound (some 10000) 10000 quality) :=
  decidable_of_iff ((qualityLimitationPolicy (qualityV4 quality.quality)).allows
      (quality.limitationCode.map metricLimitationCode)=true ∧
    ((qualityLimitationPolicy (qualityV4 quality.quality)).requiresLimitation=true →
      quality.message.isSome) ∧
    (∀ message∈quality.message, trim message≠"") ∧
    (quality.quality=.native → quality.message=none) ∧
    ∀ updated∈quality.updatedAtMs, updated ≤ 10000)
    ⟨fun ⟨policy,worded,spoken,plain,time⟩ => ⟨policy,worded,spoken,plain,time⟩,
      fun h => ⟨h.policy,h.worded,h.spoken,h.plain,h.time⟩⟩

/-- What is called so and reports this is named. -/
theorem named_of {processes : List ProcessSample} (pids : List Nat)
    (hpids : processes.map (·.pid)=pids.map Nat.repr) (hsafe : ∀ n∈pids, n ≤ jsMaxSafeInteger)
    (hdistinct : (processes.map (·.pid)).Nodup)
    (htexts : ∀ process∈processes, trim process.name≠"" ∧ trim process.status≠"")
    (hqualities : ∀ process∈processes, ∀ quality∈processQualities process,
      QualitySound (some 10000) 10000 quality) : Named processes := by
  refine ⟨?_,hdistinct,fun process h => (htexts process h).1,fun process h => (htexts process h).2,
    hqualities⟩
  intro process hprocess
  have hmem : process.pid∈pids.map Nat.repr := hpids ▸ List.mem_map_of_mem hprocess
  obtain ⟨n,hn,heq⟩ := List.mem_map.mp hmem
  exact ⟨n,hsafe n hn,heq.symm⟩

theorem named_crew : Named crew.1 :=
  named_of [20,21,30] (by decide) (by decide) (by decide) (by decide) (by decide)

theorem crew_sound : SampleSound crew.1 crew.2 (some 10000) 10000 := by
  have hnamed := named_crew
  refine ⟨⟨hnamed.decimal,?_,hnamed.distinct,by decide⟩,hnamed.named,hnamed.status,?_,?_⟩
  · have hparents : ∀ process∈crew.1, ∀ pid∈process.parentPid, pid=Nat.repr 20 := by decide
    exact fun process hprocess pid hpid => ⟨20,hparents process hprocess pid hpid⟩
  · have hshares : ∀ process∈crew.1, ¬process.cpuPercent < 0.0 := by decide
    have hkernel : ∀ process∈crew.1, process.kernelCpuPercent=none := by decide
    intro process hprocess
    refine ⟨hnamed.qualities process hprocess,notBelow_iff.mpr (hshares process hprocess),?_⟩
    intro kernel h
    rw [hkernel process hprocess] at h
    cases h
  · intro key ring hring share hshare
    have hzero : share=0.0 := by
      rw [crew] at hring
      by_cases hlast : key=("21",2000)
      · subst hlast
        rw [AList.lookup_insert] at hring
        cases hring
        exact List.eq_of_mem_replicate hshare
      · rw [AList.lookup_insert_ne hlast] at hring
        by_cases hfirst : key=("20",1000)
        · subst hfirst
          rw [AList.lookup_insert] at hring
          cases hring
          exact List.eq_of_mem_replicate hshare
        · rw [AList.lookup_insert_ne hfirst,AList.lookup_empty] at hring
          cases hring
    rw [hzero]
    exact notBelow_zero

end Crew

open Crew in
/-- A group of two workers, of which the second reports less and has the first as its parent,
and another child of the first pass. -/
theorem crew_view_passes : ∃ ws c', encoded crew=.ok (ws,c') ∧
    (processDetails ws).map (fun detail => (detail.stableId,detail.parentProcessId))=
      [("process:20:1000",none),("process:21:2000",some "process:20:1000"),
        ("process:30:3000",some "process:20:1000")] ∧
    (groupDetails ws).map (fun detail => (detail.memberIds,
        detail.coverage.map (fun c => (c.availableContributors,c.totalContributors))))=
      [(["process:20:1000","process:21:2000"],[(2,2),(2,2),(1,2),(0,2),(1,2),(1,2)])] ∧
    validateWorkloadSet ws (processDetails ws).length (payload c'.toCatalogs)=.ok () := by
  have horder : InOrder (groups crew) := by decide +kernel
  have hshape : (listed crew).map (fun written =>
      ((processDetails written.1).map (fun detail => (detail.stableId,detail.parentProcessId)),
        (groupDetails written.1).map (fun detail => (detail.memberIds,
          detail.coverage.map (fun c => (c.availableContributors,c.totalContributors))))))=
      .ok ([("process:20:1000",none),("process:21:2000",some "process:20:1000"),
        ("process:30:3000",some "process:20:1000")],
        [(["process:20:1000","process:21:2000"],[(2,2),(2,2),(1,2),(0,2),(1,2),(1,2)])]) := by
    decide +kernel
  rw [← encoded_listed horder] at hshape
  have hnew : new 1000=.ok ⟨⟨[],[]⟩,1000⟩ := rfl
  cases hencoded : encoded crew with
  | error e =>
    rw [hencoded] at hshape
    cases hshape
  | ok written =>
    obtain ⟨ws,c'⟩ := written
    rw [hencoded] at hshape
    obtain ⟨hprocesses,hgroups⟩ := Prod.mk.inj (Except.ok.inj hshape)
    have hown : SampleSound crew.1 crew.2 (payload c'.toCatalogs).sampledAtMs
        (payload c'.toCatalogs).publishedAtMs := crew_sound
    have htime : ∀ sampled, (payload c'.toCatalogs).sampledAtMs=some sampled →
        sampled ≤ (payload c'.toCatalogs).publishedAtMs := by
      intro sampled h
      cases h
      exact Nat.le_refl _
    have hsafe : (payload c'.toCatalogs).publishedAtMs ≤ jsMaxSafeInteger :=
      (by decide : 10000 ≤ jsMaxSafeInteger)
    have htotal : crew.1.length ≤ (payload c'.toCatalogs).totalProcessCount := Nat.le_refl 3
    have hfits : (payload c'.toCatalogs).totalProcessCount < 2^32 := (by decide : 3 < 2^32)
    have hviews := encoded_views_pass .ascii {} digest crew.2 crew.1 none ∅ ∅ .linux (ok_new hnew)
      (by decide) hown htime hsafe rfl htotal hfits _ List.mem_cons_self
    exact ⟨ws,c',rfl,hprocesses,hgroups,
      (hviews.2 ws c' hencoded (Catalogs.Within.refl _)).mpr rfl⟩

open Crew in
/-- A start that readers cannot hold, a share of the processor below zero, earlier shares
below zero and a parent that is not named as it names itself are encoded and then refused. -/
theorem unsafe_samples_refused : List.Forall (fun refused =>
    Named refused.1.1 ∧ ∃ ws c', encoded refused.1=.ok (ws,c') ∧
      validateWorkloadSet ws (processDetails ws).length (payload c'.toCatalogs)=
        .error refused.2) [
      (late,"protocol_process_identity_stability_invalid"),
      (negative,"protocol_observation_not_finite"),
      (recovering,"protocol_observation_not_finite"),
      (padded,"protocol_parent_identity_invalid")] := by
  have hchecked : ∀ refused∈[
        (late,"protocol_process_identity_stability_invalid"),
        (negative,"protocol_observation_not_finite"),
        (recovering,"protocol_observation_not_finite"),
        (padded,"protocol_parent_identity_invalid")],
      InOrder (groups refused.1) ∧ (listed refused.1).map (fun written =>
        validateWorkloadSet written.1 (processDetails written.1).length
          (payload written.2.toCatalogs))=.ok (.error refused.2) := by
    decide +kernel
  refine List.forall_iff_forall_mem.mpr (fun refused hrefused => ⟨?_,?_⟩)
  · simp only [List.mem_cons,List.not_mem_nil,or_false] at hrefused
    obtain rfl | rfl | rfl | rfl := hrefused
    · exact named_of [7] (by decide) (by decide) (by decide) (by decide) (by decide)
    · exact named_of [7] (by decide) (by decide) (by decide) (by decide) (by decide)
    · exact named_of [7] (by decide) (by decide) (by decide) (by decide) (by decide)
    · exact named_of [7,8] (by decide) (by decide) (by decide) (by decide) (by decide)
  · obtain ⟨horder,herror⟩ := hchecked refused hrefused
    rw [← encoded_listed horder] at herror
    cases hencoded : encoded refused.1 with
    | error e =>
      rw [hencoded] at herror
      cases herror
    | ok written =>
      rw [hencoded] at herror
      exact ⟨written.1,written.2,rfl,Except.ok.inj herror⟩

end BatCave.Protocol
