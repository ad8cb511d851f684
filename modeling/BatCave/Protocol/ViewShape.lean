import BatCave.ProcessView.ShownTotals
import BatCave.Protocol.ViewRows

/-! The structure of an encoded view: the ids of its processes and their parents, and what its
groups say of their members. -/
namespace BatCave.Protocol
open BatCave.Contracts BatCave.Lib BatCave.Lib.Result BatCave.Lib.Text
open BatCave.ProcessView CatalogBuilder
open BatCave.WorkloadIdentity (BatCaveWorkloadContext Row processPid verifiedParent
  verifiedParentIndices verifiedParent_eq_some getElem?_verifiedParentIndices UniquePid)
open BatCave.WorkloadHistory (RuntimePlatform)

section Identities

/-- Processes that a reader can tell apart: their PIDs are decimals of their own, parents are
named by decimals too, and the start times are safe for it. -/
structure Identified (processes : List ProcessSample) : Prop where
  decimal : ∀ process∈processes, ∃ n ≤ jsMaxSafeInteger, process.pid=Nat.repr n
  parent : ∀ process∈processes, ∀ pid, process.parentPid=some pid → ∃ n, pid=Nat.repr n
  distinct : (processes.map ProcessSample.pid).Nodup
  start : ∀ process∈processes, process.startTimeMs ≤ jsMaxSafeInteger

def identityOf (process : ProcessSample) : String × Option String × Nat :=
  (process.pid,process.parentPid,process.startTimeMs)

theorem Identified.of_subperm {processes others : List ProcessSample} (h : Identified processes)
    (hsub : (others.map identityOf).Subperm (processes.map identityOf)) : Identified others := by
  have hfind : ∀ other∈others, ∃ process∈processes, identityOf process=identityOf other :=
    fun other hother => List.mem_map.mp (hsub.subset (List.mem_map_of_mem hother))
  refine ⟨?_,?_,?_,?_⟩
  · intro other hother
    obtain ⟨process,hprocess,heq⟩ := hfind other hother
    have hpid : process.pid=other.pid := congrArg (fun i => i.1) heq
    rw [← hpid]
    exact h.decimal process hprocess
  · intro other hother pid hparent
    obtain ⟨process,hprocess,heq⟩ := hfind other hother
    have hpid : process.parentPid=other.parentPid := congrArg (fun i => i.2.1) heq
    exact h.parent process hprocess pid (hpid.trans hparent)
  · obtain ⟨kept,hperm,hsublist⟩ := hsub
    have hpids : (kept.map (fun i => i.1)).Nodup := by
      have hall := h.distinct
      have hmap : processes.map ProcessSample.pid=
          (processes.map identityOf).map (fun i => i.1) := by rw [List.map_map]; rfl
      rw [hmap] at hall
      exact hall.sublist (hsublist.map _)
    have hother : others.map ProcessSample.pid=
        (others.map identityOf).map (fun i => i.1) := by rw [List.map_map]; rfl
    rw [hother]
    exact (hperm.map (fun i => i.1)).nodup_iff.mp hpids
  · intro other hother
    obtain ⟨process,hprocess,heq⟩ := hfind other hother
    have hstart : process.startTimeMs=other.startTimeMs := congrArg (fun i => i.2.2) heq
    rw [← hstart]
    exact h.start process hprocess

variable {sampleSeq : Nat}

/-- The PID stands in the id, before the first colon of the rest. -/
theorem pid_of_stableId {p q : ProcessSample} {m n : Nat} (hp : p.pid=Nat.repr m)
    (hq : q.pid=Nat.repr n)
    (h : stableProcessSampleId p sampleSeq=stableProcessSampleId q sampleSeq) : p.pid=q.pid := by
  have hform : ∀ r : ProcessSample, ∃ rest : List Char,
      (stableProcessSampleId r sampleSeq).toList="process:".toList++(r.pid.toList++ ':'::rest) := by
    intro r
    rw [stableProcessSampleId,stableGenerationId]
    split
    · refine ⟨"publication:".toList++(toString sampleSeq).toList,?_⟩
      simp only [String.toList_append,List.append_assoc]
      rfl
    · refine ⟨(toString r.startTimeMs).toList,?_⟩
      simp only [String.toList_append,List.append_assoc]
      rfl
  obtain ⟨rest,hrest⟩ := hform p
  obtain ⟨rest',hrest'⟩ := hform q
  have htext := congrArg String.toList h
  rw [hrest,hrest',List.append_cancel_left_eq,hp,hq,Nat.toList_repr,Nat.toList_repr] at htext
  have hdigits := (append_cons_inj_left (colon_notMem_toDigits m) (colon_notMem_toDigits n)
    htext).1
  rw [hp,hq]
  refine String.toList_inj.mp ?_
  rw [Nat.toList_repr,Nat.toList_repr,hdigits]

variable (sampleSeq) in
theorem stableIds_nodup {processes : List ProcessSample} (h : Identified processes) :
    (processes.map (fun process => stableProcessSampleId process sampleSeq)).Nodup := by
  rw [List.Nodup,List.pairwise_map]
  have hpids := h.distinct
  rw [List.Nodup,List.pairwise_map] at hpids
  refine List.Pairwise.imp_of_mem ?_ hpids
  intro p q hp hq hne heq
  obtain ⟨m,_,hm⟩ := h.decimal p hp
  obtain ⟨n,_,hn⟩ := h.decimal q hq
  exact hne (pid_of_stableId hm hn heq)

theorem validJsSafeDecimal_repr {n : Nat} (h : n ≤ jsMaxSafeInteger) :
    (validJsSafeDecimal (Nat.repr n) true).isSome=true := by
  have hdigits : (Nat.toDigits 10 n).all Char.isDigit=true := List.all_eq_true.mpr
    (fun c hc => Nat.isDigit_of_mem_toDigits (by decide) (by decide) hc)
  have hfirst : (decide (1 < (Nat.toDigits 10 n).length) &&
      (Nat.toDigits 10 n).head?==some '0')=false := by
    by_cases hzero : 0 < n
    · simp [head?_toDigits hzero]
    · have hn : n=0 := by omega
      rw [hn]
      rfl
  have hparse : parseU64 (Nat.repr n)=some n := by
    refine parseU64_repr ?_
    have hmax : jsMaxSafeInteger < 2^64 := by decide
    omega
  simp only [validJsSafeDecimal,Nat.toList_repr,hfirst,hdigits,hparse]
  simp [h]

/-- The head of an identified process has the identity that the reader expects. -/
theorem validateProcessIdentity_head {tables : RowTables} {process : ProcessSample}
    {presentation : ProcessPresentationV4} {detail : ProcessDetailV4} {n : Nat}
    (hhead : detail.toProcessHeadV4=processHead tables process presentation)
    (hpid : process.pid=Nat.repr n) (hn : n ≤ jsMaxSafeInteger)
    (hstart : process.startTimeMs ≤ jsMaxSafeInteger) :
    validateProcessIdentity tables.sampleSeq detail=.ok () := by
  obtain ⟨head,metrics⟩ := detail
  simp only at hhead
  subst hhead
  rw [validateProcessIdentity,unit_bind_ok,reject_ok,reject_ok]
  have hdecimal := validJsSafeDecimal_repr hn
  rw [← hpid] at hdecimal
  obtain ⟨parsed,hparsed⟩ := Option.isSome_iff_exists.mp hdecimal
  by_cases hzero : process.startTimeMs=0
  · simp [identityStabilityInvalid,expectedProcessId,processHead,stableProcessSampleId,
      stableGenerationId,hzero,hparsed]
  · simp [identityStabilityInvalid,expectedProcessId,processHead,stableProcessSampleId,
      stableGenerationId,hzero,hparsed,hstart]

end Identities

section Rows
variable {tables : RowTables} {platform : RuntimePlatform} {interval : Nat}
  {sampledAtMs : Option Nat} {k : Catalogs} {rows : List ProcessViewRow}
  {ws : List WorkloadDetailV4}

theorem heads_recorded
    (h : List.Forall₂ (RowRecorded tables platform interval sampledAtMs k) rows ws) :
    ws.map WorkloadDetailV4.head=rows.map (rowHead tables) := by
  induction h with
  | nil => rfl
  | cons hrow _ ih => rw [List.map_cons,List.map_cons,hrow.1,ih]

theorem processHeads_eq (h : ws.map WorkloadDetailV4.head=rows.map (rowHead tables)) :
    (processDetails ws).map ProcessDetailV4.toProcessHeadV4=
      (rows.map (rowHead tables)).filterMap WorkloadHeadV4.process? := by
  rw [← h,processDetails,List.filterMap_map,List.map_filterMap]
  refine List.filterMap_congr ?_
  intro w _
  cases w <;> rfl

theorem groupHeads_eq (h : ws.map WorkloadDetailV4.head=rows.map (rowHead tables)) :
    (groupDetails ws).map GroupDetailV4.toGroupHeadV4=
      (rows.map (rowHead tables)).filterMap WorkloadHeadV4.group? := by
  rw [← h,groupDetails,List.filterMap_map,List.map_filterMap]
  refine List.filterMap_congr ?_
  intro w _
  cases w <;> rfl

/-- A process on the wire is that of its row. -/
theorem RowRecorded.process {row : ProcessViewRow} {detail : ProcessDetailV4}
    (h : RowRecorded tables platform interval sampledAtMs k row (.process detail)) :
    ∃ process, rowProcess? row=some process ∧ List.Forall₂
      (fun r o => r.Recorded interval sampledAtMs k o) (processRequests platform process)
        detail.metrics := by
  cases row with
  | process own key label category count icon child grouped attention => exact ⟨_,rfl,h.2⟩
  | group own icon source label attention => exact h.2.elim

/-- A group on the wire is that of its row. -/
theorem RowRecorded.group {row : ProcessViewRow} {detail : GroupDetailV4}
    (h : RowRecorded tables platform interval sampledAtMs k row (.group detail)) :
    ∃ own, rowGroup row=some own ∧ ∃ os,
      List.Forall₂ (SpecRecorded interval sampledAtMs k) (groupSpecs own) os ∧
        detail.metrics=os.map Prod.fst ∧ detail.coverage=os.map Prod.snd := by
  cases row with
  | process own key label category count icon child grouped attention => exact h.2.elim
  | group own icon source label attention => exact ⟨_,rfl,h.2⟩

theorem mem_processDetails {detail : ProcessDetailV4} :
    detail∈processDetails ws ↔ .process detail∈ws := by
  rw [processDetails,List.mem_filterMap]
  constructor
  · intro h
    obtain ⟨w,hw,heq⟩ := h
    cases w with
    | process own => cases heq; exact hw
    | group own => cases heq
  · exact fun h => ⟨_,h,rfl⟩

theorem mem_groupDetails {detail : GroupDetailV4} :
    detail∈groupDetails ws ↔ .group detail∈ws := by
  rw [groupDetails,List.mem_filterMap]
  constructor
  · intro h
    obtain ⟨w,hw,heq⟩ := h
    cases w with
    | process own => cases heq
    | group own => cases heq; exact hw
  · exact fun h => ⟨_,h,rfl⟩

/-- The processes of the rows and their heads, in the order of the rows. -/
theorem heads_of_processes (tables : RowTables) (rows : List ProcessViewRow) :
    List.Forall₂ (fun process head => ∃ presentation, head=processHead tables process presentation)
      (rows.filterMap rowProcess?)
      ((rows.map (rowHead tables)).filterMap WorkloadHeadV4.process?) := by
  induction rows with
  | nil => exact .nil
  | cons row rows ih =>
    cases row with
    | process detail key label category count icon child grouped attention =>
      exact .cons ⟨_,rfl⟩ ih
    | group detail icon source example_ attention => exact ih

end Rows

section Parents
variable {processes : List ProcessSample} {sampleSeq : Nat}

/-- An id that the table has a parent for is that of a row with a verified parent. -/
theorem parent_of_lookup {id parentId : String}
    (h : (parentIds processes sampleSeq).lookup id=some parentId) :
    ∃ i j : Row processes, stableProcessSampleId (processes.get i) sampleSeq=id ∧
      stableProcessSampleId (processes.get j) sampleSeq=parentId ∧
      verifiedParent processes i=some j := by
  have hmem := Table.mem_of_lookup_ofList h
  obtain ⟨⟨process,parent⟩,hrow,hentry⟩ := List.mem_filterMap.mp hmem
  obtain ⟨n,hn⟩ := List.mem_iff_getElem?.mp hrow
  obtain ⟨hprocess,hindex⟩ := List.getElem?_zip_eq_some.mp hn
  obtain ⟨hlt,hget⟩ := List.getElem?_eq_some_iff.mp hprocess
  simp only at hget hindex hentry
  rw [getElem?_verifiedParentIndices processes ⟨n,hlt⟩,Option.some.injEq] at hindex
  obtain ⟨found,hfound,hsame⟩ := Option.map_eq_some_iff.mp hentry
  obtain ⟨place,hplace,hparent⟩ := Option.bind_eq_some_iff.mp hfound
  rw [← hindex] at hplace
  obtain ⟨j,hj,rfl⟩ := Option.map_eq_some_iff.mp hplace
  rw [List.getElem?_eq_getElem j.isLt,Option.some.injEq] at hparent
  simp only [Sigma.mk.injEq,heq_eq_eq] at hsame
  refine ⟨⟨n,hlt⟩,j,?_,?_,hj⟩
  · rw [← hsame.1,← hget]
    rfl
  · rw [← hsame.2,← hparent]
    rfl

/-- A verified parent is named by its own text and is strictly older. -/
theorem verifiedParent_named (h : Identified processes) {i j : Row processes}
    (hv : verifiedParent processes i=some j) :
    (processes.get i).parentPid=some (processes.get j).pid ∧
      0 < (processes.get j).startTimeMs ∧
      (processes.get j).startTimeMs < (processes.get i).startTimeMs := by
  obtain ⟨⟨_,parentPid,_,hparent,hunique⟩,_,hpositive,holder⟩ := verifiedParent_eq_some.mp hv
  refine ⟨?_,hpositive,holder⟩
  change processes[i].parentPid=some processes[j].pid
  obtain ⟨text,htext,hparsed⟩ := Option.bind_eq_some_iff.mp hparent
  obtain ⟨m,rfl⟩ := h.parent processes[i] (List.getElem_mem i.isLt) text htext
  obtain ⟨n,_,hpid⟩ := h.decimal processes[j] (List.getElem_mem j.isLt)
  have hown := hunique.pid
  rw [processPid,Option.filter_eq_some_iff,hpid] at hown
  rw [htext,hpid,← eq_of_parseUnsigned_repr hparsed,← eq_of_parseUnsigned_repr hown.1]

variable {tables : RowTables} {known : List ProcessDetailV4}

theorem startTimeMs_processHead {process : ProcessSample} {presentation : ProcessPresentationV4}
    (h : 0 < process.startTimeMs) :
    (processHead tables process presentation).startTimeMs=some process.startTimeMs :=
  if_pos (Nat.pos_iff_ne_zero.mp h)

theorem forall₂_left {α β : Type} {R : α → β → Prop} {xs : List α} {ys : List β}
    (h : List.Forall₂ R xs ys) {x : α} (hx : x∈xs) : ∃ y∈ys, R x y :=
  forall₂_right h.flip hx

/-- The parents that identified processes are given pass. -/
theorem validateParent_identified (h : Identified processes)
    (htables : tables.parents=parentIds processes tables.sampleSeq)
    (hknown : List.Forall₂ (fun process (detail : ProcessDetailV4) => ∃ presentation,
      detail.toProcessHeadV4=processHead tables process presentation) processes known) :
    ((known.map (fun detail => detail.stableId)).Nodup) ∧
      ∀ detail∈known, validateParent known detail=.ok () := by
  have hids : known.map (fun detail => detail.stableId)=
      processes.map (fun process => stableProcessSampleId process tables.sampleSeq) := by
    clear h htables
    induction hknown with
    | nil => rfl
    | @cons process detail _ _ hhead _ ih =>
      obtain ⟨presentation,heq⟩ := hhead
      have hid : detail.stableId=stableProcessSampleId process tables.sampleSeq :=
        congrArg ProcessHeadV4.stableId heq
      rw [List.map_cons,List.map_cons,ih,hid]
  have hnodup := stableIds_nodup tables.sampleSeq h
  have hdistinct : (known.map (fun detail => detail.stableId)).Nodup := by rwa [hids]
  refine ⟨hdistinct,?_⟩
  intro detail hdetail
  obtain ⟨process,hprocess,presentation,hhead⟩ := forall₂_right hknown hdetail
  cases hid : detail.parentProcessId with
  | none => rw [validateParent,hid]
  | some parentId =>
    have hlookup : tables.parents.lookup (stableProcessSampleId process tables.sampleSeq)=
        some parentId := by
      have hown : detail.parentProcessId=tables.parents.lookup _ :=
        congrArg ProcessHeadV4.parentProcessId hhead
      rw [← hown,hid]
    rw [htables] at hlookup
    obtain ⟨i,j,hi,hj,hv⟩ := parent_of_lookup hlookup
    have hrow : processes.get i=process :=
      List.inj_on_of_nodup_map hnodup (List.get_mem processes i) hprocess hi
    obtain ⟨hnamed,hpositive,holder⟩ := verifiedParent_named h hv
    obtain ⟨parent,hparent,parentPresentation,hparentHead⟩ :=
      forall₂_left hknown (List.get_mem processes j)
    have hparentId : parent.stableId=parentId := by
      have hown : parent.stableId=stableProcessSampleId (processes.get j) tables.sampleSeq :=
        congrArg ProcessHeadV4.stableId hparentHead
      rw [hown,hj]
    have hparentStart : parent.startTimeMs=some (processes.get j).startTimeMs := by
      have hown := congrArg ProcessHeadV4.startTimeMs hparentHead
      rwa [startTimeMs_processHead (by omega)] at hown
    have hstart : detail.startTimeMs=some (processes.get i).startTimeMs := by
      have hown := congrArg ProcessHeadV4.startTimeMs hhead
      rwa [← hrow,startTimeMs_processHead (by omega)] at hown
    refine (validateParent_some hid).mpr ⟨parent,?_,?_,?_,?_⟩
    · rw [← hparentId]
      exact findProcess_of_mem hdistinct hparent
    · have hown : detail.parentPid=process.parentPid := congrArg ProcessHeadV4.parentPid hhead
      have hpid : parent.pid=(processes.get j).pid := congrArg ProcessHeadV4.pid hparentHead
      rw [hown,hpid,← hrow,hnamed]
    · rw [hparentStart,hstart]
      simpa [startsBefore] using holder
    · intro hsame
      have hown : detail.stableId=stableProcessSampleId process tables.sampleSeq :=
        congrArg ProcessHeadV4.stableId hhead
      rw [hown,← hj] at hsame
      have hself : processes.get j=process :=
        List.inj_on_of_nodup_map hnodup (List.get_mem processes j) hprocess hsame
      rw [hrow,hself] at holder
      omega

end Parents

section Heads
variable (lower : Lowercase) (query : RuntimeQuery) (display : ValuesByWorkload)
  (shown : List ProcessAppGroup) (tables : RowTables)

/-- The rows of some of the groups, with the values they show. -/
def viewRows : List ProcessViewRow :=
  applyDisplayValues (shown.flatMap (groupRows lower query)) display

def memberPresentation (group : ProcessAppGroup) (process : ProcessSample) :
    ProcessPresentationV4 :=
  let grouped := decide (1 < group.processes.length)
  processPresentation group.key group.label group.category group.processes.length
    (if grouped then group.iconKind else (processIdentity lower process).iconKind)
    (grouped && process.pid != group.presentationProcess.pid) grouped

def shownGroupHead (group : ProcessAppGroup) : GroupHeadV4 :=
  groupHead tables (groupDetail group) group.iconKind
    (if trim group.presentationProcess.exe="" then none else some group.presentationProcess.exe)
    (if group.presentationProcess.name=group.label then none
      else some group.presentationProcess.name)

/-- What a row shows of its process. -/
def shownProcess (process : ProcessSample) : ProcessSample :=
  match display.lookup (processWorkloadId process) with
  | none => process
  | some values => displayProcess values process

def shownDetail (group : ProcessAppGroup) : GroupDetail :=
  match display.lookup (groupWorkloadId group.key) with
  | none => groupDetail group
  | some values =>
    { groupDetail group with
      cpuPercent := round1 values.cpuPercent
      ioBps := values.ioBps
      networkBps := values.networkBps }

theorem identityOf_shownProcess (process : ProcessSample) :
    identityOf (shownProcess display process)=identityOf process := by
  rw [shownProcess]
  cases display.lookup (processWorkloadId process) <;> rfl

theorem rowProcess_shown (group : ProcessAppGroup) (process : ProcessSample) :
    rowProcess? (displayRow display (processRow lower group process))=
      some (shownProcess display process) := by
  simp only [processRow,displayRow,rowProcess?,shownProcess]
  cases display.lookup (processWorkloadId process) <;> rfl

theorem rowGroup_shown (group : ProcessAppGroup) :
    rowGroup (displayRow display (groupRow group))=some (shownDetail display group) := by
  have hlookup : (groupDetail group).workloadId=groupWorkloadId group.key := rfl
  rw [groupRow,shownDetail,← hlookup]
  cases hvalues : display.lookup (groupDetail group).workloadId with
  | none => simp only [displayRow,hvalues,rowGroup]
  | some values => simp only [displayRow,hvalues,rowGroup]

theorem rowHead_process (group : ProcessAppGroup) (process : ProcessSample) :
    rowHead tables (displayRow display (processRow lower group process))=
      .process (processHead tables process (memberPresentation lower group process)) := by
  simp only [processRow,displayRow,rowHead]
  cases display.lookup (processWorkloadId process) <;> rfl

theorem rowHead_displayRow (detail : GroupDetail) (iconKind : String)
    (iconSource exampleLabel : Option String) (label : String) :
    rowHead tables (displayRow display (.group detail iconKind iconSource exampleLabel label))=
      .group (groupHead tables detail iconKind iconSource exampleLabel) := by
  cases hvalues : display.lookup detail.workloadId with
  | none => simp only [displayRow,hvalues,rowHead]
  | some values => simp only [displayRow,hvalues,rowHead,groupHead]

theorem rowHead_group (group : ProcessAppGroup) :
    rowHead tables (displayRow display (groupRow group))=.group (shownGroupHead tables group) :=
  rowHead_displayRow display tables _ _ _ _ _

variable {shown}

/-- The rows of a group: its own if it has several members, and one of each member. -/
theorem groupRows_split {group : ProcessAppGroup} (hadds : Adds group) :
    ∃ members : List ProcessSample, members.Perm group.processes ∧ groupRows lower query group=
      (if 1 < group.processes.length then [groupRow group] else [])++
        members.map (processRow lower group) := by
  cases groupRows_cases lower query hadds with
  | inl hone =>
    obtain ⟨process,hprocesses,hrows⟩ := hone
    exact ⟨[process],by rw [hprocesses],by rw [hrows,if_neg (by simp [hprocesses])]; rfl⟩
  | inr hseveral =>
    obtain ⟨hmany,_,members,hperm,hrows⟩ := hseveral
    exact ⟨members,hperm,by rw [hrows,if_pos hmany]; rfl⟩

theorem mem_viewRows (hadds : ∀ group∈shown, Adds group) {row : ProcessViewRow} :
    row∈viewRows lower query display shown ↔ ∃ group∈shown,
      (1 < group.processes.length ∧ row=displayRow display (groupRow group)) ∨
      ∃ process∈group.processes, row=displayRow display (processRow lower group process) := by
  simp only [viewRows,applyDisplayValues,List.mem_map,List.mem_flatMap]
  constructor
  · intro h
    obtain ⟨row,⟨group,hgroup,hrow⟩,rfl⟩ := h
    obtain ⟨members,hperm,heq⟩ := groupRows_split lower query (hadds group hgroup)
    refine ⟨group,hgroup,?_⟩
    rw [heq,List.mem_append] at hrow
    cases hrow with
    | inl hown =>
      split at hown
      · next hmany => exact .inl ⟨hmany,by rw [List.mem_singleton.mp hown]⟩
      · cases hown
    | inr hmember =>
      obtain ⟨process,hprocess,rfl⟩ := List.mem_map.mp hmember
      exact .inr ⟨process,hperm.mem_iff.mp hprocess,rfl⟩
  · intro h
    obtain ⟨group,hgroup,hrow⟩ := h
    obtain ⟨members,hperm,heq⟩ := groupRows_split lower query (hadds group hgroup)
    cases hrow with
    | inl hown =>
      refine ⟨groupRow group,⟨group,hgroup,?_⟩,hown.2.symm⟩
      rw [heq,if_pos hown.1]
      exact List.mem_append_left _ (List.mem_singleton_self _)
    | inr hmember =>
      obtain ⟨process,hprocess,rfl⟩ := hmember
      refine ⟨processRow lower group process,⟨group,hgroup,?_⟩,rfl⟩
      rw [heq]
      exact List.mem_append_right _ (List.mem_map_of_mem (hperm.mem_iff.mpr hprocess))

/-- The identities of the processes of the rows are those of the members. -/
theorem identities_viewRows (hadds : ∀ group∈shown, Adds group) :
    (((viewRows lower query display shown).filterMap rowProcess?).map identityOf).Perm
      ((shown.flatMap (·.processes)).map identityOf) := by
  induction shown with
  | nil => exact .refl _
  | cons group shown ih =>
    obtain ⟨members,hperm,heq⟩ := groupRows_split lower query (hadds group List.mem_cons_self)
    have hrest := ih (fun other hother => hadds other (List.mem_cons_of_mem _ hother))
    have hown : (((groupRows lower query group).map (displayRow display)).filterMap
        rowProcess?).map identityOf=members.map identityOf := by
      rw [heq,List.map_append,List.filterMap_append]
      have hnone : ((if 1 < group.processes.length then [groupRow group] else []).map
          (displayRow display)).filterMap rowProcess?=[] := by
        split <;> rfl
      rw [hnone,List.nil_append,List.map_map,List.filterMap_map,List.map_filterMap]
      rw [← List.filterMap_eq_map]
      refine List.filterMap_congr ?_
      intro process _
      simp only [Function.comp_apply,rowProcess_shown,Option.map_some,identityOf_shownProcess]
    rw [viewRows,applyDisplayValues,List.flatMap_cons,List.map_append,List.filterMap_append,
      List.map_append,hown,List.flatMap_cons,List.map_append]
    exact (hperm.map identityOf).append hrest

theorem groupHeads_viewRows (hadds : ∀ group∈shown, Adds group) :
    ((viewRows lower query display shown).map (rowHead tables)).filterMap WorkloadHeadV4.group?=
      (shown.filter (fun group => 1 < group.processes.length)).map (shownGroupHead tables) := by
  induction shown with
  | nil => rfl
  | cons group shown ih =>
    obtain ⟨members,_,heq⟩ := groupRows_split lower query (hadds group List.mem_cons_self)
    have hrest := ih (fun other hother => hadds other (List.mem_cons_of_mem _ hother))
    have hnone : ((members.map (processRow lower group)).map (displayRow display)).filterMap
        (WorkloadHeadV4.group? ∘ rowHead tables)=[] := by
      rw [List.filterMap_eq_nil_iff]
      intro row hrow
      rw [List.map_map] at hrow
      obtain ⟨process,_,rfl⟩ := List.mem_map.mp hrow
      simp only [Function.comp_apply,rowHead_process,WorkloadHeadV4.group?]
    rw [List.filterMap_map] at hrest ⊢
    rw [viewRows,applyDisplayValues] at hrest ⊢
    rw [List.flatMap_cons,List.map_append,List.filterMap_append,hrest,heq,List.map_append,
      List.filterMap_append,hnone,List.append_nil]
    by_cases hmany : 1 < group.processes.length
    · rw [if_pos hmany,List.filter_cons_of_pos (by simpa using hmany)]
      simp only [List.map_cons,List.map_nil,List.filterMap_cons,List.filterMap_nil,
        Function.comp_apply,rowHead_group,WorkloadHeadV4.group?]
      rfl
    · rw [if_neg hmany,List.filter_cons_of_neg (by simpa using hmany)]
      rfl

end Heads

section Members
variable {lower : Lowercase} {query : RuntimeQuery} {display : ValuesByWorkload}
  {shown : List ProcessAppGroup} {sampleSeq : Nat}

theorem pushed_groupMembers (sampleSeq : Nat) (rows : List ProcessViewRow) (key : String) :
    Table.pushed (rows.filterMap (groupMember? sampleSeq)) key=
      (rows.filter (isMemberOf key)).filterMap (fun row =>
        (groupMember? sampleSeq row).map Prod.snd) := by
  induction rows with
  | nil => rfl
  | cons row rows ih =>
    rw [Table.pushed] at ih ⊢
    cases row with
    | group detail icon source label attention =>
      rw [List.filterMap_cons_none rfl,List.filter_cons_of_neg (by simp [isMemberOf]),ih]
    | process detail groupKey groupLabel category count icon child grouped attention =>
      cases grouped with
      | false =>
        rw [List.filterMap_cons_none rfl,List.filter_cons_of_neg (by simp [isMemberOf]),ih]
      | true =>
        have hsome : groupMember? sampleSeq (.process detail groupKey groupLabel category count
            icon child true attention)=
              some (groupKey,stableProcessSampleId detail.process sampleSeq) := rfl
        rw [List.filterMap_cons_some hsome]
        by_cases hkey : groupKey=key
        · rw [List.filter_cons_of_pos (by simpa using hkey),
            List.filter_cons_of_pos (by simpa [isMemberOf] using hkey),List.map_cons,ih,
            List.filterMap_cons_some (by rw [hsome]; rfl)]
        · rw [List.filter_cons_of_neg (by simpa using hkey),
            List.filter_cons_of_neg (by simpa [isMemberOf] using hkey),ih]

/-- The members that the row of a group lists are those of the group. -/
theorem memberIds_perm (hadds : ∀ group∈shown, Adds group) (hkeys : (shown.map (·.key)).Nodup)
    {group : ProcessAppGroup} (hgroup : group∈shown) (hmany : 1 < group.processes.length) :
    (shownGroupHead (rowTables (viewRows lower query display shown) sampleSeq)
      group).memberIds.Perm
        (group.processes.map (fun process => stableProcessSampleId process sampleSeq)) := by
  have hids : (shownGroupHead (rowTables (viewRows lower query display shown) sampleSeq)
      group).memberIds=Table.pushed
        ((viewRows lower query display shown).filterMap (groupMember? sampleSeq)) group.key := by
    have hlookup := Table.lookup_pushAll
      ((viewRows lower query display shown).filterMap (groupMember? sampleSeq)) group.key
    rw [shownGroupHead,groupHead]
    change ((Table.pushAll _).lookup group.key).getD []=_
    rw [hlookup]
    split
    · next hnil => rw [hnil]; rfl
    · rfl
  have hkeep : (isMemberOf group.key ∘ displayRow display)=isMemberOf group.key :=
    funext (isMemberOf_displayRow display group.key)
  have hperm := (members_of_rows lower query hadds hkeys hgroup hmany).map (displayRow display)
  rw [hids,pushed_groupMembers,viewRows,applyDisplayValues,List.filter_map,hkeep]
  refine (hperm.filterMap _).trans (.of_eq ?_)
  rw [List.map_map,List.filterMap_map,← List.filterMap_eq_map]
  refine List.filterMap_congr ?_
  intro process _
  simp only [Function.comp_apply,processRow,displayRow,groupMember?,hmany,decide_true,if_true,
    Option.map_some]
  cases display.lookup (processWorkloadId process) <;> rfl

end Members

section View
variable {lower : Lowercase} {sha256 : List UInt8 → List UInt8} {history : RankingHistory}
  {processes : List ProcessSample} {context : Option BatCaveWorkloadContext}
  {shown : List ProcessAppGroup} {sampledAtMs : Option Nat} {publishedAtMs : Nat}

/-- A sample with what the reader asks of its processes. -/
structure SampleSound (processes : List ProcessSample) (history : RankingHistory)
    (sampledAtMs : Option Nat) (publishedAtMs : Nat) : Prop where
  identified : Identified processes
  named : ∀ process∈processes, trim process.name≠""
  status : ∀ process∈processes, trim process.status≠""
  metrics : ∀ process∈processes, MetricsSound sampledAtMs publishedAtMs process
  history : HistorySound history

theorem shown_adds
    (hshown : shown.Subperm
      (buildProcessGroupsWithContext lower sha256 processes history context)) :
    (∀ group∈shown, Adds group) ∧ (shown.map (·.key)).Nodup ∧
      (shown.flatMap (·.processes)).Subperm processes := by
  obtain ⟨members,hmembers,hgrouped⟩ := grouped_build lower sha256 history processes context
  obtain ⟨kept,hperm,hsublist⟩ := hshown
  refine ⟨?_,?_,?_⟩
  · exact fun group hgroup =>
      hgrouped.adds group (hsublist.subset (hperm.mem_iff.mpr hgroup))
  · exact (hperm.map _).nodup_iff.mp (hgrouped.keys.sublist (hsublist.map _))
  · have hsplit := hgrouped.split
    rw [hmembers] at hsplit
    have hsub : (kept.flatMap (·.processes)).Sublist
        ((buildProcessGroupsWithContext lower sha256 processes history context).flatMap
          (·.processes)) := hsublist.flatMap _
    exact (hperm.flatMap_right _).symm.subperm.trans (hsub.subperm.trans hsplit.subperm)

/-- A shown process has sound metrics: what it shows of the processor is not below zero. -/
theorem metrics_shownProcess (h : SampleSound processes history sampledAtMs publishedAtMs)
    (process : ProcessSample) (hprocess : process∈processes) (hlookup :
      (displayByWorkload (buildProcessGroupsWithContext lower sha256 processes history
        context)).lookup (processWorkloadId process)=some (memberDisplayValues history process)) :
    MetricsSound sampledAtMs publishedAtMs (shownProcess (displayByWorkload
      (buildProcessGroupsWithContext lower sha256 processes history context)) process) := by
  have hmetrics := h.metrics process hprocess
  rw [shownProcess,hlookup]
  exact ⟨hmetrics.qualities,
    notBelow_round1 (notBelow_memberDisplayValues h.history hmetrics.cpu),hmetrics.kernel⟩

/-- A shown group reports what its members make of its metrics. -/
theorem summarizes_shownDetail (h : SampleSound processes history sampledAtMs publishedAtMs)
    {group : ProcessAppGroup}
    (hgroup : group∈buildProcessGroupsWithContext lower sha256 processes history context) :
    Summarizes group.processes (shownDetail (displayByWorkload
      (buildProcessGroupsWithContext lower sha256 processes history context)) group) := by
  obtain ⟨members,_,hgrouped⟩ := grouped_build lower sha256 history processes context
  have hpresents := presents_build lower sha256 context h.history h.named
    (fun process hprocess => (h.metrics process hprocess).cpu) group hgroup
  rw [shownDetail,display_group hgrouped.keys hgroup]
  exact ⟨rfl,rfl,notBelow_round1 hpresents.display⟩

end View

section Encoded
variable {lower : Lowercase} {query : RuntimeQuery} {display : ValuesByWorkload}
  {shown : List ProcessAppGroup} {tables : RowTables} {platform : RuntimePlatform}
  {interval : Nat} {sampledAtMs : Option Nat} {k : Catalogs} {ws : List WorkloadDetailV4}

/-- Every process of an encoded view is a member of a shown group. -/
theorem process_recorded (hadds : ∀ group∈shown, Adds group)
    (h : List.Forall₂ (RowRecorded tables platform interval sampledAtMs k)
      (viewRows lower query display shown) ws) {detail : ProcessDetailV4}
    (hdetail : detail∈processDetails ws) :
    ∃ group∈shown, ∃ process∈group.processes,
      detail.toProcessHeadV4=processHead tables process (memberPresentation lower group process) ∧
      List.Forall₂ (fun r o => r.Recorded interval sampledAtMs k o)
        (processRequests platform (shownProcess display process)) detail.metrics := by
  obtain ⟨row,hrow,hrecorded⟩ := forall₂_right h (mem_processDetails.mp hdetail)
  obtain ⟨own,hown,hmetrics⟩ := hrecorded.process
  obtain ⟨group,hgroup,hstands⟩ := (mem_viewRows lower query display hadds).mp hrow
  cases hstands with
  | inl hof =>
    have hnone : rowProcess? row=none := by
      rw [hof.2]
      rfl
    rw [hnone] at hown
    cases hown
  | inr hof =>
    obtain ⟨process,hprocess,rfl⟩ := hof
    rw [rowProcess_shown,Option.some.injEq] at hown
    have hhead := hrecorded.1
    rw [rowHead_process] at hhead
    rw [← hown] at hmetrics
    exact ⟨group,hgroup,process,hprocess,WorkloadHeadV4.process.inj hhead,hmetrics⟩

/-- Every member of a shown group is a process of the encoded view. -/
theorem process_of_member (hadds : ∀ group∈shown, Adds group)
    (h : List.Forall₂ (RowRecorded tables platform interval sampledAtMs k)
      (viewRows lower query display shown) ws) {group : ProcessAppGroup} (hgroup : group∈shown)
    {process : ProcessSample} (hprocess : process∈group.processes) :
    ∃ detail∈processDetails ws, detail.toProcessHeadV4=
      processHead tables process (memberPresentation lower group process) := by
  have hrow := (mem_viewRows lower query display hadds).mpr
    ⟨group,hgroup,.inr ⟨process,hprocess,rfl⟩⟩
  obtain ⟨w,hw,hrecorded⟩ := forall₂_left h hrow
  have hhead := hrecorded.1
  rw [rowHead_process] at hhead
  cases w with
  | process detail => exact ⟨detail,mem_processDetails.mpr hw,WorkloadHeadV4.process.inj hhead⟩
  | group detail => cases hhead

/-- Every group of an encoded view is a shown group of several members. -/
theorem group_recorded (hadds : ∀ group∈shown, Adds group)
    (h : List.Forall₂ (RowRecorded tables platform interval sampledAtMs k)
      (viewRows lower query display shown) ws) {detail : GroupDetailV4}
    (hdetail : detail∈groupDetails ws) :
    ∃ group∈shown, 1 < group.processes.length ∧
      detail.toGroupHeadV4=shownGroupHead tables group ∧ ∃ os,
        List.Forall₂ (SpecRecorded interval sampledAtMs k)
          (groupSpecs (shownDetail display group)) os ∧
        detail.metrics=os.map Prod.fst ∧ detail.coverage=os.map Prod.snd := by
  obtain ⟨row,hrow,hrecorded⟩ := forall₂_right h (mem_groupDetails.mp hdetail)
  obtain ⟨own,hown,hmetrics⟩ := hrecorded.group
  obtain ⟨group,hgroup,hstands⟩ := (mem_viewRows lower query display hadds).mp hrow
  cases hstands with
  | inl hof =>
    obtain ⟨hmany,rfl⟩ := hof
    rw [rowGroup_shown,Option.some.injEq] at hown
    have hhead := hrecorded.1
    rw [rowHead_group] at hhead
    rw [← hown] at hmetrics
    exact ⟨group,hgroup,hmany,WorkloadHeadV4.group.inj hhead,hmetrics⟩
  | inr hof =>
    obtain ⟨process,_,rfl⟩ := hof
    cases hown

end Encoded
end BatCave.Protocol
