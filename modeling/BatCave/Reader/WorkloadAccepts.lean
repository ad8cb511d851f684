import BatCave.Reader.CatalogAccepts
import BatCave.Reader.Workloads

/-! What the reader accepts of the writer's workloads: a set of the right shape whose texts
say something. -/
namespace BatCave.Reader
open BatCave.Contracts BatCave.Lib BatCave.Lib.Js BatCave.Lib.Js.Value BatCave.Lib.Result
open BatCave.Protocol (GroupDetailV4 GroupMetricCoverageV4 GroupReadable MetricObservation
  ProcessContributorV4 ProcessDetailV4 ProcessPresentationV4 PublicationFacts
  RuntimeSnapshotPayloadV4 WorkloadDetailV4 WorkloadsReadable WorkloadsShape groupDetails
  MetricQualityV4 jsMaxSafeInteger processDetails validJsSafeDecimal workloadTexts)

section Texts

theorem blank_eq_false {s : String} {c : Char} (hc : c∈s.toList) (hw : isWhitespace c=false) :
    blank s=false := by
  rw [blank,beq_eq_false_iff_ne,ne_eq,trim_length_eq_zero]
  intro h
  rw [h c hc] at hw
  cases hw

/-- Digits only leave no sign to strip. -/
theorem stripPlus_digits {cs : List Char} (h : cs.all Char.isDigit=true) :
    Text.stripPlus cs=cs := by
  cases cs with
  | nil => rfl
  | cons c cs =>
    rw [Text.stripPlus.eq_def]
    split
    · next heq =>
      cases heq
      simp [show Char.isDigit '+'=false by decide] at h
    · rfl

theorem parseJsSafeDecimal_str (s : String) (allowZero : Bool) :
    parseJsSafeDecimal (.str s) allowZero=validJsSafeDecimal s allowZero := by
  have hdigits : s.toList.any (fun c => !c.isDigit)=!s.toList.all Char.isDigit :=
    List.not_all_eq_any_not.symm
  rw [parseJsSafeDecimal,validJsSafeDecimal,hdigits]
  split
  · rfl
  · next h =>
    simp only [Bool.or_eq_true,not_or,Bool.not_eq_true,Bool.not_eq_false'] at h
    obtain ⟨⟨hempty,_⟩,hall⟩ := h
    rw [Text.parseU64,Text.parseUnsigned,stripPlus_digits hall,hempty,hall]
    simp only [Bool.not_true,Bool.or_self,Bool.false_eq_true,if_false]
    by_cases hsafe : Nat.ofDigitChars 10 s.toList 0 ≤ jsMaxSafeInteger
    · have hfits : Nat.ofDigitChars 10 s.toList 0 < 2^64 := by
        simp only [jsMaxSafeInteger] at hsafe
        omega
      rw [if_pos hfits,Option.filter_some]
      rfl
    · have hunsafe : ¬Nat.ofDigitChars 10 s.toList 0 ≤ maxSafeInteger := hsafe
      rw [decide_eq_false hunsafe,Bool.false_and,if_neg Bool.false_ne_true]
      split
      · rw [Option.filter_some,decide_eq_false hsafe,Bool.false_and,if_neg Bool.false_ne_true]
      · rfl

end Texts

section Processes
variable {v : Value} {payload : PublicationFacts} {sampleSeq : Nat}

/-- The integers of a process fit their places. -/
@[mk_iff]
structure ProcessSized (process : ProcessDetailV4) : Prop where
  count : process.presentation.groupCount < 2^32
  metrics : ∀ o∈process.metrics, ObservationSized o

instance : DecidablePred ProcessSized := fun process =>
  decidable_of_iff' _ (processSized_iff process)

@[mk_iff]
structure CoverageSized (coverage : GroupMetricCoverageV4) : Prop where
  descriptor : coverage.descriptorIndex < 2^16
  available : coverage.availableContributors < 2^32
  total : coverage.totalContributors < 2^32
  limitation : ∀ i∈coverage.limitationIndex, i < 2^16

instance : DecidablePred CoverageSized := fun coverage =>
  decidable_of_iff' _ (coverageSized_iff coverage)

@[mk_iff]
structure GroupSized (detail : GroupDetailV4) : Prop where
  metrics : ∀ o∈detail.metrics, ObservationSized o
  coverage : ∀ coverage∈detail.coverage, CoverageSized coverage

instance : DecidablePred GroupSized := fun detail =>
  decidable_of_iff' _ (groupSized_iff detail)

/-- What the identity of a process comes to. -/
theorem validateProcessIdentity_ok {process : ProcessDetailV4} :
    Protocol.validateProcessIdentity sampleSeq process=.ok () ↔
      Protocol.identityStabilityInvalid process=false ∧
      (validJsSafeDecimal process.pid true).isNone=false ∧
      process.stableId=Protocol.expectedProcessId sampleSeq process := by
  rw [Protocol.validateProcessIdentity,unit_bind_ok,reject_ok,reject_ok,Bool.or_eq_false_iff,
    bne_eq_false_iff_eq]

theorem processId_not_blank {process : ProcessDetailV4}
    (hid : process.stableId=Protocol.expectedProcessId sampleSeq process) :
    blank process.stableId=false := by
  have hp : 'p'∈process.stableId.toList := by
    rw [hid,Protocol.expectedProcessId]
    split
    · simp
    · simp
  exact blank_eq_false hp (by decide)

theorem processMalformed_wire {process : ProcessDetailV4} (ids : List String)
    (hidentity : Protocol.validateProcessIdentity sampleSeq process=.ok ())
    (hcount : process.presentation.groupCount≠0) (hsized : ProcessSized process) :
    processMalformed ids (processWire process)=false ↔
      process.stableId∉ids ∧ ∀ text∈process.texts, blank text=false := by
  obtain ⟨_,hpid,hid⟩ := validateProcessIdentity_ok.1 hidentity
  have hstability : (str (stabilityName process.identityStability)).isIn
      processIdentityStabilities=true := by
    cases process.identityStability <;> decide
  have haccess : (str (accessName process.accessState)).isIn accessStates=true := by
    cases process.accessState <;> decide
  have hsafe : safeInteger (.nat process.presentation.groupCount)=true := by
    have hlt := hsized.count
    rw [safeInteger_nat,decide_eq_true (by simp only [jsMaxSafeInteger]; omega)]
  have hpositive : (Value.nat process.presentation.groupCount).same (.nat 0)=false :=
    beq_eq_false_iff_ne.2 hcount
  simp only [processMalformed,processWire,presentationWire,Value.get,List.lookup_cons,
    String.reduceBEq,Option.getD_some,isString_str,isRecord_obj,isBoolean_bool,text_str,
    and_orNull_isString,nonEmptyString_str,parseJsSafeDecimal_str,hpid,processId_not_blank hid,
    hstability,haccess,hsafe,hpositive,Bool.not_true,Bool.not_false,Bool.not_not,Bool.false_or,
    Bool.or_false,Bool.or_eq_false_iff,Distinct.contains_eq_false,ProcessDetailV4.texts,
    List.forall_mem_cons,List.not_mem_nil,false_imp_iff,implies_true,and_true,and_assoc]

/-- Both sides spell the identity of a process the same way. -/
theorem processIdentityMismatch_wire (hseq : v.get "sample_seq"=.nat sampleSeq)
    {process : ProcessDetailV4}
    (hidentity : Protocol.validateProcessIdentity sampleSeq process=.ok ()) :
    processIdentityMismatch v (processWire process)=false := by
  obtain ⟨hstable,_,hid⟩ := validateProcessIdentity_ok.1 hidentity
  have hwritten : (processWire process).get "start_time_ms"=orNull .nat process.startTimeMs := rfl
  have hpid : (processWire process).get "pid"=.str process.pid := rfl
  have hstability : (processWire process).get "identity_stability"=
      .str (stabilityName process.identityStability) := rfl
  have hstableId : (processWire process).get "stable_id"=.str process.stableId := rfl
  simp only [processIdentityMismatch,hwritten,hpid,hstability,hstableId,hseq,hid,
    Protocol.expectedProcessId]
  rw [Protocol.identityStabilityInvalid] at hstable
  cases hstart : process.startTimeMs with
  | none =>
    rw [hstart] at hstable
    have hpublication : process.identityStability=.publication :=
      bne_eq_false_iff_eq.1 hstable
    rw [hpublication]
    exact congrArg not (beq_self_eq_true
      ("process:"++process.pid++":publication:"++toString sampleSeq))
  | some start =>
    rw [hstart] at hstable
    simp only [Bool.or_eq_false_iff,decide_eq_false_iff_not,not_lt,bne_eq_false_iff_eq] at hstable
    obtain ⟨⟨hpositive,hsafe⟩,hstable⟩ := hstable
    rw [hstable]
    change (!false && (!decide (start ≤ jsMaxSafeInteger) || start==0) || !true || !(_==_))=false
    rw [decide_eq_true hsafe,hpositive]
    exact congrArg not (beq_self_eq_true ("process:"++process.pid++":"++toString start))

/-- The ids of the processes are the keys of the first loop. -/
def processKeys (workload : WorkloadDetailV4) : List String :=
  (workload.process?.map (fun process => process.stableId)).toList

/-- What the first loop asks of a workload of the right shape. -/
def ProcessTexts (workload : WorkloadDetailV4) : Prop :=
  ∀ process∈workload.process?, ∀ text∈process.texts, blank text=false

theorem readWorkload_process (hreads : Reads v payload)
    (hpublished : payload.publishedAtMs ≤ jsMaxSafeInteger)
    (hseq : v.get "sample_seq"=.nat sampleSeq) {process : ProcessDetailV4}
    (hidentity : Protocol.validateProcessIdentity sampleSeq process=.ok ())
    (hcount : process.presentation.groupCount≠0) (hsized : ProcessSized process)
    (hmeasured : Protocol.validateObservations payload .process process.metrics=.ok ())
    (ids ids' : List String) :
    readWorkload v ids (workloadWire (.process process))=.ok ids' ↔
      (process.stableId∉ids ∧ ∀ text∈process.texts, blank text=false) ∧
      ids'=process.stableId::ids := by
  have hkind : ((workloadWire (.process process)).get "kind").isStr "process"=true := by rfl
  have hdetail : (workloadWire (.process process)).get "detail"=processWire process := rfl
  have hid : (processWire process).get "stable_id"=.str process.stableId := rfl
  have hmetrics : (processWire process).get "metrics"=metricsWire process.metrics := rfl
  have hobserved : validateObservations v (metricsWire process.metrics) "process"=.ok () :=
    (validateObservations_wire hreads hpublished hsized.metrics).2 hmeasured
  rw [readWorkload,hdetail,hkind,if_pos rfl,hid,hmetrics,text_str]
  rw [unit_bind_ok,unit_bind_ok,unit_bind_ok,unit_bind_ok,reject_ok,reject_ok,reject_ok,pure_ok,
    processMalformed_wire ids hidentity hcount hsized,
    processIdentityMismatch_wire hseq hidentity,eq_comm (b := ids')]
  constructor
  · intro h
    exact ⟨h.2.1,h.2.2.2.2⟩
  · intro h
    exact ⟨rfl,h.1,rfl,hobserved,h.2⟩

theorem readWorkload_group (detail : GroupDetailV4) (ids ids' : List String) :
    readWorkload v ids (workloadWire (.group detail))=.ok ids' ↔ ids'=ids := by
  have hkind : readWorkload v ids (workloadWire (.group detail))=.ok ids := by rfl
  rw [hkind,Except.ok.injEq]
  exact eq_comm

theorem flatMap_processKeys (workloads : List WorkloadDetailV4) :
    workloads.flatMap processKeys=
      (processDetails workloads).map (fun process => process.stableId) := by
  rw [List.map_eq_flatMap]
  exact Distinct.flatMap_picked (fun workload => by cases workload <;> rfl) workloads

theorem forall_processTexts (workloads : List WorkloadDetailV4) :
    (∀ workload∈workloads, ProcessTexts workload) ↔
      ∀ process∈processDetails workloads, ∀ text∈process.texts, blank text=false := by
  simp only [ProcessTexts,processDetails,List.mem_filterMap,Option.mem_def]
  constructor
  · intro h process hprocess
    obtain ⟨workload,hmem,hsome⟩ := hprocess
    exact h workload hmem process hsome
  · intro h workload hmem process hsome
    exact h process ⟨workload,hmem,hsome⟩

/-- The integers of a set of workloads fit their places. -/
@[mk_iff]
structure WorkloadsSized (workloads : List WorkloadDetailV4) : Prop where
  processes : ∀ process∈processDetails workloads, ProcessSized process
  groups : ∀ detail∈groupDetails workloads, GroupSized detail

instance : DecidablePred WorkloadsSized := fun workloads =>
  decidable_of_iff' _ (workloadsSized_iff workloads)

/-- The first loop passes where the texts of the processes do. -/
theorem readWorkloads_wire (hreads : Reads v payload)
    (hpublished : payload.publishedAtMs ≤ jsMaxSafeInteger)
    (hseq : v.get "sample_seq"=.nat sampleSeq) {total visible : Nat}
    {workloads : List WorkloadDetailV4}
    (hshape : WorkloadsReadable (fun _ => false) payload sampleSeq total visible workloads)
    (hsized : WorkloadsSized workloads) (ids : List String) :
    (workloads.map workloadWire).foldlM (readWorkload v) []=.ok ids ↔
      (∀ process∈processDetails workloads, ∀ text∈process.texts, blank text=false) ∧
      ids=((processDetails workloads).map (fun process => process.stableId)).reverse := by
  have hadds : ∀ workload∈workloads, Distinct.Adds (Distinct.seen String) ProcessTexts processKeys
      (fun ids workload => readWorkload v ids (workloadWire workload)) workload := by
    intro workload hmem ids ids'
    cases workload with
    | process detail =>
      have hdetail : detail∈processDetails workloads :=
        List.mem_filterMap.2 ⟨.process detail,hmem,rfl⟩
      rw [readWorkload_process hreads hpublished hseq (hshape.identity detail hdetail)
        (hshape.count detail hdetail) (hsized.processes detail hdetail)
        (hshape.measured detail hdetail)]
      simp [ProcessTexts,processKeys,WorkloadDetailV4.process?,Distinct.seen,and_comm,and_assoc]
    | group detail =>
      rw [readWorkload_group]
      simp [ProcessTexts,processKeys,WorkloadDetailV4.process?]
  rw [List.foldlM_map,Distinct.foldlM_ok hadds,flatMap_processKeys,forall_processTexts,
    Distinct.foldl_seen,List.append_nil,and_iff_right hshape.distinct]
  simp [Distinct.seen]

theorem processesOf_wire (workloads : List WorkloadDetailV4) :
    processesOf (workloads.map workloadWire)=(processDetails workloads).map processWire := by
  induction workloads with
  | nil => rfl
  | cons workload workloads ih =>
    cases workload with
    | process detail => exact congrArg (processWire detail::·) ih
    | group detail => exact ih

theorem groupsOf_wire (workloads : List WorkloadDetailV4) :
    groupsOf (workloads.map workloadWire)=(groupDetails workloads).map groupWire := by
  induction workloads with
  | nil => rfl
  | cons workload workloads ih =>
    cases workload with
    | process detail => exact ih
    | group detail => exact congrArg (groupWire detail::·) ih

theorem findProcess_wire (known : List ProcessDetailV4) (id : String) :
    findProcess (known.map processWire) (.str id)=
      (Protocol.findProcess known id).map processWire := by
  rw [findProcess,Protocol.findProcess,List.find?_map]
  rfl

end Processes

section Parents
variable {known : List ProcessDetailV4}

/-- The reader's walk stays on the writer's, and stops where an ancestor is not there. -/
theorem ancestorCycle_wire (fuel : Nat) : ∀ (visited : List String) (process : ProcessDetailV4),
    process∈known → (known.map (fun process => process.stableId)).Nodup →
    Protocol.parentCycle known fuel visited (some process.stableId)=false →
    ancestorCycle (known.map processWire) fuel visited (some (processWire process))=false := by
  induction fuel with
  | zero =>
    intro visited process _ _ h
    cases h
  | succ fuel ih =>
    intro visited process hmem hnodup h
    rw [Protocol.parentCycle,Bool.or_eq_false_iff,Protocol.findProcess_of_mem hnodup hmem,
      Option.bind_some] at h
    have hid : ((processWire process).get "stable_id").text=process.stableId := rfl
    have hparent : (processWire process).get "parent_process_id"=
        orNull .str process.parentProcessId := rfl
    rw [ancestorCycle,hid,hparent,h.1,Bool.false_or]
    cases hnext : process.parentProcessId with
    | none => rw [ancestorCycle.eq_def]; rfl
    | some parentId =>
      rw [orNull_some,if_neg (by simp),findProcess_wire]
      cases hfound : Protocol.findProcess known parentId with
      | none => rw [ancestorCycle.eq_def]; rfl
      | some parent =>
        obtain ⟨hin,hsame⟩ := Protocol.findProcess_some hfound
        refine ih _ parent hin hnodup ?_
        rw [hsame,← hnext]
        exact h.2

/-- A start time that is written is a positive safe integer. -/
theorem startTime_valid {process : ProcessDetailV4} {sampleSeq start : Nat}
    (hidentity : Protocol.validateProcessIdentity sampleSeq process=.ok ())
    (hstart : process.startTimeMs=some start) :
    safeInteger (.nat start)=true ∧ (Value.nat start).same (.nat 0)=false := by
  have hstable := (validateProcessIdentity_ok.1 hidentity).1
  simp only [Protocol.identityStabilityInvalid,hstart,Bool.or_eq_false_iff,decide_eq_false_iff_not,
    not_lt] at hstable
  rw [safeInteger_nat,decide_eq_true hstable.1.2]
  exact ⟨rfl,hstable.1.1⟩

theorem parentInconsistent_wire {process parent : ProcessDetailV4} {sampleSeq : Nat}
    (hidentity : Protocol.validateProcessIdentity sampleSeq process=.ok ())
    (hparent : Protocol.validateProcessIdentity sampleSeq parent=.ok ())
    (hpid : process.parentPid=some parent.pid)
    (hbefore : Protocol.startsBefore parent.startTimeMs process.startTimeMs=true)
    (hdistinct : parent.stableId≠process.stableId) :
    parentInconsistent (processWire process) (processWire parent)=false := by
  have hwritten : ∀ p : ProcessDetailV4, (processWire p).get "start_time_ms"=
      orNull .nat p.startTimeMs := fun _ => rfl
  have hparentPid : (processWire process).get "parent_pid"=orNull .str process.parentPid := rfl
  have hids : ((processWire parent).get "stable_id").same ((processWire process).get "stable_id")=
      false := beq_eq_false_iff_ne.2 hdistinct
  have hpids : ((processWire parent).get "pid").same (.str parent.pid)=true :=
    beq_self_eq_true parent.pid
  cases hfirst : parent.startTimeMs with
  | none =>
    rw [hfirst] at hbefore
    cases hbefore
  | some first =>
    cases hsecond : process.startTimeMs with
    | none =>
      rw [hfirst,hsecond] at hbefore
      cases hbefore
    | some second =>
      obtain ⟨hfirstSafe,hfirstPositive⟩ := startTime_valid hparent hfirst
      obtain ⟨hsecondSafe,hsecondPositive⟩ := startTime_valid hidentity hsecond
      rw [hfirst,hsecond] at hbefore
      have hlt : (Value.nat first).lt (.nat second)=true := hbefore
      simp only [parentInconsistent,hwritten,hparentPid,hpid,hfirst,hsecond,orNull_some,hids,hpids,
        hfirstSafe,hsecondSafe,hfirstPositive,hsecondPositive,hlt,isNull]
      rfl

theorem readParent_wire {process : ProcessDetailV4} {sampleSeq : Nat} (hmem : process∈known)
    (hnodup : (known.map (fun process => process.stableId)).Nodup)
    (hidentity : ∀ process∈known, Protocol.validateProcessIdentity sampleSeq process=.ok ())
    (hparents : ∀ process∈known, Protocol.validateParent known process=.ok ()) :
    readParent (known.map processWire) (processWire process)=.ok () := by
  have hwritten : (processWire process).get "parent_process_id"=
      orNull .str process.parentProcessId := rfl
  rw [readParent,hwritten]
  cases hparent : process.parentProcessId with
  | none => rfl
  | some parentId =>
    obtain ⟨parent,hfound,hpid,hbefore,hother⟩ :=
      (Protocol.validateParent_some hparent).1 (hparents process hmem)
    obtain ⟨hin,hsame⟩ := Protocol.findProcess_some hfound
    have hcycle := Protocol.parentCycle_of_parents hnodup hparents (known.length+1) [] process hmem
      List.nodup_nil nofun (by simp)
    rw [Protocol.parentCycle,List.contains_nil,Bool.false_or,
      Protocol.findProcess_of_mem hnodup hmem,Option.bind_some,hparent,← hsame] at hcycle
    rw [orNull_some,if_neg (by simp),findProcess_wire,hfound,Option.map_some,okOr_bind_ok]
    refine ⟨processWire parent,rfl,?_⟩
    rw [unit_bind_ok,reject_ok,reject_ok,List.length_map]
    have hdistinct : parent.stableId≠process.stableId := by
      rw [hsame]
      exact hother
    exact ⟨parentInconsistent_wire (hidentity process hmem) (hidentity parent hin) hpid hbefore
      hdistinct,ancestorCycle_wire _ _ _ hin hnodup hcycle⟩

end Parents

section Groups
variable {v : Value} {payload : PublicationFacts} {known : List ProcessDetailV4}

/-- A text that may be left out. -/
theorem and_orNull_blank (o : Option String) :
    (!(orNull str o).isNull && !nonEmptyString (orNull str o))=o.any blank := by
  rw [and_orNull (fun _ => rfl) (fun v => !nonEmptyString v)]
  simp only [nonEmptyString_str,Bool.not_not]

theorem any_eq_false_toList (o : Option String) :
    o.any blank=false ↔ ∀ text∈o.toList, blank text=false := by
  cases o with
  | none => simp
  | some text => simp

theorem groupMalformed_wire {detail : GroupDetailV4} (groupIds : List String)
    (hidentity : detail.stableId="group:"++detail.groupKey) (hsize : 2 ≤ detail.memberIds.length)
    (hmembers : ∀ member∈detail.memberIds, blank member=false) :
    groupMalformed groupIds (groupWire detail)=false ↔
      detail.stableId∉groupIds ∧ ∀ text∈detail.texts, blank text=false := by
  have hid : blank detail.stableId=false := by
    rw [hidentity]
    exact blank_eq_false (c := 'g') (by simp) (by decide)
  have hsaid : (detail.memberIds.map str).any (fun member => !nonEmptyString member)=false := by
    rw [List.any_map,List.any_eq_false]
    intro member hmember
    rw [Function.comp_apply,nonEmptyString_str,hmembers member hmember]
    decide
  have hshort : decide ((detail.memberIds.map str).length < 2)=false := by
    rw [List.length_map,decide_eq_false_iff_not]
    omega
  simp only [groupMalformed,groupWire,Value.get,List.lookup_cons,String.reduceBEq,Option.getD_some,
    isRecord_obj,text_str,nonEmptyString_str,and_orNull_blank,hid,isArray,items,hsaid,
    Bool.not_true,Bool.not_false,Bool.not_not,Bool.false_or,Bool.or_false,Bool.or_eq_false_iff,
    any_eq_false_toList,Distinct.contains_eq_false,GroupDetailV4.texts,List.forall_mem_append,
    List.forall_mem_cons,List.not_mem_nil,false_imp_iff,implies_true,and_true,and_assoc]
  constructor
  · intro h
    obtain ⟨hkey,hlabel,hcategory,hkind,hsource,hexample,hnew,_⟩ := h
    exact ⟨hnew,hkey,hlabel,hcategory,hkind,hsource,hexample⟩
  · intro h
    obtain ⟨hnew,hkey,hlabel,hcategory,hkind,hsource,hexample⟩ := h
    exact ⟨hkey,hlabel,hcategory,hkind,hsource,hexample,hnew,hshort⟩

theorem presentationMismatch_wire (detail : GroupDetailV4) (process : ProcessDetailV4) :
    presentationMismatch (groupWire detail) ((processWire process).get "presentation")=
      !detail.presents process.presentation := by
  have hgroup : (orNull str process.presentation.groupId).same (.str detail.stableId)=
      (process.presentation.groupId==some detail.stableId) := by
    cases process.presentation.groupId with
    | none => rfl
    | some id => rfl
  have hcount : ((groupWire detail).get "member_ids").items.length=detail.memberIds.length :=
    List.length_map _
  rw [presentationMismatch,hcount,GroupDetailV4.presents]
  change (!process.presentation.isGrouped || !(orNull str process.presentation.groupId).same
    (.str detail.stableId) || !(process.presentation.groupKey==detail.groupKey) ||
    !(process.presentation.groupLabel==detail.label) ||
    !(process.presentation.groupCategory==detail.category) ||
    !(process.presentation.groupCount==detail.memberIds.length) ||
    !(process.presentation.iconKind==detail.iconKind))=_
  rw [hgroup]
  simp only [Bool.not_and]

theorem readMember_wire {detail : GroupDetailV4} (member : String)
    (claimed claimed' : List String) :
    readMember (known.map processWire) (groupWire detail) claimed (.str member)=.ok claimed' ↔
      Protocol.validateMember known detail claimed member=.ok claimed' := by
  rw [readMember,Protocol.validateMember,findProcess_wire]
  cases Protocol.findProcess known member with
  | none => simp [okOr,bind,Except.bind]
  | some process =>
    simp only [Option.map_some,okOr_bind_ok,unit_bind_ok,reject_ok,pure_ok,Option.some.injEq,
      exists_eq_left',presentationMismatch_wire,text_str]

/-- Subjects that repeat no semantic repeat no descriptor. -/
theorem descriptorIndex_nodup {scope : Protocol.MetricScope} {os : List MetricObservation}
    (h : Protocol.validateObservations payload scope os=.ok ()) :
    (os.map (fun o => o.descriptorIndex)).Nodup := by
  have hfrom : ∀ semantics, Protocol.validateObservationsFrom payload scope semantics os=.ok () →
      (os.map (fun o => o.descriptorIndex)).Nodup ∧ ∀ o∈os, ∀ descriptor,
        payload.descriptors[o.descriptorIndex]?=some descriptor →
          descriptor.semantic∉semantics := by
    clear h
    induction os with
    | nil =>
      intro semantics _
      exact ⟨List.nodup_nil,nofun⟩
    | cons o os ih =>
      intro semantics h
      simp only [Protocol.validateObservationsFrom,okOr_bind_ok,unit_bind_ok,reject_ok,
        Distinct.contains_eq_false] at h
      obtain ⟨descriptor,hdescriptor,_,hnew,_,hrest⟩ := h
      obtain ⟨hnodup,hothers⟩ := ih _ hrest
      rw [List.map_cons,List.nodup_cons]
      refine ⟨⟨?_,hnodup⟩,?_⟩
      · intro hmem
        obtain ⟨other,hother,hsame⟩ := List.mem_map.1 hmem
        rw [← hsame] at hdescriptor
        exact hothers other hother descriptor hdescriptor List.mem_cons_self
      · intro other hother named hnamed
        cases List.mem_cons.1 hother with
        | inl hself =>
          rw [hself,hdescriptor] at hnamed
          cases hnamed
          exact hnew
        | inr hrest =>
          intro hseen
          exact hothers other hrest named hnamed (List.mem_cons_of_mem _ hseen)
  exact (hfrom [] h).1

/-- What the writer asks of the coverage of one observation. -/
structure Covers (payload : PublicationFacts) (detail : GroupDetailV4) (o : MetricObservation)
    (coverage : GroupMetricCoverageV4) : Prop where
  only : detail.coverage.filter (fun coverage => coverage.descriptorIndex==o.descriptorIndex)=
    [coverage]
  total : coverage.totalContributors=detail.memberIds.length
  available : coverage.availableContributors ≤ coverage.totalContributors
  placed : ∀ i∈coverage.limitationIndex, i < payload.limitations.length
  limitation : coverage.limitationIndex=o.limitationIndex
  explained : coverage.availableContributors < coverage.totalContributors →
    coverage.limitationIndex.isSome
  quality : coverage.availableContributors < coverage.totalContributors →
    payload.qualityCodes[o.qualityCode]?.any
      (fun quality => quality==.native || quality==.estimated)=false

theorem validateCoverage_covers {detail : GroupDetailV4} {o : MetricObservation}
    (h : Protocol.validateCoverage payload detail o=.ok ()) :
    ∃ coverage, Covers payload detail o coverage := by
  rw [Protocol.validateCoverage] at h
  split at h
  · next coverage honly =>
    simp only [unit_bind_ok,reject_ok,Bool.or_eq_false_iff,bne_eq_false_iff_eq,
      decide_eq_false_iff_not,not_lt,Bool.and_eq_false_imp,decide_eq_true_eq,
      Option.isNone_eq_false_iff,Protocol.validateLimitationIndex] at h
    obtain ⟨⟨htotal,havailable⟩,hplaced,hlimitation,hexplained,hquality⟩ := h
    refine ⟨coverage,honly,htotal,havailable,?_,hlimitation,hexplained,hquality⟩
    intro i hi
    rw [Option.mem_def.1 hi,Option.any_some,decide_eq_false_iff_not] at hplaced
    omega
  · cases h

/-- As many coverages as observations, and one for each: every coverage is of an observation,
and no two are of one descriptor. -/
theorem coverage_of_observation {detail : GroupDetailV4}
    (hnodup : (detail.metrics.map (fun o => o.descriptorIndex)).Nodup)
    (hcounted : detail.coverage.length=detail.metrics.length)
    (hcovered : ∀ o∈detail.metrics, ∃ coverage, Covers payload detail o coverage) :
    (detail.coverage.map (fun coverage => coverage.descriptorIndex)).Nodup ∧
      ∀ coverage∈detail.coverage, ∃ o∈detail.metrics, Covers payload detail o coverage := by
  have hsub : detail.metrics.map (fun o => o.descriptorIndex) ⊆
      detail.coverage.map (fun coverage => coverage.descriptorIndex) := by
    intro index hindex
    obtain ⟨o,ho,rfl⟩ := List.mem_map.1 hindex
    obtain ⟨coverage,hcovers⟩ := hcovered o ho
    have hmem : coverage∈detail.coverage.filter
        (fun coverage => coverage.descriptorIndex==o.descriptorIndex) := by
      rw [hcovers.only]
      exact List.mem_singleton_self coverage
    obtain ⟨hin,hsame⟩ := List.mem_filter.1 hmem
    exact List.mem_map.2 ⟨coverage,hin,eq_of_beq hsame⟩
  have hperm : (detail.metrics.map (fun o => o.descriptorIndex)).Perm
      (detail.coverage.map (fun coverage => coverage.descriptorIndex)) := by
    refine (List.subperm_of_subset hnodup hsub).perm_of_length_le ?_
    rw [List.length_map,List.length_map,hcounted]
  refine ⟨hperm.nodup_iff.1 hnodup,?_⟩
  intro coverage hmem
  obtain ⟨o,ho,hsame⟩ := List.mem_map.1 (hperm.mem_iff.2 (List.mem_map_of_mem hmem))
  obtain ⟨other,hcovers⟩ := hcovered o ho
  have hin : coverage∈detail.coverage.filter
      (fun coverage => coverage.descriptorIndex==o.descriptorIndex) :=
    List.mem_filter.2 ⟨hmem,beq_iff_eq.2 hsame.symm⟩
  rw [hcovers.only,List.mem_singleton] at hin
  rw [hin]
  exact ⟨o,ho,hcovers⟩

/-- Descriptor indexes as the reader keeps them. -/
def seenIndexes : Distinct.Keyed (List Value) Nat where
  has covered index := covered.any (Value.nat index).same=true
  add covered index := .nat index::covered
  has_add covered index other := by
    rw [List.any_cons,Bool.or_eq_true]
    exact or_congr beq_iff_eq Iff.rfl

theorem readCoverage_wire (hreads : Reads v payload) {detail : GroupDetailV4}
    {o : MetricObservation} {coverage : GroupMetricCoverageV4}
    (hcovers : Covers payload detail o coverage) (hsized : CoverageSized coverage)
    (covered covered' : List Value) :
    readCoverage v (groupWire detail) covered (coverageWire coverage)=.ok covered' ↔
      covered.any (Value.nat coverage.descriptorIndex).same=false ∧
      covered'=.nat coverage.descriptorIndex::covered := by
  have hmembers : ((groupWire detail).get "member_ids").items.length=detail.memberIds.length :=
    List.length_map _
  have hindex : (coverageWire coverage).get "descriptor_index"=.nat coverage.descriptorIndex := rfl
  have havailable : (coverageWire coverage).get "available_contributors"=
      .nat coverage.availableContributors := rfl
  have htotal : (coverageWire coverage).get "total_contributors"=
      .nat coverage.totalContributors := rfl
  have hlimitation : (coverageWire coverage).get "limitation_index"=
      orNull .nat coverage.limitationIndex := rfl
  have hsafe : ∀ n, n < 2^32 → safeInteger (.nat n)=true := by
    intro n hn
    rw [safeInteger_nat,decide_eq_true (by simp only [jsMaxSafeInteger]; omega)]
  have hle : (Value.nat coverage.totalContributors).lt (.nat coverage.availableContributors)=
      false := decide_eq_false (Nat.not_lt.2 hcovers.available)
  have hsame : (Value.nat coverage.totalContributors).same (.nat detail.memberIds.length)=true :=
    beq_iff_eq.2 hcovers.total
  have hplaced : validIndex (orNull .nat coverage.limitationIndex) payload.limitations.length=
      true := by
    rw [validIndex_orNull _ _ (fun i hi => by
      have hlt := hsized.limitation i hi
      simp only [jsMaxSafeInteger]
      omega)]
    cases hindex : coverage.limitationIndex with
    | none => rfl
    | some i => exact decide_eq_true (hcovers.placed i hindex)
  rw [readCoverage,unit_bind_ok,reject_ok,pure_ok,hindex,havailable,htotal,hlimitation,hmembers,
    limitations_length hreads,hplaced,hle,hsame,hsafe _ (by have := hsized.descriptor; omega),
    hsafe _ hsized.available,hsafe _ hsized.total,eq_comm (b := covered')]
  change (false || false || _ || false || false || false || false || false)=false ∧ _ ↔ _
  simp only [Bool.false_or,Bool.or_false]

theorem readCoverages_wire (hreads : Reads v payload) {detail : GroupDetailV4}
    (hnodup : (detail.coverage.map (fun coverage => coverage.descriptorIndex)).Nodup)
    (hcovers : ∀ coverage∈detail.coverage, ∃ o∈detail.metrics, Covers payload detail o coverage)
    (hsized : GroupSized detail) :
    ∃ covered, (detail.coverage.map coverageWire).foldlM
      (readCoverage v (groupWire detail)) []=.ok covered := by
  have hadds : ∀ coverage∈detail.coverage, Distinct.Adds seenIndexes (fun _ => True)
      (fun coverage => [coverage.descriptorIndex])
      (fun covered coverage => readCoverage v (groupWire detail) covered (coverageWire coverage))
      coverage := by
    intro coverage hmem covered covered'
    obtain ⟨o,_,hcovered⟩ := hcovers coverage hmem
    rw [readCoverage_wire hreads hcovered (hsized.coverage coverage hmem)]
    simp [seenIndexes]
  have hdistinct :
      (detail.coverage.flatMap (fun coverage => [coverage.descriptorIndex])).Nodup := by
    rw [← List.map_eq_flatMap]
    exact hnodup
  have hloop := (Distinct.foldlM_ok hadds [] _).2
    ⟨fun _ _ => trivial,hdistinct,fun _ _ hseen => (by cases hseen),rfl⟩
  rw [← List.foldlM_map] at hloop
  exact ⟨_,hloop⟩

theorem same_orNull_nat (a b : Option Nat) : (orNull .nat a).same (orNull .nat b)=(a==b) := by
  cases a with
  | none =>
    cases b with
    | none => rfl
    | some b => rfl
  | some a =>
    cases b with
    | none => rfl
    | some b => rfl

theorem isStr_measured (quality : Option MetricQualityV4) :
    (((quality.map (Value.str ∘ qualityName)).getD .undefined).isStr "native" ||
      ((quality.map (Value.str ∘ qualityName)).getD .undefined).isStr "estimated")=
        quality.any (fun quality => quality==.native || quality==.estimated) := by
  cases quality with
  | none => rfl
  | some quality =>
    change ((str (qualityName quality)).isStr (qualityName .native) ||
      (str (qualityName quality)).isStr (qualityName .estimated))=_
    rw [isStr_name qualityName_injective,isStr_name qualityName_injective]
    rfl

theorem readCovered_wire (hreads : Reads v payload) {detail : GroupDetailV4}
    {o : MetricObservation} {coverage : GroupMetricCoverageV4}
    (hcovers : Covers payload detail o coverage) :
    readCovered v (groupWire detail) (observationWire o)=.ok () := by
  have hfound : ((groupWire detail).get "coverage").items.find? (fun coverage =>
      (coverage.get "descriptor_index").same ((observationWire o).atIndex (.nat 0)))=
        some (coverageWire coverage) := by
    have hfind : detail.coverage.find?
        (fun coverage => coverage.descriptorIndex==o.descriptorIndex)=
        some coverage := by
      rw [← List.head?_filter,hcovers.only]
      rfl
    change (detail.coverage.map coverageWire).find? _=_
    rw [List.find?_map]
    change (detail.coverage.find?
      (fun coverage => coverage.descriptorIndex==o.descriptorIndex)).map coverageWire=_
    rw [hfind]
    rfl
  have hlimitation : (coverageWire coverage).get "limitation_index"=
      orNull .nat coverage.limitationIndex := rfl
  have hlimit : (observationWire o).atIndex (.nat 4)=orNull .nat o.limitationIndex := rfl
  have hcode : (observationWire o).atIndex (.nat 2)=.nat o.qualityCode := rfl
  have hlost : ((coverageWire coverage).get "available_contributors").lt
      ((coverageWire coverage).get "total_contributors")=
        decide (coverage.availableContributors < coverage.totalContributors) := rfl
  have hquality : (v.get "quality_codes").atIndex (.nat o.qualityCode)=
      (payload.qualityCodes[o.qualityCode]?.map (Value.str ∘ qualityName)).getD .undefined := by
    rw [hreads.qualityCodes]
    change ((payload.qualityCodes.map (Value.str ∘ qualityName))[o.qualityCode]?).getD .undefined=_
    rw [List.getElem?_map]
  rw [readCovered,okOr_bind_ok]
  refine ⟨_,hfound,?_⟩
  simp only [unit_bind_ok,reject_ok,hlimitation,hlimit,hcode,hlost,hquality,same_orNull_nat,
    isStr_measured,hcovers.limitation,beq_self_eq_true,Bool.not_true,true_and,
    Bool.and_eq_false_imp,decide_eq_true_eq]
  refine ⟨?_,hcovers.quality⟩
  intro hless
  rw [← hcovers.limitation,isNull_orNull (fun _ => rfl),Option.isNone_eq_false_iff]
  exact hcovers.explained hless

/-- A group of the right shape adds its keys where its texts say something. -/
theorem readGroup_adds (hreads : Reads v payload)
    (hpublished : payload.publishedAtMs ≤ jsMaxSafeInteger) {detail : GroupDetailV4}
    (hshape : GroupReadable (fun _ => false) payload known detail) (hsized : GroupSized detail)
    (hmembers : ∀ member∈detail.memberIds, blank member=false) :
    Distinct.Adds (Distinct.seenBoth String String)
      (fun detail => ∀ text∈GroupDetailV4.texts detail, blank text=false) Protocol.groupKeys
      (fun claims detail => readGroup v (known.map processWire) claims (groupWire detail))
      detail := by
  intro claims claims'
  have hitems : ((groupWire detail).get "member_ids").items=detail.memberIds.map .str := rfl
  have hkey : (groupWire detail).get "group_key"=.str detail.groupKey := rfl
  have hid : (groupWire detail).get "stable_id"=.str detail.stableId := rfl
  have hmetrics : (groupWire detail).get "metrics"=metricsWire detail.metrics := rfl
  have hcoverage : ((groupWire detail).get "coverage").items=detail.coverage.map coverageWire := rfl
  have hspelled :
      (!(Value.str detail.stableId).isStr ("group:"++(Value.str detail.groupKey).shown))=
      false := by
    rw [hshape.identity]
    exact congrArg not (beq_self_eq_true ("group:"++detail.groupKey))
  have hobserved : validateObservations v (metricsWire detail.metrics) "group"=.ok () :=
    (validateObservations_wire hreads hpublished hsized.metrics).2 hshape.measured
  have hcount : ((detail.coverage.map coverageWire).length !=
      (metricsWire detail.metrics).items.length)=false := by
    rw [bne_eq_false_iff_eq,List.length_map,hshape.counted]
    exact (List.length_map _).symm
  have hcovered : ∀ o∈detail.metrics, ∃ coverage, Covers payload detail o coverage :=
    fun o ho => validateCoverage_covers (hshape.covered o ho)
  obtain ⟨hnodup,hcovers⟩ := coverage_of_observation (descriptorIndex_nodup hshape.measured)
    hshape.counted hcovered
  obtain ⟨covered,hcoverages⟩ := readCoverages_wire hreads hnodup hcovers hsized
  have hmatched : (metricsWire detail.metrics).items.forM (readCovered v (groupWire detail))=
      .ok () := by
    rw [forM_ok]
    intro item hitem
    obtain ⟨o,ho,rfl⟩ := List.mem_map.1 hitem
    obtain ⟨coverage,hcovers⟩ := hcovered o ho
    exact readCovered_wire hreads hcovers
  have hclaimed : ∀ claimed', (detail.memberIds.map Value.str).foldlM
      (readMember (known.map processWire) (groupWire detail)) claims.1=.ok claimed' ↔
      detail.memberIds.foldlM (Protocol.validateMember known detail) claims.1=.ok claimed' := by
    intro claimed'
    rw [List.foldlM_map]
    exact foldlM_ok_congr (fun s member s' => readMember_wire member s s') _ _ _
  have hdistinct : (!Value.distinct (detail.memberIds.map .str))=false ↔
      detail.memberIds.Nodup := by
    rw [Bool.not_eq_false']
    exact distinct_map (fun a b => beq_iff_eq)
  dsimp only
  rw [readGroup,hitems,hkey,hid,hmetrics,hcoverage]
  simp only [bind_ok,exists_unit,reject_ok,pure_ok,hspelled,hobserved,hcount,hmatched,
    groupMalformed_wire claims.2 hshape.identity hshape.size hmembers,hdistinct,hclaimed,
    Protocol.validateMembers_ok,true_and,text_str]
  rw [Distinct.foldl_seenBoth,Distinct.nodup_sum,Protocol.groupKeys_members,Protocol.groupKeys_id]
  constructor
  · intro h
    obtain ⟨⟨hnew,htexts⟩,hunique,_,⟨_,_,hunclaimed,rfl⟩,_,_,rfl⟩ := h
    refine ⟨htexts,⟨hunique,List.nodup_singleton _⟩,?_,rfl⟩
    intro k hk
    cases List.mem_append.1 hk with
    | inl hmember =>
      obtain ⟨member,hin,rfl⟩ := List.mem_map.1 hmember
      exact hunclaimed member hin
    | inr hself =>
      rw [List.mem_singleton.1 hself]
      exact hnew
  · intro h
    obtain ⟨htexts,⟨hunique,_⟩,hnew,rfl⟩ := h
    have hself : detail.stableId∉claims.2 :=
      hnew (Sum.inr detail.stableId) (by simp [Protocol.groupKeys])
    have hunclaimed : ∀ member∈detail.memberIds, member∉claims.1 := fun member hmember =>
      hnew (Sum.inl member) (by simp [Protocol.groupKeys,hmember])
    exact ⟨⟨hself,htexts⟩,hunique,_,⟨hshape.presented,hunique,hunclaimed,rfl⟩,covered,hcoverages,
      rfl⟩

end Groups

section Sets
variable {v : Value} {payload : PublicationFacts} {sampleSeq total visible : Nat}
  {workloads : List WorkloadDetailV4}

theorem groupingInconsistent_wire (claimed : List String) (process : ProcessDetailV4) :
    groupingInconsistent claimed (processWire process)=
      Protocol.groupStateMismatch claimed process := by
  have hgrouped : (((processWire process).get "presentation").get "is_grouped").truthy=
      process.presentation.isGrouped := rfl
  have hgroup : (!(((processWire process).get "presentation").get "group_id").isNull)=
      process.presentation.groupId.isSome := by
    change (!(orNull str process.presentation.groupId).isNull)=_
    rw [isNull_orNull (fun _ => rfl),Option.not_isNone]
  rw [groupingInconsistent,Protocol.groupStateMismatch,hgrouped,hgroup]
  rfl

theorem member_not_blank
    (hshape : WorkloadsReadable (fun _ => false) payload sampleSeq total visible workloads)
    {detail : GroupDetailV4} (hdetail : detail∈groupDetails workloads) :
    ∀ member∈detail.memberIds, blank member=false := by
  intro member hmember
  obtain ⟨process,hfound,_⟩ := (hshape.groups detail hdetail).presented member hmember
  obtain ⟨hin,hsame⟩ := Protocol.findProcess_some hfound
  rw [← hsame]
  exact processId_not_blank (validateProcessIdentity_ok.1 (hshape.identity process hin)).2.2

/-- The loop over the groups passes where their texts do. -/
theorem readGroups_wire (hreads : Reads v payload)
    (hpublished : payload.publishedAtMs ≤ jsMaxSafeInteger)
    (hshape : WorkloadsReadable (fun _ => false) payload sampleSeq total visible workloads)
    (hsized : WorkloadsSized workloads) (claims : List String × List String) :
    ((groupDetails workloads).map groupWire).foldlM
        (readGroup v ((processDetails workloads).map processWire)) ([],[])=.ok claims ↔
      (∀ detail∈groupDetails workloads, ∀ text∈detail.texts, blank text=false) ∧
      claims=(((groupDetails workloads).flatMap (fun detail => detail.memberIds)).reverse,
        ((groupDetails workloads).map (fun detail => detail.stableId)).reverse) := by
  have hadds := fun detail hmem => readGroup_adds hreads
    hpublished (hshape.groups detail hmem) (hsized.groups detail hmem)
    (member_not_blank hshape hmem)
  have hnone : ∀ k : String ⊕ String, ¬(Distinct.seenBoth String String).has ([],[]) k := by
    intro k
    cases k with
    | inl id => simp [Distinct.seenBoth]
    | inr id => simp [Distinct.seenBoth]
  rw [List.foldlM_map,Distinct.foldlM_ok hadds,Distinct.foldl_seenBoth,Distinct.nodup_sum,
    List.filterMap_flatMap,List.filterMap_flatMap]
  simp only [Protocol.groupKeys_members,Protocol.groupKeys_id,← List.map_eq_flatMap,
    List.append_nil,hshape.members,hshape.groupIds,hnone,not_false_eq_true,implies_true,true_and]

/-- Of a set of workloads of the right shape the reader asks only that its texts say
something, and then its contributors. -/
theorem validateWorkloads_wire (hreads : Reads v payload)
    (hpublished : payload.publishedAtMs ≤ jsMaxSafeInteger)
    (hseq : v.get "sample_seq"=.nat sampleSeq)
    (hvisible : v.get "visible_process_count"=.nat visible)
    (htotal : v.get "total_process_count"=.nat total) (hsafe : total ≤ jsMaxSafeInteger)
    (hshape : WorkloadsReadable (fun _ => false) payload sampleSeq total visible workloads)
    (hsized : WorkloadsSized workloads) :
    validateWorkloads (workloadsWire workloads) v true=.ok () ↔
      (∀ text∈workloadTexts workloads, blank text=false) ∧ readContributors v=.ok () := by
  have hitems : (workloadsWire workloads).items=workloads.map workloadWire := rfl
  have hparents : ((processDetails workloads).map processWire).forM
      (readParent ((processDetails workloads).map processWire))=.ok () := by
    rw [forM_ok]
    intro item hitem
    obtain ⟨process,hmem,rfl⟩ := List.mem_map.1 hitem
    exact readParent_wire hmem hshape.distinct hshape.identity hshape.parent
  have hgrouped : ((processDetails workloads).map processWire).forM (fun process =>
      reject (groupingInconsistent
        ((groupDetails workloads).flatMap (fun detail => detail.memberIds)).reverse process)
        "Process grouping state is inconsistent.")=.ok () := by
    rw [forM_ok]
    intro item hitem
    obtain ⟨process,hmem,rfl⟩ := List.mem_map.1 hitem
    rw [reject_ok,groupingInconsistent_wire,Protocol.groupStateMismatch_reverse]
    exact hshape.grouped process hmem
  have hcounts : (!safeInteger (.nat visible) || !safeInteger (.nat total) ||
      !(Value.nat visible).same (.nat (processDetails workloads).length) ||
      (Value.nat total).lt (.nat (processDetails workloads).length))=false := by
    have hle := hshape.total
    have hsame : (Value.nat visible).same (.nat (processDetails workloads).length)=true :=
      beq_iff_eq.2 hshape.visible
    have hlt : (Value.nat total).lt (.nat (processDetails workloads).length)=false := by
      rw [← hshape.visible]
      exact decide_eq_false (Nat.not_lt.2 hle)
    rw [safeInteger_nat,safeInteger_nat,decide_eq_true (by omega),decide_eq_true hsafe,hsame,hlt]
    rfl
  rw [validateWorkloads,hitems]
  simp only [processesOf_wire,groupsOf_wire,bind_ok,exists_unit,reject_ok,
    readWorkloads_wire hreads hpublished hseq hshape hsized,
    readGroups_wire hreads hpublished hshape hsized,hparents,hvisible,htotal,true_and,if_true]
  rw [workloadTexts,List.forall_mem_append,List.forall_mem_flatMap,List.forall_mem_flatMap]
  constructor
  · intro h
    obtain ⟨_,_,⟨hprocesses,_⟩,_,⟨hgroups,_⟩,_,_,hcontributors⟩ := h
    exact ⟨⟨hprocesses,hgroups⟩,hcontributors⟩
  · intro h
    obtain ⟨⟨hprocesses,hgroups⟩,hcontributors⟩ := h
    refine ⟨rfl,_,⟨hprocesses,rfl⟩,_,⟨hgroups,rfl⟩,hgrouped,?_,hcontributors⟩
    rw [List.length_reverse,List.length_map]
    exact hcounts

end Sets

section Contributors
variable {v : Value} {payload : RuntimeSnapshotPayloadV4}

/-- The integers of a contributor fit their places. -/
@[mk_iff]
structure ContributorSized (contributor : ProcessContributorV4) : Prop where
  quality : contributor.qualityCode < 2^8
  available : contributor.availableContributors < 2^32
  total : contributor.totalContributors < 2^32
  limitation : ∀ i∈contributor.limitationIndex, i < 2^16

instance : DecidablePred ContributorSized := fun contributor =>
  decidable_of_iff' _ (contributorSized_iff contributor)

theorem validProcessId_wire (id : String) (sampleSeq : Nat) :
    validProcessId id (.nat sampleSeq)=Protocol.validProcessId id sampleSeq := by
  have hsame (parsed : Option Nat) :
      parsed.any (fun parsed => (Value.nat parsed).same (.nat sampleSeq))=
        (parsed==some sampleSeq) := by
    cases parsed with
    | none => rfl
    | some parsed => rfl
  simp only [validProcessId,parseJsSafeDecimal_str,hsame]
  rfl

theorem contributorMetricName_injective : Function.Injective contributorMetricName := by
  intro a b h
  cases a <;> cases b <;> first | rfl | simp [contributorMetricName] at h

/-- How a value reads where it stands for the contributors of a snapshot. -/
structure ReadsContributors (v : Value) (payload : RuntimeSnapshotPayloadV4) : Prop where
  facts : Reads v payload.toPublicationFacts
  contributors : v.get "contributors"=.arr (payload.contributors.map contributorWire)
  sampleSeq : v.get "sample_seq"=.nat payload.sampleSeq
  total : v.get "total_process_count"=.nat payload.totalProcessCount

theorem contributorMalformed_wire (hreads : ReadsContributors v payload)
    {contributor : ProcessContributorV4} {quality : Protocol.MetricQualityV4}
    (hshape : Protocol.ContributorShape payload contributor quality)
    (hsized : ContributorSized contributor) (seen : List String) :
    contributorMalformed v seen (contributorWire contributor)=
      seen.contains (contributorMetricName contributor.metric) := by
  have hsafe : ∀ n, n < 2^32 → safeInteger (.nat n)=true := by
    intro n hn
    rw [safeInteger_nat,decide_eq_true (by simp only [jsMaxSafeInteger]; omega)]
  have hcode : safeInteger (.nat contributor.qualityCode)=true :=
    hsafe _ (by have := hsized.quality; omega)
  have hmetric : (str (contributorMetricName contributor.metric)).isIn contributorMetrics=true := by
    cases contributor.metric <;> decide
  have hsource : (str (sourceName contributor.source)).isIn sources=true := by
    cases contributor.source <;> decide
  have hquality : ((v.get "quality_codes").atIndex (.nat contributor.qualityCode)).truthy=true := by
    rw [hreads.facts.qualityCodes]
    change (((payload.qualityCodes.map (Value.str ∘ qualityName))[contributor.qualityCode]?).getD
      .undefined).truthy=true
    rw [List.getElem?_map,hshape.code]
    exact qualityName_truthy quality
  have hle : (Value.nat contributor.totalContributors).lt (.nat contributor.availableContributors)=
      false := decide_eq_false (Nat.not_lt.2 hshape.available)
  have htotal : (Value.nat contributor.totalContributors).same (.nat payload.totalProcessCount)=
      true := beq_iff_eq.2 hshape.total
  have hid : (!(orNull str contributor.processId).isNull &&
      (!(orNull str contributor.processId).isString ||
        !validProcessId (orNull str contributor.processId).text (.nat payload.sampleSeq)))=
      false := by
    cases hprocess : contributor.processId with
    | none => rfl
    | some id =>
      rw [orNull_some,text_str,validProcessId_wire,hshape.id id hprocess]
      rfl
  have hplaced : validIndex (orNull .nat contributor.limitationIndex) payload.limitations.length=
      true := by
    rw [validIndex_orNull _ _ (fun i hi => by
      have hlt := hsized.limitation i hi
      simp only [jsMaxSafeInteger]
      omega)]
    have hlimited := hshape.limited
    rw [Protocol.validateQualityLimitation,unit_bind_ok,Protocol.validateLimitationIndex,
      reject_ok] at hlimited
    have hindex := hlimited.1
    cases hplace : contributor.limitationIndex with
    | none => rfl
    | some place =>
      rw [hplace,Option.any_some,decide_eq_false_iff_not] at hindex
      rw [Option.all_some,decide_eq_true (by omega)]
  have hlength := limitations_length hreads.facts
  simp only [contributorMalformed,hreads.sampleSeq,hreads.total,hlength]
  change (false || !(str (contributorMetricName contributor.metric)).isIn contributorMetrics ||
    seen.contains (contributorMetricName contributor.metric) ||
    !safeInteger (.nat contributor.qualityCode) ||
    !((v.get "quality_codes").atIndex (.nat contributor.qualityCode)).truthy ||
    !safeInteger (.nat contributor.availableContributors) ||
    !safeInteger (.nat contributor.totalContributors) ||
    (Value.nat contributor.totalContributors).lt (.nat contributor.availableContributors) ||
    !(Value.nat contributor.totalContributors).same (.nat payload.totalProcessCount) ||
    !(str (sourceName contributor.source)).isIn sources ||
    (!(orNull str contributor.processId).isNull &&
      (!(orNull str contributor.processId).isString ||
        !validProcessId (orNull str contributor.processId).text (.nat payload.sampleSeq))) ||
    (!(orNull str contributor.displayName).isNull &&
      !(orNull str contributor.displayName).isString) || false ||
    !validIndex (orNull .nat contributor.limitationIndex) payload.limitations.length)=_
  rw [hmetric,hcode,hquality,hsafe _ hsized.available,hsafe _ hsized.total,hle,htotal,hsource,hid,
    and_orNull_isString,hplaced]
  simp only [Bool.not_true,Bool.false_or,Bool.or_false]

/-- A contributor of the right shape passes where its name says something. -/
theorem readContributor_wire (hreads : ReadsContributors v payload)
    {contributor : ProcessContributorV4} {quality : Protocol.MetricQualityV4}
    (hshape : Protocol.ContributorShape payload contributor quality)
    (hsized : ContributorSized contributor) (seen seen' : List String) :
    readContributor v seen (contributorWire contributor)=.ok seen' ↔
      (∀ text∈contributor.texts, blank text=false) ∧
      contributorMetricName contributor.metric∉seen ∧
      seen'=contributorMetricName contributor.metric::seen := by
  have hquality : (v.get "quality_codes").atIndex (.nat contributor.qualityCode)=
      .str (qualityName quality) := by
    rw [hreads.facts.qualityCodes]
    change ((payload.qualityCodes.map (Value.str ∘ qualityName))[contributor.qualityCode]?).getD
      .undefined=_
    rw [List.getElem?_map,hshape.code]
    rfl
  have hid : (contributorWire contributor).get "process_id"=orNull .str contributor.processId := rfl
  have hname : (contributorWire contributor).get "display_name"=
      orNull .str contributor.displayName := rfl
  have hcode : (contributorWire contributor).get "quality_code"=.nat contributor.qualityCode := rfl
  have hlimitation : (contributorWire contributor).get "limitation_index"=
      orNull .nat contributor.limitationIndex := rfl
  have hsource : (contributorWire contributor).get "source"=
      .str (sourceName contributor.source) := rfl
  have hmetric : ((contributorWire contributor).get "metric").text=
      contributorMetricName contributor.metric := rfl
  have hlost : ((contributorWire contributor).get "available_contributors").lt
      ((contributorWire contributor).get "total_contributors")=
        decide (contributor.availableContributors < contributor.totalContributors) := rfl
  have hnone : ((contributorWire contributor).get "available_contributors").same (.nat 0)=
      (contributor.availableContributors==0) := rfl
  have hnobody : ((contributorWire contributor).get "total_contributors").same (.nat 0)=
      (contributor.totalContributors==0) := rfl
  have hlimited := (validateQualityLimitation_wire hreads.facts quality contributor.limitationIndex
    (fun i hi => by
      have hlt := hsized.limitation i hi
      simp only [jsMaxSafeInteger]
      omega)).2 hshape.limited
  have hmeasured := isStr_measured (some quality)
  have hnamed : (!(orNull str contributor.processId).isNull &&
      (!nonEmptyString (orNull str contributor.displayName) ||
        contributor.availableContributors==0 || contributor.totalContributors==0 ||
        quality==.held || quality==.unavailable))=false ↔
      ∀ text∈contributor.texts, blank text=false := by
    rw [isNull_orNull (fun _ => rfl),Option.not_isNone,Bool.and_eq_false_imp,
      ProcessContributorV4.texts]
    constructor
    · intro h
      split
      · next hprocess =>
        have hall := h hprocess
        simp only [Bool.or_eq_false_iff] at hall
        have hsaid := hall.1.1.1.1
        cases hdisplay : contributor.displayName with
        | none => simp
        | some text =>
          rw [hdisplay,orNull_some,nonEmptyString_str,Bool.not_not] at hsaid
          simpa using hsaid
      · simp
    · intro h hprocess
      rw [if_pos hprocess] at h
      obtain ⟨havailable,htotal,hheld,hunavailable⟩ := hshape.identity hprocess
      obtain ⟨text,hdisplay⟩ := Option.isSome_iff_exists.1 (hshape.named.symm.trans hprocess)
      rw [hdisplay,orNull_some,nonEmptyString_str,Bool.not_not,h text (by rw [hdisplay]; simp),
        beq_eq_false_iff_ne.2 havailable,beq_eq_false_iff_ne.2 htotal,
        beq_eq_false_iff_ne.2 hheld,beq_eq_false_iff_ne.2 hunavailable]
      rfl
  have hnameless : ((orNull str contributor.processId).isNull &&
      !(orNull str contributor.displayName).isNull)=false := by
    have hsame := hshape.named
    rw [isNull_orNull (fun _ => rfl),isNull_orNull (fun _ => rfl),Option.not_isNone,← hsame]
    cases contributor.processId <;> rfl
  have hexplained : (decide (contributor.availableContributors < contributor.totalContributors) &&
      (orNull Value.nat contributor.limitationIndex).isNull)=false := by
    rw [Bool.and_eq_false_imp,decide_eq_true_eq,isNull_orNull (fun _ => rfl)]
    intro hless
    exact Option.isNone_eq_false_iff.2 (hshape.explained hless)
  have hsourced : ((contributor.source==.unknown) && (!(quality==.unavailable) ||
      !(Protocol.limitationCodeAt payload.toPublicationFacts contributor.limitationIndex==
        some .missingMetadata)))=false := by
    rw [Bool.and_eq_false_imp,beq_iff_eq]
    intro hunknown
    obtain ⟨hunavailable,hmissing⟩ := hshape.sourced hunknown
    rw [hunavailable,hmissing]
    rfl
  have hcovered : (decide (contributor.availableContributors < contributor.totalContributors) &&
      ((quality==.native) || (quality==.estimated)))=false := by
    rw [Bool.and_eq_false_imp,decide_eq_true_eq]
    intro hless
    obtain ⟨hnative,hestimated⟩ := hshape.covered hless
    rw [beq_eq_false_iff_ne.2 hnative,beq_eq_false_iff_ne.2 hestimated]
    rfl
  change ((str (qualityName quality)).isStr "native" ||
    (str (qualityName quality)).isStr "estimated")=
      ((quality==.native) || (quality==.estimated)) at hmeasured
  simp only [readContributor,unit_bind_ok,reject_ok,pure_ok,hid,hname,hcode,hlimitation,hsource,
    hmetric,hlost,hnone,hnobody,hquality,hlimited,hmeasured,isStr_held,isStr_unavailable,
    isStr_unknown,limitationCode_orNull hreads.facts,isStr_missingMetadata,
    contributorMalformed_wire hreads hshape hsized,hnamed,hnameless,hexplained,hsourced,hcovered,
    true_and,Distinct.contains_eq_false]
  constructor
  · intro h
    exact ⟨h.2.1,h.1,h.2.2.symm⟩
  · intro h
    exact ⟨h.2.1,h.1,h.2.2.symm⟩

/-- The contributors of a snapshot of the right shape pass where their names say something. -/
theorem readContributors_wire (hreads : ReadsContributors v payload)
    (hshape : Protocol.ContributorsShape payload)
    (hsized : ∀ contributor∈payload.contributors, ContributorSized contributor) :
    readContributors v=.ok () ↔
      ∀ text∈payload.contributors.flatMap ProcessContributorV4.texts, blank text=false := by
  have hstep : ∀ contributor∈payload.contributors, ∀ s s',
      readContributor v s (contributorWire contributor)=.ok s' ↔
        (∀ text∈contributor.texts, blank text=false) ∧
        contributorMetricName contributor.metric∉s ∧
        s'=contributorMetricName contributor.metric::s := by
    intro contributor hmem s s'
    obtain ⟨quality,hquality⟩ := hshape.each contributor hmem
    exact readContributor_wire hreads hquality (hsized contributor hmem) s s'
  have hnodup : (payload.contributors.map
      (fun contributor => contributorMetricName contributor.metric)).Nodup := by
    have hnames := hshape.distinct.map contributorMetricName_injective
    rwa [List.map_map] at hnames
  have hfour : payload.contributors.length=4 := by
    have hperm : (payload.contributors.map ProcessContributorV4.metric).Perm
        Protocol.contributorMetrics := by
      refine (List.perm_ext_iff_of_nodup hshape.distinct (by decide)).2 ?_
      intro metric
      refine ⟨fun _ => ?_,fun _ => hshape.complete metric⟩
      cases metric <;> decide
    rw [← List.length_map ProcessContributorV4.metric,hperm.length_eq]
    rfl
  have hitems : (v.get "contributors").items=payload.contributors.map contributorWire := by
    rw [hreads.contributors]
    rfl
  rw [readContributors,hitems]
  simp only [List.foldlM_map,bind_ok,Distinct.foldlM_seen_ok hstep,reject_ok,
    List.forall_mem_flatMap]
  constructor
  · intro h
    obtain ⟨_,⟨htexts,_⟩,_⟩ := h
    exact htexts
  · intro h
    refine ⟨_,⟨h,hnodup,rfl⟩,?_⟩
    rw [List.length_reverse,List.length_map,List.length_map,hfour]
    rfl

end Contributors
end BatCave.Reader
