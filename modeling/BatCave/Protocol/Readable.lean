import BatCave.Protocol.Envelope

/-! What an accepted snapshot says, apart from how its reader takes texts: the shape that does
not depend on it, and the texts that do. A reader says which texts are blank, which versions
and sources it takes and how it spells the id of a pool tag. -/
namespace BatCave.Protocol
open BatCave.Contracts BatCave.Lib BatCave.Lib.Result BatCave.Lib.Text
open BatCave.RuntimeStore.Warnings (RuntimeWarning)

/-- How a reader takes texts. -/
structure TextRules where
  blank : String → Bool
  version : String → Bool
  source : String → Bool
  poolId : String → KernelPoolKindV4 → String

/-- The writer's own rules; it does not look at the source. -/
def nativeRules : TextRules where
  blank := blank
  version appVersion := !(trim appVersion=="" || 64 < (trim appVersion).utf8ByteSize)
  source _ := true
  poolId := poolTagId

section Shape

structure SettingsShape (settings : RuntimeSettingsV4) : Prop where
  window : settings.metricWindowSeconds≠0
  interval : settings.effectiveSampleIntervalMs≠0
  theme : ∀ preferences, settings.uiPreferences=some preferences → preferences.theme.length ≤ 64
  points : ∀ preferences, settings.uiPreferences=some preferences →
    preferences.historyPointLimit≠0

structure HealthShape (payload : RuntimeSnapshotPayloadV4) : Prop where
  facts : validateHealthFacts payload=.ok ()
  states : validateHealthStates payload=.ok ()
  fatal : timeInvalid payload.health.evaluatedAtMs
    (payload.health.fatalError.map RuntimeFatalError.occurredAtMs)=false
  reasons : validateHealthReasons payload=.ok ()

structure ServiceShape (desktop : RuntimeReleaseIdentity) (evaluatedAtMs : Nat)
    (service : RuntimeCollectorServiceStatus) : Prop where
  commit : ∀ identity, service.releaseIdentity=some identity →
    identity.sourceCommitSha.any commitShaInvalid=false
  time : timeInvalid evaluatedAtMs service.lastConnectedAtMs=false
  active : service.state=.active → ∃ identity, service.releaseIdentity=some identity ∧
    releaseMismatch identity desktop=false ∧ service.serviceVersion.isSome ∧
    service.negotiatedProtocolVersion.isSome ∧ service.instanceId.isSome ∧
    service.lastConnectedAtMs.isSome
  incompatible : service.state=.incompatible → service.serviceVersion.isSome

structure PrivilegedShape (payload : RuntimeSnapshotPayloadV4) : Prop where
  source : (payload.privilegedCollection.state==.active)≠
    (payload.privilegedCollection.source==.none)
  elevated : payload.privilegedCollection.source=.localProcess →
    payload.environment.processElevation=.elevated
  time : timeInvalid payload.health.evaluatedAtMs payload.privilegedCollection.lastSuccessAtMs=false
  service : ∀ service, payload.privilegedCollection.collectorService=some service →
    ServiceShape payload.environment.releaseIdentity payload.health.evaluatedAtMs service
  served : payload.privilegedCollection.source=.collectorService →
    payload.privilegedCollection.state=.active ∧ payload.privilegedCollection.serviceActive=true
  alone : payload.privilegedCollection.source=.localProcess →
    payload.privilegedCollection.serviceActive=false
  fallback : payload.privilegedCollection.standardFallbackProcessEtwDisabled=true →
    payload.environment.platform=.windows ∧ payload.environment.processElevation=.standard ∧
    payload.privilegedCollection.source=.none ∧ payload.privilegedCollection.serviceActive=false

structure ComponentShape (evaluatedAtMs : Nat) (component : RuntimePersistenceComponentV4) :
    Prop where
  time : timeInvalid evaluatedAtMs component.lastSuccessAtMs=false
  failing : component.requiresFailure=component.activeFailure.isSome
  durable : ¬(component.state=.healthy ∧ component.durability=.notWritten)
  unused : component.durability=.notApplicable →
    component.lastSuccessAtMs=none ∧ component.activeFailure=none
  failed : timeInvalid evaluatedAtMs
    (component.activeFailure.map RuntimePersistenceFailureV4.occurredAtMs)=false

def RuntimePersistenceRootV4.placed (root : RuntimePersistenceRootV4) : Prop :=
  (root.permissionState=.verified → root.directory.isSome) ∧
    (root.permissionState=.unavailable → root.directory=none)

def rootsWorst (roots : List RuntimePersistenceRootV4) : Option RuntimePersistenceStateV4 :=
  roots.foldl (fun worst root => recordPersistenceState worst root.permissionState.state) none

structure PersistenceShape (evaluatedAtMs : Nat) (persistence : RuntimePersistenceV4) : Prop where
  counter : persistence.suppressedDiagnosticEvents ≤ jsMaxSafeInteger
  owners : (persistence.roots.map RuntimePersistenceRootV4.owner).Nodup
  roots : ∀ root∈persistence.roots, root.placed
  owned : ∀ component∈persistence.components,
    component.owner∈persistence.roots.map RuntimePersistenceRootV4.owner
  keys : (persistence.components.map (fun component => (component.owner,component.kind))).Nodup
  components : ∀ component∈persistence.components, ComponentShape evaluatedAtMs component
  active : persistence.state≠.unavailable → persistence.roots≠[] ∧ persistence.components≠[]
  state : persistence.state=(persistence.components.foldl recordComponentState
    (rootsWorst persistence.roots)).getD .unavailable

structure SystemShape (payload : RuntimeSnapshotPayloadV4) : Prop where
  identity : payload.system.stableId="system:local"
  logical : ∀ logical∈payload.system.logicalCpus, logical.stableId=logicalCpuId logical.index
  logicalIds : (payload.system.logicalCpus.map LogicalCpuDetailV4.stableId).Nodup
  logicalIndexes : (payload.system.logicalCpus.map LogicalCpuDetailV4.index).Nodup
  tagIds : (payload.system.kernelPoolTags.map KernelPoolTagDetailV4.stableId).Nodup
  measured : validateSystemObservations payload.toPublicationFacts payload.system=.ok ()

structure ContributorShape (payload : RuntimeSnapshotPayloadV4)
    (contributor : ProcessContributorV4) (quality : MetricQualityV4) : Prop where
  code : payload.qualityCodes[contributor.qualityCode]?=some quality
  available : contributor.availableContributors ≤ contributor.totalContributors
  total : contributor.totalContributors=payload.totalProcessCount
  named : contributor.processId.isSome=contributor.displayName.isSome
  identity : contributor.processId.isSome → contributor.availableContributors≠0 ∧
    contributor.totalContributors≠0 ∧ quality≠.held ∧ quality≠.unavailable
  id : ∀ id, contributor.processId=some id → validProcessId id payload.sampleSeq=true
  explained : contributor.availableContributors < contributor.totalContributors →
    contributor.limitationIndex.isSome
  limited : validateQualityLimitation payload.toPublicationFacts quality
    contributor.limitationIndex=.ok ()
  sourced : contributor.source=.unknown → quality=.unavailable ∧
    limitationCodeAt payload.toPublicationFacts contributor.limitationIndex=some .missingMetadata
  covered : contributor.availableContributors < contributor.totalContributors →
    quality≠.native ∧ quality≠.estimated

structure ContributorsShape (payload : RuntimeSnapshotPayloadV4) : Prop where
  each : ∀ contributor∈payload.contributors, ∃ quality, ContributorShape payload contributor quality
  distinct : (payload.contributors.map ProcessContributorV4.metric).Nodup
  complete : ∀ metric, metric∈payload.contributors.map ProcessContributorV4.metric

structure WarningsShape (payload : RuntimeSnapshotPayloadV4) : Prop where
  seq : ∀ warning∈payload.warnings, warning.publicationSeq ≤ jsMaxSafeInteger ∧
    warning.publicationSeq ≤ payload.publicationSeq
  time : ∀ warning∈payload.warnings, warning.occurredAtMs ≤ jsMaxSafeInteger ∧
    warning.occurredAtMs ≤ payload.publishedAtMs
  keys : (payload.warnings.map RuntimeWarning.key).Nodup

/-- A set of workloads with nothing asked of its texts. -/
def WorkloadsShape (payload : RuntimeSnapshotPayloadV4) (visibleProcessCount : Nat)
    (workloads : List WorkloadDetailV4) : Prop :=
  WorkloadsReadable (fun _ => false) payload.toPublicationFacts payload.sampleSeq
    payload.totalProcessCount visibleProcessCount workloads

/-- Everything that is asked of a snapshot but the texts. -/
structure SnapshotShape (payload : RuntimeSnapshotPayloadV4) : Prop where
  metadata : validateMetadata payload=.ok ()
  commit : payload.environment.releaseIdentity.sourceCommitSha.any commitShaInvalid=false
  settings : SettingsShape payload.settings
  health : HealthShape payload
  privileged : PrivilegedShape payload
  persistence : ∀ persistence, payload.persistence=some persistence →
    PersistenceShape payload.health.evaluatedAtMs persistence
  qualityCodes : payload.qualityCodes=qualityCodes
  descriptors : ∀ entry∈payload.descriptors.zipIdx, validateDescriptor entry=.ok ()
  system : SystemShape payload
  workloads : WorkloadsShape payload payload.visibleProcessCount payload.workloads
  overviewCount : processCount payload.overviewWorkloads < 2^32
  overviewWorkloads : WorkloadsShape payload (processCount payload.overviewWorkloads)
    payload.overviewWorkloads
  contributors : ContributorsShape payload
  warnings : WarningsShape payload

end Shape

section Texts

def serviceTexts (service : RuntimeCollectorServiceStatus) : List String :=
  (if service.state=.active then service.serviceVersion.toList++service.instanceId.toList else [])++
    (if service.state=.incompatible then
      service.serviceVersion.toList++service.minimumDesktopVersion.toList else [])

def RuntimePersistenceV4.texts (persistence : RuntimePersistenceV4) : List String :=
  persistence.roots.flatMap (fun root =>
    if root.permissionState=.verified then root.directory.toList else [])++
  persistence.components.flatMap (fun component =>
    component.activeFailure.toList.flatMap (fun failure => [failure.code,failure.summary]))

def workloadTexts (workloads : List WorkloadDetailV4) : List String :=
  (processDetails workloads).flatMap ProcessDetailV4.texts++
    (groupDetails workloads).flatMap GroupDetailV4.texts

def KernelPoolTagDetailV4.texts (tag : KernelPoolTagDetailV4) : List String :=
  tag.tag::tag.driverCandidates

def ProcessContributorV4.texts (contributor : ProcessContributorV4) : List String :=
  if contributor.processId.isSome then contributor.displayName.toList else []

def warningTexts (warning : RuntimeWarning) : List String :=
  [warning.key,warning.category,warning.message]

/-- Every text that a reader wants to say something. -/
def RuntimeSnapshotPayloadV4.texts (payload : RuntimeSnapshotPayloadV4) : List String :=
  payload.settings.uiPreferences.toList.map RuntimeUiPreferences.theme++
  payload.health.fatalError.toList.flatMap (fun error => [error.code,error.message])++
  payload.privilegedCollection.collectorService.toList.flatMap serviceTexts++
  payload.persistence.toList.flatMap RuntimePersistenceV4.texts++
  payload.limitations.map LimitationEntry.message++
  payload.system.kernelPoolTags.flatMap KernelPoolTagDetailV4.texts++
  workloadTexts payload.workloads++
  workloadTexts payload.overviewWorkloads++
  payload.contributors.flatMap ProcessContributorV4.texts++
  payload.warnings.flatMap warningTexts

/-- The versions that a reader takes as a release. -/
def RuntimeSnapshotPayloadV4.versions (payload : RuntimeSnapshotPayloadV4) : List String :=
  payload.environment.releaseIdentity.appVersion::
    payload.privilegedCollection.collectorService.toList.flatMap (fun service =>
      service.releaseIdentity.toList.map RuntimeReleaseIdentity.appVersion)

/-- The texts of a snapshot by the rules of a reader. -/
structure TextRules.Take (rules : TextRules) (payload : RuntimeSnapshotPayloadV4) : Prop where
  texts : ∀ text∈payload.texts, rules.blank text=false
  versions : ∀ version∈payload.versions, rules.version version=true
  source : rules.source payload.source=true
  tags : ∀ tag∈payload.system.kernelPoolTags, tag.stableId=rules.poolId tag.tag tag.kind

end Texts

section Native

theorem validateReleaseIdentity_ok {identity : RuntimeReleaseIdentity} :
    validateReleaseIdentity identity=.ok () ↔
      identity.sourceCommitSha.any commitShaInvalid=false ∧
        nativeRules.version identity.appVersion=true := by
  simp only [validateReleaseIdentity,unit_bind_ok,reject_ok,nativeRules,Bool.not_eq_true']
  exact and_comm

theorem validateSettings_ok {settings : RuntimeSettingsV4} :
    validateSettings settings=.ok () ↔ SettingsShape settings ∧
      ∀ text∈settings.uiPreferences.toList.map RuntimeUiPreferences.theme, blank text=false := by
  simp only [validateSettings,unit_bind_ok,reject_ok,Bool.or_eq_false_iff,beq_eq_false_iff_ne]
  cases hpreferences : settings.uiPreferences with
  | none =>
    constructor
    · intro h
      refine ⟨⟨h.1.1,h.1.2,?_,?_⟩,by simp⟩
      · simp [hpreferences]
      · simp [hpreferences]
    · intro h
      exact ⟨⟨h.1.window,h.1.interval⟩,rfl⟩
  | some preferences =>
    simp only [Option.any_some,Bool.or_eq_false_iff,decide_eq_false_iff_not,not_lt,
      beq_eq_false_iff_ne,Option.toList_some,List.map_cons,List.map_nil,List.forall_mem_cons]
    constructor
    · intro h
      refine ⟨⟨h.1.1,h.1.2,?_,?_⟩,h.2.1.1,by simp⟩
      · intro preferences' h'
        rw [hpreferences] at h'
        cases h'
        exact h.2.1.2
      · intro preferences' h'
        rw [hpreferences] at h'
        cases h'
        exact h.2.2
    · intro h
      exact ⟨⟨h.1.window,h.1.interval⟩,⟨h.2.1,h.1.theme preferences hpreferences⟩,
        h.1.points preferences hpreferences⟩

theorem validateHealth_ok {payload : RuntimeSnapshotPayloadV4} :
    validateHealth payload=.ok () ↔ HealthShape payload ∧
      ∀ text∈payload.health.fatalError.toList.flatMap (fun error => [error.code,error.message]),
        blank text=false := by
  have hfatal : validateFatalError payload.health=.ok () ↔
      timeInvalid payload.health.evaluatedAtMs
        (payload.health.fatalError.map RuntimeFatalError.occurredAtMs)=false ∧
      ∀ text∈payload.health.fatalError.toList.flatMap (fun error => [error.code,error.message]),
        blank text=false := by
    rw [validateFatalError,reject_ok]
    cases payload.health.fatalError with
    | none => simp [timeInvalid]
    | some error =>
      simp [timeInvalid,and_assoc]
  simp only [validateHealth,unit_bind_ok,hfatal]
  constructor
  · intro h
    exact ⟨⟨h.1,h.2.1,h.2.2.1.1,h.2.2.2⟩,h.2.2.1.2⟩
  · intro h
    exact ⟨h.1.facts,h.1.states,⟨h.1.fatal,h.2⟩,h.1.reasons⟩

theorem unnamed_eq_false {value : Option String} :
    unnamed value=false ↔ value.isSome ∧ ∀ text∈value.toList, blank text=false := by
  cases value with
  | none => simp [unnamed]
  | some text => simp [unnamed]

theorem and_eq_false_of_beq {α : Type} [BEq α] [LawfulBEq α] {a b : α} {bad : Bool} :
    (a==b && bad)=false ↔ (a=b → bad=false) := by
  rw [Bool.and_eq_false_imp,beq_iff_eq]

theorem activeServiceIncomplete_eq_false {service : RuntimeCollectorServiceStatus} :
    activeServiceIncomplete service=false ↔ service.releaseIdentity.isSome ∧
      (service.serviceVersion.isSome ∧ service.negotiatedProtocolVersion.isSome ∧
        service.instanceId.isSome ∧ service.lastConnectedAtMs.isSome) ∧
      ∀ text∈service.serviceVersion.toList++service.instanceId.toList, blank text=false := by
  simp only [activeServiceIncomplete,Bool.or_eq_false_iff,unnamed_eq_false,
    Option.isNone_eq_false_iff,List.mem_append]
  constructor
  · intro h
    obtain ⟨⟨⟨⟨hrelease,hversion,hversions⟩,hprotocol⟩,hinstance,hinstances⟩,hconnected⟩ := h
    refine ⟨hrelease,⟨hversion,hprotocol,hinstance,hconnected⟩,?_⟩
    intro text htext
    exact htext.elim (hversions text) (hinstances text)
  · intro h
    obtain ⟨hrelease,⟨hversion,hprotocol,hinstance,hconnected⟩,htexts⟩ := h
    exact ⟨⟨⟨⟨hrelease,hversion,fun text h => htexts text (.inl h)⟩,hprotocol⟩,hinstance,
      fun text h => htexts text (.inr h)⟩,hconnected⟩

theorem forall_serviceTexts {isBlank : String → Bool} {service : RuntimeCollectorServiceStatus} :
    (∀ text∈serviceTexts service, isBlank text=false) ↔
      (service.state=.active → ∀ text∈service.serviceVersion.toList++service.instanceId.toList,
        isBlank text=false) ∧
      (service.state=.incompatible →
        ∀ text∈service.serviceVersion.toList++service.minimumDesktopVersion.toList,
          isBlank text=false) := by
  rw [serviceTexts,List.forall_mem_append]
  constructor
  · intro h
    refine ⟨fun hactive => ?_,fun hincompatible => ?_⟩
    · rw [if_pos hactive] at h
      exact h.1
    · rw [if_pos hincompatible] at h
      exact h.2
  · intro h
    refine ⟨?_,?_⟩
    · split
      · next hactive => exact h.1 hactive
      · simp
    · split
      · next hincompatible => exact h.2 hincompatible
      · simp

theorem validateCollectorService_ok {desktop : RuntimeReleaseIdentity} {evaluatedAtMs : Nat}
    {service : RuntimeCollectorServiceStatus} :
    validateCollectorService desktop evaluatedAtMs service=.ok () ↔
      ServiceShape desktop evaluatedAtMs service ∧
      (∀ text∈serviceTexts service, blank text=false) ∧
      ∀ version∈service.releaseIdentity.toList.map RuntimeReleaseIdentity.appVersion,
        nativeRules.version version=true := by
  have hrelease : ifSome service.releaseIdentity validateReleaseIdentity=.ok () ↔
      (∀ identity, service.releaseIdentity=some identity →
        identity.sourceCommitSha.any commitShaInvalid=false) ∧
      ∀ version∈service.releaseIdentity.toList.map RuntimeReleaseIdentity.appVersion,
        nativeRules.version version=true := by
    rw [ifSome_ok]
    cases service.releaseIdentity with
    | none => simp
    | some identity => simp [validateReleaseIdentity_ok]
  have hincompatible : (unnamed service.serviceVersion ||
      service.minimumDesktopVersion.any blank)=false ↔ service.serviceVersion.isSome ∧
        ∀ text∈service.serviceVersion.toList++service.minimumDesktopVersion.toList,
          blank text=false := by
    rw [Bool.or_eq_false_iff,unnamed_eq_false,List.forall_mem_append]
    cases service.minimumDesktopVersion with
    | none => simp
    | some text => simp [and_assoc]
  simp only [validateCollectorService,unit_bind_ok,reject_ok,hrelease,and_eq_false_of_beq,
    hincompatible,activeServiceIncomplete_eq_false,forall_serviceTexts]
  constructor
  · intro h
    obtain ⟨⟨hcommit,hversions⟩,htime,hactive,hmatch,hold⟩ := h
    refine ⟨⟨hcommit,htime,?_,fun hstate => (hold hstate).1⟩,
      ⟨fun hstate => (hactive hstate).2.2,fun hstate => (hold hstate).2⟩,hversions⟩
    intro hstate
    obtain ⟨hsome,hnamed,_⟩ := hactive hstate
    obtain ⟨identity,hidentity⟩ := Option.isSome_iff_exists.1 hsome
    have hsame := hmatch hstate
    rw [hidentity,Option.any_some] at hsame
    exact ⟨identity,hidentity,hsame,hnamed⟩
  · intro h
    obtain ⟨hshape,⟨hactive,hold⟩,hversions⟩ := h
    refine ⟨⟨hshape.commit,hversions⟩,hshape.time,?_,?_,?_⟩
    · intro hstate
      obtain ⟨identity,hidentity,_,hnamed⟩ := hshape.active hstate
      exact ⟨Option.isSome_of_mem hidentity,hnamed,hactive hstate⟩
    · intro hstate
      obtain ⟨identity,hidentity,hsame,_⟩ := hshape.active hstate
      rw [hidentity]
      exact hsame
    · intro hstate
      exact ⟨hshape.incompatible hstate,hold hstate⟩

theorem validatePrivilegedCollection_ok {payload : RuntimeSnapshotPayloadV4} :
    validatePrivilegedCollection payload=.ok () ↔ PrivilegedShape payload ∧
      (∀ text∈payload.privilegedCollection.collectorService.toList.flatMap serviceTexts,
        blank text=false) ∧
      ∀ version∈payload.privilegedCollection.collectorService.toList.flatMap (fun service =>
        service.releaseIdentity.toList.map RuntimeReleaseIdentity.appVersion),
        nativeRules.version version=true := by
  have hservice : ifSome payload.privilegedCollection.collectorService
      (validateCollectorService payload.environment.releaseIdentity
        payload.health.evaluatedAtMs)=.ok () ↔
      (∀ service, payload.privilegedCollection.collectorService=some service →
        ServiceShape payload.environment.releaseIdentity payload.health.evaluatedAtMs service) ∧
      (∀ text∈payload.privilegedCollection.collectorService.toList.flatMap serviceTexts,
        blank text=false) ∧
      ∀ version∈payload.privilegedCollection.collectorService.toList.flatMap (fun service =>
        service.releaseIdentity.toList.map RuntimeReleaseIdentity.appVersion),
        nativeRules.version version=true := by
    rw [ifSome_ok]
    cases payload.privilegedCollection.collectorService with
    | none => simp
    | some service => simp [validateCollectorService_ok]
  simp only [validatePrivilegedCollection,unit_bind_ok,reject_ok,hservice,Bool.and_eq_false_imp,
    beq_iff_eq,Bool.or_eq_false_iff,bne_eq_false_iff_eq,Bool.not_eq_false']
  constructor
  · intro h
    obtain ⟨hsource,helevated,htime,⟨hshape,htexts,hversions⟩,hserved,halone,hfallback⟩ := h
    refine ⟨⟨?_,helevated,htime,hshape,hserved,halone,?_⟩,htexts,hversions⟩
    · exact beq_eq_false_iff_ne.1 hsource
    · intro hdisabled
      obtain ⟨⟨⟨hplatform,hstandard⟩,hnone⟩,hinactive⟩ := hfallback hdisabled
      exact ⟨hplatform,hstandard,hnone,hinactive⟩
  · intro h
    obtain ⟨hshape,htexts,hversions⟩ := h
    refine ⟨?_,hshape.elevated,hshape.time,⟨hshape.service,htexts,hversions⟩,hshape.served,
      hshape.alone,?_⟩
    · exact beq_eq_false_iff_ne.2 hshape.source
    · intro hdisabled
      obtain ⟨hplatform,hstandard,hnone,hinactive⟩ := hshape.fallback hdisabled
      exact ⟨⟨⟨hplatform,hstandard⟩,hnone⟩,hinactive⟩

theorem rootStateInvalid_eq_false {root : RuntimePersistenceRootV4} :
    rootStateInvalid root=false ↔ root.placed ∧
      ∀ text∈(if root.permissionState=.verified then root.directory.toList else []),
        blank text=false := by
  rw [rootStateInvalid,RuntimePersistenceRootV4.placed]
  cases root.permissionState with
  | verified =>
    cases root.directory with
    | none => simp
    | some directory => simp [blank]
  | invalid => simp
  | unavailable => simp

theorem validatePersistenceRoots_ok (roots : List RuntimePersistenceRootV4) :
    ∀ (owners owners' : List RuntimePersistenceOwnerV4)
      (worst worst' : Option RuntimePersistenceStateV4),
      validatePersistenceRoots owners worst roots=.ok (owners',worst') ↔
        (∀ root∈roots, rootStateInvalid root=false) ∧
        (roots.map RuntimePersistenceRootV4.owner).Nodup ∧
        (∀ owner∈roots.map RuntimePersistenceRootV4.owner, owner∉owners) ∧
        owners'=(roots.map RuntimePersistenceRootV4.owner).reverse++owners ∧
        worst'=roots.foldl (fun worst root =>
          recordPersistenceState worst root.permissionState.state) worst := by
  induction roots with
  | nil =>
    intro owners owners' worst worst'
    rw [validatePersistenceRoots,eq_comm]
    simp
  | cons root roots ih =>
    intro owners owners' worst worst'
    rw [validatePersistenceRoots]
    split
    · next hseen => simp [hseen]
    · next hnew =>
      split
      · next hbad => simp [hbad]
      · next hgood =>
        have hgood := Bool.eq_false_of_not_eq_true hgood
        rw [ih]
        simp only [List.mem_cons,forall_eq_or_imp,List.map_cons,List.nodup_cons,List.reverse_cons,
          List.append_assoc,List.foldl_cons,not_or,List.singleton_append,hgood,hnew,true_and,
          not_false_eq_true]
        constructor
        · intro h
          obtain ⟨hroots,hnodup,hnews,howners,hworst⟩ := h
          exact ⟨hroots,⟨fun hmem => (hnews _ hmem).1 rfl,hnodup⟩,fun owner hmem =>
            (hnews owner hmem).2,howners,hworst⟩
        · intro h
          obtain ⟨hroots,⟨hself,hnodup⟩,hnews,howners,hworst⟩ := h
          refine ⟨hroots,hnodup,fun owner hmem => ⟨?_,hnews owner hmem⟩,howners,hworst⟩
          intro hsame
          rw [hsame] at hmem
          exact hself hmem

theorem validatePersistenceComponent_ok {component : RuntimePersistenceComponentV4}
    {evaluatedAtMs : Nat} :
    validatePersistenceComponent component evaluatedAtMs=.ok () ↔
      ComponentShape evaluatedAtMs component ∧
      ∀ text∈component.activeFailure.toList.flatMap (fun failure => [failure.code,failure.summary]),
        blank text=false := by
  have hfailure : (component.activeFailure.any
      (fun failure => failureInvalid failure evaluatedAtMs))=false ↔
      timeInvalid evaluatedAtMs
        (component.activeFailure.map RuntimePersistenceFailureV4.occurredAtMs)=false ∧
      ∀ text∈component.activeFailure.toList.flatMap (fun failure => [failure.code,failure.summary]),
        blank text=false := by
    cases component.activeFailure with
    | none => simp [timeInvalid]
    | some failure => simp [timeInvalid,failureInvalid,blank,and_assoc]
  rw [validatePersistenceComponent]
  split
  · next htime =>
    simp only [reduceCtorEq,false_iff]
    intro h
    exact absurd (h.1.time.symm.trans htime) nofun
  · next htime =>
    split
    · next hfailing =>
      simp only [reduceCtorEq,false_iff]
      exact fun h => hfailing h.1.failing
    · next hfailing =>
      split
      · next hdurable =>
        simp only [reduceCtorEq,false_iff]
        exact fun h => h.1.durable hdurable
      · next hdurable =>
        split
        · next hunused =>
          simp only [reduceCtorEq,false_iff]
          intro h
          obtain ⟨hnever,hnone⟩ := h.1.unused hunused.1
          simp [hnever,hnone] at hunused
        · next hunused =>
          split
          · next hfailed =>
            simp only [reduceCtorEq,false_iff]
            intro h
            exact absurd (hfailed.symm.trans (hfailure.2 ⟨h.1.failed,h.2⟩)) nofun
          · next hfailed =>
            have hfailed := hfailure.1 (Bool.eq_false_of_not_eq_true hfailed)
            simp only [true_iff]
            refine ⟨⟨Bool.eq_false_of_not_eq_true htime,not_not.1 hfailing,hdurable,?_,
              hfailed.1⟩,hfailed.2⟩
            intro hstate
            rw [not_and,not_or] at hunused
            have hnone := hunused hstate
            simpa using hnone

theorem validatePersistenceComponents_iff {owners : List RuntimePersistenceOwnerV4}
    {evaluatedAtMs : Nat} (components : List RuntimePersistenceComponentV4) :
    ∀ (keys : List (RuntimePersistenceOwnerV4 × RuntimePersistenceKindV4))
      (worst worst' : Option RuntimePersistenceStateV4),
      validatePersistenceComponents owners evaluatedAtMs keys worst components=.ok worst' ↔
        (∀ component∈components, component.owner∈owners ∧
          validatePersistenceComponent component evaluatedAtMs=.ok ()) ∧
        (components.map (fun component => (component.owner,component.kind))).Nodup ∧
        (∀ key∈components.map (fun component => (component.owner,component.kind)), key∉keys) ∧
        worst'=components.foldl recordComponentState worst := by
  induction components with
  | nil =>
    intro keys worst worst'
    rw [validatePersistenceComponents,eq_comm]
    simp
  | cons component components ih =>
    intro keys worst worst'
    rw [validatePersistenceComponents]
    split
    · next howner => simp [howner]
    · next howner =>
      have howner := not_not.1 howner
      split
      · next hseen => simp [hseen]
      · next hnew =>
        split
        · next error herror => simp [herror]
        · next hok =>
          rw [ih]
          simp only [List.mem_cons,forall_eq_or_imp,List.map_cons,List.nodup_cons,
            List.foldl_cons,not_or,howner,hok,hnew,true_and,not_false_eq_true]
          constructor
          · intro h
            obtain ⟨hall,hnodup,hnews,hworst⟩ := h
            exact ⟨hall,⟨fun hmem => (hnews _ hmem).1 rfl,hnodup⟩,fun key hmem =>
              (hnews key hmem).2,hworst⟩
          · intro h
            obtain ⟨hall,⟨hself,hnodup⟩,hnews,hworst⟩ := h
            refine ⟨hall,hnodup,fun key hmem => ⟨?_,hnews key hmem⟩,hworst⟩
            intro hsame
            rw [hsame] at hmem
            exact hself hmem

theorem validatePersistence_steps {persistence : RuntimePersistenceV4} {evaluatedAtMs : Nat} :
    validatePersistence (some persistence) evaluatedAtMs=.ok () ↔
      persistence.suppressedDiagnosticEvents ≤ jsMaxSafeInteger ∧
      ∃ owners worst, validatePersistenceRoots [] none persistence.roots=.ok (owners,worst) ∧
      ∃ worst', validatePersistenceComponents owners evaluatedAtMs [] worst
        persistence.components=.ok worst' ∧
      (persistence.state≠.unavailable → persistence.roots≠[] ∧ persistence.components≠[]) ∧
      persistence.state=worst'.getD .unavailable := by
  rw [validatePersistence]
  split
  · next hcounter => simp [Nat.not_le.2 hcounter]
  · next hcounter =>
    split
    · next error herror => simp [herror]
    · next owners worst hroots =>
      split
      · next error herror => simp [hroots,herror]
      · next worst' hcomponents =>
        have hactive : (¬(persistence.state≠.unavailable ∧
            (persistence.roots=[] ∨ persistence.components=[]))) ↔
            (persistence.state≠.unavailable →
              persistence.roots≠[] ∧ persistence.components≠[]) := by
          rw [not_and,not_or]
        constructor
        · intro h
          refine ⟨Nat.not_lt.1 hcounter,owners,worst,hroots,worst',hcomponents,?_⟩
          split at h
          · cases h
          · next hnonempty =>
            split at h
            · cases h
            · next hstate => exact ⟨hactive.1 hnonempty,not_not.1 hstate⟩
        · intro h
          obtain ⟨_,owners',worst'',hroots',worst₃,hcomponents',hnonempty,hstate⟩ := h
          rw [hroots] at hroots'
          cases hroots'
          rw [hcomponents] at hcomponents'
          cases hcomponents'
          rw [if_neg (hactive.2 hnonempty),if_neg (not_not.2 hstate)]

theorem validatePersistence_iff {persistence : Option RuntimePersistenceV4} {evaluatedAtMs : Nat} :
    validatePersistence persistence evaluatedAtMs=.ok () ↔
      (∀ p, persistence=some p → PersistenceShape evaluatedAtMs p) ∧
      ∀ text∈persistence.toList.flatMap RuntimePersistenceV4.texts, blank text=false := by
  cases persistence with
  | none => simp [validatePersistence]
  | some persistence =>
    simp only [Option.some.injEq,forall_eq',Option.toList_some,List.flatMap_singleton,
      validatePersistence_steps,validatePersistenceRoots_ok,validatePersistenceComponents_iff,
      rootStateInvalid_eq_false,validatePersistenceComponent_ok,RuntimePersistenceV4.texts,
      List.forall_mem_append,List.forall_mem_flatMap]
    constructor
    · intro h
      obtain ⟨hcounter,owners,worst,⟨hroots,howners,_,rfl,rfl⟩,worst',⟨hcomponents,hkeys,_,rfl⟩,
        hactive,hstate⟩ := h
      refine ⟨⟨hcounter,howners,fun root hroot => (hroots root hroot).1,?_,hkeys,
        fun component hmem => (hcomponents component hmem).2.1,hactive,hstate⟩,
        fun root hroot => (hroots root hroot).2,
        fun component hmem => (hcomponents component hmem).2.2⟩
      intro component hmem
      have howned := (hcomponents component hmem).1
      simpa using howned
    · intro h
      obtain ⟨hshape,hdirectories,hfailures⟩ := h
      refine ⟨hshape.counter,_,_,⟨fun root hroot => ⟨hshape.roots root hroot,
        hdirectories root hroot⟩,hshape.owners,(fun _ _ h => by cases h),rfl,rfl⟩,_,⟨?_,hshape.keys,
        (fun _ _ h => by cases h),rfl⟩,
        hshape.active,hshape.state⟩
      intro component hmem
      have howned := hshape.owned component hmem
      exact ⟨by simpa using howned,hshape.components component hmem,hfailures component hmem⟩

theorem validateLogicalCpus_ok {logicalCpus : List LogicalCpuDetailV4}
    {seen : List String × List Nat} :
    logicalCpus.foldlM validateLogicalCpu ([],[])=.ok seen ↔
      (∀ logical∈logicalCpus, logical.stableId=logicalCpuId logical.index) ∧
      (logicalCpus.map LogicalCpuDetailV4.stableId).Nodup ∧
      (logicalCpus.map LogicalCpuDetailV4.index).Nodup ∧
      seen=((logicalCpus.map LogicalCpuDetailV4.stableId).reverse,
        (logicalCpus.map LogicalCpuDetailV4.index).reverse) := by
  have hadds : ∀ logical∈logicalCpus, Distinct.Adds (Distinct.seenBoth String Nat)
      (fun logical => logical.stableId=logicalCpuId logical.index)
      (fun logical => [.inl logical.stableId,.inr logical.index]) validateLogicalCpu logical := by
    intro logical _ seen seen'
    rw [validateLogicalCpu,unit_bind_ok,reject_ok,pure_ok,eq_comm (a := (_,_))]
    simp [Distinct.seenBoth,and_assoc]
  have hnone : ∀ k : String ⊕ Nat, ¬(Distinct.seenBoth String Nat).has ([],[]) k := by
    intro k
    cases k with
    | inl id => simp [Distinct.seenBoth]
    | inr index => simp [Distinct.seenBoth]
  rw [Distinct.foldlM_ok hadds,Distinct.nodup_sum,Distinct.foldl_seenBoth]
  simp [List.filterMap_flatMap,List.filterMap_cons,← List.map_eq_flatMap,hnone,and_assoc]

theorem validatePoolTags_ok {tags : List KernelPoolTagDetailV4} {seen : List String} :
    tags.foldlM validatePoolTag []=.ok seen ↔
      (∀ tag∈tags, tag.stableId=poolTagId tag.tag tag.kind ∧
        ∀ text∈tag.texts, blank text=false) ∧
      (tags.map KernelPoolTagDetailV4.stableId).Nodup ∧
      seen=(tags.map KernelPoolTagDetailV4.stableId).reverse := by
  refine Distinct.foldlM_seen_ok ?_ seen
  intro tag _ s s'
  rw [validatePoolTag,unit_bind_ok,reject_ok,pure_ok]
  simp only [Bool.or_eq_false_iff,bne_eq_false_iff_eq,List.any_eq_false,Bool.not_eq_true,
    Distinct.contains_eq_false,KernelPoolTagDetailV4.texts,List.forall_mem_cons]
  constructor
  · intro h
    obtain ⟨⟨⟨⟨hid,htag⟩,hnew⟩,hcandidates⟩,hs'⟩ := h
    exact ⟨⟨hid,htag,hcandidates⟩,hnew,hs'.symm⟩
  · intro h
    obtain ⟨⟨hid,htag,hcandidates⟩,hnew,hs'⟩ := h
    exact ⟨⟨⟨⟨hid,htag⟩,hnew⟩,hcandidates⟩,hs'.symm⟩

theorem validateSystem_ok {payload : RuntimeSnapshotPayloadV4}
    (hmeasured : validateSystemObservations payload.toPublicationFacts payload.system=.ok ()) :
    validateSystem payload.system=.ok () ↔ SystemShape payload ∧
      (∀ text∈payload.system.kernelPoolTags.flatMap KernelPoolTagDetailV4.texts,
        blank text=false) ∧
      ∀ tag∈payload.system.kernelPoolTags, tag.stableId=poolTagId tag.tag tag.kind := by
  simp only [validateSystem,bind_ok,exists_unit,reject_ok,pure_ok,validateLogicalCpus_ok,
    validatePoolTags_ok,bne_eq_false_iff_eq,List.forall_mem_flatMap]
  constructor
  · intro h
    obtain ⟨hidentity,_,⟨hlogical,hids,hindexes,_⟩,_,⟨htags,htagIds,_⟩,_⟩ := h
    exact ⟨⟨hidentity,hlogical,hids,hindexes,htagIds,hmeasured⟩,
      fun tag hmem => (htags tag hmem).2,fun tag hmem => (htags tag hmem).1⟩
  · intro h
    obtain ⟨hshape,htexts,hids⟩ := h
    exact ⟨hshape.identity,_,⟨hshape.logical,hshape.logicalIds,hshape.logicalIndexes,rfl⟩,_,
      ⟨fun tag hmem => ⟨hids tag hmem,htexts tag hmem⟩,hshape.tagIds,rfl⟩,trivial⟩

theorem validateContributor_ok {payload : RuntimeSnapshotPayloadV4}
    {contributor : ProcessContributorV4} {metrics metrics' : List ContributorMetricV4} :
    validateContributor payload metrics contributor=.ok metrics' ↔
      ((∃ quality, ContributorShape payload contributor quality) ∧
        ∀ text∈contributor.texts, blank text=false) ∧
      contributor.metric∉metrics ∧ metrics'=contributor.metric::metrics := by
  simp only [validateContributor,okOr_ok,bind_ok,exists_unit,reject_ok,pure_ok,
    Bool.or_eq_false_iff,Bool.and_eq_false_imp,decide_eq_false_iff_not,not_lt,
    bne_eq_false_iff_eq,beq_iff_eq,beq_eq_false_iff_ne,Distinct.contains_eq_false,
    unnamed_eq_false,decide_eq_true_eq,Option.isNone_eq_false_iff]
  constructor
  · intro h
    obtain ⟨quality,hcode,⟨havailable,htotal⟩,hnew,hidentity,hid,hnameless,hexplained,hlimited,
      hsourced,hcovered,hmetrics⟩ := h
    refine ⟨⟨⟨quality,hcode,havailable,htotal,?_,?_,?_,hexplained,hlimited,hsourced,hcovered⟩,
      ?_⟩,hnew,hmetrics.symm⟩
    · cases hprocess : contributor.processId with
      | none => exact (hnameless (by rw [hprocess]; rfl)).symm
      | some id => exact (hidentity (by rw [hprocess]; rfl)).1.1.1.1.1.symm
    · intro hprocess
      obtain ⟨⟨⟨⟨_,havailable⟩,htotal⟩,hheld⟩,hunavailable⟩ := hidentity hprocess
      exact ⟨havailable,htotal,hheld,hunavailable⟩
    · intro id hprocess
      rw [hprocess] at hid
      simpa using hid
    · rw [ProcessContributorV4.texts]
      split
      · next hprocess => exact (hidentity hprocess).1.1.1.1.2
      · simp
  · intro h
    obtain ⟨⟨⟨quality,hshape⟩,htexts⟩,hnew,hmetrics⟩ := h
    refine ⟨quality,hshape.code,⟨hshape.available,hshape.total⟩,hnew,?_,?_,?_,hshape.explained,
      hshape.limited,hshape.sourced,hshape.covered,hmetrics.symm⟩
    · intro hprocess
      obtain ⟨havailable,htotal,hheld,hunavailable⟩ := hshape.identity hprocess
      rw [ProcessContributorV4.texts,if_pos hprocess] at htexts
      exact ⟨⟨⟨⟨⟨hshape.named.symm.trans hprocess,htexts⟩,havailable⟩,htotal⟩,hheld⟩,hunavailable⟩
    · cases hprocess : contributor.processId with
      | none => rfl
      | some id => simpa using hshape.id id hprocess
    · intro hprocess
      rw [← hshape.named]
      simpa using hprocess

theorem validateContributors_ok {payload : RuntimeSnapshotPayloadV4} :
    validateContributors payload=.ok () ↔ ContributorsShape payload ∧
      ∀ text∈payload.contributors.flatMap ProcessContributorV4.texts, blank text=false := by
  have hstep : ∀ contributor∈payload.contributors, ∀ s s',
      validateContributor payload s contributor=.ok s' ↔
        ((∃ quality, ContributorShape payload contributor quality) ∧
          ∀ text∈contributor.texts, blank text=false) ∧
        contributor.metric∉s ∧ s'=contributor.metric::s :=
    fun _ _ _ _ => validateContributor_ok
  simp only [validateContributors,bind_ok,Distinct.foldlM_seen_ok hstep,reject_ok,
    Bool.not_eq_false',List.all_eq_true,
    List.contains_iff_mem,List.forall_mem_flatMap]
  have hevery (metrics : List ContributorMetricV4) :
      (∀ metric∈contributorMetrics, metric∈metrics) ↔ ∀ metric, metric∈metrics := by
    constructor
    · intro h metric
      refine h metric ?_
      cases metric with
      | cpu => decide
      | memory => decide
      | io => decide
      | network => decide
    · intro h metric _
      exact h metric
  simp only [hevery]
  constructor
  · intro h
    obtain ⟨_,⟨heach,hdistinct,rfl⟩,hcomplete⟩ := h
    refine ⟨⟨fun contributor hmem => (heach contributor hmem).1,hdistinct,?_⟩,
      fun contributor hmem => (heach contributor hmem).2⟩
    intro metric
    exact List.mem_reverse.1 (hcomplete metric)
  · intro h
    obtain ⟨hshape,htexts⟩ := h
    refine ⟨_,⟨fun contributor hmem => ⟨hshape.each contributor hmem,htexts contributor hmem⟩,
      hshape.distinct,rfl⟩,?_⟩
    intro metric
    exact List.mem_reverse.2 (hshape.complete metric)

theorem validateWarnings_ok {payload : RuntimeSnapshotPayloadV4} :
    validateWarnings payload=.ok () ↔ WarningsShape payload ∧
      ∀ text∈payload.warnings.flatMap warningTexts, blank text=false := by
  have hstep : ∀ warning∈payload.warnings, ∀ s s', validateWarning payload s warning=.ok s' ↔
      (((warning.publicationSeq ≤ jsMaxSafeInteger ∧
          warning.publicationSeq ≤ payload.publicationSeq) ∧
        warning.occurredAtMs ≤ jsMaxSafeInteger ∧ warning.occurredAtMs ≤ payload.publishedAtMs) ∧
        ∀ text∈warningTexts warning, blank text=false) ∧
      warning.key∉s ∧ s'=warning.key::s := by
    intro warning _ s s'
    rw [validateWarning,unit_bind_ok,reject_ok,pure_ok,eq_comm (b := s')]
    simp only [Bool.or_eq_false_iff,decide_eq_false_iff_not,not_lt,Distinct.contains_eq_false,
      warningTexts,List.forall_mem_cons,List.not_mem_nil,false_imp_iff,implies_true,and_true]
    constructor
    · intro h
      obtain ⟨⟨⟨⟨⟨⟨⟨⟨hseq,htime⟩,hlate⟩,hafter⟩,hkey⟩,hcategory⟩,hmessage⟩,hnew⟩,hs'⟩ := h
      exact ⟨⟨⟨⟨hseq,hlate⟩,htime,hafter⟩,hkey,hcategory,hmessage⟩,hnew,hs'⟩
    · intro h
      obtain ⟨⟨⟨⟨hseq,hlate⟩,htime,hafter⟩,hkey,hcategory,hmessage⟩,hnew,hs'⟩ := h
      exact ⟨⟨⟨⟨⟨⟨⟨⟨hseq,htime⟩,hlate⟩,hafter⟩,hkey⟩,hcategory⟩,hmessage⟩,hnew⟩,hs'⟩
  simp only [validateWarnings,bind_ok,Distinct.foldlM_seen_ok hstep,pure_ok,
    List.forall_mem_flatMap]
  constructor
  · intro h
    obtain ⟨_,⟨heach,hkeys,_⟩,_⟩ := h
    exact ⟨⟨fun warning hmem => (heach warning hmem).1.1,fun warning hmem =>
      (heach warning hmem).1.2,hkeys⟩,fun warning hmem => (heach warning hmem).2⟩
  · intro h
    obtain ⟨hshape,htexts⟩ := h
    exact ⟨_,⟨fun warning hmem => ⟨⟨hshape.seq warning hmem,hshape.time warning hmem⟩,
      htexts warning hmem⟩,hshape.keys,rfl⟩,trivial⟩

theorem any_never (texts : List String) : texts.any (fun _ => false)=false := by
  simp

theorem groupReadable_iff {isBlank : String → Bool} {payload : PublicationFacts}
    {known : List ProcessDetailV4} {detail : GroupDetailV4} :
    GroupReadable isBlank payload known detail ↔
      GroupReadable (fun _ => false) payload known detail ∧
        ∀ text∈detail.texts, isBlank text=false := by
  constructor
  · intro h
    refine ⟨⟨h.identity,h.size,any_never _,h.presented,h.measured,h.counted,h.covered⟩,?_⟩
    have htexts := h.texts
    simpa using htexts
  · intro h
    obtain ⟨h,htexts⟩ := h
    exact ⟨h.identity,h.size,by simpa using htexts,h.presented,h.measured,h.counted,h.covered⟩

/-- The texts of a set of workloads are apart from the rest of it. -/
theorem workloadsReadable_iff {isBlank : String → Bool} {payload : PublicationFacts}
    {sampleSeq total visible : Nat} {workloads : List WorkloadDetailV4} :
    WorkloadsReadable isBlank payload sampleSeq total visible workloads ↔
      WorkloadsReadable (fun _ => false) payload sampleSeq total visible workloads ∧
        ∀ text∈workloadTexts workloads, isBlank text=false := by
  rw [workloadTexts,List.forall_mem_append,List.forall_mem_flatMap,List.forall_mem_flatMap]
  constructor
  · intro h
    refine ⟨⟨h.distinct,h.visible,h.total,h.identity,fun _ _ => any_never _,h.count,h.parent,
      h.measured,fun detail hmem => (groupReadable_iff.1 (h.groups detail hmem)).1,h.groupIds,
      h.members,h.grouped⟩,?_,fun detail hmem => (groupReadable_iff.1 (h.groups detail hmem)).2⟩
    intro process hmem
    have htexts := h.texts process hmem
    simpa using htexts
  · intro h
    obtain ⟨h,hprocesses,hgroups⟩ := h
    refine ⟨h.distinct,h.visible,h.total,h.identity,?_,h.count,h.parent,h.measured,
      fun detail hmem => groupReadable_iff.2 ⟨h.groups detail hmem,hgroups detail hmem⟩,
      h.groupIds,h.members,h.grouped⟩
    intro process hmem
    simpa using hprocesses process hmem

/-- The writer hands out exactly the snapshots of the right shape whose texts it takes. -/
theorem validateSnapshot_ok {payload : RuntimeSnapshotPayloadV4} :
    validateSnapshot payload=.ok () ↔ SnapshotShape payload ∧ nativeRules.Take payload := by
  have hset (visible : Nat) (workloads : List WorkloadDetailV4) :
      validateWorkloadSet workloads visible payload=.ok () ↔
        (WorkloadsShape payload visible workloads ∧
          ∀ text∈workloadTexts workloads, blank text=false) ∧
        validateSystemObservations payload.toPublicationFacts payload.system=.ok () := by
    rw [validateWorkloadSet_ok,workloadsReadable_iff]
    rfl
  simp only [validateSnapshot,unit_bind_ok,reject_ok,validateReleaseIdentity_ok,
    validateSettings_ok,validateHealth_ok,validatePrivilegedCollection_ok,validatePersistence_iff,
    hset,validateContributors_ok,validateWarnings_ok,forM_ok,bne_eq_false_iff_eq,
    decide_eq_false_iff_not,not_le]
  constructor
  · intro h
    obtain ⟨hmetadata,⟨hcommit,hversion⟩,⟨hsettings,hthemes⟩,⟨hhealth,herrors⟩,
      ⟨hprivileged,hservice,hversions⟩,⟨hpersistence,hroots⟩,hcodes,hmessages,hdescriptors,hsystem,
      ⟨⟨hworkloads,hrows⟩,hmeasured⟩,hcount,⟨⟨hoverview,hoverviewRows⟩,_⟩,
      ⟨hcontributors,hnames⟩,hwarnings,hwarningTexts⟩ := h
    obtain ⟨hsystem,htags,hids⟩ := (validateSystem_ok hmeasured).1 hsystem
    refine ⟨⟨hmetadata,hcommit,hsettings,hhealth,hprivileged,hpersistence,hcodes,hdescriptors,
      hsystem,hworkloads,hcount,hoverview,hcontributors,hwarnings⟩,⟨?_,?_,rfl,hids⟩⟩
    · have hmessages : ∀ text∈payload.limitations.map LimitationEntry.message,
          blank text=false := by
        simpa using hmessages
      simp only [RuntimeSnapshotPayloadV4.texts,List.forall_mem_append]
      exact ⟨⟨⟨⟨⟨⟨⟨⟨⟨hthemes,herrors⟩,hservice⟩,hroots⟩,hmessages⟩,htags⟩,hrows⟩,hoverviewRows⟩,
        hnames⟩,hwarningTexts⟩
    · rw [RuntimeSnapshotPayloadV4.versions,List.forall_mem_cons]
      exact ⟨hversion,hversions⟩
  · intro h
    obtain ⟨hshape,htexts,hversions,_,hids⟩ := h
    simp only [RuntimeSnapshotPayloadV4.texts,List.forall_mem_append] at htexts
    obtain ⟨⟨⟨⟨⟨⟨⟨⟨⟨hthemes,herrors⟩,hservice⟩,hroots⟩,hmessages⟩,htags⟩,hrows⟩,hoverviewRows⟩,
      hnames⟩,hwarningTexts⟩ := htexts
    rw [RuntimeSnapshotPayloadV4.versions,List.forall_mem_cons] at hversions
    have hmeasured := hshape.system.measured
    refine ⟨hshape.metadata,⟨hshape.commit,hversions.1⟩,⟨hshape.settings,hthemes⟩,
      ⟨hshape.health,herrors⟩,⟨hshape.privileged,hservice,hversions.2⟩,⟨hshape.persistence,hroots⟩,
      hshape.qualityCodes,?_,hshape.descriptors,
      (validateSystem_ok hmeasured).2 ⟨hshape.system,htags,hids⟩,
      ⟨⟨hshape.workloads,hrows⟩,hmeasured⟩,hshape.overviewCount,
      ⟨⟨hshape.overviewWorkloads,hoverviewRows⟩,hmeasured⟩,⟨hshape.contributors,hnames⟩,
      hshape.warnings,hwarningTexts⟩
    have hmessages : ∀ text∈payload.limitations.map LimitationEntry.message,
        blank text=false := hmessages
    simpa using hmessages

end Native
end BatCave.Protocol
