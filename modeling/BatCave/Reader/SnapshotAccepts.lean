import BatCave.Reader.Snapshot
import BatCave.Reader.WorkloadAccepts

/-! What the reader accepts of a snapshot of the writer's, section by section: its shape
passes, and what is left is how the texts are taken. -/
namespace BatCave.Reader
open BatCave.Contracts BatCave.Lib BatCave.Lib.Js BatCave.Lib.Js.Value BatCave.Lib.Result
open BatCave.CollectorService (isAsciiHexdigit)
open BatCave.Protocol (KernelPoolTagDetailV4 LogicalCpuDetailV4 PersistenceShape PrivilegedShape
  RuntimeHealthV4 RuntimePersistenceComponentV4 RuntimePersistenceRootV4 RuntimePersistenceV4
  RuntimeSettingsV4 RuntimeSnapshotPayloadV4 ServiceShape SettingsShape SystemShape TextRules
  jsMaxSafeInteger serviceTexts warningTexts)

section Context

/-- How the reader takes the version of a release: its length is that of the whole text. -/
def readerVersion (appVersion : String) : Bool :=
  !blank appVersion && appVersion.utf8ByteSize ≤ 64

/-- The reader's rules, in a host's locale. -/
def readerRules (locale : HostLocale) : TextRules where
  blank := blank
  version := readerVersion
  source source := !blank source
  poolId tag kind := locale.toLocaleLowerCase ("system:local:pool:"++tag++":"++poolKindName kind)

/-- The integers of the settings fit their places. -/
@[mk_iff]
structure SettingsSized (settings : RuntimeSettingsV4) : Prop where
  window : settings.metricWindowSeconds < 2^32
  interval : settings.effectiveSampleIntervalMs < 2^32
  limit : settings.query.limit < 2^32
  points : ∀ preferences, settings.uiPreferences=some preferences →
    preferences.historyPointLimit < 2^32

instance : DecidablePred SettingsSized := fun settings =>
  decidable_of_iff' _ (settingsSized_iff settings)

theorem blankText_str (s : String) : blankText (.str s)=blank s := rfl

theorem refused_orNull {α : Type} {write : α → Value} (hwrite : ∀ a, (write a).isNull=false)
    (accept : Value → Bool) (o : Option α) :
    refused (orNull write o) accept=o.any (fun a => !accept (write a)) :=
  and_orNull hwrite (fun v => !accept v) o

theorem refused_isString (o : Option String) : refused (orNull .str o) isString=false :=
  and_orNull_isString o

theorem refused_safeInteger (o : Option Nat) :
    refused (orNull .nat o) safeInteger=o.any (fun n => jsMaxSafeInteger < n) := by
  rw [refused_orNull (fun _ => rfl)]
  cases o with
  | none => rfl
  | some n =>
    rw [Option.any_some,Option.any_some,safeInteger_nat,← decide_not,decide_eq_decide]
    exact Nat.not_le

/-- Hexadecimal digits take one byte each. -/
theorem hexdigits_size {s : String} (h : s.toList.all isAsciiHexdigit=true) :
    s.utf8ByteSize=s.toList.length := by
  have hone : ∀ c, isAsciiHexdigit c=true → c.utf8Size=1 := by
    intro c hc
    have hle : ∀ d : Char, c ≤ d → d.val ≤ 127 → c.val ≤ 127 := fun d hcd hd =>
      UInt32.le_trans (Char.le_def.1 hcd) hd
    simp only [isAsciiHexdigit,Char.isDigit,Bool.or_eq_true,Bool.and_eq_true,
      decide_eq_true_eq] at hc
    rw [Char.utf8Size_eq_one_iff]
    obtain (hc | hc) | hc := hc
    · exact UInt32.le_trans hc.2 (by decide)
    · exact hle 'f' hc.2 (by decide)
    · exact hle 'F' hc.2 (by decide)
  have hsizes : ∀ cs : List Char, cs.all isAsciiHexdigit=true →
      (cs.map Char.utf8Size).sum=cs.length := by
    intro cs hcs
    induction cs with
    | nil => rfl
    | cons c cs ih =>
      rw [List.all_cons,Bool.and_eq_true] at hcs
      rw [List.map_cons,List.sum_cons,ih hcs.2,hone c hcs.1,List.length_cons]
      omega
  rw [← hsizes s.toList h,← Text.utf8ByteSize_ofList,String.ofList_toList]

/-- Apart from its version, a release of the writer's is one of the reader's. -/
theorem validReleaseIdentity_wire {identity : RuntimeReleaseIdentity}
    (hcommit : identity.sourceCommitSha.any Protocol.commitShaInvalid=false) :
    validReleaseIdentity (releaseIdentityWire identity)=readerVersion identity.appVersion := by
  have hsha : ((orNull str identity.sourceCommitSha).isNull ||
      ((orNull str identity.sourceCommitSha).isString &&
        (orNull str identity.sourceCommitSha).text.toList.length==40 &&
        (orNull str identity.sourceCommitSha).text.toList.all isAsciiHexdigit))=true := by
    cases hsome : identity.sourceCommitSha with
    | none => rfl
    | some sha =>
      rw [hsome,Option.any_some,Protocol.commitShaInvalid,Bool.or_eq_false_iff,
        bne_eq_false_iff_eq,Bool.not_eq_false'] at hcommit
      rw [orNull_some,text_str,hcommit.2,← hexdigits_size hcommit.2,hcommit.1]
      rfl
  simp only [validReleaseIdentity,releaseIdentityWire,Value.get,List.lookup_cons,String.reduceBEq,
    Option.getD_some,isRecord_obj,text_str,blankText_str,hsha,Bool.and_true,Bool.true_and]
  rfl

theorem settingsMalformed_wire {settings : RuntimeSettingsV4} (hshape : SettingsShape settings)
    (hsized : SettingsSized settings) :
    settingsMalformed (settingsWire settings)=false ↔
      ∀ text∈settings.uiPreferences.toList.map RuntimeUiPreferences.theme, blank text=false := by
  have hfocus : (str (focusModeName settings.query.focusMode)).isIn focusModes=true := by
    cases settings.query.focusMode <;> decide
  have hcolumn : (str (sortColumnName settings.query.sortColumn)).isIn sortColumns=true := by
    cases settings.query.sortColumn <;> decide
  have hdirection : (str (sortDirectionName settings.query.sortDirection)).isIn sortDirections=
      true := by
    cases settings.query.sortDirection <;> decide
  have hpositive : ∀ n, n≠0 → (Value.nat n).same (.nat 0)=false :=
    fun n hn => beq_eq_false_iff_ne.2 hn
  have hpreferences : refused (orNull uiPreferencesWire settings.uiPreferences)
      (fun v => !uiPreferencesMalformed v)=false ↔
      ∀ text∈settings.uiPreferences.toList.map RuntimeUiPreferences.theme, blank text=false := by
    rw [refused_orNull (fun _ => rfl)]
    cases hsome : settings.uiPreferences with
    | none => simp
    | some preferences =>
      have hlong : decide (64 < preferences.theme.toList.length)=false := by
        have hle := hshape.theme preferences hsome
        rw [← String.length_toList] at hle
        exact decide_eq_false (Nat.not_lt.2 hle)
      have hpoints := hpositive _ (hshape.points preferences hsome)
      have hfits := safeInteger_of_lt (hsized.points preferences hsome)
      simp only [Option.any_some,Bool.not_not,Option.toList_some,List.map_cons,List.map_nil,
        List.forall_mem_cons,List.not_mem_nil,false_imp_iff,implies_true,and_true]
      change (false || blank preferences.theme || decide (64 < preferences.theme.toList.length) ||
        !safeInteger (.nat preferences.historyPointLimit) ||
        (Value.nat preferences.historyPointLimit).same (.nat 0))=false ↔ _
      rw [hlong,hfits,hpoints]
      simp only [Bool.not_true,Bool.or_false,Bool.false_or]
  have hlimit := safeInteger_of_lt hsized.limit
  have hwindow := safeInteger_of_lt hsized.window
  have hinterval := safeInteger_of_lt hsized.interval
  have hwindow' := hpositive _ hshape.window
  have hinterval' := hpositive _ hshape.interval
  rw [← hpreferences,settingsMalformed]
  change (false || !(str (focusModeName settings.query.focusMode)).isIn focusModes ||
    !(str (sortColumnName settings.query.sortColumn)).isIn sortColumns ||
    !(str (sortDirectionName settings.query.sortDirection)).isIn sortDirections ||
    !safeInteger (.nat settings.query.limit) || false ||
    !safeInteger (.nat settings.metricWindowSeconds) ||
    !safeInteger (.nat settings.effectiveSampleIntervalMs) ||
    (Value.nat settings.metricWindowSeconds).same (.nat 0) ||
    (Value.nat settings.effectiveSampleIntervalMs).same (.nat 0) ||
    refused (orNull uiPreferencesWire settings.uiPreferences)
      (fun v => !uiPreferencesMalformed v))=false ↔ _
  rw [hfocus,hcolumn,hdirection,hlimit,hwindow,hinterval,hwindow',hinterval']
  simp only [Bool.not_true,Bool.or_false,Bool.false_or]

end Context

section Privileged

theorem serviceStateName_injective : Function.Injective serviceStateName := by
  intro a b h
  cases a <;> cases b <;> first | rfl | simp [serviceStateName] at h

theorem privilegedStateName_injective : Function.Injective privilegedStateName := by
  intro a b h
  cases a <;> cases b <;> first | rfl | simp [privilegedStateName] at h

theorem privilegedSourceName_injective : Function.Injective privilegedSourceName := by
  intro a b h
  cases a <;> cases b <;> first | rfl | simp [privilegedSourceName] at h

theorem elevationName_injective : Function.Injective elevationName := by
  intro a b h
  cases a <;> cases b <;> first | rfl | simp [elevationName] at h

/-- A time that the writer takes is safe for the reader and not after the evaluation. -/
theorem time_valid {evaluatedAtMs : Nat} {time : Option Nat}
    (h : Protocol.timeInvalid evaluatedAtMs time=false) :
    (!(orNull Value.nat time).isNull && (!safeInteger (orNull .nat time) ||
      (Value.nat evaluatedAtMs).lt (orNull .nat time)))=false := by
  cases time with
  | none => rfl
  | some time =>
    rw [Protocol.timeInvalid,Option.any_some,Bool.or_eq_false_iff,decide_eq_false_iff_not,
      decide_eq_false_iff_not] at h
    rw [orNull_some,safeInteger_nat,decide_eq_true (Nat.not_lt.1 h.1)]
    exact decide_eq_false h.2

theorem serviceMalformed_wire {desktop : RuntimeReleaseIdentity} {health : RuntimeHealthV4}
    {service : RuntimeCollectorServiceStatus}
    (hshape : ServiceShape desktop health.evaluatedAtMs service)
    (hsized : ∀ version∈service.negotiatedProtocolVersion, version < 2^16) :
    serviceMalformed (collectorServiceWire service) (healthWire health)=false ↔
      ∀ version∈service.releaseIdentity.toList.map RuntimeReleaseIdentity.appVersion,
        readerVersion version=true := by
  have hstate : (str (serviceStateName service.state)).isIn collectorServiceStates=true := by
    cases service.state <;> decide
  have hnegotiated : refused (orNull .nat service.negotiatedProtocolVersion) safeInteger=false := by
    rw [refused_safeInteger]
    cases hversion : service.negotiatedProtocolVersion with
    | none => rfl
    | some version =>
      have hlt := hsized version hversion
      exact decide_eq_false (by simp only [jsMaxSafeInteger]; omega)
  have hrelease : refused (orNull releaseIdentityWire service.releaseIdentity)
      validReleaseIdentity=false ↔
      ∀ version∈service.releaseIdentity.toList.map RuntimeReleaseIdentity.appVersion,
        readerVersion version=true := by
    rw [refused_orNull (fun _ => rfl)]
    cases hidentity : service.releaseIdentity with
    | none => simp
    | some identity =>
      rw [Option.any_some,validReleaseIdentity_wire (hshape.commit identity hidentity)]
      simp
  rw [← hrelease,serviceMalformed]
  change (false || !(str (serviceStateName service.state)).isIn collectorServiceStates ||
    refused (orNull releaseIdentityWire service.releaseIdentity) validReleaseIdentity ||
    refused (orNull .str service.serviceVersion) isString ||
    refused (orNull .nat service.negotiatedProtocolVersion) safeInteger ||
    refused (orNull .str service.minimumDesktopVersion) isString ||
    refused (orNull .str service.instanceId) isString ||
    (!(orNull Value.nat service.lastConnectedAtMs).isNull &&
      (!safeInteger (orNull .nat service.lastConnectedAtMs) ||
        (Value.nat health.evaluatedAtMs).lt (orNull .nat service.lastConnectedAtMs))) ||
    refused (orNull .str service.detail) isString)=false ↔ _
  rw [hstate,hnegotiated,time_valid hshape.time]
  simp only [refused_isString,Bool.not_true,Bool.or_false,Bool.false_or]

/-- A text that has to be there and say something. -/
theorem blankText_orNull (o : Option String) :
    blankText (orNull .str o)=false ↔ o.isSome ∧ ∀ text∈o.toList, blank text=false := by
  cases o with
  | none => simp [blankText]
  | some text => simp [blankText_str]

theorem activeService_wire {desktop : RuntimeReleaseIdentity} {evaluatedAtMs : Nat}
    {service : RuntimeCollectorServiceStatus} (hshape : ServiceShape desktop evaluatedAtMs service)
    (hversions : ∀ version∈service.releaseIdentity.toList.map RuntimeReleaseIdentity.appVersion,
      readerVersion version=true) (hactive : service.state=.active) :
    (!validReleaseIdentity (orNull releaseIdentityWire service.releaseIdentity) ||
      blankText (orNull .str service.serviceVersion) ||
      (orNull Value.nat service.negotiatedProtocolVersion).isNull ||
      blankText (orNull .str service.instanceId) ||
      (orNull Value.nat service.lastConnectedAtMs).isNull)=false ↔
      ∀ text∈service.serviceVersion.toList++service.instanceId.toList, blank text=false := by
  obtain ⟨identity,hidentity,_,hversion,hprotocol,hinstance,hconnected⟩ := hshape.active hactive
  have hrelease :
      validReleaseIdentity (orNull releaseIdentityWire service.releaseIdentity)=true := by
    rw [hidentity,orNull_some,validReleaseIdentity_wire (hshape.commit identity hidentity)]
    refine hversions _ ?_
    rw [hidentity]
    exact List.mem_singleton_self _
  rw [hrelease,isNull_orNull (fun _ => rfl),isNull_orNull (fun _ => rfl)]
  simp only [Bool.or_eq_false_iff,blankText_orNull,hversion,hprotocol,hinstance,hconnected,
    Option.isNone_eq_false_iff,Bool.not_true,true_and,and_true,List.forall_mem_append]

theorem serviceReleaseMatchesDesktop_wire {service desktop : RuntimeReleaseIdentity}
    (hsame : Protocol.releaseMismatch service desktop=false)
    (hservice : validReleaseIdentity (releaseIdentityWire service)=true)
    (hdesktop : validReleaseIdentity (releaseIdentityWire desktop)=true) :
    serviceReleaseMatchesDesktop (releaseIdentityWire service)
      (releaseIdentityWire desktop)=true := by
  rw [Protocol.releaseMismatch,Bool.or_eq_false_iff,bne_eq_false_iff_eq,
    Bool.and_eq_false_imp] at hsame
  rw [serviceReleaseMatchesDesktop,hservice,hdesktop]
  change (true && (service.appVersion==desktop.appVersion) &&
    ((orNull str service.sourceCommitSha).isNull ||
      (orNull str service.sourceCommitSha).same (orNull str desktop.sourceCommitSha)))=true
  rw [hsame.1,beq_self_eq_true]
  cases hsha : service.sourceCommitSha with
  | none => rfl
  | some sha =>
    have hboth := hsame.2 (by rw [hsha]; rfl)
    rw [bne_eq_false_iff_eq] at hboth
    rw [← hboth,hsha]
    exact beq_self_eq_true sha

theorem isStr_serviceActive (service : RuntimeCollectorServiceStatus) :
    ((collectorServiceWire service).get "state").isStr "active"=(service.state==.active) :=
  isStr_name serviceStateName_injective service.state .active

theorem isStr_serviceIncompatible (service : RuntimeCollectorServiceStatus) :
    ((collectorServiceWire service).get "state").isStr "incompatible"=
      (service.state==.incompatible) :=
  isStr_name serviceStateName_injective service.state .incompatible

theorem incompatibleService_wire {service : RuntimeCollectorServiceStatus}
    (hversion : service.serviceVersion.isSome) :
    (blankText (orNull .str service.serviceVersion) ||
      refused (orNull .str service.minimumDesktopVersion) (fun v => !blankText v))=false ↔
      ∀ text∈service.serviceVersion.toList++service.minimumDesktopVersion.toList,
        blank text=false := by
  rw [Bool.or_eq_false_iff,blankText_orNull,refused_orNull (fun _ => rfl),List.forall_mem_append]
  simp only [Bool.not_not,blankText_str,any_eq_false_toList,hversion,true_and]

/-- The status of a service of the right shape passes where its texts do, once the desktop's
own release does. -/
theorem validateService_wire {payload : RuntimeSnapshotPayloadV4}
    {service : RuntimeCollectorServiceStatus}
    (hshape : ServiceShape payload.environment.releaseIdentity payload.health.evaluatedAtMs service)
    (hsized : ∀ version∈service.negotiatedProtocolVersion, version < 2^16)
    (hdesktop :
      validReleaseIdentity (releaseIdentityWire payload.environment.releaseIdentity)=true) :
    (serviceMalformed (collectorServiceWire service) (healthWire payload.health)=false ∧
      ((service.state==.active) &&
        (!validReleaseIdentity (orNull releaseIdentityWire service.releaseIdentity) ||
          blankText (orNull .str service.serviceVersion) ||
          (orNull Value.nat service.negotiatedProtocolVersion).isNull ||
          blankText (orNull .str service.instanceId) ||
          (orNull Value.nat service.lastConnectedAtMs).isNull))=false ∧
      ((service.state==.active) && !serviceReleaseMatchesDesktop
        (orNull releaseIdentityWire service.releaseIdentity)
        (releaseIdentityWire payload.environment.releaseIdentity))=false ∧
      ((service.state==.incompatible) && (blankText (orNull .str service.serviceVersion) ||
        refused (orNull .str service.minimumDesktopVersion) (fun v => !blankText v)))=false) ↔
      (∀ text∈serviceTexts service, blank text=false) ∧
      ∀ version∈service.releaseIdentity.toList.map RuntimeReleaseIdentity.appVersion,
        readerVersion version=true := by
  rw [serviceMalformed_wire hshape hsized,Protocol.forall_serviceTexts]
  simp only [Protocol.and_eq_false_of_beq]
  constructor
  · intro h
    obtain ⟨hversions,hactive,_,hincompatible⟩ := h
    refine ⟨⟨fun hstate => (activeService_wire hshape hversions hstate).1 (hactive hstate),
      fun hstate => ?_⟩,hversions⟩
    exact (incompatibleService_wire (hshape.incompatible hstate)).1 (hincompatible hstate)
  · intro h
    obtain ⟨⟨hactive,hincompatible⟩,hversions⟩ := h
    refine ⟨hversions,fun hstate => (activeService_wire hshape hversions hstate).2 (hactive hstate),
      ?_,fun hstate => ?_⟩
    · intro hstate
      obtain ⟨identity,hidentity,hsame,_⟩ := hshape.active hstate
      rw [hidentity,orNull_some]
      have hservice : validReleaseIdentity (releaseIdentityWire identity)=true := by
        rw [validReleaseIdentity_wire (hshape.commit identity hidentity)]
        refine hversions _ ?_
        rw [hidentity]
        exact List.mem_singleton_self _
      rw [serviceReleaseMatchesDesktop_wire hsame hservice hdesktop]
      rfl
    · exact (incompatibleService_wire (hshape.incompatible hstate)).2 (hincompatible hstate)

theorem validateCollectorService_wire {payload : RuntimeSnapshotPayloadV4}
    (hshape : PrivilegedShape payload)
    (hsized : ∀ service∈payload.privilegedCollection.collectorService,
      ∀ version∈service.negotiatedProtocolVersion, version < 2^16)
    (hdesktop :
      validReleaseIdentity (releaseIdentityWire payload.environment.releaseIdentity)=true) :
    validateCollectorService (privilegedCollectionWire payload.privilegedCollection)
        (healthWire payload.health) (releaseIdentityWire payload.environment.releaseIdentity)=
          .ok () ↔
      (∀ text∈payload.privilegedCollection.collectorService.toList.flatMap serviceTexts,
        blank text=false) ∧
      ∀ version∈payload.privilegedCollection.collectorService.toList.flatMap (fun service =>
        service.releaseIdentity.toList.map RuntimeReleaseIdentity.appVersion),
        readerVersion version=true := by
  have hsuccess : (!(orNull Value.nat payload.privilegedCollection.lastSuccessAtMs).isNull &&
      (Value.nat payload.health.evaluatedAtMs).lt
        (orNull .nat payload.privilegedCollection.lastSuccessAtMs))=false := by
    have htime := time_valid hshape.time
    rw [Bool.and_eq_false_imp] at htime ⊢
    intro hsome
    have hboth := htime hsome
    rw [Bool.or_eq_false_iff] at hboth
    exact hboth.2
  have hsource : ∀ source : Protocol.PrivilegedCollectionSourceV4,
      ((privilegedCollectionWire payload.privilegedCollection).get "source").isStr
        (privilegedSourceName source)=(payload.privilegedCollection.source==source) :=
    fun source =>
      isStr_name privilegedSourceName_injective payload.privilegedCollection.source source
  have hserved : ((privilegedCollectionWire payload.privilegedCollection).get "source").isStr
      "collector_service"=(payload.privilegedCollection.source==.collectorService) :=
    hsource .collectorService
  have hlocal : ((privilegedCollectionWire payload.privilegedCollection).get "source").isStr
      "local_process"=(payload.privilegedCollection.source==.localProcess) := hsource .localProcess
  have hstate : ((privilegedCollectionWire payload.privilegedCollection).get "state").isStr
      "active"=(payload.privilegedCollection.state==.active) :=
    isStr_name privilegedStateName_injective payload.privilegedCollection.state .active
  have hwritten : (privilegedCollectionWire payload.privilegedCollection).get "collector_service"=
      orNull collectorServiceWire payload.privilegedCollection.collectorService := rfl
  have hlast : (privilegedCollectionWire payload.privilegedCollection).get "last_success_at_ms"=
      orNull .nat payload.privilegedCollection.lastSuccessAtMs := rfl
  have hevaluated : (healthWire payload.health).get "evaluated_at_ms"=
      .nat payload.health.evaluatedAtMs := rfl
  simp only [validateCollectorService,unit_bind_ok,reject_ok,hlast,hevaluated,hsuccess,hwritten,
    hserved,hlocal,hstate,true_and]
  cases hservice : payload.privilegedCollection.collectorService with
  | none =>
    have hnone : (payload.privilegedCollection.source==.collectorService)=false := by
      rw [beq_eq_false_iff_ne]
      intro hsource
      have hactive := (hshape.served hsource).2
      rw [Protocol.RuntimePrivilegedCollectionV4.serviceActive,hservice] at hactive
      cases hactive
    simp [hnone,reject]
  | some service =>
    have hactive : payload.privilegedCollection.serviceActive=(service.state==.active) := by
      rw [Protocol.RuntimePrivilegedCollectionV4.serviceActive,hservice]
      rfl
    have hserved' : ((payload.privilegedCollection.source==.collectorService) &&
        (!(payload.privilegedCollection.state==.active) || !(service.state==.active)))=false := by
      rw [Protocol.and_eq_false_of_beq,← hactive]
      intro hsource
      obtain ⟨hstate,hactive⟩ := hshape.served hsource
      rw [hstate,hactive]
      rfl
    have hlocal' : ((payload.privilegedCollection.source==.localProcess) &&
        (service.state==.active))=false := by
      rw [Protocol.and_eq_false_of_beq,← hactive]
      exact hshape.alone
    have hrelease : (collectorServiceWire service).get "release_identity"=
        orNull releaseIdentityWire service.releaseIdentity := rfl
    have hversion : (collectorServiceWire service).get "service_version"=
        orNull .str service.serviceVersion := rfl
    have hprotocol : (collectorServiceWire service).get "negotiated_protocol_version"=
        orNull .nat service.negotiatedProtocolVersion := rfl
    have hminimum : (collectorServiceWire service).get "minimum_desktop_version"=
        orNull .str service.minimumDesktopVersion := rfl
    have hinstance : (collectorServiceWire service).get "instance_id"=
        orNull .str service.instanceId := rfl
    have hconnected : (collectorServiceWire service).get "last_connected_at_ms"=
        orNull .nat service.lastConnectedAtMs := rfl
    have hnull : (collectorServiceWire service).isNull=false := rfl
    have hall := validateService_wire (hshape.service service hservice)
      (hsized service hservice) hdesktop
    simp only [orNull_some,hnull,Bool.false_eq_true,if_false,unit_bind_ok,reject_ok,
      isStr_serviceActive,isStr_serviceIncompatible,hrelease,hversion,hprotocol,hminimum,hinstance,
      hconnected,hserved',hlocal',and_true,Option.toList_some,List.flatMap_singleton]
    exact hall

/-- How a value reads where it stands for the context of a snapshot. -/
structure ReadsContext (v : Value) (payload : RuntimeSnapshotPayloadV4) : Prop where
  publicationSeq : v.get "publication_seq"=.nat payload.publicationSeq
  published : v.get "published_at_ms"=.nat payload.publishedAtMs
  sampleSeq : v.get "sample_seq"=.nat payload.sampleSeq
  sampled : v.get "sampled_at_ms"=orNull .nat payload.sampledAtMs
  source : v.get "source"=.str payload.source
  environment : v.get "environment"=environmentWire payload.environment
  privileged : v.get "privileged_collection"=privilegedCollectionWire payload.privilegedCollection
  settings : v.get "settings"=settingsWire payload.settings
  health : v.get "health"=healthWire payload.health

theorem serviceActive_wire (privileged : Protocol.RuntimePrivilegedCollectionV4) :
    ((orNull collectorServiceWire privileged.collectorService).get "state").isStr "active"=
      privileged.serviceActive := by
  rw [Protocol.RuntimePrivilegedCollectionV4.serviceActive]
  cases privileged.collectorService with
  | none => rfl
  | some service => exact isStr_serviceActive service

theorem validatePrivileged_wire {v : Value} {payload : RuntimeSnapshotPayloadV4}
    (hreads : ReadsContext v payload) (hshape : PrivilegedShape payload)
    (hsized : ∀ service∈payload.privilegedCollection.collectorService,
      ∀ version∈service.negotiatedProtocolVersion, version < 2^16)
    (hdesktop :
      validReleaseIdentity (releaseIdentityWire payload.environment.releaseIdentity)=true) :
    validatePrivileged v=.ok () ↔
      (∀ text∈payload.privilegedCollection.collectorService.toList.flatMap serviceTexts,
        blank text=false) ∧
      ∀ version∈payload.privilegedCollection.collectorService.toList.flatMap (fun service =>
        service.releaseIdentity.toList.map RuntimeReleaseIdentity.appVersion),
        readerVersion version=true := by
  let privileged := payload.privilegedCollection
  let environment := payload.environment
  have hstates : (str (privilegedStateName privileged.state)).isIn privilegedStates=true := by
    cases privileged.state <;> decide
  have hsources : (str (privilegedSourceName privileged.source)).isIn privilegedSources=true := by
    cases privileged.source <;> decide
  have hpreferences : (str (preferenceName privileged.preference)).isIn privilegedPreferences=
      true := by
    cases privileged.preference <;> decide
  have hlast : refused (orNull .nat privileged.lastSuccessAtMs) safeInteger=false := by
    have htime := time_valid hshape.time
    rw [Bool.and_eq_false_imp] at htime
    rw [refused,Bool.and_eq_false_imp]
    intro hsome
    have hboth := htime hsome
    rw [Bool.or_eq_false_iff] at hboth
    exact hboth.1
  have hmalformed : (!(str (privilegedStateName privileged.state)).isIn privilegedStates ||
      !(str (privilegedSourceName privileged.source)).isIn privilegedSources ||
      !(str (preferenceName privileged.preference)).isIn privilegedPreferences || false ||
      refused (orNull .str privileged.detail) isString ||
      refused (orNull .nat privileged.lastSuccessAtMs) safeInteger)=false := by
    rw [hstates,hsources,hpreferences,refused_isString,hlast]
    rfl
  have hactive : ((str (privilegedStateName privileged.state)).isStr "active" !=
      !(str (privilegedSourceName privileged.source)).isStr "none")=false := by
    have hstate : (str (privilegedStateName privileged.state)).isStr "active"=
        (privileged.state==.active) :=
      isStr_name privilegedStateName_injective privileged.state .active
    have hsource : (str (privilegedSourceName privileged.source)).isStr "none"=
        (privileged.source==.none) :=
      isStr_name privilegedSourceName_injective privileged.source .none
    rw [hstate,hsource]
    have hdiffer := hshape.source
    cases hleft : (privileged.state==.active) with
    | true =>
      cases hright : (privileged.source==.none) with
      | true => exact absurd (hleft.trans hright.symm) hdiffer
      | false => rfl
    | false =>
      cases hright : (privileged.source==.none) with
      | true => rfl
      | false => exact absurd (hleft.trans hright.symm) hdiffer
  have helevated : ((str (privilegedSourceName privileged.source)).isStr "local_process" &&
      !(str (elevationName environment.processElevation)).isStr "elevated")=false := by
    have hsource : (str (privilegedSourceName privileged.source)).isStr "local_process"=
        (privileged.source==.localProcess) :=
      isStr_name privilegedSourceName_injective privileged.source .localProcess
    have helevation : (str (elevationName environment.processElevation)).isStr "elevated"=
        (environment.processElevation==.elevated) :=
      isStr_name elevationName_injective environment.processElevation .elevated
    rw [hsource,helevation,Protocol.and_eq_false_of_beq]
    intro hlocal
    rw [beq_iff_eq.2 (hshape.elevated hlocal)]
    rfl
  have hfallback : (privileged.standardFallbackProcessEtwDisabled &&
      (!(str (platformName environment.platform)).isStr "windows" ||
        !(str (elevationName environment.processElevation)).isStr "standard" ||
        !(str (privilegedSourceName privileged.source)).isStr "none" ||
        ((orNull collectorServiceWire privileged.collectorService).get "state").isStr "active"))=
      false := by
    rw [Bool.and_eq_false_imp]
    intro hdisabled
    obtain ⟨hplatform,hstandard,hnone,hinactive⟩ := hshape.fallback hdisabled
    rw [serviceActive_wire,hinactive]
    have h1 : environment.platform=.windows := hplatform
    have h2 : environment.processElevation=.standard := hstandard
    have h3 : privileged.source=.none := hnone
    rw [h1,h2,h3]
    decide
  have hservice := validateCollectorService_wire hshape hsized hdesktop
  simp only [validatePrivileged,hreads.environment,hreads.privileged,hreads.health,unit_bind_ok]
  rw [reject_ok,reject_ok,reject_ok,reject_ok]
  constructor
  · intro h
    exact hservice.1 h.2.2.2.1
  · intro h
    exact ⟨hmalformed,hactive,helevated,hservice.2 h,hfallback⟩

end Privileged

section Health
variable {v : Value} {payload : RuntimeSnapshotPayloadV4}

theorem refused_measured (o : Option Float) :
    refused (orNull .num o) nonNegativeFiniteNumber=o.any Protocol.unmeasured := by
  rw [refused_orNull (fun _ => rfl)]
  simp only [nonNegativeFiniteNumber_num,Bool.not_not]

theorem engineIntegerFacts_wire (health : RuntimeHealthV4) :
    (engineIntegerFacts (healthWire health)).any (refused · safeInteger)=
      health.engineIntegerFacts.any (Option.any (fun n => jsMaxSafeInteger < n)) := by
  change (health.engineIntegerFacts.map (orNull Value.nat)).any (refused · safeInteger)=_
  rw [List.any_map]
  congr 1
  funext o
  exact refused_safeInteger o

theorem engineNumericFacts_wire (health : RuntimeHealthV4) :
    (engineNumericFacts (healthWire health)).any (refused · nonNegativeFiniteNumber)=
      health.engineNumericFacts.any (Option.any Protocol.unmeasured) := by
  change (health.engineNumericFacts.map (orNull Value.num)).any
    (refused · nonNegativeFiniteNumber)=_
  rw [List.any_map]
  congr 1
  funext o
  exact refused_measured o

/-- A time with its age, as both sides ask for it. -/
theorem age_valid {evaluatedAtMs : Nat} {time age : Option Nat}
    (h : Protocol.ageFits evaluatedAtMs time age=true) :
    (if (orNull Value.nat time).isNull then !(orNull Value.nat age).isNull
      else (orNull Value.nat age).isNull || (Value.nat evaluatedAtMs).lt (orNull .nat time) ||
        !(orNull Value.nat age).same ((Value.nat evaluatedAtMs).sub (orNull .nat time)))=false ∧
    (if (orNull Value.nat time).isNull || (orNull Value.nat age).isNull then
        !(orNull Value.nat time).same (orNull .nat age)
      else (Value.nat evaluatedAtMs).lt (orNull .nat time) ||
        !(orNull Value.nat age).same ((Value.nat evaluatedAtMs).sub (orNull .nat time)))=false := by
  cases time with
  | none =>
    cases age with
    | none => exact ⟨rfl,rfl⟩
    | some age => cases h
  | some time =>
    cases age with
    | none => cases h
    | some age =>
      rw [Protocol.ageFits,Bool.and_eq_true,decide_eq_true_eq] at h
      have hlate : (Value.nat evaluatedAtMs).lt (.nat time)=false :=
        decide_eq_false (Nat.not_lt.2 h.1)
      have hsame : (Value.nat age).same ((Value.nat evaluatedAtMs).sub (.nat time))=true := h.2
      have hnull : ∀ n, (Value.nat n).isNull=false := fun _ => rfl
      simp only [orNull_some,hlate,hsame,hnull,Bool.false_eq_true,if_false,Bool.or_self,
        Bool.not_true,and_self]

theorem fatalError_wire {health : RuntimeHealthV4}
    (htime : Protocol.timeInvalid health.evaluatedAtMs
      (health.fatalError.map RuntimeFatalError.occurredAtMs)=false) :
    refused (orNull fatalErrorWire health.fatalError) (fun v => !fatalErrorMalformed v)=false ↔
      ∀ text∈health.fatalError.toList.flatMap (fun error => [error.code,error.message]),
        blank text=false := by
  rw [refused_orNull (fun _ => rfl)]
  cases herror : health.fatalError with
  | none => simp
  | some error =>
    rw [herror,Option.map_some,Protocol.timeInvalid,Option.any_some,Bool.or_eq_false_iff,
      decide_eq_false_iff_not,not_lt] at htime
    have hsafe : safeInteger (.nat error.occurredAtMs)=true := by
      rw [safeInteger_nat,decide_eq_true htime.1]
    rw [Option.any_some,Bool.not_not]
    change (false || blank error.code || blank error.message ||
      !safeInteger (.nat error.occurredAtMs))=false ↔ _
    rw [hsafe]
    simp

/-- The facts of a health of the right shape pass where the texts of its error do. -/
theorem validateHealthFacts_wire (hreads : ReadsContext v payload)
    (hshape : Protocol.HealthShape payload)
    (hsized : payload.health.collectorWarningCount < 2^32) :
    validateHealthFacts v=.ok () ↔
      ∀ text∈payload.health.fatalError.toList.flatMap (fun error => [error.code,error.message]),
        blank text=false := by
  have hfacts := hshape.facts
  simp only [Protocol.validateHealthFacts,unit_bind_ok,reject_ok,Bool.or_eq_false_iff,
    decide_eq_false_iff_not,not_lt,Bool.not_eq_false',bne_eq_false_iff_eq] at hfacts
  obtain ⟨⟨hintegers,hnumbers⟩,⟨⟨⟨⟨⟨⟨hevaluated,hage⟩,hsampleAge⟩,hrss⟩,hcpu⟩,hlate⟩,hexact⟩,
    hsample,hheartbeat⟩ := hfacts
  have hsafe : ∀ n, n ≤ jsMaxSafeInteger → safeInteger (.nat n)=true := by
    intro n hn
    rw [safeInteger_nat,decide_eq_true hn]
  have hcpu' : nonNegativeFiniteNumber (.num payload.health.appCpuPercent)=true := by
    rw [nonNegativeFiniteNumber_num,hcpu]
    rfl
  have hengine : refused (orNull (.str ∘ engineStateName) payload.health.engineState)
      (isIn · engineStates)=false := by
    rw [refused_orNull (fun _ => rfl)]
    cases payload.health.engineState with
    | none => rfl
    | some state => cases state <;> decide
  have hcollector : refused (orNull (.str ∘ collectorStateName) payload.health.collectorState)
      (isIn · collectorStates)=false := by
    rw [refused_orNull (fun _ => rfl)]
    cases payload.health.collectorState with
    | none => rfl
    | some state => cases state <;> decide
  have hfirst : (!safeInteger (.nat payload.health.evaluatedAtMs) ||
      !safeInteger (.nat payload.health.publicationAgeMs) ||
      !safeInteger (.nat payload.health.collectorWarningCount) ||
      !safeInteger (.nat payload.health.appRssBytes) ||
      !nonNegativeFiniteNumber (.num payload.health.appCpuPercent) ||
      refused (orNull .nat payload.health.sampleAgeMs) safeInteger || false || false ||
      refused (orNull .str payload.health.lastWarning) isString)=false := by
    rw [hsafe _ hevaluated,hsafe _ hage,safeInteger_of_lt hsized,hsafe _ hrss,hcpu',
      refused_safeInteger,hsampleAge,refused_isString]
    rfl
  have hthird : ((Value.nat payload.health.evaluatedAtMs).lt (.nat payload.publishedAtMs) ||
      !(Value.nat payload.health.publicationAgeMs).same
        ((Value.nat payload.health.evaluatedAtMs).sub (.nat payload.publishedAtMs)))=false := by
    have hbefore : (Value.nat payload.health.evaluatedAtMs).lt (.nat payload.publishedAtMs)=false :=
      decide_eq_false (Nat.not_lt.2 hlate)
    rw [hbefore,hexact]
    exact congrArg not (beq_self_eq_true (payload.health.evaluatedAtMs-payload.publishedAtMs))
  simp only [validateHealthFacts,hreads.health,hreads.published,hreads.sampled,unit_bind_ok,
    reject_ok,engineIntegerFacts_wire,engineNumericFacts_wire,hintegers,hnumbers]
  rw [← fatalError_wire hshape.fatal]
  constructor
  · intro h
    have hsecond := h.2.1
    rw [Bool.or_eq_false_iff] at hsecond
    exact hsecond.2
  · intro h
    refine ⟨hfirst,?_,hthird,(age_valid hsample).1,(age_valid hheartbeat).2⟩
    change (refused (orNull (.str ∘ engineStateName) payload.health.engineState)
      (isIn · engineStates) || false || false ||
      refused (orNull (.str ∘ collectorStateName) payload.health.collectorState)
        (isIn · collectorStates) ||
      refused (orNull fatalErrorWire payload.health.fatalError)
        (fun v => !fatalErrorMalformed v))=false
    rw [hengine,hcollector,h]
    rfl

theorem engineStateName_injective : Function.Injective engineStateName := by
  intro a b h
  cases a <;> cases b <;> first | rfl | simp [engineStateName] at h

theorem collectorStateName_injective : Function.Injective collectorStateName := by
  intro a b h
  cases a <;> cases b <;> first | rfl | simp [collectorStateName] at h

theorem isStr_orNull {α : Type} [BEq α] [LawfulBEq α] {name : α → String}
    (hname : Function.Injective name) (o : Option α) (a : α) :
    (orNull (.str ∘ name) o).isStr (name a)=(o==some a) := by
  cases o with
  | none => rfl
  | some b => exact isStr_name hname b a

theorem isStr_engine (health : RuntimeHealthV4) (state : RuntimeEngineState) :
    ((healthWire health).get "engine_state").isStr (engineStateName state)=
      (health.engineState==some state) :=
  isStr_orNull engineStateName_injective health.engineState state

theorem isStr_collector (health : RuntimeHealthV4) (state : RuntimeCollectorState) :
    ((healthWire health).get "collector_state").isStr (collectorStateName state)=
      (health.collectorState==some state) :=
  isStr_orNull collectorStateName_injective health.collectorState state

theorem hasEngineOwnedFact_wire (health : RuntimeHealthV4) :
    ((engineIntegerFacts (healthWire health)).any (fun v => !v.isNull) ||
      (engineNumericFacts (healthWire health)).any (fun v => !v.isNull) ||
      !((healthWire health).get "collector_state").isNull ||
      !((healthWire health).get "fatal_error").isNull)=health.hasEngineOwnedFact := by
  change ((health.engineIntegerFacts.map (orNull Value.nat)).any (fun v => !v.isNull) ||
    (health.engineNumericFacts.map (orNull Value.num)).any (fun v => !v.isNull) ||
    !(orNull (Value.str ∘ collectorStateName) health.collectorState).isNull ||
    !(orNull fatalErrorWire health.fatalError).isNull)=_
  have hnat : ∀ n : Nat, (Value.nat n).isNull=false := fun _ => rfl
  have hnum : ∀ x : Float, (Value.num x).isNull=false := fun _ => rfl
  have hname : ∀ state, ((Value.str ∘ collectorStateName) state).isNull=false := fun _ => rfl
  have herror : ∀ error, (fatalErrorWire error).isNull=false := fun _ => rfl
  rw [isNull_orNull hname,isNull_orNull herror,List.any_map,List.any_map]
  simp only [Function.comp_def,isNull_orNull hnat,isNull_orNull hnum,Option.not_isNone]
  rfl

/-- The states of a health of the right shape pass. -/
theorem validateHealthStates_wire (hreads : ReadsContext v payload)
    (hshape : Protocol.HealthShape payload) : validateHealthStates v=.ok () := by
  have hstates := hshape.states
  simp only [Protocol.validateHealthStates,unit_bind_ok,reject_ok] at hstates
  obtain ⟨hunowned,hlateness,hfatal,hnonfatal,hdegraded,hpause⟩ := hstates
  have hpaused : ((settingsWire payload.settings).get "collection_paused").truthy=
      payload.settings.collectionPaused := rfl
  have hdegradedWire : ((healthWire payload.health).get "degraded").truthy=
      payload.health.degraded := rfl
  have hengineNull : ((healthWire payload.health).get "engine_state").isNull=
      payload.health.engineState.isNone := isNull_orNull (fun _ => rfl) _
  have herrorNull : ((healthWire payload.health).get "fatal_error").isNull=
      payload.health.fatalError.isNone := isNull_orNull (fun _ => rfl) _
  have hlatenessNull : ((healthWire payload.health).get "deadline_lateness_p95_ms").isNull=
      payload.health.deadlineLatenessP95Ms.isNone := isNull_orNull (fun _ => rfl) _
  have hmissesNull : ((healthWire payload.health).get "deadline_misses").isNull=
      payload.health.deadlineMisses.isNone := isNull_orNull (fun _ => rfl) _
  have hfatalStr : ((healthWire payload.health).get "engine_state").isStr "fatal"=
      (payload.health.engineState==some .fatal) := isStr_engine payload.health .fatal
  have hpausedStr : ((healthWire payload.health).get "engine_state").isStr "paused"=
      (payload.health.engineState==some .paused) := isStr_engine payload.health .paused
  have hlimitedStr : ((healthWire payload.health).get "collector_state").isStr "limited"=
      (payload.health.collectorState==some .limited) := isStr_collector payload.health .limited
  have hunavailableStr : ((healthWire payload.health).get "collector_state").isStr "unavailable"=
      (payload.health.collectorState==some .unavailable) :=
    isStr_collector payload.health .unavailable
  have hafter : (!payload.health.fatalError.isNone &&
      ((healthWire payload.health).get "evaluated_at_ms").lt
        (((healthWire payload.health).get "fatal_error").get "occurred_at_ms"))=false := by
    have htime := hshape.fatal
    change (!payload.health.fatalError.isNone && (Value.nat payload.health.evaluatedAtMs).lt
      ((orNull fatalErrorWire payload.health.fatalError).get "occurred_at_ms"))=false
    cases herror : payload.health.fatalError with
    | none => rfl
    | some error =>
      rw [herror,Option.map_some,Protocol.timeInvalid,Option.any_some,Bool.or_eq_false_iff] at htime
      exact htime.2
  have hnonfatal' : (!payload.health.engineState.isNone &&
      !(payload.health.engineState==some .fatal) && !payload.health.fatalError.isNone)=false := by
    rw [← hnonfatal,Option.not_isNone payload.health.fatalError]
    cases payload.health.engineState with
    | none => rfl
    | some state => cases state <;> rfl
  have hpause' : (!payload.health.engineState.isNone &&
      !(payload.health.engineState==some .fatal) &&
      (payload.settings.collectionPaused != (payload.health.engineState==some .paused)))=false := by
    rw [← hpause]
    cases payload.health.engineState with
    | none => cases payload.settings.collectionPaused <;> rfl
    | some state => cases state <;> cases payload.settings.collectionPaused <;> rfl
  simp only [validateHealthStates,unit_bind_ok,reject_ok,hreads.health,hreads.settings]
  refine ⟨?_,?_,?_,?_,?_,?_,?_⟩
  · rw [hengineNull,hasEngineOwnedFact_wire]
    exact hunowned
  · rw [hlatenessNull,hmissesNull,Option.not_isNone]
    exact hlateness
  · rw [hfatalStr,herrorNull]
    exact hfatal
  · rw [hengineNull,hfatalStr,herrorNull]
    exact hnonfatal'
  · rw [hdegradedWire,hfatalStr,hlimitedStr,hunavailableStr]
    exact hdegraded
  · rw [hengineNull,hfatalStr,hpaused,hpausedStr]
    exact hpause'
  · rw [herrorNull]
    exact hafter

theorem reasonName_injective : Function.Injective reasonName := by
  intro a b h
  cases a <;> cases b <;> first | rfl | simp [reasonName] at h

theorem freshnessName_injective : Function.Injective freshnessName := by
  intro a b h
  cases a <;> cases b <;> first | rfl | simp [freshnessName] at h

theorem reasons_any (reasons : List RuntimeHealthReason) (reason : RuntimeHealthReason) :
    (reasons.map (Value.str ∘ reasonName)).any (fun v => v.isStr (reasonName reason))=
      reasons.contains reason := by
  rw [List.any_map,List.contains_eq_any_beq]
  congr 1
  funext other
  rw [Function.comp_apply,Function.comp_apply,isStr_name reasonName_injective,BEq.comm]

/-- An age past the budget, or none at all. -/
theorem stale_orNull (budget : Nat) (age : Option Nat) :
    ((orNull Value.nat age).isNull || (Value.nat budget).lt (orNull .nat age))=
      age.all (fun age => budget < age) := by
  cases age with
  | none => rfl
  | some age => rfl

theorem freshness_name (facts : Protocol.HealthFacts) : freshnessName facts.freshness=
    if facts.fatal then "stale" else if facts.paused then "paused"
    else if facts.starting then "starting"
    else if facts.unavailable || facts.heartbeatStale || facts.publicationStale ||
      facts.sampleStale then "stale"
    else "live" := by
  rw [Protocol.HealthFacts.freshness,apply_ite freshnessName,apply_ite freshnessName,
    apply_ite freshnessName,apply_ite freshnessName]
  rfl

/-- The reasons of a health of the right shape pass. -/
theorem validateHealthReasons_wire (hreads : ReadsContext v payload)
    (hshape : Protocol.HealthShape payload) : validateHealthReasons v=.ok () := by
  have hreasons := hshape.reasons
  simp only [Protocol.validateHealthReasons,unit_bind_ok,reject_ok,Bool.or_eq_false_iff,
    Bool.not_eq_false',decide_eq_true_eq,forM_ok] at hreasons
  obtain ⟨⟨hnodup,hdegraded⟩,hrequired,hfresh⟩ := hreasons
  let reasons := payload.health.reasonCodes
  have hitems : ((healthWire payload.health).get "reason_codes").items=
      reasons.map (Value.str ∘ reasonName) := rfl
  have hknown : (reasons.map (Value.str ∘ reasonName)).any
      (fun reason => !reason.isIn knownReasons)=false := by
    rw [List.any_map,List.any_eq_false]
    intro reason _
    cases reason <;> decide
  have hdistinct : Value.distinct (reasons.map (Value.str ∘ reasonName))=true :=
    (distinct_map (fun a b => (isStr_name reasonName_injective a b).congr_left.trans
      beq_iff_eq)).2 hnodup
  have hlength : (((healthWire payload.health).get "degraded").truthy !=
      decide (0 < (reasons.map (Value.str ∘ reasonName)).length))=false := by
    have hsame : decide (0 < (reasons.map (Value.str ∘ reasonName)).length)=!reasons.isEmpty := by
      rw [List.length_map]
      cases reasons with
      | nil => rfl
      | cons reason reasons => exact decide_eq_true (Nat.succ_pos _)
    rw [hsame]
    exact hdegraded
  have hpaused : ((settingsWire payload.settings).get "collection_paused").truthy=
      payload.settings.collectionPaused := rfl
  have hsampledNull : (orNull Value.nat payload.sampledAtMs).isNull=
      payload.sampledAtMs.isNone := isNull_orNull (fun _ => rfl) _
  have hbudget : staleBudget ((settingsWire payload.settings).get "effective_sample_interval_ms")=
      .nat (max 500 (min payload.settings.effectiveSampleIntervalMs 5000)*2) := by
    change Value.nat (min 5000 (max 500 payload.settings.effectiveSampleIntervalMs)*2)=_
    congr 1
    omega
  have hage : (healthWire payload.health).get "heartbeat_age_ms"=
      orNull .nat payload.health.heartbeatAgeMs := rfl
  have hsampleAge : (healthWire payload.health).get "sample_age_ms"=
      orNull .nat payload.health.sampleAgeMs := rfl
  have hpublicationAge : (healthWire payload.health).get "publication_age_ms"=
      .nat payload.health.publicationAgeMs := rfl
  have hlt : ∀ m n : Nat, (Value.nat m).lt (.nat n)=decide (m < n) := fun _ _ => rfl
  have hfatal : ((healthWire payload.health).get "engine_state").isStr "fatal"=
      (payload.health.engineState==some .fatal) := isStr_engine payload.health .fatal
  have hpausedStr : ((healthWire payload.health).get "engine_state").isStr "paused"=
      (payload.health.engineState==some .paused) := isStr_engine payload.health .paused
  have hstarting : ((healthWire payload.health).get "engine_state").isStr "starting"=
      (payload.health.engineState==some .starting) := isStr_engine payload.health .starting
  have hrunning : ((healthWire payload.health).get "engine_state").isStr "running"=
      (payload.health.engineState==some .running) := isStr_engine payload.health .running
  have hlimited : ((healthWire payload.health).get "collector_state").isStr "limited"=
      (payload.health.collectorState==some .limited) := isStr_collector payload.health .limited
  have hunavailable : ((healthWire payload.health).get "collector_state").isStr "unavailable"=
      (payload.health.collectorState==some .unavailable) :=
    isStr_collector payload.health .unavailable
  have hfreshness : ((healthWire payload.health).get "freshness").isStr
      (freshnessName (Protocol.healthFacts payload).freshness)=true := by
    rw [bne_eq_false_iff_eq] at hfresh
    have hname := isStr_name freshnessName_injective payload.health.freshness
      (Protocol.healthFacts payload).freshness
    rw [hfresh,beq_self_eq_true] at hname
    rw [← hfresh] at hname
    rw [← hfresh]
    exact hname
  have hchecked : ((Protocol.healthFacts payload).required.map (fun entry =>
      (reasonName entry.1,entry.2))).forM (fun entry =>
        reject ((reasons.map (Value.str ∘ reasonName)).any (fun reason => reason.isStr entry.1) !=
          entry.2) "Runtime health reason contradicts its facts.")=.ok () := by
    rw [forM_ok]
    intro entry hentry
    obtain ⟨required,hmem,rfl⟩ := List.mem_map.1 hentry
    rw [reject_ok,reasons_any]
    exact hrequired required hmem
  rw [freshness_name] at hfreshness
  simp only [validateHealthReasons,unit_bind_ok,reject_ok,hreads.health,hreads.settings,
    hreads.sampled,hitems,hpaused,hsampledNull,hbudget,hage,hsampleAge,hpublicationAge,hfatal,
    hpausedStr,hstarting,hrunning,hlimited,hunavailable,stale_orNull,hlt]
  refine ⟨?_,hchecked,?_⟩
  · rw [hknown,hdistinct,hlength]
    rfl
  · rw [Bool.not_eq_false']
    exact hfreshness

end Health

section Persistence

theorem persistenceStateName_injective : Function.Injective persistenceStateName := by
  intro a b h
  cases a <;> cases b <;> first | rfl | simp [persistenceStateName] at h

theorem ownerName_injective : Function.Injective ownerName := by
  intro a b h
  cases a <;> cases b <;> first | rfl | simp [ownerName] at h

theorem permissionName_injective : Function.Injective permissionName := by
  intro a b h
  cases a <;> cases b <;> first | rfl | simp [permissionName] at h

theorem durabilityName_injective : Function.Injective durabilityName := by
  intro a b h
  cases a <;> cases b <;> first | rfl | simp [durabilityName] at h

/-- The states of both sides are ordered alike. -/
theorem recordState_name (worst : Option Protocol.RuntimePersistenceStateV4)
    (state : Protocol.RuntimePersistenceStateV4) :
    recordState (worst.map persistenceStateName) (persistenceStateName state)=
      (Protocol.recordPersistenceState worst state).map persistenceStateName := by
  cases worst with
  | none => rfl
  | some current => cases current <;> cases state <;> rfl

theorem contains_map_name {α : Type} [BEq α] [LawfulBEq α] {name : α → String}
    (hname : Function.Injective name) (a : α) (as : List α) :
    (as.map name).contains (name a)=as.contains a := isIn_map_name hname a as

theorem permissionState_wire (permission : Protocol.RuntimePersistencePermissionStateV4) :
    permissionState (.str (permissionName permission))=persistenceStateName permission.state := by
  cases permission <;> rfl

/-- The texts of a root that have to say something. -/
def rootTexts (root : RuntimePersistenceRootV4) : List String :=
  if root.permissionState=.verified then root.directory.toList else []

abbrev RootsSeen :=
  List Protocol.RuntimePersistenceOwnerV4 × Option Protocol.RuntimePersistenceStateV4

def seeRoot (seen : RootsSeen) (root : RuntimePersistenceRootV4) : RootsSeen :=
  (root.owner::seen.1,Protocol.recordPersistenceState seen.2 root.permissionState.state)

def rootsWritten (seen : RootsSeen) : List String × Option String :=
  (seen.1.map ownerName,seen.2.map persistenceStateName)

theorem readRoot_wire {seen : RootsSeen} {root : RuntimePersistenceRootV4}
    (hnew : root.owner∉seen.1) (hplaced : root.placed) (seen' : List String × Option String) :
    readRoot (rootsWritten seen) (persistenceRootWire root)=.ok seen' ↔
      (∀ text∈rootTexts root, blank text=false) ∧ seen'=rootsWritten (seeRoot seen root) := by
  have howner : (str (ownerName root.owner)).isIn persistenceOwners=true := by
    cases root.owner <;> decide
  have hpermission : (str (permissionName root.permissionState)).isIn persistencePermissions=
      true := by
    cases root.permissionState <;> decide
  have hseen : (seen.1.map ownerName).contains (ownerName root.owner)=false := by
    rw [contains_map_name ownerName_injective,Distinct.contains_eq_false]
    exact hnew
  have hverified : (str (permissionName root.permissionState)).isStr "verified"=
      (root.permissionState==.verified) :=
    isStr_name permissionName_injective root.permissionState .verified
  have hunavailable : (str (permissionName root.permissionState)).isStr "unavailable"=
      (root.permissionState==.unavailable) :=
    isStr_name permissionName_injective root.permissionState .unavailable
  have hnowhere : ((root.permissionState==.unavailable) &&
      !(orNull Value.str root.directory).isNull)=false := by
    rw [Protocol.and_eq_false_of_beq,isNull_orNull (fun _ => rfl),Option.not_isNone]
    intro hstate
    rw [hplaced.2 hstate]
    rfl
  have hdirectory : ((root.permissionState==.verified) && blankText (orNull .str root.directory))=
      false ↔ ∀ text∈rootTexts root, blank text=false := by
    rw [Protocol.and_eq_false_of_beq,rootTexts,blankText_orNull]
    constructor
    · intro h
      split
      · next hstate => exact (h hstate).2
      · simp
    · intro h hstate
      rw [if_pos hstate] at h
      exact ⟨hplaced.1 hstate,h⟩
  rw [readRoot,unit_bind_ok,reject_ok,pure_ok,eq_comm (b := seen')]
  change (false || !(str (ownerName root.owner)).isIn persistenceOwners ||
    (seen.1.map ownerName).contains (ownerName root.owner) ||
    refused (orNull .str root.directory) isString ||
    !(str (permissionName root.permissionState)).isIn persistencePermissions ||
    ((str (permissionName root.permissionState)).isStr "verified" &&
      blankText (orNull .str root.directory)) ||
    ((str (permissionName root.permissionState)).isStr "unavailable" &&
      !(orNull Value.str root.directory).isNull))=false ∧
    seen'=(ownerName root.owner::seen.1.map ownerName,recordState
      (seen.2.map persistenceStateName)
        (permissionState (.str (permissionName root.permissionState))))
      ↔ _
  rw [howner,hseen,refused_isString,hpermission,hverified,hunavailable,hnowhere,
    permissionState_wire,recordState_name]
  simp only [Bool.not_true,Bool.or_false,Bool.false_or,hdirectory]
  rfl

/-- The loop over roots of the right shape passes where their texts do. -/
theorem readRoots_wire {roots : List RuntimePersistenceRootV4}
    (howners : (roots.map RuntimePersistenceRootV4.owner).Nodup)
    (hplaced : ∀ root∈roots, root.placed) (seen' : List String × Option String) :
    (roots.map persistenceRootWire).foldlM readRoot ([],none)=.ok seen' ↔
      (∀ root∈roots, ∀ text∈rootTexts root, blank text=false) ∧
        seen'=rootsWritten (roots.foldl seeRoot ([],none)) := by
  -- what is still to come is new and placed
  let fits (seen : RootsSeen) (roots : List RuntimePersistenceRootV4) : Prop :=
    (roots.map RuntimePersistenceRootV4.owner).Nodup ∧ (∀ root∈roots, root.placed) ∧
      ∀ root∈roots, root.owner∉seen.1
  have hstep : ∀ seen root rest, fits seen (root::rest) →
      (∀ s', readRoot (rootsWritten seen) (persistenceRootWire root)=.ok s' ↔
        (∀ text∈rootTexts root, blank text=false) ∧ s'=rootsWritten (seeRoot seen root)) ∧
      fits (seeRoot seen root) rest := by
    intro seen root rest h
    obtain ⟨hnodup,hplaces,hnew⟩ := h
    obtain ⟨hnodup',hnew'⟩ := Distinct.fresh_cons hnodup hnew
    exact ⟨fun s' => readRoot_wire (hnew root List.mem_cons_self)
      (hplaces root List.mem_cons_self) s',hnodup',
      fun other hother => hplaces other (List.mem_cons_of_mem root hother),hnew'⟩
  exact foldlM_written_ok fits hstep roots ([],none) seen'
    ⟨howners,hplaced,fun _ _ => List.not_mem_nil⟩

theorem seeRoots (roots : List RuntimePersistenceRootV4) (seen : RootsSeen) :
    roots.foldl seeRoot seen=((roots.map RuntimePersistenceRootV4.owner).reverse++seen.1,
      roots.foldl (fun worst root =>
        Protocol.recordPersistenceState worst root.permissionState.state) seen.2) := by
  induction roots generalizing seen with
  | nil => rfl
  | cons root roots ih =>
    rw [List.foldl_cons,ih,List.map_cons,List.reverse_cons,List.append_assoc]
    rfl

abbrev ComponentKey :=
  Protocol.RuntimePersistenceOwnerV4 × Protocol.RuntimePersistenceKindV4

/-- The key that the reader tells components apart by. -/
def componentKey (key : ComponentKey) : String := ownerName key.1++":"++persistenceKindName key.2

def allComponentKeys : List ComponentKey :=
  [.currentUser,.collectorService].flatMap (fun owner =>
    [.settings,.warmCache,.diagnostics,.serviceState].map (fun kind => (owner,kind)))

theorem mem_allComponentKeys (key : ComponentKey) : key∈allComponentKeys := by
  obtain ⟨owner,kind⟩ := key
  cases owner <;> cases kind <;> decide

theorem componentKey_injective : Function.Injective componentKey := by
  intro a b h
  have hall : ∀ a∈allComponentKeys, ∀ b∈allComponentKeys, componentKey a=componentKey b → a=b := by
    decide
  exact hall a (mem_allComponentKeys a) b (mem_allComponentKeys b) h

/-- The texts of a component that have to say something. -/
def componentTexts (component : RuntimePersistenceComponentV4) : List String :=
  component.activeFailure.toList.flatMap (fun failure => [failure.code,failure.summary])

abbrev ComponentsSeen := List ComponentKey × Option Protocol.RuntimePersistenceStateV4

def seeComponent (seen : ComponentsSeen) (component : RuntimePersistenceComponentV4) :
    ComponentsSeen :=
  ((component.owner,component.kind)::seen.1,Protocol.recordComponentState seen.2 component)

def componentsWritten (seen : ComponentsSeen) : List String × Option String :=
  (seen.1.map componentKey,seen.2.map persistenceStateName)

theorem failureMalformed_wire {evaluatedAtMs : Nat} {component : RuntimePersistenceComponentV4}
    (htime : Protocol.timeInvalid evaluatedAtMs (component.activeFailure.map
      Protocol.RuntimePersistenceFailureV4.occurredAtMs)=false) :
    refused (orNull persistenceFailureWire component.activeFailure)
        (fun v => !failureMalformed (.nat evaluatedAtMs) v)=false ↔
      ∀ text∈componentTexts component, blank text=false := by
  rw [refused_orNull (fun _ => rfl),componentTexts]
  cases hfailure : component.activeFailure with
  | none => simp
  | some failure =>
    rw [hfailure] at htime
    have hvalid := time_valid htime
    have hoperation : (str (operationName failure.operation)).isIn persistenceOperations=true := by
      cases failure.operation <;> decide
    change (true && (!safeInteger (.nat failure.occurredAtMs) ||
      (Value.nat evaluatedAtMs).lt (.nat failure.occurredAtMs)))=false at hvalid
    rw [Bool.true_and,Bool.or_eq_false_iff] at hvalid
    rw [Option.any_some,Bool.not_not]
    change (false || blank failure.code ||
      !(str (operationName failure.operation)).isIn persistenceOperations ||
      !safeInteger (.nat failure.occurredAtMs) ||
      (Value.nat evaluatedAtMs).lt (.nat failure.occurredAtMs) || false ||
      blank failure.summary)=false ↔ _
    rw [hoperation,hvalid.1,hvalid.2]
    simp

/-- What a component of the right shape leaves to its texts. -/
theorem componentMalformed_wire {evaluatedAtMs : Nat}
    {owners : List Protocol.RuntimePersistenceOwnerV4} {keys : List ComponentKey}
    {component : RuntimePersistenceComponentV4} (howner : component.owner∈owners)
    (hnew : (component.owner,component.kind)∉keys)
    (hshape : Protocol.ComponentShape evaluatedAtMs component) :
    componentMalformed (.nat evaluatedAtMs) (owners.map ownerName) (keys.map componentKey)
        (persistenceComponentWire component)=false ↔
      ∀ text∈componentTexts component, blank text=false := by
  have hown : (str (ownerName component.owner)).isIn persistenceOwners=true := by
    cases component.owner <;> decide
  have hrooted : (owners.map ownerName).contains (ownerName component.owner)=true := by
    rw [contains_map_name ownerName_injective,List.contains_iff_mem]
    exact howner
  have hkind : (str (persistenceKindName component.kind)).isIn persistenceKinds=true := by
    cases component.kind <;> decide
  have hkey : (keys.map componentKey).contains (componentKey (component.owner,component.kind))=
      false := by
    rw [contains_map_name componentKey_injective,Distinct.contains_eq_false]
    exact hnew
  have hstate : (str (persistenceStateName component.state)).isIn persistenceStates=true := by
    cases component.state <;> decide
  have hdurability : (str (durabilityName component.durability)).isIn persistenceDurability=
      true := by
    cases component.durability <;> decide
  rw [← failureMalformed_wire hshape.failed]
  change (!(str (ownerName component.owner)).isIn persistenceOwners ||
    !(owners.map ownerName).contains (ownerName component.owner) ||
    !(str (persistenceKindName component.kind)).isIn persistenceKinds ||
    (keys.map componentKey).contains (componentKey (component.owner,component.kind)) ||
    !(str (persistenceStateName component.state)).isIn persistenceStates ||
    !(str (durabilityName component.durability)).isIn persistenceDurability ||
    (!(orNull Value.nat component.lastSuccessAtMs).isNull &&
      (!safeInteger (orNull .nat component.lastSuccessAtMs) ||
        (Value.nat evaluatedAtMs).lt (orNull .nat component.lastSuccessAtMs))) ||
    refused (orNull persistenceFailureWire component.activeFailure)
      (fun v => !failureMalformed (.nat evaluatedAtMs) v))=false ↔ _
  rw [hown,hrooted,hkind,hkey,hstate,hdurability,time_valid hshape.time]
  simp only [Bool.not_true,Bool.or_false,Bool.false_or]

theorem readComponent_wire {evaluatedAtMs : Nat}
    {owners : List Protocol.RuntimePersistenceOwnerV4} {seen : ComponentsSeen}
    {component : RuntimePersistenceComponentV4} (howner : component.owner∈owners)
    (hnew : (component.owner,component.kind)∉seen.1)
    (hshape : Protocol.ComponentShape evaluatedAtMs component)
    (seen' : List String × Option String) :
    readComponent (.nat evaluatedAtMs) (owners.map ownerName) (componentsWritten seen)
        (persistenceComponentWire component)=.ok seen' ↔
      (∀ text∈componentTexts component, blank text=false) ∧
        seen'=componentsWritten (seeComponent seen component) := by
  have hstate : ∀ state, (str (persistenceStateName component.state)).isStr
      (persistenceStateName state)=(component.state==state) :=
    fun state => isStr_name persistenceStateName_injective component.state state
  have hdurability : ∀ durability, (str (durabilityName component.durability)).isStr
      (durabilityName durability)=(component.durability==durability) :=
    fun durability => isStr_name durabilityName_injective component.durability durability
  have hfailed : (orNull persistenceFailureWire component.activeFailure).isNull=
      component.activeFailure.isNone := isNull_orNull (fun _ => rfl) _
  have hsuccess : (orNull Value.nat component.lastSuccessAtMs).isNull=
      component.lastSuccessAtMs.isNone := isNull_orNull (fun _ => rfl) _
  have hfailing : (((str (persistenceStateName component.state)).isStr "degraded" ||
      (str (persistenceStateName component.state)).isStr "unavailable") !=
      !(orNull persistenceFailureWire component.activeFailure).isNull)=false := by
    have hdegraded := hstate .degraded
    have hunavailable := hstate .unavailable
    change (str (persistenceStateName component.state)).isStr "degraded"=_ at hdegraded
    change (str (persistenceStateName component.state)).isStr "unavailable"=_ at hunavailable
    rw [hdegraded,hunavailable,hfailed,Option.not_isNone,bne_eq_false_iff_eq]
    exact hshape.failing
  have hwritten : ((str (persistenceStateName component.state)).isStr "healthy" &&
      (str (durabilityName component.durability)).isStr "not_written")=false := by
    have hhealthy := hstate .healthy
    have hnot := hdurability .notWritten
    change (str (persistenceStateName component.state)).isStr "healthy"=_ at hhealthy
    change (str (durabilityName component.durability)).isStr "not_written"=_ at hnot
    rw [hhealthy,hnot,Protocol.and_eq_false_of_beq,beq_eq_false_iff_ne]
    intro hs hd
    exact hshape.durable ⟨hs,hd⟩
  have hunused : (str (durabilityName component.durability)).isStr "not_applicable"=
      (component.durability==.notApplicable) := hdurability .notApplicable
  have hcarries : ((component.durability==.notApplicable) &&
      (!(orNull Value.nat component.lastSuccessAtMs).isNull ||
        !(orNull persistenceFailureWire component.activeFailure).isNull))=false := by
    rw [Protocol.and_eq_false_of_beq,hsuccess,hfailed]
    intro hd
    obtain ⟨hlast,hactive⟩ := hshape.unused hd
    rw [hlast,hactive]
    rfl
  have hworst : (if (component.durability==.notApplicable)=true then
      seen.2.map persistenceStateName
      else recordState (seen.2.map persistenceStateName) (persistenceStateName component.state))=
      (Protocol.recordComponentState seen.2 component).map persistenceStateName := by
    rw [Protocol.recordComponentState,recordState_name,apply_ite (Option.map persistenceStateName)]
    simp only [beq_iff_eq]
  have hmalformed := componentMalformed_wire howner hnew hshape
  rw [readComponent,unit_bind_ok,unit_bind_ok,unit_bind_ok,unit_bind_ok,unit_bind_ok,reject_ok,
    reject_ok,reject_ok,reject_ok,reject_ok,pure_ok,eq_comm (b := seen')]
  change false=false ∧ componentMalformed (.nat evaluatedAtMs) (owners.map ownerName)
      (seen.1.map componentKey) (persistenceComponentWire component)=false ∧
    (((str (persistenceStateName component.state)).isStr "degraded" ||
      (str (persistenceStateName component.state)).isStr "unavailable") !=
      !(orNull persistenceFailureWire component.activeFailure).isNull)=false ∧
    ((str (persistenceStateName component.state)).isStr "healthy" &&
      (str (durabilityName component.durability)).isStr "not_written")=false ∧
    ((str (durabilityName component.durability)).isStr "not_applicable" &&
      (!(orNull Value.nat component.lastSuccessAtMs).isNull ||
        !(orNull persistenceFailureWire component.activeFailure).isNull))=false ∧
    seen'=(componentKey (component.owner,component.kind)::seen.1.map componentKey,
      if (str (durabilityName component.durability)).isStr "not_applicable"=true then
        seen.2.map persistenceStateName
      else recordState (seen.2.map persistenceStateName) (persistenceStateName component.state))
      ↔ _
  rw [hfailing,hwritten,hunused,hcarries,hworst,hmalformed]
  simp only [true_and]
  rfl

theorem readComponents_wire {evaluatedAtMs : Nat}
    {owners : List Protocol.RuntimePersistenceOwnerV4}
    {components : List RuntimePersistenceComponentV4}
    (howned : ∀ component∈components, component.owner∈owners)
    (hkeys : (components.map (fun component => (component.owner,component.kind))).Nodup)
    (hshape : ∀ component∈components, Protocol.ComponentShape evaluatedAtMs component)
    (worst : Option Protocol.RuntimePersistenceStateV4) (seen' : List String × Option String) :
    (components.map persistenceComponentWire).foldlM
        (readComponent (.nat evaluatedAtMs) (owners.map ownerName))
        ([],worst.map persistenceStateName)=.ok seen' ↔
      (∀ component∈components, ∀ text∈componentTexts component, blank text=false) ∧
        seen'=componentsWritten (components.foldl seeComponent ([],worst)) := by
  let key (component : RuntimePersistenceComponentV4) := (component.owner,component.kind)
  -- what is still to come is new, owned and of the right shape
  let fits (seen : ComponentsSeen) (components : List RuntimePersistenceComponentV4) : Prop :=
    (components.map key).Nodup ∧ (∀ component∈components, key component∉seen.1) ∧
      ∀ component∈components, component.owner∈owners ∧
        Protocol.ComponentShape evaluatedAtMs component
  have hstep : ∀ seen component rest, fits seen (component::rest) →
      (∀ s', readComponent (.nat evaluatedAtMs) (owners.map ownerName) (componentsWritten seen)
        (persistenceComponentWire component)=.ok s' ↔
        (∀ text∈componentTexts component, blank text=false) ∧
          s'=componentsWritten (seeComponent seen component)) ∧
      fits (seeComponent seen component) rest := by
    intro seen component rest h
    obtain ⟨hnodup,hnew,hall⟩ := h
    obtain ⟨hnodup',hnew'⟩ := Distinct.fresh_cons hnodup hnew
    obtain ⟨howner,hgood⟩ := hall component List.mem_cons_self
    exact ⟨fun s' => readComponent_wire howner (hnew component List.mem_cons_self) hgood s',
      hnodup',hnew',fun other hother => hall other (List.mem_cons_of_mem component hother)⟩
  exact foldlM_written_ok fits hstep components ([],worst) seen'
    ⟨hkeys,fun _ _ => List.not_mem_nil,fun component h => ⟨howned component h,hshape component h⟩⟩

theorem seeComponents_worst (components : List RuntimePersistenceComponentV4)
    (seen : ComponentsSeen) : (components.foldl seeComponent seen).2=
      components.foldl Protocol.recordComponentState seen.2 := by
  induction components generalizing seen with
  | nil => rfl
  | cons component components ih => rw [List.foldl_cons,ih,List.foldl_cons,seeComponent]

theorem forall_persistenceTexts {persistence : RuntimePersistenceV4} :
    (∀ text∈persistence.texts, blank text=false) ↔
      (∀ root∈persistence.roots, ∀ text∈rootTexts root, blank text=false) ∧
      ∀ component∈persistence.components, ∀ text∈componentTexts component, blank text=false := by
  rw [Protocol.RuntimePersistenceV4.texts,List.forall_mem_append,List.forall_mem_flatMap,
    List.forall_mem_flatMap]
  rfl

/-- A persistence section of the right shape passes where its texts do. -/
theorem validatePersistence_wire {persistence : Option RuntimePersistenceV4} {evaluatedAtMs : Nat}
    (hshape : ∀ p, persistence=some p → PersistenceShape evaluatedAtMs p) :
    validatePersistence (orNull persistenceWire persistence) (.nat evaluatedAtMs)=.ok () ↔
      ∀ text∈persistence.toList.flatMap RuntimePersistenceV4.texts, blank text=false := by
  cases hsome : persistence with
  | none => simp [validatePersistence]
  | some persistence =>
    have hgood := hshape persistence hsome
    let owners := (persistence.roots.map RuntimePersistenceRootV4.owner).reverse
    have hstate : (str (persistenceStateName persistence.state)).isIn persistenceStates=true := by
      cases persistence.state <;> decide
    have hcounter : safeInteger (.nat persistence.suppressedDiagnosticEvents)=true := by
      rw [safeInteger_nat,decide_eq_true hgood.counter]
    have hmalformed : (false || !(str (persistenceStateName persistence.state)).isIn
        persistenceStates || false || false ||
        !safeInteger (.nat persistence.suppressedDiagnosticEvents))=false := by
      rw [hstate,hcounter]
      rfl
    have hname : ∀ state, (str (persistenceStateName persistence.state)).isStr
        (persistenceStateName state)=(persistence.state==state) :=
      fun state => isStr_name persistenceStateName_injective persistence.state state
    have hactive : (!(str (persistenceStateName persistence.state)).isStr "unavailable" &&
        ((persistence.roots.map persistenceRootWire).isEmpty ||
          (persistence.components.map persistenceComponentWire).isEmpty))=false := by
      have hunavailable := hname .unavailable
      change (str (persistenceStateName persistence.state)).isStr "unavailable"=_ at hunavailable
      rw [hunavailable,List.isEmpty_map,List.isEmpty_map,Bool.and_eq_false_imp]
      intro hstate
      rw [Bool.not_eq_true',beq_eq_false_iff_ne] at hstate
      obtain ⟨hroots,hcomponents⟩ := hgood.active hstate
      rw [List.isEmpty_eq_false_iff.2 hroots,List.isEmpty_eq_false_iff.2 hcomponents]
      rfl
    have hroots := fun seen' => readRoots_wire hgood.owners hgood.roots seen'
    have howned : ∀ component∈persistence.components, component.owner∈owners :=
      fun component h => List.mem_reverse.2 (hgood.owned component h)
    have hcomponents := fun seen' => readComponents_wire howned hgood.keys hgood.components
      (Protocol.rootsWorst persistence.roots) seen'
    have hseen : rootsWritten (persistence.roots.foldl seeRoot ([],none))=
        (owners.map ownerName,
          (Protocol.rootsWorst persistence.roots).map persistenceStateName) := by
      rw [seeRoots,List.append_nil]
      rfl
    have hworst : (componentsWritten (persistence.components.foldl seeComponent
        ([],Protocol.rootsWorst persistence.roots))).2=
        (persistence.components.foldl Protocol.recordComponentState
          (Protocol.rootsWorst persistence.roots)).map persistenceStateName := by
      rw [componentsWritten,seeComponents_worst]
    have hoverall : (!(str (persistenceStateName persistence.state)).isStr
        (((persistence.components.foldl Protocol.recordComponentState
          (Protocol.rootsWorst persistence.roots)).map persistenceStateName).getD "unavailable"))=
        false := by
      have hfound := hname persistence.state
      rw [beq_self_eq_true] at hfound
      have hgetD : ((persistence.components.foldl Protocol.recordComponentState
          (Protocol.rootsWorst persistence.roots)).map persistenceStateName).getD "unavailable"=
          persistenceStateName persistence.state := by
        rw [hgood.state]
        cases persistence.components.foldl Protocol.recordComponentState
          (Protocol.rootsWorst persistence.roots) <;> rfl
      rw [hgetD,hfound]
      rfl
    have hnull : (persistenceWire persistence).isNull=false := rfl
    have hrootItems : ((persistenceWire persistence).get "roots").items=
        persistence.roots.map persistenceRootWire := rfl
    have hcomponentItems : ((persistenceWire persistence).get "components").items=
        persistence.components.map persistenceComponentWire := rfl
    have hstateWire : (persistenceWire persistence).get "state"=
        str (persistenceStateName persistence.state) := rfl
    simp only [Option.toList_some,List.flatMap_singleton,forall_persistenceTexts]
    rw [orNull_some,validatePersistence,hnull,if_neg Bool.false_ne_true,unit_bind_ok]
    simp only [bind_ok,exists_unit,reject_ok,hrootItems,hcomponentItems,hstateWire,hactive,true_and]
    constructor
    · intro h
      obtain ⟨_,roots,hread,components,hread',_⟩ := h
      obtain ⟨hrootTexts,rfl⟩ := (hroots roots).1 hread
      rw [hseen] at hread'
      exact ⟨hrootTexts,((hcomponents components).1 hread').1⟩
    · intro h
      refine ⟨hmalformed,_,(hroots _).2 ⟨h.1,rfl⟩,
        componentsWritten (persistence.components.foldl seeComponent
          ([],Protocol.rootsWorst persistence.roots)),?_,?_⟩
      · rw [hseen]
        exact (hcomponents _).2 ⟨h.2,rfl⟩
      · rw [hworst]
        exact hoverall

end Persistence
end BatCave.Reader
