import BatCave.Protocol.Publication
import BatCave.RuntimeStore.Rates

/-! Health at the time of a read. What the evaluation writes is what the reader's checks ask
for at every age, evaluating twice is evaluating late, and both read paths of the store
answer alike. -/
namespace BatCave.RuntimeStore
open BatCave.Contracts BatCave.Protocol BatCave.Lib BatCave.Lib.Result

/-- `published_snapshot`, of the snapshot that was published last. -/
def publishedSnapshot (published : RuntimeSnapshot) (nowMs : Nat) : RuntimeSnapshot :=
  evaluateSnapshotHealth published nowMs

/-- `published_snapshot_envelope` -/
def publishedSnapshotEnvelope (build : Build) (published : RuntimeSnapshot) (nowMs : Nat) :
    Except String ProtocolEnvelope :=
  encodeSnapshotRefWithHealth build published (evaluatedHealth published nowMs) nowMs

/-- The engine, the pause switch and the fatal error tell one story, and the stored reasons
name the collector's state and nothing twice. -/
structure HealthConsistent (snapshot : RuntimeSnapshot) : Prop where
  nodup : snapshot.health.reasonCodes.Nodup
  unavailable : .collectorUnavailable∈snapshot.health.reasonCodes ↔
    snapshot.health.collectorState=some .unavailable
  limited : .collectorLimited∈snapshot.health.reasonCodes ↔
    snapshot.health.collectorState=some .limited
  paused : snapshot.health.engineState=some .paused → snapshot.settings.paused=true
  running : snapshot.settings.paused=true → snapshot.health.engineState≠some .starting ∧
    snapshot.health.engineState≠some .running
  fatal : snapshot.health.fatalError.isSome ↔ snapshot.health.engineState=some .fatal

/-- The clock has passed everything that an age is counted from. -/
structure ClockPassed (snapshot : RuntimeSnapshot) (nowMs : Nat) : Prop where
  published : snapshot.publishedAtMs ≤ nowMs
  heartbeat : ∀ at', snapshot.health.lastHeartbeatAtMs=some at' → at' ≤ nowMs
  sampled : ∀ at', snapshot.sampledAtMs=some at' → at' ≤ nowMs

section Evaluation
variable {snapshot : RuntimeSnapshot} {nowMs : Nat}

def keptReasons (snapshot : RuntimeSnapshot) : List RuntimeHealthReason :=
  snapshot.health.reasonCodes.filter (fun reason => !temporalReason reason)

/-- The reasons that an evaluation adds to the kept ones. -/
def addedReasons (snapshot : RuntimeSnapshot) (nowMs : Nat) : List RuntimeHealthReason :=
  if snapshot.health.engineState=some .fatal then [.engineFatal]
  else if snapshot.settings.paused ∨ snapshot.health.engineState=some .paused then []
  else if snapshot.sampledAtMs.isNone ∨ snapshot.health.engineState=some .starting then []
  else staleReasons snapshot nowMs

def evaluatedFreshness (snapshot : RuntimeSnapshot) (nowMs : Nat) : RuntimeFreshness :=
  if snapshot.health.engineState=some .fatal then .stale
  else if snapshot.settings.paused ∨ snapshot.health.engineState=some .paused then .paused
  else if snapshot.sampledAtMs.isNone ∨ snapshot.health.engineState=some .starting then .starting
  else if staleReasons snapshot nowMs≠[] then .stale
  else if snapshot.health.collectorState=some .unavailable then .stale
  else .live

/-- The summary that an evaluation puts in place of the stored one. -/
def addedSummary (added : List RuntimeHealthReason) : Option String :=
  if .engineFatal∈added then some fatalSummary
  else if .heartbeatStale∈added then some "Sampling engine heartbeat is stale."
  else if .publicationStale∈added then some "Snapshot publication is stale."
  else if .sampleStale∈added then some "Telemetry sample is stale."
  else none

theorem mem_staleReasons {reason : RuntimeHealthReason} (h : reason∈staleReasons snapshot nowMs) :
    reason∈[RuntimeHealthReason.heartbeatStale,.publicationStale,.sampleStale] := by
  simp only [staleReasons,List.mem_append] at h
  obtain (h | h) | h := h <;> (split at h <;> simp_all)

theorem addedSummary_stale (h : staleReasons snapshot nowMs≠[]) :
    addedSummary (staleReasons snapshot nowMs)=
      some (if .heartbeatStale∈staleReasons snapshot nowMs then
          "Sampling engine heartbeat is stale."
        else if .publicationStale∈staleReasons snapshot nowMs then "Snapshot publication is stale."
        else "Telemetry sample is stale.") := by
  obtain ⟨reason,hreason⟩ := List.exists_mem_of_ne_nil _ h
  have hkind := mem_staleReasons hreason
  have hfatal : .engineFatal∉staleReasons snapshot nowMs := by
    intro hmem
    simpa using mem_staleReasons hmem
  simp only [addedSummary,if_neg hfatal]
  split
  · rfl
  · next hheartbeat =>
    split
    · rfl
    · next hpublication =>
      have hsample : .sampleStale∈staleReasons snapshot nowMs := by
        simp only [List.mem_cons,List.not_mem_nil,or_false] at hkind
        obtain rfl | rfl | rfl := hkind
        · exact absurd hreason hheartbeat
        · exact absurd hreason hpublication
        · exact hreason
      rw [if_pos hsample]

/-- An evaluation writes the reasons, what follows from them, and the clock. -/
theorem evaluatedHealth_eq (snapshot : RuntimeSnapshot) (nowMs : Nat) :
    evaluatedHealth snapshot nowMs=
      { snapshot.health with
        updatedAtMs := max nowMs snapshot.publishedAtMs
        reasonCodes := keptReasons snapshot++
          addedReasons snapshot (max nowMs snapshot.publishedAtMs)
        freshness := evaluatedFreshness snapshot (max nowMs snapshot.publishedAtMs)
        statusSummary := (addedSummary
          (addedReasons snapshot (max nowMs snapshot.publishedAtMs))).getD
            snapshot.health.statusSummary
        degraded := !(keptReasons snapshot++
          addedReasons snapshot (max nowMs snapshot.publishedAtMs)).isEmpty } := by
  simp only [evaluatedHealth]
  split
  · next hfatal =>
    simp only [addedReasons,evaluatedFreshness,if_pos hfatal]
    rfl
  · next hfatal =>
    split
    · next hpaused =>
      simp only [addedReasons,evaluatedFreshness,if_neg hfatal,if_pos hpaused,List.append_nil]
      rfl
    · next hpaused =>
      split
      · next hstarting =>
        simp only [addedReasons,evaluatedFreshness,if_neg hfatal,if_neg hpaused,if_pos hstarting,
          List.append_nil]
        rfl
      · next hstarting =>
        simp only [addedReasons,evaluatedFreshness,if_neg hfatal,if_neg hpaused,if_neg hstarting]
        split
        · next hstale =>
          rw [addedSummary_stale hstale]
          rfl
        · next hstale =>
          rw [ne_eq,Decidable.not_not] at hstale
          simp only [hstale,List.append_nil]
          split
          · rfl
          · rfl

/-- What an evaluation adds, the next one takes away again. -/
theorem addedReasons_temporal {reason : RuntimeHealthReason}
    (h : reason∈addedReasons snapshot nowMs) : temporalReason reason=true := by
  simp only [addedReasons] at h
  split at h
  · rw [List.mem_singleton.mp h]
    rfl
  · split at h
    · cases h
    · split at h
      · cases h
      · have hkind := mem_staleReasons h
        simp only [List.mem_cons,List.not_mem_nil,or_false] at hkind
        obtain rfl | rfl | rfl := hkind <;> rfl

theorem keptReasons_evaluated (snapshot : RuntimeSnapshot) (nowMs : Nat) :
    keptReasons (evaluateSnapshotHealth snapshot nowMs)=keptReasons snapshot := by
  have hadded : (addedReasons snapshot (max nowMs snapshot.publishedAtMs)).filter
      (fun reason => !temporalReason reason)=[] := by
    rw [List.filter_eq_nil_iff]
    intro reason hreason
    simp [addedReasons_temporal hreason]
  rw [keptReasons,evaluateSnapshotHealth,evaluatedHealth_eq]
  simp only [List.filter_append,hadded,List.append_nil,keptReasons,List.filter_filter,
    Bool.and_self]

theorem staleReasons_evaluated (snapshot : RuntimeSnapshot) (nowMs later : Nat) :
    staleReasons (evaluateSnapshotHealth snapshot nowMs) later=staleReasons snapshot later := by
  simp only [staleReasons,evaluateSnapshotHealth,evaluatedHealth_eq]

theorem states_evaluated (snapshot : RuntimeSnapshot) (nowMs : Nat) :
    (evaluateSnapshotHealth snapshot nowMs).health.engineState=snapshot.health.engineState ∧
      (evaluateSnapshotHealth snapshot nowMs).health.collectorState=
        snapshot.health.collectorState := by
  rw [evaluateSnapshotHealth,evaluatedHealth_eq]
  exact ⟨rfl,rfl⟩

theorem addedReasons_evaluated (snapshot : RuntimeSnapshot) (nowMs later : Nat) :
    addedReasons (evaluateSnapshotHealth snapshot nowMs) later=addedReasons snapshot later := by
  obtain ⟨hengine,_⟩ := states_evaluated snapshot nowMs
  rw [addedReasons,staleReasons_evaluated,hengine]
  rfl

theorem evaluatedFreshness_evaluated (snapshot : RuntimeSnapshot) (nowMs later : Nat) :
    evaluatedFreshness (evaluateSnapshotHealth snapshot nowMs) later=
      evaluatedFreshness snapshot later := by
  obtain ⟨hengine,hcollector⟩ := states_evaluated snapshot nowMs
  rw [evaluatedFreshness,staleReasons_evaluated,hengine,hcollector]
  rfl

/-- Whenever a snapshot was evaluated before, its freshness and its reasons are those of the
evaluation at hand. -/
theorem evaluate_again (snapshot : RuntimeSnapshot) (nowMs later : Nat) :
    (evaluatedHealth (evaluateSnapshotHealth snapshot nowMs) later).freshness=
        (evaluatedHealth snapshot later).freshness ∧
      (evaluatedHealth (evaluateSnapshotHealth snapshot nowMs) later).reasonCodes=
        (evaluatedHealth snapshot later).reasonCodes := by
  have hpublished : (evaluateSnapshotHealth snapshot nowMs).publishedAtMs=snapshot.publishedAtMs :=
    rfl
  rw [evaluatedHealth_eq,evaluatedHealth_eq snapshot later]
  simp only [hpublished,keptReasons_evaluated,addedReasons_evaluated,evaluatedFreshness_evaluated,
    and_self]

/-- At one time the second evaluation changes nothing at all. -/
theorem evaluate_twice (snapshot : RuntimeSnapshot) (nowMs : Nat) :
    evaluatedHealth (evaluateSnapshotHealth snapshot nowMs) nowMs=
      evaluatedHealth snapshot nowMs := by
  have hpublished : (evaluateSnapshotHealth snapshot nowMs).publishedAtMs=snapshot.publishedAtMs :=
    rfl
  have hhealth : (evaluateSnapshotHealth snapshot nowMs).health=evaluatedHealth snapshot nowMs :=
    rfl
  rw [evaluatedHealth_eq (evaluateSnapshotHealth snapshot nowMs)]
  simp only [hpublished,keptReasons_evaluated,addedReasons_evaluated,evaluatedFreshness_evaluated,
    hhealth]
  rw [evaluatedHealth_eq snapshot nowMs]
  cases addedSummary (addedReasons snapshot (max nowMs snapshot.publishedAtMs)) with
  | none => rfl
  | some summary => rfl

end Evaluation

section Encoding
variable {build : Build} {snapshot : RuntimeSnapshot} {nowMs : Nat}

/-- Of the stored health an encoder that is given another one reads the heartbeat only. -/
theorem encode_other_health {stored : RuntimeHealth} (health : RuntimeHealth)
    (hheartbeat : stored.lastHeartbeatAtMs=snapshot.health.lastHeartbeatAtMs) :
    encodeSnapshotWithIdentity build { snapshot with health := stored } nowMs (some health)=
      encodeSnapshotWithIdentity build snapshot nowMs (some health) := by
  have hhealth : encodeHealth { snapshot with health := stored }=encodeHealth snapshot := by
    funext health evaluatedAtMs count
    simp only [encodeHealth,hheartbeat]
  have hassemble : assemblePayload build { snapshot with health := stored }=
      assemblePayload build snapshot := by
    funext health evaluatedAtMs sections catalogs counts
    simp only [assemblePayload,hhealth]
    rfl
  simp only [encodeSnapshotWithIdentity,hassemble]
  rfl

/-- The evaluation of an encoder is the health it would otherwise be given. -/
theorem encode_evaluated (build : Build) (snapshot : RuntimeSnapshot) (nowMs : Nat) :
    encodeSnapshotWithIdentity build snapshot nowMs none=
      encodeSnapshotWithIdentity build snapshot nowMs (some (evaluatedHealth snapshot nowMs)) := rfl

/-- Both ways to read the published snapshot give readers the same. -/
theorem envelope_eq_encoded (hclock : ClockPassed snapshot nowMs) :
    publishedSnapshotEnvelope build snapshot nowMs=
      encodeSnapshot build (publishedSnapshot snapshot nowMs) := by
  have hheartbeat : (evaluatedHealth snapshot nowMs).lastHeartbeatAtMs=
      snapshot.health.lastHeartbeatAtMs := by rw [evaluatedHealth_eq]
  have hupdated : (evaluatedHealth snapshot nowMs).updatedAtMs=nowMs := by
    rw [evaluatedHealth_eq]
    exact Nat.max_eq_left hclock.published
  have hlast : snapshot.health.lastHeartbeatAtMs.getD 0 ≤ nowMs := by
    cases h : snapshot.health.lastHeartbeatAtMs with
    | none => exact Nat.zero_le _
    | some at' => exact hclock.heartbeat at' h
  have htime : max (max (publishedSnapshot snapshot nowMs).health.updatedAtMs
      (publishedSnapshot snapshot nowMs).publishedAtMs)
      ((publishedSnapshot snapshot nowMs).health.lastHeartbeatAtMs.getD 0)=nowMs := by
    have hpublished := hclock.published
    simp only [publishedSnapshot,evaluateSnapshotHealth,hupdated,hheartbeat]
    omega
  rw [encodeSnapshot,htime,encode_evaluated,publishedSnapshot,evaluate_twice]
  exact (encode_other_health _ hheartbeat).symm

end Encoding

section Reasons
variable {snapshot : RuntimeSnapshot} {nowMs : Nat}

/-- Neither fatal nor paused nor starting: the ages count. -/
structure Ageing (snapshot : RuntimeSnapshot) : Prop where
  fatal : snapshot.health.engineState≠some .fatal
  paused : ¬(snapshot.settings.paused=true ∨ snapshot.health.engineState=some .paused)
  starting : ¬(snapshot.sampledAtMs.isNone=true ∨ snapshot.health.engineState=some .starting)

theorem addedReasons_ageing (h : Ageing snapshot) :
    addedReasons snapshot nowMs=staleReasons snapshot nowMs := by
  rw [addedReasons,if_neg h.fatal,if_neg h.paused,if_neg h.starting]

theorem addedReasons_fatal (h : snapshot.health.engineState=some .fatal) :
    addedReasons snapshot nowMs=[.engineFatal] := by
  rw [addedReasons,if_pos h]

theorem addedReasons_idle (hfatal : snapshot.health.engineState≠some .fatal)
    (h : ¬Ageing snapshot) : addedReasons snapshot nowMs=[] := by
  rw [addedReasons,if_neg hfatal]
  split
  · rfl
  · next hpaused =>
    split
    · rfl
    · next hstarting => exact absurd ⟨hfatal,hpaused,hstarting⟩ h

theorem engineFatal_added : .engineFatal∈addedReasons snapshot nowMs ↔
    snapshot.health.engineState=some .fatal := by
  constructor
  · intro hmem
    by_contra hfatal
    by_cases hageing : Ageing snapshot
    · rw [addedReasons_ageing hageing] at hmem
      simpa using mem_staleReasons hmem
    · rw [addedReasons_idle hfatal hageing] at hmem
      cases hmem
  · intro hfatal
    rw [addedReasons_fatal hfatal]
    exact List.mem_singleton_self _

theorem stale_added {reason : RuntimeHealthReason} (hreason : reason≠.engineFatal) :
    reason∈addedReasons snapshot nowMs ↔
      Ageing snapshot ∧ reason∈staleReasons snapshot nowMs := by
  by_cases hageing : Ageing snapshot
  · rw [addedReasons_ageing hageing]
    exact (and_iff_right hageing).symm
  · by_cases hfatal : snapshot.health.engineState=some .fatal
    · rw [addedReasons_fatal hfatal]
      simp [hreason,hageing]
    · rw [addedReasons_idle hfatal hageing]
      simp [hageing]

theorem nodup_staleReasons : (staleReasons snapshot nowMs).Nodup := by
  simp only [staleReasons]
  split
  · split
    · split <;> decide
    · split <;> decide
  · split
    · split <;> decide
    · split <;> decide

theorem nodup_addedReasons : (addedReasons snapshot nowMs).Nodup := by
  by_cases hfatal : snapshot.health.engineState=some .fatal
  · rw [addedReasons_fatal hfatal]
    exact List.nodup_singleton _
  · by_cases hageing : Ageing snapshot
    · rw [addedReasons_ageing hageing]
      exact nodup_staleReasons
    · rw [addedReasons_idle hfatal hageing]
      exact List.nodup_nil

theorem mem_keptReasons {reason : RuntimeHealthReason} :
    reason∈keptReasons snapshot ↔
      reason∈snapshot.health.reasonCodes ∧ temporalReason reason=false := by
  simp [keptReasons]

/-- A temporal reason is there when the evaluation adds it. -/
theorem temporal_mem {reason : RuntimeHealthReason} (h : temporalReason reason=true) :
    reason∈keptReasons snapshot++addedReasons snapshot nowMs ↔
      reason∈addedReasons snapshot nowMs := by
  rw [List.mem_append,mem_keptReasons,h]
  simp

/-- Any other reason is there when it was stored. -/
theorem stored_mem {reason : RuntimeHealthReason} (h : temporalReason reason=false) :
    reason∈keptReasons snapshot++addedReasons snapshot nowMs ↔
      reason∈snapshot.health.reasonCodes := by
  rw [List.mem_append,mem_keptReasons,h]
  constructor
  · intro hmem
    cases hmem with
    | inl hkept => exact hkept.1
    | inr hadded =>
      rw [addedReasons_temporal hadded] at h
      cases h
  · exact fun hmem => .inl ⟨hmem,rfl⟩

theorem nodup_reasons (hconsistent : HealthConsistent snapshot) :
    (keptReasons snapshot++addedReasons snapshot nowMs).Nodup := by
  rw [List.nodup_append]
  refine ⟨hconsistent.nodup.filter _,nodup_addedReasons,?_⟩
  intro kept hkept added hadded heq
  have htemporal := (mem_keptReasons.mp hkept).2
  rw [heq,addedReasons_temporal hadded] at htemporal
  cases htemporal

end Reasons

section Checks

/-- The payload shows the snapshot as it is read at a time. -/
structure ReadAt (payload : RuntimeSnapshotPayloadV4) (snapshot : RuntimeSnapshot) (nowMs : Nat) :
    Prop where
  health : ∃ count, payload.health=
    encodeHealth snapshot (evaluatedHealth snapshot nowMs) nowMs count
  paused : payload.settings.collectionPaused=snapshot.settings.paused
  interval : payload.settings.effectiveSampleIntervalMs=snapshot.settings.sampleIntervalMs
  published : payload.publishedAtMs=snapshot.publishedAtMs
  sampled : payload.sampledAtMs=snapshot.sampledAtMs

theorem assemblePayload_read (build : Build) (snapshot : RuntimeSnapshot) (nowMs : Nat)
    (sections : EncodedSections) (catalogs : Catalogs) (counts : PayloadCounts) :
    ReadAt (assemblePayload build snapshot (evaluatedHealth snapshot nowMs) nowMs sections catalogs
      counts) snapshot nowMs :=
  ⟨⟨counts.collectorWarnings,rfl⟩,rfl,rfl,rfl,rfl⟩

/-- What of the stored health no evaluation looks at. -/
structure HealthMeasured (health : RuntimeHealth) (nowMs : Nat) : Prop where
  clock : nowMs ≤ jsMaxSafeInteger
  misses : ∀ misses, health.deadlineMisses=some misses → misses ≤ jsMaxSafeInteger
  latencies : ∀ value∈[health.deadlineLatenessP95Ms,health.collectionLatencyMs,
    health.collectionP95Ms,health.publicationLatencyMs,health.publicationP95Ms],
    value.any unmeasured=false
  cpu : unmeasured health.appCpuPercent=false
  rss : health.appRssBytes ≤ jsMaxSafeInteger
  owned : health.engineState=none → health.lastHeartbeatAtMs=none ∧ health.deadlineMisses=none ∧
    (∀ value∈[health.deadlineLatenessP95Ms,health.collectionLatencyMs,
      health.collectionP95Ms,health.publicationLatencyMs,health.publicationP95Ms], value=none) ∧
    health.collectorState=none
  lateness : health.deadlineLatenessP95Ms.isSome → health.deadlineMisses.isSome
  error : ∀ error, health.fatalError=some error → error.occurredAtMs ≤ nowMs ∧
    blank error.code=false ∧ blank error.message=false

variable {payload : RuntimeSnapshotPayloadV4} {snapshot : RuntimeSnapshot} {nowMs : Nat}

theorem ReadAt.health_eq (h : ReadAt payload snapshot nowMs) (hclock : ClockPassed snapshot nowMs) :
    ∃ count summary, payload.health=encodeHealth snapshot
      { snapshot.health with
        updatedAtMs := nowMs
        reasonCodes := keptReasons snapshot++addedReasons snapshot nowMs
        freshness := evaluatedFreshness snapshot nowMs
        statusSummary := summary
        degraded := !(keptReasons snapshot++addedReasons snapshot nowMs).isEmpty } nowMs count := by
  obtain ⟨count,hhealth⟩ := h.health
  rw [evaluatedHealth_eq,Nat.max_eq_left hclock.published] at hhealth
  exact ⟨count,_,hhealth⟩

theorem ageFits_map {evaluatedAtMs : Nat} {time : Option Nat}
    (h : ∀ at', time=some at' → at' ≤ evaluatedAtMs) :
    ageFits evaluatedAtMs time (time.map (fun at' => evaluatedAtMs-at'))=true := by
  cases time with
  | none => rfl
  | some at' => simpa [ageFits] using h at' rfl

theorem age_safe {evaluatedAtMs : Nat} (h : evaluatedAtMs ≤ jsMaxSafeInteger) (time : Option Nat) :
    (time.map (fun at' => evaluatedAtMs-at')).any
      (fun value => jsMaxSafeInteger < value)=false := by
  cases time with
  | none => rfl
  | some at' =>
    simp only [Option.map_some,Option.any_some,decide_eq_false_iff_not]
    omega

theorem safe_iff {time : Option Nat} :
    time.any (fun value => jsMaxSafeInteger < value)=false ↔
      ∀ value, time=some value → value ≤ jsMaxSafeInteger := by
  cases time <;> simp

theorem validateHealthFacts_read (h : ReadAt payload snapshot nowMs)
    (hclock : ClockPassed snapshot nowMs) :
    validateHealthFacts payload=.ok () ↔
      nowMs ≤ jsMaxSafeInteger ∧
      (∀ misses, snapshot.health.deadlineMisses=some misses → misses ≤ jsMaxSafeInteger) ∧
      (∀ value∈[snapshot.health.deadlineLatenessP95Ms,snapshot.health.collectionLatencyMs,
        snapshot.health.collectionP95Ms,snapshot.health.publicationLatencyMs,
        snapshot.health.publicationP95Ms], value.any unmeasured=false) ∧
      unmeasured snapshot.health.appCpuPercent=false ∧
      snapshot.health.appRssBytes ≤ jsMaxSafeInteger := by
  obtain ⟨count,summary,hhealth⟩ := h.health_eq hclock
  have hsample := ageFits_map hclock.sampled
  have hheartbeat := ageFits_map hclock.heartbeat
  simp only [validateHealthFacts,hhealth,encodeHealth,RuntimeHealthV4.engineIntegerFacts,
    RuntimeHealthV4.engineNumericFacts,unit_bind_ok,reject_ok,h.sampled,h.published,hsample,
    hheartbeat,Bool.not_true,and_true,Bool.or_eq_false_iff,List.any_cons,List.any_nil,
    decide_eq_false_iff_not,Nat.not_lt,bne_self_eq_false,hclock.published]
  constructor
  · intro ⟨⟨⟨_,_,hmisses⟩,hlateness,hcollection,hcollectionP95,hpublication,hpublicationP95⟩,
      ⟨⟨⟨hnow,_⟩,_⟩,hrss⟩,hcpu⟩
    refine ⟨hnow,safe_iff.mp hmisses,?_,hcpu,hrss⟩
    simpa using ⟨hlateness,hcollection,hcollectionP95,hpublication,hpublicationP95⟩
  · intro ⟨hnow,hmisses,hlatencies,hcpu,hrss⟩
    have hbeat : ∀ at', snapshot.health.lastHeartbeatAtMs=some at' → at' ≤ jsMaxSafeInteger :=
      fun at' hat => Nat.le_trans (hclock.heartbeat at' hat) hnow
    simp only [List.mem_cons,List.not_mem_nil,or_false,forall_eq_or_imp,forall_eq] at hlatencies
    exact ⟨⟨⟨safe_iff.mpr hbeat,age_safe hnow _,safe_iff.mpr hmisses⟩,hlatencies⟩,
      ⟨⟨⟨hnow,Nat.le_trans (Nat.sub_le _ _) hnow⟩,age_safe hnow _⟩,hrss⟩,hcpu⟩

/-- The states fit each other before and after an evaluation. -/
theorem validateHealthStates_read (h : ReadAt payload snapshot nowMs)
    (hclock : ClockPassed snapshot nowMs) (hconsistent : HealthConsistent snapshot) :
    validateHealthStates payload=.ok () ↔
      (snapshot.health.engineState=none → snapshot.health.lastHeartbeatAtMs=none ∧
        snapshot.health.deadlineMisses=none ∧
        (∀ value∈[snapshot.health.deadlineLatenessP95Ms,snapshot.health.collectionLatencyMs,
          snapshot.health.collectionP95Ms,snapshot.health.publicationLatencyMs,
          snapshot.health.publicationP95Ms], value=none) ∧
        snapshot.health.collectorState=none) ∧
      (snapshot.health.deadlineLatenessP95Ms.isSome → snapshot.health.deadlineMisses.isSome) := by
  obtain ⟨count,summary,hhealth⟩ := h.health_eq hclock
  have hfatal := hconsistent.fatal
  have hstate : (snapshot.health.engineState==some .fatal && snapshot.health.fatalError.isNone)=
      false := by
    cases hengine : snapshot.health.engineState==some .fatal with
    | false => rfl
    | true =>
      have herror := hfatal.mpr (by simpa using hengine)
      simpa using herror
  have herror : (snapshot.health.engineState.any (fun state => state != .fatal) &&
      snapshot.health.fatalError.isSome)=false := by
    cases herror : snapshot.health.fatalError.isSome with
    | false => rw [Bool.and_false]
    | true =>
      rw [hfatal.mp herror]
      rfl
  have hdegraded : (!(!(keptReasons snapshot++addedReasons snapshot nowMs).isEmpty) &&
      (snapshot.health.engineState==some .fatal ||
        snapshot.health.collectorState==some .limited ||
        snapshot.health.collectorState==some .unavailable))=false := by
    cases hempty : (keptReasons snapshot++addedReasons snapshot nowMs).isEmpty with
    | false => rfl
    | true =>
      rw [List.isEmpty_iff] at hempty
      have hno : ∀ reason, reason∉keptReasons snapshot++addedReasons snapshot nowMs := by
        rw [hempty]
        exact fun _ => List.not_mem_nil
      have hengine : snapshot.health.engineState≠some .fatal := by
        intro heq
        exact hno _ ((temporal_mem rfl).mpr (engineFatal_added.mpr heq))
      have hlimited : snapshot.health.collectorState≠some .limited := by
        intro heq
        exact hno _ ((stored_mem rfl).mpr (hconsistent.limited.mpr heq))
      have hunavailable : snapshot.health.collectorState≠some .unavailable := by
        intro heq
        exact hno _ ((stored_mem rfl).mpr (hconsistent.unavailable.mpr heq))
      simp [hengine,hlimited,hunavailable]
  have hpause : pauseStateInvalid snapshot.settings.paused snapshot.health.engineState=false := by
    have hpaused := hconsistent.paused
    have hrunning := hconsistent.running
    cases hswitch : snapshot.settings.paused with
    | true =>
      obtain ⟨hstarting,hrun⟩ := hrunning hswitch
      cases hengine : snapshot.health.engineState with
      | none => rfl
      | some state =>
        rw [hengine] at hstarting hrun
        cases state with
        | starting => exact absurd rfl hstarting
        | running => exact absurd rfl hrun
        | paused => rfl
        | fatal => rfl
    | false =>
      cases hengine : snapshot.health.engineState with
      | none => rfl
      | some state =>
        cases state with
        | paused =>
          rw [hpaused hengine] at hswitch
          cases hswitch
        | starting => rfl
        | running => rfl
        | fatal => rfl
  simp only [validateHealthStates,hhealth,encodeHealth,h.paused,unit_bind_ok,reject_ok,hstate,
    herror,hdegraded,hpause,and_true]
  refine and_congr ?_ ?_
  · cases hengine : snapshot.health.engineState with
    | some state => simp
    | none =>
      have hnone : snapshot.health.fatalError=none := by
        rw [hengine] at hfatal
        simpa using hfatal
      simp only [RuntimeHealthV4.hasEngineOwnedFact,RuntimeHealthV4.engineIntegerFacts,
        RuntimeHealthV4.engineNumericFacts,hnone]
      simp [and_assoc]
  · cases snapshot.health.deadlineMisses with
    | none => simp
    | some misses => simp

theorem validateFatalError_read (h : ReadAt payload snapshot nowMs)
    (hclock : ClockPassed snapshot nowMs) (hnow : nowMs ≤ jsMaxSafeInteger) :
    validateFatalError payload.health=.ok () ↔
      ∀ error, snapshot.health.fatalError=some error → error.occurredAtMs ≤ nowMs ∧
        blank error.code=false ∧ blank error.message=false := by
  obtain ⟨count,summary,hhealth⟩ := h.health_eq hclock
  simp only [validateFatalError,hhealth,encodeHealth,reject_ok]
  cases snapshot.health.fatalError with
  | none => simp
  | some error =>
    simp only [Option.any_some,Bool.or_eq_false_iff,decide_eq_false_iff_not,Nat.not_lt,
      Option.some.injEq,forall_eq',and_assoc]
    constructor
    · exact And.right
    · exact fun hfit => ⟨Nat.le_trans hfit.1 hnow,hfit⟩

/-- Twice the interval, within its bounds. -/
def maxAgeMs (snapshot : RuntimeSnapshot) : Nat :=
  max 500 (min snapshot.settings.sampleIntervalMs 5000)*2

theorem mem_ite_singleton {p : Prop} [Decidable p] {reason other : RuntimeHealthReason} :
    reason∈(if p then [other] else []) ↔ p ∧ reason=other := by
  by_cases h : p
  · simp [h]
  · simp [h]

theorem heartbeatStale_mem : .heartbeatStale∈staleReasons snapshot nowMs ↔
    snapshot.health.engineState=some .running ∧
      snapshot.health.lastHeartbeatAtMs.all (fun at' => maxAgeMs snapshot < nowMs-at')=true := by
  simp only [staleReasons,List.mem_append,mem_ite_singleton,Bool.and_eq_true,decide_eq_true_eq,
    reduceCtorEq,and_false,or_false,and_true]
  rfl

theorem publicationStale_mem : .publicationStale∈staleReasons snapshot nowMs ↔
    snapshot.health.engineState=some .running ∧
      maxAgeMs snapshot < nowMs-snapshot.publishedAtMs := by
  simp only [staleReasons,List.mem_append,mem_ite_singleton,Bool.and_eq_true,decide_eq_true_eq,
    reduceCtorEq,and_false,false_or,or_false,and_true]
  rfl

theorem sampleStale_mem : .sampleStale∈staleReasons snapshot nowMs ↔
    snapshot.sampledAtMs.all (fun at' => maxAgeMs snapshot < nowMs-at')=true := by
  simp only [staleReasons,List.mem_append,mem_ite_singleton,Bool.and_eq_true,decide_eq_true_eq,
    reduceCtorEq,and_false,false_or,or_false,and_true]
  rfl

/-- What the reader derives from states and ages is what the evaluation found. -/
structure FactsFound (facts : HealthFacts) (snapshot : RuntimeSnapshot) (nowMs : Nat) : Prop where
  fatal : facts.fatal=true ↔ snapshot.health.engineState=some .fatal
  paused : facts.paused=true ↔
    (snapshot.settings.paused=true ∨ snapshot.health.engineState=some .paused)
  starting : facts.starting=true ↔
    (snapshot.sampledAtMs.isNone=true ∨ snapshot.health.engineState=some .starting)
  unavailable : facts.unavailable=true ↔ snapshot.health.collectorState=some .unavailable
  limited : facts.limited=true ↔ snapshot.health.collectorState=some .limited
  heartbeatStale : facts.heartbeatStale=true ↔
    Ageing snapshot ∧ .heartbeatStale∈staleReasons snapshot nowMs
  publicationStale : facts.publicationStale=true ↔
    Ageing snapshot ∧ .publicationStale∈staleReasons snapshot nowMs
  sampleStale : facts.sampleStale=true ↔
    Ageing snapshot ∧ .sampleStale∈staleReasons snapshot nowMs

theorem healthFacts_found (h : ReadAt payload snapshot nowMs)
    (hclock : ClockPassed snapshot nowMs) : FactsFound (healthFacts payload) snapshot nowMs := by
  obtain ⟨count,summary,hhealth⟩ := h.health_eq hclock
  have hactive : Ageing snapshot ↔ (snapshot.health.engineState≠some .fatal ∧
      ¬(snapshot.settings.paused=true ∨ snapshot.health.engineState=some .paused)) ∧
      ¬(snapshot.sampledAtMs.isNone=true ∨ snapshot.health.engineState=some .starting) :=
    ⟨fun hageing => ⟨⟨hageing.fatal,hageing.paused⟩,hageing.starting⟩,
      fun hageing => ⟨hageing.1.1,hageing.1.2,hageing.2⟩⟩
  have hbool : ∀ b : Bool, (!b)=true ↔ ¬b=true := by decide
  constructor <;>
    simp only [healthFacts,hhealth,encodeHealth,h.paused,h.interval,h.sampled,Option.all_map,
      Bool.and_eq_true,Bool.or_eq_true,beq_iff_eq,hbool,decide_eq_true_eq,hactive,
      heartbeatStale_mem,publicationStale_mem,sampleStale_mem,and_assoc,ne_eq]
  · rfl
  · rfl
  · rfl

section Found
variable {facts : HealthFacts}

/-- Each reason is there exactly when its fact requires it. -/
theorem required_reasons (hconsistent : HealthConsistent snapshot)
    (hfound : FactsFound facts snapshot nowMs) : ∀ entry∈facts.required,
    (keptReasons snapshot++addedReasons snapshot nowMs).contains entry.1=entry.2 := by
  intro entry hentry
  rw [Bool.eq_iff_iff,List.contains_iff_mem]
  simp only [HealthFacts.required,List.mem_cons,List.not_mem_nil,or_false] at hentry
  obtain rfl | rfl | rfl | rfl | rfl | rfl := hentry
  · rw [temporal_mem rfl,engineFatal_added,hfound.fatal]
  · rw [stored_mem rfl,hconsistent.unavailable,hfound.unavailable]
  · rw [stored_mem rfl,hconsistent.limited,hfound.limited]
  · rw [temporal_mem rfl,stale_added (by simp),hfound.heartbeatStale]
  · rw [temporal_mem rfl,stale_added (by simp),hfound.publicationStale]
  · rw [temporal_mem rfl,stale_added (by simp),hfound.sampleStale]

/-- A stale snapshot is stale for one of the three reasons. -/
theorem staleReasons_ne_nil : staleReasons snapshot nowMs≠[] ↔
    .heartbeatStale∈staleReasons snapshot nowMs ∨ .publicationStale∈staleReasons snapshot nowMs ∨
      .sampleStale∈staleReasons snapshot nowMs := by
  constructor
  · intro h
    obtain ⟨reason,hreason⟩ := List.exists_mem_of_ne_nil _ h
    have hkind := mem_staleReasons hreason
    simp only [List.mem_cons,List.not_mem_nil,or_false] at hkind
    obtain rfl | rfl | rfl := hkind
    · exact .inl hreason
    · exact .inr (.inl hreason)
    · exact .inr (.inr hreason)
  · intro h hnil
    simp [hnil] at h

theorem freshness_found (hfound : FactsFound facts snapshot nowMs) :
    facts.freshness=evaluatedFreshness snapshot nowMs := by
  simp only [HealthFacts.freshness,evaluatedFreshness,hfound.fatal,hfound.paused,hfound.starting]
  split
  · rfl
  · next hfatal =>
    split
    · rfl
    · next hpaused =>
      split
      · rfl
      · next hstarting =>
        have hageing : Ageing snapshot := ⟨hfatal,hpaused,hstarting⟩
        simp only [Bool.or_eq_true,hfound.unavailable,hfound.heartbeatStale,
          hfound.publicationStale,hfound.sampleStale,hageing,true_and]
        by_cases hstale : staleReasons snapshot nowMs=[]
        · simp only [hstale,List.not_mem_nil,or_false,ne_eq,not_true_eq_false,if_false]
        · have hreason := staleReasons_ne_nil.mp hstale
          rw [if_pos hstale,if_pos (by tauto)]

end Found

theorem validateHealthReasons_read (h : ReadAt payload snapshot nowMs)
    (hclock : ClockPassed snapshot nowMs) (hconsistent : HealthConsistent snapshot) :
    validateHealthReasons payload=.ok () := by
  obtain ⟨count,summary,hhealth⟩ := h.health_eq hclock
  have hfound := healthFacts_found h hclock
  have hnodup : (keptReasons snapshot++addedReasons snapshot nowMs).Nodup :=
    nodup_reasons hconsistent
  simp only [validateHealthReasons,hhealth,encodeHealth,unit_bind_ok,reject_ok,forM_ok,
    freshness_found hfound,bne_self_eq_false,Bool.or_false,and_true,Bool.not_eq_false',
    decide_eq_true_eq]
  refine ⟨hnodup,?_⟩
  intro entry hentry
  rw [required_reasons hconsistent hfound entry hentry,bne_self_eq_false]

end Checks

/-- What an evaluation writes is never what a reader rejects: a snapshot read at a time that
has passed all of its own is accepted as far as its other facts are. -/
theorem validateHealth_read {payload : RuntimeSnapshotPayloadV4} {snapshot : RuntimeSnapshot}
    {nowMs : Nat} (h : ReadAt payload snapshot nowMs) (hclock : ClockPassed snapshot nowMs)
    (hconsistent : HealthConsistent snapshot) :
    validateHealth payload=.ok () ↔ HealthMeasured snapshot.health nowMs := by
  simp only [validateHealth,unit_bind_ok,validateHealthFacts_read h hclock,
    validateHealthStates_read h hclock hconsistent,validateHealthReasons_read h hclock hconsistent,
    and_true]
  constructor
  · intro ⟨⟨hnow,hmisses,hlatencies,hcpu,hrss⟩,⟨howned,hlateness⟩,herror⟩
    exact ⟨hnow,hmisses,hlatencies,hcpu,hrss,howned,hlateness,
      (validateFatalError_read h hclock hnow).mp herror⟩
  · intro hmeasured
    exact ⟨⟨hmeasured.clock,hmeasured.misses,hmeasured.latencies,hmeasured.cpu,hmeasured.rss⟩,
      ⟨hmeasured.owned,hmeasured.lateness⟩,
      (validateFatalError_read h hclock hmeasured.clock).mpr hmeasured.error⟩

/-- Reading a snapshot: its health passes wherever the writer assembles it, an evaluation
leaves later ones as they were, and both paths give the same envelope. -/
theorem read_health {snapshot : RuntimeSnapshot} {nowMs : Nat}
    (hconsistent : HealthConsistent snapshot) (hclock : ClockPassed snapshot nowMs)
    (build : Build) :
    (∀ sections catalogs counts,
      let payload := assemblePayload build snapshot (evaluatedHealth snapshot nowMs) nowMs sections
        catalogs counts
      validateHealthReasons payload=.ok () ∧
        (validateHealth payload=.ok () ↔ HealthMeasured snapshot.health nowMs)) ∧
    (∀ later, nowMs ≤ later →
      (evaluatedHealth (evaluateSnapshotHealth snapshot nowMs) later).freshness=
          (evaluatedHealth snapshot later).freshness ∧
        (evaluatedHealth (evaluateSnapshotHealth snapshot nowMs) later).reasonCodes=
          (evaluatedHealth snapshot later).reasonCodes) ∧
    publishedSnapshotEnvelope build snapshot nowMs=
      encodeSnapshot build (publishedSnapshot snapshot nowMs) := by
  refine ⟨?_,fun later _ => evaluate_again snapshot nowMs later,envelope_eq_encoded hclock⟩
  intro sections catalogs counts
  have hread := assemblePayload_read build snapshot nowMs sections catalogs counts
  exact ⟨validateHealthReasons_read hread hclock hconsistent,
    validateHealth_read hread hclock hconsistent⟩

def silentContributor : ProcessContributor := ⟨none,none,none,none,false⟩

/-- A machine that runs, with one fault that time does not touch. -/
def runningSnapshot : RuntimeSnapshot where
  eventKind := "runtime_snapshot"
  publicationSeq := 7
  publishedAtMs := 10000
  sampleSeq := 3
  sampledAtMs := some 10000
  source := "tauri_runtime"
  environment := ⟨.linux,false,.standard,.deb,none⟩
  adminMode := { state := .off, source := .none }
  standardFallbackProcessEtwDisabled := false
  settings := {}
  health :=
    { engineState := some .running
      collectorState := some .healthy
      lastHeartbeatAtMs := some 11000
      reasonCodes := [.persistenceUnavailable,.sampleStale] }
  persistence := none
  system := emptySystem
  processContributors :=
    ⟨silentContributor,silentContributor,silentContributor,silentContributor⟩
  processes := []
  processViewRows := []
  overviewRows := []
  totalProcessCount := 0
  warnings := []

/-- Two seconds and a half after the publication. -/
theorem running_read : HealthConsistent runningSnapshot ∧ ClockPassed runningSnapshot 12500 ∧
    (evaluatedHealth runningSnapshot 12500).reasonCodes=
      [.persistenceUnavailable,.publicationStale,.sampleStale] ∧
    publishedSnapshotEnvelope ⟨.x86_64,⟨"1.0.0",none⟩⟩ runningSnapshot 12500=
      encodeSnapshot ⟨.x86_64,⟨"1.0.0",none⟩⟩ (publishedSnapshot runningSnapshot 12500) := by
  have hconsistent : HealthConsistent runningSnapshot := by
    constructor <;> decide
  have hclock : ClockPassed runningSnapshot 12500 := by
    refine ⟨by decide,?_,?_⟩
    · intro at' h
      cases h
      decide
    · intro at' h
      cases h
      decide
  exact ⟨hconsistent,hclock,by decide,(read_health hconsistent hclock _).2.2⟩

end BatCave.RuntimeStore
