import BatCave.RuntimeStore.Fatal

/-! Network rates that the store derives from totals. The store keeps the totals of the last
sample and not the source they were counted by, so a rate is sound only as far as the samples
stay with one source. -/
namespace BatCave.RuntimeStore
open BatCave.Contracts BatCave.ProcessView BatCave.Lib BatCave.Lib.Text

def networkQuality (system : SystemMetricsSnapshot) : Option MetricQualityInfo :=
  system.quality.bind SystemMetricQuality.network

def networkSource (system : SystemMetricsSnapshot) : Option MetricSource :=
  (networkQuality system).bind MetricQualityInfo.source

/-- The source reports rates of its own. -/
abbrev networkRatesAreNative (source : Option MetricSource) : Prop :=
  source=some .procfs ∨ source=some .interfaceAggregate

/-- A reading without a source, unavailable or waiting for its baseline. -/
def notMeasured (quality : Option MetricQualityInfo) : Bool :=
  quality.all (fun quality => quality.source.isNone || quality.quality==.unavailable ||
    metricIsPendingBaseline quality)

section Rates
variable {previous : Option TelemetryTotals} {elapsedSeconds : Float}
  {system : SystemMetricsSnapshot}

/-- What does not grow has no rate. -/
theorem byteRate_of_le {current previous : Nat} (h : current ≤ previous) (elapsedSeconds : Float) :
    byteRate current previous elapsedSeconds=0 := by
  rw [byteRate]
  split
  · rfl
  · have heq : current-previous=0 := by omega
    rw [heq]
    exact Binary64.toU64_round_zero_div _

/-- What the network looks like in a sample. -/
structure NetworkReading where
  quality : Option MetricQualityInfo
  receivedTotalBytes : Nat
  transmittedTotalBytes : Nat
  receivedBps : Nat
  transmittedBps : Nat
  deriving DecidableEq

def networkReading (system : SystemMetricsSnapshot) : NetworkReading where
  quality := networkQuality system
  receivedTotalBytes := system.networkReceivedTotalBytes
  transmittedTotalBytes := system.networkTransmittedTotalBytes
  receivedBps := system.networkReceivedBps
  transmittedBps := system.networkTransmittedBps

theorem deriveIokitDiskRates_network :
    networkReading (deriveIokitDiskRates previous elapsedSeconds system)=networkReading system := by
  rw [deriveIokitDiskRates]
  split
  · rfl
  · simp only [networkReading,networkQuality]
    cases system.quality <;> rfl

/-- The network half of `deriveSystemRates`. -/
def deriveNetworkRates (previous : Option TelemetryTotals) (elapsedSeconds : Float)
    (reading : NetworkReading) : NetworkReading :=
  match previous with
  | none => reading
  | some totals =>
    if networkRatesAreNative (reading.quality.bind MetricQualityInfo.source) then reading
    else
      { reading with
        receivedBps := byteRate reading.receivedTotalBytes totals.networkReceivedTotalBytes
          elapsedSeconds
        transmittedBps := byteRate reading.transmittedTotalBytes
          totals.networkTransmittedTotalBytes elapsedSeconds }

/-- The disks have no part in the network's rates. -/
theorem deriveSystemRates_network :
    networkReading (deriveSystemRates previous elapsedSeconds system)=
      deriveNetworkRates previous elapsedSeconds (networkReading system) := by
  have hnetwork : ∀ disk : SystemMetricsSnapshot, networkReading disk=networkReading system →
      networkReading (match previous with
        | none => disk
        | some previous =>
          let source :=
            (disk.quality.bind SystemMetricQuality.network).bind MetricQualityInfo.source
          if source=some .procfs ∨ source=some .interfaceAggregate then disk
          else
            { disk with
              networkReceivedBps := byteRate disk.networkReceivedTotalBytes
                previous.networkReceivedTotalBytes elapsedSeconds
              networkTransmittedBps := byteRate disk.networkTransmittedTotalBytes
                previous.networkTransmittedTotalBytes elapsedSeconds })=
        deriveNetworkRates previous elapsedSeconds (networkReading system) := by
    intro disk h
    rw [← h]
    cases previous with
    | none => rfl
    | some totals =>
      rw [deriveNetworkRates]
      by_cases hnative : networkRatesAreNative ((networkReading disk).quality.bind
          MetricQualityInfo.source)
      · rw [if_pos hnative]
        exact congrArg networkReading (if_pos hnative)
      · rw [if_neg hnative]
        exact congrArg networkReading (if_neg hnative)
  rw [deriveSystemRates.eq_def]
  apply hnetwork
  split
  · exact deriveIokitDiskRates_network
  · split
    · rfl
    · split
      · rfl
      · rfl

variable (previous elapsedSeconds) in
theorem deriveNetworkRates_totals (reading : NetworkReading) :
    (deriveNetworkRates previous elapsedSeconds reading).receivedTotalBytes=
        reading.receivedTotalBytes ∧
      (deriveNetworkRates previous elapsedSeconds reading).transmittedTotalBytes=
        reading.transmittedTotalBytes := by
  cases previous with
  | none => exact ⟨rfl,rfl⟩
  | some totals =>
    rw [deriveNetworkRates]
    split
    · exact ⟨rfl,rfl⟩
    · exact ⟨rfl,rfl⟩

end Rates

namespace Store
variable (lower : Lowercase) (sha256 : List UInt8 → List UInt8)

/-- A sample that brings nothing new. -/
def sourceUnchanged (s : Store) (sample : TelemetrySample) : Bool :=
  sample.sourceProvenance.isSome && sample.sourceProvenance==s.lastSampleProvenance

/-- The sample is of another bound instance of the service, or of none. -/
def bindingChanged (s : Store) (sample : TelemetrySample) : Bool :=
  sample.collectorService.any (fun status =>
    decide (s.adminMode.collectorService.bind binding≠binding status))

/-- A store, and the system sample that its totals are of. -/
structure Tracked where
  store : Store
  baseline : Option SystemMetricsSnapshot

namespace Tracked

/-- What the totals of a sample may still be compared with. -/
def retained (t : Tracked) (sample : TelemetrySample) : Option SystemMetricsSnapshot :=
  if t.store.bindingChanged sample then none else t.baseline

def apply (t : Tracked) (operation : Operation) : Tracked where
  store := operation.apply lower sha256 t.store
  baseline := match operation with
    | .applyRawSample sample _ _ =>
      if t.store.sourceUnchanged sample then t.retained sample else some sample.system
    | _ => t.baseline

/-- The store's totals are those of the baseline. -/
def Tracks (t : Tracked) : Prop :=
  t.store.previousTotals.map (fun totals =>
      (totals.networkReceivedTotalBytes,totals.networkTransmittedTotalBytes))=
    t.baseline.map (fun system =>
      (system.networkReceivedTotalBytes,system.networkTransmittedTotalBytes))

end Tracked

/-- Both samples count with one source, and it had not failed before. -/
def SameCounters (before system : SystemMetricsSnapshot) : Prop :=
  networkSource system=networkSource before ∧
    (networkQuality before).any (fun quality =>
      quality.source.isSome && quality.quality != .unavailable)=true

instance (before system : SystemMetricsSnapshot) : Decidable (SameCounters before system) :=
  inferInstanceAs (Decidable (_ ∧ _))

/-- The rates published with a sample that has none of its own: they are the sample's, as
there is nothing to compare it with, or they come from the totals of the same counters, or
they are zero, or they are marked. -/
def RatesSound (t : Tracked) (sample : TelemetrySample) (published : NetworkReading) : Prop :=
  match t.retained sample with
  | none => published=networkReading sample.system
  | some before =>
    (SameCounters before sample.system ∧ ∃ elapsedSeconds,
        published.receivedBps=byteRate sample.system.networkReceivedTotalBytes
            before.networkReceivedTotalBytes elapsedSeconds ∧
          published.transmittedBps=byteRate sample.system.networkTransmittedTotalBytes
            before.networkTransmittedTotalBytes elapsedSeconds) ∨
      (published.receivedBps=0 ∧ published.transmittedBps=0) ∨
      notMeasured published.quality=true

/-- The sample keeps to the counters, says that it measures nothing, or has counted nothing
since. -/
def Steady (t : Tracked) (sample : TelemetrySample) : Prop :=
  ∀ before, t.retained sample=some before → SameCounters before sample.system ∨
    notMeasured (networkQuality sample.system)=true ∨
    (sample.system.networkReceivedTotalBytes ≤ before.networkReceivedTotalBytes ∧
      sample.system.networkTransmittedTotalBytes ≤ before.networkTransmittedTotalBytes)

/-- The sample is new and its source has no rates of its own. -/
def Derives (s : Store) (sample : TelemetrySample) : Prop :=
  s.sourceUnchanged sample=false ∧ ¬networkRatesAreNative (networkSource sample.system)

instance (s : Store) (sample : TelemetrySample) : Decidable (Derives s sample) :=
  inferInstanceAs (Decidable (_ ∧ _))

/-- Every derived rate of a run is sound. -/
def RunSound (t : Tracked) : List Operation → Prop
  | [] => True
  | operation::operations =>
    (match operation with
      | .applyRawSample sample _ _ => Derives t.store sample →
          RatesSound t sample
            (networkReading (t.apply lower sha256 operation).store.snapshot.system)
      | _ => True) ∧
      RunSound (t.apply lower sha256 operation) operations

def RunSteady (t : Tracked) : List Operation → Prop
  | [] => True
  | operation::operations =>
    (match operation with
      | .applyRawSample sample _ _ => Derives t.store sample → Steady t sample
      | _ => True) ∧
      RunSteady (t.apply lower sha256 operation) operations

variable {lower sha256} {s : Store} {t : Tracked}

variable (lower sha256) in
theorem applyCollectorServiceStatus_previousTotals (sample : TelemetrySample) (sampleTsMs : Nat) :
    (applyCollectorServiceStatus lower sha256 s sample.collectorService
        sampleTsMs).2.previousTotals=
      if s.bindingChanged sample then none else s.previousTotals := by
  cases hstatus : sample.collectorService with
  | none => simp [applyCollectorServiceStatus,bindingChanged,hstatus]
  | some status =>
    simp only [applyCollectorServiceStatus,bindingChanged,hstatus,Option.any_some,
      decide_eq_true_eq]
    split
    · rfl
    · rfl

variable (lower sha256 s) in
/-- What a new sample publishes of the network. -/
theorem takeSample_network (sample : TelemetrySample) (completedAtMs : Nat) (answers : Answers) :
    ∃ elapsedSeconds,
      networkReading (takeSample lower sha256 s sample completedAtMs answers).snapshot.system=
        deriveNetworkRates s.previousTotals elapsedSeconds (networkReading sample.system) :=
  ⟨_,deriveSystemRates_network⟩

theorem takeSample_previousTotals (sample : TelemetrySample) (completedAtMs : Nat)
    (answers : Answers) :
    (takeSample lower sha256 s sample completedAtMs answers).previousTotals.map (fun totals =>
        (totals.networkReceivedTotalBytes,totals.networkTransmittedTotalBytes))=
      some (sample.system.networkReceivedTotalBytes,
        sample.system.networkTransmittedTotalBytes) := by
  obtain ⟨elapsedSeconds,h⟩ := takeSample_network lower sha256 s sample completedAtMs answers
  obtain ⟨hreceived,htransmitted⟩ := deriveNetworkRates_totals s.previousTotals elapsedSeconds
    (networkReading sample.system)
  rw [← h] at hreceived htransmitted
  exact congrArg some (Prod.ext hreceived htransmitted)

/-- Only new samples and changes of the binding touch the totals. -/
theorem holdRetainedTelemetry_previousTotals (heldAtMs : Nat) :
    (holdRetainedTelemetry lower sha256 s heldAtMs).previousTotals=s.previousTotals := by
  rw [holdRetainedTelemetry]
  split
  · rfl
  · rfl

theorem publishSnapshotOnly_previousTotals (s : Store) (answers : Answers) :
    (publishSnapshotOnly lower s answers).previousTotals=s.previousTotals := by
  rw [publishSnapshotOnly,publish]

theorem refreshSnapshotHealth_previousTotals (s : Store) (answers : Answers) :
    (refreshSnapshotHealth s answers).previousTotals=s.previousTotals := by
  rw [refreshSnapshotHealth]

theorem applyRawSample_unchanged {sample : TelemetrySample} (h : s.sourceUnchanged sample=true)
    (completedAtMs : Nat) (answers : Answers) :
    (applyRawSample lower sha256 s sample completedAtMs answers).previousTotals=
      if s.bindingChanged sample then none else s.previousTotals := by
  rw [← applyCollectorServiceStatus_previousTotals lower sha256 sample
    (s.sampledAtMs.getD completedAtMs)]
  simp only [sourceUnchanged] at h
  simp only [applyRawSample,h,if_true]
  rfl

variable (lower sha256) in
/-- A new sample meets the totals that its binding has left. -/
theorem applyRawSample_new {sample : TelemetrySample} (h : s.sourceUnchanged sample=false)
    (completedAtMs : Nat) (answers : Answers) :
    ∃ bound, applyRawSample lower sha256 s sample completedAtMs answers=
        takeSample lower sha256 bound sample completedAtMs answers ∧
      bound.previousTotals=if s.bindingChanged sample then none else s.previousTotals := by
  simp only [sourceUnchanged] at h
  simp only [applyRawSample,h,Bool.false_eq_true,if_false]
  exact ⟨_,rfl,applyCollectorServiceStatus_previousTotals lower sha256 sample completedAtMs⟩

/-- The totals that remain are those of the sample that remains. -/
theorem Tracked.Tracks.retained (h : t.Tracks) (sample : TelemetrySample) :
    (if t.store.bindingChanged sample then none else t.store.previousTotals).map (fun totals =>
        (totals.networkReceivedTotalBytes,totals.networkTransmittedTotalBytes))=
      (t.retained sample).map (fun system =>
        (system.networkReceivedTotalBytes,system.networkTransmittedTotalBytes)) := by
  rw [Tracked.retained]
  split
  · rfl
  · exact h

theorem Tracked.Tracks.of_totals (h : t.Tracks) {store : Store}
    (htotals : store.previousTotals=t.store.previousTotals) : Tracks ⟨store,t.baseline⟩ := by
  rw [Tracks,htotals]
  exact h

theorem Tracked.Tracks.apply (h : t.Tracks) (operation : Operation) :
    (t.apply lower sha256 operation).Tracks := by
  cases operation with
  | applyRawSample sample completedAtMs answers =>
    by_cases hsource : t.store.sourceUnchanged sample=true
    · simp only [Tracks,Tracked.apply,Operation.apply,hsource,if_true,
        applyRawSample_unchanged hsource]
      exact h.retained sample
    · rw [Bool.not_eq_true] at hsource
      obtain ⟨bound,htaken,-⟩ := applyRawSample_new lower sha256 hsource completedAtMs answers
      simp only [Tracks,Tracked.apply,Operation.apply,hsource,Bool.false_eq_true,if_false,htaken,
        takeSample_previousTotals]
      rfl
  | publishCollectorUnavailable answers =>
    exact h.of_totals (holdRetainedTelemetry_previousTotals answers.heldAtMs)
  | markEngineFatal code message occurredAtMs answers =>
    exact h.of_totals (holdRetainedTelemetry_previousTotals answers.heldAtMs)
  | setPaused paused answers =>
    exact h.of_totals (publishSnapshotOnly_previousTotals _ answers)
  | setQueryWithIntent query intent answers =>
    exact h.of_totals (publishSnapshotOnly_previousTotals _ answers)
  | setSampleInterval sampleIntervalMs answers =>
    exact h.of_totals (publishSnapshotOnly_previousTotals _ answers)
  | setUiPreferences preferences answers =>
    exact h.of_totals (publishSnapshotOnly_previousTotals _ answers)
  | setEngineState state => exact h.of_totals rfl
  | noteHeartbeat occurredAtMs => exact h.of_totals rfl
  | updateScheduleHealth misses recentMisses lateness answers =>
    exact h.of_totals (refreshSnapshotHealth_previousTotals _ answers)
  | recordPublicationLatency latencyMs answers =>
    exact h.of_totals (refreshSnapshotHealth_previousTotals _ answers)

/-- A steady sample has sound rates. -/
theorem ratesSound_of_steady (h : t.Tracks) {sample : TelemetrySample}
    (hderives : Derives t.store sample) (hsteady : Steady t sample) (completedAtMs : Nat)
    (answers : Answers) :
    RatesSound t sample (networkReading
      (t.store.applyRawSample lower sha256 sample completedAtMs answers).snapshot.system) := by
  obtain ⟨hsource,hnative⟩ := hderives
  obtain ⟨bound,htaken,htotals⟩ := applyRawSample_new lower sha256 hsource completedAtMs answers
  obtain ⟨elapsedSeconds,hreading⟩ := takeSample_network lower sha256 bound sample completedAtMs
    answers
  have hretained := h.retained sample
  rw [← htotals] at hretained
  rw [htaken,hreading,RatesSound]
  cases hbefore : t.retained sample with
  | none =>
    rw [hbefore,Option.map_none,Option.map_eq_none_iff] at hretained
    rw [hretained]
    rfl
  | some before =>
    rw [hbefore,Option.map_some,Option.map_eq_some_iff] at hretained
    obtain ⟨totals,htotals',hequal⟩ := hretained
    have hreceived := congrArg Prod.fst hequal
    have htransmitted := congrArg Prod.snd hequal
    dsimp only at hreceived htransmitted
    have hnative' : ¬networkRatesAreNative ((networkReading sample.system).quality.bind
        MetricQualityInfo.source) := hnative
    rw [htotals',deriveNetworkRates,if_neg hnative',hreceived,htransmitted]
    cases hsteady before hbefore with
    | inl hsame => exact .inl ⟨hsame,elapsedSeconds,rfl,rfl⟩
    | inr hrest =>
      cases hrest with
      | inl hmarked => exact .inr (.inr hmarked)
      | inr hstill => exact .inr (.inl ⟨byteRate_of_le hstill.1 _,byteRate_of_le hstill.2 _⟩)

theorem runSound_of_runSteady (h : t.Tracks) {operations : List Operation}
    (hsteady : RunSteady lower sha256 t operations) : RunSound lower sha256 t operations := by
  induction operations generalizing t with
  | nil => trivial
  | cons operation operations ih =>
    obtain ⟨hfirst,hrest⟩ := hsteady
    refine ⟨?_,ih (h.apply operation) hrest⟩
    cases operation with
    | applyRawSample sample completedAtMs answers =>
      intro hderives
      exact ratesSound_of_steady h hderives (hfirst hderives) completedAtMs answers
    | _ => trivial

/-- Over every run of a store, from whatever cache it was constructed: while its samples are
steady, no rate is derived across counters that do not belong together. -/
theorem network_rates_keep_to_counters (lower : Lowercase) (sha256 : List UInt8 → List UInt8)
    (provenance : RuntimeProvenance) (settings : RuntimeSettings) (seq : Nat)
    (rows : List ProcessSample) (answers : Answers) (operations : List Operation)
    (hsteady : RunSteady lower sha256
      ⟨fromWarmCache lower sha256 provenance settings seq rows answers,none⟩ operations) :
    RunSound lower sha256
      ⟨fromWarmCache lower sha256 provenance settings seq rows answers,none⟩ operations := by
  have htracks : Tracked.Tracks
      ⟨fromWarmCache lower sha256 provenance settings seq rows answers,none⟩ := rfl
  exact runSound_of_runSteady htracks hsteady

/-- A sample of the machine without processes. -/
def networkSample (quality : MetricQualityInfo) (receivedTotalBytes : Nat) : TelemetrySample :=
  { mixedSample with
    system := { emptySystem with
      networkReceivedTotalBytes := receivedTotalBytes
      quality := some { network := some quality } }
    processes := [] }

def linuxStart : Tracked :=
  ⟨fromWarmCache .ascii id linuxProvenance {} 0 [] (desktopAnswers 1),none⟩

/-- The collector counts with one source throughout. -/
def sysinfoRun : List Operation :=
  [.applyRawSample (networkSample (.new .estimated .sysinfo) 1000) 5000 (desktopAnswers 5000),
    .publishCollectorUnavailable (desktopAnswers 5500),
    .applyRawSample (networkSample (.new .estimated .sysinfo) 3000) 6000 (desktopAnswers 6000)]

theorem sysinfo_run_sound : RunSteady .ascii id linuxStart sysinfoRun ∧
    RunSound .ascii id linuxStart sysinfoRun := by
  have hsteady : RunSteady .ascii id linuxStart sysinfoRun := by
    refine ⟨?_,trivial,?_,trivial⟩
    · intro _ before hbefore
      cases hbefore
    · intro _ before hbefore
      cases hbefore
      exact .inl (by decide)
  exact ⟨hsteady,network_rates_keep_to_counters .ascii id linuxProvenance {} 0 []
    (desktopAnswers 1) sysinfoRun hsteady⟩

/-- The collector of the kernel's counters fails and the fallback counts with others. -/
def fallbackRun : List Operation :=
  [.applyRawSample (networkSample (.new .native .procfs) 1000) 5000 (desktopAnswers 5000),
    .applyRawSample (networkSample (.new .estimated .sysinfo) 5001000) 6000 (desktopAnswers 6000)]

set_option maxRecDepth 1000 in
/-- The difference of the two totals is published as a rate. -/
theorem fallback_run_mixes_counters : ¬RunSound .ascii id linuxStart fallbackRun := by
  intro h
  have hsecond := h.2.1 (by decide)
  change (_ ∨ _ ∨ _) at hsecond
  cases hsecond with
  | inl hsame => exact absurd hsame.1 (by decide)
  | inr hrest =>
    cases hrest with
    | inl hzero => exact absurd hzero.1 (by decide)
    | inr hmarked => exact absurd hmarked (by decide)

end Store
end BatCave.RuntimeStore
