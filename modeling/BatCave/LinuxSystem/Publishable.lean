import BatCave.LinuxSystem.Collector
import BatCave.Protocol.Readings

/-! What the collector of a Linux machine reports passes the reader, as long as no sample
finds some identities of a kind with a baseline and others without one. -/
namespace BatCave.LinuxSystem
open BatCave.Contracts BatCave.Protocol BatCave.Lib BatCave.Lib.Text BatCave.Lib.Binary64

/-- The identity was there before, and none of its counters went back. -/
def stableIo (previous : Keyed IoTotals) (entry : String × IoTotals) : Bool :=
  (previous.get? entry.1).any (fun before => !before.reset entry.2)

def stableCpu (previous : Keyed CpuTimes) (entry : String × CpuTimes) : Bool :=
  (previous.get? entry.1).any (fun before => !before.reset entry.2)

/-- Either every device has a baseline to measure against or none has. -/
def steadyIo (previous : Option TimedIoCounters)
    (current : Except String (Keyed IoTotals)) : Bool :=
  match previous,current with
  | some before,.ok counters => counters.entries.all (stableIo before.counters) ||
      counters.entries.all (fun entry => !stableIo before.counters entry)
  | _,_ => true

def logicalEntries (cpuTimes : Keyed CpuTimes) : List (String × CpuTimes) :=
  cpuTimes.entries.filter (fun entry => entry.1 != "cpu")

/-- What a sample must find for its report to pass. -/
structure Steady (c : LinuxSystemCollector) (readings : Readings) : Prop where
  cpu : ∀ previous, c.previousCpu=some previous →
    ∀ entry∈logicalEntries readings.cpuTimes, stableCpu previous entry=true
  indices : (logicalEntries readings.cpuTimes).length ≤ 2^16
  disk : steadyIo c.previousDisk readings.disk=true
  network : steadyIo c.previousNetwork readings.network=true

/-- Failed reads come with a text. -/
structure Spoken (readings : Readings) : Prop where
  disk : ∀ error, readings.disk=.error error → trim error≠""
  network : ∀ error, readings.network=.error error → trim error≠""

/-- The qualities that every reader accepts. -/
inductive Emitted : MetricQualityInfo → Prop where
  | native (source : MetricSource) : Emitted (.new .native source)
  | pending {message : String} : trim message≠"" → Emitted (pending .held message)
  | failed {error : String} : trim error≠"" → Emitted (failed .unavailable error)
  | kept {error : String} : trim error≠"" → Emitted (failed .held error)

section Rates
variable (previous : Keyed IoTotals) (elapsed : Float)

theorem KeyedRates.step_counts (r : KeyedRates) (entry : String × IoTotals) :
    (r.step previous elapsed entry).matched=
        r.matched+(if stableIo previous entry then 1 else 0) ∧
      (r.step previous elapsed entry).warming+(r.step previous elapsed entry).reset=
        r.warming+r.reset+(if stableIo previous entry then 0 else 1) := by
  obtain hget | ⟨before,hget⟩ := Option.eq_none_or_eq_some (previous.get? entry.1)
  · simp only [KeyedRates.step,stableIo,hget,Option.any_none,Bool.false_eq_true,if_false,
      Nat.add_zero,true_and]
    omega
  · cases hreset : before.reset entry.2 with
    | true =>
      simp only [KeyedRates.step,stableIo,hget,hreset,Option.any_some,Bool.not_true,
        Bool.false_eq_true,if_false,if_true,Nat.add_zero,true_and]
      omega
    | false => simp [KeyedRates.step,stableIo,hget,hreset]

/-- The loop counts the stable identities and the others. -/
theorem KeyedRates.loop_counts (entries : List (String × IoTotals)) (r : KeyedRates) :
    (entries.foldl (KeyedRates.step previous elapsed) r).matched=
        r.matched+entries.countP (stableIo previous) ∧
      (entries.foldl (KeyedRates.step previous elapsed) r).warming+
          (entries.foldl (KeyedRates.step previous elapsed) r).reset=
        r.warming+r.reset+entries.countP (fun entry => !stableIo previous entry) := by
  induction entries generalizing r with
  | nil => simp
  | cons entry entries ih =>
    obtain ⟨hmatched,hother⟩ := KeyedRates.step_counts previous elapsed r entry
    rw [List.foldl_cons,(ih _).1,(ih _).2,hmatched,hother,List.countP_cons,List.countP_cons]
    cases stableIo previous entry with
    | true =>
      simp only [if_true,Bool.not_true,Bool.false_eq_true,if_false]
      omega
    | false =>
      simp only [if_true,Bool.not_false,Bool.false_eq_true,if_false]
      omega

theorem keyedIoRates_emitted (current : Keyed IoTotals)
    (h : (∀ entry∈current.entries, stableIo previous entry=true) ∨
      ∀ entry∈current.entries, stableIo previous entry=false) :
    Emitted (keyedIoRates current previous elapsed).2.2 := by
  obtain ⟨hmatched,hother⟩ := KeyedRates.loop_counts previous elapsed current.entries {}
  simp only [Nat.zero_add] at hmatched hother
  simp only [keyedIoRates]
  split
  · exact .pending (by decide)
  · next hnone =>
    split
    · next hsome =>
      exfalso
      have hpos : 0 < current.entries.countP (fun entry => !stableIo previous entry) := by omega
      obtain ⟨entry,hentry,hnot⟩ := List.countP_pos_iff.mp hpos
      cases h with
      | inl hall => simp [hall entry hentry] at hnot
      | inr hall =>
        apply hnone
        refine ⟨?_,.inl (List.ne_nil_of_mem hentry)⟩
        rw [hmatched,List.countP_eq_zero]
        intro e he
        simp [hall e he]
    · exact .native .procfs

theorem resolveIoSample_emitted {current : Except String (Keyed IoTotals)}
    {previous : Option TimedIoCounters} (hsteady : steadyIo previous current=true)
    (hspoken : ∀ error, current=.error error → trim error≠"") (sampledAt : Nat)
    {message : String} (hmessage : trim message≠"") :
    Emitted (resolveIoSample current previous sampledAt message).1.2.2.2 := by
  cases current with
  | error error =>
    have htext := hspoken error rfl
    cases previous with
    | none => exact .failed htext
    | some before => exact .kept htext
  | ok counters =>
    cases previous with
    | none => exact .pending hmessage
    | some before =>
      apply keyedIoRates_emitted
      simpa [steadyIo] using hsteady

end Rates

section Loads

theorem nonNeg_percent (numerator denominator : Nat) : NonNeg (percent numerator denominator) := by
  have hhundred : (100.0 : Float)=ofUnsigned 100 := by decide
  simp only [percent]
  split
  · exact nonNeg_zero
  · rw [hhundred]
    exact ((nonNeg_ofUnsigned _).div (nonNeg_ofUnsigned _)).mul (nonNeg_ofUnsigned _)

theorem nonNeg_round1 {value : Float} (h : NonNeg value) : NonNeg (round1 value) := by
  have hten : (10.0 : Float)=ofUnsigned 10 := by decide
  rw [round1,hten]
  exact ((h.mul (nonNeg_ofUnsigned _)).round).div (nonNeg_ofUnsigned _)

theorem cpuLoad_nonNeg {previous current : CpuTimes} {load : Float × Float}
    (h : cpuLoad previous current=some load) : NonNeg load.1 ∧ NonNeg load.2 := by
  simp only [cpuLoad] at h
  split at h
  · cases h
  · split at h
    · cases h
      exact ⟨nonNeg_zero,nonNeg_zero⟩
    · cases h
      exact ⟨nonNeg_round1 (nonNeg_percent _ _),nonNeg_round1 (nonNeg_percent _ _)⟩

theorem cpuLoad_isSome (previous current : CpuTimes) :
    (cpuLoad previous current).isSome=!previous.reset current := by
  simp only [cpuLoad]
  cases previous.reset current with
  | true => rfl
  | false =>
    simp only [Bool.false_eq_true,if_false]
    split <;> rfl

theorem logicalLoad_nonNeg (previous : Option (Keyed CpuTimes)) (entry : String × CpuTimes) :
    NonNeg (logicalLoad previous entry).percent := by
  simp only [logicalLoad]
  split
  · exact nonNeg_zero
  · split
    · next load hload => exact (cpuLoad_nonNeg hload).1
    · exact nonNeg_zero

theorem logicalLoad_stable {previous : Keyed CpuTimes} {entry : String × CpuTimes}
    (h : stableCpu previous entry=true) : (logicalLoad (some previous) entry).stable=true := by
  simp only [logicalLoad,stableCpu,Option.bind_some] at h ⊢
  cases hget : previous.get? entry.1 with
  | none => simp [hget] at h
  | some before =>
    rw [hget,Option.any_some,← cpuLoad_isSome] at h
    obtain ⟨load,hload⟩ := Option.isSome_iff_exists.mp h
    simp only [hload]
    rfl

theorem aggregateCpu_sound (previous : Option (Keyed CpuTimes)) (aggregate : CpuTimes) :
    NonNeg (aggregateCpu previous aggregate).1 ∧ NonNeg (aggregateCpu previous aggregate).2.1 ∧
      Emitted (aggregateCpu previous aggregate).2.2 := by
  simp only [aggregateCpu]
  split
  · exact ⟨nonNeg_zero,nonNeg_zero,.pending (by decide)⟩
  · split
    · next cpu kernel hload =>
      exact ⟨(cpuLoad_nonNeg hload).1,(cpuLoad_nonNeg hload).2,.native .procfs⟩
    · exact ⟨nonNeg_zero,nonNeg_zero,.pending (by decide)⟩

theorem logicalCpuQuality_emitted {previous : Option (Keyed CpuTimes)} {cpuTimes : Keyed CpuTimes}
    (h : ∀ before, previous=some before →
      ∀ entry∈logicalEntries cpuTimes, stableCpu before entry=true) :
    Emitted (logicalCpuQuality previous
      ((logicalCpuTimes cpuTimes).map (logicalLoad previous))) := by
  simp only [logicalCpuQuality]
  cases previous with
  | none => exact .pending (by decide)
  | some before =>
    have hnone : ((logicalCpuTimes cpuTimes).map (logicalLoad (some before))).any
        (fun load => !load.stable)=false := by
      rw [List.any_eq_false]
      intro load hload
      obtain ⟨entry,hentry,rfl⟩ := List.mem_map.mp hload
      have hmem : entry∈logicalEntries cpuTimes := List.mem_mergeSort.mp hentry
      simp [logicalLoad_stable (h before rfl entry hmem)]
    simp only [Option.isNone_some,Bool.false_eq_true,if_false,hnone]
    exact .native .procfs

end Loads

/-- A request for a value that is not negative, of a quality that passes. -/
structure RequestSound (r : Request) : Prop where
  quality : ∃ quality, r.quality=some quality ∧ Emitted quality
  value : ∀ x, r.value=some x → NonNeg x

section Requests
variable {semantic : MetricSemantic} {unit : MetricUnit} {quality : MetricQualityInfo}

theorem sound_float (hq : Emitted quality) {value : Float} (hv : NonNeg value) :
    RequestSound (systemRequest semantic unit (some value) (some quality)) := by
  refine ⟨⟨quality,rfl,hq⟩,?_⟩
  intro x hx
  cases hx
  exact hv

theorem sound_unsigned (hq : Emitted quality) (value : Nat) :
    RequestSound (systemRequest semantic unit (asF64 value) (some quality)) :=
  sound_float hq (nonNeg_ofUnsigned value)

end Requests

/-- A report all of whose qualities and values a reader accepts. -/
structure Sound (system : SystemMetricsSnapshot) : Prop where
  accounting : system.memoryAccounting=none
  cpus : system.logicalCpuPercent.length ≤ 2^16
  requests : ∀ r∈allSystemRequests system, RequestSound r

theorem sampleFrom_sound {c : LinuxSystemCollector} {readings : Readings}
    {system : SystemMetricsSnapshot} (hsteady : Steady c readings) (hspoken : Spoken readings)
    (h : (sampleFrom c readings).1=.ok system) : Sound system := by
  have hdisk := resolveIoSample_emitted hsteady.disk hspoken.disk readings.sampledAt
    (by decide : trim "Linux disk counters need a second /sys/block sample."≠"")
  have hnetwork := resolveIoSample_emitted hsteady.network hspoken.network readings.sampledAt
    (by decide : trim "Linux network counters need a second /proc/net/dev sample."≠"")
  simp only [sampleFrom] at h
  cases hget : readings.cpuTimes.get? "cpu" with
  | none =>
    rw [hget] at h
    cases h
  | some aggregate =>
    rw [hget] at h
    simp only [Except.ok.injEq] at h
    obtain ⟨hcpu,hkernel,hcpuQuality⟩ := aggregateCpu_sound c.previousCpu aggregate
    have hlogical := logicalCpuQuality_emitted hsteady.cpu
    have hnative : Emitted native := .native .procfs
    subst h
    refine ⟨rfl,?_,?_⟩
    · simpa [logicalCpuTimes,List.length_mergeSort,logicalEntries] using hsteady.indices
    · intro r hr
      simp only [allSystemRequests,systemRequests,poolTags,Option.elim_none,List.append_nil,
        List.flatMap_nil,List.mem_append,List.mem_map] at hr
      cases hr with
      | inl hmachine =>
        simp only [machineRequests,Option.bind_some,List.mem_cons,List.not_mem_nil,or_false]
          at hmachine
        obtain rfl | rfl | rfl | rfl | rfl | rfl | rfl | rfl | rfl | rfl | rfl | rfl | rfl | rfl |
          rfl | rfl := hmachine
        · exact sound_float hcpuQuality hcpu
        · exact sound_float hcpuQuality hkernel
        · exact sound_unsigned hnative _
        · exact sound_unsigned hnative _
        · exact sound_unsigned hnative _
        · exact sound_unsigned hnative _
        · exact sound_unsigned hnative _
        · exact sound_unsigned (.native .runtime) _
        · exact sound_unsigned hdisk _
        · exact sound_unsigned hdisk _
        · exact sound_unsigned hdisk _
        · exact sound_unsigned hdisk _
        · exact sound_unsigned hnetwork _
        · exact sound_unsigned hnetwork _
        · exact sound_unsigned hnetwork _
        · exact sound_unsigned hnetwork _
      | inr hlogicals =>
        obtain ⟨value,⟨load,⟨entry,_,rfl⟩,rfl⟩,rfl⟩ := hlogicals
        exact sound_float hlogical (logicalLoad_nonNeg c.previousCpu entry)

section Accepted
variable {unit : MetricUnit} {value : Option Float} {sampledAtMs publishedAtMs : Nat}

theorem finite_of_filter {x : Float} (h : value.filter Float.isFinite=some x) :
    x.isFinite=true ∧ value=some x := by
  rw [Option.filter_eq_some_iff] at h
  exact ⟨h.2,h.1⟩

/-- Whatever the value, a quality that the collector emits makes an accepted reading. -/
theorem emitted_accepted {quality : MetricQualityInfo} (hq : Emitted quality)
    (hv : ∀ x, value=some x → NonNeg x) (hle : sampledAtMs ≤ publishedAtMs) :
    (reading unit value (some quality) (some sampledAtMs)).Accepted
      (CatalogBuilder.sourceOf (some quality)) publishedAtMs (some sampledAtMs) := by
  cases hq with
  | native source =>
    have hsource : CatalogBuilder.sourceOf (some (MetricQualityInfo.new .native source))≠.unknown :=
      metricSource_ne_unknown source
    rw [reading_live unit value (some sampledAtMs) rfl rfl]
    split
    · exact accepted_unavailable_iff.mpr ⟨rfl,fun hs => absurd hs hsource⟩
    · next x hx =>
      split
      · exact accepted_numericRange hsource
      · have hfinite := finite_of_filter hx
        have hnative : MetricQuality.native≠.unavailable := by decide
        refine (accepted_value_iff hnative hsource hfinite.1).mpr ⟨?_,hle,?_,rfl⟩
        · exact (hv x hfinite.2).not_lt
        · intro hheld
          cases hheld
  | pending _ =>
    have hsource : MetricSourceV4.procfs≠.unknown := by decide
    rw [reading_pending unit value (some sampledAtMs) rfl rfl]
    split
    · exact accepted_numericRange hsource
    · exact (accepted_pending_iff hsource).mpr rfl
  | failed _ =>
    have hsource : MetricSourceV4.procfs≠.unknown := by decide
    rw [reading_unavailable unit value (some sampledAtMs) rfl rfl]
    split
    · exact accepted_numericRange hsource
    · exact accepted_unavailable_iff.mpr ⟨rfl,fun hs => absurd hs hsource⟩
  | kept _ =>
    rw [reading_held unit value (some sampledAtMs) rfl rfl rfl]
    split
    · exact accepted_missingHeldTime
    · split
      · exact accepted_missingHeldTime
      · exact accepted_missingHeldTime

theorem Emitted.spoken {quality : MetricQualityInfo} (hq : Emitted quality)
    {entry : LimitationEntry} (h : reportedLimitation quality=some entry) :
    trim entry.message≠"" := by
  cases hq with
  | native source => cases h
  | pending htext =>
    cases h
    exact htext
  | failed htext =>
    cases h
    exact htext
  | kept htext =>
    cases h
    exact htext

end Accepted

theorem Sound.publishable {system : SystemMetricsSnapshot} (h : Sound system)
    {interval sampledAtMs publishedAtMs : Nat} (hi : interval≠0)
    (hle : sampledAtMs ≤ publishedAtMs) (hp : publishedAtMs ≤ jsMaxSafeInteger) :
    SystemPublishable system interval sampledAtMs publishedAtMs := by
  refine (systemPublishable_iff hp).mpr ⟨hi,h.cpus,?_,?_⟩
  · intro r hr
    obtain ⟨⟨quality,hq,hemitted⟩,hvalue⟩ := h.requests r hr
    rw [Request.reading,hq]
    exact emitted_accepted hemitted hvalue hle
  · intro entry hentry
    obtain ⟨r,hr,hlim⟩ := List.mem_flatMap.mp hentry
    rw [Option.mem_toList] at hlim
    cases reading_limitation hlim with
    | inl hown => exact ownLimitations_spoken entry hown
    | inr hreported =>
      obtain ⟨⟨quality,hq,hemitted⟩,_⟩ := h.requests r hr
      rw [hq,Option.bind_some] at hreported
      exact hemitted.spoken hreported

/-- The results of sampling after sampling. -/
def results (c : LinuxSystemCollector) : List Readings → List (Except String SystemMetricsSnapshot)
  | [] => []
  | readings::rest => (sampleFrom c readings).1::results (sampleFrom c readings).2 rest

/-- Every sample that is reported finds what its report needs. -/
def SteadyRun (c : LinuxSystemCollector) : List Readings → Prop
  | [] => True
  | readings::rest => ((readings.cpuTimes.get? "cpu").isSome=true → Steady c readings) ∧
      SteadyRun (sampleFrom c readings).2 rest

/-- Only a sample with an aggregate is reported. -/
theorem reported_aggregate {c : LinuxSystemCollector} {readings : Readings}
    {system : SystemMetricsSnapshot} (h : (sampleFrom c readings).1=.ok system) :
    (readings.cpuTimes.get? "cpu").isSome=true := by
  cases hget : readings.cpuTimes.get? "cpu" with
  | none =>
    simp only [sampleFrom,hget] at h
    cases h
  | some aggregate => rfl

theorem results_sound {samples : List Readings} {c : LinuxSystemCollector}
    (hsteady : SteadyRun c samples) (hspoken : ∀ readings∈samples, Spoken readings)
    {system : SystemMetricsSnapshot} (h : .ok system∈results c samples) : Sound system := by
  induction samples generalizing c with
  | nil => cases h
  | cons readings rest ih =>
    cases List.mem_cons.mp h with
    | inl hhead =>
      have hreported := hsteady.1 (reported_aggregate hhead.symm)
      exact sampleFrom_sound hreported (hspoken readings List.mem_cons_self) hhead.symm
    | inr htail =>
      exact ih hsteady.2 (fun r hr => hspoken r (List.mem_cons_of_mem _ hr)) htail

/-- In every run whose samples are steady, every report passes the reader. -/
theorem steady_reports_pass (samples : List Readings) (hsteady : SteadyRun {} samples)
    (hspoken : ∀ readings∈samples, Spoken readings) (interval : Nat) (hi : interval≠0) :
    ∀ system, .ok system∈results {} samples → ∀ sampledAtMs publishedAtMs,
      sampledAtMs ≤ publishedAtMs → publishedAtMs ≤ jsMaxSafeInteger →
      SystemPublishable system interval sampledAtMs publishedAtMs := by
  intro system h sampledAtMs publishedAtMs hle hp
  exact (results_sound hsteady hspoken h).publishable hi hle hp

def busyIdle (user idle : Nat) : CpuTimes := ⟨user,0,0,idle,0,0,0,0⟩

def bootSample : Readings where
  cpuTimes := ⟨[("cpu",busyIdle 10 90),("cpu0",busyIdle 10 90)],by decide⟩
  memory := { totalBytes := 1000, availableBytes := 400, usedBytes := 600 }
  disk := .ok ⟨[("sda",⟨100,200⟩)],by decide⟩
  network := .ok ⟨[("eth0",⟨10,20⟩)],by decide⟩
  sampledAt := 0
  processCount := 3

/-- A second later every counter went on, and the disks could not be read. -/
def nextSample : Readings where
  cpuTimes := ⟨[("cpu",busyIdle 20 180),("cpu0",busyIdle 20 180)],by decide⟩
  memory := bootSample.memory
  disk := .error "linux_sys_block_read_failed:denied"
  network := .ok ⟨[("eth0",⟨30,20⟩)],by decide⟩
  sampledAt := 10^9
  processCount := 3

theorem two_samples_pass : (results {} [bootSample,nextSample]).all Except.isOk=true ∧
    ∀ system, .ok system∈results {} [bootSample,nextSample] →
      SystemPublishable system 1000 5 7 := by
  have hboot : Steady {} bootSample := ⟨by simp,by decide,rfl,rfl⟩
  have hnext : Steady (sampleFrom {} bootSample).2 nextSample := by
    refine ⟨?_,by decide,by decide,by decide⟩
    intro previous h
    cases h
    decide
  have hspoken : ∀ readings∈[bootSample,nextSample], Spoken readings := by
    intro readings hr
    simp only [List.mem_cons,List.not_mem_nil,or_false] at hr
    obtain rfl | rfl := hr
    · exact ⟨nofun,nofun⟩
    · refine ⟨?_,nofun⟩
      intro error h
      cases h
      decide
  refine ⟨by decide,fun system h => ?_⟩
  exact steady_reports_pass [bootSample,nextSample]
    ⟨fun _ => hboot,fun _ => hnext,trivial⟩ hspoken 1000 (by decide)
    system h 5 7 (by decide) (by decide)

theorem pending_not_accepted (value : Float) (message : String) (sampledAtMs publishedAtMs : Nat)
    (source : MetricSourceV4) :
    ¬(reading .percentSystem (some value) (some (pending .partialQuality message))
      (some sampledAtMs)).Accepted source publishedAtMs (some sampledAtMs) := by
  intro h
  rw [reading_live _ _ _ rfl rfl] at h
  cases hv : (some value).filter Float.isFinite with
  | none =>
    rw [hv] at h
    have hallows := (accepted_unavailable_iff.mp h).1
    cases hallows
  | some x =>
    rw [hv] at h
    obtain ⟨quality,hfits⟩ := h
    have hcode := hfits.code
    cases hcode
    have hallows := hfits.explained
    cases hallows

/-- Processors that are only partly measured for want of a baseline are never accepted. -/
theorem partly_pending_refused {system : SystemMetricsSnapshot} {message : String}
    (hq : system.quality.bind SystemMetricQuality.logicalCpu=
      some (pending .partialQuality message))
    (hne : system.logicalCpuPercent≠[]) (interval sampledAtMs publishedAtMs : Nat) :
    ¬SystemPublishable system interval sampledAtMs publishedAtMs := by
  intro h
  obtain ⟨value,hvalue⟩ := List.exists_mem_of_ne_nil _ hne
  have haccepted := h.accepted.accepted (logicalRequest system value)
    (List.mem_append_right _ (List.mem_append_left _ (List.mem_map_of_mem hvalue)))
  rw [Request.reading,logicalRequest,systemRequest,hq] at haccepted
  exact pending_not_accepted value message sampledAtMs publishedAtMs _ haccepted

/-- A processor without a usable baseline, once there are baselines, makes the report fail. -/
theorem unstable_cpu_refused {c : LinuxSystemCollector} {readings : Readings}
    {previous : Keyed CpuTimes} (hprevious : c.previousCpu=some previous)
    {entry : String × CpuTimes} (hentry : entry∈logicalEntries readings.cpuTimes)
    (hstable : stableCpu previous entry=false) {system : SystemMetricsSnapshot}
    (h : (sampleFrom c readings).1=.ok system) (interval sampledAtMs publishedAtMs : Nat) :
    ¬SystemPublishable system interval sampledAtMs publishedAtMs := by
  have hmem : entry∈logicalCpuTimes readings.cpuTimes := List.mem_mergeSort.mpr hentry
  have hunstable : (logicalLoad (some previous) entry).stable=false := by
    simp only [stableCpu,logicalLoad,Option.bind_some] at hstable ⊢
    cases hget : previous.get? entry.1 with
    | none => rfl
    | some before =>
      rw [hget,Option.any_some,← cpuLoad_isSome] at hstable
      have hload : cpuLoad before entry.2=none := by simpa using hstable
      simp only [hload]
      rfl
  simp only [sampleFrom] at h
  cases hget : readings.cpuTimes.get? "cpu" with
  | none =>
    rw [hget] at h
    cases h
  | some aggregate =>
    rw [hget] at h
    simp only [Except.ok.injEq] at h
    subst h
    have hany : ((logicalCpuTimes readings.cpuTimes).map (logicalLoad (some previous))).any
        (fun load => !load.stable)=true := by
      rw [List.any_eq_true]
      exact ⟨_,List.mem_map_of_mem hmem,by simp [hunstable]⟩
    apply partly_pending_refused
    · simp only [hprevious,Option.bind_some,logicalCpuQuality,Option.isNone_some,
        Bool.false_eq_true,if_false,hany,if_true]
      rfl
    · intro hnil
      simp only [List.map_eq_nil_iff] at hnil
      rw [hnil] at hmem
      cases hmem

/-- Devices with a baseline beside others without one make the rates partly measured. -/
theorem resolveIoSample_mixed {current : Except String (Keyed IoTotals)}
    {previous : Option TimedIoCounters} (hmixed : steadyIo previous current=false)
    (sampledAt : Nat) (message : String) :
    (resolveIoSample current previous sampledAt message).1.2.2.2=pending .partialQuality
      "New or reset Linux counter identities are warming up; stable identities remain native." := by
  cases current with
  | error error => cases previous <;> cases hmixed
  | ok counters =>
    cases previous with
    | none => cases hmixed
    | some before =>
      obtain ⟨hmatched,hother⟩ := KeyedRates.loop_counts before.counters
        (secondsSince sampledAt before.sampledAt) counters.entries {}
      simp only [steadyIo,Bool.or_eq_false_iff,List.all_eq_false] at hmixed
      obtain ⟨⟨new,hnew,hunstable⟩,old,hold,hstable⟩ := hmixed
      have hold' : 0 < counters.entries.countP (stableIo before.counters) :=
        List.countP_pos_iff.mpr ⟨old,hold,by simpa using hstable⟩
      have hnew' : 0 < counters.entries.countP
          (fun entry => !stableIo before.counters entry) :=
        List.countP_pos_iff.mpr ⟨new,hnew,by simpa using hunstable⟩
      simp only [Nat.zero_add] at hmatched hother
      simp only [resolveIoSample,keyedIoRates]
      rw [if_neg (by omega),if_pos (by omega)]

/-- A report says of its disks and of its network what their samples resolve to. -/
theorem reported_qualities {c : LinuxSystemCollector} {readings : Readings}
    {system : SystemMetricsSnapshot} (h : (sampleFrom c readings).1=.ok system) :
    system.quality.bind SystemMetricQuality.disk=
        some (resolveIoSample readings.disk c.previousDisk readings.sampledAt
          "Linux disk counters need a second /sys/block sample.").1.2.2.2 ∧
      system.quality.bind SystemMetricQuality.network=
        some (resolveIoSample readings.network c.previousNetwork readings.sampledAt
          "Linux network counters need a second /proc/net/dev sample.").1.2.2.2 := by
  simp only [sampleFrom] at h
  cases hget : readings.cpuTimes.get? "cpu" with
  | none =>
    rw [hget] at h
    cases h
  | some aggregate =>
    rw [hget] at h
    simp only [Except.ok.injEq] at h
    subst h
    exact ⟨rfl,rfl⟩

section Figures
variable {system : SystemMetricsSnapshot} {c : LinuxSystemCollector} {readings : Readings}

/-- A figure that is only partly measured for want of a baseline, and can be shown, is never
accepted. -/
theorem partly_pending_figure_refused {r : Request} (hr : r∈machineRequests system) {value : Nat}
    {message : String} (hquality : r.quality=some (pending .partialQuality message))
    (hvalue : r.value=asF64 value) (hunit : r.definition.unit.safeInteger=true)
    (hshown : unshown value=false) (interval sampledAtMs publishedAtMs : Nat) :
    ¬SystemPublishable system interval sampledAtMs publishedAtMs := by
  intro h
  have haccepted := h.accepted.accepted r (List.mem_append_left _ (List.mem_append_left _ hr))
  rw [Request.reading,hquality,hvalue] at haccepted
  have hnot := (partial_accepted_iff hunit .procfs value message).mp haccepted
  rw [hshown] at hnot
  cases hnot

/-- Disks with a baseline beside disks without one make the report fail, as long as one of their
four figures can be shown. -/
theorem unsteady_disk_refused (hmixed : steadyIo c.previousDisk readings.disk=false)
    (h : (sampleFrom c readings).1=.ok system)
    (hshown : ∃ value∈[system.diskReadTotalBytes,system.diskWriteTotalBytes,system.diskReadBps,
      system.diskWriteBps], unshown value=false) (interval sampledAtMs publishedAtMs : Nat) :
    ¬SystemPublishable system interval sampledAtMs publishedAtMs := by
  have hquality := (reported_qualities h).1
  rw [resolveIoSample_mixed hmixed] at hquality
  obtain ⟨value,hmember,hshown⟩ := hshown
  simp only [List.mem_cons,List.not_mem_nil,or_false] at hmember
  obtain rfl | rfl | rfl | rfl := hmember
  · exact partly_pending_figure_refused (List.mem_of_getElem? (i := 8) rfl) hquality rfl rfl hshown
      _ _ _
  · exact partly_pending_figure_refused (List.mem_of_getElem? (i := 9) rfl) hquality rfl rfl hshown
      _ _ _
  · exact partly_pending_figure_refused (List.mem_of_getElem? (i := 10) rfl) hquality rfl rfl
      hshown _ _ _
  · exact partly_pending_figure_refused (List.mem_of_getElem? (i := 11) rfl) hquality rfl rfl
      hshown _ _ _

/-- The same for the network interfaces. -/
theorem unsteady_network_refused (hmixed : steadyIo c.previousNetwork readings.network=false)
    (h : (sampleFrom c readings).1=.ok system)
    (hshown : ∃ value∈[system.networkReceivedTotalBytes,system.networkTransmittedTotalBytes,
      system.networkReceivedBps,system.networkTransmittedBps], unshown value=false)
    (interval sampledAtMs publishedAtMs : Nat) :
    ¬SystemPublishable system interval sampledAtMs publishedAtMs := by
  have hquality := (reported_qualities h).2
  rw [resolveIoSample_mixed hmixed] at hquality
  obtain ⟨value,hmember,hshown⟩ := hshown
  simp only [List.mem_cons,List.not_mem_nil,or_false] at hmember
  obtain rfl | rfl | rfl | rfl := hmember
  · exact partly_pending_figure_refused (List.mem_of_getElem? (i := 12) rfl) hquality rfl rfl
      hshown _ _ _
  · exact partly_pending_figure_refused (List.mem_of_getElem? (i := 13) rfl) hquality rfl rfl
      hshown _ _ _
  · exact partly_pending_figure_refused (List.mem_of_getElem? (i := 14) rfl) hquality rfl rfl
      hshown _ _ _
  · exact partly_pending_figure_refused (List.mem_of_getElem? (i := 15) rfl) hquality rfl rfl
      hshown _ _ _

end Figures

/-- A second processor comes up between the two samples. -/
def hotplugSample : Readings :=
  { nextSample with
    cpuTimes := ⟨[("cpu",busyIdle 20 180),("cpu0",busyIdle 20 180),("cpu1",busyIdle 1 1)],
      by decide⟩ }

theorem hotplugged_cpu_refused : Spoken bootSample ∧ Spoken hotplugSample ∧
    bootSample.sampledAt ≤ hotplugSample.sampledAt ∧
    ∃ system, .ok system∈results {} [bootSample,hotplugSample] ∧
      ∀ interval sampledAtMs publishedAtMs,
        ¬SystemPublishable system interval sampledAtMs publishedAtMs := by
  have hok : ∃ system, (sampleFrom (sampleFrom {} bootSample).2 hotplugSample).1=.ok system :=
    ⟨_,rfl⟩
  obtain ⟨system,hok⟩ := hok
  refine ⟨⟨nofun,nofun⟩,⟨?_,nofun⟩,by decide,system,?_,?_⟩
  · intro error h
    cases h
    decide
  · rw [← hok]
    exact List.mem_cons_of_mem _ List.mem_cons_self
  · have hentry : ("cpu1",busyIdle 1 1)∈logicalEntries hotplugSample.cpuTimes := by decide
    exact unstable_cpu_refused (c := (sampleFrom {} bootSample).2) rfl hentry (by decide) hok

end BatCave.LinuxSystem
