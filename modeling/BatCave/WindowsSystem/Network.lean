import BatCave.LinuxSystem.Collector
import BatCave.Protocol.Readings

/-! The network counters of a Windows machine: rates by the interfaces that went on since the
sample before, and what the reader makes of the quality that they are reported with. -/
namespace BatCave.WindowsSystem
open BatCave.Contracts BatCave.Protocol BatCave.Lib BatCave.Lib.Text BatCave.Lib.Word
open BatCave.LinuxSystem (secondsSince)

structure NetworkTotals where
  receivedBytes : Nat := 0
  transmittedBytes : Nat := 0
  deriving DecidableEq, Repr

/-- `BTreeMap<u64, NetworkTotals>`: pairs in the order of their keys. -/
structure InterfaceCounters where
  entries : List (Nat × NetworkTotals)
  sorted : entries.Pairwise (fun a b => a.1 < b.1)

def InterfaceCounters.get? (m : InterfaceCounters) (identity : Nat) : Option NetworkTotals :=
  m.entries.lookup identity

structure TimedInterfaceCounters where
  counters : InterfaceCounters
  /-- The instant of the sample, in nanoseconds. -/
  sampledAt : Nat

structure NetworkRateSample where
  totals : NetworkTotals
  receivedBps : Nat
  transmittedBps : Nat
  quality : MetricQualityInfo

def networkByteRate (current previous : Nat) (elapsedSeconds : Float) : Nat :=
  Binary64.toU64 (Binary64.round
    (Binary64.ofUnsigned (current-previous)/Binary64.max elapsedSeconds 0.001))

def addNetworkTotals (totals : NetworkTotals) (received transmitted : Nat) : NetworkTotals where
  receivedBytes := satAdd totals.receivedBytes received
  transmittedBytes := satAdd totals.transmittedBytes transmitted

def sumNetworkTotals (counters : List NetworkTotals) : NetworkTotals :=
  counters.foldl (fun totals counter =>
    addNetworkTotals totals counter.receivedBytes counter.transmittedBytes) {}

/-- A counter of the interface went back. -/
def NetworkTotals.reset (previous current : NetworkTotals) : Bool :=
  current.receivedBytes < previous.receivedBytes ||
    current.transmittedBytes < previous.transmittedBytes

/-- What the loop over the interfaces has counted. -/
structure InterfaceRates where
  receivedBps : Nat := 0
  transmittedBps : Nat := 0
  matched : Nat := 0
  warming : Nat := 0
  reset : Nat := 0

def InterfaceRates.step (previous : InterfaceCounters) (elapsedSeconds : Float) (r : InterfaceRates)
    (entry : Nat × NetworkTotals) : InterfaceRates :=
  match previous.get? entry.1 with
  | none => { r with warming := r.warming+1 }
  | some before =>
    if before.reset entry.2 then { r with reset := r.reset+1 }
    else
      { r with
        matched := r.matched+1
        receivedBps := satAdd r.receivedBps
          (networkByteRate entry.2.receivedBytes before.receivedBytes elapsedSeconds)
        transmittedBps := satAdd r.transmittedBps
          (networkByteRate entry.2.transmittedBytes before.transmittedBytes elapsedSeconds) }

def pendingBaseline (quality : MetricQuality) (message : String) : MetricQualityInfo :=
  (MetricQualityInfo.new quality .interfaceAggregate).withLimitation .pendingBaseline message

/-- `keyed_interface_rates` -/
def keyedInterfaceRates (current previous : InterfaceCounters) (elapsedSeconds : Float) :
    Nat × Nat × MetricQualityInfo :=
  let r := current.entries.foldl (InterfaceRates.step previous elapsedSeconds) {}
  let quality :=
    if r.matched=0 ∧ (current.entries≠[] ∨ previous.entries≠[]) then
      pendingBaseline .held
        "Windows interface topology changed or reset; waiting for stable identities."
    else if 0 < r.warming ∨ 0 < r.reset then
      pendingBaseline .partialQuality
        "New or reset Windows interfaces are warming up; stable interfaces remain native."
    else .new .native .interfaceAggregate
  (r.receivedBps,r.transmittedBps,quality)

/-- A sample of counters that follow others. -/
def rateSample (current previous : InterfaceCounters) (elapsedSeconds : Float) :
    NetworkRateSample :=
  let (receivedBps,transmittedBps,quality) := keyedInterfaceRates current previous elapsedSeconds
  ⟨sumNetworkTotals (current.entries.map Prod.snd),receivedBps,transmittedBps,quality⟩

/-- `WindowsNetworkSampler::sample`, with the counters that were read. -/
def sample (sampler : Option TimedInterfaceCounters) (counters : InterfaceCounters)
    (sampledAt : Nat) : NetworkRateSample × Option TimedInterfaceCounters :=
  (match sampler with
    | none => ⟨sumNetworkTotals (counters.entries.map Prod.snd),0,0,pendingBaseline .held
        "Windows interface counters need a second stable per-interface sample."⟩
    | some previous => rateSample counters previous.counters
        (secondsSince sampledAt previous.sampledAt),
    some ⟨counters,sampledAt⟩)

/-- The network fields of `sample_system`. -/
def attach (system : SystemMetricsSnapshot) (network : NetworkRateSample) :
    SystemMetricsSnapshot :=
  { system with
    networkReceivedTotalBytes := network.totals.receivedBytes
    networkTransmittedTotalBytes := network.totals.transmittedBytes
    networkReceivedBps := network.receivedBps
    networkTransmittedBps := network.transmittedBps
    quality := some { system.quality.getD {} with network := some network.quality } }

/-- The same machine, with nothing said of its network. -/
def withoutNetwork (system : SystemMetricsSnapshot) : SystemMetricsSnapshot :=
  { system with
    quality := system.quality.map (fun quality => { quality with network := none }) }

section Loop
variable (previous : InterfaceCounters) (elapsedSeconds : Float)

/-- The interface was there before and none of its counters went back. -/
def goesOn (entry : Nat × NetworkTotals) : Bool :=
  (previous.get? entry.1).any (fun before => !before.reset entry.2)

/-- Some interface goes on while another is new or was reset. -/
def Mixed (current : InterfaceCounters) : Prop :=
  (∃ entry∈current.entries, goesOn previous entry=true) ∧
    ∃ entry∈current.entries, goesOn previous entry=false

instance (current : InterfaceCounters) : Decidable (Mixed previous current) :=
  inferInstanceAs (Decidable (_ ∧ _))

theorem InterfaceRates.step_counts (r : InterfaceRates) (entry : Nat × NetworkTotals) :
    (r.step previous elapsedSeconds entry).matched=
        r.matched+(if goesOn previous entry then 1 else 0) ∧
      (r.step previous elapsedSeconds entry).warming+(r.step previous elapsedSeconds entry).reset=
        r.warming+r.reset+(if goesOn previous entry then 0 else 1) := by
  cases hget : previous.get? entry.1 with
  | none =>
    simp only [InterfaceRates.step,goesOn,hget,Option.any_none,Bool.false_eq_true,if_false,
      Nat.add_zero,true_and]
    omega
  | some before =>
    cases hreset : before.reset entry.2 with
    | true =>
      simp only [InterfaceRates.step,goesOn,hget,hreset,Option.any_some,Bool.not_true,
        Bool.false_eq_true,if_false,if_true,Nat.add_zero,true_and]
      omega
    | false => simp [InterfaceRates.step,goesOn,hget,hreset]

/-- The loop counts the interfaces that go on and the others. -/
theorem InterfaceRates.loop_counts (entries : List (Nat × NetworkTotals)) (r : InterfaceRates) :
    (entries.foldl (InterfaceRates.step previous elapsedSeconds) r).matched=
        r.matched+entries.countP (goesOn previous) ∧
      (entries.foldl (InterfaceRates.step previous elapsedSeconds) r).warming+
          (entries.foldl (InterfaceRates.step previous elapsedSeconds) r).reset=
        r.warming+r.reset+entries.countP (fun entry => !goesOn previous entry) := by
  induction entries generalizing r with
  | nil => simp
  | cons entry entries ih =>
    obtain ⟨hmatched,hother⟩ := InterfaceRates.step_counts previous elapsedSeconds r entry
    rw [List.foldl_cons,(ih _).1,(ih _).2,hmatched,hother,List.countP_cons,List.countP_cons]
    cases goesOn previous entry with
    | true =>
      simp only [if_true,Bool.not_true,Bool.false_eq_true,if_false]
      omega
    | false =>
      simp only [if_true,Bool.not_false,Bool.false_eq_true,if_false]
      omega

/-- The rate of one kind of counter, over the interfaces that go on. -/
def steadyRate (counter : NetworkTotals → Nat) (entries : List (Nat × NetworkTotals)) : Nat :=
  entries.foldl (fun total entry =>
    match previous.get? entry.1 with
    | some before => if before.reset entry.2 then total
      else satAdd total (networkByteRate (counter entry.2) (counter before) elapsedSeconds)
    | none => total) 0

theorem InterfaceRates.loop_rates (entries : List (Nat × NetworkTotals)) :
    (entries.foldl (InterfaceRates.step previous elapsedSeconds) {}).receivedBps=
        steadyRate previous elapsedSeconds NetworkTotals.receivedBytes entries ∧
      (entries.foldl (InterfaceRates.step previous elapsedSeconds) {}).transmittedBps=
        steadyRate previous elapsedSeconds NetworkTotals.transmittedBytes entries := by
  induction entries using List.reverseRecOn with
  | nil => exact ⟨rfl,rfl⟩
  | append_singleton entries entry ih =>
    simp only [steadyRate,List.foldl_append,List.foldl_cons,List.foldl_nil] at ih ⊢
    rw [← ih.1,← ih.2,InterfaceRates.step]
    cases previous.get? entry.1 with
    | none => exact ⟨rfl,rfl⟩
    | some before =>
      cases hreset : before.reset entry.2 with
      | true => simp [hreset]
      | false => simp [hreset]

/-- The quality of the rates is partial exactly for a mixed sample. -/
theorem quality_cases (current : InterfaceCounters) :
    (Mixed previous current ∧ (keyedInterfaceRates current previous elapsedSeconds).2.2=
        pendingBaseline .partialQuality
          "New or reset Windows interfaces are warming up; stable interfaces remain native.") ∨
      (¬Mixed previous current ∧
        ((keyedInterfaceRates current previous elapsedSeconds).2.2=pendingBaseline .held
            "Windows interface topology changed or reset; waiting for stable identities." ∨
          (keyedInterfaceRates current previous elapsedSeconds).2.2=
            .new .native .interfaceAggregate)) := by
  obtain ⟨hmatched,hother⟩ := InterfaceRates.loop_counts previous elapsedSeconds current.entries {}
  simp only [Nat.zero_add] at hmatched hother
  simp only [keyedInterfaceRates]
  split
  · next hnone =>
    refine .inr ⟨?_,.inl rfl⟩
    intro ⟨⟨entry,hentry,hgoes⟩,_⟩
    have hzero := hmatched.symm.trans hnone.1
    rw [List.countP_eq_zero] at hzero
    exact hzero entry hentry hgoes
  · next hsome =>
    split
    · next hwarming =>
      have hpos : 0 < current.entries.countP (fun entry => !goesOn previous entry) := by omega
      obtain ⟨entry,hentry,hnot⟩ := List.countP_pos_iff.mp hpos
      have hgoes : 0 < current.entries.countP (goesOn previous) := by
        by_contra hzero
        exact hsome ⟨by omega,.inl (List.ne_nil_of_mem hentry)⟩
      exact .inl ⟨⟨List.countP_pos_iff.mp hgoes,entry,hentry,by simpa using hnot⟩,rfl⟩
    · next hstable =>
      refine .inr ⟨?_,.inr rfl⟩
      intro ⟨_,entry,hentry,hnot⟩
      have hpos : 0 < current.entries.countP (fun entry => !goesOn previous entry) :=
        List.countP_pos_iff.mpr ⟨entry,hentry,by simpa using hnot⟩
      omega

end Loop

section Reader
variable {system : SystemMetricsSnapshot} {network : NetworkRateSample}
  {interval sampledAtMs publishedAtMs : Nat}

/-- None of the four figures of the network is shown. -/
def NothingShown (current previous : InterfaceCounters) (elapsedSeconds : Float) : Prop :=
  let totals := sumNetworkTotals (current.entries.map Prod.snd)
  unshown totals.receivedBytes=true ∧ unshown totals.transmittedBytes=true ∧
    unshown (steadyRate previous elapsedSeconds NetworkTotals.receivedBytes current.entries)=true ∧
    unshown (steadyRate previous elapsedSeconds NetworkTotals.transmittedBytes
      current.entries)=true

/-- The requests for the network. -/
def networkRequests (network : NetworkRateSample) : List Request :=
  [systemRequest .networkReceiveTotal .bytes (asF64 network.totals.receivedBytes)
      (some network.quality),
    systemRequest .networkTransmitTotal .bytes (asF64 network.totals.transmittedBytes)
      (some network.quality),
    systemRequest .networkReceiveRate .bytesPerSecond (asF64 network.receivedBps)
      (some network.quality),
    systemRequest .networkTransmitRate .bytesPerSecond (asF64 network.transmittedBps)
      (some network.quality)]

theorem machineRequests_attach (system : SystemMetricsSnapshot) (network : NetworkRateSample) :
    machineRequests (attach system network)=
      (machineRequests (withoutNetwork system)).take 12++networkRequests network := by
  cases hq : system.quality with
  | none => simp [machineRequests,attach,withoutNetwork,networkRequests,hq]
  | some quality => simp [machineRequests,attach,withoutNetwork,networkRequests,hq]

theorem memoryQuality_attach (system : SystemMetricsSnapshot) (network : NetworkRateSample) :
    memoryQuality (attach system network)=memoryQuality (withoutNetwork system) := by
  cases hq : system.quality with
  | none => simp [memoryQuality,attach,withoutNetwork,hq]
  | some quality => simp [memoryQuality,attach,withoutNetwork,hq]

theorem logicalRequest_attach (system : SystemMetricsSnapshot) (network : NetworkRateSample)
    (value : Float) :
    logicalRequest (attach system network) value=logicalRequest (withoutNetwork system) value := by
  cases hq : system.quality with
  | none => simp [logicalRequest,attach,withoutNetwork,hq]
  | some quality => simp [logicalRequest,attach,withoutNetwork,hq]

/-- Only the network's own requests are new. -/
theorem mem_attach {r : Request} (h : r∈allSystemRequests (attach system network)) :
    r∈networkRequests network ∨ r∈allSystemRequests (withoutNetwork system) := by
  have hlogical : logicalRequest (attach system network)=logicalRequest (withoutNetwork system) :=
    funext (logicalRequest_attach system network)
  simp only [allSystemRequests,systemRequests,machineRequests_attach,memoryQuality_attach,
    hlogical,List.mem_append] at h ⊢
  cases h with
  | inl hsystem =>
    cases hsystem with
    | inl hmachine =>
      cases hmachine with
      | inl hother => exact .inr (.inl (.inl (List.mem_of_mem_take hother)))
      | inr hnetwork => exact .inl hnetwork
    | inr haccounting => exact .inr (.inl (.inr haccounting))
  | inr hrest => exact .inr (.inr hrest)

theorem networkRequests_mem {r : Request} (h : r∈networkRequests network) :
    r∈allSystemRequests (attach system network) := by
  rw [allSystemRequests,systemRequests,machineRequests_attach]
  simp only [List.mem_append]
  exact .inl (.inl (.inr h))

/-- A request of the network for a value of this quality. -/
theorem networkRequest_reading {r : Request} (h : r∈networkRequests network)
    (sampledAtMs : Nat) :
    ∃ unit value, unit.safeInteger=true ∧ r.quality=some network.quality ∧
      r.reading (some sampledAtMs)=
        reading unit (asF64 value) (some network.quality) (some sampledAtMs) ∧
      value∈[network.totals.receivedBytes,network.totals.transmittedBytes,network.receivedBps,
        network.transmittedBps] := by
  simp only [networkRequests,List.mem_cons,List.not_mem_nil,or_false] at h
  obtain rfl | rfl | rfl | rfl := h
  · exact ⟨.bytes,_,rfl,rfl,rfl,by simp⟩
  · exact ⟨.bytes,_,rfl,rfl,rfl,by simp⟩
  · exact ⟨.bytesPerSecond,_,rfl,rfl,rfl,by simp⟩
  · exact ⟨.bytesPerSecond,_,rfl,rfl,rfl,by simp⟩

theorem native_accepted (unit : MetricUnit) {source : MetricSource} {value : Float}
    (hvalue : Binary64.NonNeg value) (hle : sampledAtMs ≤ publishedAtMs) :
    (reading unit (some value) (some (.new .native source)) (some sampledAtMs)).Accepted
      (metricSource source) publishedAtMs (some sampledAtMs) := by
  have hsource : metricSource source≠.unknown := by cases source <;> decide
  rw [reading_live unit _ (some sampledAtMs) rfl rfl]
  split
  · exact accepted_unavailable_iff.mpr ⟨rfl,fun hs => absurd hs hsource⟩
  · next x hx =>
    split
    · exact accepted_numericRange hsource
    · have hnative : MetricQuality.native≠.unavailable := by decide
      rw [Option.filter_eq_some_iff] at hx
      have hshown : value=x := Option.some.inj hx.1
      refine (accepted_value_iff hnative hsource hx.2).mpr ⟨?_,hle,?_,rfl⟩
      · rw [← hshown]
        exact hvalue.not_lt
      · intro hheld
        cases hheld

theorem held_accepted (unit : MetricUnit) (value : Option Float) (message : String) :
    (reading unit value (some (pendingBaseline .held message)) (some sampledAtMs)).Accepted
      .interfaceAggregate publishedAtMs (some sampledAtMs) := by
  have hsource : MetricSourceV4.interfaceAggregate≠.unknown := by decide
  rw [reading_pending unit value (some sampledAtMs) rfl rfl]
  split
  · exact accepted_numericRange hsource
  · exact (accepted_pending_iff hsource).mpr rfl

/-- Everything but the network passes. -/
structure OtherwisePublishable (system : SystemMetricsSnapshot)
    (interval sampledAtMs publishedAtMs : Nat) : Prop where
  sampled : sampledAtMs ≤ publishedAtMs
  safe : publishedAtMs ≤ jsMaxSafeInteger
  others : SystemPublishable (withoutNetwork system) interval sampledAtMs publishedAtMs

/-- With the rest in order, a section passes exactly when the readings of its network do. -/
theorem attach_publishable_iff (h : OtherwisePublishable system interval sampledAtMs publishedAtMs)
    (hspoken : ∀ entry, reportedLimitation network.quality=some entry → trim entry.message≠"") :
    SystemPublishable (attach system network) interval sampledAtMs publishedAtMs ↔
      ∀ r∈networkRequests network, (r.reading (some sampledAtMs)).Accepted
        (CatalogBuilder.sourceOf r.quality) publishedAtMs (some sampledAtMs) := by
  have hothers := h.others.accepted
  constructor
  · intro hpasses r hr
    exact hpasses.accepted.accepted r (networkRequests_mem hr)
  · intro hnetwork
    refine (systemPublishable_iff h.safe).mpr ⟨h.others.interval_ne,hothers.cpus,?_,?_⟩
    · intro r hr
      cases mem_attach hr with
      | inl hown => exact hnetwork r hown
      | inr hother => exact hothers.accepted r hother
    · intro entry hentry
      obtain ⟨r,hr,hlim⟩ := List.mem_flatMap.mp hentry
      cases mem_attach hr with
      | inl hown =>
        rw [Option.mem_toList] at hlim
        obtain ⟨unit,value,_,hquality,hreading,_⟩ := networkRequest_reading hown sampledAtMs
        rw [hreading] at hlim
        cases reading_limitation hlim with
        | inl hcatalog => exact ownLimitations_spoken entry hcatalog
        | inr hreported => exact hspoken entry hreported
      | inr hother => exact hothers.spoken entry (List.mem_flatMap.mpr ⟨r,hother,hlim⟩)

/-- What the sampler reports has something to say. -/
theorem rateSample_spoken (current previous : InterfaceCounters) (elapsedSeconds : Float)
    {entry : LimitationEntry}
    (h : reportedLimitation (rateSample current previous elapsedSeconds).quality=some entry) :
    trim entry.message≠"" := by
  have hquality : (rateSample current previous elapsedSeconds).quality=
      (keyedInterfaceRates current previous elapsedSeconds).2.2 := rfl
  rw [hquality] at h
  cases quality_cases previous elapsedSeconds current with
  | inl hmixed =>
    rw [hmixed.2] at h
    cases h
    decide
  | inr hplain =>
    cases hplain.2 with
    | inl hheld =>
      rw [hheld] at h
      cases h
      decide
    | inr hnative =>
      rw [hnative] at h
      cases h

/-- Attached to a machine that passes otherwise, the network of the sampler passes exactly
when no interface goes on beside one that is new or was reset, or when none of its figures
can be shown. -/
theorem interface_rates_publishable_iff (current previous : InterfaceCounters)
    (elapsedSeconds : Float)
    (h : OtherwisePublishable system interval sampledAtMs publishedAtMs) :
    SystemPublishable (attach system (rateSample current previous elapsedSeconds)) interval
        sampledAtMs publishedAtMs ↔
      ¬Mixed previous current ∨ NothingShown current previous elapsedSeconds := by
  rw [attach_publishable_iff h (fun entry => rateSample_spoken current previous elapsedSeconds)]
  have hquality : (rateSample current previous elapsedSeconds).quality=
      (keyedInterfaceRates current previous elapsedSeconds).2.2 := rfl
  cases quality_cases previous elapsedSeconds current with
  | inl hmixed =>
    have hshown : NothingShown current previous elapsedSeconds ↔
        ∀ r∈networkRequests (rateSample current previous elapsedSeconds),
          (r.reading (some sampledAtMs)).Accepted (CatalogBuilder.sourceOf r.quality) publishedAtMs
            (some sampledAtMs) := by
      have hreceived : (rateSample current previous elapsedSeconds).receivedBps=
          steadyRate previous elapsedSeconds NetworkTotals.receivedBytes current.entries :=
        (InterfaceRates.loop_rates previous elapsedSeconds current.entries).1
      have htransmitted : (rateSample current previous elapsedSeconds).transmittedBps=
          steadyRate previous elapsedSeconds NetworkTotals.transmittedBytes current.entries :=
        (InterfaceRates.loop_rates previous elapsedSeconds current.entries).2
      simp only [networkRequests,List.forall_mem_cons,List.not_mem_nil,false_implies,implies_true,
        and_true,Request.reading,systemRequest,hquality,hmixed.2,hreceived,htransmitted]
      have hbytes : MetricUnit.bytes.safeInteger=true := rfl
      have hrate : MetricUnit.bytesPerSecond.safeInteger=true := rfl
      exact (and_congr (partial_accepted_iff hbytes .interfaceAggregate _ _)
        (and_congr (partial_accepted_iff hbytes .interfaceAggregate _ _)
        (and_congr (partial_accepted_iff hrate .interfaceAggregate _ _)
          (partial_accepted_iff hrate .interfaceAggregate _ _)))).symm
    rw [hshown]
    exact ⟨.inr,fun hcases => hcases.elim (fun hnot => absurd hmixed.1 hnot) id⟩
  | inr hplain =>
    refine ⟨fun _ => .inl hplain.1,?_⟩
    intro _ r hr
    obtain ⟨unit,value,_,hown,hreading,_⟩ := networkRequest_reading hr sampledAtMs
    rw [hreading,hown,hquality]
    cases hplain.2 with
    | inl hheld =>
      rw [hheld]
      exact held_accepted unit _ _
    | inr hnative =>
      rw [hnative]
      exact native_accepted unit (Binary64.nonNeg_ofUnsigned value) h.sampled

/-- A busy machine: two processors, memory and a disk, all of them measured. -/
def busySystem : SystemMetricsSnapshot where
  cpuPercent := Binary64.ofUnsigned 12
  kernelCpuPercent := Binary64.ofUnsigned 3
  logicalCpuPercent := [Binary64.ofUnsigned 20,Binary64.ofUnsigned 4]
  memoryUsedBytes := 6000000000
  memoryTotalBytes := 16000000000
  memoryAvailableBytes := some 10000000000
  swapUsedBytes := none
  swapTotalBytes := none
  processCount := 3
  diskReadTotalBytes := 700000
  diskWriteTotalBytes := 300000
  diskReadBps := 4096
  diskWriteBps := 512
  networkReceivedTotalBytes := 0
  networkTransmittedTotalBytes := 0
  networkReceivedBps := 0
  networkTransmittedBps := 0
  memoryAccounting := none
  quality := some {
    cpu := some (.new .native .directApi)
    kernelCpu := some (.new .native .directApi)
    logicalCpu := some (.new .native .directApi)
    memory := some (.new .native .directApi)
    disk := some (.new .native .pdh) }

theorem busySystem_publishable : OtherwisePublishable busySystem 1000 5 7 := by
  refine ⟨by decide,by decide,(systemPublishable_iff (by decide)).mpr ⟨by decide,by decide,?_,?_⟩⟩
  · intro r hr
    have hr' : r∈machineRequests (withoutNetwork busySystem) ∨
        r∈busySystem.logicalCpuPercent.map (logicalRequest (withoutNetwork busySystem)) := by
      simpa [allSystemRequests,systemRequests,withoutNetwork,busySystem,poolTags] using hr
    have hmeasured : r.quality=none ∨ ∃ source value,
        r.quality=some (.new .native source) ∧ r.value=some (Binary64.ofUnsigned value) := by
      simp only [machineRequests,busySystem,List.map_cons,List.map_nil,List.mem_cons,
        List.not_mem_nil,or_false] at hr'
      obtain (rfl | rfl | rfl | rfl | rfl | rfl | rfl | rfl | rfl | rfl | rfl | rfl | rfl | rfl |
        rfl | rfl) | rfl | rfl := hr' <;> first | exact .inl rfl | exact .inr ⟨_,_,rfl,rfl⟩
    rw [Request.reading]
    cases hmeasured with
    | inl hnone =>
      rw [hnone,reading_unsourced _ _ (some 5) rfl]
      exact accepted_missingSource
    | inr hnative =>
      obtain ⟨source,value,hquality,hvalue⟩ := hnative
      rw [hquality,hvalue]
      exact native_accepted _ (Binary64.nonNeg_ofUnsigned value) (by decide)
  · decide

def ethernet : InterfaceCounters := ⟨[(1,⟨1000,500⟩)],by decide⟩

/-- A second interface comes up beside the first. -/
def dockedEthernet : InterfaceCounters := ⟨[(1,⟨3000,900⟩),(2,⟨40,20⟩)],by decide⟩

/-- Both go on, the first with nothing new. -/
def laterDocked : InterfaceCounters := ⟨[(1,⟨3000,900⟩),(2,⟨700,20⟩)],by decide⟩

theorem steady_interfaces_publishable : ¬Mixed dockedEthernet laterDocked ∧
    SystemPublishable (attach busySystem (rateSample laterDocked dockedEthernet 1.0)) 1000 5 7 := by
  have hsteady : ¬Mixed dockedEthernet laterDocked := by decide
  exact ⟨hsteady,(interface_rates_publishable_iff laterDocked dockedEthernet 1.0
    busySystem_publishable).mpr (.inl hsteady)⟩

theorem docked_interface_refused : OtherwisePublishable busySystem 1000 5 7 ∧
    ¬SystemPublishable (attach busySystem (rateSample dockedEthernet ethernet 1.0)) 1000 5 7 := by
  refine ⟨busySystem_publishable,?_⟩
  intro h
  have haccepted := h.accepted.accepted (systemRequest .networkReceiveTotal .bytes (asF64 3040)
    (some (rateSample dockedEthernet ethernet 1.0).quality)) (networkRequests_mem (.head _))
  have hmixed : (rateSample dockedEthernet ethernet 1.0).quality=pendingBaseline .partialQuality
      "New or reset Windows interfaces are warming up; stable interfaces remain native." := rfl
  rw [Request.reading,systemRequest,hmixed] at haccepted
  exact absurd ((partial_accepted_iff rfl .interfaceAggregate 3040 _).mp haccepted) (by decide)

end Reader
end BatCave.WindowsSystem
