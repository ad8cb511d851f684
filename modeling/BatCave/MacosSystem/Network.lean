import Mathlib.Algebra.BigOperators.Group.Finset.Basic
import Mathlib.Algebra.Order.BigOperators.Group.Finset
import Mathlib.Data.List.Induction
import Mathlib.Data.Rat.Defs
import Mathlib.Algebra.Order.Field.Rat
import Mathlib.Tactic.Linarith
import BatCave.LinuxSystem.Collector

/-! The network rates of a Mac: the counters of all interfaces are summed, and the sums of two
samples are compared. NOT a statement about the route table that the interfaces are read from. -/
namespace BatCave.MacosSystem
open BatCave.Contracts BatCave.Lib BatCave.Lib.Word
open BatCave.LinuxSystem (secondsSince)

/-- What IFMIB counts for one interface. -/
structure Counters where
  received : Nat
  transmitted : Nat
  deriving DecidableEq, Repr

/-- The interfaces of the route table, each once, and what reading its counters gave. -/
structure Interfaces where
  entries : List (Nat × Option Counters)
  distinct : (entries.map Prod.fst).Nodup

/-- The body of the loop of `interface_byte_totals`. -/
def addInterface (totals : Nat × Nat) (entry : Nat × Option Counters) : Nat × Nat :=
  match entry.2 with
  | none => totals
  | some counters =>
    (satAdd totals.1 counters.received,satAdd totals.2 counters.transmitted)

def byteTotals (interfaces : Interfaces) : Nat × Nat := interfaces.entries.foldl addInterface (0,0)

def interfaceByteTotals (interfaces : Except String Interfaces) : Except String (Nat × Nat) :=
  interfaces.map byteTotals

structure NetworkBaseline where
  received : Nat
  transmitted : Nat
  /-- The instant of the sample, in nanoseconds. -/
  sampledAt : Nat
  deriving DecidableEq, Repr

/-- The part of `MacosSystemCollector` that network rates read. -/
structure MacosSystemCollector where
  lastNetwork : Option NetworkBaseline := none
  deriving DecidableEq, Repr

def networkBaselinePending : String :=
  "Waiting for a second interface-counter sample before network rates are available."

def networkBaselineReset : String :=
  "Kernel interface counters regressed; waiting for a stable network baseline."

/-- What one sample says of the network. Rates are of any kind: `rate` divides an increment by
the time between two instants. -/
structure NetworkRates (ρ : Type) where
  receivedBps : ρ
  transmittedBps : ρ
  quality : MetricQualityInfo

def pendingRates {ρ : Type} (zero : ρ) (message : String) : NetworkRates ρ :=
  ⟨zero,zero,
    (MetricQualityInfo.new .held .interfaceAggregate).withLimitation .pendingBaseline message⟩

/-- The `match` of `apply_interface_totals`. -/
def interfaceRates {ρ : Type} (zero : ρ) (rate : Nat → Nat → Nat → ρ) (s : MacosSystemCollector)
    (totals : Except String (Nat × Nat)) (sampledAt : Nat) : NetworkRates ρ :=
  match totals,s.lastNetwork with
  | .ok _,none => pendingRates zero networkBaselinePending
  | .ok (received,transmitted),some previous =>
    if received < previous.received || transmitted < previous.transmitted then
      pendingRates zero networkBaselineReset
    else
      ⟨rate (received-previous.received) sampledAt previous.sampledAt,
        rate (transmitted-previous.transmitted) sampledAt previous.sampledAt,
        .new .native .interfaceAggregate⟩
  | .error _,_ =>
    ⟨zero,zero,(MetricQualityInfo.new .unavailable .interfaceAggregate).withLimitation
      .collectorFailure "Kernel interface byte totals could not be read."⟩

/-- `last_network` after a sample. -/
def MacosSystemCollector.replace (s : MacosSystemCollector) (totals : Except String (Nat × Nat))
    (sampledAt : Nat) : MacosSystemCollector :=
  match totals with
  | .ok (received,transmitted) => { s with lastNetwork := some ⟨received,transmitted,sampledAt⟩ }
  | .error _ => s

/-- `(delta as f64 / elapsed).round() as u64` -/
def networkRate (delta later earlier : Nat) : Nat :=
  Binary64.toU64 (Binary64.round
    (Binary64.ofUnsigned delta/Binary64.max (secondsSince later earlier) 0.001))

def MacosSystemCollector.applyInterfaceTotals (s : MacosSystemCollector)
    (snapshot : SystemMetricsSnapshot) (totals : Except String (Nat × Nat)) (sampledAt : Nat)
    (warnings : List String) : MacosSystemCollector × SystemMetricsSnapshot × List String :=
  let rates := interfaceRates 0 networkRate s totals sampledAt
  let snapshot :=
    match totals with
    | .ok (received,transmitted) =>
      { snapshot with
        networkReceivedTotalBytes := received
        networkTransmittedTotalBytes := transmitted }
    | .error _ => snapshot
  let snapshot :=
    { snapshot with
      networkReceivedBps := rates.receivedBps
      networkTransmittedBps := rates.transmittedBps
      quality := some { snapshot.quality.getD {} with network := some rates.quality } }
  let warnings :=
    match totals with
    | .ok _ => warnings
    | .error error => warnings++["macos_interface_totals_failed:"++error]
  (s.replace totals sampledAt,snapshot,warnings)

/-- The same rate, divided exactly. -/
def exactRate (delta later earlier : Nat) : ℚ :=
  delta/max (((later-earlier : Nat) : ℚ)/10^9) (1/1000)

/-- One call of `apply_network_rates`. -/
structure Sample where
  interfaces : Except String Interfaces
  sampledAt : Nat

/-- The collector after samples in their order, from the first one. -/
def MacosSystemCollector.after (run : List Sample) : MacosSystemCollector :=
  run.foldl (fun s sample => s.replace (interfaceByteTotals sample.interfaces) sample.sampledAt) {}

/-- The snapshot of the sample that follows a run. -/
def published (run : List Sample) (sample : Sample) (snapshot : SystemMetricsSnapshot)
    (warnings : List String) : SystemMetricsSnapshot :=
  ((MacosSystemCollector.after run).applyInterfaceTotals snapshot
    (interfaceByteTotals sample.interfaces) sample.sampledAt warnings).2.1

/-- The rates in it, divided exactly. -/
def exactRates (run : List Sample) (sample : Sample) : NetworkRates ℚ :=
  interfaceRates 0 exactRate (MacosSystemCollector.after run)
    (interfaceByteTotals sample.interfaces) sample.sampledAt

namespace Interfaces

/-- What is read for an interface, if it is listed and its counters can be read. -/
def counters? (i : Interfaces) (index : Nat) : Option Counters := (i.entries.lookup index).join

def value (measure : Counters → Nat) (counters : Option Counters) : Nat := counters.elim 0 measure

def indices (i : Interfaces) : Finset Nat := (i.entries.map Prod.fst).toFinset

def total (i : Interfaces) (measure : Counters → Nat) : Nat :=
  ∑ index∈i.indices, value measure (i.counters? index)

/-- The increments of the interfaces that are read in both samples. -/
def commonIncrements (base : Interfaces) (measure : Counters → Nat) (current : Interfaces) : Nat :=
  ∑ index∈current.indices,
    match base.counters? index,current.counters? index with
    | some old,some new => measure new-measure old
    | _,_ => 0

/-- The counters of the interfaces that are read now and were not read before. -/
def newcomers (base : Interfaces) (measure : Counters → Nat) (current : Interfaces) : Nat :=
  ∑ index∈current.indices,
    match base.counters? index with
    | some _ => 0
    | none => value measure (current.counters? index)

end Interfaces

/-- The last sample of a run whose interfaces were listed, and its time. -/
def lastRead (run : List Sample) : Option (Interfaces × Nat) :=
  run.foldl (fun last sample =>
    match sample.interfaces with
    | .ok interfaces => some (interfaces,sample.sampledAt)
    | .error _ => last) none

/-- A native rate is no more, over the time it is for, than the increments of the interfaces
that were read in both samples. -/
def Truthful (run : List Sample) (sample : Sample) : Prop :=
  ∀ snapshot warnings, ((published run sample snapshot warnings).quality.bind
      SystemMetricQuality.network).map MetricQualityInfo.quality=some .native →
    ∃ base time current, lastRead run=some (base,time) ∧ sample.interfaces=.ok current ∧
      (exactRates run sample).receivedBps*(((sample.sampledAt-time : Nat) : ℚ)/10^9) ≤
        base.commonIncrements Counters.received current ∧
      (exactRates run sample).transmittedBps*(((sample.sampledAt-time : Nat) : ℚ)/10^9) ≤
        base.commonIncrements Counters.transmitted current

/-- The totals went back in one direction. -/
def Regressed (base current : Interfaces) : Prop :=
  (byteTotals current).1 < (byteTotals base).1 ∨ (byteTotals current).2 < (byteTotals base).2

/-- What comes in is no more than what is gone, in each direction, or the sample is held. -/
def Covered (run : List Sample) (sample : Sample) : Prop :=
  ∀ base time current, lastRead run=some (base,time) → sample.interfaces=.ok current →
    Regressed base current ∨ ∀ measure∈[Counters.received,Counters.transmitted],
      base.newcomers measure current ≤ current.newcomers measure base

section Sums
variable {measure : Counters → Nat} {base current : Interfaces}

theorem lookup_of_mem {entries : List (Nat × Option Counters)}
    (hdistinct : (entries.map Prod.fst).Nodup) {entry : Nat × Option Counters}
    (h : entry∈entries) : entries.lookup entry.1=some entry.2 := by
  induction entries with
  | nil => cases h
  | cons first entries ih =>
    rw [List.map_cons,List.nodup_cons] at hdistinct
    cases List.mem_cons.mp h with
    | inl heq =>
      subst heq
      exact List.lookup_cons_self
    | inr hmem =>
      have hne : entry.1≠first.1 := fun heq => hdistinct.1 (heq ▸ List.mem_map_of_mem hmem)
      rw [List.lookup_cons,beq_eq_false_iff_ne.mpr hne]
      exact ih hdistinct.2 hmem

namespace Interfaces

theorem counters?_of_notMem {i : Interfaces} {index : Nat} (h : index∉i.indices) :
    i.counters? index=none := by
  rw [counters?,List.lookup_eq_none_iff.mpr]
  · rfl
  · intro entry hentry
    rw [indices,List.mem_toFinset] at h
    rw [bne_iff_ne]
    exact fun heq => h (heq ▸ List.mem_map_of_mem hentry)

theorem sum_entries (i : Interfaces) :
    (i.entries.map (fun entry => value measure entry.2)).sum=i.total measure := by
  rw [total,indices,List.sum_toFinset _ i.distinct,List.map_map]
  refine congrArg List.sum (List.map_congr_left ?_)
  intro entry hentry
  rw [Function.comp_apply,counters?,lookup_of_mem i.distinct hentry]
  rfl

/-- A sum over listed interfaces may run over more of them. -/
theorem total_eq_sum {i : Interfaces} {all : Finset Nat} (h : i.indices⊆all) :
    i.total measure=∑ index∈all, value measure (i.counters? index) := by
  refine Finset.sum_subset h ?_
  intro index _ hnot
  rw [counters?_of_notMem hnot]
  rfl

theorem commonIncrements_eq_sum {all : Finset Nat} (h : current.indices⊆all) :
    base.commonIncrements measure current=∑ index∈all,
      match base.counters? index,current.counters? index with
      | some old,some new => measure new-measure old
      | _,_ => 0 := by
  refine Finset.sum_subset h ?_
  intro index _ hnot
  rw [counters?_of_notMem hnot]
  cases base.counters? index <;> rfl

theorem newcomers_eq_sum {all : Finset Nat} (h : current.indices⊆all) :
    base.newcomers measure current=∑ index∈all,
      match base.counters? index with
      | some _ => 0
      | none => value measure (current.counters? index) := by
  refine Finset.sum_subset h ?_
  intro index _ hnot
  rw [counters?_of_notMem hnot]
  cases base.counters? index <;> rfl

/-- What the interfaces hold now and what has gone, they held before, or counted since, or came
in with. -/
theorem total_balance (measure : Counters → Nat) (base current : Interfaces) :
    current.total measure+current.newcomers measure base+current.commonIncrements measure base=
      base.total measure+base.newcomers measure current+base.commonIncrements measure current := by
  have hcurrent : current.indices⊆current.indices∪base.indices := Finset.subset_union_left
  have hbase : base.indices⊆current.indices∪base.indices := Finset.subset_union_right
  rw [total_eq_sum hcurrent,total_eq_sum hbase,newcomers_eq_sum hcurrent,newcomers_eq_sum hbase,
    commonIncrements_eq_sum hcurrent,commonIncrements_eq_sum hbase,← Finset.sum_add_distrib,
    ← Finset.sum_add_distrib,← Finset.sum_add_distrib,← Finset.sum_add_distrib]
  refine Finset.sum_congr rfl ?_
  intro index _
  cases base.counters? index with
  | none => cases current.counters? index <;> simp [value]
  | some old =>
    cases current.counters? index with
    | none => simp [value]
    | some new =>
      simp only [value,Option.elim_some]
      omega

/-- No interface that is read in both samples went back. -/
def NeverDecrease (base current : Interfaces) : Prop :=
  ∀ measure∈[Counters.received,Counters.transmitted], ∀ index old new,
    base.counters? index=some old → current.counters? index=some new → measure old ≤ measure new

theorem commonIncrements_eq_zero (hmeasure : measure∈[Counters.received,Counters.transmitted])
    (h : NeverDecrease base current) : current.commonIncrements measure base=0 := by
  refine Finset.sum_eq_zero ?_
  intro index _
  cases hold : base.counters? index with
  | none => cases current.counters? index <;> rfl
  | some old =>
    cases hnew : current.counters? index with
    | none => rfl
    | some new => exact Nat.sub_eq_zero_of_le (h measure hmeasure index old new hold hnew)

end Interfaces

theorem foldl_addInterface (entries : List (Nat × Option Counters)) (received transmitted : Nat) :
    entries.foldl addInterface (min received u64Max,min transmitted u64Max)=
      (min (received+(entries.map (fun entry =>
          Interfaces.value Counters.received entry.2)).sum) u64Max,
        min (transmitted+(entries.map (fun entry =>
          Interfaces.value Counters.transmitted entry.2)).sum) u64Max) := by
  induction entries generalizing received transmitted with
  | nil => simp
  | cons entry entries ih =>
    rw [List.foldl_cons,addInterface]
    cases hread : entry.2 with
    | none => simp [ih,hread,Interfaces.value]
    | some counters =>
      simp only [satAdd_min,ih,List.map_cons,List.sum_cons,hread,Interfaces.value,
        Option.elim_some,Nat.add_assoc]

/-- The totals are the saturating sums over the interfaces that can be read. -/
theorem byteTotals_eq (i : Interfaces) : byteTotals i=
    (min (i.total Counters.received) u64Max,min (i.total Counters.transmitted) u64Max) := by
  have h := foldl_addInterface i.entries 0 0
  rw [Interfaces.sum_entries,Interfaces.sum_entries,Nat.zero_min,Nat.zero_add,Nat.zero_add] at h
  exact h

/-- Where what comes in is covered, totals go up by no more than the common increments. -/
theorem saturated_sub_le (h : base.newcomers measure current ≤ current.newcomers measure base) :
    min (current.total measure) u64Max-min (base.total measure) u64Max ≤
      base.commonIncrements measure current := by
  have hbalance := Interfaces.total_balance measure base current
  omega

end Sums

section Runs
variable {run : List Sample} {sample : Sample}

theorem after_snoc (run : List Sample) (sample : Sample) :
    MacosSystemCollector.after (run++[sample])=(MacosSystemCollector.after run).replace
      (interfaceByteTotals sample.interfaces) sample.sampledAt := by
  rw [MacosSystemCollector.after,List.foldl_append]
  rfl

theorem lastRead_snoc (run : List Sample) (sample : Sample) :
    lastRead (run++[sample])=match sample.interfaces with
      | .ok interfaces => some (interfaces,sample.sampledAt)
      | .error _ => lastRead run := by
  rw [lastRead,List.foldl_append]
  rfl

def NetworkBaseline.of (read : Interfaces × Nat) : NetworkBaseline :=
  ⟨(byteTotals read.1).1,(byteTotals read.1).2,read.2⟩

/-- The baseline of a collector is the last sample that listed its interfaces. -/
theorem lastNetwork_after (run : List Sample) :
    (MacosSystemCollector.after run).lastNetwork=(lastRead run).map NetworkBaseline.of := by
  induction run using List.reverseRecOn with
  | nil => rfl
  | append_singleton run sample ih =>
    rw [after_snoc,lastRead_snoc]
    cases sample.interfaces with
    | ok interfaces => rfl
    | error error => exact ih

theorem published_quality (run : List Sample) (sample : Sample) (snapshot : SystemMetricsSnapshot)
    (warnings : List String) :
    (published run sample snapshot warnings).quality.bind SystemMetricQuality.network=
      some (exactRates run sample).quality := by
  have hsame : (interfaceRates 0 networkRate (MacosSystemCollector.after run)
      (interfaceByteTotals sample.interfaces) sample.sampledAt).quality=
      (exactRates run sample).quality := by
    rw [exactRates]
    unfold interfaceRates
    split
    · rfl
    · split <;> rfl
    · rfl
  exact congrArg some hsame

/-- Native rates belong to totals that did not go back since the baseline. -/
theorem native_cases (h : (exactRates run sample).quality.quality=.native) :
    ∃ base time current, lastRead run=some (base,time) ∧ sample.interfaces=.ok current ∧
      ¬Regressed base current ∧
      (exactRates run sample).receivedBps=
        exactRate ((byteTotals current).1-(byteTotals base).1) sample.sampledAt time ∧
      (exactRates run sample).transmittedBps=
        exactRate ((byteTotals current).2-(byteTotals base).2) sample.sampledAt time := by
  unfold exactRates interfaceRates at h ⊢
  rw [lastNetwork_after] at h ⊢
  cases hinterfaces : sample.interfaces with
  | error error => simp [hinterfaces,interfaceByteTotals,Except.map,MetricQualityInfo.new,
      MetricQualityInfo.withLimitation] at h
  | ok current =>
    cases hlast : lastRead run with
    | none => simp [hinterfaces,hlast,interfaceByteTotals,Except.map,pendingRates,
        MetricQualityInfo.new,MetricQualityInfo.withLimitation] at h
    | some read =>
      obtain ⟨base,time⟩ := read
      by_cases hregressed : Regressed base current
      · simp only [Regressed] at hregressed
        simp [hinterfaces,hlast,interfaceByteTotals,Except.map,NetworkBaseline.of,hregressed,
          pendingRates,MetricQualityInfo.new,MetricQualityInfo.withLimitation] at h
      · refine ⟨base,time,current,rfl,rfl,hregressed,?_⟩
        simp only [Regressed] at hregressed
        simp [interfaceByteTotals,Except.map,NetworkBaseline.of,hregressed]

theorem exactRate_mul_le (delta later earlier : Nat) :
    exactRate delta later earlier*(((later-earlier : Nat) : ℚ)/10^9) ≤ delta := by
  have hle : ((later-earlier : Nat) : ℚ)/10^9 ≤ max (((later-earlier : Nat) : ℚ)/10^9) (1/1000) :=
    le_max_left _ _
  have hpos : (0:ℚ) < max (((later-earlier : Nat) : ℚ)/10^9) (1/1000) :=
    lt_max_of_lt_right (by norm_num)
  rw [exactRate,div_mul_eq_mul_div]
  exact div_le_of_le_mul₀ hpos.le (Nat.cast_nonneg _)
    (mul_le_mul_of_nonneg_left hle (Nat.cast_nonneg _))

theorem truthful_of_covered (h : Covered run sample) : Truthful run sample := by
  intro snapshot warnings hnative
  rw [published_quality,Option.map_some,Option.some.injEq] at hnative
  obtain ⟨base,time,current,hlast,hinterfaces,hregressed,hreceived,htransmitted⟩ :=
    native_cases hnative
  have hcovered := (h base time current hlast hinterfaces).resolve_left hregressed
  have hsteps : ∀ measure∈[Counters.received,Counters.transmitted],
      min (current.total measure) u64Max-min (base.total measure) u64Max ≤
        base.commonIncrements measure current :=
    fun measure hmeasure => saturated_sub_le (hcovered measure hmeasure)
  refine ⟨base,time,current,hlast,hinterfaces,?_,?_⟩
  · rw [hreceived,byteTotals_eq,byteTotals_eq]
    exact (exactRate_mul_le _ _ _).trans (Nat.cast_le.mpr (hsteps _ (by simp)))
  · rw [htransmitted,byteTotals_eq,byteTotals_eq]
    exact (exactRate_mul_le _ _ _).trans (Nat.cast_le.mpr (hsteps _ (by simp)))

theorem native_of_not_regressed {base current : Interfaces} {time : Nat}
    (hlast : lastRead run=some (base,time)) (hinterfaces : sample.interfaces=.ok current)
    (hregressed : ¬Regressed base current) : (exactRates run sample).quality.quality=.native := by
  unfold exactRates interfaceRates
  simp only [Regressed] at hregressed
  rw [lastNetwork_after,hlast,hinterfaces]
  simp [interfaceByteTotals,Except.map,NetworkBaseline.of,hregressed,MetricQualityInfo.new]

theorem mem_of_lastRead {base : Interfaces} {time : Nat} (h : lastRead run=some (base,time)) :
    ∃ sample∈run, sample.interfaces=.ok base ∧ sample.sampledAt=time := by
  induction run using List.reverseRecOn with
  | nil => cases h
  | append_singleton run sample ih =>
    rw [lastRead_snoc] at h
    cases hinterfaces : sample.interfaces with
    | ok interfaces =>
      rw [hinterfaces,Option.some.injEq,Prod.mk.injEq] at h
      exact ⟨sample,by simp,by rw [hinterfaces,h.1],h.2⟩
    | error error =>
      rw [hinterfaces] at h
      obtain ⟨earlier,hmem,hearlier⟩ := ih h
      exact ⟨earlier,List.mem_append_left _ hmem,hearlier⟩

/-- Times go up and no counter of an interface ever goes down. -/
def Honest (run : List Sample) : Prop :=
  run.Pairwise (fun a b => a.sampledAt < b.sampledAt ∧ ∀ base current,
    a.interfaces=.ok base → b.interfaces=.ok current → base.NeverDecrease current)

/-- Samples are a millisecond apart and no total saturates. -/
structure Measured (run : List Sample) : Prop where
  apart : run.Pairwise (fun a b => a.sampledAt+10^6 ≤ b.sampledAt)
  fits : ∀ sample∈run, ∀ interfaces, sample.interfaces=.ok interfaces →
    ∀ measure∈[Counters.received,Counters.transmitted], interfaces.total measure ≤ u64Max

theorem exactRate_mul (delta later earlier : Nat) (h : earlier+10^6 ≤ later) :
    exactRate delta later earlier*(((later-earlier : Nat) : ℚ)/10^9)=delta := by
  have hnanos : (10^6 : ℚ) ≤ ((later-earlier : Nat) : ℚ) := by
    have hle : 10^6 ≤ later-earlier := by omega
    exact_mod_cast hle
  have hfloor : (1/1000 : ℚ) ≤ ((later-earlier : Nat) : ℚ)/10^9 := by
    rw [le_div_iff₀ (by norm_num)]
    linarith
  rw [exactRate,max_eq_left hfloor]
  exact div_mul_cancel₀ _ (by linarith)

def idleSnapshot : SystemMetricsSnapshot :=
  ⟨0.0,0.0,[],0,0,none,none,none,0,0,0,0,0,0,0,0,0,none,none⟩

/-- The condition is met wherever a rate that can be measured is true. -/
theorem covered_of_truthful {base current : Interfaces} {time : Nat} (h : Truthful run sample)
    (hlast : lastRead run=some (base,time)) (hinterfaces : sample.interfaces=.ok current)
    (hdecrease : base.NeverDecrease current) (htime : time+10^6 ≤ sample.sampledAt)
    (hbase : ∀ measure∈[Counters.received,Counters.transmitted], base.total measure ≤ u64Max)
    (hcurrent : ∀ measure∈[Counters.received,Counters.transmitted],
      current.total measure ≤ u64Max) :
    Regressed base current ∨ ∀ measure∈[Counters.received,Counters.transmitted],
      base.newcomers measure current ≤ current.newcomers measure base := by
  by_cases hregressed : Regressed base current
  · exact .inl hregressed
  · right
    have hnative := native_of_not_regressed hlast hinterfaces hregressed
    obtain ⟨base',time',current',hlast',hinterfaces',_,hreceived,htransmitted⟩ :=
      native_cases hnative
    obtain ⟨base'',time'',current'',hlast'',hinterfaces'',hleReceived,hleTransmitted⟩ :=
      h idleSnapshot [] (by rw [published_quality,Option.map_some,hnative])
    rw [hlast] at hlast' hlast''
    rw [hinterfaces] at hinterfaces' hinterfaces''
    cases hlast'
    cases hlast''
    cases hinterfaces'
    cases hinterfaces''
    rw [hreceived,exactRate_mul _ _ _ htime,Nat.cast_le,byteTotals_eq,byteTotals_eq]
      at hleReceived
    rw [htransmitted,exactRate_mul _ _ _ htime,Nat.cast_le,byteTotals_eq,byteTotals_eq]
      at hleTransmitted
    rw [Regressed,not_or,byteTotals_eq,byteTotals_eq] at hregressed
    have hstep : ∀ measure∈[Counters.received,Counters.transmitted],
        ¬min (current.total measure) u64Max < min (base.total measure) u64Max →
        min (current.total measure) u64Max-min (base.total measure) u64Max ≤
          base.commonIncrements measure current →
        base.newcomers measure current ≤ current.newcomers measure base := by
      intro measure hmeasure hup hle
      have hbalance := Interfaces.total_balance measure base current
      have hzero := Interfaces.commonIncrements_eq_zero hmeasure hdecrease
      have hb := hbase measure hmeasure
      have hc := hcurrent measure hmeasure
      omega
    rw [List.forall_mem_cons,List.forall_mem_singleton]
    exact ⟨hstep _ (by simp) hregressed.1 hleReceived,hstep _ (by simp) hregressed.2 hleTransmitted⟩

end Runs

/-- A property of every sample of a run, after the samples before it. -/
def AllSteps (P : List Sample → Sample → Prop) (run : List Sample) : Prop :=
  ∀ front sample back, run=front++sample::back → P front sample

/-- Rates are true wherever the interfaces that come in are covered by those that are gone, and
in a measured run nowhere else. -/
theorem truthful_iff_covered (run : List Sample) :
    (AllSteps Covered run → AllSteps Truthful run) ∧
    (Honest run → Measured run → AllSteps Truthful run → AllSteps Covered run) := by
  constructor
  · intro hcovered front sample back hrun
    exact truthful_of_covered (hcovered front sample back hrun)
  · intro hhonest hmeasured htruthful front sample back hrun base time current hlast hinterfaces
    obtain ⟨earlier,hmem,hbase,htime⟩ := mem_of_lastRead hlast
    have happart := hmeasured.apart
    rw [Honest,hrun,List.pairwise_append] at hhonest
    rw [hrun,List.pairwise_append] at happart
    have hpair := hhonest.2.2 earlier hmem sample List.mem_cons_self
    have hlater := happart.2.2 earlier hmem sample List.mem_cons_self
    have hfirst : earlier∈run := by simp [hrun,hmem]
    have hsecond : sample∈run := by simp [hrun]
    exact covered_of_truthful (htruthful front sample back hrun) hlast hinterfaces
      (hpair.2 base current hbase hinterfaces) (htime ▸ hlater)
      (hmeasured.fits earlier hfirst base hbase) (hmeasured.fits sample hsecond current hinterfaces)

/-- An interface of the route table that goes unread for one sample. -/
def readings (second : Option Counters) : Interfaces where
  entries := [(4,some ⟨100,0⟩),(9,second)]
  distinct := by simp

def unreadRun : List Sample :=
  [⟨.ok (readings (some ⟨1000,0⟩)),0⟩,⟨.ok (readings none),10^9⟩]

def rereadSample : Sample := ⟨.ok (readings (some ⟨1000,0⟩)),2*10^9⟩

theorem readings_neverDecrease (old new : Option Counters)
    (h : ∀ a b, old=some a → new=some b → a=b) : (readings old).NeverDecrease (readings new) := by
  intro measure _ index a b ha hb
  have hlookup : ∀ c, (readings c).counters? index=
      if index=4 then some ⟨100,0⟩ else if index=9 then c else none := by
    intro c
    by_cases hfour : index=4
    · simp [Interfaces.counters?,readings,hfour]
    · by_cases hnine : index=9
      · simp [Interfaces.counters?,readings,List.lookup_cons,hnine]
      · have hne4 : (index==4)=false := beq_eq_false_iff_ne.mpr hfour
        have hne9 : (index==9)=false := beq_eq_false_iff_ne.mpr hnine
        simp [Interfaces.counters?,readings,List.lookup_cons,hfour,hnine,hne4,hne9]
  rw [hlookup] at ha hb
  split at ha
  · next hfour =>
    rw [if_pos hfour] at hb
    cases ha
    cases hb
    exact Nat.le_refl _
  · next hfour =>
    rw [if_neg hfour] at hb
    split at ha
    · next hnine =>
      rw [if_pos hnine] at hb
      rw [h a b ha hb]
    · cases ha

theorem unreadRun_honest : Honest (unreadRun++[rereadSample]) := by
  simp only [Honest,unreadRun,rereadSample,List.cons_append,List.nil_append,List.pairwise_cons,
    List.mem_cons,List.not_mem_nil,or_false,forall_eq_or_imp,forall_eq,Except.ok.injEq]
  refine ⟨⟨⟨by decide,?_⟩,by decide,?_⟩,⟨by decide,?_⟩,nofun,List.Pairwise.nil⟩
  · intro base current hbase hcurrent
    subst hbase hcurrent
    exact readings_neverDecrease _ _ nofun
  · intro base current hbase hcurrent
    subst hbase hcurrent
    exact readings_neverDecrease _ _ (by simp)
  · intro base current hbase hcurrent
    subst hbase hcurrent
    exact readings_neverDecrease _ _ nofun

/-- The lifetime counter of an interface comes out as a native rate. -/
theorem lifetime_counter_rated :
    ¬∀ run sample, Honest (run++[sample]) → Truthful run sample := by
  intro h
  obtain ⟨base,time,current,hlast,hinterfaces,hreceived,_⟩ :=
    h unreadRun rereadSample unreadRun_honest idleSnapshot [] (by rw [published_quality]; rfl)
  have hread : lastRead unreadRun=some (readings none,10^9) := rfl
  have hcurrent : rereadSample.interfaces=.ok (readings (some ⟨1000,0⟩)) := rfl
  rw [hread] at hlast
  rw [hcurrent] at hinterfaces
  cases hlast
  cases hinterfaces
  have hrate : (exactRates unreadRun rereadSample).receivedBps=exactRate 1000 (2*10^9) (10^9) := rfl
  have hcommon :
      (readings none).commonIncrements Counters.received (readings (some ⟨1000,0⟩))=0 := by
    decide
  rw [hrate,hcommon,show rereadSample.sampledAt=2*10^9 from rfl,
    exactRate_mul _ _ _ (by decide)] at hreceived
  norm_num at hreceived

end BatCave.MacosSystem
