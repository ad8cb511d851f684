import BatCave.LinuxSystem.Collector
import Mathlib.Algebra.Order.Field.Basic
import Mathlib.Algebra.Order.Ring.Rat
import Mathlib.Data.Rat.Cast.Defs
import Mathlib.Tactic.Linarith
import Mathlib.Tactic.NormNum
import Mathlib.Tactic.Ring

/-! What the rates of a device add up to, sample after sample. The rates are taken exactly,
over the rationals; which counters they compare over which time is what the code does. -/
namespace BatCave.LinuxSystem
open BatCave.Contracts BatCave.Lib.Word

inductive IoDirection where
  | read | write
  deriving DecidableEq, Repr

def IoTotals.bytes (t : IoTotals) : IoDirection → Nat
  | .read => t.readTotalBytes
  | .write => t.writeTotalBytes

/-- A reading of the counters, and when it was made. -/
structure Reading where
  result : Except String (Keyed IoTotals)
  sampledAt : Nat

/-- `byte_rate` as exact division. -/
def exactByteRate (current previous : Nat) (elapsedSeconds : ℚ) : ℚ :=
  if current < previous then 0 else ((current-previous : Nat) : ℚ)/max elapsedSeconds (1/1000)

def elapsed (later earlier : Nat) : ℚ := ((later-earlier : Nat) : ℚ)/10^9

section Attribution
variable (device : String) (d : IoDirection)

/-- What a device adds to the rate of a sample. -/
def deviceRate {ρ : Type} [Zero ρ] (rate : Nat → Nat → ρ) (previous current : Keyed IoTotals) : ρ :=
  match previous.get? device,current.get? device with
  | some before,some now => if before.reset now then 0 else rate (now.bytes d) (before.bytes d)
  | _,_ => 0

/-- The bytes a sample attributes to a device: its rate over the time it was taken over. -/
def attributed (previous : Option TimedIoCounters) (r : Reading) : ℚ :=
  match previous,r.result with
  | some previous,.ok counters =>
    let seconds := elapsed r.sampledAt previous.sampledAt
    deviceRate device d (fun current before => exactByteRate current before seconds)
      previous.counters counters*seconds
  | _,_ => 0

/-- The counters a reading leaves for the next. -/
def baseline (previous : Option TimedIoCounters) (r : Reading) : Option TimedIoCounters :=
  (resolveIoSample r.result previous r.sampledAt "").2

def attributedOver (previous : Option TimedIoCounters) : List Reading → ℚ
  | [] => 0
  | r::rest => attributed device d previous r+attributedOver (baseline previous r) rest

/-- From counters `now` on, every successful reading has the device and no counter of it goes
back; the last of them has `last`. -/
def Unbroken (now : IoTotals) : List Reading → IoTotals → Prop
  | [],last => last=now
  | r::rest,last =>
    match r.result with
    | .error _ => Unbroken now rest last
    | .ok counters => ∃ next, counters.get? device=some next ∧ now.reset next=false ∧
        Unbroken next rest last

/-- Where the counter has grown, at least a millisecond went by since the successful reading
before. -/
def Spaced (readAt : Nat) (now : IoTotals) : List Reading → Prop
  | [] => True
  | r::rest =>
    match r.result with
    | .error _ => Spaced readAt now rest
    | .ok counters => ∀ next, counters.get? device=some next →
        (next.bytes d=now.bytes d ∨ 10^6 ≤ r.sampledAt-readAt) ∧ Spaced r.sampledAt next rest

/-- The device is new to the sample, or a counter of it has gone back. -/
def Begins (previous : Option TimedIoCounters) (counters : Keyed IoTotals) : Prop :=
  ∀ p before now, previous=some p → p.counters.get? device=some before →
    counters.get? device=some now → before.reset now=true

end Attribution

/-- The counters of the latest successful reading. -/
def latest (first : Option (Keyed IoTotals)) (readings : List Reading) : Option (Keyed IoTotals) :=
  readings.foldl (fun last r => match r.result with
    | .ok counters => some counters
    | .error _ => last) first

def baselineAfter (previous : Option TimedIoCounters) (readings : List Reading) :
    Option TimedIoCounters := readings.foldl baseline previous

section Shares

theorem millisecond_le {later earlier : Nat} :
    1/1000 ≤ elapsed later earlier ↔ 10^6 ≤ later-earlier := by
  have hcast : ((10^6 : Nat) : ℚ)=1/1000*10^9 := by norm_num
  rw [elapsed,le_div_iff₀ (by norm_num),← hcast,Nat.cast_le]

/-- Over a millisecond the growth is attributed in full, over less only its share. -/
theorem share_le (growth : Nat) (s : ℚ) :
    (growth : ℚ)/max s (1/1000)*s ≤ growth ∧
      ((growth : ℚ)/max s (1/1000)*s=growth ↔ growth=0 ∨ 1/1000 ≤ s) := by
  by_cases hlong : 1/1000 ≤ s
  · have hpos : s≠0 := by
      intro h
      rw [h] at hlong
      norm_num at hlong
    rw [max_eq_left hlong,div_mul_cancel₀ _ hpos]
    exact ⟨le_refl _,fun _ => .inr hlong,fun _ => rfl⟩
  · have hshort : s < 1/1000 := not_le.1 hlong
    rw [max_eq_right hshort.le]
    have hshare : (growth : ℚ)/(1/1000)*s=growth*(1000*s) := by ring
    have hgrowth : (0 : ℚ) ≤ growth := Nat.cast_nonneg growth
    have hpart : 1000*s < 1 := by linarith
    rw [hshare]
    constructor
    · exact mul_le_of_le_one_right hgrowth hpart.le
    · constructor
      · intro h
        left
        by_contra hne
        have hsome : (0 : ℚ) < growth := Nat.cast_pos.2 (Nat.pos_of_ne_zero hne)
        have hless : (growth : ℚ)*(1000*s) < growth*1 := mul_lt_mul_of_pos_left hpart hsome
        linarith
      · intro h
        cases h with
        | inl h =>
          rw [h]
          simp
        | inr h => exact absurd h hlong

variable {device : String} {d : IoDirection}

theorem bytes_le {before now : IoTotals} (h : before.reset now=false) (d : IoDirection) :
    before.bytes d ≤ now.bytes d := by
  simp only [IoTotals.reset,Bool.or_eq_false_iff,decide_eq_false_iff_not,not_lt] at h
  cases d with
  | read => exact h.1
  | write => exact h.2

/-- What a device that is still there contributes is at most its growth, and all of it where
the counter stood still or a millisecond went by. -/
theorem attributed_step {counters current : Keyed IoTotals} {before now : IoTotals}
    (d : IoDirection) (at₀ at₁ : Nat) (hbefore : counters.get? device=some before)
    (hnow : current.get? device=some now) (hkept : before.reset now=false) :
    attributed device d (some ⟨counters,at₀⟩) ⟨.ok current,at₁⟩ ≤
        (now.bytes d : ℚ)-before.bytes d ∧
      (attributed device d (some ⟨counters,at₀⟩) ⟨.ok current,at₁⟩=
          (now.bytes d : ℚ)-before.bytes d ↔
        now.bytes d=before.bytes d ∨ 10^6 ≤ at₁-at₀) := by
  have hle := bytes_le hkept d
  have hgrowth : ((now.bytes d-before.bytes d : Nat) : ℚ)=(now.bytes d : ℚ)-before.bytes d :=
    Nat.cast_sub hle
  have hvalue : attributed device d (some ⟨counters,at₀⟩) ⟨.ok current,at₁⟩=
      ((now.bytes d-before.bytes d : Nat) : ℚ)/max (elapsed at₁ at₀) (1/1000)*elapsed at₁ at₀ := by
    simp only [attributed,deviceRate,hbefore,hnow,hkept,exactByteRate,Bool.false_eq_true,
      if_false,if_neg (Nat.not_lt.2 hle)]
  have hshare := share_le (now.bytes d-before.bytes d) (elapsed at₁ at₀)
  rw [hvalue,← hgrowth,hshare.2,millisecond_le]
  refine ⟨hshare.1,?_⟩
  have hzero : now.bytes d-before.bytes d=0 ↔ now.bytes d=before.bytes d := by omega
  rw [hzero]

theorem baseline_ok (previous : Option TimedIoCounters) (counters : Keyed IoTotals)
    (sampledAt : Nat) : baseline previous ⟨.ok counters,sampledAt⟩=some ⟨counters,sampledAt⟩ := rfl

theorem baseline_error (previous : Option TimedIoCounters) (error : String) (sampledAt : Nat) :
    baseline previous ⟨.error error,sampledAt⟩=previous := by
  cases previous with
  | none => rfl
  | some p => rfl

theorem attributed_error (previous : Option TimedIoCounters) (error : String) (sampledAt : Nat) :
    attributed device d previous ⟨.error error,sampledAt⟩=0 := by
  cases previous with
  | none => rfl
  | some p => rfl

/-- Over a period the device is attributed at most its growth, and all of it exactly where
every growth was measured over a millisecond. -/
theorem attributedOver_unbroken {counters : Keyed IoTotals} {now last : IoTotals}
    (readAt : Nat) {rest : List Reading} (hnow : counters.get? device=some now)
    (hunbroken : Unbroken device now rest last) :
    attributedOver device d (some ⟨counters,readAt⟩) rest ≤ (last.bytes d : ℚ)-now.bytes d ∧
      (attributedOver device d (some ⟨counters,readAt⟩) rest=(last.bytes d : ℚ)-now.bytes d ↔
        Spaced device d readAt now rest) := by
  induction rest generalizing counters now readAt with
  | nil =>
    have hlast : last=now := hunbroken
    rw [hlast]
    simp [attributedOver,Spaced]
  | cons r rest ih =>
    obtain ⟨result,sampledAt⟩ := r
    cases result with
    | error error =>
      rw [attributedOver,attributed_error,baseline_error,zero_add]
      exact ih readAt hnow hunbroken
    | ok current =>
      obtain ⟨next,hnext,hkept,hrest⟩ := hunbroken
      have hstep := attributed_step d readAt sampledAt hnow hnext hkept
      have hperiod := ih sampledAt hnext hrest
      have hspaced : Spaced device d readAt now (⟨.ok current,sampledAt⟩::rest) ↔
          (next.bytes d=now.bytes d ∨ 10^6 ≤ sampledAt-readAt) ∧
            Spaced device d sampledAt next rest := by
        constructor
        · intro h
          exact h next hnext
        · intro h other hother
          rw [hnext] at hother
          cases hother
          exact h
      rw [attributedOver,baseline_ok,hspaced,← hstep.2,← hperiod.2]
      constructor
      · linarith [hstep.1,hperiod.1]
      · constructor
        · intro h
          constructor
          · linarith [hstep.1,hperiod.1]
          · linarith [hstep.1,hperiod.1]
        · intro h
          linarith [h.1,h.2]

/-- A device that is new or was reset contributes nothing. -/
theorem attributed_begins {previous : Option TimedIoCounters} {counters : Keyed IoTotals}
    (h : Begins device previous counters) (sampledAt : Nat) :
    attributed device d previous ⟨.ok counters,sampledAt⟩=0 := by
  cases previous with
  | none => rfl
  | some p =>
    simp only [attributed,deviceRate]
    cases hbefore : p.counters.get? device with
    | none => simp
    | some before =>
      cases hnow : counters.get? device with
      | none => simp
      | some now => simp [h p before now rfl hbefore hnow]

end Shares

section Totals

theorem sumIoTotals_from (counters : List IoTotals) (acc : IoTotals) (d : IoDirection)
    (hacc : acc.bytes d ≤ u64Max) :
    (counters.foldl (fun totals counter =>
      { readTotalBytes := satAdd totals.readTotalBytes counter.readTotalBytes
        writeTotalBytes := satAdd totals.writeTotalBytes counter.writeTotalBytes :
          IoTotals }) acc).bytes d=
      min (acc.bytes d+(counters.map (fun c => c.bytes d)).sum) u64Max := by
  induction counters generalizing acc with
  | nil =>
    rw [List.foldl_nil,List.map_nil,List.sum_nil,Nat.add_zero]
    exact (Nat.min_eq_left hacc).symm
  | cons c counters ih =>
    have hstep : (IoTotals.mk (satAdd acc.readTotalBytes c.readTotalBytes)
        (satAdd acc.writeTotalBytes c.writeTotalBytes)).bytes d=
          satAdd (acc.bytes d) (c.bytes d) := by
      cases d with
      | read => rfl
      | write => rfl
    have hle : satAdd (acc.bytes d) (c.bytes d) ≤ u64Max := Nat.min_le_right _ _
    rw [List.foldl_cons,ih _ (hstep ▸ hle),hstep,List.map_cons,List.sum_cons,satAdd]
    omega

theorem sumIoTotals_bytes (counters : List IoTotals) (d : IoDirection) :
    (sumIoTotals counters).bytes d=min (counters.map (fun c => c.bytes d)).sum u64Max := by
  have hzero : ({} : IoTotals).bytes d=0 := by
    cases d with
    | read => rfl
    | write => rfl
  have hle : ({} : IoTotals).bytes d ≤ u64Max := by
    rw [hzero]
    exact Nat.zero_le _
  have hsum := sumIoTotals_from counters {} d hle
  rw [hzero,Nat.zero_add] at hsum
  exact hsum

theorem baselineAfter_counters (previous : Option TimedIoCounters) (readings : List Reading) :
    (baselineAfter previous readings).map TimedIoCounters.counters=
      latest (previous.map TimedIoCounters.counters) readings := by
  induction readings generalizing previous with
  | nil => rfl
  | cons r readings ih =>
    obtain ⟨result,sampledAt⟩ := r
    have hcons : baselineAfter previous (⟨result,sampledAt⟩::readings)=
        baselineAfter (baseline previous ⟨result,sampledAt⟩) readings := rfl
    rw [hcons,ih]
    cases result with
    | error error =>
      rw [baseline_error]
      rfl
    | ok counters => rfl

/-- The totals a sample reports are those of the latest counters that were read. -/
theorem reported_totals (readings : List Reading) (r : Reading) (initialMessage : String)
    (d : IoDirection) :
    (resolveIoSample r.result (baselineAfter none readings) r.sampledAt initialMessage).1.1.bytes d=
      min (((latest none (readings++[r])).elim [] Keyed.values).map (fun c => c.bytes d)).sum
        u64Max := by
  have hlatest := baselineAfter_counters none readings
  rw [Option.map_none] at hlatest
  have hsnoc : latest none (readings++[r])=(match r.result with
      | .ok counters => some counters
      | .error _ => latest none readings) := by
    rw [latest,List.foldl_append]
    rfl
  rw [hsnoc,← hlatest]
  cases hresult : r.result with
  | ok counters =>
    simp only [resolveIoSample,Option.elim_some]
    exact sumIoTotals_bytes counters.values d
  | error error =>
    cases hprevious : baselineAfter none readings with
    | none => exact sumIoTotals_bytes [] d
    | some p =>
      simp only [resolveIoSample,Option.map_some,Option.elim_some]
      exact sumIoTotals_bytes p.counters.values d

end Totals

section Rates

theorem Keyed.get?_of_mem {α : Type} (m : Keyed α) {e : String × α} (he : e∈m.entries) :
    m.get? e.1=some e.2 := by
  obtain ⟨entries,hsorted⟩ := m
  change entries.lookup e.1=some e.2
  induction entries with
  | nil => cases he
  | cons a entries ih =>
    rw [List.pairwise_cons] at hsorted
    rw [List.lookup_cons]
    cases List.mem_cons.1 he with
    | inl ha =>
      rw [ha]
      simp
    | inr hrest =>
      have hne : e.1≠a.1 := by
        intro h
        have hlt := hsorted.1 e hrest
        rw [h] at hlt
        exact String.lt_irrefl _ hlt
      rw [beq_eq_false_iff_ne.2 hne]
      exact ih hsorted.2 hrest

/-- The rate of a direction that the loop has counted. -/
def KeyedRates.bps (r : KeyedRates) : IoDirection → Nat
  | .read => r.readBps
  | .write => r.writeBps

theorem KeyedRates.step_bps (previous : Keyed IoTotals) {current : Keyed IoTotals}
    (seconds : Float) {r : KeyedRates} {e : String × IoTotals} (he : e∈current.entries)
    (d : IoDirection)
    (hr : r.bps d ≤ u64Max) :
    (r.step previous seconds e).bps d=satAdd (r.bps d) (deviceRate e.1 d
      (fun now before => byteRate now before seconds) previous current) := by
  have hnow := current.get?_of_mem he
  have hkept : satAdd (r.bps d) 0=r.bps d := Nat.min_eq_left hr
  cases hbefore : previous.get? e.1 with
  | none =>
    simp only [KeyedRates.step,deviceRate,hbefore,hkept]
    cases d with
    | read => rfl
    | write => rfl
  | some before =>
    by_cases hreset : before.reset e.2=true
    · simp only [KeyedRates.step,deviceRate,hbefore,hnow,hreset,if_true,hkept]
      cases d with
      | read => rfl
      | write => rfl
    · simp only [KeyedRates.step,deviceRate,hbefore,hnow,hreset]
      cases d with
      | read => rfl
      | write => rfl

theorem KeyedRates.foldl_bps (previous : Keyed IoTotals) {current : Keyed IoTotals}
    (seconds : Float) {entries : List (String × IoTotals)}
    (hentries : ∀ e∈entries, e∈current.entries)
    (r : KeyedRates) (d : IoDirection) (hr : r.bps d ≤ u64Max) :
    (entries.foldl (KeyedRates.step previous seconds) r).bps d=
      min (r.bps d+(entries.map (fun e => deviceRate e.1 d
        (fun now before => byteRate now before seconds) previous current)).sum) u64Max := by
  induction entries generalizing r with
  | nil =>
    rw [List.foldl_nil,List.map_nil,List.sum_nil,Nat.add_zero]
    exact (Nat.min_eq_left hr).symm
  | cons e entries ih =>
    have hstep := KeyedRates.step_bps previous seconds
      (hentries e List.mem_cons_self) d hr
    have hle : (r.step previous seconds e).bps d ≤ u64Max := by
      rw [hstep]
      exact Nat.min_le_right _ _
    rw [List.foldl_cons,ih (fun x hx => hentries x (List.mem_cons_of_mem e hx)) _ hle,hstep,
      List.map_cons,List.sum_cons,satAdd]
    omega

/-- The rate of a direction in what `resolve_io_sample` returns. -/
def reportedBps (sample : IoTotals × Nat × Nat × MetricQualityInfo) : IoDirection → Nat
  | .read => sample.2.1
  | .write => sample.2.2.1

/-- The rate a sample reports is the saturating sum of what each of its devices adds. -/
theorem reported_rates (counters : Keyed IoTotals) (previous : TimedIoCounters) (sampledAt : Nat)
    (initialMessage : String) (d : IoDirection) :
    reportedBps (resolveIoSample (.ok counters) (some previous) sampledAt initialMessage).1 d=
      min (counters.entries.map (fun e => deviceRate e.1 d (fun now before =>
        byteRate now before (secondsSince sampledAt previous.sampledAt))
          previous.counters counters)).sum u64Max := by
  have hzero : ({} : KeyedRates).bps d=0 := by
    cases d with
    | read => rfl
    | write => rfl
  have hle : ({} : KeyedRates).bps d ≤ u64Max := by
    rw [hzero]
    exact Nat.zero_le _
  have hall : ∀ e∈counters.entries, e∈counters.entries := fun _ he => he
  have hloop := KeyedRates.foldl_bps previous.counters
    (secondsSince sampledAt previous.sampledAt) hall {} d hle
  rw [hzero,Nat.zero_add] at hloop
  rw [← hloop]
  cases d with
  | read => rfl
  | write => rfl

end Rates

/-- The bytes of a device are conserved, for every device, direction and state of the counters.
Over a period that begins with the device new or reset and in which no counter of it goes back,
failed readings included, it is attributed its last counter less its first exactly where each
growth was measured over a millisecond. A device adds nothing to the sample in which it
appears or resets. The rates that are reported are the saturating sums of what the devices
add, and the totals those of the latest counters that were read. -/
theorem io_conserved (device : String) (d : IoDirection) :
    (∀ previous counters readAt rest first last, counters.get? device=some first →
      Begins device previous counters → Unbroken device first rest last →
      (attributedOver device d previous (⟨.ok counters,readAt⟩::rest)=
        (last.bytes d : ℚ)-first.bytes d ↔ Spaced device d readAt first rest)) ∧
    (∀ previous counters readAt, Begins device previous counters →
      attributed device d previous ⟨.ok counters,readAt⟩=0) ∧
    (∀ counters previous sampledAt initialMessage,
      reportedBps (resolveIoSample (.ok counters) (some previous) sampledAt initialMessage).1 d=
        min (counters.entries.map (fun e => deviceRate e.1 d (fun now before =>
          byteRate now before (secondsSince sampledAt previous.sampledAt))
            previous.counters counters)).sum u64Max) ∧
    (∀ readings r initialMessage,
      (resolveIoSample r.result (baselineAfter none readings) r.sampledAt
          initialMessage).1.1.bytes d=
        min (((latest none (readings++[r])).elim [] Keyed.values).map
          (fun c => c.bytes d)).sum u64Max) := by
  refine ⟨?_,?_,?_,?_⟩
  · intro previous counters readAt rest first last hfirst hbegins hunbroken
    rw [attributedOver,attributed_begins hbegins,zero_add,baseline_ok]
    exact (attributedOver_unbroken readAt hfirst hunbroken).2
  · intro previous counters readAt hbegins
    exact attributed_begins hbegins readAt
  · intro counters previous sampledAt initialMessage
    exact reported_rates counters previous sampledAt initialMessage d
  · intro readings r initialMessage
    exact reported_totals readings r initialMessage d

/-- The counters of one device. -/
def oneDevice (read : Nat) : Keyed IoTotals := ⟨[("sda",⟨read,0⟩)],List.pairwise_singleton _ _⟩

/-- Two readings half a millisecond apart attribute half of what was read between them, so
the bytes are not conserved over every period at times that do not decrease. -/
theorem quick_readings_lose : ¬∀ (device : String) (d : IoDirection)
    (previous : Option TimedIoCounters) (counters : Keyed IoTotals) (readAt : Nat)
    (rest : List Reading) (first last : IoTotals), counters.get? device=some first →
    Begins device previous counters → Unbroken device first rest last →
    (readAt::rest.map Reading.sampledAt).Pairwise (· ≤ ·) →
    attributedOver device d previous (⟨.ok counters,readAt⟩::rest)=
      (last.bytes d : ℚ)-first.bytes d := by
  intro h
  have hunbroken : Unbroken "sda" ⟨0,0⟩ [⟨.ok (oneDevice 1000),500000⟩] ⟨1000,0⟩ :=
    ⟨⟨1000,0⟩,by decide,by decide,rfl⟩
  have hall := h "sda" .read none (oneDevice 0) 0 [⟨.ok (oneDevice 1000),500000⟩] ⟨0,0⟩ ⟨1000,0⟩
    (by decide) (by intro p before now hp; cases hp) hunbroken (by decide)
  have hhalf : attributedOver "sda" .read none
      [⟨.ok (oneDevice 0),0⟩,⟨.ok (oneDevice 1000),500000⟩]=500 := by decide +kernel
  rw [hhalf] at hall
  norm_num [IoTotals.bytes] at hall

end BatCave.LinuxSystem
