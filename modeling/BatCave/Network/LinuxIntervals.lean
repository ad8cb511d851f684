import BatCave.Network.LinuxMonitor

/-! No interval is lost or counted twice. A ledger of the accepted intervals is
kept from the reported events alone, and the monitor's buffers are shown to agree
with it after every step, in any interleaving. -/
namespace BatCave.LinuxNetwork
open BatCave.Lib.Text BatCave.Lib.Word BatCave.Lib.Table BatCave.NetworkAttribution

def bytesOf (p : PendingRates) (dir : Direction) (pid : Nat) : Nat :=
  ((p.bytesByPid dir).lookup pid).getD 0

def mentions (intervals : List PendingRates) (dir : Direction) (pid : Nat) : Bool :=
  intervals.any (fun p => ((p.bytesByPid dir).lookup pid).isSome)

/-- The bytes of a pid over some intervals, as a `u64` that saturates. -/
def totalBytes (intervals : List PendingRates) (dir : Direction) (pid : Nat) : Nat :=
  min (intervals.map (bytesOf · dir pid)).sum u64Max

/-- The accumulator holds these intervals and nothing else. -/
structure CompletedIntervalAccumulator.Holds (c : CompletedIntervalAccumulator)
    (intervals : List PendingRates) : Prop where
  count : c.intervalCount=min intervals.length u64Max
  bytes : ∀ dir pid, (c.bytesByPid dir).lookup pid=
    if mentions intervals dir pid then some (totalBytes intervals dir pid) else none

/-- The rates a sample reports for these intervals: per pid the floor of the bytes
over the number of intervals. -/
def Averages (intervals : List PendingRates) (rates : RatesByProcess) : Prop :=
  ∀ id, rates.lookup id=
    if id.platformGeneration=none ∧
        (mentions intervals .rx id.pid || mentions intervals .tx id.pid)=true then
      some ⟨totalBytes intervals .rx id.pid/min intervals.length u64Max,
        totalBytes intervals .tx id.pid/min intervals.length u64Max⟩
    else none

theorem addDrained_lookup (totals drained : BytesByPid) (pid : Nat) :
    (addDrained totals drained).lookup pid=(drained.lookup pid).elim (totals.lookup pid)
      (fun b => some (satAdd ((totals.lookup pid).getD 0) b)) :=
  foldl_entries drained pid (fun t : BytesByPid => t.lookup pid) _
    (fun old b => some (satAdd (old.getD 0) b))
    (fun _ _ _ hne => AList.lookup_insert_ne (Ne.symm hne))
    (fun _ _ _ => AList.lookup_insert _) totals

theorem setRates_lookup (set : ProcessNetworkRates → Nat → ProcessNetworkRates) (n : Nat)
    (rates : RatesByPid) (drained : BytesByPid) (pid : Nat) :
    (setRates set n rates drained).lookup pid=(drained.lookup pid).elim (rates.lookup pid)
      (fun b => some (set ((rates.lookup pid).getD {}) (averageBytesPerSecond b n))) :=
  foldl_entries drained pid (fun t : RatesByPid => t.lookup pid) _
    (fun old b => some (set (old.getD {}) (averageBytesPerSecond b n)))
    (fun _ _ _ hne => AList.lookup_insert_ne (Ne.symm hne))
    (fun _ _ _ => AList.lookup_insert _) rates

theorem averageBytesPerSecond_eq (bytes n : Nat) (hb : bytes ≤ u64Max) (hn : n ≤ u64Max)
    (hpos : 0 < n) : averageBytesPerSecond bytes n=bytes/n := by
  have hms : min (bpftraceIntervalMs*n) u128Max=1000*n := by
    simp only [bpftraceIntervalMs,u128Max,u64Max] at hn ⊢
    omega
  have hbytes : min (bytes*1000) u128Max=1000*bytes := by
    simp only [u128Max,u64Max] at hb ⊢
    omega
  have hle : bytes/n ≤ u64Max := (Nat.div_le_self _ _).trans hb
  simp only [averageBytesPerSecond,hms,hbytes]
  rw [max_eq_left (by omega),Nat.mul_div_mul_left _ _ (by decide),if_pos hle]

theorem totalBytes_le (intervals : List PendingRates) (dir : Direction) (pid : Nat) :
    totalBytes intervals dir pid ≤ u64Max := min_le_right _ _

theorem totalBytes_of_not_mentions {intervals : List PendingRates} {dir : Direction} {pid : Nat}
    (h : mentions intervals dir pid=false) : totalBytes intervals dir pid=0 := by
  have hz : ∀ x∈intervals.map (bytesOf · dir pid), x=0 := by
    intro x hx
    obtain ⟨p,hp,rfl⟩ := List.mem_map.mp hx
    have hn : (p.bytesByPid dir).lookup pid=none := by
      simpa using List.any_eq_false.mp h p hp
    simp [bytesOf,hn]
  simp [totalBytes,List.sum_eq_zero hz]

theorem totalBytes_snoc (intervals : List PendingRates) (p : PendingRates) (dir : Direction)
    (pid : Nat) : totalBytes (intervals++[p]) dir pid=
      satAdd (totalBytes intervals dir pid) (bytesOf p dir pid) := by
  rw [totalBytes,totalBytes,satAdd_min]
  simp

theorem mentions_snoc (intervals : List PendingRates) (p : PendingRates) (dir : Direction)
    (pid : Nat) : mentions (intervals++[p]) dir pid=
      (mentions intervals dir pid || ((p.bytesByPid dir).lookup pid).isSome) := by
  simp [mentions]

namespace CompletedIntervalAccumulator
variable {c : CompletedIntervalAccumulator} {intervals : List PendingRates}

theorem holds_empty : Holds {} [] := by
  refine ⟨by simp,?_⟩
  intro dir pid
  cases dir <;> rfl

/-- The default of a missing total is the total of a pid no interval mentions. -/
theorem Holds.getD (h : c.Holds intervals) (dir : Direction) (pid : Nat) :
    ((c.bytesByPid dir).lookup pid).getD 0=totalBytes intervals dir pid := by
  rw [h.bytes]
  split
  · rfl
  · next hm => exact (totalBytes_of_not_mentions (by simpa using hm)).symm

theorem push_bytesByPid (p : PendingRates) (dir : Direction) :
    (c.push p).bytesByPid dir=addDrained (c.bytesByPid dir) (p.bytesByPid dir) := by
  cases dir <;> rfl

theorem Holds.push (h : c.Holds intervals) (p : PendingRates) :
    (c.push p).Holds (intervals++[p]) := by
  refine ⟨?_,?_⟩
  · rw [CompletedIntervalAccumulator.push,h.count,satAdd_min]
    simp
  · intro dir pid
    rw [push_bytesByPid,addDrained_lookup,mentions_snoc,totalBytes_snoc,bytesOf]
    cases hp : (p.bytesByPid dir).lookup pid with
    | none =>
      have hz : satAdd (totalBytes intervals dir pid) 0=totalBytes intervals dir pid := by
        have := totalBytes_le intervals dir pid
        simp only [satAdd]
        omega
      simpa [hz] using h.bytes dir pid
    | some b => simp [h.getD]

theorem takeRates_nil (h : c.Holds []) :
    c.takeRates.1=none ∧ c.takeRates.2.Holds [] := by
  have hc : c.intervalCount=0 := by simpa using h.count
  rw [takeRates,if_pos hc]
  refine ⟨rfl,by simp,?_⟩
  intro dir pid
  cases dir with
  | rx => exact h.bytes .rx pid
  | tx => exact h.bytes .tx pid

/-- Draining reports the averages and leaves nothing. -/
theorem takeRates_cons (h : c.Holds intervals) (hne : intervals≠[]) :
    ∃ completed, c.takeRates=(some completed,{}) ∧ ∀ pid, completed.ratesByPid.lookup pid=
      if (mentions intervals .rx pid || mentions intervals .tx pid)=true then
        some ⟨totalBytes intervals .rx pid/min intervals.length u64Max,
          totalBytes intervals .tx pid/min intervals.length u64Max⟩
      else none := by
  have hlen : 0 < min intervals.length u64Max := by
    have hl := List.length_pos_iff.mpr hne
    have hm : 0 < u64Max := by decide
    omega
  have hc : c.intervalCount≠0 := by
    rw [h.count]
    omega
  have havg : ∀ dir pid, averageBytesPerSecond (totalBytes intervals dir pid) c.intervalCount=
      totalBytes intervals dir pid/min intervals.length u64Max := by
    intro dir pid
    rw [h.count]
    exact averageBytesPerSecond_eq _ _ (totalBytes_le _ _ _) (min_le_right _ _) hlen
  have hzero : ∀ dir pid, mentions intervals dir pid=false →
      0=totalBytes intervals dir pid/min intervals.length u64Max := by
    intro dir pid hm
    rw [totalBytes_of_not_mentions hm,Nat.zero_div]
  rw [takeRates,if_neg hc]
  refine ⟨_,rfl,?_⟩
  intro pid
  have hrx : c.receivedByPid.lookup pid=_ := h.bytes .rx pid
  have htx : c.transmittedByPid.lookup pid=_ := h.bytes .tx pid
  rw [setRates_lookup,setRates_lookup,hrx,htx]
  cases hr : mentions intervals .rx pid <;> cases ht : mentions intervals .tx pid
  · simp
  · simp [havg,← hzero _ _ hr]
  · simp [havg,← hzero _ _ ht]
  · simp [havg]

end CompletedIntervalAccumulator

/-- Where the accepted intervals are, told from the events alone: with the samples
that were returned, complete and waiting, or held back until the next one. -/
structure Ledger where
  returned : List (List PendingRates × RatesByProcess) := []
  completed : List PendingRates := []
  quarantined : Option PendingRates := none

namespace Ledger

def record (l : Ledger) : Event → Ledger
  | .accepted interval =>
    {l with
      completed := l.completed++l.quarantined.toList
      quarantined := some interval}
  | .sampled (.ready rates) =>
    {l with
      returned := l.returned++[(l.completed,rates)]
      completed := []}
  | .sampled _ => l

def ofEvents (events : List Event) : Ledger := events.foldl record {}

/-- Every interval the ledger knows of, oldest first. -/
def intervals (l : Ledger) : List PendingRates :=
  l.returned.flatMap Prod.fst++l.completed++l.quarantined.toList

end Ledger

def acceptedIntervals (events : List Event) : List PendingRates :=
  events.filterMap (fun e => match e with
    | .accepted interval => some interval
    | .sampled _ => none)

def IsReady : NetworkAttributionSample → Prop
  | .ready _ => True
  | _ => False

theorem ofEvents_snoc (events : List Event) (e : Event) :
    Ledger.ofEvents (events++[e])=(Ledger.ofEvents events).record e := by
  simp [Ledger.ofEvents]

/-- The ledger loses and repeats nothing, and holds back the newest interval. -/
theorem ledger_intervals (events : List Event) :
    (Ledger.ofEvents events).intervals=acceptedIntervals events ∧
    (Ledger.ofEvents events).quarantined=(acceptedIntervals events).getLast? := by
  induction events using List.reverseRecOn with
  | nil => exact ⟨rfl,rfl⟩
  | append_singleton events e ih =>
    have hacc : acceptedIntervals (events++[e])=
        acceptedIntervals events++acceptedIntervals [e] := List.filterMap_append
    rw [ofEvents_snoc,hacc,← ih.1]
    cases e with
    | accepted interval => simp [Ledger.record,Ledger.intervals,acceptedIntervals]
    | sampled s =>
      have hnil : acceptedIntervals [.sampled s]=[] := rfl
      rw [hnil,List.append_nil,ih.1,← ih.2]
      cases s with
      | ready rates => simp [Ledger.record,← ih.1,Ledger.intervals]
      | _ => exact ⟨ih.1,rfl⟩

/-- The monitor's buffers hold what the ledger says they hold. -/
structure Agrees (m : LinuxNetworkAttributionMonitor) (l : Ledger) : Prop where
  completed : m.shared.completed.Holds l.completed
  quarantined : m.shared.quarantined=l.quarantined
  returned : ∀ x∈l.returned, x.1≠[] ∧ Averages x.1 x.2

def Terminal (s : LinuxNetworkShared) : Prop :=
  s.outputState=.closed ∨ ∃ message, s.outputState=.failed message

namespace LinuxNetworkAttributionMonitor

theorem ratesByProcess_lookup (rates : RatesByPid) (id : ObservedProcessGeneration) :
    (ratesByProcess rates).lookup id=
      if id.platformGeneration=none then rates.lookup id.pid else none := by
  have hn : (rates.entries.map (fun e => (⟨ObservedProcessGeneration.pidOnly e.1,e.2⟩ :
      Sigma (fun _ : ObservedProcessGeneration => ProcessNetworkRates)))).NodupKeys := by
    have hinj : Function.Injective ObservedProcessGeneration.pidOnly :=
      fun a b h => congrArg ObservedProcessGeneration.pid h
    have hk := rates.keys_nodup.map hinj
    rw [AList.keys,List.keys,List.map_map] at hk
    rw [List.NodupKeys,List.keys,List.map_map]
    exact hk
  apply Option.ext
  intro r
  rw [ratesByProcess,lookup_ofList hn,List.mem_map]
  constructor
  · rintro ⟨e,he,heq⟩
    cases heq
    simpa [ObservedProcessGeneration.pidOnly] using AList.mem_lookup_iff.mpr he
  · intro h
    split at h
    · next hp =>
      refine ⟨⟨id.pid,r⟩,AList.mem_lookup_iff.mp h,?_⟩
      obtain ⟨pid,gen⟩ := id
      obtain rfl : gen=none := hp
      rfl
    · simp at h

end LinuxNetworkAttributionMonitor

/-- All that a step can do to the two buffers, with what it reports. -/
inductive Effect (s s' : LinuxNetworkShared) : List Event → Prop where
  | quiet (hc : s'.completed=s.completed) (hq : s'.quarantined=s.quarantined) : Effect s s' []
  | accept (interval : PendingRates) (now : Nat) (h : s'=s.acceptInterval interval now) :
      Effect s s' [.accepted interval]
  | refuse (sample : NetworkAttributionSample) (hs : ¬IsReady sample) (h : s'=s) :
      Effect s s' [.sampled sample]
  | hold (sample : NetworkAttributionSample) (hs : ¬IsReady sample)
      (hn : s.completed.takeRates.1=none)
      (h : s'={s with completed := s.completed.takeRates.2}) : Effect s s' [.sampled sample]
  | deliver (completed : CompletedRates) (hlive : ¬Terminal s)
      (hn : s.completed.takeRates.1=some completed)
      (h : s'={s with completed := s.completed.takeRates.2}) :
      Effect s s' [.sampled (.ready (LinuxNetworkAttributionMonitor.ratesByProcess
        completed.ratesByPid))]

namespace LinuxNetworkAttributionMonitor
variable (m : LinuxNetworkAttributionMonitor)

theorem withLock_effect (f : LinuxNetworkShared → LinuxNetworkShared)
    (hc : ∀ s, (f s).completed=s.completed) (hq : ∀ s, (f s).quarantined=s.quarantined) :
    Effect m.shared (m.withLock f).shared [] := by
  rw [withLock]
  split
  · exact .quiet rfl rfl
  · exact .quiet (hc _) (hq _)

theorem closed_effect : Effect m.shared (m.withLock (·.markReaderClosed)).shared [] := by
  apply withLock_effect <;>
  · intro s
    rw [LinuxNetworkShared.markReaderClosed]
    split <;> rfl

theorem failed_effect (message : String) :
    Effect m.shared (m.withLock (·.markReaderFailed message)).shared [] :=
  m.withLock_effect _ (fun _ => rfl) (fun _ => rfl)

theorem ingest_effect (protocol : ProtocolAssembler) (now : Nat) (text : String) :
    Effect m.shared (m.ingestBpftraceOutputLine protocol now text).1.shared
      (m.ingestBpftraceOutputLine protocol now text).2 := by
  rw [ingestBpftraceOutputLine]
  split
  · exact m.failed_effect _
  · exact .quiet rfl rfl
  · split
    · exact m.failed_effect _
    · exact .accept _ now rfl

theorem read_effect (now : Nat) (outcome : ReadOutcome) :
    Effect m.shared (m.read now outcome).1.shared (m.read now outcome).2 := by
  rw [read]
  split
  · exact .quiet rfl rfl
  · exact .quiet rfl rfl
  · split
    · exact m.closed_effect
    · exact m.failed_effect _
    · split
      · exact m.ingest_effect _ now _
      · dsimp only
        split
        · exact m.failed_effect _
        · exact .quiet rfl rfl

theorem readerFailure_of_terminal {s : LinuxNetworkShared} (h : Terminal s) (now : Nat)
    (outputFinished : Bool) : s.readerFailure now outputFinished≠none := by
  rw [LinuxNetworkShared.readerFailure]
  rcases h with h | ⟨message,h⟩ <;> simp [h]

theorem sample_effect (child : ChildStatus) (now : Nat) (outputFinished : Bool) :
    Effect m.shared (m.sample child now outputFinished).2.shared
      [.sampled (m.sample child now outputFinished).1] := by
  unfold sample
  split
  · exact .refuse _ (by simp [IsReady]) rfl
  split
  · exact .refuse _ (by simp [IsReady]) rfl
  · exact .refuse _ (by simp [IsReady]) rfl
  split
  · exact .refuse _ (by simp [IsReady]) rfl
  split
  · exact .refuse _ (by simp [IsReady]) rfl
  next hf =>
  have hlive : ¬Terminal m.shared := fun ht => readerFailure_of_terminal ht now outputFinished hf
  dsimp only
  split
  · next completed hn => exact .deliver completed hlive hn rfl
  · next hn => split <;> exact .hold _ (by simp [IsReady]) hn rfl

theorem step_effect (a : Action) : Effect m.shared (step m a).1.shared (step m a).2 := by
  cases a with
  | readerStart =>
    rw [step]
    split
    · exact m.withLock_effect _ (fun _ => rfl) (fun _ => rfl)
    · exact .quiet rfl rfl
  | read now outcome => exact m.read_effect now outcome
  | sample child now outputFinished => exact m.sample_effect child now outputFinished
  | shutdown => exact .quiet rfl rfl
  | poison => exact .quiet rfl rfl

end LinuxNetworkAttributionMonitor

theorem averages_of_takeRates {c : CompletedIntervalAccumulator} {intervals : List PendingRates}
    {completed : CompletedRates} (h : c.Holds intervals)
    (hn : c.takeRates.1=some completed) :
    intervals≠[] ∧ c.takeRates.2.Holds [] ∧
      Averages intervals (LinuxNetworkAttributionMonitor.ratesByProcess completed.ratesByPid) := by
  have hne : intervals≠[] := by
    rintro rfl
    rw [(CompletedIntervalAccumulator.takeRates_nil h).1] at hn
    simp at hn
  obtain ⟨completed',ht,hr⟩ := CompletedIntervalAccumulator.takeRates_cons h hne
  rw [ht] at hn ⊢
  obtain rfl : completed'=completed := by simpa using hn
  refine ⟨hne,CompletedIntervalAccumulator.holds_empty,?_⟩
  intro id
  rw [LinuxNetworkAttributionMonitor.ratesByProcess_lookup,hr]
  by_cases hid : id.platformGeneration=none <;> simp [hid]

/-- One step keeps the buffers and the ledger in agreement. -/
theorem Agrees.effect {m m' : LinuxNetworkAttributionMonitor} {l : Ledger} {events : List Event}
    (h : Agrees m l) (he : Effect m.shared m'.shared events) :
    Agrees m' (events.foldl Ledger.record l) := by
  cases he with
  | quiet hc hq => exact ⟨hc ▸ h.completed,hq.trans h.quarantined,h.returned⟩
  | accept interval now hs =>
    refine ⟨?_,by rw [hs]; rfl,h.returned⟩
    have hc := h.completed
    simp only [hs,LinuxNetworkShared.acceptInterval,List.foldl_cons,List.foldl_nil,Ledger.record,
      h.quarantined]
    cases l.quarantined with
    | none => simpa using hc
    | some q => exact hc.push q
  | refuse sample hr hs =>
    have hl : Ledger.record l (.sampled sample)=l := by
      cases sample <;> first | rfl | exact absurd trivial hr
    rw [List.foldl_cons,List.foldl_nil,hl]
    exact ⟨hs ▸ h.completed,hs ▸ h.quarantined,h.returned⟩
  | hold sample hr hn hs =>
    have hl : Ledger.record l (.sampled sample)=l := by
      cases sample <;> first | rfl | exact absurd trivial hr
    rw [List.foldl_cons,List.foldl_nil,hl]
    have hc := h.completed
    have hnil : l.completed=[] := by
      by_contra hne
      obtain ⟨completed,ht,_⟩ := CompletedIntervalAccumulator.takeRates_cons hc hne
      rw [ht] at hn
      simp at hn
    refine ⟨?_,by rw [hs]; exact h.quarantined,h.returned⟩
    rw [hnil] at hc ⊢
    rw [hs]
    exact (CompletedIntervalAccumulator.takeRates_nil hc).2
  | deliver completed hlive hn hs =>
    obtain ⟨hne,hempty,havg⟩ := averages_of_takeRates h.completed hn
    refine ⟨by rw [hs]; exact hempty,by rw [hs]; exact h.quarantined,?_⟩
    intro x hx
    rcases List.mem_append.mp hx with hx | hx
    · exact h.returned x hx
    · rw [List.mem_singleton.mp hx]
      exact ⟨hne,havg⟩

theorem Agrees.run {m : LinuxNetworkAttributionMonitor} {l : Ledger} (h : Agrees m l)
    (actions : List Action) :
    Agrees (run m actions).1 ((run m actions).2.foldl Ledger.record l) := by
  induction actions generalizing m l with
  | nil => exact h
  | cons a actions ih =>
    rw [LinuxNetwork.run,List.foldl_append]
    exact ih (h.effect (m.step_effect a))

/-- How a step moves the reader: once started it is never spawned again, and from
then on its state changes only to a terminal one. -/
structure ReaderMoves (m m' : LinuxNetworkAttributionMonitor) : Prop where
  spawned : m'.reader=.spawned → m.reader=.spawned ∧ m'.shared.outputState=m.shared.outputState
  started : m.reader≠.spawned →
    m'.shared.outputState=m.shared.outputState ∨ Terminal m'.shared

theorem ReaderMoves.same {m m' : LinuxNetworkAttributionMonitor} (hr : m'.reader=m.reader)
    (hs : m'.shared.outputState=m.shared.outputState) : ReaderMoves m m' :=
  ⟨fun h => ⟨hr ▸ h,hs⟩,fun _ => .inl hs⟩

theorem ReaderMoves.of_reading {m m' : LinuxNetworkAttributionMonitor}
    (hr : m'.reader≠.spawned)
    (hs : m'.shared.outputState=m.shared.outputState ∨ Terminal m'.shared) : ReaderMoves m m' :=
  ⟨fun h => absurd h hr,fun _ => hs⟩

namespace LinuxNetworkAttributionMonitor
variable (m : LinuxNetworkAttributionMonitor)

theorem markReaderClosed_terminal (s : LinuxNetworkShared) : Terminal s.markReaderClosed := by
  rw [LinuxNetworkShared.markReaderClosed]
  split
  · next message h => exact .inr ⟨message,h⟩
  · exact .inl rfl

theorem markReaderFailed_terminal (message : String) (s : LinuxNetworkShared) :
    Terminal (s.markReaderFailed message) := .inr ⟨_,rfl⟩

theorem withLock_state (f : LinuxNetworkShared → LinuxNetworkShared)
    (hf : ∀ s, Terminal (f s)) :
    (m.withLock f).shared.outputState=m.shared.outputState ∨ Terminal (m.withLock f).shared := by
  rw [withLock]
  split
  · exact .inl rfl
  · exact .inr (hf _)

theorem withLock_reader (f : LinuxNetworkShared → LinuxNetworkShared) :
    (m.withLock f).reader=m.reader := by
  rw [withLock]
  split <;> rfl

theorem ingest_moves (protocol : ProtocolAssembler) (now : Nat) (text : String) :
    ReaderMoves m (m.ingestBpftraceOutputLine protocol now text).1 := by
  rw [ingestBpftraceOutputLine]
  split
  · exact .of_reading (by simp) (m.withLock_state _ (markReaderFailed_terminal _))
  · exact .of_reading (by simp) (.inl rfl)
  · split
    · exact .of_reading (by simp) (m.withLock_state _ (markReaderFailed_terminal _))
    · exact .of_reading (by simp) (.inl rfl)

theorem read_moves (now : Nat) (outcome : ReadOutcome) :
    ReaderMoves m (m.read now outcome).1 := by
  rw [read]
  split
  · exact .same rfl rfl
  · exact .same rfl rfl
  next hr =>
  split
  · exact .of_reading (by simp) (m.withLock_state _ markReaderClosed_terminal)
  · exact .of_reading (by simp) (m.withLock_state _ (markReaderFailed_terminal _))
  · split
    · exact m.ingest_moves _ now _
    · dsimp only
      split
      · exact .of_reading (by simp [withLock_reader,hr])
          (m.withLock_state _ (markReaderFailed_terminal _))
      · exact .same rfl rfl

/-- A sample touches nothing but the accumulator. -/
theorem sample_frame (child : ChildStatus) (now : Nat) (outputFinished : Bool) :
    ∃ c, (m.sample child now outputFinished).2=
      {m with shared := {m.shared with completed := c}} := by
  unfold sample
  split
  · exact ⟨_,rfl⟩
  split
  · exact ⟨_,rfl⟩
  · exact ⟨_,rfl⟩
  split
  · exact ⟨_,rfl⟩
  split
  · exact ⟨_,rfl⟩
  dsimp only
  split
  · exact ⟨_,rfl⟩
  · split <;> exact ⟨_,rfl⟩

theorem step_moves (a : Action) : ReaderMoves m (step m a).1 := by
  cases a with
  | readerStart =>
    rw [step]
    split
    · next hr => exact ⟨fun h => by simp at h,fun hn => absurd hr hn⟩
    · exact .same rfl rfl
  | read now outcome => exact m.read_moves now outcome
  | sample child now outputFinished =>
    obtain ⟨c,hc⟩ := m.sample_frame child now outputFinished
    rw [step,hc]
    exact .same rfl rfl
  | shutdown => exact .same rfl rfl
  | poison => exact .same rfl rfl

end LinuxNetworkAttributionMonitor

/-- A reader that has not run yet is in its first state. -/
def ReaderOnce (m : LinuxNetworkAttributionMonitor) : Prop :=
  m.reader=.spawned → m.shared.outputState=.starting

theorem ReaderOnce.step {m : LinuxNetworkAttributionMonitor} (h : ReaderOnce m) (a : Action) :
    ReaderOnce (step m a).1 := by
  intro hs
  obtain ⟨hm,he⟩ := (m.step_moves a).spawned hs
  exact he.trans (h hm)

theorem ReaderOnce.run {m : LinuxNetworkAttributionMonitor} (h : ReaderOnce m)
    (actions : List Action) : ReaderOnce (run m actions).1 := by
  induction actions generalizing m with
  | nil => exact h
  | cons a actions ih => exact ih (h.step a)

theorem Terminal.step {m : LinuxNetworkAttributionMonitor} (h : Terminal m.shared)
    (ho : ReaderOnce m) (a : Action) : Terminal (step m a).1.shared := by
  have hr : m.reader≠.spawned := by
    intro hs
    have hstart := ho hs
    rcases h with h | ⟨message,h⟩ <;> simp [h] at hstart
  rcases (m.step_moves a).started hr with hsame | hterm
  · exact h.imp hsame.trans (fun ⟨message,hm⟩ => ⟨message,hsame.trans hm⟩)
  · exact hterm

/-- Once the reader has failed or closed, no sample is ready. -/
theorem Terminal.run {m : LinuxNetworkAttributionMonitor} (h : Terminal m.shared)
    (ho : ReaderOnce m) (actions : List Action) :
    ∀ sample, .sampled sample∈(run m actions).2 → ¬IsReady sample := by
  induction actions generalizing m with
  | nil =>
    intro sample hs
    simp [LinuxNetwork.run] at hs
  | cons a actions ih =>
    intro sample hs
    rw [LinuxNetwork.run,List.mem_append] at hs
    rcases hs with hs | hs
    · have he := m.step_effect a
      generalize (LinuxNetwork.step m a).2=events at he hs
      cases he with
      | quiet => simp at hs
      | accept => simp at hs
      | refuse s' hr =>
        obtain rfl : sample=s' := by simpa using hs
        exact hr
      | hold s' hr =>
        obtain rfl : sample=s' := by simpa using hs
        exact hr
      | deliver completed hlive => exact absurd h hlive
    · exact ih (h.step ho a) (ho.step a) sample hs

/-- Over any interleaving of reader and sampler steps, every accepted interval is in
exactly one place: with one returned sample, in the accumulator, or quarantined.
The newest interval is the quarantined one, every returned sample reports the
averages of its own intervals, and after a terminal reader state nothing is
returned. -/
theorem intervals_counted_once (startedAt : Nat) (actions : List Action) :
    let m := (run (.spawn startedAt) actions).1
    let events := (run (.spawn startedAt) actions).2
    let l := Ledger.ofEvents events
    l.returned.flatMap Prod.fst++l.completed++l.quarantined.toList=acceptedIntervals events ∧
    l.quarantined=(acceptedIntervals events).getLast? ∧
    m.shared.quarantined=l.quarantined ∧
    m.shared.completed.Holds l.completed ∧
    (∀ x∈l.returned, x.1≠[] ∧ Averages x.1 x.2) ∧
    (Terminal m.shared → ∀ later sample, .sampled sample∈(run m later).2 → ¬IsReady sample) := by
  intro m events l
  have hinit : Agrees (.spawn startedAt) {} :=
    ⟨CompletedIntervalAccumulator.holds_empty,rfl,by simp⟩
  have hagree := hinit.run actions
  have honce : ReaderOnce m := ReaderOnce.run (fun _ => rfl) actions
  obtain ⟨hall,hlast⟩ := ledger_intervals events
  exact ⟨hall,hlast,hagree.quarantined,hagree.completed,hagree.returned,
    fun ht later => ht.run honce later⟩

end BatCave.LinuxNetwork
