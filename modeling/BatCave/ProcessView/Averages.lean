import BatCave.ProcessView.Ranking

/-! What the averages of a generation are worth: which values its rings hold after a run of
samples, and when their sums stay what they are. -/
namespace BatCave.ProcessView
open BatCave.Contracts BatCave.Lib BatCave.Lib.Word

section Windows
variable {α : Type}

/-- The values a ring of the window's size keeps. -/
def lastWindow (values : List α) : List α := values.drop (values.length-rankingWindowSamples)

theorem lastWindow_length (values : List α) :
    (lastWindow values).length=min values.length rankingWindowSamples := by
  rw [lastWindow,List.length_drop]
  omega

/-- What has left the window does not come back. -/
theorem pushed_lastWindow (values : List α) (value : α) :
    RankingRing.pushed (lastWindow values) value=lastWindow (values++[value]) := by
  have hlength := lastWindow_length values
  have hdrop : values.length-rankingWindowSamples ≤ values.length := by omega
  have hlater : min values.length rankingWindowSamples+1-rankingWindowSamples+
      (values.length-rankingWindowSamples)=values.length+1-rankingWindowSamples := by
    simp only [rankingWindowSamples]
    omega
  have hkeep : lastWindow values++[value]=
      (values++[value]).drop (values.length-rankingWindowSamples) := by
    rw [lastWindow,List.drop_append_of_le_length hdrop]
  rw [RankingRing.pushed,List.length_append,hlength,hkeep,List.drop_drop,lastWindow,
    List.length_append,List.length_singleton,Nat.add_comm (values.length-_),hlater]

theorem foldl_pushed (earlier values : List α) :
    values.foldl RankingRing.pushed (lastWindow earlier)=lastWindow (earlier++values) := by
  induction values generalizing earlier with
  | nil => simp
  | cons value values ih =>
    rw [List.foldl_cons,pushed_lastWindow,ih,List.append_assoc]
    rfl

end Windows

section Sums

theorem sumU64_eq (values : List Nat) : sumU64 values=values.sum%2^64 := by
  have hfrom : ∀ total, values.foldl (fun total value => (total+value)%2^64) (total%2^64)=
      (total+values.sum)%2^64 := by
    induction values with
    | nil =>
      intro total
      simp
    | cons value values ih =>
      intro total
      rw [List.foldl_cons,Nat.mod_add_mod,ih,List.sum_cons,Nat.add_assoc]
  have hzero := hfrom 0
  rwa [Nat.zero_mod,Nat.zero_add] at hzero

/-- A sum that wraps loses at least one whole divisor, so its quotient is another. -/
theorem wrapped_div_eq_iff {sum count : Nat} (hcount : 0 < count) (hsmall : count ≤ 2^64) :
    sum%2^64/count=sum/count ↔ sum < 2^64 := by
  constructor
  · intro heq
    by_contra hwraps
    have hless : sum%2^64 ≤ sum-count := by
      have hmod : sum%2^64 < 2^64 := Nat.mod_lt sum (by decide)
      have hdiv := Nat.div_add_mod sum (2^64)
      have hone : 1 ≤ sum/2^64 := (Nat.one_le_div_iff (by decide)).2 (by omega)
      omega
    have hdiv : sum%2^64/count ≤ (sum-count*1)/count := by
      rw [Nat.mul_one]
      exact Nat.div_le_div_right hless
    rw [Nat.sub_mul_div] at hdiv
    have hpos : 1 ≤ sum/count := (Nat.one_le_div_iff hcount).2 (by omega)
    omega
  · intro hfits
    rw [Nat.mod_eq_of_lt hfits]

end Sums

section Runs

/-- What the rings live through: a sample is taken in, or the bound service changes and they
are thrown away. -/
inductive RankingEvent where
  | sample (processes : List ProcessSample)
  | unbound

def rankingStep (state : RankingHistory × Finset Generation) :
    RankingEvent → RankingHistory × Finset Generation
  | .sample processes => updateRankingHistory state.1 state.2 processes
  | .unbound => (∅,state.2)

def rankingRun (events : List RankingEvent) : RankingHistory × Finset Generation :=
  events.foldl rankingStep (∅,∅)

/-- The rate that a sample leaves in a ring. -/
def ioReading (process : ProcessSample) : Nat :=
  if contributorQualityIsPublishable (ioQuality process) then processIoRate process else 0

def networkReading (process : ProcessSample) : Nat :=
  if contributorQualityIsPublishable (networkQuality process) then processNetworkRate process else 0

def ownRows (key : Generation) (processes : List ProcessSample) : List ProcessSample :=
  processes.filter (fun process => generation process=key)

/-- The rows of a generation since it was last missing, from the newest event back. -/
def sightings (key : Generation) : List RankingEvent → List ProcessSample
  | [] => []
  | .unbound::_ => []
  | .sample processes::earlier =>
    if ownRows key processes=[] then [] else sightings key earlier++ownRows key processes

/-- The readings of a generation that are averaged after a run. -/
def retained (reading : ProcessSample → Nat) (events : List RankingEvent) (key : Generation) :
    List Nat :=
  lastWindow ((sightings key events.reverse).map reading)

theorem lookup_retainKeys (history : RankingHistory) (seen : List Generation) (key : Generation) :
    (retainKeys history seen).lookup key=if key∈seen then history.lookup key else none := by
  have hkept := Table.dlookup_filter_keys history.entries (fun key => decide (key∈seen)) key
  simp only [decide_eq_true_eq] at hkept
  exact hkept

/-- A ring takes in the rows of its generation, one after the other. -/
theorem lookup_grown (processes : List ProcessSample) (history : RankingHistory)
    (key : Generation) :
    (processes.foldl (fun history process => history.insert (generation process)
        (((history.lookup (generation process)).getD {}).push process)) history).lookup key=
      if ownRows key processes=[] then history.lookup key
      else some ((ownRows key processes).foldl RankingRing.push
        ((history.lookup key).getD {})) := by
  induction processes generalizing history with
  | nil => simp [ownRows]
  | cons process processes ih =>
    rw [List.foldl_cons,ih]
    by_cases hkey : generation process=key
    · have hrows : ownRows key (process::processes)=process::ownRows key processes := by
        simp [ownRows,hkey]
      rw [hrows,if_neg (List.cons_ne_nil _ _),← hkey,AList.lookup_insert]
      split
      · next hnone => rw [hnone]; rfl
      · rfl
    · have hrows : ownRows key (process::processes)=ownRows key processes := by
        simp [ownRows,hkey]
      rw [hrows,AList.lookup_insert_ne (Ne.symm hkey)]

/-- A ring after some rows, metric by metric. -/
theorem foldl_push (rows : List ProcessSample) (ring : RankingRing) :
    (rows.foldl RankingRing.push ring).ioBps=
        (rows.map ioReading).foldl RankingRing.pushed ring.ioBps ∧
      (rows.foldl RankingRing.push ring).networkBps=
        (rows.map networkReading).foldl RankingRing.pushed ring.networkBps := by
  induction rows generalizing ring with
  | nil => exact ⟨rfl,rfl⟩
  | cons row rows ih => exact ih (ring.push row)

theorem rankingRun_snoc (events : List RankingEvent) (event : RankingEvent) :
    rankingRun (events++[event])=rankingStep (rankingRun events) event := by
  simp [rankingRun]

theorem mem_seen {key : Generation} {processes : List ProcessSample} :
    key∈processes.map generation ↔ ownRows key processes≠[] := by
  rw [Ne,ownRows,List.filter_eq_nil_iff]
  simp

/-- The rings of a state hold what the run has left of every generation. -/
structure Rings (events : List RankingEvent) (history : RankingHistory) : Prop where
  known : ∀ key, (history.lookup key).isSome ↔ sightings key events.reverse≠[]
  io : ∀ key, ((history.lookup key).getD {}).ioBps=retained ioReading events key
  network : ∀ key, ((history.lookup key).getD {}).networkBps=retained networkReading events key

/-- A sample of which the generation has rows, and one of which it has none. -/
theorem lookup_update (history : RankingHistory) (members : Finset Generation)
    (processes : List ProcessSample) (key : Generation) :
    (updateRankingHistory history members processes).1.lookup key=
      if ownRows key processes=[] then none
      else some ((ownRows key processes).foldl RankingRing.push
        ((history.lookup key).getD {})) := by
  rw [updateRankingHistory,lookup_retainKeys,lookup_grown]
  by_cases hrows : ownRows key processes=[]
  · rw [if_neg (fun hseen => mem_seen.1 hseen hrows),if_pos hrows]
  · rw [if_pos (mem_seen.2 hrows),if_neg hrows,if_neg hrows]

theorem retained_missing {events : List RankingEvent} {key : Generation}
    {reading : ProcessSample → Nat} (h : sightings key events.reverse=[]) :
    retained reading events key=[] := by
  rw [retained,h]
  rfl

theorem retained_sample {events : List RankingEvent} {processes : List ProcessSample}
    {key : Generation} {reading : ProcessSample → Nat} (hrows : ownRows key processes≠[]) :
    retained reading (events++[.sample processes]) key=
      ((ownRows key processes).map reading).foldl RankingRing.pushed
        (retained reading events key) := by
  rw [retained,List.reverse_append,List.reverse_singleton,List.singleton_append,sightings,
    if_neg hrows,List.map_append,retained,foldl_pushed]

/-- One event keeps the rings. -/
theorem Rings.step {events : List RankingEvent} {state : RankingHistory × Finset Generation}
    (h : Rings events state.1) (event : RankingEvent) :
    Rings (events++[event]) (rankingStep state event).1 := by
  have hnewest : (events++[event]).reverse=event::events.reverse := by simp
  cases event with
  | unbound =>
    have hnone (key : Generation) : sightings key (events++[RankingEvent.unbound]).reverse=[] := by
      rw [hnewest,sightings]
    refine ⟨fun key => ?_,fun key => ?_,fun key => ?_⟩
    · rw [hnone]
      simp [rankingStep]
    · rw [retained_missing (hnone key)]
      rfl
    · rw [retained_missing (hnone key)]
      rfl
  | sample processes =>
    have hlookup (key : Generation) := lookup_update state.1 state.2 processes key
    have hsightings (key : Generation) :
        sightings key (events++[RankingEvent.sample processes]).reverse=
        if ownRows key processes=[] then []
        else sightings key events.reverse++ownRows key processes := by
      rw [hnewest,sightings]
    refine ⟨fun key => ?_,fun key => ?_,fun key => ?_⟩
    · rw [rankingStep,hlookup,hsightings]
      by_cases hrows : ownRows key processes=[]
      · simp [hrows]
      · simp [hrows]
    · rw [rankingStep,hlookup]
      by_cases hrows : ownRows key processes=[]
      · have hgone := hsightings key
        rw [if_pos hrows] at hgone
        rw [if_pos hrows,retained_missing hgone]
        rfl
      · rw [if_neg hrows,Option.getD_some,(foldl_push _ _).1,h.io,retained_sample hrows]
    · rw [rankingStep,hlookup]
      by_cases hrows : ownRows key processes=[]
      · have hgone := hsightings key
        rw [if_pos hrows] at hgone
        rw [if_pos hrows,retained_missing hgone]
        rfl
      · rw [if_neg hrows,Option.getD_some,(foldl_push _ _).2,h.network,retained_sample hrows]

theorem rankingRun_rings (events : List RankingEvent) : Rings events (rankingRun events).1 := by
  induction events using List.reverseRecOn with
  | nil =>
    refine ⟨fun key => ?_,fun key => rfl,fun key => rfl⟩
    simp [rankingRun,sightings]
  | append_singleton events event ih =>
    rw [rankingRun_snoc]
    exact ih.step event

end Runs

section Averages

/-- The mean of the values, cut to an integer. -/
def mean (values : List Nat) : Nat := values.sum/values.length

/-- Every average of a run is that of the readings it stands for. -/
def AveragesExact (events : List RankingEvent) : Prop :=
  ∀ key ring, (rankingRun events).1.lookup key=some ring →
    ring.ioAverage=mean (retained ioReading events key) ∧
    ring.networkAverage=mean (retained networkReading events key) ∧
    ring.windowValues.ioBps=(retained ioReading events key).sum/rankingWindowSamples ∧
    ring.windowValues.networkBps=(retained networkReading events key).sum/rankingWindowSamples

theorem average_eq_mean_iff {values : List Nat} (hlength : values.length ≤ rankingWindowSamples) :
    RankingRing.average values=mean values ↔ values.sum < 2^64 := by
  cases values with
  | nil => simp [RankingRing.average,mean]
  | cons value values =>
    rw [RankingRing.average,if_neg (List.cons_ne_nil value values),mean,sumU64_eq]
    refine wrapped_div_eq_iff (by simp) ?_
    simp only [rankingWindowSamples] at hlength
    omega

theorem retained_length (reading : ProcessSample → Nat) (events : List RankingEvent)
    (key : Generation) : (retained reading events key).length ≤ rankingWindowSamples := by
  rw [retained,lastWindow_length]
  exact Nat.min_le_right _ _

/-- The averages of a run are exact where no generation has readings whose sum leaves 64 bits,
and only there. -/
theorem averages_exact_iff (events : List RankingEvent) :
    AveragesExact events ↔ ∀ key, (retained ioReading events key).sum < 2^64 ∧
      (retained networkReading events key).sum < 2^64 := by
  have hrings := rankingRun_rings events
  constructor
  · intro h key
    cases hring : (rankingRun events).1.lookup key with
    | none =>
      have hio := hrings.io key
      have hnetwork := hrings.network key
      rw [hring] at hio hnetwork
      rw [← hio,← hnetwork]
      decide
    | some ring =>
      have hio := hrings.io key
      have hnetwork := hrings.network key
      rw [hring,Option.getD_some] at hio hnetwork
      obtain ⟨hioAverage,hnetworkAverage,_⟩ := h key ring hring
      rw [RankingRing.ioAverage,hio,average_eq_mean_iff (retained_length _ _ _)] at hioAverage
      rw [RankingRing.networkAverage,hnetwork,
        average_eq_mean_iff (retained_length _ _ _)] at hnetworkAverage
      exact ⟨hioAverage,hnetworkAverage⟩
  · intro h key ring hring
    have hio := hrings.io key
    have hnetwork := hrings.network key
    rw [hring,Option.getD_some] at hio hnetwork
    obtain ⟨hiosum,hnetworksum⟩ := h key
    refine ⟨?_,?_,?_,?_⟩
    · rw [RankingRing.ioAverage,hio,average_eq_mean_iff (retained_length _ _ _)]
      exact hiosum
    · rw [RankingRing.networkAverage,hnetwork,average_eq_mean_iff (retained_length _ _ _)]
      exact hnetworksum
    · change sumU64 ring.ioBps/rankingWindowSamples=_
      rw [hio,sumU64_eq,Nat.mod_eq_of_lt hiosum]
    · change sumU64 ring.networkBps/rankingWindowSamples=_
      rw [hnetwork,sumU64_eq,Nat.mod_eq_of_lt hnetworksum]

/-- A process that receives at the highest rate a sample can say. -/
def busyReceiver : ProcessSample :=
  { pid := "7", parentPid := none, startTimeMs := 1, name := "relay", exe := "/relay",
    status := "running", cpuPercent := 0, memoryBytes := 0, privateBytes := 0,
    ioReadTotalBytes := 0, ioWriteTotalBytes := 0, ioReadBps := 0, ioWriteBps := 0,
    networkReceivedBps := some (2^64-1), threads := 1, handles := 0, accessState := .full }

/-- Two such samples: the sum wraps, and half of the rate is shown. -/
theorem busy_receiver_wraps : ¬∀ events, AveragesExact events := by
  intro h
  have hexact := (averages_exact_iff [.sample [busyReceiver],.sample [busyReceiver]]).1 (h _)
  exact absurd (hexact ("7",1)).2 (by decide)

end Averages
end BatCave.ProcessView
