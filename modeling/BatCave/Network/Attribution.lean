import BatCave.Lib.Text
import BatCave.Lib.Word
import BatCave.Lib.Table
import Mathlib.Data.Finset.Insert

/-! Joining observed network activity to the processes of a sample. The binder's
two maps are shown to be functions of the calls made so far, and a bill is judged
by the calls alone. NOT a statement about where the observed rates come from. -/
namespace BatCave.NetworkAttribution
open BatCave.Lib.Text BatCave.Lib.Word BatCave.Lib.Table

/-- The fields of a process sample that name its generation. -/
structure ProcessSample where
  pid : String
  startTimeMs : Nat
  deriving DecidableEq, Repr

structure ProcessGeneration where
  pid : Nat
  startTimeMs : Nat
  deriving DecidableEq, Repr

def ProcessGeneration.fromProcess (process : ProcessSample) : Option ProcessGeneration := do
  let pid ← parseU32 process.pid
  if 0 < process.startTimeMs then some ⟨pid,process.startTimeMs⟩ else none

structure ObservedProcessGeneration where
  pid : Nat
  platformGeneration : Option Nat
  deriving DecidableEq, Repr

def ObservedProcessGeneration.pidOnly (pid : Nat) : ObservedProcessGeneration := ⟨pid,none⟩
def ObservedProcessGeneration.platform (pid platformGeneration : Nat) :
    ObservedProcessGeneration := ⟨pid,some platformGeneration⟩

structure ProcessNetworkRates where
  receivedBps : Nat := 0
  transmittedBps : Nat := 0
  deriving DecidableEq, Repr

/-- `HashMap<ObservedProcessGeneration, ProcessNetworkRates>`. -/
abbrev RatesByProcess := AList (fun _ : ObservedProcessGeneration => ProcessNetworkRates)

inductive NetworkAttributionSample where
  | ready (ratesByProcess : RatesByProcess)
  | partialRates (ratesByProcess : RatesByProcess) (message : String)
  | pendingBaseline (message : String)
  | held (message : String)
  | failed (message : String)

abbrev GenerationByPid := AList (fun _ : Nat => ProcessGeneration)
abbrev PlatformByPid := AList (fun _ : Nat => Nat)
abbrev Identities := List (ObservedProcessGeneration × ProcessNetworkRates)

def processGenerationsByPid (processes : List ProcessSample) : GenerationByPid :=
  ofList ((processes.filterMap ProcessGeneration.fromProcess).map (fun g => ⟨g.pid,g⟩))

theorem pid_of_lookup {processes : List ProcessSample} {pid : Nat} {g : ProcessGeneration}
    (h : (processGenerationsByPid processes).lookup pid=some g) : g.pid=pid := by
  have hm := mem_of_lookup_ofList h
  obtain ⟨g',_,he⟩ := List.mem_map.mp hm
  cases he
  rfl

structure BoundNetworkRates where
  ratesByGeneration : AList (fun _ : ProcessGeneration => ProcessNetworkRates) := ∅
  provenGenerations : Finset ProcessGeneration := ∅

def BoundNetworkRates.isProven (b : BoundNetworkRates) (g : ProcessGeneration) : Prop :=
  g∈b.provenGenerations

def BoundNetworkRates.rates (b : BoundNetworkRates) (g : ProcessGeneration) :
    ProcessNetworkRates :=
  (b.ratesByGeneration.lookup g).getD {}

def observedByPid (observed : RatesByProcess) : AList (fun _ : Nat => Identities) :=
  observed.entries.foldl
    (fun t e => t.insert e.1.pid ((t.lookup e.1.pid).getD []++[(e.1,e.2)])) ∅

/-- What was observed of one pid. -/
def identitiesOf (observed : RatesByProcess) (pid : Nat) : Identities :=
  (observed.entries.filter (fun e => e.1.pid=pid)).map (fun e => (e.1,e.2))

theorem observedByPid_lookup (observed : RatesByProcess) (pid : Nat) :
    ((observedByPid observed).lookup pid).getD []=identitiesOf observed pid := by
  simp only [observedByPid,identitiesOf]
  induction observed.entries using List.reverseRecOn with
  | nil => simp
  | append_singleton l e ih =>
    rw [List.foldl_append,List.foldl_cons,List.foldl_nil,List.filter_append,List.map_append,← ih]
    by_cases he : e.1.pid=pid
    · subst he
      simp
    · rw [AList.lookup_insert_ne (Ne.symm he)]
      simp [he]

def distinctPlatformGenerations (identities : Identities) : List Nat :=
  (identities.filterMap (fun i => i.1.platformGeneration)).dedup

def sumRates (identities : Identities) : ProcessNetworkRates :=
  identities.foldl (fun total i =>
    ⟨satAdd total.receivedBps i.2.receivedBps,satAdd total.transmittedBps i.2.transmittedBps⟩) {}

structure NetworkAttributionBinder where
  previousByPid : GenerationByPid := ∅
  previousPlatformGenerationByPid : PlatformByPid := ∅

namespace NetworkAttributionBinder

def clear (_ : NetworkAttributionBinder) : NetworkAttributionBinder := {}

def observe (_ : NetworkAttributionBinder) (processes : List ProcessSample) :
    NetworkAttributionBinder :=
  {previousByPid := processGenerationsByPid processes}

/-- The platform generation kept for a pid, and whether it was stable. -/
def platformOf (previous : Option Nat) (distinct : List Nat) : Option Nat × Bool :=
  match distinct.head? with
  | some p => (some p,previous==some p)
  | none => (previous,true)

/-- One turn of the loop over the current generations. -/
def bindGeneration (b : NetworkAttributionBinder) (byPid : AList (fun _ : Nat => Identities))
    (acc : BoundNetworkRates × PlatformByPid) (generation : ProcessGeneration) :
    BoundNetworkRates × PlatformByPid :=
  let runtimeStable := b.previousByPid.lookup generation.pid==some generation
  let identities := (byPid.lookup generation.pid).getD []
  let distinct := distinctPlatformGenerations identities
  if distinct.length>1 then acc
  else
    let platform :=
      platformOf (b.previousPlatformGenerationByPid.lookup generation.pid) distinct
    let next := platform.1.elim acc.2 (acc.2.insert generation.pid)
    if !runtimeStable || !platform.2 then (acc.1,next)
    else
      let rates := sumRates identities
      let bound : BoundNetworkRates :=
        {acc.1 with provenGenerations := insert generation acc.1.provenGenerations}
      if rates=({} : ProcessNetworkRates) then (bound,next)
      else ({bound with
        ratesByGeneration := bound.ratesByGeneration.insert generation rates},next)

def bind (b : NetworkAttributionBinder) (processes : List ProcessSample)
    (observed : RatesByProcess) : BoundNetworkRates × NetworkAttributionBinder :=
  let currentByPid := processGenerationsByPid processes
  let (bound,next) := currentByPid.entries.foldl
    (fun acc e => b.bindGeneration (observedByPid observed) acc e.2) ({},∅)
  (bound,⟨currentByPid,next⟩)

/-- When a bind bills a generation. -/
def Bills (b : NetworkAttributionBinder) (observed : RatesByProcess) (g : ProcessGeneration) :
    Prop :=
  let ids := identitiesOf observed g.pid
  let distinct := distinctPlatformGenerations ids
  distinct.length ≤ 1 ∧ b.previousByPid.lookup g.pid=some g ∧
    (∀ p∈distinct.head?, b.previousPlatformGenerationByPid.lookup g.pid=some p) ∧
    sumRates ids≠{}

theorem bindGeneration_other (b : NetworkAttributionBinder)
    (byPid : AList (fun _ : Nat => Identities))
    (acc : BoundNetworkRates × PlatformByPid) (g g' : ProcessGeneration) (h : g'.pid≠g.pid) :
    (b.bindGeneration byPid acc g').1.ratesByGeneration.lookup g=acc.1.ratesByGeneration.lookup g ∧
    (b.bindGeneration byPid acc g').2.lookup g.pid=acc.2.lookup g.pid := by
  have hg : g≠g' := fun he => h (by rw [he])
  have hnext : ∀ p : Option Nat, (p.elim acc.2 (acc.2.insert g'.pid)).lookup g.pid=
      acc.2.lookup g.pid := by
    intro p
    cases p with
    | none => rfl
    | some p => exact AList.lookup_insert_ne (Ne.symm h)
  simp only [bindGeneration]
  split
  · exact ⟨rfl,rfl⟩
  split
  · exact ⟨rfl,hnext _⟩
  split
  · exact ⟨rfl,hnext _⟩
  · exact ⟨AList.lookup_insert_ne hg,hnext _⟩

instance (b : NetworkAttributionBinder) (observed : RatesByProcess) (g : ProcessGeneration) :
    Decidable (b.Bills observed g) :=
  inferInstanceAs (Decidable (_ ∧ _ ∧ _ ∧ _))

/-- The platform generation a bind keeps for a pid it saw a process of. -/
def keptPlatform (previous : Option Nat) (identities : Identities) : Option Nat :=
  let distinct := distinctPlatformGenerations identities
  if distinct.length>1 then none else (platformOf previous distinct).1

theorem bindGeneration_at (b : NetworkAttributionBinder) (observed : RatesByProcess)
    (acc : BoundNetworkRates × PlatformByPid) (g g' : ProcessGeneration) (h : g'.pid=g.pid) :
    (b.bindGeneration (observedByPid observed) acc g').1.ratesByGeneration.lookup g=
      (if g'=g ∧ b.Bills observed g then some (sumRates (identitiesOf observed g.pid))
        else acc.1.ratesByGeneration.lookup g) ∧
    (b.bindGeneration (observedByPid observed) acc g').2.lookup g.pid=
      (keptPlatform (b.previousPlatformGenerationByPid.lookup g.pid)
        (identitiesOf observed g.pid)).or (acc.2.lookup g.pid) := by
  obtain ⟨pid,st⟩ := g
  obtain ⟨pid',st'⟩ := g'
  obtain rfl : pid'=pid := h
  have hnext : ∀ p : Option Nat, (p.elim acc.2 (acc.2.insert pid')).lookup pid'=
      p.or (acc.2.lookup pid') := by
    intro p
    cases p with
    | none => rfl
    | some p => exact AList.lookup_insert _
  have hplat : ∀ (prev : Option Nat) (d : List Nat),
      (platformOf prev d).2=true ↔ ∀ p∈d.head?, prev=some p := by
    intro prev d
    cases hd : d.head? <;> simp [platformOf,hd]
  simp only [bindGeneration,observedByPid_lookup,keptPlatform]
  split
  · next hl =>
    refine ⟨?_,rfl⟩
    rw [if_neg]
    rintro ⟨_,hle,_⟩
    exact absurd hl (Nat.not_lt.mpr hle)
  next hl =>
  refine ⟨?_,?_⟩
  · split
    · next hs =>
      rw [if_neg]
      rintro ⟨he,_,hr,hp,_⟩
      rw [← he] at hr
      simp [hr,(hplat _ _).mpr hp] at hs
    · next hs =>
      simp only [Bool.or_eq_true,Bool.not_eq_true',not_or,Bool.not_eq_false,beq_iff_eq] at hs
      obtain ⟨hr,hp⟩ := hs
      have hp' := (hplat _ _).mp hp
      split
      · next hz => rw [if_neg (fun hc => hc.2.2.2.2 hz)]
      · next hz =>
        by_cases hg : st'=st
        · subst hg
          rw [if_pos ⟨rfl,Nat.not_lt.mp hl,hr,hp',hz⟩]
          exact AList.lookup_insert _
        · rw [if_neg (fun hc => hg (congrArg ProcessGeneration.startTimeMs hc.1))]
          exact AList.lookup_insert_ne (by simp [Ne.symm hg])
  · split
    · exact hnext _
    · split <;> exact hnext _

/-- What a bind bills to a generation, and what it keeps for its pid. -/
theorem bind_spec (b : NetworkAttributionBinder) (processes : List ProcessSample)
    (observed : RatesByProcess) (g : ProcessGeneration) :
    (b.bind processes observed).1.rates g=
      (if (processGenerationsByPid processes).lookup g.pid=some g ∧ b.Bills observed g
        then sumRates (identitiesOf observed g.pid) else {}) ∧
    (b.bind processes observed).2.previousPlatformGenerationByPid.lookup g.pid=
      ((processGenerationsByPid processes).lookup g.pid).bind (fun _ =>
        keptPlatform (b.previousPlatformGenerationByPid.lookup g.pid)
          (identitiesOf observed g.pid)) := by
  have hfold := foldl_entries (processGenerationsByPid processes) g.pid
    (fun acc : BoundNetworkRates × PlatformByPid =>
      (acc.1.ratesByGeneration.lookup g,acc.2.lookup g.pid))
    (fun acc e => b.bindGeneration (observedByPid observed) acc e.2)
    (fun old g' => (if g'=g ∧ b.Bills observed g then some (sumRates (identitiesOf observed g.pid))
        else old.1,(keptPlatform (b.previousPlatformGenerationByPid.lookup g.pid)
          (identitiesOf observed g.pid)).or old.2))
    (fun acc e he hne => by
      have hv : (processGenerationsByPid processes).lookup e.1=some e.2 :=
        AList.mem_lookup_iff.mpr he
      have hp := pid_of_lookup hv
      obtain ⟨h₁,h₂⟩ := b.bindGeneration_other (observedByPid observed) acc g e.2 (by rwa [hp])
      exact Prod.ext h₁ h₂)
    (fun acc g' hg' => by
      obtain ⟨h₁,h₂⟩ := b.bindGeneration_at observed acc g g' (pid_of_lookup hg')
      exact Prod.ext h₁ h₂)
    ({},∅)
  simp only [BoundNetworkRates.rates,bind]
  cases hl : (processGenerationsByPid processes).lookup g.pid with
  | none =>
    simp only [hl,Option.elim_none,Prod.mk.injEq,AList.lookup_empty] at hfold
    rw [hfold.1,hfold.2]
    simp
  | some g' =>
    simp only [hl,Option.elim_some,Prod.mk.injEq,AList.lookup_empty] at hfold
    rw [hfold.1,hfold.2]
    refine ⟨?_,by simp⟩
    simp only [Option.some.injEq]
    split <;> rfl

end NetworkAttributionBinder

inductive Call where
  | observe (processes : List ProcessSample)
  | clear
  | bind (processes : List ProcessSample) (observed : RatesByProcess)

def Call.apply (b : NetworkAttributionBinder) : Call → NetworkAttributionBinder
  | .observe processes => b.observe processes
  | .clear => b.clear
  | .bind processes observed => (b.bind processes observed).2

/-- The binder after the calls, from `default()`. -/
def run (calls : List Call) : NetworkAttributionBinder := calls.foldl Call.apply {}

/-- The generations the call just before saw; none after a `clear`. -/
def lastGeneration (calls : List Call) (pid : Nat) : Option ProcessGeneration :=
  match calls.getLast? with
  | some (.observe processes) | some (.bind processes _) =>
    (processGenerationsByPid processes).lookup pid
  | some .clear | none => none

/-- The arguments of the binds since the last `observe` or `clear`. -/
def bindsSinceReset (calls : List Call) : List (List ProcessSample × RatesByProcess) :=
  calls.foldl (fun binds c => match c with
    | .bind processes observed => binds++[(processes,observed)]
    | .observe _ | .clear => []) []

/-- The platform generation last seen for a pid in a row of binds that all had a
process of that pid and never two platform generations at once. -/
def carriedPlatform (binds : List (List ProcessSample × RatesByProcess)) (pid : Nat) :
    Option Nat :=
  binds.foldl (fun carried c => ((processGenerationsByPid c.1).lookup pid).bind (fun _ =>
    match distinctPlatformGenerations (identitiesOf c.2 pid) with
    | [] => carried
    | [p] => some p
    | _ => none)) none

theorem keptPlatform_eq (previous : Option Nat) (ids : Identities) :
    NetworkAttributionBinder.keptPlatform previous ids=
      match distinctPlatformGenerations ids with
      | [] => previous
      | [p] => some p
      | _ => none := by
  simp only [NetworkAttributionBinder.keptPlatform]
  rcases distinctPlatformGenerations ids with _ | ⟨p,_ | ⟨q,l⟩⟩
  · rfl
  · rfl
  · simp

theorem run_snoc (calls : List Call) (c : Call) : run (calls++[c])=c.apply (run calls) := by
  simp [run]

/-- The binder's maps are what the calls say they are. -/
theorem run_state (calls : List Call) (pid : Nat) :
    (run calls).previousByPid.lookup pid=lastGeneration calls pid ∧
    (run calls).previousPlatformGenerationByPid.lookup pid=
      carriedPlatform (bindsSinceReset calls) pid := by
  induction calls using List.reverseRecOn with
  | nil => exact ⟨rfl,rfl⟩
  | append_singleton calls c ih =>
    rw [run_snoc]
    cases c with
    | observe processes =>
      simp [Call.apply,NetworkAttributionBinder.observe,lastGeneration,bindsSinceReset,
        carriedPlatform]
    | clear =>
      simp [Call.apply,NetworkAttributionBinder.clear,lastGeneration,bindsSinceReset,
        carriedPlatform]
    | bind processes observed =>
      refine ⟨by simp [Call.apply,NetworkAttributionBinder.bind,lastGeneration],?_⟩
      have hspec := ((run calls).bind_spec processes observed ⟨pid,0⟩).2
      have hb : bindsSinceReset (calls++[.bind processes observed])=
          bindsSinceReset calls++[(processes,observed)] := by
        simp [bindsSinceReset]
      rw [Call.apply,hspec,hb,ih.2,carriedPlatform,carriedPlatform,List.foldl_append]
      simp only [keptPlatform_eq,List.foldl_cons,List.foldl_nil]

/-- A bind bills no generation for another's traffic: it bills a generation only
when the call just before saw that generation, and never for a platform
generation that was seen under another generation of the pid since the last
`observe` or `clear`. -/
def BillsOwnTraffic (before : List Call) (processes : List ProcessSample)
    (observed : RatesByProcess) : Prop :=
  ∀ g p, ((run before).bind processes observed).1.rates g≠{} →
    ObservedProcessGeneration.platform g.pid p∈observed →
    lastGeneration before g.pid=some g ∧
    ∀ c∈bindsSinceReset before, ObservedProcessGeneration.platform g.pid p∈c.2 →
      ∀ g', (processGenerationsByPid c.1).lookup g.pid=some g' → g'=g

/-- Traffic of a platform generation that was seen under an earlier generation of
the pid, arriving again once the pid's new generation has been seen twice and no
other platform generation has replaced the old one. -/
def LateTraffic (before : List Call) (processes : List ProcessSample)
    (observed : RatesByProcess) : Prop :=
  ∃ g p, (processGenerationsByPid processes).lookup g.pid=some g ∧
    lastGeneration before g.pid=some g ∧
    distinctPlatformGenerations (identitiesOf observed g.pid)=[p] ∧
    sumRates (identitiesOf observed g.pid)≠{} ∧
    carriedPlatform (bindsSinceReset before) g.pid=some p ∧
    ∃ c∈bindsSinceReset before, ObservedProcessGeneration.platform g.pid p∈c.2 ∧
      ∃ g', (processGenerationsByPid c.1).lookup g.pid=some g' ∧ g'≠g

theorem mem_distinct (observed : RatesByProcess) (pid p : Nat) :
    p∈distinctPlatformGenerations (identitiesOf observed pid) ↔
      ObservedProcessGeneration.platform pid p∈observed := by
  simp only [distinctPlatformGenerations,identitiesOf,List.mem_dedup,List.mem_filterMap,
    List.mem_map,List.mem_filter,decide_eq_true_eq]
  constructor
  · rintro ⟨i,⟨e,⟨he,rfl⟩,rfl⟩,hp⟩
    have hk : ObservedProcessGeneration.platform e.1.pid p=e.1 := by
      rw [ObservedProcessGeneration.platform,← hp]
    rw [hk]
    exact List.mem_keys_of_mem he
  · intro hm
    obtain ⟨rates,hr⟩ := List.exists_of_mem_keys hm
    exact ⟨(_,rates),⟨⟨_,rates⟩,⟨hr,rfl⟩,rfl⟩,rfl⟩

theorem bills_iff (before : List Call) (processes : List ProcessSample)
    (observed : RatesByProcess) (g : ProcessGeneration) (p : Nat)
    (hp : ObservedProcessGeneration.platform g.pid p∈observed) :
    ((run before).bind processes observed).1.rates g≠{} ↔
      (processGenerationsByPid processes).lookup g.pid=some g ∧
      lastGeneration before g.pid=some g ∧
      distinctPlatformGenerations (identitiesOf observed g.pid)=[p] ∧
      sumRates (identitiesOf observed g.pid)≠{} ∧
      carriedPlatform (bindsSinceReset before) g.pid=some p := by
  rw [((run before).bind_spec processes observed g).1]
  obtain ⟨hlast,hcarried⟩ := run_state before g.pid
  have hmem := (mem_distinct observed g.pid p).mpr hp
  constructor
  · intro h
    split at h
    · next hc =>
      obtain ⟨hcur,hlen,hprev,hplat,hsum⟩ := hc
      have hd : distinctPlatformGenerations (identitiesOf observed g.pid)=[p] := by
        obtain ⟨q,hq⟩ := List.length_eq_one_iff.mp
          (le_antisymm hlen (List.length_pos_of_mem hmem))
        rw [hq] at hmem ⊢
        rw [List.mem_singleton.mp hmem]
      refine ⟨hcur,hlast ▸ hprev,hd,hsum,?_⟩
      rw [← hcarried]
      exact hplat p (by rw [hd]; rfl)
    · exact absurd rfl h
  · rintro ⟨hcur,hprev,hd,hsum,hc⟩
    rw [if_pos]
    · exact hsum
    · refine ⟨hcur,by rw [hd]; rfl,hlast.trans hprev,?_,hsum⟩
      intro q hq
      rw [hd] at hq
      obtain rfl : p=q := by simpa using hq
      exact hcarried.trans hc

/-- In a run of calls, every bind bills own traffic exactly when no bind of the run
is handed late traffic. -/
theorem binds_own_traffic_iff (calls : List Call) :
    (∀ before processes observed after, calls=before++.bind processes observed::after →
      BillsOwnTraffic before processes observed) ↔
    ∀ before processes observed after, calls=before++.bind processes observed::after →
      ¬LateTraffic before processes observed := by
  have hstep : ∀ before processes observed,
      BillsOwnTraffic before processes observed ↔ ¬LateTraffic before processes observed := by
    intro before processes observed
    constructor
    · rintro hown ⟨g,p,hcur,hprev,hd,hsum,hc,c,hm,hseen,g',hg',hne⟩
      have hp := (mem_distinct observed g.pid p).mp (by rw [hd]; simp)
      have hb := (bills_iff before processes observed g p hp).mpr ⟨hcur,hprev,hd,hsum,hc⟩
      exact hne ((hown g p hb hp).2 c hm hseen g' hg')
    · intro hlate g p hb hp
      obtain ⟨hcur,hprev,hd,hsum,hc⟩ := (bills_iff before processes observed g p hp).mp hb
      refine ⟨hprev,?_⟩
      intro c hm hseen g' hg'
      by_contra hne
      exact hlate ⟨g,p,hcur,hprev,hd,hsum,hc,c,hm,hseen,g',hg',hne⟩
  constructor
  · intro h before processes observed after he
    exact (hstep _ _ _).mp (h before processes observed after he)
  · intro h before processes observed after he
    exact (hstep _ _ _).mpr (h before processes observed after he)

def ratesOf (entries : List (ObservedProcessGeneration × ProcessNetworkRates)) :
    RatesByProcess :=
  ofList (entries.map (fun e => ⟨e.1,e.2⟩))

/-- Process 42 exits after platform generation 7 was seen, the pid is reused, and
the old process's last bytes arrive one bind later. -/
def reusedPidCalls : List Call :=
  [.observe [⟨"42",1000⟩],
    .bind [⟨"42",1000⟩] (ratesOf [(.platform 42 7,⟨1024,0⟩)]),
    .bind [⟨"42",2000⟩] (ratesOf [])]

/-- The new generation of the pid is billed for the old one's traffic. -/
theorem reused_pid_billed :
    ¬BillsOwnTraffic reusedPidCalls [⟨"42",2000⟩] (ratesOf [(.platform 42 7,⟨512,0⟩)]) := by
  intro h
  have hobs : ObservedProcessGeneration.platform 42 7∈ratesOf [(.platform 42 7,⟨512,0⟩)] := by
    decide
  have hb : ((run reusedPidCalls).bind [⟨"42",2000⟩]
      (ratesOf [(.platform 42 7,⟨512,0⟩)])).1.rates ⟨42,2000⟩≠{} := by
    decide
  have hgen : (processGenerationsByPid [⟨"42",1000⟩]).lookup 42=some ⟨42,1000⟩ := by
    decide
  have hbad := (h ⟨42,2000⟩ 7 hb hobs).2 ([⟨"42",1000⟩],ratesOf [(.platform 42 7,⟨1024,0⟩)])
    (by simp [bindsSinceReset,reusedPidCalls]) (by decide) ⟨42,1000⟩ hgen
  exact absurd hbad (by decide)

end BatCave.NetworkAttribution
