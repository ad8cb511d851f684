import BatCave.CollectorService.Client
import BatCave.WorkloadIdentity.Membership

/-! The approval of the desktop's own workload. It belongs to one observed sample and to the
peer that served it, and a sample that is served again is never approved again. -/
namespace BatCave.CollectorService
open BatCave.WorkloadIdentity (BatCaveWorkloadContext)

structure SampleBoundWorkloadApproval where
  provenance : Option TelemetrySampleProvenance := none
  peer : Option VerifiedServicePeer := none
  context : Option BatCaveWorkloadContext := none

/-- What a call returns, the approval after it, and whether it has run its probe. -/
structure ApprovalAnswer where
  context : Option BatCaveWorkloadContext
  next : SampleBoundWorkloadApproval
  probed : Bool

/-- The calls an approval can receive; `probe` is what the probe would return. -/
inductive ApprovalCall where
  | contextFor (provenance : TelemetrySampleProvenance) (peer : VerifiedServicePeer)
      (probe : Option BatCaveWorkloadContext)
  | revoke

namespace SampleBoundWorkloadApproval

/-- The observed provenance is remembered, so that a reconnect cannot approve its metrics. -/
def revoke (s : SampleBoundWorkloadApproval) : SampleBoundWorkloadApproval :=
  {s with peer := none, context := none}

def contextFor (s : SampleBoundWorkloadApproval) (provenance : TelemetrySampleProvenance)
    (peer : VerifiedServicePeer) (probe : Option BatCaveWorkloadContext) : ApprovalAnswer :=
  if s.provenance=some provenance then
    let s := if s.peer≠some peer then s.revoke else s
    ⟨s.context,s,false⟩
  else
    let s : SampleBoundWorkloadApproval := ⟨some provenance,some peer,probe⟩
    ⟨s.context,s,true⟩

def answer (s : SampleBoundWorkloadApproval) : ApprovalCall → ApprovalAnswer
  | .contextFor provenance peer probe => s.contextFor provenance peer probe
  | .revoke => ⟨none,s.revoke,false⟩

/-- The approval after calls in the order they are made, from the default one. -/
def after (calls : List ApprovalCall) : SampleBoundWorkloadApproval :=
  calls.foldl (fun s c => (s.answer c).next) {}

end SampleBoundWorkloadApproval

namespace ApprovalCall

def provenance? : ApprovalCall → Option TelemetrySampleProvenance
  | .contextFor provenance _ _ => some provenance
  | .revoke => none

/-- A call for the sample of `provenance` from `peer`, whatever its probe would return. -/
def IsFor (provenance : TelemetrySampleProvenance) (peer : VerifiedServicePeer)
    (c : ApprovalCall) : Prop := ∃ probe, c=.contextFor provenance peer probe

end ApprovalCall

/-- The provenance of the last call that has one. -/
def lastProvenance (calls : List ApprovalCall) : Option TelemetrySampleProvenance :=
  calls.foldl (fun last c => c.provenance?.or last) none

/-- The calls end in a run for `provenance`, all of it from `peer` and without a revocation,
and the first call of the run has a probe that returns `context`. -/
def Explained (calls : List ApprovalCall) (provenance : TelemetrySampleProvenance)
    (peer : VerifiedServicePeer) (context : BatCaveWorkloadContext) : Prop :=
  ∃ before since, calls=before++.contextFor provenance peer (some context)::since ∧
    lastProvenance before≠some provenance ∧ ∀ c∈since, c.IsFor provenance peer

namespace SampleBoundWorkloadApproval

/-- Whether the call that follows `before` runs its probe. -/
def probes (before : List ApprovalCall) (c : ApprovalCall) : Bool :=
  ((after before).answer c).probed

/-- How many probes the calls of `run` execute after those of `before`. -/
def probeCount (before run : List ApprovalCall) : Nat :=
  match run with
  | [] => 0
  | c::run => (if probes before c=true then 1 else 0)+probeCount (before++[c]) run

theorem after_snoc (calls : List ApprovalCall) (c : ApprovalCall) :
    after (calls++[c])=((after calls).answer c).next := by
  rw [after,List.foldl_append]
  rfl

theorem lastProvenance_snoc (calls : List ApprovalCall) (c : ApprovalCall) :
    lastProvenance (calls++[c])=c.provenance?.or (lastProvenance calls) := by
  rw [lastProvenance,List.foldl_append]
  rfl

/-- What an approval remembers of the calls that led to it. -/
structure Remembers (calls : List ApprovalCall) (s : SampleBoundWorkloadApproval) : Prop where
  provenance : s.provenance=lastProvenance calls
  context : ∀ context, s.context=some context → ∃ provenance peer,
    s.provenance=some provenance ∧ s.peer=some peer ∧ Explained calls provenance peer context

theorem remembers_fresh {calls : List ApprovalCall} {provenance : TelemetrySampleProvenance}
    (peer : VerifiedServicePeer) (probe : Option BatCaveWorkloadContext)
    (hlast : lastProvenance calls≠some provenance) :
    Remembers (calls++[.contextFor provenance peer probe]) ⟨some provenance,some peer,probe⟩ := by
  constructor
  · rw [lastProvenance_snoc]
    rfl
  · intro context hcontext
    refine ⟨provenance,peer,rfl,rfl,calls,[],?_,hlast,?_⟩
    · rw [← hcontext]
    · intro c hc
      cases hc

theorem remembers_revoked {calls : List ApprovalCall} {s : SampleBoundWorkloadApproval}
    (h : s.provenance=lastProvenance calls) : Remembers calls s.revoke := by
  constructor
  · exact h
  · intro context hcontext
    cases hcontext

theorem remembers_kept {calls : List ApprovalCall} {s : SampleBoundWorkloadApproval}
    (h : Remembers calls s) {provenance : TelemetrySampleProvenance} {peer : VerifiedServicePeer}
    (probe : Option BatCaveWorkloadContext) (hprovenance : s.provenance=some provenance)
    (hpeer : s.peer=some peer) :
    Remembers (calls++[.contextFor provenance peer probe]) s := by
  constructor
  · rw [lastProvenance_snoc,hprovenance]
    rfl
  · intro context hcontext
    obtain ⟨p,q,hp,hq,before,since,hcalls,hlast,hsince⟩ := h.context context hcontext
    rw [hprovenance] at hp
    rw [hpeer] at hq
    cases hp
    cases hq
    refine ⟨provenance,peer,hprovenance,hpeer,before,since++[.contextFor provenance peer probe],
      ?_,hlast,?_⟩
    · rw [hcalls,List.append_assoc,List.cons_append]
    · intro c hc
      cases List.mem_append.1 hc with
      | inl hc => exact hsince c hc
      | inr hc => exact ⟨probe,List.mem_singleton.1 hc⟩

theorem remembers_answer {calls : List ApprovalCall} {s : SampleBoundWorkloadApproval}
    (h : Remembers calls s) (c : ApprovalCall) : Remembers (calls++[c]) (s.answer c).next := by
  cases c with
  | revoke =>
    apply remembers_revoked
    rw [lastProvenance_snoc]
    exact h.provenance
  | contextFor provenance peer probe =>
    by_cases hsame : s.provenance=some provenance
    · by_cases hpeer : s.peer=some peer
      · have hanswer : (s.answer (.contextFor provenance peer probe)).next=s := by
          simp [answer,contextFor,hsame,hpeer]
        rw [hanswer]
        exact remembers_kept h probe hsame hpeer
      · have hanswer : (s.answer (.contextFor provenance peer probe)).next=s.revoke := by
          simp [answer,contextFor,hsame,hpeer]
        rw [hanswer]
        apply remembers_revoked
        rw [lastProvenance_snoc,hsame]
        rfl
    · have hanswer : (s.answer (.contextFor provenance peer probe)).next=
          ⟨some provenance,some peer,probe⟩ := by
        simp [answer,contextFor,hsame]
      rw [hanswer]
      exact remembers_fresh peer probe (fun hlast => hsame (h.provenance.trans hlast))

theorem remembers_after (calls : List ApprovalCall) : Remembers calls (after calls) := by
  induction calls using List.reverseRecOn with
  | nil =>
    constructor
    · rfl
    · intro context hcontext
      cases hcontext
  | append_singleton calls c ih =>
    rw [after_snoc]
    exact remembers_answer ih c

/-- A call probes exactly where the provenance is not the one of the last call. -/
theorem probes_iff (calls : List ApprovalCall) (c : ApprovalCall) :
    probes calls c=true ↔
      ∃ provenance, c.provenance?=some provenance ∧ lastProvenance calls≠some provenance := by
  have hlast := (remembers_after calls).provenance
  cases c with
  | revoke => simp [probes,answer,ApprovalCall.provenance?]
  | contextFor provenance peer probe =>
    rw [← hlast]
    by_cases hsame : (after calls).provenance=some provenance
    · simp [probes,answer,contextFor,hsame,ApprovalCall.provenance?]
    · simp [probes,answer,contextFor,hsame,ApprovalCall.provenance?]

/-- What a call returns is explained by the calls up to it. -/
theorem answer_explained (calls : List ApprovalCall) (provenance : TelemetrySampleProvenance)
    (peer : VerifiedServicePeer) (probe : Option BatCaveWorkloadContext)
    {context : BatCaveWorkloadContext}
    (h : ((after calls).contextFor provenance peer probe).context=some context) :
    Explained (calls++[.contextFor provenance peer probe]) provenance peer context := by
  have hmemory := remembers_answer (remembers_after calls) (.contextFor provenance peer probe)
  have hcontext : ((after calls).contextFor provenance peer probe).next.context=some context := by
    rw [← h,contextFor]
    split
    · rfl
    · rfl
  obtain ⟨p,q,hp,hq,hexplained⟩ := hmemory.context context hcontext
  have hpq : p=provenance ∧ q=peer := by
    by_cases hsame : (after calls).provenance=some provenance
    · by_cases hpeer : (after calls).peer=some peer
      · simp only [answer,contextFor,hsame,hpeer,ne_eq,not_true_eq_false,if_true,if_false] at hp hq
        exact ⟨(Option.some.inj hp).symm,(Option.some.inj hq).symm⟩
      · simp [contextFor,hsame,hpeer,revoke] at hcontext
    · simp only [answer,contextFor,hsame,if_false] at hp hq
      exact ⟨(Option.some.inj hp).symm,(Option.some.inj hq).symm⟩
  rw [hpq.1,hpq.2] at hexplained
  exact hexplained

/-- Calls for one provenance, with revocations between them. -/
def RunOf (provenance : TelemetrySampleProvenance) (run : List ApprovalCall) : Prop :=
  ∀ c∈run, c.provenance?=none ∨ c.provenance?=some provenance

/-- Once its provenance was observed, a run probes nothing. -/
theorem probeCount_observed {provenance : TelemetrySampleProvenance} {run : List ApprovalCall}
    (hrun : RunOf provenance run) {before : List ApprovalCall}
    (hlast : lastProvenance before=some provenance) : probeCount before run=0 := by
  induction run generalizing before with
  | nil => rfl
  | cons c run ih =>
    have hquiet : probes before c=false := by
      rw [Bool.eq_false_iff,ne_eq,probes_iff]
      intro h
      obtain ⟨p,hp,hne⟩ := h
      cases hrun c List.mem_cons_self with
      | inl hnone =>
        rw [hnone] at hp
        cases hp
      | inr hsome =>
        rw [hp] at hsome
        exact hne (hlast.trans hsome.symm)
    have hnext : lastProvenance (before++[c])=some provenance := by
      rw [lastProvenance_snoc,hlast]
      cases hrun c List.mem_cons_self with
      | inl hnone => rw [hnone,Option.none_or]
      | inr hsome => rw [hsome,Option.some_or]
    rw [probeCount,hquiet,ih (fun x hx => hrun x (List.mem_cons_of_mem c hx)) hnext]
    rfl

theorem probeCount_le {provenance : TelemetrySampleProvenance} {run : List ApprovalCall}
    (hrun : RunOf provenance run) (before : List ApprovalCall) : probeCount before run ≤ 1 := by
  induction run generalizing before with
  | nil => exact Nat.zero_le 1
  | cons c run ih =>
    have hrest : RunOf provenance run := fun x hx => hrun x (List.mem_cons_of_mem c hx)
    cases hrun c List.mem_cons_self with
    | inl hnone =>
      have hquiet : probes before c=false := by
        rw [Bool.eq_false_iff,ne_eq,probes_iff,hnone]
        intro h
        obtain ⟨p,hp,_⟩ := h
        cases hp
      rw [probeCount,hquiet]
      have hle := ih hrest (before++[c])
      simpa using hle
    | inr hsome =>
      have hnext : lastProvenance (before++[c])=some provenance := by
        rw [lastProvenance_snoc,hsome,Option.some_or]
      rw [probeCount,probeCount_observed hrest hnext]
      split
      · exact Nat.le_refl 1
      · exact Nat.zero_le 1

/-- The sample of `provenance` was observed and is not approved. -/
def Spent (provenance : TelemetrySampleProvenance) (s : SampleBoundWorkloadApproval) : Prop :=
  s.provenance=some provenance ∧ s.context=none

theorem spent_revoke {provenance : TelemetrySampleProvenance} {s : SampleBoundWorkloadApproval}
    (h : s.provenance=some provenance) : Spent provenance s.revoke := ⟨h,rfl⟩

theorem spent_answer {provenance : TelemetrySampleProvenance} {s : SampleBoundWorkloadApproval}
    (h : Spent provenance s) {c : ApprovalCall}
    (hc : c.provenance?=none ∨ c.provenance?=some provenance) :
    Spent provenance (s.answer c).next ∧ (s.answer c).context=none := by
  cases c with
  | revoke => exact ⟨spent_revoke h.1,rfl⟩
  | contextFor p peer probe =>
    have hp : p=provenance := by simpa [ApprovalCall.provenance?] using hc
    rw [hp]
    by_cases hpeer : s.peer=some peer
    · simp [answer,contextFor,h.1,h.2,hpeer,h]
    · simpa [answer,contextFor,h.1,hpeer,revoke] using spent_revoke h.1

theorem spent_after {provenance : TelemetrySampleProvenance} {since : List ApprovalCall}
    (hsince : RunOf provenance since) {before : List ApprovalCall}
    (h : Spent provenance (after before)) : Spent provenance (after (before++since)) := by
  induction since generalizing before with
  | nil =>
    rw [List.append_nil]
    exact h
  | cons c since ih =>
    have hnext : Spent provenance (after (before++[c])) := by
      rw [after_snoc]
      exact (spent_answer h (hsince c List.mem_cons_self)).1
    have hrest := ih (fun x hx => hsince x (List.mem_cons_of_mem c hx)) hnext
    rwa [List.append_assoc,List.singleton_append] at hrest

/-- An approval is not replayed, over every sequence of calls: what a call returns is what
the first call of its run has probed, for the same peer and with nothing but calls for both
since; a run probes at most once; and what was observed before a revocation or another peer
is not approved again until a call brings another provenance. -/
theorem approval_not_replayed (calls : List ApprovalCall) :
    (∀ provenance peer probe context,
      ((after calls).contextFor provenance peer probe).context=some context →
      Explained (calls++[.contextFor provenance peer probe]) provenance peer context) ∧
    (∀ before run later provenance, calls=before++run++later → RunOf provenance run →
      probeCount before run ≤ 1) ∧
    (∀ before broken since provenance peer peer' probe,
      calls=before++broken::since → lastProvenance before=some provenance →
      (broken=.revoke ∨ broken.IsFor provenance peer' ∧ (after before).peer≠some peer') →
      RunOf provenance since →
      ((after calls).contextFor provenance peer probe).context=none) := by
  refine ⟨?_,?_,?_⟩
  · intro provenance peer probe context h
    exact answer_explained calls provenance peer probe h
  · intro before run later provenance _ hrun
    exact probeCount_le hrun before
  · intro before broken since provenance peer peer' probe hcalls hlast hbroken hsince
    have hobserved : (after before).provenance=some provenance :=
      (remembers_after before).provenance.trans hlast
    have hspent : Spent provenance (after (before++[broken])) := by
      rw [after_snoc]
      cases hbroken with
      | inl hrevoke =>
        rw [hrevoke]
        exact spent_revoke hobserved
      | inr hforeign =>
        obtain ⟨⟨probe',hcall⟩,hpeer⟩ := hforeign
        have hanswer : ((after before).answer broken).next=(after before).revoke := by
          simp [hcall,answer,contextFor,hobserved,hpeer]
        rw [hanswer]
        exact spent_revoke hobserved
    have hlater := spent_after hsince hspent
    rw [List.append_assoc,List.singleton_append,← hcalls] at hlater
    exact (spent_answer hlater (c := .contextFor provenance peer probe) (.inr rfl)).2

end SampleBoundWorkloadApproval

end BatCave.CollectorService
