import BatCave.RuntimeStore.RefreshGate
import BatCave.Lib.History
import Mathlib.Data.List.Basic
import Mathlib.Order.Basic

/-! What every reachable state of the refresh gate keeps: who carries the next wake-up,
and which generations a caller can have been answered with. -/
namespace BatCave.RuntimeStore.Refresh
open BatCave.Lib.Word BatCave.Lib.History

variable {M : Type*}

/-- The generation a call is still answerable for. -/
def Call.target : Call M → Option Nat
  | .scheduling target => some target
  | .sendFailed target _ => some target
  | .waiting target => some target
  | _ => none

def Call.outcome : Call M → Option (Outcome M)
  | .finishing outcome => some outcome
  | .returned outcome => some outcome
  | _ => none

/-- The call is about to send a wake-up, or to record that its send failed. -/
def Call.schedules (call : Call M) (target : Nat) : Prop :=
  call=.scheduling target ∨ ∃ error, call=.sendFailed target error

/-- Somebody will see to the requested generation. -/
def Carried (s : State M) : Prop :=
  0 < s.queued ∨ s.worker=.received ∨ ∃ c, (s.calls c).schedules s.gate.requestedGeneration

/-- Nothing about the generation or a later one happened before the call registered. -/
def Fresh (history : List (Fact M)) (c target : Nat) : Prop :=
  ∃ h₁ h₂, history=h₁++.registered c target::h₂ ∧
    ∀ g, target ≤ g → .begun g∉h₁ ∧ ∀ error, .failed g error∉h₁

/-- The measurement is of a generation begun after the call registered. -/
def FreshMeasurement (history : List (Fact M)) (c : Nat) (measurement : M) : Prop :=
  ∃ target h₁ h₂ h₃ g, history=h₁++.registered c target::h₂++.begun g::h₃ ∧ target ≤ g ∧
    .completed g measurement∈h₃

/-- The error is of a generation that failed after the call registered. -/
def FreshFailure (history : List (Fact M)) (c : Nat) (error : String) : Prop :=
  ∃ target h₁ h₂ g, history=h₁++.registered c target::h₂ ∧ target ≤ g ∧ .failed g error∈h₂

/-- What may be told to a call. -/
def Answers (history : List (Fact M)) (c : Nat) : Outcome M → Prop
  | .ok measurement => FreshMeasurement history c measurement
  | .unavailable => False
  | .failed error => FreshFailure history c error
  | .terminal _ => True
  | .timeout => True

/-- The generation was seen to, or the worker is at it. -/
def Settled (s : State M) (g : Nat) : Prop :=
  (∃ measurement, .completed g measurement∈s.history) ∨ (∃ error, .failed g error∈s.history) ∨
    (s.worker=.refreshing g ∧ .begun g∈s.history)

/-- The generation began and then gave the measurement. -/
def Measured (history : List (Fact M)) (g : Nat) (measurement : M) : Prop :=
  ∃ h₁ h₂, history=h₁++.begun g::h₂ ∧ .completed g measurement∈h₂

structure Inv (s : State M) : Prop where
  started_le : s.gate.startedGeneration ≤ s.gate.requestedGeneration
  requested_le : s.gate.requestedGeneration ≤ s.gate.startedGeneration+1
  completed_le : s.gate.completedGeneration ≤ s.gate.startedGeneration
  /-- The measurement kept is of the last completed generation, which began before. -/
  measured : 0 < s.gate.completedGeneration → ∃ measurement,
    s.gate.completedMeasurement=some (s.gate.completedGeneration,measurement) ∧
    Measured s.history s.gate.completedGeneration measurement
  failure : ∀ g error, s.gate.failedGeneration=some (g,error) → .failed g error∈s.history
  /-- What the history says began or failed is not ahead of the gate. -/
  begun_le : ∀ g, .begun g∈s.history → g ≤ s.gate.startedGeneration
  failed_le : ∀ g error, .failed g error∈s.history → g ≤ s.gate.startedGeneration
  working : ∀ g, s.worker=.refreshing g → s.gate.completedGeneration < g ∧
    g ≤ s.gate.startedGeneration ∧ .begun g∈s.history
  /-- A wake-up that is said to be queued is for a generation not yet begun. -/
  wake : s.gate.wakeQueued=true → s.gate.startedGeneration < s.gate.requestedGeneration
  carried : s.gate.startedGeneration < s.gate.requestedGeneration →
    s.gate.terminalError=none → Carried s
  settled : s.gate.terminalError=none → ∀ g, 0 < g → g ≤ s.gate.startedGeneration → Settled s g
  asked : ∀ c target, (s.calls c).target=some target → 0 < target ∧
    target ≤ s.gate.requestedGeneration ∧ Fresh s.history c target
  told : ∀ c outcome, (s.calls c).outcome=some outcome → Answers s.history c outcome
  registered_le : ∀ c target, .registered c target∈s.history →
    0 < target ∧ target ≤ s.gate.requestedGeneration

section Histories
variable {history : List (Fact M)} {c target : Nat}

theorem Fresh.append (h : Fresh history c target) (facts : List (Fact M)) :
    Fresh (history++facts) c target := by
  obtain ⟨h₁,h₂,he,hnew⟩ := h
  exact ⟨h₁,h₂++facts,by simp [he],hnew⟩

theorem FreshMeasurement.append {measurement : M} (h : FreshMeasurement history c measurement)
    (facts : List (Fact M)) : FreshMeasurement (history++facts) c measurement := by
  obtain ⟨target,h₁,h₂,h₃,g,he,hg,hm⟩ := h
  exact ⟨target,h₁,h₂,h₃++facts,g,by simp [he],hg,by simp [hm]⟩

theorem FreshFailure.append {error : String} (h : FreshFailure history c error)
    (facts : List (Fact M)) : FreshFailure (history++facts) c error := by
  obtain ⟨target,h₁,h₂,g,he,hg,hm⟩ := h
  exact ⟨target,h₁,h₂++facts,g,by simp [he],hg,by simp [hm]⟩

theorem Measured.append {g : Nat} {measurement : M} (h : Measured history g measurement)
    (facts : List (Fact M)) : Measured (history++facts) g measurement := by
  obtain ⟨h₁,h₂,he,hm⟩ := h
  exact ⟨h₁,h₂++facts,by simp [he],by simp [hm]⟩

theorem Answers.append {outcome : Outcome M} (h : Answers history c outcome)
    (facts : List (Fact M)) : Answers (history++facts) c outcome := by
  cases outcome with
  | ok measurement => exact FreshMeasurement.append h facts
  | unavailable => exact h
  | terminal error => trivial
  | failed error => exact FreshFailure.append h facts
  | timeout => trivial

/-- A generation at or past the target that began, began after the call registered. -/
theorem Fresh.measurement {measurement : M} {g : Nat} (h : Fresh history c target)
    (hg : target ≤ g) (hgm : Measured history g measurement) :
    FreshMeasurement history c measurement := by
  obtain ⟨h₁,h₂,he,hnew⟩ := h
  obtain ⟨x,y,hb,hm⟩ := hgm
  obtain ⟨z,hz⟩ := later_of_split (by simp) (hnew g hg).1 (hb.symm.trans he)
  refine ⟨target,h₁,z,y,g,?_,hg,hm⟩
  rw [he,hz,List.append_assoc,List.cons_append]

theorem Fresh.failure {error : String} {g : Nat} (h : Fresh history c target) (hg : target ≤ g)
    (hf : .failed g error∈history) : FreshFailure history c error := by
  obtain ⟨h₁,h₂,he,hnew⟩ := h
  refine ⟨target,h₁,h₂,g,he,hg,?_⟩
  rw [he,List.mem_append,List.mem_cons] at hf
  exact (hf.resolve_left ((hnew g hg).2 error)).resolve_left (by simp)

theorem Settled.append {s s' : State M} {g : Nat} (h : Settled s g) {facts : List (Fact M)}
    (hh : s'.history=s.history++facts) (hw : s'.worker=s.worker) : Settled s' g := by
  rw [Settled,hh,hw]
  cases h with
  | inl hd => exact .inl (hd.imp fun _ hm => List.mem_append_left _ hm)
  | inr hrest =>
    cases hrest with
    | inl hf => exact .inr (.inl (hf.imp fun _ hm => List.mem_append_left _ hm))
    | inr hwork => exact .inr (.inr ⟨hwork.1,List.mem_append_left _ hwork.2⟩)

end Histories

section Steps
variable {s : State M} {c target : Nat}

@[simp] theorem setCall_self (s : State M) (c : Nat) (call : Call M) :
    (s.setCall c call).calls c=call := by simp [State.setCall]

theorem setCall_other (s : State M) {c c' : Nat} (call : Call M) (h : c'≠c) :
    (s.setCall c call).calls c'=s.calls c' := by simp [State.setCall,h]

/-- What one look at the gate answers is true of the history. -/
theorem Inv.check (h : Inv s) (hc : s.calls c=.waiting target) {outcome : Outcome M}
    (ho : s.gate.check target=some outcome) : Answers s.history c outcome := by
  obtain ⟨hpos,_,hfresh⟩ := h.asked c target (by rw [hc]; rfl)
  simp only [RefreshGateState.check] at ho
  split at ho
  · next hdone =>
    obtain ⟨measurement,hm,hgm⟩ := h.measured (by omega)
    rw [hm] at ho
    cases ho
    exact hfresh.measurement hdone hgm
  · split at ho
    · cases ho
      trivial
    · split at ho
      · next g error hf =>
        split at ho
        · next hle =>
          cases ho
          exact hfresh.failure hle (h.failure g error hf)
        · cases ho
      · cases ho

/-- A step of one call that leaves the gate and the history alone. -/
theorem Inv.setCall (h : Inv s) (c : Nat) (call : Call M) {queued : Nat}
    (hqueued : s.queued ≤ queued)
    (htarget : ∀ target, call.target=some target → (s.calls c).target=some target)
    (hsched : ∀ target, (s.calls c).schedules target → call.schedules target ∨ 0 < queued)
    (hout : ∀ outcome, call.outcome=some outcome → Answers s.history c outcome) :
    Inv (({ s with queued := queued } : State M).setCall c call) := by
  refine ⟨h.started_le,h.requested_le,h.completed_le,h.measured,h.failure,h.begun_le,h.failed_le,
    h.working,h.wake,?_,h.settled,?_,?_,h.registered_le⟩
  · intro hlt hterm
    cases h.carried hlt hterm with
    | inl hq => exact .inl (by have : s.queued ≤ queued := hqueued; show 0 < queued; omega)
    | inr hrest =>
      cases hrest with
      | inl hw => exact .inr (.inl hw)
      | inr hs =>
        obtain ⟨c',hc'⟩ := hs
        by_cases hcc : c'=c
        · rw [hcc] at hc'
          cases hsched _ hc' with
          | inl hnew => exact .inr (.inr ⟨c,by rw [setCall_self]; exact hnew⟩)
          | inr hq => exact .inl hq
        · exact .inr (.inr ⟨c',by rw [setCall_other _ _ hcc]; exact hc'⟩)
  · intro c' target ht
    by_cases hcc : c'=c
    · rw [hcc,setCall_self] at ht
      rw [hcc]
      exact h.asked c target (htarget target ht)
    · rw [setCall_other _ _ hcc] at ht
      exact h.asked c' target ht
  · intro c' outcome ho
    by_cases hcc : c'=c
    · rw [hcc,setCall_self] at ho
      rw [hcc]
      exact hout outcome ho
    · rw [setCall_other _ _ hcc] at ho
      exact h.told c' outcome ho

theorem Inv.finishWait (h : Inv s) : Inv { s with gate := s.gate.finishWait } :=
  ⟨h.started_le,h.requested_le,h.completed_le,h.measured,h.failure,h.begun_le,h.failed_le,
    h.working,h.wake,h.carried,h.settled,h.asked,h.told,h.registered_le⟩

/-- A call registers before the counter of generations is exhausted. -/
theorem Inv.register (h : Inv s) (hroom : s.gate.startedGeneration < u64Max)
    (hc : s.calls c=.idle) {schedule : Bool} {gate : RefreshGateState M}
    (hreg : s.gate.register=(target,schedule,gate)) :
    Inv ((({ s with gate := gate } : State M).setCall c
      (if schedule then .scheduling target else .waiting target)).note (.registered c target)) := by
  have hs := h.started_le
  have hr := h.requested_le
  simp only [RefreshGateState.register,Prod.mk.injEq] at hreg
  obtain ⟨htarget,hschedule,rfl⟩ := hreg
  have hnew : s.gate.startedGeneration < target ∧ target ≤ s.gate.startedGeneration+1 ∧
      s.gate.requestedGeneration ≤ target := by
    rw [← htarget]
    simp only [satAdd]
    split <;> omega
  refine ⟨?_,?_,h.completed_le,?_,?_,?_,?_,?_,?_,?_,?_,?_,?_,?_⟩
  · simp only [State.note,State.setCall,htarget]
    omega
  · simp only [State.note,State.setCall,htarget]
    omega
  · intro hpos
    obtain ⟨measurement,hm,hgm⟩ := h.measured hpos
    exact ⟨measurement,hm,hgm.append _⟩
  · intro g error hf
    simp only [State.note,State.setCall] at hf
    split at hf
    · cases hf
    · exact List.mem_append_left _ (h.failure g error hf)
  · intro g hg
    exact h.begun_le g (by simpa [State.note,State.setCall] using hg)
  · intro g error hg
    exact h.failed_le g error (by simpa [State.note,State.setCall] using hg)
  · intro g hg
    obtain ⟨hlt,hle,hb⟩ := h.working g hg
    exact ⟨hlt,hle,List.mem_append_left _ hb⟩
  · intro _
    simp only [State.note,State.setCall,htarget]
    exact hnew.1
  · intro _ hterm
    cases hschedule' : schedule with
    | true =>
      refine .inr (.inr ⟨c,.inl ?_⟩)
      simp [State.note,State.setCall,htarget]
    | false =>
      -- The wake-up already queued is for the generation this call joins.
      rw [hschedule'] at hschedule
      have hw : s.gate.wakeQueued=true := by simpa using hschedule
      have hlt := h.wake hw
      have hsame : target=s.gate.requestedGeneration := by
        rw [← htarget,if_neg (by omega)]
      cases h.carried hlt hterm with
      | inl hq => exact .inl hq
      | inr hrest =>
        cases hrest with
        | inl hworker => exact .inr (.inl hworker)
        | inr hex =>
          obtain ⟨c',hc'⟩ := hex
          have hcc : c'≠c := by
            intro hcc
            rw [hcc,hc] at hc'
            simp [Call.schedules] at hc'
          refine .inr (.inr ⟨c',?_⟩)
          simp only [State.note,State.setCall,htarget,hsame,if_neg hcc]
          exact hc'
  · intro hterm g hpos hle
    exact (h.settled hterm g hpos hle).append rfl rfl
  · intro c' t ht
    simp only [State.note,State.setCall,htarget] at ht ⊢
    by_cases hcc : c'=c
    · have htt : t=target := by
        rw [if_pos hcc] at ht
        split at ht <;> exact (Option.some.inj ht).symm
      rw [htt,hcc]
      refine ⟨by omega,Nat.le_refl _,s.history,[],by simp,?_⟩
      intro g hg
      refine ⟨fun hb => ?_,fun error hf => ?_⟩
      · have := h.begun_le g hb
        omega
      · have := h.failed_le g error hf
        omega
    · rw [if_neg hcc] at ht
      obtain ⟨hpos,hle,hfresh⟩ := h.asked c' t ht
      exact ⟨hpos,by omega,hfresh.append _⟩
  · intro c' outcome ho
    simp only [State.note,State.setCall] at ho
    by_cases hcc : c'=c
    · rw [if_pos hcc] at ho
      split at ho <;> cases ho
    · rw [if_neg hcc] at ho
      exact (h.told c' outcome ho).append _
  · intro c' t ht
    simp only [State.note,State.setCall,htarget,List.mem_append,List.mem_singleton,
      Fact.registered.injEq] at ht ⊢
    cases ht with
    | inl hold =>
      obtain ⟨hpos,hle⟩ := h.registered_le c' t hold
      exact ⟨hpos,by omega⟩
    | inr hnewFact =>
      rw [hnewFact.2]
      exact ⟨by omega,Nat.le_refl _⟩

/-- The scheduler whose send failed fails its own generation. -/
theorem Inv.recordSendFailure (h : Inv s) {error : SendError}
    (hc : s.calls c=.sendFailed target error) :
    Inv ((({ s with gate := s.gate.fail target error.message } : State M).setCall c
      (.finishing (.failed error.message))).note (.failed target error.message)) := by
  obtain ⟨hpos,hle,hfresh⟩ := h.asked c target (by rw [hc]; rfl)
  have hs := h.started_le
  have hr := h.requested_le
  refine ⟨?_,?_,?_,?_,?_,?_,?_,?_,?_,?_,?_,?_,?_,?_⟩
  · exact Nat.max_le.mpr ⟨hs,hle⟩
  · exact hr.trans (Nat.succ_le_succ (Nat.le_max_left _ _))
  · exact h.completed_le.trans (Nat.le_max_left _ _)
  · intro hpos
    obtain ⟨measurement,hm,hgm⟩ := h.measured hpos
    exact ⟨measurement,hm,hgm.append _⟩
  · intro g error' hf
    simp only [State.note,State.setCall,RefreshGateState.fail,Option.some.injEq,
      Prod.mk.injEq] at hf
    rw [← hf.1,← hf.2]
    simp [State.note]
  · intro g hg
    have := h.begun_le g (by simpa [State.note,State.setCall] using hg)
    exact this.trans (Nat.le_max_left _ _)
  · intro g error' hg
    simp only [State.note,State.setCall,List.mem_append,List.mem_singleton,
      Fact.failed.injEq] at hg
    cases hg with
    | inl hold => exact (h.failed_le g error' hold).trans (Nat.le_max_left _ _)
    | inr hnew =>
      rw [hnew.1]
      exact Nat.le_max_right _ _
  · intro g hg
    obtain ⟨hlt,hgs,hb⟩ := h.working g hg
    exact ⟨hlt,hgs.trans (Nat.le_max_left _ _),List.mem_append_left _ hb⟩
  · intro hw
    cases hw
  · intro hlt hterm
    simp only [State.note,State.setCall,RefreshGateState.fail] at hlt
    have hlow : s.gate.startedGeneration < s.gate.requestedGeneration := by omega
    cases h.carried hlow hterm with
    | inl hq => exact .inl hq
    | inr hrest =>
      cases hrest with
      | inl hw => exact .inr (.inl hw)
      | inr hex =>
        obtain ⟨c',hc'⟩ := hex
        have hcc : c'≠c := by
          intro hcc
          have htarget : target=s.gate.requestedGeneration := by
            rw [hcc,hc] at hc'
            simpa [Call.schedules] using hc'
          omega
        refine .inr (.inr ⟨c',?_⟩)
        simp only [State.note,State.setCall,if_neg hcc]
        exact hc'
  · intro hterm g hg hgs
    by_cases hold : g ≤ s.gate.startedGeneration
    · exact (h.settled hterm g hg hold).append rfl rfl
    · simp only [State.note,State.setCall,RefreshGateState.fail] at hgs
      have htarget : g=target := by omega
      rw [htarget]
      exact .inr (.inl ⟨error.message,by simp [State.note]⟩)
  · intro c' t ht
    by_cases hcc : c'=c
    · simp [State.note,State.setCall,hcc,Call.target] at ht
    · simp only [State.note,State.setCall,if_neg hcc] at ht
      obtain ⟨htpos,htle,htfresh⟩ := h.asked c' t ht
      exact ⟨htpos,htle,htfresh.append _⟩
  · intro c' outcome ho
    by_cases hcc : c'=c
    · simp only [State.note,State.setCall,hcc,if_true,Call.outcome,Option.some.injEq] at ho
      rw [← ho,hcc]
      exact (hfresh.append _).failure (Nat.le_refl _) (by simp)
    · simp only [State.note,State.setCall,if_neg hcc] at ho
      exact (h.told c' outcome ho).append _
  · intro c' t ht
    exact h.registered_le c' t (by simpa [State.note,State.setCall] using ht)

theorem Inv.receive (h : Inv s) (hw : s.worker=.idle) :
    Inv { s with worker := .received, queued := s.queued-1 } := by
  refine ⟨h.started_le,h.requested_le,h.completed_le,h.measured,h.failure,h.begun_le,h.failed_le,
    ?_,h.wake,fun _ _ => .inr (.inl rfl),?_,h.asked,h.told,h.registered_le⟩
  · intro g hg
    cases hg
  · intro hterm g hpos hle
    exact (h.settled hterm g hpos hle).imp_right (Or.imp_right fun hwork => by
      rw [hw] at hwork
      cases hwork.1)

theorem Inv.skip (h : Inv s) (hw : s.worker=.received) {gate : RefreshGateState M}
    (hb : s.gate.beginGeneration=(none,gate)) : Inv { s with worker := .idle, gate := gate } := by
  simp only [RefreshGateState.beginGeneration] at hb
  split at hb
  · next hle =>
    cases hb
    refine ⟨h.started_le,h.requested_le,h.completed_le,h.measured,h.failure,h.begun_le,
      h.failed_le,?_,?_,?_,?_,h.asked,h.told,h.registered_le⟩
    · intro g hg
      cases hg
    · intro hwake
      cases hwake
    · intro hlt
      exact absurd hle (Nat.not_le.mpr hlt)
    · intro hterm g hpos hgs
      exact (h.settled hterm g hpos hgs).imp_right (Or.imp_right fun hwork => by
        rw [hw] at hwork
        cases hwork.1)
  · cases hb

theorem Inv.begin (h : Inv s) (hw : s.worker=.received) {generation : Nat}
    {gate : RefreshGateState M} (hb : s.gate.beginGeneration=(some generation,gate)) :
    Inv (({ s with worker := .refreshing generation, gate := gate } : State M).note
      (.begun generation)) := by
  simp only [RefreshGateState.beginGeneration] at hb
  split at hb
  · cases hb
  · next hlt =>
    cases hb
    have hs := h.started_le
    have hr := h.requested_le
    have hcomp := h.completed_le
    refine ⟨Nat.le_refl _,Nat.le_succ _,hcomp.trans hs,?_,?_,?_,?_,?_,?_,?_,?_,?_,?_,?_⟩
    · intro hpos
      obtain ⟨measurement,hm,hgm⟩ := h.measured hpos
      exact ⟨measurement,hm,hgm.append _⟩
    · intro g error hf
      exact List.mem_append_left _ (h.failure g error hf)
    · intro g hg
      simp only [State.note,List.mem_append,List.mem_singleton,Fact.begun.injEq] at hg
      cases hg with
      | inl hold => exact (h.begun_le g hold).trans hs
      | inr hnew => exact Nat.le_of_eq hnew
    · intro g error hg
      exact (h.failed_le g error (by simpa [State.note] using hg)).trans hs
    · intro g hg
      cases hg
      refine ⟨?_,Nat.le_refl _,by simp [State.note]⟩
      simp only [State.note]
      omega
    · intro hwake
      cases hwake
    · intro hself
      exact absurd hself (Nat.lt_irrefl _)
    · intro hterm g hpos hgs
      by_cases hold : g ≤ s.gate.startedGeneration
      · cases h.settled hterm g hpos hold with
        | inl hd => exact .inl (hd.imp fun _ hm => List.mem_append_left _ hm)
        | inr hrest =>
          cases hrest with
          | inl hf => exact .inr (.inl (hf.imp fun _ hm => List.mem_append_left _ hm))
          | inr hwork =>
            rw [hw] at hwork
            cases hwork.1
      · simp only [State.note] at hgs
        have hreq : g=s.gate.requestedGeneration := by omega
        rw [hreq]
        exact .inr (.inr ⟨rfl,by simp [State.note]⟩)
    · intro c t ht
      obtain ⟨hpos,hle,hfresh⟩ := h.asked c t ht
      exact ⟨hpos,hle,hfresh.append _⟩
    · intro c outcome ho
      exact (h.told c outcome ho).append _
    · intro c t ht
      exact h.registered_le c t (by simpa [State.note] using ht)

/-- A worker back from a refresh leaves nobody uncarried. -/
theorem Inv.carried_of_refreshing (h : Inv s) {generation : Nat}
    (hw : s.worker=.refreshing generation)
    (hlt : s.gate.startedGeneration < s.gate.requestedGeneration)
    (hterm : s.gate.terminalError=none) :
    0 < s.queued ∨ ∃ c, (s.calls c).schedules s.gate.requestedGeneration := by
  cases h.carried hlt hterm with
  | inl hq => exact .inl hq
  | inr hrest =>
    refine .inr (hrest.resolve_left ?_)
    rw [hw]
    simp

theorem Inv.complete (h : Inv s) {generation : Nat} (hw : s.worker=.refreshing generation)
    (measurement : M) :
    Inv (({ s with worker := .idle, gate := s.gate.complete generation measurement } :
      State M).note (.completed generation measurement)) := by
  obtain ⟨hlt,hgs,hb⟩ := h.working generation hw
  have hmax : max s.gate.completedGeneration generation=generation := Nat.max_eq_right hlt.le
  refine ⟨h.started_le,h.requested_le,?_,?_,?_,?_,?_,?_,h.wake,?_,?_,?_,?_,?_⟩
  · exact Nat.max_le.mpr ⟨h.completed_le,hgs⟩
  · intro _
    obtain ⟨h₁,h₂,he⟩ := List.append_of_mem hb
    simp only [State.note,RefreshGateState.complete,hmax]
    exact ⟨measurement,rfl,h₁,h₂++[.completed generation measurement],by simp [he],by simp⟩
  · intro g error hf
    exact List.mem_append_left _ (h.failure g error hf)
  · intro g hg
    exact h.begun_le g (by simpa [State.note] using hg)
  · intro g error hg
    exact h.failed_le g error (by simpa [State.note] using hg)
  · intro g hg
    cases hg
  · intro hsr hterm
    exact (h.carried_of_refreshing hw hsr hterm).imp_right .inr
  · intro hterm g hpos hle
    cases h.settled hterm g hpos hle with
    | inl hd => exact .inl (hd.imp fun _ hm => List.mem_append_left _ hm)
    | inr hrest =>
      cases hrest with
      | inl hf => exact .inr (.inl (hf.imp fun _ hm => List.mem_append_left _ hm))
      | inr hwork =>
        rw [hw,Worker.refreshing.injEq] at hwork
        rw [← hwork.1]
        exact .inl ⟨measurement,by simp [State.note]⟩
  · intro c t ht
    obtain ⟨hpos,hle,hfresh⟩ := h.asked c t ht
    exact ⟨hpos,hle,hfresh.append _⟩
  · intro c outcome ho
    exact (h.told c outcome ho).append _
  · intro c t ht
    exact h.registered_le c t (by simpa [State.note] using ht)

theorem Inv.fail (h : Inv s) {generation : Nat} (hw : s.worker=.refreshing generation)
    (error : String) :
    Inv (({ s with worker := .idle, gate := s.gate.fail generation error } : State M).note
      (.failed generation error)) := by
  obtain ⟨hlt,hgs,hb⟩ := h.working generation hw
  have hmax : max s.gate.startedGeneration generation=s.gate.startedGeneration :=
    Nat.max_eq_left hgs
  refine ⟨?_,?_,?_,?_,?_,?_,?_,?_,?_,?_,?_,?_,?_,?_⟩
  · simpa only [State.note,RefreshGateState.fail,hmax] using h.started_le
  · simpa only [State.note,RefreshGateState.fail,hmax] using h.requested_le
  · simpa only [State.note,RefreshGateState.fail,hmax] using h.completed_le
  · intro hpos
    obtain ⟨measurement,hm,hgm⟩ := h.measured hpos
    exact ⟨measurement,hm,hgm.append _⟩
  · intro g error' hf
    simp only [State.note,RefreshGateState.fail,Option.some.injEq,Prod.mk.injEq] at hf
    rw [← hf.1,← hf.2]
    simp [State.note]
  · intro g hg
    simp only [State.note,RefreshGateState.fail,hmax]
    exact h.begun_le g (by simpa [State.note] using hg)
  · intro g error' hg
    simp only [State.note,RefreshGateState.fail,hmax,List.mem_append,List.mem_singleton,
      Fact.failed.injEq] at hg ⊢
    cases hg with
    | inl hold => exact h.failed_le g error' hold
    | inr hnew =>
      rw [hnew.1]
      exact hgs
  · intro g hg
    cases hg
  · intro hwake
    cases hwake
  · intro hsr hterm
    simp only [State.note,RefreshGateState.fail,hmax] at hsr
    exact (h.carried_of_refreshing hw hsr hterm).imp_right .inr
  · intro hterm g hpos hle
    simp only [State.note,RefreshGateState.fail,hmax] at hle
    cases h.settled hterm g hpos hle with
    | inl hd => exact .inl (hd.imp fun _ hm => List.mem_append_left _ hm)
    | inr hrest =>
      cases hrest with
      | inl hf => exact .inr (.inl (hf.imp fun _ hm => List.mem_append_left _ hm))
      | inr hwork =>
        rw [hw,Worker.refreshing.injEq] at hwork
        rw [← hwork.1]
        exact .inr (.inl ⟨error,by simp [State.note]⟩)
  · intro c t ht
    obtain ⟨hpos,hle,hfresh⟩ := h.asked c t ht
    exact ⟨hpos,hle,hfresh.append _⟩
  · intro c outcome ho
    exact (h.told c outcome ho).append _
  · intro c t ht
    exact h.registered_le c t (by simpa [State.note] using ht)

theorem Inv.terminate (h : Inv s) (error : String) :
    Inv { s with gate := s.gate.terminate error } := by
  refine ⟨h.started_le,h.requested_le,h.completed_le,h.measured,h.failure,h.begun_le,h.failed_le,
    h.working,h.wake,?_,?_,h.asked,h.told,h.registered_le⟩
  · intro _ hterm
    cases hterm
  · intro hterm
    cases hterm

theorem Inv.stop (h : Inv s) {error : String} (hterm : s.gate.terminalError=some error) :
    Inv { s with worker := .stopped, queued := 0 } := by
  refine ⟨h.started_le,h.requested_le,h.completed_le,h.measured,h.failure,h.begun_le,h.failed_le,
    ?_,h.wake,?_,?_,h.asked,h.told,h.registered_le⟩
  · intro g hg
    cases hg
  · intro _ hnone
    rw [hterm] at hnone
    cases hnone
  · intro hnone
    rw [hterm] at hnone
    cases hnone

end Steps

theorem init_inv : Inv ({} : State M) := by
  refine ⟨Nat.le_refl _,Nat.le_succ _,Nat.le_refl _,?_,?_,?_,?_,?_,?_,?_,?_,?_,?_,?_⟩
  · intro hpos
    cases hpos
  · intro g error hf
    cases hf
  · intro g hg
    cases hg
  · intro g error hg
    cases hg
  · intro g hg
    cases hg
  · intro hw
    cases hw
  · intro hlt
    cases hlt
  · intro _ g hpos hle
    exact absurd hle (Nat.not_le.mpr hpos)
  · intro c target ht
    cases ht
  · intro c outcome ho
    cases ho
  · intro c target ht
    cases ht

theorem step_inv {s s' : State M} (hroom : s.gate.startedGeneration < u64Max) (h : Inv s)
    (hstep : Step s s') : Inv s' := by
  cases hstep with
  | refused c hc _ =>
    exact h.setCall c _ (Nat.le_refl _) (by simp [Call.target])
      (by simp [hc,Call.schedules]) (by simp [Call.outcome,Answers])
  | terminated c error hc _ =>
    exact h.setCall c _ (Nat.le_refl _) (by simp [Call.target])
      (by simp [hc,Call.schedules]) (by simp [Call.outcome,Answers])
  | register c target schedule gate hc _ hreg => exact h.register hroom hc hreg
  | sendOk c target hc _ =>
    exact h.setCall c _ (Nat.le_succ _) (by simp [hc,Call.target]) (by simp)
      (by simp [Call.outcome])
  | sendFailed c target error hc =>
    exact h.setCall c _ (Nat.le_refl _) (by simp [hc,Call.target])
      (by simp [hc,Call.schedules]) (by simp [Call.outcome])
  | recordSendFailure c target error hc => exact h.recordSendFailure hc
  | check c target outcome hc ho =>
    have hanswer := h.check hc ho
    refine h.setCall c _ (Nat.le_refl _) (by simp [Call.target]) (by simp [hc,Call.schedules]) ?_
    intro outcome' ho'
    cases ho'
    exact hanswer
  | timeout c target hc =>
    exact h.setCall c _ (Nat.le_refl _) (by simp [Call.target])
      (by simp [hc,Call.schedules]) (by simp [Call.outcome,Answers])
  | finish c outcome hc =>
    have htold := h.told c outcome (by rw [hc]; rfl)
    refine h.finishWait.setCall c _ (Nat.le_refl _) (by simp [Call.target])
      (by simp [hc,Call.schedules]) ?_
    intro outcome' ho'
    cases ho'
    exact htold
  | receive hw _ => exact h.receive hw
  | skip gate hw hb => exact h.skip hw hb
  | «begin» generation gate hw hb => exact h.begin hw hb
  | complete generation measurement hw => exact h.complete hw measurement
  | fail generation error hw => exact h.fail hw error
  | shutdown =>
    exact ⟨h.started_le,h.requested_le,h.completed_le,h.measured,h.failure,h.begun_le,
      h.failed_le,h.working,h.wake,h.carried,h.settled,h.asked,h.told,h.registered_le⟩
  | terminate error => exact h.terminate error
  | stop error hterm => exact h.stop hterm

/-- No step takes a started generation back. -/
theorem started_mono {s s' : State M} (hstep : Step s s') :
    s.gate.startedGeneration ≤ s'.gate.startedGeneration := by
  cases hstep with
  | register c target schedule gate _ _ hreg =>
    simp only [RefreshGateState.register,Prod.mk.injEq] at hreg
    simp [State.note,State.setCall,← hreg.2.2]
  | recordSendFailure c target error _ => exact Nat.le_max_left _ _
  | skip gate _ hb =>
    simp only [RefreshGateState.beginGeneration] at hb
    split at hb <;> cases hb
    exact Nat.le_refl _
  | «begin» generation gate _ hb =>
    simp only [RefreshGateState.beginGeneration] at hb
    split at hb <;> cases hb
    simp only [State.note]
    omega
  | fail generation error _ => exact Nat.le_max_left _ _
  | _ => exact Nat.le_refl _

/-- Until generation 2^64-1 starts, every reachable state keeps the invariant. -/
theorem reachable_inv {s : State M} (h : Reachable s)
    (hroom : s.gate.startedGeneration < u64Max) : Inv s := by
  induction h with
  | init => exact init_inv
  | step _ hstep ih =>
    have hlt := (started_mono hstep).trans_lt hroom
    exact step_inv hlt (ih hlt) hstep

end BatCave.RuntimeStore.Refresh
