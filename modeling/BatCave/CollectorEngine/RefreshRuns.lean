import BatCave.CollectorEngine.RefreshMoves
import BatCave.Lib.History

/-! What callers of `refresh_now` get in any interleaving: a collection that began after they
asked, never a result that is gone, and the terminal error once there is one. -/
namespace BatCave.CollectorEngine
open BatCave.Lib.Word BatCave.Lib.History

variable {P : Type} {s s' : State P}

section Generations

/-- The generation that began last. -/
def lastBegun (history : List (Fact P)) : Nat :=
  history.foldl (fun last fact => match fact with
    | .begun generation => generation
    | _ => last) 0

/-- The generations stay one apart, and every call asks for the next. -/
structure Numbers (s : State P) : Prop where
  started_le : s.gate.startedGeneration ≤ s.gate.requestedGeneration
  requested_le : s.gate.requestedGeneration ≤ s.gate.startedGeneration+1
  completed_le : s.gate.completedGeneration ≤ s.gate.startedGeneration
  collecting : ∀ generation, s.worker=.collecting generation →
    generation=s.gate.startedGeneration ∧ .begun generation∈s.history
  begun_le : ∀ generation, .begun generation∈s.history → generation ≤ s.gate.startedGeneration
  last : lastBegun s.history=s.gate.startedGeneration
  asked : ∀ h₁ c target h₂, s.history=h₁++.registered c target::h₂ → target=lastBegun h₁+1

/-- A fact that says nothing about generations. -/
def Fact.aside : Fact P → Bool
  | .registered _ _ => false
  | .begun _ => false
  | _ => true

theorem lastBegun_aside {history : List (Fact P)} {fact : Fact P} (haside : fact.aside=true) :
    lastBegun (history++[fact])=lastBegun history := by
  rw [lastBegun,List.foldl_append]
  cases fact with
  | registered c target => cases haside
  | begun generation => cases haside
  | _ => rfl

theorem numbers_start : Numbers ({} : State P) := by
  refine ⟨Nat.le_refl _,Nat.le_succ _,Nat.le_refl _,nofun,nofun,rfl,?_⟩
  intro h₁ c target h₂ he
  cases h₁ with
  | nil => cases he
  | cons fact h₁ => cases he

/-- A step that leaves the generations and the worker. -/
theorem Numbers.same (h : Numbers s)
    (hrequested : s'.gate.requestedGeneration=s.gate.requestedGeneration)
    (hstarted : s'.gate.startedGeneration=s.gate.startedGeneration)
    (hcompleted : s'.gate.completedGeneration=s.gate.completedGeneration)
    (hworker : ∀ generation, s'.worker=.collecting generation →
      s.worker=.collecting generation) (hhistory : s'.history=s.history) : Numbers s' := by
  refine ⟨?_,?_,?_,?_,?_,?_,?_⟩
  · rw [hstarted,hrequested]
    exact h.started_le
  · rw [hstarted,hrequested]
    exact h.requested_le
  · rw [hstarted,hcompleted]
    exact h.completed_le
  · intro generation hgeneration
    rw [hstarted,hhistory]
    exact h.collecting generation (hworker generation hgeneration)
  · rw [hhistory,hstarted]
    exact h.begun_le
  · rw [hhistory,hstarted]
    exact h.last
  · rw [hhistory]
    exact h.asked

theorem Numbers.aside (h : Numbers s) (fact : Fact P) (haside : fact.aside=true) :
    Numbers (s.note fact) := by
  refine ⟨h.started_le,h.requested_le,h.completed_le,?_,?_,?_,?_⟩
  · intro generation hgeneration
    obtain ⟨hsame,hbegun⟩ := h.collecting generation hgeneration
    exact ⟨hsame,List.mem_append_left _ hbegun⟩
  · intro generation hbegun
    cases List.mem_append.1 hbegun with
    | inl hold => exact h.begun_le generation hold
    | inr hnew =>
      rw [← List.mem_singleton.1 hnew] at haside
      cases haside
  · exact (lastBegun_aside haside).trans h.last
  · intro h₁ c target h₂ he
    cases snoc_split he with
    | inl hnew =>
      rw [← hnew.2.1] at haside
      cases haside
    | inr hold =>
      obtain ⟨h₃,_,he⟩ := hold
      exact h.asked h₁ c target h₃ he

/-- A new call asks for the generation after the one that began last. -/
theorem Numbers.register (h : Numbers s) (hroom : s.gate.startedGeneration < u64Max) {target : Nat}
    {schedule : Bool} {gate : RefreshGateState P}
    (hgate : s.gate.register=(target,schedule,gate)) :
    target=s.gate.startedGeneration+1 ∧ gate.requestedGeneration=target ∧
      gate.startedGeneration=s.gate.startedGeneration ∧
      gate.completedGeneration=s.gate.completedGeneration := by
  have hlow := h.started_le
  have hhigh := h.requested_le
  simp only [RefreshGateState.register,Prod.mk.injEq] at hgate
  obtain ⟨htarget,_,hgate⟩ := hgate
  subst hgate
  refine ⟨?_,htarget,rfl,rfl⟩
  rw [← htarget]
  split
  · next hsame =>
    rw [satAdd]
    omega
  · omega

theorem Numbers.registered (h : Numbers s) (hroom : s.gate.startedGeneration < u64Max)
    {c target : Nat} {schedule : Bool} {gate : RefreshGateState P} {call : Call P}
    (hgate : s.gate.register=(target,schedule,gate)) :
    Numbers (({ s with gate := gate, active := c::s.active }.setCall c call).note
      (.registered c target)) := by
  obtain ⟨htarget,hrequested,hstarted,hcompleted⟩ := h.register hroom hgate
  refine ⟨?_,?_,?_,?_,?_,?_,?_⟩
  · change gate.startedGeneration ≤ gate.requestedGeneration
    omega
  · change gate.requestedGeneration ≤ gate.startedGeneration+1
    omega
  · change gate.completedGeneration ≤ gate.startedGeneration
    rw [hcompleted,hstarted]
    exact h.completed_le
  · intro generation hgeneration
    obtain ⟨hsame,hbegun⟩ := h.collecting generation hgeneration
    exact ⟨hsame.trans hstarted.symm,List.mem_append_left _ hbegun⟩
  · intro generation hbegun
    change generation ≤ gate.startedGeneration
    rw [hstarted]
    cases List.mem_append.1 hbegun with
    | inl hold => exact h.begun_le generation hold
    | inr hnew => cases List.mem_singleton.1 hnew
  · change lastBegun (s.history++[_])=gate.startedGeneration
    rw [hstarted,← h.last,lastBegun,List.foldl_append]
    rfl
  · intro h₁ c' target' h₂ he
    cases snoc_split he with
    | inl hnew =>
      obtain ⟨hh,hfact,_⟩ := hnew
      cases hfact
      have hh : h₁=s.history := hh
      rw [hh,h.last]
      exact htarget
    | inr hold =>
      obtain ⟨h₃,_,he⟩ := hold
      exact h.asked h₁ c' target' h₃ he

theorem Numbers.begun (h : Numbers s) (hlt : s.gate.startedGeneration < s.gate.requestedGeneration)
    (hroom : satAdd s.gate.startedGeneration 1 < u64Max) :
    Numbers ({ s with
      worker := .collecting (satAdd s.gate.startedGeneration 1)
      gate := { s.gate with
        wakeQueued := false
        startedGeneration := satAdd s.gate.startedGeneration 1 } }.note
      (.begun (satAdd s.gate.startedGeneration 1))) := by
  have hnext : satAdd s.gate.startedGeneration 1=s.gate.startedGeneration+1 := by
    rw [satAdd] at hroom ⊢
    omega
  have hhigh := h.requested_le
  have hcompleted := h.completed_le
  rw [hnext]
  refine ⟨hlt,Nat.le_succ_of_le hhigh,Nat.le_succ_of_le hcompleted,?_,?_,?_,?_⟩
  · intro generation hgeneration
    cases hgeneration
    exact ⟨rfl,List.mem_append_right _ (List.mem_singleton.2 rfl)⟩
  · intro generation hbegun
    change generation ≤ s.gate.startedGeneration+1
    cases List.mem_append.1 hbegun with
    | inl hold => exact Nat.le_succ_of_le (h.begun_le generation hold)
    | inr hnew =>
      cases List.mem_singleton.1 hnew
      exact Nat.le_refl _
  · change lastBegun (s.history++[_])=s.gate.startedGeneration+1
    rw [lastBegun,List.foldl_append]
    rfl
  · intro h₁ c target h₂ he
    cases snoc_split he with
    | inl hnew => cases hnew.2.1
    | inr hold =>
      obtain ⟨h₃,_,he⟩ := hold
      exact h.asked h₁ c target h₃ he

theorem Numbers.completed (h : Numbers s) {generation : Nat} (publication : P)
    (hworker : s.worker=.collecting generation) :
    Numbers ({ s with
      worker := .idle
      gate := s.gate.complete generation publication }.notifyAll.note
      (.completed generation publication)) := by
  have hcompleted : Numbers ({ s with
      worker := .idle
      gate := s.gate.complete generation publication }.notifyAll) := by
    refine ⟨h.started_le,h.requested_le,?_,?_,h.begun_le,h.last,h.asked⟩
    · exact (h.collecting generation hworker).1.le
    · intro other hother
      cases hother
  exact hcompleted.aside (.completed generation publication) rfl

theorem Numbers.answer (h : Numbers s) (c : Nat) (call : Call P) (outcome : Outcome P) :
    Numbers ((s.setCall c call).note (.answered c outcome)) := by
  have hsame : Numbers (s.setCall c call) := h.same rfl rfl rfl (fun _ hw => hw) rfl
  exact hsame.aside (.answered c outcome) rfl

/-- Until generation 2^64-1 begins. -/
theorem Numbers.moves (h : Numbers s) (hmoves : Moves s s')
    (hroom : s'.gate.startedGeneration < u64Max) : Numbers s' := by
  cases hmoves with
  | refused c outcome hcall houtcome => exact h.answer c _ outcome
  | registered c target schedule gate hcall hlive hcount hgate =>
    have hstarted : gate.startedGeneration=s.gate.startedGeneration := by
      simp only [RefreshGateState.register,Prod.mk.injEq] at hgate
      rw [← hgate.2.2]
    exact h.registered (hstarted ▸ hroom) hgate
  | moved c target queued call hcall htarget hexpired hsleeping =>
    exact h.same rfl rfl rfl (fun _ hw => hw) rfl
  | expired c target hcall =>
    have hsame : Numbers (s.setCall c (.expired target)) :=
      h.same rfl rfl rfl (fun _ hw => hw) rfl
    exact hsame.aside (.expired c) rfl
  | sendFailed c target error hcall =>
    have hfailed : Numbers ({ s with gate := s.gate.fail target error.message }.notifyAll) :=
      h.same rfl rfl rfl (fun _ hw => hw) rfl
    exact hfailed.answer c _ (.sendFailed error)
  | checked c target outcome hcall houtcome => exact h.answer c _ outcome
  | timeout c target hcall hlate => exact h.answer c _ .timeout
  | finished c outcome hcall => exact h.same rfl rfl rfl (fun _ hw => hw) rfl
  | worked worker queued wakeQueued hworker =>
    exact h.same rfl rfl rfl (fun generation hw => absurd hw (hworker generation)) rfl
  | begun hlt => exact h.begun hlt hroom
  | completed generation publication hworker => exact h.completed publication hworker
  | shutdown => exact h.same rfl rfl rfl (fun _ hw => hw) rfl
  | terminated error =>
    have hended : Numbers ({ s with gate := s.gate.terminate error }.notifyAll) :=
      h.same rfl rfl rfl (fun _ hw => hw) rfl
    exact hended.aside (.terminated error) rfl

end Generations

section Results

/-- The generation began and then gave the publication. -/
def Measured (history : List (Fact P)) (generation : Nat) (publication : P) : Prop :=
  ∃ h₁ h₂, history=h₁++.begun generation::h₂ ∧ .completed generation publication∈h₂

theorem Measured.append {history : List (Fact P)} {generation : Nat} {publication : P}
    (h : Measured history generation publication) (facts : List (Fact P)) :
    Measured (history++facts) generation publication := by
  obtain ⟨h₁,h₂,he,hcompleted⟩ := h
  exact ⟨h₁,h₂++facts,by simp [he],List.mem_append_left _ hcompleted⟩

/-- The result is kept for as long as a call may still ask for it. -/
structure Slots (s : State P) : Prop where
  slot : ∀ generation publication, s.gate.completedPublication=some (generation,publication) →
    generation=s.gate.completedGeneration ∧ Measured s.history generation publication
  count : s.gate.waitingCallers=s.active.length
  nodup : s.active.Nodup
  mem : ∀ c, c∈s.active ↔ (s.calls c).active=true
  kept : ∀ c target, (s.calls c).target=some target → target ≤ s.gate.completedGeneration →
    s.gate.completedPublication≠none

theorem slots_start : Slots ({} : State P) := by
  refine ⟨nofun,rfl,List.nodup_nil,?_,nofun⟩
  intro c
  exact ⟨nofun,nofun⟩

/-- A step that leaves the result and the calls that are counted. -/
theorem Slots.same (h : Slots s)
    (hcompleted : s'.gate.completedGeneration=s.gate.completedGeneration)
    (hpublication : s'.gate.completedPublication=s.gate.completedPublication)
    (hwaiting : s'.gate.waitingCallers=s.gate.waitingCallers) (hactive : s'.active=s.active)
    (hcalls : ∀ c, (s'.calls c).active=(s.calls c).active)
    (htargets : ∀ c target, (s'.calls c).target=some target → (s.calls c).target=some target)
    (facts : List (Fact P)) (hhistory : s'.history=s.history++facts) : Slots s' := by
  refine ⟨?_,?_,?_,?_,?_⟩
  · intro generation publication hslot
    rw [hpublication] at hslot
    obtain ⟨hsame,hmeasured⟩ := h.slot generation publication hslot
    rw [hcompleted,hhistory]
    exact ⟨hsame,hmeasured.append facts⟩
  · rw [hwaiting,hactive]
    exact h.count
  · rw [hactive]
    exact h.nodup
  · intro c
    rw [hactive,hcalls c]
    exact h.mem c
  · intro c target htarget hle
    rw [hcompleted] at hle
    rw [hpublication]
    exact h.kept c target (htargets c target htarget) hle

/-- One call goes to another place behind the gate. -/
theorem Slots.setCall (h : Slots s) {c : Nat} (call : Call P)
    (hactive : call.active=(s.calls c).active)
    (htarget : ∀ target, call.target=some target → (s.calls c).target=some target) :
    Slots (s.setCall c call) := by
  refine h.same rfl rfl rfl rfl ?_ ?_ [] (List.append_nil _).symm
  · intro c'
    simp only [State.setCall]
    split
    · next hsame => rw [hsame,hactive]
    · rfl
  · intro c' target htarget'
    simp only [State.setCall] at htarget'
    split at htarget'
    · next hsame =>
      rw [hsame]
      exact htarget target htarget'
    · exact htarget'

theorem Slots.note (h : Slots s) (fact : Fact P) : Slots (s.note fact) :=
  h.same rfl rfl rfl rfl (fun _ => rfl) (fun _ _ htarget => htarget) [fact] rfl

theorem Slots.notifyAll (h : Slots s) : Slots s.notifyAll := by
  refine h.same rfl rfl rfl rfl ?_ ?_ [] (List.append_nil _).symm
  · intro c
    exact Call.woken_active (s.calls c)
  · intro c target htarget
    rw [← htarget]
    exact (Call.woken_target (s.calls c)).symm

theorem Slots.answer (h : Slots s) {c : Nat} (outcome : Outcome P)
    (hactive : (s.calls c).active=true) : Slots (s.answer c outcome) :=
  (h.setCall (.finishing outcome) hactive.symm nofun).note _

/-- A new call asks for a later generation than the result is of. -/
theorem Slots.registered (h : Slots s) (hnumbers : Numbers s)
    (hroom : s.gate.startedGeneration < u64Max) {c target : Nat} {schedule : Bool}
    {gate : RefreshGateState P} {call : Call P} (hcall : s.calls c=.idle)
    (hcount : s.gate.waitingCallers < u64Max) (htarget : call.target=some target)
    (hgate : s.gate.register=(target,schedule,gate)) :
    Slots (({ s with gate := gate, active := c::s.active }.setCall c call).note
      (.registered c target)) := by
  obtain ⟨hnext,_,_,hcompleted⟩ := hnumbers.register hroom hgate
  have hidle : c∉s.active := by
    rw [h.mem c,hcall]
    exact Bool.false_ne_true
  have hslot : gate.completedPublication=s.gate.completedPublication ∧
      gate.waitingCallers=s.gate.waitingCallers+1 := by
    simp only [RefreshGateState.register,Prod.mk.injEq] at hgate
    rw [← hgate.2.2]
    refine ⟨rfl,?_⟩
    change satAdd s.gate.waitingCallers 1=_
    rw [satAdd]
    omega
  refine Slots.note ⟨?_,?_,?_,?_,?_⟩ _
  · intro generation publication hpublication
    change gate.completedPublication=some (generation,publication) at hpublication
    rw [hslot.1] at hpublication
    obtain ⟨hsame,hmeasured⟩ := h.slot generation publication hpublication
    exact ⟨hsame.trans hcompleted.symm,hmeasured⟩
  · change gate.waitingCallers=s.active.length+1
    rw [hslot.2,h.count]
  · exact List.nodup_cons.2 ⟨hidle,h.nodup⟩
  · intro c'
    simp only [State.setCall,List.mem_cons]
    by_cases hsame : c'=c
    · simp [hsame,Call.active_of_target htarget]
    · simp only [hsame,if_false,false_or]
      exact h.mem c'
  · intro c' target' htarget' hle
    change target' ≤ gate.completedGeneration at hle
    change gate.completedPublication≠none
    rw [hcompleted] at hle
    rw [hslot.1]
    simp only [State.setCall] at htarget'
    split at htarget'
    · rw [htarget] at htarget'
      cases htarget'
      have hstarted := hnumbers.completed_le
      omega
    · exact h.kept c' target' htarget' hle

/-- Only the last call drops the result. -/
theorem Slots.finished (h : Slots s) {c : Nat} {outcome : Outcome P}
    (hcall : s.calls c=.finishing outcome) :
    Slots ({ s with gate := s.gate.finishWait, active := s.active.erase c }.setCall c
      (.returned outcome)) := by
  have hmem : c∈s.active := by
    rw [h.mem c,hcall]
    rfl
  have hlength := List.length_erase_of_mem hmem
  refine ⟨?_,?_,h.nodup.erase c,?_,?_⟩
  · intro generation publication hpublication
    change (if s.gate.waitingCallers-1=0 then none else s.gate.completedPublication)=
      some (generation,publication) at hpublication
    split at hpublication
    · cases hpublication
    · exact h.slot generation publication hpublication
  · change s.gate.waitingCallers-1=(s.active.erase c).length
    rw [h.count,hlength]
  · intro c'
    change c'∈s.active.erase c ↔ (if c'=c then .returned outcome else s.calls c').active=true
    rw [h.nodup.mem_erase_iff]
    by_cases hsame : c'=c
    · simp [hsame,Call.active]
    · simp only [hsame,if_false,ne_eq,not_false_eq_true,true_and]
      exact h.mem c'
  · intro c' target htarget hle
    change (if c'=c then .returned outcome else s.calls c').target=some target at htarget
    split at htarget
    · cases htarget
    · next hother =>
      have hothers : c'∈s.active.erase c := by
        rw [h.nodup.mem_erase_iff]
        exact ⟨hother,(h.mem c').2 (Call.active_of_target htarget)⟩
      have hsome := List.length_pos_of_mem hothers
      change (if s.gate.waitingCallers-1=0 then none else s.gate.completedPublication)≠none
      rw [if_neg (by rw [h.count]; omega)]
      exact h.kept c' target htarget hle

theorem Slots.completed (h : Slots s) {generation : Nat} (publication : P)
    (hbegun : .begun generation∈s.history) :
    Slots ({ s with
      worker := .idle
      gate := s.gate.complete generation publication }.notifyAll.note
      (.completed generation publication)) := by
  refine ⟨?_,h.count,h.nodup,?_,fun _ _ _ _ => nofun⟩
  · intro generation' publication' hpublication
    cases hpublication
    obtain ⟨h₁,h₂,he⟩ := List.append_of_mem hbegun
    refine ⟨rfl,h₁,h₂++[.completed generation publication],?_,?_⟩
    · change s.history++[_]=_
      rw [he,List.append_assoc,List.cons_append]
    · exact List.mem_append_right _ (List.mem_singleton.2 rfl)
  · intro c
    change c∈s.active ↔ (s.calls c).woken.active=true
    rw [Call.woken_active]
    exact h.mem c

theorem Slots.moves (h : Slots s) (hnumbers : Numbers s) (hmoves : Moves s s')
    (hroom : s'.gate.startedGeneration < u64Max) : Slots s' := by
  cases hmoves with
  | refused c outcome hcall houtcome =>
    refine (h.setCall (.returned outcome) ?_ nofun).note _
    rw [hcall]
    rfl
  | registered c target schedule gate hcall hlive hcount hgate =>
    have hstarted : gate.startedGeneration=s.gate.startedGeneration := by
      simp only [RefreshGateState.register,Prod.mk.injEq] at hgate
      rw [← hgate.2.2]
    refine h.registered hnumbers (hstarted ▸ hroom) hcall hcount ?_ hgate
    split
    · rfl
    · rfl
  | moved c target queued call hcall htarget hexpired hsleeping =>
    have hqueued : Slots { s with queued := queued } :=
      ⟨h.slot,h.count,h.nodup,h.mem,h.kept⟩
    refine hqueued.setCall call ?_ ?_
    · exact (Call.active_of_target htarget).trans (Call.active_of_target hcall).symm
    · intro target' htarget'
      rw [htarget] at htarget'
      cases htarget'
      exact hcall
  | expired c target hcall =>
    refine (h.setCall (.expired target) ?_ ?_).note _
    · rw [hcall]
      rfl
    · intro target' htarget'
      rw [hcall]
      exact htarget'
  | sendFailed c target error hcall =>
    have hfailed : Slots { s with gate := s.gate.fail target error.message } :=
      ⟨h.slot,h.count,h.nodup,h.mem,h.kept⟩
    refine hfailed.notifyAll.answer _ ?_
    change (s.calls c).woken.active=true
    rw [hcall]
    rfl
  | checked c target outcome hcall houtcome =>
    refine h.answer outcome ?_
    rw [hcall]
    rfl
  | timeout c target hcall hlate => exact h.answer _ (Call.active_of_target hcall)
  | finished c outcome hcall => exact h.finished hcall
  | worked worker queued wakeQueued hworker => exact ⟨h.slot,h.count,h.nodup,h.mem,h.kept⟩
  | begun hlt =>
    have hbegun : Slots { s with
        worker := .collecting (satAdd s.gate.startedGeneration 1)
        gate := { s.gate with
          wakeQueued := false
          startedGeneration := satAdd s.gate.startedGeneration 1 } } :=
      ⟨h.slot,h.count,h.nodup,h.mem,h.kept⟩
    exact hbegun.note _
  | completed generation publication hworker =>
    exact h.completed publication (hnumbers.collecting generation hworker).2
  | shutdown => exact ⟨h.slot,h.count,h.nodup,h.mem,h.kept⟩
  | terminated error =>
    have hended : Slots { s with gate := s.gate.terminate error } :=
      ⟨h.slot,h.count,h.nodup,h.mem,h.kept⟩
    exact hended.notifyAll.note _

end Results

section Outcomes

/-- No collection of the generation or a later one began before the call registered. -/
def Fresh (history : List (Fact P)) (c target : Nat) : Prop :=
  ∃ h₁ h₂, history=h₁++.registered c target::h₂ ∧
    ∀ generation, target ≤ generation → .begun generation∉h₁

/-- The publication is of a collection that began after the call registered, for the
generation it asked for or a later one. -/
def FreshPublication (history : List (Fact P)) (c : Nat) (publication : P) : Prop :=
  ∃ target h₁ h₂ h₃ generation,
    history=h₁++.registered c target::h₂++.begun generation::h₃ ∧ target ≤ generation ∧
      .completed generation publication∈h₃

/-- What may be told to a call. -/
def Answers (history : List (Fact P)) (c : Nat) : Outcome P → Prop
  | .ok publication => FreshPublication history c publication
  | .unavailable => False
  | .terminal error => .terminated error∈history
  | _ => True

variable {history : List (Fact P)} {c : Nat}

theorem Fresh.append {target : Nat} (h : Fresh history c target) (facts : List (Fact P)) :
    Fresh (history++facts) c target := by
  obtain ⟨h₁,h₂,he,hnew⟩ := h
  exact ⟨h₁,h₂++facts,by simp [he],hnew⟩

theorem Answers.append {outcome : Outcome P} (h : Answers history c outcome)
    (facts : List (Fact P)) : Answers (history++facts) c outcome := by
  cases outcome with
  | ok publication =>
    obtain ⟨target,h₁,h₂,h₃,generation,he,hle,hcompleted⟩ := h
    exact ⟨target,h₁,h₂,h₃++facts,generation,by simp [he],hle,List.mem_append_left _ hcompleted⟩
  | unavailable => exact h
  | terminal error => exact List.mem_append_left _ h
  | _ => exact trivial

/-- What was completed for a call that is fresh is a fresh publication. -/
theorem Fresh.publication {target generation : Nat} {publication : P}
    (h : Fresh history c target) (hmeasured : Measured history generation publication)
    (hle : target ≤ generation) : FreshPublication history c publication := by
  obtain ⟨h₁,h₂,he,hnew⟩ := h
  obtain ⟨k₁,k₂,hk,hcompleted⟩ := hmeasured
  obtain ⟨z,hz⟩ := later_of_split (by simp) (hnew generation hle) (hk.symm.trans he)
  refine ⟨target,h₁,z,k₂,generation,?_,hle,hcompleted⟩
  rw [he,hz,List.append_assoc,List.cons_append]

/-- A call that has left the wait. -/
def Call.outcome : Call P → Option (Outcome P)
  | .finishing outcome => some outcome
  | .returned outcome => some outcome
  | _ => none

structure Told (s : State P) : Prop where
  asked : ∀ c target, (s.calls c).target=some target → Fresh s.history c target
  finished : ∀ c outcome, (s.calls c).outcome=some outcome → .answered c outcome∈s.history
  told : ∀ c outcome, .answered c outcome∈s.history → Answers s.history c outcome
  terminal : ∀ error, s.gate.terminalError=some error → .terminated error∈s.history

theorem told_start : Told ({} : State P) := ⟨nofun,nofun,nofun,nofun⟩

/-- A step by what it adds. -/
theorem Told.extend (h : Told s) (facts : List (Fact P)) (hhistory : s'.history=s.history++facts)
    (hasked : ∀ c target, (s'.calls c).target=some target →
      (s.calls c).target=some target ∨ Fresh s'.history c target)
    (hfinished : ∀ c outcome, (s'.calls c).outcome=some outcome →
      (s.calls c).outcome=some outcome ∨ .answered c outcome∈facts)
    (htold : ∀ c outcome, .answered c outcome∈facts → Answers s'.history c outcome)
    (hterminal : ∀ error, s'.gate.terminalError=some error →
      s.gate.terminalError=some error ∨ .terminated error∈facts) : Told s' := by
  refine ⟨?_,?_,?_,?_⟩
  · intro c target htarget
    cases hasked c target htarget with
    | inl hold =>
      rw [hhistory]
      exact (h.asked c target hold).append facts
    | inr hnew => exact hnew
  · intro c outcome houtcome
    rw [hhistory]
    cases hfinished c outcome houtcome with
    | inl hold => exact List.mem_append_left _ (h.finished c outcome hold)
    | inr hnew => exact List.mem_append_right _ hnew
  · intro c outcome hanswered
    rw [hhistory] at hanswered
    cases List.mem_append.1 hanswered with
    | inl hold =>
      rw [hhistory]
      exact (h.told c outcome hold).append facts
    | inr hnew => exact htold c outcome hnew
  · intro error herror
    rw [hhistory]
    cases hterminal error herror with
    | inl hold => exact List.mem_append_left _ (h.terminal error hold)
    | inr hnew => exact List.mem_append_right _ hnew

@[simp] theorem Call.woken_outcome (call : Call P) : call.woken.outcome=call.outcome := by
  cases call with
  | _ => rfl

/-- A call that is answered, the others at most woken. -/
theorem Told.answer (h : Told s) (calls : Nat → Call P) {call : Call P} {outcome : Outcome P}
    (hhistory : s'.history=s.history++[.answered c outcome])
    (hcalls : ∀ c', s'.calls c'=if c'=c then call else calls c')
    (htargets : ∀ c', (calls c').target=(s.calls c').target)
    (houtcomes : ∀ c', (calls c').outcome=(s.calls c').outcome)
    (hcall : call=.finishing outcome ∨ call=.returned outcome)
    (hterminal : s'.gate.terminalError=s.gate.terminalError)
    (hanswers : Answers s.history c outcome) : Told s' := by
  refine h.extend [.answered c outcome] hhistory ?_ ?_ ?_ ?_
  · intro c' target htarget
    rw [hcalls c'] at htarget
    split at htarget
    · obtain hcall | hcall := hcall
      · rw [hcall] at htarget
        cases htarget
      · rw [hcall] at htarget
        cases htarget
    · rw [htargets c'] at htarget
      exact .inl htarget
  · intro c' outcome' houtcome
    rw [hcalls c'] at houtcome
    split at houtcome
    · next hsame =>
      obtain hcall | hcall := hcall
      · rw [hcall] at houtcome
        cases houtcome
        exact .inr (hsame ▸ List.mem_singleton.2 rfl)
      · rw [hcall] at houtcome
        cases houtcome
        exact .inr (hsame ▸ List.mem_singleton.2 rfl)
    · rw [houtcomes c'] at houtcome
      exact .inl houtcome
  · intro c' outcome' hnew
    cases List.mem_singleton.1 hnew
    rw [hhistory]
    exact hanswers.append _
  · intro error herror
    rw [hterminal] at herror
    exact .inl herror

/-- What a look at the gate says is true, and the result is there. -/
theorem Told.checked (h : Told s) (hslots : Slots s) {target : Nat} {outcome : Outcome P}
    (hcall : s.calls c=.looking target) (houtcome : s.gate.check target=some outcome) :
    Answers s.history c outcome := by
  have htarget : (s.calls c).target=some target := by
    rw [hcall]
    rfl
  rw [RefreshGateState.check] at houtcome
  split at houtcome
  · next error herror =>
    cases houtcome
    exact h.terminal error herror
  · split at houtcome
    · next hle =>
      split at houtcome
      · next generation publication hslot =>
        obtain ⟨hsame,hmeasured⟩ := hslots.slot generation publication hslot
        rw [if_pos (hsame ▸ hle)] at houtcome
        cases houtcome
        exact (h.asked c target htarget).publication hmeasured (hsame ▸ hle)
      · next hnone => exact absurd hnone (hslots.kept c target htarget hle)
    · split at houtcome
      · split at houtcome
        · cases houtcome
          exact trivial
        · cases houtcome
      · cases houtcome

/-- A step after which every call is where it was, or somewhere else with the same target. -/
theorem Told.quiet (h : Told s) (facts : List (Fact P)) (hhistory : s'.history=s.history++facts)
    (htargets : ∀ c target, (s'.calls c).target=some target → (s.calls c).target=some target)
    (houtcomes : ∀ c outcome, (s'.calls c).outcome=some outcome →
      (s.calls c).outcome=some outcome)
    (hfacts : ∀ c outcome, .answered c outcome∉facts)
    (hterminal : ∀ error, s'.gate.terminalError=some error →
      s.gate.terminalError=some error ∨ .terminated error∈facts) : Told s' :=
  h.extend facts hhistory (fun c target htarget => .inl (htargets c target htarget))
    (fun c outcome houtcome => .inl (houtcomes c outcome houtcome))
    (fun c outcome hanswered => absurd hanswered (hfacts c outcome)) hterminal

theorem Told.registered (h : Told s) (hnumbers : Numbers s)
    (hroom : s.gate.startedGeneration < u64Max) {target : Nat} {schedule : Bool}
    {gate : RefreshGateState P} (hlive : s.gate.terminalError=none)
    (hgate : s.gate.register=(target,schedule,gate)) :
    Told (({ s with gate := gate, active := c::s.active }.setCall c
      (if schedule then .scheduling target else .looking target)).note
        (.registered c target)) := by
  obtain ⟨hnext,_,_,_⟩ := hnumbers.register hroom hgate
  refine h.extend [.registered c target] rfl ?_ ?_ ?_ ?_
  · intro c' target' htarget
    change (if c'=c then (if schedule then .scheduling target else .looking target)
      else s.calls c').target=some target' at htarget
    split at htarget
    · next hsame =>
      have htarget' : target'=target := by
        cases schedule with
        | true => exact (Option.some.inj htarget).symm
        | false => exact (Option.some.inj htarget).symm
      refine .inr ⟨s.history,[],?_,?_⟩
      · rw [hsame,htarget']
        rfl
      · intro generation hle hbegun
        have hold := hnumbers.begun_le generation hbegun
        omega
    · exact .inl htarget
  · intro c' outcome houtcome
    change (if c'=c then (if schedule then .scheduling target else .looking target)
      else s.calls c').outcome=some outcome at houtcome
    split at houtcome
    · cases schedule with
      | true => cases houtcome
      | false => cases houtcome
    · exact .inl houtcome
  · intro c' outcome hanswered
    cases List.mem_singleton.1 hanswered
  · intro error herror
    have hsame : gate.terminalError=s.gate.terminalError := by
      simp only [RefreshGateState.register,Prod.mk.injEq] at hgate
      rw [← hgate.2.2]
    change gate.terminalError=some error at herror
    rw [hsame,hlive] at herror
    cases herror

theorem Told.moves (h : Told s) (hnumbers : Numbers s) (hslots : Slots s) (hmoves : Moves s s')
    (hroom : s'.gate.startedGeneration < u64Max) : Told s' := by
  cases hmoves with
  | refused c outcome hcall houtcome =>
    refine h.answer s.calls rfl (fun _ => rfl) (fun _ => rfl) (fun _ => rfl) (.inr rfl) rfl ?_
    obtain houtcome | ⟨error,houtcome,herror⟩ := houtcome
    · rw [houtcome]
      exact trivial
    · rw [houtcome]
      exact h.terminal error herror
  | registered c target schedule gate hcall hlive hcount hgate =>
    have hstarted : gate.startedGeneration=s.gate.startedGeneration := by
      simp only [RefreshGateState.register,Prod.mk.injEq] at hgate
      rw [← hgate.2.2]
    exact h.registered hnumbers (hstarted ▸ hroom) hlive hgate
  | moved c target queued call hcall htarget hexpired hsleeping =>
    refine h.quiet [] (List.append_nil _).symm ?_ ?_ nofun (fun _ herror => .inl herror)
    · intro c' target' htarget'
      change (if c'=c then call else s.calls c').target=some target' at htarget'
      split at htarget'
      · next hsame =>
        rw [hsame,hcall,← htarget]
        exact htarget'
      · exact htarget'
    · intro c' outcome houtcome
      change (if c'=c then call else s.calls c').outcome=some outcome at houtcome
      split at houtcome
      · cases call with
        | finishing outcome' => cases htarget
        | returned outcome' => cases htarget
        | _ => cases houtcome
      · exact houtcome
  | expired c target hcall =>
    refine h.quiet [.expired c] rfl ?_ ?_ (by simp) (fun _ herror => .inl herror)
    · intro c' target' htarget'
      change (if c'=c then .expired target else s.calls c').target=some target' at htarget'
      split at htarget'
      · next hsame =>
        rw [hsame,hcall]
        exact htarget'
      · exact htarget'
    · intro c' outcome houtcome
      change (if c'=c then .expired target else s.calls c').outcome=some outcome at houtcome
      split at houtcome
      · cases houtcome
      · exact houtcome
  | sendFailed c target error hcall =>
    exact h.answer (fun c => (s.calls c).woken) rfl (fun _ => rfl)
      (fun c' => Call.woken_target _) (fun c' => Call.woken_outcome _) (.inl rfl) rfl trivial
  | checked c target outcome hcall houtcome =>
    exact h.answer s.calls rfl (fun _ => rfl) (fun _ => rfl) (fun _ => rfl) (.inl rfl) rfl
      (h.checked hslots hcall houtcome)
  | timeout c target hcall hlate =>
    exact h.answer s.calls rfl (fun _ => rfl) (fun _ => rfl) (fun _ => rfl) (.inl rfl) rfl trivial
  | finished c outcome hcall =>
    refine h.quiet [] (List.append_nil _).symm ?_ ?_ nofun (fun _ herror => .inl herror)
    · intro c' target htarget
      change (if c'=c then .returned outcome else s.calls c').target=some target at htarget
      split at htarget
      · cases htarget
      · exact htarget
    · intro c' outcome' houtcome
      change (if c'=c then .returned outcome else s.calls c').outcome=some outcome' at houtcome
      split at houtcome
      · next hsame =>
        rw [hsame,hcall]
        exact houtcome
      · exact houtcome
  | worked worker queued wakeQueued hworker =>
    exact h.quiet [] (List.append_nil _).symm (fun _ _ ht => ht) (fun _ _ ho => ho) nofun
      (fun _ herror => .inl herror)
  | begun hlt =>
    exact h.quiet [.begun _] rfl (fun _ _ ht => ht) (fun _ _ ho => ho) (by simp)
      (fun _ herror => .inl herror)
  | completed generation publication hworker =>
    exact h.quiet [.completed generation publication] rfl
      (fun c target ht => (Call.woken_target (s.calls c)).symm.trans ht)
      (fun c outcome ho => (Call.woken_outcome (s.calls c)).symm.trans ho) (by simp)
      (fun _ herror => .inl herror)
  | shutdown =>
    exact h.quiet [] (List.append_nil _).symm (fun _ _ ht => ht) (fun _ _ ho => ho) nofun
      (fun _ herror => .inl herror)
  | terminated error =>
    refine h.quiet [.terminated error] rfl
      (fun c target ht => (Call.woken_target (s.calls c)).symm.trans ht)
      (fun c outcome ho => (Call.woken_outcome (s.calls c)).symm.trans ho) (by simp) ?_
    intro error' herror
    cases herror
    exact .inr (List.mem_singleton.2 rfl)

end Outcomes

section Ends

/-- What a call can be told after a terminal error: that error, or that its own time had run
out before, that its own wake-up could not be sent, or that the engine is shutting down. -/
def AfterEnd (before : List (Fact P)) (c : Nat) : Outcome P → Prop
  | .terminal _ => True
  | .shuttingDown => True
  | .sendFailed _ => True
  | .timeout => .expired c∈before
  | _ => False

structure Ends (s : State P) : Prop where
  live : s.gate.terminalError=none → ∀ error, .terminated error∉s.history
  awake : s.gate.terminalError≠none → ∀ c target, s.calls c≠.sleeping target
  noted : ∀ c target, s.calls c=.expired target → .expired c∈s.history
  expired : ∀ c target, s.calls c=.expired target → ∀ h₁ error h₂,
    s.history=h₁++.terminated error::h₂ → .expired c∈h₁
  after : ∀ h₁ error h₂ c outcome, s.history=h₁++.terminated error::h₂ →
    .answered c outcome∈h₂ → AfterEnd h₁ c outcome

theorem ends_start : Ends ({} : State P) := by
  refine ⟨nofun,nofun,nofun,nofun,?_⟩
  intro h₁ error h₂ c outcome he
  cases h₁ with
  | nil => cases he
  | cons fact h₁ => cases he

/-- A step that adds no fact and lets nobody sleep or run out of time. -/
theorem Ends.quiet (h : Ends s) (hterminal : s'.gate.terminalError=s.gate.terminalError)
    (hhistory : s'.history=s.history)
    (hsleeping : s.gate.terminalError≠none → ∀ c target, s'.calls c=.sleeping target →
      s.calls c=.sleeping target)
    (hexpired : ∀ c target, s'.calls c=.expired target → s.calls c=.expired target) : Ends s' := by
  refine ⟨?_,?_,?_,?_,?_⟩
  · rw [hterminal,hhistory]
    exact h.live
  · intro hended c target hcall
    rw [hterminal] at hended
    exact h.awake hended c target (hsleeping hended c target hcall)
  · intro c target hcall
    rw [hhistory]
    exact h.noted c target (hexpired c target hcall)
  · intro c target hcall
    rw [hhistory]
    exact h.expired c target (hexpired c target hcall)
  · rw [hhistory]
    exact h.after

/-- A fact that ends nothing. -/
theorem Ends.note (h : Ends s) (fact : Fact P) (hlive : ∀ error, fact≠.terminated error)
    (hanswered : s.gate.terminalError≠none → ∀ c outcome, fact=.answered c outcome →
      ∀ h₁ error h₂, s.history=h₁++.terminated error::h₂ → AfterEnd h₁ c outcome) :
    Ends (s.note fact) := by
  refine ⟨?_,h.awake,?_,?_,?_⟩
  · intro hterminal error hmem
    cases List.mem_append.1 hmem with
    | inl hold => exact h.live hterminal error hold
    | inr hnew => exact hlive error (List.mem_singleton.1 hnew).symm
  · intro c target hcall
    exact List.mem_append_left _ (h.noted c target hcall)
  · intro c target hcall h₁ error h₂ he
    cases snoc_split he with
    | inl hnew => exact absurd hnew.2.1.symm (hlive error)
    | inr hold =>
      obtain ⟨h₃,_,he⟩ := hold
      exact h.expired c target hcall h₁ error h₃ he
  · intro h₁ error h₂ c outcome he hmem
    cases snoc_split he with
    | inl hnew => exact absurd hnew.2.1.symm (hlive error)
    | inr hold =>
      obtain ⟨h₃,hh,he⟩ := hold
      rw [hh] at hmem
      cases List.mem_append.1 hmem with
      | inl hearlier => exact h.after h₁ error h₃ c outcome he hearlier
      | inr hlast =>
        have hended : s.gate.terminalError≠none := by
          intro hnone
          refine h.live hnone error ?_
          rw [he]
          exact List.mem_append_right _ List.mem_cons_self
        exact hanswered hended c outcome (List.mem_singleton.1 hlast).symm h₁ error h₃ he

theorem Ends.setCall (h : Ends s) (c : Nat) (call : Call P)
    (hexpired : ∀ target, call≠.expired target)
    (hsleeping : ∀ target, call=.sleeping target → s.gate.terminalError=none) :
    Ends (s.setCall c call) := by
  refine h.quiet rfl rfl ?_ ?_
  · intro hended c' target hcall
    change (if c'=c then call else s.calls c')=.sleeping target at hcall
    split at hcall
    · exact absurd (hsleeping target hcall) hended
    · exact hcall
  · intro c' target hcall
    change (if c'=c then call else s.calls c')=.expired target at hcall
    split at hcall
    · exact absurd hcall (hexpired target)
    · exact hcall

theorem Ends.notifyAll (h : Ends s) : Ends s.notifyAll := by
  refine h.quiet rfl rfl ?_ ?_
  · intro _ c target hcall
    exact absurd hcall (Call.woken_ne_sleeping (s.calls c) target)
  · intro c target hcall
    exact Call.of_woken_expired hcall

theorem Ends.answered (h : Ends s) (c : Nat) (call : Call P) (outcome : Outcome P)
    (hcall : call=.finishing outcome ∨ call=.returned outcome)
    (houtcome : s.gate.terminalError≠none → ∀ h₁ error h₂,
      s.history=h₁++.terminated error::h₂ → AfterEnd h₁ c outcome) :
    Ends ((s.setCall c call).note (.answered c outcome)) := by
  have hmoved : Ends (s.setCall c call) := by
    refine h.setCall c call ?_ ?_
    · intro target hsame
      rw [hsame] at hcall
      exact hcall.elim nofun nofun
    · intro target hsame
      rw [hsame] at hcall
      exact hcall.elim nofun nofun
  refine hmoved.note (.answered c outcome) nofun ?_
  intro hended c' outcome' hfact h₁ error h₂ he
  cases hfact
  exact houtcome hended h₁ error h₂ he

theorem Ends.ranOut (h : Ends s) {c target : Nat} (hcall : s.calls c=.sleeping target) :
    Ends ((s.setCall c (.expired target)).note (.expired c)) := by
  have hlive : s.gate.terminalError=none := by
    by_contra hended
    exact h.awake hended c target hcall
  have hnone : ∀ error, .terminated error∉s.history++[.expired c] := by
    intro error hmem
    cases List.mem_append.1 hmem with
    | inl hold => exact h.live hlive error hold
    | inr hnew => cases List.mem_singleton.1 hnew
  refine ⟨fun _ => hnone,fun hended => absurd hlive hended,?_,?_,?_⟩
  · intro c' target' hcall'
    change (if c'=c then .expired target else s.calls c')=.expired target' at hcall'
    split at hcall'
    · next hsame =>
      rw [hsame]
      exact List.mem_append_right _ (List.mem_singleton.2 rfl)
    · exact List.mem_append_left _ (h.noted c' target' hcall')
  · intro c' target' _ h₁ error h₂ he
    refine absurd ?_ (hnone error)
    change s.history++[.expired c]=_ at he
    rw [he]
    exact List.mem_append_right _ List.mem_cons_self
  · intro h₁ error h₂ c' outcome he
    refine absurd ?_ (hnone error)
    change s.history++[.expired c]=_ at he
    rw [he]
    exact List.mem_append_right _ List.mem_cons_self

/-- Whoever sleeps is woken and will find the error. -/
theorem Ends.terminated (h : Ends s) (error : String) :
    Ends ({ s with gate := s.gate.terminate error }.notifyAll.note (.terminated error)) := by
  refine ⟨nofun,fun _ c target => Call.woken_ne_sleeping (s.calls c) target,?_,?_,?_⟩
  · intro c target hcall
    exact List.mem_append_left _ (h.noted c target (Call.of_woken_expired hcall))
  · intro c target hcall h₁ error' h₂ he
    have hcall := Call.of_woken_expired hcall
    cases snoc_split he with
    | inl hnew =>
      rw [hnew.1]
      exact h.noted c target hcall
    | inr hold =>
      obtain ⟨h₃,_,he⟩ := hold
      exact h.expired c target hcall h₁ error' h₃ he
  · intro h₁ error' h₂ c outcome he hmem
    cases snoc_split he with
    | inl hnew =>
      rw [hnew.2.2] at hmem
      cases hmem
    | inr hold =>
      obtain ⟨h₃,hh,he⟩ := hold
      rw [hh] at hmem
      cases List.mem_append.1 hmem with
      | inl hearlier => exact h.after h₁ error' h₃ c outcome he hearlier
      | inr hlast => cases List.mem_singleton.1 hlast

theorem check_terminal {gate : RefreshGateState P} {target : Nat} {outcome : Outcome P}
    (hended : gate.terminalError≠none) (hcheck : gate.check target=some outcome) :
    ∃ error, outcome=.terminal error := by
  rw [RefreshGateState.check] at hcheck
  split at hcheck
  · next error _ =>
    cases hcheck
    exact ⟨error,rfl⟩
  · next hnone => exact absurd hnone hended

theorem Ends.moves (h : Ends s) (hmoves : Moves s s') : Ends s' := by
  cases hmoves with
  | refused c outcome hcall houtcome =>
    refine h.answered c _ outcome (.inr rfl) ?_
    intro _ h₁ error h₂ _
    obtain houtcome | ⟨error',houtcome,_⟩ := houtcome
    · rw [houtcome]
      exact trivial
    · rw [houtcome]
      exact trivial
  | registered c target schedule gate hcall hlive hcount hgate =>
    have hsame : gate.terminalError=s.gate.terminalError := by
      simp only [RefreshGateState.register,Prod.mk.injEq] at hgate
      rw [← hgate.2.2]
    have hregistered : Ends { s with gate := gate, active := c::s.active } :=
      h.quiet hsame rfl (fun _ _ _ hcall => hcall) (fun _ _ hcall => hcall)
    have hmoved : Ends ({ s with gate := gate, active := c::s.active }.setCall c
        (if schedule then .scheduling target else .looking target)) := by
      refine hregistered.setCall c _ ?_ ?_
      · intro target'
        cases schedule with
        | true => nofun
        | false => nofun
      · intro target' hcall'
        cases schedule with
        | true => cases hcall'
        | false => cases hcall'
    exact hmoved.note _ nofun nofun
  | moved c target queued call hcall htarget hexpired hsleeping =>
    have hqueued : Ends { s with queued := queued } :=
      h.quiet rfl rfl (fun _ _ _ hcall => hcall) (fun _ _ hcall => hcall)
    exact hqueued.setCall c call hexpired hsleeping
  | expired c target hcall => exact h.ranOut hcall
  | sendFailed c target error hcall =>
    have hfailed : Ends { s with gate := s.gate.fail target error.message } :=
      h.quiet rfl rfl (fun _ _ _ hcall => hcall) (fun _ _ hcall => hcall)
    exact hfailed.notifyAll.answered c _ _ (.inl rfl) (fun _ _ _ _ _ => trivial)
  | checked c target outcome hcall houtcome =>
    refine h.answered c _ outcome (.inl rfl) ?_
    intro hended h₁ error h₂ _
    obtain ⟨error',houtcome⟩ := check_terminal hended houtcome
    rw [houtcome]
    exact trivial
  | timeout c target hcall hlate =>
    refine h.answered c _ .timeout (.inl rfl) ?_
    intro hended h₁ error h₂ he
    cases hlate with
    | inl hexpired => exact h.expired c target hexpired h₁ error h₂ he
    | inr hlive => exact absurd hlive hended
  | finished c outcome hcall =>
    have hfinished : Ends { s with
        gate := s.gate.finishWait
        active := s.active.erase c } :=
      h.quiet rfl rfl (fun _ _ _ hcall => hcall) (fun _ _ hcall => hcall)
    exact hfinished.setCall c _ nofun nofun
  | worked worker queued wakeQueued hworker =>
    exact h.quiet rfl rfl (fun _ _ _ hcall => hcall) (fun _ _ hcall => hcall)
  | begun hlt =>
    have hbegun : Ends { s with
        worker := .collecting (satAdd s.gate.startedGeneration 1)
        gate := { s.gate with
          wakeQueued := false
          startedGeneration := satAdd s.gate.startedGeneration 1 } } :=
      h.quiet rfl rfl (fun _ _ _ hcall => hcall) (fun _ _ hcall => hcall)
    exact hbegun.note _ nofun nofun
  | completed generation publication hworker =>
    have hcompleted : Ends { s with
        worker := .idle
        gate := s.gate.complete generation publication } :=
      h.quiet rfl rfl (fun _ _ _ hcall => hcall) (fun _ _ hcall => hcall)
    exact hcompleted.notifyAll.note _ nofun nofun
  | shutdown => exact h.quiet rfl rfl (fun _ _ _ hcall => hcall) (fun _ _ hcall => hcall)
  | terminated error => exact h.terminated error

end Ends

section Runs

structure Sound (s : State P) : Prop where
  numbers : Numbers s
  slots : Slots s
  told : Told s
  ends : Ends s

theorem sound_start : Sound ({} : State P) := ⟨numbers_start,slots_start,told_start,ends_start⟩

theorem Sound.moves (h : Sound s) (hmoves : Moves s s')
    (hroom : s'.gate.startedGeneration < u64Max) : Sound s' :=
  ⟨h.numbers.moves hmoves hroom,h.slots.moves h.numbers hmoves hroom,
    h.told.moves h.numbers h.slots hmoves hroom,h.ends.moves hmoves⟩

/-- No step takes a generation back. -/
theorem Moves.room (hmoves : Moves s s') (hroom : s'.gate.startedGeneration < u64Max) :
    s.gate.startedGeneration < u64Max := by
  cases hmoves with
  | registered c target schedule gate hcall hlive hcount hgate =>
    simp only [RefreshGateState.register,Prod.mk.injEq] at hgate
    rw [← hgate.2.2] at hroom
    exact hroom
  | begun hlt =>
    change satAdd s.gate.startedGeneration 1 < u64Max at hroom
    rw [satAdd] at hroom
    omega
  | _ => exact hroom

theorem run_room {events : List (Event P)} (hrun : s.run events=some s')
    (hroom : s'.gate.startedGeneration < u64Max) : s.gate.startedGeneration < u64Max := by
  induction events generalizing s with
  | nil =>
    cases hrun
    exact hroom
  | cons event events ih =>
    rw [State.run,List.foldlM_cons] at hrun
    obtain ⟨next,hstep,hrest⟩ := Option.bind_eq_some_iff.1 hrun
    exact (step_moves hstep).room (ih hrest)

theorem Sound.run (h : Sound s) {events : List (Event P)} (hrun : s.run events=some s')
    (hroom : s'.gate.startedGeneration < u64Max) : Sound s' := by
  induction events generalizing s with
  | nil =>
    cases hrun
    exact h
  | cons event events ih =>
    rw [State.run,List.foldlM_cons] at hrun
    obtain ⟨next,hstep,hrest⟩ := Option.bind_eq_some_iff.1 hrun
    exact ih (h.moves (step_moves hstep) (run_room hrest hroom)) hrest

theorem lastBegun_of_begun {h₁ h₂ : List (Fact P)} {generation : Nat}
    (hnone : ∀ other, .begun other∉h₂) : lastBegun (h₁++.begun generation::h₂)=generation := by
  induction h₂ using List.reverseRecOn with
  | nil =>
    rw [lastBegun,List.foldl_append]
    rfl
  | append_singleton h₂ fact ih =>
    have hfact : ∀ other, fact≠.begun other := by
      intro other hsame
      exact hnone other (List.mem_append_right _ (List.mem_singleton.2 hsame.symm))
    have hearlier : ∀ other, .begun other∉h₂ := by
      intro other hmem
      exact hnone other (List.mem_append_left _ hmem)
    rw [← List.cons_append,← List.append_assoc,lastBegun,List.foldl_append]
    cases fact with
    | begun other => exact absurd rfl (hfact other)
    | _ => exact ih hearlier

/-- In any interleaving, until generation 2^64-1 begins: an Ok is of a collection begun after
the call registered, the result is never gone, the calls that register while a generation is
collected ask for the same next one, and after a terminal error every call whose own time has
not run out and whose own send works gets a terminal error. -/
theorem refresh_calls_answered (events : List (Event P)) (s : State P)
    (hrun : ({} : State P).run events=some s) (hroom : s.gate.startedGeneration < u64Max) :
    (∀ c publication, s.calls c=.returned (.ok publication) →
      FreshPublication s.history c publication) ∧
    (∀ c, s.calls c≠.returned .unavailable) ∧
    (∀ h₁ generation h₂ c target h₃,
      s.history=h₁++.begun generation::h₂++.registered c target::h₃ →
      (∀ other, .begun other∉h₂) → target=generation+1) ∧
    (∀ h₁ error h₂ c outcome, s.history=h₁++.terminated error::h₂ → .answered c outcome∈h₂ →
      AfterEnd h₁ c outcome ∧ Answers s.history c outcome) := by
  have hsound := sound_start.run hrun hroom
  have htold (c : Nat) (outcome : Outcome P) (hcall : s.calls c=.returned outcome) :
      Answers s.history c outcome := by
    refine hsound.told.told c outcome (hsound.told.finished c outcome ?_)
    rw [hcall]
    rfl
  refine ⟨fun c publication => htold c (.ok publication),fun c hcall => htold c .unavailable hcall,
    ?_,?_⟩
  · intro h₁ generation h₂ c target h₃ he hnone
    rw [hsound.numbers.asked _ c target h₃ he,lastBegun_of_begun hnone]
  · intro h₁ error h₂ c outcome he hmem
    refine ⟨hsound.ends.after h₁ error h₂ c outcome he hmem,hsound.told.told c outcome ?_⟩
    rw [he]
    exact List.mem_append_right _ (List.mem_cons_of_mem _ hmem)

end Runs

section Rounds

/-- Two callers that come while generation 1 is collected share the next, and a fourth is
still waiting when the engine ends. -/
def sharedRounds : List (Event Nat) :=
  [.begin 0,.send 0 none,.look 0 false,.receive,.beginGeneration,
    .begin 1,.send 1 none,.look 1 false,.begin 2,.look 2 false,.complete 10,
    .look 0 false,.finish 0,.receive,.beginGeneration,.complete 20,
    .look 1 false,.finish 1,.look 2 false,.finish 2,
    .begin 3,.send 3 none,.look 3 false,.terminate "collector_engine_fatal",.look 3 false,.finish 3]

def beforeEnd : List (Fact Nat) :=
  [.registered 0 1,.begun 1,.registered 1 2,.registered 2 2,.completed 1 10,.answered 0 (.ok 10),
    .begun 2,.completed 2 20,.answered 1 (.ok 20),.answered 2 (.ok 20),.registered 3 3]

theorem shared_rounds_are_fresh :
    ∃ s, ({} : State Nat).run sharedRounds=some s ∧ s.gate.startedGeneration < u64Max ∧
      (s.calls 0=.returned (.ok 10) ∧ FreshPublication s.history 0 10) ∧
      (s.calls 1=.returned (.ok 20) ∧ FreshPublication s.history 1 20) ∧
      (s.calls 2=.returned (.ok 20) ∧ FreshPublication s.history 2 20) ∧
      s.calls 3=.returned (.terminal "collector_engine_fatal") ∧
      AfterEnd beforeEnd 3 (.terminal "collector_engine_fatal" : Outcome Nat) := by
  obtain ⟨hfresh,-,-,hend⟩ := refresh_calls_answered sharedRounds _ rfl (by decide)
  refine ⟨_,rfl,by decide,⟨rfl,hfresh 0 10 rfl⟩,⟨rfl,hfresh 1 20 rfl⟩,⟨rfl,hfresh 2 20 rfl⟩,rfl,?_⟩
  exact (hend beforeEnd "collector_engine_fatal" [.answered 3 (.terminal "collector_engine_fatal")]
    3 _ rfl List.mem_cons_self).1

/-- One call that is served by a generation of its own. -/
def round (c publication : Nat) : List (Event Nat) :=
  [.begin c,.send c none,.look c false,.receive,.beginGeneration,.complete publication,
    .look c false,.finish c]

/-- The gate after so many rounds, with nobody at it. -/
def rested (n : Nat) (calls : Nat → Call Nat) (history : List (Fact Nat)) : State Nat where
  gate := { requestedGeneration := n, startedGeneration := n, completedGeneration := n }
  calls := calls
  history := history

theorem rested_round {n : Nat} {calls : Nat → Call Nat} (history : List (Fact Nat))
    (hcall : calls n=.idle) (hn : n < u64Max) :
    (rested n calls history).run (round n n)=some (rested (n+1)
      (fun c => if c=n then .returned (.ok n) else (calls c).woken)
      (history++[.registered n (n+1),.begun (n+1),.completed (n+1) n,.answered n (.ok n)])) := by
  have hsat : satAdd n 1=n+1 := by
    rw [satAdd]
    omega
  have hpos : 0 < u64Max := by decide
  simp [State.run,round,rested,State.step,State.begin,State.setCall,State.note,State.answer,
    State.notifyAll,RefreshGateState.register,RefreshGateState.beginGeneration,
    RefreshGateState.complete,RefreshGateState.check,RefreshGateState.finishWait,hcall,hsat,
    controlQueueCapacity,hpos,Call.woken]
  refine ⟨by decide,funext fun c => ?_⟩
  by_cases hc : c=n
  · simp [hc]
  · simp [hc]

theorem run_append {events more : List (Event P)} {s₁ s₂ s₃ : State P}
    (hfirst : s₁.run events=some s₂) (hmore : s₂.run more=some s₃) :
    s₁.run (events++more)=some s₃ := by
  rw [State.run,List.foldlM_append]
  rw [State.run] at hfirst
  rw [hfirst]
  exact hmore

theorem rested_reached {n : Nat} (hn : n ≤ u64Max) :
    ∃ events calls history, ({} : State Nat).run events=some (rested n calls history) ∧
      ∀ c, n ≤ c → calls c=.idle := by
  induction n with
  | zero => exact ⟨[],fun _ => .idle,[],rfl,fun _ _ => rfl⟩
  | succ n ih =>
    obtain ⟨events,calls,history,hrun,hidle⟩ := ih (by omega)
    have hround := rested_round history (hidle n (Nat.le_refl n)) (by omega)
    refine ⟨_,_,_,run_append hrun hround,?_⟩
    intro c hc
    rw [if_neg (by omega),hidle c (by omega)]
    rfl

/-- The generations are used up: the next call asks for one that is long complete. -/
theorem rested_unavailable {calls : Nat → Call Nat} (history : List (Fact Nat))
    (hcall : calls u64Max=.idle) :
    ∃ s, (rested u64Max calls history).run
      [.begin u64Max,.send u64Max none,.look u64Max false,.finish u64Max]=some s ∧
        s.calls u64Max=.returned .unavailable := by
  have hsat : satAdd u64Max 1=u64Max := by decide
  have hpos : 0 < u64Max := by decide
  simp [State.run,rested,State.step,State.begin,State.setCall,State.note,State.answer,
    RefreshGateState.register,RefreshGateState.check,RefreshGateState.finishWait,hcall,hsat,
    controlQueueCapacity,hpos]

/-- Two calls register while generation 1 is collected; one of them looks late and gets
generation 3, which a further call asked for. -/
def slowCaller : List (Event Nat) :=
  [.begin 0,.send 0 none,.receive,.beginGeneration,
    .begin 1,.send 1 none,.begin 2,.complete 10,
    .receive,.beginGeneration,.complete 20,.look 1 false,.finish 1,
    .begin 3,.send 3 none,.receive,.beginGeneration,.complete 30,.look 2 false,.finish 2]

/-- A call's time runs out just before the engine ends. -/
def lateCaller : List (Event Nat) :=
  [.begin 0,.send 0 none,.look 0 false,.expire 0,.terminate "collector_engine_fatal",
    .look 0 false,.finish 0]

theorem refresh_calls_differ :
    (∃ s, ({} : State Nat).run slowCaller=some s ∧
      s.history=[.registered 0 1,.begun 1,.registered 1 2,.registered 2 2,.completed 1 10,
        .begun 2,.completed 2 20,.answered 1 (.ok 20),.registered 3 3,.begun 3,.completed 3 30,
        .answered 2 (.ok 30)] ∧
      s.calls 1=.returned (.ok 20) ∧ s.calls 2=.returned (.ok 30)) ∧
    (∃ s, ({} : State Nat).run lateCaller=some s ∧
      s.history=[.registered 0 1,.expired 0,.terminated "collector_engine_fatal",
        .answered 0 .timeout] ∧ s.calls 0=.returned .timeout) ∧
    ∃ events s, ({} : State Nat).run events=some s ∧ s.calls u64Max=.returned .unavailable := by
  refine ⟨⟨_,rfl,rfl,rfl,rfl⟩,⟨_,rfl,rfl,rfl⟩,?_⟩
  obtain ⟨events,calls,history,hrun,hidle⟩ := rested_reached (Nat.le_refl u64Max)
  obtain ⟨s,hlast,hcall⟩ := rested_unavailable history (hidle u64Max (Nat.le_refl _))
  exact ⟨_,s,run_append hrun hlast,hcall⟩

end Rounds
end BatCave.CollectorEngine
