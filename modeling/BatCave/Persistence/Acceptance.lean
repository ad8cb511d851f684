import BatCave.Persistence.Health

/-! The health that callers read, with the queue laid over it, along every run of the
writer: what the protocol makes of it. -/
namespace BatCave.Persistence
open BatCave.Contracts BatCave.Protocol BatCave.Lib.Text BatCave.Lib.Word
open RuntimePersistenceCoordinator

theorem failureCode_spoken (code : PersistenceFailureCode) : trim (failureCode code)≠"" := by
  cases code <;> decide

theorem ComponentOk.accepted {t evaluatedAtMs : Nat} {c : UserStorageComponent}
    {component : RuntimePersistenceComponent} (h : ComponentOk t c component)
    (hsafe : t ≤ jsMaxSafeInteger) (heval : t ≤ evaluatedAtMs) :
    validatePersistenceComponent (encodePersistenceComponent component) evaluatedAtMs=.ok () := by
  have htime : (encodePersistenceComponent component).lastSuccessAtMs.any
      (fun value => jsMaxSafeInteger < value || evaluatedAtMs < value)=false := by
    simp only [encodePersistenceComponent]
    cases hlast : component.lastSuccessAtMs with
    | none => rfl
    | some at' =>
      have := h.success at' hlast
      simp only [Option.any_some,Bool.or_eq_false_iff,decide_eq_false_iff_not]
      omega
  simp only [validatePersistenceComponent,htime,Bool.false_eq_true,if_false]
  cases h.status with
  | inl hok =>
    obtain ⟨hstate,hnone,hwritten,hna⟩ := hok
    have hdurability : persistenceDurability component.durability≠.notWritten := by
      cases hd : component.durability with
      | notWritten => exact absurd hd hwritten
      | durable => simp [persistenceDurability]
      | sessionOnly => simp [persistenceDurability]
      | notApplicable => simp [persistenceDurability]
    have hlast : persistenceDurability component.durability=.notApplicable →
        component.lastSuccessAtMs=none := by
      intro hd
      refine hna ?_
      cases hd' : component.durability with
      | notApplicable => rfl
      | durable => rw [hd'] at hd; cases hd
      | sessionOnly => rw [hd'] at hd; cases hd
      | notWritten => exact absurd hd' hwritten
    simp only [encodePersistenceComponent,RuntimePersistenceComponentV4.requiresFailure,hstate,
      hnone,persistenceState,hdurability]
    simp
    intro hd
    exact hlast hd
  | inr hfailed =>
    obtain ⟨hstate,hdurability,failure,at',hactive,hspoken,hle⟩ := hfailed
    have hrequires : (encodePersistenceComponent component).requiresFailure=true := by
      simp only [encodePersistenceComponent,RuntimePersistenceComponentV4.requiresFailure]
      cases hs : component.state with
      | healthy => exact absurd hs hstate
      | degraded => rfl
      | unavailable => rfl
    have hvalid : failureInvalid (encodePersistenceFailure (runtimeFailure failure at'))
        evaluatedAtMs=false := by
      have hcode := failureCode_spoken failure.code
      have hsummary : trim failure.summary≠"" := hspoken
      have hjs := hle.trans hsafe
      have hev := hle.trans heval
      simp only [failureInvalid,encodePersistenceFailure,runtimeFailure,Bool.or_eq_false_iff,
        beq_eq_false_iff_ne]
      exact ⟨⟨⟨decide_eq_false (Nat.not_lt.mpr hjs),decide_eq_false (Nat.not_lt.mpr hev)⟩,hcode⟩,
        hsummary⟩
    rw [hrequires]
    simp [encodePersistenceComponent,hactive,hdurability,persistenceDurability,hvalid]

/-- A report of this shape is accepted at every later evaluation. -/
theorem HealthOk.accepted {t evaluatedAtMs : Nat} {health : RuntimePersistence}
    (h : HealthOk t health) (hsafe : t ≤ jsMaxSafeInteger) (heval : t ≤ evaluatedAtMs) :
    validatePersistence (some (encodePersistence health)) evaluatedAtMs=.ok () := by
  obtain ⟨⟨root,components,hroots,howner,hroot,hcomponents,hok,_,hstate⟩,hcount⟩ := h
  have hmem : ∀ component∈(encodePersistence health).components,
      ∃ c, component=encodePersistenceComponent (components c) := by
    intro component hc
    simp only [encodePersistence,hcomponents,List.map_cons,List.map_nil,List.mem_cons,
      List.not_mem_nil,or_false] at hc
    cases hc with
    | inl hs => exact ⟨_,hs⟩
    | inr hrest =>
      cases hrest with
      | inl hw => exact ⟨_,hw⟩
      | inr hd => exact ⟨_,hd⟩
  have hroots' : (encodePersistence health).roots=[encodePersistenceRoot root] := by
    simp [encodePersistence,hroots]
  refine validatePersistence_ok hroots' hcount hroot ?_ ?_ ?_ ?_ ?_
  · simp [encodePersistence,hcomponents]
  · intro component hc
    obtain ⟨c,rfl⟩ := hmem component hc
    simp [encodePersistenceComponent,encodePersistenceRoot,(hok c).owner,howner]
  · simp [encodePersistence,hcomponents,encodePersistenceComponent,(hok .settings).kind,
      (hok .warmCache).kind,(hok .diagnostics).kind,UserStorageComponent.runtimeKind,
      persistenceKind]
  · intro component hc
    obtain ⟨c,rfl⟩ := hmem component hc
    exact (hok c).accepted hsafe heval
  · have hfold := foldl_recordComponentState health.components
      (RuntimePersistenceCoordinator.rootState root.permissionState)
    have hstart : persistenceState
        (RuntimePersistenceCoordinator.rootState root.permissionState)=
        (encodePersistenceRoot root).permissionState.state := by
      simp only [encodePersistenceRoot]
      cases root.permissionState <;> rfl
    rw [hstart] at hfold
    simp only [encodePersistence] at hfold ⊢
    rw [hfold,hstate]

/-- A job of a time that passed. -/
structure Job.Past (t : Nat) (job : Job) : Prop where
  atMs : job.atMs ≤ t
  nowMs : job.nowMs ≤ t

theorem Job.Past.mono {t t' : Nat} {job : Job} (h : job.Past t) (ht : t ≤ t') : job.Past t' :=
  ⟨h.atMs.trans ht,h.nowMs.trans ht⟩

theorem Request.job_past (request : Request) {nowMs t : Nat} (h : nowMs ≤ t) :
    (request.job nowMs).Past t := by
  cases request with
  | retryDiagnostics => exact ⟨Nat.zero_le _,Nat.zero_le _⟩
  | migration => exact ⟨Nat.zero_le _,h⟩
  | _ => exact ⟨h,h⟩

namespace Queue
variable {queue : Queue} {t : Nat}

/-- Every rejection is of a time that passed, with something to say. -/
def RejectedOk (t : Nat) (queue : Queue) : Prop :=
  ∀ c generation at' failure, queue.rejected c=some (generation,at',failure) →
    at' ≤ t ∧ Spoken failure

/-- The record of one component as a caller sees it. -/
def overlaid (queue : Queue) (component : UserStorageComponent)
    (record : RuntimePersistenceComponent) : RuntimePersistenceComponent :=
  match queue.rejected component with
  | none => queue.overlayPending record
  | some (_,failedAtMs,failure) => { queue.overlayPending record with
      state := .degraded
      durability := .sessionOnly
      activeFailure := some (runtimeFailure failure failedAtMs) }

theorem overlayPending_kind (record : RuntimePersistenceComponent) :
    (queue.overlayPending record).kind=record.kind := by
  simp only [overlayPending]
  split <;> rfl

/-- The passes over the three components touch each exactly once. -/
theorem overlaidHealth_components
    {components : UserStorageComponent → RuntimePersistenceComponent}
    (hkind : ∀ c, (components c).kind=c.runtimeKind)
    (hcomponents : queue.health.components=
      [components .settings,components .warmCache,components .diagnostics]) :
    queue.overlaidHealth.components=[queue.overlaid .settings (components .settings),
      queue.overlaid .warmCache (components .warmCache),
      queue.overlaid .diagnostics (components .diagnostics)] := by
  have hs := hkind .settings
  have hw := hkind .warmCache
  have hd := hkind .diagnostics
  simp only [overlaidHealth,hcomponents,List.map_cons,List.map_nil,List.foldl_cons,
    List.foldl_nil,overlayRejected,overlaid]
  cases queue.rejected .settings <;> cases queue.rejected .warmCache <;>
    cases queue.rejected .diagnostics <;>
    simp [modifyFirst,matchesKind,overlayPending_kind,hs,hw,hd,UserStorageComponent.runtimeKind]

theorem overlaid_ok {c : UserStorageComponent} {record : RuntimePersistenceComponent}
    (hrejected : queue.RejectedOk t) (h : ComponentOk t c record) :
    ComponentOk t c (queue.overlaid c record) := by
  have hpending : ComponentOk t c (queue.overlayPending record) := by
    simp only [overlayPending]
    split
    · exact h.pending
    · exact h
  simp only [overlaid]
  split
  · exact hpending
  · next generation at' failure hr =>
    obtain ⟨hle,hspoken⟩ := hrejected c generation at' failure hr
    exact hpending.fail (by simp) hspoken hle

theorem overlaid_state (c : UserStorageComponent) (record : RuntimePersistenceComponent) :
    (queue.overlaid c record).state=
      if (queue.rejected c).isSome then .degraded else record.state := by
  simp only [overlaid,overlayPending]
  cases queue.rejected c with
  | none =>
    simp only [Option.isSome_none,Bool.false_eq_true,if_false]
    split <;> rfl
  | some rejected => rfl

theorem overallState_three {components : UserStorageComponent → RuntimePersistenceComponent}
    (hok : ∀ c, ComponentOk t c (components c)) (root : RuntimePersistenceState) :
    stateRank (overallState root [components .settings,components .warmCache,
        components .diagnostics])=
      max (max (max (stateRank root) (stateRank (components .settings).state))
        (stateRank (components .warmCache).state)) (stateRank (components .diagnostics).state) := by
  refine overallState_rank _ root ?_
  intro component hc hna
  have hex : ∃ c, component=components c := by
    simp only [List.mem_cons,List.not_mem_nil,or_false] at hc
    cases hc with
    | inl hs => exact ⟨_,hs⟩
    | inr hrest => exact hrest.elim (fun hw => ⟨_,hw⟩) (fun hd => ⟨_,hd⟩)
  obtain ⟨c,rfl⟩ := hex
  exact (hok c).healthy_of_notApplicable hna

/-- Laying the queue over a report keeps it one that the protocol accepts. -/
theorem overlaidHealth_ok (h : HealthOk t queue.health) (hrejected : queue.RejectedOk t) :
    HealthOk t queue.overlaidHealth := by
  obtain ⟨⟨root,components,hroots,howner,hroot,hcomponents,hok,hun,hstate⟩,hcount⟩ := h
  have hover := overlaidHealth_components (fun c => (hok c).kind) hcomponents
  have hok' : ∀ c, ComponentOk t c (queue.overlaid c (components c)) :=
    fun c => overlaid_ok hrejected (hok c)
  refine ⟨⟨root,fun c => queue.overlaid c (components c),hroots,howner,hroot,hover,hok',?_,?_⟩,
    hcount⟩
  · intro c hc
    rw [overlaid_state] at hc
    split at hc
    · cases hc
    · exact hun c hc
  · refine stateRank_inj ?_
    have hold := overallState_three hok
      (RuntimePersistenceCoordinator.rootState root.permissionState)
    rw [← hcomponents,← hstate] at hold
    have hle : ∀ c, stateRank (components c).state ≤
        max 1 (stateRank (RuntimePersistenceCoordinator.rootState root.permissionState)) := by
      intro c
      cases hc : (components c).state with
      | healthy => exact Nat.zero_le _
      | degraded => exact Nat.le_max_left _ _
      | unavailable =>
        rw [hun c hc]
        exact Nat.le_max_right _ _
    have hs := hle .settings
    have hw := hle .warmCache
    have hd := hle .diagnostics
    rw [hover,overallState_three hok',overlaid_state,overlaid_state,overlaid_state]
    have hnew : stateRank queue.overlaidHealth.state=
        if queue.hasRejected then max 1 (stateRank queue.health.state)
        else stateRank queue.health.state := by
      simp only [overlaidHealth]
      cases queue.hasRejected <;> cases queue.health.state <;> rfl
    have hdegraded : stateRank .degraded=1 := rfl
    rw [hnew]
    simp only [hasRejected,List.any_cons,List.any_nil,Bool.or_false]
    clear hnew
    cases (queue.rejected .settings).isSome <;> cases (queue.rejected .warmCache).isSome <;>
      cases (queue.rejected .diagnostics).isSome <;> simp [hdegraded] <;> omega

structure Ok (t : Nat) (queue : Queue) : Prop where
  health : HealthOk t queue.health
  rejected : queue.RejectedOk t
  jobs : ∀ job∈queue.jobs, job.Past t

theorem Ok.mono (h : queue.Ok t) {t' : Nat} (ht : t ≤ t') : queue.Ok t' := by
  refine ⟨h.health.mono ht,?_,fun job hj => (h.jobs job hj).mono ht⟩
  intro c generation at' failure hr
  obtain ⟨hle,hs⟩ := h.rejected c generation at' failure hr
  exact ⟨hle.trans ht,hs⟩

theorem Ok.rejectJob (h : queue.Ok t) {job : Job} (hjob : job.Past t)
    {failure : PersistenceFailure} (hf : Spoken failure) : (queue.rejectJob job failure).Ok t := by
  simp only [Queue.rejectJob]
  split
  · refine ⟨h.health,?_,h.jobs⟩
    intro c generation at' failure' hr
    simp only [reject] at hr
    split at hr
    · cases hr
      exact ⟨hjob.atMs,hf⟩
    · exact h.rejected c generation at' failure' hr
  · exact h

theorem Ok.coalesce (h : queue.Ok t) (job : Job) : (queue.coalesce job).Ok t := by
  simp only [Queue.coalesce]
  split
  · exact ⟨h.health,h.rejected,fun job' hj => h.jobs job' (List.mem_of_mem_filter hj)⟩
  · exact h

theorem Ok.enqueue (h : queue.Ok t) {job : Job} (hjob : job.Past t) :
    (queue.enqueue job).2.Ok t := by
  simp only [Queue.enqueue]
  split
  · refine h.rejectJob hjob ?_
    simp only [Spoken]
    decide
  · refine ⟨h.health,h.rejected,?_⟩
    intro job' hj
    rw [List.mem_append,List.mem_singleton] at hj
    cases hj with
    | inl hold => exact h.jobs job' hold
    | inr hnew =>
      rw [hnew]
      exact hjob

theorem Ok.submit (h : queue.Ok t) {job : Job} (hjob : job.Past t) :
    (queue.submit job).2.Ok t := by
  have hnext : Ok t { queue with generation := satAdd queue.generation 1 } :=
    ⟨h.health,h.rejected,h.jobs⟩
  have hclosed : Spoken (queueFailure "writer closed") := by
    simp only [Spoken]
    decide
  have hjob' : { job with generation := satAdd queue.generation 1 }.Past t :=
    ⟨hjob.atMs,hjob.nowMs⟩
  simp only [Queue.submit]
  split
  · exact hnext.rejectJob hjob' hclosed
  · exact (hnext.coalesce _).enqueue hjob'

theorem Ok.finishJob (h : queue.Ok t) (job : Job) {health : RuntimePersistence}
    (hhealth : HealthOk t health) : (queue.finishJob job health).Ok t := by
  simp only [Queue.finishJob]
  split
  · exact ⟨hhealth,h.rejected,h.jobs⟩
  · split
    · refine ⟨hhealth,?_,h.jobs⟩
      intro c generation at' failure hr
      simp only at hr
      split at hr
      · cases hr
      · exact h.rejected c generation at' failure hr
    · exact ⟨hhealth,h.rejected,h.jobs⟩

theorem panicJob_ok (queue : Queue) {job : Job} (hjob : job.Past t)
    {health : RuntimePersistence} (hhealth : HealthOk t health) :
    (queue.panicJob job health).Ok t := by
  refine ⟨hhealth,?_,?_⟩
  · intro c generation at' failure hr
    cases hr
    refine ⟨hjob.atMs,?_⟩
    simp only [Spoken]
    decide
  · intro job' hj
    cases hj

end Queue

/-- What every state of a clean run keeps. -/
def StateOk (s : State) : Prop :=
  match s.persistence with
  | .inline c => Sound s.clock c
  | .background c running queue => Sound s.clock c ∧
      (∀ job, running=some job → job.Past s.clock) ∧ queue.Ok s.clock

theorem StateOk.health {s : State} (h : StateOk s) : HealthOk s.clock s.persistence.health := by
  cases s with
  | mk clock persistence =>
    cases persistence with
    | inline c => exact Sound.health h
    | background c running queue => exact Queue.overlaidHealth_ok h.2.2.health h.2.2.rejected

theorem step_ok {s s' : State} (h : StateOk s) (hstep : Step Clean s s') : StateOk s' := by
  cases hstep with
  | tick _ clock hle =>
    cases s with
    | mk clock' persistence =>
      cases persistence with
      | inline c => exact Sound.mono h hle
      | background c running queue =>
        exact ⟨h.1.mono hle,fun job hj => (h.2.1 job hj).mono hle,h.2.2.mono hle⟩
  | call clock c call hclean => exact Sound.run h hclean (Nat.le_refl _)
  | start clock c =>
    refine ⟨h,by simp,Sound.health h,?_,by simp⟩
    intro c generation at' failure hr
    cases hr
  | submit clock c running queue request nowMs hnow =>
    exact ⟨h.1,h.2.1,h.2.2.submit (request.job_past hnow)⟩
  | take clock c queue job jobs hjobs hrunning =>
    have hmem : ∀ job'∈job::jobs, job'.Past clock := by
      rw [← hjobs]
      exact h.2.2.jobs
    refine ⟨h.1,?_,h.2.2.health,h.2.2.rejected,fun job' hj => hmem job' (List.mem_cons_of_mem _ hj)⟩
    intro job' hj
    cases hj
    exact hmem job List.mem_cons_self
  | finish clock c c' queue job calls hmakes hruns =>
    have hsound := h.1.runs hruns (h.2.1 job rfl).nowMs
    exact ⟨hsound,by simp,h.2.2.finishJob job hsound.health⟩
  | panic clock c c' queue job done call rest hmakes hruns hclean =>
    have hpast := h.2.1 job rfl
    have hsound := (h.1.runs hruns hpast.nowMs).interrupted hclean hpast.nowMs
    exact ⟨hsound,by simp,queue.panicJob_ok hpast hsound.health⟩
  | drained clock c queue hjobs hclosed =>
    exact ⟨h.1,by simp,h.2.2.health,h.2.2.rejected,h.2.2.jobs⟩
  | close clock c running queue =>
    exact ⟨h.1,h.2.1,h.2.2.health,h.2.2.rejected,h.2.2.jobs⟩

theorem reachable_ok {s : State} (h : Reachable Clean s) : StateOk s := by
  induction h with
  | new directory prepared clock hd hp => exact Sound.new directory hd hp clock
  | unavailable directory failure clock hf => exact Sound.newUnavailable directory hf clock
  | step _ hstep ih => exact step_ok ih hstep

/-- What the protocol asks of the records of a report. -/
theorem HealthOk.consistent {t : Nat} {health : RuntimePersistence} (h : HealthOk t health) :
    (∃ root, health.roots=[root] ∧ health.state=
      overallState (RuntimePersistenceCoordinator.rootState root.permissionState)
        health.components) ∧
    ∀ component∈health.components,
      (component.activeFailure.isSome ↔ component.state≠.healthy) ∧
      (component.durability=.notApplicable →
        component.lastSuccessAtMs=none ∧ component.activeFailure=none) := by
  obtain ⟨⟨root,components,hroots,_,_,hcomponents,hok,_,hstate⟩,_⟩ := h
  refine ⟨⟨root,hroots,hstate⟩,?_⟩
  intro component hc
  have hex : ∃ c, component=components c := by
    simp only [hcomponents,List.mem_cons,List.not_mem_nil,or_false] at hc
    cases hc with
    | inl hs => exact ⟨_,hs⟩
    | inr hrest => exact hrest.elim (fun hw => ⟨_,hw⟩) (fun hd => ⟨_,hd⟩)
  obtain ⟨c,rfl⟩ := hex
  cases (hok c).status with
  | inl hhealthy =>
    obtain ⟨hs,hnone,_,hna⟩ := hhealthy
    exact ⟨by simp [hs,hnone],fun hd => ⟨hna hd,hnone⟩⟩
  | inr hfailed =>
    obtain ⟨hs,hd,failure,at',hactive,_⟩ := hfailed
    exact ⟨by simp [hs,hactive],fun hna => by rw [hd] at hna; cases hna⟩

/-- As long as nothing once stored is removed or found missing, every report of the
coordinator and of its writer is accepted from its time on. -/
theorem health_is_accepted {s : State} (h : Reachable Clean s)
    (hclock : s.clock ≤ jsMaxSafeInteger) {evaluatedAtMs : Nat} (heval : s.clock ≤ evaluatedAtMs) :
    validatePersistence (some (encodePersistence s.persistence.health)) evaluatedAtMs=.ok () ∧
    (∃ root, s.persistence.health.roots=[root] ∧ s.persistence.health.state=
      overallState (RuntimePersistenceCoordinator.rootState root.permissionState)
        s.persistence.health.components) ∧
    ∀ component∈s.persistence.health.components,
      (component.activeFailure.isSome ↔ component.state≠.healthy) ∧
      (component.durability=.notApplicable →
        component.lastSuccessAtMs=none ∧ component.activeFailure=none) := by
  have hhealth := (reachable_ok h).health
  exact ⟨hhealth.accepted hclock heval,hhealth.consistent⟩

section Runs

def verifiedRoot : Except PersistenceFailure PermissionVerification := .ok .verifiedCurrentUser

/-- A coordinator that found its root in order. -/
def freshCoordinator : RuntimePersistenceCoordinator :=
  .new { directory := "/home/user/.local/share/BatCaveMonitor" } verifiedRoot 0

def stored : Call := .writeJson .warmCache ⟨verifiedRoot,.ok (),verifiedRoot⟩
def purged : Call := .remove .warmCache ⟨verifiedRoot,.ok true,verifiedRoot⟩

/-- A purge before anything was stored, then a write. -/
theorem first_write_is_accepted :
    validatePersistence (some (encodePersistence
      (stored.run 5 (purged.run 5 freshCoordinator)).health)) 7=.ok () := by
  have hnew : Reachable Clean ⟨0,.inline freshCoordinator⟩ :=
    .new _ verifiedRoot 0 (by decide) trivial
  have htick := hnew.step (.tick _ 5 (by decide))
  have hpurge := htick.step (.call 5 freshCoordinator purged
    ⟨⟨trivial,trivial,trivial⟩,fun component _ => by cases component <;> rfl,by simp [purged,
      Call.recordsDiagnostic]⟩)
  have hwrite := hpurge.step (.call 5 _ stored ⟨⟨trivial,trivial,trivial⟩,
    fun component hempty => hempty.elim,by simp [stored,Call.recordsDiagnostic]⟩)
  exact (health_is_accepted hwrite (by decide) (by decide)).1

/-- A cache that was written and then purged keeps the time of its success, and the report
is refused. -/
theorem purged_cache_is_refused :
    ∃ s : State, Reachable Call.Spoken s ∧ s.clock=5 ∧
      validatePersistence (some (encodePersistence s.persistence.health)) 5=
        .error "protocol_persistence_not_applicable_invalid" := by
  have hnew : Reachable Call.Spoken ⟨5,.inline _⟩ :=
    .new "/home/user/.local/share/BatCaveMonitor" verifiedRoot 5 (by decide) trivial
  have hwrite := hnew.step (.call 5 _ stored ⟨trivial,trivial,trivial⟩)
  have hpurge := hwrite.step (.call 5 _ purged ⟨trivial,trivial,trivial⟩)
  refine ⟨_,hpurge,rfl,?_⟩
  rw [BackgroundPersistence.health,encodePersistence,health_components
    (fun c => by cases c <;> rfl)]
  decide

end Runs
end BatCave.Persistence
