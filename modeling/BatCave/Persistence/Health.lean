import BatCave.Persistence.Writer
import BatCave.Protocol.Persistence
import Mathlib.Data.List.Nodup

/-! The health that the coordinator and its writer report: what every record keeps, and
that a reader of the protocol accepts it as long as no record of a success outlives the
file it is about. -/
namespace BatCave.Persistence
open BatCave.Contracts BatCave.Protocol BatCave.Lib.Text BatCave.Lib.Word
open RuntimePersistenceCoordinator

/-- A component record that the protocol accepts at any time from `t` on. -/
structure ComponentOk (t : Nat) (c : UserStorageComponent)
    (component : RuntimePersistenceComponent) :
    Prop where
  owner : component.owner=.currentUser
  kind : component.kind=c.runtimeKind
  success : ∀ at', component.lastSuccessAtMs=some at' → at' ≤ t
  status : (component.state=.healthy ∧ component.activeFailure=none ∧
      component.durability≠.notWritten ∧
      (component.durability=.notApplicable → component.lastSuccessAtMs=none)) ∨
    (component.state≠.healthy ∧ component.durability=.sessionOnly ∧
      ∃ failure at', component.activeFailure=some (runtimeFailure failure at') ∧
        Spoken failure ∧ at' ≤ t)

namespace ComponentOk
variable {t : Nat} {c : UserStorageComponent} {component : RuntimePersistenceComponent}

theorem mono (h : ComponentOk t c component) {t' : Nat} (ht : t ≤ t') :
    ComponentOk t' c component := by
  refine ⟨h.owner,h.kind,fun at' ha => (h.success at' ha).trans ht,?_⟩
  cases h.status with
  | inl hok => exact .inl hok
  | inr hfailed =>
    obtain ⟨hs,hd,failure,at',ha,hsp,hle⟩ := hfailed
    exact .inr ⟨hs,hd,failure,at',ha,hsp,hle.trans ht⟩

theorem fail (h : ComponentOk t c component) {state : RuntimePersistenceState}
    (hstate : state≠.healthy) {failure : PersistenceFailure} (hf : Spoken failure) {nowMs : Nat}
    (hnow : nowMs ≤ t) :
    ComponentOk t c { component with
      state := state
      durability := .sessionOnly
      activeFailure := some (runtimeFailure failure nowMs) } :=
  ⟨h.owner,h.kind,h.success,.inr ⟨hstate,rfl,failure,nowMs,rfl,hf,hnow⟩⟩

/-- A success is recorded with a time, or of a component that has none. -/
theorem succeed (h : ComponentOk t c component) {durability : RuntimePersistenceDurability}
    (hd : durability≠.notWritten) {success : Option Nat} (hs : ∀ at', success=some at' → at' ≤ t)
    (hnone : durability=.notApplicable → success=none ∧ component.lastSuccessAtMs=none) :
    ComponentOk t c { component with
      state := .healthy
      durability := durability
      lastSuccessAtMs := success.or component.lastSuccessAtMs
      activeFailure := none } := by
  refine ⟨h.owner,h.kind,?_,.inl ⟨rfl,rfl,hd,?_⟩⟩
  · intro at' ha
    cases hsuccess : success with
    | none =>
      rw [hsuccess] at ha
      exact h.success at' (by simpa using ha)
    | some now =>
      rw [hsuccess] at ha
      cases ha
      exact hs _ hsuccess
  · intro hna
    obtain ⟨h₁,h₂⟩ := hnone hna
    simp [h₁,h₂]

/-- A queued job only says that the component is not durable yet. -/
theorem pending (h : ComponentOk t c component) :
    ComponentOk t c { component with durability := .sessionOnly } := by
  refine ⟨h.owner,h.kind,h.success,?_⟩
  cases h.status with
  | inl hok => exact .inl ⟨hok.1,hok.2.1,by simp,by simp⟩
  | inr hfailed => exact .inr ⟨hfailed.1,rfl,hfailed.2.2⟩

/-- What is not applicable is healthy. -/
theorem healthy_of_notApplicable (h : ComponentOk t c component)
    (hna : component.durability=.notApplicable) : component.state=.healthy := by
  cases h.status with
  | inl hok => exact hok.1
  | inr hfailed =>
    rw [hfailed.2.1] at hna
    cases hna

end ComponentOk

/-- How many diagnostics were suppressed for want of storage. -/
def suppressed (s : RuntimePersistenceCoordinator) : Nat :=
  s.storage.suppressedEvents+s.rootFailureSuppressedDiagnostics

structure Sound (t : Nat) (s : RuntimePersistenceCoordinator) : Prop where
  owner : s.root.owner=.currentUser
  directory : s.rootRevalidationEnabled=true → trim s.storage.directory≠""
  rootState : (s.rootFailure=none ∧ s.rootRevalidationEnabled=true ∧
      s.root.permissionState=.verified ∧ s.root.directory=some s.storage.directory) ∨
    ∃ failure, s.rootFailure=some failure ∧ Spoken failure ∧ s.root.permissionState≠.verified ∧
      (s.root.permissionState=.unavailable → s.root.directory=none)
  /-- A root failure only masks what is kept from before it. -/
  before : s.rootRevalidationEnabled=true → s.rootFailure≠none →
    ∃ components, s.componentsBeforeRootFailure=some components ∧ ∀ c,
      ComponentOk t c (components c) ∧ (components c).state≠.unavailable ∧
      (components c).lastSuccessAtMs=(s.components c).lastSuccessAtMs
  components : ∀ c, ComponentOk t c (s.components c)
  unavailable : ∀ c, (s.components c).state=.unavailable → s.root.permissionState=.unavailable
  counted : suppressed s ≤ jsMaxSafeInteger

namespace Sound
variable {t : Nat} {s : RuntimePersistenceCoordinator}

theorem mono (h : Sound t s) {t' : Nat} (ht : t ≤ t') : Sound t' s := by
  refine ⟨h.owner,h.directory,h.rootState,?_,fun c => (h.components c).mono ht,h.unavailable,
    h.counted⟩
  intro he hf
  obtain ⟨components,hb,hc⟩ := h.before he hf
  exact ⟨components,hb,fun c => ⟨(hc c).1.mono ht,(hc c).2⟩⟩

/-- While the root has not failed it is verified. -/
theorem verified (h : Sound t s) (hf : s.rootFailure=none) :
    s.rootRevalidationEnabled=true ∧ s.root.permissionState=.verified := by
  cases h.rootState with
  | inl hok => exact ⟨hok.2.1,hok.2.2.1⟩
  | inr hbad =>
    obtain ⟨failure,hsome,_⟩ := hbad
    rw [hf] at hsome
    cases hsome

theorem attempt (h : Sound t s) (component : UserStorageComponent) :
    Sound t (s.attempt component) :=
  ⟨h.owner,h.directory,h.rootState,h.before,h.components,h.unavailable,h.counted⟩

theorem recordRootFailure (h : Sound t s) {failure : PersistenceFailure} (hf : Spoken failure)
    {nowMs : Nat} (hnow : nowMs ≤ t) : Sound t (s.recordRootFailure failure nowMs) := by
  have hstate : (if permissionStateOf failure=.unavailable then RuntimePersistenceState.unavailable
      else .degraded)≠.healthy := by
    split <;> simp
  refine ⟨h.owner,h.directory,.inr ⟨failure,rfl,hf,?_,?_⟩,?_,?_,?_,h.counted⟩
  · simp only [RuntimePersistenceCoordinator.recordRootFailure,permissionStateOf]
    split <;> simp
  · intro hperm
    simp only [RuntimePersistenceCoordinator.recordRootFailure] at hperm ⊢
    simp [hperm]
  · intro he _
    cases hroot : s.rootFailure with
    | none =>
      refine ⟨s.components,by simp [RuntimePersistenceCoordinator.recordRootFailure,hroot],
        fun c => ⟨h.components c,?_,rfl⟩⟩
      intro hun
      have hperm := h.unavailable c hun
      rw [(h.verified hroot).2] at hperm
      cases hperm
    | some old =>
      obtain ⟨components,hb,hc⟩ := h.before he (by rw [hroot]; simp)
      exact ⟨components,by simp [RuntimePersistenceCoordinator.recordRootFailure,hroot,hb],hc⟩
  · intro c
    exact (h.components c).fail hstate hf hnow
  · intro c hun
    simp only [RuntimePersistenceCoordinator.recordRootFailure] at hun ⊢
    split at hun
    · assumption
    · cases hun

theorem recoverRoot (h : Sound t s) {failure : PersistenceFailure} (hf : Spoken failure)
    (hroot : s.rootFailure=some failure) (he : s.rootRevalidationEnabled=true) {nowMs : Nat}
    (hnow : nowMs ≤ t) : Sound t (s.recoverRoot failure nowMs) ∧
      ∀ c, ((s.recoverRoot failure nowMs).components c).lastSuccessAtMs=
        (s.components c).lastSuccessAtMs := by
  obtain ⟨components,hb,hc⟩ := h.before he (by rw [hroot]; simp)
  have hcomponents : ∀ c, ComponentOk t c ((s.recoverRoot failure nowMs).components c) ∧
      ((s.recoverRoot failure nowMs).components c).state≠.unavailable ∧
      ((s.recoverRoot failure nowMs).components c).lastSuccessAtMs=
        (s.components c).lastSuccessAtMs := by
    intro c
    obtain ⟨hok,hstate,hlast⟩ := hc c
    simp only [RuntimePersistenceCoordinator.recoverRoot,hb,Option.getD_some]
    split
    · exact ⟨hok.fail (by simp) hf hnow,by simp,hlast⟩
    · exact ⟨hok,hstate,hlast⟩
  refine ⟨⟨h.owner,h.directory,.inl ⟨rfl,he,rfl,rfl⟩,?_,fun c => (hcomponents c).1,?_,h.counted⟩,
    fun c => (hcomponents c).2.2⟩
  · intro _ hfail
    exact absurd rfl hfail
  · intro c hun
    exact absurd hun (hcomponents c).2.1

theorem ensureRoot_spoken {storage : UserStorageCoordinator} {failure : PersistenceFailure}
    {prepared : Except PersistenceFailure PermissionVerification} (hp : SpokenAnswer prepared)
    (h : storage.ensureRoot prepared=.error failure) : Spoken failure := by
  cases prepared with
  | error failure' =>
    cases h
    exact hp
  | ok verification =>
    cases verification with
    | verifiedCurrentUser => cases h
    | unverified =>
      cases h
      simp only [Spoken]
      decide
    | invalid =>
      cases h
      simp only [Spoken]
      decide

/-- The root check of an operation lets it pass. -/
def RootPasses (s : RuntimePersistenceCoordinator)
    (prepared : Except PersistenceFailure PermissionVerification) : Prop :=
  s.rootRevalidationEnabled=true ∧ s.storage.ensureRoot prepared=.ok ()

theorem revalidateRoot (h : Sound t s) (component : UserStorageComponent)
    {prepared : Except PersistenceFailure PermissionVerification} (hp : SpokenAnswer prepared)
    {nowMs : Nat} (hnow : nowMs ≤ t) :
    Sound t (s.revalidateRoot component nowMs prepared).2 ∧
    suppressed (s.revalidateRoot component nowMs prepared).2=suppressed s ∧
    ((s.revalidateRoot component nowMs prepared).1=none → RootPasses s prepared ∧
      (s.revalidateRoot component nowMs prepared).2.rootFailure=none ∧
      ∀ c, ((s.revalidateRoot component nowMs prepared).2.components c).lastSuccessAtMs=
        (s.components c).lastSuccessAtMs) := by
  simp only [RuntimePersistenceCoordinator.revalidateRoot]
  split
  · next hdisabled =>
    refine ⟨h.attempt component,rfl,?_⟩
    intro hnone
    have := (h.verified hnone).1
    rw [hdisabled] at this
    cases this
  · next henabled =>
    rw [Bool.not_eq_false] at henabled
    cases hroot : s.storage.ensureRoot prepared with
    | error failure =>
      have hf := ensureRoot_spoken hp hroot
      exact ⟨(h.recordRootFailure hf hnow).attempt component,rfl,by simp⟩
    | ok _ =>
      cases hfail : s.rootFailure with
      | none => exact ⟨h,rfl,fun _ => ⟨⟨henabled,hroot⟩,hfail,fun _ => rfl⟩⟩
      | some failure =>
        have hf : Spoken failure := by
          cases h.rootState with
          | inl hok =>
            rw [hfail] at hok
            cases hok.1
          | inr hbad =>
            obtain ⟨failure',hsome,hsp,_⟩ := hbad
            rw [hfail] at hsome
            cases hsome
            exact hsp
        obtain ⟨hsound,hlast⟩ := h.recoverRoot hf hfail henabled hnow
        exact ⟨hsound,rfl,fun _ => ⟨⟨henabled,hroot⟩,rfl,hlast⟩⟩

/-- A change of one record that keeps it acceptable and no more unavailable. -/
theorem updateComponent (h : Sound t s) (hroot : s.rootFailure=none)
    (component : UserStorageComponent)
    {f : RuntimePersistenceComponent → RuntimePersistenceComponent}
    (hok : ComponentOk t component (f (s.components component)))
    (hstate : (f (s.components component)).state≠.unavailable) :
    Sound t (s.updateComponent component f) := by
  refine ⟨h.owner,h.directory,h.rootState,?_,?_,?_,h.counted⟩
  · intro _ hfail
    exact absurd hroot hfail
  · intro c
    simp only [RuntimePersistenceCoordinator.updateComponent]
    split
    · next hc =>
      rw [hc]
      exact hok
    · exact h.components c
  · intro c hun
    simp only [RuntimePersistenceCoordinator.updateComponent] at hun
    split at hun
    · next hc =>
      rw [hc] at hun
      exact absurd hun hstate
    · exact h.unavailable c hun

theorem recordFailure (h : Sound t s) (hroot : s.rootFailure=none)
    (component : UserStorageComponent) {failure : PersistenceFailure} (hf : Spoken failure)
    {nowMs : Nat} (hnow : nowMs ≤ t) : Sound t (s.recordFailure component failure nowMs) := by
  have hstate : (if s.root.permissionState=.unavailable then RuntimePersistenceState.unavailable
      else .degraded)=.degraded := by
    simp [(h.verified hroot).2]
  refine h.updateComponent hroot component ?_ ?_
  · rw [hstate]
    exact (h.components component).fail (by simp) hf hnow
  · simp [hstate]

theorem recordOperationFailure (h : Sound t s) (hroot : s.rootFailure=none)
    (component : UserStorageComponent) {failure : PersistenceFailure} (hf : Spoken failure)
    {nowMs : Nat} (hnow : nowMs ≤ t)
    {recheck : Except PersistenceFailure PermissionVerification} (hre : SpokenAnswer recheck) :
    Sound t (s.recordOperationFailure component failure nowMs recheck) := by
  simp only [RuntimePersistenceCoordinator.recordOperationFailure]
  split
  · exact (h.recordRootFailure hf hnow).attempt component
  · split
    · split
      · next hroot' =>
        exact (h.recordRootFailure (ensureRoot_spoken hre hroot') hnow).attempt component
      · exact h.recordFailure hroot component hf hnow
    · exact h.recordFailure hroot component hf hnow

theorem recordSuccess (h : Sound t s) (hroot : s.rootFailure=none)
    (component : UserStorageComponent) {durability : RuntimePersistenceDurability}
    (hd : durability≠.notWritten) {success : Option Nat} (hs : ∀ at', success=some at' → at' ≤ t)
    (hnone : durability=.notApplicable → success=none ∧
      (s.components component).lastSuccessAtMs=none) :
    Sound t (s.recordSuccess component durability success) :=
  h.updateComponent hroot component ((h.components component).succeed hd hs hnone) (by simp)

theorem recordDurable (h : Sound t s) (hroot : s.rootFailure=none)
    (component : UserStorageComponent) {nowMs : Nat} (hnow : nowMs ≤ t) :
    Sound t (s.recordSuccess component .durable (some nowMs)) :=
  h.recordSuccess hroot component (by simp) (by simpa using hnow) (by simp)

end Sound

/-- Every failure the backend answers in the call has something to say. -/
def SpokenAnswers {α : Type} (answers : Answers α) : Prop :=
  SpokenAnswer answers.root ∧ SpokenAnswer answers.result ∧ SpokenAnswer answers.recheck

def Call.Spoken (_ : RuntimePersistenceCoordinator) : Call → Prop
  | .loadJson _ answers => SpokenAnswers answers
  | .loadJsonMigrating _ answers => SpokenAnswers answers
  | .writeJson _ answers => SpokenAnswers answers
  | .remove _ answers => SpokenAnswers answers
  | .recordDiagnostic answers => SpokenAnswers answers
  | .retryDiagnostics => True
  | .verifyCurrentUserRoot prepared => SpokenAnswer prepared

/-- The call leaves the component with nothing stored: a load that finds no file, or a
file removed. -/
def Call.Empties (s : RuntimePersistenceCoordinator) (component : UserStorageComponent) :
    Call → Prop
  | .loadJson c answers => c=component ∧ Sound.RootPasses s answers.root ∧ answers.result=.ok false
  | .loadJsonMigrating c answers =>
    c=component ∧ Sound.RootPasses s answers.root ∧ answers.result=.ok false
  | .remove c answers =>
    c=component ∧ Sound.RootPasses s answers.root ∧ ∃ removed, answers.result=.ok removed
  | _ => False

def Call.recordsDiagnostic : Call → Bool
  | .recordDiagnostic _ => true
  | _ => false

/-- Nothing is emptied that was once loaded or written, and a diagnostic only comes while
the count of suppressed ones fits the protocol. -/
structure Clean (s : RuntimePersistenceCoordinator) (call : Call) : Prop where
  spoken : call.Spoken s
  unsaved : ∀ component, call.Empties s component → (s.components component).lastSuccessAtMs=none
  room : call.recordsDiagnostic=true → suppressed s < jsMaxSafeInteger

namespace Sound
variable {t : Nat} {s : RuntimePersistenceCoordinator} {nowMs : Nat}

/-- An operation is sound when its record of a success is. -/
theorem operate {α : Type} (h : Sound t s) (component : UserStorageComponent)
    {answers : Answers α} (ha : SpokenAnswers answers) (hnow : nowMs ≤ t)
    {record : α → RuntimePersistenceCoordinator → RuntimePersistenceCoordinator}
    (hrecord : ∀ value s', RootPasses s answers.root → answers.result=.ok value → Sound t s' →
      s'.rootFailure=none →
      (s'.components component).lastSuccessAtMs=(s.components component).lastSuccessAtMs →
      Sound t (record value s')) :
    Sound t (s.operate component nowMs answers record).2 := by
  obtain ⟨hsound,_,hpass⟩ := h.revalidateRoot component ha.1 hnow
  simp only [RuntimePersistenceCoordinator.operate]
  cases hre : s.revalidateRoot component nowMs answers.root with
  | mk failure s' =>
    rw [hre] at hsound hpass
    cases failure with
    | some failure => exact hsound
    | none =>
      obtain ⟨hroot,hnone,hlast⟩ := hpass rfl
      cases hres : answers.result with
      | ok value => exact hrecord value s' hroot hres hsound hnone (hlast component)
      | error failure =>
        refine hsound.recordOperationFailure hnone component ?_ hnow ha.2.2
        have hspoken := ha.2.1
        rw [hres] at hspoken
        exact hspoken

theorem load (h : Sound t s) (component : UserStorageComponent) {answers : Answers Bool}
    (ha : SpokenAnswers answers) (hnow : nowMs ≤ t)
    (hempty : RootPasses s answers.root → answers.result=.ok false →
      (s.components component).lastSuccessAtMs=none) :
    Sound t (s.loadJson component nowMs answers).2 := by
  refine h.operate component ha hnow ?_
  intro found s' hroot hres hs' hnone hlast
  cases found with
  | true => exact hs'.recordDurable hnone component hnow
  | false =>
    refine hs'.recordSuccess hnone component (by simp) (by simp) ?_
    intro _
    exact ⟨rfl,hlast.trans (hempty hroot hres)⟩

theorem write (h : Sound t s) (component : UserStorageComponent) {answers : Answers Unit}
    (ha : SpokenAnswers answers) (hnow : nowMs ≤ t) :
    Sound t (s.writeJson component nowMs answers).2 := by
  refine h.operate component ha hnow ?_
  intro _ s' _ _ hs' hnone _
  exact hs'.recordDurable hnone component hnow

theorem remove (h : Sound t s) (component : UserStorageComponent) {answers : Answers Bool}
    (ha : SpokenAnswers answers) (hnow : nowMs ≤ t)
    (hempty : RootPasses s answers.root → (∃ removed, answers.result=.ok removed) →
      (s.components component).lastSuccessAtMs=none) :
    Sound t (s.remove component nowMs answers).2 := by
  refine h.operate component ha hnow ?_
  intro removed s' hroot hres hs' hnone hlast
  refine hs'.recordSuccess hnone component (by simp) (by simp) ?_
  intro _
  exact ⟨rfl,hlast.trans (hempty hroot ⟨removed,hres⟩)⟩

/-- The breaker and the count of suppressed events are nobody else's business. -/
theorem withStorage (h : Sound t s) {storage : UserStorageCoordinator}
    (hdir : storage.directory=s.storage.directory)
    (hcount : suppressed { s with storage := storage } ≤ jsMaxSafeInteger) :
    Sound t { s with storage := storage } := by
  refine ⟨h.owner,?_,?_,h.before,h.components,h.unavailable,hcount⟩
  · intro he
    rw [hdir]
    exact h.directory he
  · simp only [hdir]
    exact h.rootState

/-- The storage counts an event it suppresses and no other. -/
theorem storage_recordDiagnostic {storage storage' : UserStorageCoordinator}
    {appended : Except PersistenceFailure Unit} {outcome : DiagnosticWriteOutcome}
    (h : storage.recordDiagnostic appended=(outcome,storage')) :
    storage'.directory=storage.directory ∧
    storage'.suppressedEvents=(if outcome=.suppressed then satAdd storage.suppressedEvents 1
      else storage.suppressedEvents) ∧
    ∀ failure, outcome=.failed failure → appended=.error failure := by
  simp only [UserStorageCoordinator.recordDiagnostic] at h
  split at h
  · cases h
    exact ⟨rfl,rfl,by simp⟩
  · cases appended with
    | ok _ =>
      cases h
      exact ⟨rfl,rfl,by simp⟩
    | error failure =>
      cases h
      refine ⟨?_,?_,by simp⟩
      · split <;> rfl
      · split <;> rfl

theorem recordDiagnostic (h : Sound t s) {answers : Answers Unit} (ha : SpokenAnswers answers)
    (hnow : nowMs ≤ t) (hroom : suppressed s < jsMaxSafeInteger) :
    Sound t (s.recordDiagnostic nowMs answers).2 := by
  obtain ⟨hsound,hcount,hpass⟩ := h.revalidateRoot .diagnostics ha.1 hnow
  simp only [RuntimePersistenceCoordinator.recordDiagnostic]
  cases hre : s.revalidateRoot .diagnostics nowMs answers.root with
  | mk failure s' =>
    rw [hre] at hsound hcount hpass
    cases failure with
    | some failure =>
      simp only
      split
      · refine ⟨hsound.owner,hsound.directory,hsound.rootState,hsound.before,hsound.components,
          hsound.unavailable,?_⟩
        simp only [suppressed,satAdd] at hcount hroom ⊢
        omega
      · exact ⟨hsound.owner,hsound.directory,hsound.rootState,hsound.before,hsound.components,
          hsound.unavailable,hsound.counted⟩
    | none =>
      obtain ⟨_,hnone,_⟩ := hpass rfl
      cases hdiag : s'.storage.recordDiagnostic answers.result with
      | mk outcome storage =>
        obtain ⟨hdir,hevents,hfailed⟩ := storage_recordDiagnostic hdiag
        have hkept : outcome≠.suppressed → Sound t { s' with storage := storage } := by
          intro hne
          refine hsound.withStorage hdir ?_
          simp only [suppressed,hevents,hne,if_false]
          exact hsound.counted
        simp only [hdiag]
        cases outcome with
        | written =>
          exact (hkept (by simp)).recordDurable hnone .diagnostics hnow
        | suppressed =>
          refine hsound.withStorage hdir ?_
          simp only [suppressed,satAdd,if_true] at hcount hroom hevents ⊢
          omega
        | failed failure =>
          have hspoken := ha.2.1
          rw [hfailed failure rfl] at hspoken
          exact (hkept (by simp)).recordOperationFailure hnone .diagnostics hspoken hnow ha.2.2

theorem retryDiagnostics (h : Sound t s) : Sound t s.retryDiagnostics := by
  simp only [RuntimePersistenceCoordinator.retryDiagnostics]
  split
  · exact h.withStorage rfl h.counted
  · exact h

theorem run (h : Sound t s) {call : Call} (hclean : Clean s call) (hnow : nowMs ≤ t) :
    Sound t (call.run nowMs s) := by
  have hspoken := hclean.spoken
  have hunsaved := hclean.unsaved
  cases call with
  | loadJson component answers =>
    exact h.load component hspoken hnow (fun hroot hres => hunsaved component ⟨rfl,hroot,hres⟩)
  | loadJsonMigrating component answers =>
    exact h.load component hspoken hnow (fun hroot hres => hunsaved component ⟨rfl,hroot,hres⟩)
  | writeJson component answers => exact h.write component hspoken hnow
  | remove component answers =>
    exact h.remove component hspoken hnow (fun hroot hres => hunsaved component ⟨rfl,hroot,hres⟩)
  | recordDiagnostic answers => exact h.recordDiagnostic hspoken hnow (hclean.room rfl)
  | retryDiagnostics => exact h.retryDiagnostics
  | verifyCurrentUserRoot prepared => exact (h.revalidateRoot .settings hspoken hnow).1

theorem interrupted (h : Sound t s) {call : Call} (hclean : Clean s call) (hnow : nowMs ≤ t) :
    Sound t (call.interrupted nowMs s) := by
  have hspoken := hclean.spoken
  cases call with
  | loadJson component answers => exact (h.revalidateRoot component hspoken.1 hnow).1
  | loadJsonMigrating component answers => exact (h.revalidateRoot component hspoken.1 hnow).1
  | writeJson component answers => exact (h.revalidateRoot component hspoken.1 hnow).1
  | remove component answers => exact (h.revalidateRoot component hspoken.1 hnow).1
  | recordDiagnostic answers => exact (h.revalidateRoot .diagnostics hspoken.1 hnow).1
  | retryDiagnostics => exact h
  | verifyCurrentUserRoot prepared => exact (h.revalidateRoot .settings hspoken hnow).1

theorem runs {calls : List Call} {s' : RuntimePersistenceCoordinator} (h : Sound t s)
    (hruns : Runs Clean nowMs s calls s') (hnow : nowMs ≤ t) : Sound t s' := by
  induction hruns with
  | nil s => exact h
  | cons s s' call calls hclean _ ih => exact ih (h.run hclean hnow)

theorem new (directory : String) (hd : trim directory≠"")
    {prepared : Except PersistenceFailure PermissionVerification} (hp : SpokenAnswer prepared)
    (clock : Nat) :
    Sound clock (RuntimePersistenceCoordinator.new { directory := directory } prepared clock) := by
  have hfresh : Sound clock
      { storage := { directory := directory }
        root := { owner := .currentUser, directory := some directory,
                  permissionState := .verified }
        components := initialComponent } := by
    refine ⟨rfl,fun _ => hd,.inl ⟨rfl,rfl,rfl,rfl⟩,?_,?_,?_,Nat.zero_le _⟩
    · intro _ hf
      exact absurd rfl hf
    · intro c
      exact ⟨rfl,rfl,by simp [initialComponent],.inl ⟨rfl,rfl,by simp [initialComponent],by
        simp [initialComponent]⟩⟩
    · intro c hun
      cases hun
  simp only [RuntimePersistenceCoordinator.new]
  split
  · exact hfresh
  · next hroot => exact hfresh.recordRootFailure (ensureRoot_spoken hp hroot) (Nat.le_refl _)

theorem newUnavailable (directory : String) {failure : PersistenceFailure}
    (hf : Persistence.Spoken failure) (clock : Nat) :
    Sound clock
      (RuntimePersistenceCoordinator.unavailable { directory := directory } failure clock) := by
  refine ⟨rfl,?_,.inr ⟨failure,rfl,hf,by simp [RuntimePersistenceCoordinator.unavailable],
    fun _ => rfl⟩,?_,?_,fun _ _ => rfl,Nat.zero_le _⟩
  · intro he
    cases he
  · intro he
    cases he
  · intro c
    exact ⟨rfl,rfl,by simp [RuntimePersistenceCoordinator.unavailable,initialComponent],
      .inr ⟨by simp [RuntimePersistenceCoordinator.unavailable],rfl,failure,clock,rfl,hf,
        Nat.le_refl _⟩⟩

end Sound

/-- A health report that the protocol accepts at any time from `t` on. -/
structure HealthOk (t : Nat) (health : RuntimePersistence) : Prop where
  intro ::
  parts : ∃ (root : RuntimePersistenceRoot)
      (components : UserStorageComponent → RuntimePersistenceComponent),
    health.roots=[root] ∧ root.owner=.currentUser ∧
    rootStateInvalid (encodePersistenceRoot root)=false ∧
    health.components=[components .settings,components .warmCache,components .diagnostics] ∧
    (∀ c, ComponentOk t c (components c)) ∧
    (∀ c, (components c).state=.unavailable → root.permissionState=.unavailable) ∧
    health.state=overallState (RuntimePersistenceCoordinator.rootState root.permissionState)
      health.components
  counted : health.suppressedDiagnosticEvents ≤ jsMaxSafeInteger

/-- The components are already in the order that `health` sorts them into. -/
theorem health_components {s : RuntimePersistenceCoordinator}
    (hkind : ∀ c, (s.components c).kind=c.runtimeKind) : s.health.components=
      [s.components .settings,s.components .warmCache,s.components .diagnostics] := by
  refine List.mergeSort_of_pairwise ?_
  simp [hkind,UserStorageComponent.runtimeKind,kindRank]

theorem Sound.health {t : Nat} {s : RuntimePersistenceCoordinator} (h : Sound t s) :
    HealthOk t s.health := by
  have hsorted := health_components (fun c => (h.components c).kind)
  refine ⟨⟨s.root,s.components,rfl,h.owner,?_,hsorted,h.components,h.unavailable,rfl⟩,?_⟩
  · cases h.rootState with
    | inl hok =>
      have hdir := h.directory hok.2.1
      simp [encodePersistenceRoot,rootStateInvalid,hok,persistencePermissionState,hdir]
    | inr hbad =>
      obtain ⟨failure,_,_,hne,hun⟩ := hbad
      simp only [encodePersistenceRoot,rootStateInvalid]
      cases hperm : s.root.permissionState with
      | verified => exact absurd hperm hne
      | invalid => rfl
      | unavailable => simp [persistencePermissionState,hun hperm]
  · have hcount := h.counted
    simp only [suppressed,RuntimePersistenceCoordinator.health,satAdd] at hcount ⊢
    omega

theorem HealthOk.mono {t t' : Nat} {health : RuntimePersistence} (h : HealthOk t health)
    (ht : t ≤ t') : HealthOk t' health := by
  obtain ⟨⟨root,components,hr,ho,hi,hc,hok,hun,hs⟩,hn⟩ := h
  exact ⟨⟨root,components,hr,ho,hi,hc,fun c => (hok c).mono ht,hun,hs⟩,hn⟩

section Ranks

theorem worstState_rank (a b : RuntimePersistenceState) :
    stateRank (worstState a b)=max (stateRank a) (stateRank b) := by
  simp only [worstState]
  split <;> omega

/-- Components that store nothing are healthy, so the fold may take them in. -/
theorem overallState_rank (components : List RuntimePersistenceComponent)
    (root : RuntimePersistenceState)
    (h : ∀ component∈components, component.durability=.notApplicable → component.state=.healthy) :
    stateRank (overallState root components)=
      components.foldl (fun n component => max n (stateRank component.state)) (stateRank root) := by
  induction components generalizing root with
  | nil => rfl
  | cons component components ih =>
    have htail := ih (worstState root component.state)
      (fun c hc => h c (List.mem_cons_of_mem _ hc))
    rw [worstState_rank] at htail
    by_cases hna : component.durability=.notApplicable
    · have hhealthy := h component List.mem_cons_self hna
      have hsame : worstState root component.state=root := by
        rw [hhealthy]
        cases root <;> rfl
      rw [hsame] at htail
      simp only [List.foldl_cons,← htail,overallState]
      rw [List.filter_cons_of_neg (by simp [hna])]
    · simp only [List.foldl_cons,← htail,overallState]
      rw [List.filter_cons_of_pos (by simp [hna]),List.foldl_cons]

theorem stateRank_inj {a b : RuntimePersistenceState} (h : stateRank a=stateRank b) : a=b := by
  cases a <;> cases b <;> first | rfl | cases h

theorem rank_persistenceState (state : RuntimePersistenceState) :
    (persistenceState state).rank=stateRank state := by
  cases state <;> rfl

/-- The loop of the reader computes what `health` computed. -/
theorem foldl_recordComponentState (components : List RuntimePersistenceComponent)
    (root : RuntimePersistenceState) :
    (components.map encodePersistenceComponent).foldl recordComponentState
      (some (persistenceState root))=some (persistenceState (overallState root components)) := by
  induction components generalizing root with
  | nil => rfl
  | cons component components ih =>
    by_cases hna : component.durability=.notApplicable
    · have hskip : recordComponentState (some (persistenceState root))
          (encodePersistenceComponent component)=some (persistenceState root) := by
        simp [recordComponentState,encodePersistenceComponent,hna,persistenceDurability]
      rw [List.map_cons,List.foldl_cons,hskip,ih,overallState,overallState,
        List.filter_cons_of_neg (by simp [hna])]
    · have hrecord : recordComponentState (some (persistenceState root))
          (encodePersistenceComponent component)=
          some (persistenceState (worstState root component.state)) := by
        have hne : persistenceDurability component.durability≠.notApplicable := by
          cases hd : component.durability with
          | notApplicable => exact absurd hd hna
          | durable => simp [persistenceDurability]
          | notWritten => simp [persistenceDurability]
          | sessionOnly => simp [persistenceDurability]
        obtain ⟨next,hnext,hrank⟩ := recordPersistenceState_rank (persistenceState root)
          (persistenceState component.state)
        simp only [recordComponentState,encodePersistenceComponent,hne,if_false,hnext]
        rw [rank_persistenceState,rank_persistenceState,← worstState_rank,
          ← rank_persistenceState] at hrank
        rw [rank_inj hrank]
      rw [List.map_cons,List.foldl_cons,hrecord,ih,overallState,overallState,
        List.filter_cons_of_pos (by simp [hna]),List.foldl_cons]

end Ranks
end BatCave.Persistence
