import BatCave.CollectorService.EtwLeaseRuns
import BatCave.CollectorService.EtwRecovery

/-! The session and its lease over crashes, failures and reboots: whoever starts finds a
lease for every session there is, and only takes down what the lease and its own eyes agree
on. -/
namespace BatCave.CollectorService.EtwLease
open BatCave.Lib.Result BatCave.Lib.Effects

/-- What outlives a process of the service, and which of its processes run. -/
structure World where
  leaf : Leaf
  session : Option EtwSessionIdentityV1
  bootIdentity : Vector UInt8 16
  running : List EtwControllerIdentityV1

namespace World

/-- What happens beside the process that owns the session: a process that is done exits, or
its monitor still stops the session late. -/
structure Drifts (w w' : World) : Prop where
  leaf : w'.leaf=w.leaf
  bootIdentity : w'.bootIdentity=w.bootIdentity
  session : w'.session=w.session ∨ w'.session=none
  running : ∀ controller∈w'.running, controller∈w.running

theorem Drifts.refl (w : World) : Drifts w w := ⟨rfl,rfl,.inl rfl,fun _ h => h⟩

theorem Drifts.trans {w w₁ w' : World} (h : Drifts w w₁) (h' : Drifts w₁ w') : Drifts w w' := by
  refine ⟨h'.leaf.trans h.leaf,h'.bootIdentity.trans h.bootIdentity,?_,
    fun controller hc => h.running controller (h'.running controller hc)⟩
  cases h'.session with
  | inl hsame =>
    rw [hsame]
    exact h.session
  | inr hnone => exact .inr hnone

theorem Drifts.none {w w' : World} (h : Drifts w w') (hnone : w.session=none) :
    w'.session=none := by
  cases h.session with
  | inl hsame => exact hsame.trans hnone
  | inr hnone => exact hnone

end World

namespace Service
variable (c : Service)

/-- A stop of the session: it is gone, or the stop failed and it may be gone all the same. -/
def Stops (w : World) (r : Except String Unit) (w' : World) : Prop :=
  w'={ w with session := none } ∨ (r≠.ok () ∧ w'=w)

/-- How the system may answer a process of the service, and what it does on the way. Queries
that answer tell the truth, writes and removals of the lease are the store's. -/
def Answers (self : EtwControllerIdentityV1) :
    (op : Op c.platform) → World → op.Res → World → Prop
  | .tryAcquireOwner,w,_,w' => w'=w
  | .serviceGeneration,w,r,w' => w'=w ∧ ∀ generation, r=.ok generation →
      generation=c.serviceGeneration
  | .bootIdentity,w,r,w' => w'=w ∧ ∀ bootIdentity, r=.ok bootIdentity →
      bootIdentity=w.bootIdentity
  | .currentControllerIdentity,w,r,w' => w'=w ∧ ∀ controller, r=.ok controller → controller=self
  | .observeLease,w,r,w' => w'=w ∧ ∃ io, r=observe c.store c.authority io w.leaf
  | .replaceLease prior lease,w,r,w' => ∃ io,
      r=(replace c.store c.authority prior lease io w.leaf).1 ∧
        w'={ w with leaf := (replace c.store c.authority prior lease io w.leaf).2 }
  | .removeLease prior,w,r,w' => ∃ io,
      r=(removeAfterProvenAbsence c.store c.authority prior io w.leaf).1 ∧
        w'={ w with leaf := (removeAfterProvenAbsence c.store c.authority prior io w.leaf).2 }
  | .queryServiceSession,w,r,w' => w'=w ∧ ∀ found, r=.ok found →
      found.map Prod.fst=w.session
  | .stopTraceByHandle _,w,r,w' => Stops w r w'
  | .observeController expected,w,r,w' => w'=w ∧ match r with
      | .absent => expected∉w.running
      | .present controller => controller.processId=expected.processId ∧
          (controller=expected → expected∈w.running)
      | .queryUnavailable => True
  | .startTrace,w,r,w' => match r with
      | .ok _ => w.session=none ∧ w'={ w with session := some c.session }
      | .error _ => w'=w
  | .openTrace,w,_,w' => w'=w
  | .spawnConsumer,w,_,w' => w'=w
  | .controlStopTrace _,w,r,w' => Stops w r w'
  | .closeTrace,w,_,w' => w'=w
  | .joinConsumer,w,_,w' => w'=w
  | .startEngine,w,_,w' => w'=w
  | .serve,w,_,w' => w'=w
  | .stopEngine,w,_,w' => w'=w

/-- A lease that this install and this build of the service have written. -/
structure Ours (lease : EtwLeaseV1) : Prop where
  schemaVersion : lease.schemaVersion=etwLeaseSchemaVersion
  wellFormed : leaseIsWellFormed lease=true
  installId : lease.installId=c.installId
  serviceGeneration : lease.serviceGeneration=c.serviceGeneration
  session : lease.session=c.session

/-- The file is the service's own, and a session that exists is named by a lease of this
boot. -/
structure Owned (w : World) : Prop where
  leaf : w.leaf=.absent ∨ ∃ lease, observation c.platform w.leaf=.trusted lease ∧ c.Ours lease
  session : ∀ session, w.session=some session → session=c.session ∧ ∃ lease,
    observation c.platform w.leaf=.trusted lease ∧ c.Ours lease ∧
      lease.bootIdentity=w.bootIdentity

variable {c}

theorem Owned.drift {w w' : World} (h : c.Owned w) (hdrift : World.Drifts w w') : c.Owned w' := by
  constructor
  · rw [hdrift.leaf]
    exact h.leaf
  · intro session hsession
    cases hdrift.session with
    | inl hsame =>
      rw [hdrift.leaf,hdrift.bootIdentity]
      exact h.session session (hsame.symm.trans hsession)
    | inr hnone =>
      rw [hnone] at hsession
      cases hsession

section Decisions

/-- The observation says that the controller does not run: its process is gone, or another
process has its number. -/
def NotRunning (controller : EtwControllerIdentityV1) (observed : EtwControllerObservation) :
    Prop :=
  observed=.absent ∨ ∃ other, observed=.present other ∧ other≠controller

variable {expected : EtwExpectedOwnerV1} {seen : EtwLeaseObservation}
  {session : EtwSessionObservation} {controller : EtwControllerObservation}
  {attempt : EtwReclaimAttempt}

theorem decideControlled_cases (lease : EtwLeaseV1) (settled : EtwRecoveryDecision)
    (controller : EtwControllerObservation) (attempt : EtwReclaimAttempt) :
    (∃ hold, decideControlled lease settled controller attempt=.retain hold) ∨
      (controller=.present lease.controller ∧
        decideControlled lease settled controller attempt=.conflict .controllerStillActive) ∨
      (NotRunning lease.controller controller ∧
        decideControlled lease settled controller attempt=settled) := by
  cases hattempt : attempt with
  | stopFailed =>
    cases controller with
    | queryUnavailable => exact .inl ⟨_,rfl⟩
    | absent => exact .inl ⟨_,rfl⟩
    | present other =>
      simp only [decideControlled]
      split
      · exact .inl ⟨_,rfl⟩
      · split
        · next hsame => exact .inr (.inl ⟨congrArg _ hsame,rfl⟩)
        · exact .inl ⟨_,rfl⟩
  | notAttempted =>
    cases controller with
    | queryUnavailable => exact .inl ⟨_,rfl⟩
    | absent => exact .inr (.inr ⟨.inl rfl,rfl⟩)
    | present other =>
      simp only [decideControlled]
      split
      · exact .inl ⟨_,rfl⟩
      · split
        · next hsame => exact .inr (.inl ⟨congrArg _ hsame,rfl⟩)
        · next hother => exact .inr (.inr ⟨.inr ⟨other,rfl,hother⟩,rfl⟩)

theorem decideOwned_reclaim {lease : EtwLeaseV1} {phase : EtwLeasePhase}
    (h : decideOwned lease session controller attempt=.reclaimExact phase) :
    session=.present lease.session ∧ NotRunning lease.controller controller := by
  cases session with
  | queryUnavailable => cases h
  | absent =>
    rw [decideOwned] at h
    obtain ⟨hold,hretain⟩ | ⟨-,hconflict⟩ | ⟨-,hsettled⟩ :=
      decideControlled_cases lease (.startFresh true) controller attempt
    · rw [hretain] at h
      cases h
    · rw [hconflict] at h
      cases h
    · rw [hsettled] at h
      cases h
  | present present =>
    rw [decideOwned] at h
    split at h
    · cases h
    · next hsame =>
      obtain ⟨hold,hretain⟩ | ⟨-,hconflict⟩ | ⟨hrunning,-⟩ :=
        decideControlled_cases lease (.reclaimExact lease.phase) controller attempt
      · rw [hretain] at h
        cases h
      · rw [hconflict] at h
        cases h
      · exact ⟨congrArg _ (not_not.mp hsame),hrunning⟩

/-- A reclaim is decided only for the session of the lease that is expected, when its
controller was seen not to run. -/
theorem decideEtwRecovery_reclaim {phase : EtwLeasePhase}
    (h : decideEtwRecovery expected seen session controller attempt=.reclaimExact phase) :
    ∃ lease, seen=.trusted lease ∧ lease.session=expected.session ∧
      lease.bootIdentity=expected.bootIdentity ∧ session=.present lease.session ∧
      NotRunning lease.controller controller := by
  cases seen with
  | absent =>
    cases session with
    | absent => cases h
    | present session => cases h
    | queryUnavailable => cases h
  | corrupt => cases h
  | untrusted => cases h
  | trusted lease =>
    simp only [decideEtwRecovery] at h
    split at h
    · cases h
    · split at h
      · cases h
      · split at h
        · cases h
        · split at h
          · cases h
          · split at h
            · cases h
            · next hsession =>
              split at h
              · split at h
                · cases h
                · cases h
                · cases h
              · next hboot =>
                obtain ⟨hpresent,hcontroller⟩ := decideOwned_reclaim h
                exact ⟨lease,rfl,not_not.mp hsession,not_not.mp hboot,hpresent,hcontroller⟩

/-- What a start has seen fits together, as it does in a world that is owned. -/
structure Fits (c : Service) (expected : EtwExpectedOwnerV1) (seen : EtwLeaseObservation)
    (session : EtwSessionObservation) (controller : EtwControllerObservation) : Prop where
  installId : expected.installId=c.installId
  serviceGeneration : expected.serviceGeneration=c.serviceGeneration
  expectedSession : expected.session=c.session
  lease : seen=.absent ∨ ∃ lease, seen=.trusted lease ∧ c.Ours lease
  session : ∀ present, session=.present present → present=c.session ∧
    ∃ lease, seen=.trusted lease ∧ lease.bootIdentity=expected.bootIdentity
  controller : ∀ lease, seen=.trusted lease → controller≠.present lease.controller

theorem decideControlled_fits {lease : EtwLeaseV1} {settled : EtwRecoveryDecision}
    {conflict : EtwLeaseConflict} (hsettled : settled≠.conflict conflict)
    (hcontroller : controller≠.present lease.controller) :
    decideControlled lease settled controller attempt≠.conflict conflict := by
  obtain ⟨hold,hretain⟩ | ⟨hsame,-⟩ | ⟨-,hcase⟩ :=
    decideControlled_cases lease settled controller attempt
  · rw [hretain]
    intro h
    cases h
  · exact absurd hsame hcontroller
  · rw [hcase]
    exact hsettled

theorem decideOwned_fits {lease : EtwLeaseV1}
    (hsession : ∀ present, session=.present present → present=lease.session)
    (hcontroller : controller≠.present lease.controller) (conflict : EtwLeaseConflict) :
    decideOwned lease session controller attempt≠.conflict conflict := by
  cases session with
  | queryUnavailable =>
    intro h
    cases h
  | absent => exact decideControlled_fits (by intro h; cases h) hcontroller
  | present present =>
    rw [decideOwned,if_neg (not_not.mpr (hsession present rfl))]
    exact decideControlled_fits (by intro h; cases h) hcontroller

/-- Nothing that fits together is a conflict. -/
theorem Fits.decide (h : Fits c expected seen session controller) (attempt : EtwReclaimAttempt)
    (conflict : EtwLeaseConflict) :
    decideEtwRecovery expected seen session controller attempt≠.conflict conflict := by
  cases h.lease with
  | inl habsent =>
    rw [habsent]
    cases session with
    | absent =>
      intro hconflict
      cases hconflict
    | present present =>
      obtain ⟨-,lease,htrusted,-⟩ := h.session present rfl
      rw [habsent] at htrusted
      cases htrusted
    | queryUnavailable =>
      intro hconflict
      cases hconflict
  | inr htrusted =>
    obtain ⟨lease,htrusted,hours⟩ := htrusted
    rw [htrusted]
    simp only [decideEtwRecovery,hours.schemaVersion,hours.wellFormed,hours.installId,h.installId,
      hours.serviceGeneration,h.serviceGeneration,hours.session,h.expectedSession]
    simp only [ne_eq,not_true_eq_false,if_false,Bool.not_true,Bool.false_eq_true]
    split
    · next hboot =>
      cases session with
      | absent =>
        intro hconflict
        cases hconflict
      | present present =>
        obtain ⟨-,named,hnamed,hcurrent⟩ := h.session present rfl
        rw [htrusted] at hnamed
        cases hnamed
        exact absurd hcurrent hboot
      | queryUnavailable =>
        intro hconflict
        cases hconflict
    · refine decideOwned_fits ?_ (h.controller lease htrusted) conflict
      intro present hpresent
      rw [(h.session present hpresent).1,hours.session]

end Decisions

section Store
variable {w w' : World} {self : EtwControllerIdentityV1}
variable (hcodec : ∀ lease bytes, c.platform.toVec lease=some bytes →
  c.platform.fromSlice bytes=some lease)

/-- A lease as this service drafts it in this boot. -/
structure Drafted (c : Service) (bootIdentity : Vector UInt8 16) (lease : EtwLeaseV1) : Prop where
  schemaVersion : lease.schemaVersion=etwLeaseSchemaVersion
  installId : lease.installId=c.installId
  serviceGeneration : lease.serviceGeneration=c.serviceGeneration
  session : lease.session=c.session
  bootIdentity : lease.bootIdentity=bootIdentity

theorem Drafted.phase {bootIdentity : Vector UInt8 16} {lease : EtwLeaseV1}
    (h : Drafted c bootIdentity lease) (phase : EtwLeasePhase) :
    Drafted c bootIdentity { lease with phase := phase } :=
  ⟨h.schemaVersion,h.installId,h.serviceGeneration,h.session,h.bootIdentity⟩

theorem Owned.lease {lease : EtwLeaseV1} (h : c.Owned w)
    (htrusted : observation c.platform w.leaf=.trusted lease) : c.Ours lease := by
  cases h.leaf with
  | inl habsent =>
    rw [habsent] at htrusted
    cases htrusted
  | inr hleaf =>
    obtain ⟨other,hother,hours⟩ := hleaf
    rw [htrusted] at hother
    cases hother
    exact hours

/-- What a replacement may write: a new draft, or what was there in another phase. -/
def Renews (c : Service) (w : World) (prior : EtwLeaseSnapshot c.platform) (lease : EtwLeaseV1) :
    Prop :=
  Drafted c w.bootIdentity lease ∨
    ∃ old phase, prior.observation=.trusted old ∧ lease={ old with phase := phase }

include hcodec in
/-- A replacement keeps the ownership, whether it fails or not. -/
theorem Owned.replace {prior : EtwLeaseSnapshot c.platform} {lease : EtwLeaseV1}
    {r : Except EtwLeasePersistenceError Unit} (h : c.Owned w) (hrenews : Renews c w prior lease)
    (hanswer : c.Answers self (.replaceLease prior lease) w r w') : c.Owned w' := by
  obtain ⟨io,-,hworld⟩ := hanswer
  have heffect : Effect c.platform c.store w.leaf (.replace c.authority prior lease io)
      (failure (EtwLease.replace c.store c.authority prior lease io w.leaf).1)
      (EtwLease.replace c.store c.authority prior lease io w.leaf).2 :=
    replace_effect hcodec c.authority prior lease io
  rw [hworld]
  generalize failure (EtwLease.replace c.store c.authority prior lease io w.leaf).1=error at heffect
  generalize (EtwLease.replace c.store c.authority prior lease io w.leaf).2=leaf' at heffect ⊢
  cases heffect with
  | nothing => exact h
  | replaced hbrand hprior hlease howner hwritten =>
    have hours : c.Ours lease := by
      cases hrenews with
      | inl hdraft =>
        exact ⟨hdraft.schemaVersion,hlease,hdraft.installId,hdraft.serviceGeneration,
          hdraft.session⟩
      | inr hold =>
        obtain ⟨old,phase,hold,hphase⟩ := hold
        have hseen : observation c.platform w.leaf=.trusted old :=
          (congrArg Prod.fst hprior).trans hold
        have hours := h.lease hseen
        rw [hphase] at hlease ⊢
        exact ⟨hours.schemaVersion,hlease,hours.installId,hours.serviceGeneration,hours.session⟩
    refine ⟨.inr ⟨lease,hwritten,hours⟩,?_⟩
    intro session hsession
    obtain ⟨hsame,named,hnamed,-,hboot⟩ := h.session session hsession
    refine ⟨hsame,lease,hwritten,hours,?_⟩
    cases hrenews with
    | inl hdraft => exact hdraft.bootIdentity
    | inr hold =>
      obtain ⟨old,phase,hold,hphase⟩ := hold
      have hseen : observation c.platform w.leaf=.trusted old :=
        (congrArg Prod.fst hprior).trans hold
      rw [hnamed] at hseen
      cases hseen
      rw [hphase]
      exact hboot

include hcodec in
/-- A replacement that succeeds is what the file says. -/
theorem replaced {prior : EtwLeaseSnapshot c.platform} {lease : EtwLeaseV1}
    (hanswer : c.Answers self (.replaceLease prior lease) w (.ok ()) w') :
    observation c.platform w'.leaf=.trusted lease := by
  obtain ⟨io,hok,hworld⟩ := hanswer
  rw [hworld]
  simp only [EtwLease.replace] at hok ⊢
  cases hreplacement : replacement c.store c.authority prior lease io w.leaf with
  | error error =>
    rw [hreplacement] at hok
    cases hok
  | ok bytes =>
    rw [hreplacement] at hok
    simp only [writeBytesAtomic] at hok ⊢
    split at hok
    · next hdone =>
      simp only [hdone,if_true]
      rw [replacement,unit_bind_ok,unit_bind_ok,unit_bind_ok,unit_bind_ok,okOr_bind_ok]
        at hreplacement
      obtain ⟨-,-,-,-,bytes',hbytes,hreplacement⟩ := hreplacement
      rw [unit_bind_ok,unit_bind_ok,pure_ok] at hreplacement
      obtain ⟨hlength,-,hsame⟩ := hreplacement
      rw [hsame] at hbytes hlength
      rw [reject_ok,decide_eq_false_iff_not] at hlength
      exact classify_written (by omega) (hcodec lease bytes hbytes)
    · cases hok

/-- Without a session the lease may go. -/
theorem Owned.remove {prior : EtwLeaseSnapshot c.platform}
    {r : Except EtwLeasePersistenceError Bool} (h : c.Owned w) (hnone : w.session=none)
    (hanswer : c.Answers self (.removeLease prior) w r w') : c.Owned w' := by
  obtain ⟨io,-,hworld⟩ := hanswer
  have heffect : Effect c.platform c.store w.leaf (.remove c.authority prior io)
      (failure (removeAfterProvenAbsence c.store c.authority prior io w.leaf).1)
      (removeAfterProvenAbsence c.store c.authority prior io w.leaf).2 :=
    remove_effect c.authority prior io
  rw [hworld]
  generalize failure (removeAfterProvenAbsence c.store c.authority prior io w.leaf).1=error
    at heffect
  generalize (removeAfterProvenAbsence c.store c.authority prior io w.leaf).2=leaf' at heffect ⊢
  cases heffect with
  | nothing => exact h
  | removed hbrand hprior hlease herror =>
    refine ⟨.inl rfl,?_⟩
    intro session hsession
    rw [hnone] at hsession
    cases hsession

theorem Stops.drifts {r : Except String Unit} (h : Stops w r w') : World.Drifts w w' := by
  cases h with
  | inl hgone =>
    rw [hgone]
    exact ⟨rfl,rfl,.inr rfl,fun _ h => h⟩
  | inr hfailed =>
    rw [hfailed.2]
    exact .refl w

end Store

end Service
end BatCave.CollectorService.EtwLease
