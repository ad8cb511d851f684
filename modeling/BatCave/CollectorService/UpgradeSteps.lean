import BatCave.CollectorService.UpgradeWorld

/-! The steps of an upgrade: rolled back, committed, finalized or superseded, each with what it
needs of the journal on disk and what it leaves. -/
namespace BatCave.CollectorService.Upgrade
open BatCave.Lib.Effects BatCave.Lib.Files

section Rollback
variable {sha256 : List UInt8 → Digest} {j : UpgradeJournalV1} {w : World}

theorem World.Undoable.kept (h : w.Undoable sha256 j) (hvalid : j.validate=.ok ())
    (hjournal : ∀ j, w.journal=some j → j.validate=.ok () ∧ j.oldDigest∈w.proven ∧
      (j.phase=.verified → j.newDigest∈w.proven)) : Kept sha256 w := by
  obtain ⟨⟨phase,hj⟩,hbacked⟩ := h
  refine ⟨hjournal,.inr ⟨_,hj,?_⟩⟩
  rw [(j.validate_ok hvalid).1]
  exact hbacked

/-- The backup's copy takes the place of the stable image, whatever that is. -/
theorem does_replaceStable (hvalid : j.validate=.ok ()) :
    Does sha256 (fun w => w.Undoable sha256 j)
    (ask (.replaceFile rollbackTempName serviceExecutableName))
    (fun _ w => w.Undoable sha256 j) (fun w => w.Undoable sha256 j) := by
  refine does_ask (fun w r w' hkept hpre hanswer => ?_)
  obtain rfl | ⟨hr,rfl⟩ := hanswer
  · have hsame : w.files.rename rollbackTempName serviceExecutableName
      (upgradeBackupName j.oldDigest)=w.files (upgradeBackupName j.oldDigest) := by
      have hout : upgradeBackupName j.oldDigest∉
        ({ rollbackTempName,serviceExecutableName } : Set String) := by
        simp [backup_ne_rollbackTemp,backup_ne_stable]
      exact untouched_rename (Set.mem_insert _ _) (Set.mem_insert_of_mem _ (Set.mem_singleton _))
        _ hout
    have hafter : World.Undoable sha256
        { w with files := w.files.rename rollbackTempName serviceExecutableName } j :=
      ⟨hpre.1,hpre.2.congr hsame⟩
    exact ⟨hafter.kept hvalid hkept.journal,by cases r <;> exact hafter⟩
  · exact ⟨hkept,by cases r <;> exact hpre⟩

theorem does_restoreUpgradeBackup (hvalid : j.validate=.ok ()) :
    Does sha256 (fun w => w.Recorded j) (restoreUpgradeBackup j.backupName j.oldDigest)
      (fun _ w => w.Undoable sha256 j ∧ w.Holds sha256 serviceExecutableName j.oldDigest)
      (fun w => w.Recorded j) := by
  have hname := (j.validate_ok hvalid).1
  refine Ensures.bind does_fileDigest (fun digest => ?_)
  split
  · exact does_throw (fun _ h => h.1)
  next hdigest =>
  have hsame := Decidable.not_not.mp hdigest
  subst hsame
  have hcopied : Does sha256 (fun w => w.Undoable sha256 j) (do
      ask (.copyFile j.backupName rollbackTempName)
      let copied ← ask (.fileDigest rollbackTempName)
      if copied≠j.oldDigest then throw "collector_service_upgrade_restore_identity_invalid"
      else do
        ask (.replaceFile rollbackTempName serviceExecutableName)
        let restored ← ask (.fileDigest serviceExecutableName)
        if restored≠j.oldDigest then throw "collector_service_upgrade_restore_identity_invalid"
        else return ())
    (fun _ w => w.Undoable sha256 j ∧ w.Holds sha256 serviceExecutableName j.oldDigest)
    (fun w => w.Undoable sha256 j) := by
    refine Ensures.bind (does_copyFile undoable_lasting not_carries_rollbackTemp) (fun _ => ?_)
    refine Ensures.bind does_fileDigest (fun copied => ?_)
    split
    · exact does_throw (fun _ h => h.1)
    refine Ensures.bind ((does_replaceStable hvalid).pre (fun _ _ h => h.1)) (fun _ => ?_)
    refine Ensures.bind does_fileDigest (fun restored => ?_)
    split
    · exact does_throw (fun _ h => h.1)
    next hrestored =>
    have hsame := Decidable.not_not.mp hrestored
    subst hsame
    exact does_pure (fun _ h => h)
  refine hcopied.conseq (fun w _ h => ⟨h.1,?_⟩) (fun _ _ _ h => h) (fun _ _ h => h.1)
  rw [World.Backed,← hname]
  exact h.2

theorem does_restoreOldImage (hvalid : j.validate=.ok ()) :
    Does sha256 (fun w => w.Recorded j) (restoreOldImage j)
    (fun _ w => w.Undoable sha256 j ∧ w.Stands sha256 j.oldDigest) (fun w => w.Recorded j) := by
  refine Ensures.bind (does_look _ rfl) (fun _ => ?_)
  refine Ensures.bind (does_restoreUpgradeBackup hvalid) (fun _ => ?_)
  have hstarted : Does sha256 (fun w => w.Undoable sha256 j) (do
      ask .validateServiceContract
      let processId ← ask .startGeneration
      validateRunningServiceImage j.oldDigest processId)
    (fun _ w => w.Undoable sha256 j ∧ w.Stands sha256 j.oldDigest)
    (fun w => w.Undoable sha256 j) :=
    Ensures.bind (does_look _ rfl) (fun _ =>
      Ensures.bind (does_look _ rfl) (fun _ =>
        does_validateRunningServiceImage undoable_lasting))
  exact hstarted.conseq (fun _ _ h => h.1) (fun _ _ _ h => h) (fun _ _ h => h.1)

/-- A rollback fails with the journal as it was, or stands on the old image. The phase is set
in memory also when it could not be written. -/
def RolledBack (sha256 : List UInt8 → Digest) (j : UpgradeJournalV1)
    (r : Except String Unit × UpgradeJournalV1) (w : World) : Prop :=
  (r.2=j ∧ (∃ error, r.1=.error error) ∧ w.Recorded j) ∨
    (r.2={ j with phase := .prepared } ∧ w.Undoable sha256 j ∧ w.Stands sha256 j.oldDigest ∧
    (r.1=.ok () → w.journal=some r.2))

theorem triple_rollbackUpgrade (hvalid : j.validate=.ok ()) :
    Triple (answers sha256) (Kept sha256) (fun w => w.Recorded j) (rollbackUpgrade j)
    (RolledBack sha256 j) := by
  refine Triple.bind (does_restoreOldImage hvalid) (fun r => ?_)
  cases r with
  | error error => exact Triple.ret (fun _ _ h => .inl ⟨rfl,⟨error,rfl⟩,h⟩)
  | ok value =>
    have hwritten : Does sha256
      (fun w => (w.Backed sha256 j ∧ w.Stands sha256 j.oldDigest) ∧
          ∃ phase, w.journal=some { j with phase := phase })
      (writeUpgradeJournal { j with phase := .prepared })
      (fun _ w => (w.Backed sha256 j ∧ w.Stands sha256 j.oldDigest) ∧
          w.journal=some { j with phase := .prepared })
      (fun w => (w.Backed sha256 j ∧ w.Stands sha256 j.oldDigest) ∧
          ∃ phase, w.journal=some { j with phase := phase }) :=
      does_writeUpgradeJournal (R := fun found => ∃ phase, found=some { j with phase := phase })
        ⟨.prepared,rfl⟩ (backed_unjournaled.and stands_unjournaled) (fun _ h => h.1)
      (fun _ h => h.2.2) (fun _ _ => nofun)
    refine Triple.bind (hwritten.pre (fun _ _ h => ⟨⟨h.1.2,h.2⟩,h.1.1⟩)) (fun r => ?_)
    refine Triple.ret (fun w _ h => .inr ?_)
    cases r with
    | ok value => exact ⟨rfl,⟨⟨.prepared,h.2⟩,h.1.1⟩,h.1.2,fun _ => h.2⟩
    | error error => exact ⟨rfl,⟨h.2,h.1.1⟩,h.1.2,nofun⟩

theorem does_rollbackThen (hvalid : j.validate=.ok ())
    {next : UpgradeJournalV1 → Action Unit} {Q : Unit → World → Prop}
    (hnext : Does sha256 (fun w => w.Undoable sha256 j ∧ w.Stands sha256 j.oldDigest ∧
        w.journal=some { j with phase := .prepared })
      (next { j with phase := .prepared }) Q (fun _ => True)) :
    Does sha256 (fun w => w.Recorded j) (rollbackThen j next) Q (fun _ => True) := by
  refine Ensures.alwaysThen (triple_rollbackUpgrade hvalid) (fun r => ?_)
  obtain ⟨rollback,journal⟩ := r
  cases rollback with
  | error error => exact does_throw (fun _ _ => trivial)
  | ok value =>
    intro answered w hkept h
    obtain ⟨-,⟨error,herror⟩,-⟩ | ⟨hjournal,hundo,hstands,hwritten⟩ := h
    · cases herror
    · simp only at hjournal
      subst hjournal
      exact hnext answered w hkept ⟨hundo,hstands,hwritten rfl⟩

theorem triple_ensureVerifiedCandidateReady (hvalid : j.validate=.ok ()) :
    Triple (answers sha256) (Kept sha256) (fun w => w.journal=some j)
      (ensureVerifiedCandidateReady j) (fun r w =>
        (r=(.ok (),j) ∧ w.journal=some j ∧ w.Stands sha256 j.newDigest) ∨
        (∃ error, r.1=.error error) ∧ ((r.2=j ∧ w.Recorded j) ∨
        (r.2={ j with phase := .prepared } ∧ w.Undoable sha256 j ∧
          w.Stands sha256 j.oldDigest))) := by
  refine Triple.bind (does_ensureServiceGenerationReady journal_steady.lasting) (fun r => ?_)
  cases r with
  | ok value => exact Triple.ret (fun _ _ h => .inl ⟨rfl,h⟩)
  | error error =>
    refine Triple.bind ((triple_rollbackUpgrade hvalid).pre (fun _ _ h => recorded_of h))
      (fun r => ?_)
    refine Triple.ret (fun w _ h => .inr ⟨⟨_,rfl⟩,?_⟩)
    obtain ⟨hjournal,-,hrecorded⟩ | ⟨hjournal,hundo,hstands,-⟩ := h
    · exact .inl ⟨hjournal,hrecorded⟩
    · exact .inr ⟨hjournal,hundo,hstands⟩

end Rollback

section Transaction
variable {sha256 : List UInt8 → Digest} {P : World → Prop} {j : UpgradeJournalV1}
variable {keep : Option String} {staged : String}

theorem does_deleteUpgradeBackup (hvalid : j.validate=.ok ()) (hP : Steady P)
    (hproven : ∀ w, P w → w.StableProven sha256) :
    Does sha256 P (deleteUpgradeBackup j) (fun _ => P) P := by
  refine does_deleteLeaf hP hproven ?_
  rw [(j.validate_ok hvalid).1]
  exact backup_ne_stable

theorem does_deleteSupersededStaged (hvalid : j.validate=.ok ()) (hP : Steady P)
    (hproven : ∀ w, P w → w.StableProven sha256) :
    Does sha256 P (deleteSupersededStaged j keep) (fun _ => P) P := by
  rw [deleteSupersededStaged]
  split
  · exact does_pure (fun _ h => h)
  · refine does_deleteLeaf hP hproven (fun heq => ?_)
    exact not_carries_staged (j.validate_ok hvalid).2 (.inl heq)

/-- The artifacts go before the journal does, once the old image stands. -/
theorem does_retireSuperseded (hvalid : j.validate=.ok ()) :
    Does sha256 (fun w => w.Recorded j) (retireSuperseded j keep) (fun _ w => w.journal=none)
      (fun _ => True) := by
  rw [retireSuperseded]
  split
  · exact does_throw (fun _ _ => trivial)
  refine Ensures.bind does_pathExists.anyError (fun present => ?_)
  split
  · exact does_throw (fun _ _ => trivial)
  refine Ensures.bind does_fileDigest.anyError (fun digest => ?_)
  split
  · exact does_throw (fun _ _ => trivial)
  next hdigest =>
  have hsame := Decidable.not_not.mp hdigest
  subst hsame
  have hsteady : Steady (fun w => w.Stands sha256 j.oldDigest) := stands_steady
  have hproven : ∀ w : World, w.Stands sha256 j.oldDigest → w.StableProven sha256 :=
    fun _ h => h.proven
  have hretired : Does sha256 (fun w => w.Stands sha256 j.oldDigest)
    (retireUpgradeArtifacts (deleteUpgradeBackup j) (deleteSupersededStaged j keep)
        (cleanupUpgradeInstallResidue keep) (ask .deleteJournal))
    (fun _ w => w.journal=none) (fun _ => True) := by
    refine Ensures.bind (does_deleteUpgradeBackup hvalid hsteady hproven).anyError (fun _ => ?_)
    refine Ensures.bind (does_deleteSupersededStaged hvalid hsteady hproven).anyError (fun _ => ?_)
    refine Ensures.bind (does_cleanupUpgradeInstallResidue hsteady hproven).anyError (fun _ => ?_)
    exact (does_deleteJournal stands_unjournaled hproven).post (fun _ _ _ h => h.2)
  exact hretired.pre (fun _ hkept h => ⟨h.2,hkept.recorded h.1⟩)

/-- The journal goes before the artifacts do, once the candidate stands. -/
theorem does_retireVerified (hvalid : j.validate=.ok ()) :
    Does sha256 (fun w => w.Stands sha256 j.newDigest) (retireVerified j keep)
    (fun _ w => w.journal=none) (fun _ => True) := by
  have hsteady : Steady (fun w => w.Stands sha256 j.newDigest ∧ w.journal=none) :=
    stands_steady.and journal_steady
  have hproven : ∀ w : World, w.Stands sha256 j.newDigest ∧ w.journal=none →
      w.StableProven sha256 := fun _ h => h.1.proven
  refine Ensures.bind (does_deleteJournal stands_unjournaled (fun _ h => h.proven)) (fun _ => ?_)
  refine Ensures.bind (does_deleteUpgradeBackup hvalid hsteady hproven).anyError (fun _ => ?_)
  refine Ensures.bind (does_deleteSupersededStaged hvalid hsteady hproven).anyError (fun _ => ?_)
  exact (does_cleanupUpgradeInstallResidue hsteady hproven).conseq (fun _ _ h => h)
    (fun _ _ _ h => h.2) (fun _ _ _ => trivial)

theorem does_resolveSupersededUpgradeTransaction (hvalid : j.validate=.ok ()) :
    Does sha256 (fun w => w.journal=some j) (resolveSupersededUpgradeTransaction j keep)
    (fun _ w => w.journal=none) (fun _ => True) := by
  have hretired : Does sha256 (fun w => w.journal=some j) (retireSuperseded j keep)
    (fun _ w => w.journal=none) (fun _ => True) :=
    (does_retireSuperseded hvalid).pre (fun _ _ h => recorded_of h)
  have hprepared : ∀ w : World, w.Recorded j → w.Recorded { j with phase := .prepared } :=
    fun _ h => h
  have hrolled : Does sha256 (fun w => w.journal=some j)
    (rollbackThen j (retireSuperseded · keep)) (fun _ w => w.journal=none) (fun _ => True) := by
    refine (does_rollbackThen hvalid ?_).pre (fun _ _ h => recorded_of h)
    exact (does_retireSuperseded (j := { j with phase := .prepared }) hvalid).pre
      (fun w _ h => hprepared w h.1.1)
  refine Ensures.bind (does_digestOrNone.anyError) (fun stable => ?_)
  cases hphase : j.phase with
  | prepared =>
    simp only
    split
    · exact hretired.pre (fun _ _ h => h.1)
    · exact hrolled.pre (fun _ _ h => h.1)
  | candidateInstalled =>
    exact hrolled.pre (fun _ _ h => h.1)
  | verified =>
    simp only
    split
    · refine Ensures.alwaysThen ((triple_ensureVerifiedCandidateReady hvalid).pre
        (fun _ _ h => h.1)) (fun r => ?_)
      obtain ⟨ready,journal⟩ := r
      cases ready with
      | ok value =>
        intro answered w hkept h
        obtain ⟨hr,-,hstands⟩ | ⟨⟨error,herror⟩,-⟩ := h
        · cases hr
          exact does_retireVerified hvalid answered w hkept hstands
        · cases herror
      | error error =>
        simp only
        split
        · exact does_throw (fun _ _ => trivial)
        · intro answered w hkept h
          obtain ⟨hr,-⟩ | ⟨-,⟨rfl,hrecorded⟩ | ⟨rfl,hundo,-⟩⟩ := h
          · cases hr
          · exact does_retireSuperseded hvalid answered w hkept hrecorded
          · exact does_retireSuperseded (j := { j with phase := .prepared }) hvalid answered w hkept
              (hprepared w hundo.1)
    · exact hrolled.pre (fun _ _ h => h.1)

/-- What a decision to go on says of the digests that it was made from. -/
theorem decideUpgradeResume_ok {stable found backup : Digest} {action : UpgradeResumeAction}
    (h : decideUpgradeResume j stable found backup=.ok action) :
    found=j.newDigest ∧ backup=j.oldDigest ∧
      (action=.finalizeVerified → j.phase=.verified ∧ stable=j.newDigest) := by
  simp only [decideUpgradeResume] at h
  cases hvalid : j.validate with
  | error error =>
    rw [hvalid] at h
    cases h
  | ok value =>
    rw [hvalid] at h
    by_cases hfound : found=j.newDigest
    · by_cases hbackup : backup=j.oldDigest
      · refine ⟨hfound,hbackup,?_⟩
        rintro rfl
        by_contra hnot
        simp only [hfound,hbackup,ne_eq,not_true_eq_false,if_false] at h
        cases hphase : j.phase with
        | prepared | candidateInstalled =>
          simp only [hphase] at h
          (repeat' split at h) <;> cases h
        | verified =>
          simp only [hphase,if_neg (fun hstable => hnot ⟨hphase,hstable⟩)] at h
          cases h
      · simp only [hfound,hbackup,ne_eq,not_true_eq_false,if_false,not_false_eq_true,if_true] at h
        cases h
    · simp only [hfound,ne_eq,not_false_eq_true,if_true] at h
      cases h

/-- An action is only decided on while the backup is there. -/
theorem does_upgradeResumeAction (hvalid : j.validate=.ok ()) :
    Does sha256 (fun w => w.journal=some j) (upgradeResumeAction j staged)
      (fun action w => w.journal=some j ∧ w.Backed sha256 j ∧
        (action=.finalizeVerified → j.phase=.verified ∧ w.Stands sha256 j.newDigest))
      (fun _ => True) := by
  have hname := (j.validate_ok hvalid).1
  have hdigests := validate_digests hvalid
  rw [upgradeResumeAction]
  split
  · exact does_throw (fun _ _ => trivial)
  refine Ensures.bind does_digestOrNone.anyError (fun backup => ?_)
  refine Ensures.bind does_digestOrNone.anyError (fun stable => ?_)
  refine Ensures.bind does_fileDigest.anyError (fun found => ?_)
  cases hdecided : decideUpgradeResume j stable found backup with
  | error error => exact does_throw (fun _ _ => trivial)
  | ok action =>
    obtain ⟨-,rfl,hfinal⟩ := decideUpgradeResume_ok hdecided
    refine Ensures.pure (fun w hkept h => ⟨h.1.1.1,?_,?_⟩)
    · rw [World.Backed,← hname]
      exact h.1.1.2 hdigests.1
    · intro haction
      obtain ⟨hphase,rfl⟩ := hfinal haction
      exact ⟨hphase,h.1.2 hdigests.2,(hkept.journal j h.1.1.1).2.2 hphase⟩

/-- The journal is on disk as it is in memory, and its candidate stands beside its backup. -/
def World.Committed (sha256 : List UInt8 → Digest) (w : World) (j : UpgradeJournalV1) : Prop :=
  w.journal=some j ∧ j.phase=.verified ∧ w.Backed sha256 j ∧ w.Stands sha256 j.newDigest

theorem does_verifyCandidate :
    Does sha256 (fun w => w.Undoable sha256 j) (verifyCandidate j appPathUpgradeGate)
      (fun verified w => verified={ j with phase := .verified } ∧ w.Committed sha256 verified)
      (fun w => w.Recorded j) := by
  refine Ensures.bind ((does_look .startGeneration rfl).onError (fun _ _ h => h.1))
    (fun processId => ?_)
  refine Ensures.bind ((does_look .validateServiceContract rfl).onError (fun _ _ h => h.1))
    (fun _ => ?_)
  refine Ensures.bind ((does_validateRunningServiceImage undoable_lasting).onError
    (fun _ _ h => h.1)) (fun _ => ?_)
  have hwritten := does_writeUpgradeJournal
    (j := { j with phase := .verified })
    (P := fun w => (w.Backed sha256 j ∧ j.oldDigest∈w.proven) ∧ w.Stands sha256 j.newDigest)
    (R := fun found => ∃ phase, found=some { j with phase := phase }) ⟨.verified,rfl⟩
    ((backed_unjournaled.and proven_unjournaled).and stands_unjournaled) (fun _ h => h.1.1)
    (fun _ h => h.1.2) (fun _ h _ => h.2.2)
  refine Ensures.bind (hwritten.conseq
    (fun _ hkept h => ⟨⟨⟨h.1.2,hkept.recorded h.1.1⟩,h.2⟩,h.1.1⟩) (fun _ _ _ h => h)
      (fun _ _ h => h.2)) (fun _ => ?_)
  have hcommitted : Does sha256 (fun w => w.Committed sha256 { j with phase := .verified })
    (appPathUpgradeGate >>= fun _ => pure { j with phase := .verified })
    (fun verified w => verified={ j with phase := .verified } ∧ w.Committed sha256 verified)
    (fun w => w.Committed sha256 { j with phase := .verified }) :=
    Ensures.bind does_appPathUpgradeGate (fun _ => does_pure (fun _ h => ⟨rfl,h⟩))
  exact hcommitted.conseq (fun _ _ h => ⟨h.2,rfl,h.1.1.1,h.1.2⟩) (fun _ _ _ h => h)
    (fun _ _ h => ⟨.verified,h.1⟩)

/-- A commit that succeeds leaves a journal that says so, the candidate that was seen to run,
and the backup. -/
theorem does_commitUpgradeCandidate (hvalid : j.validate=.ok ()) :
    Does sha256 (fun w => w.Undoable sha256 j) (commitUpgradeCandidate j appPathUpgradeGate)
    (fun verified w => verified={ j with phase := .verified } ∧ w.Committed sha256 verified)
    (fun _ => True) := by
  refine Ensures.bind (does_look .settleForReplacement rfl).anyError
    (fun _ => ?_)
  have hwritten := does_writeUpgradeJournal
    (j := { j with phase := .candidateInstalled })
    (P := fun w => w.Backed sha256 j ∧ j.oldDigest∈w.proven) (R := fun _ => True) trivial
    (backed_unjournaled.and proven_unjournaled) (fun _ h => h.1) (fun _ h => h.2)
    (fun _ _ => nofun)
  refine Ensures.bind (hwritten.anyError.pre
    (fun _ hkept h => ⟨⟨h.2,hkept.recorded h.1⟩,trivial⟩)) (fun _ => ?_)
  refine Ensures.outcomeThen
    (does_verifyCandidate.pre (fun _ _ h => ⟨⟨.candidateInstalled,h.2⟩,h.1.1⟩))
    (fun verified => does_pure (fun _ h => h)) (fun error => ?_)
  exact Ensures.alwaysThen (triple_rollbackUpgrade (j := { j with phase := .candidateInstalled })
    hvalid) (fun _ => does_throw (fun _ _ => trivial))

theorem does_finalizeVerifiedUpgrade (hvalid : j.validate=.ok ()) :
    Does sha256 (fun w => w.journal=some j) (finalizeVerifiedUpgrade staged j)
    (fun _ w => w.journal=none) (fun _ => True) := by
  rw [finalizeVerifiedUpgrade]
  split
  · exact does_throw (fun _ _ => trivial)
  next hphase =>
  have hverified := Decidable.not_not.mp hphase
  refine Ensures.bind does_fileDigest.anyError (fun stable => ?_)
  split
  · exact does_throw (fun _ _ => trivial)
  next hstable =>
  have hsame := Decidable.not_not.mp hstable
  subst hsame
  refine Ensures.bind does_fileDigest.anyError (fun digest => ?_)
  split
  · exact does_throw (fun _ _ => trivial)
  have hsteady : Steady (fun w => w.Stands sha256 j.newDigest ∧ w.journal=none) :=
    stands_steady.and journal_steady
  have hdeleted : Does sha256 (fun w => w.Stands sha256 j.newDigest) (ask .deleteJournal)
      (fun _ w => w.Stands sha256 j.newDigest ∧ w.journal=none) (fun _ => True) :=
    does_deleteJournal stands_unjournaled (fun _ h => h.proven)
  refine Ensures.bind (hdeleted.pre (fun _ hkept h => ?_)) (fun _ => ?_)
  · exact ⟨h.1.2,(hkept.journal j h.1.1).2.2 hverified⟩
  · exact (does_deleteUpgradeBackup hvalid hsteady (fun _ h => h.1.proven)).conseq
      (fun _ _ h => h) (fun _ _ _ h => h.2) (fun _ _ _ => trivial)

/-- The gate behind a verified candidate: it passes, or the old image is put back. -/
theorem does_gateVerified (hvalid : j.validate=.ok ()) (hP : ∀ w, P w → w.Recorded j) :
    Does sha256 P (gateVerified j appPathUpgradeGate) (fun _ => P) (fun _ => True) := by
  refine Ensures.outcomeThen does_appPathUpgradeGate (fun _ => does_pure (fun _ h => h))
    (fun error => ?_)
  exact Ensures.alwaysThen ((triple_rollbackUpgrade hvalid).pre (fun w _ h => hP w h))
    (fun _ => does_throw (fun _ _ => trivial))

end Transaction

end BatCave.CollectorService.Upgrade
