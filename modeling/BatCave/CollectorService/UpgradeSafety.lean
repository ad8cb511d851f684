import BatCave.CollectorService.UpgradeSteps

/-! What the upgrade of the collector service never loses, over every run of the installer, with
its verbs stopped at any call and its calls failing in any way. -/
namespace BatCave.CollectorService.Upgrade
open BatCave.Lib.Effects BatCave.Lib.Files

section Resume
variable {sha256 : List UInt8 → Digest} {P : World → Prop} {j : UpgradeJournalV1}
variable {staged : String}

/-- A journal is on disk, and the backup that it names is there. -/
def World.Secured (sha256 : List UInt8 → Digest) (w : World) : Prop :=
  ∃ j, w.journal=some j ∧ w.Backed sha256 j

theorem secured_lasting : Lasting (fun w => w.Secured sha256) :=
  fun w w' ⟨j,hj,hbacked⟩ hs => ⟨j,hs.journal.trans hj,backup_lasting w w' hbacked hs⟩

theorem World.Undoable.secured {w : World} (h : w.Undoable sha256 j) : w.Secured sha256 := by
  obtain ⟨⟨phase,hj⟩,hbacked⟩ := h
  exact ⟨_,hj,hbacked⟩

/-- A journal is on disk whose backup is of the image in use: that stands at the stable path,
proven. -/
def World.Prepared (sha256 : List UInt8 → Digest) (w : World) : Prop :=
  ∃ j, w.journal=some j ∧ w.Backed sha256 j ∧ w.Stands sha256 j.oldDigest

theorem World.Undoable.prepared {w : World} (h : w.Undoable sha256 j)
    (hstands : w.Stands sha256 j.oldDigest) : w.Prepared sha256 := by
  obtain ⟨⟨phase,hj⟩,hbacked⟩ := h
  exact ⟨_,hj,hbacked,hstands⟩

/-- What is left when an interrupted upgrade was taken up: the one that goes on, or none. -/
def World.Resumed (sha256 : List UInt8 → Digest) (w : World) (prepared : Bool) : Prop :=
  (prepared=true ∧ w.Prepared sha256) ∨ (prepared=false ∧ w.journal=none)

theorem resumed_lasting {prepared : Bool} : Lasting (fun w => w.Resumed sha256 prepared) := by
  rintro w w' (⟨hprepared,j,hj,hbacked,hstands⟩ | ⟨hprepared,h⟩) hs
  · exact .inl ⟨hprepared,j,hs.journal.trans hj,backup_lasting w w' hbacked hs,
      stands_steady.lasting w w' hstands hs⟩
  · exact .inr ⟨hprepared,hs.journal.trans h⟩

theorem does_resumeMatching (hvalid : j.validate=.ok ()) :
    Does sha256 (fun w => w.journal=some j) (resumeMatching j staged)
      (fun prepared w => w.Resumed sha256 prepared) (fun _ => True) := by
  refine Ensures.bind (does_upgradeResumeAction hvalid) (fun action => ?_)
  have hready : Does sha256 (fun w => w.journal=some j ∧ w.Backed sha256 j)
    (ensureServiceGenerationReady j.oldDigest >>= fun _ => pure true)
    (fun prepared w => w.Resumed sha256 prepared) (fun _ => True) := by
    refine Ensures.bind (does_ensureServiceGenerationReady
      (journal_steady.lasting.and backup_lasting)).anyError (fun _ => ?_)
    exact does_pure (fun _ h => .inl ⟨rfl,j,h.1.1,h.1.2,h.2⟩)
  cases action with
  | reusePrepared | reusePreparedSameImage =>
    exact hready.pre (fun _ _ h => ⟨h.1,h.2.1⟩)
  | commitCandidate =>
    refine Ensures.bind ((does_commitUpgradeCandidate hvalid).pre
      (fun _ _ h => ⟨recorded_of h.1,h.2.1⟩)) (fun verified => ?_)
    refine Ensures.assume (fun hsame => ?_)
    subst hsame
    refine Ensures.bind ((does_finalizeVerifiedUpgrade (j := { j with phase := .verified })
      hvalid).pre (fun _ _ h => h.1)) (fun _ => ?_)
    exact does_pure (fun _ h => .inr ⟨rfl,h⟩)
  | retryRollback =>
    have hrolled : Does sha256 (fun w => w.Recorded j) (rollbackThen j (fun _ => pure ()))
      (fun _ w => w.Undoable sha256 j ∧ w.Stands sha256 j.oldDigest) (fun _ => True) :=
      does_rollbackThen hvalid (does_pure (fun _ h => ⟨h.1,h.2.1⟩))
    refine Ensures.bind (hrolled.pre (fun _ _ h => recorded_of h.1)) (fun _ => ?_)
    exact does_pure (fun _ h => .inl ⟨rfl,h.1.prepared h.2⟩)
  | finalizeVerified =>
    suffices hverified : Does sha256 (fun w => j.phase=.verified ∧ w.journal=some j) _ _ _ from
      hverified.pre (fun _ _ h => ⟨(h.2.2 rfl).1,h.1⟩)
    refine Ensures.assume (fun hphase => ?_)
    refine Ensures.alwaysThen (triple_ensureVerifiedCandidateReady hvalid) (fun r => ?_)
    obtain ⟨ready,journal⟩ := r
    cases ready with
    | error error =>
      simp only
      split
      · next hprepared =>
        refine does_pure (fun w h => .inl ⟨rfl,?_⟩)
        obtain ⟨hr,-⟩ | ⟨-,⟨rfl,-⟩ | ⟨rfl,hundo,hstands⟩⟩ := h
        · cases hr
        · rw [hphase] at hprepared
          cases hprepared
        · exact hundo.prepared hstands
      · exact does_throw (fun _ _ => trivial)
    | ok value =>
      suffices hready : Does sha256 (fun w => journal=j ∧ w.journal=some j) _ _ _ by
        refine hready.pre (fun _ _ h => ?_)
        obtain ⟨hr,hjournal,-⟩ | ⟨⟨error,herror⟩,-⟩ := h
        · exact ⟨congrArg Prod.snd hr,hjournal⟩
        · cases herror
      refine Ensures.assume (fun hsame => ?_)
      subst hsame
      refine Ensures.bind (does_gateVerified hvalid (fun _ h => recorded_of h)) (fun _ => ?_)
      refine Ensures.bind (does_finalizeVerifiedUpgrade hvalid) (fun _ => ?_)
      exact does_pure (fun _ h => .inr ⟨rfl,h⟩)

theorem does_resumeUpgradeTransaction : Does sha256 (fun _ => True)
    (resumeUpgradeTransaction staged) (fun prepared w => w.Resumed sha256 prepared)
    (fun _ => True) := by
  have hbare : Does sha256 (fun w => w.journal=none)
    (cleanupUpgradeInstallResidue (some staged) >>= fun _ => pure false)
    (fun prepared w => w.Resumed sha256 prepared) (fun _ => True) := by
    have hcleaned : Does sha256 (fun w => w.journal=none ∧ w.StableProven sha256)
      (cleanupUpgradeInstallResidue (some staged))
      (fun _ w => w.journal=none ∧ w.StableProven sha256) _ :=
      does_cleanupUpgradeInstallResidue (journal_steady.and stableProven_steady) (fun _ h => h.2)
    refine Ensures.bind (hcleaned.anyError.pre (fun _ hkept h => ⟨h,hkept.standing h⟩))
      (fun _ => ?_)
    exact does_pure (fun _ h => .inr ⟨rfl,h.1⟩)
  refine Ensures.bind does_readUpgradeJournal (fun found => ?_)
  refine Ensures.assume (fun hvalid => ?_)
  cases found with
  | none => exact hbare.pre (fun _ _ h => h.1)
  | some journal =>
    have hvalid := hvalid journal rfl
    refine Ensures.bind does_fileDigest.anyError (fun stagedDigest => ?_)
    split
    · exact (does_resumeMatching hvalid).pre (fun _ _ h => h.1.1)
    · refine Ensures.bind ((does_resolveSupersededUpgradeTransaction hvalid).pre
        (fun _ _ h => h.1.1)) (fun _ => ?_)
      exact hbare

end Resume

section Prepare
variable {sha256 : List UInt8 → Digest} {P : World → Prop} {j : UpgradeJournalV1}
variable {staged : String} {digest : Digest}

/-- No journal is there, and the stable image is this one. -/
def World.Bare (sha256 : List UInt8 → Digest) (w : World) (digest : Digest) : Prop :=
  w.journal=none ∧ w.Stands sha256 digest

theorem bare_steady : Steady (fun w => w.Bare sha256 digest) := journal_steady.and stands_steady

/-- The backup's bytes go to its own name, while the stable image is proven. -/
theorem does_writeBackup {name : String} {bytes : List UInt8} (hP : Steady P)
    (hproven : ∀ w, P w → w.StableProven sha256) (hname : name≠serviceExecutableName) :
    Does sha256 P (ask (.writeFile name bytes)) (fun _ => P) P := by
  refine does_ask (fun w r w' hkept hpre hanswer => ?_)
  obtain ⟨files,rfl,hfiles,-⟩ := hanswer
  have hs : Steadies w { w with files := files } := by
    refine ⟨hfiles _ ?_,rfl,subset_rfl⟩
    rintro (hsame | htemp)
    · exact hname hsame.symm
    · exact absurd htemp (by rw [stable_not_temp]; exact nofun)
  exact ⟨hkept.steadies (hproven w hpre) hs,by cases r <;> exact hP _ _ hpre hs⟩

theorem does_ensureUpgradeBackup :
    Does sha256 (fun w => w.Bare sha256 digest) (ensureUpgradeBackup sha256 digest)
    (fun backupName w => backupName=upgradeBackupName digest ∧ w.Bare sha256 digest ∧
        w.Holds sha256 (upgradeBackupName digest) digest) (fun _ => True) := by
  have hproven : ∀ w : World, w.Bare sha256 digest → w.StableProven sha256 :=
    fun _ h => h.2.proven
  refine Ensures.bind (does_cleanupUpgradeBackupTemps bare_steady hproven).anyError (fun _ => ?_)
  refine Ensures.bind does_digestOrNone.anyError (fun present => ?_)
  split
  · next hpresent =>
    obtain ⟨rfl,hsome⟩ := hpresent
    exact does_pure (fun _ h => ⟨rfl,h.1,h.2 hsome⟩)
  refine Ensures.bind does_readFile.anyError (fun payload => ?_)
  split
  · exact does_throw (fun _ _ => trivial)
  refine Ensures.bind ((does_writeBackup bare_steady hproven backup_ne_stable).anyError.pre
    (fun _ _ h => h.1.1)) (fun _ => ?_)
  refine Ensures.bind does_fileDigest.anyError (fun written => ?_)
  split
  · exact does_throw (fun _ _ => trivial)
  next hwritten =>
  exact does_pure (fun _ h => ⟨rfl,h.1,Decidable.not_not.mp hwritten ▸ h.2⟩)

theorem does_prepareUpgradeTransaction :
    Does sha256 (fun w => w.Stands sha256 digest) (prepareUpgradeTransaction sha256 staged)
    (fun _ w => w.Prepared sha256) (fun _ => True) := by
  refine Ensures.bind does_readUpgradeJournal.anyError (fun found => ?_)
  cases found with
  | some journal => exact does_throw (fun _ _ => trivial)
  | none =>
    refine Ensures.bind does_fileDigest.anyError (fun oldDigest => ?_)
    refine Ensures.bind does_fileDigest.anyError (fun newDigest => ?_)
    refine Ensures.bind (does_ensureUpgradeBackup.pre (fun _ _ h => ?_)) (fun backupName => ?_)
    · obtain ⟨⟨⟨-,hnone,hstands⟩,hold⟩,-⟩ := h
      have hsame := hold.unique hstands.1
      subst hsame
      exact ⟨hnone,hstands⟩
    refine Ensures.assume (fun hname => ?_)
    have hwritten := does_writeUpgradeJournal
      (j := newJournal oldDigest newDigest backupName stagedServiceExecutableName)
      (P := fun w => w.Holds sha256 (upgradeBackupName oldDigest) oldDigest ∧
        w.Stands sha256 oldDigest)
      (R := fun _ => True) trivial (fun _ _ h => h) (fun _ h => h.1) (fun _ h => h.2.2)
      (fun _ _ => nofun)
    exact hwritten.conseq (fun _ _ h => ⟨⟨h.2,h.1.2⟩,trivial⟩)
      (fun _ _ _ h => ⟨_,h.2,h.1.1,h.1.2⟩) (fun _ _ _ => trivial)

theorem does_ensureUninstallerCompatibilityAlias (hP : Lasting P) :
    Does sha256 P (ensureUninstallerCompatibilityAlias sha256 staged) (fun _ => P)
      (fun _ => True) := by
  refine Ensures.bind (does_look .installedProductVersion rfl).anyError
    (fun version => ?_)
  cases version with
  | none => exact does_pure (fun _ h => h)
  | some version =>
    simp only
    split
    · exact does_throw (fun _ _ => trivial)
    next hstaged =>
    have halias := by simpa using hstaged
    split
    · exact does_pure (fun _ h => h)
    refine Ensures.bind does_readFile.anyError (fun payload => ?_)
    refine Ensures.bind ((does_writeFile hP (not_carries_staged halias)).anyError.pre
      (fun _ _ h => h.1)) (fun _ => ?_)
    refine Ensures.bind does_fileDigest.anyError (fun written => ?_)
    split
    · exact does_throw (fun _ _ => trivial)
    · exact does_pure (fun _ h => h.1)

theorem does_settlePrepared {prepared : Bool} :
    Does sha256 (fun w => w.Resumed sha256 prepared ∧ w.Stands sha256 digest)
      (settlePrepared sha256 prepared staged) (fun _ w => w.Prepared sha256) (fun _ => True) := by
  refine Ensures.bind (does_look .settleForCandidateReplacement rfl).anyError
    (fun _ => ?_)
  cases prepared with
  | true =>
    refine does_pure (fun _ h => ?_)
    obtain ⟨-,hprepared⟩ | ⟨hfalse,-⟩ := h.1
    · exact hprepared
    · cases hfalse
  | false =>
    exact does_prepareUpgradeTransaction.pre (fun _ _ h => h.2)

theorem does_prepareUpgradeStagedImage :
    Does sha256 (fun _ => True) (prepareUpgradeStagedImage sha256 staged)
      (fun _ w => w.Prepared sha256) (fun _ => True) := by
  refine Ensures.bind (does_look .verifyMonitor rfl) (fun _ => ?_)
  refine Ensures.bind (does_look .preflightAppPath rfl) (fun _ => ?_)
  refine Ensures.bind (does_look .preflightStartEntry rfl) (fun _ => ?_)
  refine Ensures.bind (does_look .validateServiceContract rfl) (fun _ => ?_)
  refine Ensures.bind (does_look .openProtectedRoot rfl) (fun _ => ?_)
  refine Ensures.bind does_resumeUpgradeTransaction (fun prepared => ?_)
  refine Ensures.bind (does_look .preflightAppPath rfl).anyError (fun _ => ?_)
  refine Ensures.bind (does_look .preflightStartEntry rfl).anyError (fun _ => ?_)
  refine Ensures.bind (does_fileDigest.conseq (fun _ _ h => h) (fun _ _ _ h => h.1)
    (fun _ _ _ => trivial)) (fun priorDigest => ?_)
  refine Ensures.bind (does_ensureServiceGenerationReady resumed_lasting).anyError (fun _ => ?_)
  refine Ensures.bind (does_look .retireShortcuts rfl).anyError (fun _ => ?_)
  refine Ensures.bind (does_ensureUninstallerCompatibilityAlias
    (resumed_lasting.and stands_steady.lasting)) (fun _ => ?_)
  refine Ensures.outcomeThen does_settlePrepared (fun _ => does_pure (fun _ h => h))
    (fun error => ?_)
  have hrestarted : Does sha256 (fun _ => True) (ensureServiceGenerationReady priorDigest)
    (fun _ _ => True) (fun _ => True) :=
    (does_ensureServiceGenerationReady (fun _ _ h _ => h)).post (fun _ _ _ h => h.1)
  refine Ensures.outcomeThen hrestarted (fun _ => ?_) (fun _ => ?_)
  · exact does_throw (fun _ h => h)
  · exact does_throw (fun _ h => h)

end Prepare

section Verbs
variable {sha256 : List UInt8 → Digest} {P : World → Prop} {staged : String}

theorem does_verifyCurrentStagedBinaryPath : Does sha256 P verifyCurrentStagedBinaryPath
    (fun _ => P) (fun _ => True) := by
  refine Ensures.bind (does_look .currentExe rfl).anyError (fun name => ?_)
  split
  · exact does_throw (fun _ _ => trivial)
  next found hfound =>
  refine Ensures.bind (does_look (.verifyImage found) rfl).anyError (fun _ => ?_)
  exact does_pure (fun _ h => h)

theorem does_requireService : Does sha256 P requireService (fun _ => P) (fun _ => True) := by
  refine Ensures.bind (does_look .openService rfl).anyError (fun present => ?_)
  split
  · exact does_throw (fun _ _ => trivial)
  · exact does_pure (fun _ h => h)

theorem does_prepareUpgradeStaged : Does sha256 (fun _ => True) (prepareUpgradeStaged sha256)
    (fun _ w => w.Prepared sha256) (fun _ => True) := by
  refine Ensures.bind (does_look .requireElevated rfl) (fun _ => ?_)
  refine Ensures.bind does_verifyCurrentStagedBinaryPath (fun staged => ?_)
  exact Ensures.bind does_requireService (fun _ => does_prepareUpgradeStagedImage)

theorem does_commitJournal {j : UpgradeJournalV1} (hvalid : j.validate=.ok ()) :
    Does sha256 (fun w => w.journal=some j) (commitJournal j staged)
    (fun _ w => ∃ j, w.Committed sha256 j) (fun _ => True) := by
  refine Ensures.bind (does_upgradeResumeAction hvalid) (fun action => ?_)
  have hcommitted : Does sha256 (fun w => w.journal=some j ∧ w.Backed sha256 j ∧
    (action=.finalizeVerified → j.phase=.verified ∧ w.Stands sha256 j.newDigest))
    (commitUpgradeCandidate j appPathUpgradeGate >>= fun _ => pure ())
    (fun _ w => ∃ j, w.Committed sha256 j) (fun _ => True) := by
    refine Ensures.bind ((does_commitUpgradeCandidate hvalid).pre
      (fun _ _ h => ⟨recorded_of h.1,h.2.1⟩)) (fun _ => ?_)
    exact does_pure (fun _ h => ⟨_,h.2⟩)
  cases action with
  | commitCandidate | reusePreparedSameImage => exact hcommitted
  | finalizeVerified =>
    refine (does_gateVerified (P := fun w => w.Committed sha256 j) hvalid
      (fun _ h => recorded_of h.1)).conseq (fun _ _ h => ?_) (fun _ _ _ h => ⟨j,h⟩) (fun _ _ h => h)
    exact ⟨h.1,(h.2.2 rfl).1,h.2.1,(h.2.2 rfl).2⟩
  | reusePrepared | retryRollback => exact does_throw (fun _ _ => trivial)

theorem does_commitUpgradeStaged : Does sha256 (fun _ => True) commitUpgradeStaged
    (fun _ w => ∃ j, w.Committed sha256 j) (fun _ => True) := by
  refine Ensures.bind (does_look .requireElevated rfl) (fun _ => ?_)
  refine Ensures.bind does_verifyCurrentStagedBinaryPath (fun staged => ?_)
  refine Ensures.bind (does_look .verifyMonitor rfl) (fun _ => ?_)
  refine Ensures.bind (does_look .preflightAppPath rfl) (fun _ => ?_)
  refine Ensures.bind (does_look .preflightStartEntry rfl) (fun _ => ?_)
  refine Ensures.bind does_requireService (fun _ => ?_)
  refine Ensures.bind (does_look .validateServiceContract rfl) (fun _ => ?_)
  refine Ensures.bind (does_look .openProtectedRoot rfl) (fun _ => ?_)
  refine Ensures.bind does_readUpgradeJournal (fun found => ?_)
  refine Ensures.assume (fun hvalid => ?_)
  cases found with
  | none => exact does_throw (fun _ _ => trivial)
  | some journal =>
    exact (does_commitJournal (hvalid journal rfl)).pre (fun _ _ h => h.1)

theorem does_finalizeUpgradeTransaction : Does sha256 (fun _ => True) finalizeUpgradeTransaction
    (fun _ w => w.journal=none) (fun _ => True) := by
  refine Ensures.bind does_readUpgradeJournal (fun found => ?_)
  refine Ensures.assume (fun hvalid => ?_)
  cases found with
  | none => exact does_pure (fun _ h => h.1)
  | some journal =>
    simp only
    split
    · exact does_throw (fun _ _ => trivial)
    · exact (does_finalizeVerifiedUpgrade (hvalid journal rfl)).pre (fun _ _ h => h.1)

theorem does_retireStagedUpgradeImage (hP : Steady P) (hproven : ∀ w, P w → w.StableProven sha256) :
    Does sha256 P retireStagedUpgradeImage (fun _ => P) (fun _ => True) := by
  refine Ensures.bind (does_fileDigest.conseq (fun _ _ h => h) (fun _ _ _ h => h.1)
    (fun _ _ _ => trivial)) (fun stable => ?_)
  refine Ensures.bind (does_look .listDirectory rfl).anyError (fun entries => ?_)
  refine Ensures.bind (does_eachName (fun name => ?_) entries).anyError (fun _ => ?_)
  · rw [retireStagedName]
    split
    · next hstaged =>
      refine does_deleteLeaf hP hproven (fun heq => ?_)
      exact not_carries_staged hstaged (.inl heq)
    · exact does_pure (fun _ h => h)
  · exact (does_cleanupUpgradeInstallResidue hP hproven).anyError

/-- A gate that failed is failed on, after what a journal asks for. -/
theorem does_failShortcutRetirement {Q : World → Prop} {error : String} :
    Does sha256 (fun _ => True) (failShortcutRetirementWithUpgradeRecovery error) (fun _ => Q)
      (fun _ => True) := by
  refine Ensures.outcomeThen does_readUpgradeJournal (fun found => ?_)
    (fun recovery => does_throw (fun _ _ => trivial))
  refine Ensures.assume (fun hvalid => ?_)
  cases found with
  | none => exact does_throw (fun _ _ => trivial)
  | some journal =>
    have hrecovered : Does sha256 (fun w => w.journal=some journal) (recoverFailedGate journal)
      (fun _ _ => True) (fun _ => True) := by
      refine Ensures.bind does_requireService (fun _ => ?_)
      refine Ensures.bind (does_look .validateServiceContract rfl).anyError
        (fun _ => ?_)
      refine Ensures.bind (does_look .openProtectedRoot rfl).anyError (fun _ => ?_)
      refine (does_rollbackThen (hvalid journal rfl) (does_pure (fun _ _ => trivial))).pre
        (fun _ _ h => recorded_of h)
    refine Ensures.outcomeThen (hrecovered.pre (fun _ _ h => h.1)) (fun _ => ?_) (fun _ => ?_)
    · exact does_throw (fun _ h => h)
    · exact does_throw (fun _ h => h)

theorem does_installExisting : Does sha256 (fun _ => True) installExisting
    (fun _ w => w.journal=none ∧ w.StableProven sha256) (fun _ => True) := by
  refine Ensures.bind (does_look .requireElevated rfl) (fun _ => ?_)
  refine Ensures.bind (does_look (.verifyImage _) rfl) (fun _ => ?_)
  refine Ensures.bind (does_look .verifyMonitor rfl) (fun _ => ?_)
  refine Ensures.bind (does_look .preflightAppPath rfl) (fun _ => ?_)
  refine Ensures.bind (does_look .preflightStartEntry rfl) (fun _ => ?_)
  refine Ensures.bind does_requireService (fun _ => ?_)
  refine Ensures.bind (does_look .validateServiceContract rfl) (fun _ => ?_)
  refine Ensures.bind (does_look .openProtectedRoot rfl) (fun _ => ?_)
  refine Ensures.bind (does_look .startServiceAndWait rfl) (fun _ => ?_)
  refine Ensures.bind (does_look .validateServiceContract rfl) (fun _ => ?_)
  refine Ensures.outcomeThen does_appPathUpgradeGate (fun _ => ?_)
    (fun error => does_failShortcutRetirement)
  refine Ensures.bind does_finalizeUpgradeTransaction (fun _ => ?_)
  refine Ensures.bind (does_look .retireLegacyCli rfl).anyError (fun _ => ?_)
  exact (does_retireStagedUpgradeImage (journal_steady.and stableProven_steady)
    (fun _ h => h.2)).pre (fun _ hkept h => ⟨h,hkept.standing h⟩)

theorem does_retireInstallerShortcuts : Does sha256 (fun _ => True) retireInstallerShortcuts
    (fun _ _ => True) (fun _ => True) := by
  have hretired : Does sha256 (fun _ => True) (ask .retireShortcuts) (fun _ _ => True)
    (fun _ => True) := does_look _ rfl
  refine Ensures.bind (does_look .requireElevated rfl) (fun _ => ?_)
  refine Ensures.bind (does_look .verifyController rfl) (fun _ => ?_)
  exact Ensures.outcomeThen hretired (fun _ => does_pure (fun _ _ => trivial))
    (fun error => does_failShortcutRetirement)

theorem does_prepareUpgrade : Does sha256 (fun _ => True) prepareUpgrade
    (fun _ _ => True) (fun _ => True) := by
  refine Ensures.bind (does_look .requireElevated rfl) (fun _ => ?_)
  refine Ensures.bind (does_look (.verifyImage _) rfl) (fun _ => ?_)
  refine Ensures.bind (does_look .verifyMonitor rfl) (fun _ => ?_)
  refine Ensures.bind (does_look .preflightAppPath rfl) (fun _ => ?_)
  refine Ensures.bind (does_look .preflightStartEntry rfl) (fun _ => ?_)
  refine Ensures.bind does_requireService (fun _ => ?_)
  refine Ensures.bind (does_look .validateServiceContract rfl) (fun _ => ?_)
  refine Ensures.bind (does_look .openProtectedRoot rfl) (fun _ => ?_)
  exact does_look .stopServiceAndWait rfl

end Verbs

section Runs
variable (sha256 : List UInt8 → Digest)

/-- What the installer asks of the provisioner while a service is there. -/
inductive Verb where
  | retireInstallerShortcuts | prepareUpgrade | prepareUpgradeStaged | commitUpgradeStaged
  | install
  deriving DecidableEq, Repr

def Verb.action : Verb → Action Unit
  | .retireInstallerShortcuts => Upgrade.retireInstallerShortcuts
  | .prepareUpgrade => Upgrade.prepareUpgrade
  | .prepareUpgradeStaged => Upgrade.prepareUpgradeStaged sha256
  | .commitUpgradeStaged => Upgrade.commitUpgradeStaged
  | .install => installExisting

/-- What the installer may write once the upgrade is prepared. -/
def InstallerWrites (name : String) : Prop :=
  name=serviceExecutableName ∨ isStagedUpgradeName name=true

/-- What a verb that has succeeded leaves. A prepared upgrade has the backup of the very image
that stands at the stable path, and keeps it whatever the installer writes from then on. -/
def Verb.Leaves : Verb → World → Prop
  | .retireInstallerShortcuts,_ | .prepareUpgrade,_ => True
  | .prepareUpgradeStaged,w => ∃ j, w.journal=some j ∧ w.Stands sha256 j.oldDigest ∧
    w.Backed sha256 j ∧ ∀ files, Untouched InstallerWrites w.files files →
      World.Backed sha256 { w with files := files } j
  | .commitUpgradeStaged,w => ∃ j, w.Committed sha256 j
  | .install,w => w.journal=none ∧ w.StableProven sha256

/-- The installer, and whether it may write over the stable image: it may once the upgrade is
prepared, and until it calls again. -/
structure Installer where
  world : World
  cleared : Bool

abbrev VerbRun (verb : Verb) (w : World)
    (c : Configuration Op Op.Res World (Except String Unit)) : Prop :=
  Relation.ReflTransGen (Step Eq (answers sha256)) ⟨(verb.action sha256).run,[],w⟩ c

/-- What may happen next. A verb may be stopped for good at any of its calls. -/
inductive Happens : Installer → Installer → Prop
  | verb {v : Verb} {i : Installer} {c : Configuration Op Op.Res World (Except String Unit)}
    (hrun : VerbRun sha256 v i.world c) : Happens i ⟨c.state,false⟩
  | prepared {i : Installer} {c : Configuration Op Op.Res World (Except String Unit)}
    (hrun : VerbRun sha256 .prepareUpgradeStaged i.world c) (hend : c.program=.ret (.ok ())) :
    Happens i ⟨c.state,true⟩
  | unpack {w : World} {cleared : Bool} {name : String} {files : Disk String Unit}
    (hstaged : isStagedUpgradeName name=true) (hfiles : Untouched (· =name) w.files files) :
    Happens ⟨w,cleared⟩ ⟨{ w with files := files },cleared⟩
  | overwrite {w : World} {files : Disk String Unit}
    (hfiles : Untouched (· =serviceExecutableName) w.files files) :
    Happens ⟨w,true⟩ ⟨{ w with files := files },true⟩

variable {sha256}

theorem does_verb (verb : Verb) : Does sha256 (fun _ => True) (verb.action sha256)
    (fun _ w => verb.Leaves sha256 w) (fun _ => True) := by
  cases verb with
  | retireInstallerShortcuts => exact does_retireInstallerShortcuts
  | prepareUpgrade => exact does_prepareUpgrade
  | prepareUpgradeStaged =>
    refine does_prepareUpgradeStaged.post (fun _ w _ h => ?_)
    obtain ⟨j,hj,hbacked,hstands⟩ := h
    refine ⟨j,hj,hstands,hbacked,fun files hfiles => hbacked.congr (hfiles _ ?_)⟩
    rintro (hstable | hstaged)
    · exact backup_ne_stable hstable
    · exact not_carries_staged hstaged (.inr ⟨j.oldDigest,rfl⟩)
  | commitUpgradeStaged => exact does_commitUpgradeStaged
  | install => exact does_installExisting

theorem verb_run {verb : Verb} {w : World}
    {c : Configuration Op Op.Res World (Except String Unit)} (hkept : Kept sha256 w)
    (hrun : VerbRun sha256 verb w c) : Kept sha256 c.state ∧
    (c.program=.ret (.ok ()) → verb.Leaves sha256 c.state) := by
  obtain ⟨hkept',hend⟩ := (does_verb verb).run hkept trivial hrun
  exact ⟨hkept',fun hok => hend (.ok ()) hok⟩

/-- What holds of the installer at every moment. -/
def Installer.Safe (sha256 : List UInt8 → Digest) (i : Installer) : Prop :=
  Kept sha256 i.world ∧ (i.cleared=true → i.world.Secured sha256)

theorem Happens.safe {i i' : Installer} (h : Happens sha256 i i') (hsafe : i.Safe sha256) :
    i'.Safe sha256 := by
  cases h with
  | verb hrun => exact ⟨(verb_run hsafe.1 hrun).1,nofun⟩
  | prepared hrun hend =>
    obtain ⟨hkept,hleaves⟩ := verb_run hsafe.1 hrun
    obtain ⟨j,hj,-,hbacked,-⟩ := hleaves hend
    exact ⟨hkept,fun _ => ⟨j,hj,hbacked⟩⟩
  | @unpack w cleared name files hstaged hfiles =>
    have hs : Spares w { w with files := files } := by
      refine ⟨fun n hn => hfiles n (fun heq => ?_),rfl,subset_rfl⟩
      exact not_carries_staged hstaged (heq ▸ hn)
    exact ⟨hsafe.1.spares hs,fun hcleared => secured_lasting _ _ (hsafe.2 hcleared) hs⟩
  | @overwrite w files hfiles =>
    obtain ⟨j,hj,hbacked⟩ := hsafe.2 rfl
    have hafter : World.Undoable sha256 { w with files := files } j :=
      ⟨recorded_of hj,hbacked.congr (hfiles _ backup_ne_stable)⟩
    exact ⟨hafter.kept (hsafe.1.journal j hj).1 hsafe.1.journal,fun _ => hafter.secured⟩

theorem safe_run {i i' : Installer} (h : Relation.ReflTransGen (Happens sha256) i i')
    (hsafe : i.Safe sha256) : i'.Safe sha256 := by
  induction h with
  | refl => exact hsafe
  | tail _ hnext ih => exact hnext.safe ih

theorem standing_safe {w : World} (h : w.journal=none ∧ w.StableProven sha256) :
    Installer.Safe sha256 ⟨w,false⟩ := by
  refine ⟨⟨fun j hj => ?_,.inl h.2⟩,nofun⟩
  rw [h.1] at hj
  cases hj

/-- Whatever the installer does from a service that stands, wherever its verbs are stopped and
however their calls fail: an image that the service was seen to run from is at the stable path,
or it is the intact backup that the journal on disk names. -/
theorem upgrade_keeps_a_proven_image {w : World} {i : Installer}
    (hstart : w.journal=none ∧ w.StableProven sha256)
    (hrun : Relation.ReflTransGen (Happens sha256) ⟨w,false⟩ i) :
    i.world.StableProven sha256 ∨ ∃ j, i.world.journal=some j ∧ j.validate=.ok () ∧
      j.oldDigest∈i.world.proven ∧ i.world.Holds sha256 j.backupName j.oldDigest := by
  obtain ⟨hkept,-⟩ := safe_run hrun (standing_safe hstart)
  obtain hstable | ⟨j,hj,hbackup⟩ := hkept.image
  · exact .inl hstable
  · exact .inr ⟨j,hj,(hkept.journal j hj).1,(hkept.journal j hj).2.1,hbackup⟩

/-- A verb that succeeds leaves what the installer goes on from: before it writes, a journal with
the backup of the image that stands, which no writing of its own can touch; once it has written,
a candidate that was seen to run beside its backup; at last a proven image and no journal. -/
theorem finished_verbs_leave {w : World} {i : Installer} {verb : Verb}
    {c : Configuration Op Op.Res World (Except String Unit)}
    (hstart : w.journal=none ∧ w.StableProven sha256)
    (hrun : Relation.ReflTransGen (Happens sha256) ⟨w,false⟩ i)
    (hverb : VerbRun sha256 verb i.world c) (hend : c.program=.ret (.ok ())) :
    verb.Leaves sha256 c.state :=
  (verb_run (safe_run hrun (standing_safe hstart)).1 hverb).2 hend

end Runs

section Drill

/-- An install directory with its journal, and the images that the service was seen to run from,
in a list. -/
structure Machine where
  files : Disk String Unit
  journal : Option UpgradeJournalV1
  proven : List Digest

def Machine.world (m : Machine) : World where
  files := m.files
  journal := m.journal
  proven := { digest | digest∈m.proven }

variable (sha256 : List UInt8 → Digest)

/-- What a system that does all it is asked answers. The service always runs, from the stable
path and as one process, and the directory lists what it has of these names. -/
def obey (names : List String) : (op : Op) → Machine → op.Res × Machine
  | .currentExe,m => (.ok (some stagedServiceExecutableName),m)
  | .openService,m => (.ok true,m)
  | .readJournal,m => (.ok m.journal,m)
  | .writeJournal journal,m => (.ok (),{ m with journal := some journal })
  | .deleteJournal,m => (.ok (),{ m with journal := none })
  | .pathExists name,m => (.ok (m.files name).isSome,m)
  | .fileDigest name,m => ((m.files name).elim (.error "not_found") (fun file =>
    .ok (sha256 file.bytes)),m)
  | .readFile name,m => ((m.files name).elim (.error "not_found") (fun file => .ok file.bytes),m)
  | .writeFile name bytes,m => (.ok (),{ m with files := m.files.put name ⟨bytes,()⟩ })
  | .copyFile source target,m =>
    (.ok (),{ m with files := Function.update m.files target (m.files source) })
  | .replaceFile source target,m => (.ok (),{ m with files := m.files.rename source target })
  | .deleteLeaf name expected,m =>
    match m.files name with
    | none => (.ok (),m)
    | some file =>
      if expected.all (· =sha256 file.bytes) then (.ok (),{ m with files := m.files.remove name })
      else (.error "identity_invalid",m)
  | .listDirectory,m =>
    (.ok ((names.filter (fun name => (m.files name).isSome)).map (fun name => .ok (some name))),m)
  | .installedProductVersion,m => (.ok none,m)
  | .serviceRunning,m => (.ok (some 7),m)
  | .startGeneration,m => (.ok 7,m)
  | .runsFrom _ _,m => (.ok true,m)
  | .sameGeneration _ image,m => (.ok (),{ m with proven := image::m.proven })
  | .ensureAppPath,m => (.ok false,m)
  | .requireElevated,m | .verifyImage _,m | .verifyController,m | .verifyMonitor,m
  | .preflightAppPath,m | .preflightStartEntry,m | .validateServiceContract,m
  | .openProtectedRoot,m | .settleForReplacement,m | .settleForCandidateReplacement,m
  | .startServiceAndWait,m | .stopServiceAndWait,m | .retireShortcuts,m | .ensureStartEntry,m
  | .deleteAppPath,m | .retireLegacyCli,m => (.ok (),m)

theorem obey_answers (names : List String) (op : Op) (m : Machine) :
    answers sha256 op m.world (obey sha256 names op m).1 (obey sha256 names op m).2.world := by
  cases op with
  | readJournal => exact ⟨rfl,by rintro _ ⟨⟩; rfl⟩
  | pathExists name => exact ⟨rfl,by rintro _ ⟨⟩; rfl⟩
  | writeJournal | deleteJournal | replaceFile => exact .inl rfl
  | fileDigest name =>
    refine ⟨rfl,fun digest h => ?_⟩
    cases hfile : m.files name with
    | none =>
      simp only [obey,hfile,Option.elim_none] at h
      cases h
    | some file =>
      simp only [obey,hfile,Option.elim_some] at h
      cases h
      exact ⟨file,hfile,rfl⟩
  | readFile name =>
    refine ⟨rfl,fun bytes h => ?_⟩
    cases hfile : m.files name with
    | none =>
      simp only [obey,hfile,Option.elim_none] at h
      cases h
    | some file =>
      simp only [obey,hfile,Option.elim_some] at h
      cases h
      exact ⟨file,hfile,rfl⟩
  | writeFile name bytes =>
    exact ⟨_,rfl,untouched_put _ (.inl rfl),fun _ => put_same _⟩
  | copyFile source target =>
    exact ⟨_,rfl,fun _ hother => Function.update_of_ne hother ..,fun _ => Function.update_self ..⟩
  | deleteLeaf name expected =>
    simp only [obey]
    cases hfile : m.files name with
    | none => exact .inr ⟨rfl,fun _ => hfile⟩
    | some file =>
      by_cases hsame : expected.all (· =sha256 file.bytes)=true
      · simp only [hsame,if_true]
        refine .inl ⟨rfl,?_⟩
        rintro digest rfl
        rw [Option.all_some,decide_eq_true_eq] at hsame
        exact ⟨file,hfile,hsame.symm⟩
      · simp only [hsame,if_false,Bool.false_eq_true]
        exact .inr ⟨rfl,nofun⟩
  | sameGeneration processId image =>
    refine .inl ⟨rfl,?_⟩
    simp [Machine.world,obey,Set.insert_def]
  | _ => rfl

/-- A verb, for at most so many calls. -/
def runFor (names : List String) : Nat → Call (Except String Unit) → Machine →
    Call (Except String Unit) × Machine
  | 0,p,m => (p,m)
  | _+1,.ret r,m => (.ret r,m)
  | n+1,.call op next,m =>
    runFor names n (next (obey sha256 names op m).1) (obey sha256 names op m).2

theorem runFor_reached (names : List String) (n : Nat) (p : Call (Except String Unit))
    (answered : List (Event Op Op.Res)) (m : Machine) : ∃ answered',
      Relation.ReflTransGen (Step Eq (answers sha256)) ⟨p,answered,m.world⟩
        ⟨(runFor sha256 names n p m).1,answered',(runFor sha256 names n p m).2.world⟩ := by
  induction n generalizing p answered m with
  | zero => exact ⟨answered,.refl⟩
  | succ n ih =>
    cases p with
    | ret r => exact ⟨answered,.refl⟩
    | call op next =>
      obtain ⟨answered',hrun⟩ := ih (next (obey sha256 names op m).1) _ _
      exact ⟨answered',.head (.call (obey_answers sha256 names op m)) hrun⟩

/-- The verb has come to its end. -/
def finished : Call (Except String Unit) → Bool
  | .ret (.ok ()) => true
  | _ => false

theorem finished_eq {p : Call (Except String Unit)} (h : finished p=true) : p=.ret (.ok ()) := by
  cases p with
  | ret r =>
    cases r with
    | ok value => rfl
    | error error => cases h
  | call op next => cases h

end Drill

section Upgraded

def oldImage : List UInt8 := [1]
def newImage : List UInt8 := [2]

def oldImageDigest : Digest :=
  #v[75,245,18,47,52,69,84,197,59,222,46,187,140,210,183,227,209,96,10,214,49,195,133,165,215,204,
    226,60,119,133,69,154]

def newImageDigest : Digest :=
  #v[219,193,180,201,0,255,228,141,87,91,93,165,198,56,4,1,37,246,93,176,254,62,36,73,75,118,234,
    152,100,87,217,134]

/-- The SHA-256 digests of the two images. -/
def imageDigest (bytes : List UInt8) : Digest :=
  if bytes=oldImage then oldImageDigest
  else if bytes=newImage then newImageDigest
  else noDigest

def upgradeNames : List String :=
  [serviceExecutableName,stagedServiceExecutableName,upgradeBackupName oldImageDigest]

/-- A service that was seen to run. -/
def standingMachine : Machine where
  files name := if name=serviceExecutableName then some ⟨oldImage,()⟩ else none
  journal := none
  proven := [oldImageDigest]

/-- The installer has unpacked the new controller. -/
def unpackedMachine : Machine :=
  { standingMachine with
    files := standingMachine.files.put stagedServiceExecutableName ⟨newImage,()⟩ }

def performed (verb : Verb) (n : Nat) (m : Machine) : Call (Except String Unit) × Machine :=
  runFor imageDigest upgradeNames n (verb.action imageDigest).run m

def preparedMachine : Machine := (performed .prepareUpgradeStaged 50 unpackedMachine).2

/-- The installer has written over the stable image. -/
def overwrittenMachine : Machine :=
  { preparedMachine with
    files := preparedMachine.files.put serviceExecutableName ⟨newImage,()⟩ }

/-- The commit is stopped before the new image was seen to run. -/
def interruptedMachine : Machine := (performed .commitUpgradeStaged 20 overwrittenMachine).2

def committedMachine : Machine := (performed .commitUpgradeStaged 50 overwrittenMachine).2
def installedMachine : Machine := (performed .install 50 committedMachine).2

theorem standingMachine_stands : standingMachine.world.journal=none ∧
    standingMachine.world.StableProven imageDigest :=
  ⟨rfl,oldImageDigest,List.mem_singleton_self _,⟨oldImage,()⟩,rfl,by decide⟩

theorem performed_run (verb : Verb) (n : Nat) (m : Machine) : ∃ answered,
    VerbRun imageDigest verb m.world
      ⟨(performed verb n m).1,answered,(performed verb n m).2.world⟩ :=
  runFor_reached imageDigest upgradeNames n _ [] m

/-- A call that is stopped after some of its steps, or has come to its end. -/
theorem performed_happens (verb : Verb) (n : Nat) (m : Machine) (cleared : Bool) :
    Happens imageDigest ⟨m.world,cleared⟩ ⟨(performed verb n m).2.world,false⟩ := by
  obtain ⟨answered,hrun⟩ := performed_run verb n m
  exact .verb (i := ⟨m.world,cleared⟩)
    (c := ⟨(performed verb n m).1,answered,(performed verb n m).2.world⟩) hrun

theorem prepared_happens (n : Nat) (m : Machine)
    (h : finished (performed .prepareUpgradeStaged n m).1=true) :
    Happens imageDigest ⟨m.world,false⟩ ⟨(performed .prepareUpgradeStaged n m).2.world,true⟩ := by
  obtain ⟨answered,hrun⟩ := performed_run .prepareUpgradeStaged n m
  exact .prepared (i := ⟨m.world,false⟩) (c := ⟨(performed .prepareUpgradeStaged n m).1,answered,
    (performed .prepareUpgradeStaged n m).2.world⟩) hrun (finished_eq h)

theorem overwritten_happens (m : Machine) (file : File Unit) : Happens imageDigest ⟨m.world,true⟩
    ⟨({ m with files := m.files.put serviceExecutableName file } : Machine).world,true⟩ :=
  .overwrite (untouched_put _ rfl)

/-- How far the calls get, and what the interrupted commit leaves. -/
theorem upgrade_trace :
    (finished (performed .prepareUpgradeStaged 50 unpackedMachine).1=true ∧
      finished (performed .commitUpgradeStaged 50 overwrittenMachine).1=true ∧
      finished (performed .install 50 committedMachine).1=true) ∧
    interruptedMachine.journal.map (·.phase)=some .candidateInstalled ∧
    interruptedMachine.files serviceExecutableName=some ⟨newImage,()⟩ ∧
    newImageDigest∉interruptedMachine.proven := by
  decide

theorem unpacked_run : Relation.ReflTransGen (Happens imageDigest) ⟨standingMachine.world,false⟩
    ⟨unpackedMachine.world,false⟩ := by
  have hstaged : isStagedUpgradeName stagedServiceExecutableName=true := by decide
  exact .single (.unpack hstaged (untouched_put _ rfl))

theorem overwritten_run : Relation.ReflTransGen (Happens imageDigest)
    ⟨standingMachine.world,false⟩ ⟨overwrittenMachine.world,true⟩ :=
  (unpacked_run.tail (prepared_happens 50 unpackedMachine upgrade_trace.1.1)).tail
    (overwritten_happens preparedMachine _)

theorem interrupted_run : Relation.ReflTransGen (Happens imageDigest)
    ⟨standingMachine.world,false⟩ ⟨interruptedMachine.world,false⟩ :=
  overwritten_run.tail (performed_happens .commitUpgradeStaged 20 overwrittenMachine true)

theorem committed_run : Relation.ReflTransGen (Happens imageDigest)
    ⟨standingMachine.world,false⟩ ⟨committedMachine.world,false⟩ :=
  overwritten_run.tail (performed_happens .commitUpgradeStaged 50 overwrittenMachine true)

/-- The commit is stopped while the image at the stable path is one that was never seen to run:
the old one is behind the journal. -/
theorem interrupted_commit_keeps :
    Relation.ReflTransGen (Happens imageDigest) ⟨standingMachine.world,false⟩
      ⟨interruptedMachine.world,false⟩ ∧
    interruptedMachine.journal.map (·.phase)=some .candidateInstalled ∧
    interruptedMachine.files serviceExecutableName=some ⟨newImage,()⟩ ∧
    newImageDigest∉interruptedMachine.proven ∧
    (interruptedMachine.world.StableProven imageDigest ∨
      ∃ j, interruptedMachine.world.journal=some j ∧ j.validate=.ok () ∧
        j.oldDigest∈interruptedMachine.world.proven ∧
        interruptedMachine.world.Holds imageDigest j.backupName j.oldDigest) := by
  have hproven := upgrade_keeps_a_proven_image standingMachine_stands interrupted_run
  dsimp only at hproven
  exact ⟨interrupted_run,upgrade_trace.2.1,upgrade_trace.2.2.1,upgrade_trace.2.2.2,hproven⟩

/-- A whole upgrade: prepared, written over, committed, and installed at last. -/
theorem whole_upgrade_leaves :
    Verb.prepareUpgradeStaged.Leaves imageDigest preparedMachine.world ∧
    Verb.commitUpgradeStaged.Leaves imageDigest committedMachine.world ∧
    Verb.install.Leaves imageDigest installedMachine.world := by
  obtain ⟨_,hprepared⟩ := performed_run .prepareUpgradeStaged 50 unpackedMachine
  obtain ⟨_,hcommitted⟩ := performed_run .commitUpgradeStaged 50 overwrittenMachine
  obtain ⟨_,hinstalled⟩ := performed_run .install 50 committedMachine
  have hprepare := finished_eq upgrade_trace.1.1
  have hcommit := finished_eq upgrade_trace.1.2.1
  have hinstall := finished_eq upgrade_trace.1.2.2
  have hfirst := finished_verbs_leave standingMachine_stands unpacked_run hprepared hprepare
  have hsecond := finished_verbs_leave standingMachine_stands overwritten_run hcommitted hcommit
  have hlast := finished_verbs_leave standingMachine_stands committed_run hinstalled hinstall
  exact ⟨hfirst,hsecond,hlast⟩

end Upgraded
end BatCave.CollectorService.Upgrade
