import BatCave.CollectorService.Protocol
import BatCave.CollectorService.UpgradeNames
import BatCave.Lib.Effects

/-! The upgrade of an installed collector service: the journal, the backup of the running image,
and the verbs that the installer calls around its own copying of files. Every look at the system
and every change to it is a call, whose failure brings its own text. -/
namespace BatCave.CollectorService.Upgrade
open BatCave.Lib.Text BatCave.Lib.SemVer BatCave.Lib.Effects

abbrev Digest := Vector UInt8 32

def noDigest : Digest := Vector.replicate 32 0

def serviceExecutableName : String := "batcave-collector-service.exe"
def stagedServiceExecutableName : String := recoveryAlias
def rollbackTempName : String := "batcave-collector-service.rollback.tmp"

section Names

/-- `rsplit_once`: at the last separator. -/
def rsplitOnce (sep : Char) (value : List Char) : Option (List Char × List Char) :=
  (splitOnce sep value.reverse).map (fun p => (p.2.reverse,p.1.reverse))

def digits (value : List Char) : Bool := !value.isEmpty && value.all Char.isDigit

/-- `atomic_temp_base` -/
def atomicTempBase (name : String) : Option String := do
  let withoutSuffix ← name.toList.dropSuffix? ".tmp".toList
  let (withoutSequence,sequence) ← rsplitOnce '.' withoutSuffix
  let (base,processId) ← rsplitOnce '.' withoutSequence
  if !base.isEmpty && digits processId && digits sequence then some (String.ofList base) else none

/-- `atomic_temp_suffix` -/
def atomicTempSuffix (name base : String) : Option (List Char) := do
  let rest ← name.toList.dropPrefix? base.toList
  let rest ← rest.dropPrefix? ['.']
  let suffix ← rest.dropSuffix? ".tmp".toList
  match suffix.splitOn '.' with
  | [process,sequence] => if digits process && digits sequence then some suffix else none
  | _ => none

def hexValue (c : Char) : UInt8 :=
  if c.isDigit then c.toUInt8-48 else if c.toNat < 97 then c.toUInt8-55 else c.toUInt8-87

/-- `rollback_digest_from_name` -/
def rollbackDigestFromName (name : String) : Option Digest := do
  let rest ← name.toList.dropPrefix? "batcave-collector-service.".toList
  let digest ← rest.dropSuffix? ".rollback.exe".toList
  if digest.length≠64 || !digest.all isAsciiHexdigit then none
  else some (Vector.ofFn (fun i : Fin 32 =>
    hexValue (digest.getD (2*i.val) '0')*16+hexValue (digest.getD (2*i.val+1) '0')))

end Names

section Decision

inductive UpgradeResumeAction where
  | reusePrepared | reusePreparedSameImage | commitCandidate | retryRollback | finalizeVerified
  deriving DecidableEq, Repr

/-- `staged_transaction_matches` -/
def stagedTransactionMatches (journal : UpgradeJournalV1) (stagedName : Option String)
    (stagedDigest : Digest) : Bool :=
  stagedName==some journal.stagedName && stagedDigest==journal.newDigest

/-- `decide_upgrade_resume` -/
def decideUpgradeResume (journal : UpgradeJournalV1) (stable staged backup : Digest) :
    Except String UpgradeResumeAction := do
  journal.validate
  if staged≠journal.newDigest then
    throw "collector_service_upgrade_journal_identity_invalid"
  else if backup≠journal.oldDigest then
    throw "collector_service_upgrade_journal_identity_invalid"
  else
    match journal.phase with
    | .prepared =>
      if stable=journal.oldDigest ∧ journal.oldDigest=journal.newDigest then
        return .reusePreparedSameImage
      else if stable=journal.oldDigest then return .reusePrepared
      else if stable=journal.newDigest then return .commitCandidate
      else return .retryRollback
    | .candidateInstalled =>
      if stable=journal.newDigest then return .commitCandidate else return .retryRollback
    | .verified =>
      if stable=journal.newDigest then return .finalizeVerified else return .retryRollback

/-- `UpgradeJournalV1::new` -/
def newJournal (oldDigest newDigest : Digest) (backupName stagedName : String) :
    UpgradeJournalV1 :=
  { schemaVersion := upgradeJournalSchemaVersion
    phase := .prepared
    oldDigest := oldDigest
    newDigest := newDigest
    backupName := backupName
    stagedName := stagedName }

end Decision

section Calls

/-- What the provisioner asks of the system. A file is named by its name in the install
directory, and the journal is the one file of the service directory that it knows. -/
inductive Op where
  | requireElevated
  | currentExe
  | verifyImage (name : String)
  | verifyController
  | verifyMonitor
  | preflightAppPath
  | preflightStartEntry
  | openService
  | validateServiceContract
  | openProtectedRoot
  | readJournal
  | writeJournal (journal : UpgradeJournalV1)
  | deleteJournal
  | pathExists (name : String)
  | fileDigest (name : String)
  | readFile (name : String)
  | writeFile (name : String) (bytes : List UInt8)
  | copyFile (source target : String)
  | replaceFile (source target : String)
  | deleteLeaf (name : String) (expected : Option Digest)
  | listDirectory
  | installedProductVersion
  | serviceRunning
  | settleForReplacement
  | settleForCandidateReplacement
  | startGeneration
  | startServiceAndWait
  | stopServiceAndWait
  | runsFrom (processId : Nat) (name : String)
  | sameGeneration (processId : Nat) (image : Digest)
  | retireShortcuts
  | ensureAppPath
  | ensureStartEntry
  | deleteAppPath
  | retireLegacyCli

/-- What a call brings when it succeeds. -/
@[reducible] def Op.Answer : Op → Type
  | .currentExe => Option String
  | .openService => Bool
  | .readJournal => Option UpgradeJournalV1
  | .pathExists _ => Bool
  | .fileDigest _ => Digest
  | .readFile _ => List UInt8
  -- An entry may fail by itself, and its name need not be text.
  | .listDirectory => List (Except String (Option String))
  | .installedProductVersion => Option String
  | .serviceRunning => Option Nat
  | .startGeneration => Nat
  | .runsFrom _ _ => Bool
  | .ensureAppPath => Bool
  | _ => Unit

@[reducible] def Op.Res (op : Op) : Type := Except String op.Answer

abbrev Call (α : Type) := Program Op Op.Res α
abbrev Action (α : Type) := Fallible Op Op.Res String α

def ask (op : Op) : Action op.Answer := ExceptT.mk (.call op .ret)

/-- An action whose failure is looked at. -/
def tried {α : Type} (x : Action α) : Action (Except String α) := outcome x

def rollbackFailed (error rollback : String) : String :=
  error++";collector_service_upgrade_rollback_failed:"++rollback

end Calls

section Journal

/-- `read_upgrade_journal` -/
def readUpgradeJournal : Action (Option UpgradeJournalV1) := do
  match ← ask .readJournal with
  | none => return none
  | some journal =>
    match journal.validate with
    | .error error => throw error
    | .ok () => return some journal

/-- `write_upgrade_journal` -/
def writeUpgradeJournal (journal : UpgradeJournalV1) : Action Unit :=
  match journal.validate with
  | .error error => throw error
  | .ok () => ask (.writeJournal journal)

end Journal

section Cleanup

/-- The loop over the entries of the install directory. -/
def eachName (f : String → Action Unit) : List (Except String (Option String)) → Action Unit
  | [] => return ()
  | .error error::_ => throw error
  | .ok none::rest => eachName f rest
  | .ok (some name)::rest => do
    f name
    eachName f rest

def cleanupBackupTemp (backupName name : String) : Action Unit :=
  if (atomicTempSuffix name backupName).isSome then ask (.deleteLeaf name none) else return ()

/-- `cleanup_upgrade_backup_temps` -/
def cleanupUpgradeBackupTemps (backupName : String) : Action Unit := do
  let entries ← ask .listDirectory
  eachName (cleanupBackupTemp backupName) entries

/-- What the residue loop makes of one name. -/
def cleanupResidueName (keepStagedName : Option String) (name : String) : Action Unit :=
  if keepStagedName=some name then return ()
  else if isStagedUpgradeName name || name==rollbackTempName then ask (.deleteLeaf name none)
  else
    match rollbackDigestFromName name with
    | some expected => ask (.deleteLeaf name (some expected))
    | none =>
      match atomicTempBase name with
      | none => return ()
      | some base =>
        if (rollbackDigestFromName base).isSome then ask (.deleteLeaf name none) else return ()

/-- `cleanup_upgrade_install_residue` -/
def cleanupUpgradeInstallResidue (keepStagedName : Option String) : Action Unit := do
  let entries ← ask .listDirectory
  eachName (cleanupResidueName keepStagedName) entries

end Cleanup

section Service

/-- `validate_running_service_image` -/
def validateRunningServiceImage (expected : Digest) (processId : Nat) : Action Unit := do
  let running ← ask .serviceRunning
  if running≠some processId ∨ processId=0 then
    throw "collector_service_upgrade_running_state_unproven"
  else do
    let runs ← ask (.runsFrom processId serviceExecutableName)
    if !runs then throw "collector_service_upgrade_running_image_invalid"
    else do
      let digest ← ask (.fileDigest serviceExecutableName)
      if digest≠expected then throw "collector_service_upgrade_running_image_invalid"
      else ask (.sameGeneration processId expected)

/-- `ensure_service_generation_ready` -/
def ensureServiceGenerationReady (expected : Digest) : Action Unit := do
  let running ← ask .serviceRunning
  let processId ← match running with
    | some processId => pure processId
    | none => ask .startGeneration
  ask .validateServiceContract
  validateRunningServiceImage expected processId

end Service

section Transaction
variable (sha256 : List UInt8 → Digest)

/-- `restore_upgrade_backup` -/
def restoreUpgradeBackup (backup : String) (expected : Digest) : Action Unit := do
  let digest ← ask (.fileDigest backup)
  if digest≠expected then throw "collector_service_upgrade_backup_identity_invalid"
  else do
    ask (.copyFile backup rollbackTempName)
    let copied ← ask (.fileDigest rollbackTempName)
    if copied≠expected then throw "collector_service_upgrade_restore_identity_invalid"
    else do
      ask (.replaceFile rollbackTempName serviceExecutableName)
      let restored ← ask (.fileDigest serviceExecutableName)
      if restored≠expected then throw "collector_service_upgrade_restore_identity_invalid"
      else return ()

/-- `rollback_upgrade` up to its last write. -/
def restoreOldImage (journal : UpgradeJournalV1) : Action Unit := do
  ask .settleForReplacement
  restoreUpgradeBackup journal.backupName journal.oldDigest
  ask .validateServiceContract
  let processId ← ask .startGeneration
  validateRunningServiceImage journal.oldDigest processId

/-- `rollback_upgrade`, with what it leaves of the journal in memory: the phase is set before it
is written. -/
def rollbackUpgrade (journal : UpgradeJournalV1) :
    Call (Except String Unit × UpgradeJournalV1) := do
  match ← (restoreOldImage journal).run with
  | .error error => return (.error error,journal)
  | .ok () =>
    let journal := { journal with phase := .prepared }
    let written ← (writeUpgradeJournal journal).run
    return (written,journal)

/-- What an error becomes that was answered with a rollback. -/
def rolledBack (error : String) : Except String Unit → String
  | .ok () => error
  | .error rollback => rollbackFailed error rollback

/-- `ensure_verified_candidate_ready`, with the journal in memory. -/
def ensureVerifiedCandidateReady (journal : UpgradeJournalV1) :
    Call (Except String Unit × UpgradeJournalV1) := do
  match ← (ensureServiceGenerationReady journal.newDigest).run with
  | .ok () => return (.ok (),journal)
  | .error error =>
    let (rollback,journal) ← rollbackUpgrade journal
    return (.error (rolledBack error rollback),journal)

/-- `delete_upgrade_backup` -/
def deleteUpgradeBackup (journal : UpgradeJournalV1) : Action Unit :=
  ask (.deleteLeaf journal.backupName (some journal.oldDigest))

/-- `retire_upgrade_artifacts` -/
def retireUpgradeArtifacts (deleteBackup deleteStaged cleanupResidue deleteJournal : Action Unit) :
    Action Unit := do
  deleteBackup
  deleteStaged
  cleanupResidue
  deleteJournal

def deleteSupersededStaged (journal : UpgradeJournalV1) (keepStagedName : Option String) :
    Action Unit :=
  if keepStagedName=some journal.stagedName then return ()
  else ask (.deleteLeaf journal.stagedName (some journal.newDigest))

/-- What `path_exists_no_follow` and `trusted_file_digest` tell of a file that may be missing. -/
def digestOrNone (name : String) : Action Digest := do
  let present ← ask (.pathExists name)
  if present then ask (.fileDigest name) else return noDigest

/-- The end of `resolve_superseded_upgrade_transaction`: the old image stands again. -/
def retireSuperseded (journal : UpgradeJournalV1) (keepStagedName : Option String) :
    Action Unit := do
  if journal.phase≠.prepared then throw "collector_service_upgrade_supersede_state_invalid"
  else do
    let present ← ask (.pathExists serviceExecutableName)
    if !present then throw "collector_service_upgrade_supersede_state_invalid"
    else do
      let digest ← ask (.fileDigest serviceExecutableName)
      if digest≠journal.oldDigest then throw "collector_service_upgrade_supersede_state_invalid"
      else
        retireUpgradeArtifacts (deleteUpgradeBackup journal)
          (deleteSupersededStaged journal keepStagedName)
          (cleanupUpgradeInstallResidue keepStagedName) (ask .deleteJournal)

/-- A superseded transaction whose candidate is ready is brought to its end. -/
def retireVerified (journal : UpgradeJournalV1) (keepStagedName : Option String) :
    Action Unit := do
  ask .deleteJournal
  deleteUpgradeBackup journal
  deleteSupersededStaged journal keepStagedName
  cleanupUpgradeInstallResidue keepStagedName

/-- A rollback on the way, whose failure is the failure of the whole. -/
def rollbackThen (journal : UpgradeJournalV1) (next : UpgradeJournalV1 → Action Unit) :
    Action Unit := do
  let (rollback,journal) ← always (rollbackUpgrade journal)
  match rollback with
  | .error error => throw error
  | .ok () => next journal

/-- `resolve_superseded_upgrade_transaction` -/
def resolveSupersededUpgradeTransaction (journal : UpgradeJournalV1)
    (keepStagedName : Option String) : Action Unit := do
  let stable ← digestOrNone serviceExecutableName
  match journal.phase with
  | .prepared =>
    if stable=journal.oldDigest then retireSuperseded journal keepStagedName
    else rollbackThen journal (retireSuperseded · keepStagedName)
  | .candidateInstalled => rollbackThen journal (retireSuperseded · keepStagedName)
  | .verified =>
    if stable=journal.newDigest then do
      let (ready,journal) ← always (ensureVerifiedCandidateReady journal)
      match ready with
      | .ok () => retireVerified journal keepStagedName
      | .error error =>
        if journal.phase≠.prepared then throw error
        else retireSuperseded journal keepStagedName
    else rollbackThen journal (retireSuperseded · keepStagedName)

/-- `upgrade_resume_action` -/
def upgradeResumeAction (journal : UpgradeJournalV1) (staged : String) :
    Action UpgradeResumeAction := do
  if staged≠journal.stagedName then throw "collector_service_upgrade_journal_identity_invalid"
  else do
    let backup ← digestOrNone journal.backupName
    let stable ← digestOrNone serviceExecutableName
    let stagedDigest ← ask (.fileDigest staged)
    match decideUpgradeResume journal stable stagedDigest backup with
    | .error error => throw error
    | .ok action => return action

/-- `app_path_upgrade_gate` -/
def appPathUpgradeGate : Action Unit := do
  let created ← ask .ensureAppPath
  match ← tried (do ask .retireShortcuts; ask .ensureStartEntry) with
  | .ok () => return ()
  | .error primary =>
    if created then
      match ← tried (ask .deleteAppPath) with
      | .ok () => throw primary
      | .error rollback =>
        throw (primary++";collector_service_app_path_rollback_failed:"++rollback)
    else throw primary

/-- The candidate is started, seen to run, and only then called verified. -/
def verifyCandidate (journal : UpgradeJournalV1) (finalGate : Action Unit) :
    Action UpgradeJournalV1 := do
  let processId ← ask .startGeneration
  ask .validateServiceContract
  validateRunningServiceImage journal.newDigest processId
  let journal := { journal with phase := .verified }
  writeUpgradeJournal journal
  finalGate
  return journal

/-- `commit_upgrade_candidate`, with the journal that a success leaves in memory. -/
def commitUpgradeCandidate (journal : UpgradeJournalV1) (finalGate : Action Unit) :
    Action UpgradeJournalV1 := do
  ask .settleForReplacement
  let journal := { journal with phase := .candidateInstalled }
  writeUpgradeJournal journal
  match ← tried (verifyCandidate journal finalGate) with
  | .ok journal => return journal
  | .error error =>
    let (rollback,_) ← always (rollbackUpgrade journal)
    throw (rolledBack error rollback)

/-- `finalize_verified_upgrade` -/
def finalizeVerifiedUpgrade (staged : String) (journal : UpgradeJournalV1) : Action Unit := do
  if journal.phase≠.verified then throw "collector_service_upgrade_journal_state_invalid"
  else do
    let stable ← ask (.fileDigest serviceExecutableName)
    if stable≠journal.newDigest then throw "collector_service_upgrade_journal_state_invalid"
    else do
      let digest ← ask (.fileDigest staged)
      if digest≠journal.newDigest then throw "collector_service_upgrade_journal_state_invalid"
      else do
        ask .deleteJournal
        deleteUpgradeBackup journal

/-- The gate behind a candidate that was found verified. -/
def gateVerified (journal : UpgradeJournalV1) (gate : Action Unit) : Action Unit := do
  match ← tried gate with
  | .ok () => return ()
  | .error error =>
    let (rollback,_) ← always (rollbackUpgrade journal)
    throw (rolledBack error rollback)

/-- `resume_upgrade_transaction` behind a journal of this very controller. -/
def resumeMatching (journal : UpgradeJournalV1) (staged : String) : Action Bool := do
  match ← upgradeResumeAction journal staged with
  | .reusePrepared | .reusePreparedSameImage =>
    ensureServiceGenerationReady journal.oldDigest
    return true
  | .commitCandidate =>
    let journal ← commitUpgradeCandidate journal appPathUpgradeGate
    finalizeVerifiedUpgrade staged journal
    return false
  | .retryRollback =>
    rollbackThen journal (fun _ => return ())
    return true
  | .finalizeVerified =>
    let (ready,journal) ← always (ensureVerifiedCandidateReady journal)
    match ready with
    | .error error => if journal.phase=.prepared then return true else throw error
    | .ok () =>
      gateVerified journal appPathUpgradeGate
      finalizeVerifiedUpgrade staged journal
      return false

/-- `resume_upgrade_transaction` -/
def resumeUpgradeTransaction (staged : String) : Action Bool := do
  match ← readUpgradeJournal with
  | none =>
    cleanupUpgradeInstallResidue (some staged)
    return false
  | some journal =>
    let stagedDigest ← ask (.fileDigest staged)
    if stagedTransactionMatches journal (some staged) stagedDigest then
      resumeMatching journal staged
    else do
      resolveSupersededUpgradeTransaction journal (some staged)
      cleanupUpgradeInstallResidue (some staged)
      return false

/-- `ensure_upgrade_backup` -/
def ensureUpgradeBackup (oldDigest : Digest) : Action String := do
  let backupName := upgradeBackupName oldDigest
  cleanupUpgradeBackupTemps backupName
  let present ← digestOrNone backupName
  if present=oldDigest ∧ oldDigest≠noDigest then return backupName
  else do
    let payload ← ask (.readFile serviceExecutableName)
    if sha256 payload≠oldDigest then throw "collector_service_upgrade_stable_image_changed"
    else do
      ask (.writeFile backupName payload)
      let written ← ask (.fileDigest backupName)
      if written≠oldDigest then throw "collector_service_upgrade_backup_identity_invalid"
      else return backupName

/-- `prepare_upgrade_transaction` -/
def prepareUpgradeTransaction (staged : String) : Action Unit := do
  match ← readUpgradeJournal with
  | some _ => throw "collector_service_upgrade_journal_already_exists"
  | none =>
    let oldDigest ← ask (.fileDigest serviceExecutableName)
    let newDigest ← ask (.fileDigest staged)
    let backupName ← ensureUpgradeBackup sha256 oldDigest
    writeUpgradeJournal (newJournal oldDigest newDigest backupName stagedServiceExecutableName)

/-- `ensure_uninstaller_compatibility_alias` -/
def ensureUninstallerCompatibilityAlias (staged : String) : Action Unit := do
  match ← ask .installedProductVersion with
  | none => return ()
  | some version =>
    let aliasName := "batcave-collector-service."++version++".staged.exe"
    if !isStagedUpgradeName aliasName then throw "collector_service_installed_version_invalid"
    else if aliasName.toLower=staged.toLower then return ()
    else do
      let payload ← ask (.readFile staged)
      ask (.writeFile aliasName payload)
      let written ← ask (.fileDigest aliasName)
      if written≠sha256 payload then throw "collector_service_recovery_alias_identity_invalid"
      else return ()

/-- The end of `prepare_upgrade_staged_image`: the service stops for the installer. -/
def settlePrepared (prepared : Bool) (staged : String) : Action Unit := do
  ask .settleForCandidateReplacement
  if prepared then return () else prepareUpgradeTransaction sha256 staged

/-- `prepare_upgrade_staged_image` -/
def prepareUpgradeStagedImage (staged : String) : Action Unit := do
  ask .verifyMonitor
  ask .preflightAppPath
  ask .preflightStartEntry
  ask .validateServiceContract
  ask .openProtectedRoot
  let prepared ← resumeUpgradeTransaction staged
  ask .preflightAppPath
  ask .preflightStartEntry
  let priorDigest ← ask (.fileDigest serviceExecutableName)
  ensureServiceGenerationReady priorDigest
  ask .retireShortcuts
  ensureUninstallerCompatibilityAlias sha256 staged
  match ← tried (settlePrepared sha256 prepared staged) with
  | .ok () => return ()
  | .error error =>
    match ← tried (ensureServiceGenerationReady priorDigest) with
    | .ok () => throw error
    | .error restart => throw (error++";collector_service_upgrade_restart_failed:"++restart)

end Transaction

section Verbs
variable (sha256 : List UInt8 → Digest)

/-- `verify_current_staged_binary_path` -/
def verifyCurrentStagedBinaryPath : Action String := do
  let name ← ask .currentExe
  match name.filter isStagedUpgradeName with
  | none => throw "collector_service_staged_image_name_invalid"
  | some name =>
    ask (.verifyImage name)
    return name

def requireService : Action Unit := do
  let present ← ask .openService
  if !present then throw "collector_service_upgrade_service_missing" else return ()

/-- `prepare_upgrade_staged` -/
def prepareUpgradeStaged : Action Unit := do
  ask .requireElevated
  let staged ← verifyCurrentStagedBinaryPath
  requireService
  prepareUpgradeStagedImage sha256 staged

/-- What `commit_upgrade_staged` does with the journal that it found. -/
def commitJournal (journal : UpgradeJournalV1) (staged : String) : Action Unit := do
  match ← upgradeResumeAction journal staged with
  | .commitCandidate | .reusePreparedSameImage =>
    let _ ← commitUpgradeCandidate journal appPathUpgradeGate
    return ()
  | .finalizeVerified => gateVerified journal appPathUpgradeGate
  | .reusePrepared | .retryRollback =>
    throw "collector_service_upgrade_candidate_not_installed"

/-- `commit_upgrade_staged` -/
def commitUpgradeStaged : Action Unit := do
  ask .requireElevated
  let staged ← verifyCurrentStagedBinaryPath
  ask .verifyMonitor
  ask .preflightAppPath
  ask .preflightStartEntry
  requireService
  ask .validateServiceContract
  ask .openProtectedRoot
  match ← readUpgradeJournal with
  | none => throw "collector_service_upgrade_journal_missing"
  | some journal => commitJournal journal staged

/-- `finalize_upgrade_transaction` -/
def finalizeUpgradeTransaction : Action Unit := do
  match ← readUpgradeJournal with
  | none => return ()
  | some journal =>
    if journal.phase≠.verified then throw "collector_service_upgrade_journal_not_verified"
    else finalizeVerifiedUpgrade journal.stagedName journal

def retireStagedName (stable : Digest) (name : String) : Action Unit :=
  if isStagedUpgradeName name then ask (.deleteLeaf name (some stable)) else return ()

/-- `retire_staged_upgrade_image` -/
def retireStagedUpgradeImage : Action Unit := do
  let stable ← ask (.fileDigest serviceExecutableName)
  let entries ← ask .listDirectory
  eachName (retireStagedName stable) entries
  cleanupUpgradeInstallResidue none

/-- The rollback of `fail_shortcut_retirement_with_upgrade_recovery`. -/
def recoverFailedGate (journal : UpgradeJournalV1) : Action Unit := do
  requireService
  ask .validateServiceContract
  ask .openProtectedRoot
  rollbackThen journal (fun _ => return ())

/-- `fail_shortcut_retirement_with_upgrade_recovery` -/
def failShortcutRetirementWithUpgradeRecovery (error : String) : Action Unit := do
  match ← tried readUpgradeJournal with
  | .error recovery => throw (rollbackFailed error recovery)
  | .ok none => throw error
  | .ok (some journal) =>
    match ← tried (recoverFailedGate journal) with
    | .ok () => throw error
    | .error recovery => throw (rollbackFailed error recovery)

/-- `retire_installer_shortcuts` -/
def retireInstallerShortcuts : Action Unit := do
  ask .requireElevated
  ask .verifyController
  match ← tried (ask .retireShortcuts) with
  | .ok () => return ()
  | .error error => failShortcutRetirementWithUpgradeRecovery error

/-- `prepare_upgrade` -/
def prepareUpgrade : Action Unit := do
  ask .requireElevated
  ask (.verifyImage serviceExecutableName)
  ask .verifyMonitor
  ask .preflightAppPath
  ask .preflightStartEntry
  requireService
  ask .validateServiceContract
  ask .openProtectedRoot
  ask .stopServiceAndWait

/-- `install`, where the service is there already. -/
def installExisting : Action Unit := do
  ask .requireElevated
  ask (.verifyImage serviceExecutableName)
  ask .verifyMonitor
  ask .preflightAppPath
  ask .preflightStartEntry
  requireService
  ask .validateServiceContract
  ask .openProtectedRoot
  ask .startServiceAndWait
  ask .validateServiceContract
  match ← tried appPathUpgradeGate with
  | .error error => failShortcutRetirementWithUpgradeRecovery error
  | .ok () =>
    finalizeUpgradeTransaction
    ask .retireLegacyCli
    retireStagedUpgradeImage

end Verbs
end BatCave.CollectorService.Upgrade
