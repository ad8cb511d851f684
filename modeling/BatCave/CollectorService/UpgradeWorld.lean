import BatCave.CollectorService.UpgradeTransaction
import BatCave.Lib.Files
import BatCave.Lib.Triples

/-! The world that the upgrade of the collector service works on, what its calls may make of it,
and what is never lost of it: an image is proven once the service was seen to run from it, and
the stable image is proven or the journal names a backup of one. -/
namespace BatCave.CollectorService.Upgrade
open BatCave.Lib.Text BatCave.Lib.Effects BatCave.Lib.Files

section Names
variable {name : String} {digest : Digest}

theorem atomicTempBase_suffix {base : String} (h : atomicTempBase name=some base) :
    ".tmp".toList <:+ name.toList := by
  simp only [atomicTempBase,Option.bind_eq_bind,Option.bind_eq_some_iff] at h
  obtain ⟨front,hfront,-⟩ := h
  obtain ⟨back,hname,hback⟩ := List.dropSuffix?_eq_some_iff.mp hfront
  exact ⟨front,by rw [hname,beq_iff_eq.mp hback]⟩

theorem toList_suffix (front back : String) : back.toList <:+ (front++back).toList :=
  ⟨front.toList,String.toList_append.symm⟩

theorem upgradeBackupName_suffix (digest : Digest) :
    ".rollback.exe".toList <:+ (upgradeBackupName digest).toList := toList_suffix ..

theorem isStagedUpgradeName_suffix (h : isStagedUpgradeName name=true) :
    name=recoveryAlias ∨ ".staged.exe".toList <:+ name.toList := by
  obtain h | ⟨version,-,rfl⟩ := isStagedUpgradeName_iff.mp h
  · exact .inl h
  · exact .inr (toList_suffix ..)

theorem stable_not_staged : isStagedUpgradeName serviceExecutableName=false := by decide

theorem stable_not_rollback : rollbackDigestFromName serviceExecutableName=none := by decide

theorem stable_not_temp : atomicTempBase serviceExecutableName=none := by decide

/-- A name with one of two endings of different kinds. -/
theorem ne_of_suffix {a b : String} {x y : List Char} (ha : x <:+ a.toList) (hb : y <:+ b.toList)
    (hxy : ¬(x <:+ y ∨ y <:+ x)) : a≠b := by
  intro heq
  subst heq
  refine hxy ((Nat.le_total x.length y.length).imp ?_ ?_)
  · exact List.suffix_of_suffix_length_le ha hb
  · exact List.suffix_of_suffix_length_le hb ha

theorem backup_ne_stable : upgradeBackupName digest≠serviceExecutableName :=
  ne_of_suffix (upgradeBackupName_suffix digest) (List.suffix_refl _) (by decide)

theorem backup_ne_rollbackTemp : upgradeBackupName digest≠rollbackTempName :=
  ne_of_suffix (upgradeBackupName_suffix digest) (List.suffix_refl _) (by decide)

/-- The files that carry the service through an upgrade. -/
def Carries (name : String) : Prop :=
  name=serviceExecutableName ∨ ∃ digest, name=upgradeBackupName digest

theorem not_carries_rollbackTemp : ¬Carries rollbackTempName := by
  rintro (h | ⟨digest,h⟩)
  · exact absurd h (by decide)
  · exact backup_ne_rollbackTemp h.symm

theorem not_carries_staged (h : isStagedUpgradeName name=true) : ¬Carries name := by
  rintro (rfl | ⟨digest,rfl⟩)
  · exact absurd h (by decide)
  · obtain h | h := isStagedUpgradeName_suffix h
    · exact ne_of_suffix (upgradeBackupName_suffix digest) (List.suffix_refl _) (by decide) h
    · exact ne_of_suffix (upgradeBackupName_suffix digest) h (by decide) rfl

theorem not_carries_temp {base : String} (h : atomicTempBase name=some base) : ¬Carries name := by
  rintro (rfl | ⟨digest,rfl⟩)
  · exact absurd (atomicTempBase_suffix h) (by decide)
  · exact ne_of_suffix (upgradeBackupName_suffix digest) (atomicTempBase_suffix h) (by decide) rfl

theorem atomicTempSuffix_stable {base : String} :
    atomicTempSuffix serviceExecutableName base=none := by
  by_contra h
  obtain ⟨suffix,h⟩ := Option.ne_none_iff_exists'.mp h
  simp only [atomicTempSuffix,Option.bind_eq_bind,Option.bind_eq_some_iff] at h
  obtain ⟨rest,hrest,rest',hrest',back,hback,-⟩ := h
  obtain ⟨front,hname,-⟩ := List.dropPrefix?_eq_some_iff.mp hrest
  obtain ⟨dot,hdot,-⟩ := List.dropPrefix?_eq_some_iff.mp hrest'
  obtain ⟨end',hend,htmp⟩ := List.dropSuffix?_eq_some_iff.mp hback
  have hsuffix : ".tmp".toList <:+ serviceExecutableName.toList :=
    ⟨front++(dot++back),by rw [hname,hdot,hend,beq_iff_eq.mp htmp]; simp⟩
  exact absurd hsuffix (by decide)

end Names

section Worlds
variable (sha256 : List UInt8 → Digest)

/-- The install directory, the journal, and the images that the service was seen to run from. -/
structure World where
  files : Disk String Unit
  journal : Option UpgradeJournalV1
  proven : Set Digest

variable (w w' : World)

/-- The file of a name is there, with this digest. -/
def World.Holds (name : String) (digest : Digest) : Prop :=
  ∃ file, w.files name=some file ∧ sha256 file.bytes=digest

/-- What a call may answer, and what it may leave. A call that succeeds tells the truth and has
done what it was asked for. A call that fails may have done it all the same, and one that was
writing may have left anything in the files that it writes. -/
def answers : (op : Op) → World → op.Res → World → Prop
  | .readJournal,w,r,w' => w'=w ∧ ∀ journal, r=.ok journal → journal=w.journal
  | .writeJournal journal,w,r,w' => w'={ w with journal := some journal } ∨ (r≠.ok () ∧ w'=w)
  | .deleteJournal,w,r,w' => w'={ w with journal := none } ∨ (r≠.ok () ∧ w'=w)
  | .pathExists name,w,r,w' => w'=w ∧ ∀ present, r=.ok present → present=(w.files name).isSome
  | .fileDigest name,w,r,w' => w'=w ∧ ∀ digest, r=.ok digest → w.Holds sha256 name digest
  | .readFile name,w,r,w' => w'=w ∧
    ∀ bytes, r=.ok bytes → ∃ file, w.files name=some file ∧ file.bytes=bytes
  -- The bytes go to a file beside it, which then takes its place.
  | .writeFile name bytes,w,r,w' => ∃ files, w'={ w with files := files } ∧
    Untouched (fun n => n=name ∨ atomicTempBase n=some name) w.files files ∧
    (r=.ok () → files name=some ⟨bytes,()⟩)
  | .copyFile source target,w,r,w' => ∃ files, w'={ w with files := files } ∧
    Untouched (· =target) w.files files ∧ (r=.ok () → files target=w.files source)
  | .replaceFile source target,w,r,w' =>
    w'={ w with files := w.files.rename source target } ∨ (r≠.ok () ∧ w'=w)
  | .deleteLeaf name expected,w,r,w' =>
    (w'={ w with files := w.files.remove name } ∧
      ∀ digest, expected=some digest → w.Holds sha256 name digest) ∨
    (w'=w ∧ (r=.ok () → w.files name=none))
  | .sameGeneration _ image,w,r,w' =>
    (r=.ok () ∧ w'={ w with proven := insert image w.proven }) ∨ (r≠.ok () ∧ w'=w)
  | _,w,_,w' => w'=w

/-- The stable image is one that the service was seen to run from. -/
def World.StableProven : Prop := ∃ digest∈w.proven, w.Holds sha256 serviceExecutableName digest

/-- What an upgrade never loses. -/
structure Kept : Prop where
  journal : ∀ j, w.journal=some j → j.validate=.ok () ∧ j.oldDigest∈w.proven ∧
    (j.phase=.verified → j.newDigest∈w.proven)
  image : w.StableProven sha256 ∨ ∃ j, w.journal=some j ∧ w.Holds sha256 j.backupName j.oldDigest

/-- The service, the journal and the backups are as they were. -/
structure Spares : Prop where
  files : ∀ name, Carries name → w'.files name=w.files name
  journal : w'.journal=w.journal
  proven : w.proven ⊆ w'.proven

/-- The stable image and the journal are as they were. -/
structure Steadies : Prop where
  stable : w'.files serviceExecutableName=w.files serviceExecutableName
  journal : w'.journal=w.journal
  proven : w.proven ⊆ w'.proven

def Lasting (P : World → Prop) : Prop := ∀ w w', P w → Spares w w' → P w'
def Steady (P : World → Prop) : Prop := ∀ w w', P w → Steadies w w' → P w'

end Worlds

section Frames
variable {sha256 : List UInt8 → Digest} {w w' : World} {P P' : World → Prop} {name : String}
variable {digest : Digest} {j : UpgradeJournalV1}

theorem Spares.refl (w : World) : Spares w w := ⟨fun _ _ => rfl,rfl,subset_rfl⟩

theorem Spares.steadies (h : Spares w w') : Steadies w w' :=
  ⟨h.files _ (.inl rfl),h.journal,h.proven⟩

theorem Steady.lasting (h : Steady P) : Lasting P := fun w w' hP hs => h w w' hP hs.steadies

theorem Lasting.and (h : Lasting P) (h' : Lasting P') : Lasting (fun w => P w ∧ P' w) :=
  fun w w' hP hs => ⟨h w w' hP.1 hs,h' w w' hP.2 hs⟩

theorem Steady.and (h : Steady P) (h' : Steady P') : Steady (fun w => P w ∧ P' w) :=
  fun w w' hP hs => ⟨h w w' hP.1 hs,h' w w' hP.2 hs⟩

theorem World.Holds.congr (h : w.Holds sha256 name digest) (hsame : w'.files name=w.files name) :
    w'.Holds sha256 name digest := by
  obtain ⟨file,hfile,hdigest⟩ := h
  exact ⟨file,hsame.trans hfile,hdigest⟩

/-- A name holds one file. -/
theorem World.Holds.unique {digest' : Digest} (h : w.Holds sha256 name digest)
    (h' : w.Holds sha256 name digest') : digest=digest' := by
  obtain ⟨file,hfile,hdigest⟩ := h
  obtain ⟨file',hfile',hdigest'⟩ := h'
  rw [hfile] at hfile'
  cases hfile'
  exact hdigest.symm.trans hdigest'

theorem holds_stable_steady : Steady (fun w => w.Holds sha256 serviceExecutableName digest) :=
  fun _ _ h hs => h.congr hs.stable

theorem stableProven_steady : Steady (fun w => w.StableProven sha256) := by
  rintro w w' ⟨digest,hproven,hholds⟩ hs
  exact ⟨digest,hs.proven hproven,hholds.congr hs.stable⟩

theorem proven_steady : Steady (fun w => digest∈w.proven) := fun _ _ h hs => hs.proven h

theorem journal_steady {found : Option UpgradeJournalV1} : Steady (fun w => w.journal=found) :=
  fun _ _ h hs => hs.journal.trans h

theorem backup_lasting : Lasting (fun w => w.Holds sha256 (upgradeBackupName digest) digest) :=
  fun _ _ h hs => h.congr (hs.files _ (.inr ⟨digest,rfl⟩))

theorem Kept.journal_of (h : Kept sha256 w) (hsame : w'.journal=w.journal)
    (hproven : w.proven ⊆ w'.proven) : ∀ j, w'.journal=some j → j.validate=.ok () ∧
      j.oldDigest∈w'.proven ∧ (j.phase=.verified → j.newDigest∈w'.proven) := by
  intro j hj
  obtain ⟨hvalid,hold,hnew⟩ := h.journal j (hsame ▸ hj)
  exact ⟨hvalid,hproven hold,fun hphase => hproven (hnew hphase)⟩

theorem Kept.spares (h : Kept sha256 w) (hs : Spares w w') : Kept sha256 w' := by
  refine ⟨h.journal_of hs.journal hs.proven,?_⟩
  obtain hstable | ⟨j,hj,hbackup⟩ := h.image
  · exact .inl (stableProven_steady w w' hstable hs.steadies)
  · refine .inr ⟨j,hs.journal.trans hj,hbackup.congr (hs.files _ (.inr ⟨j.oldDigest,?_⟩))⟩
    exact (j.validate_ok (h.journal j hj).1).1

theorem Kept.steadies (h : Kept sha256 w) (hstable : w.StableProven sha256)
    (hs : Steadies w w') : Kept sha256 w' :=
  ⟨h.journal_of hs.journal hs.proven,.inl (stableProven_steady w w' hstable hs)⟩

/-- Where no journal is, the stable image is proven. -/
theorem Kept.standing (h : Kept sha256 w) (hnone : w.journal=none) : w.StableProven sha256 := by
  obtain hstable | ⟨j,hj,-⟩ := h.image
  · exact hstable
  · rw [hnone] at hj
    cases hj

end Frames

section Calls
variable (sha256 : List UInt8 → Digest)

/-- What an action makes of the world, keeping at each of its calls what is never lost. -/
abbrev Does {α : Type} (P : World → Prop) (x : Action α) (Q : α → World → Prop)
    (E : World → Prop) : Prop := Ensures (answers sha256) (Kept sha256) P x Q E

variable {sha256} {P E : World → Prop} {name : String}

theorem does_ask {op : Op} {Q : op.Answer → World → Prop}
    (h : ∀ w r w', Kept sha256 w → P w → answers sha256 op w r w' → Kept sha256 w' ∧
      match (r : Except String op.Answer) with | .ok value => Q value w' | .error _ => E w') :
    Does sha256 P (ask op) Q E := by
  refine Triple.call h (fun r => Triple.ret (fun _ _ hQ => ?_))
  cases r with
  | ok value => exact hQ
  | error error => exact hQ

/-- The calls that only look. -/
def Op.looks : Op → Bool
  | .writeJournal _ | .deleteJournal | .writeFile _ _ | .copyFile _ _ | .replaceFile _ _
  | .deleteLeaf _ _ | .sameGeneration _ _ => false
  | _ => true

theorem Op.looks_same {op : Op} {w w' : World} {r : op.Res} (h : op.looks=true)
    (hanswer : answers sha256 op w r w') : w'=w := by
  cases op with
  | writeJournal | deleteJournal | writeFile | copyFile | replaceFile | deleteLeaf
  | sameGeneration => cases h
  | readJournal | pathExists | fileDigest | readFile => exact hanswer.1
  | _ => exact hanswer

theorem does_look (op : Op) (h : op.looks=true) : Does sha256 P (ask op) (fun _ => P) P := by
  refine does_ask (fun w r w' hkept hP hanswer => ?_)
  have hsame := op.looks_same h hanswer
  subst hsame
  exact ⟨hkept,by cases r <;> exact hP⟩

theorem does_pathExists : Does sha256 P (ask (.pathExists name)) (fun _ => P) P :=
  does_look _ rfl

theorem does_fileDigest : Does sha256 P (ask (.fileDigest name))
    (fun digest w => P w ∧ w.Holds sha256 name digest) P := by
  refine does_ask (fun w r w' hkept hP hanswer => ?_)
  obtain ⟨rfl,htruth⟩ := hanswer
  cases r with
  | ok digest => exact ⟨hkept,hP,htruth digest rfl⟩
  | error error => exact ⟨hkept,hP⟩

theorem does_readFile : Does sha256 P (ask (.readFile name))
    (fun bytes w => P w ∧ w.Holds sha256 name (sha256 bytes)) P := by
  refine does_ask (fun w r w' hkept hP hanswer => ?_)
  obtain ⟨rfl,htruth⟩ := hanswer
  cases r with
  | ok bytes =>
    obtain ⟨file,hfile,hbytes⟩ := htruth bytes rfl
    exact ⟨hkept,hP,file,hfile,hbytes ▸ rfl⟩
  | error error => exact ⟨hkept,hP⟩

/-- A file that carries nothing is written. -/
theorem does_writeFile {bytes : List UInt8} (hP : Lasting P) (hname : ¬Carries name) :
    Does sha256 P (ask (.writeFile name bytes)) (fun _ => P) P := by
  refine does_ask (fun w r w' hkept hpre hanswer => ?_)
  obtain ⟨files,rfl,hfiles,-⟩ := hanswer
  have hs : Spares w { w with files := files } := by
    refine ⟨fun n hn => hfiles n ?_,rfl,subset_rfl⟩
    rintro (rfl | htemp)
    · exact hname hn
    · exact not_carries_temp htemp hn
  exact ⟨hkept.spares hs,by cases r <;> exact hP _ _ hpre hs⟩

theorem does_copyFile {source : String} (hP : Lasting P) (hname : ¬Carries name) :
    Does sha256 P (ask (.copyFile source name)) (fun _ => P) P := by
  refine does_ask (fun w r w' hkept hpre hanswer => ?_)
  obtain ⟨files,rfl,hfiles,-⟩ := hanswer
  have hs : Spares w { w with files := files } :=
    ⟨fun n hn => hfiles n (fun heq => hname (heq ▸ hn)),rfl,subset_rfl⟩
  exact ⟨hkept.spares hs,by cases r <;> exact hP _ _ hpre hs⟩

/-- Another file than the stable image is deleted, while that is proven. -/
theorem does_deleteLeaf {expected : Option Digest} (hP : Steady P)
    (hproven : ∀ w, P w → w.StableProven sha256) (hname : name≠serviceExecutableName) :
    Does sha256 P (ask (.deleteLeaf name expected)) (fun _ => P) P := by
  refine does_ask (fun w r w' hkept hpre hanswer => ?_)
  have hs : Steadies w w' := by
    obtain ⟨rfl,-⟩ | ⟨rfl,-⟩ := hanswer
    · exact ⟨remove_other (Ne.symm hname),rfl,subset_rfl⟩
    · exact (Spares.refl w').steadies
  exact ⟨hkept.steadies (hproven w hpre) hs,by cases r <;> exact hP _ _ hpre hs⟩

theorem does_sameGeneration {processId : Nat} {image : Digest} (hP : Lasting P) :
    Does sha256 P (ask (.sameGeneration processId image))
    (fun _ w => P w ∧ image∈w.proven) P := by
  refine does_ask (fun w r w' hkept hpre hanswer => ?_)
  obtain ⟨rfl,rfl⟩ | ⟨hr,rfl⟩ := hanswer
  · have hs : Spares w { w with proven := insert image w.proven } :=
      ⟨fun _ _ => rfl,rfl,Set.subset_insert _ _⟩
    exact ⟨hkept.spares hs,hP _ _ hpre hs,Set.mem_insert _ _⟩
  · cases r with
    | ok value => exact absurd rfl hr
    | error error => exact ⟨hkept,hpre⟩

end Calls

section Service
variable {sha256 : List UInt8 → Digest} {P : World → Prop}

/-- The image at the stable path, proven. -/
def World.Stands (sha256 : List UInt8 → Digest) (w : World) (digest : Digest) : Prop :=
  w.Holds sha256 serviceExecutableName digest ∧ digest∈w.proven

theorem stands_steady {digest : Digest} : Steady (fun w => w.Stands sha256 digest) :=
  holds_stable_steady.and proven_steady

theorem World.Stands.proven {w : World} {digest : Digest} (h : w.Stands sha256 digest) :
    w.StableProven sha256 := ⟨digest,h.2,h.1⟩

theorem does_throw {α : Type} {Q : α → World → Prop} {E : World → Prop} {error : String}
    (h : ∀ w, P w → E w) : Does sha256 P (throw error) Q E := Ensures.throw (fun w _ => h w)

theorem does_pure {α : Type} {value : α} {Q : α → World → Prop} {E : World → Prop}
    (h : ∀ w, P w → Q value w) : Does sha256 P (pure value) Q E := Ensures.pure (fun w _ => h w)

theorem does_validateRunningServiceImage {expected : Digest} {processId : Nat}
    (hP : Lasting P) : Does sha256 P (validateRunningServiceImage expected processId)
      (fun _ w => P w ∧ w.Stands sha256 expected) P := by
  refine Ensures.bind (does_look _ rfl) (fun running => ?_)
  split
  · exact does_throw (fun _ h => h)
  · refine Ensures.bind (does_look _ rfl) (fun runs => ?_)
    split
    · exact does_throw (fun _ h => h)
    · refine Ensures.bind does_fileDigest (fun digest => ?_)
      split
      · exact does_throw (fun _ h => h.1)
      · next hdigest =>
        have hsame := Decidable.not_not.mp hdigest
        subst hsame
        refine (does_sameGeneration (hP.and holds_stable_steady.lasting)).conseq
          (fun _ _ h => h) ?_ (fun _ _ h => h.1)
        exact fun _ _ _ h => ⟨h.1.1,h.1.2,h.2⟩

theorem does_ensureServiceGenerationReady {expected : Digest} (hP : Lasting P) :
    Does sha256 P (ensureServiceGenerationReady expected)
      (fun _ w => P w ∧ w.Stands sha256 expected) P := by
  have hready : ∀ processId, Does sha256 P (do
      ask .validateServiceContract
      validateRunningServiceImage expected processId)
    (fun _ w => P w ∧ w.Stands sha256 expected) P :=
    fun _ => Ensures.bind (does_look _ rfl)
    (fun _ => does_validateRunningServiceImage hP)
  refine Ensures.bind (does_look _ rfl) (fun running => ?_)
  cases running with
  | some processId => exact hready processId
  | none => exact Ensures.bind (does_look _ rfl) hready

theorem does_appPathUpgradeGate : Does sha256 P appPathUpgradeGate (fun _ => P) P := by
  have hshown : Does sha256 P (do ask .retireShortcuts; ask .ensureStartEntry) (fun _ => P) P :=
    Ensures.bind (does_look _ rfl) (fun _ => does_look _ rfl)
  have hundone : Does sha256 P (ask .deleteAppPath) (fun _ => P) P :=
    does_look _ rfl
  refine Ensures.bind (does_look _ rfl) (fun created => ?_)
  refine Ensures.outcomeThen hshown (fun _ => does_pure (fun _ h => h)) (fun error => ?_)
  cases created with
  | false => exact does_throw (fun _ h => h)
  | true =>
    refine Ensures.outcomeThen hundone (fun _ => ?_) (fun _ => ?_)
    · exact does_throw (fun _ h => h)
    · exact does_throw (fun _ h => h)

theorem does_digestOrNone {name : String} : Does sha256 P (digestOrNone name)
    (fun digest w => P w ∧ (digest≠noDigest → w.Holds sha256 name digest)) P := by
  refine Ensures.bind does_pathExists (fun present => ?_)
  split
  · exact does_fileDigest.post (fun _ _ _ h => ⟨h.1,fun _ => h.2⟩)
  · exact does_pure (fun _ h => ⟨h,fun hne => absurd rfl hne⟩)

end Service

section Cleanup
variable {sha256 : List UInt8 → Digest} {P : World → Prop}

theorem does_eachName {f : String → Action Unit}
    (hf : ∀ name, Does sha256 P (f name) (fun _ => P) P)
    (entries : List (Except String (Option String))) :
    Does sha256 P (eachName f entries) (fun _ => P) P := by
  induction entries with
  | nil => exact does_pure (fun _ h => h)
  | cons entry rest ih =>
    match entry with
    | .error error => exact does_throw (fun _ h => h)
    | .ok none => exact ih
    | .ok (some name) => exact Ensures.bind (hf name) (fun _ => ih)

theorem does_cleanupUpgradeBackupTemps {backupName : String} (hP : Steady P)
    (hproven : ∀ w, P w → w.StableProven sha256) :
    Does sha256 P (cleanupUpgradeBackupTemps backupName) (fun _ => P) P := by
  refine Ensures.bind (does_look _ rfl) (does_eachName (fun name => ?_))
  rw [cleanupBackupTemp]
  split
  · next htemp =>
    refine does_deleteLeaf hP hproven ?_
    rintro rfl
    rw [atomicTempSuffix_stable] at htemp
    cases htemp
  · exact does_pure (fun _ h => h)

/-- Whatever residue is found, the stable image is none of it. -/
theorem does_cleanupUpgradeInstallResidue {keep : Option String} (hP : Steady P)
    (hproven : ∀ w, P w → w.StableProven sha256) :
    Does sha256 P (cleanupUpgradeInstallResidue keep) (fun _ => P) P := by
  refine Ensures.bind (does_look _ rfl) (does_eachName (fun name => ?_))
  rw [cleanupResidueName]
  by_cases hkeep : keep=some name
  · rw [if_pos hkeep]
    exact does_pure (fun _ h => h)
  rw [if_neg hkeep]
  by_cases hstable : name=serviceExecutableName
  · subst hstable
    rw [stable_not_staged,stable_not_rollback,stable_not_temp]
    exact does_pure (fun _ h => h)
  split
  · exact does_deleteLeaf hP hproven hstable
  · split
    · exact does_deleteLeaf hP hproven hstable
    · split
      · exact does_pure (fun _ h => h)
      · split
        · exact does_deleteLeaf hP hproven hstable
        · exact does_pure (fun _ h => h)

end Cleanup

section Journal
variable {sha256 : List UInt8 → Digest} {P : World → Prop} {j : UpgradeJournalV1} {w : World}

theorem validate_digests (h : j.validate=.ok ()) : j.oldDigest≠noDigest ∧ j.newDigest≠noDigest := by
  rw [UpgradeJournalV1.validate] at h
  split at h
  · cases h
  · next hok =>
    simp only [Bool.or_eq_true,not_or,beq_iff_eq] at hok
    exact ⟨hok.1.1.1.2,hok.1.1.2⟩

/-- The journal on disk is this one, at some phase. -/
def World.Recorded (w : World) (j : UpgradeJournalV1) : Prop :=
  ∃ phase, w.journal=some { j with phase := phase }

def World.Backed (sha256 : List UInt8 → Digest) (w : World) (j : UpgradeJournalV1) : Prop :=
  w.Holds sha256 (upgradeBackupName j.oldDigest) j.oldDigest

/-- The journal on disk is this one, at some phase, and its backup is there. -/
def World.Undoable (sha256 : List UInt8 → Digest) (w : World) (j : UpgradeJournalV1) : Prop :=
  w.Recorded j ∧ w.Backed sha256 j

theorem recorded_of (h : w.journal=some j) : w.Recorded j := ⟨j.phase,h⟩

theorem recorded_steady : Steady (fun w => w.Recorded j) :=
  fun _ _ ⟨phase,h⟩ hs => ⟨phase,hs.journal.trans h⟩

theorem undoable_lasting : Lasting (fun w => w.Undoable sha256 j) :=
  recorded_steady.lasting.and backup_lasting

theorem Kept.recorded (h : Kept sha256 w) (hj : w.Recorded j) : j.oldDigest∈w.proven := by
  obtain ⟨phase,hj⟩ := hj
  exact (h.journal _ hj).2.1

/-- A predicate that does not look at the journal. -/
def Unjournaled (P : World → Prop) : Prop := ∀ w found, P w → P { w with journal := found }

theorem Unjournaled.and {P' : World → Prop} (h : Unjournaled P) (h' : Unjournaled P') :
    Unjournaled (fun w => P w ∧ P' w) := fun w found hP => ⟨h w found hP.1,h' w found hP.2⟩

theorem stands_unjournaled {digest : Digest} : Unjournaled (fun w => w.Stands sha256 digest) :=
  fun _ _ h => h

theorem backed_unjournaled : Unjournaled (fun w => w.Backed sha256 j) := fun _ _ h => h

theorem proven_unjournaled {digest : Digest} : Unjournaled (fun w => digest∈w.proven) :=
  fun _ _ h => h

theorem does_readUpgradeJournal : Does sha256 P readUpgradeJournal
    (fun found w => (∀ j, found=some j → j.validate=.ok ()) ∧ w.journal=found ∧ P w) P := by
  have hread : Does sha256 P (ask .readJournal) (fun found w => w.journal=found ∧ P w) P := by
    refine does_ask (fun w r w' hkept hP hanswer => ?_)
    obtain ⟨rfl,htruth⟩ := hanswer
    cases r with
    | ok found => exact ⟨hkept,(htruth found rfl).symm,hP⟩
    | error error => exact ⟨hkept,hP⟩
  refine Ensures.bind hread (fun found => ?_)
  cases found with
  | none => exact does_pure (fun _ h => ⟨nofun,h⟩)
  | some j =>
    cases hvalid : j.validate with
    | error error =>
      simp only [hvalid]
      exact does_throw (fun _ h => h.2)
    | ok value =>
      simp only [hvalid]
      refine does_pure (fun _ h => ⟨?_,h⟩)
      rintro _ ⟨⟩
      exact hvalid

/-- A journal may be written when what it promises is there. -/
theorem does_writeUpgradeJournal {R : Option UpgradeJournalV1 → Prop} (hR : R (some j))
    (hP : Unjournaled P) (hbacked : ∀ w, P w → w.Backed sha256 j)
    (hold : ∀ w, P w → j.oldDigest∈w.proven)
    (hnew : ∀ w, P w → j.phase=.verified → j.newDigest∈w.proven) :
    Does sha256 (fun w => P w ∧ R w.journal) (writeUpgradeJournal j)
      (fun _ w => P w ∧ w.journal=some j) (fun w => P w ∧ R w.journal) := by
  rw [writeUpgradeJournal]
  cases hvalid : j.validate with
  | error error => exact does_throw (fun _ h => h)
  | ok value =>
    refine does_ask (fun w r w' hkept hpre hanswer => ?_)
    obtain rfl | ⟨hr,rfl⟩ := hanswer
    · have hkept' : Kept sha256 { w with journal := some j } := by
        refine ⟨?_,.inr ⟨j,rfl,?_⟩⟩
        · rintro _ ⟨⟩
          exact ⟨hvalid,hold w hpre.1,hnew w hpre.1⟩
        · rw [(j.validate_ok hvalid).1]
          exact hbacked w hpre.1
      refine ⟨hkept',?_⟩
      cases r with
      | ok value => exact ⟨hP _ _ hpre.1,rfl⟩
      | error error => exact ⟨hP _ _ hpre.1,hR⟩
    · cases r with
      | ok value => exact absurd rfl hr
      | error error => exact ⟨hkept,hpre⟩

theorem does_deleteJournal (hP : Unjournaled P) (hproven : ∀ w, P w → w.StableProven sha256) :
    Does sha256 P (ask .deleteJournal) (fun _ w => P w ∧ w.journal=none) (fun _ => True) := by
  refine does_ask (fun w r w' hkept hpre hanswer => ?_)
  obtain rfl | ⟨hr,rfl⟩ := hanswer
  · have hkept' : Kept sha256 { w with journal := none } := ⟨nofun,.inl (hproven w hpre)⟩
    refine ⟨hkept',?_⟩
    cases r with
    | ok value => exact ⟨hP _ _ hpre,rfl⟩
    | error error => trivial
  · cases r with
    | ok value => exact absurd rfl hr
    | error error => exact ⟨hkept,trivial⟩

end Journal

end BatCave.CollectorService.Upgrade
