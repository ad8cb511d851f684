import Mathlib.Tactic.Cases
import BatCave.Lib.Result
import BatCave.Lib.SemVer

/-! The names of the files that an upgrade of the collector service moves. The recogniser of
staged names is held against the grammar of versions. -/
namespace BatCave.CollectorService
open BatCave.Lib.Text BatCave.Lib.SemVer

def upgradeJournalSchemaVersion : Nat := 1

inductive UpgradePhase where
  | prepared | candidateInstalled | verified
  deriving DecidableEq, Repr

structure UpgradeJournalV1 where
  schemaVersion : Nat
  phase : UpgradePhase
  oldDigest : Vector UInt8 32
  newDigest : Vector UInt8 32
  backupName : String
  stagedName : String
  deriving DecidableEq, Repr

def upgradeBackupName (digest : Vector UInt8 32) : String :=
  "batcave-collector-service."++hex digest.toList++".rollback.exe"

def validNumericIdentifier (value : List Char) : Bool :=
  !value.isEmpty && value.all Char.isDigit && (value==['0'] || value.head? != some '0')

def validIdentifiers (value : List Char) (rejectNumericLeadingZero : Bool) : Bool :=
  !value.isEmpty && (value.splitOn '.').all (fun identifier =>
    !identifier.isEmpty && identifier.all (fun c => c.isAlphanum || c == '-') &&
      (!rejectNumericLeadingZero || !identifier.all Char.isDigit ||
        validNumericIdentifier identifier))

/-- What `split_once` leaves of a text that may lack the separator. -/
def cutAt (sep : Char) (value : List Char) : List Char × Option (List Char) :=
  match splitOnce sep value with
  | some (front,back) => (front,some back)
  | none => (value,none)

/-- The part of `is_semver` about the three numbers. -/
def validCore (core : List Char) : Bool :=
  match core.splitOn '.' with
  | [major,minor,patch] => [major,minor,patch].all validNumericIdentifier
  | _ => false

/-- The part of `is_semver` behind the build. -/
def validWithoutBuild (withoutBuild : List Char) : Bool :=
  let (core,prerelease) := cutAt '-' withoutBuild
  if prerelease.any (fun value => !validIdentifiers value true) then false else validCore core

def isSemver (version : List Char) : Bool :=
  let (withoutBuild,build) := cutAt '+' version
  if 1 < version.count '+' || build.any (fun value => !validIdentifiers value false) then false
  else validWithoutBuild withoutBuild

def recoveryAlias : String := "batcave-collector-service.recovery.exe"

def isStagedUpgradeName (name : String) : Bool :=
  if name=recoveryAlias then true
  else
    match (name.toList.dropPrefix? "batcave-collector-service.".toList).bind (fun name =>
      name.dropSuffix? ".staged.exe".toList) with
    | none => false
    | some version => isSemver version

/-- `UpgradeJournalV1::validate` -/
def UpgradeJournalV1.validate (journal : UpgradeJournalV1) : Except String Unit :=
  if journal.schemaVersion≠upgradeJournalSchemaVersion ||
      journal.oldDigest==Vector.replicate 32 0 || journal.newDigest==Vector.replicate 32 0 ||
      journal.backupName≠upgradeBackupName journal.oldDigest ||
      !isStagedUpgradeName journal.stagedName then
    .error "collector_service_upgrade_journal_invalid"
  else .ok ()

/-- The name stays in its directory: no separator, no drive, no control or foreign character,
and no step upwards. -/
structure StaysInDirectory (name : String) : Prop where
  chars : ∀ c∈name.toList, c ≠ '/' ∧ c ≠ '\\' ∧ c ≠ ':' ∧ isControl c=false ∧ c.toNat < 128
  dots : ¬['.','.'] <:+: name.toList

section Semver
variable {value : List Char}

theorem validNumericIdentifier_iff : validNumericIdentifier value=true ↔
    NumericIdentifier value := by
  cases value with
  | nil => simp [validNumericIdentifier,NumericIdentifier]
  | cons d ds =>
    by_cases hzero : d= '0'
    · subst hzero
      cases ds with
      | nil => simp [validNumericIdentifier,NumericIdentifier]
      | cons e es => simp [validNumericIdentifier,NumericIdentifier]
    · simp [validNumericIdentifier,NumericIdentifier,hzero]

theorem identifier_iff : (!value.isEmpty && value.all (fun c => c.isAlphanum || c == '-'))=true ↔
    BuildIdentifier value := by
  cases value <;> simp [BuildIdentifier,IdentifierChar]

/-- Identifiers of a pre-release are those of a build whose numbers have no leading zero. -/
theorem preReleaseIdentifier_iff : PreReleaseIdentifier value ↔
    BuildIdentifier value ∧ (value.all Char.isDigit=false ∨ NumericIdentifier value) := by
  constructor
  · intro h
    refine ⟨h.buildIdentifier,?_⟩
    cases h with
    | inr hnumeric => exact .inr hnumeric
    | inl halpha =>
      obtain ⟨c,hc,hdigit⟩ := halpha.2
      exact .inl (List.all_eq_false.mpr ⟨c,hc,by simp [hdigit]⟩)
  · intro ⟨hbuild,hkind⟩
    cases hkind with
    | inr hnumeric => exact .inr hnumeric
    | inl hletter =>
      obtain ⟨c,hc,hdigit⟩ := List.all_eq_false.mp hletter
      exact .inl ⟨hbuild.2,c,hc,by simpa using hdigit⟩

/-- A check of every piece between dots, none of which may be empty. -/
theorem pieces_iff {check : List Char → Bool} {P : List Char → Prop}
    (hcheck : ∀ piece, check piece=true ↔ P piece) (hP : ∀ piece, P piece → BuildIdentifier piece) :
    (!value.isEmpty && (value.splitOn '.').all check)=true ↔ Dotted P value := by
  rw [Dotted.iff_splitOn (fun piece h => (hP piece h).no_dot),Bool.and_eq_true,List.all_eq_true]
  simp only [hcheck]
  refine and_iff_right_of_imp ?_
  intro hpieces
  cases value with
  | nil => exact absurd rfl (hP [] (hpieces [] (by simp))).1
  | cons c cs => rfl

theorem validIdentifiers_build : validIdentifiers value false=true ↔
    Dotted BuildIdentifier value := by
  refine pieces_iff ?_ (fun _ h => h)
  intro piece
  rw [Bool.not_false,Bool.true_or,Bool.true_or,Bool.and_true]
  exact identifier_iff

theorem validIdentifiers_prerelease : validIdentifiers value true=true ↔
    Dotted PreReleaseIdentifier value := by
  refine pieces_iff ?_ (fun _ h => h.buildIdentifier)
  intro piece
  rw [Bool.not_true,Bool.false_or,Bool.and_eq_true,identifier_iff,preReleaseIdentifier_iff,
    Bool.or_eq_true,Bool.not_eq_true',validNumericIdentifier_iff]

theorem validCore_iff : validCore value=true ↔ VersionCore value := by
  rw [versionCore_iff,validCore]
  split
  · next major minor patch hsplit =>
    simp [hsplit,validNumericIdentifier_iff,and_assoc]
  · next hother =>
    constructor
    · intro h
      cases h
    · intro ⟨major,minor,patch,hsplit,_⟩
      exact absurd hsplit (hother major minor patch)

variable {sep : Char} {front back : List Char}

theorem cutAt_cases (sep : Char) (value : List Char) :
    (sep∉value ∧ cutAt sep value=(value,none)) ∨
      ∃ front back, value=front++sep::back ∧ sep∉front ∧ cutAt sep value=(front,some back) := by
  cases hcut : splitOnce sep value with
  | none => exact .inl ⟨splitOnce_eq_none.mp hcut,by rw [cutAt,hcut]⟩
  | some parts =>
    obtain ⟨hsplit,hfront⟩ := splitOnce_eq_some.mp hcut
    exact .inr ⟨parts.1,parts.2,hsplit,hfront,by rw [cutAt,hcut]⟩

/-- A core and perhaps a pre-release. -/
theorem validWithoutBuild_iff : validWithoutBuild value=true ↔
    VersionCore value ∨ ∃ core pre, value=core++ '-'::pre ∧ VersionCore core ∧
      Dotted PreReleaseIdentifier pre := by
  rw [validWithoutBuild]
  obtain ⟨hnone,hcut⟩ | ⟨core,pre,rfl,hcore,hcut⟩ := cutAt_cases '-' value
  · simp only [hcut,Option.any_none,Bool.false_eq_true,if_false,validCore_iff]
    refine ⟨.inl,fun h => h.resolve_right ?_⟩
    intro ⟨core,pre,hsplit,_⟩
    exact hnone (by simp [hsplit])
  · simp only [hcut,Option.any_some]
    cases hvalid : validIdentifiers pre true with
    | false =>
      simp only [Bool.not_false,if_true,Bool.false_eq_true,false_iff,not_or]
      refine ⟨fun h => h.no_hyphen (by simp),?_⟩
      intro ⟨core',pre',hsplit,hversion,hpre⟩
      obtain ⟨_,rfl⟩ := append_cons_inj_left hcore hversion.no_hyphen hsplit
      rw [validIdentifiers_prerelease.mpr hpre] at hvalid
      cases hvalid
    | true =>
      simp only [Bool.not_true,Bool.false_eq_true,if_false,validCore_iff]
      constructor
      · intro hversion
        exact .inr ⟨core,pre,rfl,hversion,validIdentifiers_prerelease.mp hvalid⟩
      · intro h
        cases h with
        | inl hversion => exact absurd (by simp) hversion.no_hyphen
        | inr h =>
          obtain ⟨core',pre',hsplit,hversion,_⟩ := h
          obtain ⟨rfl,_⟩ := append_cons_inj_left hcore hversion.no_hyphen hsplit
          exact hversion

theorem no_plus_withoutBuild (h : validWithoutBuild value=true) : '+' ∉ value := by
  cases validWithoutBuild_iff.mp h with
  | inl hcore => exact no_plus_of_dotted hcore.dotted (fun _ h => h.buildIdentifier)
  | inr h =>
    obtain ⟨core,pre,rfl,hcore,hpre⟩ := h
    have hfront := no_plus_of_dotted hcore.dotted (fun _ h => h.buildIdentifier)
    have hback := no_plus_of_dotted hpre (fun _ h => h.buildIdentifier)
    simp [hfront,hback]

/-- What `is_semver` answers with a build and without one. -/
theorem isSemver_parts : isSemver value=true ↔ validWithoutBuild value=true ∨
    ∃ front build, value=front++ '+'::build ∧ validWithoutBuild front=true ∧
      Dotted BuildIdentifier build := by
  rw [isSemver]
  obtain ⟨hnone,hcut⟩ | ⟨front,build,rfl,hfront,hcut⟩ := cutAt_cases '+' value
  · have hcount : value.count '+'=0 := List.count_eq_zero.mpr hnone
    simp only [hcut,hcount,Option.any_none,Bool.or_false,Nat.not_lt_zero,decide_false,
      Bool.false_eq_true,if_false]
    refine ⟨.inl,fun h => h.resolve_right ?_⟩
    intro ⟨front,build,hsplit,_⟩
    exact hnone (by simp [hsplit])
  · have hwhole : validWithoutBuild (front++ '+'::build)=false := by
      rw [← Bool.not_eq_true]
      exact fun h => no_plus_withoutBuild h (by simp)
    have hcount : (front++ '+'::build).count '+'=build.count '+'+1 := by
      rw [List.count_append,List.count_eq_zero.mpr hfront,List.count_cons_self,Nat.zero_add]
    simp only [hcut,hcount,hwhole,Option.any_some,Bool.false_eq_true,false_or]
    constructor
    · intro h
      split at h
      · cases h
      · next hok =>
        rw [Bool.or_eq_true,not_or,Bool.not_eq_true',Bool.not_eq_false] at hok
        exact ⟨front,build,rfl,h,validIdentifiers_build.mp hok.2⟩
    · intro ⟨front',build',hsplit,hversion,hbuild⟩
      obtain ⟨rfl,rfl⟩ := append_cons_inj_left hfront (no_plus_withoutBuild hversion) hsplit
      have hzero : build.count '+'=0 :=
        List.count_eq_zero.mpr (no_plus_of_dotted hbuild fun _ h => h)
      simp [hzero,validIdentifiers_build.mpr hbuild,hversion]

/-- The recogniser accepts the grammar and nothing else. -/
theorem isSemver_iff : isSemver value=true ↔ ValidSemver value := by
  rw [isSemver_parts]
  constructor
  · intro h
    obtain hplain | ⟨front,build,rfl,hfront,hbuild⟩ := h
    · obtain hcore | ⟨core,pre,rfl,hcore,hpre⟩ := validWithoutBuild_iff.mp hplain
      · exact .core hcore
      · exact .prerelease hcore hpre
    · obtain hcore | ⟨core,pre,rfl,hcore,hpre⟩ := validWithoutBuild_iff.mp hfront
      · exact .build hcore hbuild
      · exact .prereleaseBuild hcore hpre hbuild
  · intro h
    cases h with
    | core hcore => exact .inl (validWithoutBuild_iff.mpr (.inl hcore))
    | prerelease hcore hpre =>
      exact .inl (validWithoutBuild_iff.mpr (.inr ⟨_,_,rfl,hcore,hpre⟩))
    | build hcore hbuild =>
      exact .inr ⟨_,_,rfl,validWithoutBuild_iff.mpr (.inl hcore),hbuild⟩
    | prereleaseBuild hcore hpre hbuild =>
      exact .inr ⟨_,_,rfl,validWithoutBuild_iff.mpr (.inr ⟨_,_,rfl,hcore,hpre⟩),hbuild⟩

end Semver

section Names
variable {name : String}

theorem isStagedUpgradeName_iff : isStagedUpgradeName name=true ↔ name=recoveryAlias ∨
    ∃ version, ValidSemver version ∧
      name="batcave-collector-service."++String.ofList version++".staged.exe" := by
  have hstrip : ∀ version, (name.toList.dropPrefix? "batcave-collector-service.".toList).bind
      (fun name => name.dropSuffix? ".staged.exe".toList)=some version ↔
      name="batcave-collector-service."++String.ofList version++".staged.exe" := by
    intro version
    simp only [Option.bind_eq_some_iff,List.dropPrefix?_eq_some_iff,List.dropSuffix?_eq_some_iff,
      beq_iff_eq]
    constructor
    · intro ⟨rest,⟨front,hname,hfront⟩,back,hrest,hback⟩
      subst hfront hback hrest
      rw [← String.toList_inj,hname]
      simp [String.toList_append]
    · intro hname
      refine ⟨version++".staged.exe".toList,⟨_,?_,rfl⟩,_,rfl,rfl⟩
      simp [hname,String.toList_append]
  rw [isStagedUpgradeName]
  by_cases halias : name=recoveryAlias
  · simp [halias]
  · rw [if_neg halias]
    simp only [halias,false_or,← hstrip]
    cases (name.toList.dropPrefix? "batcave-collector-service.".toList).bind
        (fun name => name.dropSuffix? ".staged.exe".toList) with
    | none => simp
    | some version => simp [isSemver_iff,and_comm]

theorem isAlphanum_bounds {c : Char} (h : c.isAlphanum=true) : 48 ≤ c.toNat ∧ c.toNat < 123 := by
  have hval : ((decide (c.val ≥ 65 ∧ c.val ≤ 90) || (c.val ≥ 97 && c.val ≤ 122)) ||
      (c.val ≥ 48 && c.val ≤ 57))=true := h
  simp only [Bool.or_eq_true,Bool.and_eq_true,decide_eq_true_eq,ge_iff_le,
    UInt32.le_iff_toNat_le,UInt32.toNat_ofNat] at hval
  rw [Char.toNat]
  omega

theorem plain_char {c : Char} (h : IdentifierChar c ∨ c= '+') :
    c ≠ '.' ∧ c ≠ '/' ∧ c ≠ '\\' ∧ c ≠ ':' ∧ isControl c=false ∧ c.toNat < 128 := by
  rw [IdentifierChar] at h
  obtain (halnum | rfl) | rfl := h
  · have hbounds := isAlphanum_bounds halnum
    have hne : ∀ d : Char, d.isAlphanum=false → c ≠ d := by
      intro d hd hcd
      rw [hcd,hd] at halnum
      cases halnum
    refine ⟨hne _ rfl,hne _ rfl,hne _ rfl,hne _ rfl,?_,by omega⟩
    simp only [isControl,Bool.or_eq_false_iff,Bool.and_eq_false_iff,decide_eq_false_iff_not]
    omega
  · decide
  · decide

/-- Plain pieces between dots keep a name in its directory. -/
theorem staysInDirectory_of_dotted (h : Dotted Plain name.toList) : StaysInDirectory name := by
  refine ⟨?_,h.no_two_dots ?_⟩
  · exact h.chars (fun piece hpiece c hc => (plain_char (hpiece.2 c hc)).2) (by decide)
  · exact fun piece hpiece => ⟨hpiece.1,fun hdot => (plain_char (hpiece.2 _ hdot)).1 rfl⟩

theorem plain_of_alphanum {piece : List Char} (hne : piece≠[])
    (h : ∀ c∈piece, c.isAlphanum=true ∨ c= '-') : Plain piece :=
  ⟨hne,fun c hc => .inl (h c hc)⟩

theorem plain_of_all {piece : List Char} (hne : piece≠[])
    (h : piece.all (fun c => c.isAlphanum || c== '-')=true) : Plain piece :=
  plain_of_alphanum hne (fun c hc => by simpa using List.all_eq_true.mp h c hc)

theorem hexDigits_alphanum (bytes : List UInt8) : ∀ c∈hexDigits bytes, c.isAlphanum=true := by
  have hdigit : ∀ i : Fin 16, (Nat.digitChar i).isAlphanum=true := by decide
  intro c hc
  rw [hexDigits,List.mem_flatMap] at hc
  obtain ⟨b,_,hb⟩ := hc
  have hbyte := b.toNat_lt
  simp only [List.mem_cons,List.not_mem_nil,or_false] at hb
  obtain rfl | rfl := hb
  · exact hdigit ⟨b.toNat/16,by omega⟩
  · exact hdigit ⟨b.toNat%16,by omega⟩

/-- What stands between the two fixed parts of a name is plain, and so is the name. -/
theorem dotted_between {middle : List Char} {kind : String} (h : Dotted Plain middle)
    (hkind : Plain kind.toList) :
    Dotted Plain
      ("batcave-collector-service."++String.ofList middle++"."++kind++".exe").toList := by
  have hservice : Dotted Plain "batcave-collector-service".toList :=
    .one (plain_of_all (by decide) (by decide))
  have hsuffix : Dotted Plain "exe".toList := .one (plain_of_all (by decide) (by decide))
  have hwhole := (hservice.append h).append (Dotted.append (.one hkind) hsuffix)
  simpa [String.toList_append] using hwhole

theorem upgradeBackupName_stays (digest : Vector UInt8 32) :
    StaysInDirectory (upgradeBackupName digest) := by
  have hlength : digest.toList.length=32 := digest.length_toList
  have hne : hexDigits digest.toList≠[] := by
    generalize digest.toList=bytes at hlength
    cases bytes with
    | nil => cases hlength
    | cons b bs => simp [hexDigits]
  have hhex : Dotted Plain (hexDigits digest.toList) :=
    .one (plain_of_alphanum hne (fun c hc => .inl (hexDigits_alphanum _ c hc)))
  have hkind : Plain "rollback".toList := plain_of_all (by decide) (by decide)
  have hname := dotted_between hhex hkind
  refine staysInDirectory_of_dotted ?_
  unfold upgradeBackupName hex
  generalize hexDigits digest.toList=middle at hname
  simpa using hname

theorem isStagedUpgradeName_stays (h : isStagedUpgradeName name=true) : StaysInDirectory name := by
  refine staysInDirectory_of_dotted ?_
  obtain rfl | ⟨version,hversion,rfl⟩ := isStagedUpgradeName_iff.mp h
  · have hfirst : Plain "batcave-collector-service".toList :=
      plain_of_all (by decide) (by decide)
    have hsecond : Plain "recovery".toList := plain_of_all (by decide) (by decide)
    have hlast : Plain "exe".toList := plain_of_all (by decide) (by decide)
    exact .more hfirst (.more hsecond (.one hlast))
  · have hkind : Plain "staged".toList := plain_of_all (by decide) (by decide)
    simpa using dotted_between hversion.dotted hkind

end Names

theorem UpgradeJournalV1.validate_ok {journal : UpgradeJournalV1} (h : journal.validate=.ok ()) :
    journal.backupName=upgradeBackupName journal.oldDigest ∧
      isStagedUpgradeName journal.stagedName=true := by
  rw [UpgradeJournalV1.validate] at h
  split at h
  · cases h
  · next hok =>
    simp only [Bool.or_eq_true,not_or,decide_eq_true_eq,Decidable.not_not,Bool.not_eq_true',
      Bool.not_eq_false] at hok
    exact ⟨hok.1.2,hok.2⟩

/-- Staged names are the alias and the versions of the grammar, and a journal that passes its
check names files of the install directory only. -/
theorem staged_names_are_versions :
    (∀ name, isStagedUpgradeName name=true ↔ name=recoveryAlias ∨
      ∃ version, ValidSemver version ∧
        name="batcave-collector-service."++String.ofList version++".staged.exe") ∧
    ∀ journal : UpgradeJournalV1, journal.validate=.ok () →
      StaysInDirectory journal.backupName ∧ StaysInDirectory journal.stagedName := by
  refine ⟨fun _ => isStagedUpgradeName_iff,?_⟩
  intro journal h
  obtain ⟨hbackup,hstaged⟩ := journal.validate_ok h
  exact ⟨hbackup ▸ upgradeBackupName_stays journal.oldDigest,isStagedUpgradeName_stays hstaged⟩

def releaseJournal : UpgradeJournalV1 where
  schemaVersion := 1
  phase := .prepared
  oldDigest := Vector.replicate 32 1
  newDigest := Vector.replicate 32 2
  backupName := upgradeBackupName (Vector.replicate 32 1)
  stagedName := "batcave-collector-service.0.2.0-rc.2+build.7.staged.exe"

theorem release_journal_accepted : releaseJournal.validate=.ok () := by
  have hstaged : isStagedUpgradeName releaseJournal.stagedName=true :=
    isStagedUpgradeName_iff.mpr (.inr ⟨"0.2.0-rc.2+build.7".toList,isSemver_iff.mp (by decide),rfl⟩)
  rw [UpgradeJournalV1.validate,hstaged]
  have hold : (releaseJournal.oldDigest==Vector.replicate 32 0)=false := by decide
  have hnew : (releaseJournal.newDigest==Vector.replicate 32 0)=false := by decide
  rw [hold,hnew]
  simp [releaseJournal,upgradeJournalSchemaVersion]

theorem release_journal_stays : StaysInDirectory releaseJournal.backupName ∧
    StaysInDirectory releaseJournal.stagedName :=
  staged_names_are_versions.2 releaseJournal release_journal_accepted

end BatCave.CollectorService
