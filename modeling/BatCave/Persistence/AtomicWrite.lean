import Mathlib.Algebra.Ring.Nat
import BatCave.Lib.Files

/-! A file is written as a whole: the payload goes to a new file beside the target, and that file
takes the place of the target. What the file system answers at each step is given; a rename
happens or does not.
NOT a statement about what a loss of power leaves behind. -/
namespace BatCave.Persistence.AtomicWrite
open BatCave.Lib.Files

inductive AtomicWriteOperation where
  | createDirectory | setPermissions | createTemporary | write | syncFile | replace | rename
  | syncDirectory
  deriving DecidableEq, Repr

inductive AtomicWriteEffect where
  | notCommitted | committedDurabilityUncertain
  deriving DecidableEq, Repr

inductive Platform where
  | unix | windows
  deriving DecidableEq, Repr

section Paths

/-- `OsStr`: a text, or bytes that are none. -/
inductive OsName where
  | text (s : String)
  | other (bytes : List UInt8)
  deriving DecidableEq, Repr

def OsName.toStr : OsName → Option String
  | .text s => some s
  | .other _ => none

inductive Component where
  | root | currentDir | parentDir
  | normal (name : OsName)
  deriving DecidableEq, Repr

abbrev Path := List Component

def Path.parent (p : Path) : Option Path :=
  match p.getLast? with
  | none => none
  | some .root => none
  | some _ => some p.dropLast

def Path.fileName (p : Path) : Option OsName :=
  match p.getLast? with
  | some (.normal name) => some name
  | _ => none

/-- `Path::join` with a name that has no separator. -/
def Path.join (p : Path) (leaf : String) : Path := p++[.normal (.text leaf)]

end Paths

inductive ErrorKind where
  | invalidInput | alreadyExists | uncategorized
  deriving DecidableEq, Repr

inductive IoError where
  | new (kind : ErrorKind) (message : String)
  | fromRawOsError (code : Nat)
  deriving DecidableEq, Repr

/-- `io::Error::kind`, as far as a new file asks for it. -/
def IoError.kind (platform : Platform) : IoError → ErrorKind
  | .new kind _ => kind
  | .fromRawOsError code =>
    match platform,code with
    | .unix,17 | .windows,80 | .windows,183 => .alreadyExists
    | _,_ => .uncategorized

structure AtomicWriteError where
  operation : AtomicWriteOperation
  effect : AtomicWriteEffect
  path : Path
  error : IoError
  deriving DecidableEq, Repr

def AtomicWriteError.new (operation : AtomicWriteOperation) (path : Path) (error : IoError) :
    AtomicWriteError := ⟨operation,.notCommitted,path,error⟩

def AtomicWriteError.committedDurabilityUncertain (operation : AtomicWriteOperation) (path : Path)
    (error : IoError) : AtomicWriteError := ⟨operation,.committedDurabilityUncertain,path,error⟩

/-- Who may do what with a file; `none` is what the directory hands down. -/
structure Attributes where
  mode : Option Nat := none
  owner : Option String := none
  deriving DecidableEq, Repr

structure World where
  files : Disk Path Attributes
  /-- The directories, with their modes. -/
  directories : Path → Option Nat
  /-- `TEMP_SEQUENCE` -/
  sequence : Nat
  /-- The files that were opened for writing. -/
  opened : List Path
  /-- The files that were asked to be removed. -/
  removed : List Path

/-- What the file system answers during one write. -/
structure Answers where
  parentExists : Bool := true
  createDirectory : Option IoError := none
  /-- How many directories on the way to the parent come to be before an error. -/
  created : Nat := 0
  directoryMode : Nat := 0o755
  setPermissions : Option IoError := none
  /-- At each attempt to create the temporary, counted from the last. -/
  create : Nat → Option IoError := fun _ => none
  /-- An error, and how much of the payload was written before it. -/
  write : Option (Nat × IoError) := none
  syncFile : Option IoError := none
  rename : Option IoError := none
  /-- At each call of `MoveFileEx`, counted from the last. -/
  moveFile : Nat → Option Nat := fun _ => none
  syncDirectory : Option IoError := none
  removeFile : Option IoError := none

section Calls
variable (a : Answers) (w : World)

def ancestors (p : Path) : List Path := (List.range p.length).map (fun n => p.take (n+1))

/-- `fs::create_dir_all` -/
def createDirAll (parent : Path) : Option IoError × World :=
  let reached := if a.createDirectory=none then ancestors parent
    else (ancestors parent).take a.created
  (a.createDirectory,
    { w with directories := fun q =>
        if q∈reached ∧ w.directories q=none ∧ w.files q=none then some a.directoryMode
        else w.directories q })

/-- `fs::set_permissions` of a directory. -/
def setPermissions (directory : Path) (mode : Nat) : Option IoError × World :=
  match a.setPermissions with
  | some error => (some error,w)
  | none => (none,{ w with directories := Function.update w.directories directory (some mode) })

/-- `OpenOptions::open` with `create_new`: nothing that exists is opened. -/
def createNew (platform : Platform) (answer : Option IoError) (p : Path) :
    Option IoError × World :=
  if w.files p≠none ∨ w.directories p≠none then
    (some (.fromRawOsError (match platform with | .unix => 17 | .windows => 80)),w)
  else
    match answer with
    | some error => (some error,w)
    | none =>
      (none,{ w with
        files := w.files.put p
          ⟨[],{ mode := match platform with | .unix => some 0o600 | .windows => none }⟩
        opened := w.opened++[p] })

/-- `write_all` to an open file: an error may leave a part of the payload in it. -/
def writeAll (p : Path) (payload : List UInt8) : Option IoError × World :=
  let written := match a.write with | some (count,_) => payload.take count | none => payload
  (a.write.map Prod.snd,
    { w with files := w.files.modify p (fun file => { file with bytes := file.bytes++written }) })

/-- `fs::remove_file`, whose result nobody reads. -/
def removeFile (p : Path) : World :=
  { w with
    files := match a.removeFile with | some _ => w.files | none => w.files.remove p
    removed := w.removed++[p] }

end Calls

section Write
variable (platform : Platform) (pid : Nat) (a : Answers)

def tempPath (path : Path) (sequence : Nat) : Path :=
  let name := (path.fileName.bind OsName.toStr).getD "data.json"
  -- the parent was checked before
  (path.parent.getD []).join (name++"."++Nat.repr pid++"."++Nat.repr sequence++".tmp")

/-- The attempts of `create_temp_file` that are left. -/
def createTempFileLoop (path : Path) : Nat → World → Except AtomicWriteError Path × World
  | 0,w => (.error (.new .createTemporary path (.new .alreadyExists "temporary name exhausted")),w)
  | left+1,w =>
    let temp := tempPath pid path w.sequence
    let w := { w with sequence := (w.sequence+1)%2^64 }
    match createNew w platform (a.create left) temp with
    | (none,w) => (.ok temp,w)
    | (some error,w) =>
      if error.kind platform=.alreadyExists then createTempFileLoop path left w
      else (.error (.new .createTemporary temp error),w)

def createTempFile (path : Path) : World → Except AtomicWriteError Path × World :=
  createTempFileLoop platform pid a path 128

/-- The retries of `MoveFileEx` that are left: one is made while the file is in use. -/
def moveFileLoop (temp target : Path) : Nat → World → Except AtomicWriteError Unit × World
  | left,w =>
    match a.moveFile left with
    | none => (.ok (),{ w with files := w.files.rename temp target })
    | some code =>
      match left with
      | 0 => (.error (.new .replace target (.fromRawOsError code)),w)
      | left+1 =>
        if code=5 ∨ code=32 then moveFileLoop temp target left w
        else (.error (.new .replace target (.fromRawOsError code)),w)

def replaceFile (temp target : Path) (w : World) : Except AtomicWriteError Unit × World :=
  match platform with
  | .windows => moveFileLoop a temp target 49 w
  | .unix =>
    match a.rename with
    | some error => (.error (.new .rename target error),w)
    | none =>
      let w := { w with files := w.files.rename temp target }
      if target.parent=none then
        (.error (.new .syncDirectory target (.new .invalidInput "missing parent directory")),w)
      else
        match a.syncDirectory with
        | some error => (.error (.committedDurabilityUncertain .syncDirectory target error),w)
        | none => (.ok (),w)

/-- What is done with a temporary before it is written: only its attributes can change. -/
abbrev Prepare := Path → Attributes → Option IoError × Attributes

abbrev Replacer := Path → Path → World → Except AtomicWriteError Unit × World

def prepareTemp (prepare : Prepare) (temp : Path) (w : World) : Option IoError × World :=
  match w.files temp with
  | none => (none,w)
  | some file =>
    let prepared := prepare temp file.attributes
    (prepared.1,{ w with files := w.files.modify temp (fun file =>
      { file with attributes := prepared.2 }) })

/-- The part of the write that has a temporary to clean up. -/
def writeTemp (path : Path) (payload : List UInt8) (prepare : Prepare) (replacer : Replacer)
    (temp : Path) (w : World) : Except AtomicWriteError Unit × World :=
  match prepareTemp prepare temp w with
  | (some error,w) => (.error (.new .setPermissions temp error),removeFile a w temp)
  | (none,w) =>
    match writeAll a w temp payload with
    | (some error,w) => (.error (.new .write temp error),removeFile a w temp)
    | (none,w) =>
      match a.syncFile with
      | some error => (.error (.new .syncFile temp error),removeFile a w temp)
      | none =>
        match replacer temp path w with
        | (.error error,w) => (.error error,removeFile a w temp)
        | (.ok (),w) => (.ok (),w)

def writeBytesAtomicWithTempAndReplacer (path : Path) (payload : List UInt8) (prepare : Prepare)
    (replacer : Replacer) (w : World) : Except AtomicWriteError Unit × World :=
  match path.parent with
  | none =>
    (.error (.new .createDirectory path (.new .invalidInput "missing parent directory")),w)
  | some parent =>
    match createDirAll a w parent with
    | (some error,w) => (.error (.new .createDirectory parent error),w)
    | (none,w) =>
      let restricted :=
        if platform=.unix ∧ a.parentExists=false then setPermissions a w parent 0o700
        else (none,w)
      match restricted with
      | (some error,w) => (.error (.new .setPermissions parent error),w)
      | (none,w) =>
        match createTempFile platform pid a path w with
        | (.error error,w) => (.error error,w)
        | (.ok temp,w) => writeTemp a path payload prepare replacer temp w

def writeBytesAtomicWithTemp (path : Path) (payload : List UInt8) (prepare : Prepare) :
    World → Except AtomicWriteError Unit × World :=
  writeBytesAtomicWithTempAndReplacer platform pid a path payload prepare (replaceFile platform a)

def writeBytesAtomic (path : Path) (payload : List UInt8) :
    World → Except AtomicWriteError Unit × World :=
  writeBytesAtomicWithTemp platform pid a path payload (fun _ attributes => (none,attributes))

end Write

section Steps
variable {platform : Platform} {pid : Nat} {a : Answers} {w w' : World} {path temp : Path}

/-- The name of a temporary goes on behind that of the target. -/
theorem tempPath_ne (path : Path) (pid sequence : Nat) : tempPath pid path sequence≠path := by
  intro heq
  have hname : path.fileName=some (.text ((path.fileName.bind OsName.toStr).getD "data.json"++"."++
      Nat.repr pid++"."++Nat.repr sequence++".tmp")) := by
    conv_lhs => rw [← heq]
    simp [tempPath,Path.join,Path.fileName]
  have hsize := congrArg (fun name => (name.bind OsName.toStr).map String.length) hname
  rw [hname] at hsize
  have htmp : ".tmp".length=4 := rfl
  simp [OsName.toStr] at hsize
  omega

theorem createNew_spec (platform : Platform) (answer : Option IoError) (temp : Path) (w : World) :
    (∃ error, createNew w platform answer temp=(some error,w)) ∨
      w.files temp=none ∧ ∃ attributes, createNew w platform answer temp=(none,{ w with
        files := w.files.put temp ⟨[],attributes⟩
        opened := w.opened++[temp] }) := by
  unfold createNew
  split
  · exact .inl ⟨_,rfl⟩
  · next hnone =>
    cases answer with
    | some error => exact .inl ⟨error,rfl⟩
    | none => exact .inr ⟨by_contra (fun hsome => hnone (.inl hsome)),_,rfl⟩

/-- A temporary is made where nothing was, or nothing is made at all. -/
theorem createTempFileLoop_spec (left : Nat) (w : World) :
    let made := createTempFileLoop platform pid a path left w
    made.2.removed=w.removed ∧
    ((∃ e, made.1=.error e ∧ e.effect=.notCommitted ∧ made.2.files=w.files ∧
        made.2.opened=w.opened) ∨
      ∃ temp attributes, made.1=.ok temp ∧ temp≠path ∧ w.files temp=none ∧
        made.2.files=w.files.put temp ⟨[],attributes⟩ ∧ made.2.opened=w.opened++[temp]) := by
  induction left generalizing w with
  | zero => exact ⟨rfl,.inl ⟨_,rfl,rfl,rfl,rfl⟩⟩
  | succ left ih =>
    have hnext := ih { w with sequence := (w.sequence+1)%2^64 }
    unfold createTempFileLoop
    obtain ⟨error,hfailed⟩ | ⟨hfresh,attributes,hmade⟩ := createNew_spec platform (a.create left)
      (tempPath pid path w.sequence) { w with sequence := (w.sequence+1)%2^64 }
    · simp only [hfailed]
      split
      · exact hnext
      · exact ⟨rfl,.inl ⟨_,rfl,rfl,rfl,rfl⟩⟩
    · simp only [hmade]
      exact ⟨trivial,.inr ⟨_,attributes,rfl,tempPath_ne path pid w.sequence,hfresh,rfl,rfl⟩⟩

theorem moveFileLoop_spec (left : Nat) (w : World) :
    let moved := moveFileLoop a temp path left w
    (∃ e, moved.1=.error e ∧ e.effect=.notCommitted ∧ moved.2=w) ∨
      (moved.1=.ok () ∧ moved.2={ w with files := w.files.rename temp path }) := by
  induction left with
  | zero =>
    unfold moveFileLoop
    cases a.moveFile 0 with
    | none => exact .inr ⟨rfl,rfl⟩
    | some code => exact .inl ⟨_,rfl,rfl,rfl⟩
  | succ left ih =>
    unfold moveFileLoop
    cases a.moveFile (left+1) with
    | none => exact .inr ⟨rfl,rfl⟩
    | some code =>
      dsimp only
      split
      · exact ih
      · exact .inl ⟨_,rfl,rfl,rfl⟩

theorem replaceFile_spec (hparent : path.parent≠none) (w : World) :
    let replaced := replaceFile platform a temp path w
    (∃ e, replaced.1=.error e ∧ e.effect=.notCommitted ∧ replaced.2=w) ∨
      ((replaced.1=.ok () ∨ ∃ e, replaced.1=.error e ∧ e.effect=.committedDurabilityUncertain) ∧
        replaced.2={ w with files := w.files.rename temp path }) := by
  cases platform with
  | windows =>
    obtain hfailed | ⟨hok,hmoved⟩ := @moveFileLoop_spec a path temp 49 w
    · exact .inl hfailed
    · exact .inr ⟨.inl hok,hmoved⟩
  | unix =>
    unfold replaceFile
    cases a.rename with
    | some error => exact .inl ⟨_,rfl,rfl,rfl⟩
    | none =>
      simp only [if_neg hparent]
      cases a.syncDirectory with
      | some error => exact .inr ⟨.inr ⟨_,rfl,rfl⟩,rfl⟩
      | none => exact .inr ⟨.inl rfl,rfl⟩

end Steps

/-- The result of a write says what has become of the target. -/
structure Reported (path : Path) (payload : List UInt8) (w : World)
    (written : Except AtomicWriteError Unit × World) : Prop where
  kept : ∀ e, written.1=.error e → e.effect=.notCommitted → written.2.files path=w.files path
  installed : (written.1=.ok () ∨
      ∃ e, written.1=.error e ∧ e.effect=.committedDurabilityUncertain) →
    (written.2.files path).map File.bytes=some payload

/-- What stands at other paths than these has not changed, nothing was opened, and only these files
were asked to be removed. -/
structure Confined (ps rs : Set Path) (w w' : World) : Prop where
  files : Untouched ps w.files w'.files
  opened : w'.opened=w.opened
  removed : ∀ q∈w'.removed, q∈w.removed ∨ q∈rs

/-- Besides the target at most one file was changed, opened or removed, and that one is new. -/
def OneTemporary (path : Path) (w w' : World) : Prop :=
  ∃ temp : Option Path, (∀ t∈temp, t≠path ∧ w.files t=none) ∧
    Untouched {q | q=path ∨ q∈temp} w.files w'.files ∧
    (∀ q∈w'.opened, q∈w.opened ∨ q∈temp) ∧ ∀ q∈w'.removed, q∈w.removed ∨ q∈temp

section Report
variable {platform : Platform} {pid : Nat} {a : Answers} {path temp : Path}
  {payload : List UInt8} {prepare : Prepare} {ps rs : Set Path} {w w' w'' : World}

theorem Confined.trans (h : Confined ps rs w w') (h' : Confined ps rs w' w'') :
    Confined ps rs w w'' := by
  refine ⟨h.files.trans h'.files,h'.opened.trans h.opened,?_⟩
  intro q hq
  cases h'.removed q hq with
  | inl hbefore => exact h.removed q hbefore
  | inr hin => exact .inr hin

theorem Confined.mono {ps' rs' : Set Path} (h : Confined ps rs w w') (hps : ps ⊆ ps')
    (hrs : rs ⊆ rs') : Confined ps' rs' w w' :=
  ⟨h.files.mono hps,h.opened,fun q hq => (h.removed q hq).imp_right (fun hin => hrs hin)⟩

theorem confined_removeFile (w : World) : Confined {temp} {temp} w (removeFile a w temp) := by
  refine ⟨?_,rfl,?_⟩
  · unfold removeFile
    cases a.removeFile with
    | some error => exact .refl _ _
    | none => exact untouched_remove rfl
  · intro q hq
    exact (List.mem_append.mp hq).imp_right List.mem_singleton.mp

theorem confined_writeAll (w : World) : Confined {temp} {temp} w (writeAll a w temp payload).2 :=
  ⟨untouched_modify _ rfl,rfl,fun _ hq => .inl hq⟩

theorem confined_prepareTemp (w : World) :
    Confined {temp} {temp} w (prepareTemp prepare temp w).2 := by
  unfold prepareTemp
  split
  · exact ⟨.refl _ _,rfl,fun _ hq => .inl hq⟩
  · exact ⟨untouched_modify _ rfl,rfl,fun _ hq => .inl hq⟩

/-- What is prepared holds no bytes, and what is written in full holds the payload. -/
theorem written_bytes {attributes : Attributes} (hnew : w.files temp=some ⟨[],attributes⟩)
    (hwritten : a.write=none) :
    ((writeAll a (prepareTemp prepare temp w).2 temp payload).2.files temp).map File.bytes=
      some payload := by
  simp [writeAll,prepareTemp,hnew,hwritten]

/-- A write that is given up before the rename, with its temporary cleaned up or left. -/
theorem reported_discarded (hne : temp≠path) (h : Confined {temp} {temp} w w')
    {e : AtomicWriteError} (he : e.effect=.notCommitted) :
    Reported path payload w (.error e,removeFile a w' temp) ∧
      Confined {path,temp} {temp} w (removeFile a w' temp) := by
  have hown : Confined {temp} {temp} w (removeFile a w' temp) := h.trans (confined_removeFile w')
  refine ⟨⟨fun _ _ _ => hown.files path (Ne.symm hne),?_⟩,
    hown.mono (Set.subset_insert _ _) (Set.Subset.refl _)⟩
  intro hcommitted
  obtain hok | ⟨e',he',heffect⟩ := hcommitted
  · cases hok
  · cases he'
    rw [he] at heffect
    cases heffect

theorem confined_rename (w : World) :
    Confined {path,temp} {temp} w { w with files := w.files.rename temp path } :=
  ⟨untouched_rename (.inr rfl) (.inl rfl),rfl,fun _ hq => .inl hq⟩

/-- Cleaning up behind a rename does not touch the target. -/
theorem removeFile_target (hne : temp≠path) (w : World) :
    (removeFile a w temp).files path=w.files path :=
  (confined_removeFile w).files path (Ne.symm hne)

/-- A write that has its temporary: the target is as it was, or it holds the payload. -/
theorem writeTemp_spec (hparent : path.parent≠none) (hne : temp≠path) {attributes : Attributes}
    (hnew : w.files temp=some ⟨[],attributes⟩) :
    let written := writeTemp a path payload prepare (replaceFile platform a) temp w
    Reported path payload w written ∧ Confined {path,temp} {temp} w written.2 := by
  have hprepared := @confined_prepareTemp temp prepare w
  have hbytes := @written_bytes a temp payload prepare w attributes hnew
  unfold writeTemp
  generalize prepareTemp prepare temp w=prepared at hprepared hbytes ⊢
  obtain ⟨refused,w₁⟩ := prepared
  cases refused with
  | some error => exact reported_discarded hne hprepared rfl
  | none =>
    have hwritten : Confined {temp} {temp} w (writeAll a w₁ temp payload).2 :=
      hprepared.trans (confined_writeAll w₁)
    have hfull : (writeAll a w₁ temp payload).1=none → a.write=none := by
      simp [writeAll]
    dsimp only at hbytes ⊢
    generalize writeAll a w₁ temp payload=filled at hwritten hbytes hfull ⊢
    obtain ⟨failed,w₂⟩ := filled
    cases failed with
    | some error => exact reported_discarded hne hwritten rfl
    | none =>
      dsimp only
      cases a.syncFile with
      | some error => exact reported_discarded hne hwritten rfl
      | none =>
        dsimp only
        have hpayload : (w₂.files temp).map File.bytes=some payload := hbytes (hfull rfl)
        have hspec := @replaceFile_spec platform a path temp hparent w₂
        generalize replaceFile platform a temp path w₂=replaced at hspec ⊢
        obtain ⟨result,w₃⟩ := replaced
        dsimp only at hspec
        obtain ⟨e,hresult,heffect,hworld⟩ | ⟨hresult,hworld⟩ := hspec
        · cases hresult
          cases hworld
          exact reported_discarded hne hwritten heffect
        · -- The temporary stands at the target now: what is left to clean up is another path.
          have hinstalled : (w₃.files path).map File.bytes=some payload := by
            rw [hworld]
            exact (congrArg _ (rename_target hne)).trans hpayload
          have hconfined : Confined {path,temp} {temp} w w₃ :=
            (hwritten.mono (Set.subset_insert _ _) (Set.Subset.refl _)).trans
              (hworld ▸ confined_rename w₂)
          cases result with
          | ok u =>
            refine ⟨⟨nofun,fun _ => hinstalled⟩,hconfined⟩
          | error e =>
            obtain hok | ⟨e',he',heffect⟩ := hresult
            · cases hok
            · cases he'
              refine ⟨⟨?_,?_⟩,?_⟩
              · intro e' he' hnot
                cases he'
                rw [heffect] at hnot
                cases hnot
              · intro _
                exact (congrArg _ (removeFile_target hne w₃)).trans hinstalled
              · exact hconfined.trans ((confined_removeFile w₃).mono (Set.subset_insert _ _)
                  (Set.Subset.refl _))

theorem Confined.files_eq (h : Confined ∅ ∅ w w') : w'.files=w.files :=
  funext (fun q => h.files q (Set.notMem_empty q))

theorem confined_createDirAll (w : World) (parent : Path) :
    Confined ∅ ∅ w (createDirAll a w parent).2 :=
  ⟨.refl _ _,rfl,fun _ hq => .inl hq⟩

theorem confined_setPermissions (w : World) (directory : Path) (mode : Nat) :
    Confined ∅ ∅ w (setPermissions a w directory mode).2 := by
  unfold setPermissions
  cases a.setPermissions <;> exact ⟨.refl _ _,rfl,fun _ hq => .inl hq⟩

/-- A write that is given up before it has a temporary. -/
theorem reported_refused (h : Confined ∅ ∅ w w') {e : AtomicWriteError}
    (he : e.effect=.notCommitted) :
    Reported path payload w (.error e,w') ∧ OneTemporary path w w' := by
  refine ⟨⟨fun _ _ _ => congrFun h.files_eq path,?_⟩,none,nofun,
    fun q _ => congrFun h.files_eq q,?_,?_⟩
  · intro hcommitted
    obtain hok | ⟨e',he',heffect⟩ := hcommitted
    · cases hok
    · cases he'
      rw [he] at heffect
      cases heffect
  · exact fun q hq => .inl (h.opened ▸ hq)
  · exact fun q hq => (h.removed q hq).imp_right (fun hin => absurd hin (Set.notMem_empty q))

/-- A write whose directory is there. -/
theorem reported_prepared (hparent : path.parent≠none) (h : Confined ∅ ∅ w w') :
    let written := match createTempFile platform pid a path w' with
      | (.error error,w) => (.error error,w)
      | (.ok temp,w) => writeTemp a path payload prepare (replaceFile platform a) temp w
    Reported path payload w written ∧ OneTemporary path w written.2 := by
  have hmade := @createTempFileLoop_spec platform pid a path 128 w'
  unfold createTempFile
  generalize createTempFileLoop platform pid a path 128 w'=made at hmade ⊢
  obtain ⟨result,w₁⟩ := made
  dsimp only at hmade
  obtain ⟨hremoved,⟨e,hresult,heffect,hfiles,hopened⟩ |
    ⟨temp,attributes,hresult,hne,hfresh,hfiles,hopened⟩⟩ := hmade
  · cases hresult
    have hnothing : Confined ∅ ∅ w' w₁ :=
      ⟨fun q _ => congrFun hfiles q,hopened,fun q hq => .inl (hremoved ▸ hq)⟩
    exact reported_refused (h.trans hnothing) heffect
  · cases hresult
    rw [h.files_eq] at hfresh hfiles
    have hnew : w₁.files temp=some ⟨[],attributes⟩ := by rw [hfiles,put_same]
    obtain ⟨hreported,hconfined⟩ := @writeTemp_spec platform a path temp payload prepare w₁ hparent
      hne attributes hnew
    have hbefore : w₁.files path=w.files path := by rw [hfiles,put_other _ (Ne.symm hne)]
    refine ⟨⟨fun e he heffect => (hreported.kept e he heffect).trans hbefore,hreported.installed⟩,
      some temp,?_,?_,?_,?_⟩
    · intro t ht
      cases ht
      exact ⟨hne,hfresh⟩
    · have hmade : Untouched {q | q=path ∨ q∈some temp} w.files w₁.files := by
        rw [hfiles]
        exact untouched_put _ (.inr rfl)
      refine hmade.trans (hconfined.files.mono ?_)
      intro q hq
      exact hq.imp_right (fun heq => (congrArg some heq).symm)
    · intro q hq
      rw [hconfined.opened,hopened,h.opened] at hq
      exact (List.mem_append.mp hq).imp_right
        (fun hlast => (congrArg some (List.mem_singleton.mp hlast)).symm)
    · intro q hq
      cases hconfined.removed q hq with
      | inl hbefore =>
        rw [hremoved] at hbefore
        exact .inl ((h.removed q hbefore).resolve_right (Set.notMem_empty q))
      | inr hown => exact .inr (congrArg some hown).symm

/-- Whatever fails, the result tells what the target holds: its old file with an error that
commits nothing, the payload otherwise. No file but the target and one new temporary is changed,
opened or removed. -/
theorem atomic_write_reported (platform : Platform) (pid : Nat) (a : Answers) (path : Path)
    (payload : List UInt8) (prepare : Prepare) (w : World) :
    let written := writeBytesAtomicWithTempAndReplacer platform pid a path payload prepare
      (replaceFile platform a) w
    Reported path payload w written ∧ OneTemporary path w written.2 := by
  unfold writeBytesAtomicWithTempAndReplacer
  cases hparent : path.parent with
  | none => exact reported_refused ⟨.refl _ _,rfl,fun _ hq => .inl hq⟩ rfl
  | some parent =>
    have hsome : path.parent≠none := by simp [hparent]
    have hcreated := @confined_createDirAll a w parent
    dsimp only
    generalize createDirAll a w parent=created at hcreated ⊢
    obtain ⟨refused,w₁⟩ := created
    cases refused with
    | some error => exact reported_refused hcreated rfl
    | none =>
      dsimp only at hcreated ⊢
      by_cases hcreated' : platform=.unix ∧ a.parentExists=false
      · have hmode := hcreated.trans (@confined_setPermissions a w₁ parent 0o700)
        rw [if_pos hcreated']
        generalize setPermissions a w₁ parent 0o700=restricted at hmode ⊢
        obtain ⟨refused,w₂⟩ := restricted
        cases refused with
        | some error => exact reported_refused hmode rfl
        | none => exact reported_prepared hsome hmode
      · rw [if_neg hcreated']
        exact reported_prepared hsome hcreated

end Report
end BatCave.Persistence.AtomicWrite
