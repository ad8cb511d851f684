import BatCave.Lib.Result
import Mathlib.Data.BitVec

/-! The lease that the collector service keeps of its ETW session: one file, read and
replaced under the snapshot that the caller took of it before. -/
namespace BatCave.CollectorService.EtwLease
open BatCave.Lib.Result

section Lease

def etwLeaseSchemaVersion : Nat := 1
def etwLeaseMaxBytes : Nat := 16*1024

inductive EtwLeasePhase where
  | intent | active | stopping
  deriving DecidableEq, Repr

structure EtwControllerIdentityV1 where
  processId : Nat
  processStartedAt : Nat
  deriving DecidableEq, Repr

structure EtwSessionIdentityV1 where
  name : String
  providerId : Vector UInt8 16
  sessionFlags : Nat
  configurationDigest : Vector UInt8 32
  deriving DecidableEq, Repr

structure EtwLeaseV1 where
  schemaVersion : Nat := etwLeaseSchemaVersion
  phase : EtwLeasePhase
  installId : Vector UInt8 16
  serviceGeneration : Vector UInt8 16
  serviceInstanceId : Vector UInt8 16
  bootIdentity : Vector UInt8 16
  controller : EtwControllerIdentityV1
  session : EtwSessionIdentityV1
  deriving DecidableEq, Repr

inductive EtwLeasePersistenceError where
  | authorityMismatch | snapshotMismatch | observationChanged | mutationNotPermitted
  | priorLeaseMismatch | readFailed | serializeFailed | invalidLease | payloadTooLarge
  | atomicReplaceFailed | removeFailed
  deriving DecidableEq, Repr

/-- `lease_is_well_formed` -/
def leaseIsWellFormed (lease : EtwLeaseV1) : Bool :=
  lease.installId≠.replicate 16 0 && lease.serviceGeneration≠.replicate 16 0 &&
    lease.serviceInstanceId≠.replicate 16 0 && lease.bootIdentity≠.replicate 16 0 &&
    lease.controller.processId≠0 && lease.controller.processStartedAt≠0 &&
    lease.session.name≠"" && decide (lease.session.name.utf8ByteSize ≤ 128) &&
    !lease.session.name.toList.contains '\x00' && lease.session.providerId≠.replicate 16 0 &&
    lease.session.sessionFlags≠0 && lease.session.configurationDigest≠.replicate 32 0

/-- The fields that a replacement keeps. -/
structure SameOwner (lease next : EtwLeaseV1) : Prop where
  installId : lease.installId=next.installId
  serviceGeneration : lease.serviceGeneration=next.serviceGeneration
  bootIdentity : lease.bootIdentity=next.bootIdentity
  session : lease.session=next.session

theorem SameOwner.refl (lease : EtwLeaseV1) : SameOwner lease lease := ⟨rfl,rfl,rfl,rfl⟩

theorem SameOwner.trans {first second third : EtwLeaseV1} (h : SameOwner first second)
    (h' : SameOwner second third) : SameOwner first third :=
  ⟨h.installId.trans h'.installId,h.serviceGeneration.trans h'.serviceGeneration,
    h.bootIdentity.trans h'.bootIdentity,h.session.trans h'.session⟩

end Lease

section Leaf

/-- What `symlink_metadata` says of the leaf itself. -/
structure Metadata where
  isFile : Bool
  isLinkOrReparse : Bool
  mode : BitVec 32
  deriving DecidableEq, Repr

/-- What is at the path of the lease, with the bytes that are read there. -/
inductive Leaf where
  | absent
  | present (metadata : Metadata) (bytes : List UInt8)
  deriving DecidableEq, Repr

inductive EtwLeaseLeaf where
  | absent | trusted | untrusted
  deriving DecidableEq, Repr

inductive EtwLeaseObservation where
  | absent | corrupt | untrusted
  | trusted (lease : EtwLeaseV1)
  deriving DecidableEq, Repr

inductive EtwLeaseSnapshotState where
  | absent
  | trustedBytes (bytes : List UInt8)
  | corruptBytes (bytes : List UInt8)
  | untrusted
  deriving DecidableEq, Repr

/-- The system that the service runs on: whether its files have modes, and how a lease is
written down and read back. -/
structure Platform where
  unix : Bool
  toVec : EtwLeaseV1 → Option (List UInt8)
  fromSlice : List UInt8 → Option EtwLeaseV1

variable (platform : Platform)

/-- `inspect_lease_leaf` -/
def inspectLeaseLeaf : Leaf → EtwLeaseLeaf
  | .absent => .absent
  | .present metadata _ =>
    if !metadata.isFile || metadata.isLinkOrReparse then .untrusted
    else if platform.unix && metadata.mode &&& 0o077≠0 then .untrusted
    else .trusted

/-- `read_bounded` -/
def readBounded : Leaf → List UInt8
  | .absent => []
  | .present _ bytes => bytes.take (etwLeaseMaxBytes+1)

/-- What `capture_snapshot` makes of a leaf that it could read. -/
def classify (leaf : Leaf) : EtwLeaseObservation × EtwLeaseSnapshotState :=
  match inspectLeaseLeaf platform leaf with
  | .absent => (.absent,.absent)
  | .untrusted => (.untrusted,.untrusted)
  | .trusted =>
    let bytes := readBounded leaf
    if etwLeaseMaxBytes < bytes.length then (.corrupt,.corruptBytes bytes)
    else match platform.fromSlice bytes with
      | some lease => (.trusted lease,.trustedBytes bytes)
      | none => (.corrupt,.corruptBytes bytes)

/-- A snapshot is only made by looking at a leaf. -/
structure EtwLeaseSnapshot where
  observation : EtwLeaseObservation
  state : EtwLeaseSnapshotState
  rootBrand : Nat
  taken : ∃ leaf, classify platform leaf=(observation,state)

end Leaf

/-- What the file system answers to one call. -/
structure Io where
  inspected : Bool := true
  read : Bool := true
  umask : BitVec 32 := 0o022
  replaced : Bool := true
  removed : Bool := true
  synced : Bool := true
  deriving DecidableEq, Repr

structure EtwOwnershipAuthority where
  rootBrand : Nat
  deriving DecidableEq, Repr

structure EtwLeaseStore where
  rootBrand : Nat
  deriving DecidableEq, Repr

section Checks
variable {platform : Platform} (store : EtwLeaseStore)

def captureSnapshot (io : Io) (leaf : Leaf) :
    Except EtwLeasePersistenceError (EtwLeaseSnapshot platform) :=
  if !io.inspected || (inspectLeaseLeaf platform leaf=.trusted && !io.read) then .error .readFailed
  else .ok
    { observation := (classify platform leaf).1
      state := (classify platform leaf).2
      rootBrand := store.rootBrand
      taken := ⟨leaf,rfl⟩ }

def authorize (authority : EtwOwnershipAuthority) : Except EtwLeasePersistenceError Unit :=
  reject (store.rootBrand≠authority.rootBrand) .authorityMismatch

/-- The brand of a snapshot is that of the store. -/
def branded (snapshot : EtwLeaseSnapshot platform) : Except EtwLeasePersistenceError Unit :=
  reject (store.rootBrand≠snapshot.rootBrand) .snapshotMismatch

def verifySnapshot (snapshot : EtwLeaseSnapshot platform) (io : Io) (leaf : Leaf) :
    Except EtwLeasePersistenceError Unit := do
  branded store snapshot
  let current : EtwLeaseSnapshot platform ← captureSnapshot store io leaf
  reject (current.state≠snapshot.state) .observationChanged

def verifyReplacementPrior (prior : EtwLeaseObservation) (next : EtwLeaseV1) :
    Except EtwLeasePersistenceError Unit :=
  match prior with
  | .absent => .ok ()
  | .corrupt | .untrusted => .error .mutationNotPermitted
  | .trusted prior => do
    reject (prior.schemaVersion≠etwLeaseSchemaVersion || !leaseIsWellFormed prior)
      .mutationNotPermitted
    reject (prior.installId≠next.installId || prior.serviceGeneration≠next.serviceGeneration ||
      prior.bootIdentity≠next.bootIdentity || prior.session≠next.session) .priorLeaseMismatch

/-- The checks of `replace` with the bytes to be written. -/
def replacement (authority : EtwOwnershipAuthority) (prior : EtwLeaseSnapshot platform)
    (lease : EtwLeaseV1) (io : Io) (leaf : Leaf) :
    Except EtwLeasePersistenceError (List UInt8) := do
  authorize store authority
  branded store prior
  reject (lease.schemaVersion≠etwLeaseSchemaVersion || !leaseIsWellFormed lease) .invalidLease
  verifyReplacementPrior prior.observation lease
  let bytes ← okOr (platform.toVec lease) .serializeFailed
  reject (etwLeaseMaxBytes < bytes.length) .payloadTooLarge
  verifySnapshot store prior io leaf
  return bytes

end Checks

section Calls
variable {platform : Platform} (store : EtwLeaseStore)

/-- `write_bytes_atomic`: a private file takes the place of the leaf, or nothing happens. -/
def writeBytesAtomic (io : Io) (leaf : Leaf) (bytes : List UInt8) :
    Except EtwLeasePersistenceError Unit × Leaf :=
  if io.replaced then (.ok (),.present ⟨true,false,0o600 &&& ~~~io.umask⟩ bytes)
  else (.error .atomicReplaceFailed,leaf)

def observe (authority : EtwOwnershipAuthority) (io : Io) (leaf : Leaf) :
    Except EtwLeasePersistenceError (EtwLeaseSnapshot platform) := do
  authorize store authority
  captureSnapshot store io leaf

def replace (authority : EtwOwnershipAuthority) (prior : EtwLeaseSnapshot platform)
    (lease : EtwLeaseV1) (io : Io) (leaf : Leaf) :
    Except EtwLeasePersistenceError Unit × Leaf :=
  match replacement store authority prior lease io leaf with
  | .error error => (.error error,leaf)
  | .ok bytes => writeBytesAtomic io leaf bytes

/-- The parent directory is only synced where that is possible. -/
def removeFile (unix : Bool) (io : Io) (leaf : Leaf) :
    Except EtwLeasePersistenceError Bool × Leaf :=
  if !io.removed then (.error .removeFailed,leaf)
  else if unix && !io.synced then (.error .removeFailed,.absent)
  else (.ok true,.absent)

def removeAfterProvenAbsence (authority : EtwOwnershipAuthority)
    (prior : EtwLeaseSnapshot platform) (io : Io) (leaf : Leaf) :
    Except EtwLeasePersistenceError Bool × Leaf :=
  match (do authorize store authority; branded store prior) with
  | .error error => (.error error,leaf)
  | .ok _ =>
    match prior.observation with
    | .corrupt | .untrusted => (.error .mutationNotPermitted,leaf)
    | .absent =>
      match verifySnapshot store prior io leaf with
      | .error error => (.error error,leaf)
      | .ok _ => (.ok false,leaf)
    | .trusted _ =>
      match verifySnapshot store prior io leaf with
      | .error error => (.error error,leaf)
      | .ok _ => removeFile platform.unix io leaf

end Calls
end BatCave.CollectorService.EtwLease
