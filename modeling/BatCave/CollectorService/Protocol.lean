import BatCave.Lib.Text

/-! The collector service's messages, as far as a client session reads them, and the
checks on a service's identity. What a snapshot measures is a parameter `μ`: the
session never looks inside it. -/
namespace BatCave.CollectorService
open BatCave.Lib.Text

inductive ServiceFailureCodeV1 where
  | incompatible | unauthorized | malformed | oversized | staleSequence
  deriving DecidableEq, Repr

structure ContractFailure where
  code : ServiceFailureCodeV1
  detail : String
  deriving DecidableEq, Repr

def incompatible (detail : String) : ContractFailure := ⟨.incompatible,detail⟩
def unauthorized (detail : String) : ContractFailure := ⟨.unauthorized,detail⟩
def malformed (detail : String) : ContractFailure := ⟨.malformed,detail⟩
def oversized (detail : String) : ContractFailure := ⟨.oversized,detail⟩

def collectorServiceProtocolVersion : Nat := 1
def collectorServiceName : String := "BatCaveCollector"
def maxFrameBytes : Nat := 8*1024*1024
def maxProcessCount : Nat := 5000
def maxStringBytes : Nat := 32*1024
def maxClients : Nat := 8

structure ReleaseIdentityV1 where
  appVersion : String
  sourceCommitSha : Option String
  deriving DecidableEq, Repr

structure ServiceLimitsV1 where
  maximumFrameBytes : Nat
  maximumProcessCount : Nat
  maximumStringBytes : Nat
  maximumClients : Nat
  deriving DecidableEq, Repr

def ServiceLimitsV1.contract : ServiceLimitsV1 :=
  ⟨maxFrameBytes,maxProcessCount,maxStringBytes,maxClients⟩

structure ServiceIdentityV1 where
  serviceName : String
  serviceVersion : String
  release : ReleaseIdentityV1
  instanceId : String
  protocolVersion : Nat
  minimumDesktopVersion : String
  limits : ServiceLimitsV1
  deriving DecidableEq, Repr

structure NegotiateRequestV1 where
  minimumProtocolVersion : Nat
  maximumProtocolVersion : Nat
  desktopRelease : ReleaseIdentityV1
  deriving DecidableEq, Repr

inductive ClientOperationV1 where
  | negotiate (request : NegotiateRequestV1)
  | serviceIdentity
  | latestSnapshot (afterSampleSeq : Option Nat)
  | ping (nonce : Nat)
  | disconnect
  deriving DecidableEq, Repr

structure ClientRequestV1 where
  protocolVersion : Nat
  requestId : Nat
  operation : ClientOperationV1
  deriving DecidableEq, Repr

structure CollectorSnapshotV1 (μ : Type) where
  snapshotSchemaVersion : Nat
  serviceInstanceId : String
  sampleSeq : Nat
  sampledAtMs : Nat
  collectionLatencyMs : Nat
  metrics : μ
  deriving DecidableEq

structure UnchangedSnapshotV1 where
  serviceInstanceId : String
  sampleSeq : Nat
  deriving DecidableEq

inductive LatestSnapshotV1 (μ : Type) where
  | snapshot (snapshot : CollectorSnapshotV1 μ)
  | unchanged (unchanged : UnchangedSnapshotV1)
  deriving DecidableEq

structure NegotiatedV1 where
  negotiatedProtocolVersion : Nat
  service : ServiceIdentityV1
  deriving DecidableEq

inductive ServiceOutcomeV1 (μ : Type) where
  | negotiated (negotiated : NegotiatedV1)
  | serviceIdentity (identity : ServiceIdentityV1)
  | latestSnapshot (latest : LatestSnapshotV1 μ)
  | pong (nonce : Nat)
  | disconnected
  | error (failure : ContractFailure)
  deriving DecidableEq

structure ServiceResponseV1 (μ : Type) where
  protocolVersion : Nat
  requestId : Nat
  outcome : ServiceOutcomeV1 μ
  deriving DecidableEq

def validateString (value field : String) : Except ContractFailure Unit :=
  if value.utf8ByteSize>maxStringBytes then .error (oversized s!"{field}_too_large") else .ok ()

def validateNonemptyString (value field : String) : Except ContractFailure Unit := do
  validateString value field
  if trim value="" then .error (malformed s!"{field}_empty") else .ok ()

def isAsciiHexdigit (c : Char) : Bool :=
  c.isDigit || ('a' ≤ c && c ≤ 'f') || ('A' ≤ c && c ≤ 'F')

def validateReleaseIdentity (identity : ReleaseIdentityV1) : Except ContractFailure Unit := do
  validateNonemptyString identity.appVersion "collector_service_release_version"
  match identity.sourceCommitSha with
  | none => .ok ()
  | some commit =>
    if commit.utf8ByteSize≠40 ∨ commit.toList.all isAsciiHexdigit=false then
      .error (malformed "collector_service_release_commit_invalid")
    else .ok ()

def validateServiceIdentity (identity : ServiceIdentityV1) : Except ContractFailure Unit :=
  if identity.serviceName≠collectorServiceName then
    .error (malformed "collector_service_name_invalid")
  else do
    validateNonemptyString identity.serviceVersion "collector_service_version"
    validateNonemptyString identity.instanceId "collector_service_instance_id"
    validateNonemptyString identity.minimumDesktopVersion
      "collector_service_minimum_desktop_version"
    validateReleaseIdentity identity.release
    if identity.protocolVersion≠collectorServiceProtocolVersion then
      .error (incompatible "collector_service_identity_protocol_incompatible")
    else if identity.limits≠ServiceLimitsV1.contract then
      .error (malformed "collector_service_limits_mismatch")
    else .ok ()

/-- What the transport established about the process at the other end. -/
structure VerifiedServicePeer where
  processId : Nat
  processStartedAt : Nat
  principalIdentity : List UInt8
  executableFileIdentity : List UInt8
  executableRelease : ReleaseIdentityV1
  deriving DecidableEq, Repr

def authorizeServiceIdentity (peer : Option VerifiedServicePeer) (claimed : ServiceIdentityV1) :
    Except ContractFailure Unit := do
  validateServiceIdentity claimed
  match peer with
  | none => .error (unauthorized "collector_service_server_peer_unverified")
  | some peer =>
    if peer.executableRelease≠claimed.release then
      .error (unauthorized "collector_service_server_release_not_transport_verified")
    else .ok ()

end BatCave.CollectorService
