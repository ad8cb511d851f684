import BatCave.CollectorService.Desktop
import BatCave.CollectorService.Host

/-! The desktop and the service on one machine. The collector of the service publishes and the
process of the service comes to an end and starts again between any two messages; connections
are refused, cut and closed, bytes arrive in any pieces and replies come too late. A list of
what happens when is the weather, and it is arbitrary. -/
namespace BatCave.CollectorService
open BatCave.Lib.Word

/-- What both ends are built of, and the runs of the service's process. -/
structure Deployment (σ μ : Type) where
  wire : WireParts σ μ
  desktopRelease : ReleaseIdentityV1
  /-- The desktop as the service verified it. -/
  desktopPeer : VerifiedPeer
  process : Nat → ServiceProcess
  /-- The service as the desktop verified it. -/
  servicePeer : Nat → VerifiedServicePeer

inductive Happening (σ : Type) where
  | published (event : CollectorEvent σ) (completedAt : Nat) (collectionLatencyMs : Float)
  /-- The listener or another client looks at what was published. -/
  | polled
  /-- The service ends a connection, for idleness or to stop. -/
  | closed (handle : Nat)
  | restarted

/-- What happens at one call of the desktop's on its transport or its clock. -/
structure Weather (σ : Type) where
  happenings : List (Happening σ) := []
  refused : Option ClientFailure := none
  /-- The write fails after so many bytes. -/
  lostRequest : Option (Nat × String) := none
  /-- The time to read is over after so many bytes. -/
  lostReply : Option (Nat × String) := none
  requestCuts : List Nat := []
  replyCuts : List Nat := []
  clock : Nat := 0

def Happening.publishes {σ : Type} : Happening σ → Bool
  | .published .. => true
  | _ => false

/-- How often the collector publishes before a call. -/
def publishedBefore {σ : Type} (weather : Nat → Weather σ) : Nat → Nat
  | 0 => 0
  | k+1 => publishedBefore weather k+(weather k).happenings.countP Happening.publishes

/-- A pipe: the worker that serves it, what it wrote and nobody read yet, and the decoder of the
desktop's end. -/
structure Connection where
  process : Nat
  worker : ClientWorker := {}
  unread : List UInt8 := []
  decoder : FrameDecoder := {}
  isOpen : Bool := true

structure Link (σ μ : Type) where
  running : Nat := 0
  published : Option (CollectorPublication σ) := none
  state : SnapshotState μ := {}
  connections : List Connection := []
  /-- All that was published, with the run of the process that did. -/
  history : List (Nat × CollectorPublication σ) := []
  tick : Nat := 0

/-- Bytes as they arrive. -/
def cut : List Nat → List UInt8 → List (List UInt8)
  | [],bytes => [bytes]
  | n::ns,bytes => bytes.take n::cut ns (bytes.drop n)

namespace Link
variable {σ μ : Type}

/-- The number of what was published last, 0 before anything was. -/
def revision (link : Link σ μ) : Nat := link.published.elim 0 CollectorPublication.revision

def close (c : Connection) : Connection := { c with isOpen := false }

variable (d : Deployment σ μ)

def refresh (link : Link σ μ) : Link σ μ :=
  { link with state := d.wire.refreshState (d.process link.running) link.published link.state }

/-- `publish` of the collector's engine. -/
def publish (link : Link σ μ) (event : CollectorEvent σ) (completedAt : Nat)
    (collectionLatencyMs : Float) : Link σ μ :=
  let publication : CollectorPublication σ :=
    ⟨satAdd link.revision 1,completedAt,event,collectionLatencyMs⟩
  { link with
    published := some publication
    history := link.history++[(link.running,publication)] }

/-- A new process knows nothing of the old one's connections and publications. -/
def restart (link : Link σ μ) : Link σ μ :=
  { link with
    running := link.running+1
    published := none
    state := {}
    connections := link.connections.map close }

def happen (link : Link σ μ) : Happening σ → Link σ μ
  | .published event completedAt collectionLatencyMs =>
    link.publish event completedAt collectionLatencyMs
  | .polled => link.refresh d
  | .closed handle => { link with connections := link.connections.modify handle close }
  | .restarted => link.restart

variable (weather : Nat → Weather σ)

/-- What happens before the next call is heard. -/
def pass (link : Link σ μ) : Weather σ × Link σ μ :=
  let now := weather link.tick
  (now,now.happenings.foldl (happen d) { link with tick := link.tick+1 })

/-- `WindowsServiceTransport::connect`, once the peers have verified each other. -/
def connect (link : Link σ μ) : Except ClientFailure (Transport Nat) × Link σ μ :=
  let (now,link) := link.pass d weather
  match now.refused with
  | some failure => (.error failure,link)
  | none =>
    (.ok ⟨d.servicePeer link.running,link.connections.length⟩,
      { link with connections := link.connections++[{ process := link.running }] })

/-- `decode_response` -/
def decodeResponse (payload : List UInt8) : Except ContractFailure (ServiceResponseV1 μ) :=
  if payload.isEmpty then .error (malformed "collector_service_response_empty")
  else if maxFrameBytes < payload.length then
    .error (oversized "collector_service_response_frame_too_large")
  else
    match d.wire.responseFromSlice payload with
    | none => .error (malformed "collector_service_response_malformed")
    | some response => do
      d.wire.checks.validateResponse response
      .ok response

/-- `read_response` over what arrives; `none` when that was not a whole frame. -/
def readResponse : List (List UInt8) → FrameDecoder →
    Option (Except ClientFailure (ServiceResponseV1 μ)) × FrameDecoder × List (List UInt8)
  | [],decoder => (none,decoder,[])
  | bytes::reads,decoder =>
    match decoder.push bytes with
    | (.error failure,decoder) => (some (.error (.new .incompatible failure.detail)),decoder,reads)
    | (.ok [],decoder) => readResponse reads decoder
    | (.ok (payload::more),decoder) =>
      if more≠[] ∨ decoder.bufferedBytes≠0 then
        (some (.error (.new .incompatible "collector_service_unsolicited_response_batch")),decoder,
          reads)
      else
        (some ((decodeResponse d payload).mapError (fun failure =>
          .new .incompatible failure.detail)),decoder,reads)

def disconnected : ClientFailure := .new .failed "collector_service_pipe_disconnected"

def readTimeout : ClientFailure := .new .failed "collector_service_client_read_timeout"

/-- The desktop's half of an exchange, when its request is on the way. -/
def receive (now : Weather σ) (c : Connection) :
    Except ClientFailure (ServiceResponseV1 μ) × Connection :=
  let arriving := now.lostReply.elim c.unread (fun lost => c.unread.take lost.1)
  let (response,decoder,reads) := readResponse d (cut now.replyCuts arriving) c.decoder
  let c := { c with
    decoder := decoder
    unread := reads.flatten++c.unread.drop arriving.length }
  match response with
  | some response => (response,c)
  | none =>
    match now.lostReply with
    | some lost => (.error (.new .failed lost.2),c)
    | none =>
      (.error (if c.isOpen then readTimeout else disconnected),c)

/-- `exchange` of an open pipe: the request is written, the service reads, serves and writes,
and the desktop reads what there is of it. -/
def exchangeOn (now : Weather σ) (handle : Nat) (c : Connection) (request : ClientRequestV1)
    (link : Link σ μ) : Except ClientFailure (ServiceResponseV1 μ) × Link σ μ :=
  match encodeJsonFrame d.wire.requestToVec request with
  | .error failure => (.error (.new .incompatible failure.detail),link)
  | .ok frame =>
    let sent := now.lostRequest.elim frame (fun lost => frame.take lost.1)
    let served := d.wire.serveReads (d.process link.running) link.published d.desktopPeer
      (cut now.requestCuts sent) c.worker link.state
    let c := { c with
      worker := served.worker
      unread := c.unread++served.written
      isOpen := served.goesOn }
    let link := { link with state := served.state }
    match now.lostRequest with
    | some lost => (.error (.new .failed lost.2),{ link with
      connections := link.connections.set handle c })
    | none =>
      let (response,c) := receive d now c
      (response,{ link with connections := link.connections.set handle c })

def exchange (t : Transport Nat) (request : ClientRequestV1) (link : Link σ μ) :
    Except ClientFailure (ServiceResponseV1 μ) × Link σ μ :=
  let (now,link) := link.pass d weather
  match link.connections[t.handle]? with
  | none => (.error disconnected,link)
  | some c => if c.isOpen then exchangeOn d now t.handle c request link
    else (.error disconnected,link)

def clock (link : Link σ μ) : Nat × Link σ μ :=
  ((weather link.tick).clock,{ link with tick := link.tick+1 })

/-- The world that the desktop's collector is in; the standard collector asks nobody. -/
def around {φ : Type} (fallback : Link σ μ → Except String φ) :
    Around μ Nat (Link σ μ) φ where
  desktopRelease := d.desktopRelease
  exchange := exchange d weather
  reconnect := fun _ => connect d weather
  now := clock weather
  wireNowMs := clock weather
  connect := connect d weather
  fallback := fun link => (fallback link,link)

end Link
end BatCave.CollectorService
