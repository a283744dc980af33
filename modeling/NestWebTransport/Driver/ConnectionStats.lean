import NestWebTransport.Driver.SessionAccounting
import NestWebTransport.Foundation.OrderedMap

/-! The statistics that the driver asks the native sessions for. -/
namespace NestWebTransport

structure NativeConnectionStats where
  bytesReceived : Nat
  bytesSent : Nat
  packetsLost : Nat
  smoothedRtt : Nat
  droppedIncoming : Nat
  expiredIncoming : Nat
  expiredOutgoing : Nat
  lostOutgoing : Nat
  deriving DecidableEq, Repr

namespace NativeConnectionStats

/-- The datagrams lost since the connection was made. -/
def dropped (stats : NativeConnectionStats) : Nat :=
  stats.droppedIncoming + stats.expiredIncoming + stats.expiredOutgoing + stats.lostOutgoing

end NativeConnectionStats

structure ConnectionStats where
  sessionId : String
  remoteAddress : String
  remotePort : Nat
  bytesReceived : Nat
  bytesSent : Nat
  datagramsReceived : Nat
  datagramsSent : Nat
  packetsLost : Nat
  smoothedRttMs : Nat
  deriving DecidableEq, Repr

/-- What a session adapter counts. -/
structure SessionCounters where
  datagramsReceived : Nat
  datagramsSent : Nat
  observedDroppedDatagrams : Nat

/-- A worker awaits the native request for a session; then `captureSessionStats` goes on with what
it has got, if anything; then the worker's loop does. -/
inductive StatsWorker
  | requesting (session : Nat)
  | captured (session : Nat) (stats : Option ConnectionStats)
  | resuming
  | finished
  deriving DecidableEq, Repr

def StatsWorker.isRequesting : StatsWorker → Bool
  | .requesting _ => true
  | _ => false

/-- One call of `refreshConnectionStats` that did not return at once; `position` is its `next`, and
`requested` lists the sessions its workers have asked. -/
structure StatsRefresh where
  sessions : List Nat
  position : Nat
  workers : List StatsWorker
  requested : List Nat
  ended : Bool
  deriving DecidableEq, Repr

structure StatsOptions extends RWebTransportDriverOptions where
  connectionStatsIntervalMs : Int

/-- `closingCaptures` lists the sessions whose last capture is under way; `reported` lists the calls
of `metrics.datagramDropped` and `completed` the totals of the snapshots captured, by session. -/
structure StatsState where
  ledger : SessionLedger
  connectionStats : OrderedMap String ConnectionStats
  lastStatsRefreshAt : Option Int
  refreshingStats : Bool
  refreshCount : Nat
  refresh : Nat → StatsRefresh
  closingCaptures : List Nat
  counters : Nat → SessionCounters
  datagramsDropped : Nat
  reported : List (Nat × Nat)
  completed : List (Nat × Nat)

namespace StatsRefresh

variable (held : Nat → Bool) (r : StatsRefresh)

/-- How many entries the loop passes, and the first session among them that is still held. -/
def seek : List Nat → Nat × Option Nat
  | [] => (0, none)
  | n :: rest => if held n then (1, some n) else ((seek rest).1 + 1, (seek rest).2)

/-- The worker's loop up to its next `await`. -/
def advance (w : Nat) : StatsRefresh :=
  let found := seek held (r.sessions.drop r.position)
  { r with
    position := r.position + found.1
    workers := r.workers.set w (found.2.elim .finished .requesting)
    requested := r.requested ++ found.2.toList }

/-- Every worker starts with its loop, one after another. -/
def begin (sessions : List Nat) : StatsRefresh :=
  let count := min 32 sessions.length
  (List.range count).foldl (advance held) ⟨sessions, 0, List.replicate count .resuming, [], false⟩

end StatsRefresh

namespace StatsState

-- `remote` is the peer's address of each session
variable (options : StatsOptions) (remote : Nat → String × Nat) (s : StatsState)

def new : StatsState where
  ledger := .new
  connectionStats := .empty
  lastStatsRefreshAt := none
  refreshingStats := false
  refreshCount := 0
  refresh := fun _ => ⟨[], 0, [], [], true⟩
  closingCaptures := []
  counters := fun _ => ⟨0, 0, 0⟩
  datagramsDropped := 0
  reported := []
  completed := []

/-- `sessions.get(session.id) === session`. -/
def holds (n : Nat) : Bool :=
  s.ledger.driver.sessions.any fun entry =>
    entry.1 == (s.ledger.driver.session n).native.id && entry.2 == n

def updateRefresh (k : Nat) (f : StatsRefresh → StatsRefresh) : StatsState :=
  { s with refresh := Function.update s.refresh k (f (s.refresh k)) }

def setWorker (k w : Nat) (worker : StatsWorker) : StatsState :=
  updateRefresh s k fun r => { r with workers := r.workers.set w worker }

/-- `captureConnectionStats` once the native snapshot is there. -/
def captureConnectionStats (n : Nat) (stats : NativeConnectionStats) :
    ConnectionStats × StatsState :=
  let counters := s.counters n
  let newlyDropped := stats.dropped - counters.observedDroppedDatagrams
  (⟨(s.ledger.driver.session n).native.id, (remote n).1, (remote n).2, stats.bytesReceived,
      stats.bytesSent, counters.datagramsReceived, counters.datagramsSent, stats.packetsLost,
      stats.smoothedRtt⟩,
    { s with
      counters := Function.update s.counters n
        { counters with
          observedDroppedDatagrams := max counters.observedDroppedDatagrams stats.dropped }
      datagramsDropped := s.datagramsDropped + newlyDropped
      reported := if 0 < newlyDropped then s.reported ++ [(n, newlyDropped)] else s.reported
      completed := s.completed ++ [(n, stats.dropped)] })

/-- `refreshConnectionStats` up to its first `await`. -/
def refreshConnectionStats (now : Int) : StatsState :=
  if s.refreshingStats || s.ledger.driver.sessions.isEmpty ||
      s.lastStatsRefreshAt.any (fun last =>
        decide (last ≤ now) && decide (now - last < options.connectionStatsIntervalMs)) then s
  else
    { s with
      refreshingStats := true
      lastStatsRefreshAt := some now
      refreshCount := s.refreshCount + 1
      refresh := Function.update s.refresh s.refreshCount
        (.begin (holds s) (s.ledger.driver.sessions.map Prod.snd)) }

/-- The native request of a worker has settled. -/
def statsSettled (k w : Nat) (result : Option NativeConnectionStats) : StatsState :=
  match (s.refresh k).workers[w]? with
  | some (.requesting n) =>
    match result with
    | none => setWorker s k w (.captured n none)
    | some stats =>
      let captured := captureConnectionStats remote s n stats
      setWorker captured.2 k w (.captured n (some captured.1))
  | _ => s

/-- `captureSessionStats` after `await session.captureConnectionStats()`. -/
def captureContinues (k w : Nat) : StatsState :=
  match (s.refresh k).workers[w]? with
  | some (.captured n stats) =>
    let id := (s.ledger.driver.session n).native.id
    let stored :=
      match stats with
      | some stats =>
        if s.ledger.driver.sessions.any (·.1 == id) then
          { s with connectionStats := s.connectionStats.set id stats }
        else s
      | none => s
    setWorker stored k w .resuming
  | _ => s

/-- The sessions that a step of the driver has closed. -/
def closedBy (t : DriverState) : List Nat :=
  (List.range t.sessionCount).filter fun n =>
    decide ((t.session n).state = .closed) &&
      !(decide (n < s.ledger.driver.sessionCount) &&
        decide ((s.ledger.driver.session n).state = .closed))

/-- `performStart` and `sessionClosed` in a step of the driver: a start builds an adapter, and each
session that closes has its statistics deleted and captured once more. -/
def sessionsChanged (ledger : SessionLedger) : StatsState :=
  let closed := closedBy s ledger.driver
  { s with
    ledger := ledger
    connectionStats :=
      (closed.map fun n => (ledger.driver.session n).native.id).foldl .remove s.connectionStats
    lastStatsRefreshAt :=
      if s.ledger.driver.adapterCount < ledger.driver.adapterCount then none
      else s.lastStatsRefreshAt
    closingCaptures := s.closingCaptures ++ closed }

end StatsState

/-! ### The driver with its statistics -/

inductive StatsEvent
  | sessions (e : LedgerEvent)
  | datagramReceived (n : Nat)
  | datagramSent (n : Nat)
  | getStats (now : Int)
  | statsSettled (k w : Nat) (result : Option NativeConnectionStats)
  | captureContinues (k w : Nat)
  | workerContinues (k w : Nat)
  | refreshEnds (k : Nat)
  | closingSettled (n : Nat) (result : Option NativeConnectionStats)

namespace StatsState

variable (options : StatsOptions) (remote : Nat → String × Nat) (s : StatsState)

def enabled : StatsEvent → Bool
  | .sessions e => SessionLedger.enabled s.ledger e
  | .datagramReceived n | .datagramSent n => decide (n < s.ledger.driver.sessionCount)
  | .getStats _ => true
  | .statsSettled k w _ =>
    decide (k < s.refreshCount) &&
      match (s.refresh k).workers[w]? with
      | some (.requesting _) => true
      | _ => false
  | .captureContinues k w =>
    decide (k < s.refreshCount) &&
      match (s.refresh k).workers[w]? with
      | some (.captured _ _) => true
      | _ => false
  | .workerContinues k w =>
    decide (k < s.refreshCount) && decide ((s.refresh k).workers[w]? = some .resuming)
  | .refreshEnds k =>
    decide (k < s.refreshCount) && !(s.refresh k).ended &&
      (s.refresh k).workers.all (decide <| · = .finished)
  | .closingSettled n _ => decide (n ∈ s.closingCaptures)

def next : StatsEvent → StatsState
  | .sessions e =>
      sessionsChanged s (SessionLedger.next options.toRWebTransportDriverOptions s.ledger e)
  | .datagramReceived n =>
    { s with
      counters := Function.update s.counters n
        { s.counters n with datagramsReceived := (s.counters n).datagramsReceived + 1 } }
  | .datagramSent n =>
    { s with
      counters := Function.update s.counters n
        { s.counters n with datagramsSent := (s.counters n).datagramsSent + 1 } }
  | .getStats now => refreshConnectionStats options s now
  | .statsSettled k w result => statsSettled remote s k w result
  | .captureContinues k w => captureContinues s k w
  | .workerContinues k w => updateRefresh s k (·.advance (holds s) w)
  | .refreshEnds k => { updateRefresh s k ({ · with ended := true }) with refreshingStats := false }
  | .closingSettled n result =>
    let captured := result.elim s fun stats => (captureConnectionStats remote s n stats).2
    { captured with closingCaptures := s.closingCaptures.erase n }

def program : Program StatsState StatsEvent := ⟨new, enabled, next options remote⟩

/-- The ids of the adapters are unique. -/
def FreshId (s : StatsState) : StatsEvent → Prop
  | .sessions e => SessionLedger.FreshId options.toRWebTransportDriverOptions s.ledger e
  | _ => True

instance (s : StatsState) : (e : StatsEvent) → Decidable (FreshId options s e)
  | .sessions e =>
    inferInstanceAs (Decidable
      (SessionLedger.FreshId options.toRWebTransportDriverOptions s.ledger e))
  | .datagramReceived _ | .datagramSent _ | .getStats _ | .statsSettled .. | .captureContinues ..
  | .workerContinues .. | .refreshEnds _ | .closingSettled .. => isTrue trivial

end StatsState

end NestWebTransport
