import NestWebTransport.Server.SessionClosure

/-! The pumps of an accepted session.

A pump is between two of its `await`s in each definition. The `finally` of a pump drops its
reader. -/
namespace NestWebTransport.WebTransportRuntime

variable (deps : RuntimeDependencies) (s : RuntimeState) (k : Nat)

/-! ### Datagrams -/

/-- `await managed.scheduler.whenCapacityAvailable(managed.session.signal)`. -/
def awaitCapacity (waiter : Waiter) : RuntimeState :=
  setScheduler s k ((s.plane.scheduler k).whenCapacityAvailable waiter (s.managed k).sessionAborted)

/-- The loop condition of `drainDatagrams`, with its `finally`. -/
def drainLoop : RuntimeState :=
  if (s.plane.buffer k).datagrams.isEmpty || (s.managed k).isIntakeOver then
    update s k ({ · with drain := .idle })
  else awaitCapacity (update s k ({ · with drain := .awaitingCapacity })) k .drain

/-- The call of `drainDatagrams` where no drain loop runs. -/
def startDrain : RuntimeState := if (s.managed k).drain = .idle then drainLoop s k else s

/-- `drainDatagrams` after its `await` of capacity. -/
def drainResumed : RuntimeState :=
  if (s.plane.scheduler k).hasCapacity = false then
    if (s.plane.scheduler k).accepting = false || (s.managed k).isIntakeOver then
      update s k ({ · with drain := .idle })
    else drainLoop s k
  else
    let result := s.plane.drainDatagram deps.options k
    let s := { s with plane := result.2 }
    match result.1 with
    | none => update s k ({ · with drain := .idle })
    | some outcome =>
      let s := update s k ({ · with drain := .submitted })
      if outcome = .closeSession then
        closeSession s k .resourceLimit "Handler queue limit exceeded"
      else s

def endDatagramPump : RuntimeState :=
  update s k ({ · with datagramPump := .ended, datagramReader := false })

/-- The `catch` of a pump: it looks at the error only while intake is open. -/
def pumpFailed (error : Failure) : RuntimeState :=
  if (s.managed k).isIntakeOver then s else handleRuntimeError deps s k error

/-- `pumpDatagrams` after `reader.read()` has returned a value. -/
def datagramRead (byteLength : Nat) (now : Int) : RuntimeState :=
  if (s.managed k).isIntakeOver then endDatagramPump s k
  else
    let result :=
      s.plane.offerDatagram deps.options k byteLength (s.managed k).session.maxDatagramSize now
    let s := { s with plane := result.2 }
    match result.1 with
    | none => s
    | some .closeSession =>
      closeSession (update s k ({ · with datagramPump := .closing })) k .resourceLimit
        "Datagram queue limit exceeded"
    | some _ => startDrain s k

/-- The `read()` of `pumpDatagrams` has rejected. -/
def datagramReadFailed (error : Failure) : RuntimeState :=
  pumpFailed deps (update s k ({ · with datagramPump := .closing })) k error

/-! ### Streams -/

/-- The loop condition of a stream pump, with its `finally`. -/
def streamLoop (kind : StreamKind) : RuntimeState :=
  if (s.managed k).isIntakeOver then
    update s k fun m => (m.setStreamPump kind (.ended false)).dropReader kind
  else awaitCapacity (update s k (·.setStreamPump kind .awaitingCapacity)) k (.pump kind)

def endStreamPump (kind : StreamKind) (done : Bool) : RuntimeState :=
  update s k fun m => (m.setStreamPump kind (.ended done)).dropReader kind

/-- A stream pump after its `await` of capacity. -/
def streamResumed (kind : StreamKind) : RuntimeState :=
  if (s.plane.scheduler k).hasCapacity = false then
    if (s.plane.scheduler k).accepting = false || (s.managed k).isIntakeOver then
      endStreamPump s k kind false
    else streamLoop s k kind
  else update s k (·.setStreamPump kind .reading)

def maxStreamsOf (kind : StreamKind) : Nat :=
  match kind with
  | .bidirectional => deps.options.limits.session.maxBidirectionalStreams.value
  | .unidirectional => deps.options.limits.session.maxUnidirectionalStreams.value

def isOverStreamLimit (kind : StreamKind) : Bool :=
  decide ((deps.options.limits.server.maxStreams.value : Int) ≤ s.activeStreams) ||
    decide ((maxStreamsOf deps kind : Int) ≤ (s.managed k).streams kind)

/-- `aborted` is `stream.signal.aborted`. -/
def trackStream (kind : StreamKind) (aborted : Bool) : RuntimeState :=
  let tracked :=
    update
      { s with
        stream := Function.update s.stream s.streamCount ⟨k, kind, false⟩
        streamCount := s.streamCount + 1
        activeStreams := s.activeStreams + 1 }
      k (·.addStreams kind 1)
  if aborted || (s.managed k).sessionAborted then releaseStream tracked s.streamCount else tracked

/-- A stream pump after `reader.read()` has returned a stream. -/
def streamRead (kind : StreamKind) (aborted : Bool) : RuntimeState :=
  if (s.managed k).isIntakeOver then update s k (·.setStreamPump kind .discarding)
  else if isOverStreamLimit deps s k kind then update s k (·.setStreamPump kind .refusing)
  else
    let tracked := trackStream s k kind aborted
    let result := tracked.plane.submit deps.options k (.stream s.streamCount) 0
    let s := update { tracked with plane := result.2 } k (·.setStreamPump kind .submitted)
    if result.1 = .closeSession then
      closeSession s k .resourceLimit "Handler queue limit exceeded"
    else s

/-- A promise a stream pump awaits outside any handler of its own has rejected. -/
def streamPumpFailed (kind : StreamKind) (error : Failure) : RuntimeState :=
  pumpFailed deps (update s k (·.setStreamPump kind .closing)) k error

/-- The `reset` or `stop` of a stream over the limits has settled. -/
def streamRefused (kind : StreamKind) (failure : Option Failure) : RuntimeState :=
  match failure with
  | none => streamLoop s k kind
  | some error => streamPumpFailed deps s k kind error

/-- The `reset` or `stop` of a stream read after intake ended has settled. -/
def streamDiscarded (kind : StreamKind) (failure : Option Failure) : RuntimeState :=
  match failure with
  | none => endStreamPump s k kind false
  | some error => streamPumpFailed deps s k kind error

end NestWebTransport.WebTransportRuntime
