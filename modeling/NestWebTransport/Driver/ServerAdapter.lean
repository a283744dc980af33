import NestWebTransport.Core.Lifecycle

/-! One native server behind `RWebTransportServerAdapter`.

Each definition is one synchronous stretch of the adapter. -/
namespace NestWebTransport

/-- The `signal` of the options a server is started with. -/
inductive StartSignal
  | absent
  | pending
  | aborted
  deriving DecidableEq, Repr

/-- What `factory(nativeOptions(...))` makes: nothing where it throws. -/
structure NativeServer where
  created : Bool
  closeThrows : Bool
  deriving DecidableEq, Repr

/-- The promise of `start`: it awaits the race, then on failure the `stop` of its `catch`. -/
inductive AdapterStart
  | racing
  | stopping
  | fulfilled
  | rejected
  deriving DecidableEq, Repr

/-- The promise of `stop`: it awaits `server.closed`, then in its `finally` the session pump. -/
inductive AdapterStop
  | uncalled
  | awaitingClosed
  | releasing (succeeded : Bool)
  | settled (succeeded : Bool)
  deriving DecidableEq, Repr

/-- `closeCalled` tells whether the native `close` has returned, `closed` how the native `closed`
has settled, and `server` whether the field still holds the native server. -/
structure RWebTransportServerAdapter where
  native : NativeServer
  closeCalled : Bool
  closed : Option Bool
  closedObserved : Bool
  server : Bool
  stopping : Bool
  startPromise : AdapterStart
  stopPromise : AdapterStop
  pumping : Bool
  signal : StartSignal
  listening : Bool
  raceAborted : Bool
  deriving DecidableEq, Repr

namespace RWebTransportServerAdapter

/-- The call of `start`, up to the race it awaits. -/
def performStart (signal : StartSignal) (native : NativeServer) : RWebTransportServerAdapter :=
  let created := native.created && signal != .aborted
  { native := { native with created := created }
    closeCalled := false
    closed := none
    closedObserved := false
    server := created
    stopping := false
    startPromise := if created then .racing else .rejected
    stopPromise := .uncalled
    pumping := created
    signal := signal
    listening := created && signal == .pending
    raceAborted := false }

variable (a : RWebTransportServerAdapter)

/-- The native server was created and its `closed` has not settled. -/
def isLive : Bool := a.native.created && a.closed.isNone

/-- `performStop` up to its first `await`. -/
def performStop : RWebTransportServerAdapter :=
  let a := { a with stopping := true, listening := false }
  if a.server = false then { a with stopPromise := .settled true }
  else if a.native.closeThrows then { a with stopPromise := .releasing false }
  else { a with closeCalled := true, stopPromise := .awaitingClosed }

def stop : RWebTransportServerAdapter := if a.stopPromise = .uncalled then a.performStop else a

/-- The race of `performStart` is lost: its `catch` calls `stop`. -/
def raceLost : RWebTransportServerAdapter := { a.stop with startPromise := .stopping }

/-- The `finally` of `performStop` ends: the pump has ended with its reader. -/
def released (succeeded : Bool) : RWebTransportServerAdapter :=
  { a with pumping := false, server := false, stopPromise := .settled succeeded }

/-- The abort listener of `performStart`. -/
def handleAbort : RWebTransportServerAdapter :=
  if a.listening then { a with listening := false, raceAborted := true }.stop else a

end RWebTransportServerAdapter

end NestWebTransport
