import NestWebTransport.Driver.ErrorMapper
import NestWebTransport.Testing.QueueConservation

/-! The virtual datagram channel of a connected session, and when it goes on after a refusal. -/
namespace NestWebTransport

structure MockDatagramOptions where
  queueSize : PositiveInteger
  maxDatagramSize : Nat
  overflow : QueueOverflowPolicy

/-- The writable of one endpoint and the incoming queue of its peer, with the lengths of the
datagrams that `onSent` and `onReceived` were called with. -/
structure MockDatagramChannel where
  errored : Option Thrown
  peer : BoundedValueQueue (List UInt8)
  sent : List Nat
  received : List Nat

/-- A datagram is written, or the consumer of the peer does something with its stream. -/
inductive DatagramChannelEvent
  | write (datagram : List UInt8)
  | consume (event : ValueQueueEvent (List UInt8))

def datagramTooLarge (byteLength maxDatagramSize : Nat) : CoreError :=
  .new .resourceLimit s!"Datagram size {byteLength} exceeds the {maxDatagramSize} byte limit"
    ⟨"TEST_DATAGRAM_TOO_LARGE", some true, some .handler⟩

def queueClosed : Thrown := .errorObject "InvalidStateError" "The queue is closed" none

def queueFull : Thrown := .errorObject "QuotaExceededError" "The bounded queue is full" none

namespace MockDatagramChannel

variable (o : MockDatagramOptions) (c : MockDatagramChannel) (datagram : List UInt8)

def new : MockDatagramChannel := ⟨none, .new, [], []⟩

def deliver : Except Thrown Unit × MockDatagramChannel :=
  let c := { c with sent := c.sent ++ [datagram.length] }
  match c.peer.push o.queueSize o.overflow datagram with
  | (.accepted _, peer) =>
    (.ok (), { c with peer := peer, received := c.received ++ [datagram.length] })
  | (.refused _, peer) => (.ok (), { c with peer := peer })
  | (.closed, peer) => (.error queueClosed, { c with peer := peer })
  | (.full _, peer) => (.error queueFull, { c with peer := peer })

/-- `write` of the sink. -/
def sink : Except Thrown Unit × MockDatagramChannel :=
  if o.maxDatagramSize < datagram.length then
    (.error (.core (datagramTooLarge datagram.length o.maxDatagramSize)), c)
  else c.deliver o datagram

/-- What a sink throws errors its writable for good. -/
def write : Except Thrown Unit × MockDatagramChannel :=
  match c.errored with
  | some error => (.error error, c)
  | none =>
    match c.sink o datagram with
    | (.ok _, c) => (.ok (), c)
    | (.error error, c) => (.error error, { c with errored := some error })

def enabled : DatagramChannelEvent → Bool
  | .write _ => true
  | .consume e => e.isConsumer && c.peer.enabled e

def next : DatagramChannelEvent → MockDatagramChannel
  | .write datagram => (c.write o datagram).2
  | .consume e => { c with peer := c.peer.next o.queueSize o.overflow e }

def program : Program MockDatagramChannel DatagramChannelEvent := ⟨new, enabled, next o⟩

def machine : Machine MockDatagramChannel DatagramChannelEvent := (program o).machine

/-! ### Usable channels -/

/-- The datagram is handed to the consumer or stored for it, behind those before it. -/
def Delivers : Prop :=
  (c.write o datagram).1.isOk = true ∧
    (c.write o datagram).2.peer.handed ++ (c.write o datagram).2.peer.values =
      c.peer.handed ++ c.peer.values ++ [datagram]

/-- Whatever the consumer does next, a datagram of admissible size that finds room is delivered. -/
def Usable : Prop :=
  ∀ es t, (∀ e ∈ es, ∃ event, e = .consume event) → (machine o).Run c es t →
    t.peer.HasRoom o.queueSize →
      ∀ datagram, datagram.length ≤ o.maxDatagramSize → t.Delivers o datagram

/-- The datagram is too large, or the queue of the peer is full and rejects it. -/
def Refuses : DatagramChannelEvent → Prop
  | .write datagram =>
    c.peer.state = .open ∧
      (o.maxDatagramSize < datagram.length ∨
        (o.overflow = .reject ∧ ¬ c.peer.HasRoom o.queueSize))
  | .consume _ => False

instance : DecidablePred (c.Refuses o)
  | .write _ => inferInstanceAs (Decidable (_ ∧ _))
  | .consume _ => inferInstanceAs (Decidable False)

end MockDatagramChannel

end NestWebTransport
