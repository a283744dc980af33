import NestWebTransport.Core.BoundedQueue
import NestWebTransport.Execution.BoundedTaskScheduler

/-! `normalizeWebTransportModuleOptions`: the configurations a runtime can be built with. -/
namespace NestWebTransport

/-- A value the caller wrote where a number belongs. -/
inductive OptionNumber
  | integer (value : Int)
  | other
  deriving DecidableEq, Repr

inductive OptionsError
  | typeError (message : String)
  | rangeError (message : String)
  deriving DecidableEq, Repr

/-- `Number.MAX_SAFE_INTEGER`. -/
def maxSafeInteger : Nat := 9007199254740991

/-- A positive safe integer. -/
structure PositiveInteger where
  value : Nat
  positive : 1 ≤ value
  safe : value ≤ maxSafeInteger
  deriving DecidableEq

/-- A non-negative safe integer. -/
structure SafeInteger where
  value : Nat
  safe : value ≤ maxSafeInteger
  deriving DecidableEq

namespace PositiveInteger

def one : PositiveInteger := ⟨1, by decide, by decide⟩

def two : PositiveInteger := ⟨2, by decide, by decide⟩

def ofInt (v : Int) (h : 1 ≤ v.toNat ∧ v.toNat ≤ maxSafeInteger) : PositiveInteger :=
  ⟨v.toNat, h.1, h.2⟩

end PositiveInteger

namespace SafeInteger

def zero : SafeInteger := ⟨0, by decide⟩

def two : SafeInteger := ⟨2, by decide⟩

end SafeInteger

structure ServerLimits where
  maxSessions : PositiveInteger
  maxConcurrentHandlers : PositiveInteger
  maxPendingHandlers : SafeInteger
  maxQueuedDatagramBytes : PositiveInteger
  maxStreams : PositiveInteger
  capacity_safe : maxConcurrentHandlers.value + maxPendingHandlers.value ≤ maxSafeInteger

structure IpLimitOptions where
  maxSessions : PositiveInteger
  sessionsPerSecond : PositiveInteger

structure SessionLimits where
  maxBidirectionalStreams : PositiveInteger
  maxUnidirectionalStreams : PositiveInteger
  maxDatagramsPerSecond : PositiveInteger
  maxConcurrentHandlers : PositiveInteger
  maxPendingHandlers : SafeInteger

structure ResourceLimits where
  server : ServerLimits
  ip : IpLimitOptions
  session : SessionLimits
  maxLifetimeMs : PositiveInteger

structure ExecutionOptions where
  maxConcurrentHandlers : PositiveInteger
  maxPendingHandlers : SafeInteger
  overflow : HandlerOverflowPolicy

structure QueueOptions where
  size : PositiveInteger
  overflow : BoundedQueueOverflowPolicy
  size_le : size.value ≤ 0xffffffff

structure SecurityOptions where
  allowedOrigins : List String
  requireOrigin : Bool
  maxHeaderSize : PositiveInteger
  maxDatagramSize : PositiveInteger
  handshakeTimeoutMs : PositiveInteger
  idleTimeoutMs : SafeInteger
  authenticate : Bool

structure ShutdownOptions where
  graceful : Bool
  drainTimeoutMs : SafeInteger
  forceCloseTimeoutMs : PositiveInteger

/-- Which routing callbacks are present. -/
structure RoutingOptions where
  datagram : Bool
  bidirectionalStream : Bool
  unidirectionalStream : Bool

/-- Every value `normalizeWebTransportModuleOptions` can return is one of these; `authenticate`
says whether that callback is present. -/
structure NormalizedWebTransportModuleOptions where
  security : SecurityOptions
  limits : ResourceLimits
  execution : ExecutionOptions
  queue : QueueOptions
  routing : RoutingOptions
  shutdown : ShutdownOptions
  maxLogsPerSecond : PositiveInteger

/-! ### What the caller writes

`none` is an absent property. Under `??` an explicit `undefined` counts as absent too; where the
source spreads an object over its defaults it is the value `other`. -/

structure RawServerLimits where
  maxSessions : Option OptionNumber
  maxConcurrentHandlers : Option OptionNumber
  maxPendingHandlers : Option OptionNumber
  maxQueuedDatagramBytes : Option OptionNumber
  maxStreams : Option OptionNumber

structure RawIpLimits where
  maxSessions : Option OptionNumber
  sessionsPerSecond : Option OptionNumber

structure RawSessionLimits where
  maxBidirectionalStreams : Option OptionNumber
  maxUnidirectionalStreams : Option OptionNumber
  maxDatagramsPerSecond : Option OptionNumber
  maxConcurrentHandlers : Option OptionNumber
  maxPendingHandlers : Option OptionNumber

structure RawSecurity where
  allowedOrigins : List String
  requireOrigin : Option Bool
  maxHeaderSize : Option OptionNumber
  maxDatagramSize : Option OptionNumber
  handshakeTimeoutMs : Option OptionNumber
  idleTimeoutMs : Option OptionNumber
  authenticate : Bool

structure WebTransportModuleOptions where
  driver : Bool
  server : Bool
  port : OptionNumber
  serverLimits : RawServerLimits
  ipLimits : RawIpLimits
  sessionLimits : RawSessionLimits
  maxLifetimeMs : Option OptionNumber
  maxConcurrentHandlers : Option OptionNumber
  maxPendingHandlers : Option OptionNumber
  executionOverflow : Option String
  queueSize : Option OptionNumber
  queueOverflow : Option String
  security : RawSecurity
  graceful : Option Bool
  drainTimeoutMs : Option OptionNumber
  forceCloseTimeoutMs : Option OptionNumber
  maxLogsPerSecond : Option OptionNumber
  routing : RoutingOptions

def OptionNumber.orDefault (value : Option OptionNumber) (default : Nat) : OptionNumber :=
  value.getD (.integer default)

def assertPositiveSafeInteger (value : OptionNumber) (label : String) :
    Except OptionsError PositiveInteger :=
  match value with
  | .other => .error (.rangeError (label ++ " must be a positive safe integer."))
  | .integer v =>
    if h : 1 ≤ v.toNat ∧ v.toNat ≤ maxSafeInteger then .ok ⟨v.toNat, h.1, h.2⟩
    else .error (.rangeError (label ++ " must be a positive safe integer."))

def assertNonNegativeSafeInteger (value : OptionNumber) (label : String) :
    Except OptionsError SafeInteger :=
  match value with
  | .other => .error (.rangeError (label ++ " must be a non-negative safe integer."))
  | .integer v =>
    if h : 0 ≤ v ∧ v.toNat ≤ maxSafeInteger then .ok ⟨v.toNat, h.2⟩
    else .error (.rangeError (label ++ " must be a non-negative safe integer."))

def assertPort (value : OptionNumber) : Except OptionsError Unit :=
  match value with
  | .other => .error (.rangeError "server.port must be an integer between 0 and 65535.")
  | .integer v =>
    if 0 ≤ v ∧ v ≤ 65535 then .ok ()
    else .error (.rangeError "server.port must be an integer between 0 and 65535.")

def assertTimer (value : Nat) (name : String) : Except OptionsError Unit :=
  if value ≤ 2147483647 then .ok ()
  else .error (.rangeError (name ++ " must not exceed the 2147483647 ms timer limit"))

def handlerOverflowPolicy (value : String) (label : String) :
    Except OptionsError HandlerOverflowPolicy :=
  if value = "drop" then .ok .drop
  else if value = "reject" then .ok .reject
  else if value = "close-session" then .ok .closeSession
  else .error (.typeError (label ++ " is not a supported overflow policy."))

def datagramOverflowPolicy (value : String) (label : String) :
    Except OptionsError BoundedQueueOverflowPolicy :=
  if value = "drop-oldest" then .ok .dropOldest
  else if value = "drop-newest" then .ok .dropNewest
  else if value = "reject" then .ok .reject
  else if value = "close-session" then .ok .closeSession
  else .error (.typeError (label ++ " is not a supported overflow policy."))

/-- The parts of a parsed URL `normalizeWebTransportOrigin` looks at. -/
structure ParsedURL where
  origin : String
  username : String
  password : String
  pathname : String
  search : String
  hash : String

section
-- `new URL(...)`: `none` where it throws.
variable (parseURL : String → Option ParsedURL)

def normalizeWebTransportOrigin (origin label : String) : Except OptionsError String :=
  if origin = "null" then .ok origin
  else if origin = "" then .error (.typeError (label ++ " must be a non-empty serialized Origin."))
  else
    match parseURL origin with
    | none => .error (.typeError (label ++ " must be a valid serialized Origin."))
    | some parsed =>
      if parsed.origin = "null" ∨ parsed.username ≠ "" ∨ parsed.password ≠ "" ∨
          parsed.pathname ≠ "/" ∨ parsed.search ≠ "" ∨ parsed.hash ≠ "" then
        .error (.typeError (label ++ " must not contain credentials, a path, query, or fragment."))
      else .ok parsed.origin

def normalizeAllowedOrigins : Nat → List String → Except OptionsError (List String)
  | _, [] => .ok []
  | index, origin :: rest => do
    let first ← normalizeWebTransportOrigin parseURL origin
      ("security.allowedOrigins[" ++ toString index ++ "]")
    let others ← normalizeAllowedOrigins (index + 1) rest
    return first :: others

/-- The merged limits, checked in the order of `validatePositiveLimits`. -/
def validatePositiveLimits (options : WebTransportModuleOptions) :
    Except OptionsError ResourceLimits := do
  let server := options.serverLimits
  let ip := options.ipLimits
  let session := options.sessionLimits
  let maxSessions ← assertPositiveSafeInteger
    (.orDefault server.maxSessions 1000) "limits.server.maxSessions"
  let maxConcurrentHandlers ← assertPositiveSafeInteger
    (.orDefault server.maxConcurrentHandlers 256) "limits.server.maxConcurrentHandlers"
  let maxPendingHandlers ← assertNonNegativeSafeInteger
    (.orDefault server.maxPendingHandlers 1024) "limits.server.maxPendingHandlers"
  let maxQueuedDatagramBytes ← assertPositiveSafeInteger
    (.orDefault server.maxQueuedDatagramBytes (16 * 1024 * 1024))
    "limits.server.maxQueuedDatagramBytes"
  let maxStreams ← assertPositiveSafeInteger
    (.orDefault server.maxStreams 2048) "limits.server.maxStreams"
  if h : maxConcurrentHandlers.value + maxPendingHandlers.value ≤ maxSafeInteger then
    let ipSessions ← assertPositiveSafeInteger
      (.orDefault ip.maxSessions 100) "limits.ip.maxSessions"
    let sessionsPerSecond ← assertPositiveSafeInteger
      (.orDefault ip.sessionsPerSecond 10) "limits.ip.sessionsPerSecond"
    let maxBidirectionalStreams ← assertPositiveSafeInteger
      (.orDefault session.maxBidirectionalStreams 100) "limits.session.maxBidirectionalStreams"
    let maxUnidirectionalStreams ← assertPositiveSafeInteger
      (.orDefault session.maxUnidirectionalStreams 100) "limits.session.maxUnidirectionalStreams"
    let maxDatagramsPerSecond ← assertPositiveSafeInteger
      (.orDefault session.maxDatagramsPerSecond 1000) "limits.session.maxDatagramsPerSecond"
    let sessionConcurrent ← assertPositiveSafeInteger
      (.orDefault session.maxConcurrentHandlers 64) "limits.session.maxConcurrentHandlers"
    let sessionPending ← assertNonNegativeSafeInteger
      (.orDefault session.maxPendingHandlers 128) "limits.session.maxPendingHandlers"
    let maxLifetimeMs ← assertPositiveSafeInteger
      (.orDefault options.maxLifetimeMs 300000) "limits.stream.maxLifetimeMs"
    return {
      server := ⟨maxSessions, maxConcurrentHandlers, maxPendingHandlers, maxQueuedDatagramBytes,
        maxStreams, h⟩
      ip := ⟨ipSessions, sessionsPerSecond⟩
      session := ⟨maxBidirectionalStreams, maxUnidirectionalStreams, maxDatagramsPerSecond,
        sessionConcurrent, sessionPending⟩
      maxLifetimeMs := maxLifetimeMs }
  else throw (.rangeError "limits.server handler capacity must be a positive safe integer.")

def normalizeWebTransportModuleOptions (options : WebTransportModuleOptions) :
    Except OptionsError NormalizedWebTransportModuleOptions := do
  if !options.driver then throw (.typeError "WebTransportModule requires a driver.")
  if !options.server then throw (.typeError "WebTransportModule requires server options.")
  assertPort options.port
  let limits ← validatePositiveLimits options
  let maxConcurrentHandlers ← assertPositiveSafeInteger
    (.orDefault options.maxConcurrentHandlers limits.session.maxConcurrentHandlers.value)
    "execution.maxConcurrentHandlers"
  let maxPendingHandlers ← assertNonNegativeSafeInteger
    (.orDefault options.maxPendingHandlers limits.session.maxPendingHandlers.value)
    "execution.maxPendingHandlers"
  let queueSize ← assertPositiveSafeInteger
    (.orDefault options.queueSize 256) "datagrams.queue.size"
  if hqueue : queueSize.value ≤ 0xffffffff then
    let security := options.security
    let requireOrigin := security.requireOrigin.getD true
    let allowedOrigins ← normalizeAllowedOrigins parseURL 0 security.allowedOrigins
    if requireOrigin && allowedOrigins.isEmpty then
      throw (.typeError "security.allowedOrigins must contain at least one origin when requireOrigin is enabled.")
    let maxHeaderSize ← assertPositiveSafeInteger
      (.orDefault security.maxHeaderSize (16 * 1024)) "security.maxHeaderSize"
    let maxDatagramSize ← assertPositiveSafeInteger
      (.orDefault security.maxDatagramSize (64 * 1024)) "security.maxDatagramSize"
    let handshakeTimeoutMs ← assertPositiveSafeInteger
      (.orDefault security.handshakeTimeoutMs 5000) "security.handshakeTimeoutMs"
    let idleTimeoutMs ← assertNonNegativeSafeInteger
      (.orDefault security.idleTimeoutMs 60000) "security.idleTimeoutMs"
    let maxLogsPerSecond ← assertPositiveSafeInteger
      (.orDefault options.maxLogsPerSecond 100) "observability.maxLogsPerSecond"
    let drainTimeoutMs ← assertNonNegativeSafeInteger
      (.orDefault options.drainTimeoutMs 10000) "shutdown.drainTimeoutMs"
    let forceCloseTimeoutMs ← assertPositiveSafeInteger
      (.orDefault options.forceCloseTimeoutMs 15000) "shutdown.forceCloseTimeoutMs"
    assertTimer handshakeTimeoutMs.value "security.handshakeTimeoutMs"
    assertTimer idleTimeoutMs.value "security.idleTimeoutMs"
    assertTimer drainTimeoutMs.value "shutdown.drainTimeoutMs"
    assertTimer forceCloseTimeoutMs.value "shutdown.forceCloseTimeoutMs"
    assertTimer limits.maxLifetimeMs.value "limits.stream.maxLifetimeMs"
    let executionOverflow ← handlerOverflowPolicy
      (options.executionOverflow.getD "drop") "execution.overflow"
    let queueOverflow ← datagramOverflowPolicy
      (options.queueOverflow.getD "drop-oldest") "datagrams.queue.overflow"
    return {
      security := ⟨allowedOrigins, requireOrigin, maxHeaderSize, maxDatagramSize,
        handshakeTimeoutMs, idleTimeoutMs, security.authenticate⟩
      limits := limits
      execution := ⟨maxConcurrentHandlers, maxPendingHandlers, executionOverflow⟩
      queue := ⟨queueSize, queueOverflow, hqueue⟩
      routing := options.routing
      shutdown := ⟨options.graceful.getD true, drainTimeoutMs, forceCloseTimeoutMs⟩
      maxLogsPerSecond := maxLogsPerSecond }
  else throw (.rangeError "datagrams.queue.size must not exceed 4294967295")

end

/-! ### What the normalised options satisfy -/

variable {parseURL : String → Option ParsedURL} {options : WebTransportModuleOptions}
  {normalized : NormalizedWebTransportModuleOptions}

theorem of_bind_eq_ok {α β : Type} {x : Except OptionsError α} {f : α → Except OptionsError β}
    {b : β} (h : x >>= f = .ok b) : ∃ a, x = .ok a ∧ f a = .ok b := by
  cases x with
  | error error => cases h
  | ok a => exact ⟨a, rfl, h⟩

theorem assertTimer_ok {value : Nat} {name : String} {u : Unit}
    (h : assertTimer value name = .ok u) : value ≤ 2147483647 := by
  unfold assertTimer at h
  split_ifs at h with hvalue
  exact hvalue

/-- An origin is `null`, or that of a URL which has nothing else. -/
theorem normalizeWebTransportOrigin_ok {written label origin : String}
    (h : normalizeWebTransportOrigin parseURL written label = .ok origin) :
    origin = "null" ∨ ∃ parsed, parseURL written = some parsed ∧ parsed.origin = origin := by
  unfold normalizeWebTransportOrigin at h
  split_ifs at h with hnull
  · cases h
    exact Or.inl hnull
  · split at h
    · cases h
    · rename_i parsed hparsed
      split_ifs at h
      cases h
      exact Or.inr ⟨parsed, hparsed, rfl⟩

/-- Each origin of the list is the null origin or that of a URL that was written. -/
theorem normalizeAllowedOrigins_ok {index : Nat} {written origins : List String}
    (h : normalizeAllowedOrigins parseURL index written = .ok origins) :
    ∀ origin ∈ origins, origin = "null" ∨
      ∃ w ∈ written, ∃ parsed, parseURL w = some parsed ∧ parsed.origin = origin := by
  induction written generalizing index origins with
  | nil =>
    cases h
    exact fun origin horigin => absurd horigin List.not_mem_nil
  | cons w written ih =>
    obtain ⟨first, hfirst, h⟩ := of_bind_eq_ok h
    obtain ⟨others, hothers, h⟩ := of_bind_eq_ok h
    cases h
    intro origin horigin
    rcases List.mem_cons.mp horigin with rfl | horigin
    · refine (normalizeWebTransportOrigin_ok hfirst).imp_right ?_
      rintro ⟨parsed, hparsed, horigin⟩
      exact ⟨w, List.mem_cons_self, parsed, hparsed, horigin⟩
    · refine (ih hothers origin horigin).imp_right ?_
      rintro ⟨w', hw', hparsed⟩
      exact ⟨w', List.mem_cons_of_mem w hw', hparsed⟩

/-- What the types of the normalised options do not say: every timer fits the timer limit, every
allowed origin is `null` or that of a URL, and one is required where the origin is. -/
theorem normalizeWebTransportModuleOptions_ok
    (h : normalizeWebTransportModuleOptions parseURL options = .ok normalized) :
    normalized.security.handshakeTimeoutMs.value ≤ 2147483647 ∧
    normalized.security.idleTimeoutMs.value ≤ 2147483647 ∧
    normalized.shutdown.drainTimeoutMs.value ≤ 2147483647 ∧
    normalized.shutdown.forceCloseTimeoutMs.value ≤ 2147483647 ∧
    normalized.limits.maxLifetimeMs.value ≤ 2147483647 ∧
    (∀ origin ∈ normalized.security.allowedOrigins, origin = "null" ∨
      ∃ w ∈ options.security.allowedOrigins, ∃ parsed,
        parseURL w = some parsed ∧ parsed.origin = origin) ∧
    (normalized.security.requireOrigin = true → normalized.security.allowedOrigins ≠ []) := by
  unfold normalizeWebTransportModuleOptions at h
  simp only at h
  split at h
  · cases h
  split at h
  · cases h
  obtain ⟨_, -, h⟩ := of_bind_eq_ok h
  obtain ⟨limits, -, h⟩ := of_bind_eq_ok h
  obtain ⟨maxConcurrentHandlers, -, h⟩ := of_bind_eq_ok h
  obtain ⟨maxPendingHandlers, -, h⟩ := of_bind_eq_ok h
  obtain ⟨queueSize, -, h⟩ := of_bind_eq_ok h
  split at h
  swap
  · cases h
  obtain ⟨allowedOrigins, horigins, h⟩ := of_bind_eq_ok h
  split at h
  · cases h
  rename_i hempty
  obtain ⟨maxHeaderSize, -, h⟩ := of_bind_eq_ok h
  obtain ⟨maxDatagramSize, -, h⟩ := of_bind_eq_ok h
  obtain ⟨handshakeTimeoutMs, -, h⟩ := of_bind_eq_ok h
  obtain ⟨idleTimeoutMs, -, h⟩ := of_bind_eq_ok h
  obtain ⟨maxLogsPerSecond, -, h⟩ := of_bind_eq_ok h
  obtain ⟨drainTimeoutMs, -, h⟩ := of_bind_eq_ok h
  obtain ⟨forceCloseTimeoutMs, -, h⟩ := of_bind_eq_ok h
  obtain ⟨_, hhandshake, h⟩ := of_bind_eq_ok h
  obtain ⟨_, hidle, h⟩ := of_bind_eq_ok h
  obtain ⟨_, hdrain, h⟩ := of_bind_eq_ok h
  obtain ⟨_, hforce, h⟩ := of_bind_eq_ok h
  obtain ⟨_, hlifetime, h⟩ := of_bind_eq_ok h
  obtain ⟨executionOverflow, -, h⟩ := of_bind_eq_ok h
  obtain ⟨queueOverflow, -, h⟩ := of_bind_eq_ok h
  cases h
  refine ⟨assertTimer_ok hhandshake, assertTimer_ok hidle, assertTimer_ok hdrain,
    assertTimer_ok hforce, assertTimer_ok hlifetime, normalizeAllowedOrigins_ok horigins, ?_⟩
  rintro hrequired rfl
  exact hempty (by simpa using hrequired)

end NestWebTransport
