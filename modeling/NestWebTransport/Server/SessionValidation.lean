import NestWebTransport.Module.Options

/-! What the runtime checks of a session before it takes any slot. -/
namespace NestWebTransport

/-- The getters of a driver session the runtime reads. Header names are lower case, as iterating
`Headers` yields them. -/
structure WebTransportSession where
  id : String
  path : String
  remoteAddress : Option String
  headers : List (String × String)
  maxDatagramSize : Nat

structure SessionRejectedError where
  message : String
  code : String
  deriving DecidableEq, Repr

namespace WebTransportSession

variable (options : NormalizedWebTransportModuleOptions)
  (parseURL : String → Option ParsedURL) (session : WebTransportSession)

/-- `session.remoteAddress ?? '<unknown>'`. -/
def ipAddress : String := session.remoteAddress.getD "<unknown>"

def measureHeaders (headers : List (String × String)) : Nat :=
  (headers.map fun header => header.1.utf8ByteSize + header.2.utf8ByteSize + 4).sum

def validateOrigin : Option SessionRejectedError :=
  match session.headers.lookup "origin" with
  | none =>
    if options.security.requireOrigin then
      some ⟨"An Origin header is required.", "ERR_WEBTRANSPORT_ORIGIN_REQUIRED"⟩
    else none
  | some origin =>
    match normalizeWebTransportOrigin parseURL origin "Origin header" with
    | .error _ => some ⟨"Origin header is malformed.", "ERR_WEBTRANSPORT_ORIGIN_MALFORMED"⟩
    | .ok normalizedOrigin =>
      if 0 < options.security.allowedOrigins.length ∧
          normalizedOrigin ∉ options.security.allowedOrigins then
        some ⟨"Origin is not allowed.", "ERR_WEBTRANSPORT_ORIGIN_REJECTED"⟩
      else none

/-- An origin that is sent passes if it is well formed and, unless the list is empty, listed; none
has to be sent where none is required. -/
theorem validateOrigin_eq_none :
    session.validateOrigin options parseURL = none ↔
      (session.headers.lookup "origin" = none ∧ options.security.requireOrigin = false) ∨
      ∃ origin normalizedOrigin, session.headers.lookup "origin" = some origin ∧
        normalizeWebTransportOrigin parseURL origin "Origin header" = .ok normalizedOrigin ∧
        (options.security.allowedOrigins = [] ∨
          normalizedOrigin ∈ options.security.allowedOrigins) := by
  unfold validateOrigin
  cases hsent : session.headers.lookup "origin" with
  | none => simp
  | some origin =>
    cases hnormalized : normalizeWebTransportOrigin parseURL origin "Origin header" with
    | error e => simp [hnormalized]
    | ok normalizedOrigin =>
      simp only [hnormalized, List.length_pos_iff, ne_eq, ite_eq_right_iff, reduceCtorEq, imp_false,
        not_and, not_not, false_and, Option.some.injEq, false_or]
      constructor
      · intro h
        refine ⟨origin, normalizedOrigin, rfl, hnormalized, ?_⟩
        by_cases hempty : options.security.allowedOrigins = []
        · exact .inl hempty
        · exact .inr (h hempty)
      · rintro ⟨_, other, rfl, hother, hlisted⟩ hnonempty
        obtain rfl : normalizedOrigin = other := by
          rw [hnormalized] at hother
          exact Except.ok.inj hother
        exact hlisted.resolve_left hnonempty

/-- `outstanding` is `outstandingSessions.size` and `ids` the keys of `sessions`. -/
def validateSession (outstanding : Nat) (ids : List String) : Option SessionRejectedError :=
  if options.limits.server.maxSessions.value ≤ outstanding then
    some ⟨"Global session limit exceeded.", "ERR_WEBTRANSPORT_GLOBAL_SESSION_LIMIT"⟩
  else if session.id ∈ ids then
    some ⟨"Duplicate session id.", "ERR_WEBTRANSPORT_DUPLICATE_SESSION_ID"⟩
  else if options.security.maxHeaderSize.value < measureHeaders session.headers then
    some ⟨"Session headers exceed the configured limit.", "ERR_WEBTRANSPORT_HEADER_LIMIT"⟩
  else session.validateOrigin options parseURL

/-- A session that passes is under the global limit and has a fresh id. -/
theorem validateSession_eq_none {outstanding : Nat} {ids : List String} :
    session.validateSession options parseURL outstanding ids = none ↔
      outstanding < options.limits.server.maxSessions.value ∧ session.id ∉ ids ∧
        measureHeaders session.headers ≤ options.security.maxHeaderSize.value ∧
        session.validateOrigin options parseURL = none := by
  unfold validateSession
  split_ifs with hlimit hid hsize
  · simp only [false_iff, not_and]
    intro hlt
    omega
  · simp [hid]
  · simp only [false_iff, not_and]
    intro _ _ hle
    omega
  · exact ⟨fun h => ⟨by omega, hid, by omega, h⟩, fun h => h.2.2.2⟩

end WebTransportSession

end NestWebTransport
