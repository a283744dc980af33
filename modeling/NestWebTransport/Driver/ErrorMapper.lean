import NestWebTransport.Core.Lifecycle

/-! How the driver turns what the native library throws into errors of the core. -/
namespace NestWebTransport

/-- The classes of core errors, `WebTransportError` itself and those derived from it. -/
inductive CoreErrorClass
  | webTransport
  | driver
  | protocol
  | resourceLimit
  | session
  | sessionClosed
  | sessionRejected
  | stream
  | streamReset
  | streamClosed
  | timeout
  deriving DecidableEq, Repr

structure CoreError where
  errorClass : CoreErrorClass
  message : String
  code : String
  recoverable : Bool
  scope : ErrorScope
  deriving DecidableEq, Repr

/-- The options of an error that have a default in some class. -/
structure CoreErrorOptions where
  code : String
  recoverable : Option Bool
  scope : Option ErrorScope

def CoreErrorClass.defaultScope : CoreErrorClass → ErrorScope
  | .webTransport => .fatal
  | .driver => .server
  | .protocol | .session | .sessionClosed | .sessionRejected => .session
  | .resourceLimit | .timeout => .handler
  | .stream | .streamReset | .streamClosed => .stream

def CoreErrorClass.defaultRecoverable : CoreErrorClass → Bool
  | .resourceLimit | .sessionClosed | .stream | .streamReset | .streamClosed | .timeout => true
  | .webTransport | .driver | .protocol | .session | .sessionRejected => false

def CoreError.new (errorClass : CoreErrorClass) (message : String) (options : CoreErrorOptions) :
    CoreError where
  errorClass := errorClass
  message := message
  code := options.code
  recoverable := options.recoverable.getD errorClass.defaultRecoverable
  scope := options.scope.getD errorClass.defaultScope

/-- What a `WebTransportError` of the native library tells besides its message. -/
structure NativeErrorDetail where
  fromStream : Bool
  streamErrorCode : Option Nat
  deriving DecidableEq, Repr

/-- A value that was thrown: an error of the core, another `Error` or `DOMException`, or no error
at all. -/
inductive Thrown
  | core (error : CoreError)
  | errorObject (name message : String) (native : Option NativeErrorDetail)
  | other
  deriving DecidableEq, Repr

inductive RWebTransportErrorTarget
  | driver
  | session
  | stream
  deriving DecidableEq, Repr

structure RWebTransportErrorMappingOptions where
  target : RWebTransportErrorTarget
  operation : Option String
  code : Option String

def RWebTransportErrorTarget.defaultCode : RWebTransportErrorTarget → String
  | .driver => "RWEBTRANSPORT_DRIVER_ERROR"
  | .session => "RWEBTRANSPORT_SESSION_ERROR"
  | .stream => "RWEBTRANSPORT_STREAM_ERROR"

def RWebTransportErrorTarget.defaultMessage : RWebTransportErrorTarget → String
  | .driver => "rwebtransport driver operation failed"
  | .session => "rwebtransport session operation failed"
  | .stream => "rwebtransport stream operation failed"

def targetScope : RWebTransportErrorTarget → ErrorScope
  | .driver => .server
  | .session => .session
  | .stream => .stream

/-- The characters that `String.prototype.trim` strips. -/
def isWhiteSpace (c : Char) : Bool :=
  let n := c.toNat
  (9 ≤ n && n ≤ 13) || n == 0x20 || n == 0xA0 || n == 0x1680 || (0x2000 ≤ n && n ≤ 0x200A) ||
    n == 0x2028 || n == 0x2029 || n == 0x202F || n == 0x205F || n == 0x3000 || n == 0xFEFF

namespace Thrown

def message : Thrown → Option String
  | .core error => some error.message
  | .errorObject _ message _ => some message
  | .other => none

def hasName (name : String) : Thrown → Bool
  | .errorObject own _ _ => own == name
  | .core _ | .other => false

def native : Thrown → Option NativeErrorDetail
  | .errorObject _ _ native => native
  | .core _ | .other => none

end Thrown

variable (error : Thrown) (options : RWebTransportErrorMappingOptions)

def errorMessage : String :=
  let detail := match error.message with
    | some message =>
      if message.toList.any (fun c => !isWhiteSpace c) then message
      else options.target.defaultMessage
    | none => options.target.defaultMessage
  match options.operation with
  | none => detail
  | some operation => operation ++ ": " ++ detail

def isAbortError : Bool := error.hasName "AbortError"

def isTimeoutError : Bool := error.hasName "TimeoutError"

def mapRWebTransportError : CoreError :=
  match error with
  | .core error => error
  | _ =>
    let message := errorMessage error options
    let code := options.code.getD options.target.defaultCode
    if isTimeoutError error then
      .new .timeout message
        ⟨options.code.getD "RWEBTRANSPORT_TIMEOUT", none, some (targetScope options.target)⟩
    else if isAbortError error && options.target == .stream then
      .new .streamClosed message ⟨options.code.getD "RWEBTRANSPORT_STREAM_ABORTED", none, none⟩
    else if isAbortError error && options.target == .session then
      .new .sessionClosed message ⟨options.code.getD "RWEBTRANSPORT_SESSION_ABORTED", none, none⟩
    else match options.target with
      | .driver => .new .driver message ⟨code, some false, none⟩
      | .stream =>
        if error.native.any (·.streamErrorCode.isSome) then
          .new .streamReset message ⟨options.code.getD "RWEBTRANSPORT_STREAM_RESET", none, none⟩
        else .new .stream message ⟨code, none, none⟩
      | .session =>
        if error.native.any (·.fromStream) then
          .new .stream message ⟨options.code.getD "RWEBTRANSPORT_STREAM_ERROR", none, none⟩
        else .new .session message ⟨code, none, none⟩

end NestWebTransport
