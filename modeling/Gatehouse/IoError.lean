/-!
# Failures of input and output

An input or output operation fails with a kind and a text. The kinds are the ones that a stream,
a socket or a file of this library can report.

## Main definitions

* `IoErrorKind` : the kinds of failure, with their names.
* `IoError` : a kind with the text that is shown.
-/

namespace Gatehouse

/-- The kinds of input and output failure. -/
inductive IoErrorKind where
  | notFound
  | permissionDenied
  | connectionRefused
  | connectionReset
  | hostUnreachable
  | networkUnreachable
  | connectionAborted
  | notConnected
  | addrInUse
  | addrNotAvailable
  | networkDown
  | brokenPipe
  | alreadyExists
  | wouldBlock
  | isADirectory
  | invalidInput
  | invalidData
  | timedOut
  | writeZero
  | interrupted
  | unsupported
  | unexpectedEof
  | outOfMemory
  | other
  deriving DecidableEq, Repr

namespace IoErrorKind

/-- The name of a kind. -/
def name : IoErrorKind → String
  | .notFound => "NotFound"
  | .permissionDenied => "PermissionDenied"
  | .connectionRefused => "ConnectionRefused"
  | .connectionReset => "ConnectionReset"
  | .hostUnreachable => "HostUnreachable"
  | .networkUnreachable => "NetworkUnreachable"
  | .connectionAborted => "ConnectionAborted"
  | .notConnected => "NotConnected"
  | .addrInUse => "AddrInUse"
  | .addrNotAvailable => "AddrNotAvailable"
  | .networkDown => "NetworkDown"
  | .brokenPipe => "BrokenPipe"
  | .alreadyExists => "AlreadyExists"
  | .wouldBlock => "WouldBlock"
  | .isADirectory => "IsADirectory"
  | .invalidInput => "InvalidInput"
  | .invalidData => "InvalidData"
  | .timedOut => "TimedOut"
  | .writeZero => "WriteZero"
  | .interrupted => "Interrupted"
  | .unsupported => "Unsupported"
  | .unexpectedEof => "UnexpectedEof"
  | .outOfMemory => "OutOfMemory"
  | .other => "Other"

/-- Every kind. -/
def all : List IoErrorKind :=
  [.notFound, .permissionDenied, .connectionRefused, .connectionReset, .hostUnreachable,
    .networkUnreachable, .connectionAborted, .notConnected, .addrInUse, .addrNotAvailable,
    .networkDown, .brokenPipe, .alreadyExists, .wouldBlock, .isADirectory, .invalidInput,
    .invalidData, .timedOut, .writeZero, .interrupted, .unsupported, .unexpectedEof,
    .outOfMemory, .other]

/-- The kind with the given name; a name that no kind has stands for `other`. -/
def ofName (s : String) : IoErrorKind := (all.find? (·.name == s)).getD .other

end IoErrorKind

/-- A failed input or output operation. -/
structure IoError where
  /-- What sort of failure it is. -/
  kind : IoErrorKind
  /-- The text that is shown. -/
  text : String
  deriving DecidableEq, Repr

namespace IoError

/-- No data arrived for as long as an idle connection may stay open. -/
def idleTimeout : IoError := ⟨.timedOut, "idle timeout"⟩

/-- A writer that takes no byte although it was offered some. -/
def writeZero : IoError := ⟨.writeZero, "write zero"⟩

/-- A write to a pipe whose other end is gone. -/
def brokenPipe : IoError := ⟨.brokenPipe, "broken pipe"⟩

/-- The path names nothing. -/
def noSuchFile : IoError := ⟨.notFound, "No such file or directory (os error 2)"⟩

/-- The path names a directory where a file is wanted. -/
def isDirectory : IoError := ⟨.isADirectory, "Is a directory (os error 21)"⟩

/-- The file's bytes are not text. -/
def notUtf8 : IoError := ⟨.invalidData, "stream did not contain valid UTF-8"⟩

/-- Another socket already listens there. -/
def addressInUse : IoError := ⟨.addrInUse, "Address already in use (os error 98)"⟩

/-- The address does not belong to this host. -/
def addressNotAvailable : IoError :=
  ⟨.addrNotAvailable, "Cannot assign requested address (os error 99)"⟩

/-- No route leads to the address. -/
def networkUnreachable : IoError := ⟨.networkUnreachable, "Network is unreachable (os error 101)"⟩

end IoError

end Gatehouse
