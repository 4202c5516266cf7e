/-!
# Errors of an operation

Every error but one names the operation that failed.  The exception is a value that could not be
converted outside of any operation.
-/

namespace RemoteDriver

/-- What went wrong. -/
inductive Error
  /-- The call is not supported as it was made; nothing was sent. -/
  | usage (operation message : String)
  /-- The endpoint could not be reached. -/
  | connectivity (operation reason : String)
  /-- A fetch took longer than it may. -/
  | timeout (operation : String)
  /-- The remote side understood the request and rejected it. -/
  | operation (operation reason : String)
  /-- The response was not understood. -/
  | protocol (operation reason : String)
  /-- A value could not be converted, outside of any operation. -/
  | codec (message : String)
deriving DecidableEq, Repr

namespace Error

/-- The kinds of errors. -/
inductive Kind
  /-- Local misuse. -/
  | usage
  /-- Endpoint out of reach. -/
  | connectivity
  /-- Fetch took too long. -/
  | timeout
  /-- Remote rejection. -/
  | operation
  /-- Response not understood. -/
  | protocol
  /-- Value not converted. -/
  | codec
deriving DecidableEq, Repr

/-- The name of a kind. -/
def Kind.name : Kind → String
  | usage => "Usage"
  | connectivity => "Connectivity"
  | timeout => "Timeout"
  | operation => "Operation"
  | protocol => "Protocol"
  | codec => "Codec"

/-- The kind of an error. -/
def kind : Error → Kind
  | .usage .. => .usage
  | .connectivity .. => .connectivity
  | .timeout .. => .timeout
  | .operation .. => .operation
  | .protocol .. => .protocol
  | .codec .. => .codec

/-- The operation that failed, where the error names one. -/
def operation? : Error → Option String
  | .usage op _ => some op
  | .connectivity op _ => some op
  | .timeout op => some op
  | .operation op _ => some op
  | .protocol op _ => some op
  | .codec _ => none

/-- The text of an error. -/
def message : Error → String
  | .usage op message => "usage error in `" ++ op ++ "`: " ++ message
  | .connectivity op reason => "connectivity error in `" ++ op ++ "`: " ++ reason
  | .timeout op => "`" ++ op ++ "` timed out"
  | .operation op reason => "operation `" ++ op ++ "` failed: " ++ reason
  | .protocol op reason => "protocol error in `" ++ op ++ "`: " ++ reason
  | .codec message => "codec error: " ++ message

end Error

end RemoteDriver
