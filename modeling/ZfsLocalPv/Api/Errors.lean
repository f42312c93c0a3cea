import ZfsLocalPv.ApiServer.Store
import ZfsLocalPv.Go.Strings

/-!
# Errors

The errors that the driver's functions pass on: refusals of the API server, gRPC statuses, failed
`zfs` commands and plain texts.
-/

namespace ZfsLocalPv.Api

open ApiServer Go

/-- The gRPC codes the driver answers with. -/
inductive Code
  | invalidArgument
  | deadlineExceeded
  | notFound
  | alreadyExists
  | resourceExhausted
  | failedPrecondition
  | aborted
  | internal
  deriving DecidableEq, Repr

inductive Err
  | api (reason : ApiErr)
  | status (code : Code) (message : String)
  /-- A failed command, with its trimmed output or, if it has printed nothing, why it failed. -/
  | zfs (op dataset detail : String)
  | text (message : String)
  deriving DecidableEq

/-- The name of a code. -/
def Code.name : Code → String
  | .invalidArgument => "InvalidArgument"
  | .deadlineExceeded => "DeadlineExceeded"
  | .notFound => "NotFound"
  | .alreadyExists => "AlreadyExists"
  | .resourceExhausted => "ResourceExhausted"
  | .failedPrecondition => "FailedPrecondition"
  | .aborted => "Aborted"
  | .internal => "Internal"

/-- What the API server says. -/
def apiMessage : ApiErr → String
  | .notFound => "not found"
  | .alreadyExists => "already exists"
  | .conflict => "the object has been modified; please apply your changes to the latest version"
  | .invalid => "is invalid"
  | .other => "the server is currently unable to handle the request"

/-- `Error()`. -/
def Err.error : Err → String
  | .api reason => apiMessage reason
  | .status code message => "rpc error: code = " ++ code.name ++ " desc = " ++ message
  | .zfs op dataset detail => op ++ " on " ++ quote dataset ++ ": " ++ detail
  | .text message => message

/-- `k8serror.IsNotFound`. -/
def Err.isNotFound (err : Err) : Bool :=
  decide (err = .api .notFound)

/-- `errors.Wrapf`. -/
def Err.wrap (err : Err) (message : String) : Err :=
  .text (message ++ ": " ++ err.error)

end ZfsLocalPv.Api
