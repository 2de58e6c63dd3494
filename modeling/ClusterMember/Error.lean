import ClusterMember.Duration
import ClusterMember.Executor.Type
import ClusterMember.Transport.Fault

/-!
# Errors of a node

The errors that operations of a node report, their wording, and the wrapping of one error in
another.  A fault carries the messages of a chain of causes, outermost first.
-/

namespace ClusterMember

/-- An error of a node. -/
inductive Error where
  | configuration (message : String)
  | resourceExceeded (resource : String) (requested limit : Nat)
  | duplicateRegistration (kind name : String)
  | transport (cause : TransportFault)
  | rpcTimeout (limit : Duration)
  | invalidIdentity (message : String)
  | rejected (pool : ExecutorType) (reason : String)
  | masterUnavailable (message : String)
  /-- Anything else, as the messages of a chain of causes. -/
  | fault (chain : List String)
  deriving DecidableEq

namespace Error

/-- The wording of an error. -/
def text : Error → String
  | .configuration message => "invalid configuration: " ++ message
  | .resourceExceeded resource requested limit =>
    resource ++ " would reach " ++ Decimal.write requested ++ ", exceeding the limit of " ++
      Decimal.write limit
  | .duplicateRegistration kind name => "duplicate " ++ kind ++ " registration: " ++ name
  | .transport cause => cause.message
  | .rpcTimeout limit => "rpc did not complete within " ++ limit.text
  | .invalidIdentity message => "invalid node identity: " ++ message
  | .rejected pool reason => "task rejected by " ++ pool.title ++ " pool: " ++ reason
  | .masterUnavailable message => "no master address available: " ++ message
  | .fault chain => "unhandled fault: " ++ ": ".intercalate chain

/-- The wording of an error without what the machine says about it. -/
def summary : Error → String
  | .transport cause => cause.summary
  | error => error.text

/-- The name of the kind of an error. -/
def kind : Error → String
  | .configuration .. => "Configuration"
  | .resourceExceeded .. => "ResourceExceeded"
  | .duplicateRegistration .. => "DuplicateRegistration"
  | .transport cause => "Transport." ++ cause.kind
  | .rpcTimeout .. => "RpcTimeout"
  | .invalidIdentity .. => "InvalidIdentity"
  | .rejected .. => "Rejected"
  | .masterUnavailable .. => "MasterUnavailable"
  | .fault .. => "Fault"

/-- The messages of the causes of an error, outermost first. -/
def causes : Error → List String
  | .fault chain => chain
  | .transport (.codec reason) => [reason]
  | .transport (.bind _ cause) => [cause]
  | _ => []

/-- Whether a later attempt may succeed. -/
def isRecoverable : Error → Bool
  | .transport _ => true
  | .rpcTimeout _ => true
  | _ => false

/-- An error as the cause of a fault. -/
def wrap (error : Error) : Error :=
  .fault (error.text :: error.causes)

end Error
end ClusterMember
