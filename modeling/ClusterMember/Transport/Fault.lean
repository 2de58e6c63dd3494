import ClusterMember.Text.Decimal

/-!
# Faults of the transport

What can go wrong between asking for a remote call and its answer.  Where the network itself is the
cause, the fault ends with the address, and what the network says is not part of it.
-/

namespace ClusterMember

/-- The way in which the caller of a remote operation waits for its answer. -/
inductive CallStyle where
  | blocking
  | async
  | future
  deriving DecidableEq, Repr

namespace CallStyle

/-- All styles. -/
def all : List CallStyle := [.blocking, .async, .future]

/-- The name of a style. -/
def name : CallStyle → String
  | .blocking => "blocking"
  | .async => "async"
  | .future => "future"

/-- The name of a style in messages. -/
def title : CallStyle → String
  | .blocking => "Blocking"
  | .async => "Async"
  | .future => "Future"

end CallStyle

/-- A fault of the transport. -/
inductive TransportFault where
  | channelBuild (target : String)
  /-- The channel, or the pool or the factory that hands channels out, is shut down. -/
  | channelShutdown (target : String)
  | unknownService (service : String)
  | flavorMismatch (service : String) (expected actual : CallStyle)
  | request (url : String)
  | status (url : String) (number : Nat)
  | messageTooLarge (size limit : Nat)
  | codec (reason : String)
  | bind (address cause : String)
  /-- The operation needs an asynchronous runtime and there is none. -/
  | noRuntime (operation : String)
  deriving DecidableEq, Repr

namespace TransportFault

/-- The name of the kind of a fault. -/
def kind : TransportFault → String
  | .channelBuild .. => "ChannelBuild"
  | .channelShutdown .. => "ChannelShutdown"
  | .unknownService .. => "UnknownService"
  | .flavorMismatch .. => "FlavorMismatch"
  | .request .. => "Request"
  | .status .. => "Status"
  | .messageTooLarge .. => "MessageTooLarge"
  | .codec .. => "Codec"
  | .bind .. => "Bind"
  | .noRuntime .. => "NoRuntime"

/-- The wording of a fault. -/
def message : TransportFault → String
  | .channelBuild target => "failed to build channel to " ++ target
  | .channelShutdown target => "channel to " ++ target ++ " is shut down"
  | .unknownService service => "no stub registered for service " ++ service
  | .flavorMismatch service expected actual =>
    "stub for " ++ service ++ " was built as " ++ actual.title ++ ", call requires " ++
      expected.title
  | .request url => "request to " ++ url ++ " failed"
  | .status url number => url ++ " answered with status " ++ Decimal.write number
  | .messageTooLarge size limit =>
    "message of " ++ Decimal.write size ++ " bytes exceeds the " ++ Decimal.write limit ++
      " byte cap"
  | .codec reason => "codec error: " ++ reason
  | .bind address cause => "failed to bind rpc endpoint " ++ address ++ ": " ++ cause
  | .noRuntime operation => "no async runtime available for " ++ operation

/-- The wording of a fault without what the machine says about it. -/
def summary : TransportFault → String
  | .bind address _ => "failed to bind rpc endpoint " ++ address
  | fault => fault.message

end TransportFault
end ClusterMember
