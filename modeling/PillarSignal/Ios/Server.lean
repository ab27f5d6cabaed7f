import PillarSignal.Ios.ProtocolStorage

namespace PillarSignal.Ios

open Storage

inductive ErrorCode where
  | ERR_WRONG_CONFIG
  | ERR_SERVER_FAILED
  | ERR_NATIVE_FAILED
  | ERR_ADD_CONTACT_FAILED
deriving DecidableEq, Repr

inductive SignalError where
  | duplicateMessage
  | untrustedIdentity
  | other
deriving DecidableEq, Repr

inductive CallError where
  | notSent
  | transport
  | notFound
  | decoding
deriving DecidableEq, Repr

/-- What a failure is described by: a text, an error, or a text that an error's description follows
    (one of libsignal, or one of the JSON parser). -/
inductive FailureMessage where
  | text (message : String)
  | server (error : CallError)
  | signal (error : SignalError)
  | described (message : String) (error : Option SignalError)
deriving DecidableEq, Repr

structure Failure where
  error : ErrorCode
  message : FailureMessage
deriving DecidableEq, Repr

inductive Exchange where
  | notSent
  | failed
  | answered (statusCode : Nat) (data : List Char)
deriving DecidableEq, Repr

/-- The continuation that a call runs; a JSON value that is no dictionary runs neither. -/
inductive CallResult where
  | success (dictionary : Dictionary)
  | failure (error : CallError)
  | neither
deriving DecidableEq

namespace SignalServer

def call (p : Platform) : Exchange → CallResult
  | .notSent => .failure .notSent
  | .failed => .failure .transport
  | .answered statusCode data =>
    if statusCode = 204 then .success []
    else if statusCode = 404 then .failure .notFound
    else
      match p.jsonObject data with
      | none => .failure .decoding
      | some (.obj dictFromJSON) => .success dictFromJSON
      | some _ => .neither

end SignalServer
end PillarSignal.Ios
