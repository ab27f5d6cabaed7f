import PillarSignal.Android.ProtocolStorage

namespace PillarSignal.Android

open Storage

structure Response where
  code : Nat
  body : Option (List Char)
deriving DecidableEq, Repr

/-- What becomes of a request: without a network it is dropped and no callback runs. -/
inductive Exchange where
  | dropped
  | failed
  | answered (response : Response)
deriving DecidableEq, Repr

def Exchange.call (timestamp request : Exchange) : Exchange :=
  match timestamp with
  | .dropped => .dropped
  | .failed => .failed
  | .answered _ => request

namespace ServerResponse

def isValidResponseCode (code : Nat) : Bool := (code ≥ 200 && code != 204 && code < 300) || code == 410

/-- A response that is not valid, cannot be read or is no object counts as an empty object. -/
def getResponseJSONObject (p : Platform) (response : Response) : JSONObject :=
  match response.body with
  | none => []
  | some text =>
    if isValidResponseCode response.code then
      match p.json.newJSONObject text with
      | .ok object => object
      | .error _ => []
    else []

end ServerResponse

inductive PromiseRejectCode where
  | ERR_WRONG_CONFIG
  | ERR_SERVER_FAILED
  | ERR_NATIVE_FAILED
  | ERR_ADD_CONTACT_FAILED
deriving DecidableEq, Repr

inductive Reason where
  | message (text : String)
  | thrown (e : Thrown)
deriving DecidableEq, Repr

/-- What a promise is settled with; `promise.reject(e)` gives no code. -/
inductive Settlement where
  | resolve (value : String)
  | reject (code : Option PromiseRejectCode) (reason : Reason)
deriving DecidableEq, Repr

def serverFailed : Settlement := .reject (some .ERR_SERVER_FAILED) (.thrown .io)

def nativeFailed (e : Thrown) : Settlement := .reject (some .ERR_NATIVE_FAILED) (.thrown e)

end PillarSignal.Android
