import PillarSignal.Storage.Run
import PillarSignal.Ios.Client

namespace PillarSignal.Ios

open Storage ProtocolStorage

/-- The requests of a registration and of the check for pre keys; only for the keys of a registration
    is the outcome of the `PUT` passed on. -/
inductive Request where
  | attributes
  | accounts
  | keys (registering : Bool)
  | keysCount
deriving DecidableEq

def SignalClient.AccountRequest.kind : AccountRequest → Request
  | .attributes _ => .attributes
  | .accounts _ => .accounts

/-- The archives and the requests that the server has not answered. The code does not keep the uploads
    that were sent since the protocol archives were last deleted, and it does not know which of its
    requests are from before that. -/
structure Client where
  archives : Archives
  waiting : List (Pending Request)
  uploads : List Upload

inductive Continuation where
  | success
  | failure (failure : Failure)
deriving DecidableEq

inductive Step (verify : Verify) where
  | createClient (username : String) (draw : AccountDraw)
  | registerAccount (username : String) (draw : AccountDraw)
  | resetAccount
  | answered (index : Nat) (store : Bool) (exchange : Exchange) (generated : Generated verify)

namespace Client

variable {verify : Verify}

def fresh : Client := ⟨fun _ => none, [], []⟩

def wiped (archives : Archives) (client : Client) : Client := ⟨archives, outdate (fun _ => true) client.waiting, []⟩

def sent (archives : Archives) (request : Request) (client : Client) : Client :=
  { client with archives, waiting := send request client.waiting }

/-- What follows `registerPreKeys`; when the app is stopped, its requests are forgotten. -/
def uploading (registering : Bool) (client : Client) : SignalClient.Registering × Archives → Option Continuation × Client
  | (.upload upload, archives) =>
    (none, { client.sent archives (.keys registering) with uploads := client.uploads ++ [upload] })
  | (.failure failure, archives) => (if registering then some (.failure failure) else none, { client with archives })
  | (.crashed, archives) => (none, { client with archives, waiting := [] })

def continued (p : Platform) (store : Bool) (exchange : Exchange) (generated : Generated verify) (client : Client)
    (request : Request) : Option Continuation × Client :=
  match request, SignalServer.call p exchange with
  | .attributes, .success _ => (some .success, client)
  | .attributes, .failure error => (some (.failure ⟨.ERR_SERVER_FAILED, .server error⟩), client)
  | .accounts, .success _ =>
    client.uploading true (SignalClient.registerPreKeys p generated 1 100 client.archives)
  | .accounts, .failure error => (some (.failure ⟨.ERR_SERVER_FAILED, .server error⟩), client)
  | .keys true, .success _ => (some .success, client)
  | .keys true, .failure error => (some (.failure ⟨.ERR_SERVER_FAILED, .server error⟩), client)
  | .keysCount, .success dict =>
    match SignalClient.checkPreKeys store dict client.archives with
    | some (start, count) => client.uploading false (SignalClient.registerPreKeys p generated start count client.archives)
    | none => (none, client)
  | _, _ => (none, client)

def call (p : Platform) (client : Client) : Step verify → Option Continuation × Client
  | .createClient username draw =>
    match RNSignalClientModule.createClient username draw client.archives with
    | (.checking, archives) => (none, client.sent archives .keysCount)
    | (.registering request, archives) => (none, (client.wiped archives).sent archives request.kind)
    | (.rejected failure, archives) => (some (.failure failure), client.wiped archives)
  | .registerAccount username draw =>
    match SignalClient.register username draw client.archives with
    | (.ok request, archives) => (none, client.sent archives request.kind)
    | (.error failure, archives) => (some (.failure failure), { client with archives })
  | .resetAccount => (none, client.wiped (RNSignalClientModule.resetAccount client.archives))
  | .answered index store exchange generated =>
    match client.waiting[index]? with
    | some pending =>
      continued p store exchange generated { client with waiting := client.waiting.eraseIdx index } pending.request
    | none => (none, client)

def step (p : Platform) (client : Client) (step : Step verify) : Client := (client.call p step).2

def steps (p : Platform) (steps : List (Step verify)) : Client := steps.foldl (Client.step p) fresh

end Client
end PillarSignal.Ios
