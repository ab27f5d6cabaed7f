import PillarSignal.Storage.Chain
import PillarSignal.Android.LegacyMessage
import PillarSignal.Android.Callbacks

namespace PillarSignal.Android

open Storage SignalClient Reaction

variable {verify : Verify}

/-- What the HTTP library takes, and throws an `IllegalArgumentException` at otherwise. A path can always be encoded,
    so that the host decides about a URL. -/
structure OkHttp where
  acceptsHost : String → Bool
  acceptsHeader : String → Bool

structure SignalServer where
  host : String
  accessToken : String
deriving DecidableEq, Repr

def SignalServer.authorization (server : SignalServer) : String := "Bearer " ++ server.accessToken

/-- The requests that `SignalServer.call` is made for, by what becomes of their answers. A `DELETE` has the promise of
    `deleteSignalMessage`, or none. -/
inductive Request where
  | keysCount
  | attributes
  | accounts
  | keys
  | contactKeys (username : String)
  | contactMessages (username messageTag : String) (decodeAndSave : Bool)
  | pendingMessages (username messageTag : String)
  | fcmId
  | delete (url : String) (promise : Bool)
deriving DecidableEq, Repr

inductive Task where
  | timestamp (request : Request)
  | reply (request : Request)
deriving DecidableEq, Repr

abbrev TaskReaction := Reaction Files Task Settlement

structure Event (verify : Verify) extends Answer verify where
  meanwhile : Files → Files

namespace SignalClient

variable (p : Platform)

def AccountRequest.request : AccountRequest → Request
  | .attributes _ => .attributes
  | .accounts _ => .accounts

def pendingLoop (username messageTag : String) : List Json → Option Thrown × List String
  | [] => (none, [])
  | entry :: entries =>
    let fields : Except Thrown (JSONObject × String × String) := do
      let message ← match entry with
        | .obj members => .ok members
        | _ => .error .json
      pure (message, ← p.json.getString message "source", ← p.json.getString message "tag")
    match fields with
    | .error e => (some e, [])
    | .ok (message, source, tag) =>
      let (ended, deletes) := pendingLoop username messageTag entries
      if (messageTag = tag ∨ messageTag = "*") ∧ source = username then
        (ended, deleteUrl username (p.json.optLong message "timestamp" 0) :: deletes)
      else (ended, deletes)

def deleteContactPendingMessages (username messageTag : String) (response : Response) : Settlement × List String :=
  let messages := (OrgJson.optJSONArray (ServerResponse.getResponseJSONObject p response) "messages").getD []
  match pendingLoop p username messageTag messages with
  | (none, deletes) => (.resolve "ok", deletes)
  | (some e, deletes) => (nativeFailed e, deletes)

end SignalClient

def deleting (urls : List String) : List Task := urls.map fun url => .timestamp (.delete url false)

namespace Request

def failed (files : Files) : Request → TaskReaction
  | fcmId => telling [nativeFailed .io] files
  | delete _ _ => telling [] files
  | _ => telling [serverFailed] files

def answered (p : Platform) (response : Response) (answer : Answer verify) (files : Files) : Request → TaskReaction
  | keysCount =>
    match checkRemotePreKeys p (.answered response) files with
    | .settled settlement => telling [settlement] files
    | .refill start count => starting [.timestamp keys] (registerPreKeys p answer.generated start count files).2
    | .escaped _ => stopping files
    | .waiting => telling [] files
  | attributes | keys | fcmId => telling [.resolve "ok"] files
  | accounts => starting [.timestamp keys] (registerPreKeys p answer.generated 0 100 files).2
  | contactKeys username =>
    let (rebuild, files) := requestPreKeys p username (.answered response) answer.process files
    match rebuild.settle username true with
    | .ok settlement => telling settlement.toList files
    | .error _ => stopping files
  | contactMessages username messageTag decodeAndSave =>
    let received := getContactMessages p username messageTag decodeAndSave (.answered response) answer.draws files
    match received.settlement with
    | some settlement => ⟨received.files, deleting received.deletes, [settlement], false⟩
    | none => stopping received.files
  | pendingMessages username messageTag =>
    let (settlement, deletes) := deleteContactPendingMessages p username messageTag response
    ⟨files, deleting deletes, [settlement], false⟩
  | delete _ promise => telling (if promise then [.resolve "ok"] else []) files

def owed : Request → Nat
  | delete _ promise => if promise then 1 else 0
  | _ => 1

end Request

namespace Task

def owed : Task → Nat
  | timestamp request | reply request => request.owed

/-- Without a network no callback is run. With the server's time the request is built on the main thread, where nothing
    catches the exception at a header. -/
def react (http : OkHttp) (server : SignalServer) (p : Platform) (files : Files) (task : Task) (answer : Answer verify) :
    TaskReaction :=
  match answer.exchange with
  | .dropped => telling [] files
  | .failed =>
    match task with
    | timestamp request | reply request => request.failed files
  | .answered response =>
    match task with
    | timestamp request =>
      if http.acceptsHeader server.authorization then starting [reply request] files else stopping files
    | reply request => request.answered p response answer files

def next (http : OkHttp) (server : SignalServer) (p : Platform) (files : Files) (task : Task) (event : Event verify) :
    TaskReaction := task.react http server p (event.meanwhile files) event.toAnswer

/-- Without interruptions a call is answered as its request is, once the server has told its time. -/
theorem run_call {http : OkHttp} {server : SignalServer} (accepted : http.acceptsHeader server.authorization = true)
    (p : Platform) (request : Request) (answer : Answer verify) (time exchange : Exchange) (files : Files) :
    (⟨files, [timestamp request], []⟩ : Chain Files Task Settlement).run (next http server p)
        [(0, ⟨{ answer with exchange := time }, id⟩), (0, ⟨{ answer with exchange }, id⟩)] =
      Chain.begun ((reply request).react http server p files { answer with exchange := time.call exchange }) := by
  rw [Chain.run_cons, Chain.answer_single]
  cases time with
  | dropped => exact Chain.run_of_idle rfl _
  | failed =>
    have idle : (Chain.begun (request.failed files)).waiting = [] := by cases request <;> rfl
    exact Chain.run_of_idle idle _
  | answered response =>
    dsimp only [next, react, id]
    rw [if_pos accepted, Chain.begun_starting, Chain.run_cons, Chain.answer_single]
    rfl

end Task

structure ContactParams where
  username : Except Thrown String
  userIds : Except Thrown (Option String × Option String)

structure SentParams where
  username : String
  message : String
  timestamp : Int

inductive Method where
  | init (config : Config) (draw : AccountDraw)
  | registerAccount (draw : AccountDraw)
  | resetAccount
  | addContact (params : ContactParams) (forceAdd : Bool)
  | deleteContact (username : String)
  | deleteContactMessages (username tag : String)
  | receiveNewMessagesByContact (username tag : String)
  | getMessagesByContact (username tag : String)
  | getUnreadMessagesCount (tag : String)
  | getExistingMessages (tag : String)
  | setFcmId (fcmId : Option String)
  | prepareApiBody (params : Except Thrown Outgoing) (encryption : Encryption)
  | saveSentMessage (tag : String) (params : Except Thrown SentParams)
  | decryptReceivedBody (receivedBody : String)
  | decryptSignalMessage (tag : String) (receivedMessage : List Char) (draw : Draw)
  | deleteSignalMessage (username : String) (timestamp : Int)

/-- A JS number as an `int` parameter of a method gets it, by `Double.intValue`. -/
def intValue (number : Int) : Int := saturate 32 number

/-- The module as a method finds it; `signalClient` is null before `init`. -/
structure RNSignalClientModule where
  signalClient : Option SignalServer
  username : String
  files : Files

namespace RNSignalClientModule

variable (p : Platform)

def optJSONObject : Json → Json
  | .obj members => .obj members
  | _ => .null

def savedTimestamp : Json → Int
  | .obj members => p.json.optLong members "savedTimestamp" 0
  | _ => 0

/-- The newest first. The comparison of an entry that is no object ends in a null pointer. -/
def getMessagesByContact (username tag : String) (files : Files) : Except Thrown (List Json) :=
  let messagesList := (MessageStorage.getContactMessages p username tag files).map optJSONObject
  if 2 ≤ messagesList.length ∧ Json.null ∈ messagesList then .error .nullPointer
  else .ok (messagesList.mergeSort fun o1 o2 => savedTimestamp p o2 ≤ savedTimestamp p o1)

def prepareApiBody (signalClient : Option SignalServer) (params : Except Thrown Outgoing) (encryption : Encryption)
    (files : Files) : Except Thrown JSONObject × Files :=
  match params, signalClient with
  | .error e, _ => (.error e, files)
  | .ok _, none => (.error .nullPointer, files)
  | .ok out, some _ => SignalClient.prepareApiBody p out encryption files

end RNSignalClientModule

abbrev Outcome := Except Thrown (List Task × List Settlement)

def SignalServer.call (http : OkHttp) (request : Request) : Option SignalServer → Outcome
  | none => .error .nullPointer
  | some server => if http.acceptsHost server.host then .ok ([.timestamp request], []) else .error .illegalArgument

def settled (settlement : Settlement) : Outcome := .ok ([], [settlement])

def rejecting (outcome : Outcome) (files : Files) : TaskReaction :=
  match outcome with
  | .ok (tasks, told) => ⟨files, tasks, told, false⟩
  | .error e => telling [.reject none (.thrown e)] files

/-- A `catch` of some exceptions only; the others end the app. -/
def rejectingOnly (caught : Thrown → Bool) (outcome : Outcome) (files : Files) : TaskReaction :=
  match outcome with
  | .ok (tasks, told) => ⟨files, tasks, told, false⟩
  | .error e => if caught e then telling [nativeFailed e] files else stopping files

namespace Method

variable (http : OkHttp) (p : Platform) (ciphers : Ciphers)

open RNSignalClientModule

def initServer (config : Config) : Option SignalServer :=
  config.host.bind fun host => config.accessToken.map fun accessToken => ⟨host, accessToken⟩

def server (module : RNSignalClientModule) (method : Method) : SignalServer :=
  match method with
  | init config _ => (initServer config).getD ⟨"", ""⟩
  | _ => module.signalClient.getD ⟨"", ""⟩

def start (module : RNSignalClientModule) : Method → TaskReaction
  | init config draw =>
    match RNSignalClientModule.init p config draw module.files with
    | (.rejected code reason, files) => telling [.reject code reason] files
    | (.checking, files) => rejecting (SignalServer.call http .keysCount (initServer config)) files
    | (.registering request, files) => rejecting (SignalServer.call http request.request (initServer config)) files
  | registerAccount draw =>
    match module.signalClient with
    | none => rejecting (.error .nullPointer) module.files
    | some server =>
      let (request, files) := SignalClient.registerAccount p module.username draw module.files
      rejecting (SignalServer.call http request.request (some server)) files
  | resetAccount =>
    let (settlement, files) := RNSignalClientModule.resetAccount p module.files
    rejecting (settled settlement) files
  | addContact params forceAdd =>
    let outcome : Outcome := do
      let username ← params.username
      if !ProtocolStorage.containsSession p ⟨username, 1⟩ module.files || forceAdd then
        let _ ← params.userIds
        SignalServer.call http (.contactKeys username) module.signalClient
      else settled (.resolve "ok")
    rejecting outcome module.files
  | deleteContact username =>
    let outcome : Outcome := do
      let (tasks, told) ← SignalServer.call http (.pendingMessages username "*") module.signalClient
      .ok (tasks, told ++ [.resolve "ok"])
    rejecting outcome (RNSignalClientModule.deleteContact p username module.files)
  | deleteContactMessages username tag =>
    rejecting (SignalServer.call http (.pendingMessages username tag) module.signalClient)
      (MessageStorage.deleteContactMessages p username tag module.files)
  | receiveNewMessagesByContact username tag =>
    rejecting (SignalServer.call http (.contactMessages username tag true) module.signalClient) module.files
  | getMessagesByContact username tag =>
    let outcome : Outcome := do
      let messages ← RNSignalClientModule.getMessagesByContact p username tag module.files
      settled (.resolve (String.ofList (p.json.print (.arr messages))))
    rejecting outcome module.files
  | getUnreadMessagesCount tag =>
    rejecting (SignalServer.call http (.contactMessages "" tag false) module.signalClient) module.files
  | getExistingMessages tag =>
    let chats := (MessageStorage.getExistingMessages p tag module.files).map Json.obj
    rejecting (settled (.resolve (String.ofList (p.json.print (.arr chats))))) module.files
  | setFcmId fcmId =>
    match module.signalClient with
    | none => rejecting (.error .nullPointer) module.files
    | some server =>
      if fcmId.getD "" ≠ "" then rejecting (SignalServer.call http .fcmId (some server)) module.files
      else rejecting (settled (.resolve "ok")) module.files
  | prepareApiBody params encryption =>
    let (prepared, files) := RNSignalClientModule.prepareApiBody p module.signalClient params encryption module.files
    rejectingOnly caughtSending (prepared.bind fun request => settled (.resolve (String.ofList (p.json.print (.obj request)))))
      files
  | saveSentMessage tag params =>
    match params with
    | .error _ => stopping module.files
    | .ok sent =>
      match module.signalClient with
      | none => stopping module.files
      | some _ =>
        let (settlement, files) :=
          SignalClient.saveSentMessage p tag sent.username sent.message sent.timestamp module.files
        telling [settlement] files
  | decryptReceivedBody receivedBody =>
    let decrypted := RNSignalClientModule.decryptReceivedBody p ciphers receivedBody module.files
    rejectingOnly (· == .io) (decrypted.bind fun text => settled (.resolve text)) module.files
  | decryptSignalMessage tag receivedMessage draw =>
    match module.signalClient with
    | none => stopping module.files
    | some _ =>
      let received := SignalClient.decryptSignalMessage p tag receivedMessage draw module.files
      match received.settlement with
      | some settlement => telling [settlement] received.files
      | none => stopping received.files
  | deleteSignalMessage username timestamp =>
    rejectingOnly (fun _ => false)
      (SignalServer.call http (.delete (deleteUrl username timestamp) true) module.signalClient) module.files

def run (module : RNSignalClientModule) (method : Method) (events : List (Nat × Event verify)) :
    Chain Files Task Settlement :=
  (Chain.begun (method.start http p ciphers module)).run (Task.next http (method.server module) p) events

def lenient : OkHttp := ⟨fun _ => true, fun _ => true⟩

def initialised : RNSignalClientModule := ⟨some ⟨"https://signal", "token"⟩, "alice", noFiles⟩

end Method
end PillarSignal.Android
