import PillarSignal.Storage.Chain
import PillarSignal.Ios.Requests

namespace PillarSignal.Ios

open Storage ProtocolStorage

/-- The URL tasks of the client's calls, by the continuations that they were started with. A `send` that met stale
    devices waits for the keys with which the message is sent again; a `DELETE` has empty continuations. -/
inductive Task where
  | attributes
  | accounts
  | keys
  | preKeys (username : String) (resend : Option Outgoing)
  | messages (username messageTag : String) (decodeAndSave : Bool)
  | pendingMessages (username messageTag : String)
  | send (out : Outgoing)
  | delete (urlPath : String)
deriving DecidableEq

/-- How a task is completed, with what the world contributes to its continuation: what other calls have made of the
    archives in the meantime, whether the stores can be set up (once more for a message that is sent again), what is
    drawn, and the time. -/
structure Completion (verify : Verify) where
  exchange : Exchange
  meanwhile : Archives → Archives
  store : Bool
  resendStore : Bool
  generated : Generated verify
  process : Process
  encryption : Encryption
  draws : Nat → Draw
  currentTimestamp : Int

inductive Call where
  | register (username : String) (draw : AccountDraw)
  | requestPreKeys (username : String)
  | getContactMessages (username messageTag : String) (decodeAndSave : Bool)
  | deleteContactPendingMessages (username messageTag : String)
  | sendMessage (out : Outgoing) (store : Bool) (encryption : Encryption)

def CallResult.invoked {κ : Type} (success : Dictionary → κ) (failure : CallError → κ) : CallResult → List κ
  | .success dictionary => [success dictionary]
  | .failure error => [failure error]
  | .neither => []

abbrev TaskReaction := Reaction Archives Task Continuation

def serverFailure (error : CallError) : Continuation := .failure ⟨.ERR_SERVER_FAILED, .server error⟩

namespace SignalClient

variable (p : Platform)

open Reaction

def startSending (out : Outgoing) (store : Bool) (encryption : Encryption) (archives : Archives) : TaskReaction :=
  match prepareApiBody p store out encryption archives with
  | (.error message, archives) => telling [.failure ⟨.ERR_NATIVE_FAILED, message⟩] archives
  | (.ok _, archives) => starting [.send out] archives

def pendingDeletes (username messageTag : String) (dict : Dictionary) : List String :=
  (((dict.lookup "messages").bind asDictionaries).getD []).filterMap fun messageDict =>
    let message : MessageDTO := ⟨messageDict⟩
    if username = message.source ∧ (messageTag = message.tag ∨ messageTag = "*") then
      some (deleteUrl username message.timestamp)
    else none

end SignalClient

namespace Task

open Reaction SignalClient

variable {verify : Verify}

def react (p : Platform) (self : String) (archives : Archives) (task : Task) (completion : Completion verify) :
    TaskReaction :=
  match task with
  | attributes | keys =>
    telling ((SignalServer.call p completion.exchange).invoked (fun _ => .success) serverFailure) archives
  | accounts =>
    match SignalServer.call p completion.exchange with
    | .success _ =>
      match registerPreKeys p completion.generated 1 100 archives with
      | (.upload _, archives) => starting [keys] archives
      | (.failure failure, archives) => telling [.failure failure] archives
      | (.crashed, archives) => stopping archives
    | .failure error => telling [serverFailure error] archives
    | .neither => telling [] archives
  | preKeys username resend =>
    match requestPreKeys p completion.store username completion.exchange completion.process archives with
    | (.waiting, archives) => telling [] archives
    | (.failure failure, archives) => telling [.failure failure] archives
    | (.crashed, archives) | (.overrun, archives) => stopping archives
    | (.built, archives) =>
      match resend with
      | none => telling [.success] archives
      | some out => startSending p out completion.resendStore completion.encryption archives
  | messages username messageTag decodeAndSave =>
    match SignalServer.call p completion.exchange with
    | .success dict =>
      let (parsing, archives) :=
        parseMessages p completion.store username messageTag decodeAndSave completion.draws dict archives
      ⟨archives, (parsing.elim [] Parsing.deletes).map delete, [.success], false⟩
    | .failure error => telling [serverFailure error] archives
    | .neither => telling [] archives
  | pendingMessages username messageTag =>
    match SignalServer.call p completion.exchange with
    | .success dict => ⟨archives, (pendingDeletes username messageTag dict).map delete, [.success], false⟩
    | .failure error => telling [serverFailure error] archives
    | .neither => telling [] archives
  | send out =>
    match SignalServer.call p completion.exchange with
    | .success dict =>
      if (dict.lookup "staleDevices").isSome then starting [preKeys out.username (some out)] archives
      else telling [.success]
        (saveSentMessage self out.messageTag self out.messageString completion.currentTimestamp archives)
    | .failure error => telling [serverFailure error] archives
    | .neither => telling [] archives
  | delete _ => telling [] archives

def owed : Task → Nat
  | delete _ => 0
  | _ => 1

end Task

open Reaction SignalClient in
def Call.start (p : Platform) (archives : Archives) : Call → TaskReaction
  | register username draw =>
    match SignalClient.register username draw archives with
    | (.ok (.attributes _), archives) => starting [.attributes] archives
    | (.ok (.accounts _), archives) => starting [.accounts] archives
    | (.error failure, archives) => telling [.failure failure] archives
  | requestPreKeys username => starting [.preKeys username none] archives
  | getContactMessages username messageTag decodeAndSave => starting [.messages username messageTag decodeAndSave] archives
  | deleteContactPendingMessages username messageTag => starting [.pendingMessages username messageTag] archives
  | sendMessage out store encryption => startSending p out store encryption archives

def Task.completed {verify : Verify} (p : Platform) (self : String) (archives : Archives) (task : Task)
    (completion : Completion verify) : TaskReaction := task.react p self (completion.meanwhile archives) completion

def Call.run {verify : Verify} (p : Platform) (self : String) (call : Call) (archives : Archives)
    (completions : List (Nat × Completion verify)) : Chain Archives Task Continuation :=
  (Chain.begun (call.start p archives)).run (Task.completed p self) completions

end PillarSignal.Ios
