import PillarSignal.Storage.Run
import PillarSignal.Android.Client

namespace PillarSignal.Android

open Storage SignalClient

variable {verify : Verify}

/-- What waits to be run on the main thread: the continuation of a request, or a message that is to be sent again.
    The replies to uploaded keys and to account attributes do nothing but settle a promise. -/
inductive Callback where
  | sendTimestamp (out : Outgoing)
  | sendPut (out : Outgoing) (timestamp : Int)
  | sendKeys (out : Outgoing)
  | sendAgain (out : Outgoing)
  | contactMessages (username messageTag : String) (decodeAndSave : Bool)
  | contactKeys (username : String)
  | accounts
  | keysCount
deriving DecidableEq

def Callback.contact : Callback → Option String
  | sendTimestamp out | sendPut out _ | sendKeys out | sendAgain out => some out.username
  | contactMessages username _ _ | contactKeys username => some username
  | accounts | keysCount => none

structure Answer (verify : Verify) where
  exchange : Exchange
  encryption : Encryption
  process : Process
  draws : Nat → Draw
  generated : Generated verify

def Callback.run (p : Platform) (answer : Answer verify) (files : Files) : Callback → Option Callback × Files
  | sendTimestamp out =>
    match answer.exchange with
    | .answered response =>
      let timestamp := p.json.optInt (ServerResponse.getResponseJSONObject p response) "timestamp" 0
      match prepareApiBody p out answer.encryption files with
      | (.ok _, files) => (some (sendPut out timestamp), files)
      | (.error _, files) => (none, files)
    | _ => (none, files)
  | sendPut out timestamp =>
    match answer.exchange with
    | .answered response =>
      if staleDevices p response then (some (sendKeys out), files)
      else (none, (saveSentMessage p out.messageTag out.username out.messageString timestamp files).2)
    | _ => (none, files)
  | sendKeys out =>
    match requestPreKeys p out.username answer.exchange answer.process files with
    | (.built, files) => (some (sendAgain out), files)
    | (_, files) => (none, files)
  | sendAgain out => (some (sendTimestamp out), files)
  | contactMessages username messageTag decodeAndSave =>
    (none, (getContactMessages p username messageTag decodeAndSave answer.exchange answer.draws files).files)
  | contactKeys username => (none, (requestPreKeys p username answer.exchange answer.process files).2)
  | accounts => (none, (Operation.accountAnswered answer.exchange answer.generated).run p files)
  | keysCount => (none, (Operation.checkRemotePreKeys answer.exchange answer.generated).run p files)

def Callback.chain (p : Platform) : List (Answer verify) → Option Callback → Files → Files
  | answer :: answers, some callback, files =>
    let (next, files) := callback.run p answer files
    chain p answers next files
  | _, _, files => files

def Round.answers (other : Answer verify) (round : Round) : List (Answer verify) :=
  [{ other with exchange := round.timestamp, encryption := round.encryption }, { other with exchange := round.put },
    { other with exchange := round.keys, process := round.process }, other]

theorem chain_none (p : Platform) (answers : List (Answer verify)) (files : Files) :
    Callback.chain p answers none files = files := by
  cases answers <;> rfl

theorem chain_sendMessage (p : Platform) (out : Outgoing) (other : Answer verify) (rounds : List Round) (files : Files) :
    Callback.chain p (rounds.flatMap (Round.answers other)) (some (.sendTimestamp out)) files =
      (sendMessage p out rounds files).files := by
  induction rounds generalizing files with
  | nil => rfl
  | cons round rounds ih =>
    rw [List.flatMap_cons, Round.answers, sendMessage]
    dsimp only [List.cons_append, List.nil_append, Callback.chain, Callback.run]
    cases round.timestamp with
    | dropped => exact chain_none ..
    | failed => exact chain_none ..
    | answered response =>
      dsimp only
      cases prepareApiBody p out round.encryption files with
      | mk body prepared =>
        cases body with
        | error e => exact chain_none ..
        | ok request =>
          dsimp only [Callback.chain, Callback.run]
          cases round.put with
          | dropped => exact chain_none ..
          | failed => exact chain_none ..
          | answered reply =>
            dsimp only
            by_cases renewed : staleDevices p reply = true
            · rw [if_pos renewed, if_pos renewed]
              dsimp only [Callback.chain, Callback.run]
              cases requestPreKeys p out.username round.keys round.process prepared with
              | mk rebuild rebuilt =>
                cases rebuild with
                | built => exact ih rebuilt
                | _ => exact chain_none ..
            · rw [if_neg renewed, if_neg renewed]
              exact chain_none ..

inductive Step (verify : Verify) where
  | init (config : Config) (draw : AccountDraw)
  | registerAccount (username : String) (draw : AccountDraw)
  | resetAccount
  | addContact (username : String) (forceAdd : Bool)
  | deleteContact (username : String)
  | deleteContactMessages (username tag : String)
  | getContactMessages (username messageTag : String) (decodeAndSave : Bool)
  | decryptSignalMessage (messageTag : String) (receivedMessage : List Char) (draw : Draw)
  | prepareApiBody (out : Outgoing) (encryption : Encryption)
  | sendMessage (out : Outgoing)
  | saveSentMessage (tag username message : String) (timestamp : Int)
  | callback (index : Nat) (answer : Answer verify)

namespace Step

def operation : Step verify → Option (Operation verify)
  | init config draw => some (.init config draw)
  | registerAccount username draw => some (.registerAccount username draw)
  | resetAccount => some .resetAccount
  | deleteContact username => some (.deleteContact username)
  | deleteContactMessages username tag => some (.deleteContactMessages username tag)
  | decryptSignalMessage messageTag receivedMessage draw => some (.decryptSignalMessage messageTag receivedMessage draw)
  | prepareApiBody out encryption => some (.prepareApiBody out encryption)
  | saveSentMessage tag username message timestamp => some (.saveSentMessage tag username message timestamp)
  | addContact _ _ | getContactMessages _ _ _ | sendMessage _ | callback _ _ => none

def request (p : Platform) (files : Files) : Step verify → Option Callback
  | init config draw =>
    match (RNSignalClientModule.init p config draw files).1 with
    | .checking => some .keysCount
    | .registering (.accounts _) => some .accounts
    | _ => none
  | registerAccount username draw =>
    match (SignalClient.registerAccount p username draw files).1 with
    | .accounts _ => some .accounts
    | .attributes _ => none
  | addContact username forceAdd =>
    if !ProtocolStorage.containsSession p ⟨username, 1⟩ files || forceAdd then some (.contactKeys username) else none
  | getContactMessages username messageTag decodeAndSave => some (.contactMessages username messageTag decodeAndSave)
  | sendMessage out => some (.sendTimestamp out)
  | _ => none

/-- The callbacks whose effects a method is to put an end to: those of the conversations that it erases or leaves to
    another user, and for a reset also those of the account. -/
def erases (p : Platform) (files : Files) : Step verify → Callback → Bool
  | init config draw, old =>
    match (RNSignalClientModule.init p config draw files).1, RNSignalClientModule.performSoftReset p files with
    | .registering _, .ok softReset =>
      (!softReset || config.username != some (ProtocolStorage.getLocalUsername p files)) && old.contact.isSome
    | _, _ => false
  | resetAccount, _ => true
  | deleteContact username, old => old.contact == some username
  | _, _ => false

end Step

/-- The files and the callbacks that have not been run. The code does not know which of them are from before an
    erasure. -/
structure Client where
  files : Files
  waiting : List (Pending Callback)

namespace Client

variable (p : Platform)

/-- A callback that follows another one is as old as the call they both belong to. -/
def step (client : Client) : Step verify → Client
  | .callback index answer =>
    match client.waiting[index]? with
    | some pending =>
      let (next, files) := pending.request.run p answer client.files
      ⟨files, client.waiting.eraseIdx index ++ (next.map fun callback => ⟨callback, pending.stale⟩).toList⟩
    | none => client
  | step =>
    let waiting := outdate (step.erases p client.files) client.waiting
    ⟨step.operation.elim client.files fun operation => operation.run p client.files,
      (step.request p client.files).elim waiting fun callback => send callback waiting⟩

def steps (steps : List (Step verify)) (client : Client) : Client := steps.foldl (Client.step p) client

end Client
end PillarSignal.Android
