import PillarSignal.Ios.Account
import PillarSignal.Ios.Send

namespace PillarSignal.Ios

open Storage ProtocolStorage

/-- What the module does in one go, with what the world contributes: the methods that the app calls,
    and the continuations that run when the server has answered a registration or told how many
    pre keys are left. The client sends in the name of the user `self`. -/
inductive Operation (verify : Verify) where
  | createClient (username : String) (draw : AccountDraw)
  | register (username : String) (draw : AccountDraw)
  | accountAnswered (exchange : Exchange) (generated : Generated verify)
  | checkPreKeys (store : Bool) (exchange : Exchange) (generated : Generated verify)
  | resetAccount
  | addContact (store : Bool) (username : String) (forceAdd : Bool) (exchange : Exchange) (process : Process)
  | deleteContact (store : Bool) (username : String)
  | deleteContactMessages (username messageTag : String)
  | getContactMessages (store : Bool) (username messageTag : String) (decodeAndSave : Bool) (exchange : Exchange)
      (draws : Nat → Draw)
  | decryptSignalMessage (store : Bool) (messageTag : String) (receivedMessage : List Char) (draw : Draw)
  | prepareApiBody (store : Bool) (out : Outgoing) (encryption : Encryption)
  | sendMessage (self : String) (out : Outgoing) (rounds : List Round)
  | saveSentMessage (self messageTag username messageString : String) (timestamp : Int)

namespace SignalClient

def getContactMessages (p : Platform) (store : Bool) (username messageTag : String) (decodeAndSave : Bool)
    (exchange : Exchange) (draws : Nat → Draw) (archives : Archives) : Archives :=
  match SignalServer.call p exchange with
  | .success dict => (parseMessages p store username messageTag decodeAndSave draws dict archives).2
  | _ => archives

/-- For a tag other than `chat` the archived value of the contact is passed on as it is. -/
def getAllContactMessages (messageTag : String) (archives : Archives) : List Dictionary :=
  (MessagesStorage.getAllMessages messageTag archives).members.map fun (key, value) =>
    let messageDict := put "unread" (.num 0) (put "username" (.str key) [])
    if messageTag = "chat" then
      match (MessagesStorage.getMessages key messageTag archives).getLast? with
      | some last => put "lastMessage" (.obj last.dictionary) messageDict
      | none => messageDict
    else put "messages" value messageDict

end SignalClient

namespace RNSignalClientModule

/-- The pending messages on the server are deleted as well. -/
def deleteContact (store : Bool) (username : String) (archives : Archives) : Archives :=
  let archives := if store then SessionStorePillar.deleteSession ⟨username, 1⟩ archives else archives
  let archives := removeRemoteIdentity ⟨username, 1⟩ archives
  MessagesStorage.deleteAllContactMessages username archives

theorem upkeep_deleteContact (store : Bool) (username : String) (archives : Archives) :
    ∃ between, Upkeep archives between ∧
      deleteContact store username archives = MessagesStorage.deleteAllContactMessages username between := by
  refine ⟨_, Upkeep.trans ?_ (upkeep_save (by simp) _ _), rfl⟩
  split
  · exact upkeep_save (by simp) ..
  · exact .refl archives

end RNSignalClientModule

variable {verify : Verify}

structure Batch (verify : Verify) where
  generated : Generated verify
  start : Int
  count : Int

def Operation.batch (p : Platform) (archives : Archives) : Operation verify → Option (Batch verify)
  | .accountAnswered exchange generated =>
    match SignalServer.call p exchange with
    | .success _ => some ⟨generated, 1, 100⟩
    | _ => none
  | .checkPreKeys store exchange generated =>
    match SignalServer.call p exchange with
    | .success dict => (SignalClient.checkPreKeys store dict archives).map fun batch => ⟨generated, batch.1, batch.2⟩
    | _ => none
  | _ => none

def Batch.register (p : Platform) (batch : Batch verify) (archives : Archives) : SignalClient.Registering × Archives :=
  SignalClient.registerPreKeys p batch.generated batch.start batch.count archives

def Operation.run (p : Platform) (archives : Archives) : Operation verify → Archives
  | .createClient username draw => (RNSignalClientModule.createClient username draw archives).2
  | .register username draw => (SignalClient.register username draw archives).2
  | .accountAnswered exchange generated =>
    match (Operation.accountAnswered exchange generated).batch p archives with
    | some batch => (batch.register p archives).2
    | none => archives
  | .checkPreKeys store exchange generated =>
    match (Operation.checkPreKeys store exchange generated).batch p archives with
    | some batch => (batch.register p archives).2
    | none => archives
  | .resetAccount => RNSignalClientModule.resetAccount archives
  | .addContact store username forceAdd exchange process =>
    (RNSignalClientModule.addContact p store username forceAdd exchange process archives).2
  | .deleteContact store username => RNSignalClientModule.deleteContact store username archives
  | .deleteContactMessages username messageTag => MessagesStorage.deleteContactMessages username messageTag archives
  | .getContactMessages store username messageTag decodeAndSave exchange draws =>
    SignalClient.getContactMessages p store username messageTag decodeAndSave exchange draws archives
  | .decryptSignalMessage store messageTag receivedMessage draw =>
    (SignalClient.decryptSignalMessage p store messageTag receivedMessage draw archives).2
  | .prepareApiBody store out encryption => (SignalClient.prepareApiBody p store out encryption archives).2
  | .sendMessage self out rounds => (SignalClient.sendMessage p self out rounds archives).archives
  | .saveSentMessage self messageTag username messageString timestamp =>
    SignalClient.saveSentMessage self messageTag username messageString timestamp archives

def runs (p : Platform) (operations : List (Operation verify)) (archives : Archives) : Archives :=
  operations.foldl (fun archives operation => operation.run p archives) archives

/-- The operation deletes the protocol archives; a `createClient` that registers does so first. -/
def Operation.wipes (archives : Archives) : Operation verify → Bool
  | .createClient username draw => (RNSignalClientModule.createClient username draw archives).1 ≠ .checking
  | .resetAccount => true
  | _ => false

def Unwiped (p : Platform) (archives : Archives) (operations : List (Operation verify)) : Prop :=
  ∀ done operation, done ++ [operation] <+: operations → operation.wipes (runs p done archives) = false

theorem runs_snoc (p : Platform) (done : List (Operation verify)) (operation : Operation verify) (archives : Archives) :
    runs p (done ++ [operation]) archives = operation.run p (runs p done archives) := by
  rw [runs, List.foldl_append]
  rfl

theorem Operation.run_accountAnswered (p : Platform) (exchange : Exchange) (generated : Generated verify)
    (archives : Archives) :
    (Operation.accountAnswered exchange generated).run p archives =
      ((Operation.accountAnswered exchange generated).batch p archives).elim archives fun batch =>
        (batch.register p archives).2 := by
  rw [Operation.run]
  cases (Operation.accountAnswered exchange generated).batch p archives <;> rfl

theorem Operation.run_checkPreKeys (p : Platform) (store : Bool) (exchange : Exchange) (generated : Generated verify)
    (archives : Archives) :
    (Operation.checkPreKeys store exchange generated).run p archives =
      ((Operation.checkPreKeys store exchange generated).batch p archives).elim archives fun batch =>
        (batch.register p archives).2 := by
  rw [Operation.run]
  cases (Operation.checkPreKeys store exchange generated).batch p archives <;> rfl

end PillarSignal.Ios
