import PillarSignal.Android.Account
import PillarSignal.Android.Send

namespace PillarSignal.Android

open Storage

/-- What the module does in one go, with what the world contributes: the methods that the app calls,
    and the continuations that run when the server has answered a registration or told how many
    pre keys are left. -/
inductive Operation (verify : Verify) where
  | init (config : Config) (draw : AccountDraw)
  | registerAccount (username : String) (draw : AccountDraw)
  | accountAnswered (exchange : Exchange) (generated : Generated verify)
  | checkRemotePreKeys (exchange : Exchange) (generated : Generated verify)
  | resetAccount
  | addContact (username : String) (forceAdd : Bool) (exchange : Exchange) (process : Process)
  | deleteContact (username : String)
  | deleteContactMessages (username tag : String)
  | getContactMessages (username messageTag : String) (decodeAndSave : Bool) (exchange : Exchange) (draws : Nat → Draw)
  | decryptSignalMessage (messageTag : String) (receivedMessage : List Char) (draw : Draw)
  | prepareApiBody (out : Outgoing) (encryption : Encryption)
  | sendMessage (out : Outgoing) (rounds : List Round)
  | saveSentMessage (tag username message : String) (timestamp : Int)

namespace RNSignalClientModule

/-- The pending messages on the server are deleted as well. -/
def deleteContact (p : Platform) (username : String) (files : Files) : Files :=
  let files := ProtocolStorage.removeIdentity p ⟨username, 1⟩ files
  let files := ProtocolStorage.deleteSession p ⟨username, 1⟩ files
  MessageStorage.deleteAllContactMessages p username files

end RNSignalClientModule

variable {verify : Verify}

structure Batch (verify : Verify) where
  generated : Generated verify
  start : Int
  count : Int

def Operation.batch (p : Platform) (files : Files) : Operation verify → Option (Batch verify)
  | .accountAnswered (.answered _) generated => some ⟨generated, 0, 100⟩
  | .checkRemotePreKeys exchange generated =>
    match SignalClient.checkRemotePreKeys p exchange files with
    | .refill start count => some ⟨generated, start, count⟩
    | _ => none
  | _ => none

def Batch.register (p : Platform) (batch : Batch verify) (files : Files) : Upload × Files :=
  SignalClient.registerPreKeys p batch.generated batch.start batch.count files

def Operation.accountRequest (p : Platform) (files : Files) : Operation verify → Option SignalClient.AccountRequest
  | .init config draw =>
    match (RNSignalClientModule.init p config draw files).1 with
    | .registering request => some request
    | _ => none
  | .registerAccount username draw => some (SignalClient.registerAccount p username draw files).1
  | _ => none

/-- The operation deletes the protocol storage; an `init` that registers does so first. -/
def Operation.wipes (p : Platform) (files : Files) : Operation verify → Bool
  | .init config draw => ((Operation.init config draw : Operation verify).accountRequest p files).isSome
  | .resetAccount => true
  | _ => false

def Operation.run (p : Platform) (files : Files) : Operation verify → Files
  | .init config draw => (RNSignalClientModule.init p config draw files).2
  | .registerAccount username draw => (SignalClient.registerAccount p username draw files).2
  | .accountAnswered exchange generated =>
    match (Operation.accountAnswered exchange generated).batch p files with
    | some batch => (batch.register p files).2
    | none => files
  | .checkRemotePreKeys exchange generated =>
    match (Operation.checkRemotePreKeys exchange generated).batch p files with
    | some batch => (batch.register p files).2
    | none => files
  | .resetAccount => (RNSignalClientModule.resetAccount p files).2
  | .addContact username forceAdd exchange process =>
    (RNSignalClientModule.addContact p username forceAdd exchange process files).2
  | .deleteContact username => RNSignalClientModule.deleteContact p username files
  | .deleteContactMessages username tag => MessageStorage.deleteContactMessages p username tag files
  | .getContactMessages username messageTag decodeAndSave exchange draws =>
    (SignalClient.getContactMessages p username messageTag decodeAndSave exchange draws files).files
  | .decryptSignalMessage messageTag receivedMessage draw =>
    (SignalClient.decryptSignalMessage p messageTag receivedMessage draw files).files
  | .prepareApiBody out encryption => (SignalClient.prepareApiBody p out encryption files).2
  | .sendMessage out rounds => (SignalClient.sendMessage p out rounds files).files
  | .saveSentMessage tag username message timestamp =>
    (SignalClient.saveSentMessage p tag username message timestamp files).2

def runs (p : Platform) (operations : List (Operation verify)) (files : Files) : Files :=
  operations.foldl (fun files operation => operation.run p files) files

def Unwiped (p : Platform) (files : Files) (operations : List (Operation verify)) : Prop :=
  ∀ done operation, done ++ [operation] <+: operations → operation.wipes p (runs p done files) = false

theorem runs_snoc (p : Platform) (done : List (Operation verify)) (operation : Operation verify) (files : Files) :
    runs p (done ++ [operation]) files = operation.run p (runs p done files) := by
  rw [runs, List.foldl_append]
  rfl

theorem Operation.run_accountAnswered (p : Platform) (exchange : Exchange) (generated : Generated verify) (files : Files) :
    (Operation.accountAnswered exchange generated).run p files =
      ((Operation.accountAnswered exchange generated).batch p files).elim files fun batch =>
        (batch.register p files).2 := by
  rw [Operation.run]
  cases (Operation.accountAnswered exchange generated).batch p files <;> rfl

theorem Operation.run_checkRemotePreKeys (p : Platform) (exchange : Exchange) (generated : Generated verify)
    (files : Files) :
    (Operation.checkRemotePreKeys exchange generated).run p files =
      ((Operation.checkRemotePreKeys exchange generated).batch p files).elim files fun batch =>
        (batch.register p files).2 := by
  rw [Operation.run]
  cases (Operation.checkRemotePreKeys exchange generated).batch p files <;> rfl

end PillarSignal.Android
