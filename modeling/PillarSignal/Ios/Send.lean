import PillarSignal.Ios.Sessions

namespace PillarSignal.Ios

open Storage ProtocolStorage

structure Outgoing where
  username : String
  messageString : String
  userId : String
  targetUserId : String
  messageTag : String
  silent : Bool
deriving DecidableEq, Repr

inductive Encryption where
  | ciphertext (message : Bytes) (remoteRegistrationId : Int) (calls : List StoreCall)
  | throws (error : SignalError)
deriving DecidableEq, Repr

/-- What the world contributes to one attempt to send: whether the stores can be set up, the
    encryption, the answer to the message, the time at which it is saved, and for stale devices
    the new keys. -/
structure Round where
  store : Bool
  encryption : Encryption
  put : Exchange
  currentTimestamp : Int
  keysStore : Bool
  keys : Exchange
  process : Process

inductive SendResult where
  | waiting
  | success
  | failure (failure : Failure)
  | crashed
deriving DecidableEq, Repr

structure Sending where
  result : SendResult
  puts : List Exchange
  saved : Option ParsedMessageDTO
  archives : Archives

def Rebuild.ended : Rebuild → SendResult
  | .waiting => .waiting
  | .failure reported => .failure reported
  | .crashed | .overrun => .crashed
  | .built => .success

namespace SignalClient

variable (p : Platform)

def prepareApiBody (store : Bool) (out : Outgoing) (encryption : Encryption) (archives : Archives) :
    Except FailureMessage Dictionary × Archives :=
  if store then
    match encryption with
    | .throws error => (.error (.signal error), archives)
    | .ciphertext data remoteRegistrationId calls =>
      let message := [("type", Json.num 1), ("destination", .str out.username), ("content", .str ""),
          ("tag", .str out.messageTag)] ++
        (if out.userId ≠ "" then [("userId", .str out.userId)] else []) ++
        (if out.targetUserId ≠ "" then [("targetUserId", .str out.targetUserId)] else []) ++
        [("silent", .bool out.silent), ("destinationDeviceId", .num 1),
         ("destinationRegistrationId", .num remoteRegistrationId), ("body", .str (p.base64.encode data))]
      (.ok [("messages", .arr [.obj message])], runCalls p ⟨out.username, 1⟩ calls archives)
  else (.error (.text "Store is invalid"), archives)

/-- The entry of a sent message, written in the name of the client's own user. -/
def sentMessage (self : String) (messageString : String) (timestamp : Int) : ParsedMessageDTO :=
  ⟨[("username", .str self), ("device", .num 1), ("serverTimestamp", .num (timestamp * 1000)),
    ("savedTimestamp", .num timestamp), ("content", .str messageString)]⟩

def saveSentMessage (self messageTag username messageString : String) (timestamp : Int) (archives : Archives) : Archives :=
  MessagesStorage.save (sentMessage self messageString timestamp) username messageTag archives

def sendMessage (self : String) (out : Outgoing) : List Round → Archives → Sending
  | [], archives => ⟨.waiting, [], none, archives⟩
  | round :: rounds, archives =>
    let (params, archives) := prepareApiBody p round.store out round.encryption archives
    match params with
    | .error message => ⟨.failure ⟨.ERR_NATIVE_FAILED, message⟩, [], none, archives⟩
    | .ok _ =>
      match SignalServer.call p round.put with
      | .neither => ⟨.waiting, [round.put], none, archives⟩
      | .failure error => ⟨.failure ⟨.ERR_SERVER_FAILED, .server error⟩, [round.put], none, archives⟩
      | .success dict =>
        if (dict.lookup "staleDevices").isSome then
          -- staleDevices found, request new user PreKey and retry message send
          match requestPreKeys p round.keysStore out.username round.keys round.process archives with
          | (.built, archives) =>
            let retried := sendMessage self out rounds archives
            { retried with puts := round.put :: retried.puts }
          | (rebuild, archives) => ⟨rebuild.ended, [round.put], none, archives⟩
        else
          ⟨.success, [round.put], some (sentMessage self out.messageString round.currentTimestamp),
            saveSentMessage self out.messageTag self out.messageString round.currentTimestamp archives⟩

theorem upkeep_prepareApiBody (store : Bool) (out : Outgoing) (encryption : Encryption) (archives : Archives) :
    Upkeep archives (prepareApiBody p store out encryption archives).2 := by
  unfold prepareApiBody
  split
  · split
    · exact .refl archives
    · exact upkeep_runCalls ..
  · exact .refl archives

def Sending.Writes (self : String) (out : Outgoing) (before : Archives) (sending : Sending) : Prop :=
  match sending.saved with
  | none => Upkeep before sending.archives
  | some message => ∃ between, Upkeep before between ∧
      sending.archives = MessagesStorage.save message self out.messageTag between

variable {p}

theorem Sending.Writes.after {self : String} {out : Outgoing} {before between : Archives} {sending : Sending}
    (writes : Sending.Writes self out between sending) (upkeep : Upkeep before between) :
    Sending.Writes self out before sending := by
  unfold Sending.Writes at writes ⊢
  split at writes
  · exact upkeep.trans writes
  · obtain ⟨last, more, stored⟩ := writes
    exact ⟨last, upkeep.trans more, stored⟩

theorem sendMessage_writes (self : String) (out : Outgoing) (rounds : List Round) (archives : Archives) :
    Sending.Writes self out archives (sendMessage p self out rounds archives) := by
  induction rounds generalizing archives with
  | nil => exact Upkeep.refl archives
  | cons round rounds ih =>
    have prepared := upkeep_prepareApiBody p round.store out round.encryption archives
    unfold sendMessage
    dsimp only
    split
    · exact prepared
    · split
      · exact prepared
      · exact prepared
      · split
        · have rebuilt := upkeep_requestPreKeys p round.keysStore out.username round.keys round.process
            (prepareApiBody p round.store out round.encryption archives).2
          split
          · rename_i between same
            rw [same] at rebuilt
            exact (ih between).after (prepared.trans rebuilt)
          · rename_i between same
            rw [same] at rebuilt
            exact prepared.trans rebuilt
        · exact ⟨_, prepared, rfl⟩

end SignalClient
end PillarSignal.Ios
