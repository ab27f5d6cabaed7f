import PillarSignal.Android.Sessions

namespace PillarSignal.Android

open Storage

structure Outgoing where
  username : String
  messageString : String
  userId : Option String
  targetUserId : Option String
  messageTag : String
  silent : Bool
deriving DecidableEq, Repr

/-- What the world contributes to one attempt to send: the server's time, the encryption, the answer
    to the message, and for stale devices the new keys. -/
structure Round where
  timestamp : Exchange
  encryption : Encryption
  put : Exchange
  keys : Exchange
  process : Process

structure Saved where
  entry : Json
  before : Files

structure Sending where
  settlement : Except Thrown (Option Settlement)
  puts : List Exchange
  saved : Option Saved
  files : Files

namespace SignalClient

variable (p : Platform)

def optionalField (name : String) : Option String → JSONObject
  | none | some "" => []
  | some value => [(name, .str value)]

def prepareApiBody (out : Outgoing) (encryption : Encryption) (files : Files) : Except Thrown JSONObject × Files :=
  match encryption with
  | .throws e => (.error e, files)
  | .ciphertext bytes remoteRegistrationId calls =>
    let messageJSONO := [("type", Json.num 1), ("tag", .str out.messageTag)] ++
      optionalField "userId" out.userId ++ optionalField "targetUserId" out.targetUserId ++
      [("destination", .str out.username), ("silent", .bool out.silent), ("content", .str ""),
       ("destinationDeviceId", .num 1), ("destinationRegistrationId", .num remoteRegistrationId),
       ("body", .str (p.texts.bytes.encode bytes))]
    (.ok [("messages", .arr [.obj messageJSONO])], runCalls p ⟨out.username, 1⟩ calls files)

def sentEntry (message : String) (timestamp : Int) (files : Files) : Json :=
  .obj [("content", .str message), ("username", .str (ProtocolStorage.getLocalUsername p files)), ("device", .num 1),
    ("serverTimestamp", .num (timestamp * 1000)), ("savedTimestamp", .num timestamp)]

def saveSentMessage (tag username message : String) (timestamp : Int) (files : Files) : Settlement × Files :=
  (.resolve "ok", MessageStorage.storeMessage p username (sentEntry p message timestamp files) tag files)

def caughtSending (e : Thrown) : Bool := e ∈ [.json, .illegalArgument, .untrustedIdentity, .unsupportedEncoding]

def staleDevices (response : Response) : Bool :=
  (OrgJson.optJSONArray (ServerResponse.getResponseJSONObject p response) "staleDevices").isSome

/-- `sendMessage` under a finite sequence of answers; it sends again once the keys of a stale
    device have been renewed. -/
def sendMessage (out : Outgoing) : List Round → Files → Sending
  | [], files => ⟨.ok none, [], none, files⟩
  | round :: rounds, files =>
    match round.timestamp with
    | .dropped => ⟨.ok none, [], none, files⟩
    | .failed => ⟨.ok (some (nativeFailed .io)), [], none, files⟩
    | .answered response =>
      let timestamp := p.json.optInt (ServerResponse.getResponseJSONObject p response) "timestamp" 0
      let (body, files) := prepareApiBody p out round.encryption files
      match body with
      | .error e => ⟨if caughtSending e then .ok (some (nativeFailed e)) else .error e, [], none, files⟩
      | .ok _ =>
        match round.put with
        | .dropped => ⟨.ok none, [.dropped], none, files⟩
        | .failed => ⟨.ok (some serverFailed), [.failed], none, files⟩
        | .answered response =>
          if staleDevices p response then
            -- staleDevices found, request new user PreKey and retry message send
            match requestPreKeys p out.username round.keys round.process files with
            | (.built, files) =>
              let retried := sendMessage out rounds files
              { retried with puts := .answered response :: retried.puts }
            | (rebuild, files) => ⟨rebuild.settle out.username false, [.answered response], none, files⟩
          else
            let (settlement, after) := saveSentMessage p out.messageTag out.username out.messageString timestamp files
            ⟨.ok (some settlement), [.answered response], some ⟨sentEntry p out.messageString timestamp files, files⟩, after⟩

theorem upkeep_prepareApiBody (out : Outgoing) (encryption : Encryption) (files : Files) :
    ProtocolStorage.Upkeep p files (prepareApiBody p out encryption files).2 := by
  cases encryption with
  | ciphertext bytes remoteRegistrationId calls => exact upkeep_runCalls ..
  | throws e => exact .refl

def Sending.Writes (out : Outgoing) (before : Files) (sending : Sending) : Prop :=
  match sending.saved with
  | none => ProtocolStorage.Upkeep p before sending.files
  | some saved => ProtocolStorage.Upkeep p before saved.before ∧
      sending.files = MessageStorage.storeMessage p out.username saved.entry out.messageTag saved.before

variable {p}

theorem Sending.Writes.after {out : Outgoing} {before between : Files} {sending : Sending}
    (writes : Sending.Writes p out between sending) (upkeep : ProtocolStorage.Upkeep p before between) :
    Sending.Writes p out before sending := by
  unfold Sending.Writes at writes ⊢
  split at writes
  · exact upkeep.trans writes
  · exact ⟨upkeep.trans writes.1, writes.2⟩

theorem settle_unpromised (username : String) (rebuild : Rebuild) :
    rebuild.settle username false ≠ .ok (some (.resolve "ok")) := by
  cases rebuild with
  | failed e => cases caught : caughtRebuilding e <;> simp [Rebuild.settle, caught]
  | _ => simp [Rebuild.settle]

structure Sending.Ended (p : Platform) (files : Files) (sending : Sending) : Prop where
  saved : sending.saved = none
  upkeep : ProtocolStorage.Upkeep p files sending.files
  unresolved : sending.settlement ≠ .ok (some (.resolve "ok"))
  stale : ∀ response, sending.puts.getLast? = some (.answered response) → staleDevices p response = true

/-- What a round does: it ends the sending with nothing saved, the message is taken and saved, or it is sent again with
    new keys. -/
theorem sendMessage_cases (out : Outgoing) (round : Round) (rounds : List Round) (files : Files) :
    Sending.Ended p files (sendMessage p out (round :: rounds) files) ∨
    (∃ time response between, round.timestamp = .answered time ∧ staleDevices p response = false ∧
      ProtocolStorage.Upkeep p files between ∧
      let entry := sentEntry p out.messageString
        (p.json.optInt (ServerResponse.getResponseJSONObject p time) "timestamp" 0) between
      sendMessage p out (round :: rounds) files = ⟨.ok (some (.resolve "ok")), [.answered response], some ⟨entry, between⟩,
        MessageStorage.storeMessage p out.username entry out.messageTag between⟩) ∨
    ∃ response between, staleDevices p response = true ∧ ProtocolStorage.Upkeep p files between ∧
      sendMessage p out (round :: rounds) files = { sendMessage p out rounds between with
        puts := .answered response :: (sendMessage p out rounds between).puts } := by
  have prepared := upkeep_prepareApiBody p out round.encryption files
  rw [sendMessage]
  split
  · exact .inl ⟨rfl, .refl, by simp, by simp⟩
  · exact .inl ⟨rfl, .refl, by simp [nativeFailed], by simp⟩
  · rename_i time asked
    dsimp only
    split
    · refine .inl ⟨rfl, prepared, ?_, by simp⟩
      dsimp only
      split <;> simp [nativeFailed]
    · split
      · exact .inl ⟨rfl, prepared, by simp, by simp⟩
      · exact .inl ⟨rfl, prepared, by simp [serverFailed], by simp⟩
      · rename_i response _
        split
        · rename_i stale
          have rebuilt := @upkeep_requestPreKeys p out.username round.keys round.process
            (prepareApiBody p out round.encryption files).2
          split
          · rename_i between same
            rw [same] at rebuilt
            exact .inr (.inr ⟨response, between, stale, prepared.trans rebuilt, rfl⟩)
          · rename_i between _ same
            rw [same] at rebuilt
            exact .inl ⟨rfl, prepared.trans rebuilt, settle_unpromised _ _, by simp [stale]⟩
        · rename_i fresh
          exact .inr (.inl ⟨time, response, _, asked, by simpa using fresh, prepared, rfl⟩)

theorem sendMessage_writes (out : Outgoing) (rounds : List Round) (files : Files) :
    Sending.Writes p out files (sendMessage p out rounds files) := by
  induction rounds generalizing files with
  | nil => exact ProtocolStorage.Upkeep.refl
  | cons round rounds ih =>
    rcases @sendMessage_cases p out round rounds files with
      ended | ⟨_, _, _, _, _, upkeep, same⟩ | ⟨_, between, _, upkeep, same⟩
    · rw [Sending.Writes, ended.saved]
      exact ended.upkeep
    · rw [same]
      exact ⟨upkeep, rfl⟩
    · rw [same]
      exact (ih between).after upkeep

end SignalClient
end PillarSignal.Android
