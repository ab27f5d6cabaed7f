import PillarSignal.Libsignal.Device
import PillarSignal.Properties.RatchetDelivery

namespace PillarSignal.Libsignal

section

variable {provider : Provider} {store : Store} {id : UInt32} {data : Bytes} {random : Nat → EcPrivateKey}

/-- Data that are a message which names a key, for a session that is not there yet. -/
def Store.AsksWith (store : Store) (id : UInt32) (data : Bytes) : Prop :=
  ∃ message record, PreKeySignalMessage.deserialize data = .ok message ∧ store.sessionLoadSession = .ok record ∧
    message.preKeyId = some id ∧ record.hasSessionState message.version.toUInt32 message.baseKey = false

theorem process_cases {message : PreKeySignalMessage} {record after : SessionRecord} {preKeyId : Option UInt32}
    (unknown : record.hasSessionState message.version.toUInt32 message.baseKey = false)
    (processed : SessionBuilder.processPreKeySignalMessage provider store record message = .ok (after, preKeyId)) :
    (∃ preKey, message.preKeyId.mapM store.preKeyLoadKey = .ok preKey) ∧
      preKeyId = message.preKeyId.filter fun preKeyId => preKeyId != PRE_KEY_MEDIUM_MAX_VALUE := by
  rw [SessionBuilder.processPreKeySignalMessage] at processed
  split at processed
  next =>
    rw [SessionBuilder.processPreKeySignalMessageV3, if_neg (by rw [unknown]; decide)] at processed
    obtain ⟨_, _, later⟩ := bind_eq_ok.mp processed
    obtain ⟨_, _, later⟩ := bind_eq_ok.mp later
    obtain ⟨preKey, found, later⟩ := bind_eq_ok.mp later
    obtain ⟨_, _, later⟩ := bind_eq_ok.mp later
    exact ⟨⟨preKey, found⟩, (Prod.mk.inj (Except.ok.inj later)).2.symm⟩
  next => cases processed

theorem perform_of_gone (asks : store.AsksWith id data) (gone : store.loadPreKey id = none) :
    ∃ error, Request.perform provider store (.decryptPreKeySignalMessage data random) = (.error error, []) := by
  obtain ⟨message, record, decoded, loads, named, unknown⟩ := asks
  rw [Request.perform, decoded]
  dsimp only
  rw [SessionCipher.decryptPreKeySignalMessage, loads, Except.bind]
  cases processed : SessionBuilder.processPreKeySignalMessage provider store record message with
  | error error => exact ⟨error, rfl⟩
  | ok built =>
    obtain ⟨⟨preKey, found⟩, -⟩ := process_cases unknown processed
    rw [named, Option.mapM_some, Store.preKeyLoadKey, gone] at found
    cases found

/-- The key that a message has set up a session with is gone after it was read. -/
theorem loadPreKey_of_read (asks : store.AsksWith id data) (single : id ≠ PRE_KEY_MEDIUM_MAX_VALUE) {response : Response}
    (read : (Request.perform provider store (.decryptPreKeySignalMessage data random)).1 = .ok response) :
    ((Request.decryptPreKeySignalMessage data random).step provider store).loadPreKey id = none := by
  obtain ⟨message, record, decoded, loads, named, unknown⟩ := asks
  rw [Request.step]
  rw [Request.perform, decoded] at read ⊢
  dsimp only at read ⊢
  rw [SessionCipher.decryptPreKeySignalMessage, loads, Except.bind] at read ⊢
  cases processed : SessionBuilder.processPreKeySignalMessage provider store record message with
  | error error =>
    rw [processed] at read
    cases read
  | ok built =>
    obtain ⟨after, preKeyId⟩ := built
    have removed : preKeyId = some id := by
      rw [(process_cases unknown processed).2, named, Option.filter_some, if_pos (bne_iff_ne.mpr single)]
    subst removed
    rw [processed] at read
    dsimp only at read ⊢
    cases decrypted : SessionCipher.decryptFromRecord provider after message.message random with
    | error error =>
      rw [decrypted] at read
      cases read
    | ok result =>
      change (if (id.toNat : Int) = id.toNat then none else _) = none
      exact if_pos rfl

/-- A key that is meant for one session sets up one: once a message that names it was read, no message that names
    it sets up another session, whoever it comes from and whatever happens in between. -/
theorem one_time_pre_key_is_used_once {Address : Type} [DecidableEq Address] {device : Device Address} {sender : Address}
    (asks : (device.store sender).AsksWith id data) (single : id ≠ PRE_KEY_MEDIUM_MAX_VALUE) {response : Response}
    (read : (Request.perform provider (device.store sender) (.decryptPreKeySignalMessage data random)).1 = .ok response)
    (between : List (Address × Request)) (other : Address) {laterData : Bytes} (laterRandom : Nat → EcPrivateKey)
    (asksAgain : (((device.ask provider (sender, .decryptPreKeySignalMessage data random)).run provider between).store
      other).AsksWith id laterData) :
    ∃ error, Request.perform provider
      (((device.ask provider (sender, .decryptPreKeySignalMessage data random)).run provider between).store other)
      (.decryptPreKeySignalMessage laterData laterRandom) = (.error error, []) := by
  have gone := loadPreKey_of_read asks single read
  exact perform_of_gone asksAgain (Device.run_loadPreKey gone between)

end

def greetingOf (store : Store) (baseRandom ratchetRandom : EcPrivateKey) (plaintext : Bytes) : Bytes :=
  match (Request.perform sumProvider ((Request.processPreKeyBundle ownContact.bundle baseRandom ratchetRandom).step sumProvider
      store) (.encrypt plaintext)).1 with
  | .ok (.ciphertext message) => message.serialized
  | _ => []

def carolIdentity : EcKeyPair := curveGenerateKeyPair sumProvider (repeatedKey 40)

def aliceData : Bytes := greetingOf (ownStore .initiator) (repeatedKey 9) (repeatedKey 10) [97]

def carolData : Bytes :=
  greetingOf { ownStore .initiator with
      identityKeyPair := some ⟨⟨ecPublicKeySerialize carolIdentity.publicKey⟩, carolIdentity.privateKey.data⟩ }
    (repeatedKey 20) (repeatedKey 21) [98]

def ownDevice : Device String where
  loadSession _ := none
  containsSession _ := false
  isTrusted _ _ := true
  identityKeyPair := (ownStore .responder).identityKeyPair
  localRegistrationId := (ownStore .responder).localRegistrationId
  loadPreKey := (ownStore .responder).loadPreKey
  loadSignedPreKey := (ownStore .responder).loadSignedPreKey

def asked (store : Store) (data : Bytes) : Option (Option UInt32 × Bool) :=
  (PreKeySignalMessage.deserialize data).toOption.bind fun message => store.sessionLoadSession.toOption.map fun record =>
    (message.preKeyId, record.hasSessionState message.version.toUInt32 message.baseKey)

theorem asksWith_of_asked {store : Store} {id : UInt32} {data : Bytes} (same : asked store data = some (some id, false)) :
    store.AsksWith id data := by
  rw [asked] at same
  obtain ⟨message, decoded, rest⟩ := Option.bind_eq_some_iff.mp same
  obtain ⟨record, loads, pair⟩ := Option.map_eq_some_iff.mp rest
  obtain ⟨named, unknown⟩ := Prod.mk.inj pair
  cases deserialized : PreKeySignalMessage.deserialize data with
  | error error =>
    rw [deserialized] at decoded
    cases decoded
  | ok other =>
    rw [deserialized] at decoded
    cases decoded
    cases loaded : store.sessionLoadSession with
    | error error =>
      rw [loaded] at loads
      cases loads
    | ok there =>
      rw [loaded] at loads
      cases loads
      exact ⟨message, record, deserialized, loaded, named, unknown⟩

/-- A message of alice is read, and one of carol, who has got the same key, is refused. -/
theorem second_use_is_refused : ∃ error, Request.perform sumProvider
    (((ownDevice.ask sumProvider ("alice", .decryptPreKeySignalMessage aliceData fun _ => repeatedKey 11)).run sumProvider
      [("alice", .encrypt [99]), ("carol", .decryptSignalMessage [1, 2, 3] fun _ => repeatedKey 13)]).store "carol")
    (.decryptPreKeySignalMessage carolData fun _ => repeatedKey 12) = (.error error, []) := by
  have facts : asked (ownDevice.store "alice") aliceData = some (some 7, false) ∧
      (Request.perform sumProvider (ownDevice.store "alice") (.decryptPreKeySignalMessage aliceData fun _ =>
        repeatedKey 11)).1 = .ok (.plaintext [97]) ∧
      asked (((ownDevice.ask sumProvider ("alice", .decryptPreKeySignalMessage aliceData fun _ => repeatedKey 11)).run
        sumProvider [("alice", .encrypt [99]), ("carol", .decryptSignalMessage [1, 2, 3] fun _ => repeatedKey 13)]).store
        "carol") carolData = some (some 7, false) := by
    decide +kernel
  obtain ⟨first, read, second⟩ := facts
  exact one_time_pre_key_is_used_once (asksWith_of_asked first) (by decide) read _ _ _ (asksWith_of_asked second)

end PillarSignal.Libsignal
