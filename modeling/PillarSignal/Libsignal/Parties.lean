import PillarSignal.Libsignal.Conversation

namespace PillarSignal.Libsignal

open Delivery

variable {provider : Provider}

structure Store.Holds (store : Store) (record : SessionRecord) : Prop where
  wellFormed : record.WellFormed
  session : store.loadSession.map SessionRecord.deserialize = some (.ok record)
  contains : store.containsSession = true

namespace Store.Holds

variable {store : Store} {record : SessionRecord}

theorem loads (holds : store.Holds record) : store.sessionLoadSession = .ok record := by
  obtain ⟨data, there, decoded⟩ := Option.map_eq_some_iff.mp holds.session
  rw [sessionLoadSession, there]
  exact decoded

theorem state_eq (holds : store.Holds record) : (store.loadSession.bind fun data =>
    (SessionRecord.deserialize data).toOption.map SessionRecord.state) = some record.state := by
  obtain ⟨data, there, decoded⟩ := Option.map_eq_some_iff.mp holds.session
  rw [there, Option.bind_some, decoded]
  rfl

theorem unique {other : SessionRecord} (holds : store.Holds record) (also : store.Holds other) : other = record := by
  have same := also.session.symm.trans holds.session
  exact Except.ok.inj (Option.some.inj same)

theorem stores (wellFormed : record.WellFormed) (store : Store) :
    (store.run (sessionStoreSession record)).Holds { record with isFresh := false } :=
  ⟨⟨wellFormed.state, wellFormed.previousStates, wellFormed.few⟩,
    congrArg some (SessionRecord.deserialize_serialize wellFormed), rfl⟩

theorem saveIdentity (holds : store.Holds record) (identityKey : EcPublicKey) :
    (store.run (identitySaveIdentity identityKey)).Holds record := ⟨holds.wellFormed, holds.session, holds.contains⟩

theorem removePreKey (holds : store.Holds record) (preKeyId : UInt32) : (store.run (preKeyRemoveKey preKeyId)).Holds record :=
  ⟨holds.wellFormed, holds.session, holds.contains⟩

end Store.Holds

/-- What the reader of a message needs: the epochs up to the last one have different key pairs, a new
    one is different from all of them, and no counter has come to its end. -/
structure Legible (provider : Provider) (agreement : Agreement) (side : Side limits) (last : Nat) (random : EcPrivateKey)
    (message : Message) : Prop where
  sound : agreement.Sound provider last
  begun : side.epoch ≤ last
  reached : last ≤ side.epoch + 1
  within : message.epoch ≤ last
  fresh : ∀ epoch ≤ last, (agreement.keys epoch).publicKey ≠ (curveGenerateKeyPair provider random).publicKey
  bounded : ∀ window, side.find message.epoch = some window → window.next < 2 ^ 32
  small : message.counter < 2 ^ 32

/-- A record with the session of a party, and with no other one. -/
structure Session (provider : Provider) (agreement : Agreement) (role : Role) (side : Side limits) (record : SessionRecord) :
    Prop where
  only : record.previousStates = []
  represents : Represents provider agreement role side record.state

variable {agreement : Agreement} {role : Role} {side : Side limits} {record : SessionRecord}

namespace Session

theorem decrypt_error (session : Session provider agreement role side record) (wellFormed : record.WellFormed)
    {message : SignalMessage} {random : Nat → EcPrivateKey} {error : SgErr}
    (refused : SessionCipher.decryptFromState provider record.state message (random 0) = .error error) :
    SessionCipher.decryptFromRecord provider record message random = .error error := by
  rw [SessionCipher.decryptFromRecord, SessionState.copy_eq wellFormed.state]
  dsimp only
  rw [refused, session.only]
  cases error <;> rfl

theorem decrypt_ok (session : Session provider agreement role side record) (wellFormed : record.WellFormed)
    {message : SignalMessage} {random : Nat → EcPrivateKey} {plaintext : Bytes} {final : SessionState}
    (decrypted : SessionCipher.decryptFromState provider record.state message (random 0) = .ok (plaintext, final))
    {later : Agreement} {after : Side limits} (represents : Represents provider later role after final) :
    SessionCipher.decryptFromRecord provider record message random = .ok (plaintext, record.setState final) ∧
      (record.setState final).WellFormed ∧ Session provider later role after (record.setState final) := by
  refine ⟨?_, wellFormed.setState (SessionCipher.decryptFromState_wellFormed wellFormed.state decrypted), session.only,
    represents⟩
  rw [SessionCipher.decryptFromRecord, SessionState.copy_eq wellFormed.state]
  dsimp only
  rw [decrypted]

section

variable (session : Session provider agreement role side record) (wellFormed : record.WellFormed) {last : Nat}
  {random : Nat → EcPrivateKey} {message : Message} (legible : Legible provider agreement side last (random 0) message)
  (previousCounter : UInt32) (plaintext : Bytes)

include session wellFormed legible

theorem decrypt_of_accept {after : Side limits} (accepted : side.accept message.epoch message.counter = .ok after) :
    ∃ final, SessionCipher.decryptFromRecord provider record (agreement.message provider role.other message.epoch
        message.counter previousCounter plaintext) random = .ok (plaintext, final) ∧
      final.WellFormed ∧
      Session provider (agreement.learn side message.epoch (curveGenerateKeyPair provider (random 0))) role after final ∧
      SameSession record.state final.state ∧ final.state.pendingPreKey = none := by
  obtain ⟨final, decrypted, represents, same, answered⟩ := session.represents.decryptFromState_of_accept legible.sound
    legible.begun legible.reached legible.within legible.fresh legible.bounded legible.small previousCounter plaintext accepted
  obtain ⟨read, kept, later⟩ := session.decrypt_ok wellFormed decrypted represents
  exact ⟨_, read, kept, later, same, answered⟩

theorem decrypt_of_refusal {refusal : Refusal} (refused : side.accept message.epoch message.counter = .error refusal)
    (known : refusal ≠ .stray) :
    SessionCipher.decryptFromRecord provider record (agreement.message provider role.other message.epoch message.counter
      previousCounter plaintext) random = .error (errorOf refusal) :=
  session.decrypt_error wellFormed (session.represents.decryptFromState_of_refusal legible.sound legible.begun legible.reached
    legible.within legible.fresh legible.bounded legible.small previousCounter plaintext refused known)

end

theorem setFresh (session : Session provider agreement role side record) (isFresh : Bool) :
    Session provider agreement role side { record with isFresh := isFresh } := ⟨session.only, session.represents⟩

theorem learn (session : Session provider agreement role side record) {other : Side limits}
    (behind : side.epoch ≤ other.epoch + 1) (epoch : Nat) (pair : EcKeyPair) :
    Session provider (agreement.learn other epoch pair) role side record :=
  ⟨session.only, session.represents.learn behind epoch pair⟩

end Session

namespace Contact

variable (contact : Contact provider) (baseRandom ratchetRandom : EcPrivateKey)

def pending : PendingPreKey :=
  ⟨contact.preKey.map SessionPreKey.id, contact.signedPreKey.id, some (curveGenerateKeyPair provider baseRandom).publicKey⟩

def preKeyMessage (registrationId : UInt32) (message : SignalMessage) : PreKeySignalMessage :=
  .create 3 registrationId (contact.preKey.map SessionPreKey.id) contact.signedPreKey.id
    (curveGenerateKeyPair provider baseRandom).publicKey (contact.identity .initiator).publicKey message

def aliceParameters : AliceParameters where
  ourIdentityKey := contact.identity .initiator
  ourBaseKey := curveGenerateKeyPair provider baseRandom
  theirIdentityKey := (contact.identity .responder).publicKey
  theirSignedPreKey := contact.signedPreKey.keyPair.publicKey
  theirOneTimePreKey := contact.preKey.map fun key => key.keyPair.publicKey
  theirRatchetKey := contact.signedPreKey.keyPair.publicKey

def bobParameters : BobParameters where
  ourIdentityKey := contact.identity .responder
  ourSignedPreKey := contact.signedPreKey.keyPair
  ourOneTimePreKey := contact.preKey.map SessionPreKey.keyPair
  ourRatchetKey := contact.signedPreKey.keyPair
  theirIdentityKey := (contact.identity .initiator).publicKey
  theirBaseKey := (curveGenerateKeyPair provider baseRandom).publicKey

def agreed : Agreement where
  secret := (contact.aliceParameters baseRandom).secret provider
  keys
    | 0 => contact.signedPreKey.keyPair
    | _ + 1 => curveGenerateKeyPair provider ratchetRandom
  identity role := (contact.identity role).publicKey

theorem secret_agreed : (contact.aliceParameters baseRandom).secret provider = (contact.bobParameters baseRandom).secret provider := by
  have oneTime : contact.preKey.map (fun key => key.keyPair.publicKey) =
      (contact.preKey.map SessionPreKey.keyPair).map EcKeyPair.publicKey := by
    rw [Option.map_map]
    rfl
  have valid : ∀ pair ∈ contact.preKey.map SessionPreKey.keyPair, pair.Valid provider := by
    intro pair member
    obtain ⟨key, there, rfl⟩ := Option.map_eq_some_iff.mp member
    exact contact.preKeyValid key there
  rw [aliceParameters, oneTime]
  exact secret_eq (contact.identityValid .initiator) (contact.identityValid .responder)
    (curveGenerateKeyPair_valid provider baseRandom) contact.signedPreKeyValid valid

end Contact

/-- A packet that was made as a message of the agreement, alone or within one that sets up the session. -/
structure Carries (contact : Contact provider) (baseRandom : EcPrivateKey) (agreement : Agreement) (message : Message)
    (packet : Packet) : Prop where
  sender : packet.sender = message.sender
  fits : ∀ key iv, (provider.encryptCBC key iv packet.plaintext).length < 2 ^ 31
  content : ∃ inner previousCounter,
    inner = agreement.message provider message.sender message.epoch message.counter previousCounter packet.plaintext ∧
    (packet.message = .signal inner ∨ message.sender = .initiator ∧ ∃ registrationId,
      packet.message = .preKey (contact.preKeyMessage baseRandom registrationId inner))

/-- What a party keeps of the way in which the session was set up. -/
def Marked (contact : Contact provider) (baseRandom : EcPrivateKey) (store : Store) (state : SessionState) : Role → Prop
  | .initiator => state.pendingPreKey = none ∨ state.pendingPreKey = some (contact.pending baseRandom)
  | .responder => state.pendingPreKey = none ∧
    state.aliceBaseKey = some (curveGenerateKeyPair provider baseRandom).publicKey ∧
    store.identityIsTrustedIdentity (contact.identity .initiator).publicKey = true

structure Party (contact : Contact provider) (baseRandom : EcPrivateKey) (agreement : Agreement) (role : Role)
    (side : Side limits) (store : Store) (record : SessionRecord) : Prop where
  holds : store.Holds record
  session : Session provider agreement role side record
  marked : Marked contact baseRandom store record.state role

structure Awaiting (contact : Contact provider) (store : Store) : Prop where
  noSession : store.loadSession = none
  identity : store.identityGetKeyPair = .ok (contact.identity .responder)
  registered : store.localRegistrationId.isSome = true
  signedPreKey : store.signedPreKeyLoadKey contact.signedPreKey.id = .ok contact.signedPreKey
  preKey : ∀ key ∈ contact.preKey, store.preKeyLoadKey key.id = .ok key
  trusts : store.identityIsTrustedIdentity (contact.identity .initiator).publicKey = true

variable {contact : Contact provider} {baseRandom ratchetRandom : EcPrivateKey}

namespace Carries

variable {message : Message} {packet : Packet}

theorem learn (carries : Carries contact baseRandom agreement message packet) (before : message.epoch ≤ side.epoch + 1)
    (epoch : Nat) (pair : EcKeyPair) : Carries contact baseRandom (agreement.learn side epoch pair) message packet := by
  obtain ⟨inner, previousCounter, rfl, content⟩ := carries.content
  exact ⟨carries.sender, carries.fits, _, previousCounter, (Agreement.learn_message pair before ..).symm, content⟩

theorem inner_eq (carries : Carries contact baseRandom agreement message packet) : ∃ previousCounter,
    packet.message.inner = agreement.message provider message.sender message.epoch message.counter previousCounter
      packet.plaintext := by
  obtain ⟨inner, previousCounter, rfl, alone | ⟨-, registrationId, around⟩⟩ := carries.content
  · rw [alone]
    exact ⟨previousCounter, rfl⟩
  · rw [around]
    exact ⟨previousCounter, rfl⟩

theorem ratchetKey_eq (carries : Carries contact baseRandom agreement message packet) :
    packet.message.ratchetKey = (agreement.keys message.epoch).publicKey := by
  obtain ⟨previousCounter, same⟩ := carries.inner_eq
  rw [CiphertextMessage.ratchetKey, same]
  rfl

end Carries

section

variable {plaintext : Bytes} (fits : ∀ key iv, (provider.encryptCBC key iv plaintext).length < 2 ^ 31) (sender : Role)
  (epoch counter : Nat) (previousCounter registrationId : UInt32)

include fits

theorem ciphertext_short :
    (SessionCipher.getCiphertext provider 3 (agreement.messageKeys provider epoch counter) plaintext).length < 2 ^ 31 := by
  rw [SessionCipher.getCiphertext, if_pos (by decide)]
  exact fits ..

theorem deserialize_message :
    SignalMessage.deserialize (agreement.message provider sender epoch counter previousCounter plaintext).serialized =
      .ok (agreement.message provider sender epoch counter previousCounter plaintext) := by
  have short := @ciphertext_short _ agreement _ fits epoch counter
  exact SignalMessage.deserialize_create (.inr rfl) _ _ _ _ (by omega) _ _

theorem deserialize_preKeyMessage :
    PreKeySignalMessage.deserialize (contact.preKeyMessage baseRandom registrationId
        (agreement.message provider sender epoch counter previousCounter plaintext)).serialized =
      .ok (contact.preKeyMessage baseRandom registrationId
        (agreement.message provider sender epoch counter previousCounter plaintext)) := by
  have short := @ciphertext_short _ agreement _ fits epoch counter
  have length := @SignalMessage.create_length_le provider 3 (agreement.messageKeys provider epoch counter).macKey
    (agreement.keys epoch).publicKey (UInt32.ofNat counter) previousCounter _ (by omega : (SessionCipher.getCiphertext provider
      3 (agreement.messageKeys provider epoch counter) plaintext).length < 2 ^ 32 - 5) (agreement.identity sender)
    (agreement.identity sender.other)
  refine PreKeySignalMessage.deserialize_create _ _ _ _ _ ?_ (deserialize_message fits ..) rfl
  rw [Agreement.message]
  omega

end

section

variable {store : Store} {data : Bytes} {random : Nat → EcPrivateKey} {record after : SessionRecord} {plaintext : Bytes}
  {error : SgErr}

theorem perform_signal_ok {message : SignalMessage} (holds : store.Holds record)
    (decoded : SignalMessage.deserialize data = .ok message)
    (decrypted : SessionCipher.decryptFromRecord provider record message random = .ok (plaintext, after)) :
    Request.perform provider store (.decryptSignalMessage data random) =
      (.ok (.plaintext plaintext), [sessionStoreSession after]) := by
  have inside : SessionCipher.decryptSignalMessage provider store message random =
      .ok (plaintext, [sessionStoreSession after]) := by
    rw [SessionCipher.decryptSignalMessage, if_pos holds.contains, holds.loads]
    change (SessionCipher.decryptFromRecord provider record message random >>= _) = _
    rw [decrypted]
    rfl
  rw [Request.perform, decoded, Except.bind, inside]

theorem perform_signal_error {message : SignalMessage} (holds : store.Holds record)
    (decoded : SignalMessage.deserialize data = .ok message)
    (refused : SessionCipher.decryptFromRecord provider record message random = .error error) :
    Request.perform provider store (.decryptSignalMessage data random) = (.error error, []) := by
  have inside : SessionCipher.decryptSignalMessage provider store message random = .error error := by
    rw [SessionCipher.decryptSignalMessage, if_pos holds.contains, holds.loads]
    change (SessionCipher.decryptFromRecord provider record message random >>= _) = _
    rw [refused]
    rfl
  rw [Request.perform, decoded, Except.bind, inside]

variable {message : PreKeySignalMessage} {preKeyId : Option UInt32}
  (decoded : PreKeySignalMessage.deserialize data = .ok message)
  (processed : (store.sessionLoadSession.bind fun loaded =>
    SessionBuilder.processPreKeySignalMessage provider store loaded message) = .ok (record, preKeyId))

include decoded processed

theorem perform_preKey_ok
    (decrypted : SessionCipher.decryptFromRecord provider record message.message random = .ok (plaintext, after)) :
    Request.perform provider store (.decryptPreKeySignalMessage data random) =
      (.ok (.plaintext plaintext), [identitySaveIdentity message.identityKey, sessionStoreSession after] ++
        (preKeyId.map preKeyRemoveKey).toList) := by
  rw [Request.perform, decoded]
  dsimp only
  rw [SessionCipher.decryptPreKeySignalMessage, processed]
  dsimp only
  rw [decrypted]
  rfl

theorem perform_preKey_error
    (refused : SessionCipher.decryptFromRecord provider record message.message random = .error error) :
    Request.perform provider store (.decryptPreKeySignalMessage data random) =
      (.error error, [identitySaveIdentity message.identityKey]) := by
  rw [Request.perform, decoded]
  dsimp only
  rw [SessionCipher.decryptPreKeySignalMessage, processed]
  dsimp only
  rw [refused]
  rfl

end

/-- A message that sets up the session once more is read with the session there is. -/
theorem Party.process {store : Store} (party : Party contact baseRandom agreement .responder side store record)
    (registrationId : UInt32) (inner : SignalMessage) :
    (store.sessionLoadSession.bind fun loaded => SessionBuilder.processPreKeySignalMessage provider store loaded
      (contact.preKeyMessage baseRandom registrationId inner)) = .ok (record, none) := by
  obtain ⟨-, base, trusts⟩ := party.marked
  have has : record.hasSessionState 3 (curveGenerateKeyPair provider baseRandom).publicKey = true := by
    rw [SessionRecord.hasSessionState, List.any_cons, party.session.represents.version, base, beq_self_eq_true,
      beq_self_eq_true]
    rfl
  rw [party.holds.loads, Except.bind, SessionBuilder.processPreKeySignalMessage]
  change (if store.identityIsTrustedIdentity (contact.identity .initiator).publicKey then _ else _) = _
  rw [if_pos trusts, SessionBuilder.processPreKeySignalMessageV3]
  exact if_pos has

theorem Awaiting.process {store : Store} (awaiting : Awaiting contact store) (registrationId : UInt32) (inner : SignalMessage) :
    ∃ record preKeyId, (store.sessionLoadSession.bind fun loaded => SessionBuilder.processPreKeySignalMessage provider store
        loaded (contact.preKeyMessage baseRandom registrationId inner)) = .ok (record, preKeyId) ∧
      record.WellFormed ∧
      Session provider (contact.agreed baseRandom ratchetRandom) .responder (.published limits) record ∧
      record.state.pendingPreKey = none ∧
      record.state.aliceBaseKey = some (curveGenerateKeyPair provider baseRandom).publicKey := by
  have load : store.sessionLoadSession = .ok (.create none) := by
    rw [Store.sessionLoadSession, awaiting.noSession]
  have loaded : (SessionRecord.create none).Loaded :=
    ⟨⟨.create, fun _ absent => absurd absent List.not_mem_nil, Nat.zero_le _⟩, fun _ => rfl⟩
  obtain ⟨registration, registered⟩ := Option.isSome_iff_exists.mp awaiting.registered
  have preKeys : (contact.preKey.map SessionPreKey.id).mapM store.preKeyLoadKey = .ok contact.preKey := by
    cases there : contact.preKey with
    | none => rfl
    | some key =>
      rw [Option.map_some, Option.mapM_some, awaiting.preKey key there]
      rfl
  have registrationLookup : store.identityGetLocalRegistrationId = .ok registration := by
    rw [Store.identityGetLocalRegistrationId, registered]
  have processed : (store.sessionLoadSession.bind fun loaded => SessionBuilder.processPreKeySignalMessage provider store
        loaded (contact.preKeyMessage baseRandom registrationId inner)) =
      .ok ((SessionRecord.create none).setState
          { ratchetingSessionBobInitialize provider (contact.bobParameters baseRandom) .create with
            localRegistrationId := registration
            remoteRegistrationId := registrationId
            aliceBaseKey := some (curveGenerateKeyPair provider baseRandom).publicKey },
        (contact.preKey.map SessionPreKey.id).filter fun preKeyId => preKeyId != PRE_KEY_MEDIUM_MAX_VALUE) := by
    rw [load, Except.bind, SessionBuilder.processPreKeySignalMessage]
    change (if store.identityIsTrustedIdentity (contact.identity .initiator).publicKey then _ else _) = _
    rw [if_pos awaiting.trusts, SessionBuilder.processPreKeySignalMessageV3]
    change (store.signedPreKeyLoadKey contact.signedPreKey.id >>= _) = _
    rw [awaiting.signedPreKey]
    change (store.identityGetKeyPair >>= _) = _
    rw [awaiting.identity]
    change ((contact.preKey.map SessionPreKey.id).mapM store.preKeyLoadKey >>= _) = _
    rw [preKeys]
    change (store.identityGetLocalRegistrationId >>= _) = _
    rw [registrationLookup]
    rfl
  have represents : Represents provider (contact.agreed baseRandom ratchetRandom) .responder (.published limits)
      (ratchetingSessionBobInitialize provider (contact.bobParameters baseRandom) .create) :=
    bobInitialize_represents (contact.secret_agreed baseRandom) rfl rfl rfl
  have wellFormed := SessionBuilder.processPreKeySignalMessage_wellFormed loaded (by rw [load] at processed; exact processed)
  exact ⟨_, _, processed, wellFormed, ⟨rfl, ⟨represents.version, represents.localIdentity, represents.remoteIdentity,
    represents.rootKey, represents.senderChain, represents.receiverChains⟩⟩, rfl, rfl⟩

theorem Request.step_of_perform {store : Store} {request : Request} {result : Except SgErr Response} {calls : List StoreCall}
    (performed : request.perform provider store = (result, calls)) : request.step provider store = store.runAll calls := by
  rw [Request.step, performed]

theorem trusts_saved (store : Store) (identityKey : EcPublicKey) :
    (store.run (identitySaveIdentity identityKey)).identityIsTrustedIdentity identityKey = true := beq_self_eq_true _

section

variable {store : Store} {state : SessionState}

theorem Marked.of_same (marked : Marked contact baseRandom store state role) {after : Store} {final : SessionState}
    (same : SameSession state final) (pending : final.pendingPreKey = state.pendingPreKey)
    (trusts : after.isTrusted = store.isTrusted) : Marked contact baseRandom after final role := by
  cases role with
  | initiator =>
    rw [Marked, pending]
    exact marked
  | responder =>
    rw [Marked, pending, same.aliceBaseKey, Store.identityIsTrustedIdentity, trusts]
    exact marked

theorem Marked.answered (marked : Marked contact baseRandom store state role) {after : Store} {final : SessionState}
    (same : SameSession state final) (pending : final.pendingPreKey = none)
    (trusts : after.isTrusted = store.isTrusted) : Marked contact baseRandom after final role := by
  cases role with
  | initiator => exact .inl pending
  | responder =>
    obtain ⟨-, base, trusted⟩ := marked
    rw [Marked, same.aliceBaseKey, Store.identityIsTrustedIdentity, trusts]
    exact ⟨pending, base, trusted⟩

theorem Marked.wrap (marked : Marked contact baseRandom store state role) (version : state.sessionVersion = 3)
    (inner : SignalMessage) :
    ∃ message, SessionCipher.wrap state (contact.identity role).publicKey inner = .ok message ∧
      (state.pendingPreKey = none ∧ message = .signal inner ∨ role = .initiator ∧ ∃ registrationId,
        message = .preKey (contact.preKeyMessage baseRandom registrationId inner)) := by
  have alone : state.pendingPreKey = none → SessionCipher.wrap state (contact.identity role).publicKey inner =
      .ok (.signal inner) := by
    intro nothing
    rw [SessionCipher.wrap, nothing]
  cases role with
  | initiator =>
    rcases marked with nothing | pending
    · exact ⟨_, alone nothing, .inl ⟨nothing, rfl⟩⟩
    · refine ⟨_, ?_, .inr ⟨rfl, state.localRegistrationId, rfl⟩⟩
      rw [SessionCipher.wrap, pending, Contact.pending]
      dsimp only
      rw [version]
      rfl
  | responder => exact ⟨_, alone marked.1, .inl ⟨marked.1, rfl⟩⟩

end

theorem eq_responder (initiator : role.other = .initiator) : role = .responder := by
  rw [← Role.other_other role, initiator]
  rfl

theorem eq_initiator (responder : role.other = .responder) : role = .initiator := by
  rw [← Role.other_other role, responder]
  rfl

namespace Party

variable {store : Store}

theorem learn (party : Party contact baseRandom agreement role side store record) {other : Side limits}
    (behind : side.epoch ≤ other.epoch + 1) (epoch : Nat) (pair : EcKeyPair) :
    Party contact baseRandom (agreement.learn other epoch pair) role side store record :=
  ⟨party.holds, party.session.learn behind epoch pair, party.marked⟩

theorem encrypt_eq (party : Party contact baseRandom agreement role side store record)
    (identity : agreement.identity role = (contact.identity role).publicKey) (plaintext : Bytes) :
    ∃ message final inner previousCounter,
      (Request.perform provider store (.encrypt plaintext)).1 = .ok (.ciphertext message) ∧
      Party contact baseRandom agreement role side.countSent ((Request.encrypt plaintext).step provider store) final ∧
      final.state.pendingPreKey = record.state.pendingPreKey ∧
      inner = agreement.message provider role side.epoch side.sent previousCounter plaintext ∧
      (record.state.pendingPreKey = none ∧ message = .signal inner ∨ role = .initiator ∧ ∃ registrationId,
        message = .preKey (contact.preKeyMessage baseRandom registrationId inner)) := by
  obtain ⟨final, encrypted, represents, same, pending⟩ := party.session.represents.encryptState_eq plaintext
  obtain ⟨message, wrapped, content⟩ := party.marked.wrap party.session.represents.version
    (agreement.message provider role side.epoch side.sent record.state.previousCounter plaintext)
  rw [identity, wrapped] at encrypted
  have performed : Request.perform provider store (.encrypt plaintext) =
      (.ok (.ciphertext message), [sessionStoreSession (record.setState final)]) := by
    have inside : SessionCipher.encrypt provider store plaintext =
        .ok (message, [sessionStoreSession (record.setState final)]) := by
      rw [SessionCipher.encrypt, party.holds.loads]
      change (SessionCipher.encryptState provider record.state plaintext >>= _) = _
      rw [encrypted]
      rfl
    rw [Request.perform, inside]
  have wellFormed := party.holds.wellFormed.setState
    (SessionCipher.encryptState_wellFormed party.holds.wellFormed.state encrypted)
  refine ⟨message, { record.setState final with isFresh := false }, _, _, by rw [performed], ?_, pending, rfl, content⟩
  rw [Request.step_of_perform performed]
  exact ⟨.stores wellFormed store, ⟨party.session.only, represents⟩, party.marked.of_same same pending rfl⟩

section

variable (party : Party contact baseRandom agreement role side store record) {last : Nat} {random : Nat → EcPrivateKey}
  {message : Message} {packet : Packet} (carries : Carries contact baseRandom agreement message packet)
  (receiver : message.sender = role.other)

include party carries receiver

theorem read_of_accept (legible : Legible provider agreement side last (random 0) message) {after : Side limits}
    (accepted : side.accept message.epoch message.counter = .ok after) :
    ∃ final, (Request.perform provider store (packet.message.request random)).1 = .ok (.plaintext packet.plaintext) ∧
      Party contact baseRandom (agreement.learn side message.epoch (curveGenerateKeyPair provider (random 0))) role after
        ((packet.message.request random).step provider store) final ∧ final.state.pendingPreKey = none := by
  obtain ⟨inner, previousCounter, rfl, content⟩ := carries.content
  obtain ⟨final, decrypted, wellFormed, session, same, answered⟩ := party.session.decrypt_of_accept party.holds.wellFormed
    legible previousCounter packet.plaintext accepted
  rw [← receiver] at decrypted
  rcases content with alone | ⟨initiator, registrationId, around⟩
  · have performed := perform_signal_ok party.holds (deserialize_message carries.fits ..) decrypted
    rw [alone, CiphertextMessage.request]
    refine ⟨{ final with isFresh := false }, by rw [performed], ?_, answered⟩
    rw [Request.step_of_perform performed]
    exact ⟨.stores wellFormed store, session.setFresh false, party.marked.answered same answered rfl⟩
  · have own := eq_responder (receiver.symm.trans initiator)
    subst own
    have performed := perform_preKey_ok (deserialize_preKeyMessage carries.fits ..) (party.process registrationId _) decrypted
    rw [around, CiphertextMessage.request]
    refine ⟨{ final with isFresh := false }, by rw [performed], ?_, answered⟩
    rw [Request.step_of_perform performed]
    obtain ⟨-, base, -⟩ := party.marked
    exact ⟨.stores wellFormed _, session.setFresh false, answered, same.aliceBaseKey.trans base, trusts_saved store _⟩

/-- A packet is read if and only if the message in it is decrypted, and changes nothing of the session if it is not. -/
theorem read_cases :
    (∀ text after, SessionCipher.decryptFromRecord provider record packet.message.inner random = .ok (text, after) →
      (Request.perform provider store (packet.message.request random)).1 = .ok (.plaintext text)) ∧
    ∀ error, SessionCipher.decryptFromRecord provider record packet.message.inner random = .error error →
      (Request.perform provider store (packet.message.request random)).1 = .error error ∧
        Party contact baseRandom agreement role side ((packet.message.request random).step provider store) record := by
  obtain ⟨inner, previousCounter, rfl, content⟩ := carries.content
  rcases content with alone | ⟨initiator, registrationId, around⟩
  · rw [alone, CiphertextMessage.request]
    refine ⟨?_, ?_⟩
    · intro text after decrypted
      rw [perform_signal_ok party.holds (deserialize_message carries.fits ..) decrypted]
    · intro error refused
      have performed := perform_signal_error party.holds (deserialize_message carries.fits ..) refused
      rw [Request.step_of_perform performed, performed]
      exact ⟨rfl, party⟩
  · have own := eq_responder (receiver.symm.trans initiator)
    subst own
    have decoded := @deserialize_preKeyMessage _ agreement contact baseRandom _ carries.fits message.sender message.epoch
      message.counter previousCounter registrationId
    rw [around, CiphertextMessage.request]
    refine ⟨?_, ?_⟩
    · intro text after decrypted
      rw [perform_preKey_ok decoded (party.process registrationId _) decrypted]
    · intro error refused
      have performed := perform_preKey_error decoded (party.process registrationId _) refused
      obtain ⟨pending, base, -⟩ := party.marked
      rw [Request.step_of_perform performed, performed]
      exact ⟨rfl, party.holds.saveIdentity _, party.session, pending, base, trusts_saved store _⟩

theorem read_of_refusal (legible : Legible provider agreement side last (random 0) message) {refusal : Refusal}
    (refused : side.accept message.epoch message.counter = .error refusal) (known : refusal ≠ .stray) :
    (Request.perform provider store (packet.message.request random)).1 = .error (errorOf refusal) := by
  obtain ⟨previousCounter, same⟩ := carries.inner_eq
  have undecrypted := party.session.decrypt_of_refusal party.holds.wellFormed legible previousCounter packet.plaintext refused
    known
  rw [← receiver, ← same] at undecrypted
  exact ((party.read_cases carries receiver).2 _ undecrypted).1

theorem read_of_unverified (unverified : ¬ record.state.Verifies provider packet.message.inner (random 0)) :
    ∃ error, (Request.perform provider store (packet.message.request random)).1 = .error error := by
  obtain ⟨error, refused⟩ := SessionCipher.decryptFromState_of_unverified unverified
  have undecrypted := party.session.decrypt_error party.holds.wellFormed refused
  exact ⟨error, ((party.read_cases carries receiver).2 error undecrypted).1⟩

theorem of_error {error : SgErr} (refused : (Request.perform provider store (packet.message.request random)).1 = .error error) :
    Party contact baseRandom agreement role side ((packet.message.request random).step provider store) record := by
  cases decrypted : SessionCipher.decryptFromRecord provider record packet.message.inner random with
  | error other => exact ((party.read_cases carries receiver).2 other decrypted).2
  | ok result =>
    rw [(party.read_cases carries receiver).1 result.1 result.2 decrypted] at refused
    cases refused

end

end Party

namespace Awaiting

variable {store : Store}

theorem saveIdentity (awaiting : Awaiting contact store) :
    Awaiting contact (store.run (identitySaveIdentity (contact.identity .initiator).publicKey)) where
  noSession := awaiting.noSession
  identity := awaiting.identity
  registered := awaiting.registered
  signedPreKey := awaiting.signedPreKey
  preKey := awaiting.preKey
  trusts := trusts_saved store _

section

variable (awaiting : Awaiting contact store) {last : Nat} {random : Nat → EcPrivateKey} {message : Message} {plaintext : Bytes}
  (legible : Legible provider (contact.agreed baseRandom ratchetRandom) (.published limits) last (random 0) message)
  (fits : ∀ key iv, (provider.encryptCBC key iv plaintext).length < 2 ^ 31) (previousCounter registrationId : UInt32)

include awaiting legible fits

theorem read_of_accept {after : Side limits}
    (accepted : (Side.published limits).accept message.epoch message.counter = .ok after) :
    ∃ final, (Request.perform provider store (.decryptPreKeySignalMessage (contact.preKeyMessage baseRandom registrationId
        ((contact.agreed baseRandom ratchetRandom).message provider .initiator message.epoch message.counter previousCounter
          plaintext)).serialized random)).1 = .ok (.plaintext plaintext) ∧
      Party contact baseRandom ((contact.agreed baseRandom ratchetRandom).learn (.published limits) message.epoch
          (curveGenerateKeyPair provider (random 0))) .responder after
        ((Request.decryptPreKeySignalMessage (contact.preKeyMessage baseRandom registrationId
          ((contact.agreed baseRandom ratchetRandom).message provider .initiator message.epoch message.counter previousCounter
            plaintext)).serialized random).step provider store) final := by
  obtain ⟨record, preKeyId, processed, wellFormed, session, -, base⟩ := awaiting.process registrationId
    ((contact.agreed baseRandom ratchetRandom).message provider .initiator message.epoch message.counter previousCounter plaintext)
  obtain ⟨final, decrypted, kept, later, same, answered⟩ := session.decrypt_of_accept wellFormed legible previousCounter
    plaintext accepted
  have performed := perform_preKey_ok (deserialize_preKeyMessage fits ..) processed decrypted
  refine ⟨{ final with isFresh := false }, by rw [performed], ?_⟩
  rw [Request.step_of_perform performed]
  have stored := Store.Holds.stores kept (store.run (identitySaveIdentity (contact.identity .initiator).publicKey))
  have marked := same.aliceBaseKey.trans base
  cases preKeyId with
  | none => exact ⟨stored, later.setFresh false, answered, marked, trusts_saved store _⟩
  | some id => exact ⟨stored.removePreKey id, later.setFresh false, answered, marked, trusts_saved store _⟩

theorem read_of_refusal {refusal : Refusal}
    (refused : (Side.published limits).accept message.epoch message.counter = .error refusal) (known : refusal ≠ .stray) :
    (Request.perform provider store (.decryptPreKeySignalMessage (contact.preKeyMessage baseRandom registrationId
        ((contact.agreed baseRandom ratchetRandom).message provider .initiator message.epoch message.counter previousCounter
          plaintext)).serialized random)).1 = .error (errorOf refusal) ∧
      Awaiting contact ((Request.decryptPreKeySignalMessage (contact.preKeyMessage baseRandom registrationId
        ((contact.agreed baseRandom ratchetRandom).message provider .initiator message.epoch message.counter previousCounter
          plaintext)).serialized random).step provider store) := by
  obtain ⟨record, preKeyId, processed, wellFormed, session, -, -⟩ := awaiting.process registrationId
    ((contact.agreed baseRandom ratchetRandom).message provider .initiator message.epoch message.counter previousCounter plaintext)
  have undecrypted := session.decrypt_of_refusal wellFormed legible previousCounter plaintext refused known
  have performed := perform_preKey_error (deserialize_preKeyMessage fits ..) processed undecrypted
  rw [Request.step_of_perform performed, performed]
  exact ⟨rfl, awaiting.saveIdentity⟩

end

end Awaiting

namespace Contact

variable (contact : Contact provider) (baseRandom ratchetRandom : EcPrivateKey)

theorem awaiting : Awaiting contact (contact.store .responder) where
  noSession := contact.noSession .responder
  identity := contact.identityKeyPair .responder
  registered := contact.registered .responder
  signedPreKey := contact.signedPreKeyStored
  preKey := contact.preKeyStored
  trusts := contact.trusts .responder

theorem checkBundle_eq : SessionBuilder.checkBundle provider contact.bundle = .ok contact.signedPreKey.keyPair.publicKey := by
  rw [SessionBuilder.checkBundle, bundle]
  dsimp only
  rw [if_neg contact.signedPreKey.signed, contact.signed]
  rfl

theorem introduces : ∃ record, (Request.processPreKeyBundle contact.bundle baseRandom ratchetRandom).perform provider
      (contact.store .initiator) = (.ok .processed, [sessionStoreSession record,
        identitySaveIdentity (contact.identity .responder).publicKey]) ∧
    record.WellFormed ∧ Session provider (contact.agreed baseRandom ratchetRandom) .initiator (.introduced limits) record ∧
    record.state.pendingPreKey = some (contact.pending baseRandom) := by
  have load : (contact.store .initiator).sessionLoadSession = .ok (.create none) := by
    rw [Store.sessionLoadSession, contact.noSession]
  obtain ⟨registration, registered⟩ := Option.isSome_iff_exists.mp (contact.registered .initiator)
  have registrationLookup : (contact.store .initiator).identityGetLocalRegistrationId = .ok registration := by
    rw [Store.identityGetLocalRegistrationId, registered]
  have trusted : (contact.store .initiator).identityIsTrustedIdentity (contact.identity .responder).publicKey = true :=
    contact.trusts .initiator
  have preKeyId : (contact.bundle.preKeyPublic.map fun _ => contact.bundle.preKeyId) = contact.preKey.map SessionPreKey.id := by
    rw [bundle]
    cases contact.preKey <;> rfl
  obtain ⟨state, made⟩ : ∃ state, state = { (ratchetingSessionAliceInitialize provider (contact.aliceParameters baseRandom)
        ratchetRandom .create).setUnacknowledgedPreKeyMessage (contact.preKey.map SessionPreKey.id) contact.signedPreKey.id
        (curveGenerateKeyPair provider baseRandom).publicKey with
      localRegistrationId := registration
      remoteRegistrationId := contact.bundle.registrationId
      aliceBaseKey := some (curveGenerateKeyPair provider baseRandom).publicKey } := ⟨_, rfl⟩
  have processed : SessionBuilder.processPreKeyBundle provider (contact.store .initiator) contact.bundle baseRandom ratchetRandom =
      .ok [sessionStoreSession ((SessionRecord.create none).setState state),
        identitySaveIdentity (contact.identity .responder).publicKey] := by
    rw [SessionBuilder.processPreKeyBundle]
    change (if (contact.store .initiator).identityIsTrustedIdentity (contact.identity .responder).publicKey then _ else _) = _
    rw [if_pos trusted, contact.checkBundle_eq, load, contact.identityKeyPair, registrationLookup, preKeyId,
      made]
    rfl
  have built := @aliceInitialize_wellFormed provider (contact.aliceParameters baseRandom) ratchetRandom
  have represents : Represents provider (contact.agreed baseRandom ratchetRandom) .initiator (.introduced limits)
      (ratchetingSessionAliceInitialize provider (contact.aliceParameters baseRandom) ratchetRandom .create) :=
    aliceInitialize_represents rfl rfl rfl rfl rfl
  subst made
  refine ⟨_, by rw [Request.perform, processed], ?_, ?_, rfl⟩
  · exact ⟨⟨built.rootKey, built.senderChain, built.receiverChains, built.few⟩,
      fun _ absent => absurd absent List.not_mem_nil, Nat.zero_le _⟩
  · exact ⟨rfl, represents.version, represents.localIdentity, represents.remoteIdentity, represents.rootKey,
      represents.senderChain, represents.receiverChains⟩

end Contact

end PillarSignal.Libsignal
