import PillarSignal.Libsignal.Simulation

namespace PillarSignal.Libsignal

open Delivery

namespace CiphertextMessage

def request (random : Nat → EcPrivateKey) : CiphertextMessage → Request
  | signal message => .decryptSignalMessage message.serialized random
  | preKey message => .decryptPreKeySignalMessage message.serialized random

def inner : CiphertextMessage → SignalMessage
  | signal message => message
  | preKey message => message.message

def ratchetKey (message : CiphertextMessage) : EcPublicKey := message.inner.senderRatchetKey

end CiphertextMessage

/-- The code of a message verifies under the keys that a state derives for it. -/
def SessionState.Verifies (provider : Provider) (state : SessionState) (message : SignalMessage) (random : EcPrivateKey) : Prop :=
  ∃ chained ∈ (SessionCipher.getOrCreateChainKey provider state message.senderRatchetKey random).toOption,
    ∃ keyed ∈ (SessionCipher.getOrCreateMessageKeys provider chained.2 message.senderRatchetKey chained.1
        message.counter).toOption,
      ∃ remoteIdentityKey ∈ keyed.2.remoteIdentityPublic, ∃ localIdentityKey ∈ keyed.2.localIdentityPublic,
        message.verifyMac provider remoteIdentityKey localIdentityKey keyed.1.macKey = true

instance (provider : Provider) (state : SessionState) (message : SignalMessage) (random : EcPrivateKey) :
    Decidable (state.Verifies provider message random) :=
  inferInstanceAs (Decidable (∃ chained ∈ _, _))

/-- Nothing is decrypted whose code does not verify. -/
theorem SessionCipher.decryptFromState_of_unverified {provider : Provider} {state : SessionState} {message : SignalMessage}
    {random : EcPrivateKey} (unverified : ¬ state.Verifies provider message random) :
    ∃ error, decryptFromState provider state message random = .error error := by
  cases decrypted : decryptFromState provider state message random with
  | error error => exact ⟨error, rfl⟩
  | ok result =>
    obtain ⟨chained, keyed, created, derived, opened, -⟩ := decryptFromState_cases decrypted
    apply absurd _ unverified
    rw [SessionState.Verifies, created]
    refine ⟨chained, rfl, ?_⟩
    rw [derived]
    rw [openMessage] at opened
    split at opened
    next remoteIdentityKey localIdentityKey remote own =>
      split at opened
      next verified => exact ⟨keyed, rfl, remoteIdentityKey, remote, localIdentityKey, own, verified⟩
      next => cases opened
    next => cases opened

structure Packet where
  sender : Role
  plaintext : Bytes
  message : CiphertextMessage
deriving DecidableEq, Repr

/-- Two parties with their stores, what has been sent between them, and what each of them has read of
    it, with its place in what was sent. -/
structure Conversation where
  store : Role → Store
  sent : List Packet
  received : Role → List (Nat × Bytes)

namespace Conversation

/-- Packets may be delivered in any order, again, or never. -/
inductive Action where
  | send (role : Role) (plaintext : Bytes)
  | deliver (index : Nat) (random : Nat → EcPrivateKey)

variable (provider : Provider)

def ask (conversation : Conversation) (role : Role) (request : Request) : Role → Store :=
  Function.update conversation.store role (request.step provider (conversation.store role))

def send (conversation : Conversation) (role : Role) (plaintext : Bytes) : Conversation where
  store := conversation.ask provider role (.encrypt plaintext)
  sent :=
    match (Request.perform provider (conversation.store role) (.encrypt plaintext)).1 with
    | .ok (.ciphertext message) => conversation.sent ++ [⟨role, plaintext, message⟩]
    | _ => conversation.sent
  received := conversation.received

def read (conversation : Conversation) (packet : Packet) (random : Nat → EcPrivateKey) : Except SgErr Response :=
  (Request.perform provider (conversation.store packet.sender.other) (packet.message.request random)).1

def deliver (conversation : Conversation) (index : Nat) (random : Nat → EcPrivateKey) : Conversation :=
  match conversation.sent[index]? with
  | none => conversation
  | some packet =>
    { store := conversation.ask provider packet.sender.other (packet.message.request random)
      sent := conversation.sent
      received :=
        match conversation.read provider packet random with
        | .ok (.plaintext text) => Function.update conversation.received packet.sender.other
            (conversation.received packet.sender.other ++ [(index, text)])
        | _ => conversation.received }

def step (conversation : Conversation) : Action → Conversation
  | .send role plaintext => conversation.send provider role plaintext
  | .deliver index random => conversation.deliver provider index random

def run (conversation : Conversation) (actions : List Action) : Conversation := actions.foldl (step provider) conversation

def state (conversation : Conversation) (role : Role) : Option SessionState :=
  (conversation.store role).loadSession.bind fun data => (SessionRecord.deserialize data).toOption.map SessionRecord.state

/-- A packet belongs to the chain that its sender is at, or to one that the receiver still holds. -/
def Known (conversation : Conversation) (packet : Packet) : Prop :=
  (∃ state ∈ conversation.state packet.sender, state.getSenderRatchetKey = some packet.message.ratchetKey) ∨
    ∃ state ∈ conversation.state packet.sender.other, (state.getReceiverChainKey packet.message.ratchetKey).isSome = true

instance (conversation : Conversation) (packet : Packet) : Decidable (conversation.Known packet) :=
  inferInstanceAs (Decidable (_ ∨ _))

/-- The code of a packet of a chain that is not held any more does not verify under the keys that its receiver
    derives for it. -/
def Unforged (conversation : Conversation) : Action → Prop
  | .send _ _ => True
  | .deliver index random => ∀ packet ∈ conversation.sent[index]?, ¬ conversation.Known packet →
    ∀ state ∈ conversation.state packet.sender.other, ¬ state.Verifies provider packet.message.inner (random 0)

instance (conversation : Conversation) : (action : Action) → Decidable (conversation.Unforged provider action)
  | .send _ _ => inferInstanceAs (Decidable True)
  | .deliver _ _ => inferInstanceAs (Decidable (∀ packet ∈ _, _))

def Action.drawn : Action → List EcPublicKey
  | .send _ _ => []
  | .deliver _ random => [(curveGenerateKeyPair provider (random 0)).publicKey]

def Action.Fits : Action → Prop
  | .send _ plaintext => ∀ key iv, (provider.encryptCBC key iv plaintext).length < 2 ^ 31
  | .deliver _ _ => True

def RunUnforged (conversation : Conversation) : List Action → Prop
  | [] => True
  | action :: actions => conversation.Unforged provider action ∧ RunUnforged (conversation.step provider action) actions

instance (conversation : Conversation) : (actions : List Action) → Decidable (conversation.RunUnforged provider actions)
  | [] => inferInstanceAs (Decidable True)
  | action :: actions =>
    have := instDecidableRunUnforged (conversation.step provider action) actions
    inferInstanceAs (Decidable (_ ∧ _))

end Conversation

/-- The stores of two parties that have not been in contact, and the keys that one of them has published. -/
structure Contact (provider : Provider) where
  store : Role → Store
  identity : Role → EcKeyPair
  signedPreKey : SessionSignedPreKey
  preKey : Option SessionPreKey
  noSession : ∀ role, (store role).loadSession = none
  identityKeyPair : ∀ role, (store role).identityGetKeyPair = .ok (identity role)
  registered : ∀ role, (store role).localRegistrationId.isSome = true
  trusts : ∀ role, (store role).identityIsTrustedIdentity (identity role.other).publicKey = true
  signedPreKeyStored : (store .responder).signedPreKeyLoadKey signedPreKey.id = .ok signedPreKey
  preKeyStored : ∀ key ∈ preKey, (store .responder).preKeyLoadKey key.id = .ok key
  signed : curveVerifySignature provider (identity .responder).publicKey
    (ecPublicKeySerialize signedPreKey.keyPair.publicKey) signedPreKey.signature = .ok true
  identityValid : ∀ role, (identity role).Valid provider
  signedPreKeyValid : signedPreKey.keyPair.Valid provider
  preKeyValid : ∀ key ∈ preKey, key.keyPair.Valid provider

namespace Contact

variable {provider : Provider} (contact : Contact provider)

def bundle : SessionPreKeyBundle where
  registrationId := (contact.store .responder).localRegistrationId.getD 0
  preKeyId := (contact.preKey.map SessionPreKey.id).getD 0
  preKeyPublic := contact.preKey.map fun key => key.keyPair.publicKey
  signedPreKeyId := contact.signedPreKey.id
  signedPreKeyPublic := some contact.signedPreKey.keyPair.publicKey
  signedPreKeySignature := contact.signedPreKey.signature
  identityKey := (contact.identity .responder).publicKey

def start (baseRandom ratchetRandom : EcPrivateKey) : Conversation where
  store := Function.update contact.store .initiator ((Request.processPreKeyBundle contact.bundle baseRandom
    ratchetRandom).step provider (contact.store .initiator))
  sent := []
  received _ := []

def drawn (ratchetRandom : EcPrivateKey) : List EcPublicKey :=
  [contact.signedPreKey.keyPair.publicKey, (curveGenerateKeyPair provider ratchetRandom).publicKey]

end Contact

end PillarSignal.Libsignal
