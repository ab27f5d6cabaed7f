import PillarSignal.Libsignal.SessionCipher

namespace PillarSignal.Libsignal

open Delivery

variable {provider : Provider} {version : UInt32}

theorem bind_eq_ok {α β : Type} {first : Except SgErr α} {next : α → Except SgErr β} {value : β} :
    first.bind next = .ok value ↔ ∃ middle, first = .ok middle ∧ next middle = .ok value := by
  cases first with
  | error error => simp [Except.bind]
  | ok middle => simp [Except.bind]

theorem map_eq_ok {α β : Type} {first : Except SgErr α} {next : α → β} {value : β} :
    first.map next = .ok value ↔ ∃ middle, first = .ok middle ∧ next middle = value := by
  cases first with
  | error error => simp [Except.map]
  | ok middle => simp [Except.map]

theorem forall_mem_some {α : Type} {p : α → Prop} {value : α} (holds : p value) : ∀ other ∈ some value, p other := by
  intro other same
  rw [← Option.some.inj same]
  exact holds

theorem ChainKey.WellFormed.createNext {chainKey : ChainKey} (wellFormed : chainKey.WellFormed version) :
    (chainKey.createNext provider).WellFormed version :=
  ⟨wellFormed.derived, provider.hmac_length ..⟩

theorem RootKey.WellFormed.createChain {rootKey : RootKey} (wellFormed : rootKey.WellFormed version) (provider : Provider)
    (theirRatchetKey : EcPublicKey) (ourRatchetKeyPrivate : EcPrivateKey) :
    (rootKey.createChain provider theirRatchetKey ourRatchetKeyPrivate).1.WellFormed version ∧
      (rootKey.createChain provider theirRatchetKey ourRatchetKeyPrivate).2.WellFormed version :=
  ⟨⟨wellFormed.derived, by simp [RootKey.createChain]⟩, ⟨wellFormed.derived, by simp [RootKey.createChain]⟩⟩

theorem calculateDerivedKeys_wellFormed (secret : Bytes) :
    (ratchetingSessionCalculateDerivedKeys provider secret).1.WellFormed 3 ∧
      (ratchetingSessionCalculateDerivedKeys provider secret).2.WellFormed 3 :=
  ⟨⟨rfl, by simp [ratchetingSessionCalculateDerivedKeys]⟩, ⟨rfl, by simp [ratchetingSessionCalculateDerivedKeys]⟩⟩

namespace ReceiverChain

theorem WellFormed.appendMessageKeys {chain : ReceiverChain} (wellFormed : chain.WellFormed version)
    (messageKeys : MessageKeys) : (chain.appendMessageKeys messageKeys).WellFormed version :=
  ⟨wellFormed.chainKey, length_push_le MAX_MESSAGE_KEYS chain.messageKeys messageKeys⟩

theorem WellFormed.deleteMessageKeys {chain : ReceiverChain} (wellFormed : chain.WellFormed version) (counter : UInt32) :
    (chain.deleteMessageKeys counter).WellFormed version :=
  ⟨wellFormed.chainKey, Nat.le_trans List.eraseP_sublist.length_le wellFormed.messageKeys⟩

theorem WellFormed.setChainKey {chain : ReceiverChain} (wellFormed : chain.WellFormed version) {chainKey : ChainKey}
    (key : chainKey.WellFormed version) : ReceiverChain.WellFormed version { chain with chainKey := some chainKey } :=
  ⟨forall_mem_some key, wellFormed.messageKeys⟩

end ReceiverChain

namespace SessionState

theorem WellFormed.create : WellFormed .create := by
  refine ⟨?_, ?_, ?_, Nat.zero_le _⟩
  · intro key absent
    cases absent
  · intro key absent
    cases absent
  · intro chain absent
    cases absent

theorem WellFormed.changeReceiverChain {state : SessionState} (wellFormed : state.WellFormed)
    {change : ReceiverChain → ReceiverChain}
    (keeps : ∀ chain, chain.WellFormed state.sessionVersion → (change chain).WellFormed state.sessionVersion)
    (senderEphemeral : EcPublicKey) : (state.changeReceiverChain senderEphemeral change).WellFormed := by
  refine ⟨wellFormed.rootKey, wellFormed.senderChain, ?_, ?_⟩
  · intro chain member
    rcases mem_modifyFirst member with old | ⟨old, there, rfl⟩
    · exact wellFormed.receiverChains chain old
    · exact keeps old (wellFormed.receiverChains old there)
  · rw [SessionState.changeReceiverChain, length_modifyFirst]
    exact wellFormed.few

theorem WellFormed.setMessageKeys {state : SessionState} (wellFormed : state.WellFormed) (senderEphemeral : EcPublicKey)
    (messageKeys : MessageKeys) : (state.setMessageKeys senderEphemeral messageKeys).WellFormed :=
  wellFormed.changeReceiverChain (fun _ chain => chain.appendMessageKeys messageKeys) senderEphemeral

theorem WellFormed.removeMessageKeys {state after : SessionState} {messageKeys : MessageKeys} (wellFormed : state.WellFormed)
    {senderEphemeral : EcPublicKey} {counter : UInt32}
    (removed : state.removeMessageKeys senderEphemeral counter = some (messageKeys, after)) : after.WellFormed := by
  obtain ⟨found, -, same⟩ := Option.map_eq_some_iff.mp removed
  cases same
  exact wellFormed.changeReceiverChain (fun _ chain => chain.deleteMessageKeys counter) senderEphemeral

theorem WellFormed.setReceiverChainKey {state after : SessionState} (wellFormed : state.WellFormed)
    {senderEphemeral : EcPublicKey} {chainKey : ChainKey} (key : chainKey.WellFormed state.sessionVersion)
    (set : state.setReceiverChainKey senderEphemeral chainKey = .ok after) : after.WellFormed := by
  rw [SessionState.setReceiverChainKey] at set
  split at set
  · cases set
    exact wellFormed.changeReceiverChain (fun _ chain => chain.setChainKey key) senderEphemeral
  · cases set

theorem WellFormed.addReceiverChain {state : SessionState} (wellFormed : state.WellFormed) {chainKey : ChainKey}
    (key : chainKey.WellFormed state.sessionVersion) (senderRatchetKey : EcPublicKey) :
    (state.addReceiverChain senderRatchetKey chainKey).WellFormed := by
  refine ⟨wellFormed.rootKey, wellFormed.senderChain, ?_, ?_⟩
  · intro chain member
    rcases List.mem_append.mp ((push_suffix ..).subset member) with old | new
    · exact wellFormed.receiverChains chain old
    · rw [List.mem_singleton.mp new]
      exact ⟨forall_mem_some key, Nat.zero_le _⟩
  · exact length_push_le MAX_RECEIVER_CHAINS state.receiverChains _

theorem WellFormed.setSenderChain {state : SessionState} (wellFormed : state.WellFormed) {chainKey : ChainKey}
    (key : chainKey.WellFormed state.sessionVersion) {rootKey : RootKey} (root : rootKey.WellFormed state.sessionVersion)
    (pair : EcKeyPair) (previousCounter : UInt32) :
    WellFormed { state.setSenderChain pair chainKey with rootKey := some rootKey, previousCounter := previousCounter } :=
  ⟨forall_mem_some root, forall_mem_some key, wellFormed.receiverChains, wellFormed.few⟩

theorem WellFormed.setSenderChainKey {state after : SessionState} (wellFormed : state.WellFormed) {chainKey : ChainKey}
    (key : chainKey.WellFormed state.sessionVersion) (set : state.setSenderChainKey chainKey = .ok after) :
    after.WellFormed := by
  rw [SessionState.setSenderChainKey] at set
  split at set
  · cases set
    exact ⟨wellFormed.rootKey, forall_mem_some key, wellFormed.receiverChains, wellFormed.few⟩
  · cases set

end SessionState

namespace SessionCipher

theorem receiverChainKey_wellFormed {state : SessionState} (wellFormed : state.WellFormed) {theirEphemeral : EcPublicKey}
    {chainKey : ChainKey} (there : state.getReceiverChainKey theirEphemeral = some chainKey) :
    chainKey.WellFormed state.sessionVersion := by
  obtain ⟨chain, found, key⟩ := Option.bind_eq_some_iff.mp there
  exact (wellFormed.receiverChains chain (List.mem_of_find?_eq_some found)).chainKey chainKey key

theorem startChains_wellFormed {state after : SessionState} (wellFormed : state.WellFormed) {theirEphemeral : EcPublicKey}
    {random : EcPrivateKey} {chainKey : ChainKey}
    (started : startChains provider state theirEphemeral random = .ok (chainKey, after)) :
    chainKey.WellFormed state.sessionVersion ∧ after.WellFormed ∧ after.sessionVersion = state.sessionVersion := by
  rw [startChains] at started
  split at started
  next rootKey ourEphemeral previous root _ _ =>
    have receiver := (wellFormed.rootKey rootKey root).createChain provider theirEphemeral ourEphemeral.privateKey
    have sender := receiver.1.createChain provider theirEphemeral (curveGenerateKeyPair provider random).privateKey
    cases started
    exact ⟨receiver.2, (wellFormed.addReceiverChain receiver.2 theirEphemeral).setSenderChain sender.2 sender.1 _ _, rfl⟩
  next => cases started

theorem getOrCreateChainKey_wellFormed {state after : SessionState} (wellFormed : state.WellFormed)
    {theirEphemeral : EcPublicKey} {random : EcPrivateKey} {chainKey : ChainKey}
    (created : getOrCreateChainKey provider state theirEphemeral random = .ok (chainKey, after)) :
    chainKey.WellFormed state.sessionVersion ∧ after.WellFormed ∧ after.sessionVersion = state.sessionVersion := by
  rw [getOrCreateChainKey] at created
  split at created
  next there =>
    cases created
    exact ⟨receiverChainKey_wellFormed wellFormed there, wellFormed, rfl⟩
  next => exact startChains_wellFormed wellFormed created

theorem skipMessageKeys_wellFormed (provider : Provider) {state : SessionState} (wellFormed : state.WellFormed) (theirEphemeral : EcPublicKey)
    (rounds : Nat) {chainKey : ChainKey} (key : chainKey.WellFormed state.sessionVersion) :
    (skipMessageKeys provider theirEphemeral rounds chainKey state).1.WellFormed state.sessionVersion ∧
      (skipMessageKeys provider theirEphemeral rounds chainKey state).2.WellFormed ∧
      (skipMessageKeys provider theirEphemeral rounds chainKey state).2.sessionVersion = state.sessionVersion := by
  induction rounds generalizing chainKey state with
  | zero => exact ⟨key, wellFormed, rfl⟩
  | succ rounds ih => exact ih (wellFormed.setMessageKeys theirEphemeral _) key.createNext

theorem getOrCreateMessageKeys_wellFormed {state after : SessionState} (wellFormed : state.WellFormed)
    {theirEphemeral : EcPublicKey} {chainKey : ChainKey} (key : chainKey.WellFormed state.sessionVersion) {counter : UInt32}
    {messageKeys : MessageKeys}
    (created : getOrCreateMessageKeys provider state theirEphemeral chainKey counter = .ok (messageKeys, after)) :
    after.WellFormed := by
  rw [getOrCreateMessageKeys] at created
  split at created
  · split at created
    next found removed =>
      cases created
      exact wellFormed.removeMessageKeys removed
    next => cases created
  · split at created
    · cases created
    · have skipping := skipMessageKeys_wellFormed provider wellFormed theirEphemeral
        (counter - chainKey.index).toNat key
      obtain ⟨lastChainKey, skipped⟩ := skipMessageKeys provider theirEphemeral (counter - chainKey.index).toNat chainKey state
      obtain ⟨lastKey, skippedKeys, version⟩ := skipping
      obtain ⟨final, set, same⟩ := map_eq_ok.mp created
      cases same
      exact skippedKeys.setReceiverChainKey (version ▸ lastKey.createNext) set

/-- A message that is decrypted was opened with the keys that the state has, or comes to, for it. -/
theorem decryptFromState_cases {state after : SessionState} {message : SignalMessage} {random : EcPrivateKey} {plaintext : Bytes}
    (decrypted : decryptFromState provider state message random = .ok (plaintext, after)) :
    ∃ chained keyed, getOrCreateChainKey provider state message.senderRatchetKey random = .ok chained ∧
      getOrCreateMessageKeys provider chained.2 message.senderRatchetKey chained.1 message.counter = .ok keyed ∧
      openMessage provider keyed.2 keyed.1 message = .ok plaintext ∧ after = keyed.2.clearUnacknowledgedPreKeyMessage := by
  rw [decryptFromState] at decrypted
  split at decrypted
  · cases decrypted
  · split at decrypted
    · cases decrypted
    · obtain ⟨chained, created, rest⟩ := bind_eq_ok.mp decrypted
      obtain ⟨keyed, derived, rest⟩ := bind_eq_ok.mp rest
      obtain ⟨text, opened, same⟩ := bind_eq_ok.mp rest
      cases same
      exact ⟨chained, keyed, created, derived, opened, rfl⟩

theorem decryptFromState_wellFormed {state after : SessionState} (wellFormed : state.WellFormed) {message : SignalMessage}
    {random : EcPrivateKey} {plaintext : Bytes}
    (decrypted : decryptFromState provider state message random = .ok (plaintext, after)) : after.WellFormed := by
  obtain ⟨⟨chainKey, chained⟩, ⟨messageKeys, keyed⟩, created, derived, -, rfl⟩ := decryptFromState_cases decrypted
  obtain ⟨key, chains, version⟩ := getOrCreateChainKey_wellFormed wellFormed created
  have keys := getOrCreateMessageKeys_wellFormed chains (version.symm ▸ key) derived
  exact ⟨keys.rootKey, keys.senderChain, keys.receiverChains, keys.few⟩

theorem encryptState_wellFormed {state after : SessionState} (wellFormed : state.WellFormed) {paddedMessage : Bytes}
    {encryptedMessage : CiphertextMessage}
    (encrypted : encryptState provider state paddedMessage = .ok (encryptedMessage, after)) : after.WellFormed := by
  rw [encryptState] at encrypted
  split at encrypted
  next chainKey _ _ _ there _ _ _ =>
    obtain ⟨wrapped, -, rest⟩ := bind_eq_ok.mp encrypted
    obtain ⟨final, set, same⟩ := bind_eq_ok.mp rest
    cases same
    exact wellFormed.setSenderChainKey (wellFormed.senderChain chainKey there).createNext set
  next => cases encrypted

end SessionCipher

namespace SessionRecord

theorem WellFormed.setState {record : SessionRecord} (wellFormed : record.WellFormed) {state : SessionState}
    (new : state.WellFormed) : (record.setState state).WellFormed :=
  ⟨new, wellFormed.previousStates, wellFormed.few⟩

theorem WellFormed.promoteState {record : SessionRecord} (wellFormed : record.WellFormed) {state : SessionState}
    (new : state.WellFormed) : (record.promoteState state).WellFormed := by
  refine ⟨new, ?_, List.length_take_le ..⟩
  intro old member
  rcases List.mem_cons.mp (List.mem_of_mem_take member) with rfl | previous
  · exact wellFormed.state
  · exact wellFormed.previousStates old previous

theorem WellFormed.getPreviousStatesRemove {record : SessionRecord} (wellFormed : record.WellFormed) (index : Nat) :
    (record.getPreviousStatesRemove index).WellFormed := by
  refine ⟨wellFormed.state, ?_, ?_⟩
  · intro state member
    exact wellFormed.previousStates state ((List.eraseIdx_sublist ..).subset member)
  · exact Nat.le_trans (List.eraseIdx_sublist ..).length_le wellFormed.few

/-- A record as it is loaded: one that is fresh has nothing in its state. -/
structure Loaded (record : SessionRecord) : Prop where
  wellFormed : record.WellFormed
  fresh : record.isFresh = true → record.state = .create

theorem Loaded.prepare {record : SessionRecord} (loaded : record.Loaded) :
    record.prepare.WellFormed ∧ record.prepare.state = .create := by
  rw [SessionRecord.prepare]
  split
  next fresh => exact ⟨loaded.wellFormed, loaded.fresh fresh⟩
  next => exact ⟨loaded.wellFormed.promoteState .create, rfl⟩

end SessionRecord

namespace SessionCipher

theorem decryptFromPrevious_wellFormed {record after : SessionRecord} (wellFormed : record.WellFormed)
    {message : SignalMessage} {random : Nat → EcPrivateKey} {plaintext : Bytes} {states : List SessionState}
    (known : ∀ state ∈ states, state.WellFormed) {index : Nat}
    (decrypted : decryptFromPrevious provider record message random index states = .ok (plaintext, after)) :
    after.WellFormed := by
  induction states generalizing index with
  | nil => cases decrypted
  | cons state states ih =>
    have first := known state List.mem_cons_self
    rw [decryptFromPrevious, SessionState.copy_eq first] at decrypted
    dsimp only at decrypted
    split at decrypted
    next attempt =>
      cases decrypted
      exact (wellFormed.getPreviousStatesRemove index).promoteState (decryptFromState_wellFormed first attempt)
    next => exact ih (fun other member => known other (List.mem_cons_of_mem _ member)) decrypted
    next => cases decrypted

theorem decryptFromRecord_wellFormed {record after : SessionRecord} (wellFormed : record.WellFormed)
    {message : SignalMessage} {random : Nat → EcPrivateKey} {plaintext : Bytes}
    (decrypted : decryptFromRecord provider record message random = .ok (plaintext, after)) : after.WellFormed := by
  rw [decryptFromRecord, SessionState.copy_eq wellFormed.state] at decrypted
  dsimp only at decrypted
  split at decrypted
  next attempt =>
    cases decrypted
    exact wellFormed.setState (decryptFromState_wellFormed wellFormed.state attempt)
  next => exact decryptFromPrevious_wellFormed wellFormed wellFormed.previousStates decrypted
  next => cases decrypted

end SessionCipher

theorem bobInitialize_wellFormed (parameters : BobParameters) :
    (ratchetingSessionBobInitialize provider parameters .create).WellFormed := by
  have derived := @calculateDerivedKeys_wellFormed provider (parameters.secret provider)
  refine ⟨forall_mem_some derived.1, forall_mem_some derived.2, ?_, Nat.zero_le _⟩
  intro chain absent
  cases absent

theorem aliceInitialize_wellFormed (parameters : AliceParameters) (random : EcPrivateKey) :
    (ratchetingSessionAliceInitialize provider parameters random .create).WellFormed := by
  have derived := @calculateDerivedKeys_wellFormed provider (parameters.secret provider)
  have chain := derived.1.createChain provider parameters.theirRatchetKey (curveGenerateKeyPair provider random).privateKey
  refine ⟨forall_mem_some chain.1, forall_mem_some chain.2, ?_, ?_⟩
  · intro receiver member
    rcases List.mem_append.mp ((push_suffix ..).subset member) with old | new
    · cases old
    · rw [List.mem_singleton.mp new]
      exact ⟨forall_mem_some derived.2, Nat.zero_le _⟩
  · exact length_push_le MAX_RECEIVER_CHAINS [] _

namespace SessionBuilder

theorem processPreKeySignalMessage_wellFormed {store : Store} {record after : SessionRecord} (loaded : record.Loaded)
    {message : PreKeySignalMessage} {preKeyId : Option UInt32}
    (processed : processPreKeySignalMessage provider store record message = .ok (after, preKeyId)) : after.WellFormed := by
  rw [processPreKeySignalMessage] at processed
  split at processed
  · rw [processPreKeySignalMessageV3] at processed
    split at processed
    · cases processed
      exact loaded.wellFormed
    · obtain ⟨signedPreKey, -, rest⟩ := bind_eq_ok.mp processed
      obtain ⟨identity, -, rest⟩ := bind_eq_ok.mp rest
      obtain ⟨preKey, -, rest⟩ := bind_eq_ok.mp rest
      obtain ⟨registrationId, -, rest⟩ := bind_eq_ok.mp rest
      obtain ⟨prepared, empty⟩ := loaded.prepare
      cases rest
      rw [empty]
      have built := @bobInitialize_wellFormed provider ⟨identity, signedPreKey.keyPair,
        preKey.map SessionPreKey.keyPair, signedPreKey.keyPair, message.identityKey, message.baseKey⟩
      exact prepared.setState ⟨built.rootKey, built.senderChain, built.receiverChains, built.few⟩
  · cases processed

theorem processPreKeyBundle_calls {store : Store}
    (loads : ∀ record, store.sessionLoadSession = .ok record → record.Loaded) {bundle : SessionPreKeyBundle}
    {baseRandom ratchetRandom : EcPrivateKey} {calls : List StoreCall}
    (processed : processPreKeyBundle provider store bundle baseRandom ratchetRandom = .ok calls) :
    ∃ record : SessionRecord, record.WellFormed ∧
      calls = [sessionStoreSession record, identitySaveIdentity bundle.identityKey] := by
  rw [processPreKeyBundle] at processed
  split at processed
  · obtain ⟨signedPreKey, -, rest⟩ := bind_eq_ok.mp processed
    obtain ⟨record, load, rest⟩ := bind_eq_ok.mp rest
    obtain ⟨identity, -, rest⟩ := bind_eq_ok.mp rest
    obtain ⟨registrationId, -, rest⟩ := bind_eq_ok.mp rest
    obtain ⟨prepared, empty⟩ := (loads record load).prepare
    cases rest
    rw [empty]
    have built := @aliceInitialize_wellFormed provider ⟨identity, curveGenerateKeyPair provider baseRandom,
      bundle.identityKey, signedPreKey, bundle.preKeyPublic, signedPreKey⟩ ratchetRandom
    refine ⟨_, ?_, rfl⟩
    exact prepared.setState ⟨built.rootKey, built.senderChain, built.receiverChains, built.few⟩
  · cases processed

end SessionBuilder

namespace Store

/-- Every session that is stored is the serialization of a record that keeps to the limits. -/
structure Sound (store : Store) : Prop where
  session : ∀ data ∈ store.loadSession, ∃ record : SessionRecord, record.WellFormed ∧ data = record.serialize
  contains : store.containsSession = store.loadSession.isSome

theorem Sound.loads {store : Store} (sound : store.Sound) :
    ∃ record, store.sessionLoadSession = .ok record ∧ record.Loaded := by
  rw [sessionLoadSession]
  cases stored : store.loadSession with
  | none => exact ⟨_, rfl, ⟨.create, by simp [SessionRecord.create], Nat.zero_le _⟩, fun _ => rfl⟩
  | some data =>
    obtain ⟨record, wellFormed, rfl⟩ := sound.session data stored
    refine ⟨_, SessionRecord.deserialize_serialize wellFormed, ?_, ?_⟩
    · exact ⟨wellFormed.state, wellFormed.previousStates, wellFormed.few⟩
    · intro fresh
      cases fresh

theorem Sound.loaded {store : Store} (sound : store.Sound) {record : SessionRecord}
    (load : store.sessionLoadSession = .ok record) : record.Loaded := by
  obtain ⟨other, there, loaded⟩ := sound.loads
  rw [there] at load
  cases load
  exact loaded

def Harmless : StoreCall → Prop
  | .storeSession data => ∃ record : SessionRecord, record.WellFormed ∧ data.state = record.serialize
  | .saveIdentity _ => True
  | .removePreKey _ => True

theorem Sound.run {store : Store} (sound : store.Sound) {call : StoreCall} (harmless : Harmless call) :
    (store.run call).Sound := by
  cases call with
  | storeSession data => exact ⟨forall_mem_some harmless, rfl⟩
  | saveIdentity identityKey => exact ⟨sound.session, sound.contains⟩
  | removePreKey preKeyId => exact ⟨sound.session, sound.contains⟩

theorem Sound.runAll {store : Store} (sound : store.Sound) {calls : List StoreCall} (harmless : ∀ call ∈ calls, Harmless call) :
    (store.runAll calls).Sound := by
  rw [Store.runAll]
  induction calls generalizing store with
  | nil => exact sound
  | cons call calls ih =>
    exact ih (sound.run (harmless call List.mem_cons_self)) fun other member => harmless other (List.mem_cons_of_mem _ member)

end Store

open Store

theorem harmless_store {record : SessionRecord} (wellFormed : record.WellFormed) : Harmless (sessionStoreSession record) :=
  ⟨record, wellFormed, rfl⟩

theorem encrypt_harmless {store : Store} (sound : store.Sound) {paddedMessage : Bytes} {message : CiphertextMessage}
    {calls : List StoreCall} (encrypted : SessionCipher.encrypt provider store paddedMessage = .ok (message, calls)) :
    ∀ call ∈ calls, Harmless call := by
  obtain ⟨record, load, rest⟩ := bind_eq_ok.mp encrypted
  obtain ⟨⟨made, state⟩, inside, same⟩ := bind_eq_ok.mp rest
  cases same
  have loaded := (sound.loaded load).wellFormed
  intro call member
  rw [List.mem_singleton.mp member]
  exact harmless_store (loaded.setState (SessionCipher.encryptState_wellFormed loaded.state inside))

theorem decryptSignalMessage_harmless {store : Store} (sound : store.Sound) {message : SignalMessage}
    {random : Nat → EcPrivateKey} {plaintext : Bytes} {calls : List StoreCall}
    (decrypted : SessionCipher.decryptSignalMessage provider store message random = .ok (plaintext, calls)) :
    ∀ call ∈ calls, Harmless call := by
  rw [SessionCipher.decryptSignalMessage] at decrypted
  split at decrypted
  · obtain ⟨record, load, rest⟩ := bind_eq_ok.mp decrypted
    obtain ⟨⟨text, after⟩, inside, same⟩ := bind_eq_ok.mp rest
    cases same
    intro call member
    rw [List.mem_singleton.mp member]
    exact harmless_store (SessionCipher.decryptFromRecord_wellFormed (sound.loaded load).wellFormed inside)
  · cases decrypted

theorem decryptPreKeySignalMessage_harmless {store : Store} (sound : store.Sound) (message : PreKeySignalMessage)
    (random : Nat → EcPrivateKey) :
    ∀ call ∈ (SessionCipher.decryptPreKeySignalMessage provider store message random).2, Harmless call := by
  intro call member
  rw [SessionCipher.decryptPreKeySignalMessage] at member
  split at member
  · cases member
  next record preKeyId built =>
    obtain ⟨before, load, processed⟩ := bind_eq_ok.mp built
    have wellFormed := SessionBuilder.processPreKeySignalMessage_wellFormed (sound.loaded load) processed
    split at member
    · rw [List.mem_singleton.mp member]
      exact trivial
    next text after inside =>
      rcases List.mem_append.mp member with stored | removed
      · rcases List.mem_cons.mp stored with rfl | last
        · exact trivial
        · rw [List.mem_singleton.mp last]
          exact harmless_store (SessionCipher.decryptFromRecord_wellFormed wellFormed inside)
      · obtain ⟨id, -, rfl⟩ := Option.map_eq_some_iff.mp (Option.mem_toList.mp removed)
        exact trivial

theorem Request.step_sound {store : Store} (sound : store.Sound) (request : Request) :
    (request.step provider store).Sound := by
  refine sound.runAll ?_
  cases request with
  | processPreKeyBundle bundle baseRandom ratchetRandom =>
    rw [Request.perform]
    split
    next calls processed =>
      obtain ⟨record, wellFormed, rfl⟩ := SessionBuilder.processPreKeyBundle_calls (fun _ => sound.loaded) processed
      intro call member
      rcases List.mem_cons.mp member with rfl | last
      · exact harmless_store wellFormed
      · rw [List.mem_singleton.mp last]
        exact trivial
    next => simp
  | encrypt paddedMessage =>
    rw [Request.perform]
    split
    next encrypted => exact encrypt_harmless sound encrypted
    next => simp
  | decryptSignalMessage data random =>
    rw [Request.perform]
    split
    next decrypted =>
      obtain ⟨message, -, inside⟩ := bind_eq_ok.mp decrypted
      exact decryptSignalMessage_harmless sound inside
    next => simp
  | decryptPreKeySignalMessage data random =>
    rw [Request.perform]
    split
    next message _ => exact decryptPreKeySignalMessage_harmless sound message random
    next => simp

theorem Request.run_sound {store : Store} (sound : store.Sound) (requests : List Request) :
    (Request.run provider store requests).Sound := by
  rw [Request.run]
  induction requests generalizing store with
  | nil => exact sound
  | cons request requests ih => exact ih (Request.step_sound sound request)

end PillarSignal.Libsignal
