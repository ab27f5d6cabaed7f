import PillarSignal.Libsignal.Agreement

namespace PillarSignal.Libsignal

open Delivery

variable {provider : Provider} {agreement : Agreement} {role : Role} {side : Side limits} {state : SessionState}

namespace Agreement

/-- The agreement after a message of an epoch: the first one of an epoch makes its receiver draw a key pair. -/
def learn (agreement : Agreement) (side : Side limits) (epoch : Nat) (pair : EcKeyPair) : Agreement :=
  if epoch = side.epoch + 1 then agreement.draw (side.epoch + 2) pair else agreement

theorem learn_keys {epoch other : Nat} (pair : EcKeyPair) (before : other ≤ side.epoch + 1) :
    (agreement.learn side epoch pair).keys other = agreement.keys other := by
  rw [learn]
  split
  · exact draw_keys_of_lt (by omega) pair
  · rfl

theorem learn_derived {epoch other : Nat} (pair : EcKeyPair) (before : other ≤ side.epoch + 1) :
    (agreement.learn side epoch pair).derived provider other = agreement.derived provider other := by
  rw [learn]
  split
  · exact derived_draw (by omega) pair
  · rfl

theorem learn_chainKey {epoch other : Nat} (pair : EcKeyPair) (before : other ≤ side.epoch + 1) (counter : Nat) :
    (agreement.learn side epoch pair).chainKey provider other counter = agreement.chainKey provider other counter := by
  rw [chainKey, chainKey, learn_derived pair before]

theorem learn_messageKeys {epoch other : Nat} (pair : EcKeyPair) (before : other ≤ side.epoch + 1) (counter : Nat) :
    (agreement.learn side epoch pair).messageKeys provider other counter = agreement.messageKeys provider other counter := by
  rw [messageKeys, messageKeys, learn_chainKey pair before]

@[simp] theorem learn_identity (epoch : Nat) (pair : EcKeyPair) :
    (agreement.learn side epoch pair).identity = agreement.identity := by
  rw [learn]
  split <;> rfl

def message (provider : Provider) (agreement : Agreement) (sender : Role) (epoch counter : Nat) (previousCounter : UInt32)
    (plaintext : Bytes) : SignalMessage :=
  .create provider 3 (agreement.messageKeys provider epoch counter).macKey (agreement.keys epoch).publicKey
    (UInt32.ofNat counter) previousCounter
    (SessionCipher.getCiphertext provider 3 (agreement.messageKeys provider epoch counter) plaintext)
    (agreement.identity sender) (agreement.identity sender.other)

end Agreement

structure SameSession (before after : SessionState) : Prop where
  aliceBaseKey : after.aliceBaseKey = before.aliceBaseKey
  localRegistrationId : after.localRegistrationId = before.localRegistrationId

namespace Represents

theorem senderRatchetKeyPair_eq (represents : Represents provider agreement role side state) :
    state.getSenderRatchetKeyPair = some (agreement.keys side.epoch) := by
  rw [SessionState.getSenderRatchetKeyPair, represents.senderChain]
  rfl

theorem senderChainKey_eq (represents : Represents provider agreement role side state) :
    state.getSenderChainKey = some (agreement.chainKey provider side.epoch side.sent) := by
  rw [SessionState.getSenderChainKey, represents.senderChain]
  rfl

/-- A ratchet key that is not known starts the epoch after the one of the other party. -/
theorem startChains_eq (represents : Represents provider agreement role side state)
    (sound : agreement.Sound provider (side.epoch + 1)) (random : EcPrivateKey) :
    ∃ after, SessionCipher.startChains provider state (agreement.keys (side.epoch + 1)).publicKey random =
        .ok (agreement.chainKey provider (side.epoch + 1) 0, after) ∧
      Represents provider (agreement.draw (side.epoch + 2) (curveGenerateKeyPair provider random)) role side.ratchet after ∧
      SameSession state after := by
  have received := Agreement.derived_succ sound (Nat.le_refl _)
  have next : (agreement.draw (side.epoch + 2) (curveGenerateKeyPair provider random)).derived provider (side.epoch + 2) =
      (agreement.derived provider (side.epoch + 1)).1.createChain provider (agreement.keys (side.epoch + 1)).publicKey
        (curveGenerateKeyPair provider random).privateKey := by
    rw [Agreement.derived, Agreement.derived_draw (by omega), Agreement.draw_keys_of_lt (by omega), Agreement.draw_keys_self]
  have chains : ∀ entry ∈ side.windows ++ [(side.epoch + 1, Window.empty)],
      (agreement.draw (side.epoch + 2) (curveGenerateKeyPair provider random)).receiverChain provider entry =
        agreement.receiverChain provider entry := by
    intro entry member
    refine Agreement.receiverChain_draw ?_ _
    rcases List.mem_append.mp member with old | new
    · have := epoch_lt_of_mem_windows old
      omega
    · rw [List.mem_singleton.mp new]
      exact Nat.lt_succ_self _
  rw [SessionCipher.startChains, represents.rootKey, represents.senderRatchetKeyPair_eq, represents.senderChainKey_eq]
  dsimp only
  rw [received]
  refine ⟨_, rfl, ⟨represents.version, represents.localIdentity, represents.remoteIdentity, ?_, ?_, ?_⟩, ⟨rfl, rfl⟩⟩
  · rw [Side.ratchet_epoch, next]
  · rw [Side.ratchet_epoch, Agreement.draw_keys_self, Side.ratchet_sent, Agreement.chainKey_zero, next]
    rfl
  · rw [Side.ratchet_windows, List.map_congr_left fun entry member => chains entry ((push_suffix ..).subset member), map_push,
      ← represents.receiverChains]
    rfl

theorem receiverChainKey_eq (represents : Represents provider agreement role side state) {last : Nat}
    (sound : agreement.Sound provider last) (begun : side.epoch ≤ last) {epoch : Nat} (within : epoch ≤ last) :
    state.getReceiverChainKey (agreement.keys epoch).publicKey =
      (side.find epoch).map fun window => agreement.chainKey provider epoch window.next := by
  rw [SessionState.getReceiverChainKey, represents.findReceiverChain_eq sound begun within]
  cases side.find epoch <;> rfl

theorem getOrCreateChainKey_eq (represents : Represents provider agreement role side state) {last : Nat}
    (sound : agreement.Sound provider last) (begun : side.epoch ≤ last) {epoch : Nat} (within : epoch ≤ last)
    {window : Window limits} (found : (side.ready epoch).find epoch = some window) (random : EcPrivateKey) :
    ∃ after, SessionCipher.getOrCreateChainKey provider state (agreement.keys epoch).publicKey random =
        .ok (agreement.chainKey provider epoch window.next, after) ∧
      Represents provider (agreement.learn side epoch (curveGenerateKeyPair provider random)) role (side.ready epoch) after ∧
      SameSession state after := by
  rw [SessionCipher.getOrCreateChainKey, represents.receiverChainKey_eq sound begun within]
  by_cases new : epoch = side.epoch + 1
  · have absent : side.find epoch = none := by
      rw [Option.eq_none_iff_forall_ne_some]
      intro other there
      have := (mem_recent.mp (Side.find_isSome.mp ⟨other, there⟩)).1
      omega
    rw [Side.ready, if_pos new] at found ⊢
    subst new
    rw [Side.find_ratchet_self, Option.some.injEq] at found
    subst found
    rw [absent, Agreement.learn, if_pos rfl]
    exact represents.startChains_eq (sound.mono within) random
  · rw [Side.ready, if_neg new] at found ⊢
    rw [found, Agreement.learn, if_neg new]
    exact ⟨state, rfl, represents, ⟨rfl, rfl⟩⟩

theorem openMessage_eq (represents : Represents provider agreement role side state) (epoch counter : Nat)
    (previousCounter : UInt32) (plaintext : Bytes) :
    SessionCipher.openMessage provider state (agreement.messageKeys provider epoch counter)
      (agreement.message provider role.other epoch counter previousCounter plaintext) = .ok plaintext := by
  have decrypted := provider.decrypt_encrypt (agreement.messageKeys provider epoch counter).cipherKey
    (agreement.messageKeys provider epoch counter).iv plaintext (MessageKeys.cipherKey_length _) (MessageKeys.iv_length _)
  rw [SessionCipher.openMessage, represents.remoteIdentity, represents.localIdentity, Agreement.message, Role.other_other]
  dsimp only
  rw [SignalMessage.verifyMac_create, if_pos rfl]
  change SessionCipher.getPlaintext provider 3 _ (provider.encryptCBC _ _ _) = _
  rw [SessionCipher.getPlaintext, if_pos (by decide), if_pos (by decide), decrypted]

end Represents

namespace Agreement

theorem Sound.learn {last : Nat} (sound : agreement.Sound provider last) (begun : side.epoch ≤ last)
    (reached : last ≤ side.epoch + 1) {epoch : Nat} (within : epoch ≤ last) {pair : EcKeyPair} (valid : pair.Valid provider)
    (fresh : ∀ other ≤ last, (agreement.keys other).publicKey ≠ pair.publicKey) :
    (agreement.learn side epoch pair).Sound provider (max last (side.ready epoch).epoch) := by
  by_cases new : epoch = side.epoch + 1
  · have latest : last = side.epoch + 1 := by omega
    subst latest
    rw [Agreement.learn, if_pos new, Side.ready, if_pos new, Side.ratchet_epoch, Nat.max_eq_right (Nat.le_succ _)]
    exact sound.draw valid fresh
  · rw [Agreement.learn, if_neg new, Side.ready, if_neg new, Nat.max_eq_left begun]
    exact sound

theorem learn_keys_cases {last : Nat} (begun : side.epoch ≤ last) (reached : last ≤ side.epoch + 1) {epoch : Nat}
    (within : epoch ≤ last) (pair : EcKeyPair) {other : Nat} (below : other ≤ max last (side.ready epoch).epoch) :
    other ≤ last ∧ (agreement.learn side epoch pair).keys other = agreement.keys other ∨
      (agreement.learn side epoch pair).keys other = pair := by
  by_cases old : other ≤ last
  · exact .inl ⟨old, learn_keys pair (by omega)⟩
  · have new : epoch = side.epoch + 1 := by
      by_contra different
      rw [Side.ready, if_neg different] at below
      omega
    rw [Side.ready, if_pos new, Side.ratchet_epoch] at below
    have drawn : other = side.epoch + 2 := by omega
    rw [learn, if_pos new, drawn]
    exact .inr (draw_keys_self ..)

theorem learn_message {epoch other : Nat} (pair : EcKeyPair) (before : other ≤ side.epoch + 1) (sender : Role) (counter : Nat)
    (previousCounter : UInt32) (plaintext : Bytes) :
    (agreement.learn side epoch pair).message provider sender other counter previousCounter plaintext =
      agreement.message provider sender other counter previousCounter plaintext := by
  rw [message, message, learn_messageKeys pair before, learn_keys pair before, learn_identity]

end Agreement

namespace Represents

theorem decryptFromState_eq (represents : Represents provider agreement role side state) (sender : Role) (epoch counter : Nat)
    (previousCounter : UInt32) (plaintext : Bytes) (random : EcPrivateKey) :
    SessionCipher.decryptFromState provider state
        (agreement.message provider sender epoch counter previousCounter plaintext) random =
      (SessionCipher.getOrCreateChainKey provider state (agreement.keys epoch).publicKey random).bind fun chained =>
        (SessionCipher.getOrCreateMessageKeys provider chained.2 (agreement.keys epoch).publicKey chained.1
          (UInt32.ofNat counter)).bind fun keyed =>
          (SessionCipher.openMessage provider keyed.2 keyed.1
            (agreement.message provider sender epoch counter previousCounter plaintext)).map fun text =>
            (text, keyed.2.clearUnacknowledgedPreKeyMessage) := by
  have version : (agreement.message provider sender epoch counter previousCounter plaintext).messageVersion.toUInt32 = 3 := rfl
  rw [SessionCipher.decryptFromState, represents.senderChain, Option.isNone_some, if_neg (by decide), version,
    represents.version, if_neg (by decide)]
  rfl

section

variable (represents : Represents provider agreement role side state) {last : Nat} (sound : agreement.Sound provider last)
  (begun : side.epoch ≤ last) (reached : last ≤ side.epoch + 1) {epoch : Nat} (within : epoch ≤ last) {random : EcPrivateKey}
  (fresh : ∀ other ≤ last, (agreement.keys other).publicKey ≠ (curveGenerateKeyPair provider random).publicKey)
  (bounded : ∀ window, side.find epoch = some window → window.next < 2 ^ 32) {counter : Nat} (small : counter < 2 ^ 32)
  (previousCounter : UInt32) (plaintext : Bytes)

include represents sound begun reached within fresh bounded small

/-- The keys of a message of a chain that is followed, or why there are none. -/
theorem keys_of_ready {window : Window limits} (found : (side.ready epoch).find epoch = some window) :
    ∃ chained, SessionCipher.getOrCreateChainKey provider state (agreement.keys epoch).publicKey random =
        .ok (agreement.chainKey provider epoch window.next, chained) ∧
      (∀ changed, window.accept counter = .ok changed → ∃ keyed,
        SessionCipher.getOrCreateMessageKeys provider chained (agreement.keys epoch).publicKey
            (agreement.chainKey provider epoch window.next) (UInt32.ofNat counter) =
          .ok (agreement.messageKeys provider epoch counter, keyed) ∧
        Represents provider (agreement.learn side epoch (curveGenerateKeyPair provider random)) role
          ((side.ready epoch).replace epoch changed) keyed ∧
        SameSession state keyed) ∧
      ∀ refusal, window.accept counter = .error refusal → SessionCipher.getOrCreateMessageKeys provider chained
          (agreement.keys epoch).publicKey (agreement.chainKey provider epoch window.next) (UInt32.ofNat counter) =
        .error (errorOf refusal) := by
  obtain ⟨chained, created, after, same⟩ := represents.getOrCreateChainKey_eq sound begun within found random
  have learned := sound.learn begun reached within (curveGenerateKeyPair_valid provider random) fresh
  have before : epoch ≤ side.epoch + 1 := Nat.le_trans within reached
  have early : window.next < 2 ^ 32 := by
    rcases Side.find_ready found with old | rfl
    · exact bounded window old
    · exact Nat.two_pow_pos 32
  refine ⟨chained, created, ?_, ?_⟩
  · intro changed accepted
    have keys := after.getOrCreateMessageKeys_of_accept learned (Nat.le_max_right ..)
      (Nat.le_trans within (Nat.le_max_left ..)) found early small accepted
    rw [Agreement.learn_keys _ before, Agreement.learn_chainKey _ before, Agreement.learn_messageKeys _ before] at keys
    exact ⟨_, keys, ⟨after.version, after.localIdentity, after.remoteIdentity, after.rootKey, after.senderChain, rfl⟩,
      ⟨same.aliceBaseKey, same.localRegistrationId⟩⟩
  · intro refusal refused
    have keys := after.getOrCreateMessageKeys_of_refusal learned (Nat.le_max_right ..)
      (Nat.le_trans within (Nat.le_max_left ..)) found early small refused
    rwa [Agreement.learn_keys _ before, Agreement.learn_chainKey _ before] at keys

theorem decryptFromState_of_accept {after : Side limits} (accepted : side.accept epoch counter = .ok after) :
    ∃ final, SessionCipher.decryptFromState provider state
        (agreement.message provider role.other epoch counter previousCounter plaintext) random = .ok (plaintext, final) ∧
      Represents provider (agreement.learn side epoch (curveGenerateKeyPair provider random)) role after final ∧
      SameSession state final ∧ final.pendingPreKey = none := by
  obtain ⟨window, changed, found, inside, rfl⟩ := Side.accept_cases accepted
  obtain ⟨chained, created, accepts, -⟩ := represents.keys_of_ready sound begun reached within fresh bounded small found
  obtain ⟨keyed, derived, final, same⟩ := accepts changed inside
  have before : epoch ≤ side.epoch + 1 := Nat.le_trans within reached
  have opened := final.openMessage_eq epoch counter previousCounter plaintext
  rw [Agreement.learn_messageKeys _ before, Agreement.learn_message _ before] at opened
  refine ⟨keyed.clearUnacknowledgedPreKeyMessage, ?_, ⟨final.version, final.localIdentity, final.remoteIdentity,
    final.rootKey, final.senderChain, final.receiverChains⟩, ⟨same.aliceBaseKey, same.localRegistrationId⟩, rfl⟩
  rw [represents.decryptFromState_eq, created, Except.bind, derived, Except.bind, opened]
  rfl

theorem decryptFromState_of_refusal {refusal : Refusal} (refused : side.accept epoch counter = .error refusal)
    (known : refusal ≠ .stray) :
    SessionCipher.decryptFromState provider state
      (agreement.message provider role.other epoch counter previousCounter plaintext) random = .error (errorOf refusal) := by
  obtain ⟨window, found, inside⟩ := Side.refusal_cases refused known
  obtain ⟨chained, created, -, refuses⟩ := represents.keys_of_ready sound begun reached within fresh bounded small found
  rw [represents.decryptFromState_eq, created, Except.bind, refuses refusal inside]
  rfl

end

theorem encryptState_eq (represents : Represents provider agreement role side state) (plaintext : Bytes) :
    ∃ final, SessionCipher.encryptState provider state plaintext =
        (SessionCipher.wrap state (agreement.identity role) (agreement.message provider role side.epoch side.sent
          state.previousCounter plaintext)).map (fun message => (message, final)) ∧
      Represents provider agreement role side.countSent final ∧ SameSession state final ∧
      final.pendingPreKey = state.pendingPreKey := by
  obtain ⟨final, set, after, same, pending⟩ : ∃ final,
      state.setSenderChainKey (agreement.chainKey provider side.epoch (side.sent + 1)) = .ok final ∧
      Represents provider agreement role side.countSent final ∧ SameSession state final ∧
      final.pendingPreKey = state.pendingPreKey := by
    rw [SessionState.setSenderChainKey, represents.senderChain]
    exact ⟨_, rfl, ⟨represents.version, represents.localIdentity, represents.remoteIdentity, represents.rootKey, rfl,
      represents.receiverChains⟩, ⟨rfl, rfl⟩, rfl⟩
  have key : state.getSenderRatchetKey = some (agreement.keys side.epoch).publicKey := by
    rw [SessionState.getSenderRatchetKey, represents.senderRatchetKeyPair_eq]
    rfl
  refine ⟨final, ?_, after, same, pending⟩
  rw [SessionCipher.encryptState, represents.senderChainKey_eq, key, represents.localIdentity, represents.remoteIdentity]
  dsimp only
  rw [represents.version, Agreement.chainKey_index, Agreement.chainKey_createNext, set]
  change (SessionCipher.wrap state (agreement.identity role) (agreement.message provider role side.epoch side.sent
    state.previousCounter plaintext) >>= _) = _
  cases SessionCipher.wrap state (agreement.identity role) (agreement.message provider role side.epoch side.sent
    state.previousCounter plaintext) <;> rfl

theorem learn (represents : Represents provider agreement role side state) {other : Side limits}
    (behind : side.epoch ≤ other.epoch + 1) (epoch : Nat) (pair : EcKeyPair) :
    Represents provider (agreement.learn other epoch pair) role side state := by
  have chains : side.windows.map (agreement.receiverChain provider) =
      side.windows.map ((agreement.learn other epoch pair).receiverChain provider) := by
    refine List.map_congr_left fun entry member => ?_
    have := epoch_lt_of_mem_windows member
    rw [Agreement.learn]
    split
    · exact (Agreement.receiverChain_draw (by omega) pair).symm
    · rfl
  refine ⟨represents.version, ?_, ?_, ?_, ?_, represents.receiverChains.trans chains⟩
  · rw [Agreement.learn_identity, represents.localIdentity]
  · rw [Agreement.learn_identity, represents.remoteIdentity]
  · rw [Agreement.learn_derived pair behind, represents.rootKey]
  · rw [Agreement.learn_keys pair behind, Agreement.learn_chainKey pair behind, represents.senderChain]

end Represents

/-- The two parties put the same secret together. -/
theorem secret_eq {alice bob base signed : EcKeyPair} (aliceValid : alice.Valid provider) (bobValid : bob.Valid provider)
    (baseValid : base.Valid provider) (signedValid : signed.Valid provider) {oneTime : Option EcKeyPair}
    (oneTimeValid : ∀ pair ∈ oneTime, pair.Valid provider) :
    AliceParameters.secret provider ⟨alice, base, bob.publicKey, signed.publicKey, oneTime.map EcKeyPair.publicKey,
        signed.publicKey⟩ =
      BobParameters.secret provider ⟨bob, signed, oneTime, signed, alice.publicKey, base.publicKey⟩ := by
  have last : ((oneTime.map EcKeyPair.publicKey).map fun preKey => curveCalculateAgreement provider preKey base.privateKey) =
      oneTime.map fun preKey => curveCalculateAgreement provider base.publicKey preKey.privateKey := by
    rw [Option.map_map]
    exact Option.map_congr fun pair member => curveCalculateAgreement_comm (oneTimeValid pair member) baseValid
  rw [AliceParameters.secret, BobParameters.secret, curveCalculateAgreement_comm signedValid aliceValid,
    curveCalculateAgreement_comm bobValid baseValid, curveCalculateAgreement_comm signedValid baseValid, last]

theorem aliceInitialize_represents {agreement : Agreement} {parameters : AliceParameters} {random : EcPrivateKey}
    (secret : agreement.secret = parameters.secret provider)
    (own : agreement.identity .initiator = parameters.ourIdentityKey.publicKey)
    (remote : agreement.identity .responder = parameters.theirIdentityKey)
    (published : (agreement.keys 0).publicKey = parameters.theirRatchetKey)
    (drawn : agreement.keys 1 = curveGenerateKeyPair provider random) :
    Represents provider agreement .initiator (.introduced limits)
      (ratchetingSessionAliceInitialize provider parameters random .create) := by
  have chains : (ratchetingSessionAliceInitialize provider parameters random .create).receiverChains =
      [] ++ [⟨some parameters.theirRatchetKey,
        some (ratchetingSessionCalculateDerivedKeys provider (parameters.secret provider)).2, []⟩] := push_of_lt (by decide) _
  refine ⟨rfl, own ▸ rfl, remote ▸ rfl, ?_, ?_, ?_⟩
  · change _ = some (agreement.derived provider 1).1
    rw [Agreement.derived, Agreement.derived, published, drawn, secret]
    rfl
  · change _ = some (SenderChain.mk (some (agreement.keys 1)) (some (agreement.chainKey provider 1 0)))
    rw [Agreement.chainKey_zero, Agreement.derived, Agreement.derived, published, drawn, secret]
    rfl
  · change _ = [agreement.receiverChain provider (0, .empty)]
    rw [chains, Agreement.receiverChain, published]
    change _ = [ReceiverChain.mk _ (some (agreement.chainKey provider 0 0)) []]
    rw [Agreement.chainKey_zero, Agreement.derived, secret]
    rfl

theorem bobInitialize_represents {agreement : Agreement} {parameters : BobParameters}
    (secret : agreement.secret = parameters.secret provider)
    (own : agreement.identity .responder = parameters.ourIdentityKey.publicKey)
    (remote : agreement.identity .initiator = parameters.theirIdentityKey)
    (published : agreement.keys 0 = parameters.ourRatchetKey) :
    Represents provider agreement .responder (.published limits)
      (ratchetingSessionBobInitialize provider parameters .create) := by
  refine ⟨rfl, own ▸ rfl, remote ▸ rfl, ?_, ?_, rfl⟩
  · change _ = some (agreement.derived provider 0).1
    rw [Agreement.derived, secret]
    rfl
  · change _ = some (SenderChain.mk (some (agreement.keys 0)) (some (agreement.chainKey provider 0 0)))
    rw [Agreement.chainKey_zero, Agreement.derived, published, secret]
    rfl

end PillarSignal.Libsignal
