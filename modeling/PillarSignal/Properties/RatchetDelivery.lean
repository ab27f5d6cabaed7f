import PillarSignal.Libsignal.Refinement

namespace PillarSignal.Libsignal

open Delivery

section

variable {provider : Provider}

/-- A run that a contact can be followed by: the keys that are drawn are different ones, every length can
    be written down, and no code of a chain that is gone verifies. -/
structure Contact.Runs (contact : Contact provider) (baseRandom ratchetRandom : EcPrivateKey)
    (actions : List Conversation.Action) : Prop where
  few : actions.length < 2 ^ 32
  fits : ∀ action ∈ actions, action.Fits provider
  distinct : (contact.drawn ratchetRandom ++ actions.flatMap (Conversation.Action.drawn provider)).Nodup
  unforged : (contact.start baseRandom ratchetRandom).RunUnforged provider actions

variable {contact : Contact provider} {baseRandom ratchetRandom : EcPrivateKey} {actions : List Conversation.Action}

namespace Contact.Runs

theorem refines (runs : contact.Runs baseRandom ratchetRandom actions) :
    ∃ exchange agreement, Refines contact baseRandom ratchetRandom
      (contact.drawn ratchetRandom ++ actions.flatMap (Conversation.Action.drawn provider)) exchange agreement
      ((contact.start baseRandom ratchetRandom).run provider actions) := by
  have first := @Refines.start provider contact baseRandom ratchetRandom (List.nodup_append.mp runs.distinct).1
  refine first.run ?_ runs.fits runs.distinct runs.unforged
  have := runs.few
  change 0 + actions.length ≤ 2 ^ 32
  omega

end Contact.Runs

theorem Conversation.run_sent_le (conversation : Conversation) (actions : List Action) :
    (conversation.run provider actions).sent.length ≤ conversation.sent.length + actions.length := by
  induction actions generalizing conversation with
  | nil => exact Nat.le_refl _
  | cons action actions ih =>
    have one := @Refines.step_sent_le provider conversation action
    have rest := ih (conversation.step provider action)
    rw [List.length_cons]
    change ((conversation.step provider action).run provider actions).sent.length ≤ _
    omega

theorem Contact.Runs.few_sent (runs : contact.Runs baseRandom ratchetRandom actions) :
    ((contact.start baseRandom ratchetRandom).run provider actions).sent.length < 2 ^ 32 := by
  have all := @Conversation.run_sent_le provider (contact.start baseRandom ratchetRandom) actions
  have := runs.few
  change _ ≤ 0 + actions.length at all
  omega

def sumCode (key data : Bytes) : Bytes := data.foldl (· + ·) (key.foldl (· + ·) 0) :: List.replicate 31 0

theorem sumCode_length (key data : Bytes) : (sumCode key data).length = 32 := by
  rw [sumCode, List.length_cons, List.length_replicate]

theorem zipWith_xor_left_comm (first second point : Bytes) :
    List.zipWith (· ^^^ ·) first (List.zipWith (· ^^^ ·) second point) =
      List.zipWith (· ^^^ ·) second (List.zipWith (· ^^^ ·) first point) := by
  apply List.ext_getElem
  · simp only [List.length_zipWith]
    omega
  · intro place here there
    have swap : ∀ one two three : UInt8, one ^^^ (two ^^^ three) = two ^^^ (one ^^^ three) := by
      intro one two three
      rw [← UInt8.xor_assoc, UInt8.xor_comm one, UInt8.xor_assoc]
    simp only [List.getElem_zipWith]
    exact swap ..

/-- The bytes of a point, each with the bits changed that the secret has in its place. -/
def xorDonna (secret : EcPrivateKey) (point : EcPublicKey) : EcPublicKey where
  data := List.zipWith (· ^^^ ·) secret.data point.data
  length := by rw [List.length_zipWith, secret.length, point.length, Nat.min_self]

theorem xorDonna_comm (first second : EcPrivateKey) (point : EcPublicKey) :
    xorDonna first (xorDonna second point) = xorDonna second (xorDonna first point) :=
  EcPublicKey.ext (zipWith_xor_left_comm first.data second.data point.data)

def sumSignature (publicKey : EcPublicKey) (message : Bytes) : Bytes :=
  sumCode publicKey.data message ++ sumCode publicKey.data message

/-- A provider that hides nothing, but whose codes depend on the keys. -/
def sumProvider : Provider where
  toCiphers := { plainCiphers with hmacSHA256 := sumCode, hmac_length := sumCode_length }
  encryptCTR _ _ plaintext := plaintext
  decryptCTR _ _ ciphertext := some ciphertext
  decryptError _ _ _ := .unknown
  curve25519Donna := xorDonna
  curve25519Verify signature publicKey message := signature == sumSignature publicKey message
  donna_comm := xorDonna_comm

def repeatedKey (byte : UInt8) : EcPrivateKey := ⟨List.replicate 32 byte, List.length_replicate⟩

def ownIdentity : Role → EcKeyPair
  | .initiator => curveGenerateKeyPair sumProvider (repeatedKey 1)
  | .responder => curveGenerateKeyPair sumProvider (repeatedKey 2)

def ownSignedPreKey : SessionSignedPreKey where
  id := 5
  keyPair := curveGenerateKeyPair sumProvider (repeatedKey 3)
  timestamp := 0
  signature := sumSignature (ownIdentity .responder).publicKey
    (ecPublicKeySerialize (curveGenerateKeyPair sumProvider (repeatedKey 3)).publicKey)
  signed := List.cons_ne_nil _ _

def ownPreKey : SessionPreKey := ⟨7, curveGenerateKeyPair sumProvider (repeatedKey 4)⟩

def ownStore (role : Role) : Store where
  loadSession := none
  containsSession := false
  isTrusted _ := true
  identityKeyPair := some ⟨⟨ecPublicKeySerialize (ownIdentity role).publicKey⟩, (ownIdentity role).privateKey.data⟩
  localRegistrationId := some 1
  loadPreKey id := if id = 7 then some ownPreKey.serialize else none
  loadSignedPreKey id := if id = 5 then some ownSignedPreKey.serialize else none

theorem ownIdentity_stored (role : Role) : (ownStore role).identityGetKeyPair = .ok (ownIdentity role) := by
  cases role <;> decide +kernel

theorem ownSignedPreKey_stored : (ownStore .responder).signedPreKeyLoadKey ownSignedPreKey.id = .ok ownSignedPreKey :=
  SessionSignedPreKey.deserialize_serialize (by decide +kernel)

theorem ownPreKey_stored : ∀ key ∈ some ownPreKey, (ownStore .responder).preKeyLoadKey key.id = .ok key :=
  forall_mem_some (SessionPreKey.deserialize_serialize ownPreKey)

theorem ownSignedPreKey_signed : curveVerifySignature sumProvider (ownIdentity .responder).publicKey
    (ecPublicKeySerialize ownSignedPreKey.keyPair.publicKey) ownSignedPreKey.signature = .ok true := by
  decide +kernel

theorem ownIdentity_valid (role : Role) : (ownIdentity role).Valid sumProvider := by
  cases role <;> rfl

def ownContact : Contact sumProvider where
  store := ownStore
  identity := ownIdentity
  signedPreKey := ownSignedPreKey
  preKey := some ownPreKey
  noSession _ := rfl
  identityKeyPair := ownIdentity_stored
  registered _ := rfl
  trusts _ := rfl
  signedPreKeyStored := ownSignedPreKey_stored
  preKeyStored := ownPreKey_stored
  signed := ownSignedPreKey_signed
  identityValid := ownIdentity_valid
  signedPreKeyValid := rfl
  preKeyValid := forall_mem_some (curveGenerateKeyPair_valid sumProvider (repeatedKey 4))

def crossedActions : List Conversation.Action :=
  [.send .initiator [97], .send .initiator [98], .deliver 1 fun _ => repeatedKey 11, .send .responder [99],
    .deliver 2 fun _ => repeatedKey 12, .deliver 0 fun _ => repeatedKey 13, .send .initiator [100]]

def crossed : Conversation := (ownContact.start (repeatedKey 9) (repeatedKey 10)).run sumProvider crossedActions

def crossedPacket (index : Nat) : Packet := crossed.sent.getD index ⟨.initiator, [], .signal ⟨3, basepoint, 0, 0, [], []⟩⟩

theorem crossed_facts :
    (ownContact.start (repeatedKey 9) (repeatedKey 10)).RunUnforged sumProvider crossedActions ∧
    (crossed.sent[0]? = some (crossedPacket 0) ∧ crossed.sent[3]? = some (crossedPacket 3) ∧ crossed.sent.length = 4) ∧
    ((crossedPacket 0).sender = .initiator ∧ (crossedPacket 3).sender = .initiator ∧ (crossedPacket 3).plaintext = [100]) ∧
    crossed.received .responder = [(1, [98]), (0, [97])] ∧
    (crossed.Known (crossedPacket 0) ∧ crossed.Known (crossedPacket 3)) ∧
    (crossed.store .responder).loadSession.isSome = true := by
  decide +kernel

theorem fits_byte (byte : UInt8) (key iv : Bytes) : (sumProvider.encryptCBC key iv [byte]).length < 2 ^ 31 :=
  (by decide : 1 < 2 ^ 31)

theorem crossedActions_fits : ∀ action ∈ crossedActions, action.Fits sumProvider := by
  simp only [crossedActions, List.forall_mem_cons, Conversation.Action.Fits]
  exact ⟨fits_byte _, fits_byte _, trivial, fits_byte _, trivial, trivial, fits_byte _,
    fun _ absent => absurd absent List.not_mem_nil⟩

theorem crossedActions_runs : ownContact.Runs (repeatedKey 9) (repeatedKey 10) crossedActions where
  few := by decide
  fits := crossedActions_fits
  distinct := by decide +kernel
  unforged := crossed_facts.1

theorem fresh_of_crossed : (curveGenerateKeyPair sumProvider (repeatedKey 15)).publicKey ∉
    ownContact.drawn (repeatedKey 10) ++ crossedActions.flatMap (Conversation.Action.drawn sumProvider) := by
  decide +kernel

/-- In whatever order packets come, and however often: no one reads a packet twice, and what is read is
    what the other party has sent. -/
theorem packets_are_read_once (runs : contact.Runs baseRandom ratchetRandom actions) (role : Role) :
    ((((contact.start baseRandom ratchetRandom).run provider actions).received role).map Prod.fst).Nodup ∧
      ∀ entry ∈ ((contact.start baseRandom ratchetRandom).run provider actions).received role,
        ∃ packet, ((contact.start baseRandom ratchetRandom).run provider actions).sent[entry.1]? = some packet ∧
          packet.sender = role.other ∧ packet.plaintext = entry.2 := by
  obtain ⟨exchange, agreement, refines⟩ := runs.refines
  refine ⟨?_, refines.faithful role⟩
  rw [refines.received role]
  exact refines.reached.valid.once role

/-- The next packet of the run above, four answers with an answer each, and then the first two packets once more: their
    chain is not held any more. -/
def lateActions : List Conversation.Action :=
  crossedActions ++ .deliver 3 (fun _ => repeatedKey 14) ::
    (List.range 4).flatMap (fun round =>
      [.send .responder [98], .deliver (2 * round + 4) fun _ => repeatedKey (UInt8.ofNat (2 * round + 20)),
        .send .initiator [97], .deliver (2 * round + 5) fun _ => repeatedKey (UInt8.ofNat (2 * round + 21))]) ++
    [.deliver 0 fun _ => repeatedKey 30, .deliver 1 fun _ => repeatedKey 31]

def late : Conversation := (ownContact.start (repeatedKey 9) (repeatedKey 10)).run sumProvider lateActions

theorem late_facts :
    (ownContact.start (repeatedKey 9) (repeatedKey 10)).RunUnforged sumProvider lateActions ∧
    (∀ index ∈ [0, 1], ∀ packet ∈ late.sent[index]?, ¬ late.Known packet) ∧
    late.received .responder = [(1, [98]), (0, [97]), (3, [100]), (5, [97]), (7, [97]), (9, [97]), (11, [97])] := by
  decide +kernel

theorem lateActions_runs : ownContact.Runs (repeatedKey 9) (repeatedKey 10) lateActions where
  few := by decide
  fits := by
    simp only [lateActions, List.forall_mem_append, List.forall_mem_cons, List.forall_mem_flatMap]
    exact ⟨⟨crossedActions_fits, trivial, fun _ _ => ⟨fits_byte _, trivial, fits_byte _, trivial,
      fun _ absent => absurd absent List.not_mem_nil⟩⟩, trivial, trivial, fun _ absent => absurd absent List.not_mem_nil⟩
  distinct := by decide +kernel
  unforged := late_facts.1

theorem late_packets_are_read_once :
    (∀ index ∈ [0, 1], ∀ packet ∈ late.sent[index]?, ¬ late.Known packet) ∧
      late.received .responder = [(1, [98]), (0, [97]), (3, [100]), (5, [97]), (7, [97]), (9, [97]), (11, [97])] ∧
      ((late.received .responder).map Prod.fst).Nodup := by
  obtain ⟨-, unknown, received⟩ := late_facts
  refine ⟨unknown, received, ?_⟩
  rw [late]
  exact (packets_are_read_once lateActions_runs .responder).1

section

variable {index : Nat} {packet : Packet} {random : Nat → EcPrivateKey}

/-- Nothing is lost on the way: as long as there are not more packets than keys are kept for, a packet that
    was not read yet, of a chain that is known, is read when it comes. -/
theorem missing_packet_is_read (runs : contact.Runs baseRandom ratchetRandom actions)
    (few : ((contact.start baseRandom ratchetRandom).run provider actions).sent.length ≤ MAX_MESSAGE_KEYS)
    (found : ((contact.start baseRandom ratchetRandom).run provider actions).sent[index]? = some packet)
    (missing : index ∉
      (((contact.start baseRandom ratchetRandom).run provider actions).received packet.sender.other).map Prod.fst)
    (known : ((contact.start baseRandom ratchetRandom).run provider actions).Known packet)
    (fresh : (curveGenerateKeyPair provider (random 0)).publicKey ∉
      contact.drawn ratchetRandom ++ actions.flatMap (Conversation.Action.drawn provider)) :
    ((contact.start baseRandom ratchetRandom).run provider actions).read provider packet random =
      .ok (.plaintext packet.plaintext) := by
  obtain ⟨exchange, agreement, refines⟩ := runs.refines
  obtain ⟨message, there, carries⟩ := refines.message_of_packet found
  have sent := List.mem_of_getElem? there
  have legible := refines.legible runs.few_sent fresh sent message.sender.other
  have follows := refines.follows_of_known found carries sent known
  have total : exchange.sent.length ≤ MAX_MESSAGE_KEYS := refines.packets.length_eq ▸ few
  have numbered := refines.reached.bounded.numbered message sent
  rw [carries.sender, refines.received] at missing
  have near : message.counter ≤ limits.reach := by
    rw [limits_reach]
    rw [MAX_MESSAGE_KEYS] at total
    omega
  obtain ⟨after, accepted⟩ := (refines.reached.complete total).accepts refines.reached.valid there missing follows near
  exact (refines.read_of_accept found carries legible accepted).1

theorem last_crossed_packet_is_read :
    crossed.read sumProvider (crossedPacket 3) (fun _ => repeatedKey 15) = .ok (.plaintext [100]) := by
  obtain ⟨-, ⟨-, found, total⟩, ⟨-, sender, text⟩, received, ⟨-, known⟩, -⟩ := crossed_facts
  have missing : 3 ∉ (crossed.received (crossedPacket 3).sender.other).map Prod.fst := by
    rw [sender, Role.other, received]
    decide
  have few : crossed.sent.length ≤ MAX_MESSAGE_KEYS := by
    rw [total]
    decide
  have read := @missing_packet_is_read _ _ _ _ _ _ _ (fun _ => repeatedKey 15) crossedActions_runs few found missing known
    fresh_of_crossed
  rw [text] at read
  exact read

/-- A packet that was read is answered with `SG_ERR_DUPLICATE_MESSAGE` when it comes again, as long as its
    chain is known. -/
theorem replayed_packet_is_duplicate (runs : contact.Runs baseRandom ratchetRandom actions)
    (found : ((contact.start baseRandom ratchetRandom).run provider actions).sent[index]? = some packet)
    (taken : index ∈
      (((contact.start baseRandom ratchetRandom).run provider actions).received packet.sender.other).map Prod.fst)
    (known : ((contact.start baseRandom ratchetRandom).run provider actions).Known packet)
    (fresh : (curveGenerateKeyPair provider (random 0)).publicKey ∉
      contact.drawn ratchetRandom ++ actions.flatMap (Conversation.Action.drawn provider)) :
    ((contact.start baseRandom ratchetRandom).run provider actions).read provider packet random =
      .error .duplicateMessage := by
  obtain ⟨exchange, agreement, refines⟩ := runs.refines
  obtain ⟨message, there, carries⟩ := refines.message_of_packet found
  have sent := List.mem_of_getElem? there
  have valid := refines.reached.valid
  have legible := refines.legible runs.few_sent fresh sent message.sender.other
  have follows := refines.follows_of_known found carries sent known
  have spent : ¬ (exchange.side message.sender.other).Open message.epoch message.counter := by
    rw [carries.sender, refines.received] at taken
    obtain ⟨other, also, -, closed⟩ := valid.taken _ index taken
    rw [there, Option.some.injEq] at also
    exact also ▸ closed
  cases result : (exchange.side message.sender.other).accept message.epoch message.counter with
  | ok after => exact absurd (Side.open_of_accepted result) spent
  | error refusal =>
    have here : refusal ≠ .stray := by
      rintro rfl
      exact Side.accept_ne_stray follows (valid.message_epoch_le sent) result
    -- the window of the chain refuses what is not open as a duplicate
    obtain ⟨window, held, refused⟩ := Side.refusal_cases result here
    have closed : ¬ window.Open message.counter := fun fresh =>
      spent ((Side.open_ready_iff ..).mp (.inr ⟨window, held, fresh⟩)).1
    rw [Window.accept_of_not_open closed] at refused
    rw [refines.read_error found carries legible result here, ← Except.error.inj refused]
    rfl

theorem crossed_packet_is_duplicate :
    crossed.read sumProvider (crossedPacket 0) (fun _ => repeatedKey 15) = .error .duplicateMessage := by
  obtain ⟨-, ⟨found, -, -⟩, ⟨sender, -, -⟩, received, ⟨known, -⟩, -⟩ := crossed_facts
  have taken : 0 ∈ (crossed.received (crossedPacket 0).sender.other).map Prod.fst := by
    rw [sender, Role.other, received]
    decide
  exact @replayed_packet_is_duplicate _ _ _ _ _ _ _ (fun _ => repeatedKey 15) crossedActions_runs found taken known
    fresh_of_crossed

/-- Whoever has the session can send, and what is sent can be read at once. -/
theorem sent_packet_is_read (runs : contact.Runs baseRandom ratchetRandom actions) {role : Role}
    (session : (((contact.start baseRandom ratchetRandom).run provider actions).store role).loadSession.isSome = true)
    (few : ((contact.start baseRandom ratchetRandom).run provider actions).sent.length < MAX_MESSAGE_KEYS) {plaintext : Bytes}
    (fits : ∀ key iv, (provider.encryptCBC key iv plaintext).length < 2 ^ 31)
    (fresh : (curveGenerateKeyPair provider (random 0)).publicKey ∉
      contact.drawn ratchetRandom ++ actions.flatMap (Conversation.Action.drawn provider)) :
    ∃ message, (((contact.start baseRandom ratchetRandom).run provider actions).send provider role plaintext).sent =
        ((contact.start baseRandom ratchetRandom).run provider actions).sent ++ [⟨role, plaintext, message⟩] ∧
      (((contact.start baseRandom ratchetRandom).run provider actions).send provider role plaintext).read provider
        ⟨role, plaintext, message⟩ random = .ok (.plaintext plaintext) := by
  obtain ⟨exchange, agreement, refines⟩ := runs.refines
  obtain ⟨conversation, same⟩ : ∃ conversation, conversation =
    (contact.start baseRandom ratchetRandom).run provider actions := ⟨_, rfl⟩
  rw [← same] at refines session few ⊢
  have party : ∃ record, Party contact baseRandom agreement role (exchange.side role) (conversation.store role) record := by
    rcases refines.parties role with there | ⟨rfl, awaits⟩
    · exact there
    · rw [awaits.store.noSession] at session
      cases session
  obtain ⟨record, party⟩ := party
  obtain ⟨message, -, -, -, performed, -⟩ := party.encrypt_eq (refines.identity role) plaintext
  have sent : (conversation.send provider role plaintext).sent = conversation.sent ++ [⟨role, plaintext, message⟩] := by
    rw [Conversation.send, performed]
  refine ⟨message, sent, ?_⟩
  have after := refines.send_of_party party fits
  have found : (conversation.send provider role plaintext).sent[conversation.sent.length]? =
      some ⟨role, plaintext, message⟩ := by
    rw [sent, List.getElem?_append_right (Nat.le_refl _), Nat.sub_self]
    rfl
  obtain ⟨last, there, carries⟩ := after.message_of_packet found
  have total : (exchange.step (.send role)).sent.length ≤ MAX_MESSAGE_KEYS := by
    rw [after.packets.length_eq, sent, List.length_append]
    exact few
  have member := List.mem_of_getElem? there
  have numbered := after.reached.bounded.numbered last member
  have valid := after.reached.valid
  have new : last = ⟨role, (exchange.side role).epoch, (exchange.side role).sent⟩ := by
    rw [Exchange.step, Exchange.send, ← refines.packets.length_eq, List.getElem?_append_right (Nat.le_refl _), Nat.sub_self] at there
    exact (Option.some.inj there).symm
  have missing : conversation.sent.length ∉ (exchange.step (.send role)).received last.sender.other := by
    intro taken
    obtain ⟨other, earlier, -⟩ := refines.reached.valid.taken last.sender.other _ taken
    have within := (List.getElem?_eq_some_iff.mp earlier).1
    rw [refines.packets.length_eq] at within
    exact Nat.lt_irrefl _ within
  have follows : ((exchange.step (.send role)).side last.sender.other).Follows last.epoch := by
    have current := valid.follows_current role
    rw [Exchange.step, Exchange.send_side_self, Exchange.send_side_other] at current
    rw [new, Exchange.step, Exchange.send_side_other]
    exact current
  have legible := after.legible (by rw [← after.packets.length_eq]; rw [MAX_MESSAGE_KEYS] at total; omega) fresh member
    last.sender.other
  have near : last.counter ≤ limits.reach := by
    rw [limits_reach]
    rw [MAX_MESSAGE_KEYS] at total
    omega
  obtain ⟨next, accepted⟩ := (after.reached.complete total).accepts valid there missing follows near
  exact (after.read_of_accept found carries legible accepted).1

theorem answer_to_crossed_is_read : ∃ message, (crossed.send sumProvider .responder [101]).sent =
      crossed.sent ++ [⟨.responder, [101], message⟩] ∧
    (crossed.send sumProvider .responder [101]).read sumProvider ⟨.responder, [101], message⟩ (fun _ => repeatedKey 15) =
      .ok (.plaintext [101]) := by
  obtain ⟨-, ⟨-, -, total⟩, -, -, -, session⟩ := crossed_facts
  have few : crossed.sent.length < MAX_MESSAGE_KEYS := by
    rw [total]
    decide
  exact sent_packet_is_read crossedActions_runs session few (fun _ _ => (by decide : 1 < 2 ^ 31)) fresh_of_crossed

end

end

end PillarSignal.Libsignal
