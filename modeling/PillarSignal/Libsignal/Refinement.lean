import PillarSignal.Libsignal.Parties
import Mathlib.Data.List.Forall2

namespace PillarSignal.Libsignal

open Delivery

variable {provider : Provider}

/-- As long as nothing has been received, the initiator sets up the session with everything it sends. -/
structure Awaits (contact : Contact provider) (baseRandom ratchetRandom : EcPrivateKey) (exchange : Exchange limits)
    (agreement : Agreement) (conversation : Conversation) : Prop where
  store : Awaiting contact (conversation.store .responder)
  side : exchange.side .responder = .published limits
  agreed : agreement = contact.agreed baseRandom ratchetRandom
  pending : ∀ record, (conversation.store .initiator).Holds record →
    record.state.pendingPreKey = some (contact.pending baseRandom)
  packets : ∀ packet ∈ conversation.sent, ∃ message, packet.message = .preKey message

structure Refines (contact : Contact provider) (baseRandom ratchetRandom : EcPrivateKey) (drawn : List EcPublicKey)
    (exchange : Exchange limits) (agreement : Agreement) (conversation : Conversation) : Prop where
  reached : exchange.Reached
  sound : agreement.Sound provider exchange.last
  drawn : ∀ epoch ≤ exchange.last, (agreement.keys epoch).publicKey ∈ drawn
  identity : ∀ role, agreement.identity role = (contact.identity role).publicKey
  parties : ∀ role, (∃ record, Party contact baseRandom agreement role (exchange.side role) (conversation.store role) record) ∨
    role = .responder ∧ Awaits contact baseRandom ratchetRandom exchange agreement conversation
  packets : List.Forall₂ (Carries contact baseRandom agreement) exchange.sent conversation.sent
  received : ∀ role, (conversation.received role).map Prod.fst = exchange.received role
  faithful : ∀ role, ∀ entry ∈ conversation.received role, ∃ packet, conversation.sent[entry.1]? = some packet ∧
    packet.sender = role.other ∧ packet.plaintext = entry.2

variable {contact : Contact provider} {baseRandom ratchetRandom : EcPrivateKey} {drawn : List EcPublicKey}
  {exchange : Exchange limits} {agreement : Agreement} {conversation : Conversation}

namespace Conversation

theorem ask_self (conversation : Conversation) (role : Role) (request : Request) :
    conversation.ask provider role request role = request.step provider (conversation.store role) := Function.update_self ..

theorem deliver_of_ok {index : Nat} {packet : Packet} (found : conversation.sent[index]? = some packet)
    {random : Nat → EcPrivateKey} {text : Bytes} (reads : conversation.read provider packet random = .ok (.plaintext text)) :
    conversation.deliver provider index random =
      { store := conversation.ask provider packet.sender.other (packet.message.request random)
        sent := conversation.sent
        received := Function.update conversation.received packet.sender.other
          (conversation.received packet.sender.other ++ [(index, text)]) } := by
  rw [deliver, found]
  dsimp only
  rw [reads]

theorem deliver_of_error {index : Nat} {packet : Packet} (found : conversation.sent[index]? = some packet)
    {random : Nat → EcPrivateKey} {error : SgErr} (refused : conversation.read provider packet random = .error error) :
    conversation.deliver provider index random =
      { conversation with store := conversation.ask provider packet.sender.other (packet.message.request random) } := by
  rw [deliver, found]
  dsimp only
  rw [refused]

theorem ask_other (conversation : Conversation) (role : Role) (request : Request) :
    conversation.ask provider role request role.other = conversation.store role.other := Function.update_of_ne role.other_ne ..

end Conversation

theorem Carries.store_sender {message : Message} {packet : Packet}
    (carries : Carries contact baseRandom agreement message packet) (conversation : Conversation) (request : Request) :
    conversation.ask provider packet.sender.other request message.sender = conversation.store message.sender := by
  have other := @Conversation.ask_other provider conversation message.sender.other request
  rw [Role.other_other] at other
  rw [carries.sender, other]

theorem Carries.store_receiver {message : Message} {packet : Packet}
    (carries : Carries contact baseRandom agreement message packet) (conversation : Conversation) (request : Request) :
    conversation.ask provider packet.sender.other request message.sender.other =
      request.step provider (conversation.store message.sender.other) := by
  rw [← carries.sender]
  exact conversation.ask_self ..

theorem Awaiting.encrypt_error {store : Store} (awaiting : Awaiting contact store) (plaintext : Bytes) :
    Request.perform provider store (.encrypt plaintext) = (.error .unknown, []) := by
  have load : store.sessionLoadSession = .ok (.create none) := by
    rw [Store.sessionLoadSession, awaiting.noSession]
  have inside : SessionCipher.encrypt provider store plaintext = .error .unknown := by
    rw [SessionCipher.encrypt, load]
    rfl
  rw [Request.perform, inside]

theorem Awaits.send_eq (awaits : Awaits contact baseRandom ratchetRandom exchange agreement conversation) (plaintext : Bytes) :
    conversation.send provider .responder plaintext = conversation := by
  have performed := awaits.store.encrypt_error plaintext
  have same : conversation.ask provider .responder (.encrypt plaintext) = conversation.store := by
    rw [Conversation.ask, Request.step_of_perform performed]
    exact Function.update_eq_self ..
  rw [Conversation.send, same, performed]

namespace Refines

/-- A party that has the session sends; what it sends is one more message of the exchange. -/
theorem send_of_party (refines : Refines contact baseRandom ratchetRandom drawn exchange agreement conversation) {role : Role}
    {record : SessionRecord}
    (party : Party contact baseRandom agreement role (exchange.side role) (conversation.store role) record) {plaintext : Bytes}
    (fits : ∀ key iv, (provider.encryptCBC key iv plaintext).length < 2 ^ 31) :
    Refines contact baseRandom ratchetRandom drawn (exchange.step (.send role)) agreement
      (conversation.send provider role plaintext) := by
  obtain ⟨message, final, inner, previousCounter, performed, after, pending, made, content⟩ := party.encrypt_eq
    (refines.identity role) plaintext
  have sent : (conversation.send provider role plaintext).sent = conversation.sent ++ [⟨role, plaintext, message⟩] := by
    rw [Conversation.send, performed]
  have self : (conversation.send provider role plaintext).store role =
      (Request.encrypt plaintext).step provider (conversation.store role) := conversation.ask_self ..
  have other : (conversation.send provider role plaintext).store role.other = conversation.store role.other :=
    conversation.ask_other ..
  have carries : Carries contact baseRandom agreement ⟨role, (exchange.side role).epoch, (exchange.side role).sent⟩
      ⟨role, plaintext, message⟩ := by
    refine ⟨rfl, fits, inner, previousCounter, made, ?_⟩
    rcases content with ⟨-, alone⟩ | around
    · exact .inl alone
    · exact .inr around
  refine ⟨refines.reached.step (.send role), ?_, ?_, refines.identity, ?_, ?_, refines.received, ?_⟩
  · rw [Exchange.step, Exchange.send_last]
    exact refines.sound
  · rw [Exchange.step, Exchange.send_last]
    exact refines.drawn
  · intro one
    rcases one.eq_or_eq_other role with rfl | rfl
    · refine .inl ⟨final, ?_⟩
      rw [Exchange.step, Exchange.send_side_self, self]
      exact after
    · rw [Exchange.step, Exchange.send_side_other, other]
      rcases refines.parties role.other with there | ⟨responder, awaits⟩
      · exact .inl there
      · have own := eq_initiator responder
        subst own
        have waiting := awaits.pending record party.holds
        refine .inr ⟨rfl, ?_, (Exchange.send_side_other exchange .initiator).trans awaits.side, awaits.agreed, ?_, ?_⟩
        · exact (show (conversation.send provider .initiator plaintext).store .responder = _ from other) ▸ awaits.store
        · intro held holds
          rw [self] at holds
          rw [after.holds.unique holds, pending, waiting]
        · intro packet member
          rw [sent] at member
          rcases List.mem_append.mp member with before | new
          · exact awaits.packets packet before
          · rcases content with ⟨nothing, -⟩ | ⟨-, registrationId, around⟩
            · rw [waiting] at nothing
              cases nothing
            · rw [List.mem_singleton.mp new]
              exact ⟨_, around⟩
  · rw [sent]
    exact List.rel_append refines.packets (.cons carries .nil)
  · intro one entry member
    obtain ⟨packet, found, sender, same⟩ := refines.faithful one entry member
    refine ⟨packet, ?_, sender, same⟩
    rw [sent, List.getElem?_append_left (List.getElem?_eq_some_iff.mp found).1, found]

theorem message_of_packet (refines : Refines contact baseRandom ratchetRandom drawn exchange agreement conversation)
    {index : Nat} {packet : Packet} (found : conversation.sent[index]? = some packet) :
    ∃ message, exchange.sent[index]? = some message ∧ Carries contact baseRandom agreement message packet := by
  obtain ⟨within, same⟩ := List.getElem?_eq_some_iff.mp found
  have also : index < exchange.sent.length := by rwa [refines.packets.length_eq]
  refine ⟨exchange.sent[index], List.getElem?_eq_getElem also, ?_⟩
  rw [← same]
  exact refines.packets.get also within

theorem legible (refines : Refines contact baseRandom ratchetRandom drawn exchange agreement conversation)
    (few : conversation.sent.length < 2 ^ 32) {random : EcPrivateKey}
    (fresh : (curveGenerateKeyPair provider random).publicKey ∉ drawn) {message : Message} (sent : message ∈ exchange.sent)
    (role : Role) : Legible provider agreement (exchange.side role) exchange.last random message := by
  have bounded := refines.reached.bounded
  have total := refines.packets.length_eq
  refine ⟨refines.sound, exchange.epoch_le_last role, refines.reached.valid.last_le_succ role, ?_, ?_, ?_, ?_⟩
  · exact Nat.le_trans (refines.reached.valid.begun message sent) (exchange.epoch_le_last _)
  · intro epoch within same
    exact fresh (same ▸ refines.drawn epoch within)
  · intro window found
    have := bounded.early role message.epoch window found
    omega
  · have := bounded.numbered message sent
    omega

theorem sender_of_awaits (awaits : Awaits contact baseRandom ratchetRandom exchange agreement conversation) {packet : Packet}
    (sent : packet ∈ conversation.sent) {message : Message} (carries : Carries contact baseRandom agreement message packet) :
    ∃ registrationId previousCounter, message.sender = .initiator ∧ packet.message = .preKey (contact.preKeyMessage baseRandom
      registrationId (agreement.message provider .initiator message.epoch message.counter previousCounter packet.plaintext)) := by
  obtain ⟨around, kind⟩ := awaits.packets packet sent
  obtain ⟨inner, previousCounter, rfl, alone | ⟨initiator, registrationId, same⟩⟩ := carries.content
  · rw [alone] at kind
    cases kind
  · rw [initiator] at same
    exact ⟨registrationId, previousCounter, initiator, same⟩

section

variable (refines : Refines contact baseRandom ratchetRandom drawn exchange agreement conversation) {index : Nat}
  {packet : Packet} (found : conversation.sent[index]? = some packet) {message : Message}
  (carries : Carries contact baseRandom agreement message packet) {random : Nat → EcPrivateKey}

include refines found carries

theorem sender_party : ∃ record, Party contact baseRandom agreement message.sender (exchange.side message.sender)
    (conversation.store message.sender) record := by
  rcases refines.parties message.sender with there | ⟨responder, awaits⟩
  · exact there
  · obtain ⟨-, -, initiator, -⟩ := sender_of_awaits awaits (List.mem_of_getElem? found) carries
    rw [initiator] at responder
    cases responder

/-- What is known of a packet in the stores is that its chain is followed. -/
theorem follows_of_known (there : message ∈ exchange.sent) (known : conversation.Known packet) :
    (exchange.side message.sender.other).Follows message.epoch := by
  have valid := refines.reached.valid
  have within : message.epoch ≤ exchange.last := Nat.le_trans (valid.begun message there) (exchange.epoch_le_last _)
  have key := carries.ratchetKey_eq
  rcases known with ⟨state, held, current⟩ | ⟨state, held, chain⟩
  · obtain ⟨record, party⟩ := refines.sender_party found carries
    rw [carries.sender, Conversation.state, party.holds.state_eq] at held
    rw [← Option.some.inj held, SessionState.getSenderRatchetKey, party.session.represents.senderRatchetKeyPair_eq, key,
      Option.map_some, Option.some.injEq] at current
    rw [← refines.sound.distinct _ (exchange.epoch_le_last _) _ within current]
    exact valid.follows_current message.sender
  · rw [carries.sender, Conversation.state] at held
    rcases refines.parties message.sender.other with ⟨record, party⟩ | ⟨responder, awaits⟩
    · rw [party.holds.state_eq] at held
      rw [← Option.some.inj held, key, party.session.represents.receiverChainKey_eq refines.sound (exchange.epoch_le_last _)
        within, Option.isSome_map] at chain
      exact .inr (Side.find_isSome.mp (Option.isSome_iff_exists.mp chain))
    · rw [responder, awaits.store.noSession] at held
      cases held

theorem deliver_of_ok (there : exchange.sent[index]? = some message)
    (legible : Legible provider agreement (exchange.side message.sender.other) exchange.last (random 0) message)
    {after : Side limits}
    (accepted : (exchange.side message.sender.other).accept message.epoch message.counter = .ok after)
    (reads : conversation.read provider packet random = .ok (.plaintext packet.plaintext)) {final : SessionRecord}
    (party : Party contact baseRandom (agreement.learn (exchange.side message.sender.other) message.epoch
      (curveGenerateKeyPair provider (random 0))) message.sender.other after
      ((packet.message.request random).step provider (conversation.store message.sender.other)) final) :
    Refines contact baseRandom ratchetRandom (drawn ++ [(curveGenerateKeyPair provider (random 0)).publicKey])
      (exchange.step (.deliver index)) (agreement.learn (exchange.side message.sender.other) message.epoch
        (curveGenerateKeyPair provider (random 0))) (conversation.deliver provider index random) := by
  have valid := refines.reached.valid
  have sound := legible.sound.learn legible.begun legible.reached legible.within
    (curveGenerateKeyPair_valid provider (random 0)) legible.fresh
  have reached := refines.reached.step (.deliver index)
  rw [Exchange.step, Exchange.deliver_of_accept there accepted] at reached ⊢
  rw [Conversation.deliver_of_ok found reads]
  have moved : after.epoch = ((exchange.side message.sender.other).ready message.epoch).epoch := by
    obtain ⟨window, changed, -, -, rfl⟩ := Side.accept_cases accepted
    rfl
  have later : (exchange.accepted index message after).last ≤
      max exchange.last ((exchange.side message.sender.other).ready message.epoch).epoch := by
    refine Exchange.last_le message.sender ?_ ?_
    · rw [Exchange.accepted_side_sender]
      exact Nat.le_trans (exchange.epoch_le_last _) (Nat.le_max_left ..)
    · rw [Exchange.accepted_side_receiver, moved]
      exact Nat.le_max_right ..
  refine ⟨reached, sound.mono later, ?_, ?_, ?_, ?_, ?_, ?_⟩
  · intro epoch below
    rcases Agreement.learn_keys_cases legible.begun legible.reached legible.within (curveGenerateKeyPair provider (random 0))
      (Nat.le_trans below later) with ⟨old, same⟩ | new
    · rw [same]
      exact List.mem_append_left _ (refines.drawn epoch old)
    · rw [new]
      exact List.mem_append_right _ (List.mem_singleton_self _)
  · intro role
    rw [Agreement.learn_identity]
    exact refines.identity role
  · intro role
    left
    dsimp only
    rcases role.eq_or_eq_other message.sender with rfl | rfl
    · obtain ⟨record, sender⟩ := refines.sender_party found carries
      rw [Exchange.accepted_side_sender, carries.store_sender]
      exact ⟨record, sender.learn (valid.epoch_le _) _ _⟩
    · rw [Exchange.accepted_side_receiver, carries.store_receiver]
      exact ⟨final, party⟩
  · have early : ∀ other ∈ exchange.sent, other.epoch ≤ (exchange.side message.sender.other).epoch + 1 := fun other member =>
      Nat.le_trans (Nat.le_trans (valid.begun other member) (exchange.epoch_le_last _)) legible.reached
    refine ((List.forall₂_and_left _ _).mpr ⟨early, refines.packets⟩).imp ?_
    rintro other sent ⟨before, carried⟩
    exact carried.learn before _ _
  · intro role
    rw [carries.sender]
    dsimp only
    rcases role.eq_or_eq_other message.sender with rfl | rfl
    · rw [Exchange.accepted_received_sender, Function.update_of_ne (fun same => message.sender.other_ne same.symm)]
      exact refines.received _
    · rw [Exchange.accepted_received_receiver, Function.update_self, List.map_append, refines.received]
      rfl
  · intro role entry member
    rw [carries.sender] at member
    dsimp only at member
    rcases role.eq_or_eq_other message.sender with rfl | rfl
    · rw [Function.update_of_ne (fun same => message.sender.other_ne same.symm)] at member
      exact refines.faithful _ entry member
    · rw [Function.update_self] at member
      rcases List.mem_append.mp member with before | new
      · exact refines.faithful _ entry before
      · rw [List.mem_singleton.mp new]
        exact ⟨packet, found, by rw [carries.sender, Role.other_other], rfl⟩

theorem read_of_accept
    (legible : Legible provider agreement (exchange.side message.sender.other) exchange.last (random 0) message)
    {after : Side limits}
    (accepted : (exchange.side message.sender.other).accept message.epoch message.counter = .ok after) :
    conversation.read provider packet random = .ok (.plaintext packet.plaintext) ∧ ∃ final,
      Party contact baseRandom (agreement.learn (exchange.side message.sender.other) message.epoch
        (curveGenerateKeyPair provider (random 0))) message.sender.other after
        ((packet.message.request random).step provider (conversation.store message.sender.other)) final := by
  rw [Conversation.read, carries.sender]
  rcases refines.parties message.sender.other with ⟨record, party⟩ | ⟨responder, awaits⟩
  · obtain ⟨final, reads, later, -⟩ := party.read_of_accept carries (Role.other_other _).symm legible accepted
    exact ⟨reads, final, later⟩
  · obtain ⟨registrationId, previousCounter, -, around⟩ := sender_of_awaits awaits (List.mem_of_getElem? found) carries
    rw [responder, awaits.side, awaits.agreed] at legible
    rw [responder, awaits.side] at accepted
    rw [responder, awaits.side, awaits.agreed, around, CiphertextMessage.request, awaits.agreed]
    obtain ⟨final, reads, later⟩ := awaits.store.read_of_accept legible carries.fits previousCounter registrationId accepted
    exact ⟨reads, final, later⟩

theorem not_stray_of_awaits (awaits : Awaits contact baseRandom ratchetRandom exchange agreement conversation)
    (there : message ∈ exchange.sent) :
    (exchange.side .responder).accept message.epoch message.counter ≠ .error .stray := by
  have valid := refines.reached.valid
  obtain ⟨-, -, initiator, -⟩ := sender_of_awaits awaits (List.mem_of_getElem? found) carries
  have begun := valid.begun message there
  have turns := valid.turns message there
  have near := valid.epoch_le .initiator
  have zero : (exchange.side .responder).epoch = 0 := by
    rw [awaits.side]
    rfl
  have first : (exchange.side .initiator).epoch = 1 := by
    obtain ⟨leader, next⟩ := valid.adjacent
    cases leader with
    | initiator => exact next.trans (by rw [Role.other, zero])
    | responder => omega
  rw [initiator, first] at begun turns
  exact Side.accept_ne_stray (.inl (by omega)) (by omega)

/-- What the windows refuse, for another reason than its chain, is answered with the error of that reason. -/
theorem read_error
    (legible : Legible provider agreement (exchange.side message.sender.other) exchange.last (random 0) message)
    {refusal : Refusal}
    (refused : (exchange.side message.sender.other).accept message.epoch message.counter = .error refusal)
    (known : refusal ≠ .stray) : conversation.read provider packet random = .error (errorOf refusal) := by
  rw [Conversation.read, carries.sender]
  rcases refines.parties message.sender.other with ⟨record, party⟩ | ⟨responder, awaits⟩
  · exact party.read_of_refusal carries (Role.other_other _).symm legible refused known
  · obtain ⟨registrationId, previousCounter, -, around⟩ := sender_of_awaits awaits (List.mem_of_getElem? found) carries
    rw [responder, awaits.side, awaits.agreed] at legible
    rw [responder, awaits.side] at refused
    rw [responder, around, CiphertextMessage.request, awaits.agreed]
    exact (awaits.store.read_of_refusal legible carries.fits previousCounter registrationId refused known).1

/-- With a session at hand, whatever the windows refuse is answered with some error. -/
theorem unread_of_refusal (there : message ∈ exchange.sent)
    (legible : Legible provider agreement (exchange.side message.sender.other) exchange.last (random 0) message)
    (unforged : conversation.Unforged provider (.deliver index random)) {refusal : Refusal}
    (refused : (exchange.side message.sender.other).accept message.epoch message.counter = .error refusal)
    {record : SessionRecord} (party : Party contact baseRandom agreement message.sender.other
      (exchange.side message.sender.other) (conversation.store message.sender.other) record) :
    ∃ error, conversation.read provider packet random = .error error := by
  by_cases stray : refusal = .stray
  · have unknown : ¬ conversation.Known packet := fun known => Side.accept_ne_stray
      (refines.follows_of_known found carries there known) (Nat.le_trans legible.within legible.reached) (stray ▸ refused)
    have current : conversation.state packet.sender.other = some record.state := by
      rw [carries.sender]
      exact party.holds.state_eq
    rw [Conversation.read, carries.sender]
    exact party.read_of_unverified carries (Role.other_other _).symm (unforged packet found unknown record.state current)
  · exact ⟨_, refines.read_error found carries legible refused stray⟩

omit carries in
/-- A packet that is not read changes nothing but the stores of its receiver. -/
theorem deliver_of_error {error : SgErr} (unread : conversation.read provider packet random = .error error)
    (parties : ∀ role, (∃ record, Party contact baseRandom agreement role (exchange.side role)
        (conversation.ask provider packet.sender.other (packet.message.request random) role) record) ∨
      role = .responder ∧ Awaits contact baseRandom ratchetRandom exchange agreement
        { conversation with store := conversation.ask provider packet.sender.other (packet.message.request random) }) :
    Refines contact baseRandom ratchetRandom drawn exchange agreement (conversation.deliver provider index random) := by
  rw [Conversation.deliver_of_error found unread]
  exact ⟨refines.reached, refines.sound, refines.drawn, refines.identity, parties, refines.packets, refines.received,
    refines.faithful⟩

theorem read_of_refusal (there : message ∈ exchange.sent)
    (legible : Legible provider agreement (exchange.side message.sender.other) exchange.last (random 0) message)
    (unforged : conversation.Unforged provider (.deliver index random)) {refusal : Refusal}
    (refused : (exchange.side message.sender.other).accept message.epoch message.counter = .error refusal) :
    Refines contact baseRandom ratchetRandom drawn exchange agreement (conversation.deliver provider index random) := by
  have sender := refines.sender_party found carries
  rcases refines.parties message.sender.other with ⟨record, party⟩ | ⟨responder, awaits⟩
  · obtain ⟨error, unread⟩ := refines.unread_of_refusal found carries there legible unforged refused party
    apply refines.deliver_of_error found unread
    rw [Conversation.read, carries.sender] at unread
    intro role
    left
    rcases role.eq_or_eq_other message.sender with rfl | rfl
    · rw [carries.store_sender]
      exact sender
    · rw [carries.store_receiver]
      exact ⟨record, party.of_error carries (Role.other_other _).symm unread⟩
  · obtain ⟨registrationId, previousCounter, initiator, around⟩ :=
      sender_of_awaits awaits (List.mem_of_getElem? found) carries
    have known : refusal ≠ .stray := by
      rintro rfl
      exact refines.not_stray_of_awaits found carries awaits there (responder ▸ refused)
    apply refines.deliver_of_error found (refines.read_error found carries legible refused known)
    rw [responder, awaits.side, awaits.agreed] at legible
    rw [responder, awaits.side] at refused
    have waiting := (awaits.store.read_of_refusal legible carries.fits previousCounter registrationId refused known).2
    rw [awaits.agreed] at around
    have receiver : packet.sender.other = .responder := by rw [carries.sender, responder]
    have other (request : Request) : conversation.ask provider .responder request .initiator = conversation.store .initiator :=
      conversation.ask_other .responder request
    rw [receiver, around]
    intro role
    cases role with
    | initiator =>
      left
      rw [other]
      exact initiator ▸ sender
    | responder =>
      refine .inr ⟨rfl, ?_, awaits.side, awaits.agreed, ?_, awaits.packets⟩
      · dsimp only
        rw [Conversation.ask_self]
        exact waiting
      · dsimp only
        rw [other]
        exact awaits.pending

end

theorem more (refines : Refines contact baseRandom ratchetRandom drawn exchange agreement conversation) (others : List EcPublicKey) :
    Refines contact baseRandom ratchetRandom (drawn ++ others) exchange agreement conversation where
  reached := refines.reached
  sound := refines.sound
  drawn epoch within := List.mem_append_left _ (refines.drawn epoch within)
  identity := refines.identity
  parties := refines.parties
  packets := refines.packets
  received := refines.received
  faithful := refines.faithful

/-- Every step of a conversation is a step of the exchange, or none. -/
theorem step (refines : Refines contact baseRandom ratchetRandom drawn exchange agreement conversation)
    {action : Conversation.Action} (few : conversation.sent.length < 2 ^ 32) (fits : action.Fits provider)
    (fresh : ∀ key ∈ action.drawn provider, key ∉ drawn) (unforged : conversation.Unforged provider action) :
    ∃ exchange agreement, Refines contact baseRandom ratchetRandom (drawn ++ action.drawn provider) exchange agreement
      (conversation.step provider action) := by
  cases action with
  | send role plaintext =>
    rw [Conversation.Action.drawn, List.append_nil, Conversation.step]
    rcases refines.parties role with ⟨record, party⟩ | ⟨rfl, awaits⟩
    · exact ⟨_, _, refines.send_of_party party fits⟩
    · rw [awaits.send_eq]
      exact ⟨_, _, refines⟩
  | deliver index random =>
    rw [Conversation.Action.drawn, Conversation.step]
    cases found : conversation.sent[index]? with
    | none =>
      rw [Conversation.deliver, found]
      exact ⟨_, _, refines.more _⟩
    | some packet =>
      obtain ⟨message, there, carries⟩ := refines.message_of_packet found
      have sent := List.mem_of_getElem? there
      have legible := refines.legible few (fresh _ (List.mem_singleton_self _)) sent message.sender.other
      cases accepted : (exchange.side message.sender.other).accept message.epoch message.counter with
      | ok after =>
        obtain ⟨reads, final, party⟩ := refines.read_of_accept found carries legible accepted
        exact ⟨_, _, refines.deliver_of_ok found carries there legible accepted reads party⟩
      | error refusal => exact ⟨_, _, (refines.read_of_refusal found carries sent legible unforged accepted).more _⟩

theorem step_sent_le (conversation : Conversation) (action : Conversation.Action) :
    (conversation.step provider action).sent.length ≤ conversation.sent.length + 1 := by
  cases action with
  | send role plaintext =>
    rw [Conversation.step, Conversation.send]
    dsimp only
    split
    · rw [List.length_append]
      exact Nat.le_refl _
    · exact Nat.le_succ _
  | deliver index random =>
    rw [Conversation.step, Conversation.deliver]
    split
    · exact Nat.le_succ _
    · exact Nat.le_succ _

/-- Every conversation is an exchange. -/
theorem run {actions : List Conversation.Action} :
    ∀ {drawn exchange agreement conversation},
      Refines contact baseRandom ratchetRandom drawn exchange agreement conversation →
      conversation.sent.length + actions.length ≤ 2 ^ 32 →
      (∀ action ∈ actions, action.Fits provider) →
      (drawn ++ actions.flatMap (Conversation.Action.drawn provider)).Nodup →
      conversation.RunUnforged provider actions →
      ∃ exchange agreement, Refines contact baseRandom ratchetRandom
        (drawn ++ actions.flatMap (Conversation.Action.drawn provider)) exchange agreement
        (conversation.run provider actions) := by
  induction actions with
  | nil =>
    intro drawn exchange agreement conversation refines _ _ _ _
    rw [List.flatMap_nil, List.append_nil]
    exact ⟨_, _, refines⟩
  | cons action actions ih =>
    intro drawn exchange agreement conversation refines few fits distinct unforged
    rw [List.flatMap_cons, ← List.append_assoc] at distinct ⊢
    rw [List.length_cons] at few
    have fresh : ∀ key ∈ action.drawn provider, key ∉ drawn := by
      intro key new old
      exact (List.nodup_append.mp (List.nodup_append.mp distinct).1).2.2 key old key new rfl
    obtain ⟨later, agreed, next⟩ := refines.step (by omega) (fits action List.mem_cons_self) fresh unforged.1
    have longer := @step_sent_le provider conversation action
    exact ih next (by omega) (fun other member => fits other (List.mem_cons_of_mem _ member)) distinct unforged.2

theorem agreed_sound (distinct : (contact.drawn ratchetRandom).Nodup) :
    (contact.agreed baseRandom ratchetRandom).Sound provider 1 := by
  have split : ∀ epoch ≤ 1, epoch = 0 ∨ epoch = 1 := by
    intro epoch within
    omega
  have different : contact.signedPreKey.keyPair.publicKey ≠ (curveGenerateKeyPair provider ratchetRandom).publicKey := by
    intro same
    rw [Contact.drawn, same] at distinct
    exact (List.nodup_cons.mp distinct).1 List.mem_cons_self
  refine ⟨?_, ?_⟩
  · intro epoch within
    rcases split epoch within with rfl | rfl
    · exact contact.signedPreKeyValid
    · exact curveGenerateKeyPair_valid provider ratchetRandom
  · intro first one second two same
    rcases split first one with rfl | rfl <;> rcases split second two with rfl | rfl
    · rfl
    · exact absurd same different
    · exact absurd same.symm different
    · rfl

theorem start (distinct : (contact.drawn ratchetRandom).Nodup) :
    Refines contact baseRandom ratchetRandom (contact.drawn ratchetRandom) (.start limits)
      (contact.agreed baseRandom ratchetRandom) (contact.start baseRandom ratchetRandom) := by
  obtain ⟨record, performed, wellFormed, session, pending⟩ := contact.introduces baseRandom ratchetRandom
  have initiator : (contact.start baseRandom ratchetRandom).store .initiator = ((contact.store .initiator).run
      (sessionStoreSession record)).run (identitySaveIdentity (contact.identity .responder).publicKey) := by
    rw [Contact.start, Request.step_of_perform performed]
    dsimp only
    rw [Function.update_self]
    rfl
  have responder : (contact.start baseRandom ratchetRandom).store .responder = contact.store .responder := by
    rw [Contact.start]
    dsimp only
    rw [Function.update_of_ne (by decide)]
  have holds := (Store.Holds.stores wellFormed (contact.store .initiator)).saveIdentity (contact.identity .responder).publicKey
  refine ⟨.start, agreed_sound distinct, ?_, fun _ => rfl, ?_, .nil, fun _ => rfl, fun _ _ absent => absurd absent List.not_mem_nil⟩
  · intro epoch within
    have split : epoch = 0 ∨ epoch = 1 := by
      have : epoch ≤ 1 := within
      omega
    rcases split with rfl | rfl
    · exact List.mem_cons_self
    · exact List.mem_cons_of_mem _ List.mem_cons_self
  · intro role
    cases role with
    | initiator =>
      left
      rw [initiator]
      exact ⟨_, holds, session.setFresh false, .inr pending⟩
    | responder =>
      refine .inr ⟨rfl, ?_, rfl, rfl, ?_, fun _ absent => absurd absent List.not_mem_nil⟩
      · rw [responder]
        exact contact.awaiting
      · intro other held
        rw [initiator] at held
        rw [holds.unique held]
        exact pending

end Refines

end PillarSignal.Libsignal
