import PillarSignal.Libsignal.ArchivedStates
import PillarSignal.Properties.RatchetDelivery

namespace PillarSignal.Libsignal

open SessionCipher

section

variable {provider : Provider} {store : Store}

theorem Store.Sound.of_none (nothing : store.loadSession = none) (absent : store.containsSession = false) : store.Sound := by
  refine ⟨?_, ?_⟩
  · intro data stored
    rw [nothing] at stored
    cases stored
  · rw [nothing, absent]
    rfl

/-- Whatever is asked for, and whatever data come from outside: the session that is stored can be loaded
    again, and it stays within its limits. -/
theorem stored_session_loads (nothing : store.loadSession = none) (absent : store.containsSession = false)
    (requests : List Request) :
    (Request.run provider store requests).containsSession = (Request.run provider store requests).loadSession.isSome ∧
      ∃ record, (Request.run provider store requests).sessionLoadSession = .ok record ∧
        SessionRecord.deserialize record.serialize = .ok { record with isFresh := false } ∧
        record.previousStates.length ≤ ARCHIVED_STATES_MAX_LENGTH ∧
        ∀ state ∈ record.states, state.receiverChains.length ≤ MAX_RECEIVER_CHAINS ∧
          ∀ chain ∈ state.receiverChains, chain.messageKeys.length ≤ MAX_MESSAGE_KEYS := by
  have sound : (Request.run provider store requests).Sound := Request.run_sound (.of_none nothing absent) requests
  obtain ⟨record, loads, loaded⟩ := sound.loads
  have wellFormed := loaded.wellFormed
  refine ⟨sound.contains, record, loads, SessionRecord.deserialize_serialize wellFormed, wellFormed.few, ?_⟩
  intro state member
  have kept := wellFormed.states state member
  exact ⟨kept.few, fun chain there => (kept.receiverChains chain there).messageKeys⟩

def crossedMessage (index : Nat) : CiphertextMessage :=
  (((ownContact.start (repeatedKey 9) (repeatedKey 10)).run sumProvider (crossedActions.take 2)).sent.map
    Packet.message).getD index (.signal ⟨3, basepoint, 0, 0, [], []⟩)

def crossedData (index : Nat) : Bytes := (crossedMessage index).serialized

theorem stored_session_loads_crossed :
    ∃ record, (Request.run sumProvider (ownStore .responder) [.decryptPreKeySignalMessage (crossedData 1) fun _ => repeatedKey 11,
        .encrypt [99], .decryptSignalMessage [1, 2, 3] fun _ => repeatedKey 12]).sessionLoadSession = .ok record ∧
      record.previousStates.length ≤ ARCHIVED_STATES_MAX_LENGTH := by
  obtain ⟨-, record, loads, -, few, -⟩ := @stored_session_loads sumProvider (ownStore .responder) rfl rfl
    [.decryptPreKeySignalMessage (crossedData 1) fun _ => repeatedKey 11, .encrypt [99],
      .decryptSignalMessage [1, 2, 3] fun _ => repeatedKey 12]
  exact ⟨record, loads, few⟩

theorem invalid_or_first (message : SignalMessage) (random : Nat → EcPrivateKey) (attempt : Nat) (states : List SessionState) :
    Invalid provider message random attempt states ∨ ∃ before state after, states = before ++ state :: after ∧
      Invalid provider message random attempt before ∧
      decryptFromState provider state message (random (attempt + before.length)) ≠ .error .invalidMessage := by
  induction states generalizing attempt with
  | nil => exact .inl trivial
  | cons state states ih =>
    by_cases now : decryptFromState provider state message (random attempt) = .error .invalidMessage
    · rcases ih (attempt + 1) with all | ⟨before, first, after, rfl, invalid, other⟩
      · exact .inl ⟨now, all⟩
      · refine .inr ⟨state :: before, first, after, rfl, ⟨now, invalid⟩, ?_⟩
        rwa [List.length_cons, Nat.add_comm before.length 1, ← Nat.add_assoc]
    · exact .inr ⟨[], state, states, rfl, trivial, now⟩

/-- A message is read with the first of the sessions that does not find it invalid. That session becomes the
    current one, and none of the others is lost or changed. -/
theorem reading_promotes_one_session (nothing : store.loadSession = none) (absent : store.containsSession = false)
    (requests : List Request) {message : SignalMessage} {random : Nat → EcPrivateKey} {text : Bytes} {calls : List StoreCall}
    (read : decryptSignalMessage provider (Request.run provider store requests) message random = .ok (text, calls)) :
    ∃ record before state after final, (Request.run provider store requests).sessionLoadSession = .ok record ∧
      record.states = before ++ state :: after ∧ Invalid provider message random 0 before ∧
      decryptFromState provider state message (random before.length) = .ok (text, final) ∧
      calls = [sessionStoreSession { record with state := final, previousStates := before ++ after }] := by
  have sound : (Request.run provider store requests).Sound := Request.run_sound (.of_none nothing absent) requests
  rw [decryptSignalMessage] at read
  split at read
  next =>
    obtain ⟨record, loads, rest⟩ := bind_eq_ok.mp read
    obtain ⟨⟨plaintext, result⟩, decrypted, made⟩ := bind_eq_ok.mp rest
    obtain ⟨rfl, rfl⟩ := Prod.mk.inj (Except.ok.inj made)
    have wellFormed := (sound.loaded loads).wellFormed
    rcases invalid_or_first message random 0 record.states with all | ⟨before, state, after, split, invalid, other⟩
    · rw [decryptFromRecord_of_invalid wellFormed all] at decrypted
      cases decrypted
    · rw [Nat.zero_add] at other
      cases outcome : decryptFromState provider state message (random before.length) with
      | error error =>
        rw [decryptFromRecord_of_error wellFormed split invalid (fun same => other (same ▸ outcome)) outcome] at decrypted
        cases decrypted
      | ok pair =>
        obtain ⟨found, final⟩ := pair
        rw [decryptFromRecord_of_ok wellFormed split invalid outcome] at decrypted
        obtain ⟨rfl, rfl⟩ := Prod.mk.inj (Except.ok.inj decrypted)
        exact ⟨record, before, state, after, final, loads, split, invalid, outcome, rfl⟩
  next => cases read

def contactBundle : SessionPreKeyBundle where
  registrationId := 1
  preKeyId := 0
  preKeyPublic := none
  signedPreKeyId := 6
  signedPreKeyPublic := some (curveGenerateKeyPair sumProvider (repeatedKey 30)).publicKey
  signedPreKeySignature := sumSignature (ownIdentity .initiator).publicKey
    (ecPublicKeySerialize (curveGenerateKeyPair sumProvider (repeatedKey 30)).publicKey)
  identityKey := (ownIdentity .initiator).publicKey

/-- The responder has read the second message, and has then set up two sessions of its own with the same contact. -/
def archivedRequests : List Request :=
  [.decryptPreKeySignalMessage (crossedData 1) fun _ => repeatedKey 11,
    .processPreKeyBundle contactBundle (repeatedKey 31) (repeatedKey 32),
    .processPreKeyBundle contactBundle (repeatedKey 33) (repeatedKey 34)]

def archived : Store := Request.run sumProvider (ownStore .responder) archivedRequests

theorem archived_facts :
    (decryptSignalMessage sumProvider archived (crossedMessage 0).inner fun attempt =>
      repeatedKey (UInt8.ofNat (attempt + 40))).toOption.map Prod.fst = some [97] ∧
    (archived.sessionLoadSession.toOption.map fun record => record.states.zipIdx.map fun entry =>
      (decryptFromState sumProvider entry.1 (crossedMessage 0).inner (repeatedKey (UInt8.ofNat (entry.2 + 40)))).isOk) =
      some [false, false, true] := by
  decide +kernel

/-- The oldest of three sessions reads the message and becomes the current one, in front of the other two. -/
theorem archived_session_is_promoted :
    ∃ record first second third final, archived.sessionLoadSession = .ok record ∧ record.states = [first, second, third] ∧
      decryptFromState sumProvider third (crossedMessage 0).inner (repeatedKey 42) = .ok ([97], final) ∧
      decryptSignalMessage sumProvider archived (crossedMessage 0).inner (fun attempt =>
          repeatedKey (UInt8.ofNat (attempt + 40))) =
        .ok ([97], [sessionStoreSession { record with state := final, previousStates := [first, second] }]) := by
  obtain ⟨decrypted, tried⟩ := archived_facts
  cases read : decryptSignalMessage sumProvider archived (crossedMessage 0).inner fun attempt =>
      repeatedKey (UInt8.ofNat (attempt + 40)) with
  | error error =>
    rw [read] at decrypted
    cases decrypted
  | ok pair =>
    rw [read] at decrypted
    obtain ⟨text, calls⟩ := pair
    cases decrypted
    obtain ⟨record, before, state, after, final, loads, split, -, opened, rfl⟩ :=
      reading_promotes_one_session rfl rfl archivedRequests read
    have loads : archived.sessionLoadSession = .ok record := loads
    rw [loads] at tried
    have tried : (record.states.zipIdx.map fun entry => (decryptFromState sumProvider entry.1 (crossedMessage 0).inner
        (repeatedKey (UInt8.ofNat (entry.2 + 40)))).isOk) = [false, false, true] := Option.some.inj tried
    have place : [false, false, true][before.length]? = some true := by
      rw [← tried, split, List.getElem?_map, List.getElem?_zipIdx, List.getElem?_append_right (Nat.le_refl _), Nat.sub_self]
      simp only [List.getElem?_cons_zero, Option.map_some, Nat.zero_add]
      rw [opened]
      rfl
    have size := congrArg List.length tried
    rw [List.length_map, List.length_zipIdx, split, List.length_append, List.length_cons] at size
    have two : before.length = 2 := by
      have within : before.length = 0 ∨ before.length = 1 ∨ before.length = 2 := by
        change _ = 3 at size
        omega
      rcases within with none | one | both
      · rw [none] at place
        cases place
      · rw [one] at place
        cases place
      · exact both
    obtain ⟨first, second, rfl⟩ := List.length_eq_two.mp two
    have last : after = [] := List.eq_nil_of_length_eq_zero (by change 2 + (after.length + 1) = 3 at size; omega)
    subst last
    exact ⟨record, first, second, state, final, loads, split, opened, rfl⟩

/-- A request that fails makes no call, or saves an identity that is trusted already. -/
theorem Request.failed_calls {request : Request} {error : SgErr} (failed : (request.perform provider store).1 = .error error) :
    (request.perform provider store).2 = [] ∨ ∃ identityKey, store.identityIsTrustedIdentity identityKey = true ∧
      (request.perform provider store).2 = [identitySaveIdentity identityKey] := by
  cases request with
  | processPreKeyBundle bundle baseRandom ratchetRandom =>
    rw [Request.perform] at failed ⊢
    split at failed
    next => cases failed
    next => exact .inl rfl
  | encrypt paddedMessage =>
    rw [Request.perform] at failed ⊢
    split at failed
    next => cases failed
    next => exact .inl rfl
  | decryptSignalMessage data random =>
    rw [Request.perform] at failed ⊢
    split at failed
    next => cases failed
    next => exact .inl rfl
  | decryptPreKeySignalMessage data random =>
    rw [Request.perform] at failed ⊢
    cases decoded : PreKeySignalMessage.deserialize data with
    | error error => exact .inl rfl
    | ok message =>
      rw [decoded] at failed
      dsimp only at failed ⊢
      rw [SessionCipher.decryptPreKeySignalMessage] at failed ⊢
      cases processed : store.sessionLoadSession.bind fun record =>
          SessionBuilder.processPreKeySignalMessage provider store record message with
      | error error => exact .inl rfl
      | ok built =>
        obtain ⟨record, preKeyId⟩ := built
        rw [processed] at failed
        dsimp only at failed ⊢
        cases decrypted : decryptFromRecord provider record message.message random with
        | ok result =>
          rw [decrypted] at failed
          cases failed
        | error error =>
          -- the identity has been saved before the message is decrypted
          refine .inr ⟨message.identityKey, ?_, rfl⟩
          obtain ⟨loaded, -, inside⟩ := bind_eq_ok.mp processed
          by_contra untrusted
          rw [SessionBuilder.processPreKeySignalMessage, if_neg untrusted] at inside
          cases inside

def Request.AllFail (provider : Provider) (store : Store) : List Request → Prop
  | [] => True
  | request :: requests => (∃ error, (request.perform provider store).1 = .error error) ∧
    AllFail provider (request.step provider store) requests

/-- What a store still has after requests have failed: everything but the trust in some identities. -/
structure Store.Survives (store after : Store) : Prop where
  rest : after = { store with isTrusted := after.isTrusted }
  trust : ∀ identity, after.isTrusted identity = true → store.isTrusted identity = true

theorem Store.Survives.trans {first second third : Store} (one : first.Survives second) (two : second.Survives third) :
    first.Survives third := by
  refine ⟨?_, fun identity trusted => one.trust identity (two.trust identity trusted)⟩
  have rest := two.rest
  rw [one.rest] at rest
  exact rest

theorem Request.failed_step {request : Request} {error : SgErr} (failed : (request.perform provider store).1 = .error error) :
    store.Survives (request.step provider store) := by
  rw [Request.step]
  rcases Request.failed_calls failed with none_made | ⟨identityKey, trusted, saved⟩
  · rw [none_made]
    exact ⟨rfl, fun _ same => same⟩
  · rw [saved]
    refine ⟨rfl, ?_⟩
    intro identity same
    have same : (identity == ecPublicKeySerialize identityKey) = true := same
    rw [eq_of_beq same]
    exact trusted

/-- Data that cannot be read do no harm, however many come: the sessions and the keys are what they were, and
    no identity is trusted that was not trusted before. -/
theorem failed_requests_keep_the_stores {requests : List Request} (failed : Request.AllFail provider store requests) :
    store.Survives (Request.run provider store requests) := by
  induction requests generalizing store with
  | nil => exact ⟨rfl, fun _ same => same⟩
  | cons request requests ih =>
    obtain ⟨⟨error, first⟩, rest⟩ := failed
    exact (Request.failed_step first).trans (ih rest)

def answered : Store :=
  (Request.decryptPreKeySignalMessage (crossedData 1) fun _ => repeatedKey 11).step sumProvider (ownStore .responder)

def junk : Request := .decryptSignalMessage [1, 2, 3] fun _ => repeatedKey 12

def replay : Request := .decryptPreKeySignalMessage (crossedData 1) fun _ => repeatedKey 13

theorem junk_facts :
    answered.loadSession.isSome = true ∧ (junk.perform sumProvider answered).1 = .error .inval ∧
      replay.perform sumProvider (junk.step sumProvider answered) =
        (.error .duplicateMessage, [identitySaveIdentity (ownIdentity .initiator).publicKey]) := by
  decide +kernel

/-- Data that are no message, and one that was read already: there the identity is saved before the decryption fails. -/
theorem junk_keeps_the_stores :
    answered.loadSession.isSome = true ∧
      (replay.perform sumProvider (junk.step sumProvider answered)).2 =
        [identitySaveIdentity (ownIdentity .initiator).publicKey] ∧
      answered.Survives (Request.run sumProvider answered [junk, replay]) := by
  obtain ⟨session, invalid, duplicate⟩ := junk_facts
  have failed : Request.AllFail sumProvider answered [junk, replay] :=
    ⟨⟨.inval, invalid⟩, ⟨.duplicateMessage, congrArg Prod.fst duplicate⟩, trivial⟩
  exact ⟨session, congrArg Prod.snd duplicate, failed_requests_keep_the_stores failed⟩

end

end PillarSignal.Libsignal
