import PillarSignal.Properties.SessionRebuild

namespace PillarSignal

open Storage

namespace Android

open ProtocolStorage StorageFile SignalClient

variable {p : Platform}

def SameIdentity (p : Platform) (address : SignalProtocolAddress) (before after : Files) : Prop :=
  entry p IDENTITES_JSON_FILENAME (addressText address) after =
      entry p IDENTITES_JSON_FILENAME (addressText address) before ∧
    ∀ identityKey, isTrustedIdentity p address identityKey after = isTrustedIdentity p address identityKey before

theorem sameIdentity_of_readObject {before after : Files} (address : SignalProtocolAddress)
    (same : readObject p IDENTITES_JSON_FILENAME after = readObject p IDENTITES_JSON_FILENAME before) :
    SameIdentity p address before after := by
  refine ⟨entry_congr same _, fun identityKey => ?_⟩
  rw [isTrustedIdentity_eq, same, isTrustedIdentity_eq]

/-- The decryptions do not reset the session, or there is no identity to lose. -/
def KeepsIdentity (p : Platform) (address : SignalProtocolAddress) (attempts : Attempts) (files : Files) : Prop :=
  attempts.resets = false ∨ entry p IDENTITES_JSON_FILENAME (addressText address) files = none

theorem readObject_processEnvelope (nullCaught : Bool) (envelope : Envelope) (tag : String) (draw : Draw) (files : Files)
    (file : StorageFile) : readObject p file (processEnvelope nullCaught p envelope tag draw files).files =
      readObject p file (decrypt nullCaught p envelope.address draw.attempts files).files := by
  unfold processEnvelope
  dsimp only
  split
  · rfl
  · split
    · rfl
    · split
      · rfl
      · exact MessageStorage.readObject_storeMessage ..

theorem processEnvelope_identity {draw : Draw} (nothing : draw.attempts.plaintext = none) (quiet : draw.attempts.Quiet)
    (nullCaught : Bool) (envelope : Envelope) (tag : String) (files : Files) :
    let after := (processEnvelope nullCaught p envelope tag draw files).files
    (KeepsIdentity p envelope.address draw.attempts files → SameIdentity p envelope.address files after) ∧
      (Ready p files → SameIdentity p envelope.address files after →
        KeepsIdentity p envelope.address draw.attempts files) := by
  intro after
  have left : readObject p IDENTITES_JSON_FILENAME after = readObject p IDENTITES_JSON_FILENAME
      (if draw.attempts.resets then removeIdentity p envelope.address files else files) := by
    rw [← decrypt_no_plaintext nothing quiet nullCaught p envelope.address files]
    exact readObject_processEnvelope ..
  constructor
  · rintro (kept | absent)
    · rw [kept] at left
      exact sameIdentity_of_readObject _ left
    · rw [removeIdentity, removeKey_of_absent absent, ite_self] at left
      exact sameIdentity_of_readObject _ left
  · intro ready same
    cases resets : draw.attempts.resets with
    | false => exact .inl resets
    | true =>
      right
      rw [resets, if_pos rfl] at left
      rw [← same.1, entry_congr left, removeIdentity, entry_removeKey ready, if_pos ⟨rfl, rfl⟩]

/-- What processing an envelope, if there is one, may do to the identity of its source when no decryption yields a
    plaintext and those that throw leave the stores alone. -/
def KeepsIdentityIff (p : Platform) (processed : Option Envelope) (attempts : Attempts) (before after : Files) : Prop :=
  (processed = none → after = before) ∧
    ∀ envelope, processed = some envelope → attempts.plaintext = none → attempts.Quiet →
      (KeepsIdentity p envelope.address attempts before → SameIdentity p envelope.address before after) ∧
      (Ready p before → SameIdentity p envelope.address before after → KeepsIdentity p envelope.address attempts before)

end Android

namespace Ios

open ProtocolStorage DownloadsType SignalClient

variable {p : Platform}

def SameIdentity (p : Platform) (address : SignalProtocolAddress) (before after : Archives) : Prop :=
  (get IDENTITES_JSON_FILENAME after).lookup address.name = (get IDENTITES_JSON_FILENAME before).lookup address.name ∧
    ∀ identity, IdentityKeyStorePillar.isTrusted p identity address after =
      IdentityKeyStorePillar.isTrusted p identity address before

theorem sameIdentity_of_lookup {address : SignalProtocolAddress} {before after : Archives}
    (same : (get IDENTITES_JSON_FILENAME after).lookup address.name =
      (get IDENTITES_JSON_FILENAME before).lookup address.name) : SameIdentity p address before after := by
  refine ⟨same, fun identity => ?_⟩
  rw [IdentityKeyStorePillar.isTrusted, same, IdentityKeyStorePillar.isTrusted]

def KeepsIdentity (address : SignalProtocolAddress) (attempts : Attempts) (archives : Archives) : Prop :=
  attempts.resets = false ∨ (get IDENTITES_JSON_FILENAME archives).lookup address.name = none

theorem get_identities_save (message : ParsedMessageDTO) (username tag : String) (archives : Archives) :
    get IDENTITES_JSON_FILENAME (MessagesStorage.save message username tag archives) =
      get IDENTITES_JSON_FILENAME archives := MessagesStorage.get_saveAllMessages (by decide) ..

theorem parseMessage_identities (username messageTag : String) (message : MessageDTO) (draw : Draw) (state : Parsing) :
    get IDENTITES_JSON_FILENAME (parseMessage p username messageTag message draw state).archives =
      get IDENTITES_JSON_FILENAME (decrypt p ⟨username, 1⟩ draw.attempts state.archives).2 := by
  unfold parseMessage
  cases decrypt p ⟨username, 1⟩ draw.attempts state.archives with
  | mk decryption archives =>
    cases decryption with
    | plaintext data => exact get_identities_save ..
    | duplicate => rfl
    | undecryptable reset error => exact get_identities_save ..

theorem parseEntry_identities (username messageTag : String) (decodeAndSave : Bool) (messageDict : Dictionary)
    (draw : Draw) (state : Parsing) :
    get IDENTITES_JSON_FILENAME (parseEntry p username messageTag decodeAndSave messageDict draw state).archives =
      match pulledMessage p username messageTag decodeAndSave messageDict state.archives with
      | none => get IDENTITES_JSON_FILENAME state.archives
      | some message => get IDENTITES_JSON_FILENAME (decrypt p ⟨message.source, 1⟩ draw.attempts state.archives).2 := by
  unfold parseEntry pulledMessage
  dsimp only
  by_cases tagged : messageTag = MessageDTO.tag ⟨messageDict⟩
  · obtain ⟨unread, counted⟩ := @counted_eq username ⟨messageDict⟩ state
    rw [if_pos tagged, counted]
    split
    · rename_i chosen
      have source : username = MessageDTO.source ⟨messageDict⟩ := by
        simp only [decodable, Bool.and_eq_true, beq_iff_eq] at chosen
        exact chosen.1.1.1
      rw [if_pos ⟨tagged, chosen⟩, parseMessage_identities]
      dsimp only
      rw [← source]
    · rename_i skipped
      rw [if_neg fun chosen => skipped chosen.2]
  · simp [tagged]

theorem decryptSignalMessage_identities (store : Bool) (messageTag : String) (received : List Char) (draw : Draw)
    (archives : Archives) :
    get IDENTITES_JSON_FILENAME (decryptSignalMessage p store messageTag received draw archives).2 =
      match pushedMessage p store received archives with
      | none => get IDENTITES_JSON_FILENAME archives
      | some message => get IDENTITES_JSON_FILENAME (decrypt p ⟨message.source, 1⟩ draw.attempts archives).2 := by
  rw [decryptSignalMessage_archives]
  cases pushedMessage p store received archives with
  | none => rfl
  | some message =>
    dsimp only
    split
    · rfl
    · exact get_identities_save ..

def KeepsIdentityIff (p : Platform) (processed : Option MessageDTO) (attempts : Attempts) (before after : Archives) : Prop :=
  (processed = none → ∀ address, SameIdentity p address before after) ∧
    ∀ message, processed = some message → attempts.plaintext = none → attempts.Quiet →
      (SameIdentity p ⟨message.source, 1⟩ before after ↔ KeepsIdentity ⟨message.source, 1⟩ attempts before)

theorem keepsIdentityIff_of_decrypt {processed : Option MessageDTO} {attempts : Attempts} {before after : Archives}
    (left : get IDENTITES_JSON_FILENAME after = match processed with
      | none => get IDENTITES_JSON_FILENAME before
      | some message => get IDENTITES_JSON_FILENAME (decrypt p ⟨message.source, 1⟩ attempts before).2) :
    KeepsIdentityIff p processed attempts before after := by
  constructor
  · rintro rfl address
    exact sameIdentity_of_lookup (by rw [left])
  · rintro message rfl nothing quiet
    dsimp only at left
    rw [decrypt_no_plaintext nothing quiet] at left
    cases resets : attempts.resets with
    | false =>
      rw [resets] at left
      exact ⟨fun _ => .inl resets, fun _ => sameIdentity_of_lookup (by rw [left]; rfl)⟩
    | true =>
      rw [resets, if_pos rfl, removeRemoteIdentity, get_save, if_pos rfl] at left
      constructor
      · intro same
        right
        rw [← same.1, left, lookup_erase, if_pos rfl]
      · rintro (kept | absent)
        · rw [resets] at kept
          cases kept
        · apply sameIdentity_of_lookup
          rw [left, lookup_erase, if_pos rfl, absent]

end Ios

/-- An envelope that yields no plaintext leaves its source's identity as it was exactly when the second
    decryption did not find it untrusted or no identity was stored. -/
theorem undecrypted_keeps_identity_iff (android : Android.Platform) (ios : Ios.Platform) (messageTag : String) :
    (∀ (username : String) (decodeAndSave : Bool) (entry : Json) (draw : Android.Draw)
      (state : Android.SignalClient.Pull),
      Android.KeepsIdentityIff android
        (Android.SignalClient.pulledEnvelope android username messageTag decodeAndSave entry state.files) draw.attempts
        state.files (Android.SignalClient.pullEntry android username messageTag decodeAndSave entry draw state).2.files) ∧
    (∀ (receivedMessage : List Char) (draw : Android.Draw) (files : Android.Files),
      Android.KeepsIdentityIff android (Android.SignalClient.pushedEnvelope android receivedMessage files) draw.attempts
        files (Android.SignalClient.decryptSignalMessage android messageTag receivedMessage draw files).files) ∧
    (∀ (username : String) (decodeAndSave : Bool) (messageDict : Ios.Dictionary) (draw : Ios.Draw)
      (state : Ios.SignalClient.Parsing),
      Ios.KeepsIdentityIff ios
        (Ios.SignalClient.pulledMessage ios username messageTag decodeAndSave messageDict state.archives) draw.attempts
        state.archives (Ios.SignalClient.parseEntry ios username messageTag decodeAndSave messageDict draw state).archives) ∧
    ∀ (store : Bool) (received : List Char) (draw : Ios.Draw) (archives : Ios.Archives),
      Ios.KeepsIdentityIff ios (Ios.SignalClient.pushedMessage ios store received archives) draw.attempts archives
        (Ios.SignalClient.decryptSignalMessage ios store messageTag received draw archives).2 := by
  refine ⟨?_, ?_, ?_, ?_⟩
  · intro username decodeAndSave entry draw state
    rw [Android.SignalClient.pullEntry_files]
    cases Android.SignalClient.pulledEnvelope android username messageTag decodeAndSave entry state.files with
    | none => exact ⟨fun _ => rfl, nofun⟩
    | some envelope => exact ⟨nofun, by rintro _ ⟨⟩ nothing quiet; exact Android.processEnvelope_identity nothing quiet ..⟩
  · intro receivedMessage draw files
    rw [Android.SignalClient.decryptSignalMessage_files]
    cases Android.SignalClient.pushedEnvelope android receivedMessage files with
    | none => exact ⟨fun _ => rfl, nofun⟩
    | some envelope => exact ⟨nofun, by rintro _ ⟨⟩ nothing quiet; exact Android.processEnvelope_identity nothing quiet ..⟩
  · intros
    exact Ios.keepsIdentityIff_of_decrypt (Ios.parseEntry_identities ..)
  · intros
    exact Ios.keepsIdentityIff_of_decrypt (Ios.decryptSignalMessage_identities ..)

section Unpinned

open Plain (bobEntry bobPush)

def failing (reason : Android.Thrown) : Android.Draw :=
  ⟨⟨.throws .invalidMessage [], .throws reason [], .throws .invalidMessage []⟩, 1000⟩

def iosFailing (reason : Ios.SignalError) : Ios.Draw := ⟨⟨.throws .other [], .throws reason [], .throws .other []⟩, 1⟩

def androidPull (draw : Android.Draw) : Android.SignalClient.Pull :=
  (Android.SignalClient.pullEntry .plain "bob" "chat" true (.obj bobEntry) draw ⟨bobContact, [], [], [], []⟩).2

def iosPull (draw : Ios.Draw) : Ios.SignalClient.Parsing :=
  Ios.SignalClient.parseEntry .plain "bob" "chat" true bobEntry draw ⟨bobArchives, [], [], []⟩

theorem other_failures_keep_identity :
    Android.SameIdentity .plain ⟨"bob", 1⟩ bobContact (androidPull (failing .invalidMessage)).files ∧
    Android.SameIdentity .plain ⟨"bob", 1⟩ bobContact
      (Android.SignalClient.decryptSignalMessage .plain "chat" bobPush (failing .invalidMessage) bobContact).files ∧
    Ios.SameIdentity .plain ⟨"bob", 1⟩ bobArchives (iosPull (iosFailing .other)).archives ∧
    Ios.SameIdentity .plain ⟨"bob", 1⟩ bobArchives
      (Ios.SignalClient.decryptSignalMessage .plain true "chat" bobPush (iosFailing .other) bobArchives).2 := by
  obtain ⟨pull, push, parse, receive⟩ := undecrypted_keeps_identity_iff .plain .plain "chat"
  have nothing : (failing .invalidMessage).attempts.plaintext = none := by decide +kernel
  have iosNothing : (iosFailing .other).attempts.plaintext = none := by decide +kernel
  have source : Ios.MessageDTO.source ⟨bobEntry⟩ = "bob" := by decide +kernel
  have pushSource : Ios.MessageDTO.source
      ⟨[("legacyMessage", .str "m"), ("source", .str "bob"), ("timestamp", .num 5)]⟩ = "bob" := by decide +kernel
  have third := ((parse "bob" true bobEntry (iosFailing .other) ⟨bobArchives, [], [], []⟩).2 ⟨bobEntry⟩
    (by decide +kernel) iosNothing (by decide)).mpr (.inl (by decide +kernel))
  have fourth := ((receive true bobPush (iosFailing .other) bobArchives).2
    ⟨[("legacyMessage", .str "m"), ("source", .str "bob"), ("timestamp", .num 5)]⟩ (by decide +kernel) iosNothing (by decide)).mpr
    (.inl (by decide +kernel))
  rw [source] at third
  rw [pushSource] at fourth
  refine ⟨((pull "bob" true (.obj bobEntry) (failing .invalidMessage) ⟨bobContact, [], [], [], []⟩).2
    ⟨"bob", 5, [109]⟩ (by decide +kernel) nothing (by decide)).1 (.inl (by decide +kernel)),
    ((push bobPush (failing .invalidMessage) bobContact).2 ⟨"bob", 5, [109]⟩ (by decide +kernel)
      nothing (by decide)).1 (.inl (by decide +kernel)), third, fourth⟩

theorem undecryptable_message_unpins :
    let stored : PublicKey := ⟨[7]⟩
    let other : PublicKey := ⟨[9]⟩
    let pulled := androidPull (failing .untrustedIdentity)
    let pushed := Android.SignalClient.decryptSignalMessage .plain "chat" bobPush (failing .untrustedIdentity) bobContact
    let iosPulled := iosPull (iosFailing .untrustedIdentity)
    let iosPushed := Ios.SignalClient.decryptSignalMessage .plain true "chat" bobPush (iosFailing .untrustedIdentity)
      bobArchives
    (failing .untrustedIdentity).attempts.plaintext = none ∧ (iosFailing .untrustedIdentity).attempts.plaintext = none ∧
    [bobContact, pulled.files, pushed.files].map
      (fun files => [stored, other].map (Android.ProtocolStorage.isTrustedIdentity .plain ⟨"bob", 1⟩ · files)) =
        [[true, false], [true, true], [true, true]] ∧
    [bobArchives, iosPulled.archives, iosPushed.2].map
      (fun archives => [stored, other].map (Ios.IdentityKeyStorePillar.isTrusted .plain · ⟨"bob", 1⟩ archives)) =
        [[true, false], [true, true], [true, true]] := by
  decide +kernel

end Unpinned
end PillarSignal
