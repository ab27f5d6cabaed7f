import PillarSignal.Ios.MessagesStorage
import PillarSignal.Ios.Server

namespace PillarSignal.Ios

open Storage ProtocolStorage DownloadsType

/-- One call of `SessionCipher.decrypt`, with its calls of the stores: one that throws may have saved an identity. -/
inductive Attempt where
  | plaintext (data : Bytes) (calls : List StoreCall)
  | throws (error : SignalError) (calls : List StoreCall)
deriving DecidableEq, Repr

def Attempt.calls : Attempt → List StoreCall
  | plaintext _ calls | throws _ calls => calls

def Attempt.untrusted : Attempt → Bool
  | throws .untrustedIdentity _ => true
  | _ => false

/-- The outcomes of the decryptions that may be tried on one message: as type `signal`, as type
    `preKey`, and as that again once the identity has been removed. -/
structure Attempts where
  signal : Attempt
  preKey : Attempt
  afterReset : Attempt
deriving DecidableEq, Repr

def runCall (p : Platform) (address : SignalProtocolAddress) : StoreCall → Archives → Archives
  | .storeSession record => SessionStorePillar.store p record address
  | .saveIdentity identityKey => IdentityKeyStorePillar.save p identityKey address
  | .removePreKey preKeyId => PreKeyStorePillar.remove preKeyId

def runCalls (p : Platform) (address : SignalProtocolAddress) (calls : List StoreCall) (archives : Archives) : Archives :=
  calls.foldl (fun archives call => runCall p address call archives) archives

/-- What is done to the stores while messages come and go: sessions and identities are written, and
    pre keys are removed. -/
structure Upkeep (before after : Archives) : Prop where
  others : ∀ type, type ∉ [PRE_KEYS_JSON_FILENAME, SESSIONS_JSON_FILENAME, IDENTITES_JSON_FILENAME] →
    after type = before type
  preKeys : ∀ key, (get PRE_KEYS_JSON_FILENAME after).lookup key = none ∨
    (get PRE_KEYS_JSON_FILENAME after).lookup key = (get PRE_KEYS_JSON_FILENAME before).lookup key

theorem Upkeep.refl (archives : Archives) : Upkeep archives archives := ⟨fun _ _ => rfl, fun _ => .inr rfl⟩

theorem Upkeep.trans {a b c : Archives} (first : Upkeep a b) (second : Upkeep b c) : Upkeep a c where
  others type other := (second.others type other).trans (first.others type other)
  preKeys key := by
    rcases second.preKeys key with gone | same
    · exact .inl gone
    · rw [same]
      exact first.preKeys key

theorem Upkeep.get_eq {before after : Archives} (upkeep : Upkeep before after) {type : DownloadsType}
    (other : type ∉ [PRE_KEYS_JSON_FILENAME, SESSIONS_JSON_FILENAME, IDENTITES_JSON_FILENAME]) :
    ProtocolStorage.get type after = ProtocolStorage.get type before := by
  rw [ProtocolStorage.get, upkeep.others type other, ProtocolStorage.get]

theorem Upkeep.getMessages_eq {before after : Archives} (upkeep : Upkeep before after) (username tag : String) :
    MessagesStorage.getMessages username tag after = MessagesStorage.getMessages username tag before :=
  MessagesStorage.getMessages_congr (upkeep.get_eq (MessagesStorage.storage_not_mem tag (by decide))) username

theorem upkeep_save {type : DownloadsType} (kind : type ∈ [SESSIONS_JSON_FILENAME, IDENTITES_JSON_FILENAME])
    (array : Dictionary) (archives : Archives) : Upkeep archives (ProtocolStorage.save array type archives) where
  others other outside := by
    rw [ProtocolStorage.save, Function.update_of_ne]
    rintro rfl
    exact outside (List.mem_cons_of_mem _ kind)
  preKeys key := by
    rw [get_save, if_neg]
    · exact .inr rfl
    · rintro rfl
      simp at kind

theorem upkeep_remove (preKeyId : Int) (archives : Archives) : Upkeep archives (PreKeyStorePillar.remove preKeyId archives) where
  others type outside := by
    rw [PreKeyStorePillar.remove, ProtocolStorage.save, Function.update_of_ne]
    rintro rfl
    simp at outside
  preKeys key := by
    rw [PreKeyStorePillar.remove, get_save, if_pos rfl, lookup_erase]
    split
    · exact .inl rfl
    · exact .inr rfl

theorem upkeep_runCalls (p : Platform) (address : SignalProtocolAddress) (calls : List StoreCall) (archives : Archives) :
    Upkeep archives (runCalls p address calls archives) := by
  unfold runCalls
  induction calls generalizing archives with
  | nil => exact .refl archives
  | cons call calls ih =>
    have first : Upkeep archives (runCall p address call archives) := by
      cases call with
      | storeSession record => exact upkeep_save (by simp) ..
      | saveIdentity identityKey => exact upkeep_save (by simp) ..
      | removePreKey preKeyId => exact upkeep_remove ..
    exact first.trans (ih _)

/-- How the decryption of a message ends; when nothing decrypts it, `reset` tells whether the
    identity was removed before the last attempt. -/
inductive Decryption where
  | plaintext (data : Bytes)
  | duplicate
  | undecryptable (reset : Bool) (error : SignalError)
deriving DecidableEq, Repr

def decryptLast (p : Platform) (reset : Bool) (address : SignalProtocolAddress) (attempt : Attempt)
    (archives : Archives) : Decryption × Archives :=
  let archives := runCalls p address attempt.calls archives
  match attempt with
  | .plaintext data _ => (.plaintext data, archives)
  | .throws .duplicateMessage _ => (.duplicate, archives)
  | .throws error _ => (.undecryptable reset error, archives)

def decrypt (p : Platform) (address : SignalProtocolAddress) (attempts : Attempts) (archives : Archives) :
    Decryption × Archives :=
  let archives := runCalls p address attempts.signal.calls archives
  match attempts.signal with
  | .plaintext data _ => (.plaintext data, archives)
  | .throws .duplicateMessage _ => (.duplicate, archives)
  | .throws _ _ =>
    if attempts.preKey.untrusted then
      decryptLast p true address attempts.afterReset
        (removeRemoteIdentity address (runCalls p address attempts.preKey.calls archives))
    else decryptLast p false address attempts.preKey archives

theorem decryptLast_archives (p : Platform) (reset : Bool) (address : SignalProtocolAddress) (attempt : Attempt)
    (archives : Archives) :
    (decryptLast p reset address attempt archives).2 = runCalls p address attempt.calls archives := by
  cases attempt with
  | plaintext data calls => rfl
  | throws error calls => cases error <;> rfl

def Attempts.prepare (p : Platform) (address : SignalProtocolAddress) (attempts : Attempts) (archives : Archives) :
    Archives :=
  let archives := runCalls p address attempts.signal.calls archives
  if attempts.preKey.untrusted then removeRemoteIdentity address (runCalls p address attempts.preKey.calls archives)
  else archives

def Attempts.last (attempts : Attempts) : Attempt :=
  if attempts.preKey.untrusted then attempts.afterReset else attempts.preKey

theorem decrypt_last {attempts : Attempts} {error : SignalError} {calls : List StoreCall}
    (thrown : attempts.signal = .throws error calls) (fresh : error ≠ .duplicateMessage) (p : Platform)
    (address : SignalProtocolAddress) (archives : Archives) :
    decrypt p address attempts archives =
      decryptLast p attempts.preKey.untrusted address attempts.last (attempts.prepare p address archives) := by
  have laddered : decrypt p address attempts archives =
      if attempts.preKey.untrusted then
        decryptLast p true address attempts.afterReset (removeRemoteIdentity address
          (runCalls p address attempts.preKey.calls (runCalls p address attempts.signal.calls archives)))
      else decryptLast p false address attempts.preKey (runCalls p address attempts.signal.calls archives) := by
    rw [decrypt, thrown]
    cases error with
    | duplicateMessage => exact absurd rfl fresh
    | _ => rfl
  rw [laddered, Attempts.last, Attempts.prepare]
  cases attempts.preKey.untrusted <;> rfl

theorem upkeep_prepare (p : Platform) (address : SignalProtocolAddress) (attempts : Attempts) (archives : Archives) :
    Upkeep archives (attempts.prepare p address archives) := by
  unfold Attempts.prepare
  dsimp only
  split
  · exact ((upkeep_runCalls ..).trans (upkeep_runCalls ..)).trans (upkeep_save (by simp) ..)
  · exact upkeep_runCalls ..

theorem upkeep_decrypt (p : Platform) (address : SignalProtocolAddress) (attempts : Attempts) (archives : Archives) :
    Upkeep archives (decrypt p address attempts archives).2 := by
  cases first : attempts.signal with
  | plaintext data calls =>
    have ended : (decrypt p address attempts archives).2 = runCalls p address calls archives := by
      rw [decrypt, first]
      rfl
    rw [ended]
    exact upkeep_runCalls ..
  | throws error calls =>
    by_cases duplicate : error = .duplicateMessage
    · subst duplicate
      have ended : (decrypt p address attempts archives).2 = runCalls p address calls archives := by
        rw [decrypt, first]
        rfl
      rw [ended]
      exact upkeep_runCalls ..
    · rw [decrypt_last first duplicate, decryptLast_archives]
      exact (upkeep_prepare ..).trans (upkeep_runCalls ..)

def Attempt.data : Attempt → Option Bytes
  | .plaintext data _ => some data
  | .throws _ _ => none

def Attempts.plaintext (attempts : Attempts) : Option Bytes :=
  match attempts.signal with
  | .plaintext data _ => some data
  | .throws .duplicateMessage _ => none
  | .throws _ _ => attempts.last.data

def Attempts.resets (attempts : Attempts) : Bool :=
  match attempts.signal with
  | .plaintext _ _ | .throws .duplicateMessage _ => false
  | .throws _ _ => attempts.preKey.untrusted

/-- Decryptions that fail leave the archives as they are. -/
def Attempts.Quiet (attempts : Attempts) : Prop :=
  ∀ attempt ∈ [attempts.signal, attempts.preKey, attempts.afterReset], attempt.data = none → attempt.calls = []

instance (attempts : Attempts) : Decidable attempts.Quiet := inferInstanceAs (Decidable (∀ _ ∈ _, _ → _))

theorem Attempt.untrusted_data {attempt : Attempt} (untrusted : attempt.untrusted = true) : attempt.data = none := by
  cases attempt with
  | plaintext data calls => cases untrusted
  | throws error calls => rfl

theorem decrypt_no_plaintext {attempts : Attempts} (nothing : attempts.plaintext = none) (quiet : attempts.Quiet)
    (p : Platform) (address : SignalProtocolAddress) (archives : Archives) :
    (decrypt p address attempts archives).2 =
      if attempts.resets then removeRemoteIdentity address archives else archives := by
  have silent : ∀ attempt ∈ [attempts.signal, attempts.preKey, attempts.afterReset], attempt.data = none →
      ∀ start, runCalls p address attempt.calls start = start := by
    intro attempt member none_read start
    rw [quiet attempt member none_read]
    rfl
  unfold Attempts.plaintext at nothing
  cases first : attempts.signal with
  | plaintext data calls =>
    rw [first] at nothing
    cases nothing
  | throws error calls =>
    have begun : runCalls p address attempts.signal.calls archives = archives :=
      silent _ (by simp) (by rw [first]; rfl) archives
    by_cases duplicate : error = .duplicateMessage
    · subst duplicate
      have ended : (decrypt p address attempts archives).2 = runCalls p address attempts.signal.calls archives := by
        rw [decrypt, first]
      rw [ended, begun, Attempts.resets, first]
      rfl
    · have resets : attempts.resets = attempts.preKey.untrusted := by
        rw [Attempts.resets, first]
        cases error with
        | duplicateMessage => exact absurd rfl duplicate
        | _ => rfl
      have none_read : attempts.last.data = none := by
        rw [first] at nothing
        cases error with
        | duplicateMessage => exact absurd rfl duplicate
        | _ => exact nothing
      rw [decrypt_last first duplicate, decryptLast_archives, resets, Attempts.prepare, begun]
      unfold Attempts.last at none_read ⊢
      cases untrusted : attempts.preKey.untrusted with
      | true =>
        simp only [untrusted, if_true] at none_read ⊢
        rw [silent _ (by simp) (Attempt.untrusted_data untrusted), silent _ (by simp) none_read]
      | false =>
        simp only [untrusted, Bool.false_eq_true, if_false] at none_read ⊢
        rw [silent _ (by simp) none_read]

def Decryption.data : Decryption → Option Bytes
  | .plaintext data => some data
  | _ => none

theorem decrypt_data (p : Platform) (address : SignalProtocolAddress) (attempts : Attempts) (archives : Archives) :
    (decrypt p address attempts archives).1.data = attempts.plaintext := by
  have last : ∀ reset attempt archives, (decryptLast p reset address attempt archives).1.data = attempt.data := by
    intro reset attempt archives
    cases attempt with
    | plaintext data calls => rfl
    | throws error calls => cases error <;> rfl
  unfold Attempts.plaintext
  cases first : attempts.signal with
  | plaintext data calls =>
    rw [decrypt, first]
    rfl
  | throws error calls =>
    cases error with
    | duplicateMessage =>
      rw [decrypt, first]
      rfl
    | untrustedIdentity => rw [decrypt_last first (by simp), last]
    | other => rw [decrypt_last first (by simp), last]

/-- A message as the server sends it; a field of another type counts as missing. -/
structure MessageDTO where
  dictionary : Dictionary
deriving DecidableEq

namespace MessageDTO

def text (name : String) (message : MessageDTO) : String := ((message.dictionary.lookup name).bind asString).getD ""

def type (message : MessageDTO) : Int := ((message.dictionary.lookup "type").bind asInt).getD 0

def timestamp (message : MessageDTO) : Int := ((message.dictionary.lookup "timestamp").bind asInt).getD 0

def source : MessageDTO → String := text "source"

def tag : MessageDTO → String := text "tag"

def messageData (p : Platform) (message : MessageDTO) : Option Bytes :=
  if message.text "legacyMessage" ≠ "" then p.base64.decode (message.text "legacyMessage")
  else p.base64.decode (message.text "message")

def getMessageDataType (message : MessageDTO) : String :=
  if message.text "legacyMessage" ≠ "" then "legacy message" else "regular message"

end MessageDTO

structure Draw where
  attempts : Attempts
  currentTimestamp : Int
deriving DecidableEq, Repr

/-- The history entry of a received message; text that is not UTF-8 leaves it without content. -/
def receivedMessage (p : Platform) (message : MessageDTO) (draw : Draw) (data : Option Bytes) : ParsedMessageDTO :=
  let head := [("username", Json.str message.source), ("device", .num 1), ("serverTimestamp", .num message.timestamp),
    ("savedTimestamp", .num draw.currentTimestamp)]
  match data with
  | some data => ⟨head ++ [("type", .str "message")] ++ ((p.utf8 data).map fun text => ("content", Json.str text)).toList⟩
  | none => ⟨head ++ [("type", .str "warning"), ("content", .str "🔒 You cannot read this message."),
      ("status", .str "UNDECRYPTABLE_MESSAGE")]⟩

namespace SignalClient

variable (p : Platform)

def MESSAGE_TYPE_CIPHERTEXT : Int := 1

def URL_MESSAGES : String := "/v1/messages"

def deleteUrl (username : String) (timestamp : Int) : String :=
  URL_MESSAGES ++ "/" ++ username ++ "/" ++ Decimal.toText timestamp

/-- A number that the code puts into a `[String : Any]`, where it keeps the type it has. -/
inductive AnyNumber where
  | int (value : Int)
  | int64 (value : Int)
deriving DecidableEq, Repr

namespace AnyNumber

/-- `as? Int`, which an `Int64` is not. -/
def asInt : AnyNumber → Option Int
  | int value => some value
  | int64 _ => none

def json : AnyNumber → Json
  | int value | int64 value => .num value

end AnyNumber

abbrev Unread := List (String × List (String × AnyNumber))

structure Parsing where
  archives : Archives
  unread : Unread
  parsedMessages : List ParsedMessageDTO
  deletes : List String

def countMessage (timestamp : Int) (unreadSource : List (String × AnyNumber)) : List (String × AnyNumber) :=
  let currentCount := ((unreadSource.lookup "count").bind AnyNumber.asInt).getD 0 + 1
  let latestTimestamp := ((unreadSource.lookup "latest").bind AnyNumber.asInt).getD 0
  let unreadSource := put "count" (.int currentCount) unreadSource
  put "latest" (if timestamp > latestTimestamp then .int64 timestamp else .int latestTimestamp) unreadSource

def countUnread (message : MessageDTO) (unread : Unread) : Unread :=
  put message.source (countMessage message.timestamp ((unread.lookup message.source).getD [])) unread

/-- Whether a message is decrypted: one of the contact, with data and with a session. -/
def decodable (username : String) (decodeAndSave : Bool) (message : MessageDTO) (archives : Archives) : Bool :=
  username == message.source && (message.messageData p).any (! ·.isEmpty) && decodeAndSave &&
    SessionStorePillar.containsSession ⟨username, 1⟩ archives

/-- The part of the loop for a message that is decrypted; an undecryptable one is stored as a warning. -/
def parseMessage (username messageTag : String) (message : MessageDTO) (draw : Draw) (state : Parsing) : Parsing :=
  let (decryption, archives) := decrypt p ⟨username, 1⟩ draw.attempts state.archives
  let stored := match decryption with
    | .plaintext data => some (receivedMessage p message draw (some data))
    | .duplicate => none
    | .undecryptable _ _ => some (receivedMessage p message draw none)
  { state with
    archives := match stored with
      | some parsedMessage => MessagesStorage.save parsedMessage username messageTag archives
      | none => archives
    parsedMessages := state.parsedMessages ++ stored.toList
    deletes := state.deletes ++ [deleteUrl username message.timestamp] }

def parseEntry (username messageTag : String) (decodeAndSave : Bool) (messageDict : Dictionary) (draw : Draw)
    (state : Parsing) : Parsing :=
  let message : MessageDTO := ⟨messageDict⟩
  if messageTag = message.tag then
    -- empty username check is needed because unread message count method doesn't require username
    let state := if MESSAGE_TYPE_CIPHERTEXT = message.type ∧ username = "" then
        { state with unread := countUnread message state.unread }
      else state
    if decodable p username decodeAndSave message state.archives then
      parseMessage p username messageTag message draw state
    else state
  else state

def parseLoop (username messageTag : String) (decodeAndSave : Bool) (draws : Nat → Draw) :
    Nat → List Dictionary → Parsing → Parsing
  | _, [], state => state
  | i, messageDict :: later, state =>
    parseLoop username messageTag decodeAndSave draws (i + 1) later
      (parseEntry p username messageTag decodeAndSave messageDict (draws i) state)

/-- `none` for the empty dictionary that stands for a missing store or a missing list. -/
def parseMessages (store : Bool) (username messageTag : String) (decodeAndSave : Bool) (draws : Nat → Draw)
    (messagesDictionary : Dictionary) (archives : Archives) : Option Parsing × Archives :=
  match if store then (messagesDictionary.lookup "messages").bind asDictionaries else none with
  | none => (none, archives)
  | some messages =>
    let state := parseLoop p username messageTag decodeAndSave draws 0 messages ⟨archives, [], [], []⟩
    (some state, state.archives)

def Unread.json (unread : Unread) : Dictionary :=
  unread.map fun (source, counts) => (source, .obj (counts.map fun (name, number) => (name, number.json)))

def finalDict : Option Parsing → Dictionary
  | none => []
  | some parsing =>
    let finalDict := put "unread" (.obj parsing.unread.json) []
    if parsing.parsedMessages.length > 0 then
      put "messages" (.arr (parsing.parsedMessages.map fun message => .obj message.dictionary)) finalDict
    else finalDict

def undecryptableMessage (message : MessageDTO) (reset : Bool) (error : SignalError) : FailureMessage :=
  .described ("Error (" ++ message.getMessageDataType ++ ") in " ++
    (if reset then "untrustedIdentity exception: " else "first message exception: ")) (some error)

/-- `decryptSignalMessage`, for a message that a push notification brought; an undecryptable one is
    reported and not stored. -/
def decryptSignalMessage (store : Bool) (messageTag : String) (received : List Char) (draw : Draw) (archives : Archives) :
    Except FailureMessage Unit × Archives :=
  if store then
    match p.jsonObject received with
    | none => (.error (.described "Decoding error: " none), archives)
    | some (.obj dictFromJSON) =>
      let message : MessageDTO := ⟨dictFromJSON⟩
      if SessionStorePillar.containsSession ⟨message.source, 1⟩ archives && (message.messageData p).isSome then
        match decrypt p ⟨message.source, 1⟩ draw.attempts archives with
        | (.plaintext data, archives) =>
          (.ok (), MessagesStorage.save (receivedMessage p message draw (some data)) message.source messageTag archives)
        | (.duplicate, archives) => (.ok (), archives)
        | (.undecryptable reset error, archives) => (.error (undecryptableMessage message reset error), archives)
      else (.ok (), archives)
    | some _ => (.error (.text "Failed to parse JSON"), archives)
  else (.error (.text "No store found"), archives)

def pulledMessage (username messageTag : String) (decodeAndSave : Bool) (messageDict : Dictionary) (archives : Archives) :
    Option MessageDTO :=
  if messageTag = MessageDTO.tag ⟨messageDict⟩ ∧ decodable p username decodeAndSave ⟨messageDict⟩ archives then
    some ⟨messageDict⟩
  else none

def pushedMessage (store : Bool) (received : List Char) (archives : Archives) : Option MessageDTO :=
  match p.jsonObject received with
  | some (.obj dictFromJSON) =>
    if store && SessionStorePillar.containsSession ⟨MessageDTO.source ⟨dictFromJSON⟩, 1⟩ archives &&
        (MessageDTO.messageData p ⟨dictFromJSON⟩).isSome then some ⟨dictFromJSON⟩
    else none
  | _ => none

theorem decryptSignalMessage_archives (store : Bool) (messageTag : String) (received : List Char) (draw : Draw)
    (archives : Archives) :
    (decryptSignalMessage p store messageTag received draw archives).2 =
      match pushedMessage p store received archives with
      | none => archives
      | some message =>
        match draw.attempts.plaintext with
        | none => (decrypt p ⟨message.source, 1⟩ draw.attempts archives).2
        | some data => MessagesStorage.save (receivedMessage p message draw (some data)) message.source messageTag
            (decrypt p ⟨message.source, 1⟩ draw.attempts archives).2 := by
  unfold decryptSignalMessage pushedMessage
  cases store with
  | false =>
    cases p.jsonObject received with
    | none => rfl
    | some value => cases value <;> simp
  | true =>
    cases p.jsonObject received with
    | none => rfl
    | some value =>
      cases value with
      | obj dictFromJSON =>
        simp only [if_true, Bool.true_and]
        split
        · dsimp only
          rw [← decrypt_data p ⟨MessageDTO.source ⟨dictFromJSON⟩, 1⟩ draw.attempts archives]
          cases decrypt p ⟨MessageDTO.source ⟨dictFromJSON⟩, 1⟩ draw.attempts archives with
          | mk decryption archives => cases decryption <;> rfl
        · rfl
      | _ => rfl

/-- What receiving does to the archives: between the messages that are stored for a contact and a
    tag, only the stores change. -/
inductive Delivers (username tag : String) : Archives → List ParsedMessageDTO → Archives → Prop where
  | done {before after : Archives} (upkeep : Upkeep before after) : Delivers username tag before [] after
  | next {before between after : Archives} {message : ParsedMessageDTO} {later : List ParsedMessageDTO}
      (upkeep : Upkeep before between)
      (rest : Delivers username tag (MessagesStorage.save message username tag between) later after) :
      Delivers username tag before (message :: later) after

theorem Delivers.append {username tag : String} {a b c : Archives} {first second : List ParsedMessageDTO}
    (left : Delivers username tag a first b) (right : Delivers username tag b second c) :
    Delivers username tag a (first ++ second) c := by
  induction left with
  | done upkeep =>
    cases right with
    | done more => exact .done (upkeep.trans more)
    | next more rest => exact .next (upkeep.trans more) rest
  | next upkeep _ ih => exact .next upkeep (ih right)

variable {p} {username messageTag : String}

theorem parseMessage_delivers (message : MessageDTO) (draw : Draw) (state : Parsing) :
    ∃ more, (parseMessage p username messageTag message draw state).parsedMessages = state.parsedMessages ++ more ∧
      Delivers username messageTag state.archives more
        (parseMessage p username messageTag message draw state).archives := by
  have upkeep := upkeep_decrypt p ⟨username, 1⟩ draw.attempts state.archives
  unfold parseMessage
  cases decryption : decrypt p ⟨username, 1⟩ draw.attempts state.archives with
  | mk outcome archives =>
    rw [decryption] at upkeep
    cases outcome with
    | plaintext data => exact ⟨_, rfl, .next upkeep (.done (.refl _))⟩
    | duplicate => exact ⟨_, rfl, .done upkeep⟩
    | undecryptable reset error => exact ⟨_, rfl, .next upkeep (.done (.refl _))⟩

theorem counted_eq (message : MessageDTO) (state : Parsing) :
    ∃ unread, (if MESSAGE_TYPE_CIPHERTEXT = message.type ∧ username = "" then
      { state with unread := countUnread message state.unread } else state) = { state with unread } := by
  split
  · exact ⟨_, rfl⟩
  · exact ⟨state.unread, rfl⟩

theorem parseEntry_delivers (decodeAndSave : Bool) (messageDict : Dictionary) (draw : Draw) (state : Parsing) :
    ∃ more, (parseEntry p username messageTag decodeAndSave messageDict draw state).parsedMessages =
        state.parsedMessages ++ more ∧
      Delivers username messageTag state.archives more
        (parseEntry p username messageTag decodeAndSave messageDict draw state).archives := by
  have idle : ∀ unread, ∃ more, ({ state with unread } : Parsing).parsedMessages = state.parsedMessages ++ more ∧
      Delivers username messageTag state.archives more ({ state with unread } : Parsing).archives :=
    fun unread => ⟨[], by simp, .done (.refl _)⟩
  obtain ⟨unread, counted⟩ := @counted_eq username ⟨messageDict⟩ state
  unfold parseEntry
  dsimp only
  split
  · rw [counted]
    split
    · exact parseMessage_delivers _ draw { state with unread }
    · exact idle unread
  · exact idle state.unread

theorem parseLoop_delivers (decodeAndSave : Bool) (draws : Nat → Draw) (i : Nat) (messages : List Dictionary)
    (state : Parsing) :
    ∃ more, (parseLoop p username messageTag decodeAndSave draws i messages state).parsedMessages =
        state.parsedMessages ++ more ∧
      Delivers username messageTag state.archives more
        (parseLoop p username messageTag decodeAndSave draws i messages state).archives := by
  induction messages generalizing i state with
  | nil => exact ⟨[], by simp [parseLoop], .done (.refl _)⟩
  | cons messageDict later ih =>
    obtain ⟨first, parsed, delivers⟩ :=
      @parseEntry_delivers p username messageTag decodeAndSave messageDict (draws i) state
    obtain ⟨second, parsed', delivers'⟩ :=
      ih (i + 1) (parseEntry p username messageTag decodeAndSave messageDict (draws i) state)
    exact ⟨first ++ second, by rw [parseLoop, parsed', parsed, List.append_assoc], delivers.append delivers'⟩

def parsedMessages (result : Option Parsing × Archives) : List ParsedMessageDTO :=
  (result.1.map Parsing.parsedMessages).getD []

theorem parseMessages_delivers (store : Bool) (decodeAndSave : Bool) (draws : Nat → Draw) (dict : Dictionary)
    (archives : Archives) :
    Delivers username messageTag archives
      (parsedMessages (parseMessages p store username messageTag decodeAndSave draws dict archives))
      (parseMessages p store username messageTag decodeAndSave draws dict archives).2 := by
  unfold parseMessages parsedMessages
  split
  · exact .done (.refl _)
  · rename_i messages _
    obtain ⟨more, parsed, delivers⟩ :=
      @parseLoop_delivers p username messageTag decodeAndSave draws 0 messages ⟨archives, [], [], []⟩
    dsimp only
    rw [Option.map_some, Option.getD_some, parsed, List.nil_append]
    exact delivers

end SignalClient
end PillarSignal.Ios
