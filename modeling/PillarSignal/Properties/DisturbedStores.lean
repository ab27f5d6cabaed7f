import PillarSignal.Android.MessageFiles
import PillarSignal.Properties.StoreMaps
import Mathlib.Data.Fintype.EquivFin

namespace PillarSignal.Android.ProtocolStorage

open Storage StorageFile

/-- Everything that can be asked of the stores under one key. -/
inductive Load where
  | preKey (preKeyId : Int)
  | signedPreKey (signedPreKeyId : Int)
  | session (address : SignalProtocolAddress)
  | trustedIdentity (address : SignalProtocolAddress) (identityKey : PublicKey)
  | localUsername
  | identityKeyPair
  | localRegistrationId
  | signalingKey
  | signalResetVersion
  | localRegistered

namespace Load

def Answer : Load → Type
  | preKey _ => Option PreKeyRecord
  | signedPreKey _ => Option SignedPreKeyRecord
  | session _ => Option SessionRecord
  | trustedIdentity _ _ | localRegistered => Bool
  | localUsername => String
  | identityKeyPair => Option KeyPair
  | localRegistrationId | signalResetVersion => Int
  | signalingKey => Option String

def answer (p : Platform) (files : Files) : (load : Load) → load.Answer
  | preKey preKeyId => loadPreKey p preKeyId files
  | signedPreKey signedPreKeyId => loadSignedPreKey p signedPreKeyId files
  | session address => loadSession p address files
  | trustedIdentity address identityKey => isTrustedIdentity p address identityKey files
  | localUsername => getLocalUsername p files
  | identityKeyPair => getIdentityKeyPair p files
  | localRegistrationId => getLocalRegistrationId p files
  | signalingKey => getSignalingKey p files
  | signalResetVersion => getSignalResetVersion p files
  | localRegistered => isLocalRegistered p files

def file : Load → StorageFile
  | preKey _ => PRE_KEYS_JSON_FILENAME
  | signedPreKey _ => SIGNED_PRE_KEYS_JSON_FILENAME
  | session _ => SESSIONS_JSON_FILENAME
  | trustedIdentity _ _ => IDENTITES_JSON_FILENAME
  | localUsername | identityKeyPair | localRegistrationId | signalingKey | signalResetVersion | localRegistered =>
    LOCAL_JSON_FILENAME

def keys : Load → List String
  | preKey preKeyId => [valueOf preKeyId]
  | signedPreKey signedPreKeyId => [valueOf signedPreKeyId]
  | session address | trustedIdentity address _ => [addressText address]
  | localUsername => ["username"]
  | identityKeyPair => ["identityKeyPair"]
  | localRegistrationId => ["registrationId"]
  | signalingKey => ["signalingKey"]
  | signalResetVersion => ["signalResetVersion"]
  | localRegistered => ["identityKeyPair", "registrationId"]

end Load

/-- A value that one of the storing methods puts under a key of a file; some fields are stored once only. -/
structure Put where
  file : StorageFile
  key : String
  value : Json
  once : Bool

inductive Mutation where
  | storePreKey (preKeyId : Int) (record : PreKeyRecord)
  | storeSignedPreKey (signedPreKeyId : Int) (record : SignedPreKeyRecord)
  | storeSession (address : SignalProtocolAddress) (record : SessionRecord)
  | saveIdentity (address : SignalProtocolAddress) (identityKey : PublicKey)
  | storeLocalUsername (username : String)
  | storeIdentityKeyPair (identityKeyPair : KeyPair)
  | storeLocalRegistrationId (registrationId : Int)
  | storeSignalingKey (signalingKey : String)
  | storeSignalResetVersion (version : Int)

namespace Mutation

def run (p : Platform) : Mutation → Files → Files
  | storePreKey preKeyId record => ProtocolStorage.storePreKey p preKeyId record
  | storeSignedPreKey signedPreKeyId record => ProtocolStorage.storeSignedPreKey p signedPreKeyId record
  | storeSession address record => ProtocolStorage.storeSession p address record
  | saveIdentity address identityKey => ProtocolStorage.saveIdentity p address identityKey
  | storeLocalUsername username => ProtocolStorage.storeLocalUsername p username
  | storeIdentityKeyPair identityKeyPair => ProtocolStorage.storeIdentityKeyPair p identityKeyPair
  | storeLocalRegistrationId registrationId => ProtocolStorage.storeLocalRegistrationId p registrationId
  | storeSignalingKey signalingKey => ProtocolStorage.storeSignalingKey p signalingKey
  | storeSignalResetVersion version => ProtocolStorage.storeSignalResetVersion p version

def put (p : Platform) : Mutation → Put
  | storePreKey preKeyId record =>
    ⟨PRE_KEYS_JSON_FILENAME, valueOf preKeyId, .str (p.texts.preKey.encode record), false⟩
  | storeSignedPreKey signedPreKeyId record =>
    ⟨SIGNED_PRE_KEYS_JSON_FILENAME, valueOf signedPreKeyId, .str (p.texts.signedPreKey.encode record), false⟩
  | storeSession address record =>
    ⟨SESSIONS_JSON_FILENAME, addressText address, .str (p.texts.session.encode record), false⟩
  | saveIdentity address identityKey =>
    ⟨IDENTITES_JSON_FILENAME, addressText address, .obj [("identityKey", .str (p.texts.publicKey.encode identityKey))], false⟩
  | storeLocalUsername username => ⟨LOCAL_JSON_FILENAME, "username", .str username, true⟩
  | storeIdentityKeyPair identityKeyPair =>
    ⟨LOCAL_JSON_FILENAME, "identityKeyPair", .str (p.texts.identityKeyPair.encode identityKeyPair), true⟩
  | storeLocalRegistrationId registrationId => ⟨LOCAL_JSON_FILENAME, "registrationId", .num registrationId, true⟩
  | storeSignalingKey signalingKey => ⟨LOCAL_JSON_FILENAME, "signalingKey", .str signalingKey, false⟩
  | storeSignalResetVersion version => ⟨LOCAL_JSON_FILENAME, "signalResetVersion", .num version, false⟩

end Mutation

namespace Put

def edit (put : Put) (data : JSONObject) : Option JSONObject :=
  if put.once && OrgJson.has data put.key && !OrgJson.isNull data put.key then none
  else some (Storage.put put.key put.value data)

def Names (put : Put) (load : Load) : Prop := load.file = put.file ∧ put.key ∈ load.keys

def text (p : Platform) (put : Put) (files : Files) : Option (List Char) :=
  match readObject p put.file files with
  | .error _ => none
  | .ok object => (put.edit object).map fun edited => p.json.print (.obj edited)

end Put

def undisturbed (files : Files) : Files := { files with outcomes := fun _ => [] }

/-- Nothing is lost: what is not named is answered as before, what is named as before or as if it had been stored
    without a disturbance, and no message is gone. -/
structure MutationKept (p : Platform) (mutation : Mutation) (files : Files) : Prop where
  others : ∀ load : Load, ¬ (mutation.put p).Names load →
    load.answer p (mutation.run p files) = load.answer p files
  named : (∀ load : Load, (mutation.put p).Names load → load.answer p (mutation.run p files) = load.answer p files) ∨
    ∀ load : Load, (mutation.put p).Names load →
      load.answer p (mutation.run p files) = load.answer p (mutation.run p (undisturbed files))
  messages : ∀ username tag, MessageStorage.getContactMessages p username tag files <+:
    MessageStorage.getContactMessages p username tag (mutation.run p files)

/-- The value is what is answered when nothing is stored. Of all the values that replace others only the version has
    such a one. -/
def Mutation.StoresDefault : Mutation → Prop
  | storeSignalResetVersion version => toInt version = 0
  | _ => False

/-- The file answers every load like an empty one. The loads of the key that is stored need not, if the new value is
    answered like none. -/
structure Expendable (p : Platform) (mutation : Mutation) (files : Files) : Prop where
  others : ∀ load : Load, load.file = (mutation.put p).file → ¬ (mutation.put p).Names load →
    load.answer p files = load.answer p noFiles
  named : (∀ load : Load, (mutation.put p).Names load → load.answer p files = load.answer p noFiles) ∨
    mutation.StoresDefault

def Complete (text : List Char) (outcome : Option WriteOutcome) : Prop :=
  ∀ after, outcome = some (.stopped after) → text.length ≤ after

/-- An old session is deleted by a write of its own before the new one is written. -/
def Mutation.replaces (p : Platform) (files : Files) : Mutation → Bool
  | storeSession address _ => containsSession p address files
  | _ => false

def Mutation.texts (p : Platform) (mutation : Mutation) (files : Files) : List (List Char) :=
  match readObject p (mutation.put p).file files with
  | .error _ => []
  | .ok object =>
    (if mutation.replaces p files then [p.json.print (.obj (erase (mutation.put p).key object))] else []) ++
      ((mutation.put p).text p files).toList

/-- The parser of the platform takes no text that lacks its end. -/
def Rejects (p : Platform) (text : List Char) : Prop :=
  ∀ after, 0 < after → after < text.length → p.json.parse (text.take after) = none

instance (p : Platform) (text : List Char) : Decidable (Rejects p text) :=
  decidable_of_iff (∀ after < text.length, 0 < after → p.json.parse (text.take after) = none)
    (forall_congr' fun _ => imp.swap)

/-- A single write is complete or never begins, unless there was nothing to lose. Of two writes the second is complete,
    or neither of them begins. -/
def Safe (p : Platform) (mutation : Mutation) (files : Files) : Prop :=
  let outcomes := files.outcomes ((mutation.put p).file.path p)
  Writable p (mutation.put p).file files → ∀ text ∈ (mutation.put p).text p files,
    if mutation.replaces p files then
      (Complete text outcomes.tail.head? ∧ outcomes.tail.head? ≠ some .notOpened) ∨
        (outcomes.head? = some .notOpened ∧ outcomes.tail.head? = some .notOpened)
    else
      Complete text outcomes.head? ∨ (Expendable p mutation files ∧
        ((mutation.put p).file = IDENTITES_JSON_FILENAME → outcomes.head? = some (.stopped 0)))

section Readings

variable {p : Platform} {data : JSONObject}

def entryIn (key : String) : Except Thrown JSONObject → Option Json
  | .ok data => data.lookup key
  | .error _ => none

def fieldIn (name : String) (reading : Except Thrown JSONObject) : Option Json :=
  (entryIn name reading).filter (· ≠ .null)

def trustIn (p : Platform) (key : String) (identityKey : PublicKey) : Except Thrown JSONObject → Bool
  | .ok data => (data.lookup key).all (holdsIdentity p identityKey)
  | .error _ => false

def Load.value (p : Platform) (reading : Except Thrown JSONObject) : (load : Load) → load.Answer
  | preKey preKeyId =>
    (entryIn (valueOf preKeyId) reading).bind fun value => p.texts.preKey.decode (p.json.toText value)
  | signedPreKey signedPreKeyId =>
    (entryIn (valueOf signedPreKeyId) reading).bind fun value => p.texts.signedPreKey.decode (p.json.toText value)
  | session address =>
    (entryIn (addressText address) reading).bind fun value => p.texts.session.decode (p.json.toText value)
  | trustedIdentity address identityKey => trustIn p (addressText address) identityKey reading
  | localUsername => ((fieldIn "username" reading).map p.json.toText).getD ""
  | identityKeyPair =>
    (fieldIn "identityKeyPair" reading).bind fun value => p.texts.identityKeyPair.decode (p.json.toText value)
  | localRegistrationId => ((fieldIn "registrationId" reading).bind p.json.asInteger).getD 0
  | signalingKey => (fieldIn "signalingKey" reading).map p.json.toText
  | signalResetVersion => ((fieldIn "signalResetVersion" reading).bind p.json.asInteger).getD 0
  | localRegistered => (fieldIn "identityKeyPair" reading).isSome && (fieldIn "registrationId" reading).isSome

theorem localField_eq_fieldIn (name : String) (files : Files) :
    localField p name files = fieldIn name (readObject p LOCAL_JSON_FILENAME files) := by
  rw [localField_eq, fieldIn, entry]
  cases readObject p LOCAL_JSON_FILENAME files <;> rfl

theorem isTrustedIdentity_eq_trustIn (address : SignalProtocolAddress) (identityKey : PublicKey) (files : Files) :
    isTrustedIdentity p address identityKey files =
      trustIn p (addressText address) identityKey (readObject p IDENTITES_JSON_FILENAME files) := by
  cases held : readObject p IDENTITES_JSON_FILENAME files with
  | error e => rw [isTrustedIdentity_eq, held, trustIn]
  | ok data => rw [isTrustedIdentity_entry ⟨data, held⟩, entry, held, trustIn]

theorem Load.answer_eq (load : Load) (files : Files) :
    load.answer p files = load.value p (readObject p load.file files) := by
  cases load with
  | preKey preKeyId => exact loadRecord_eq ..
  | signedPreKey signedPreKeyId => exact loadRecord_eq ..
  | session address => exact loadRecord_eq ..
  | trustedIdentity address identityKey => exact isTrustedIdentity_eq_trustIn ..
  | localUsername => exact congrArg (fun field => (field.map p.json.toText).getD "") (localField_eq_fieldIn ..)
  | identityKeyPair =>
    exact congrArg (fun field => field.bind fun value => p.texts.identityKeyPair.decode (p.json.toText value))
      (localField_eq_fieldIn ..)
  | localRegistrationId => exact congrArg (fun field => (field.bind p.json.asInteger).getD 0) (localField_eq_fieldIn ..)
  | signalingKey => exact congrArg (fun field => field.map p.json.toText) (localField_eq_fieldIn ..)
  | signalResetVersion => exact congrArg (fun field => (field.bind p.json.asInteger).getD 0) (localField_eq_fieldIn ..)
  | localRegistered =>
    refine (isLocalRegistered_eq files).trans ?_
    rw [localField_eq_fieldIn, localField_eq_fieldIn]
    rfl

theorem Load.value_congr (load : Load) {other : JSONObject} (same : ∀ key ∈ load.keys, other.lookup key = data.lookup key) :
    load.value p (.ok other) = load.value p (.ok data) := by
  cases load <;> simp only [Load.keys, List.mem_cons, List.not_mem_nil, or_false, forall_eq, forall_eq_or_imp] at same <;>
    simp only [Load.value, fieldIn, entryIn, trustIn, same] <;> rfl

theorem Load.value_error (load : Load) (stored : load.file ≠ IDENTITES_JSON_FILENAME) (e : Thrown) :
    load.value p (.error e) = load.value p (.ok []) := by
  cases load with
  | trustedIdentity address identityKey => exact absurd rfl stored
  | _ => rfl

theorem Load.answer_noFiles (load : Load) : load.answer p noFiles = load.value p (.ok []) := by
  have nothing : noFiles.tree.contents (load.file.path p) = none := by
    have absent : FileTree.root.stat (load.file.path p) = (none : Option (Node (List Char))) := by
      simp [FileTree.stat, FileTree.root, StorageFile.path]
    rw [FileTree.contents]
    exact congrArg (fun node => node.bind Node.data?) absent
  rw [load.answer_eq, readObject_eq, nothing]
  rfl

end Readings

section Writes

variable {p : Platform} {files : Files} {file : StorageFile} {object : JSONObject}

def readingLeft (p : Platform) (object : JSONObject) (old : Except Thrown JSONObject) :
    Option WriteOutcome → Except Thrown JSONObject
  | none | some .written => .ok object
  | some .notOpened => old
  | some (.stopped after) => objectOf p (some ((p.json.print (.obj object)).take after))

theorem objectOf_print (object : JSONObject) : objectOf p (some (p.json.print (.obj object))) = .ok object := by
  rw [objectOf, newJSONObject_print]
  exact p.json.print_ne_nil _

theorem joinLines_take (object : JSONObject) (after : Nat) :
    joinLines ((p.json.print (.obj object)).take after) = (p.json.print (.obj object)).take after :=
  joinLines_of_unbroken fun c member => p.json.print_unbroken _ c (List.mem_of_mem_take member)

theorem readObject_writeObject_left (writable : Writable p file files) (object : JSONObject) :
    readObject p file (writeObject p file object files) =
      readingLeft p object (readObject p file files) (files.outcomes (file.path p)).head? := by
  have leaf : (files.tree.makeDirs p.filesDir ["signal"]).stat (file.path p) ≠ some .dir := by
    rw [stat_path_makeDirs]
    exact writable.2
  have wrote := Disk.contents_write { files with tree := files.tree.makeDirs p.filesDir ["signal"] }
    (p.json.print (.obj object)) writable.parent leaf
  have same : (files.tree.makeDirs p.filesDir ["signal"]).contents (file.path p) = files.tree.contents (file.path p) :=
    files.tree.contents_makeDirs ..
  rw [readObject_eq, writeObject_of_writable writable, StorageFile.path, wrote, readObject_eq]
  rcases (files.outcomes (file.fileName :: directory p)).head? with _ | outcome
  · exact (congrArg (objectOf p) (congrArg some (joinLines_of_unbroken (p.json.print_unbroken _)))).trans
      (objectOf_print object)
  · cases outcome with
    | written =>
      exact (congrArg (objectOf p) (congrArg some (joinLines_of_unbroken (p.json.print_unbroken _)))).trans
        (objectOf_print object)
    | notOpened => exact congrArg (fun contents => objectOf p (contents.map joinLines)) same
    | stopped after => exact congrArg (objectOf p) (congrArg some (joinLines_take object after))

theorem readObject_writeObject_unwritable (closed : ¬ Writable p file files) (object : JSONObject) :
    readObject p file (writeObject p file object files) = readObject p file files := by
  have same : (files.tree.makeDirs p.filesDir ["signal"]).contents (file.path p) = files.tree.contents (file.path p) :=
    files.tree.contents_makeDirs ..
  rw [readObject_eq, readObject_eq, writeObject, writeToStorageFile]
  dsimp only
  split
  · rename_i path found
    -- the place is reached, so that it must be a directory
    have place := resolve_eq found
    subst place
    have dir : files.tree.stat (file.path p) = some .dir := by
      by_contra leaf
      exact closed ⟨found, leaf⟩
    have taken : ∀ data, ((files.tree.makeDirs p.filesDir ["signal"]).write (file.path p) data) =
        files.tree.makeDirs p.filesDir ["signal"] := by
      intro data
      rw [StorageFile.path, FileTree.write, dif_neg]
      rintro ⟨_, leaf⟩
      exact leaf ((stat_path_makeDirs file files).trans dir)
    have kept : (Disk.write { files with tree := files.tree.makeDirs p.filesDir ["signal"] } (file.path p)
        (p.json.print (.obj object))).tree = files.tree.makeDirs p.filesDir ["signal"] := by
      unfold Disk.write
      split
      · exact taken _
      · rename_i outcome rest queued
        cases outcome with
        | written => exact taken _
        | notOpened => rfl
        | stopped after => exact taken _
    rw [kept, same]
  · rw [same]

theorem Writable.writeObject (writable : Writable p file files) (object : JSONObject) :
    Writable p file (writeObject p file object files) := by
  have wrote := @writeObject_of_writable p files file object writable
  have dirs : ∀ path, (ProtocolStorage.writeObject p file object files).tree.stat path = some .dir ↔
      (files.tree.makeDirs p.filesDir ["signal"]).stat path = some .dir := by
    intro path
    rw [wrote]
    exact Disk.stat_write_dir ..
  have found : (ProtocolStorage.writeObject p file object files).tree.resolve p.filesDir (["signal"] ++ [file.fileName]) =
      some (file.path p) := (FileTree.resolve_congr dirs ..).trans writable.1
  refine ⟨?_, fun dir => writable.2 ?_⟩
  · rw [FileTree.makeDirs_of_resolve found (by simp)]
    exact found
  · rw [← stat_path_makeDirs]
    exact (dirs _).mp dir

theorem outcomes_writeObject (writable : Writable p file files) (object : JSONObject) :
    (ProtocolStorage.writeObject p file object files).outcomes (file.path p) = (files.outcomes (file.path p)).tail := by
  rw [writeObject_of_writable writable, Disk.outcomes_write]

theorem readObject_written_twice (writable : Writable p file files) (first second : JSONObject) :
    readObject p file (ProtocolStorage.writeObject p file second (ProtocolStorage.writeObject p file first files)) =
      readingLeft p second (readingLeft p first (readObject p file files) (files.outcomes (file.path p)).head?)
        (files.outcomes (file.path p)).tail.head? := by
  rw [readObject_writeObject_left (writable.writeObject first), readObject_writeObject_left writable,
    outcomes_writeObject writable]

end Writes

section Runs

variable {p : Platform} {files : Files} {mutation : Mutation} {object edited : JSONObject}

theorem Put.edit_eq {put : Put} (done : put.edit object = some edited) : edited = Storage.put put.key put.value object := by
  rw [Put.edit] at done
  split at done
  · cases done
  · exact (Option.some.inj done).symm

theorem edit_once (name : String) (value : Json) (file : StorageFile) (data : JSONObject) :
    (if !OrgJson.has data name || OrgJson.isNull data name then some (put name value data) else none) =
      Put.edit ⟨file, name, value, true⟩ data := by
  rw [Put.edit]
  cases OrgJson.has data name <;> cases OrgJson.isNull data name <;> rfl

theorem storeOnce_eq (name : String) (value : Json) :
    storeOnce p name value = updateObject p LOCAL_JSON_FILENAME (Put.edit ⟨LOCAL_JSON_FILENAME, name, value, true⟩) :=
  congrArg (updateObject p LOCAL_JSON_FILENAME) (funext fun data => edit_once name value _ data)

theorem Mutation.run_eq (single : mutation.replaces p files = false) :
    mutation.run p files = updateObject p (mutation.put p).file (mutation.put p).edit files := by
  cases mutation with
  | storeSession address record =>
    rw [Mutation.replaces] at single
    rw [Mutation.run, ProtocolStorage.storeSession, single]
    rfl
  | storeLocalUsername username => exact congrFun (storeOnce_eq ..) files
  | storeIdentityKeyPair identityKeyPair => exact congrFun (storeOnce_eq ..) files
  | storeLocalRegistrationId registrationId => exact congrFun (storeOnce_eq ..) files
  | _ => rfl

theorem Mutation.run_unwritten (single : mutation.replaces p files = false)
    (nothing : (mutation.put p).text p files = none) : mutation.run p files = files := by
  rw [mutation.run_eq single, updateObject]
  rw [Put.text] at nothing
  split
  · rfl
  · rename_i object held
    rw [held] at nothing
    rw [Option.map_eq_none_iff.mp nothing]

theorem Mutation.run_written (single : mutation.replaces p files = false)
    (held : readObject p (mutation.put p).file files = .ok object) (done : (mutation.put p).edit object = some edited) :
    mutation.run p files = writeObject p (mutation.put p).file edited files := by
  rw [mutation.run_eq single, updateObject, held]
  simp only [done]

theorem exists_of_text {text : List Char} (written : (mutation.put p).text p files = some text) :
    ∃ object edited, readObject p (mutation.put p).file files = .ok object ∧
      (mutation.put p).edit object = some edited ∧ text = p.json.print (.obj edited) := by
  rw [Put.text] at written
  split at written
  · cases written
  · rename_i object held
    obtain ⟨edited, done, rfl⟩ := Option.map_eq_some_iff.mp written
    exact ⟨object, edited, held, done, rfl⟩

theorem run_replacing {address : SignalProtocolAddress} {record : SessionRecord}
    (replaced : containsSession p address files = true) :
    ∃ object, readObject p SESSIONS_JSON_FILENAME files = .ok object ∧ (object.lookup (addressText address)).isSome ∧
      Writable p SESSIONS_JSON_FILENAME files ∧
      storeSession p address record files =
        writeObject p SESSIONS_JSON_FILENAME
          (put (addressText address) (.str (p.texts.session.encode record)) object)
          (writeObject p SESSIONS_JSON_FILENAME (erase (addressText address) object) files) := by
  have loaded : (loadSession p address files).isSome = true := replaced
  rw [loadSession, loadRecord_eq, entry] at loaded
  cases held : readObject p SESSIONS_JSON_FILENAME files with
  | error e => simp [held] at loaded
  | ok object =>
    rw [held] at loaded
    have present : (object.lookup (addressText address)).isSome = true := by
      cases found : object.lookup (addressText address) with
      | none => simp [found] at loaded
      | some value => rfl
    refine ⟨object, rfl, present, ?_, ?_⟩
    · rw [readObject_eq] at held
      cases contents : files.tree.contents (SESSIONS_JSON_FILENAME.path p) with
      | none =>
        rw [contents] at held
        cases held
        cases present
      | some text => exact writable_of_contents contents
    · have deleted : deleteSession p address files =
          writeObject p SESSIONS_JSON_FILENAME (erase (addressText address) object) files := by
        rw [deleteSession, removeKey, updateObject, held]
        simp [OrgJson.has, present]
      rw [storeSession, replaced, if_pos rfl, deleted, held]

end Runs

theorem framed_mutation {p : Platform} (mutation : Mutation) (files : Files) : Framed p files (mutation.run p files) := by
  cases mutation with
  | storeSession address record => exact framed_storeSession ..
  | _ =>
    rw [Mutation.run_eq rfl]
    exact framed_updateObject ..

theorem readObject_mutation_of_ne {p : Platform} {mutation : Mutation} {other : StorageFile}
    (differs : (mutation.put p).file ≠ other) (files : Files) :
    readObject p other (mutation.run p files) = readObject p other files := by
  cases mutation with
  | storeSession address record => exact readObject_storeSession_of_ne differs ..
  | _ => exact readObject_updateObject_of_ne differs _ files

theorem getContactMessages_framed {p : Platform} {before after : Files} (framed : Framed p before after)
    (username tag : String) :
    MessageStorage.getContactMessages p username tag before <+: MessageStorage.getContactMessages p username tag after := by
  have unread : ∀ path, before.tree.resolve p.filesDir
      (MessageStorage.fileNames username (MessageStorage.getMessageStoreFilename tag)) = some path →
      before.tree.stat path ≠ some .dir → MessageStorage.getContactMessages p username tag before <+:
        MessageStorage.getContactMessages p username tag after := by
    intro path found leaf
    have same := (MessageStorage.Reaches.framed ⟨found, leaf⟩ framed).2
    rw [MessageStorage.getContactMessages, MessageStorage.getContactMessages, same]
  have absent : before.tree.readFile p.filesDir
      (MessageStorage.fileNames username (MessageStorage.getMessageStoreFilename tag)) = none →
      MessageStorage.getContactMessages p username tag before = [] := by
    intro nothing
    rw [MessageStorage.getContactMessages, MessageStorage.readHistory_eq, MessageStorage.readFromStorage, nothing]
    rfl
  cases found : before.tree.resolve p.filesDir
      (MessageStorage.fileNames username (MessageStorage.getMessageStoreFilename tag)) with
  | none =>
    rw [absent (by rw [FileTree.readFile, found]; rfl)]
    exact List.nil_prefix
  | some path =>
    by_cases dir : before.tree.stat path = some .dir
    · rw [absent (by rw [FileTree.readFile, found, Option.bind_some, FileTree.contents, dir]; rfl)]
      exact List.nil_prefix
    · exact unread path found dir

section Kept

variable {p : Platform} {put : Put} {old new intended : Except Thrown JSONObject}

structure KeptReading (p : Platform) (put : Put) (old new intended : Except Thrown JSONObject) : Prop where
  others : ∀ load : Load, load.file = put.file → ¬ put.Names load → load.value p new = load.value p old
  named : (∀ load : Load, put.Names load → load.value p new = load.value p old) ∨
    ∀ load : Load, put.Names load → load.value p new = load.value p intended

theorem kept_iff_reading (mutation : Mutation) (files : Files) :
    MutationKept p mutation files ↔ KeptReading p (mutation.put p) (readObject p (mutation.put p).file files)
      (readObject p (mutation.put p).file (mutation.run p files))
      (readObject p (mutation.put p).file (mutation.run p (undisturbed files))) := by
  constructor
  · rintro ⟨others, named, _⟩
    simp only [Load.answer_eq] at others named
    refine ⟨fun load own free => ?_, named.imp (fun same load hit => ?_) fun same load hit => ?_⟩
    · have kept := others load free
      rw [own] at kept
      exact kept
    · have kept := same load hit
      rw [hit.1] at kept
      exact kept
    · have kept := same load hit
      rw [hit.1] at kept
      exact kept
  · rintro ⟨others, named⟩
    refine ⟨fun load free => ?_, named.imp (fun same load hit => ?_) fun same load hit => ?_,
      getContactMessages_framed (framed_mutation mutation files)⟩
    · rw [Load.answer_eq, Load.answer_eq]
      by_cases own : load.file = (mutation.put p).file
      · rw [own]
        exact others load own free
      · rw [readObject_mutation_of_ne (Ne.symm own)]
    · rw [Load.answer_eq, Load.answer_eq, hit.1]
      exact same load hit
    · rw [Load.answer_eq, Load.answer_eq, hit.1]
      exact same load hit

theorem KeptReading.of_old : KeptReading p put old old intended := ⟨fun _ _ _ => rfl, .inl fun _ _ => rfl⟩

theorem KeptReading.of_edited {object edited : JSONObject} (done : put.edit object = some edited) :
    KeptReading p put (.ok object) (.ok edited) (.ok edited) := by
  refine ⟨fun load own free => ?_, .inr fun _ _ => rfl⟩
  apply load.value_congr
  intro key member
  have apart : put.key ≠ key := by
    rintro rfl
    exact free ⟨own, member⟩
  rw [Put.edit_eq done, lookup_put, if_neg apart]

theorem exists_free_address (put : Put) (object : JSONObject) :
    ∃ address : SignalProtocolAddress, addressText address ≠ put.key ∧ object.lookup (addressText address) = none := by
  let taken : Finset String := insert put.key (object.map Prod.fst).toFinset
  have injective : Function.Injective fun deviceId : Int => addressText ⟨"", deviceId⟩ := by
    intro a b same
    exact congrArg SignalProtocolAddress.deviceId (addressText_injective same)
  obtain ⟨deviceId, free⟩ := Infinite.exists_notMem_finset (taken.preimage _ injective.injOn)
  rw [Finset.mem_preimage, Finset.mem_insert, List.mem_toFinset, not_or] at free
  refine ⟨⟨"", deviceId⟩, free.1, ?_⟩
  cases found : object.lookup (addressText ⟨"", deviceId⟩) with
  | none => rfl
  | some value => exact absurd (List.mem_map_of_mem (mem_of_lookup found)) free.2

theorem not_kept_of_unreadable {object : JSONObject} {e : Thrown} (own : put.file = IDENTITES_JSON_FILENAME) :
    ¬ KeptReading p put (.ok object) (.error e) intended := by
  rintro ⟨others, _⟩
  obtain ⟨address, differs, absent⟩ := exists_free_address put object
  have free : ¬ put.Names (.trustedIdentity address ⟨[]⟩) := by
    rintro ⟨_, member⟩
    exact differs (List.mem_singleton.mp member).symm
  have same := others (.trustedIdentity address ⟨[]⟩) own.symm free
  simp only [Load.value, trustIn, absent] at same
  cases same

end Kept

section Outcomes

variable {p : Platform} {mutation : Mutation} {files : Files} {object edited : JSONObject}

/-- A write is complete, never begins, or is stopped before its first or after some character. -/
theorem readingLeft_cases (rejects : Rejects p (p.json.print (.obj edited))) (old : Except Thrown JSONObject)
    (outcome : Option WriteOutcome) :
    (Complete (p.json.print (.obj edited)) outcome ∧ outcome ≠ some .notOpened ∧
        readingLeft p edited old outcome = .ok edited) ∨
      (outcome = some .notOpened ∧ readingLeft p edited old outcome = old) ∨
      (¬ Complete (p.json.print (.obj edited)) outcome ∧ outcome = some (.stopped 0) ∧
        readingLeft p edited old outcome = .ok []) ∨
      (¬ Complete (p.json.print (.obj edited)) outcome ∧ outcome ≠ some (.stopped 0) ∧ outcome ≠ some .notOpened ∧
        ∃ e, readingLeft p edited old outcome = .error e) := by
  rcases outcome with _ | outcome
  · exact .inl ⟨fun after => by simp, by simp, rfl⟩
  cases outcome with
  | written => exact .inl ⟨fun after => by simp, by simp, rfl⟩
  | notOpened => exact .inr (.inl ⟨rfl, rfl⟩)
  | stopped after =>
    by_cases whole : (p.json.print (.obj edited)).length ≤ after
    · refine .inl ⟨fun other same => ?_, by simp, ?_⟩
      · cases same
        exact whole
      · rw [readingLeft, List.take_of_length_le whole, objectOf_print]
    · have short : after < (p.json.print (.obj edited)).length := by omega
      have cut : ¬ Complete (p.json.print (.obj edited)) (some (.stopped after)) := fun complete => whole (complete after rfl)
      by_cases none_written : after = 0
      · subst none_written
        exact .inr (.inr (.inl ⟨cut, rfl, rfl⟩))
      · have front : (p.json.print (.obj edited)).take after ≠ [] := by
          intro empty
          have lengths := congrArg List.length empty
          rw [List.length_take, List.length_nil] at lengths
          omega
        refine .inr (.inr (.inr ⟨cut, by simpa using none_written, by simp, .json, ?_⟩))
        rw [readingLeft, objectOf, OrgJson.newJSONObject, rejects after (by omega) short]
        exact front

theorem value_of_missing {name : String} {value : Json} {load : Load} {object edited : JSONObject}
    (done : Put.edit ⟨LOCAL_JSON_FILENAME, name, value, true⟩ object = some edited)
    (hit : Put.Names ⟨LOCAL_JSON_FILENAME, name, value, true⟩ load) :
    load.value p (.ok []) = load.value p (.ok object) := by
  have missing : fieldIn name (.ok object) = none := by
    rw [Put.edit] at done
    split at done
    · cases done
    · rename_i free
      rw [fieldIn, entryIn]
      cases found : object.lookup name with
      | none => rfl
      | some held =>
        cases held with
        | null => rfl
        | _ => simp [OrgJson.has, OrgJson.isNull, found] at free
  obtain ⟨own, member⟩ := hit
  dsimp only at own member
  cases load with
  | preKey | signedPreKey | session | trustedIdentity => cases own
  | localRegistered =>
    rw [Load.value, Load.value]
    rcases List.mem_pair.mp member with rfl | rfl
    · rw [missing]
      rfl
    · rw [missing, Option.isSome_none, Bool.and_false]
      rfl
  | localUsername | identityKeyPair | localRegistrationId | signalingKey | signalResetVersion =>
    cases List.mem_singleton.mp member
    rw [Load.value, Load.value, missing]
    rfl

theorem storesDefault_or_missing (done : (mutation.put p).edit object = some edited)
    (same : ∀ load : Load, (mutation.put p).Names load → load.value p (.ok []) = load.value p (.ok edited)) :
    mutation.StoresDefault ∨ ∀ load : Load, (mutation.put p).Names load → load.value p (.ok []) = load.value p (.ok object) := by
  have stored : edited.lookup (mutation.put p).key = some (mutation.put p).value := by
    rw [Put.edit_eq done, lookup_put_self]
  cases mutation with
  | storePreKey preKeyId record =>
    have answer := same (.preKey preKeyId) ⟨rfl, List.mem_singleton_self _⟩
    rw [Mutation.put] at stored
    rw [Load.value, Load.value, entryIn, entryIn, stored] at answer
    cases answer.trans (p.texts.preKey.decode_encode record)
  | storeSignedPreKey signedPreKeyId record =>
    have answer := same (.signedPreKey signedPreKeyId) ⟨rfl, List.mem_singleton_self _⟩
    rw [Mutation.put] at stored
    rw [Load.value, Load.value, entryIn, entryIn, stored] at answer
    cases answer.trans (p.texts.signedPreKey.decode_encode record)
  | storeSession address record =>
    have answer := same (.session address) ⟨rfl, List.mem_singleton_self _⟩
    rw [Mutation.put] at stored
    rw [Load.value, Load.value, entryIn, entryIn, stored] at answer
    cases answer.trans (p.texts.session.decode_encode record)
  | saveIdentity address identityKey =>
    -- any other key was trusted as long as there was no entry
    have answer := same (.trustedIdentity address ⟨0 :: identityKey.bytes⟩) ⟨rfl, List.mem_singleton_self _⟩
    rw [Mutation.put] at stored
    rw [Load.value, Load.value, trustIn, trustIn, stored] at answer
    rw [Option.all_some, holdsIdentity_saved] at answer
    have equal := of_decide_eq_true answer.symm
    exact absurd (congrArg (fun key => key.bytes.length) equal) (by simp)
  | storeSignalingKey signalingKey =>
    have answer := same .signalingKey ⟨rfl, List.mem_singleton_self _⟩
    rw [Mutation.put] at stored
    rw [Load.value, Load.value, fieldIn, fieldIn, entryIn, entryIn, stored] at answer
    cases answer
  | storeSignalResetVersion version =>
    have answer := same .signalResetVersion ⟨rfl, List.mem_singleton_self _⟩
    rw [Mutation.put] at stored
    rw [Load.value, Load.value, fieldIn, fieldIn, entryIn, entryIn, stored] at answer
    exact .inl answer.symm
  | storeLocalUsername | storeIdentityKeyPair | storeLocalRegistrationId =>
    exact .inr fun load hit => value_of_missing done hit

theorem value_of_storesDefault (default : mutation.StoresDefault) (done : (mutation.put p).edit object = some edited)
    {load : Load} (hit : (mutation.put p).Names load) : load.value p (.ok []) = load.value p (.ok edited) := by
  cases mutation with
  | storeSignalResetVersion version =>
    have zero : toInt version = 0 := default
    have stored : edited.lookup "signalResetVersion" = some (.num version) := by
      rw [Put.edit_eq done]
      exact lookup_put_self ..
    obtain ⟨own, member⟩ := hit
    cases load with
    | preKey | signedPreKey | session | trustedIdentity => cases own
    | signalResetVersion =>
      rw [Load.value, Load.value, fieldIn, fieldIn, entryIn, entryIn, stored]
      exact zero.symm
    | localUsername | identityKeyPair | localRegistrationId | signalingKey | localRegistered =>
      simp [Mutation.put, Load.keys] at member
  | _ => exact default.elim

theorem expendable_iff_reading (held : readObject p (mutation.put p).file files = .ok object)
    (done : (mutation.put p).edit object = some edited) :
    Expendable p mutation files ↔ KeptReading p (mutation.put p) (.ok object) (.ok []) (.ok edited) := by
  have answers : ∀ load : Load, load.file = (mutation.put p).file →
      (load.answer p files = load.answer p noFiles ↔ load.value p (.ok []) = load.value p (.ok object)) := by
    intro load own
    rw [Load.answer_eq, Load.answer_noFiles, own, held]
    exact eq_comm
  constructor
  · rintro ⟨others, named⟩
    constructor
    · intro load own free
      exact (answers load own).mp (others load own free)
    · rcases named with same | default
      · exact .inl fun load hit => (answers load hit.1).mp (same load hit)
      · exact .inr fun load hit => value_of_storesDefault default done hit
  · rintro ⟨others, named⟩
    have missing : mutation.StoresDefault ∨
        ∀ load : Load, (mutation.put p).Names load → load.value p (.ok []) = load.value p (.ok object) := by
      rcases named with same | same
      · exact .inr same
      · exact storesDefault_or_missing done same
    constructor
    · intro load own free
      exact (answers load own).mpr (others load own free)
    · rcases missing with default | same
      · exact .inr default
      · exact .inl fun load hit => (answers load hit.1).mpr (same load hit)

theorem KeptReading.congr {put : Put} {old new other intended : Except Thrown JSONObject}
    (kept : KeptReading p put old new intended)
    (same : ∀ load : Load, load.file = put.file → load.value p other = load.value p new) :
    KeptReading p put old other intended := by
  refine ⟨fun load own free => ?_, kept.named.imp (fun held load hit => ?_) fun held load hit => ?_⟩
  · exact (same load own).trans (kept.others load own free)
  · exact (same load hit.1).trans (held load hit)
  · exact (same load hit.1).trans (held load hit)

theorem KeptReading.error_iff {put : Put} {old intended : Except Thrown JSONObject}
    (stored : put.file ≠ IDENTITES_JSON_FILENAME) (e : Thrown) :
    KeptReading p put old (.error e) intended ↔ KeptReading p put old (.ok []) intended := by
  have blank : ∀ load : Load, load.file = put.file → load.value p (.error e) = load.value p (.ok []) := by
    intro load own
    exact load.value_error (by rw [own]; exact stored) e
  exact ⟨fun kept => kept.congr fun load own => (blank load own).symm, fun kept => kept.congr blank⟩

theorem kept_iff_safe_single (single : mutation.replaces p files = false)
    (rejects : ∀ text ∈ (mutation.put p).text p files, Rejects p text) : MutationKept p mutation files ↔ Safe p mutation files := by
  rw [kept_iff_reading, Safe, single]
  simp only [Bool.false_eq_true, if_false]
  cases written : (mutation.put p).text p files with
  | none =>
    rw [mutation.run_unwritten single written]
    exact iff_of_true .of_old (by simp)
  | some text =>
    obtain ⟨object, edited, held, done, rfl⟩ := exists_of_text written
    by_cases writable : Writable p (mutation.put p).file files
    · have stored : readObject p (mutation.put p).file (mutation.run p (undisturbed files)) = .ok edited := by
        have calm : mutation.replaces p (undisturbed files) = false := single
        have same : readObject p (mutation.put p).file (undisturbed files) = .ok object := held
        rw [Mutation.run_written calm same done]
        exact @readObject_writeObject_left p (undisturbed files) _ writable edited
      have reading := readObject_writeObject_left writable edited
      have blank := expendable_iff_reading held done
      rw [Mutation.run_written single held done, reading, stored, held]
      simp only [Option.mem_some, forall_eq', forall_prop_of_true writable]
      rcases readingLeft_cases (rejects _ written) (.ok object) (files.outcomes ((mutation.put p).file.path p)).head? with
        ⟨complete, _, left⟩ | ⟨shut, left⟩ | ⟨cut, start, left⟩ | ⟨cut, further, _, e, left⟩
      · rw [left]
        exact iff_of_true (.of_edited done) (.inl complete)
      · rw [left]
        exact iff_of_true .of_old (.inl (by rw [shut]; simp [Complete]))
      · rw [left, ← blank, start]
        rw [start] at cut
        simp [cut]
      · rw [left]
        by_cases identities : (mutation.put p).file = IDENTITES_JSON_FILENAME
        · refine iff_of_false (not_kept_of_unreadable identities) ?_
          rintro (complete | ⟨_, start⟩)
          · exact cut complete
          · exact further (start identities)
        · rw [KeptReading.error_iff identities, ← blank]
          simp [cut, identities]
    · have closed := readObject_writeObject_unwritable writable edited
      rw [Mutation.run_written single held done, closed]
      exact iff_of_true .of_old fun opened => absurd opened writable

theorem not_kept_of_gone {address : SignalProtocolAddress} {record : SessionRecord} {new : Except Thrown JSONObject}
    (present : ((Load.session address).value p (.ok object)).isSome)
    (gone : (Load.session address).value p new = none) :
    ¬ KeptReading p ((Mutation.storeSession address record).put p) (.ok object) new
      (.ok (put (addressText address) (.str (p.texts.session.encode record)) object)) := by
  rintro ⟨_, named⟩
  have hit : ((Mutation.storeSession address record).put p).Names (.session address) := ⟨rfl, List.mem_singleton_self _⟩
  rcases named with same | same
  · rw [← same _ hit, gone] at present
    cases present
  · have stored := same _ hit
    rw [gone, Load.value, entryIn, lookup_put_self, Option.bind_some] at stored
    cases stored.trans (p.texts.session.decode_encode record)

theorem text_storeSession {address : SignalProtocolAddress} {record : SessionRecord}
    (held : readObject p SESSIONS_JSON_FILENAME files = .ok object) :
    ((Mutation.storeSession address record).put p).text p files =
      some (p.json.print (.obj (put (addressText address) (.str (p.texts.session.encode record)) object))) := by
  rw [Put.text, Mutation.put]
  dsimp only
  rw [held]
  rfl

theorem texts_replacing {address : SignalProtocolAddress} {record : SessionRecord}
    (replaced : containsSession p address files = true)
    (held : readObject p SESSIONS_JSON_FILENAME files = .ok object) :
    (Mutation.storeSession address record).texts p files =
      [p.json.print (.obj (erase (addressText address) object)),
        p.json.print (.obj (put (addressText address) (.str (p.texts.session.encode record)) object))] := by
  rw [Mutation.texts, text_storeSession held, Mutation.put]
  dsimp only
  rw [held, Mutation.replaces, replaced]
  rfl

theorem present_of_containsSession {address : SignalProtocolAddress}
    (contained : containsSession p address files = true)
    (held : readObject p SESSIONS_JSON_FILENAME files = .ok object) :
    ((Load.session address).value p (.ok object)).isSome = true := by
  have loaded : (loadSession p address files).isSome = true := contained
  rw [loadSession, loadRecord_eq, entry, held] at loaded
  exact loaded

theorem kept_iff_safe_replacing {address : SignalProtocolAddress} {record : SessionRecord}
    (replaced : containsSession p address files = true)
    (rejects : ∀ text ∈ (Mutation.storeSession address record).texts p files, Rejects p text) :
    MutationKept p (.storeSession address record) files ↔ Safe p (.storeSession address record) files := by
  obtain ⟨object, held, _, writable, runs⟩ := @run_replacing p files address record replaced
  obtain ⟨same, parsed, _, _, calm⟩ := @run_replacing p (undisturbed files) address record replaced
  have unchanged : same = object := Except.ok.inj (parsed.symm.trans held)
  subst unchanged
  have text := @text_storeSession p files same address record held
  have present := present_of_containsSession replaced held
  rw [texts_replacing replaced held] at rejects
  have first := rejects _ List.mem_cons_self
  have second := rejects _ (List.mem_cons_of_mem _ List.mem_cons_self)
  have stored : readObject p SESSIONS_JSON_FILENAME (storeSession p address record (undisturbed files)) =
      .ok (put (addressText address) (.str (p.texts.session.encode record)) same) := by
    rw [calm]
    exact @readObject_written_twice p (undisturbed files) _ writable _ _
  have reading := readObject_written_twice writable (erase (addressText address) same)
    (put (addressText address) (.str (p.texts.session.encode record)) same)
  have erased : (Load.session address).value p (.ok (erase (addressText address) same)) = none := by
    rw [Load.value, entryIn, lookup_erase, if_pos rfl]
    rfl
  rw [← runs, held] at reading
  have kept := @kept_iff_reading p (.storeSession address record) files
  rw [Mutation.run, Mutation.put] at kept
  dsimp only at kept
  rw [stored, reading, held] at kept
  rw [kept, Safe, text, Mutation.replaces, replaced, Mutation.put]
  simp only [Option.mem_some, forall_eq', forall_prop_of_true writable, if_true]
  generalize (files.outcomes (SESSIONS_JSON_FILENAME.path p)).head? = before
  generalize (files.outcomes (SESSIONS_JSON_FILENAME.path p)).tail.head? = last
  have unkept := fun {new} => @not_kept_of_gone p same address record new present
  rcases readingLeft_cases second (readingLeft p (erase (addressText address) same) (.ok same) before) last with
    ⟨complete, opened, left⟩ | ⟨shut, left⟩ | ⟨cut, start, left⟩ | ⟨cut, _, opened, e, left⟩
  · rw [left]
    exact iff_of_true (.of_edited rfl) (.inl ⟨complete, opened⟩)
  · -- what the first write left is what stays
    rw [left, shut]
    rcases readingLeft_cases first (.ok same) before with
      ⟨_, opened, left⟩ | ⟨neither, left⟩ | ⟨_, start, left⟩ | ⟨_, _, opened, e, left⟩
    · rw [left]
      exact iff_of_false (unkept erased) (by simp [opened])
    · rw [left, neither]
      exact iff_of_true .of_old (by simp)
    · rw [left, start]
      exact iff_of_false (unkept rfl) (by simp)
    · rw [left]
      exact iff_of_false (unkept rfl) (by simp [opened])
  · subst start
    rw [left]
    exact iff_of_false (unkept rfl) (by simp [cut])
  · rw [left]
    exact iff_of_false (unkept rfl) (by simp [cut, opened])

theorem kept_iff_safe (mutation : Mutation) (files : Files)
    (rejects : ∀ text ∈ mutation.texts p files, Rejects p text) : MutationKept p mutation files ↔ Safe p mutation files := by
  by_cases replaced : mutation.replaces p files = true
  · cases mutation with
    | storeSession address record => exact kept_iff_safe_replacing replaced rejects
    | _ => cases replaced
  · refine kept_iff_safe_single (Bool.eq_false_iff.mpr replaced) fun text member => rejects text ?_
    obtain ⟨object, _, held, _⟩ := exists_of_text member
    rw [Mutation.texts, held]
    exact List.mem_append_right _ (Option.mem_toList.mpr member)

end Outcomes

end PillarSignal.Android.ProtocolStorage
