import PillarSignal.Android.ProtocolFiles

namespace PillarSignal.Android.ProtocolStorage

open Storage StorageFile

variable {p : Platform} {files before after : Files} {data : JSONObject}

inductive SignedOperation where
  | storeSignedPreKey (signedPreKeyId : Int) (record : SignedPreKeyRecord)
  | removeSignedPreKey (signedPreKeyId : Int)
  | storeSession (address : SignalProtocolAddress) (record : SessionRecord)
  | deleteAllSessions (name : String)
deriving DecidableEq

abbrev SignedPreKeys := Finmap fun _ : Int => SignedPreKeyRecord

namespace SignedOperation

def run (p : Platform) : SignedOperation → Files → Files
  | storeSignedPreKey signedPreKeyId record => ProtocolStorage.storeSignedPreKey p signedPreKeyId record
  | removeSignedPreKey signedPreKeyId => ProtocolStorage.removeSignedPreKey p signedPreKeyId
  | storeSession address record => ProtocolStorage.storeSession p address record
  | deleteAllSessions name => ProtocolStorage.deleteAllSessions name

def runs (p : Platform) (operations : List SignedOperation) (files : Files) : Files :=
  operations.foldl (fun files operation => operation.run p files) files

def apply : SignedOperation → SignedPreKeys → SignedPreKeys
  | storeSignedPreKey signedPreKeyId record, held => held.insert signedPreKeyId record
  | removeSignedPreKey signedPreKeyId, held => held.erase signedPreKeyId
  | storeSession _ _, held | deleteAllSessions _, held => held

def applies (operations : List SignedOperation) (held : SignedPreKeys) : SignedPreKeys :=
  operations.foldl (fun held operation => operation.apply held) held

/-- What the operation is for, as far as the sessions go. -/
def Spares (p : Platform) (before after : Files) : SignedOperation → Prop
  | removeSignedPreKey _ => ∀ address, loadSession p address after = loadSession p address before
  | deleteAllSessions name => ∀ address,
      containsSession p address after = (containsSession p address before && decide (address.name ≠ name))
  | storeSignedPreKey _ _ | storeSession _ _ => True

def Idle (p : Platform) (files : Files) : SignedOperation → Prop
  | removeSignedPreKey signedPreKeyId => containsSignedPreKey p signedPreKeyId files = false
  | deleteAllSessions name => ∀ address, address.name = name → containsSession p address files = false
  | storeSignedPreKey _ _ | storeSession _ _ => True

end SignedOperation

structure AnswersAs (p : Platform) (files : Files) (held : SignedPreKeys) : Prop where
  one : ∀ signedPreKeyId, loadSignedPreKey p signedPreKeyId files = held.lookup signedPreKeyId
  all : (loadSignedPreKeys p files : Multiset SignedPreKeyRecord) = held.entries.map Sigma.snd

def signedPreKeyOf (p : Platform) : Json → Option SignedPreKeyRecord
  | .str text => p.texts.signedPreKey.decode text
  | _ => none

theorem signedPreKeysOf_rows {rows : List (Int × SignedPreKeyRecord)} (coded : Codes valueOf (signedPreKeyOf p) rows data) :
    signedPreKeysOf p data = rows.map Prod.snd := by
  induction coded with
  | nil => rfl
  | @cons row member rows data head _ ih =>
    obtain ⟨name, value⟩ := member
    obtain ⟨_, decodes⟩ := head
    cases value with
    | str text =>
      rw [signedPreKeyOf] at decodes
      rw [signedPreKeysOf, decodes]
      dsimp only
      rw [ih, List.map_cons]
    | _ => cases decodes

theorem lookup_rows {rows : List (Int × SignedPreKeyRecord)} (coded : Codes valueOf (signedPreKeyOf p) rows data)
    (signedPreKeyId : Int) :
    ((data.lookup (valueOf signedPreKeyId)).bind fun value => p.texts.signedPreKey.decode (p.json.toText value)) =
      rows.lookup signedPreKeyId := by
  have read : Codes valueOf (fun value => p.texts.signedPreKey.decode (p.json.toText value)) rows data := by
    apply List.Forall₂.imp _ coded
    rintro row ⟨name, value⟩ ⟨named, decodes⟩
    cases value with
    | str text => exact ⟨named, decodes⟩
    | _ => cases decodes
  exact (read.lookup fun row _ same => valueOf_injective same).1

/-- The file of the signed pre keys holds encoded records, one for each id. -/
structure Recorded (p : Platform) (files : Files) (held : SignedPreKeys) : Prop where
  ready : Ready p files
  rows : ∃ rows data, readObject p SIGNED_PRE_KEYS_JSON_FILENAME files = .ok data ∧
    Codes valueOf (signedPreKeyOf p) rows data ∧
    (rows.map Prod.fst).Nodup ∧ ∀ signedPreKeyId, held.lookup signedPreKeyId = rows.lookup signedPreKeyId

theorem loadSignedPreKeys_eq (held : readObject p SIGNED_PRE_KEYS_JSON_FILENAME files = .ok data) :
    loadSignedPreKeys p files = signedPreKeysOf p data := by
  rw [readObject] at held
  rw [loadSignedPreKeys]
  split at held
  · rw [newJSONObject_nothing] at held
    cases held
    rfl
  · rw [newJSONObject_nothing] at held
    cases held
    rfl
  · simp only [held]

theorem Recorded.answersAs {held : SignedPreKeys} (recorded : Recorded p files held) : AnswersAs p files held := by
  obtain ⟨_, rows, data, parsed, coded, distinct, reads⟩ := recorded
  refine ⟨fun signedPreKeyId => ?_, ?_⟩
  · rw [loadSignedPreKey, loadRecord_eq, entry, parsed, reads]
    exact lookup_rows coded signedPreKeyId
  · rw [loadSignedPreKeys_eq parsed, signedPreKeysOf_rows coded, values_of_lookup distinct reads]

theorem valueOf_ne_addressText (value : Int) (address : SignalProtocolAddress) : valueOf value ≠ addressText address := by
  intro same
  have texts := congrArg String.toList same
  simp only [addressText, valueOf, Decimal.toText, String.toList_append, String.toList_ofList] at texts
  have colon : ':' ∈ Decimal.intText value := by
    rw [texts]
    simp
  exact Decimal.not_mem_intText (by decide) value colon

theorem framed_signed (operation : SignedOperation) (files : Files) : Framed p files (operation.run p files) := by
  cases operation with
  | storeSignedPreKey signedPreKeyId record =>
    exact (Updates.refl.storeRecord p.texts.signedPreKey (valueOf signedPreKeyId) record).framed
  | removeSignedPreKey signedPreKeyId => exact framed_removeKey ..
  | storeSession address record => exact framed_storeSession ..
  | deleteAllSessions name => exact .refl files

theorem Recorded.congr {held : SignedPreKeys} (recorded : Recorded p before held) (framed : Framed p before after)
    (same : readObject p SIGNED_PRE_KEYS_JSON_FILENAME after = readObject p SIGNED_PRE_KEYS_JSON_FILENAME before) :
    Recorded p after held := by
  obtain ⟨ready, rows, data, parsed, others⟩ := recorded
  exact ⟨framed.ready ready, rows, data, same.trans parsed, others⟩

theorem Recorded.storeSignedPreKey {held : SignedPreKeys} (recorded : Recorded p files held) (signedPreKeyId : Int)
    (record : SignedPreKeyRecord) :
    Recorded p (storeSignedPreKey p signedPreKeyId record files) (held.insert signedPreKeyId record) := by
  obtain ⟨ready, rows, data, parsed, coded, distinct, reads⟩ := recorded
  have written : readObject p SIGNED_PRE_KEYS_JSON_FILENAME (ProtocolStorage.storeSignedPreKey p signedPreKeyId record files) =
      .ok (put (valueOf signedPreKeyId) (.str (p.texts.signedPreKey.encode record)) data) := by
    rw [ProtocolStorage.storeSignedPreKey, storeRecord, readObject_updateObject ready, if_pos rfl, parsed]
    rfl
  have decodes : signedPreKeyOf p (.str (p.texts.signedPreKey.encode record)) = some record :=
    p.texts.signedPreKey.decode_encode record
  have recoded := coded.put (fun row _ (same : valueOf row.1 = valueOf signedPreKeyId) => valueOf_injective same) decodes
  refine ⟨(framed_signed (.storeSignedPreKey signedPreKeyId record) files).ready ready, _, _, written, recoded,
    nodup_keys_put distinct signedPreKeyId record, fun other => ?_⟩
  have assigned := lookup_assign signedPreKeyId other (some record) held
  rw [assign] at assigned
  rw [assigned, lookup_put, reads]

theorem erase_of_absent {held : SignedPreKeys} {signedPreKeyId : Int} (absent : held.lookup signedPreKeyId = none) :
    held.erase signedPreKeyId = held := by
  apply Finmap.ext_lookup
  intro other
  have assigned := lookup_assign signedPreKeyId other none held
  rw [assign] at assigned
  rw [assigned]
  split
  · rename_i same
    rw [← same, absent]
  · rfl

theorem Recorded.run {held : SignedPreKeys} (recorded : Recorded p files held) {operation : SignedOperation}
    (idle : operation.Idle p files) : Recorded p (operation.run p files) (operation.apply held) := by
  have framed := @framed_signed p operation files
  cases operation with
  | storeSignedPreKey signedPreKeyId record => exact recorded.storeSignedPreKey signedPreKeyId record
  | removeSignedPreKey signedPreKeyId =>
    have absent : held.lookup signedPreKeyId = none := by
      rw [← recorded.answersAs.one]
      exact Option.not_isSome_iff_eq_none.mp (Bool.eq_false_iff.mp idle)
    rw [SignedOperation.apply, erase_of_absent absent]
    exact recorded.congr framed (readObject_updateObject_of_ne (by decide) ..)
  | storeSession address record => exact recorded.congr framed (readObject_storeSession_of_ne (by decide) ..)
  | deleteAllSessions name => exact recorded

theorem Recorded.runs {held : SignedPreKeys} (recorded : Recorded p files held) {operations : List SignedOperation}
    (idle : ∀ front operation, front ++ [operation] <+: operations → operation.Idle p (SignedOperation.runs p front files)) :
    Recorded p (SignedOperation.runs p operations files) (SignedOperation.applies operations held) := by
  induction operations generalizing files held with
  | nil => exact recorded
  | cons operation later ih =>
    have first : operation.Idle p files := idle [] operation (List.prefix_append [operation] later)
    apply ih (recorded.run first)
    intro front other below
    exact idle (operation :: front) other (List.cons_prefix_cons.mpr ⟨rfl, below⟩)

theorem loadSession_removeSignedPreKey (ready : Ready p files) (signedPreKeyId : Int) (address : SignalProtocolAddress) :
    loadSession p address (removeSignedPreKey p signedPreKeyId files) = loadSession p address files := by
  rw [loadSession, loadRecord_eq, loadRecord_eq, removeSignedPreKey, entry_removeKey ready,
    if_neg fun both => valueOf_ne_addressText _ _ both.2]

theorem spares_of_idle (ready : Ready p files) {operation : SignedOperation} (idle : operation.Idle p files) :
    operation.Spares p files (operation.run p files) := by
  cases operation with
  | storeSignedPreKey signedPreKeyId record => exact True.intro
  | removeSignedPreKey signedPreKeyId => exact loadSession_removeSignedPreKey ready signedPreKeyId
  | storeSession address record => exact True.intro
  | deleteAllSessions name =>
    intro address
    rw [SignedOperation.run, deleteAllSessions]
    by_cases named : address.name = name
    · simp [idle address named]
    · simp [named]

theorem idle_of_laws {operation : SignedOperation} {held : SignedPreKeys}
    (answers : AnswersAs p (operation.run p files) (operation.apply held))
    (spares : operation.Spares p files (operation.run p files)) : operation.Idle p files := by
  cases operation with
  | storeSignedPreKey signedPreKeyId record => exact True.intro
  | removeSignedPreKey signedPreKeyId =>
    have kept : loadSignedPreKey p signedPreKeyId (removeSignedPreKey p signedPreKeyId files) =
        loadSignedPreKey p signedPreKeyId files := by
      have same : readObject p SIGNED_PRE_KEYS_JSON_FILENAME (removeSignedPreKey p signedPreKeyId files) =
          readObject p SIGNED_PRE_KEYS_JSON_FILENAME files := readObject_updateObject_of_ne (by decide) ..
      rw [loadSignedPreKey, loadRecord_eq, loadRecord_eq, entry_congr same]
    have removed := answers.one signedPreKeyId
    rw [SignedOperation.apply, Finmap.lookup_erase] at removed
    rw [SignedOperation.Idle, containsSignedPreKey, ← kept]
    exact congrArg Option.isSome removed
  | storeSession address record => exact True.intro
  | deleteAllSessions name =>
    intro address named
    have law := spares address
    rw [SignedOperation.run, deleteAllSessions] at law
    simpa [named] using law

/-- Every call of a run does what it is for exactly when the removals among them never have anything to remove. -/
theorem signed_pre_keys_kept_iff (p : Platform) (files : Files) (held : SignedPreKeys)
    (operations : List SignedOperation) (start : Recorded p files held) :
    (∀ front operation, front ++ [operation] <+: operations →
      let reached := SignedOperation.runs p front files
      AnswersAs p (operation.run p reached) (operation.apply (SignedOperation.applies front held)) ∧
        operation.Spares p reached (operation.run p reached)) ↔
    ∀ front operation, front ++ [operation] <+: operations → operation.Idle p (SignedOperation.runs p front files) := by
  constructor
  · intro laws front operation below
    obtain ⟨answers, spares⟩ := laws front operation below
    exact idle_of_laws answers spares
  · intro idle front operation below
    have reached : Recorded p (SignedOperation.runs p front files) (SignedOperation.applies front held) := by
      apply start.runs
      intro shorter other prior
      exact idle shorter other (prior.trans ((List.prefix_append front [operation]).trans below))
    have now := idle front operation below
    exact ⟨(reached.run now).answersAs, spares_of_idle reached.ready now⟩

section Empty

theorem noFiles_recorded : Recorded .plain noFiles ∅ :=
  ⟨noFiles_ready, [], [], noFiles_empty _, .nil, List.nodup_nil, fun _ => Finmap.lookup_empty _⟩

def signedRecord (signature : Bytes) : SignedPreKeyRecord := ⟨0, ⟨⟨[1]⟩, [2]⟩, signature⟩

def rotation : List SignedOperation :=
  [.storeSignedPreKey 0 (signedRecord [1]), .storeSignedPreKey 0 (signedRecord [2]), .removeSignedPreKey 1]

theorem rotation_idle : ∀ front operation, front ++ [operation] <+: rotation →
    operation.Idle .plain (SignedOperation.runs .plain front noFiles) := by
  intro front operation below
  rcases front with _ | ⟨first, _ | ⟨second, _ | ⟨third, later⟩⟩⟩
  · simp only [rotation, List.nil_append, List.cons_prefix_cons] at below
    rw [below.1]
    exact True.intro
  · simp only [rotation, List.cons_append, List.nil_append, List.cons_prefix_cons] at below
    rw [below.2.1]
    exact True.intro
  · simp only [rotation, List.cons_append, List.nil_append, List.cons_prefix_cons] at below
    rw [below.1, below.2.1, below.2.2.1, SignedOperation.Idle]
    decide +kernel
  · simp [rotation, List.cons_prefix_cons] at below

theorem rotation_is_kept :
    (loadSignedPreKeys .plain (SignedOperation.runs .plain rotation noFiles) : Multiset SignedPreKeyRecord) =
      (SignedOperation.applies rotation ∅).entries.map Sigma.snd := by
  have laws := (signed_pre_keys_kept_iff .plain noFiles ∅ rotation noFiles_recorded).mpr rotation_idle
  exact (laws (rotation.take 2) (.removeSignedPreKey 1) List.prefix_rfl).1.all

/-- A removed record is still there, and so is a session of a name whose sessions were all deleted. -/
theorem removals_are_lost :
    loadSignedPreKey .plain 0
        (removeSignedPreKey .plain 0 (storeSignedPreKey .plain 0 (signedRecord [1]) noFiles)) = some (signedRecord [1]) ∧
      containsSession .plain ⟨"bob", 1⟩
        (deleteAllSessions "bob" (storeSession .plain ⟨"bob", 1⟩ ⟨[1]⟩ noFiles)) = true := by
  decide +kernel

end Empty

end PillarSignal.Android.ProtocolStorage
