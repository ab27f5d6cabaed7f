import PillarSignal.Android.ProtocolStorage

namespace PillarSignal.Android.ProtocolStorage

open Storage StorageFile

variable {p : Platform}

theorem StorageFile.component (file : StorageFile) : Component file.fileName := by
  cases file <;> decide

theorem StorageFile.fileName_injective : Function.Injective StorageFile.fileName := by
  intro a b same
  cases a <;> cases b <;> first | rfl | exact absurd same (by decide)

def StorageFile.path (p : Platform) (file : StorageFile) : Path := file.fileName :: directory p

theorem StorageFile.path_inj {file other : StorageFile} : file.path p = other.path p ↔ file = other := by
  constructor
  · intro same
    exact fileName_injective (List.cons.inj same).1
  · rintro rfl
    rfl

theorem signal_component : Component "signal" := by decide

theorem directory_names : ∀ name ∈ ["signal"], Component name := by simp [signal_component]

theorem file_names (file : StorageFile) : ∀ name ∈ ["signal", file.fileName], Component name := by
  simp [signal_component, file.component]

theorem readFromStorage_eq (file : StorageFile) (files : Files) :
    readFromStorage p file files = (files.tree.contents (file.path p)).map joinLines := by
  rw [readFromStorage, files.tree.readFile_eq (file_names file)]
  rfl

theorem directory_of_contents {file : StorageFile} {files : Files} (stored : files.tree.contents (file.path p) ≠ none) :
    files.tree.stat (directory p) = some .dir := by
  obtain ⟨data, held⟩ := Option.ne_none_iff_exists'.mp stored
  have present : (files.tree.stat (file.path p)).isSome := by
    rw [(files.tree.contents_eq_some _ _).mp held]
    rfl
  exact files.tree.stat_parent present

/-- What the protocol storage may do to a path: nothing, make a directory on the way to
    its files, or write one of them. -/
def Change (p : Platform) (path : Path) (before after : Option (Node (List Char))) : Prop :=
  after = before ∨ (before = none ∧ after = some .dir ∧ path <:+ directory p) ∨
    ∃ (file : StorageFile) (data : List Char), path = file.path p ∧ before ≠ some .dir ∧ after = some (.file data)

theorem Change.trans {path : Path} {a b c : Option (Node (List Char))} (first : Change p path a b)
    (second : Change p path b c) : Change p path a c := by
  rcases first with rfl | ⟨rfl, rfl, below⟩ | ⟨file, data, place, leaf, rfl⟩
  · exact second
  · rcases second with rfl | ⟨absent, _⟩ | ⟨_, _, _, leaf, _⟩
    · exact .inr (.inl ⟨rfl, rfl, below⟩)
    · cases absent
    · exact absurd rfl leaf
  · rcases second with rfl | ⟨absent, _⟩ | ⟨_, later, _, _, rfl⟩
    · exact .inr (.inr ⟨file, data, place, leaf, rfl⟩)
    · cases absent
    · exact .inr (.inr ⟨file, later, place, leaf, rfl⟩)

structure Framed (p : Platform) (before after : Files) : Prop where
  stat : ∀ path, Change p path (before.tree.stat path) (after.tree.stat path)
  outcomes : ∀ path, after.outcomes path <:+ before.outcomes path
  others : ∀ path, (∀ file : StorageFile, path ≠ file.path p) → after.outcomes path = before.outcomes path

theorem Framed.refl (files : Files) : Framed p files files :=
  ⟨fun _ => .inl rfl, fun _ => List.suffix_rfl, fun _ _ => rfl⟩

theorem Framed.trans {a b c : Files} (first : Framed p a b) (second : Framed p b c) : Framed p a c where
  stat path := (first.stat path).trans (second.stat path)
  outcomes path := (second.outcomes path).trans (first.outcomes path)
  others path other := (second.others path other).trans (first.others path other)

theorem Framed.stat_eq {before after : Files} (framed : Framed p before after) {path : Path}
    (outside : ¬ path <:+ directory p) (other : ∀ file : StorageFile, path ≠ file.path p) :
    after.tree.stat path = before.tree.stat path := by
  rcases framed.stat path with same | ⟨_, _, below⟩ | ⟨file, _, place, _⟩
  · exact same
  · exact absurd below outside
  · exact absurd place (other file)

theorem mkdirs_change (t : FileTree (List Char)) (path : Path) :
    Change p path (t.stat path) ((t.mkdirs (directory p)).stat path) := by
  cases held : t.stat path with
  | some node =>
    rw [t.stat_mkdirs_of_isSome _ _ (by rw [held]; rfl), held]
    exact .inl rfl
  | none =>
    by_cases below : path <:+ directory p
    · cases after : (t.mkdirs (directory p)).stat path with
      | none => exact .inl rfl
      | some node =>
        cases node with
        | dir => exact .inr (.inl ⟨rfl, rfl, below⟩)
        | file data =>
          rw [t.stat_mkdirs_file, held] at after
          cases after
    · rw [t.stat_mkdirs_of_not_suffix below, held]
      exact .inl rfl

theorem write_change (t : FileTree (List Char)) (file : StorageFile) (data : List Char) (path : Path) :
    Change p path (t.stat path) ((t.write (file.path p) data).stat path) := by
  by_cases place : file.path p = path
  · subst place
    unfold StorageFile.path
    rw [FileTree.write]
    split
    · rename_i opened
      rw [FileTree.stat_add, if_pos rfl]
      exact .inr (.inr ⟨file, data, rfl, opened.2, rfl⟩)
    · exact .inl rfl
  · rw [t.stat_write_of_ne data place]
    exact .inl rfl

theorem framed_write (files : Files) (file : StorageFile) (data : List Char) :
    Framed p files (files.write (file.path p) data) := by
  unfold Disk.write
  split
  · exact ⟨write_change files.tree file data, fun _ => List.suffix_rfl, fun _ _ => rfl⟩
  · rename_i outcome rest queued
    refine ⟨fun path => ?_, fun path => ?_, fun path other => ?_⟩
    · cases outcome with
      | written => exact write_change files.tree file data path
      | notOpened => exact .inl rfl
      | stopped after => exact write_change files.tree file (data.take after) path
    · dsimp only
      by_cases same : path = file.path p
      · rw [same, Function.update_self, queued]
        exact List.suffix_cons outcome rest
      · rw [Function.update_of_ne same]
    · exact Function.update_of_ne (other file) ..

theorem framed_makeDirs (files : Files) :
    Framed p files { files with tree := files.tree.makeDirs p.filesDir ["signal"] } := by
  refine ⟨fun path => ?_, fun _ => List.suffix_rfl, fun _ _ => rfl⟩
  dsimp only
  unfold FileTree.makeDirs
  split
  · exact .inl rfl
  · rw [FileTree.foldl_walk directory_names]
    exact mkdirs_change files.tree path

theorem resolve_eq {t : FileTree (List Char)} {file : StorageFile} {path : Path}
    (found : t.resolve p.filesDir ["signal", file.fileName] = some path) : path = file.path p := by
  simp only [FileTree.resolve, signal_component.walk, file.component.walk] at found
  split at found
  · split at found
    · exact (Option.some.inj found).symm
    · cases found
  · cases found

theorem framed_writeToStorageFile (file : StorageFile) (data : List Char) (files : Files) :
    Framed p files (writeToStorageFile p file data files) := by
  unfold writeToStorageFile
  dsimp only
  split
  · rename_i path found
    rw [resolve_eq found]
    exact (framed_makeDirs files).trans (framed_write _ file data)
  · exact framed_makeDirs files

theorem framed_updateObject (file : StorageFile) (edit : JSONObject → Option JSONObject) (files : Files) :
    Framed p files (updateObject p file edit files) := by
  unfold updateObject
  split
  · exact .refl files
  · split
    · exact .refl files
    · exact framed_writeToStorageFile ..

theorem framed_saveIdentity (address : SignalProtocolAddress) (identityKey : PublicKey) (files : Files) :
    Framed p files (saveIdentity p address identityKey files) := framed_updateObject _ _ files

theorem framed_removeKey (file : StorageFile) (key : String) (files : Files) :
    Framed p files (removeKey p file key files) := framed_updateObject _ _ files

theorem framed_storeSession (address : SignalProtocolAddress) (record : SessionRecord) (files : Files) :
    Framed p files (storeSession p address record files) := by
  have cleared : Framed p files (if containsSession p address files then deleteSession p address files else files) := by
    split
    · exact framed_removeKey ..
    · exact .refl files
  unfold storeSession
  dsimp only
  split
  · exact cleared
  · exact cleared.trans (framed_writeToStorageFile ..)

/-- Nothing stands in the way of writing the protocol files, and no write fails. -/
structure Ready (p : Platform) (files : Files) : Prop where
  sound : files.Sound
  clear : files.tree.Clear (directory p)
  plain : ∀ file : StorageFile, files.tree.stat (file.path p) ≠ some .dir

theorem path_not_suffix (file : StorageFile) : ¬ file.path p <:+ directory p := FileTree.not_cons_suffix _ _

theorem Framed.sound {before after : Files} (framed : Framed p before after) (sound : before.Sound) : after.Sound :=
  fun path outcome member => sound path outcome ((framed.outcomes path).mem member)

theorem Framed.ready {before after : Files} (framed : Framed p before after) (ready : Ready p before) :
    Ready p after where
  sound := framed.sound ready.sound
  clear := by
    intro path below
    rcases framed.stat path with same | ⟨_, made, _⟩ | ⟨file, _, place, _⟩
    · rw [same]
      exact ready.clear path below
    · exact .inr made
    · exact absurd (place ▸ below) (path_not_suffix file)
  plain := by
    intro file dir
    rcases framed.stat (file.path p) with same | ⟨_, _, below⟩ | ⟨_, _, _, _, wrote⟩
    · exact ready.plain file (same ▸ dir)
    · exact path_not_suffix file below
    · rw [wrote] at dir
      cases dir

theorem contents_writeToStorageFile {files : Files} (ready : Ready p files) (file other : StorageFile)
    (data : List Char) : (writeToStorageFile p file data files).tree.contents (other.path p) =
      if file = other then some data else files.tree.contents (other.path p) := by
  have made := files.tree.stat_makeDirs directory_names p.filesDir ready.clear
  have opened := (framed_makeDirs files).ready ready
  have parent : (files.tree.makeDirs p.filesDir ["signal"]).stat (directory p) = some .dir := by
    rw [made]
    exact if_pos List.suffix_rfl
  have found : (files.tree.makeDirs p.filesDir ["signal"]).resolve p.filesDir ["signal", file.fileName] =
      some (file.path p) := @FileTree.resolve_of_dir _ _ ["signal"] file.fileName (file_names file) p.filesDir parent
  rw [writeToStorageFile]
  simp only [found]
  unfold FileTree.contents
  rw [(opened.sound.next _).write_tree, StorageFile.path]
  dsimp only
  rw [FileTree.stat_write _ data parent (opened.plain file), made]
  have outside : ¬ other.path p <:+ ["signal"].reverse ++ p.filesDir := path_not_suffix other
  rw [if_neg outside]
  by_cases same : file = other
  · subst same
    rw [if_pos rfl]
    exact congrArg (Option.bind · Node.data?) (if_pos rfl)
  · have apart : ¬ file.fileName :: directory p = other.path p := fun place => same (StorageFile.path_inj.mp place)
    rw [if_neg same, if_neg apart]

theorem newJSONObject_nothing : p.json.newJSONObject ['{', '}'] = .ok [] := by
  rw [OrgJson.newJSONObject, p.json.parse_no_members]

theorem newJSONObject_print (object : JSONObject) : p.json.newJSONObject (p.json.print (.obj object)) = .ok object := by
  rw [OrgJson.newJSONObject, p.json.parse_print]

def objectOf (p : Platform) : Option (List Char) → Except Thrown JSONObject
  | none | some [] => .ok []
  | some text => p.json.newJSONObject text

theorem readObject_eq (file : StorageFile) (files : Files) :
    readObject p file files = objectOf p ((files.tree.contents (file.path p)).map joinLines) := by
  rw [readObject, readFromStorage_eq]
  split <;> rename_i held <;> rw [held]
  · exact newJSONObject_nothing
  · exact newJSONObject_nothing
  · rename_i some_text
    rw [objectOf]
    exact some_text

theorem readObject_writeToStorageFile_of_ne {file other : StorageFile} (differs : file ≠ other) (data : List Char)
    (files : Files) : readObject p other (writeToStorageFile p file data files) = readObject p other files := by
  have kept : (writeToStorageFile p file data files).tree.contents (other.path p) =
      files.tree.contents (other.path p) := by
    unfold writeToStorageFile
    dsimp only
    split
    · rename_i path found
      have apart : path ≠ other.path p := by
        rw [resolve_eq found]
        exact fun same => differs (StorageFile.path_inj.mp same)
      unfold FileTree.contents
      rw [Disk.stat_write_of_ne _ data apart]
      exact files.tree.contents_makeDirs ..
    · exact files.tree.contents_makeDirs ..
  rw [readObject_eq, kept, readObject_eq]

theorem readObject_updateObject_of_ne {file other : StorageFile} (differs : file ≠ other)
    (edit : JSONObject → Option JSONObject) (files : Files) :
    readObject p other (updateObject p file edit files) = readObject p other files := by
  unfold updateObject
  split
  · rfl
  · split
    · rfl
    · exact readObject_writeToStorageFile_of_ne differs ..

inductive Updates (p : Platform) (file : StorageFile) (before : Files) : Files → Prop where
  | refl : Updates p file before before
  | step {after : Files} (edit : JSONObject → Option JSONObject) (updates : Updates p file before after) :
      Updates p file before (updateObject p file edit after)

theorem Updates.framed {file : StorageFile} {before after : Files} (updates : Updates p file before after) :
    Framed p before after := by
  induction updates with
  | refl => exact .refl before
  | step edit _ ih => exact ih.trans (framed_updateObject file edit _)

theorem Updates.readObject_of_ne {file other : StorageFile} {before after : Files}
    (updates : Updates p file before after) (differs : file ≠ other) :
    readObject p other after = readObject p other before := by
  induction updates with
  | refl => rfl
  | step edit _ ih => exact (readObject_updateObject_of_ne differs edit _).trans ih

theorem Updates.storeOnce {before after : Files} (updates : Updates p LOCAL_JSON_FILENAME before after) (name : String)
    (value : Json) : Updates p LOCAL_JSON_FILENAME before (storeOnce p name value after) := .step _ updates

theorem Updates.storeField {before after : Files} (updates : Updates p LOCAL_JSON_FILENAME before after) (name : String)
    (value : Json) : Updates p LOCAL_JSON_FILENAME before (storeField p name value after) := .step _ updates

theorem Updates.storeRecord {α : Type} {file : StorageFile} {before after : Files} (updates : Updates p file before after)
    (codec : TextCodec α) (key : String) (record : α) :
    Updates p file before (storeRecord p codec file key record after) := .step _ updates

theorem readObject_writeObject {files : Files} (ready : Ready p files) (file other : StorageFile)
    (object : JSONObject) : readObject p other (writeObject p file object files) =
      if file = other then .ok object else readObject p other files := by
  rw [readObject_eq, writeObject, contents_writeToStorageFile ready]
  split
  · rw [Option.map_some, joinLines_of_unbroken (p.json.print_unbroken _), objectOf, newJSONObject_print]
    exact p.json.print_ne_nil _
  · rw [readObject_eq]

theorem readObject_updateObject {files : Files} (ready : Ready p files) (file other : StorageFile)
    (edit : JSONObject → Option JSONObject) : readObject p other (updateObject p file edit files) =
      if file = other then (readObject p file files).map fun data => (edit data).getD data
      else readObject p other files := by
  unfold updateObject
  split
  · rename_i e held
    split
    · rename_i same
      rw [← same, held]
      rfl
    · rfl
  · rename_i object held
    split
    · rename_i declined
      split
      · rename_i same
        rw [← same, held, Except.map, declined]
        rfl
      · rfl
    · rename_i edited accepted
      rw [readObject_writeObject ready, held]
      simp [Except.map, accepted]

theorem contents_writeToStorageFile_sound {files : Files} (sound : files.Sound) (file : StorageFile) (data : List Char) :
    (writeToStorageFile p file data files).tree.contents (file.path p) = files.tree.contents (file.path p) ∨
      (writeToStorageFile p file data files).tree.contents (file.path p) = some data := by
  have opened : (files.tree.makeDirs p.filesDir ["signal"]).contents (file.path p) =
      files.tree.contents (file.path p) := files.tree.contents_makeDirs ..
  have still := (@framed_makeDirs p files).sound sound
  unfold writeToStorageFile
  dsimp only
  split
  · rename_i path found
    rw [(still.next path).write_tree, resolve_eq found, StorageFile.path, FileTree.write]
    split
    · right
      rw [FileTree.contents, FileTree.stat_add, if_pos rfl]
      rfl
    · exact .inl opened
  · exact .inl opened

theorem readObject_updateObject_sound {files : Files} (sound : files.Sound) (file : StorageFile)
    (edit : JSONObject → Option JSONObject) :
    readObject p file (updateObject p file edit files) = readObject p file files ∨
      readObject p file (updateObject p file edit files) =
        (readObject p file files).map fun data => (edit data).getD data := by
  unfold updateObject
  split
  · exact .inl rfl
  · rename_i object held
    split
    · exact .inl rfl
    · rename_i edited accepted
      rcases contents_writeToStorageFile_sound sound file (p.json.print (.obj edited)) with same | wrote
      · left
        rw [readObject_eq, writeObject, same, readObject_eq]
      · right
        rw [readObject_eq, writeObject, wrote, Option.map_some, joinLines_of_unbroken (p.json.print_unbroken _), objectOf,
          newJSONObject_print, held]
        · simp [Except.map, accepted]
        · exact p.json.print_ne_nil _

theorem readObject_storeSession_of_ne {other : StorageFile} (differs : SESSIONS_JSON_FILENAME ≠ other)
    (address : SignalProtocolAddress) (record : SessionRecord) (files : Files) :
    readObject p other (storeSession p address record files) = readObject p other files := by
  have cleared : readObject p other (if containsSession p address files then deleteSession p address files else files) =
      readObject p other files := by
    split
    · exact readObject_updateObject_of_ne differs ..
    · rfl
  unfold storeSession
  dsimp only
  split
  · exact cleared
  · exact (readObject_writeToStorageFile_of_ne differs ..).trans cleared

def entry (p : Platform) (file : StorageFile) (key : String) (files : Files) : Option Json :=
  match readObject p file files with
  | .ok data => data.lookup key
  | .error _ => none

theorem entry_congr {before after : Files} {file : StorageFile}
    (same : readObject p file after = readObject p file before) (key : String) :
    entry p file key after = entry p file key before := by
  rw [entry, same, entry]

theorem loadRecord_eq {α : Type} (codec : TextCodec α) (file : StorageFile) (key : String) (files : Files) :
    loadRecord p codec file key files =
      (entry p file key files).bind fun value => codec.decode (p.json.toText value) := by
  rw [loadRecord, entry, readObject]
  split
  · simp [newJSONObject_nothing]
  · simp [newJSONObject_nothing]
  · split <;> rename_i held <;> simp [held]

theorem localField_eq (name : String) (files : Files) :
    localField p name files = (entry p LOCAL_JSON_FILENAME name files).filter (· ≠ .null) := by
  have selected : ∀ data : JSONObject, (if !OrgJson.has data name || OrgJson.isNull data name then none
      else data.lookup name) = (data.lookup name).filter (· ≠ .null) := by
    intro data
    rw [OrgJson.has, OrgJson.isNull]
    cases data.lookup name with
    | none => rfl
    | some value => cases value <;> rfl
  rw [localField, entry, readObject]
  split
  · simp [newJSONObject_nothing]
  · simp [newJSONObject_nothing]
  · split <;> rename_i held <;> simp only [held]
    · rfl
    · exact selected _

theorem isLocalRegistered_eq (files : Files) :
    isLocalRegistered p files =
      ((localField p "identityKeyPair" files).isSome && (localField p "registrationId" files).isSome) := by
  rw [isLocalRegistered, localField_eq, localField_eq, entry, entry]
  cases readObject p LOCAL_JSON_FILENAME files with
  | error e => rfl
  | ok data =>
    simp only [OrgJson.has, OrgJson.isNull]
    rcases data.lookup "identityKeyPair" with _ | value <;> rcases data.lookup "registrationId" with _ | other
    all_goals first | rfl | skip
    · cases value <;> simp
    · cases value <;> cases other <;> simp

theorem isTrustedIdentity_eq (address : SignalProtocolAddress) (identityKey : PublicKey) (files : Files) :
    isTrustedIdentity p address identityKey files =
      match readObject p IDENTITES_JSON_FILENAME files with
      | .error _ => false
      | .ok data =>
        if OrgJson.has data (addressText address) then
          match (OrgJson.getJSONObject data (addressText address)).bind
            fun entry => p.json.getString entry "identityKey" with
          | .error _ => false
          | .ok encoded => p.texts.publicKey.decode encoded = some identityKey
        else true := by
  rw [isTrustedIdentity, readObject]
  split
  · simp [newJSONObject_nothing, OrgJson.has]
  · simp [newJSONObject_nothing, OrgJson.has]
  · rfl

theorem entry_removeKey {files : Files} (ready : Ready p files) (file other : StorageFile) (key name : String) :
    entry p other name (removeKey p file key files) =
      if file = other ∧ key = name then none else entry p other name files := by
  rw [entry, removeKey, readObject_updateObject ready]
  by_cases same : file = other
  · subst same
    rw [if_pos rfl, entry]
    cases readObject p file files with
    | error e => simp [Except.map]
    | ok data =>
      simp only [Except.map, true_and]
      by_cases present : OrgJson.has data key = true
      · simp [present, lookup_erase]
      · rw [if_neg present]
        by_cases hit : key = name
        · subst hit
          have absent : data.lookup key = none := by
            rw [OrgJson.has] at present
            simpa only [Bool.not_eq_true, Option.isSome_eq_false_iff, Option.isNone_iff_eq_none] using present
          rw [if_pos rfl, Option.getD_none, absent]
        · simp [hit]
  · rw [if_neg same, if_neg (fun both => same both.1), entry]

theorem removeKey_of_absent {file : StorageFile} {key : String} {files : Files}
    (absent : entry p file key files = none) : removeKey p file key files = files := by
  unfold removeKey updateObject
  split
  · rfl
  · rename_i data held
    rw [entry, held] at absent
    simp [OrgJson.has, absent]

theorem contents_deleteAll (file : StorageFile) (files : Files) :
    (deleteAll p files).tree.contents (file.path p) = none := by
  unfold deleteAll FileTree.contents StorageFile.path
  dsimp only
  by_cases dir : files.tree.stat (file.fileName :: directory p) = some .dir
  · cases held : (files.tree.clearDir (directory p)).stat (file.fileName :: directory p) with
    | none => rfl
    | some node =>
      cases node with
      | dir => rfl
      | file data =>
        have kept := files.tree.stat_clearDir_of_some held
        rw [dir] at kept
        cases kept
  · rw [files.tree.stat_clearDir_leaf dir]
    rfl

theorem readObject_deleteAll (file : StorageFile) (files : Files) :
    readObject p file (deleteAll p files) = .ok [] := by
  rw [readObject_eq, contents_deleteAll]
  rfl

theorem entry_updateObject {files : Files} (ready : Ready p files) {file other : StorageFile}
    {edit : JSONObject → Option JSONObject} {key : String}
    (keeps : ∀ data edited, edit data = some edited → edited.lookup key = data.lookup key) :
    entry p other key (updateObject p file edit files) = entry p other key files := by
  rw [entry, entry, readObject_updateObject ready]
  by_cases same : file = other
  · subst same
    rw [if_pos rfl]
    cases readObject p file files with
    | error e => rfl
    | ok data =>
      cases edited : edit data with
      | none => simp [Except.map, edited]
      | some object => simp [Except.map, edited, keeps data object edited]
  · rw [if_neg same]

theorem entry_storeOnce {files : Files} (ready : Ready p files) {name key : String} (differs : name ≠ key)
    (value : Json) (file : StorageFile) : entry p file key (storeOnce p name value files) = entry p file key files := by
  apply entry_updateObject ready
  intro data edited done
  split at done
  · cases done
    rw [lookup_put, if_neg differs]
  · cases done

theorem entry_storeField {files : Files} (ready : Ready p files) {name key : String} (differs : name ≠ key)
    (value : Json) (file : StorageFile) : entry p file key (storeField p name value files) = entry p file key files := by
  apply entry_updateObject ready
  intro data edited done
  cases done
  rw [lookup_put, if_neg differs]

def Parsed (p : Platform) (file : StorageFile) (files : Files) : Prop := ∃ data, readObject p file files = .ok data

theorem Parsed.updateObject {files : Files} (ready : Ready p files) {other : StorageFile} (parsed : Parsed p other files)
    (file : StorageFile) (edit : JSONObject → Option JSONObject) : Parsed p other (updateObject p file edit files) := by
  obtain ⟨data, held⟩ := parsed
  unfold Parsed
  rw [readObject_updateObject ready]
  split
  · rename_i same
    subst same
    exact ⟨(edit data).getD data, by rw [held]; rfl⟩
  · exact ⟨data, held⟩

theorem Updates.parsed {file other : StorageFile} {before after : Files} (updates : Updates p file before after)
    (ready : Ready p before) (parsed : Parsed p other before) : Parsed p other after := by
  induction updates with
  | refl => exact parsed
  | step edit updates ih => exact ih.updateObject (updates.framed.ready ready) file edit

theorem entry_put {files : Files} (ready : Ready p files) {file : StorageFile} (parsed : Parsed p file files)
    (key : String) (value : Json) (other : StorageFile) (name : String) :
    entry p other name (updateObject p file (fun data => some (put key value data)) files) =
      if file = other ∧ key = name then some value else entry p other name files := by
  obtain ⟨data, held⟩ := parsed
  rw [entry, readObject_updateObject ready, entry]
  by_cases same : file = other
  · subst same
    rw [if_pos rfl, held]
    by_cases hit : key = name
    · simp [Except.map, hit]
    · simp [Except.map, hit, lookup_put]
  · rw [if_neg same, if_neg (fun both => same both.1)]

theorem entry_storeOnce_self {files : Files} (ready : Ready p files) (parsed : Parsed p LOCAL_JSON_FILENAME files)
    {name : String} (absent : localField p name files = none) (value : Json) :
    entry p LOCAL_JSON_FILENAME name (storeOnce p name value files) = some value := by
  obtain ⟨data, held⟩ := parsed
  have missing : (!OrgJson.has data name || OrgJson.isNull data name) = true := by
    rw [localField_eq, entry, held] at absent
    rw [OrgJson.has, OrgJson.isNull]
    cases found : data.lookup name with
    | none => rfl
    | some old => cases old <;> simp_all
  rw [entry, storeOnce, readObject_updateObject ready, if_pos rfl, held]
  simp [Except.map, missing]

theorem localField_congr {before after : Files} {name : String}
    (same : entry p LOCAL_JSON_FILENAME name after = entry p LOCAL_JSON_FILENAME name before) :
    localField p name after = localField p name before := by
  rw [localField_eq, localField_eq, same]

theorem storeOnce_of_present {files : Files} {name : String} {held : Json} (present : localField p name files = some held)
    (value : Json) : storeOnce p name value files = files := by
  unfold storeOnce updateObject
  split
  · rfl
  · rename_i data parsed
    rw [localField_eq, entry, parsed, Option.filter_eq_some_iff] at present
    have found : data.lookup name = some held := present.1
    have kept : ¬ (!OrgJson.has data name || OrgJson.isNull data name) = true := by
      rw [OrgJson.has, OrgJson.isNull, found]
      cases held <;> simp at present ⊢
    dsimp only
    rw [if_neg kept]

theorem localField_storeOnce {files : Files} (ready : Ready p files) (parsed : Parsed p LOCAL_JSON_FILENAME files)
    (name : String) {value : Json} (present : value ≠ .null) :
    localField p name (storeOnce p name value files) = some ((localField p name files).getD value) := by
  cases held : localField p name files with
  | some old => rw [storeOnce_of_present held, held, Option.getD_some]
  | none =>
    rw [localField_eq, entry_storeOnce_self ready parsed held]
    simp [present]

theorem Ready.deleteAll {files : Files} (ready : Ready p files) : Ready p (deleteAll p files) where
  sound := ready.sound
  clear := by
    intro path below
    have beside : ∀ name, name :: directory p ≠ path := by
      rintro name rfl
      exact FileTree.not_cons_suffix _ _ below
    have kept := files.tree.stat_clearDir_of_ne beside
    rw [ProtocolStorage.deleteAll, kept]
    exact ready.clear path below
  plain := by
    intro file dir
    exact ready.plain file (files.tree.stat_clearDir_of_some dir)

/-- The directory is there or can be made, and the file's place is not taken by a directory. -/
def Writable (p : Platform) (file : StorageFile) (files : Files) : Prop :=
  (files.tree.makeDirs p.filesDir ["signal"]).resolve p.filesDir ["signal", file.fileName] = some (file.path p) ∧
    files.tree.stat (file.path p) ≠ some .dir

section Writable

variable {files : Files} {file : StorageFile} {object : JSONObject}

theorem Writable.parent (writable : Writable p file files) :
    (files.tree.makeDirs p.filesDir ["signal"]).stat (directory p) = some .dir := by
  have found : (files.tree.makeDirs p.filesDir ["signal"]).resolve p.filesDir (["signal"] ++ [file.fileName]) =
      some (file.path p) := writable.1
  obtain ⟨middle, _, parent, place⟩ := FileTree.resolve_last file.component found
  rw [(List.cons.inj place).2]
  exact parent

theorem stat_path_makeDirs (file : StorageFile) (files : Files) :
    (files.tree.makeDirs p.filesDir ["signal"]).stat (file.path p) = files.tree.stat (file.path p) := by
  rcases (@framed_makeDirs p files).stat (file.path p) with same | ⟨_, _, below⟩ | ⟨other, data, _, _, wrote⟩
  · exact same
  · exact absurd below (path_not_suffix file)
  · have contents := files.tree.contents_makeDirs p.filesDir ["signal"] (file.path p)
    dsimp only at wrote
    rw [FileTree.contents, wrote] at contents
    rw [wrote]
    exact ((files.tree.contents_eq_some _ _).mp contents.symm).symm

theorem writeObject_of_writable (writable : Writable p file files) :
    writeObject p file object files =
      Disk.write { files with tree := files.tree.makeDirs p.filesDir ["signal"] } (file.path p) (p.json.print (.obj object)) := by
  rw [writeObject, writeToStorageFile]
  simp only [writable.1]

theorem resolve_of_contents {text : List Char} (held : files.tree.contents (file.path p) = some text) :
    files.tree.resolve p.filesDir (["signal"] ++ [file.fileName]) = some (file.path p) := by
  have present := (files.tree.contents_eq_some _ _).mp held
  have parent : files.tree.stat (directory p) = some .dir := files.tree.stat_parent (by
    rw [StorageFile.path] at present
    rw [present]
    rfl)
  exact files.tree.resolve_of_dir (file_names file) p.filesDir parent

theorem writable_of_contents {text : List Char} (held : files.tree.contents (file.path p) = some text) :
    Writable p file files := by
  have present := (files.tree.contents_eq_some _ _).mp held
  refine ⟨?_, by rw [present]; simp⟩
  rw [FileTree.makeDirs_of_resolve (resolve_of_contents held) (by simp)]
  exact resolve_of_contents held

theorem removeKey_cases (file : StorageFile) (key : String) (files : Files) :
    removeKey p file key files = files ∨ ∃ text, removeKey p file key files = files.write (file.path p) text := by
  unfold removeKey updateObject
  split
  · exact .inl rfl
  · rename_i data held
    by_cases present : OrgJson.has data key = true
    · right
      cases contents : files.tree.contents (file.path p) with
      | none =>
        rw [readObject_eq, contents] at held
        cases held
        cases present
      | some text =>
        have made := FileTree.makeDirs_of_resolve (resolve_of_contents contents) (by simp)
        refine ⟨p.json.print (.obj (erase key data)), ?_⟩
        simp only [present, if_true]
        rw [writeObject_of_writable (writable_of_contents contents), made]
    · left
      simp only [present, Bool.false_eq_true, if_false]

end Writable

/-- What is done to the stores while messages come and go: sessions and identities are written, and
    pre keys are removed. -/
inductive Upkeep (p : Platform) (before : Files) : Files → Prop where
  | refl : Upkeep p before before
  | saveIdentity {after : Files} (upkeep : Upkeep p before after) (address : SignalProtocolAddress)
      (identityKey : PublicKey) : Upkeep p before (saveIdentity p address identityKey after)
  | removeIdentity {after : Files} (upkeep : Upkeep p before after) (address : SignalProtocolAddress) :
      Upkeep p before (removeIdentity p address after)
  | storeSession {after : Files} (upkeep : Upkeep p before after) (address : SignalProtocolAddress)
      (record : SessionRecord) : Upkeep p before (storeSession p address record after)
  | deleteSession {after : Files} (upkeep : Upkeep p before after) (address : SignalProtocolAddress) :
      Upkeep p before (deleteSession p address after)
  | removePreKey {after : Files} (upkeep : Upkeep p before after) (preKeyId : Int) :
      Upkeep p before (removePreKey p preKeyId after)

theorem Upkeep.trans {a b c : Files} (first : Upkeep p a b) (second : Upkeep p b c) : Upkeep p a c := by
  induction second with
  | refl => exact first
  | saveIdentity _ address identityKey ih => exact ih.saveIdentity address identityKey
  | removeIdentity _ address ih => exact ih.removeIdentity address
  | storeSession _ address record ih => exact ih.storeSession address record
  | deleteSession _ address ih => exact ih.deleteSession address
  | removePreKey _ preKeyId ih => exact ih.removePreKey preKeyId

theorem Upkeep.framed {before after : Files} (upkeep : Upkeep p before after) : Framed p before after := by
  induction upkeep with
  | refl => exact .refl before
  | saveIdentity _ address identityKey ih => exact ih.trans (framed_saveIdentity ..)
  | removeIdentity _ address ih => exact ih.trans (framed_removeKey ..)
  | storeSession _ address record ih => exact ih.trans (framed_storeSession ..)
  | deleteSession _ address ih => exact ih.trans (framed_removeKey ..)
  | removePreKey _ preKeyId ih => exact ih.trans (framed_removeKey ..)

theorem noFiles_ready : Ready .plain noFiles where
  sound path outcome member := by cases member
  clear path below := by
    rcases List.suffix_cons_iff.mp below with rfl | below
    · exact .inl (by decide)
    · rw [List.suffix_nil.mp below]
      exact .inr (by decide)
  plain file := by cases file <;> decide

theorem noFiles_empty (file : StorageFile) : readObject .plain file noFiles = .ok [] := by
  cases file <;> decide +kernel

end PillarSignal.Android.ProtocolStorage
