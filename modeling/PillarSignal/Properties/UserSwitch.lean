import PillarSignal.Android.Account
import PillarSignal.Ios.Account
import PillarSignal.Protocol.Plain

namespace PillarSignal

open Storage

namespace Android

open ProtocolStorage MessageStorage RNSignalClientModule

variable {p : Platform}

/-- No record of the protocol can be loaded, whatever it is asked for by. -/
structure NoKeys (p : Platform) (files : Files) : Prop where
  session : ∀ address, loadSession p address files = none
  identity : ∀ address, entry p .IDENTITES_JSON_FILENAME (addressText address) files = none
  preKey : ∀ id, loadPreKey p id files = none
  signedPreKey : ∀ id, loadSignedPreKey p id files = none

theorem NoKeys.of_empty {files : Files}
    (empty : ∀ file, StorageFile.LOCAL_JSON_FILENAME ≠ file → readObject p file files = .ok []) : NoKeys p files := by
  have absent : ∀ file key, StorageFile.LOCAL_JSON_FILENAME ≠ file → entry p file key files = none := by
    intro file key other
    rw [entry, empty file other]
    rfl
  refine ⟨fun address => ?_, fun address => absent _ _ (by decide), fun id => ?_, fun id => ?_⟩
  · rw [loadSession, loadRecord_eq, absent _ _ (by decide), Option.bind_none]
  · rw [loadPreKey, loadRecord_eq, absent _ _ (by decide), Option.bind_none]
  · rw [loadSignedPreKey, loadRecord_eq, absent _ _ (by decide), Option.bind_none]

def HistoriesEmpty (p : Platform) (files : Files) : Prop :=
  ∀ username tag, getContactMessages p username tag files = []

theorem init_registering {config : Config} {username : String} {draw : AccountDraw} {files after : Files}
    {request : SignalClient.AccountRequest} (named : config.username = some username)
    (sent : init p config draw files = (.registering request, after)) :
    ∃ softReset, performSoftReset p files = .ok softReset ∧
      after = (SignalClient.registerAccount p username draw (wiped p softReset files)).2 := by
  rcases init_cases config draw files with ⟨_, other⟩ | ⟨softReset, found, same, decided, registered⟩
  · exact absurd (congrArg Prod.fst sent) (other request)
  · cases named.symm.trans same
    exact ⟨softReset, decided, (congrArg Prod.snd sent).symm.trans (congrArg Prod.snd registered)⟩

theorem directory_of_softReset {files : Files} (reset : performSoftReset p files = .ok true) :
    files.tree.stat (ProtocolStorage.directory p) = some .dir := by
  have stored : files.tree.contents (StorageFile.PRE_KEYS_JSON_FILENAME.path p) ≠ none := by
    intro absent
    have last : getLastPreKeyIndex p files = .ok 0 := by
      rw [getLastPreKeyIndex, ProtocolStorage.readFromStorage_eq, absent]
      rfl
    rw [performSoftReset, last] at reset
    exact absurd reset (by decide)
  exact ProtocolStorage.directory_of_contents stored

theorem wiped_histories {softReset : Bool} {files after : Files} (reset : performSoftReset p files = .ok softReset)
    (framed : Framed p (wiped p softReset files) after) :
    HistoriesEmpty p after ↔ softReset = false ∨ HistoriesEmpty p (ProtocolStorage.deleteAll p files) := by
  cases softReset with
  | false =>
    refine iff_of_true (fun username tag => getContactMessages_of_no_directory ?_ username tag) (.inl rfl)
    have kept := framed.stat_eq MessageStorage.directory_beside directory_ne_path
    have gone : (wiped p false files).tree.stat (MessageStorage.directory p) = none := by
      rw [wiped, if_neg (by simp), stat_deleteAll, if_pos List.suffix_rfl]
    simp [kept, gone]
  | true =>
    have dir : (ProtocolStorage.deleteAll p files).tree.stat (ProtocolStorage.directory p) = some .dir := by
      have beside : ∀ name, name :: ProtocolStorage.directory p ≠ ProtocolStorage.directory p := by simp
      rw [ProtocolStorage.deleteAll, files.tree.stat_clearDir_of_ne beside]
      exact directory_of_softReset reset
    have same : ∀ username tag, getContactMessages p username tag after =
        getContactMessages p username tag (ProtocolStorage.deleteAll p files) :=
      fun username tag => getContactMessages_eq (readFromStorage_framed framed dir username _)
    simp [HistoriesEmpty, same]

theorem identity_registered {username : String} {draw : AccountDraw} {softReset : Bool} {files : Files}
    (ready : Ready p files) :
    getIdentityKeyPair p (SignalClient.registerAccount p username draw (wiped p softReset files)).2 = none := by
  have absent : entry p .LOCAL_JSON_FILENAME "identityKeyPair"
      (SignalClient.registerAccount p username draw (wiped p softReset files)).2 = none := by
    rw [SignalClient.entry_registerAccount p username draw (wiped_ready ready) (by decide), entry, wiped_empty]
    rfl
  rw [getIdentityKeyPair, localField_eq, absent]
  rfl

theorem init_switch {config : Config} {username : String} {draw : AccountDraw} {files after : Files}
    {request : SignalClient.AccountRequest} (named : config.username = some username)
    (sent : init p config draw files = (.registering request, after)) :
    (HistoriesEmpty p after ∧ NoKeys p after ↔ performSoftReset p files = .ok false ∨
      HistoriesEmpty p (ProtocolStorage.deleteAll p files)) ∧
    (Ready p files → getIdentityKeyPair p after = none) := by
  obtain ⟨softReset, reset, rfl⟩ := init_registering named sent
  have updates := SignalClient.registerAccount_updates p username draw (wiped p softReset files)
  have keys : NoKeys p (SignalClient.registerAccount p username draw (wiped p softReset files)).2 := by
    apply NoKeys.of_empty
    intro file other
    rw [updates.readObject_of_ne other, wiped_empty]
  have histories := wiped_histories reset updates.framed
  refine ⟨?_, identity_registered⟩
  rw [and_iff_left keys, histories, reset]
  simp

end Android

namespace Ios

open ProtocolStorage MessagesStorage DownloadsType RNSignalClientModule

variable {p : Platform}

structure NoKeys (p : Platform) (archives : Archives) : Prop where
  session : ∀ address, SessionStorePillar.containsSession address archives = false
  identity : ∀ name, (get IDENTITES_JSON_FILENAME archives).lookup name = none
  preKey : ∀ id, PreKeyStorePillar.load p id archives = none
  signedPreKey : ∀ id, SignedPreKeyStorePillar.load p id archives = none
  identityKeyPair : getIdentityKeyPair p archives = none

def HistoriesEmpty (archives : Archives) : Prop := ∀ username tag, getMessages username tag archives = []

theorem createClient_registering {username : String} {draw : AccountDraw} {archives after : Archives}
    {request : SignalClient.AccountRequest} (sent : createClient username draw archives = (.registering request, after)) :
    SignalClient.register username draw (wiped archives) = (.ok request, after) := by
  unfold createClient at sent
  split at sent
  · cases sent
  · split at sent
    · rename_i other later registered
      cases sent
      exact registered
    · cases sent

theorem noKeys_of_empty {archives : Archives} (empty : ∀ type ∈ [PRE_KEYS_JSON_FILENAME, SIGNED_PRE_KEYS_JSON_FILENAME,
    SESSIONS_JSON_FILENAME, IDENTITES_JSON_FILENAME], get type archives = [])
    (absent : getLocal "identityKeyPairPrivateKey" archives = none) : NoKeys p archives := by
  refine ⟨fun address => ?_, fun name => ?_, fun id => ?_, fun id => ?_, ?_⟩
  · rw [SessionStorePillar.containsSession, empty _ (by simp)]
    rfl
  · rw [empty _ (by simp)]
    rfl
  · rw [PreKeyStorePillar.load, loadData, empty _ (by simp)]
    rfl
  · rw [SignedPreKeyStorePillar.load, loadData, empty _ (by simp)]
    rfl
  · simp [getIdentityKeyPair, absent]

theorem noKeys_register (username : String) (draw : AccountDraw) (archives : Archives) :
    NoKeys p (SignalClient.register username draw (wiped archives)).2 := by
  apply noKeys_of_empty
  · intro type protocol
    have other : type ≠ LOCAL_JSON_FILENAME := by
      rintro rfl
      simp at protocol
    have gone : wiped archives type = none := by
      apply wiped_protocol
      simp only [List.mem_cons, List.not_mem_nil, or_false] at protocol ⊢
      tauto
    rw [SignalClient.get_register_of_ne other, ProtocolStorage.get, gone]
    rfl
  · rw [SignalClient.getLocal_register (by decide), getLocal, ProtocolStorage.get, wiped_protocol archives (by simp)]
    rfl

theorem createClient_switch {username : String} {draw : AccountDraw} {archives after : Archives}
    {request : SignalClient.AccountRequest} (sent : createClient username draw archives = (.registering request, after)) :
    HistoriesEmpty after ∧ NoKeys p after ↔ performSoftReset archives = false ∨ HistoriesEmpty archives := by
  have registered := createClient_registering sent
  have keys := @noKeys_register p username draw archives
  have histories := SignalClient.getMessages_register username draw (wiped archives)
  rw [registered] at keys histories
  rw [and_iff_left keys]
  unfold HistoriesEmpty
  simp only [histories, getMessages_wiped]
  cases performSoftReset archives <;> simp

end Ios

/-- A user switch leaves the previous user's histories behind exactly when it comes with a soft reset
    and there are any; it never leaves keys behind. -/
theorem user_switch_leaves_nothing_iff (android : Android.Platform) (ios : Ios.Platform) :
    (∀ (config : Android.Config) (username : String) (draw : Android.AccountDraw) (files after : Android.Files)
      (request : Android.SignalClient.AccountRequest),
      config.username = some username → Android.ProtocolStorage.getLocalUsername android files ≠ username →
      Android.RNSignalClientModule.init android config draw files = (.registering request, after) →
      (Android.HistoriesEmpty android after ∧ Android.NoKeys android after ↔
        Android.RNSignalClientModule.performSoftReset android files = .ok false ∨
          Android.HistoriesEmpty android (Android.ProtocolStorage.deleteAll android files)) ∧
      (Android.ProtocolStorage.Ready android files → Android.ProtocolStorage.getIdentityKeyPair android after = none)) ∧
    (∀ (username : String) (draw : Ios.AccountDraw) (archives after : Ios.Archives)
      (request : Ios.SignalClient.AccountRequest), Ios.ProtocolStorage.getLocalUsername archives ≠ username →
      Ios.RNSignalClientModule.createClient username draw archives = (.registering request, after) →
      (Ios.HistoriesEmpty after ∧ Ios.NoKeys ios after ↔
        Ios.RNSignalClientModule.performSoftReset archives = false ∨ Ios.HistoriesEmpty archives)) := by
  constructor
  · intro config username draw files after request named _ sent
    exact Android.init_switch named sent
  · intro username draw archives after request _ sent
    exact Ios.createClient_switch sent

section Switch

open Android in
def aliceFiles (preKeys : String) : Files :=
  filesIn ["carol", "messages"] [("messages.json", "[\x7b\"content\":\"hi\"\x7d]")]
    (filesIn ["signal"] [("prekeys.json", preKeys), ("user.json", "\x7b\"username\":\"alice\"\x7d")] noFiles)

def bobConfig : Android.Config := ⟨some "https://host", some "bob", some "token"⟩

def aliceArchives (preKeys : Nat) : Ios.Archives
  | .PRE_KEYS_JSON_FILENAME => some (.obj ((List.range preKeys).map fun id : Nat => (Decimal.toText id, .str "")))
  | .LOCAL_JSON_FILENAME => some (.obj [("username", .str "alice")])
  | .MESSAGES_CHAT_JSON_FILENAME =>
    some (.obj [("allMessages", .obj [("carol", .obj [("messages", .arr [.obj [("content", .str "hi")]])])])])
  | _ => none

theorem aliceArchives_softReset : Ios.RNSignalClientModule.performSoftReset (aliceArchives 301) = true := by
  have distinct : ((List.range 301).map fun id : Nat => Decimal.toText id).Nodup :=
    List.nodup_range.map fun a b same => Int.ofNat_inj.mp (Decimal.toText_injective same)
  have keys : Ios.Dictionary.count (Ios.ProtocolStorage.get .PRE_KEYS_JSON_FILENAME (aliceArchives 301)) = 301 := by
    rw [Ios.ProtocolStorage.get, aliceArchives, Option.bind_some, Ios.asDictionary, Option.getD_some,
      Ios.Dictionary.count, List.map_map]
    change (((List.range 301).map fun id : Nat => Decimal.toText id).dedup).length = 301
    rw [distinct.dedup, List.length_map, List.length_range]
  rw [Ios.RNSignalClientModule.performSoftReset, keys]
  rfl

theorem eq_pair_of_fst {α β : Type} {pair : α × β} {first : α} (same : pair.1 = first) : pair = (first, pair.2) := by
  rw [← same]

open Android Android.RNSignalClientModule in
theorem user_switch_of_few_pre_keys :
    (HistoriesEmpty .plain (init .plain bobConfig ⟨7, [1]⟩ (aliceFiles "\x7b\"5\":\"\"\x7d")).2 ∧
      NoKeys .plain (init .plain bobConfig ⟨7, [1]⟩ (aliceFiles "\x7b\"5\":\"\"\x7d")).2) ∧
    Ios.HistoriesEmpty (Ios.RNSignalClientModule.createClient "bob" ⟨true, some 7, ""⟩ (aliceArchives 3)).2 ∧
      Ios.NoKeys .plain (Ios.RNSignalClientModule.createClient "bob" ⟨true, some 7, ""⟩ (aliceArchives 3)).2 := by
  constructor
  · have sent : (init .plain bobConfig ⟨7, [1]⟩ (aliceFiles "\x7b\"5\":\"\"\x7d")).1 =
        .registering (.accounts (SignalClient.accountJSON (Plain.text.encode [1]) 7 "bob")) := by decide +kernel
    have differs : ProtocolStorage.getLocalUsername .plain (aliceFiles "\x7b\"5\":\"\"\x7d") ≠ "bob" := by
      decide +kernel
    have switch := (user_switch_leaves_nothing_iff .plain .plain).1 bobConfig "bob" ⟨7, [1]⟩ (aliceFiles "\x7b\"5\":\"\"\x7d")
      _ _ rfl differs (eq_pair_of_fst sent)
    exact switch.1.mpr (.inl (by decide +kernel))
  · have sent : (Ios.RNSignalClientModule.createClient "bob" ⟨true, some 7, ""⟩ (aliceArchives 3)).1 =
        .registering (.accounts (Ios.SignalClient.accountParameters "" (.num 7) "bob")) := by decide +kernel
    have differs : Ios.ProtocolStorage.getLocalUsername (aliceArchives 3) ≠ "bob" := by decide +kernel
    have switch := (user_switch_leaves_nothing_iff .plain .plain).2 "bob" ⟨true, some 7, ""⟩ (aliceArchives 3) _ _
      differs (eq_pair_of_fst sent)
    exact switch.mpr (.inl (by decide +kernel))

open Android Android.RNSignalClientModule in
theorem soft_reset_leaves_history :
    (ProtocolStorage.getLocalUsername .plain (aliceFiles "\x7b\"301\":\"\"\x7d") = "alice" ∧
      (init .plain bobConfig ⟨7, [1]⟩ (aliceFiles "\x7b\"301\":\"\"\x7d")).1 =
        .registering (.accounts (SignalClient.accountJSON (Plain.text.encode [1]) 7 "bob")) ∧
      MessageStorage.getContactMessages .plain "carol" "chat"
        (init .plain bobConfig ⟨7, [1]⟩ (aliceFiles "\x7b\"301\":\"\"\x7d")).2 = [.obj [("content", .str "hi")]]) ∧
    Ios.ProtocolStorage.getLocalUsername (aliceArchives 301) = "alice" ∧
      (Ios.RNSignalClientModule.createClient "bob" ⟨true, some 7, ""⟩ (aliceArchives 301)).1 =
        .registering (.accounts (Ios.SignalClient.accountParameters "" (.num 7) "bob")) ∧
      Ios.MessagesStorage.getMessages "carol" "chat"
        (Ios.RNSignalClientModule.createClient "bob" ⟨true, some 7, ""⟩ (aliceArchives 301)).2 =
          [⟨[("content", .str "hi")]⟩] := by
  have created : Ios.RNSignalClientModule.createClient "bob" ⟨true, some 7, ""⟩ (aliceArchives 301) =
      (.registering (.accounts (Ios.SignalClient.accountParameters "" (.num 7) "bob")),
        (Ios.SignalClient.register "bob" ⟨true, some 7, ""⟩
          (Ios.ProtocolStorage.destroyAllExceptMessages (aliceArchives 301))).2) := by
    rw [Ios.RNSignalClientModule.createClient, Ios.RNSignalClientModule.wiped, aliceArchives_softReset]
    rfl
  rw [created]
  decide +kernel

end Switch
end PillarSignal
