import PillarSignal.Android.Sessions
import PillarSignal.Ios.Sessions

namespace PillarSignal

open Storage

namespace Android

open ProtocolStorage StorageFile SignalClient

variable {p : Platform}

def Unchanged (p : Platform) (before after : Files) : Prop :=
  ∀ file key, entry p file key after = entry p file key before

def NoContact (p : Platform) (address : SignalProtocolAddress) (files : Files) : Prop :=
  entry p IDENTITES_JSON_FILENAME (addressText address) files = none ∧
    entry p SESSIONS_JSON_FILENAME (addressText address) files = none

theorem forceDelete_of_absent {address : SignalProtocolAddress} {files : Files} (absent : NoContact p address files) :
    forceDelete p address files = files := by
  have identity : removeIdentity p address files = files := removeKey_of_absent absent.1
  rw [forceDelete, identity]
  exact removeKey_of_absent absent.2

theorem entry_forceDelete {files : Files} (ready : Ready p files) (address : SignalProtocolAddress) (file : StorageFile)
    (key : String) : entry p file key (forceDelete p address files) =
      if file ∈ [IDENTITES_JSON_FILENAME, SESSIONS_JSON_FILENAME] ∧ key = addressText address then none
      else entry p file key files := by
  have removed : Ready p (removeIdentity p address files) := (framed_removeKey ..).ready ready
  rw [forceDelete, deleteSession, entry_removeKey removed, removeIdentity, entry_removeKey ready]
  by_cases same : key = addressText address
  · cases file <;> simp [same]
  · simp [same, Ne.symm same]

theorem failed_rebuild {address : SignalProtocolAddress} {responseJSONO device : JSONObject} {process : Process}
    {files : Files} (failed : (rebuildSession p address responseJSONO device process files).1 ≠ .built) :
    (rebuildSession p address responseJSONO device process files).2 = forceDelete p address files := by
  unfold rebuildSession at failed ⊢
  dsimp only at failed ⊢
  split
  · rfl
  · rename_i calls done
    simp [done] at failed

theorem forceDelete_unchanged_iff {files : Files} (ready : Ready p files) (address : SignalProtocolAddress) :
    Unchanged p files (forceDelete p address files) ↔ NoContact p address files := by
  constructor
  · intro unchanged
    have identity := unchanged IDENTITES_JSON_FILENAME (addressText address)
    have session := unchanged SESSIONS_JSON_FILENAME (addressText address)
    rw [entry_forceDelete ready, if_pos ⟨by simp, rfl⟩] at identity session
    exact ⟨identity.symm, session.symm⟩
  · intro absent
    rw [forceDelete_of_absent absent]
    exact fun _ _ => rfl

end Android

namespace Ios

open ProtocolStorage DownloadsType SignalClient

variable {p : Platform}

def Unchanged (before after : Archives) : Prop :=
  ∀ type key, (get type after).lookup key = (get type before).lookup key

def NoContact (username : String) (archives : Archives) : Prop :=
  (get IDENTITES_JSON_FILENAME archives).lookup username = none ∧
    (get SESSIONS_JSON_FILENAME archives).lookup username = none

/-- The bundle for which a session is built; the contact's identity and session are deleted once
    there is one. -/
def reachedBundle (p : Platform) (store : Bool) (exchange : Exchange) : Option SessionPreKeyBundle :=
  match SignalServer.call p exchange with
  | .success dict => (parseBundle p dict).filter fun bundle => SessionPreKeyBundle.fits bundle && store
  | _ => none

theorem lookup_forceDelete (username : String) (archives : Archives) (type : DownloadsType) (key : String) :
    (get type (forceDelete ⟨username, 1⟩ archives)).lookup key =
      if type ∈ [IDENTITES_JSON_FILENAME, SESSIONS_JSON_FILENAME] ∧ key = username then none
      else (get type archives).lookup key := by
  rw [forceDelete, SessionStorePillar.deleteSession, removeRemoteIdentity]
  by_cases same : key = username
  · subst same
    cases type <;> simp [lookup_erase]
  · cases type <;> simp [lookup_erase, same, Ne.symm same]

theorem forceDelete_unchanged_iff (username : String) (archives : Archives) :
    Unchanged archives (forceDelete ⟨username, 1⟩ archives) ↔ NoContact username archives := by
  constructor
  · intro unchanged
    have identity := unchanged IDENTITES_JSON_FILENAME username
    have session := unchanged SESSIONS_JSON_FILENAME username
    rw [lookup_forceDelete, if_pos ⟨by simp, rfl⟩] at identity session
    exact ⟨identity.symm, session.symm⟩
  · intro absent type key
    rw [lookup_forceDelete]
    split
    · rename_i own
      obtain ⟨kind, rfl⟩ := own
      simp only [List.mem_cons, List.not_mem_nil, or_false] at kind
      rcases kind with rfl | rfl
      · exact absent.1.symm
      · exact absent.2.symm
    · rfl

theorem failed_rebuild {store : Bool} {username : String} {exchange : Exchange} {process : Process} {archives : Archives}
    (failed : (requestPreKeys p store username exchange process archives).1 ≠ .built) :
    (requestPreKeys p store username exchange process archives).2 =
      if reachedBundle p store exchange = none then archives else forceDelete ⟨username, 1⟩ archives := by
  unfold requestPreKeys reachedBundle at *
  split <;> rename_i called
  · simp [called]
  · simp [called]
  · simp [called]
  · rename_i dict
    rw [called] at failed
    dsimp only at failed
    cases parsed : parseBundle p dict with
    | none => simp [called, parsed]
    | some bundle =>
      rw [parsed] at failed
      dsimp only at failed ⊢
      cases fits : SessionPreKeyBundle.fits bundle with
      | false => simp [called, parsed, fits, Option.filter]
      | true =>
        cases store with
        | false => simp [called, parsed, Option.filter]
        | true =>
          cases unsigned : SessionPreKeyBundle.unsigned bundle with
          | true => simp [called, parsed, fits, Option.filter]
          | false =>
            cases done : process bundle with
            | error error => simp [called, parsed, fits, Option.filter]
            | ok calls => simp [fits, done, unsigned] at failed

end Ios

/-- A request for keys that builds no session leaves the stores as they were exactly when its answer
    brings nothing to build one from, or when nothing was stored for the contact. -/
theorem failed_rebuild_unchanged_iff (android : Android.Platform) (ios : Ios.Platform) (username : String) :
    (∀ (exchange : Android.Exchange) (process : Android.Process) (files : Android.Files),
      let rebuilt := Android.SignalClient.requestPreKeys android username exchange process files
      let harmless := Android.SignalClient.firstDevice android exchange = none ∨
        Android.NoContact android ⟨username, 1⟩ files
      rebuilt.1 ≠ .built → (harmless → rebuilt.2 = files) ∧
        (Android.ProtocolStorage.Ready android files → (Android.Unchanged android files rebuilt.2 ↔ harmless))) ∧
    ∀ (store : Bool) (exchange : Ios.Exchange) (process : Ios.Process) (archives : Ios.Archives),
      let rebuilt := Ios.SignalClient.requestPreKeys ios store username exchange process archives
      rebuilt.1 ≠ .built → (Ios.Unchanged archives rebuilt.2 ↔
        Ios.reachedBundle ios store exchange = none ∨ Ios.NoContact username archives) := by
  constructor
  · intro exchange process files
    dsimp only
    intro failed
    cases reached : Android.SignalClient.firstDevice android exchange with
    | none =>
      rw [(Android.SignalClient.requestPreKeys_of_no_device reached ..).1]
      simp [Android.Unchanged]
    | some pair =>
      rw [Android.SignalClient.requestPreKeys_of_device reached] at failed ⊢
      rw [Android.failed_rebuild failed]
      simp only [reduceCtorEq, false_or]
      exact ⟨Android.forceDelete_of_absent, fun ready => Android.forceDelete_unchanged_iff ready _⟩
  · intro store exchange process archives
    dsimp only
    intro failed
    rw [Ios.failed_rebuild failed]
    split
    · rename_i absent
      simp [absent, Ios.Unchanged]
    · rename_i present
      rw [Ios.forceDelete_unchanged_iff]
      simp [present]

section Lost

def bobContact : Android.Files :=
  Android.ProtocolStorage.storeSession .plain ⟨"bob", 1⟩ ⟨[8]⟩
    (Android.ProtocolStorage.saveIdentity .plain ⟨"bob", 1⟩ ⟨[7]⟩ Android.noFiles)

theorem bobContact_ready : Android.ProtocolStorage.Ready .plain bobContact :=
  ((Android.ProtocolStorage.framed_saveIdentity ..).trans (Android.ProtocolStorage.framed_storeSession ..)).ready
    Android.ProtocolStorage.noFiles_ready

def bobArchives : Ios.Archives :=
  Ios.SessionStorePillar.store .plain ⟨[8]⟩ ⟨"bob", 1⟩
    (Ios.IdentityKeyStorePillar.save .plain ⟨[7]⟩ ⟨"bob", 1⟩ fun _ => none)

open Plain (keysAnswer bobDevice)

theorem no_device_leaves_contact :
    Android.Unchanged .plain bobContact
      (Android.SignalClient.requestPreKeys .plain "bob" (.answered ⟨200, some (keysAnswer "[]".toList)⟩)
        (fun _ => .error .invalidKey) bobContact).2 ∧
    Ios.Unchanged bobArchives
      (Ios.SignalClient.requestPreKeys .plain true "bob" (.answered 200 (keysAnswer "[]".toList)) (fun _ => .error .other)
        bobArchives).2 :=
  ⟨(((failed_rebuild_unchanged_iff .plain .plain "bob").1 _ _ bobContact (by decide +kernel)).2 bobContact_ready).mpr
      (.inl (by decide +kernel)),
    ((failed_rebuild_unchanged_iff .plain .plain "bob").2 true _ _ bobArchives (by decide +kernel)).mpr
      (.inl (by decide +kernel))⟩

theorem failed_rebuild_deletes_contact :
    let emptyDevice := Android.SignalClient.requestPreKeys .plain "bob" (.answered ⟨200, some (keysAnswer "[\x7b\x7d]".toList)⟩)
      (fun _ => .ok []) bobContact
    let refused := Ios.SignalClient.requestPreKeys .plain true "bob" (.answered 200 (keysAnswer bobDevice))
      (fun _ => .error .other) bobArchives
    (Android.ProtocolStorage.entry .plain .SESSIONS_JSON_FILENAME "bob:1" bobContact ≠ none ∧
      Android.ProtocolStorage.entry .plain .IDENTITES_JSON_FILENAME "bob:1" bobContact ≠ none ∧
      emptyDevice.1 = .failed .json ∧
      Android.ProtocolStorage.entry .plain .SESSIONS_JSON_FILENAME "bob:1" emptyDevice.2 = none ∧
      Android.ProtocolStorage.entry .plain .IDENTITES_JSON_FILENAME "bob:1" emptyDevice.2 = none) ∧
    (Ios.ProtocolStorage.get .SESSIONS_JSON_FILENAME bobArchives).lookup "bob" ≠ none ∧
      (Ios.ProtocolStorage.get .IDENTITES_JSON_FILENAME bobArchives).lookup "bob" ≠ none ∧
      refused.1 = .failure ⟨.ERR_NATIVE_FAILED, .signal .other⟩ ∧
      (Ios.ProtocolStorage.get .SESSIONS_JSON_FILENAME refused.2).lookup "bob" = none ∧
      (Ios.ProtocolStorage.get .IDENTITES_JSON_FILENAME refused.2).lookup "bob" = none := by
  decide +kernel

end Lost
end PillarSignal
