import PillarSignal.Properties.AndroidUpload
import PillarSignal.Properties.IosUpload

namespace PillarSignal

open Storage

/-- In every run, an upload is backed by what is stored if and only if the last resort key was stored
    before it and no id occurs twice in it. On Android a store without that key never gets one. -/
theorem upload_backed_iff (verify : Verify) (android : Android.Platform) (ios : Ios.Platform) :
    (∀ (files : Android.Files) (done : List (Android.Operation verify)) (operation : Android.Operation verify)
      (batch : Android.Batch verify),
      Android.Coherent verify android files → (∀ one ∈ done, one.Contained) →
      (∀ before, before <+: done → Android.ProtocolStorage.Ready android (Android.runs android before files)) →
      operation.batch android (Android.runs android done files) = some batch →
      (Android.Backed verify android (batch.register android (Android.runs android done files)).1
          (Android.runs android (done ++ [operation]) files) ↔
        (Android.ProtocolStorage.loadPreKey android MEDIUM_MAX_VALUE (Android.runs android done files)).isSome ∧
          (preKeyIds Android.toInt batch.start batch.count.toNat).Nodup) ∧
      (Android.ProtocolStorage.loadPreKey android MEDIUM_MAX_VALUE files = none →
        ¬ Android.Backed verify android (batch.register android (Android.runs android done files)).1
          (Android.runs android (done ++ [operation]) files))) ∧
    (∀ (archives : Ios.Archives) (done : List (Ios.Operation verify)) (operation : Ios.Operation verify)
      (batch : Ios.Batch verify) (upload : Upload),
      Ios.Coherent verify ios archives → operation.batch ios (Ios.runs ios done archives) = some batch →
      batch.Fresh ios (Ios.runs ios done archives) →
      (batch.register ios (Ios.runs ios done archives)).1 = .upload upload →
      (Ios.Backed verify ios upload (Ios.runs ios (done ++ [operation]) archives) ↔
        (Ios.loadPreKey ios Ios.SignalClient.lastPreKeyIndex (Ios.runs ios done archives)).isSome ∧
          Ios.SignalClient.lastPreKeyIndex ∉ preKeyIds Ios.SignalClient.unsigned batch.start batch.count.toNat ∧
          (preKeyIds Ios.SignalClient.unsigned batch.start batch.count.toNat).Nodup)) := by
  constructor
  · intro files done operation batch coherent contained ready asked
    have reached := Android.runs_coherent coherent done contained ready
    have registered := reached.registered (ready done List.prefix_rfl) batch
    have backed := registered.backed_iff reached
    rw [Android.runs_snoc, Android.Operation.batch_run asked, backed]
    refine ⟨Iff.rfl, fun missing => ?_⟩
    simp [Android.runs_without_last_resort coherent missing done contained ready]
  · intro archives done operation batch upload coherent asked fresh sent
    have reached := Ios.runs_coherent coherent done
    have pair : batch.register ios (Ios.runs ios done archives) =
        (.upload upload, (batch.register ios (Ios.runs ios done archives)).2) := by rw [← sent]
    rw [Ios.runs_snoc, Ios.Operation.batch_run asked]
    exact Ios.Batch.backed_iff reached fresh pair

section Unbacked

open Android.ProtocolStorage (noFiles_ready noFiles_empty)

def storedPair : KeyPair := ⟨⟨[9]⟩, [9]⟩

def lastResortFiles : Android.Files :=
  Android.SignalClient.storePreKeys .plain [⟨MEDIUM_MAX_VALUE, storedPair⟩] Android.noFiles

theorem lastResortFiles_coherent : Android.Coherent everySignature .plain lastResortFiles where
  user := ⟨[], by decide +kernel⟩
  preKeys := (Android.SignalClient.storePreKeys_updates _ _).parsed noFiles_ready ⟨[], noFiles_empty _⟩
  signedPreKeys := ⟨[], by decide +kernel⟩
  identity _ := by decide +kernel
  preKey id record loaded := by
    rw [lastResortFiles, Android.loadPreKey_storePreKeys noFiles_ready ⟨[], noFiles_empty _⟩] at loaded
    refine lastWith_id (fun record stored => ?_) loaded
    rw [Android.ProtocolStorage.loadPreKey, Android.ProtocolStorage.loadRecord_eq, Android.ProtocolStorage.entry,
      noFiles_empty] at stored
    cases stored
  signedPreKey record loaded := by
    have none_stored : Android.ProtocolStorage.loadSignedPreKey .plain 0 lastResortFiles = none := by decide +kernel
    rw [none_stored] at loaded
    cases loaded

def lastResortArchives : Ios.Archives :=
  Ios.SignalClient.storePreKeys .plain [⟨Ios.SignalClient.lastPreKeyIndex, storedPair⟩] fun _ => none

def backedUpload : Upload :=
  ⟨⟨Ios.SignalClient.lastPreKeyIndex, storedPair⟩, sampleKeys.preKeys Ios.SignalClient.unsigned 1 100, ⟨[1]⟩,
    sampleKeys.signedPreKey sampleKeys.identityKeyPair 1⟩

theorem upload_backed_with_last_resort :
    Android.Backed everySignature .plain ((⟨sampleKeys, 0, 100⟩ : Android.Batch everySignature).register .plain lastResortFiles).1
      (Android.runs .plain [.accountAnswered (.answered ⟨200, none⟩) sampleKeys] lastResortFiles) ∧
    Ios.Backed everySignature .plain backedUpload
      (Ios.runs .plain [.accountAnswered (.answered 204 []) sampleKeys] lastResortArchives) := by
  constructor
  · have updates := @Android.SignalClient.storePreKeys_updates .plain [⟨MEDIUM_MAX_VALUE, storedPair⟩] Android.noFiles
    have backed := (upload_backed_iff everySignature .plain .plain).1 lastResortFiles []
      (.accountAnswered (.answered ⟨200, none⟩) sampleKeys) ⟨sampleKeys, 0, 100⟩ lastResortFiles_coherent (by simp)
      (fun before below => by rw [List.prefix_nil.mp below]; exact updates.framed.ready noFiles_ready) rfl
    exact backed.1.mpr (by decide +kernel)
  · have coherent : Ios.Coherent everySignature .plain lastResortArchives :=
      (Ios.coherent_of_empty rfl rfl).storePreKeys _
    have stored : Ios.loadPreKey .plain Ios.SignalClient.lastPreKeyIndex lastResortArchives =
        some ⟨Ios.SignalClient.lastPreKeyIndex, storedPair⟩ := by decide +kernel
    refine ((upload_backed_iff everySignature .plain .plain).2 lastResortArchives [] (.accountAnswered (.answered 204 []) sampleKeys)
      ⟨sampleKeys, 1, 100⟩ backedUpload coherent rfl (fun record found i same => ?_) (by decide +kernel)).mpr (by decide +kernel)
    change Ios.loadPreKey .plain Ios.SignalClient.lastPreKeyIndex lastResortArchives = some record at found
    rw [stored] at found
    cases found
    simpa [sampleKeys, storedPair] using congrArg (fun key => key.bytes.head?) same

section Android

open Android

def firstStart : List (Operation everySignature) := [.init ⟨some "https://host", some "bob", some "token"⟩ ⟨7, [1]⟩]

def registered : Operation everySignature := .accountAnswered (.answered ⟨200, none⟩) sampleKeys

def firstBatch : Batch everySignature := ⟨sampleKeys, 0, 100⟩

theorem firstStart_ready : ProtocolStorage.Ready .plain (runs .plain firstStart noFiles) := by
  rw [firstStart, runs, List.foldl_cons, List.foldl_nil, Operation.run]
  rcases @RNSignalClientModule.init_cases .plain ⟨some "https://host", some "bob", some "token"⟩ ⟨7, [1]⟩ noFiles with
    ⟨same, _⟩ | ⟨softReset, username, _, _, sent⟩
  · rw [same]
    exact noFiles_ready
  · rw [sent]
    have wiped := @RNSignalClientModule.wiped_ready .plain softReset noFiles noFiles_ready
    exact (SignalClient.registerAccount_updates .plain username ⟨7, [1]⟩ _).framed.ready wiped

theorem firstStart_coherent : Coherent everySignature .plain (runs .plain firstStart noFiles) :=
  Operation.run_coherent (.init _ _) trivial noFiles_ready (coherent_of_empty noFiles_empty)

theorem firstUpload_not_backed :
    ¬ Backed everySignature .plain (firstBatch.register .plain (runs .plain firstStart noFiles)).1
      (runs .plain (firstStart ++ [registered]) noFiles) := by
  have missing : ProtocolStorage.loadPreKey .plain MEDIUM_MAX_VALUE (runs .plain firstStart noFiles) = none := by
    decide +kernel
  rw [runs_snoc, Operation.batch_run (show registered.batch .plain _ = some firstBatch from rfl),
    (firstStart_coherent.registered firstStart_ready firstBatch).backed_iff firstStart_coherent, missing]
  simp

end Android

def firstIosStart : List (Ios.Operation everySignature) := [.createClient "bob" ⟨true, some 7, ""⟩]

def iosRegistered : Ios.Operation everySignature := .accountAnswered (.answered 204 []) sampleKeys

def firstIosBatch : Ios.Batch everySignature := ⟨sampleKeys, 1, 100⟩

def firstIosUpload : Upload :=
  { backedUpload with lastResortKey := ⟨Ios.SignalClient.lastPreKeyIndex, sampleKeys.lastResortKeyPair⟩ }

theorem fresh_upload_is_not_backed :
    (registered.batch .plain (Android.runs .plain firstStart Android.noFiles) = some firstBatch ∧
      ¬ Android.Backed everySignature .plain
        (firstBatch.register .plain (Android.runs .plain firstStart Android.noFiles)).1
        (Android.runs .plain (firstStart ++ [registered]) Android.noFiles)) ∧
    iosRegistered.batch .plain (Ios.runs .plain firstIosStart fun _ => none) = some firstIosBatch ∧
      (firstIosBatch.register .plain (Ios.runs .plain firstIosStart fun _ => none)).1 = .upload firstIosUpload ∧
      ¬ Ios.Backed everySignature .plain firstIosUpload
        (Ios.runs .plain (firstIosStart ++ [iosRegistered]) fun _ => none) := by
  refine ⟨⟨rfl, firstUpload_not_backed⟩, rfl, by decide +kernel, fun backed => ?_⟩
  obtain ⟨record, found, _⟩ := backed.lastResortKey
  have missing : Ios.loadPreKey .plain firstIosUpload.lastResortKey.id
      (Ios.runs .plain (firstIosStart ++ [iosRegistered]) fun _ => none) = none := by decide +kernel
  rw [missing] at found
  cases found

end Unbacked
end PillarSignal
