import PillarSignal.Properties.PreKeyBatches

namespace PillarSignal

open Storage

variable {verify : Verify}

namespace Android

open ProtocolStorage StorageFile

variable {p : Platform} {files : Files} {pair : KeyPair} {signed : SignedPreKeyRecord}

structure Owns (p : Platform) (pair : KeyPair) (signed : SignedPreKeyRecord) (files : Files) : Prop where
  identity : getIdentityKeyPair p files = some pair
  signedPreKey : loadSignedPreKey p 0 files = some signed

theorem Owns.congr {after : Files} (owns : Owns p pair signed files)
    (identity : entry p LOCAL_JSON_FILENAME "identityKeyPair" after = entry p LOCAL_JSON_FILENAME "identityKeyPair" files)
    (signedPreKeys : readObject p SIGNED_PRE_KEYS_JSON_FILENAME after = readObject p SIGNED_PRE_KEYS_JSON_FILENAME files) :
    Owns p pair signed after where
  identity := (getIdentityKeyPair_congr identity).2.trans owns.identity
  signedPreKey := (loadSignedPreKey_congr signedPreKeys 0).trans owns.signedPreKey

theorem Owns.register_eq (owns : Owns p pair signed files) (batch : Batch verify) :
    batch.register p files =
      (⟨SignalClient.loadLastResort p batch.generated files, batch.generated.preKeys toInt batch.start batch.count.toNat,
        pair.publicKey, signed⟩,
       SignalClient.storePreKeys p (batch.generated.preKeys toInt batch.start batch.count.toNat) files) := by
  have named : SignalClient.loadIdentity p batch.generated files = (pair, files) := by
    rw [SignalClient.loadIdentity, owns.identity]
  have updates := @SignalClient.storePreKeys_updates p (batch.generated.preKeys toInt batch.start batch.count.toNat) files
  have kept := (loadSignedPreKey_congr
    (updates.readObject_of_ne (show PRE_KEYS_JSON_FILENAME ≠ SIGNED_PRE_KEYS_JSON_FILENAME by decide)) 0).trans owns.signedPreKey
  rw [Batch.register, SignalClient.registerPreKeys, named]
  dsimp only
  rw [SignalClient.loadSigned, kept]

theorem Owns.register (owns : Owns p pair signed files) (batch : Batch verify) :
    Owns p pair signed (batch.register p files).2 := by
  have updates := @SignalClient.storePreKeys_updates p (batch.generated.preKeys toInt batch.start batch.count.toNat) files
  rw [owns.register_eq]
  exact owns.congr
    (entry_congr (updates.readObject_of_ne (show PRE_KEYS_JSON_FILENAME ≠ LOCAL_JSON_FILENAME by decide)) _)
    (updates.readObject_of_ne (show PRE_KEYS_JSON_FILENAME ≠ SIGNED_PRE_KEYS_JSON_FILENAME by decide))

theorem Operation.run_owns (operation : Operation verify) (contained : operation.Contained) (ready : Ready p files)
    (unwiped : operation.wipes p files = false) (owns : Owns p pair signed files) :
    Owns p pair signed (operation.run p files) := by
  rcases operation.run_cases contained ready with keeps | ⟨wiped, _⟩ | ⟨left, username, draw, which, _, same⟩ | ⟨batch, _, same⟩
  · exact owns.congr (entry_congr keeps.user _) keeps.signedPreKeys
  · rw [unwiped] at wiped
    cases wiped
  · rcases which with rfl | ⟨wiped, _⟩
    · rw [same]
      exact owns.congr (SignalClient.entry_registerAccount p username draw ready (by decide))
        ((SignalClient.registerAccount_updates p username draw left).readObject_of_ne (by decide))
    · rw [unwiped] at wiped
      cases wiped
  · rw [same]
    exact owns.register batch

theorem runs_owns {operations : List (Operation verify)} (owns : Owns p pair signed files)
    (contained : ∀ operation ∈ operations, operation.Contained)
    (ready : ∀ done, done <+: operations → Ready p (runs p done files)) (unwiped : Unwiped p files operations) :
    Owns p pair signed (runs p operations files) :=
  runs_invariant (fun reached operation contained ready (unwiped : operation.wipes p reached = false) =>
    operation.run_owns contained ready unwiped) owns operations contained ready unwiped

end Android

namespace Ios

open ProtocolStorage DownloadsType SignalClient

variable {p : Platform} {archives : Archives} {pair : KeyPair} {signed : SignedPreKeyRecord}

structure Owns (p : Platform) (pair : KeyPair) (signed : SignedPreKeyRecord) (archives : Archives) : Prop where
  identity : getIdentityKeyPair p archives = some pair
  signedPreKey : loadSignedPreKey p 1 archives = some signed

theorem Owns.keeps {after : Archives} (owns : Owns p pair signed archives) (keeps : KeepsKeys archives after) :
    Owns p pair signed after where
  identity := (getIdentityKeyPair_congr keeps.identity).trans owns.identity
  signedPreKey := (loadSignedPreKey_congr keeps.signedPreKeys 1).trans owns.signedPreKey

theorem Batch.owns_upload {batch : Batch verify} {upload : Upload} {after : Archives}
    (sent : batch.register p archives = (.upload upload, after)) :
    ∃ pair, pair.publicKey = upload.identityKey ∧ Owns p pair upload.signedPreKey after := by
  rcases @Batch.register_cases verify p batch archives with ⟨lastResortKey, signedPreKey, same, _, signed⟩ | ⟨none_sent, _⟩
  · rw [same] at sent
    cases sent
    refine ⟨batch.identity p archives, rfl, ?_, ?_⟩
    · rw [Batch.signed, identity_loadSigned, batch.identity_stored]
    · rw [← signed, Batch.signed, loadSigned_stored]
  · exact absurd (congrArg Prod.fst sent) (none_sent upload)

theorem Owns.loadIdentity_eq (owns : Owns p pair signed archives) (generated : Generated verify) :
    SignalClient.loadIdentity p generated archives = (pair, archives) := by
  rw [SignalClient.loadIdentity, owns.identity]

theorem Owns.register (owns : Owns p pair signed archives) (batch : Batch verify) :
    Owns p pair signed (batch.register p archives).2 := by
  have named := owns.loadIdentity_eq batch.generated
  have stored : Owns p pair signed (batch.signed p archives).2 := by
    refine ⟨?_, ?_⟩
    · rw [Batch.signed, identity_loadSigned, batch.identity_stored, Batch.identity, named]
    · have kept : loadSignedPreKey p 1 (batch.stored p archives) = some signed := by
        rw [Batch.stored, loadSignedPreKey_congr (get_storePreKeys (by decide) ..), named]
        exact owns.signedPreKey
      obtain ⟨data, found, decoded⟩ := Option.bind_eq_some_iff.mp kept
      rw [Batch.signed, SignalClient.loadSigned, found]
      exact kept
  rcases @Batch.register_cases verify p batch archives with ⟨_, _, same, _⟩ | ⟨_, same | same⟩ <;> rw [same]
  · exact stored
  · rw [named]
    exact owns
  · exact stored

theorem Owns.upload (owns : Owns p pair signed archives) {batch : Batch verify} {upload : Upload} {after : Archives}
    (sent : batch.register p archives = (.upload upload, after)) :
    upload.identityKey = pair.publicKey ∧ upload.signedPreKey = signed := by
  have kept := owns.register batch
  obtain ⟨other, publicKey, own⟩ := Batch.owns_upload sent
  rw [sent] at kept
  have same_pair := kept.identity.symm.trans own.identity
  have same_signed := kept.signedPreKey.symm.trans own.signedPreKey
  cases same_pair
  cases same_signed
  exact ⟨publicKey.symm, rfl⟩

theorem Operation.run_owns (operation : Operation verify) (unwiped : operation.wipes archives = false)
    (owns : Owns p pair signed archives) : Owns p pair signed (operation.run p archives) := by
  rcases operation.run_cases (p := p) archives with keeps | ⟨wiped, _⟩ | ⟨batch, same⟩
  · exact owns.keeps keeps
  · rw [unwiped] at wiped
    cases wiped
  · rw [same]
    exact owns.register batch

theorem runs_owns {operations : List (Operation verify)} (owns : Owns p pair signed archives)
    (unwiped : Unwiped p archives operations) : Owns p pair signed (runs p operations archives) :=
  foldl_invariant (fun reached operation owns (allowed : operation.wipes reached = false) =>
    operation.run_owns allowed owns) owns (fun done operation below => unwiped done operation below) operations List.prefix_rfl

theorem runs_append (p : Platform) (done more : List (Operation verify)) (archives : Archives) :
    runs p (done ++ more) archives = runs p more (runs p done archives) := List.foldl_append

end Ios

/-- From one upload of keys to the next deletion of the protocol storage, the device has one identity key pair, and
    every upload carries its public key and one signed pre key. -/
theorem identity_is_stable (verify : Verify) :
    (∀ (p : Android.Platform) (files : Android.Files) (operations : List (Android.Operation verify)),
      Android.Coherent verify p files → (∀ operation ∈ operations, operation.Contained) →
      (∀ done, done <+: operations → Android.ProtocolStorage.Ready p (Android.runs p done files)) →
      ∀ done first batch, done ++ [first] <+: operations → first.batch p (Android.runs p done files) = some batch →
        let upload := (batch.register p (Android.runs p done files)).1
        ∃ pair : KeyPair, pair.publicKey = upload.identityKey ∧
          ∀ middle, done ++ [first] ++ middle <+: operations →
            Android.Unwiped p (Android.runs p (done ++ [first]) files) middle →
            let reached := Android.runs p (done ++ [first] ++ middle) files
            Android.ProtocolStorage.getIdentityKeyPair p reached = some pair ∧
              ∀ (later : Android.Operation verify) (next : Android.Batch verify), later.batch p reached = some next →
                (next.register p reached).1.identityKey = upload.identityKey ∧
                (next.register p reached).1.signedPreKey = upload.signedPreKey) ∧
    ∀ (p : Ios.Platform) (archives : Ios.Archives) (done : List (Ios.Operation verify)) (first : Ios.Operation verify)
      (batch : Ios.Batch verify) (upload : Upload) (after : Ios.Archives),
      first.batch p (Ios.runs p done archives) = some batch →
      batch.register p (Ios.runs p done archives) = (.upload upload, after) →
        ∃ pair : KeyPair, pair.publicKey = upload.identityKey ∧
          ∀ middle, Ios.Unwiped p (Ios.runs p (done ++ [first]) archives) middle →
            let reached := Ios.runs p (done ++ [first] ++ middle) archives
            Ios.ProtocolStorage.getIdentityKeyPair p reached = some pair ∧
              ∀ (later : Ios.Operation verify) (next : Ios.Batch verify) (sent : Upload) (left : Ios.Archives),
                later.batch p reached = some next → next.register p reached = (.upload sent, left) →
                  sent.identityKey = upload.identityKey ∧ sent.signedPreKey = upload.signedPreKey := by
  constructor
  · intro p files operations coherent contained ready done first batch below asked upload
    have front : done <+: operations := (List.prefix_append done [first]).trans below
    have reached := Android.runs_coherent coherent done (fun operation member => contained operation (front.subset member))
      (fun before shorter => ready before (shorter.trans front))
    have registered := reached.registered (ready done front) batch
    obtain ⟨pair, identity, publicKey, _⟩ := registered.identityKey
    have owns : Android.Owns p pair upload.signedPreKey (Android.runs p (done ++ [first]) files) := by
      rw [Android.runs_snoc, Android.Operation.batch_run asked]
      exact ⟨identity, registered.signedPreKey.1⟩
    refine ⟨pair, publicKey, fun middle longer unwiped => ?_⟩
    have kept := Android.runs_owns owns (fun operation member => contained operation (longer.subset (by simp [member])))
      (fun before shorter => by
        rw [← Android.runs_append]
        exact ready _ ((List.prefix_append_right_inj _).mpr shorter |>.trans longer)) unwiped
    rw [← Android.runs_append] at kept
    refine ⟨kept.identity, fun later next _ => ?_⟩
    rw [kept.register_eq]
    exact ⟨publicKey, rfl⟩
  · intro p archives done first batch upload after asked sent
    obtain ⟨pair, publicKey, owns⟩ := Ios.Batch.owns_upload sent
    have start : Ios.runs p (done ++ [first]) archives = after := by
      rw [Ios.runs_snoc, Ios.Operation.batch_run asked, sent]
    refine ⟨pair, publicKey, fun middle unwiped => ?_⟩
    rw [start] at unwiped
    have kept := Ios.runs_owns owns unwiped
    rw [← start, ← Ios.runs_append] at kept
    refine ⟨kept.identity, fun later next sent left _ again => ?_⟩
    obtain ⟨same_identity, same_signed⟩ := kept.upload again
    exact ⟨same_identity.trans publicKey, same_signed⟩

section Again

def secondIosUpload : Upload :=
  { firstIosUpload with
    lastResortKey := ⟨Ios.SignalClient.lastPreKeyIndex, otherKeys.lastResortKeyPair⟩
    preKeys := otherKeys.preKeys Ios.SignalClient.unsigned 1 100 }

def androidBetween : List (Android.Operation everySignature) := [.registerAccount "bob" ⟨8, [2]⟩, Android.refilled]

def iosBetween : List (Ios.Operation everySignature) := [.createClient "bob" ⟨true, some 8, ""⟩, iosRefilled]

theorem mem_androidBetween {operation : Android.Operation everySignature}
    (member : operation ∈ firstStart ++ [registered] ++ androidBetween) : operation.OfAccount ∧ operation.Contained := by
  simp only [firstStart, androidBetween, List.cons_append, List.nil_append, List.mem_cons, List.not_mem_nil,
    or_false] at member
  rcases member with rfl | rfl | rfl | rfl <;> exact ⟨trivial, trivial⟩

theorem androidBetween_unwiped (files : Android.Files) : Android.Unwiped .plain files androidBetween := by
  intro done operation below
  have member : operation ∈ androidBetween := below.subset (by simp)
  simp only [androidBetween, List.mem_cons, List.not_mem_nil, or_false] at member
  rcases member with rfl | rfl <;> rfl

/-- A second batch, for which other keys are drawn, carries the identity of the first, after the account was set up
    once more and keys were refilled. -/
theorem second_upload_same_identity :
    (let first := (firstBatch.register .plain (Android.runs .plain firstStart Android.noFiles)).1
     let second := ((⟨otherKeys, 0, 100⟩ : Android.Batch everySignature).register .plain
       (Android.runs .plain (firstStart ++ [registered] ++ androidBetween) Android.noFiles)).1
     second.identityKey = first.identityKey ∧ second.signedPreKey = first.signedPreKey) ∧
    ((⟨otherKeys, 1, 100⟩ : Ios.Batch everySignature).register .plain
        (Ios.runs .plain (firstIosStart ++ [iosRegistered] ++ iosBetween) fun _ => none)).1 = .upload secondIosUpload ∧
      secondIosUpload.identityKey = firstIosUpload.identityKey ∧
      secondIosUpload.signedPreKey = firstIosUpload.signedPreKey := by
  constructor
  · obtain ⟨pair, _, stable⟩ := (identity_is_stable everySignature).1 .plain Android.noFiles
      (firstStart ++ [registered] ++ androidBetween) (Android.coherent_of_empty Android.ProtocolStorage.noFiles_empty)
      (fun operation member => (mem_androidBetween member).2)
      (Android.runs_ready Android.ProtocolStorage.noFiles_ready fun operation member => (mem_androidBetween member).1)
      firstStart registered firstBatch (List.prefix_append _ _) rfl
    exact (stable androidBetween List.prefix_rfl (androidBetween_unwiped _)).2
      (.accountAnswered (.answered ⟨200, none⟩) otherKeys) ⟨otherKeys, 0, 100⟩ rfl
  · have with_second : ∀ {result : Ios.SignalClient.Registering × Ios.Archives} {made : Ios.SignalClient.Registering},
        result.1 = made → result = (made, result.2) := fun same => Prod.ext same rfl
    have facts : (firstIosBatch.register .plain (Ios.runs .plain firstIosStart fun _ => none)).1 = .upload firstIosUpload ∧
        ((⟨otherKeys, 1, 100⟩ : Ios.Batch everySignature).register .plain
          (Ios.runs .plain (firstIosStart ++ [iosRegistered] ++ iosBetween) fun _ => none)).1 = .upload secondIosUpload ∧
        Ios.Operation.wipes (Ios.runs .plain (firstIosStart ++ [iosRegistered]) fun _ => none)
          (.createClient "bob" ⟨true, some 8, ""⟩ : Ios.Operation everySignature) = false := by
      decide +kernel
    obtain ⟨first, second, checking⟩ := facts
    obtain ⟨pair, _, stable⟩ := (identity_is_stable everySignature).2 .plain (fun _ => none) firstIosStart iosRegistered
      firstIosBatch firstIosUpload _ rfl (with_second first)
    have asked : ∀ archives, (Ios.Operation.accountAnswered (.answered 204 []) otherKeys).batch .plain archives =
        some ⟨otherKeys, 1, 100⟩ := fun _ => rfl
    have unwiped : Ios.Unwiped .plain (Ios.runs .plain (firstIosStart ++ [iosRegistered]) fun _ => none) iosBetween := by
      intro done operation below
      obtain ⟨i, short, rfl, occurs⟩ := Storage.snoc_prefix_take below
      have size : iosBetween.length = 2 := rfl
      have places : i = 0 ∨ i = 1 := by omega
      rcases places with rfl | rfl <;> cases occurs
      · rw [List.take_zero, Ios.runs, List.foldl_nil]
        exact checking
      · rfl
    have kept := (stable iosBetween unwiped).2 _ _ secondIosUpload _ (asked _) (with_second second)
    exact ⟨second, kept⟩

end Again
end PillarSignal
