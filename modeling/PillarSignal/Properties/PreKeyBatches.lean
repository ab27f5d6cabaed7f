import PillarSignal.Properties.PreKeyIds
import PillarSignal.Properties.IosRegistration

namespace PillarSignal

open Storage

variable {verify : Verify}

namespace Android

open ProtocolStorage StorageFile

variable {p : Platform}

def KeyStep.batch (p : Platform) (files : Files) : KeyStep verify → Option (Batch verify)
  | .client operation => operation.batch p files
  | .consumed _ => none

/-- A batch replaces no stored pre key, and no key of its own. -/
structure Batch.Apart (p : Platform) (batch : Batch verify) (files : Files) : Prop where
  kept : ∀ key, (entry p PRE_KEYS_JSON_FILENAME key files).isSome →
    entry p PRE_KEYS_JSON_FILENAME key (batch.register p files).2 = entry p PRE_KEYS_JSON_FILENAME key files
  distinct : batch.ids.Nodup

/-- A registration finds none of its 100 ids in use, and a refill ends before the ids start again. -/
def KeyStep.Room (p : Platform) (files : Files) : KeyStep verify → Prop
  | .client (.accountAnswered _ _) => ∀ id, 0 ≤ id → id < 100 → ¬ Stores p id files
  | .client (.checkRemotePreKeys exchange generated) => ∀ last batch, getLastPreKeyIndex p files = .ok last →
      (Operation.checkRemotePreKeys exchange generated).batch p files = some batch →
      last + batch.count ≤ MEDIUM_MAX_VALUE - 1
  | _ => True

theorem Batch.apart_of_unused {files : Files} (batch : Batch verify) (ready : Ready p files) (numbered : Numbered p files)
    (unused : ∀ id ∈ batch.ids, ¬ Stores p id files) (distinct : batch.ids.Nodup) : batch.Apart p files := by
  refine ⟨fun key stored => (batch.entry_register ready numbered.parsed key).1 fun member => ?_, distinct⟩
  obtain ⟨id, made, rfl⟩ := List.mem_map.mp member
  exact unused id made stored

theorem checkRemotePreKeys_refill {exchange : Exchange} {files : Files} {start count : Int}
    (refill : SignalClient.checkRemotePreKeys p exchange files = .refill start count) :
    ∃ last, getLastPreKeyIndex p files = .ok last ∧ start = toInt (last + 1) := by
  unfold SignalClient.checkRemotePreKeys at refill
  split at refill
  · cases refill
  · cases refill
  · dsimp only at refill
    split at refill
    · split at refill
      · rename_i last found
        cases refill
        exact ⟨last, found, rfl⟩
      · cases refill
    · cases refill

theorem KeyStep.apart {files : Files} (step : KeyStep verify) (ready : Ready p files) (numbered : Numbered p files)
    (room : step.Room p files) {batch : Batch verify} (asked : step.batch p files = some batch) : batch.Apart p files := by
  rcases step with operation | preKeyId
  · cases operation with
    | accountAnswered exchange generated =>
      have same : batch = ⟨generated, 0, 100⟩ := by
        cases exchange <;> cases asked
        rfl
      have ids : batch.ids = consecutive 0 100 := by
        rw [same]
        exact Batch.ids_eq _ (show (0 : Int) ≤ 0 by decide) (show (0 : Int) - 1 + 100 ≤ MEDIUM_MAX_VALUE - 1 by decide)
      refine batch.apart_of_unused ready numbered (fun id made => ?_) ?_ <;> rw [ids] at *
      · obtain ⟨low, high⟩ := mem_consecutive.mp made
        exact room id low (by omega)
      · exact nodup_consecutive ..
    | checkRemotePreKeys exchange generated =>
      obtain ⟨last, found, low, bounds, _⟩ := numbered.last
      have fits := room last batch found asked
      have start : batch.start = toInt (last + 1) := by
        rw [KeyStep.batch, Operation.batch] at asked
        split at asked
        · rename_i refill
          obtain ⟨other, again, same⟩ := checkRemotePreKeys_refill refill
          rw [found] at again
          cases again
          cases asked
          exact same
        · cases asked
      by_cases some_keys : batch.count ≤ 0
      · have none_made : batch.ids = [] := by
          rw [Batch.ids, Int.toNat_of_nonpos some_keys]
          rfl
        exact batch.apart_of_unused ready numbered (by simp [none_made]) (by simp [none_made])
      · have size : (batch.count.toNat : Int) = batch.count := by omega
        simp only [MEDIUM_MAX_VALUE] at fits
        rw [toInt_of_small (by omega) (by omega)] at start
        have ids := batch.ids_eq (by omega) (by simp only [MEDIUM_MAX_VALUE]; omega)
        refine batch.apart_of_unused ready numbered (fun id made stored => ?_) ?_ <;> rw [ids] at *
        · have above := (mem_consecutive.mp made).1
          have below := bounds id stored
          omega
        · exact nodup_consecutive ..
    | _ => cases asked
  · cases asked

end Android

namespace Ios

open ProtocolStorage DownloadsType SignalClient

variable {p : Platform}

def Stores (id : Int) (archives : Archives) : Prop :=
  ((ProtocolStorage.get PRE_KEYS_JSON_FILENAME archives).lookup (Decimal.toText id)).isSome

def Numbered (archives : Archives) : Prop :=
  ∀ key, ((ProtocolStorage.get PRE_KEYS_JSON_FILENAME archives).lookup key).isSome →
    ∃ id, key = Decimal.toText id ∧ 0 ≤ id ∧ id < 2 ^ 32

def Batch.ids (batch : Batch verify) : List Int := preKeyIds unsigned batch.start batch.count.toNat

theorem lookup_storePreKeys (preKeys : List PreKeyRecord) (archives : Archives) (key : String)
    (absent : key ∉ preKeys.map fun record => Decimal.toText record.id) :
    (ProtocolStorage.get PRE_KEYS_JSON_FILENAME (storePreKeys p preKeys archives)).lookup key =
      (ProtocolStorage.get PRE_KEYS_JSON_FILENAME archives).lookup key := by
  unfold storePreKeys
  induction preKeys generalizing archives with
  | nil => rfl
  | cons record preKeys ih =>
    simp only [List.map_cons, List.mem_cons, not_or] at absent
    rw [List.foldl_cons, ih _ absent.2, PreKeyStorePillar.store, storeData, get_save, if_pos rfl, lookup_put,
      if_neg (Ne.symm absent.1)]

theorem Batch.lookup_register (batch : Batch verify) (archives : Archives) {key : String}
    (absent : key ∉ batch.ids.map Decimal.toText) :
    (ProtocolStorage.get PRE_KEYS_JSON_FILENAME (batch.register p archives).2).lookup key =
      (ProtocolStorage.get PRE_KEYS_JSON_FILENAME archives).lookup key := by
  have named := @get_loadIdentity p verify batch.generated PRE_KEYS_JSON_FILENAME (by decide) archives
  have signed : (ProtocolStorage.get PRE_KEYS_JSON_FILENAME (batch.signed p archives).2).lookup key =
      (ProtocolStorage.get PRE_KEYS_JSON_FILENAME archives).lookup key := by
    rw [Batch.signed, get_loadSigned batch.generated (by decide), Batch.stored, lookup_storePreKeys, named]
    rwa [Batch.ids, ← Generated.preKeys_ids batch.generated, List.map_map] at absent
  rcases @Batch.register_cases verify p batch archives with ⟨_, _, same, _⟩ | ⟨_, same | same⟩ <;> rw [same]
  · exact signed
  · rw [named]
  · exact signed

theorem numbered_of_empty {archives : Archives} (empty : ProtocolStorage.get PRE_KEYS_JSON_FILENAME archives = []) :
    Numbered archives := by
  intro key stored
  rw [empty] at stored
  cases stored

theorem Numbered.keeps {before after : Archives} (numbered : Numbered before) (keeps : KeepsKeys before after) :
    Numbered after := by
  intro key stored
  rcases keeps.preKeys key with gone | same
  · rw [gone] at stored
    cases stored
  · rw [same] at stored
    exact numbered key stored

theorem Numbered.register {archives : Archives} (numbered : Numbered archives) (batch : Batch verify) :
    Numbered (batch.register p archives).2 := by
  intro key stored
  by_cases member : key ∈ batch.ids.map Decimal.toText
  · obtain ⟨id, made, rfl⟩ := List.mem_map.mp member
    obtain ⟨i, _, rfl⟩ := List.mem_map.mp made
    have bounds := preKeyId_bounds unsigned batch.start i
    have positive : 0 < preKeyId unsigned batch.start i := by
      have nonneg := Int.tmod_nonneg (MEDIUM_MAX_VALUE - 1)
        (Int.emod_nonneg (batch.start - 1 + i) (show (2 : Int) ^ 32 ≠ 0 by decide))
      unfold preKeyId unsigned
      omega
    simp only [MEDIUM_MAX_VALUE] at bounds
    exact ⟨_, rfl, by omega, by omega⟩
  · rw [batch.lookup_register archives member] at stored
    exact numbered key stored

theorem Numbered.last {archives : Archives} (numbered : Numbered archives) :
    ∃ last, PreKeyStorePillar.getLastPreKeyIndex archives = some last ∧ 0 ≤ last ∧
      ∀ id, Stores id archives → id ≤ last := by
  have each : ∀ row ∈ ProtocolStorage.get PRE_KEYS_JSON_FILENAME archives,
      ((Decimal.readInt row.1.toList).filter fun n => 0 ≤ n ∧ n < 2 ^ 32) = pure (Decimal.ofText row.1) := by
    rintro ⟨key, value⟩ member
    obtain ⟨id, rfl, low, high⟩ := numbered key (lookup_isSome_of_mem member)
    rw [Decimal.ofText_toText, Decimal.toText, String.toList_ofList, Decimal.readInt_intText]
    simp only [Option.filter, low, high, and_self, decide_true, if_true]
    rfl
  obtain ⟨above, bounds, _⟩ := largest_spec 0
    ((ProtocolStorage.get PRE_KEYS_JSON_FILENAME archives).map fun row => Decimal.ofText row.1)
  refine ⟨_, foldlM_largest _ each 0, above, fun id stored => bounds id ?_⟩
  obtain ⟨value, found⟩ := Option.isSome_iff_exists.mp stored
  exact List.mem_map.mpr ⟨_, mem_of_lookup found, Decimal.ofText_toText id⟩

inductive KeyStep (verify : Verify) where
  | client (operation : Operation verify)
  | consumed (preKey : Int)

namespace KeyStep

def run (p : Platform) (archives : Archives) : KeyStep verify → Archives
  | .client operation => operation.run p archives
  | .consumed preKey => PreKeyStorePillar.remove preKey archives

def runs (p : Platform) (steps : List (KeyStep verify)) (archives : Archives) : Archives :=
  steps.foldl (KeyStep.run p) archives

def batch (p : Platform) (archives : Archives) : KeyStep verify → Option (Batch verify)
  | .client operation => operation.batch p archives
  | .consumed _ => none

def Room (p : Platform) (archives : Archives) : KeyStep verify → Prop
  | .client (.accountAnswered _ _) => ∀ id, 1 ≤ id → id ≤ 100 → ¬ Stores id archives
  | .client (.checkPreKeys store exchange generated) => ∀ last batch,
      PreKeyStorePillar.getLastPreKeyIndex archives = some last →
      (Operation.checkPreKeys store exchange generated).batch p archives = some batch →
      last + batch.count ≤ MEDIUM_MAX_VALUE - 1
  | _ => True

theorem run_numbered {archives : Archives} (step : KeyStep verify) (numbered : Numbered archives) :
    Numbered (step.run p archives) := by
  rcases step with operation | preKey
  · rw [KeyStep.run]
    rcases operation.run_cases (p := p) archives with keeps | ⟨_, empty, _⟩ | ⟨batch, same⟩
    · exact numbered.keeps keeps
    · exact numbered_of_empty empty
    · rw [same]
      exact numbered.register batch
  · intro key stored
    rw [KeyStep.run, PreKeyStorePillar.remove, get_save, if_pos rfl, lookup_erase] at stored
    split at stored
    · cases stored
    · exact numbered key stored

theorem runs_numbered {archives : Archives} (numbered : Numbered archives) (steps : List (KeyStep verify)) :
    Numbered (runs p steps archives) :=
  foldl_invariant (fun _ step numbered (_ : True) => step.run_numbered numbered) numbered (fun _ _ _ => trivial) steps
    List.prefix_rfl

end KeyStep

structure Batch.Apart (p : Platform) (batch : Batch verify) (archives : Archives) : Prop where
  kept : ∀ key, ((ProtocolStorage.get PRE_KEYS_JSON_FILENAME archives).lookup key).isSome →
    (ProtocolStorage.get PRE_KEYS_JSON_FILENAME (batch.register p archives).2).lookup key =
      (ProtocolStorage.get PRE_KEYS_JSON_FILENAME archives).lookup key
  distinct : batch.ids.Nodup

theorem Batch.apart_of_consecutive {archives : Archives} (batch : Batch verify) (low : 1 ≤ batch.start)
    (high : batch.start - 1 + batch.count.toNat ≤ MEDIUM_MAX_VALUE - 1)
    (unused : ∀ id, batch.start ≤ id → id < batch.start + batch.count.toNat → ¬ Stores id archives) :
    batch.Apart p archives := by
  have ids : batch.ids = consecutive batch.start batch.count.toNat := by
    apply preKeyIds_consecutive (fun i below => ?_) (by omega) high
    simp only [MEDIUM_MAX_VALUE] at high
    exact Int.emod_eq_of_lt (by omega) (by omega)
  refine ⟨fun key stored => batch.lookup_register archives fun member => ?_, ids ▸ nodup_consecutive ..⟩
  obtain ⟨id, made, rfl⟩ := List.mem_map.mp member
  rw [ids, mem_consecutive] at made
  exact unused id made.1 made.2 stored

theorem KeyStep.apart {archives : Archives} (step : KeyStep verify) (numbered : Numbered archives)
    (room : step.Room p archives) {batch : Batch verify} (asked : step.batch p archives = some batch) :
    batch.Apart p archives := by
  rcases step with operation | preKey
  · cases operation with
    | accountAnswered exchange generated =>
      have same : batch = ⟨generated, 1, 100⟩ := by
        rw [KeyStep.batch, Operation.batch] at asked
        split at asked <;> cases asked
        rfl
      subst same
      exact Batch.apart_of_consecutive _ (show (1 : Int) ≤ 1 by decide)
        (show (1 : Int) - 1 + 100 ≤ MEDIUM_MAX_VALUE - 1 by decide) fun id low high => room id low (Int.lt_add_one_iff.mp high)
    | checkPreKeys store exchange generated =>
      obtain ⟨last, found, low, bounds⟩ := numbered.last
      have fits := room last batch found asked
      rw [KeyStep.batch, Operation.batch] at asked
      split at asked
      · obtain ⟨⟨start, count⟩, checked, rfl⟩ := Option.map_eq_some_iff.mp asked
        obtain ⟨some_keys, other, again, rfl⟩ := checkPreKeys_start checked
        rw [found] at again
        cases again
        dsimp only at fits
        refine Batch.apart_of_consecutive _ (by dsimp only; omega) (by dsimp only; omega) fun id above _ stored => ?_
        have below := bounds id stored
        dsimp only at above
        omega
      · cases asked
    | _ => cases asked
  · cases asked

end Ios

/-- In every state that is reached, a batch that finds room replaces no stored pre key and no key of its own. -/
theorem batches_replace_nothing (verify : Verify) :
    (∀ (p : Android.Platform) (files : Android.Files) (steps : List (Android.KeyStep verify)),
      Android.Numbered p files → (∀ step ∈ steps, step.Contained) →
      (∀ done, done <+: steps → Android.ProtocolStorage.Ready p (Android.KeyStep.runs p done files)) →
      ∀ done step batch, done ++ [step] <+: steps → step.Room p (Android.KeyStep.runs p done files) →
        step.batch p (Android.KeyStep.runs p done files) = some batch → batch.Apart p (Android.KeyStep.runs p done files)) ∧
    ∀ (p : Ios.Platform) (archives : Ios.Archives) (done : List (Ios.KeyStep verify)) (step : Ios.KeyStep verify)
      (batch : Ios.Batch verify), Ios.Numbered archives → step.Room p (Ios.KeyStep.runs p done archives) →
        step.batch p (Ios.KeyStep.runs p done archives) = some batch → batch.Apart p (Ios.KeyStep.runs p done archives) := by
  constructor
  · intro p files steps numbered contained ready done step batch below room asked
    have front : done <+: steps := (List.prefix_append done [step]).trans below
    exact step.apart (ready done front) (Android.KeyStep.runs_numbered numbered contained ready done front) room asked
  · intro p archives done step batch numbered room asked
    exact step.apart (Ios.KeyStep.runs_numbered numbered done) room asked

section Twice

def otherKeys : Generated everySignature where
  identityKeyPair := ⟨⟨[6]⟩, [6]⟩
  lastResortKeyPair := ⟨⟨[7]⟩, [7]⟩
  preKeyPair i := ⟨⟨8 :: List.replicate i 0⟩, [8]⟩
  signedKeyPair := ⟨⟨[9]⟩, [9]⟩
  signature _ := [10]
  signature_verifies _ := rfl
  preKeyPair_fresh i j same := by simpa using congrArg (fun key => key.bytes.length) same
  lastResort_fresh i same := by simpa using congrArg (fun key => key.bytes.head?) same

def refilledOnce : List (Android.Operation everySignature) := firstStart ++ [registered] ++ [Android.refilled]

theorem mem_refilledOnce {operation : Android.Operation everySignature} (member : operation ∈ refilledOnce) :
    operation.OfAccount ∧ operation.Contained := by
  simp only [refilledOnce, firstStart, List.cons_append, List.nil_append, List.mem_cons, List.not_mem_nil,
    or_false] at member
  rcases member with rfl | rfl | rfl <;> exact ⟨trivial, trivial⟩

def iosRefilled : Ios.Operation everySignature := .checkPreKeys true (.answered 200 "\x7b\"count\":5\x7d".toList) sampleKeys

/-- Both devices have their first 100 keys, and what they make next replaces none of them. -/
theorem refill_apart :
    (Android.Stores .plain 0 (Android.KeyStep.runs .plain ((firstStart ++ [registered]).map .client) Android.noFiles) ∧
      (⟨sampleKeys, 100, 100⟩ : Android.Batch everySignature).Apart .plain
        (Android.KeyStep.runs .plain ((firstStart ++ [registered]).map .client) Android.noFiles)) ∧
    Ios.Stores 1 (Ios.KeyStep.runs .plain ((firstIosStart ++ [iosRegistered]).map .client) fun _ => none) ∧
      (⟨sampleKeys, 101, 96⟩ : Ios.Batch everySignature).Apart .plain
        (Ios.KeyStep.runs .plain ((firstIosStart ++ [iosRegistered]).map .client) fun _ => none) := by
  constructor
  · have window := Android.registered_window
    rw [← Android.KeyStep.runs_client] at window
    have last := window.last (by decide)
    have asked := window.refill_batch (by decide) (by decide)
    refine ⟨(window.stored 0).mpr (by decide), ?_⟩
    refine (batches_replace_nothing everySignature).1 .plain Android.noFiles (refilledOnce.map .client)
      (Android.numbered_of_empty (Android.ProtocolStorage.noFiles_empty _))
      (Android.KeyStep.contained_client fun operation member => (mem_refilledOnce member).2)
      (Android.KeyStep.ready_client (Android.runs_ready Android.ProtocolStorage.noFiles_ready fun operation member =>
        (mem_refilledOnce member).1))
      _ (.client Android.refilled) _ ?_ ?_ asked
    · rw [refilledOnce, List.map_append]
      exact List.prefix_rfl
    · intro largest batch found also
      rw [last] at found
      cases found
      cases asked.symm.trans also
      decide
  · have facts : ((Ios.ProtocolStorage.get .PRE_KEYS_JSON_FILENAME (Ios.KeyStep.runs .plain
          ((firstIosStart ++ [iosRegistered]).map .client) fun _ => none)).lookup (Decimal.toText 1)).isSome = true ∧
        Ios.PreKeyStorePillar.getLastPreKeyIndex
          (Ios.KeyStep.runs .plain ((firstIosStart ++ [iosRegistered]).map .client) fun _ => none) = some 100 ∧
        Ios.SignalServer.call .plain (.answered 200 "\x7b\"count\":5\x7d".toList) = .success [("count", .num 5)] := by
      decide +kernel
    obtain ⟨stored, last, called⟩ := facts
    have asked : iosRefilled.batch .plain
        (Ios.KeyStep.runs .plain ((firstIosStart ++ [iosRegistered]).map .client) fun _ => none) =
          some ⟨sampleKeys, 101, 96⟩ := by
      rw [iosRefilled, Ios.Operation.batch, called]
      dsimp only
      rw [Ios.SignalClient.checkPreKeys]
      simp only [last]
      rfl
    refine ⟨stored, ?_⟩
    refine (batches_replace_nothing everySignature).2 .plain (fun _ => none) _ (.client iosRefilled) _
      (Ios.numbered_of_empty rfl) ?_ asked
    intro largest batch found also
    rw [last] at found
    cases found
    cases asked.symm.trans also
    decide

section Android

open Android Android.ProtocolStorage

def registeredTwice : List (Operation everySignature) := firstStart ++ [.registerAccount "bob" ⟨8, [2]⟩]

theorem registeredTwice_ready : Ready .plain (runs .plain registeredTwice noFiles) := by
  rw [registeredTwice, runs_snoc]
  exact Operation.run_ready (.registerAccount _ _) trivial firstStart_ready

theorem registeredTwice_coherent : Coherent everySignature .plain (runs .plain registeredTwice noFiles) := by
  rw [registeredTwice, runs_snoc]
  exact Operation.run_coherent (.registerAccount _ _) trivial firstStart_ready firstStart_coherent

theorem second_android_batch_replaces :
    loadPreKey .plain 0 (runs .plain (registeredTwice ++ [registered]) noFiles) = some ⟨0, sampleKeys.preKeyPair 0⟩ ∧
    loadPreKey .plain 0 (runs .plain (registeredTwice ++ [registered] ++
      [.accountAnswered (.answered ⟨200, none⟩) otherKeys]) noFiles) = some ⟨0, otherKeys.preKeyPair 0⟩ := by
  have missing : loadPreKey .plain 0 (runs .plain registeredTwice noFiles) = none := by decide +kernel
  have first := registeredTwice_coherent.registered registeredTwice_ready firstBatch
  have answered : runs .plain (registeredTwice ++ [registered]) noFiles =
      (firstBatch.register .plain (runs .plain registeredTwice noFiles)).2 := by
    rw [runs_snoc, Operation.batch_run (show registered.batch .plain _ = some firstBatch from rfl)]
  have one : loadPreKey .plain 0 (runs .plain (registeredTwice ++ [registered]) noFiles) =
      some ⟨0, sampleKeys.preKeyPair 0⟩ := by
    rw [answered, first.preKey, missing]
    decide +kernel
  have second := (first.coherent registeredTwice_coherent).registered (first.framed.ready registeredTwice_ready)
    (⟨otherKeys, 0, 100⟩ : Batch everySignature)
  refine ⟨one, ?_⟩
  rw [runs_snoc, Operation.batch_run (show Operation.batch .plain _
    (.accountAnswered (.answered ⟨200, none⟩) otherKeys) = some ⟨otherKeys, 0, 100⟩ from rfl), answered, second.preKey,
    ← answered, one]
  decide +kernel

end Android

/-- The second answer stores other keys under the ids that the server hands out for the first. -/
theorem second_batch_replaces_keys :
    (Android.ProtocolStorage.loadPreKey .plain 0 (Android.runs .plain (registeredTwice ++ [registered]) Android.noFiles) =
        some ⟨0, sampleKeys.preKeyPair 0⟩ ∧
      Android.ProtocolStorage.loadPreKey .plain 0 (Android.runs .plain (registeredTwice ++ [registered] ++
        [.accountAnswered (.answered ⟨200, none⟩) otherKeys]) Android.noFiles) = some ⟨0, otherKeys.preKeyPair 0⟩) ∧
    Ios.loadPreKey .plain 1 (Ios.runs .plain (firstIosStart ++ firstIosStart ++ [iosRegistered]) fun _ => none) =
        some ⟨1, sampleKeys.preKeyPair 0⟩ ∧
      Ios.loadPreKey .plain 1 (Ios.runs .plain (firstIosStart ++ firstIosStart ++ [iosRegistered] ++
        [.accountAnswered (.answered 204 []) otherKeys]) fun _ => none) = some ⟨1, otherKeys.preKeyPair 0⟩ :=
  ⟨second_android_batch_replaces, by decide +kernel, by decide +kernel⟩

end Twice
end PillarSignal
