import PillarSignal.Storage.Run
import PillarSignal.Properties.Registration
import Mathlib.Data.List.Dedup

namespace PillarSignal.Android

open Storage ProtocolStorage StorageFile

variable {verify : Verify} {p : Platform}

def Stores (p : Platform) (id : Int) (files : Files) : Prop :=
  (entry p PRE_KEYS_JSON_FILENAME (valueOf id) files).isSome

def preKeyCount (p : Platform) (files : Files) : Nat :=
  match readObject p PRE_KEYS_JSON_FILENAME files with
  | .ok data => (data.map Prod.fst).dedup.length
  | .error _ => 0

structure Numbered (p : Platform) (files : Files) : Prop where
  parsed : Parsed p PRE_KEYS_JSON_FILENAME files
  numeric : ∀ key, (entry p PRE_KEYS_JSON_FILENAME key files).isSome → ∃ id, key = valueOf id ∧ -2 ^ 31 ≤ id ∧ id < 2 ^ 31

theorem numbered_of_empty {files : Files} (empty : readObject p PRE_KEYS_JSON_FILENAME files = .ok []) :
    Numbered p files := by
  refine ⟨⟨[], empty⟩, fun key stored => ?_⟩
  rw [entry, empty] at stored
  cases stored

theorem Numbered.congr {before after : Files} (numbered : Numbered p before)
    (same : readObject p PRE_KEYS_JSON_FILENAME after = readObject p PRE_KEYS_JSON_FILENAME before) : Numbered p after := by
  refine ⟨?_, fun key stored => numbered.numeric key ?_⟩
  · rw [Parsed, same]
    exact numbered.parsed
  · rwa [entry_congr same] at stored

theorem Numbered.keeps {before after : Files} (numbered : Numbered p before) (keeps : KeepsKeys p before after) :
    Numbered p after := by
  refine ⟨keeps.parsed numbered.parsed, fun key stored => numbered.numeric key ?_⟩
  rcases keeps.preKeys key with gone | same
  · rw [gone] at stored
    cases stored
  · rwa [same] at stored

section Batch

variable {files : Files}

theorem readObject_loadIdentity (generated : Generated verify) (files : Files) :
    readObject p PRE_KEYS_JSON_FILENAME (SignalClient.loadIdentity p generated files).2 =
      readObject p PRE_KEYS_JSON_FILENAME files :=
  (SignalClient.loadIdentity_updates generated files).readObject_of_ne (by decide)

theorem entry_storePreKeys (ready : Ready p files) (parsed : Parsed p PRE_KEYS_JSON_FILENAME files)
    (preKeys : List PreKeyRecord) (key : String) :
    (key ∉ preKeys.map (fun record => valueOf record.id) →
      entry p PRE_KEYS_JSON_FILENAME key (SignalClient.storePreKeys p preKeys files) =
        entry p PRE_KEYS_JSON_FILENAME key files) ∧
    (key ∈ preKeys.map (fun record => valueOf record.id) →
      (entry p PRE_KEYS_JSON_FILENAME key (SignalClient.storePreKeys p preKeys files)).isSome) := by
  induction preKeys using List.reverseRecOn with
  | nil => simp [SignalClient.storePreKeys]
  | append_singleton preKeys record ih =>
    have updates := @SignalClient.storePreKeys_updates p preKeys files
    have stored := entry_put (updates.framed.ready ready) (updates.parsed ready parsed) (valueOf record.id)
      (.str (p.texts.preKey.encode record)) PRE_KEYS_JSON_FILENAME key
    rw [SignalClient.storePreKeys, List.foldl_append, List.foldl_cons, List.foldl_nil, ← SignalClient.storePreKeys,
      storePreKey, storeRecord, stored]
    simp only [List.map_append, List.map_cons, List.map_nil, List.mem_append, List.mem_singleton, not_or, true_and]
    by_cases own : valueOf record.id = key
    · simp [own]
    · rw [if_neg own]
      refine ⟨fun absent => ih.1 absent.1, fun present => ih.2 (present.resolve_right (Ne.symm own))⟩

theorem readObject_register (batch : Batch verify) (files : Files) :
    readObject p PRE_KEYS_JSON_FILENAME (batch.register p files).2 =
      readObject p PRE_KEYS_JSON_FILENAME (SignalClient.storePreKeys p
        (batch.generated.preKeys toInt batch.start batch.count.toNat) (SignalClient.loadIdentity p batch.generated files).2) :=
  (SignalClient.loadSigned_updates batch.generated _ _).readObject_of_ne (by decide)

def Batch.ids (batch : Batch verify) : List Int := preKeyIds toInt batch.start batch.count.toNat

theorem Batch.keys_eq (batch : Batch verify) :
    (batch.generated.preKeys toInt batch.start batch.count.toNat).map (fun record => valueOf record.id) =
      batch.ids.map valueOf := by
  rw [Batch.ids, ← Generated.preKeys_ids batch.generated, List.map_map]
  rfl

theorem Batch.entry_register (batch : Batch verify) (ready : Ready p files)
    (parsed : Parsed p PRE_KEYS_JSON_FILENAME files) (key : String) :
    (key ∉ batch.ids.map valueOf →
      entry p PRE_KEYS_JSON_FILENAME key (batch.register p files).2 = entry p PRE_KEYS_JSON_FILENAME key files) ∧
    (key ∈ batch.ids.map valueOf → (entry p PRE_KEYS_JSON_FILENAME key (batch.register p files).2).isSome) := by
  have named := @SignalClient.loadIdentity_updates p verify batch.generated files
  have stored := entry_storePreKeys (named.framed.ready ready) (named.parsed ready parsed)
    (batch.generated.preKeys toInt batch.start batch.count.toNat) key
  rw [batch.keys_eq] at stored
  rw [entry_congr (readObject_register batch files)]
  rwa [entry_congr (readObject_loadIdentity batch.generated files)] at stored

theorem Batch.stores_register (batch : Batch verify) (ready : Ready p files)
    (parsed : Parsed p PRE_KEYS_JSON_FILENAME files) (id : Int) :
    Stores p id (batch.register p files).2 ↔ id ∈ batch.ids ∨ Stores p id files := by
  have keyed : valueOf id ∈ batch.ids.map valueOf ↔ id ∈ batch.ids := List.mem_map_of_injective valueOf_injective
  have spec := batch.entry_register ready parsed (valueOf id)
  rw [keyed] at spec
  by_cases member : id ∈ batch.ids
  · simp [Stores, spec.2 member, member]
  · simp [Stores, spec.1 member, member]

theorem Numbered.register (numbered : Numbered p files) (ready : Ready p files) (batch : Batch verify) :
    Numbered p (batch.register p files).2 := by
  have named := @SignalClient.loadIdentity_updates p verify batch.generated files
  refine ⟨?_, fun key stored => ?_⟩
  · rw [Parsed, readObject_register]
    exact (SignalClient.storePreKeys_updates _ _).parsed (named.framed.ready ready) (named.parsed ready numbered.parsed)
  · by_cases member : key ∈ batch.ids.map valueOf
    · obtain ⟨id, made, rfl⟩ := List.mem_map.mp member
      obtain ⟨i, _, rfl⟩ := List.mem_map.mp made
      have bounds := preKeyId_bounds toInt batch.start i
      exact ⟨_, rfl, by simp only [MEDIUM_MAX_VALUE] at bounds; omega, by simp only [MEDIUM_MAX_VALUE] at bounds; omega⟩
    · rw [(batch.entry_register ready numbered.parsed key).1 member] at stored
      exact numbered.numeric key stored

end Batch

section Last

theorem getLastPreKeyIndex_eq (files : Files) :
    getLastPreKeyIndex p files =
      match readObject p PRE_KEYS_JSON_FILENAME files with
      | .error _ => .ok 0
      | .ok data => data.foldlM (fun keyId row => do
          let numericKeyIndex ← parseInt row.1
          pure (if keyId < numericKeyIndex then numericKeyIndex else keyId)) 0 := by
  rw [getLastPreKeyIndex, readObject]
  split
  · rw [newJSONObject_nothing]
    rfl
  · rw [newJSONObject_nothing]
    rfl
  · rename_i text _ _
    cases p.json.newJSONObject text <;> rfl

theorem Numbered.last {files : Files} (numbered : Numbered p files) :
    ∃ last, getLastPreKeyIndex p files = .ok last ∧ 0 ≤ last ∧ (∀ id, Stores p id files → id ≤ last) ∧
      (last = 0 ∨ Stores p last files) := by
  obtain ⟨data, held⟩ := numbered.parsed
  have stored : ∀ key, (entry p PRE_KEYS_JSON_FILENAME key files).isSome ↔ ∃ row ∈ data, row.1 = key := by
    intro key
    rw [entry, held]
    constructor
    · intro present
      obtain ⟨value, found⟩ := Option.isSome_iff_exists.mp present
      exact ⟨(key, value), mem_of_lookup found, rfl⟩
    · rintro ⟨⟨key, value⟩, member, rfl⟩
      exact lookup_isSome_of_mem member
  have each : ∀ row ∈ data, parseInt row.1 = pure (Decimal.ofText row.1) := by
    intro row member
    obtain ⟨id, same, low, high⟩ := numbered.numeric row.1 ((stored row.1).mpr ⟨row, member, rfl⟩)
    rw [same, parseInt_valueOf, if_pos ⟨low, high⟩, valueOf, Decimal.ofText_toText]
    rfl
  obtain ⟨above, bounds, found⟩ := largest_spec 0 (data.map fun row => Decimal.ofText row.1)
  refine ⟨_, ?_, above, fun id present => ?_, ?_⟩
  · rw [getLastPreKeyIndex_eq, held]
    exact foldlM_largest data each 0
  · obtain ⟨row, member, same⟩ := (stored _).mp present
    apply bounds
    rw [List.mem_map]
    exact ⟨row, member, by rw [same, valueOf, Decimal.ofText_toText]⟩
  · refine found.imp_right fun member => ?_
    obtain ⟨row, member, same⟩ := List.mem_map.mp member
    have present := (stored row.1).mpr ⟨row, member, rfl⟩
    obtain ⟨id, key, _, _⟩ := numbered.numeric row.1 present
    rw [key, valueOf, Decimal.ofText_toText] at same
    rwa [key, same] at present

theorem Numbered.count_le {files : Files} (numbered : Numbered p files) {ids : List Int}
    (covered : ∀ id, Stores p id files → id ∈ ids) : preKeyCount p files ≤ ids.length := by
  obtain ⟨data, held⟩ := numbered.parsed
  have keys : (data.map Prod.fst).dedup ⊆ ids.map valueOf := by
    intro key member
    obtain ⟨⟨name, value⟩, row, rfl⟩ := List.mem_map.mp (List.mem_dedup.mp member)
    have present : (entry p PRE_KEYS_JSON_FILENAME name files).isSome := by
      rw [entry, held]
      exact lookup_isSome_of_mem row
    obtain ⟨id, rfl, _, _⟩ := numbered.numeric name present
    exact List.mem_map_of_mem (covered id present)
  rw [preKeyCount, held, ← List.length_map valueOf]
  exact ((List.nodup_dedup _).subperm keys).length_le

end Last

inductive KeyStep (verify : Verify) where
  | client (operation : Operation verify)
  | consumed (preKeyId : Int)

namespace KeyStep

def run (p : Platform) (files : Files) : KeyStep verify → Files
  | .client operation => operation.run p files
  | .consumed preKeyId => removePreKey p preKeyId files

def runs (p : Platform) (steps : List (KeyStep verify)) (files : Files) : Files := steps.foldl (KeyStep.run p) files

theorem runs_client (operations : List (Operation verify)) (files : Files) :
    runs p (operations.map .client) files = Android.runs p operations files := by
  rw [runs, List.foldl_map]
  rfl

def Contained : KeyStep verify → Prop
  | .client operation => operation.Contained
  | .consumed _ => True

theorem contained_client {operations : List (Operation verify)}
    (contained : ∀ operation ∈ operations, operation.Contained) :
    ∀ step ∈ operations.map KeyStep.client, step.Contained := by
  intro step member
  obtain ⟨operation, taken, rfl⟩ := List.mem_map.mp member
  exact contained operation taken

theorem ready_client {operations : List (Operation verify)} {files : Files}
    (ready : ∀ done, done <+: operations → Ready p (Android.runs p done files)) :
    ∀ done, done <+: operations.map KeyStep.client → Ready p (runs p done files) := by
  intro done below
  obtain ⟨front, shorter, rfl⟩ := List.prefix_map_iff.mp below
  rw [runs_client]
  exact ready front shorter

theorem run_numbered {files : Files} (step : KeyStep verify) (contained : step.Contained) (ready : Ready p files)
    (numbered : Numbered p files) : Numbered p (step.run p files) := by
  cases step with
  | consumed preKeyId => exact numbered.keeps (keepsKeys_removePreKey ready.sound preKeyId)
  | client operation =>
    rw [KeyStep.run]
    rcases operation.run_cases contained ready with keeps | ⟨_, empty⟩ | ⟨left, username, draw, which, _, same⟩ | ⟨batch, _, same⟩
    · exact numbered.keeps keeps
    · exact numbered_of_empty (empty _)
    · have start : Numbered p left := by
        rcases which with rfl | ⟨_, empty⟩
        · exact numbered
        · exact numbered_of_empty (empty _)
      rw [same]
      exact start.congr ((SignalClient.registerAccount_updates p username draw left).readObject_of_ne (by decide))
    · rw [same]
      exact numbered.register ready batch

theorem runs_numbered {files : Files} {steps : List (KeyStep verify)} (numbered : Numbered p files)
    (contained : ∀ step ∈ steps, step.Contained)
    (ready : ∀ done, done <+: steps → Ready p (runs p done files)) :
    ∀ done, done <+: steps → Numbered p (runs p done files) :=
  foldl_invariant (fun reached step numbered (allowed : step.Contained ∧ Ready p reached) =>
      step.run_numbered allowed.1 allowed.2 numbered) numbered
    fun done step below => ⟨contained step (below.subset (by simp)), ready done ((List.prefix_append ..).trans below)⟩

end KeyStep

/-- The soft reset looks at the largest id in use and not at how many pre keys there are: it follows the amount
    exactly where no id above 300 is left among at most 300 keys. -/
theorem soft_reset_by_amount_iff (p : Platform) (files : Files) (steps : List (KeyStep verify)) (numbered : Numbered p files)
    (contained : ∀ step ∈ steps, step.Contained)
    (ready : ∀ done, done <+: steps → Ready p (KeyStep.runs p done files)) (done : List (KeyStep verify))
    (below : done <+: steps) :
    let reached := KeyStep.runs p done files
    (RNSignalClientModule.performSoftReset p reached = .ok true → 300 < preKeyCount p reached) ↔
      ((∀ id, Stores p id reached → id ≤ 300) ∨ 300 < preKeyCount p reached) := by
  intro reached
  obtain ⟨last, found, _, bounds, held⟩ := (KeyStep.runs_numbered numbered contained ready done below).last
  have decided : RNSignalClientModule.performSoftReset p reached = .ok (decide (last > 300)) := by
    rw [RNSignalClientModule.performSoftReset, found]
    rfl
  rw [decided]
  by_cases high : last > 300
  · have present : Stores p last reached := held.resolve_left (by omega)
    have exceeds : ¬ ∀ id, Stores p id reached → id ≤ 300 := by
      intro small
      have := small last present
      omega
    simp [high, exceeds]
  · have small : ∀ id, Stores p id reached → id ≤ 300 := by
      intro id present
      have := bounds id present
      omega
    refine ⟨fun _ => .inl small, fun _ reset => ?_⟩
    simp [high] at reset

section Worn

structure Window (p : Platform) (low high : Int) (files : Files) : Prop where
  ready : Ready p files
  numbered : Numbered p files
  stored : ∀ id, Stores p id files ↔ low ≤ id ∧ id < high

theorem Batch.ids_eq (batch : Batch verify) (low : 0 ≤ batch.start)
    (high : batch.start - 1 + batch.count.toNat ≤ MEDIUM_MAX_VALUE - 1) :
    batch.ids = consecutive batch.start batch.count.toNat := by
  apply preKeyIds_consecutive (fun i below => ?_) low high
  simp only [MEDIUM_MAX_VALUE] at high
  apply toInt_of_small <;> omega

variable {low high : Int} {files : Files}

theorem Window.register (window : Window p low high files) (batch : Batch verify) (start : batch.start = high)
    (order : 0 ≤ low ∧ low ≤ high) (room : high + batch.count.toNat ≤ MEDIUM_MAX_VALUE) :
    Window p low (high + batch.count.toNat) (batch.register p files).2 := by
  refine ⟨(SignalClient.framed_registerPreKeys ..).ready window.ready, window.numbered.register window.ready batch,
    fun id => ?_⟩
  rw [batch.stores_register window.ready window.numbered.parsed, batch.ids_eq (by omega) (by omega), mem_consecutive,
    window.stored, start]
  omega

theorem Window.consume (window : Window p low high files) :
    Window p (low + 1) high (removePreKey p low files) := by
  refine ⟨(framed_removeKey ..).ready window.ready,
    window.numbered.keeps (keepsKeys_removePreKey window.ready.sound low), fun id => ?_⟩
  rw [Stores, removePreKey, entry_removeKey window.ready]
  have before := window.stored id
  rw [Stores] at before
  by_cases same : low = id
  · subst same
    simp
  · have apart : valueOf low ≠ valueOf id := fun texts => same (valueOf_injective texts)
    simp only [apart, and_false, if_false, before]
    omega

theorem Window.count_le (window : Window p low high files) : preKeyCount p files ≤ (high - low).toNat := by
  have covered : ∀ id, Stores p id files → id ∈ consecutive low (high - low).toNat := by
    intro id present
    have range := (window.stored id).mp present
    rw [mem_consecutive]
    omega
  simpa [consecutive] using window.numbered.count_le covered

def refilled : Operation everySignature := .checkRemotePreKeys (.answered ⟨200, none⟩) sampleKeys

theorem Window.last (window : Window p low high files) (order : 0 ≤ low ∧ low < high) :
    getLastPreKeyIndex p files = .ok (high - 1) := by
  obtain ⟨last, found, _, bounds, held⟩ := window.numbered.last
  have reaches := bounds (high - 1) ((window.stored _).mpr (by omega))
  have largest : last = high - 1 := by
    rcases held with zero | present
    · omega
    · have := (window.stored last).mp present
      omega
  rw [found, largest]

theorem Window.refill_batch (window : Window .plain low high files) (order : 0 ≤ low ∧ low < high)
    (room : high + 100 ≤ MEDIUM_MAX_VALUE) : refilled.batch .plain files = some ⟨sampleKeys, high, 100⟩ := by
  have checked : SignalClient.checkRemotePreKeys .plain (.answered ⟨200, none⟩) files =
      .refill (toInt (high - 1 + 1)) 100 := by
    rw [SignalClient.checkRemotePreKeys]
    dsimp only
    rw [if_pos (by decide), window.last order]
    rfl
  simp only [MEDIUM_MAX_VALUE] at room
  rw [refilled, Operation.batch, checked, toInt_of_small (by omega) (by omega), Int.sub_add_cancel]

theorem Window.refill (window : Window .plain low high files) (order : 0 ≤ low ∧ low < high)
    (room : high + 100 ≤ MEDIUM_MAX_VALUE) : Window .plain low (high + 100) (refilled.run .plain files) := by
  rw [Operation.batch_run (window.refill_batch order room)]
  exact window.register ⟨sampleKeys, high, 100⟩ rfl (by omega) room

def refills : List (Operation everySignature) := firstStart ++ [registered] ++ [refilled] ++ [refilled] ++ [refilled]

def wornBy (count : Nat) : List (KeyStep everySignature) :=
  refills.map .client ++ (List.range count).map fun i : Nat => .consumed i

theorem registered_window : Window .plain 0 100 (runs .plain (firstStart ++ [registered]) noFiles) := by
  have empty : readObject .plain PRE_KEYS_JSON_FILENAME (runs .plain firstStart noFiles) = .ok [] := by decide +kernel
  have start : Window .plain 0 0 (runs .plain firstStart noFiles) := by
    refine ⟨firstStart_ready, numbered_of_empty empty, fun id => ?_⟩
    rw [Stores, entry, empty]
    simp
  rw [runs_snoc, Operation.batch_run (show registered.batch .plain _ = some firstBatch from rfl)]
  exact start.register firstBatch rfl (by decide) (by decide)

theorem wornBy_window (count : Nat) : Window .plain count 400 (KeyStep.runs .plain (wornBy count) noFiles) := by
  induction count with
  | zero =>
    have filled := ((registered_window.refill (by decide) (by decide)).refill (by decide) (by decide)).refill
      (by decide) (by decide)
    rw [← runs_snoc, ← runs_snoc, ← runs_snoc, ← refills, ← KeyStep.runs_client] at filled
    rw [wornBy, List.range_zero, List.map_nil, List.append_nil]
    exact filled
  | succ count ih =>
    rw [wornBy, List.range_succ, List.map_append, ← List.append_assoc, ← wornBy, KeyStep.runs, List.foldl_append]
    exact ih.consume

/-- 300 pre keys are left, and the next start deletes the identity, the sessions and the keys. -/
theorem few_keys_soft_reset :
    RNSignalClientModule.performSoftReset .plain (KeyStep.runs .plain (wornBy 100) noFiles) = .ok true ∧
      preKeyCount .plain (KeyStep.runs .plain (wornBy 100) noFiles) ≤ 300 := by
  have window := wornBy_window 100
  obtain ⟨last, found, _, bounds, _⟩ := window.numbered.last
  have reaches := bounds 399 ((window.stored _).mpr (by decide))
  refine ⟨?_, window.count_le⟩
  rw [RNSignalClientModule.performSoftReset, found]
  simp [Except.map, show last > 300 by omega]

theorem first_keys_no_soft_reset :
    RNSignalClientModule.performSoftReset .plain (KeyStep.runs .plain ((firstStart ++ [registered]).map .client) noFiles) ≠
      .ok true := by
  have window := registered_window
  rw [← KeyStep.runs_client] at window
  have small : ∀ id, Stores .plain id (KeyStep.runs .plain ((firstStart ++ [registered]).map .client) noFiles) →
      id ≤ 300 := by
    intro id present
    have range := (window.stored id).mp present
    omega
  intro reset
  have many := (soft_reset_by_amount_iff .plain noFiles ((firstStart ++ [registered]).map .client)
    (numbered_of_empty (noFiles_empty _)) (KeyStep.contained_client answered_contained) (KeyStep.ready_client answered_ready)
    _ List.prefix_rfl).mpr (.inl small) reset
  have few := window.count_le
  omega

end Worn
end PillarSignal.Android
