import PillarSignal.Protocol.Keys
import Mathlib.Data.List.Nodup
import Mathlib.Data.List.Induction

namespace PillarSignal

def MEDIUM_MAX_VALUE : Int := 0xFFFFFF

/-- Signature verification on the curve: a signer's key, the signed key, the signature. -/
abbrev Verify := PublicKey → PublicKey → Bytes → Bool

def everySignature : Verify := fun _ _ _ => true

structure Generated (verify : Verify) where
  identityKeyPair : KeyPair
  lastResortKeyPair : KeyPair
  preKeyPair : Nat → KeyPair
  signedKeyPair : KeyPair
  signature : KeyPair → Bytes
  signature_verifies : ∀ identity, verify identity.publicKey signedKeyPair.publicKey (signature identity) = true
  preKeyPair_fresh : ∀ i j, (preKeyPair i).publicKey = (preKeyPair j).publicKey → i = j
  lastResort_fresh : ∀ i, (preKeyPair i).publicKey ≠ lastResortKeyPair.publicKey

def sampleKeys : Generated everySignature where
  identityKeyPair := ⟨⟨[1]⟩, [1]⟩
  lastResortKeyPair := ⟨⟨[2]⟩, [2]⟩
  preKeyPair i := ⟨⟨3 :: List.replicate i 0⟩, [3]⟩
  signedKeyPair := ⟨⟨[4]⟩, [4]⟩
  signature _ := [5]
  signature_verifies _ := rfl
  preKeyPair_fresh i j same := by simpa using congrArg (fun key => key.bytes.length) same
  lastResort_fresh i same := by simpa using congrArg (fun key => key.bytes.head?) same

variable {verify : Verify}

def Generated.signedPreKey (generated : Generated verify) (identity : KeyPair) (id : Int) : SignedPreKeyRecord :=
  ⟨id, generated.signedKeyPair, generated.signature identity⟩

/-- The id of the `i`-th pre key of a batch, which wraps below the largest id; `wrap` is the
    overflow of the platform's 32-bit sum. -/
def preKeyId (wrap : Int → Int) (start : Int) (i : Nat) : Int := (wrap (start - 1 + i)).tmod (MEDIUM_MAX_VALUE - 1) + 1

def preKeyIds (wrap : Int → Int) (start : Int) (count : Nat) : List Int := (List.range count).map (preKeyId wrap start)

def Generated.preKeys (generated : Generated verify) (wrap : Int → Int) (start : Int) (count : Nat) :
    List PreKeyRecord :=
  (List.range count).map fun i => ⟨preKeyId wrap start i, generated.preKeyPair i⟩

/-- The keys that are sent to the server for others to start sessions with. -/
structure Upload where
  lastResortKey : PreKeyRecord
  preKeys : List PreKeyRecord
  identityKey : PublicKey
  signedPreKey : SignedPreKeyRecord
deriving DecidableEq, Repr

theorem Generated.preKeys_ids (generated : Generated verify) (wrap : Int → Int) (start : Int) (count : Nat) :
    (generated.preKeys wrap start count).map PreKeyRecord.id = preKeyIds wrap start count := by
  simp [preKeys, preKeyIds]

theorem preKeyId_bounds (wrap : Int → Int) (start : Int) (i : Nat) :
    -MEDIUM_MAX_VALUE < preKeyId wrap start i ∧ preKeyId wrap start i < MEDIUM_MAX_VALUE := by
  have low := Int.lt_tmod_of_pos (wrap (start - 1 + i)) (show (0 : Int) < MEDIUM_MAX_VALUE - 1 by decide)
  have high := Int.tmod_lt_of_pos (wrap (start - 1 + i)) (show (0 : Int) < MEDIUM_MAX_VALUE - 1 by decide)
  unfold preKeyId
  omega

def consecutive (start : Int) (count : Nat) : List Int := (List.range count).map fun i : Nat => start + i

/-- As long as no sum overflows and none wraps, the ids of a batch are consecutive. -/
theorem preKeyIds_consecutive {wrap : Int → Int} {start : Int} {count : Nat}
    (exact : ∀ i < count, wrap (start - 1 + i) = start - 1 + i) (low : 0 ≤ start)
    (high : start - 1 + count ≤ MEDIUM_MAX_VALUE - 1) :
    preKeyIds wrap start count = consecutive start count := by
  apply List.map_congr_left
  intro i member
  have below : (i : Int) < count := by exact_mod_cast List.mem_range.mp member
  rw [preKeyId, exact i (List.mem_range.mp member)]
  by_cases first : start - 1 + (i : Int) = -1
  · rw [first, show (-1 : Int).tmod (MEDIUM_MAX_VALUE - 1) = -1 by decide]
    omega
  · rw [Int.tmod_eq_of_lt (by omega) (by omega)]
    omega

theorem nodup_consecutive (start : Int) (count : Nat) : (consecutive start count).Nodup := by
  apply List.nodup_range.map
  intro a b same
  dsimp only at same
  omega

theorem mem_consecutive {start id : Int} {count : Nat} :
    id ∈ consecutive start count ↔ start ≤ id ∧ id < start + count := by
  simp only [consecutive, List.mem_map, List.mem_range]
  constructor
  · rintro ⟨i, below, rfl⟩
    omega
  · rintro ⟨low, high⟩
    exact ⟨(id - start).toNat, by omega, by omega⟩

def largest (start : Int) (ids : List Int) : Int := ids.foldl (fun last id => if last < id then id else last) start

theorem largest_spec (start : Int) (ids : List Int) :
    start ≤ largest start ids ∧ (∀ id ∈ ids, id ≤ largest start ids) ∧
      (largest start ids = start ∨ largest start ids ∈ ids) := by
  induction ids generalizing start with
  | nil => simp [largest]
  | cons id ids ih =>
    rw [show largest start (id :: ids) = largest (if start < id then id else start) ids from rfl]
    obtain ⟨above, bounds, found⟩ := ih (if start < id then id else start)
    generalize largest (if start < id then id else start) ids = last at above bounds found
    split at above
    · rename_i larger
      rw [if_pos larger] at found
      refine ⟨by omega, ?_, .inr ?_⟩
      · simpa using ⟨above, bounds⟩
      · rcases found with rfl | member <;> simp [*]
    · rename_i smaller
      rw [if_neg smaller] at found
      refine ⟨above, ?_, ?_⟩
      · simpa using ⟨by omega, bounds⟩
      · rcases found with rfl | member <;> simp [*]

theorem foldlM_largest {m : Type → Type} [Monad m] [LawfulMonad m] {α : Type} {read : α → m Int} {number : α → Int}
    (rows : List α) (each : ∀ row ∈ rows, read row = pure (number row)) (start : Int) :
    rows.foldlM (fun last row => do
      let id ← read row
      pure (if last < id then id else last)) start = pure (largest start (rows.map number)) := by
  induction rows generalizing start with
  | nil => rfl
  | cons row rows ih =>
    rw [List.foldlM_cons, each row (by simp), pure_bind, pure_bind, ih fun later member => each later (by simp [member])]
    rfl

def lastWith (id : Int) (records : List PreKeyRecord) (stored : Option PreKeyRecord) : Option PreKeyRecord :=
  records.foldl (fun found record => if record.id = id then some record else found) stored

theorem lastWith_append (id : Int) (records : List PreKeyRecord) (record : PreKeyRecord) (stored : Option PreKeyRecord) :
    lastWith id (records ++ [record]) stored = if record.id = id then some record else lastWith id records stored := by
  simp [lastWith, List.foldl_append]

theorem lastWith_of_not_mem {id : Int} {records : List PreKeyRecord} (absent : id ∉ records.map PreKeyRecord.id)
    (stored : Option PreKeyRecord) : lastWith id records stored = stored := by
  induction records using List.reverseRecOn with
  | nil => rfl
  | append_singleton records record ih =>
    simp only [List.map_append, List.map_cons, List.map_nil, List.mem_append, List.mem_singleton, not_or] at absent
    rw [lastWith_append, if_neg (Ne.symm absent.2), ih absent.1]

theorem lastWith_id {id : Int} {records : List PreKeyRecord} {stored : Option PreKeyRecord}
    (own : ∀ record, stored = some record → record.id = id) {record : PreKeyRecord}
    (found : lastWith id records stored = some record) : record.id = id := by
  induction records using List.reverseRecOn with
  | nil => exact own record found
  | append_singleton records last ih =>
    rw [lastWith_append] at found
    split at found
    · rename_i same
      cases found
      exact same
    · exact ih found

theorem lastWith_mem {id : Int} {records : List PreKeyRecord} (present : id ∈ records.map PreKeyRecord.id)
    (stored : Option PreKeyRecord) : ∃ record ∈ records, lastWith id records stored = some record := by
  induction records using List.reverseRecOn with
  | nil => simp at present
  | append_singleton records last ih =>
    rw [lastWith_append]
    by_cases same : last.id = id
    · exact ⟨last, by simp, if_pos same⟩
    · have earlier : id ∈ records.map PreKeyRecord.id := by
        simpa only [List.map_append, List.map_cons, List.map_nil, List.mem_append, List.mem_singleton,
          Ne.symm same, or_false] using present
      obtain ⟨record, member, found⟩ := ih earlier
      exact ⟨record, by simp [member], by rw [if_neg same, found]⟩

def Kept (records : List PreKeyRecord) (stored : Int → Option PreKeyRecord) : Prop :=
  ∀ uploaded ∈ records, ∃ record, lastWith uploaded.id records (stored uploaded.id) = some record ∧
    record.id = uploaded.id ∧ record.keyPair.publicKey = uploaded.keyPair.publicKey

/-- Records with different keys are all found again if and only if no two of them share an id. -/
theorem kept_iff {records : List PreKeyRecord} (fresh : (records.map fun record => record.keyPair.publicKey).Nodup)
    (stored : Int → Option PreKeyRecord) : Kept records stored ↔ (records.map PreKeyRecord.id).Nodup := by
  induction records using List.reverseRecOn with
  | nil => simp [Kept]
  | append_singleton records record ih =>
    simp only [List.map_append, List.map_cons, List.map_nil, List.nodup_append, List.nodup_singleton,
      List.mem_singleton, List.mem_map, true_and, forall_exists_index, and_imp] at fresh
    obtain ⟨fresh, others⟩ := fresh
    have split : Kept (records ++ [record]) stored ↔ Kept records stored ∧ ∀ other ∈ records, other.id ≠ record.id := by
      constructor
      · intro kept
        have apart : ∀ other ∈ records, other.id ≠ record.id := by
          intro other member same
          obtain ⟨found, held, _, key⟩ := kept other (by simp [member])
          rw [lastWith_append, if_pos same.symm] at held
          cases held
          exact others _ other member rfl _ rfl key.symm
        refine ⟨fun other member => ?_, apart⟩
        obtain ⟨found, held, matched⟩ := kept other (by simp [member])
        rw [lastWith_append, if_neg (Ne.symm (apart other member))] at held
        exact ⟨found, held, matched⟩
      · rintro ⟨kept, apart⟩ other member
        rw [lastWith_append]
        rcases List.mem_append.mp member with member | member
        · rw [if_neg (Ne.symm (apart other member))]
          exact kept other member
        · rw [List.mem_singleton.mp member, if_pos rfl]
          exact ⟨record, rfl, rfl, rfl⟩
    rw [split, ih fresh, List.map_append, List.nodup_append]
    simp

theorem Generated.preKeys_fresh (generated : Generated verify) (wrap : Int → Int) (start : Int) (count : Nat) :
    ((generated.preKeys wrap start count).map fun record => record.keyPair.publicKey).Nodup := by
  rw [Generated.preKeys, List.map_map]
  exact List.nodup_range.map fun i j same => generated.preKeyPair_fresh i j same

end PillarSignal
