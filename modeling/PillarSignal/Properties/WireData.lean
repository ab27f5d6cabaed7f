import PillarSignal.Libsignal.SessionBuilder

namespace PillarSignal.Libsignal

namespace Protobuf

def ScannedMember.Whole (member : ScannedMember) : Prop :=
  member.wireType = .lengthPrefixed → member.lengthPrefixLen ≤ member.data.length

theorem base128_lt (data : Bytes) : base128 data < 128 ^ data.length := by
  induction data with
  | nil => exact Nat.one_pos
  | cons byte rest ih =>
    rw [base128, List.length_cons, Nat.pow_succ]
    omega

theorem scanVarint_le {limit used : Nat} {data : Bytes} (scanned : scanVarint limit data = some used) : used ≤ limit := by
  induction limit generalizing data used with
  | zero => cases scanned
  | succ limit ih =>
    cases data with
    | nil => cases scanned
    | cons byte rest =>
      rw [scanVarint] at scanned
      split at scanned
      · cases scanned
        omega
      · obtain ⟨count, later, rfl⟩ := Option.map_eq_some_iff.mp scanned
        have := ih later
        omega

theorem scanMember_eq_none {byte : UInt8} (seven : byte.toNat % 8 = 7) (rest : Bytes) : scanMember (byte :: rest) = none := by
  rw [scanMember, parseTagAndWiretype]
  cases scanned : scanVarint 5 (byte :: rest) with
  | none => rfl
  | some used =>
    obtain ⟨used, rfl⟩ : ∃ count, used = count + 1 := Nat.exists_eq_succ_of_ne_zero (scanVarint_length scanned).1.ne'
    have type : base128 ((byte :: rest).take (used + 1)) % 8 = 7 := by
      rw [List.take_succ_cons, base128]
      omega
    rw [Option.map_some, Option.bind_some, type]
    rfl

/-- The length in front of the data wraps around only if it is `2 ^ 32 - 4` at least. Then the value ends
    within its own length, at a byte that has its three lowest bits set. -/
theorem wrapped_byte {data : Bytes} {total headerLen : Nat} (scanned : scanLengthPrefixedData data = some (total, headerLen))
    (wrapped : total < headerLen) : ∃ byte rest, data.drop total = byte :: rest ∧ byte.toNat % 8 = 7 := by
  obtain ⟨header, found, sized⟩ := Option.bind_eq_some_iff.mp scanned
  dsimp only at sized
  split at sized
  · cases sized
  · rename_i fits
    obtain ⟨same, rfl⟩ := Prod.mk.inj (Option.some.inj sized)
    have short := scanVarint_le found
    have within := (scanVarint_length found).2
    have bound := base128_lt (data.take header)
    rw [List.length_take, Nat.min_eq_left within] at bound
    -- a header of less than five bytes is for a length that does not wrap
    have five : header = 5 := by
      by_contra fewer
      have four : 128 ^ header ≤ 128 ^ 4 := Nat.pow_le_pow_right (by omega) (by omega)
      have : (128 : Nat) ^ 4 = 268435456 := by decide
      omega
    subst five
    obtain ⟨b0, data, rfl⟩ := List.exists_cons_of_length_pos (Nat.lt_of_lt_of_le (by decide) within)
    obtain ⟨b1, data, rfl⟩ := List.exists_cons_of_length_pos (Nat.lt_of_lt_of_le (by decide) (Nat.le_of_succ_le_succ within))
    rw [List.length_cons, List.length_cons] at within
    obtain ⟨b2, data, rfl⟩ := List.exists_cons_of_length_pos (by omega : 0 < data.length)
    rw [List.length_cons] at within
    obtain ⟨b3, data, rfl⟩ := List.exists_cons_of_length_pos (by omega : 0 < data.length)
    rw [List.length_cons] at within
    obtain ⟨b4, rest, rfl⟩ := List.exists_cons_of_length_pos (by omega : 0 < data.length)
    simp only [List.take_succ_cons, List.take_zero, base128] at same fits
    have place : total = 1 ∨ total = 2 ∨ total = 3 ∨ total = 4 := by omega
    rcases place with rfl | rfl | rfl | rfl
    · exact ⟨b1, _, rfl, by omega⟩
    · exact ⟨b2, _, rfl, by omega⟩
    · exact ⟨b3, _, rfl, by omega⟩
    · exact ⟨b4, _, rfl, by omega⟩

theorem scanLoop_eq_none {byte : UInt8} (seven : byte.toNat % 8 = 7) (rounds : Nat) (rest : Bytes) :
    scanLoop rounds (byte :: rest) = none := by
  cases rounds with
  | zero => rfl
  | succ rounds =>
    rw [scanLoop, scanMember_eq_none seven]
    rfl

theorem scanMember_whole {data rest : Bytes} {member : ScannedMember} (scanned : scanMember data = some (member, rest))
    {rounds : Nat} {members : List ScannedMember} (later : scanLoop rounds rest = some members) : member.Whole := by
  intro type
  obtain ⟨⟨tag, wireType, used⟩, -, remaining⟩ := Option.bind_eq_some_iff.mp scanned
  obtain ⟨⟨found, len, prefixLen⟩, value, same⟩ := Option.map_eq_some_iff.mp remaining
  obtain ⟨rfl, rfl⟩ := Prod.mk.inj same
  have type : found = .lengthPrefixed := type
  subst type
  have sized : scanLengthPrefixedData (data.drop used) = some (len, prefixLen) := by
    unfold scanValue at value
    split at value
    next =>
      obtain ⟨_, -, other⟩ := Option.map_eq_some_iff.mp value
      cases other
    next => split at value <;> cases value
    next =>
      obtain ⟨⟨total, header⟩, there, parts⟩ := Option.map_eq_some_iff.mp value
      obtain ⟨-, both⟩ := Prod.mk.inj parts
      rw [there, both]
    next => split at value <;> cases value
    next => cases value
  change prefixLen ≤ ((data.drop used).take len).length
  by_contra wrapped
  have within : len ≤ (data.drop used).length := by
    obtain ⟨header, -, bounded⟩ := Option.bind_eq_some_iff.mp sized
    dsimp only at bounded
    split at bounded
    · cases bounded
    · rename_i fits
      obtain ⟨rfl, -⟩ := Prod.mk.inj (Option.some.inj bounded)
      omega
  rw [List.length_take, Nat.min_eq_left within] at wrapped
  obtain ⟨byte, rest, dropped, seven⟩ := wrapped_byte sized (Nat.lt_of_not_le wrapped)
  rw [dropped, scanLoop_eq_none seven] at later
  cases later

theorem scanLoop_whole {rounds : Nat} {data : Bytes} {members : List ScannedMember}
    (scanned : scanLoop rounds data = some members) : ∀ member ∈ members, member.Whole := by
  induction rounds generalizing data members with
  | zero =>
    cases data with
    | nil =>
      cases scanned
      exact fun _ absent => absurd absent List.not_mem_nil
    | cons byte data => cases scanned
  | succ rounds ih =>
    cases data with
    | nil =>
      cases scanned
      exact fun _ absent => absurd absent List.not_mem_nil
    | cons byte data =>
      obtain ⟨⟨member, rest⟩, first, remaining⟩ := Option.bind_eq_some_iff.mp scanned
      obtain ⟨others, later, rfl⟩ := Option.map_eq_some_iff.mp remaining
      exact List.forall_mem_cons.mpr ⟨scanMember_whole first later, ih later⟩

/-- A result that is not the end of a reading outside of the buffer. -/
def Within {α : Type} (result : Except SgErr α) : Prop := result ≠ .error .overrun

theorem within_ok {α : Type} (value : α) : Within (Except.ok value : Except SgErr α) := by
  intro same
  cases same

theorem within_error {α : Type} {error : SgErr} (other : error ≠ .overrun) : Within (Except.error error : Except SgErr α) :=
  fun same => other (Except.error.inj same)

theorem Within.map {α β : Type} {result : Except SgErr α} (within : Within result) (next : α → β) : Within (result.map next) := by
  cases result with
  | error error => exact within_error fun same => within (congrArg Except.error same)
  | ok value => exact within_ok _

theorem Within.bind {α β : Type} {result : Except SgErr α} (within : Within result) {next : α → Except SgErr β}
    (later : ∀ value, Within (next value)) : Within (result.bind next) := by
  cases result with
  | error error => exact within_error fun same => within (congrArg Except.error same)
  | ok value => exact later value

theorem parseBytes_within {member : ScannedMember} (whole : member.Whole) : Within member.parseBytes := by
  rw [ScannedMember.parseBytes]
  split
  next => exact within_error (by decide)
  next type =>
    rw [if_neg (Nat.not_lt.mpr (whole (not_not.mp type)))]
    exact within_ok _

def FieldDescriptor.Careful {α : Type} (field : FieldDescriptor α) : Prop :=
  ∀ member message, member.Whole → Within (field.parse member message)

theorem MessageDescriptor.unpack_within {α : Type} {descriptor : MessageDescriptor α}
    (careful : ∀ field ∈ descriptor.fields, field.Careful) (data : Bytes) : Within (descriptor.unpack data) := by
  have one : ∀ member message, member.Whole → Within (descriptor.parseMember member message) := by
    intro member message whole
    rw [MessageDescriptor.parseMember]
    split
    next => exact within_ok _
    next field found => exact careful field (List.mem_of_find?_eq_some found) member message whole
  rw [MessageDescriptor.unpack]
  cases scanned : scan data with
  | none => exact within_error (by decide)
  | some members =>
    have whole := scanLoop_whole (Option.filter_eq_some_iff.mp scanned).1
    clear scanned
    dsimp only
    generalize descriptor.init = start
    induction members generalizing start with
    | nil => exact within_ok _
    | cons member members ih =>
      obtain ⟨first, others⟩ := List.forall_mem_cons.mp whole
      rw [List.foldlM_cons]
      exact (one member start first).bind fun message => ih others message

namespace FieldDescriptor

variable {α τ : Type}

theorem optional_careful {id : Nat} {read : ScannedMember → Except SgErr τ} {write : τ → Field}
    {merge : (earlier latter : Option τ) → Option τ} {own : ∀ value, (write value).member.tag = id}
    {read_write : ∀ value, read (write value).member = .ok value} {place : Place α (Option τ)}
    (within : ∀ member : ScannedMember, member.Whole → Within (read member)) :
    (optional id read write merge own read_write place).Careful :=
  fun member _ whole => (within member whole).map _

theorem uint32_careful (id : Nat) (place : Place α (Option UInt32)) : (uint32 id place).Careful := by
  refine optional_careful fun member _ => ?_
  rw [ScannedMember.parseUint32]
  split
  · exact within_error (by decide)
  · exact within_ok _

theorem fixed64_careful (id : Nat) (place : Place α (Option UInt64)) : (fixed64 id place).Careful := by
  refine optional_careful fun member _ => ?_
  rw [ScannedMember.parseFixedUint64]
  split
  · exact within_error (by decide)
  · exact within_ok _

theorem bytes_careful (id : Nat) (place : Place α (Option Bytes)) : (bytes id place).Careful :=
  optional_careful fun _ whole => parseBytes_within whole

end FieldDescriptor

end Protobuf

open Protobuf FieldDescriptor

theorem curveDecodePoint_within (keyData : Bytes) : Within (curveDecodePoint keyData) := by
  rw [curveDecodePoint.eq_def]
  split
  next => exact within_error (by decide)
  next =>
    split
    · exact within_error (by decide)
    · split
      · exact within_ok _
      · exact within_error (by decide)

theorem curveDecodePrivatePoint_within (keyData : Bytes) : Within (curveDecodePrivatePoint keyData) := by
  rw [curveDecodePrivatePoint]
  split
  · exact within_ok _
  · exact within_error (by decide)

theorem SignalMessage.deserialize_within (data : Bytes) : Within (SignalMessage.deserialize data) := by
  have careful : ∀ field ∈ SignalMessageStructure.descriptor.fields, field.Careful := by
    rw [SignalMessageStructure.descriptor]
    simp only [List.forall_mem_cons]
    exact ⟨bytes_careful _ _, uint32_careful _ _, uint32_careful _ _, bytes_careful _ _, fun _ absent => absurd absent List.not_mem_nil⟩
  rw [SignalMessage.deserialize]
  split
  next => exact within_error (by decide)
  next =>
    dsimp only
    split
    next => exact within_error (by decide)
    next =>
      split
      next => exact within_error (by decide)
      next =>
        have unpacked := MessageDescriptor.unpack_within careful
          ((data.drop 1).take (data.length - 1 - SIGNAL_MESSAGE_MAC_LENGTH))
        split
        next error refused =>
          rw [refused] at unpacked
          exact within_error fun same => unpacked (congrArg Except.error same)
        next => exact (curveDecodePoint_within _).map _
        next => exact within_error (by decide)

theorem PreKeySignalMessage.deserialize_within (data : Bytes) : Within (PreKeySignalMessage.deserialize data) := by
  have careful : ∀ field ∈ PreKeySignalMessageStructure.descriptor.fields, field.Careful := by
    rw [PreKeySignalMessageStructure.descriptor]
    simp only [List.forall_mem_cons]
    exact ⟨uint32_careful _ _, bytes_careful _ _, bytes_careful _ _, bytes_careful _ _, uint32_careful _ _, uint32_careful _ _,
      fun _ absent => absurd absent List.not_mem_nil⟩
  rw [PreKeySignalMessage.deserialize]
  split
  next => exact within_error (by decide)
  next =>
    dsimp only
    split
    next => exact within_error (by decide)
    next =>
      split
      next => exact within_error (by decide)
      next =>
        refine (MessageDescriptor.unpack_within careful _).bind fun found => ?_
        rw [PreKeySignalMessage.ofStructure.eq_def]
        split
        next =>
          refine (curveDecodePoint_within _).bind fun _ => (curveDecodePoint_within _).bind fun _ =>
            (SignalMessage.deserialize_within _).bind fun _ => ?_
          split
          · exact within_error (by decide)
          · exact within_ok _
        next => exact within_error (by decide)

theorem SessionPreKey.deserialize_within (data : Bytes) : Within (SessionPreKey.deserialize data) := by
  have careful : ∀ field ∈ PreKeyRecordStructure.descriptor.fields, field.Careful := by
    rw [PreKeyRecordStructure.descriptor]
    simp only [List.forall_mem_cons]
    exact ⟨uint32_careful _ _, bytes_careful _ _, bytes_careful _ _, fun _ absent => absurd absent List.not_mem_nil⟩
  refine (MessageDescriptor.unpack_within careful data).bind fun found => ?_
  rw [SessionPreKey.ofStructure.eq_def]
  split
  next => exact (curveDecodePoint_within _).bind fun _ => (curveDecodePrivatePoint_within _).bind fun _ => within_ok _
  next => exact within_error (by decide)

theorem SessionSignedPreKey.deserialize_within (data : Bytes) : Within (SessionSignedPreKey.deserialize data) := by
  have careful : ∀ field ∈ SignedPreKeyRecordStructure.descriptor.fields, field.Careful := by
    rw [SignedPreKeyRecordStructure.descriptor]
    simp only [List.forall_mem_cons]
    exact ⟨uint32_careful _ _, bytes_careful _ _, bytes_careful _ _, bytes_careful _ _, fixed64_careful _ _,
      fun _ absent => absurd absent List.not_mem_nil⟩
  refine (MessageDescriptor.unpack_within careful data).bind fun found => ?_
  rw [SessionSignedPreKey.ofStructure.eq_def]
  split
  next =>
    refine (curveDecodePoint_within _).bind fun _ => (curveDecodePrivatePoint_within _).bind fun _ => ?_
    split
    · exact within_error (by decide)
    · exact within_ok _
  next => exact within_error (by decide)

/-- The lengths in the data are added modulo `2 ^ 32` and are not checked after that. Still no data make the
    library read outside of them: after a length that has wrapped around the rest cannot be read. -/
theorem data_are_read_within_their_length (data : Bytes) :
    SignalMessage.deserialize data ≠ .error .overrun ∧ PreKeySignalMessage.deserialize data ≠ .error .overrun ∧
      SessionPreKey.deserialize data ≠ .error .overrun ∧ SessionSignedPreKey.deserialize data ≠ .error .overrun :=
  ⟨SignalMessage.deserialize_within data, PreKeySignalMessage.deserialize_within data, SessionPreKey.deserialize_within data,
    SessionSignedPreKey.deserialize_within data⟩

end PillarSignal.Libsignal
