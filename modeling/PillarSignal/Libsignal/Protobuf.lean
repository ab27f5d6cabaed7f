import PillarSignal.Libsignal.Curve

namespace PillarSignal.Libsignal.Protobuf

inductive WireType where
  | varint
  | sixtyFourBit
  | lengthPrefixed
  | thirtyTwoBit
deriving DecidableEq, Repr

/-- A field as it is being read; the data of one with a length begin with that length. -/
structure ScannedMember where
  tag : Nat
  wireType : WireType
  lengthPrefixLen : Nat
  data : Bytes
deriving DecidableEq, Repr

/-- The number that seven bits of each byte make up, the lowest ones first. -/
def base128 : Bytes → Nat
  | [] => 0
  | byte :: rest => byte.toNat % 128 + 128 * base128 rest

def littleEndian : Bytes → Nat
  | [] => 0
  | byte :: rest => byte.toNat + 256 * littleEndian rest

/-- How many bytes there are up to the first one that no other follows, if that is one of the first
    `limit`. -/
def scanVarint : (limit : Nat) → Bytes → Option Nat
  | 0, _ => none
  | _ + 1, [] => none
  | limit + 1, byte :: rest => if byte.toNat < 128 then some 1 else (scanVarint limit rest).map (· + 1)

def parseTagAndWiretype (data : Bytes) : Option (Nat × Nat × Nat) :=
  (scanVarint 5 data).map fun used => (base128 (data.take used) / 8, base128 (data.take used) % 8, used)

/-- The lengths are added modulo `2 ^ 32`. -/
def scanLengthPrefixedData (data : Bytes) : Option (Nat × Nat) :=
  (scanVarint 5 data).bind fun headerLen =>
    let total := (headerLen + base128 (data.take headerLen) % 2 ^ 32) % 2 ^ 32
    if total > data.length ∨ total = 0 then none else some (total, headerLen)

def scanValue (wireType : Nat) (data : Bytes) : Option (WireType × Nat × Nat) :=
  match wireType with
  | 0 => (scanVarint 10 data).map fun len => (.varint, len, 0)
  | 1 => if data.length < 8 then none else some (.sixtyFourBit, 8, 0)
  | 2 => (scanLengthPrefixedData data).map fun (len, prefixLen) => (.lengthPrefixed, len, prefixLen)
  | 5 => if data.length < 4 then none else some (.thirtyTwoBit, 4, 0)
  | _ => none

def scanMember (data : Bytes) : Option (ScannedMember × Bytes) :=
  (parseTagAndWiretype data).bind fun (tag, wireType, used) =>
    (scanValue wireType (data.drop used)).map fun (type, len, prefixLen) =>
      (⟨tag, type, prefixLen, (data.drop used).take len⟩, (data.drop used).drop len)

/-- Every round takes a byte at least, so there are not more rounds than bytes. -/
def scanLoop : (rounds : Nat) → Bytes → Option (List ScannedMember)
  | _, [] => some []
  | 0, _ :: _ => none
  | rounds + 1, byte :: data =>
    (scanMember (byte :: data)).bind fun (member, rest) => (scanLoop rounds rest).map fun members => member :: members

/-- What the slabs have room for: there are 23, the first one is for 16 members and each of the
    others is twice as large as the one before it. -/
def MAX_SCANNED_MEMBERS : Nat := 16 * (2 ^ 23 - 1)

def scan (data : Bytes) : Option (List ScannedMember) :=
  (scanLoop data.length data).filter fun members => members.length ≤ MAX_SCANNED_MEMBERS

namespace ScannedMember

def parseUint32 (member : ScannedMember) : Except SgErr UInt32 :=
  if member.wireType ≠ .varint then .error .invalidProtoBuf else .ok (UInt32.ofNat (base128 (member.data.take 5)))

def parseFixedUint64 (member : ScannedMember) : Except SgErr UInt64 :=
  if member.wireType ≠ .sixtyFourBit then .error .invalidProtoBuf else .ok (UInt64.ofNat (littleEndian member.data))

def parseBoolean (member : ScannedMember) : Except SgErr Bool := .ok (member.data.any fun byte => byte.toNat % 128 ≠ 0)

/-- If the prefix is longer than the whole, the length that is left wraps around. -/
def parseBytes (member : ScannedMember) : Except SgErr Bytes :=
  if member.wireType ≠ .lengthPrefixed then .error .invalidProtoBuf
  else if member.data.length < member.lengthPrefixLen then .error .overrun
  else .ok (member.data.drop member.lengthPrefixLen)

end ScannedMember

def packLoop : (more : Nat) → (value : Nat) → Bytes
  | 0, value => [UInt8.ofNat value]
  | more + 1, value =>
    if value ≥ 0x80 then UInt8.ofNat (value % 128 + 128) :: packLoop more (value / 128) else [UInt8.ofNat value]

def uint32Pack (value : UInt32) : Bytes := packLoop 4 value.toNat

/-- A value with the sign bit takes ten bytes. -/
def int32Pack (value : UInt32) : Bytes :=
  if value.toNat ≥ 2 ^ 31 then
    [UInt8.ofNat (value.toNat % 128 + 128), UInt8.ofNat (value.toNat / 2 ^ 7 % 128 + 128),
      UInt8.ofNat (value.toNat / 2 ^ 14 % 128 + 128), UInt8.ofNat (value.toNat / 2 ^ 21 % 128 + 128),
      UInt8.ofNat (value.toNat / 2 ^ 28 + 240), 0xff, 0xff, 0xff, 0xff, 0x01]
  else uint32Pack value

def fixedPack : (width : Nat) → (value : Nat) → Bytes
  | 0, _ => []
  | width + 1, value => UInt8.ofNat value :: fixedPack width (value / 256)

def fixed64Pack (value : UInt64) : Bytes := fixedPack 8 value.toNat

def booleanPack (value : Bool) : Bytes := [if value then 1 else 0]

inductive Field where
  | varint (id : Nat) (value : Bytes)
  | sixtyFourBit (id : Nat) (value : Bytes)
  | lengthPrefixed (id : Nat) (value : Bytes)
deriving DecidableEq, Repr

/-- The lowest three bits of the tag are the wire type. -/
def tagPack (id wireType : Nat) : Bytes := uint32Pack (UInt32.ofNat (8 * id + wireType))

def Field.pack : Field → Bytes
  | varint id value => tagPack id 0 ++ value
  | sixtyFourBit id value => tagPack id 1 ++ value
  | lengthPrefixed id value => tagPack id 2 ++ (uint32Pack (UInt32.ofNat value.length) ++ value)

def optionalField {α : Type} (field : α → Field) (value : Option α) : List Field := (value.map field).toList

def pack (fields : List Field) : Bytes := fields.flatMap Field.pack

def Terminated : Bytes → Prop
  | [] => False
  | [last] => last.toNat < 128
  | byte :: next :: rest => 128 ≤ byte.toNat ∧ Terminated (next :: rest)

theorem terminated_cons {byte : UInt8} {rest : Bytes} (more : 128 ≤ byte.toNat) (ends : Terminated rest) :
    Terminated (byte :: rest) := by
  cases rest with
  | nil => cases ends
  | cons next rest => exact ⟨more, ends⟩

theorem scanVarint_append {bytes : Bytes} (ends : Terminated bytes) {limit : Nat} (short : bytes.length ≤ limit)
    (rest : Bytes) : scanVarint limit (bytes ++ rest) = some bytes.length := by
  induction bytes generalizing limit with
  | nil => cases ends
  | cons byte bytes ih =>
    obtain ⟨limit, rfl⟩ : ∃ less, limit = less + 1 := ⟨limit - 1, by rw [List.length_cons] at short; omega⟩
    rw [List.cons_append, scanVarint]
    cases bytes with
    | nil =>
      have last : byte.toNat < 128 := ends
      rw [if_pos last]
      rfl
    | cons next bytes =>
      rw [if_neg (Nat.not_lt.mpr ends.1), ih ends.2 (by simpa using short)]
      rfl

theorem packLoop_terminated (more value : Nat) (small : value < 128 ^ (more + 1)) : Terminated (packLoop more value) := by
  have byte : ∀ n < 256, (UInt8.ofNat n).toNat = n := fun n less => by
    rw [UInt8.toNat_ofNat']
    omega
  induction more generalizing value with
  | zero =>
    have less : value < 128 := by simpa using small
    rw [packLoop, Terminated, byte value (by omega)]
    exact less
  | succ more ih =>
    rw [packLoop]
    split
    next large =>
      refine terminated_cons ?_ (ih (value / 128) ?_)
      · rw [byte _ (by omega)]
        omega
      · rw [Nat.pow_succ] at small
        exact Nat.div_lt_of_lt_mul (by rwa [Nat.mul_comm] at small)
    next less =>
      rw [Terminated, byte value (by omega)]
      omega

theorem packLoop_length (more value : Nat) : (packLoop more value).length ≤ more + 1 := by
  induction more generalizing value with
  | zero => simp [packLoop]
  | succ more ih =>
    rw [packLoop]
    split
    · rw [List.length_cons]
      have := ih (value / 128)
      omega
    · simp

theorem base128_packLoop (more value : Nat) (small : value < 128 ^ (more + 1)) : base128 (packLoop more value) = value := by
  induction more generalizing value with
  | zero =>
    have less : value < 128 := by simpa using small
    rw [packLoop, base128, base128, UInt8.toNat_ofNat']
    omega
  | succ more ih =>
    rw [packLoop]
    split
    next large =>
      have rest : value / 128 < 128 ^ (more + 1) := by
        rw [Nat.pow_succ] at small
        exact Nat.div_lt_of_lt_mul (by rwa [Nat.mul_comm] at small)
      rw [base128, ih _ rest, UInt8.toNat_ofNat']
      omega
    next less =>
      rw [base128, base128, UInt8.toNat_ofNat']
      omega

theorem uint32_small (value : UInt32) : value.toNat < 128 ^ (4 + 1) :=
  Nat.lt_of_lt_of_le value.toNat_lt (by decide)

theorem uint32Pack_terminated (value : UInt32) : Terminated (uint32Pack value) := packLoop_terminated _ _ (uint32_small value)

theorem uint32Pack_length (value : UInt32) : (uint32Pack value).length ≤ 5 := packLoop_length ..

@[simp] theorem base128_uint32Pack (value : UInt32) : base128 (uint32Pack value) = value.toNat :=
  base128_packLoop _ _ (uint32_small value)

theorem int32Pack_terminated (value : UInt32) : Terminated (int32Pack value) := by
  have bound := value.toNat_lt
  rw [int32Pack]
  split
  · simp only [Terminated, UInt8.toNat_ofNat']
    refine ⟨by omega, by omega, by omega, by omega, by omega, by decide, by decide, by decide, by decide, by decide⟩
  · exact uint32Pack_terminated value

theorem int32Pack_length (value : UInt32) : (int32Pack value).length ≤ 10 := by
  rw [int32Pack]
  split
  · simp
  · exact Nat.le_trans (uint32Pack_length value) (by decide)

theorem base128_int32Pack (value : UInt32) : UInt32.ofNat (base128 ((int32Pack value).take 5)) = value := by
  have bound := value.toNat_lt
  apply UInt32.toNat_inj.mp
  rw [UInt32.toNat_ofNat', int32Pack]
  split
  · simp only [List.take_succ_cons, List.take_zero, base128, UInt8.toNat_ofNat']
    omega
  · rw [List.take_of_length_le (uint32Pack_length value), base128_uint32Pack]
    omega

def Field.member : Field → ScannedMember
  | varint id value => ⟨id, .varint, 0, value⟩
  | sixtyFourBit id value => ⟨id, .sixtyFourBit, 0, value⟩
  | lengthPrefixed id value =>
    ⟨id, .lengthPrefixed, (uint32Pack (UInt32.ofNat value.length)).length, uint32Pack (UInt32.ofNat value.length) ++ value⟩

def Field.Fits : Field → Prop
  | varint id value => id < 2 ^ 28 ∧ Terminated value ∧ value.length ≤ 10
  | sixtyFourBit id value => id < 2 ^ 28 ∧ value.length = 8
  | lengthPrefixed id value => id < 2 ^ 28 ∧ value.length < 2 ^ 32 - 5

theorem parseTagAndWiretype_append {id wireType : Nat} (known : id < 2 ^ 28) (type : wireType < 8) (rest : Bytes) :
    parseTagAndWiretype (tagPack id wireType ++ rest) = some (id, wireType, (tagPack id wireType).length) := by
  have value : (UInt32.ofNat (8 * id + wireType)).toNat = 8 * id + wireType := by
    rw [UInt32.toNat_ofNat']
    omega
  rw [parseTagAndWiretype, tagPack, scanVarint_append (uint32Pack_terminated _) (uint32Pack_length _), Option.map_some,
    List.take_left, base128_uint32Pack, value]
  congr 2
  · omega
  · congr 1
    omega

theorem scanLengthPrefixedData_append {value : Bytes} (fits : value.length < 2 ^ 32 - 5) (rest : Bytes) :
    scanLengthPrefixedData (uint32Pack (UInt32.ofNat value.length) ++ (value ++ rest)) =
      some ((uint32Pack (UInt32.ofNat value.length) ++ value).length, (uint32Pack (UInt32.ofNat value.length)).length) := by
  have size : (UInt32.ofNat value.length).toNat = value.length := by
    rw [UInt32.toNat_ofNat']
    omega
  have short := uint32Pack_length (UInt32.ofNat value.length)
  have some_byte : 0 < (uint32Pack (UInt32.ofNat value.length)).length := by
    have ends := uint32Pack_terminated (UInt32.ofNat value.length)
    cases bytes : uint32Pack (UInt32.ofNat value.length) with
    | nil => rw [bytes] at ends; cases ends
    | cons => simp
  rw [scanLengthPrefixedData, scanVarint_append (uint32Pack_terminated _) short, Option.bind_some, List.take_left,
    base128_uint32Pack, size, List.length_append, List.length_append, List.length_append]
  dsimp only
  rw [Nat.mod_eq_of_lt (show value.length < 2 ^ 32 by omega), Nat.mod_eq_of_lt (by omega), if_neg (by omega)]

theorem scanMember_field {field : Field} (fits : field.Fits) (rest : Bytes) :
    scanMember (field.pack ++ rest) = some (field.member, rest) := by
  cases field with
  | varint id value =>
    obtain ⟨known, ends, short⟩ := fits
    rw [Field.pack, List.append_assoc, scanMember, parseTagAndWiretype_append known (by decide), Option.bind_some]
    dsimp only
    rw [List.drop_left, scanValue, scanVarint_append ends short, Option.map_some, Option.map_some]
    dsimp only
    rw [List.take_left, List.drop_left, Field.member]
  | sixtyFourBit id value =>
    obtain ⟨known, size⟩ := fits
    rw [Field.pack, List.append_assoc, scanMember, parseTagAndWiretype_append known (by decide), Option.bind_some]
    dsimp only
    rw [List.drop_left, scanValue, if_neg (by rw [List.length_append]; omega), Option.map_some]
    dsimp only
    rw [← size, List.take_left, List.drop_left, Field.member]
  | lengthPrefixed id value =>
    obtain ⟨known, size⟩ := fits
    rw [Field.pack, List.append_assoc, scanMember, parseTagAndWiretype_append known (by decide), Option.bind_some]
    dsimp only
    rw [List.drop_left, List.append_assoc, scanValue, scanLengthPrefixedData_append size, Option.map_some, Option.map_some]
    dsimp only
    rw [← List.append_assoc, List.take_left, List.drop_left, Field.member]

theorem scanVarint_length {limit used : Nat} {data : Bytes} (scanned : scanVarint limit data = some used) :
    0 < used ∧ used ≤ data.length := by
  induction limit generalizing data used with
  | zero => cases scanned
  | succ limit ih =>
    cases data with
    | nil => cases scanned
    | cons byte rest =>
      rw [scanVarint] at scanned
      split at scanned
      · cases scanned
        simp
      · obtain ⟨count, later, rfl⟩ := Option.map_eq_some_iff.mp scanned
        have := ih later
        rw [List.length_cons]
        omega

theorem scanMember_shorter {data rest : Bytes} {member : ScannedMember} (scanned : scanMember data = some (member, rest)) :
    rest.length < data.length := by
  obtain ⟨⟨tag, wireType, used⟩, parsed, remaining⟩ := Option.bind_eq_some_iff.mp scanned
  obtain ⟨⟨type, len, prefixLen⟩, -, same⟩ := Option.map_eq_some_iff.mp remaining
  obtain ⟨count, header, parts⟩ := Option.map_eq_some_iff.mp parsed
  cases parts
  cases same
  have := scanVarint_length header
  rw [List.length_drop, List.length_drop]
  omega

theorem scanLoop_rounds {rounds : Nat} {data : Bytes} (enough : data.length ≤ rounds) :
    scanLoop rounds data = scanLoop data.length data := by
  induction rounds using Nat.strongRecOn generalizing data with
  | ind rounds ih =>
    cases data with
    | nil => cases rounds <;> rfl
    | cons byte data =>
      rw [List.length_cons] at enough ⊢
      obtain ⟨rounds, rfl⟩ : ∃ less, rounds = less + 1 := ⟨rounds - 1, by omega⟩
      rw [scanLoop, scanLoop]
      refine Option.bind_congr fun step scanned => ?_
      have scanned : scanMember (byte :: data) = some (step.1, step.2) := scanned
      have shorter := scanMember_shorter scanned
      rw [List.length_cons] at shorter
      dsimp only
      rw [ih rounds (by omega) (by omega), ih data.length (by omega) (by omega)]

theorem scanLoop_fields {fields : List Field} (fit : ∀ field ∈ fields, field.Fits) :
    scanLoop (pack fields).length (pack fields) = some (fields.map Field.member) := by
  induction fields with
  | nil => rfl
  | cons field fields ih =>
    have first := scanMember_field (fit field List.mem_cons_self) (pack fields)
    have rest := ih fun other member => fit other (List.mem_cons_of_mem _ member)
    have whole : pack (field :: fields) = field.pack ++ pack fields := List.flatMap_cons ..
    rw [whole]
    have shorter := scanMember_shorter first
    cases bytes : field.pack ++ pack fields with
    | nil =>
      rw [bytes] at shorter
      simp at shorter
    | cons byte data =>
      rw [bytes, List.length_cons] at shorter
      rw [bytes] at first
      rw [List.length_cons, scanLoop, first, Option.bind_some]
      dsimp only
      rw [scanLoop_rounds (by omega), rest, Option.map_some, List.map_cons]

theorem scan_fields {fields : List Field} (fit : ∀ field ∈ fields, field.Fits) (few : fields.length ≤ MAX_SCANNED_MEMBERS) :
    scan (pack fields) = some (fields.map Field.member) := by
  rw [scan, scanLoop_fields fit, Option.filter_some, if_pos (by simpa using few)]

@[simp] theorem parseUint32_varint (id : Nat) (value : UInt32) :
    (Field.varint id (uint32Pack value)).member.parseUint32 = .ok value := by
  rw [Field.member, ScannedMember.parseUint32, if_neg (by simp), List.take_of_length_le (uint32Pack_length value),
    base128_uint32Pack, UInt32.ofNat_toNat]

@[simp] theorem parseUint32_int32 (id : Nat) (value : UInt32) :
    (Field.varint id (int32Pack value)).member.parseUint32 = .ok value := by
  rw [Field.member, ScannedMember.parseUint32, if_neg (by simp), base128_int32Pack]

theorem littleEndian_fixedPack (width value : Nat) : littleEndian (fixedPack width value) = value % 256 ^ width := by
  induction width generalizing value with
  | zero => simp [fixedPack, littleEndian, Nat.mod_one]
  | succ width ih =>
    have wider : 256 ^ (width + 1) = 256 * 256 ^ width := by rw [Nat.pow_succ, Nat.mul_comm]
    rw [fixedPack, littleEndian, ih, UInt8.toNat_ofNat', wider, Nat.mod_mul]

theorem fixedPack_length (width value : Nat) : (fixedPack width value).length = width := by
  induction width generalizing value with
  | zero => rfl
  | succ width ih => rw [fixedPack, List.length_cons, ih]

@[simp] theorem parseFixedUint64_sixtyFourBit (id : Nat) (value : UInt64) :
    (Field.sixtyFourBit id (fixed64Pack value)).member.parseFixedUint64 = .ok value := by
  have bound := value.toNat_lt
  rw [Field.member, ScannedMember.parseFixedUint64, if_neg (by simp), fixed64Pack, littleEndian_fixedPack,
    Nat.mod_eq_of_lt (by omega), UInt64.ofNat_toNat]

@[simp] theorem parseBoolean_varint (id : Nat) (value : Bool) :
    (Field.varint id (booleanPack value)).member.parseBoolean = .ok value := by
  cases value <;> rfl

@[simp] theorem parseBytes_lengthPrefixed (id : Nat) (value : Bytes) :
    (Field.lengthPrefixed id value).member.parseBytes = .ok value := by
  rw [Field.member, ScannedMember.parseBytes, if_neg (by simp), if_neg (by simp), List.drop_left]

end PillarSignal.Libsignal.Protobuf
