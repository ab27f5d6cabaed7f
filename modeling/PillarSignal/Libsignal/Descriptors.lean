import PillarSignal.Delivery.Side
import PillarSignal.Libsignal.Protobuf

namespace PillarSignal.Libsignal.Protobuf

variable {α τ : Type}

theorem foldlM_congr {step step' : τ → α → Except SgErr τ} {values : List α}
    (same : ∀ value ∈ values, ∀ message, step message value = step' message value) (start : τ) :
    values.foldlM step start = values.foldlM step' start := by
  induction values generalizing start with
  | nil => rfl
  | cons value values ih =>
    rw [List.foldlM_cons, List.foldlM_cons, same value List.mem_cons_self]
    exact bind_congr fun message => ih (fun other member => same other (List.mem_cons_of_mem _ member)) message

structure Place (α τ : Type) where
  get : α → τ
  set : τ → α → α
  get_set : ∀ value message, get (set value message) = value := by intros; rfl
  set_set : ∀ value other message, set value (set other message) = set value message := by intros; rfl
  set_get : ∀ message, set (get message) message = message := by intros; rfl

theorem Place.set_of_get {place : Place α τ} {message : α} {value : τ} (there : place.get message = value) :
    place.set value message = message := by
  rw [← there, place.set_get]

/-- How one field of a message is written, read and merged. `parse_pack` is what makes it a
    faithful one: a message that has nothing in the field yet gets what was written. -/
structure FieldDescriptor (α : Type) where
  id : Nat
  pack : α → List Field
  parse : ScannedMember → α → Except SgErr α
  merge : (earlier latter : α) → α
  Blank : α → Prop
  copy : (source target : α) → α
  Encodable : α → Prop
  own : ∀ message, ∀ field ∈ pack message, field.member.tag = id
  parse_pack : ∀ source target, Encodable source → Blank target →
    (pack source).foldlM (fun message field => parse field.member message) target = .ok (copy source target)

/-- Taking over one field after the other ends with the whole message, and each field is blank
    until it is taken over. -/
def Restores : List (FieldDescriptor α) → (message target : α) → Prop
  | [], message, target => target = message
  | field :: fields, message, target => field.Blank target ∧ Restores fields message (field.copy message target)

structure MessageDescriptor (α : Type) where
  fields : List (FieldDescriptor α)
  init : α
  distinct : (fields.map FieldDescriptor.id).Nodup
  restores : ∀ message, Restores fields message init

namespace MessageDescriptor

variable (descriptor : MessageDescriptor α)

/-- A field that is not known is left alone. -/
def parseMember (member : ScannedMember) (message : α) : Except SgErr α :=
  match descriptor.fields.find? fun field => field.id == member.tag with
  | none => .ok message
  | some field => field.parse member message

/-- All the callers answer a null pointer with `SG_ERR_INVALID_PROTO_BUF`. -/
def unpack (data : Bytes) : Except SgErr α :=
  match scan data with
  | none => .error .invalidProtoBuf
  | some members => members.foldlM (fun message member => descriptor.parseMember member message) descriptor.init

def packFields (message : α) : List Field := descriptor.fields.flatMap fun field => field.pack message

def pack (message : α) : Bytes := Protobuf.pack (descriptor.packFields message)

/-- The fields of an earlier message that the latter one does not have are taken over. -/
def merge (earlier latter : α) : α := descriptor.fields.foldl (fun latter field => field.merge earlier latter) latter

/-- The message and those inside it are of a size that the lengths in the data can tell. -/
structure Encodable (message : α) : Prop where
  fits : ∀ field ∈ descriptor.packFields message, field.Fits
  few : (descriptor.packFields message).length ≤ MAX_SCANNED_MEMBERS
  inner : ∀ field ∈ descriptor.fields, field.Encodable message

variable {descriptor}

theorem parseMember_eq {field : FieldDescriptor α} (known : field ∈ descriptor.fields) {member : ScannedMember}
    (own : member.tag = field.id) (message : α) : descriptor.parseMember member message = field.parse member message := by
  rw [parseMember, own, Delivery.find?_eq_some_of_nodup descriptor.distinct known]

theorem foldlM_fields {fields : List (FieldDescriptor α)} (known : ∀ field ∈ fields, field ∈ descriptor.fields) {message : α}
    (inner : ∀ field ∈ fields, field.Encodable message) {target : α} (restores : Restores fields message target) :
    (fields.flatMap fun field => field.pack message).foldlM
      (fun target field => descriptor.parseMember field.member target) target = .ok message := by
  induction fields generalizing target with
  | nil =>
    rw [Restores] at restores
    rw [restores]
    rfl
  | cons field fields ih =>
    have here := known field List.mem_cons_self
    have one := field.parse_pack message target (inner field List.mem_cons_self) restores.1
    have same : (field.pack message).foldlM (fun target field => descriptor.parseMember field.member target) target =
        (field.pack message).foldlM (fun target other => field.parse other.member target) target := by
      refine foldlM_congr (fun other member target => ?_) target
      exact parseMember_eq here (field.own message other member) target
    rw [List.flatMap_cons, List.foldlM_append, same, one]
    exact ih (fun other member => known other (List.mem_cons_of_mem _ member))
      (fun other member => inner other (List.mem_cons_of_mem _ member)) restores.2

theorem unpack_pack {message : α} (encodable : descriptor.Encodable message) :
    descriptor.unpack (descriptor.pack message) = .ok message := by
  rw [unpack, pack, scan_fields encodable.fits encodable.few]
  dsimp only
  rw [List.foldlM_map]
  exact foldlM_fields (fun _ known => known) encodable.inner (descriptor.restores message)

structure Sized (descriptor : MessageDescriptor α) (message : α) (size : Nat) : Prop where
  encodable : descriptor.Encodable message
  length : (descriptor.pack message).length ≤ size

end MessageDescriptor

namespace FieldDescriptor

variable {α τ : Type}

def optional (id : Nat) (read : ScannedMember → Except SgErr τ) (write : τ → Field) (merge : (earlier latter : Option τ) → Option τ)
    (own : ∀ value, (write value).member.tag = id) (read_write : ∀ value, read (write value).member = .ok value)
    (place : Place α (Option τ)) : FieldDescriptor α where
  id := id
  pack message := optionalField write (place.get message)
  parse member message := (read member).map fun value => place.set (some value) message
  merge earlier latter := place.set (merge (place.get earlier) (place.get latter)) latter
  Blank message := place.get message = none
  copy source target := place.set (place.get source) target
  Encodable _ := True
  own message field member := by
    cases value : place.get message with
    | none => simp [optionalField, value] at member
    | some given =>
      obtain rfl : field = write given := by simpa [optionalField, value] using member
      exact own given
  parse_pack source target _ blank := by
    cases value : place.get source with
    | none =>
      rw [Place.set_of_get blank]
      rfl
    | some given =>
      rw [optionalField, Option.map_some, Option.toList_some, List.foldlM_cons, read_write]
      rfl

/-- A value that is not there any more is taken from the earlier message. -/
def mergeScalar (earlier latter : Option τ) : Option τ := latter.or earlier

/-- Data without a byte count as missing. -/
def mergeBytes (earlier latter : Option Bytes) : Option Bytes :=
  if earlier.getD [] ≠ [] ∧ latter.getD [] = [] then earlier else latter

def uint32 (id : Nat) : Place α (Option UInt32) → FieldDescriptor α :=
  optional id ScannedMember.parseUint32 (fun value => .varint id (uint32Pack value)) mergeScalar (fun _ => rfl)
    (parseUint32_varint id)

def int32 (id : Nat) : Place α (Option UInt32) → FieldDescriptor α :=
  optional id ScannedMember.parseUint32 (fun value => .varint id (int32Pack value)) mergeScalar (fun _ => rfl)
    (parseUint32_int32 id)

def fixed64 (id : Nat) : Place α (Option UInt64) → FieldDescriptor α :=
  optional id ScannedMember.parseFixedUint64 (fun value => .sixtyFourBit id (fixed64Pack value)) mergeScalar (fun _ => rfl)
    (parseFixedUint64_sixtyFourBit id)

def bool (id : Nat) : Place α (Option Bool) → FieldDescriptor α :=
  optional id ScannedMember.parseBoolean (fun value => .varint id (booleanPack value)) mergeScalar (fun _ => rfl)
    (parseBoolean_varint id)

def bytes (id : Nat) : Place α (Option Bytes) → FieldDescriptor α :=
  optional id ScannedMember.parseBytes (Field.lengthPrefixed id) mergeBytes (fun _ => rfl) (parseBytes_lengthPrefixed id)

/-- A message that is there already is merged into the one that comes later. -/
def message (id : Nat) (descriptor : MessageDescriptor τ) (place : Place α (Option τ)) : FieldDescriptor α where
  id := id
  pack message := optionalField (fun inner => .lengthPrefixed id (descriptor.pack inner)) (place.get message)
  parse member message := (member.parseBytes.bind descriptor.unpack).map fun inner =>
    place.set (some ((place.get message).elim inner fun earlier => descriptor.merge earlier inner)) message
  merge earlier latter := match place.get earlier, place.get latter with
    | some one, some two => place.set (some (descriptor.merge one two)) latter
    | some one, none => place.set (some one) latter
    | none, _ => latter
  Blank message := place.get message = none
  copy source target := place.set (place.get source) target
  Encodable message := ∀ inner, place.get message = some inner → descriptor.Encodable inner
  own message field member := by
    cases value : place.get message with
    | none => simp [optionalField, value] at member
    | some given =>
      obtain rfl : field = .lengthPrefixed id (descriptor.pack given) := by simpa [optionalField, value] using member
      rfl
  parse_pack source target encodable blank := by
    cases value : place.get source with
    | none =>
      rw [Place.set_of_get blank]
      rfl
    | some given =>
      rw [optionalField, Option.map_some, Option.toList_some, List.foldlM_cons, parseBytes_lengthPrefixed, Except.bind,
        MessageDescriptor.unpack_pack (encodable given value), blank]
      rfl

def messages (id : Nat) (descriptor : MessageDescriptor τ) (place : Place α (List τ)) : FieldDescriptor α where
  id := id
  pack message := (place.get message).map fun inner => .lengthPrefixed id (descriptor.pack inner)
  parse member message := (member.parseBytes.bind descriptor.unpack).map fun inner =>
    place.set (place.get message ++ [inner]) message
  merge earlier latter := place.set (place.get earlier ++ place.get latter) latter
  Blank message := place.get message = []
  copy source target := place.set (place.get source) target
  Encodable message := ∀ inner ∈ place.get message, descriptor.Encodable inner
  own message field member := by
    obtain ⟨inner, _, rfl⟩ := List.mem_map.mp member
    rfl
  parse_pack source target encodable blank := by
    suffices run : ∀ values : List τ, (∀ inner ∈ values, descriptor.Encodable inner) → ∀ before target,
        place.get target = before →
        (values.map fun inner => Field.lengthPrefixed id (descriptor.pack inner)).foldlM
          (fun message field => (field.member.parseBytes.bind descriptor.unpack).map fun inner =>
            place.set (place.get message ++ [inner]) message) target = .ok (place.set (before ++ values) target) by
      exact run _ encodable [] target blank
    intro values
    induction values with
    | nil =>
      intro _ before target there
      rw [List.append_nil, Place.set_of_get there]
      rfl
    | cons inner values ih =>
      intro encodable before target there
      have first := MessageDescriptor.unpack_pack (encodable inner List.mem_cons_self)
      rw [List.map_cons, List.foldlM_cons, parseBytes_lengthPrefixed, Except.bind, first, there]
      have rest := ih (fun other member => encodable other (List.mem_cons_of_mem _ member)) (before ++ [inner])
        (place.set (before ++ [inner]) target) (place.get_set ..)
      rw [List.append_assoc, List.singleton_append, place.set_set] at rest
      exact rest

structure Small (fields : List (FieldDescriptor α)) (message : α) (size count : Nat) : Prop where
  fits : ∀ field ∈ fields.flatMap fun field => field.pack message, field.Fits
  size : (Protobuf.pack (fields.flatMap fun field => field.pack message)).length ≤ size
  count : (fields.flatMap fun field => field.pack message).length ≤ count
  inner : ∀ field ∈ fields, field.Encodable message

theorem Small.nil (message : α) : Small [] message 0 0 := ⟨by simp, by simp [Protobuf.pack], by simp, by simp⟩

theorem Small.cons {field : FieldDescriptor α} {fields : List (FieldDescriptor α)} {message : α} {size size' count count' : Nat}
    (one : Small [field] message size count) (rest : Small fields message size' count') :
    Small (field :: fields) message (size + size') (count + count') := by
  have first : ([field].flatMap fun field => field.pack message) = field.pack message := by simp
  obtain ⟨fits, bytes, few, inner⟩ := one
  rw [first] at fits bytes few
  refine ⟨fun other member => ?_, ?_, ?_, fun other member => ?_⟩
  · rw [List.flatMap_cons] at member
    rcases List.mem_append.mp member with here | later
    · exact fits other here
    · exact rest.fits other later
  · have later := rest.size
    rw [Protobuf.pack] at bytes later ⊢
    rw [List.flatMap_cons, List.flatMap_append, List.length_append]
    omega
  · have later := rest.count
    rw [List.flatMap_cons, List.length_append]
    omega
  · rcases List.mem_cons.mp member with rfl | later
    · exact inner other List.mem_cons_self
    · exact rest.inner other later

theorem tagPack_length (id wireType : Nat) : (tagPack id wireType).length ≤ 5 := uint32Pack_length _

theorem Small.optional {field : FieldDescriptor α} {message : α} {write : τ → Field} {value : Option τ} {size : Nat}
    (packs : field.pack message = optionalField write value)
    (small : ∀ given, value = some given → (write given).Fits ∧ (write given).pack.length ≤ size)
    (encodable : field.Encodable message) : Small [field] message size 1 := by
  have one : ([field].flatMap fun field => field.pack message) = (value.map write).toList := by
    rw [List.flatMap_singleton, packs, optionalField]
  refine ⟨?_, ?_, ?_, by simpa using encodable⟩ <;> rw [one]
  · intro field member
    obtain ⟨given, there, rfl⟩ := Option.map_eq_some_iff.mp (Option.mem_toList.mp member)
    exact (small given there).1
  · cases value with
    | none => simp [Protobuf.pack]
    | some given => simpa [Protobuf.pack] using (small given rfl).2
  · cases value <;> simp

theorem uint32_small {id : Nat} (known : id < 2 ^ 28) (place : Place α (Option UInt32)) (message : α) :
    Small [uint32 id place] message 10 1 := by
  refine .optional rfl (fun value _ => ⟨⟨known, uint32Pack_terminated value, ?_⟩, ?_⟩) trivial
  · have := uint32Pack_length value
    omega
  · have tag := tagPack_length id 0
    have := uint32Pack_length value
    rw [Field.pack, List.length_append]
    omega

theorem int32_small {id : Nat} (known : id < 2 ^ 28) (place : Place α (Option UInt32)) (message : α) :
    Small [int32 id place] message 15 1 := by
  refine .optional rfl (fun value _ => ⟨⟨known, int32Pack_terminated value, int32Pack_length value⟩, ?_⟩) trivial
  have tag := tagPack_length id 0
  have := int32Pack_length value
  rw [Field.pack, List.length_append]
  omega

theorem bool_small {id : Nat} (known : id < 2 ^ 28) (place : Place α (Option Bool)) (message : α) :
    Small [bool id place] message 6 1 := by
  refine .optional rfl (fun value _ => ⟨⟨known, ?_, ?_⟩, ?_⟩) trivial
  · cases value <;> simp [booleanPack, Terminated]
  · simp [booleanPack]
  · have tag := tagPack_length id 0
    rw [Field.pack, List.length_append, booleanPack, List.length_singleton]
    omega

theorem fixed64_small {id : Nat} (known : id < 2 ^ 28) (place : Place α (Option UInt64)) (message : α) :
    Small [fixed64 id place] message 13 1 := by
  have length : ∀ value : UInt64, (fixed64Pack value).length = 8 := fun value => fixedPack_length 8 value.toNat
  refine .optional rfl (fun value _ => ⟨⟨known, length value⟩, ?_⟩) trivial
  have tag := tagPack_length id 1
  rw [Field.pack, List.length_append, length value]
  omega

theorem lengthPrefixed_small {id size : Nat} (known : id < 2 ^ 28) {value : Bytes} (length : value.length ≤ size)
    (fits : size < 2 ^ 32 - 5) :
    (Field.lengthPrefixed id value).Fits ∧ (Field.lengthPrefixed id value).pack.length ≤ 10 + size := by
  refine ⟨⟨known, by omega⟩, ?_⟩
  have tag := tagPack_length id 2
  have := uint32Pack_length (UInt32.ofNat value.length)
  rw [Field.pack, List.length_append, List.length_append]
  omega

theorem bytes_small {id size : Nat} (known : id < 2 ^ 28) {place : Place α (Option Bytes)} {message : α}
    (length : ∀ value, place.get message = some value → value.length ≤ size) (fits : size < 2 ^ 32 - 5) :
    Small [bytes id place] message (10 + size) 1 :=
  .optional rfl (fun value there => lengthPrefixed_small known (length value there) fits) trivial

theorem message_small {id size : Nat} (known : id < 2 ^ 28) {descriptor : MessageDescriptor τ} {place : Place α (Option τ)}
    {message : α} (sized : ∀ value, place.get message = some value → descriptor.Sized value size)
    (fits : size < 2 ^ 32 - 5) : Small [FieldDescriptor.message id descriptor place] message (10 + size) 1 :=
  .optional rfl (fun value there => lengthPrefixed_small known (sized value there).length fits) fun value there =>
    (sized value there).encodable

theorem messages_small {id size count : Nat} (known : id < 2 ^ 28) {descriptor : MessageDescriptor τ} {place : Place α (List τ)}
    {message : α} (sized : ∀ value ∈ place.get message, descriptor.Sized value size) (fits : size < 2 ^ 32 - 5)
    (few : (place.get message).length ≤ count) : Small [messages id descriptor place] message (count * (10 + size)) count := by
  have one : ([messages id descriptor place].flatMap fun field => field.pack message) =
      (place.get message).map fun inner => .lengthPrefixed id (descriptor.pack inner) := by
    simp [messages]
  have small : ∀ value ∈ place.get message, _ := fun value there => lengthPrefixed_small known (sized value there).length fits
  refine ⟨?_, ?_, ?_, ?_⟩
  · rw [one]
    intro field member
    obtain ⟨value, there, rfl⟩ := List.mem_map.mp member
    exact (small value there).1
  · rw [one]
    refine Nat.le_trans ?_ (Nat.mul_le_mul_right (10 + size) few)
    revert small
    clear one few sized
    induction place.get message with
    | nil => simp [Protobuf.pack]
    | cons value values ih =>
      intro small
      have rest := ih fun other member => small other (List.mem_cons_of_mem _ member)
      have first := (small value List.mem_cons_self).2
      rw [Protobuf.pack] at rest ⊢
      rw [List.map_cons, List.flatMap_cons, List.length_append, List.length_cons, Nat.succ_mul]
      omega
  · rw [one]
    simpa using few
  · intro field member
    rw [List.mem_singleton.mp member]
    exact fun value there => (sized value there).encodable

end FieldDescriptor

theorem MessageDescriptor.Sized.of_small {descriptor : MessageDescriptor α} {message : α} {size count bound : Nat}
    (small : FieldDescriptor.Small descriptor.fields message size count) (few : count ≤ MAX_SCANNED_MEMBERS)
    (within : size ≤ bound) : descriptor.Sized message bound :=
  ⟨⟨small.fits, Nat.le_trans small.count few, small.inner⟩, Nat.le_trans small.size within⟩

end PillarSignal.Libsignal.Protobuf
