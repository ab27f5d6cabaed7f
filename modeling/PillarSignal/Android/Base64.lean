import PillarSignal.Android.OrgJson
import PillarSignal.Protocol.Plain
import Mathlib.Data.Nat.Bitwise

namespace PillarSignal.Android.Base64

def EQUALS_SIGN : UInt8 := 61

def WHITE_SPACE_ENC : Int := -5

def EQUALS_SIGN_ENC : Int := -1

def STANDARD_ALPHABET : Bytes :=
  "ABCDEFGHIJKLMNOPQRSTUVWXYZabcdefghijklmnopqrstuvwxyz0123456789+/".toList.map fun c => UInt8.ofNat c.toNat

/-- The entries from 127 on are commented out in the source. -/
def STANDARD_DECODABET : List Int :=
  [-9, -9, -9, -9, -9, -9, -9, -9, -9,
    -5, -5,
    -9, -9,
    -5,
    -9, -9, -9, -9, -9, -9, -9, -9, -9, -9, -9, -9, -9,
    -9, -9, -9, -9, -9,
    -5,
    -9, -9, -9, -9, -9, -9, -9, -9, -9, -9,
    62,
    -9, -9, -9,
    63,
    52, 53, 54, 55, 56, 57, 58, 59, 60, 61,
    -9, -9, -9,
    -1,
    -9, -9, -9,
    0, 1, 2, 3, 4, 5, 6, 7, 8, 9, 10, 11, 12, 13,
    14, 15, 16, 17, 18, 19, 20, 21, 22, 23, 24, 25,
    -9, -9, -9, -9, -9, -9,
    26, 27, 28, 29, 30, 31, 32, 33, 34, 35, 36, 37, 38,
    39, 40, 41, 42, 43, 44, 45, 46, 47, 48, 49, 50, 51,
    -9, -9, -9, -9]

def symbol (index : Nat) : UInt8 := STANDARD_ALPHABET.getD index 0

def sextet (c : UInt8) : Nat := (STANDARD_DECODABET.getD c.toNat 0 % 256).toNat

def inBuff (b0 b1 b2 : UInt8) : Nat := b0.toNat <<< 16 ||| b1.toNat <<< 8 ||| b2.toNat

def encodeBytesToBytes : Bytes → Bytes
  | [] => []
  | [b0] =>
    let inBuff := inBuff b0 0 0
    [symbol (inBuff >>> 18), symbol (inBuff >>> 12 &&& 0x3f), EQUALS_SIGN, EQUALS_SIGN]
  | [b0, b1] =>
    let inBuff := inBuff b0 b1 0
    [symbol (inBuff >>> 18), symbol (inBuff >>> 12 &&& 0x3f), symbol (inBuff >>> 6 &&& 0x3f), EQUALS_SIGN]
  | b0 :: b1 :: b2 :: source =>
    let inBuff := inBuff b0 b1 b2
    symbol (inBuff >>> 18) :: symbol (inBuff >>> 12 &&& 0x3f) :: symbol (inBuff >>> 6 &&& 0x3f) ::
      symbol (inBuff &&& 0x3f) :: encodeBytesToBytes source

def decode4to3 (b4 : Bytes) : Bytes :=
  let value (index : Nat) : Nat := sextet (b4.getD index 0)
  if b4.getD 2 0 = EQUALS_SIGN then
    let outBuff := value 0 <<< 18 ||| value 1 <<< 12
    [UInt8.ofNat (outBuff >>> 16)]
  else if b4.getD 3 0 = EQUALS_SIGN then
    let outBuff := value 0 <<< 18 ||| value 1 <<< 12 ||| value 2 <<< 6
    [UInt8.ofNat (outBuff >>> 16), UInt8.ofNat (outBuff >>> 8)]
  else
    let outBuff := value 0 <<< 18 ||| value 1 <<< 12 ||| value 2 <<< 6 ||| value 3
    [UInt8.ofNat (outBuff >>> 16), UInt8.ofNat (outBuff >>> 8), UInt8.ofNat outBuff]

/-- The loop over the characters, with the quartet that is being collected. -/
def decodeLoop : Bytes → Bytes → Bytes → Except Thrown Bytes
  | [], _, outBuff => .ok outBuff
  | sbiCrop :: source, b4, outBuff =>
    match STANDARD_DECODABET[sbiCrop.toNat]? with
    | none => .error .unexpected
    | some sbiDecode =>
      if sbiDecode ≥ WHITE_SPACE_ENC then
        if sbiDecode ≥ EQUALS_SIGN_ENC then
          let b4 := b4 ++ [sbiCrop]
          if b4.length > 3 then
            let outBuff := outBuff ++ decode4to3 b4
            -- an equals sign that completes a quartet is the last character that is looked at
            if sbiCrop = EQUALS_SIGN then .ok outBuff else decodeLoop source [] outBuff
          else decodeLoop source b4 outBuff
        else decodeLoop source b4 outBuff
      else .error .io

/-- `getBytes("US-ASCII")` makes a question mark of every other unit of UTF-16. -/
def asciiBytes (text : String) : Bytes :=
  text.toList.flatMap fun c =>
    if c.toNat < 128 then [UInt8.ofNat c.toNat] else if c.toNat < 2 ^ 16 then [63] else [63, 63]

def decode (text : String) : Except Thrown Bytes :=
  let source := asciiBytes text
  if source.length = 0 then .ok []
  else if source.length < 4 then .error .illegalArgument
  else decodeLoop source [] []

def encodeBytes (source : Bytes) : String :=
  String.ofList ((encodeBytesToBytes source).map fun byte => Char.ofNat byte.toNat)

/-- What `decode` throws at a text that it does not decode. -/
def thrown (text : String) : Thrown :=
  match decode text with
  | .error e => e
  | .ok _ => .io

section Loop

variable {c : UInt8} {value : Int}

theorem decodeLoop_bad (entry : STANDARD_DECODABET[c.toNat]? = some value) (bad : value < WHITE_SPACE_ENC)
    (source b4 outBuff : Bytes) : decodeLoop (c :: source) b4 outBuff = .error .io := by
  rw [decodeLoop, entry]
  exact if_neg (by omega)

theorem decodeLoop_space (entry : STANDARD_DECODABET[c.toNat]? = some value) (good : WHITE_SPACE_ENC ≤ value)
    (space : value < EQUALS_SIGN_ENC) (source b4 outBuff : Bytes) :
    decodeLoop (c :: source) b4 outBuff = decodeLoop source b4 outBuff := by
  rw [decodeLoop, entry]
  dsimp only
  rw [if_pos good, if_neg (by omega)]

theorem decodeLoop_collect (entry : STANDARD_DECODABET[c.toNat]? = some value) (kept : EQUALS_SIGN_ENC ≤ value)
    (source : Bytes) {b4 : Bytes} (few : b4.length < 3) (outBuff : Bytes) :
    decodeLoop (c :: source) b4 outBuff = decodeLoop source (b4 ++ [c]) outBuff := by
  have good : WHITE_SPACE_ENC ≤ value := le_trans (by decide) kept
  rw [decodeLoop, entry]
  dsimp only
  rw [if_pos good, if_pos kept, List.length_append, List.length_singleton, if_neg (by omega)]

theorem decodeLoop_complete (entry : STANDARD_DECODABET[c.toNat]? = some value) (kept : EQUALS_SIGN_ENC ≤ value)
    (source : Bytes) {b4 : Bytes} (full : 3 ≤ b4.length) (outBuff : Bytes) :
    decodeLoop (c :: source) b4 outBuff =
      if c = EQUALS_SIGN then .ok (outBuff ++ decode4to3 (b4 ++ [c]))
      else decodeLoop source [] (outBuff ++ decode4to3 (b4 ++ [c])) := by
  have good : WHITE_SPACE_ENC ≤ value := le_trans (by decide) kept
  rw [decodeLoop, entry]
  dsimp only
  rw [if_pos good, if_pos kept, List.length_append, List.length_singleton, if_pos (by omega)]

end Loop

section Exceptions

/-- The character at which the loop throws, when it has collected so many of a quartet. -/
def stopsAt : Nat → Bytes → Option UInt8
  | _, [] => none
  | b4Posn, c :: source =>
    match STANDARD_DECODABET[c.toNat]? with
    | none => some c
    | some value =>
      if value < WHITE_SPACE_ENC then some c
      else if value < EQUALS_SIGN_ENC then stopsAt b4Posn source
      else if b4Posn < 3 then stopsAt (b4Posn + 1) source
      else if c = EQUALS_SIGN then none
      else stopsAt 0 source

/-- The text is refused with an `IOException`, which the callers catch, if at all: it is not too short, and no U+007F
    stops the loop. -/
def Catchable (text : String) : Prop :=
  (text = "" ∨ 4 ≤ (asciiBytes text).length) ∧ stopsAt 0 (asciiBytes text) ≠ some 127

instance (text : String) : Decidable (Catchable text) := inferInstanceAs (Decidable (_ ∧ _))

theorem decodeLoop_throws (source b4 outBuff : Bytes) :
    (∃ bytes, decodeLoop source b4 outBuff = .ok bytes ∧ stopsAt b4.length source = none) ∨
      ∃ e c, decodeLoop source b4 outBuff = .error e ∧ stopsAt b4.length source = some c ∧ c ∈ source ∧
        e = if (STANDARD_DECODABET[c.toNat]?).isSome then .io else .unexpected := by
  induction source generalizing b4 outBuff with
  | nil => exact .inl ⟨outBuff, rfl, rfl⟩
  | cons c source ih =>
    have later : ∀ next more,
        (∃ bytes, decodeLoop source next more = .ok bytes ∧ stopsAt next.length source = none) ∨
          ∃ e bad, decodeLoop source next more = .error e ∧ stopsAt next.length source = some bad ∧
            bad ∈ c :: source ∧ e = if (STANDARD_DECODABET[bad.toNat]?).isSome then .io else .unexpected := by
      intro next more
      rcases ih next more with returned | ⟨e, bad, thrown, stopped, member, io⟩
      · exact .inl returned
      · exact .inr ⟨e, bad, thrown, stopped, List.mem_cons_of_mem _ member, io⟩
    rw [stopsAt]
    cases entry : STANDARD_DECODABET[c.toNat]? with
    | none => exact .inr ⟨.unexpected, c, by rw [decodeLoop, entry], rfl, by simp, by simp [entry]⟩
    | some value =>
      dsimp only
      by_cases bad : value < WHITE_SPACE_ENC
      · rw [if_pos bad]
        exact .inr ⟨.io, c, decodeLoop_bad entry bad .., rfl, by simp, by simp [entry]⟩
      · rw [if_neg bad]
        by_cases space : value < EQUALS_SIGN_ENC
        · rw [if_pos space, decodeLoop_space entry (by omega) space]
          exact later b4 outBuff
        · rw [if_neg space]
          by_cases few : b4.length < 3
          · rw [if_pos few, decodeLoop_collect entry (by omega) source few,
              show b4.length + 1 = (b4 ++ [c]).length by simp]
            exact later (b4 ++ [c]) outBuff
          · rw [if_neg few, decodeLoop_complete entry (by omega) source (by omega)]
            by_cases last : c = EQUALS_SIGN
            · rw [if_pos last, if_pos last]
              exact .inl ⟨_, rfl, rfl⟩
            · rw [if_neg last, if_neg last]
              exact later [] _

theorem asciiBytes_small {text : String} {c : UInt8} (member : c ∈ asciiBytes text) : c.toNat < 128 := by
  obtain ⟨unit, _, single⟩ := List.mem_flatMap.mp member
  split at single
  · rename_i small
    rw [List.mem_singleton.mp single, UInt8.toNat_ofNat_of_lt' (lt_trans small (by decide))]
    exact small
  · split at single
    · rw [List.mem_singleton.mp single]
      decide
    · have same : c = 63 := by simpa using single
      rw [same]
      decide

theorem asciiBytes_eq_nil {text : String} (none_left : (asciiBytes text).length = 0) : text = "" := by
  apply String.toList_injective
  rw [String.toList_empty]
  cases listed : text.toList with
  | nil => rfl
  | cons c rest =>
    rw [asciiBytes, listed, List.flatMap_cons, List.length_append] at none_left
    split at none_left
    · simp at none_left
    · split at none_left <;> simp at none_left

theorem thrown_eq_io_iff (text : String) : thrown text = .io ↔ Catchable text := by
  have table : STANDARD_DECODABET.length = 127 := rfl
  unfold thrown decode Catchable
  by_cases empty : (asciiBytes text).length = 0
  · have nothing := asciiBytes_eq_nil empty
    subst nothing
    exact iff_of_true rfl ⟨.inl rfl, by decide⟩
  · rw [if_neg empty]
    have some_left : text ≠ "" := by
      rintro rfl
      exact empty rfl
    by_cases few : (asciiBytes text).length < 4
    · rw [if_pos few]
      exact iff_of_false (by simp) fun ⟨enough, _⟩ => absurd (enough.resolve_left some_left) (by omega)
    · rw [if_neg few]
      rcases decodeLoop_throws (asciiBytes text) [] [] with ⟨bytes, returned, stops⟩ |
        ⟨e, c, failed, stopped, member, io⟩
      · rw [returned]
        have passes : stopsAt 0 (asciiBytes text) = none := stops
        exact iff_of_true rfl ⟨.inr (by omega), by simp [passes]⟩
      · rw [failed]
        have at_c : stopsAt 0 (asciiBytes text) = some c := stopped
        have small := asciiBytes_small member
        have listed : (STANDARD_DECODABET[c.toNat]?).isSome = true ↔ c ≠ 127 := by
          rw [Option.isSome_iff_ne_none, ne_eq, List.getElem?_eq_none_iff, table, ne_eq, ← UInt8.toNat_inj]
          have last : (127 : UInt8).toNat = 127 := rfl
          omega
        rw [at_c]
        dsimp only
        rw [io, ite_eq_left_iff, listed]
        simp [show 4 ≤ (asciiBytes text).length by omega]

theorem thrown_mem (text : String) : thrown text ∈ [.io, .illegalArgument, .unexpected] := by
  unfold thrown decode
  by_cases empty : (asciiBytes text).length = 0
  · simp [empty]
  · rw [if_neg empty]
    by_cases few : (asciiBytes text).length < 4
    · simp [few]
    · rw [if_neg few]
      rcases decodeLoop_throws (asciiBytes text) [] [] with ⟨bytes, returned, _⟩ | ⟨e, c, failed, _, _, io⟩
      · simp [returned]
      · rw [failed, io]
        dsimp only
        split <;> simp

theorem thrown_notMem_iff {caught : List Thrown} (io : .io ∈ caught) (argument : .illegalArgument ∉ caught)
    (other : .unexpected ∉ caught) (text : String) : thrown text ∉ caught ↔ thrown text ≠ .io := by
  have mem := thrown_mem text
  simp only [List.mem_cons, List.not_mem_nil, or_false] at mem
  rcases mem with same | same | same
  · simp [same, io]
  · simp [same, argument]
  · simp [same, other]

end Exceptions

section RoundTrip

theorem or_eq_add (high : Nat) {low bits : Nat} (small : low < 2 ^ bits) : high <<< bits ||| low = high * 2 ^ bits + low := by
  rw [← Nat.shiftLeft_add_eq_or_of_lt small, Nat.shiftLeft_eq]

theorem inBuff_eq (b0 b1 b2 : UInt8) : inBuff b0 b1 b2 = b0.toNat * 65536 + b1.toNat * 256 + b2.toNat := by
  have small1 := b1.toNat_lt
  have small2 := b2.toNat_lt
  have first : b0.toNat <<< 16 ||| b1.toNat <<< 8 = (b0.toNat * 256 + b1.toNat) <<< 8 := by
    rw [or_eq_add _ (by rw [Nat.shiftLeft_eq]; omega), Nat.shiftLeft_eq, Nat.shiftLeft_eq]
    omega
  rw [inBuff, first, or_eq_add _ (by omega)]
  omega

theorem sextets_eq {v0 v1 v2 v3 : Nat} (small1 : v1 < 64) (small2 : v2 < 64) (small3 : v3 < 64) :
    v0 <<< 18 ||| v1 <<< 12 ||| v2 <<< 6 ||| v3 = v0 * 262144 + v1 * 4096 + v2 * 64 + v3 := by
  have first : v0 <<< 18 ||| v1 <<< 12 = (v0 * 64 + v1) <<< 12 := by
    rw [or_eq_add _ (by rw [Nat.shiftLeft_eq]; omega), Nat.shiftLeft_eq, Nat.shiftLeft_eq]
    omega
  have second : (v0 * 64 + v1) <<< 12 ||| v2 <<< 6 = (v0 * 4096 + v1 * 64 + v2) <<< 6 := by
    rw [or_eq_add _ (by rw [Nat.shiftLeft_eq]; omega), Nat.shiftLeft_eq, Nat.shiftLeft_eq]
    omega
  rw [first, second, or_eq_add _ (by omega)]
  omega

theorem symbol_entry : ∀ index < 64, STANDARD_DECODABET[(symbol index).toNat]? = some (index : Int) := by decide +kernel

theorem sextet_symbol : ∀ index < 64, sextet (symbol index) = index := by decide +kernel

theorem symbol_ne_equals : ∀ index < 64, symbol index ≠ EQUALS_SIGN := by decide +kernel

theorem symbol_small : ∀ index < 64, (symbol index).toNat < 128 := by decide +kernel

/-- The character is one that a quartet collects. -/
def Kept (c : UInt8) : Prop := ∃ value, STANDARD_DECODABET[c.toNat]? = some value ∧ EQUALS_SIGN_ENC ≤ value

theorem kept_symbol {index : Nat} (small : index < 64) : Kept (symbol index) := by
  have nonnegative : EQUALS_SIGN_ENC ≤ (index : Int) := le_trans (by decide) (Int.natCast_nonneg index)
  exact ⟨index, symbol_entry index small, nonnegative⟩

theorem kept_equals : Kept EQUALS_SIGN := ⟨-1, by decide, by decide⟩

theorem decodeLoop_four {c0 c1 c2 c3 : UInt8} (kept0 : Kept c0) (kept1 : Kept c1) (kept2 : Kept c2) (kept3 : Kept c3)
    (source outBuff : Bytes) :
    decodeLoop (c0 :: c1 :: c2 :: c3 :: source) [] outBuff =
      if c3 = EQUALS_SIGN then .ok (outBuff ++ decode4to3 [c0, c1, c2, c3])
      else decodeLoop source [] (outBuff ++ decode4to3 [c0, c1, c2, c3]) := by
  obtain ⟨_, entry0, above0⟩ := kept0
  obtain ⟨_, entry1, above1⟩ := kept1
  obtain ⟨_, entry2, above2⟩ := kept2
  obtain ⟨_, entry3, above3⟩ := kept3
  rw [decodeLoop_collect entry0 above0 _ (by simp), decodeLoop_collect entry1 above1 _ (by simp),
    decodeLoop_collect entry2 above2 _ (by simp), decodeLoop_complete entry3 above3 _ (by simp)]
  rfl

theorem sextets_of_inBuff {inBuff : Nat} (small : inBuff < 2 ^ 24) :
    inBuff >>> 18 < 64 ∧ inBuff >>> 12 &&& 0x3f < 64 ∧ inBuff >>> 6 &&& 0x3f < 64 ∧ inBuff &&& 0x3f < 64 ∧
      inBuff >>> 18 <<< 18 ||| (inBuff >>> 12 &&& 0x3f) <<< 12 ||| (inBuff >>> 6 &&& 0x3f) <<< 6 ||| (inBuff &&& 0x3f) =
        inBuff := by
  have masked : ∀ value : Nat, value &&& 0x3f = value % 64 := fun value => Nat.and_two_pow_sub_one_eq_mod value 6
  simp only [masked, Nat.shiftRight_eq_div_pow]
  have quotient : inBuff / 2 ^ 18 < 64 := by omega
  refine ⟨quotient, by omega, by omega, by omega, ?_⟩
  rw [sextets_eq (by omega) (by omega) (by omega)]
  omega

theorem inBuff_small (b0 b1 b2 : UInt8) : inBuff b0 b1 b2 < 2 ^ 24 := by
  have small0 := b0.toNat_lt
  have small1 := b1.toNat_lt
  have small2 := b2.toNat_lt
  rw [inBuff_eq]
  omega

theorem inBuff_bytes (b0 b1 b2 : UInt8) :
    UInt8.ofNat (inBuff b0 b1 b2 >>> 16) = b0 ∧ UInt8.ofNat (inBuff b0 b1 b2 >>> 8) = b1 ∧
      UInt8.ofNat (inBuff b0 b1 b2) = b2 := by
  have small0 := b0.toNat_lt
  have small1 := b1.toNat_lt
  have small2 := b2.toNat_lt
  simp only [inBuff_eq, Nat.shiftRight_eq_div_pow, ← UInt8.toNat_inj, UInt8.toNat_ofNat']
  omega

theorem decode4to3_eq (c0 c1 c2 c3 : UInt8) :
    decode4to3 [c0, c1, c2, c3] =
      if c2 = EQUALS_SIGN then [UInt8.ofNat ((sextet c0 <<< 18 ||| sextet c1 <<< 12) >>> 16)]
      else if c3 = EQUALS_SIGN then
        [UInt8.ofNat ((sextet c0 <<< 18 ||| sextet c1 <<< 12 ||| sextet c2 <<< 6) >>> 16),
          UInt8.ofNat ((sextet c0 <<< 18 ||| sextet c1 <<< 12 ||| sextet c2 <<< 6) >>> 8)]
      else
        [UInt8.ofNat ((sextet c0 <<< 18 ||| sextet c1 <<< 12 ||| sextet c2 <<< 6 ||| sextet c3) >>> 16),
          UInt8.ofNat ((sextet c0 <<< 18 ||| sextet c1 <<< 12 ||| sextet c2 <<< 6 ||| sextet c3) >>> 8),
          UInt8.ofNat (sextet c0 <<< 18 ||| sextet c1 <<< 12 ||| sextet c2 <<< 6 ||| sextet c3)] :=
  rfl

theorem encodeBytesToBytes_small (source : Bytes) : ∀ c ∈ encodeBytesToBytes source, c.toNat < 128 := by
  have equals : EQUALS_SIGN.toNat < 128 := by decide
  induction source using encodeBytesToBytes.induct with
  | case1 => simp [encodeBytesToBytes]
  | case2 b0 =>
    obtain ⟨small0, small1, _⟩ := sextets_of_inBuff (inBuff_small b0 0 0)
    simp [encodeBytesToBytes, symbol_small _ small0, symbol_small _ small1, equals]
  | case3 b0 b1 =>
    obtain ⟨small0, small1, small2, _⟩ := sextets_of_inBuff (inBuff_small b0 b1 0)
    simp [encodeBytesToBytes, symbol_small _ small0, symbol_small _ small1, symbol_small _ small2, equals]
  | case4 b0 b1 b2 source ih =>
    obtain ⟨small0, small1, small2, small3, _⟩ := sextets_of_inBuff (inBuff_small b0 b1 b2)
    rw [encodeBytesToBytes]
    simp only [List.forall_mem_cons]
    exact ⟨symbol_small _ small0, symbol_small _ small1, symbol_small _ small2, symbol_small _ small3, ih⟩

theorem asciiBytes_ofList {bytes : Bytes} (small : ∀ c ∈ bytes, c.toNat < 128) :
    asciiBytes (String.ofList (bytes.map fun byte => Char.ofNat byte.toNat)) = bytes := by
  rw [asciiBytes, String.toList_ofList]
  induction bytes with
  | nil => rfl
  | cons byte bytes ih =>
    obtain ⟨first, rest⟩ := List.forall_mem_cons.mp small
    have code : (Char.ofNat byte.toNat).toNat = byte.toNat := Plain.toNat_char byte.toNat byte.toNat_lt
    rw [List.map_cons, List.flatMap_cons, ih rest, code, if_pos first, UInt8.ofNat_toNat]
    rfl

theorem decodeLoop_encodeBytesToBytes (source outBuff : Bytes) :
    decodeLoop (encodeBytesToBytes source) [] outBuff = .ok (outBuff ++ source) := by
  have masked : ∀ value : Nat, value &&& 0x3f = value % 64 := fun value => Nat.and_two_pow_sub_one_eq_mod value 6
  induction source using encodeBytesToBytes.induct generalizing outBuff with
  | case1 => rw [encodeBytesToBytes, decodeLoop, List.append_nil]
  | case2 b0 =>
    obtain ⟨small0, small1, _, _, joined⟩ := sextets_of_inBuff (inBuff_small b0 0 0)
    -- the lower twelve bits are zeros
    have low : inBuff b0 0 0 >>> 6 &&& 0x3f = 0 ∧ inBuff b0 0 0 &&& 0x3f = 0 := by
      simp only [masked, inBuff_eq, Nat.shiftRight_eq_div_pow, UInt8.toNat_zero]
      omega
    rw [low.1, low.2, Nat.zero_shiftLeft, Nat.or_zero, Nat.or_zero] at joined
    rw [encodeBytesToBytes, decodeLoop_four (kept_symbol small0) (kept_symbol small1) kept_equals kept_equals, if_pos rfl,
      decode4to3_eq, if_pos rfl, sextet_symbol _ small0, sextet_symbol _ small1, joined, (inBuff_bytes b0 0 0).1]
  | case3 b0 b1 =>
    obtain ⟨small0, small1, small2, _, joined⟩ := sextets_of_inBuff (inBuff_small b0 b1 0)
    have low : inBuff b0 b1 0 &&& 0x3f = 0 := by
      simp only [masked, inBuff_eq, UInt8.toNat_zero]
      omega
    rw [low, Nat.or_zero] at joined
    rw [encodeBytesToBytes, decodeLoop_four (kept_symbol small0) (kept_symbol small1) (kept_symbol small2) kept_equals,
      if_pos rfl, decode4to3_eq, if_neg (symbol_ne_equals _ small2), if_pos rfl, sextet_symbol _ small0,
      sextet_symbol _ small1, sextet_symbol _ small2, joined, (inBuff_bytes b0 b1 0).1, (inBuff_bytes b0 b1 0).2.1]
  | case4 b0 b1 b2 source ih =>
    obtain ⟨small0, small1, small2, small3, joined⟩ := sextets_of_inBuff (inBuff_small b0 b1 b2)
    obtain ⟨byte0, byte1, byte2⟩ := inBuff_bytes b0 b1 b2
    rw [encodeBytesToBytes, decodeLoop_four (kept_symbol small0) (kept_symbol small1) (kept_symbol small2)
      (kept_symbol small3), if_neg (symbol_ne_equals _ small3), ih, decode4to3_eq, if_neg (symbol_ne_equals _ small2),
      if_neg (symbol_ne_equals _ small3), sextet_symbol _ small0, sextet_symbol _ small1, sextet_symbol _ small2,
      sextet_symbol _ small3, joined, byte0, byte1, byte2, List.append_assoc]
    rfl

theorem decode_encodeBytes (source : Bytes) : decode (encodeBytes source) = .ok source := by
  have same := asciiBytes_ofList (encodeBytesToBytes_small source)
  have looped := decodeLoop_encodeBytesToBytes source []
  rw [decode, encodeBytes, same]
  rcases source with _ | ⟨b0, _ | ⟨b1, _ | ⟨b2, source⟩⟩⟩
  · rfl
  · exact looped
  · exact looped
  · rw [if_neg (by simp [encodeBytesToBytes]), if_neg (by simp [encodeBytesToBytes])]
    exact looped

def codec : TextCodec Bytes where
  encode := encodeBytes
  decode text := (decode text).toOption
  decode_encode source := congrArg Except.toOption (decode_encodeBytes source)

end RoundTrip

end PillarSignal.Android.Base64
