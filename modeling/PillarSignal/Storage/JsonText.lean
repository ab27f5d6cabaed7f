import PillarSignal.Storage.Json
import PillarSignal.Storage.Decimal

namespace Storage

/-- Text in which a line reader finds a single line. -/
def Unbroken (text : List Char) : Prop := ∀ c ∈ text, c ≠ '\n' ∧ c ≠ '\r'

instance (text : List Char) : Decidable (Unbroken text) := List.decidableBAll (fun c => c ≠ '\n' ∧ c ≠ '\r') text

theorem Unbroken.append {front back : List Char} (left : Unbroken front) (right : Unbroken back) :
    Unbroken (front ++ back) := by
  intro c member
  rcases List.mem_append.mp member with member | member
  · exact left c member
  · exact right c member

theorem Unbroken.cons {c : Char} {text : List Char} (first : c ≠ '\n' ∧ c ≠ '\r') (rest : Unbroken text) :
    Unbroken (c :: text) := by
  intro d member
  rcases List.mem_cons.mp member with rfl | member
  · exact first
  · exact rest d member

/-- A reader and a writer of JSON text, such as a platform's JSON library. -/
structure JsonCodec where
  parse : List Char → Option Json
  print : Json → List Char
  parse_print : ∀ value, parse (print value) = some value
  print_unbroken : ∀ value, Unbroken (print value)
  parse_nil : parse [] = none
  parse_no_items : parse ['[', ']'] = some (.arr [])
  parse_no_members : parse ['{', '}'] = some (.obj [])

theorem JsonCodec.print_ne_nil (codec : JsonCodec) (value : Json) : codec.print value ≠ [] := by
  intro empty
  have round := codec.parse_print value
  rw [empty, codec.parse_nil] at round
  cases round

namespace JsonText

open Decimal

def decimalText (digits places : Nat) : List Char :=
  natText (digits / 10 ^ (places + 1)) ++ '.' :: paddedText (places + 1) digits

def parseDecimal (text : List Char) : Option ((Nat × Option Nat) × List Char) :=
  let whole := text.takeWhile Char.isDigit
  if whole = [] then none
  else match text.dropWhile Char.isDigit with
    | '.' :: rest =>
      let places := rest.takeWhile Char.isDigit
      if places = [] then none
      else some ((number whole * 10 ^ places.length + number places, some (places.length - 1)),
        rest.dropWhile Char.isDigit)
    | rest => some ((number whole, none), rest)

def Stops (rest : List Char) : Prop := ∀ c ∈ rest.head?, c.isDigit = false ∧ c ≠ '.'

theorem takeWhile_digits {front rest : List Char} (digits : ∀ c ∈ front, c.isDigit = true)
    (stop : ∀ c ∈ rest.head?, c.isDigit = false) :
    (front ++ rest).takeWhile Char.isDigit = front ∧ (front ++ rest).dropWhile Char.isDigit = rest := by
  rw [List.takeWhile_append_of_pos digits, List.dropWhile_append_of_pos digits]
  cases rest with
  | nil => simp
  | cons c rest => simp [stop c rfl]

theorem parseDecimal_natText (value : Nat) {rest : List Char} (stop : Stops rest) :
    parseDecimal (natText value ++ rest) = some ((value, none), rest) := by
  obtain ⟨taken, dropped⟩ := takeWhile_digits (natText_isDigit value) (fun c head => (stop c head).1)
  simp only [parseDecimal, taken, dropped, natText_ne_nil, if_false]
  split
  · exact absurd rfl (stop '.' rfl).2
  · rw [number_natText]

theorem parseDecimal_decimalText (digits places : Nat) {rest : List Char} (stop : Stops rest) :
    parseDecimal (decimalText digits places ++ rest) = some ((digits, some places), rest) := by
  have outer := @takeWhile_digits _ ('.' :: (paddedText (places + 1) digits ++ rest))
    (natText_isDigit (digits / 10 ^ (places + 1))) (by simp)
  have inner := takeWhile_digits (paddedText_isDigit (places + 1) digits) (fun c head => (stop c head).1)
  have nonempty : paddedText (places + 1) digits ≠ [] := by
    intro empty
    have := length_paddedText (places + 1) digits
    simp [empty] at this
  simp only [parseDecimal, decimalText, List.append_assoc, List.cons_append, outer.1, outer.2, inner.1, inner.2,
    natText_ne_nil, nonempty, if_false, length_paddedText, number_natText, number_paddedText,
    Nat.add_sub_cancel]
  rw [Nat.mul_comm, Nat.div_add_mod]

def hexDigit (value : Nat) : Char := if value < 10 then Char.ofNat (48 + value) else Char.ofNat (87 + value)

def hexValue (c : Char) : Option Nat :=
  if '0' ≤ c ∧ c ≤ '9' then some (c.toNat - 48)
  else if 'a' ≤ c ∧ c ≤ 'f' then some (c.toNat - 87)
  else if 'A' ≤ c ∧ c ≤ 'F' then some (c.toNat - 55)
  else none

theorem hexValue_hexDigit : ∀ value < 16, hexValue (hexDigit value) = some value := by
  decide

def escapeChar (c : Char) : List Char :=
  if c = '"' ∨ c = '\\' ∨ c = '/' then ['\\', c]
  else if c = '\n' then ['\\', 'n']
  else if c = '\r' then ['\\', 'r']
  else if c = '\t' then ['\\', 't']
  else if c.toNat < 32 then ['\\', 'u', '0', '0', hexDigit (c.toNat / 16), hexDigit (c.toNat % 16)]
  else [c]

def quote (text : List Char) : List Char := '"' :: text.flatMap escapeChar ++ ['"']

/-- The characters up to the closing quote; an escape that is not known stands for itself. -/
def readQuoted : List Char → Option (List Char × List Char)
  | [] => none
  | '"' :: rest => some ([], rest)
  | '\\' :: 'n' :: rest => (readQuoted rest).map fun (text, rest) => ('\n' :: text, rest)
  | '\\' :: 'r' :: rest => (readQuoted rest).map fun (text, rest) => ('\r' :: text, rest)
  | '\\' :: 't' :: rest => (readQuoted rest).map fun (text, rest) => ('\t' :: text, rest)
  | '\\' :: 'u' :: a :: b :: c :: d :: rest =>
    match hexValue a, hexValue b, hexValue c, hexValue d with
    | some a, some b, some c, some d =>
      (readQuoted rest).map fun (text, rest) => (Char.ofNat (((a * 16 + b) * 16 + c) * 16 + d) :: text, rest)
    | _, _, _, _ => none
  | '\\' :: c :: rest => (readQuoted rest).map fun (text, rest) => (c :: text, rest)
  | c :: rest => (readQuoted rest).map fun (text, rest) => (c :: text, rest)

theorem readQuoted_escapeChar (c : Char) (rest : List Char) :
    readQuoted (escapeChar c ++ rest) = (readQuoted rest).map fun (text, rest) => (c :: text, rest) := by
  unfold escapeChar
  split
  · rename_i special
    rcases special with rfl | rfl | rfl <;> simp [readQuoted]
  split
  · subst_vars; simp [readQuoted]
  split
  · subst_vars; simp [readQuoted]
  split
  · subst_vars; simp [readQuoted]
  split
  · rename_i small
    have high := hexValue_hexDigit (c.toNat / 16) (by omega)
    have low := hexValue_hexDigit (c.toNat % 16) (by omega)
    have zero : hexValue '0' = some 0 := by decide
    have joined : ((0 * 16 + 0) * 16 + c.toNat / 16) * 16 + c.toNat % 16 = c.toNat := by omega
    simp only [List.cons_append, List.nil_append, readQuoted, high, low, zero, joined, Char.ofNat_toNat]
  · rename_i special _ _ _ _
    simp only [not_or] at special
    simp only [List.cons_append, List.nil_append]
    rw [readQuoted.eq_def]
    split <;> simp_all

theorem readQuoted_quote (text rest : List Char) :
    readQuoted (text.flatMap escapeChar ++ '"' :: rest) = some (text, rest) := by
  induction text with
  | nil => simp [readQuoted]
  | cons c text ih =>
    rw [List.flatMap_cons, List.append_assoc, readQuoted_escapeChar, ih]
    rfl

mutual
def print : Json → List Char
  | .null => ['n', 'u', 'l', 'l']
  | .bool true => ['t', 'r', 'u', 'e']
  | .bool false => ['f', 'a', 'l', 's', 'e']
  | .num value => intText value
  | .dec digits places => signedText (decide (digits < 0)) (decimalText digits.natAbs places)
  | .str text => quote text.toList
  | .arr [] => ['[', ']']
  | .arr (item :: items) => '[' :: print item ++ printItems items
  | .obj [] => ['{', '}']
  | .obj ((name, value) :: members) => '{' :: quote name.toList ++ ':' :: print value ++ printMembers members

def printItems : List Json → List Char
  | [] => [']']
  | item :: items => ',' :: print item ++ printItems items

def printMembers : List (String × Json) → List Char
  | [] => ['}']
  | (name, value) :: members => ',' :: quote name.toList ++ ':' :: print value ++ printMembers members
end

def parseNumber (negative : Bool) (text : List Char) : Option (Json × List Char) :=
  match parseDecimal text with
  | some ((value, none), rest) => some (.num (signed negative value), rest)
  | some ((value, some places), rest) => some (.dec (signed negative value) places, rest)
  | none => none

mutual
def parseValue : Nat → List Char → Option (Json × List Char)
  | 0, _ => none
  | fuel + 1, text =>
    match text with
    | 'n' :: 'u' :: 'l' :: 'l' :: rest => some (.null, rest)
    | 't' :: 'r' :: 'u' :: 'e' :: rest => some (.bool true, rest)
    | 'f' :: 'a' :: 'l' :: 's' :: 'e' :: rest => some (.bool false, rest)
    | '"' :: rest => (readQuoted rest).map fun (text, rest) => (.str (String.ofList text), rest)
    | '[' :: ']' :: rest => some (.arr [], rest)
    | '[' :: rest => (parseItems fuel rest).map fun (items, rest) => (.arr items, rest)
    | '{' :: '}' :: rest => some (.obj [], rest)
    | '{' :: rest => (parseMembers fuel rest).map fun (members, rest) => (.obj members, rest)
    | '-' :: rest => parseNumber true rest
    | _ => parseNumber false text

def parseItems : Nat → List Char → Option (List Json × List Char)
  | 0, _ => none
  | fuel + 1, text =>
    match parseValue fuel text with
    | some (item, ',' :: rest) => (parseItems fuel rest).map fun (items, rest) => (item :: items, rest)
    | some (item, ']' :: rest) => some ([item], rest)
    | _ => none

def parseMembers : Nat → List Char → Option (List (String × Json) × List Char)
  | 0, _ => none
  | fuel + 1, text =>
    match text with
    | '"' :: rest =>
      match readQuoted rest with
      | some (name, ':' :: rest) =>
        match parseValue fuel rest with
        | some (value, ',' :: rest) =>
          (parseMembers fuel rest).map fun (members, rest) => ((String.ofList name, value) :: members, rest)
        | some (value, '}' :: rest) => some ([(String.ofList name, value)], rest)
        | _ => none
      | _ => none
    | _ => none
end

def parse (text : List Char) : Option Json :=
  match parseValue text.length text with
  | some (value, []) => some value
  | _ => none

theorem stops_of_cons {c : Char} {rest : List Char} (other : c.isDigit = false ∧ c ≠ '.') : Stops (c :: rest) := by
  intro d head
  obtain rfl : c = d := by simpa using head
  exact other

theorem parseNumber_natText (negative : Bool) (value : Nat) {rest : List Char} (stop : Stops rest) :
    parseNumber negative (natText value ++ rest) = some (.num (signed negative value), rest) := by
  simp [parseNumber, parseDecimal_natText value stop]

theorem parseNumber_decimalText (negative : Bool) (digits places : Nat) {rest : List Char} (stop : Stops rest) :
    parseNumber negative (decimalText digits places ++ rest) = some (.dec (signed negative digits) places, rest) := by
  simp [parseNumber, parseDecimal_decimalText digits places stop]

theorem parseValue_digit (fuel : Nat) {text : List Char} (first : ∃ c rest, text = c :: rest ∧ c.isDigit = true) :
    parseValue (fuel + 1) text = parseNumber false text := by
  obtain ⟨c, rest, rfl, digit⟩ := first
  rw [parseValue.eq_def]
  dsimp only
  split <;> simp_all

theorem natText_first (value : Nat) (rest : List Char) :
    ∃ c tail, natText value ++ rest = c :: tail ∧ c.isDigit = true := by
  cases text : natText value with
  | nil => exact absurd text (natText_ne_nil value)
  | cons c tail => exact ⟨c, tail ++ rest, rfl, natText_isDigit value c (by simp [text])⟩

theorem parseValue_num (fuel : Nat) (value : Int) {rest : List Char} (stop : Stops rest) :
    parseValue (fuel + 1) (print (.num value) ++ rest) = some (.num value, rest) := by
  have restored := signed_natAbs value
  unfold print intText signedText
  by_cases negative : value < 0
  · simp only [negative, decide_true, if_true] at restored ⊢
    rw [List.cons_append, parseValue, parseNumber_natText true _ stop, restored]
  · simp only [negative, decide_false, Bool.false_eq_true, if_false] at restored ⊢
    rw [parseValue_digit fuel (natText_first _ rest), parseNumber_natText false _ stop, restored]

theorem parseValue_dec (fuel : Nat) (digits : Int) (places : Nat) {rest : List Char} (stop : Stops rest) :
    parseValue (fuel + 1) (print (.dec digits places) ++ rest) = some (.dec digits places, rest) := by
  have restored := signed_natAbs digits
  unfold print signedText
  by_cases negative : digits < 0
  · simp only [negative, decide_true, if_true] at restored ⊢
    rw [List.cons_append, parseValue, parseNumber_decimalText true _ _ stop, restored]
  · simp only [negative, decide_false, Bool.false_eq_true, if_false] at restored ⊢
    have first : ∃ c tail, decimalText digits.natAbs places ++ rest = c :: tail ∧ c.isDigit = true := by
      unfold decimalText
      rw [List.append_assoc]
      exact natText_first _ _
    rw [parseValue_digit fuel first, parseNumber_decimalText false _ _ stop, restored]

theorem print_length_pos (value : Json) : 0 < (print value).length := by
  have number := fun n => List.length_pos_iff.mpr (natText_ne_nil n)
  cases value with
  | null => decide
  | bool value => cases value <;> decide
  | num value =>
    simp only [print, intText, signedText]
    split <;> simp [number]
  | dec digits places =>
    simp only [print, signedText, decimalText]
    split <;> simp
  | str text => simp [print, quote]
  | arr items => cases items <;> simp [print]
  | obj members =>
    cases members with
    | nil => simp [print]
    | cons member members => simp [print]

theorem printItems_stops (items : List Json) (rest : List Char) : Stops (printItems items ++ rest) := by
  cases items <;> exact stops_of_cons (by decide)

theorem printMembers_stops (members : List (String × Json)) (rest : List Char) :
    Stops (printMembers members ++ rest) := by
  cases members <;> exact stops_of_cons (by decide)

theorem printItems_length_pos (items : List Json) : 0 < (printItems items).length := by
  cases items <;> simp [printItems]

theorem printMembers_length_pos (members : List (String × Json)) : 0 < (printMembers members).length := by
  cases members <;> simp [printMembers]

theorem print_first (value : Json) (rest : List Char) :
    ∃ c tail, print value ++ rest = c :: tail ∧ c ≠ ']' ∧ c ≠ '}' := by
  have number : ∀ n tail, ∃ c rest, natText n ++ tail = c :: rest ∧ c ≠ ']' ∧ c ≠ '}' := by
    intro n tail
    obtain ⟨c, rest, text, digit⟩ := natText_first n tail
    refine ⟨c, rest, text, ?_, ?_⟩ <;> rintro rfl <;> revert digit <;> decide
  cases value with
  | null => exact ⟨'n', _, rfl, by decide⟩
  | bool value => cases value <;> exact ⟨_, _, rfl, by decide⟩
  | num value =>
    simp only [print, intText, signedText]
    split
    · exact ⟨'-', _, rfl, by decide⟩
    · exact number _ _
  | dec digits places =>
    simp only [print, signedText, decimalText]
    split
    · exact ⟨'-', _, rfl, by decide⟩
    · rw [List.append_assoc]
      exact number _ _
  | str text => exact ⟨'"', _, rfl, by decide⟩
  | arr items => cases items <;> exact ⟨'[', _, rfl, by decide⟩
  | obj members =>
    cases members with
    | nil => exact ⟨'{', _, rfl, by decide⟩
    | cons member members => exact ⟨'{', _, rfl, by decide⟩

theorem parseValue_open_items (fuel : Nat) (item : Json) (tail : List Char) :
    parseValue (fuel + 1) ('[' :: (print item ++ tail)) =
      (parseItems fuel (print item ++ tail)).map fun (items, rest) => (.arr items, rest) := by
  obtain ⟨c, rest, text, other, _⟩ := print_first item tail
  rw [text, parseValue.eq_def]
  dsimp only
  split <;> simp_all

theorem parseValue_open_members (fuel : Nat) (name tail : List Char) :
    parseValue (fuel + 1) ('{' :: (quote name ++ tail)) =
      (parseMembers fuel (quote name ++ tail)).map fun (members, rest) => (.obj members, rest) := by
  simp only [quote, List.cons_append]
  rw [parseValue.eq_def]
  dsimp only
  split <;> simp_all

-- the recursion is on the printed value; the fuel is bounded by the length of its text
mutual
theorem parseValue_print : ∀ (value : Json) (fuel : Nat) (rest : List Char), (print value).length ≤ fuel →
    Stops rest → parseValue fuel (print value ++ rest) = some (value, rest)
  | value, 0, _, enough, _ => absurd (print_length_pos value) (by omega)
  | .null, fuel + 1, rest, _, _ => by simp [print, parseValue]
  | .bool true, fuel + 1, rest, _, _ => by simp [print, parseValue]
  | .bool false, fuel + 1, rest, _, _ => by simp [print, parseValue]
  | .num value, fuel + 1, rest, _, stop => parseValue_num fuel value stop
  | .dec digits places, fuel + 1, rest, _, stop => parseValue_dec fuel digits places stop
  | .str text, fuel + 1, rest, _, _ => by
    simp only [print, quote, List.cons_append, List.append_assoc, List.nil_append, parseValue]
    rw [readQuoted_quote]
    simp
  | .arr [], fuel + 1, rest, _, _ => by simp [print, parseValue]
  | .arr (item :: items), fuel + 1, rest, enough, _ => by
    simp only [print, List.cons_append, List.append_assoc, List.length_cons, List.length_append] at enough ⊢
    rw [parseValue_open_items, parseItems_print item items fuel rest (by omega)]
    rfl
  | .obj [], fuel + 1, rest, _, _ => by simp [print, parseValue]
  | .obj ((name, value) :: members), fuel + 1, rest, enough, _ => by
    simp only [print, List.cons_append, List.append_assoc, List.length_cons, List.length_append] at enough ⊢
    rw [parseValue_open_members, parseMembers_print name value members fuel rest (by omega)]
    rfl

theorem parseItems_print : ∀ (item : Json) (items : List Json) (fuel : Nat) (rest : List Char),
    (print item).length + (printItems items).length ≤ fuel →
    parseItems fuel (print item ++ (printItems items ++ rest)) = some (item :: items, rest)
  | item, _, 0, _, enough => absurd (print_length_pos item) (by omega)
  | item, items, fuel + 1, rest, enough => by
    have closing := printItems_length_pos items
    rw [parseItems, parseValue_print item fuel _ (by omega) (printItems_stops items rest)]
    match items, enough with
    | [], _ => simp [printItems]
    | next :: items, enough =>
      have opening := print_length_pos item
      simp only [printItems, List.cons_append, List.append_assoc, List.length_cons, List.length_append] at enough ⊢
      rw [parseItems_print next items fuel rest (by omega)]
      rfl

theorem parseMembers_print : ∀ (name : String) (value : Json) (members : List (String × Json)) (fuel : Nat)
    (rest : List Char),
    (quote name.toList).length + (print value).length + (printMembers members).length ≤ fuel →
    parseMembers fuel (quote name.toList ++ ':' :: (print value ++ (printMembers members ++ rest))) =
      some ((name, value) :: members, rest)
  | _, value, _, 0, _, enough => absurd (print_length_pos value) (by omega)
  | name, value, members, fuel + 1, rest, enough => by
    have closing := printMembers_length_pos members
    have quoted : 0 < (quote name.toList).length := by simp [quote]
    simp only [quote, List.cons_append, List.append_assoc, List.nil_append]
    rw [parseMembers, readQuoted_quote]
    simp only [parseValue_print value fuel _ (by omega) (printMembers_stops members rest)]
    match members, enough with
    | [], _ => simp [printMembers]
    | (next, item) :: members, enough =>
      simp only [printMembers, List.cons_append, List.append_assoc, List.length_cons, List.length_append] at enough ⊢
      rw [parseMembers_print next item members fuel rest (by omega)]
      simp
end

theorem parse_print (value : Json) : parse (print value) = some value := by
  have round := parseValue_print value (print value).length [] le_rfl (by simp [Stops])
  rw [List.append_nil] at round
  simp [parse, round]

theorem unbroken_of_digits {text : List Char} (digits : ∀ c ∈ text, c.isDigit = true) : Unbroken text := by
  intro c member
  have digit := digits c member
  constructor <;> rintro rfl <;> revert digit <;> decide

theorem hexDigit_unbroken : ∀ value < 16, hexDigit value ≠ '\n' ∧ hexDigit value ≠ '\r' := by
  decide

theorem escapeChar_unbroken (c : Char) : Unbroken (escapeChar c) := by
  unfold escapeChar
  split
  · rename_i special
    rcases special with rfl | rfl | rfl <;> decide
  split
  · decide
  split
  · decide
  split
  · decide
  split
  · rename_i small
    have high := hexDigit_unbroken (c.toNat / 16) (by omega)
    have low := hexDigit_unbroken (c.toNat % 16) (by omega)
    intro d member
    simp only [List.mem_cons, List.not_mem_nil, or_false] at member
    rcases member with rfl | rfl | rfl | rfl | rfl | rfl
    all_goals first | assumption | decide
  · rename_i feed ret _ _
    intro d member
    rw [List.mem_singleton.mp member]
    exact ⟨feed, ret⟩

theorem quote_unbroken (text : List Char) : Unbroken (quote text) := by
  unfold quote
  refine Unbroken.append (Unbroken.cons (by decide) ?_) (by decide)
  intro c member
  obtain ⟨original, _, escaped⟩ := List.mem_flatMap.mp member
  exact escapeChar_unbroken original c escaped

theorem signedText_unbroken (negative : Bool) {text : List Char} (unbroken : Unbroken text) :
    Unbroken (signedText negative text) := by
  cases negative
  · exact unbroken
  · exact unbroken.cons (by decide)

mutual
theorem print_unbroken : ∀ value : Json, Unbroken (print value)
  | .null => by decide
  | .bool true => by decide
  | .bool false => by decide
  | .num value => signedText_unbroken _ (unbroken_of_digits (natText_isDigit _))
  | .dec digits places => signedText_unbroken _ ((unbroken_of_digits (natText_isDigit _)).append
      ((unbroken_of_digits (paddedText_isDigit _ _)).cons (by decide)))
  | .str text => quote_unbroken _
  | .arr [] => by decide
  | .arr (item :: items) => ((print_unbroken item).cons (by decide)).append (printItems_unbroken items)
  | .obj [] => by decide
  | .obj ((name, value) :: members) =>
    (((quote_unbroken _).cons (by decide)).append ((print_unbroken value).cons (by decide))).append
      (printMembers_unbroken members)

theorem printItems_unbroken : ∀ items : List Json, Unbroken (printItems items)
  | [] => by decide
  | item :: items => ((print_unbroken item).cons (by decide)).append (printItems_unbroken items)

theorem printMembers_unbroken : ∀ members : List (String × Json), Unbroken (printMembers members)
  | [] => by decide
  | (name, value) :: members =>
    (((quote_unbroken _).cons (by decide)).append ((print_unbroken value).cons (by decide))).append
      (printMembers_unbroken members)
end

def codec : JsonCodec where
  parse := parse
  print := print
  parse_print := parse_print
  print_unbroken := print_unbroken
  parse_nil := rfl
  parse_no_items := rfl
  parse_no_members := rfl

example : String.ofList (codec.print (.obj [("a/b", .arr [.num (-7), .dec 25 1])])) =
    "\x7b\"a\\/b\":[-7,0.25]\x7d" := by
  decide

end JsonText
end Storage
