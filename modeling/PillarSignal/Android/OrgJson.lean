import PillarSignal.Storage.JsonText
import PillarSignal.Protocol.Keys

namespace PillarSignal.Android

open Storage

/-- The exceptions that the code distinguishes in its handlers, and any other that only a handler of all takes. -/
inductive Thrown where
  | json
  | io
  | noSession
  | nullPointer
  | untrustedIdentity
  | invalidMessage
  | legacyMessage
  | duplicateMessage
  | invalidKeyId
  | invalidKey
  | invalidVersion
  | illegalArgument
  | unsupportedEncoding
  | numberFormat
  | unexpected
deriving DecidableEq, Repr

/-- The result is an exception that the handler does not take. -/
def Uncaught {α : Type} (caught : Thrown → Bool) (result : Except Thrown α) : Prop :=
  ∃ e, result = .error e ∧ caught e = false

@[simp] theorem uncaught_error {α : Type} (caught : Thrown → Bool) (e : Thrown) :
    Uncaught caught (.error e : Except Thrown α) ↔ caught e = false := by
  simp [Uncaught]

@[simp] theorem not_uncaught_ok {α : Type} (caught : Thrown → Bool) (value : α) : ¬ Uncaught caught (.ok value) := by
  simp [Uncaught]

theorem uncaught_bind {α β : Type} (caught : Thrown → Bool) (result : Except Thrown α) (next : α → Except Thrown β) :
    Uncaught caught (result.bind next) ↔
      Uncaught caught result ∨ ∃ value, result = .ok value ∧ Uncaught caught (next value) := by
  cases result with
  | error e => simp [Except.bind]
  | ok value => simp [Except.bind]

/-- The platform's JSON library; the two readings of a string as a number go
    through `Double.parseDouble`. -/
structure OrgJson extends JsonCodec where
  intOfText : String → Option Int
  longOfText : String → Option Int

abbrev JSONObject := List (String × Json)

def toInt (value : Int) : Int := Int.bmod value (2 ^ 32)

def toLong (value : Int) : Int := Int.bmod value (2 ^ 64)

theorem toInt_of_small {value : Int} (low : -2 ^ 31 ≤ value) (high : value < 2 ^ 31) : toInt value = value := by
  unfold toInt
  apply Int.bmod_eq_of_le <;> omega

theorem toLong_of_small {value : Int} (low : -2 ^ 63 ≤ value) (high : value < 2 ^ 63) : toLong value = value := by
  unfold toLong
  apply Int.bmod_eq_of_le <;> omega

/-- The conversion of a double, which stops at the bounds of the type. -/
def saturate (bits : Nat) (value : Int) : Int := max (-2 ^ (bits - 1)) (min value (2 ^ (bits - 1) - 1))

def valueOf (value : Int) : String := Decimal.toText value

theorem valueOf_injective : Function.Injective valueOf := Decimal.toText_injective

/-- `Integer.parseInt` -/
def parseInt (text : String) : Except Thrown Int :=
  match Decimal.readInt text.toList with
  | some value => if -2 ^ 31 ≤ value ∧ value < 2 ^ 31 then .ok value else .error .numberFormat
  | none => .error .numberFormat

theorem parseInt_valueOf (value : Int) :
    parseInt (valueOf value) = if -2 ^ 31 ≤ value ∧ value < 2 ^ 31 then .ok value else .error .numberFormat := by
  rw [parseInt, valueOf, Decimal.toText, String.toList_ofList, Decimal.readInt_intText]

namespace OrgJson

variable (json : OrgJson)

def toText (value : Json) : String :=
  match value with
  | .str text => text
  | value => String.ofList (json.print value)

def asInteger : Json → Option Int
  | .num value => some (toInt value)
  | .dec digits places => some (saturate 32 (digits.tdiv (10 ^ (places + 1))))
  | .str text => json.intOfText text
  | _ => none

def asLong : Json → Option Int
  | .num value => some (toLong value)
  | .dec digits places => some (saturate 64 (digits.tdiv (10 ^ (places + 1))))
  | .str text => json.longOfText text
  | _ => none

def newJSONObject (text : List Char) : Except Thrown JSONObject :=
  match json.parse text with
  | some (.obj members) => .ok members
  | _ => .error .json

def newJSONArray (text : List Char) : Except Thrown (List Json) :=
  match json.parse text with
  | some (.arr items) => .ok items
  | _ => .error .json

/-- Integers are written in decimal, as `String.valueOf` writes them. -/
def WritesIntegers : Prop := ∀ value, json.print (.num value) = Decimal.intText value

def get (object : JSONObject) (name : String) : Except Thrown Json :=
  match object.lookup name with
  | some value => .ok value
  | none => .error .json

def getString (object : JSONObject) (name : String) : Except Thrown String :=
  (get object name).map json.toText

def getInt (object : JSONObject) (name : String) : Except Thrown Int := do
  match json.asInteger (← get object name) with
  | some value => .ok value
  | none => .error .json

def getJSONObject (object : JSONObject) (name : String) : Except Thrown JSONObject := do
  match ← get object name with
  | .obj members => .ok members
  | _ => .error .json

def optString (object : JSONObject) (name : String) : String :=
  ((object.lookup name).map json.toText).getD ""

def optInt (object : JSONObject) (name : String) (fallback : Int) : Int :=
  ((object.lookup name).bind json.asInteger).getD fallback

def optLong (object : JSONObject) (name : String) (fallback : Int) : Int :=
  ((object.lookup name).bind json.asLong).getD fallback

theorem getString_error {object : JSONObject} {name : String} {e : Thrown} (failed : json.getString object name = .error e) :
    e = .json := by
  rw [getString, get] at failed
  cases held : object.lookup name with
  | none =>
    rw [held] at failed
    exact (Except.error.inj failed).symm
  | some value =>
    rw [held] at failed
    cases failed

theorem getJSONObject_error {object : JSONObject} {name : String} {e : Thrown}
    (failed : getJSONObject object name = .error e) : e = .json := by
  rw [getJSONObject, get] at failed
  cases held : object.lookup name with
  | none =>
    rw [held] at failed
    exact (Except.error.inj failed).symm
  | some value =>
    rw [held] at failed
    cases value with
    | obj members => cases failed
    | _ => exact (Except.error.inj failed).symm

theorem getInt_error {object : JSONObject} {name : String} {e : Thrown} (failed : json.getInt object name = .error e) :
    e = .json := by
  rw [getInt, get] at failed
  cases held : object.lookup name with
  | none =>
    rw [held] at failed
    exact (Except.error.inj failed).symm
  | some value =>
    rw [held] at failed
    simp only [bind, Except.bind] at failed
    cases read : json.asInteger value with
    | none =>
      rw [read] at failed
      exact (Except.error.inj failed).symm
    | some number =>
      rw [read] at failed
      cases failed

section Uncaught

variable {caught : Thrown → Bool} (taken : caught .json = true) (object : JSONObject) (name : String)
include taken

theorem not_uncaught_getString : ¬ Uncaught caught (json.getString object name) := by
  rintro ⟨e, failed, uncaught⟩
  cases getString_error json failed
  cases taken.symm.trans uncaught

theorem not_uncaught_getInt : ¬ Uncaught caught (json.getInt object name) := by
  rintro ⟨e, failed, uncaught⟩
  cases getInt_error json failed
  cases taken.symm.trans uncaught

omit json in
theorem not_uncaught_getJSONObject : ¬ Uncaught caught (getJSONObject object name) := by
  rintro ⟨e, failed, uncaught⟩
  cases getJSONObject_error failed
  cases taken.symm.trans uncaught

end Uncaught

variable {json} in
theorem optInt_num {object : JSONObject} {name : String} {value : Int} (held : object.lookup name = some (.num value))
    (fallback : Int) : json.optInt object name fallback = toInt value := by
  rw [optInt, held, Option.bind_some, asInteger, Option.getD_some]

variable {json} in
theorem optLong_num {object : JSONObject} {name : String} {value : Int} (held : object.lookup name = some (.num value))
    (fallback : Int) : json.optLong object name fallback = toLong value := by
  rw [optLong, held, Option.bind_some, asLong, Option.getD_some]

def optJSONArray (object : JSONObject) (name : String) : Option (List Json) :=
  match object.lookup name with
  | some (.arr items) => some items
  | _ => none

def optJSONObject (object : JSONObject) (name : String) : Option JSONObject :=
  match object.lookup name with
  | some (.obj members) => some members
  | _ => none

def has (object : JSONObject) (name : String) : Bool := (object.lookup name).isSome

def isNull (object : JSONObject) (name : String) : Bool :=
  match object.lookup name with
  | none | some .null => true
  | _ => false

end OrgJson
end PillarSignal.Android
