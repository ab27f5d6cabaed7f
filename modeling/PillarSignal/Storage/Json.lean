import PillarSignal.Storage.Table

namespace Storage

/-- A JSON value. A number is an integer or a decimal fraction `digits / 10 ^ (places + 1)`;
    an object is a table of its members in the order in which they were put. -/
inductive Json where
  | null
  | bool (value : Bool)
  | num (value : Int)
  | dec (digits : Int) (places : Nat)
  | str (text : String)
  | arr (items : List Json)
  | obj (members : List (String × Json))
deriving Inhabited, Repr

namespace Json

mutual
def beq : Json → Json → Bool
  | .null, .null => true
  | .bool a, .bool b => a = b
  | .num a, .num b => a = b
  | .dec a m, .dec b n => a = b ∧ m = n
  | .str a, .str b => a = b
  | .arr a, .arr b => beqItems a b
  | .obj a, .obj b => beqMembers a b
  | _, _ => false

def beqItems : List Json → List Json → Bool
  | [], [] => true
  | a :: as, b :: bs => beq a b && beqItems as bs
  | _, _ => false

def beqMembers : List (String × Json) → List (String × Json) → Bool
  | [], [] => true
  | (m, a) :: as, (n, b) :: bs => decide (m = n) && beq a b && beqMembers as bs
  | _, _ => false
end

mutual
theorem beq_iff : ∀ a b : Json, beq a b = true ↔ a = b
  | .null, b => by cases b <;> simp [beq]
  | .bool _, b => by cases b <;> simp [beq]
  | .num _, b => by cases b <;> simp [beq]
  | .dec _ _, b => by cases b <;> simp [beq]
  | .str _, b => by cases b <;> simp [beq]
  | .arr items, b => by cases b <;> simp [beq, beqItems_iff]
  | .obj members, b => by cases b <;> simp [beq, beqMembers_iff]

theorem beqItems_iff : ∀ as bs : List Json, beqItems as bs = true ↔ as = bs
  | [], bs => by cases bs <;> simp [beqItems]
  | a :: as, bs => by cases bs <;> simp [beqItems, beq_iff a, beqItems_iff as]

theorem beqMembers_iff : ∀ as bs : List (String × Json), beqMembers as bs = true ↔ as = bs
  | [], bs => by cases bs <;> simp [beqMembers]
  | (m, a) :: as, bs => by
    cases bs with
    | nil => simp [beqMembers]
    | cons b bs => simp [beqMembers, beq_iff a, beqMembers_iff as, Prod.ext_iff, and_assoc]
end

instance : DecidableEq Json := fun a b => decidable_of_iff _ (beq_iff a b)

end Json
end Storage
