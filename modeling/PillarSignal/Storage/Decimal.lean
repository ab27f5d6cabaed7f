import Mathlib.Data.Nat.Digits.Lemmas

namespace Storage.Decimal

def digit (value : Nat) : Char := Char.ofNat (48 + value)

def digitValue (c : Char) : Nat := c.toNat - 48

def number (text : List Char) : Nat := text.foldl (fun total c => 10 * total + digitValue c) 0

def natText (value : Nat) : List Char :=
  if value = 0 then ['0'] else ((Nat.digits 10 value).map digit).reverse

def paddedText : Nat → Nat → List Char
  | 0, _ => []
  | width + 1, value => paddedText width (value / 10) ++ [digit (value % 10)]

theorem digit_facts : ∀ value < 10, (digit value).isDigit = true ∧ digitValue (digit value) = value := by
  decide

theorem number_append (front : List Char) (c : Char) : number (front ++ [c]) = 10 * number front + digitValue c := by
  simp [number]

theorem number_digits (digits : List Nat) (small : ∀ d ∈ digits, d < 10) :
    number (digits.map digit).reverse = Nat.ofDigits 10 digits := by
  induction digits with
  | nil => rfl
  | cons first rest ih =>
    have value := (digit_facts first (small first (by simp))).2
    rw [List.map_cons, List.reverse_cons, number_append, ih (fun d member => small d (by simp [member])),
      Nat.ofDigits_cons, value]
    omega

theorem number_natText (value : Nat) : number (natText value) = value := by
  unfold natText
  split
  · rename_i zero
    subst zero
    rfl
  · rw [number_digits _ (fun d member => Nat.digits_lt_base (by decide) member), Nat.ofDigits_digits]

theorem natText_isDigit (value : Nat) : ∀ c ∈ natText value, c.isDigit = true := by
  unfold natText
  split
  · intro c member
    rw [List.mem_singleton.mp member]
    decide
  · intro c member
    obtain ⟨d, held, rfl⟩ := List.mem_map.mp (List.mem_reverse.mp member)
    exact (digit_facts d (Nat.digits_lt_base (by decide) held)).1

theorem natText_ne_nil (value : Nat) : natText value ≠ [] := by
  unfold natText
  split
  · simp
  · rename_i positive
    simpa [Nat.digits_eq_nil_iff_eq_zero] using positive

theorem number_paddedText (width value : Nat) : number (paddedText width value) = value % 10 ^ width := by
  induction width generalizing value with
  | zero => simp [paddedText, number, Nat.mod_one]
  | succ width ih =>
    rw [paddedText, number_append, ih, (digit_facts _ (Nat.mod_lt _ (by decide))).2, Nat.pow_succ,
      Nat.mul_comm (10 ^ width) 10, Nat.mod_mul]
    omega

theorem paddedText_isDigit (width value : Nat) : ∀ c ∈ paddedText width value, c.isDigit = true := by
  induction width generalizing value with
  | zero => simp [paddedText]
  | succ width ih =>
    intro c member
    rcases List.mem_append.mp member with member | member
    · exact ih _ c member
    · rw [List.mem_singleton.mp member]
      exact (digit_facts _ (Nat.mod_lt _ (by decide))).1

theorem length_paddedText (width value : Nat) : (paddedText width value).length = width := by
  induction width generalizing value with
  | zero => rfl
  | succ width ih => simp [paddedText, ih]

def signedText (negative : Bool) (text : List Char) : List Char := if negative then '-' :: text else text

def signed (negative : Bool) (value : Nat) : Int := if negative then - (value : Int) else value

theorem signed_natAbs (value : Int) : signed (decide (value < 0)) value.natAbs = value := by
  unfold signed
  by_cases negative : value < 0 <;> simp only [negative, decide_true, decide_false, if_true, Bool.false_eq_true, if_false]
  all_goals omega

def intText (value : Int) : List Char := signedText (decide (value < 0)) (natText value.natAbs)

def readNat (text : List Char) : Option Nat :=
  if text ≠ [] ∧ text.all Char.isDigit then some (number text) else none

def readInt : List Char → Option Int
  | '-' :: rest => (readNat rest).map (signed true)
  | '+' :: rest => (readNat rest).map (signed false)
  | text => (readNat text).map (signed false)

theorem readNat_natText (value : Nat) : readNat (natText value) = some value := by
  have digits : (natText value).all Char.isDigit = true := List.all_eq_true.mpr (natText_isDigit value)
  simp [readNat, natText_ne_nil, digits, number_natText]

theorem readInt_intText (value : Int) : readInt (intText value) = some value := by
  have restored := signed_natAbs value
  unfold intText signedText
  by_cases negative : value < 0
  · simp only [negative, decide_true, if_true] at restored ⊢
    rw [readInt, readNat_natText, Option.map_some, restored]
  · simp only [negative, decide_false, Bool.false_eq_true, if_false] at restored ⊢
    have plain : readInt (natText value.natAbs) = (readNat (natText value.natAbs)).map (signed false) := by
      have digits := natText_isDigit value.natAbs
      unfold readInt
      split
      · rename_i text
        exact absurd (digits '-' (by simp [text])) (by decide)
      · rename_i text
        exact absurd (digits '+' (by simp [text])) (by decide)
      · rfl
    rw [plain, readNat_natText, Option.map_some, restored]

theorem intText_injective : Function.Injective intText := by
  intro a b same
  have round := readInt_intText a
  rw [same, readInt_intText] at round
  exact (Option.some.inj round).symm

theorem not_mem_intText {c : Char} (plain : c.isDigit = false ∧ c ≠ '-') (value : Int) : c ∉ intText value := by
  have digits : c ∉ natText value.natAbs := by
    intro member
    have digit := natText_isDigit _ c member
    rw [plain.1] at digit
    cases digit
  unfold intText signedText
  split
  · rw [List.mem_cons]
    rintro (sign | member)
    · exact plain.2 sign
    · exact digits member
  · exact digits

/-- Text, a separator and a number can be told apart again, whatever is in the text. -/
theorem append_intText_inj {separator : Char} (plain : separator.isDigit = false ∧ separator ≠ '-') {a b : List Char}
    {v w : Int} (same : a ++ separator :: intText v = b ++ separator :: intText w) : a = b ∧ v = w := by
  have first : ∀ {middle x y : List Char}, separator ∉ x → separator :: x = middle ++ separator :: y → middle = [] := by
    intro middle x y absent split
    cases middle with
    | nil => rfl
    | cons head tail =>
      have rest : x = tail ++ separator :: y := (List.cons.inj split).2
      exact absurd (by rw [rest]; simp) absent
  rcases List.append_eq_append_iff.mp same with ⟨middle, longer, tails⟩ | ⟨middle, longer, tails⟩
  all_goals
    rw [first (not_mem_intText plain _) tails] at longer tails
    simp only [List.append_nil, List.nil_append, List.cons.injEq, true_and] at longer tails
  · exact ⟨longer.symm, intText_injective tails⟩
  · exact ⟨longer, intText_injective tails.symm⟩

def toText (value : Int) : String := String.ofList (intText value)

theorem toText_injective : Function.Injective toText := by
  intro a b same
  have texts := congrArg String.toList same
  simp only [toText, String.toList_ofList] at texts
  exact intText_injective texts

def ofText (text : String) : Int := (readInt text.toList).getD 0

theorem ofText_toText (value : Int) : ofText (toText value) = value := by
  rw [ofText, toText, String.toList_ofList, readInt_intText, Option.getD_some]

end Storage.Decimal
