import PillarSignal.Libsignal.SessionInvariant

namespace PillarSignal.Libsignal

open SessionCipher

def SessionRecord.states (record : SessionRecord) : List SessionState := record.state :: record.previousStates

theorem SessionRecord.WellFormed.states {record : SessionRecord} (wellFormed : record.WellFormed) :
    ∀ state ∈ record.states, state.WellFormed := by
  intro state member
  rcases List.mem_cons.mp member with rfl | previous
  · exact wellFormed.state
  · exact wellFormed.previousStates state previous

/-- None of the states can read the message, if the attempts with them are counted from there on. -/
def Invalid (provider : Provider) (message : SignalMessage) (random : Nat → EcPrivateKey) :
    (attempt : Nat) → List SessionState → Prop
  | _, [] => True
  | attempt, state :: states =>
    decryptFromState provider state message (random attempt) = .error .invalidMessage ∧
      Invalid provider message random (attempt + 1) states

variable {provider : Provider} {message : SignalMessage} {random : Nat → EcPrivateKey}

section

variable {record : SessionRecord} {before after : List SessionState} {state : SessionState}

theorem decryptFromPrevious_append {index : Nat} (wellFormed : ∀ state ∈ before, state.WellFormed)
    (invalid : Invalid provider message random (index + 1) before) (rest : List SessionState) :
    decryptFromPrevious provider record message random index (before ++ rest) =
      decryptFromPrevious provider record message random (index + before.length) rest := by
  induction before generalizing index with
  | nil => rfl
  | cons first before ih =>
    obtain ⟨now, later⟩ := invalid
    rw [List.cons_append, decryptFromPrevious, SessionState.copy_eq (wellFormed first List.mem_cons_self)]
    dsimp only
    rw [now]
    dsimp only
    rw [ih (fun other member => wellFormed other (List.mem_cons_of_mem _ member)) later, List.length_cons, Nat.add_assoc,
      Nat.add_comm 1]

theorem decryptFromRecord_of_skipped {first : SessionState} {rest : List SessionState} (wellFormed : record.WellFormed)
    (split : record.states = first :: before ++ rest) (invalid : Invalid provider message random 0 (first :: before)) :
    decryptFromRecord provider record message random =
      decryptFromPrevious provider record message random before.length rest := by
  obtain ⟨same, others⟩ := List.cons.inj split
  have others : record.previousStates = before ++ rest := others
  obtain ⟨now, later⟩ := invalid
  have earlier : ∀ other ∈ before, other.WellFormed := fun other member =>
    wellFormed.previousStates other (by rw [others]; exact List.mem_append_left _ member)
  rw [decryptFromRecord, SessionState.copy_eq wellFormed.state, same]
  dsimp only
  rw [now]
  dsimp only
  rw [others, decryptFromPrevious_append earlier later, Nat.zero_add]

/-- The first state that can read the message becomes the current one, and the others stay in their order. -/
theorem decryptFromRecord_of_ok (wellFormed : record.WellFormed) (split : record.states = before ++ state :: after)
    (invalid : Invalid provider message random 0 before) {text : Bytes} {final : SessionState}
    (decrypted : decryptFromState provider state message (random before.length) = .ok (text, final)) :
    decryptFromRecord provider record message random =
      .ok (text, { record with state := final, previousStates := before ++ after }) := by
  have good : state.WellFormed := wellFormed.states state (by rw [split]; simp)
  cases before with
  | nil =>
    obtain ⟨same, rest⟩ := List.cons.inj split
    rw [decryptFromRecord, same, SessionState.copy_eq good]
    dsimp only
    rw [List.length_nil] at decrypted
    rw [decrypted, List.nil_append, ← rest]
    rfl
  | cons first before =>
    obtain ⟨same, rest⟩ := List.cons.inj split
    have rest : record.previousStates = before ++ state :: after := rest
    have few := wellFormed.few
    have promoted : (record.getPreviousStatesRemove before.length).promoteState final =
        { record with state := final, previousStates := first :: before ++ after } := by
      rw [SessionRecord.promoteState, SessionRecord.getPreviousStatesRemove]
      dsimp only
      rw [rest, List.eraseIdx_append_of_length_le (Nat.le_refl _), Nat.sub_self, List.eraseIdx_cons_zero, same,
        List.take_of_length_le]
      · rfl
      · rw [rest] at few
        simp only [List.length_append, List.length_cons] at few ⊢
        omega
    rw [decryptFromRecord_of_skipped wellFormed split invalid, decryptFromPrevious, SessionState.copy_eq good]
    dsimp only
    rw [List.length_cons] at decrypted
    rw [decrypted, ← promoted]

theorem decryptFromRecord_of_error (wellFormed : record.WellFormed) (split : record.states = before ++ state :: after)
    (invalid : Invalid provider message random 0 before) {error : SgErr} (final : error ≠ .invalidMessage)
    (refused : decryptFromState provider state message (random before.length) = .error error) :
    decryptFromRecord provider record message random = .error error := by
  have good : state.WellFormed := wellFormed.states state (by rw [split]; simp)
  cases before with
  | nil =>
    obtain ⟨same, rest⟩ := List.cons.inj split
    rw [decryptFromRecord, same, SessionState.copy_eq good]
    dsimp only
    rw [List.length_nil] at refused
    rw [refused]
    cases error <;> first | rfl | exact absurd rfl final
  | cons first before =>
    rw [decryptFromRecord_of_skipped wellFormed split invalid, decryptFromPrevious, SessionState.copy_eq good]
    dsimp only
    rw [List.length_cons] at refused
    rw [refused]
    cases error <;> first | rfl | exact absurd rfl final

theorem decryptFromRecord_of_invalid (wellFormed : record.WellFormed)
    (invalid : Invalid provider message random 0 record.states) :
    decryptFromRecord provider record message random = .error .invalidMessage := by
  rw [decryptFromRecord_of_skipped wellFormed (List.append_nil _).symm invalid]
  rfl

end

end PillarSignal.Libsignal
