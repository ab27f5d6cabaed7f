import Mathlib.Data.List.Induction

namespace Storage

variable {σ ω ρ : Type}

/-- What holds at the start and what every allowed step keeps holds all along a run. -/
theorem foldl_invariant {step : σ → ω → σ} {invariant : σ → Prop} {allowed : σ → ω → Prop}
    (keeps : ∀ state operation, invariant state → allowed state operation → invariant (step state operation))
    {start : σ} (initial : invariant start) {operations : List ω}
    (each : ∀ done operation, done ++ [operation] <+: operations → allowed (done.foldl step start) operation)
    (done : List ω) (below : done <+: operations) : invariant (done.foldl step start) := by
  induction done using List.reverseRecOn with
  | nil => exact initial
  | append_singleton done operation ih =>
    rw [List.foldl_append, List.foldl_cons, List.foldl_nil]
    exact keeps _ _ (ih ((List.prefix_append done [operation]).trans below)) (each done operation below)

theorem snoc_prefix_cons {done later : List ω} {first operation : ω} (below : done ++ [operation] <+: first :: later) :
    (done = [] ∧ operation = first) ∨ ∃ rest, done = first :: rest ∧ rest ++ [operation] <+: later := by
  cases done with
  | nil => exact .inl ⟨rfl, (List.cons_prefix_cons.mp below).1⟩
  | cons head rest =>
    obtain ⟨rfl, onward⟩ := List.cons_prefix_cons.mp below
    exact .inr ⟨rest, rfl, onward⟩

theorem snoc_prefix_take {done operations : List ω} {operation : ω} (below : done ++ [operation] <+: operations) :
    ∃ i < operations.length, done = operations.take i ∧ operations[i]? = some operation := by
  obtain ⟨later, rfl⟩ := below
  exact ⟨done.length, by simp, by simp, by simp⟩

theorem eq_getD_of_map_range {value : Nat → σ} {values : List σ} {count : Nat} (listed : (List.range count).map value = values)
    (fallback : σ) {i : Nat} (small : i < count) : value i = values.getD i fallback := by
  rw [← listed]
  simp [small]

/-- A request without an answer, and whether what it was sent for has been given up since. -/
structure Pending (ρ : Type) where
  request : ρ
  stale : Bool
deriving DecidableEq

def send (request : ρ) (waiting : List (Pending ρ)) : List (Pending ρ) := waiting ++ [⟨request, false⟩]

def outdate (covers : ρ → Bool) (waiting : List (Pending ρ)) : List (Pending ρ) :=
  waiting.map fun pending => { pending with stale := pending.stale || covers pending.request }

def Current (holds : ρ → Prop) (waiting : List (Pending ρ)) : Prop :=
  ∀ pending ∈ waiting, pending.stale = false → holds pending.request

variable {holds later : ρ → Prop} {waiting : List (Pending ρ)}

theorem Current.mono (current : Current holds waiting) (weaker : ∀ request, holds request → later request) :
    Current later waiting := fun pending member fresh => weaker _ (current pending member fresh)

theorem Current.send (current : Current holds waiting) {request : ρ} (own : holds request) :
    Current holds (send request waiting) := by
  intro pending member fresh
  rcases List.mem_append.mp member with old | new
  · exact current pending old fresh
  · rw [List.mem_singleton.mp new]
    exact own

theorem Current.answer (current : Current holds waiting) (index : Nat) : Current holds (waiting.eraseIdx index) :=
  fun pending member => current pending (List.mem_of_mem_eraseIdx member)

theorem Current.outdate (current : Current holds waiting) {covers : ρ → Bool}
    (kept : ∀ request, covers request = false → holds request → later request) :
    Current later (outdate covers waiting) := by
  intro pending member fresh
  obtain ⟨before, old, rfl⟩ := List.mem_map.mp member
  rw [Bool.or_eq_false_iff] at fresh
  exact kept _ fresh.2 (current before old fresh.1)

end Storage
