import Mathlib.Data.List.Induction

namespace Storage

variable {κ α σ ω ε : Type}

/-- What can happen to a family of logs: a value is added to one, or some of them are emptied. -/
inductive LogEvent (κ α : Type) where
  | append (key : κ) (value : α)
  | clear (covers : κ → Bool)

namespace LogEvent

def clears (key : κ) : LogEvent κ α → Bool
  | append _ _ => false
  | clear covers => covers key

def added [DecidableEq κ] (key : κ) : LogEvent κ α → Option α
  | append other value => if other = key then some value else none
  | clear _ => none

def onto [DecidableEq κ] (key : κ) (log : List α) : LogEvent κ α → List α
  | append other value => if other = key then log ++ [value] else log
  | clear covers => if covers key then [] else log

end LogEvent

/-- The events of a run, where each step's events depend on the state it is taken in. -/
def trace (step : σ → ω → σ) (events : σ → ω → List ε) : List ω → σ → List ε
  | [], _ => []
  | operation :: operations, state => events state operation ++ trace step events operations (step state operation)

theorem trace_snoc (step : σ → ω → σ) (events : σ → ω → List ε) (done : List ω) (operation : ω) (state : σ) :
    trace step events (done ++ [operation]) state =
      trace step events done state ++ events (done.foldl step state) operation := by
  induction done generalizing state with
  | nil => simp [trace]
  | cons first done ih => rw [List.cons_append, trace, trace, ih, List.append_assoc, List.foldl_cons]

variable [DecidableEq κ]

/-- The values that were added to a log since it was last emptied. -/
def logOf (events : List (LogEvent κ α)) (key : κ) : List α :=
  (events.reverse.takeWhile fun event => !event.clears key).reverse.filterMap (LogEvent.added key)

theorem logOf_snoc (events : List (LogEvent κ α)) (event : LogEvent κ α) (key : κ) :
    logOf (events ++ [event]) key = event.onto key (logOf events key) := by
  rw [logOf, logOf, List.reverse_append, List.reverse_singleton, List.singleton_append, List.takeWhile_cons]
  cases event with
  | append other value =>
    by_cases same : other = key <;> simp [LogEvent.clears, LogEvent.onto, LogEvent.added, same]
  | clear covers =>
    cases covered : covers key with
    | true => simp [LogEvent.clears, LogEvent.onto, covered]
    | false => simp [LogEvent.clears, LogEvent.onto, LogEvent.added, covered]

theorem logOf_append (events more : List (LogEvent κ α)) (key : κ) :
    logOf (events ++ more) key = more.foldl (LogEvent.onto key) (logOf events key) := by
  induction more using List.reverseRecOn with
  | nil => simp
  | append_singleton more event ih => rw [← List.append_assoc, logOf_snoc, ih, List.foldl_append, List.foldl_cons,
      List.foldl_nil]

theorem logOf_trace {step : σ → ω → σ} {events : σ → ω → List (LogEvent κ α)} {shown : σ → List α} {key : κ}
    {invariant : σ → Prop} {allowed : σ → ω → Prop}
    (keeps : ∀ state operation, invariant state → allowed state operation → invariant (step state operation))
    (shows : ∀ state operation, invariant state → allowed state operation →
      shown (step state operation) = (events state operation).foldl (LogEvent.onto key) (shown state))
    {start : σ} (initial : invariant start) (empty : shown start = []) (operations : List ω)
    (each : ∀ done operation, done ++ [operation] <+: operations → allowed (done.foldl step start) operation) :
    invariant (operations.foldl step start) ∧
      shown (operations.foldl step start) = logOf (trace step events operations start) key := by
  induction operations using List.reverseRecOn with
  | nil => exact ⟨initial, empty⟩
  | append_singleton done operation ih =>
    obtain ⟨holds, same⟩ := ih fun before next below => each before next (below.trans (List.prefix_append done _))
    have permitted := each done operation List.prefix_rfl
    rw [List.foldl_append, List.foldl_cons, List.foldl_nil]
    refine ⟨keeps _ _ holds permitted, ?_⟩
    rw [shows _ _ holds permitted, same, trace_snoc, logOf_append]

end Storage
