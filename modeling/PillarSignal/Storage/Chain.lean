import Mathlib.Data.List.Induction

namespace Storage

variable {σ τ ρ ε : Type}

/-- What follows once a task is done: the tasks that are started then, what the caller is told, and whether the process
    ends there. -/
structure Reaction (σ τ ρ : Type) where
  state : σ
  started : List τ
  told : List ρ
  stops : Bool

namespace Reaction

def telling (told : List ρ) (state : σ) : Reaction σ τ ρ := ⟨state, [], told, false⟩

def starting (tasks : List τ) (state : σ) : Reaction σ τ ρ := ⟨state, tasks, [], false⟩

def stopping (state : σ) : Reaction σ τ ρ := ⟨state, [], [], true⟩

end Reaction

/-- One call that goes on in callbacks: the tasks without an answer, and what the caller has been told. -/
structure Chain (σ τ ρ : Type) where
  state : σ
  waiting : List τ
  told : List ρ

namespace Chain

def begun (reaction : Reaction σ τ ρ) : Chain σ τ ρ :=
  ⟨reaction.state, if reaction.stops then [] else reaction.started, reaction.told⟩

def answer (react : σ → τ → ε → Reaction σ τ ρ) (chain : Chain σ τ ρ) (event : Nat × ε) : Chain σ τ ρ :=
  match chain.waiting[event.1]? with
  | none => chain
  | some task =>
    let reaction := react chain.state task event.2
    ⟨reaction.state, if reaction.stops then [] else chain.waiting.eraseIdx event.1 ++ reaction.started,
      chain.told ++ reaction.told⟩

def run (react : σ → τ → ε → Reaction σ τ ρ) (chain : Chain σ τ ρ) (events : List (Nat × ε)) : Chain σ τ ρ :=
  events.foldl (answer react) chain

def owing (owed : τ → Nat) : List τ → Nat
  | [] => 0
  | task :: tasks => owed task + owing owed tasks

/-- What the caller has been told, and what it is still owed. -/
def account (owed : τ → Nat) (chain : Chain σ τ ρ) : Nat := chain.told.length + owing owed chain.waiting

variable {react : σ → τ → ε → Reaction σ τ ρ} {owed : τ → Nat} {chain : Chain σ τ ρ}

@[simp] theorem owing_nil : owing owed ([] : List τ) = 0 := rfl

@[simp] theorem owing_cons (task : τ) (tasks : List τ) : owing owed (task :: tasks) = owed task + owing owed tasks := rfl

@[simp] theorem owing_append (first second : List τ) :
    owing owed (first ++ second) = owing owed first + owing owed second := by
  induction first with
  | nil => simp
  | cons task first ih => simp [ih, Nat.add_assoc]

theorem owing_eq_zero {tasks : List τ} (none_owed : ∀ task ∈ tasks, owed task = 0) : owing owed tasks = 0 := by
  induction tasks with
  | nil => rfl
  | cons task tasks ih =>
    have first := none_owed task List.mem_cons_self
    have rest := ih fun other member => none_owed other (List.mem_cons_of_mem _ member)
    rw [owing_cons, first, rest]

theorem owing_eraseIdx {tasks : List τ} {index : Nat} {task : τ} (found : tasks[index]? = some task) :
    owing owed (tasks.eraseIdx index) + owed task = owing owed tasks := by
  induction tasks generalizing index with
  | nil => simp at found
  | cons first tasks ih =>
    cases index with
    | zero =>
      cases found
      simp
      omega
    | succ index =>
      have rest := @ih index (by simpa using found)
      simp only [List.eraseIdx_cons_succ, owing_cons]
      omega

theorem run_snoc (done : List (Nat × ε)) (event : Nat × ε) :
    chain.run react (done ++ [event]) = (chain.run react done).answer react event := by
  rw [run, List.foldl_append]
  rfl

theorem run_cons (chain : Chain σ τ ρ) (event : Nat × ε) (events : List (Nat × ε)) :
    chain.run react (event :: events) = (chain.answer react event).run react events := rfl

@[simp] theorem begun_telling (told : List ρ) (state : σ) :
    begun (.telling told state : Reaction σ τ ρ) = ⟨state, [], told⟩ := rfl

@[simp] theorem begun_starting (tasks : List τ) (state : σ) :
    begun (.starting tasks state : Reaction σ τ ρ) = ⟨state, tasks, []⟩ := rfl

@[simp] theorem begun_stopping (state : σ) : begun (.stopping state : Reaction σ τ ρ) = ⟨state, [], []⟩ := rfl

theorem answer_single (state : σ) (task : τ) (event : ε) :
    (⟨state, [task], []⟩ : Chain σ τ ρ).answer react (0, event) = begun (react state task event) := by
  simp [answer, begun]

theorem answer_of_none {event : Nat × ε} (absent : chain.waiting[event.1]? = none) : chain.answer react event = chain := by
  rw [answer, absent]

theorem account_answer {event : Nat × ε} {task : τ} (found : chain.waiting[event.1]? = some task)
    (goes : (react chain.state task event.2).stops = false) :
    (chain.answer react event).account owed + owed task =
      chain.account owed + ((react chain.state task event.2).told.length + owing owed (react chain.state task event.2).started) := by
  have erased := @owing_eraseIdx τ owed _ _ _ found
  simp only [answer, found, goes, account, List.length_append, owing_append, Bool.false_eq_true, if_false]
  omega

theorem account_answer_of_stop {event : Nat × ε} {task : τ} (found : chain.waiting[event.1]? = some task)
    (stops : (react chain.state task event.2).stops = true) :
    (chain.answer react event).account owed =
      chain.told.length + (react chain.state task event.2).told.length := by
  simp only [answer, found, stops, account, List.length_append, if_true, owing_nil, Nat.add_zero]

theorem told_answer (chain : Chain σ τ ρ) (event : Nat × ε) : chain.told <+: (chain.answer react event).told := by
  unfold answer
  split
  · exact List.prefix_rfl
  · exact List.prefix_append ..

theorem told_run (chain : Chain σ τ ρ) {done events : List (Nat × ε)} (below : done <+: events) :
    (chain.run react done).told <+: (chain.run react events).told := by
  obtain ⟨more, rfl⟩ := below
  induction more using List.reverseRecOn with
  | nil => simp
  | append_singleton more event ih =>
    rw [← List.append_assoc, run_snoc]
    exact ih.trans (told_answer ..)

/-- The caller's due is passed on or paid at every step, but for those at which it is lost; `fits` holds of the tasks
    that come up. -/
structure Ledger (react : σ → τ → ε → Reaction σ τ ρ) (owed : τ → Nat) (fits : τ → Prop) (lost : σ → τ → ε → Prop) :
    Prop where
  keeps : ∀ state task event, fits task → ¬ lost state task event → (react state task event).stops = false ∧
    (react state task event).told.length + owing owed (react state task event).started = owed task
  loses : ∀ state task event, fits task → lost state task event → (react state task event).told = [] ∧
    (react state task event).started = [] ∧ owed task = 1
  starts : ∀ state task event, fits task → ∀ next ∈ (react state task event).started, fits next

def LosesNothing (react : σ → τ → ε → Reaction σ τ ρ) (lost : σ → τ → ε → Prop) (chain : Chain σ τ ρ)
    (events : List (Nat × ε)) : Prop :=
  ∀ done event task, done ++ [event] <+: events → (chain.run react done).waiting[event.1]? = some task →
    ¬ lost (chain.run react done).state task event.2

variable {fits : τ → Prop} {lost : σ → τ → ε → Prop}

theorem losesNothing_snoc (done : List (Nat × ε)) (event : Nat × ε) :
    LosesNothing react lost chain (done ++ [event]) ↔ LosesNothing react lost chain done ∧
      ∀ task, (chain.run react done).waiting[event.1]? = some task → ¬ lost (chain.run react done).state task event.2 := by
  constructor
  · intro none_lost
    exact ⟨fun before next task below => none_lost before next task (below.trans (List.prefix_append ..)),
      fun task => none_lost done event task List.prefix_rfl⟩
  · intro ⟨earlier, last⟩ before next task below
    rcases List.prefix_concat_iff.mp below with whole | shorter
    · obtain ⟨rfl, rfl⟩ := List.append_inj' whole rfl |>.imp_right List.cons.inj |>.imp_right And.left
      exact last task
    · exact earlier before next task shorter

theorem Ledger.fits_answer (ledger : Ledger react owed fits lost) (fit : ∀ task ∈ chain.waiting, fits task)
    (event : Nat × ε) : ∀ task ∈ (chain.answer react event).waiting, fits task := by
  cases found : chain.waiting[event.1]? with
  | none => simpa only [answer_of_none found] using fit
  | some first =>
    intro task member
    simp only [answer, found] at member
    split at member
    · cases member
    · rcases List.mem_append.mp member with kept | started
      · exact fit task (List.mem_of_mem_eraseIdx kept)
      · exact ledger.starts chain.state first event.2 (fit first (List.mem_of_getElem? found)) task started

theorem Ledger.fits_run (ledger : Ledger react owed fits lost) (fit : ∀ task ∈ chain.waiting, fits task)
    (events : List (Nat × ε)) : ∀ task ∈ (chain.run react events).waiting, fits task := by
  induction events using List.reverseRecOn with
  | nil => exact fit
  | append_singleton done event ih =>
    rw [run_snoc]
    exact ledger.fits_answer ih event

theorem Ledger.account_step (ledger : Ledger react owed fits lost) (fit : ∀ task ∈ chain.waiting, fits task)
    (event : Nat × ε) :
    (chain.answer react event).account owed ≤ chain.account owed ∧
      ((chain.answer react event).account owed = chain.account owed ↔
        ∀ task, chain.waiting[event.1]? = some task → ¬ lost chain.state task event.2) := by
  cases found : chain.waiting[event.1]? with
  | none => simp [answer_of_none found]
  | some task =>
    have fitting := fit task (List.mem_of_getElem? found)
    have erased := @owing_eraseIdx τ owed _ _ _ found
    by_cases gone : lost chain.state task event.2
    · obtain ⟨told, started, due⟩ := ledger.loses chain.state task event.2 fitting gone
      have less : (chain.answer react event).account owed < chain.account owed := by
        cases stops : (react chain.state task event.2).stops with
        | false =>
          have sum := @account_answer σ τ ρ ε react owed chain event task found stops
          simp only [told, started, List.length_nil, owing_nil, Nat.add_zero] at sum
          omega
        | true =>
          rw [account_answer_of_stop found stops, told, List.length_nil, account]
          omega
      refine ⟨Nat.le_of_lt less, iff_of_false (Nat.ne_of_lt less) fun none_lost => ?_⟩
      exact none_lost task rfl gone
    · obtain ⟨goes, even⟩ := ledger.keeps chain.state task event.2 fitting gone
      have sum := @account_answer σ τ ρ ε react owed chain event task found goes
      have same : (chain.answer react event).account owed = chain.account owed := by omega
      refine ⟨Nat.le_of_eq same, iff_of_true same fun other found_other => ?_⟩
      cases found_other
      exact gone

theorem Ledger.account_run (ledger : Ledger react owed fits lost) (fit : ∀ task ∈ chain.waiting, fits task)
    (events : List (Nat × ε)) :
    (chain.run react events).account owed ≤ chain.account owed ∧
      ((chain.run react events).account owed = chain.account owed ↔ LosesNothing react lost chain events) := by
  induction events using List.reverseRecOn with
  | nil => exact ⟨Nat.le_refl _, iff_of_true rfl (by simp [LosesNothing])⟩
  | append_singleton done event ih =>
    obtain ⟨least, same⟩ := ih
    obtain ⟨less, even⟩ := ledger.account_step (ledger.fits_run fit done) event
    rw [run_snoc, losesNothing_snoc, ← same, ← even]
    constructor <;> omega

theorem told_le_account (owed : τ → Nat) (chain : Chain σ τ ρ) : chain.told.length ≤ chain.account owed :=
  Nat.le_add_right ..

theorem account_of_idle (idle : chain.waiting = []) : chain.account owed = chain.told.length := by
  rw [account, idle, owing_nil, Nat.add_zero]

/-- A caller who is owed one answer hears it once, unless a step loses it. -/
theorem Ledger.told_once_iff (ledger : Ledger react owed fits lost) (fit : ∀ task ∈ chain.waiting, fits task)
    (due : chain.account owed = 1) (events : List (Nat × ε)) (idle : (chain.run react events).waiting = []) :
    (chain.run react events).told.length = 1 ↔ LosesNothing react lost chain events := by
  rw [← (ledger.account_run fit events).2, due, account_of_idle idle]

theorem run_of_idle (idle : chain.waiting = []) (events : List (Nat × ε)) : chain.run react events = chain := by
  induction events using List.reverseRecOn with
  | nil => rfl
  | append_singleton done event ih => rw [run_snoc, ih, answer_of_none (by simp [idle])]

end Chain
end Storage
