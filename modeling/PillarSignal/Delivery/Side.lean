import PillarSignal.Delivery.Window

namespace Delivery

variable {α β : Type}

def modifyFirst (wanted : α → Bool) (change : α → α) : List α → List α
  | [] => []
  | value :: values => if wanted value then change value :: values else value :: modifyFirst wanted change values

theorem length_modifyFirst (wanted : α → Bool) (change : α → α) (values : List α) :
    (modifyFirst wanted change values).length = values.length := by
  induction values with
  | nil => rfl
  | cons value values ih =>
    rw [modifyFirst]
    split <;> simp [ih]

theorem mem_modifyFirst {wanted : α → Bool} {change : α → α} {values : List α} {value : α}
    (member : value ∈ modifyFirst wanted change values) : value ∈ values ∨ ∃ old ∈ values, value = change old := by
  induction values with
  | nil => cases member
  | cons first values ih =>
    rw [modifyFirst] at member
    split at member
    · rcases List.mem_cons.mp member with rfl | later
      · exact .inr ⟨first, List.mem_cons_self, rfl⟩
      · exact .inl (List.mem_cons_of_mem _ later)
    · rcases List.mem_cons.mp member with rfl | later
      · exact .inl List.mem_cons_self
      · rcases ih later with old | ⟨old, there, same⟩
        · exact .inl (List.mem_cons_of_mem _ old)
        · exact .inr ⟨old, List.mem_cons_of_mem _ there, same⟩

theorem map_modifyFirst {f : α → β} {wanted : α → Bool} {change : α → α} {wanted' : β → Bool} {change' : β → β}
    {values : List α} (same : ∀ value ∈ values, wanted' (f value) = wanted value)
    (changes : ∀ value ∈ values, wanted value = true → f (change value) = change' (f value)) :
    (modifyFirst wanted change values).map f = modifyFirst wanted' change' (values.map f) := by
  induction values with
  | nil => rfl
  | cons value values ih =>
    have first := same value List.mem_cons_self
    have rest := ih (fun other member => same other (List.mem_cons_of_mem _ member)) fun other member =>
      changes other (List.mem_cons_of_mem _ member)
    rw [modifyFirst, List.map_cons, modifyFirst, first]
    by_cases found : wanted value = true
    · rw [if_pos found, if_pos found, List.map_cons, changes value List.mem_cons_self found]
    · rw [if_neg found, if_neg found, List.map_cons, rest]

theorem modifyFirst_id (wanted : α → Bool) (values : List α) : modifyFirst wanted (fun value => value) values = values := by
  induction values with
  | nil => rfl
  | cons value values ih =>
    rw [modifyFirst, ih]
    split <;> rfl

theorem modifyFirst_modifyFirst {wanted : α → Bool} {first : α → α}
    (kept : ∀ value, wanted value = true → wanted (first value) = true) (second : α → α) (values : List α) :
    modifyFirst wanted second (modifyFirst wanted first values) = modifyFirst wanted (fun value => second (first value)) values := by
  induction values with
  | nil => rfl
  | cons value values ih =>
    rw [modifyFirst, modifyFirst]
    by_cases found : wanted value = true
    · rw [if_pos found, if_pos found, modifyFirst, if_pos (kept value found)]
    · rw [if_neg found, if_neg found, modifyFirst, if_neg found, ih]

theorem find?_congr_of_mem {wanted other : α → Bool} {values : List α} (same : ∀ value ∈ values, wanted value = other value) :
    values.find? wanted = values.find? other := by
  induction values with
  | nil => rfl
  | cons value values ih =>
    rw [List.find?_cons, List.find?_cons, same value List.mem_cons_self,
      ih fun later member => same later (List.mem_cons_of_mem _ member)]

theorem find?_modifyFirst_self {wanted : α → Bool} {change : α → α}
    (kept : ∀ value, wanted value = true → wanted (change value) = true) (values : List α) :
    (modifyFirst wanted change values).find? wanted = (values.find? wanted).map change := by
  induction values with
  | nil => rfl
  | cons value values ih =>
    rw [modifyFirst]
    by_cases found : wanted value = true
    · rw [if_pos found, List.find?_cons_of_pos (kept value found), List.find?_cons_of_pos found, Option.map_some]
    · rw [if_neg found, List.find?_cons_of_neg found, List.find?_cons_of_neg found, ih]

theorem find?_modifyFirst_other {wanted other : α → Bool} {change : α → α}
    (apart : ∀ value, wanted value = true → ¬ other value = true ∧ ¬ other (change value) = true) (values : List α) :
    (modifyFirst wanted change values).find? other = values.find? other := by
  induction values with
  | nil => rfl
  | cons value values ih =>
    rw [modifyFirst]
    by_cases found : wanted value = true
    · rw [if_pos found, List.find?_cons_of_neg (apart value found).2, List.find?_cons_of_neg (apart value found).1]
    · rw [if_neg found, List.find?_cons, List.find?_cons, ih]

theorem map_fst_modifyFirst (wanted : α × β → Bool) (value : β) (entries : List (α × β)) :
    (modifyFirst wanted (fun entry => (entry.1, value)) entries).map Prod.fst = entries.map Prod.fst := by
  induction entries with
  | nil => rfl
  | cons entry entries ih =>
    rw [modifyFirst]
    split <;> simp [ih]

theorem find?_eq_some_of_nodup [DecidableEq β] {key : α → β} {values : List α} (distinct : (values.map key).Nodup) {value : α}
    (member : value ∈ values) : values.find? (fun other => key other == key value) = some value := by
  induction values with
  | nil => cases member
  | cons first values ih =>
    rw [List.map_cons, List.nodup_cons] at distinct
    rcases List.mem_cons.mp member with rfl | later
    · simp
    · have apart : key first ≠ key value := by
        intro same
        exact distinct.1 (same ▸ List.mem_map_of_mem later)
      rw [List.find?_cons_of_neg (by simpa using apart), ih distinct.2 later]

/-- The epochs of the other party that are followed: two parties take turns in starting epochs, and
    the newest ones before one's own are kept. -/
def recent (chains epoch : Nat) : List Nat :=
  (List.range (min chains ((epoch + 1) / 2))).map fun place => epoch + 1 - 2 * (min chains ((epoch + 1) / 2) - place)

theorem mem_recent {chains epoch other : Nat} :
    other ∈ recent chains epoch ↔ other < epoch ∧ (epoch - other) % 2 = 1 ∧ epoch < other + 2 * chains := by
  rw [recent, List.mem_map]
  constructor
  · rintro ⟨place, within, rfl⟩
    rw [List.mem_range] at within
    omega
  · rintro ⟨before, odd, late⟩
    refine ⟨min chains ((epoch + 1) / 2) - (epoch + 1 - other) / 2, ?_, ?_⟩
    · rw [List.mem_range]
      omega
    · omega

theorem recent_nodup (chains epoch : Nat) : (recent chains epoch).Nodup := by
  refine List.nodup_range.map_on ?_
  intro place within other also same
  rw [List.mem_range] at within also
  omega

theorem push_recent (chains epoch : Nat) :
    push chains (recent chains epoch) (epoch + 1) = recent chains (epoch + 2) := by
  have step : (epoch + 2 + 1) / 2 = (epoch + 1) / 2 + 1 := by omega
  rw [push, List.length_append, recent, recent, List.length_map, List.length_range, List.length_singleton, step]
  apply List.ext_getElem
  · simp
    omega
  · intro place here there
    have total : place < min chains ((epoch + 1) / 2) + 1 - (min chains ((epoch + 1) / 2) + 1 - chains) := by
      simpa using here
    rw [List.getElem_drop]
    by_cases within : min chains ((epoch + 1) / 2) + 1 - chains + place < min chains ((epoch + 1) / 2)
    · rw [List.getElem_append_left (by simpa using within)]
      simp only [List.getElem_map, List.getElem_range]
      omega
    · rw [List.getElem_append_right (by
        rw [List.length_map, List.length_range]
        exact Nat.le_of_not_lt within)]
      simp only [List.getElem_map, List.getElem_range, List.getElem_singleton]
      omega

/-- One party: the epoch of its own chain, how many messages it has sent in it, and the windows of
    the chains it follows. -/
structure Side (limits : Limits) where
  epoch : Nat
  sent : Nat
  windows : List (Nat × Window limits)
  followed : windows.map Prod.fst = recent limits.chains epoch

namespace Side

variable {limits : Limits}

def find (side : Side limits) (epoch : Nat) : Option (Window limits) :=
  (side.windows.find? fun entry => entry.1 == epoch).map Prod.snd

def replace (side : Side limits) (epoch : Nat) (window : Window limits) : Side limits where
  epoch := side.epoch
  sent := side.sent
  windows := modifyFirst (fun entry => entry.1 == epoch) (fun entry => (entry.1, window)) side.windows
  followed := by
    rw [map_fst_modifyFirst, side.followed]

def ratchet (side : Side limits) : Side limits where
  epoch := side.epoch + 2
  sent := 0
  windows := push limits.chains side.windows (side.epoch + 1, .empty)
  followed := by rw [map_push, side.followed, push_recent]

@[simp] theorem replace_epoch (side : Side limits) (epoch : Nat) (window : Window limits) :
    (side.replace epoch window).epoch = side.epoch := rfl

@[simp] theorem replace_sent (side : Side limits) (epoch : Nat) (window : Window limits) :
    (side.replace epoch window).sent = side.sent := rfl

@[simp] theorem ratchet_epoch (side : Side limits) : side.ratchet.epoch = side.epoch + 2 := rfl

@[simp] theorem ratchet_sent (side : Side limits) : side.ratchet.sent = 0 := rfl

theorem ratchet_windows (side : Side limits) :
    side.ratchet.windows = push limits.chains side.windows (side.epoch + 1, .empty) := rfl

def ready (side : Side limits) (epoch : Nat) : Side limits := if epoch = side.epoch + 1 then side.ratchet else side

def accept (side : Side limits) (epoch counter : Nat) : Except Refusal (Side limits) :=
  match (side.ready epoch).find epoch with
  | none => .error .stray
  | some window => (window.accept counter).map ((side.ready epoch).replace epoch)

def Follows (side : Side limits) (epoch : Nat) : Prop := side.epoch < epoch ∨ epoch ∈ recent limits.chains side.epoch

/-- A message that was not accepted so far and may be. -/
def Open (side : Side limits) (epoch counter : Nat) : Prop :=
  side.epoch < epoch ∨ ∃ window, side.find epoch = some window ∧ window.Open counter

theorem find_eq_some_iff {side : Side limits} {epoch : Nat} {window : Window limits} :
    side.find epoch = some window ↔ (epoch, window) ∈ side.windows := by
  have distinct : (side.windows.map Prod.fst).Nodup := side.followed ▸ recent_nodup ..
  rw [find, Option.map_eq_some_iff]
  constructor
  · rintro ⟨entry, found, rfl⟩
    have here : entry.1 = epoch := by simpa using List.find?_some found
    subst here
    exact List.mem_of_find?_eq_some found
  · intro member
    exact ⟨_, find?_eq_some_of_nodup distinct member, rfl⟩

theorem find_isSome {side : Side limits} {epoch : Nat} :
    (∃ window, side.find epoch = some window) ↔ epoch ∈ recent limits.chains side.epoch := by
  simp only [find_eq_some_iff, ← side.followed, List.mem_map, Prod.exists, exists_and_right, exists_eq_right]

theorem find_replace_self {side : Side limits} {epoch : Nat} {before : Window limits} (found : side.find epoch = some before)
    (window : Window limits) : (side.replace epoch window).find epoch = some window := by
  rw [find, replace, find?_modifyFirst_self (by simp)]
  obtain ⟨entry, first, -⟩ := Option.map_eq_some_iff.mp found
  rw [first]
  rfl

theorem find_replace_other {side : Side limits} {epoch other : Nat} (different : other ≠ epoch) (window : Window limits) :
    (side.replace epoch window).find other = side.find other := by
  rw [find, replace, find?_modifyFirst_other, find]
  intro entry here
  have here : entry.1 = epoch := by simpa using here
  simp [here, different.symm]

theorem find_ratchet_self (side : Side limits) : side.ratchet.find (side.epoch + 1) = some .empty := by
  rw [find_eq_some_iff, ratchet_windows, push_eq_append limits.some_chain]
  simp

theorem find_ratchet_other {side : Side limits} {epoch : Nat} (different : epoch ≠ side.epoch + 1) {window : Window limits} :
    side.ratchet.find epoch = some window ↔
      side.find epoch = some window ∧ epoch ∈ recent limits.chains (side.epoch + 2) := by
  constructor
  · intro found
    refine ⟨?_, find_isSome.mp ⟨window, found⟩⟩
    rw [find_eq_some_iff] at found ⊢
    rcases List.mem_append.mp ((push_suffix ..).subset found) with old | new
    · exact old
    · simp [different] at new
  · rintro ⟨found, kept⟩
    obtain ⟨other, there⟩ := find_isSome.mpr (show epoch ∈ recent limits.chains side.ratchet.epoch from kept)
    rw [there]
    rw [find_eq_some_iff] at there
    rcases List.mem_append.mp ((push_suffix ..).subset there) with old | new
    · rw [← found, find_eq_some_iff.mpr old]
    · simp [different] at new

theorem accept_cases {side after : Side limits} {epoch counter : Nat} (accepted : side.accept epoch counter = .ok after) :
    ∃ window changed, (side.ready epoch).find epoch = some window ∧ window.accept counter = .ok changed ∧
      after = (side.ready epoch).replace epoch changed := by
  unfold accept at accepted
  split at accepted
  next => cases accepted
  next window found =>
    cases result : window.accept counter with
    | error refusal =>
      rw [result] at accepted
      cases accepted
    | ok changed =>
      rw [result] at accepted
      exact ⟨window, changed, found, result, (Except.ok.inj accepted).symm⟩

theorem refusal_cases {side : Side limits} {epoch counter : Nat} {refusal : Refusal}
    (refused : side.accept epoch counter = .error refusal) (known : refusal ≠ .stray) :
    ∃ window, (side.ready epoch).find epoch = some window ∧ window.accept counter = .error refusal := by
  unfold accept at refused
  split at refused
  next => exact absurd (Except.error.inj refused).symm known
  next window found =>
    cases result : window.accept counter with
    | error reason =>
      rw [result] at refused
      exact ⟨window, found, by rw [result, Except.error.inj refused]⟩
    | ok changed =>
      rw [result] at refused
      cases refused

theorem open_ready_iff (side : Side limits) (epoch other counter : Nat) :
    (side.ready epoch).Open other counter ↔ side.Open other counter ∧ (side.ready epoch).Follows other := by
  rw [ready]
  split
  next =>
    by_cases new : other = side.epoch + 1
    · subst new
      have followed : side.ratchet.Follows (side.epoch + 1) := .inr (find_isSome.mp ⟨_, find_ratchet_self side⟩)
      have opened : side.ratchet.Open (side.epoch + 1) counter := .inr ⟨_, find_ratchet_self side, .inl (Nat.zero_le _)⟩
      exact ⟨fun _ => ⟨.inl (Nat.lt_succ_self _), followed⟩, fun _ => opened⟩
    · rw [Open, Follows, ratchet_epoch, Open]
      simp only [find_ratchet_other new]
      constructor
      · rintro (later | ⟨window, ⟨found, kept⟩, opened⟩)
        · exact ⟨.inl (by omega), .inl later⟩
        · exact ⟨.inr ⟨window, found, opened⟩, .inr kept⟩
      · rintro ⟨later | ⟨window, found, opened⟩, beyond | kept⟩
        · exact .inl beyond
        · have before := (mem_recent.mp kept)
          exact .inl (by omega)
        · exact .inl beyond
        · exact .inr ⟨window, ⟨found, kept⟩, opened⟩
  next =>
    refine ⟨fun opened => ⟨opened, ?_⟩, fun both => both.1⟩
    rcases opened with later | ⟨window, found, -⟩
    · exact .inl later
    · exact .inr (find_isSome.mp ⟨window, found⟩)

theorem open_replace_iff {side : Side limits} {epoch : Nat} {before : Window limits} (found : side.find epoch = some before)
    (window : Window limits) (other counter : Nat) : (side.replace epoch window).Open other counter ↔
      if other = epoch then window.Open counter else side.Open other counter := by
  rw [Open, replace_epoch]
  split
  next same =>
    subst same
    have before := (mem_recent.mp (find_isSome.mp ⟨_, found⟩)).1
    rw [find_replace_self found]
    simp only [Option.some.injEq, exists_eq_left', or_iff_right (show ¬ side.epoch < other by omega)]
  next different => rw [find_replace_other different, Open]

theorem open_of_accept {side after : Side limits} {epoch counter : Nat} (accepted : side.accept epoch counter = .ok after)
    {other number : Nat} (still : after.Open other number) :
    side.Open other number ∧ (other, number) ≠ (epoch, counter) := by
  obtain ⟨window, changed, found, inside, rfl⟩ := accept_cases accepted
  rw [open_replace_iff found] at still
  split at still
  next same =>
    subst same
    obtain ⟨before, different⟩ := Window.open_of_accept inside still
    have opened : (side.ready other).Open other number := .inr ⟨window, found, before⟩
    refine ⟨((open_ready_iff ..).mp opened).1, ?_⟩
    rintro same
    exact different (Prod.mk.inj same).2
  next different =>
    refine ⟨((open_ready_iff ..).mp still).1, ?_⟩
    rintro same
    exact different (Prod.mk.inj same).1

theorem open_of_accepted {side after : Side limits} {epoch counter : Nat} (accepted : side.accept epoch counter = .ok after) :
    side.Open epoch counter := by
  obtain ⟨window, changed, found, inside, rfl⟩ := accept_cases accepted
  by_contra spent
  have closed : ¬ window.Open counter := fun fresh => spent ((open_ready_iff ..).mp (.inr ⟨window, found, fresh⟩)).1
  rw [Window.accept_of_not_open closed] at inside
  cases inside

theorem follows_ready {side : Side limits} {epoch counter : Nat} (opened : side.Open epoch counter) :
    (side.ready epoch).Follows epoch := by
  rw [ready]
  split
  next same => exact .inr (find_isSome.mp ⟨_, same ▸ find_ratchet_self side⟩)
  next =>
    rcases opened with later | ⟨window, found, -⟩
    · exact .inl later
    · exact .inr (find_isSome.mp ⟨window, found⟩)

theorem accept_ne_stray {side : Side limits} {epoch counter : Nat} (follows : side.Follows epoch)
    (reached : epoch ≤ side.epoch + 1) : side.accept epoch counter ≠ .error .stray := by
  obtain ⟨window, found⟩ : ∃ window, (side.ready epoch).find epoch = some window := by
    rw [ready]
    split
    next same => exact ⟨_, same ▸ find_ratchet_self side⟩
    next other =>
      rcases follows with later | held
      · omega
      · exact find_isSome.mpr held
  intro stray
  rw [accept, found] at stray
  dsimp only at stray
  cases result : window.accept counter with
  | ok changed =>
    rw [result] at stray
    cases stray
  | error refusal =>
    rw [result] at stray
    cases stray
    exact Window.accept_ne_stray result

theorem accept_of_open {side : Side limits} {epoch counter : Nat} (opened : side.Open epoch counter)
    (reached : epoch ≤ side.epoch + 1) (near : counter ≤ limits.reach) : ∃ after, side.accept epoch counter = .ok after := by
  have begun : epoch ≤ (side.ready epoch).epoch := by
    rw [ready]
    split
    · rw [ratchet_epoch]
      omega
    · omega
  rcases (open_ready_iff side epoch epoch counter).mpr ⟨opened, follows_ready opened⟩ with later | ⟨window, found, fresh⟩
  · omega
  · obtain ⟨changed, inside⟩ := Window.accept_of_open fresh (by omega)
    exact ⟨_, by rw [accept, found]; dsimp only; rw [inside]; rfl⟩

/-- As long as the counters of the chains do not exceed the number of those that are kept, a message
    stays open until it is accepted or its chain is not followed any more. -/
theorem open_accept_iff {side after : Side limits} {epoch counter : Nat} (accepted : side.accept epoch counter = .ok after)
    (small : counter ≤ limits.kept) (other number : Nat) : after.Open other number ↔
      (side.Open other number ∧ (other, number) ≠ (epoch, counter)) ∧ after.Follows other := by
  refine ⟨fun still => ⟨open_of_accept accepted still, ?_⟩, ?_⟩
  · rcases still with later | ⟨window, found, -⟩
    · exact .inl later
    · exact .inr (find_isSome.mp ⟨window, found⟩)
  · obtain ⟨window, changed, found, inside, rfl⟩ := accept_cases accepted
    rintro ⟨⟨before, different⟩, followed⟩
    have opened := (open_ready_iff side epoch other number).mpr ⟨before, followed⟩
    rw [open_replace_iff found]
    split
    next same =>
      subst same
      have begun := (mem_recent.mp (find_isSome.mp ⟨_, found⟩)).1
      rcases opened with later | ⟨window', found', fresh⟩
      · omega
      · rw [found, Option.some.injEq] at found'
        subst found'
        exact (Window.open_accept_iff inside small number).mpr ⟨fresh, fun same => different (by rw [same])⟩
    next => exact opened

theorem accept_epoch {side after : Side limits} {epoch counter : Nat} (accepted : side.accept epoch counter = .ok after) :
    after.epoch = if epoch = side.epoch + 1 then side.epoch + 2 else side.epoch := by
  obtain ⟨window, changed, found, inside, rfl⟩ := accept_cases accepted
  rw [replace_epoch, ready]
  split <;> rfl

theorem accept_sent {side after : Side limits} {epoch counter : Nat} (accepted : side.accept epoch counter = .ok after) :
    after.sent = if epoch = side.epoch + 1 then 0 else side.sent := by
  obtain ⟨window, changed, found, inside, rfl⟩ := accept_cases accepted
  rw [replace_sent, ready]
  split <;> rfl

theorem follows_of_accept {side after : Side limits} {epoch counter : Nat} (accepted : side.accept epoch counter = .ok after)
    {other : Nat} (followed : after.Follows other) : side.Follows other := by
  have moved := accept_epoch accepted
  rw [Follows, mem_recent] at followed ⊢
  split at moved <;> omega

theorem find_accept_self {side after : Side limits} {epoch counter : Nat} (accepted : side.accept epoch counter = .ok after) :
    ∃ window changed, (side.ready epoch).find epoch = some window ∧ window.accept counter = .ok changed ∧
      after.find epoch = some changed := by
  obtain ⟨window, changed, found, inside, rfl⟩ := accept_cases accepted
  exact ⟨window, changed, found, inside, find_replace_self found changed⟩

theorem find_accept_other {side after : Side limits} {epoch counter : Nat} (accepted : side.accept epoch counter = .ok after)
    {other : Nat} (different : other ≠ epoch) {window : Window limits} (found : after.find other = some window) :
    side.find other = some window := by
  obtain ⟨before, changed, -, -, rfl⟩ := accept_cases accepted
  rw [find_replace_other different, ready] at found
  split at found
  next same => exact ((find_ratchet_other (same ▸ different)).mp found).1
  next => exact found

theorem find_ready {side : Side limits} {epoch : Nat} {window : Window limits} (found : (side.ready epoch).find epoch = some window) :
    side.find epoch = some window ∨ window = .empty := by
  rw [ready] at found
  split at found
  next same =>
    subst same
    rw [find_ratchet_self, Option.some.injEq] at found
    exact .inr found.symm
  next => exact .inl found

end Side

end Delivery
