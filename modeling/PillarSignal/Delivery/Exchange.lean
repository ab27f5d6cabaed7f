import PillarSignal.Delivery.Side
import Mathlib.Logic.Function.Basic

namespace Delivery

inductive Role where
  | initiator
  | responder
deriving DecidableEq, Repr

namespace Role

def other : Role → Role
  | initiator => responder
  | responder => initiator

@[simp] theorem other_other (role : Role) : role.other.other = role := by cases role <;> rfl

@[simp] theorem other_ne (role : Role) : role.other ≠ role := by cases role <;> decide

theorem eq_or_eq_other (role one : Role) : role = one ∨ role = one.other := by cases role <;> cases one <;> simp [other]

end Role

/-- A message is known by who sent it, in which epoch, and as which one of that epoch. -/
structure Message where
  sender : Role
  epoch : Nat
  counter : Nat
deriving DecidableEq, Repr

/-- Two parties, what they have sent, and which of it each of them has received. -/
structure Exchange (limits : Limits) where
  side : Role → Side limits
  sent : List Message
  received : Role → List Nat

inductive Action where
  | send (role : Role)
  | deliver (index : Nat)
deriving DecidableEq, Repr

namespace Side

variable {limits : Limits}

def countSent (side : Side limits) : Side limits := { side with sent := side.sent + 1 }

@[simp] theorem countSent_sent (side : Side limits) : side.countSent.sent = side.sent + 1 := rfl

end Side

namespace Exchange

variable {limits : Limits}

def send (exchange : Exchange limits) (role : Role) : Exchange limits where
  side := Function.update exchange.side role (exchange.side role).countSent
  sent := exchange.sent ++ [⟨role, (exchange.side role).epoch, (exchange.side role).sent⟩]
  received := exchange.received

def accepted (exchange : Exchange limits) (index : Nat) (message : Message) (after : Side limits) : Exchange limits where
  side := Function.update exchange.side message.sender.other after
  sent := exchange.sent
  received := Function.update exchange.received message.sender.other (exchange.received message.sender.other ++ [index])

/-- A message may be delivered at any time, again, or never. -/
def deliver (exchange : Exchange limits) (index : Nat) : Exchange limits :=
  match exchange.sent[index]? with
  | none => exchange
  | some message =>
    match (exchange.side message.sender.other).accept message.epoch message.counter with
    | .error _ => exchange
    | .ok after => exchange.accepted index message after

def step (exchange : Exchange limits) : Action → Exchange limits
  | .send role => exchange.send role
  | .deliver index => exchange.deliver index

@[simp] theorem send_side_self (exchange : Exchange limits) (role : Role) :
    (exchange.send role).side role = (exchange.side role).countSent := Function.update_self ..

@[simp] theorem send_side_other (exchange : Exchange limits) (role : Role) :
    (exchange.send role).side role.other = exchange.side role.other := Function.update_of_ne role.other_ne ..

theorem send_side (exchange : Exchange limits) (role one : Role) :
    (exchange.send role).side one = if one = role then (exchange.side one).countSent else exchange.side one := by
  rcases one.eq_or_eq_other role with rfl | rfl
  · simp
  · simp

@[simp] theorem send_epoch (exchange : Exchange limits) (role one : Role) :
    ((exchange.send role).side one).epoch = (exchange.side one).epoch := by
  rw [send_side]
  split <;> rfl

@[simp] theorem send_find (exchange : Exchange limits) (role one : Role) (epoch : Nat) :
    ((exchange.send role).side one).find epoch = (exchange.side one).find epoch := by
  rw [send_side]
  split <;> rfl

@[simp] theorem send_open (exchange : Exchange limits) (role one : Role) (epoch counter : Nat) :
    ((exchange.send role).side one).Open epoch counter ↔ (exchange.side one).Open epoch counter := by
  rw [send_side]
  split <;> rfl

@[simp] theorem send_follows (exchange : Exchange limits) (role one : Role) (epoch : Nat) :
    ((exchange.send role).side one).Follows epoch ↔ (exchange.side one).Follows epoch := by
  rw [send_side]
  split <;> rfl

theorem send_sent_le (exchange : Exchange limits) (role one : Role) :
    (exchange.side one).sent ≤ ((exchange.send role).side one).sent := by
  rw [send_side]
  split
  · exact Nat.le_succ _
  · exact Nat.le_refl _

variable {exchange : Exchange limits} {index : Nat} {message : Message} {after : Side limits}

theorem accepted_side_receiver : (exchange.accepted index message after).side message.sender.other = after :=
  Function.update_self ..

theorem accepted_side_sender : (exchange.accepted index message after).side message.sender = exchange.side message.sender :=
  Function.update_of_ne (fun same => message.sender.other_ne same.symm) ..

theorem accepted_epoch (accepts : (exchange.side message.sender.other).accept message.epoch message.counter = .ok after)
    (role : Role) : ((exchange.accepted index message after).side role).epoch = (exchange.side role).epoch ∧
      ((exchange.accepted index message after).side role).sent = (exchange.side role).sent ∨
    role = message.sender.other ∧ message.epoch = (exchange.side role).epoch + 1 ∧
      ((exchange.accepted index message after).side role).epoch = (exchange.side role).epoch + 2 := by
  rcases role.eq_or_eq_other message.sender with rfl | rfl
  · rw [accepted_side_sender]
    exact .inl ⟨rfl, rfl⟩
  · rw [accepted_side_receiver, Side.accept_epoch accepts, Side.accept_sent accepts]
    split
    next same => exact .inr ⟨rfl, same, rfl⟩
    next => exact .inl ⟨rfl, rfl⟩

theorem accepted_received_receiver : (exchange.accepted index message after).received message.sender.other =
    exchange.received message.sender.other ++ [index] := Function.update_self ..

theorem accepted_received_sender :
    (exchange.accepted index message after).received message.sender = exchange.received message.sender :=
  Function.update_of_ne (fun same => message.sender.other_ne same.symm) ..

theorem deliver_cases (exchange : Exchange limits) (index : Nat) : exchange.deliver index = exchange ∨
    ∃ message after, exchange.sent[index]? = some message ∧
      (exchange.side message.sender.other).accept message.epoch message.counter = .ok after ∧
      exchange.deliver index = exchange.accepted index message after := by
  rw [deliver]
  split
  next => exact .inl rfl
  next message found =>
    split
    next => exact .inl rfl
    next after accepted => exact .inr ⟨message, after, found, accepted, rfl⟩

theorem deliver_of_accept (found : exchange.sent[index]? = some message)
    (accepts : (exchange.side message.sender.other).accept message.epoch message.counter = .ok after) :
    exchange.deliver index = exchange.accepted index message after := by
  rw [deliver, found]
  dsimp only
  rw [accepts]

def last (exchange : Exchange limits) : Nat := max (exchange.side .initiator).epoch (exchange.side .responder).epoch

theorem epoch_le_last (exchange : Exchange limits) (role : Role) : (exchange.side role).epoch ≤ exchange.last := by
  cases role with
  | initiator => exact Nat.le_max_left ..
  | responder => exact Nat.le_max_right ..

theorem last_le {exchange : Exchange limits} {bound : Nat} (role : Role) (own : (exchange.side role).epoch ≤ bound)
    (others : (exchange.side role.other).epoch ≤ bound) : exchange.last ≤ bound := by
  cases role with
  | initiator => exact Nat.max_le.mpr ⟨own, others⟩
  | responder => exact Nat.max_le.mpr ⟨others, own⟩

@[simp] theorem send_last (exchange : Exchange limits) (role : Role) : (exchange.send role).last = exchange.last := by
  rw [last, last, send_epoch, send_epoch]

structure Valid (exchange : Exchange limits) : Prop where
  adjacent : ∃ role, (exchange.side role).epoch = (exchange.side role.other).epoch + 1
  begun : ∀ message ∈ exchange.sent, message.epoch ≤ (exchange.side message.sender).epoch
  turns : ∀ message ∈ exchange.sent, message.epoch % 2 = (exchange.side message.sender).epoch % 2
  counted : ∀ message ∈ exchange.sent, message.epoch = (exchange.side message.sender).epoch →
    message.counter < (exchange.side message.sender).sent
  distinct : exchange.sent.Nodup
  taken : ∀ role, ∀ index ∈ exchange.received role, ∃ message, exchange.sent[index]? = some message ∧
    message.sender = role.other ∧ ¬ (exchange.side role).Open message.epoch message.counter
  once : ∀ role, (exchange.received role).Nodup
  behind : ∀ role window, (exchange.side role).find (exchange.side role.other).epoch = some window →
    window.next ≤ (exchange.side role.other).sent

namespace Valid

theorem epoch_eq (valid : exchange.Valid) (role : Role)
    (ahead : (exchange.side role.other).epoch + 1 ≤ (exchange.side role).epoch) :
    (exchange.side role).epoch = (exchange.side role.other).epoch + 1 := by
  obtain ⟨leader, next⟩ := valid.adjacent
  rcases leader.eq_or_eq_other role with rfl | rfl
  · exact next
  · rw [Role.other_other] at next
    omega

theorem epoch_le (valid : exchange.Valid) (role : Role) : (exchange.side role).epoch ≤ (exchange.side role.other).epoch + 1 := by
  by_cases ahead : (exchange.side role.other).epoch + 1 ≤ (exchange.side role).epoch
  · exact Nat.le_of_eq (valid.epoch_eq role ahead)
  · omega

theorem last_le_succ (valid : exchange.Valid) (role : Role) : exchange.last ≤ (exchange.side role).epoch + 1 := by
  have near := valid.epoch_le role.other
  rw [Role.other_other] at near
  exact last_le role (Nat.le_succ _) near

theorem follows_current (valid : exchange.Valid) (role : Role) :
    (exchange.side role.other).Follows (exchange.side role).epoch := by
  obtain ⟨leader, next⟩ := valid.adjacent
  have positive := limits.some_chain
  rw [Side.Follows, mem_recent]
  rcases leader.eq_or_eq_other role with rfl | rfl
  · omega
  · rw [Role.other_other] at next
    omega

theorem message_epoch_le (valid : exchange.Valid) {message : Message} (sent : message ∈ exchange.sent) :
    message.epoch ≤ (exchange.side message.sender.other).epoch + 1 :=
  Nat.le_trans (valid.begun message sent) (valid.epoch_le message.sender)

theorem send (valid : exchange.Valid) (role : Role) : (exchange.send role).Valid := by
  have old : ∀ message ∈ (exchange.send role).sent,
      message ∈ exchange.sent ∨ message = ⟨role, (exchange.side role).epoch, (exchange.side role).sent⟩ := by
    intro message member
    rcases List.mem_append.mp member with before | new
    · exact .inl before
    · exact .inr (List.mem_singleton.mp new)
  refine ⟨?_, ?_, ?_, ?_, ?_, ?_, valid.once, ?_⟩
  · simpa using valid.adjacent
  · intro message member
    rw [send_epoch]
    rcases old message member with before | rfl
    · exact valid.begun message before
    · exact Nat.le_refl _
  · intro message member
    rw [send_epoch]
    rcases old message member with before | rfl
    · exact valid.turns message before
    · rfl
  · intro message member current
    rw [send_epoch] at current
    rcases old message member with before | rfl
    · exact Nat.lt_of_lt_of_le (valid.counted message before current) (send_sent_le ..)
    · rw [send_side_self]
      exact Nat.lt_succ_self _
  · refine List.nodup_append.mpr ⟨valid.distinct, List.nodup_singleton _, ?_⟩
    intro message before other new same
    rw [List.mem_singleton.mp new] at same
    subst same
    exact Nat.lt_irrefl _ (valid.counted _ before rfl)
  · intro receiver index member
    obtain ⟨message, found, sender, closed⟩ := valid.taken receiver index member
    refine ⟨message, ?_, sender, by rwa [send_open]⟩
    rw [Exchange.send, List.getElem?_append_left (List.getElem?_eq_some_iff.mp found).1, found]
  · intro receiver window found
    rw [send_epoch, send_find] at found
    exact Nat.le_trans (valid.behind receiver window found) (send_sent_le ..)

theorem accepted (valid : exchange.Valid) (found : exchange.sent[index]? = some message)
    (accepts : (exchange.side message.sender.other).accept message.epoch message.counter = .ok after) :
    (exchange.accepted index message after).Valid := by
  have sent : message ∈ exchange.sent := List.mem_of_getElem? found
  have epochs := fun role => @accepted_epoch _ _ index _ _ accepts role
  have turned : message.epoch = (exchange.side message.sender.other).epoch + 1 →
      (exchange.side message.sender).epoch = (exchange.side message.sender.other).epoch + 1 := fun same =>
    valid.epoch_eq message.sender (same ▸ valid.begun message sent)
  refine ⟨?_, ?_, ?_, ?_, valid.distinct, ?_, ?_, ?_⟩
  · rcases epochs message.sender.other with ⟨same, -⟩ | ⟨-, new, later⟩
    · obtain ⟨role, next⟩ := valid.adjacent
      refine ⟨role, ?_⟩
      rcases role.eq_or_eq_other message.sender with rfl | rfl
      · rw [accepted_side_sender, same, next]
      · rw [same, Role.other_other, accepted_side_sender, next, Role.other_other]
    · refine ⟨message.sender.other, ?_⟩
      rw [later, Role.other_other, accepted_side_sender, turned new]
  · intro other member
    have before := valid.begun other member
    rcases epochs other.sender with ⟨same, -⟩ | ⟨-, -, later⟩ <;> omega
  · intro other member
    have before := valid.turns other member
    rcases epochs other.sender with ⟨same, -⟩ | ⟨-, -, later⟩ <;> omega
  · intro other member current
    have before := valid.begun other member
    rcases epochs other.sender with ⟨same, count⟩ | ⟨-, -, later⟩
    · rw [count]
      exact valid.counted other member (same ▸ current)
    · omega
  · intro role other member
    rcases role.eq_or_eq_other message.sender with rfl | rfl
    · rw [accepted_received_sender] at member
      rw [accepted_side_sender]
      exact valid.taken _ other member
    · rw [accepted_side_receiver]
      rw [accepted_received_receiver] at member
      rcases List.mem_append.mp member with before | new
      · obtain ⟨earlier, there, sender, closed⟩ := valid.taken _ other before
        exact ⟨earlier, there, sender, fun still => closed (Side.open_of_accept accepts still).1⟩
      · rw [List.mem_singleton.mp new]
        exact ⟨message, found, (Role.other_other _).symm, fun still => (Side.open_of_accept accepts still).2 rfl⟩
  · intro role
    rcases role.eq_or_eq_other message.sender with rfl | rfl
    · rw [accepted_received_sender]
      exact valid.once _
    · rw [accepted_received_receiver]
      refine List.nodup_append.mpr ⟨valid.once _, List.nodup_singleton _, ?_⟩
      intro other before new member same
      rw [List.mem_singleton.mp member] at same
      subst same
      obtain ⟨earlier, there, -, closed⟩ := valid.taken _ other before
      rw [found, Option.some.injEq] at there
      exact closed (there ▸ Side.open_of_accepted accepts)
  · intro role window there
    rcases role.eq_or_eq_other message.sender with rfl | rfl
    · rw [accepted_side_sender] at there
      have below := (mem_recent.mp (Side.find_isSome.mp ⟨_, there⟩)).1
      rcases epochs message.sender.other with ⟨same, count⟩ | ⟨-, new, later⟩
      · rw [count]
        exact valid.behind _ window (same ▸ there)
      · have := turned new
        omega
    · rw [Role.other_other, accepted_side_sender] at there ⊢
      rw [accepted_side_receiver] at there
      by_cases current : message.epoch = (exchange.side message.sender).epoch
      · obtain ⟨before, changed, earlier, inside, now⟩ := Side.find_accept_self accepts
        rw [current, there, Option.some.injEq] at now
        subst now
        have counted := valid.counted message sent current
        have next := Window.accept_next inside
        rcases Side.find_ready earlier with old | rfl
        · have behind := valid.behind message.sender.other before (by rw [Role.other_other, ← current]; exact old)
          rw [Role.other_other] at behind
          omega
        · have next : window.next ≤ max 0 (message.counter + 1) := next
          omega
      · have old := Side.find_accept_other accepts (Ne.symm current) there
        have behind := valid.behind message.sender.other window (by rw [Role.other_other]; exact old)
        rwa [Role.other_other] at behind

theorem step (valid : exchange.Valid) (action : Action) : (exchange.step action).Valid := by
  cases action with
  | send role => exact valid.send role
  | deliver index =>
    rw [Exchange.step]
    rcases deliver_cases exchange index with same | ⟨message, after, found, accepts, same⟩
    · rw [same]
      exact valid
    · rw [same]
      exact valid.accepted found accepts

end Valid

/-- No counter is larger than the number of messages. -/
structure Bounded (exchange : Exchange limits) : Prop where
  few : ∀ role, (exchange.side role).sent ≤ exchange.sent.length
  numbered : ∀ message ∈ exchange.sent, message.counter < exchange.sent.length
  early : ∀ role epoch window, (exchange.side role).find epoch = some window → window.next ≤ exchange.sent.length

namespace Bounded

theorem send (bounded : exchange.Bounded) (role : Role) : (exchange.send role).Bounded := by
  have longer : (exchange.send role).sent.length = exchange.sent.length + 1 := List.length_append ..
  refine ⟨?_, ?_, ?_⟩
  · intro one
    have before := bounded.few one
    rw [longer, send_side]
    split
    · rw [Side.countSent_sent]
      omega
    · omega
  · intro message member
    rw [longer]
    rcases List.mem_append.mp member with before | new
    · have := bounded.numbered message before
      omega
    · rw [List.mem_singleton.mp new]
      exact Nat.lt_succ_of_le (bounded.few role)
  · intro one epoch window found
    rw [send_find] at found
    have := bounded.early one epoch window found
    omega

theorem accepted (bounded : exchange.Bounded) (found : exchange.sent[index]? = some message)
    (accepts : (exchange.side message.sender.other).accept message.epoch message.counter = .ok after) :
    (exchange.accepted index message after).Bounded := by
  have numbered := bounded.numbered message (List.mem_of_getElem? found)
  refine ⟨?_, bounded.numbered, ?_⟩
  · intro role
    rcases role.eq_or_eq_other message.sender with rfl | rfl
    · rw [accepted_side_sender]
      exact bounded.few _
    · rw [accepted_side_receiver, Side.accept_sent accepts]
      split
      · exact Nat.zero_le _
      · exact bounded.few _
  · intro role epoch window there
    rcases role.eq_or_eq_other message.sender with rfl | rfl
    · rw [accepted_side_sender] at there
      exact bounded.early _ epoch window there
    · rw [accepted_side_receiver] at there
      by_cases own : epoch = message.epoch
      · subst own
        obtain ⟨before, changed, earlier, inside, now⟩ := Side.find_accept_self accepts
        rw [there, Option.some.injEq] at now
        subst now
        refine Nat.le_trans (Window.accept_next inside) (Nat.max_le.mpr ⟨?_, numbered⟩)
        rcases Side.find_ready earlier with old | rfl
        · exact bounded.early _ _ before old
        · exact Nat.zero_le _
      · exact bounded.early _ epoch window (Side.find_accept_other accepts own there)

theorem step (bounded : exchange.Bounded) (action : Action) : (exchange.step action).Bounded := by
  cases action with
  | send role => exact bounded.send role
  | deliver index =>
    rw [Exchange.step]
    rcases deliver_cases exchange index with same | ⟨message, after, found, accepts, same⟩
    · rw [same]
      exact bounded
    · rw [same]
      exact bounded.accepted found accepts

end Bounded

theorem step_sent_le (exchange : Exchange limits) (action : Action) :
    exchange.sent.length ≤ (exchange.step action).sent.length := by
  cases action with
  | send role =>
    rw [step, send, List.length_append]
    exact Nat.le_add_right ..
  | deliver index =>
    rw [step]
    rcases deliver_cases exchange index with same | ⟨message, after, -, -, same⟩
    · simp only [same, Nat.le_refl]
    · rw [same]
      exact Nat.le_refl _

/-- What was sent to a party that still follows its chain, and was not received, can be. -/
def Complete (exchange : Exchange limits) : Prop :=
  ∀ (index : Nat) (message : Message), exchange.sent[index]? = some message →
    index ∉ exchange.received message.sender.other → (exchange.side message.sender.other).Follows message.epoch →
    (exchange.side message.sender.other).Open message.epoch message.counter

theorem Complete.send (complete : exchange.Complete) (valid : exchange.Valid) (role : Role) :
    (exchange.send role).Complete := by
  intro index message found missing follows
  rw [send_open]
  rw [send_follows] at follows
  rw [Exchange.send] at found
  by_cases old : index < exchange.sent.length
  · rw [List.getElem?_append_left old] at found
    exact complete index message found missing follows
  · have new : message = ⟨role, (exchange.side role).epoch, (exchange.side role).sent⟩ := by
      rw [List.getElem?_append_right (Nat.le_of_not_lt old), List.getElem?_singleton] at found
      split at found
      · exact (Option.some.inj found).symm
      · cases found
    subst new
    rcases follows with later | held
    · exact .inl later
    · obtain ⟨window, there⟩ := Side.find_isSome.mpr held
      have behind := valid.behind role.other window (by rw [Role.other_other]; exact there)
      rw [Role.other_other] at behind
      exact .inr ⟨window, there, .inl behind⟩

/-- As long as the counters do not exceed the number of those that are kept, nothing is lost. -/
theorem Complete.accepted (complete : exchange.Complete) (valid : exchange.Valid) (found : exchange.sent[index]? = some message)
    (small : message.counter ≤ limits.kept)
    (accepts : (exchange.side message.sender.other).accept message.epoch message.counter = .ok after) :
    (exchange.accepted index message after).Complete := by
  intro other earlier there missing follows
  have there : exchange.sent[other]? = some earlier := there
  rcases earlier.sender.eq_or_eq_other message.sender with same | same
  · rw [same, accepted_side_receiver] at follows ⊢
    rw [same, accepted_received_receiver, List.mem_append, not_or, List.mem_singleton] at missing
    have open_before := complete other earlier there (by rw [same]; exact missing.1)
      (by rw [same]; exact Side.follows_of_accept accepts follows)
    rw [same] at open_before
    refine (Side.open_accept_iff accepts small ..).mpr ⟨⟨open_before, ?_⟩, follows⟩
    intro equal
    -- two places of the list that hold the same message are one place
    have one : earlier = message := by
      cases earlier
      cases message
      simp_all
    subst one
    have within := (List.getElem?_eq_some_iff.mp there).1
    exact missing.2 ((List.getElem?_inj within valid.distinct).mp (there.trans found.symm))
  · rw [same, Role.other_other, accepted_side_sender] at follows ⊢
    rw [same, Role.other_other, accepted_received_sender] at missing
    have before := complete other earlier there (by rw [same, Role.other_other]; exact missing)
      (by rw [same, Role.other_other]; exact follows)
    rwa [same, Role.other_other] at before

theorem Complete.step (complete : exchange.Complete) (valid : exchange.Valid) (bounded : exchange.Bounded)
    (few : exchange.sent.length ≤ limits.kept) (action : Action) : (exchange.step action).Complete := by
  cases action with
  | send role => exact complete.send valid role
  | deliver index =>
    rw [Exchange.step]
    rcases deliver_cases exchange index with same | ⟨message, after, found, accepts, same⟩
    · rw [same]
      exact complete
    · have := bounded.numbered message (List.mem_of_getElem? found)
      rw [same]
      exact complete.accepted valid found (by omega) accepts

theorem Complete.accepts (complete : exchange.Complete) (valid : exchange.Valid) (found : exchange.sent[index]? = some message)
    (missing : index ∉ exchange.received message.sender.other)
    (follows : (exchange.side message.sender.other).Follows message.epoch) (near : message.counter ≤ limits.reach) :
    ∃ after, (exchange.side message.sender.other).accept message.epoch message.counter = .ok after :=
  Side.accept_of_open (complete index message found missing follows)
    (valid.message_epoch_le (List.mem_of_getElem? found)) near

end Exchange

namespace Side

def published (limits : Limits) : Side limits where
  epoch := 0
  sent := 0
  windows := []
  followed := by rw [recent, Nat.zero_add, Nat.min_eq_right (Nat.zero_le _)]; rfl

def introduced (limits : Limits) : Side limits where
  epoch := 1
  sent := 0
  windows := [(0, .empty)]
  followed := by rw [recent, Nat.min_eq_right limits.some_chain]; rfl

end Side

namespace Exchange

/-- The initiator has used the key that the responder has published. -/
def start (limits : Limits) : Exchange limits where
  side
    | .initiator => .introduced limits
    | .responder => .published limits
  sent := []
  received _ := []

variable {limits : Limits}

theorem start_find {role : Role} {epoch : Nat} {window : Window limits}
    (found : ((start limits).side role).find epoch = some window) : window = .empty := by
  rw [Side.find_eq_some_iff] at found
  cases role with
  | initiator => exact (Prod.mk.inj (List.mem_singleton.mp found)).2
  | responder => cases found

theorem start_valid : (start limits).Valid where
  adjacent := ⟨.initiator, rfl⟩
  begun _ member := absurd member List.not_mem_nil
  turns _ member := absurd member List.not_mem_nil
  counted _ member := absurd member List.not_mem_nil
  distinct := List.nodup_nil
  taken _ _ member := absurd member List.not_mem_nil
  once _ := List.nodup_nil
  behind _ _ found := start_find found ▸ Nat.zero_le _

theorem start_bounded : (start limits).Bounded where
  few role := by cases role <;> exact Nat.le_refl _
  numbered _ member := absurd member List.not_mem_nil
  early _ _ _ found := start_find found ▸ Nat.le_refl _

theorem start_complete : (start limits).Complete := by
  intro index message found
  cases found

def run (exchange : Exchange limits) (actions : List Action) : Exchange limits := actions.foldl step exchange

theorem run_append (exchange : Exchange limits) (actions : List Action) (action : Action) :
    exchange.run (actions ++ [action]) = (exchange.run actions).step action := by
  rw [run, List.foldl_append]
  rfl

def Reached (exchange : Exchange limits) : Prop := ∃ actions, exchange = (start limits).run actions

namespace Reached

variable {exchange : Exchange limits}

theorem start : (start limits).Reached := ⟨[], rfl⟩

theorem step (reached : exchange.Reached) (action : Action) : (exchange.step action).Reached := by
  obtain ⟨actions, rfl⟩ := reached
  exact ⟨actions ++ [action], (run_append ..).symm⟩

/-- The rule of invariants: what holds at the start and is kept by a step. -/
theorem induct {motive : Exchange limits → Prop} (first : motive (.start limits))
    (next : ∀ exchange action, exchange.Reached → motive exchange → motive (exchange.step action))
    (reached : exchange.Reached) : motive exchange := by
  obtain ⟨actions, rfl⟩ := reached
  have onward : ∀ before : Exchange limits, before.Reached → motive before → motive (before.run actions) := by
    induction actions with
    | nil => exact fun _ _ holds => holds
    | cons action actions ih => exact fun before reached holds => ih _ (reached.step action) (next before action reached holds)
  exact onward _ start first

theorem valid (reached : exchange.Reached) : exchange.Valid :=
  reached.induct start_valid fun _ action _ valid => valid.step action

theorem bounded (reached : exchange.Reached) : exchange.Bounded :=
  reached.induct start_bounded fun _ action _ bounded => bounded.step action

theorem complete (reached : exchange.Reached) (few : exchange.sent.length ≤ limits.kept) : exchange.Complete := by
  refine @induct _ _ (fun exchange => exchange.sent.length ≤ limits.kept → exchange.Complete) (fun _ => start_complete) ?_
    reached few
  intro before action reached complete few
  have fewer := Nat.le_trans (step_sent_le before action) few
  exact (complete fewer).step reached.valid reached.bounded fewer action

end Reached

end Exchange

end Delivery
