import PillarSignal.Ios.Tasks

namespace PillarSignal.Ios

open Storage ProtocolStorage SignalClient

def NoDictionary (p : Platform) : Exchange → Prop
  | .answered statusCode data => statusCode ≠ 204 ∧ statusCode ≠ 404 ∧
      ∃ value, p.jsonObject data = some value ∧ asDictionary value = none
  | _ => False

def Traps (p : Platform) (exchange : Exchange) : Prop :=
  ∃ dict bundle, SignalServer.call p exchange = .success dict ∧ parseBundle p dict = some bundle ∧
    SessionPreKeyBundle.fits bundle = false

def Unsigned (p : Platform) (exchange : Exchange) : Prop :=
  ∃ dict bundle, SignalServer.call p exchange = .success dict ∧ parseBundle p dict = some bundle ∧
    SessionPreKeyBundle.fits bundle = true ∧ SessionPreKeyBundle.unsigned bundle = true

variable {p : Platform} {verify : Verify}

def Task.Silent (p : Platform) (task : Task) (completion : Completion verify) : Prop :=
  match task with
  | .delete _ => False
  | .preKeys _ _ => NoDictionary p completion.exchange ∨ Traps p completion.exchange ∨
      (completion.store = true ∧ Unsigned p completion.exchange)
  | _ => NoDictionary p completion.exchange

theorem neither_iff (exchange : Exchange) : SignalServer.call p exchange = .neither ↔ NoDictionary p exchange := by
  cases exchange with
  | notSent => simp [SignalServer.call, NoDictionary]
  | failed => simp [SignalServer.call, NoDictionary]
  | answered statusCode data =>
    rw [SignalServer.call, NoDictionary]
    by_cases empty : statusCode = 204
    · simp [empty]
    · by_cases missing : statusCode = 404
      · simp [missing]
      · rw [if_neg empty, if_neg missing]
        cases p.jsonObject data with
        | none => simp
        | some value => cases value <;> simp [empty, missing, asDictionary]

theorem call_heard {exchange : Exchange} (heard : ¬ NoDictionary p exchange) :
    (∃ dict, SignalServer.call p exchange = .success dict) ∨ ∃ error, SignalServer.call p exchange = .failure error := by
  rw [← neither_iff] at heard
  cases answered : SignalServer.call p exchange with
  | success dict => exact .inl ⟨dict, rfl⟩
  | failure error => exact .inr ⟨error, rfl⟩
  | neither => exact absurd answered heard

theorem invoked_once_iff {κ : Type} (success : Dictionary → κ) (failure : CallError → κ) (exchange : Exchange) :
    ((SignalServer.call p exchange).invoked success failure).length = 1 ↔ ¬ NoDictionary p exchange := by
  rw [← neither_iff]
  cases SignalServer.call p exchange <;> simp [CallResult.invoked]

theorem owing_deletes (urls : List String) : Chain.owing Task.owed (urls.map Task.delete) = 0 := by
  apply Chain.owing_eq_zero
  intro task member
  obtain ⟨url, _, rfl⟩ := List.mem_map.mp member
  rfl

theorem startSending_even (out : Outgoing) (store : Bool) (encryption : Encryption) (archives : Archives) :
    (startSending p out store encryption archives).stops = false ∧
      (startSending p out store encryption archives).told.length +
        Chain.owing Task.owed (startSending p out store encryption archives).started = 1 := by
  unfold startSending
  split <;> exact ⟨rfl, rfl⟩

theorem registerPreKeys_goes_on (generated : Generated verify) (archives : Archives) :
    (registerPreKeys p generated 1 100 archives).1 ≠ .crashed := by
  unfold registerPreKeys
  dsimp only
  rw [if_pos (by decide)]
  split
  · simp
  · split <;> simp

theorem requestPreKeys_waiting_iff (store : Bool) (username : String) (exchange : Exchange) (process : Process)
    (archives : Archives) :
    ((requestPreKeys p store username exchange process archives).1 = .waiting ↔ NoDictionary p exchange) ∧
      ((requestPreKeys p store username exchange process archives).1 = .crashed ↔ Traps p exchange) ∧
      ((requestPreKeys p store username exchange process archives).1 = .overrun ↔ store = true ∧ Unsigned p exchange) := by
  rw [← neither_iff]
  unfold requestPreKeys Traps Unsigned
  cases SignalServer.call p exchange with
  | neither => simp
  | failure error => cases error <;> simp
  | success dict =>
    dsimp only
    cases bundled : parseBundle p dict with
    | none => simp [bundled]
    | some bundle =>
      dsimp only
      cases fits : SessionPreKeyBundle.fits bundle with
      | false => simp [bundled, fits]
      | true =>
        cases store with
        | false => simp [bundled, fits]
        | true =>
          cases unsigned : SessionPreKeyBundle.unsigned bundle with
          | true => simp [bundled, fits, unsigned]
          | false => cases process bundle <;> simp [bundled, fits, unsigned]

theorem react_keeps (self : String) (archives : Archives) (task : Task) (completion : Completion verify)
    (heard : ¬ task.Silent p completion) :
    (task.react p self archives completion).stops = false ∧
      (task.react p self archives completion).told.length +
        Chain.owing Task.owed (task.react p self archives completion).started = task.owed := by
  cases task with
  | attributes => exact ⟨rfl, (invoked_once_iff ..).mpr heard⟩
  | keys => exact ⟨rfl, (invoked_once_iff ..).mpr heard⟩
  | accounts =>
    unfold Task.react
    rcases call_heard heard with ⟨dict, answered⟩ | ⟨error, answered⟩ <;> rw [answered]
    · have goes := @registerPreKeys_goes_on p verify completion.generated archives
      dsimp only
      cases registered : registerPreKeys p completion.generated 1 100 archives with
      | mk registering after =>
        rw [registered] at goes
        cases registering with
        | upload upload => exact ⟨rfl, rfl⟩
        | failure failure => exact ⟨rfl, rfl⟩
        | crashed => exact absurd rfl goes
    · exact ⟨rfl, rfl⟩
  | preKeys username resend =>
    obtain ⟨waiting, crashed, overrun⟩ :=
      @requestPreKeys_waiting_iff p completion.store username completion.exchange completion.process archives
    unfold Task.react
    dsimp only
    cases rebuilt : requestPreKeys p completion.store username completion.exchange completion.process archives with
    | mk rebuild after =>
      rw [rebuilt] at waiting crashed overrun
      cases rebuild with
      | waiting => exact absurd (.inl (waiting.mp rfl)) heard
      | crashed => exact absurd (.inr (.inl (crashed.mp rfl))) heard
      | overrun => exact absurd (.inr (.inr (overrun.mp rfl))) heard
      | failure failure => exact ⟨rfl, rfl⟩
      | built =>
        cases resend with
        | none => exact ⟨rfl, rfl⟩
        | some out => exact startSending_even ..
  | messages username messageTag decodeAndSave =>
    unfold Task.react
    rcases call_heard heard with ⟨dict, answered⟩ | ⟨error, answered⟩ <;> rw [answered]
    · exact ⟨rfl, by simp [owing_deletes, Task.owed]⟩
    · exact ⟨rfl, rfl⟩
  | pendingMessages username messageTag =>
    unfold Task.react
    rcases call_heard heard with ⟨dict, answered⟩ | ⟨error, answered⟩ <;> rw [answered]
    · exact ⟨rfl, by simp [owing_deletes, Task.owed]⟩
    · exact ⟨rfl, rfl⟩
  | send out =>
    unfold Task.react
    rcases call_heard heard with ⟨dict, answered⟩ | ⟨error, answered⟩ <;> rw [answered]
    · dsimp only
      split <;> exact ⟨rfl, rfl⟩
    · exact ⟨rfl, rfl⟩
  | delete urlPath => exact ⟨rfl, rfl⟩

theorem react_loses (self : String) (archives : Archives) (task : Task) (completion : Completion verify)
    (silent : task.Silent p completion) :
    (task.react p self archives completion).told = [] ∧ (task.react p self archives completion).started = [] ∧
      task.owed = 1 := by
  have neither : NoDictionary p completion.exchange → SignalServer.call p completion.exchange = .neither :=
    (neither_iff _).mpr
  cases task with
  | preKeys username resend =>
    obtain ⟨waiting, crashed, overrun⟩ :=
      @requestPreKeys_waiting_iff p completion.store username completion.exchange completion.process archives
    unfold Task.react
    dsimp only
    cases rebuilt : requestPreKeys p completion.store username completion.exchange completion.process archives with
    | mk rebuild after =>
      rw [rebuilt] at waiting crashed overrun
      rcases silent with unread | traps | unsigned
      · cases waiting.mpr unread
        exact ⟨rfl, rfl, rfl⟩
      · cases crashed.mpr traps
        exact ⟨rfl, rfl, rfl⟩
      · cases overrun.mpr unsigned
        exact ⟨rfl, rfl, rfl⟩
  | delete urlPath => exact absurd silent id
  | _ =>
    unfold Task.react
    rw [neither silent]
    exact ⟨rfl, rfl, rfl⟩

theorem ledger (p : Platform) (self : String) :
    Chain.Ledger (@Task.completed verify p self) Task.owed (fun _ => True)
      (fun _ task completion => task.Silent p completion) where
  keeps archives task completion _ heard := react_keeps self (completion.meanwhile archives) task completion heard
  loses archives task completion _ silent := react_loses self (completion.meanwhile archives) task completion silent
  starts _ _ _ _ _ _ := trivial

theorem start_owes_one (call : Call) (archives : Archives) :
    (Chain.begun (call.start p archives)).account Task.owed = 1 := by
  cases call with
  | register username draw =>
    unfold Call.start
    dsimp only
    cases SignalClient.register username draw archives with
    | mk result after =>
      cases result with
      | error failure => rfl
      | ok request => cases request <;> rfl
  | sendMessage out store encryption =>
    obtain ⟨goes, even⟩ := @startSending_even p out store encryption archives
    rw [Chain.account, Chain.begun, Call.start, goes]
    exact even
  | _ => rfl

/-- No completion of the run leaves the continuations of its task silent. -/
def Call.Heard (p : Platform) (self : String) (call : Call) (archives : Archives)
    (completions : List (Nat × Completion verify)) : Prop :=
  ∀ done completion task, done ++ [completion] <+: completions →
    (call.run p self archives done).waiting[completion.1]? = some task → ¬ task.Silent p completion.2

/-- A call of the server runs one continuation unless the body is JSON and no dictionary, and then the client's calls
    run one of theirs, once, as long as no such body, no id out of range and no empty signature comes up on the way. -/
theorem continuations_run_once_iff (p : Platform) :
    (∀ exchange, ((SignalServer.call p exchange).invoked Sum.inl Sum.inr).length = 1 ↔ ¬ NoDictionary p exchange) ∧
      ∀ (self : String) (call : Call) (archives : Archives) (completions : List (Nat × Completion verify)),
        (∀ done, done <+: completions → (call.run p self archives done).told.length ≤ 1) ∧
        ((call.run p self archives completions).waiting = [] →
          ((call.run p self archives completions).told.length = 1 ↔ call.Heard p self archives completions)) := by
  refine ⟨invoked_once_iff Sum.inl Sum.inr, fun self call archives completions => ⟨fun done _ => ?_, fun idle => ?_⟩⟩
  · have due := @start_owes_one p call archives
    have fit : ∀ task ∈ (Chain.begun (call.start p archives)).waiting, True := fun _ _ => trivial
    have least := ((@ledger verify p self).account_run fit done).1
    have told := (call.run p self archives done).told_le_account Task.owed
    rw [due] at least
    exact told.trans least
  · exact (@ledger verify p self).told_once_iff (fun _ _ => trivial) (start_owes_one call archives) completions idle

def completedWith (statusCode : Nat) (data : String) : Completion everySignature :=
  ⟨.answered statusCode data.toList, id, true, true, sampleKeys, fun _ => .ok [], .ciphertext [1] 1 [],
    fun _ => ⟨⟨.throws .other [], .throws .other [], .throws .other []⟩, 0⟩, 0⟩

def sampleOut : Outgoing := ⟨"bob", "hi", "", "", "chat", false⟩

def contactKeys (publicKey signature : String) (registrationId preKeyId signedPreKeyId : Int) : Dictionary :=
  [("devices", .arr [.obj [("deviceId", .num 1), ("registrationId", .num registrationId),
      ("preKey", .obj [("keyId", .num preKeyId), ("publicKey", .str publicKey)]),
      ("signedPreKey", .obj [("keyId", .num signedPreKeyId), ("publicKey", .str publicKey), ("signature", .str signature)])]]),
    ("identityKey", .str publicKey)]

def pointText : String := Platform.plain.base64.encode (5 :: List.replicate 32 65)

def keysWith (signature : String) : Completion everySignature :=
  { completedWith 200 "" with exchange := .answered 200 (JsonText.print (.obj (contactKeys pointText signature 2 3 4))) }

def resent : List (Nat × Completion everySignature) :=
  [(0, completedWith 200 "\x7b\"staleDevices\":[1]\x7d"), (0, keysWith "s"), (0, completedWith 200 "\x7b\x7d")]

theorem resent_steps :
    (List.range 4).map (fun i => ((Call.sendMessage sampleOut true (.ciphertext [1] 1 [])).run .plain "alice" noArchives
        (resent.take i)).waiting) = [[.send sampleOut], [.preKeys "bob" (some sampleOut)], [.send sampleOut], []] ∧
      SignalServer.call .plain (completedWith 200 "\x7b\"staleDevices\":[1]\x7d").exchange =
        .success [("staleDevices", .arr [.num 1])] ∧
      SignalServer.call .plain (completedWith 200 "\x7b\x7d").exchange = .success [] ∧
      SignalServer.call .plain (keysWith "s").exchange = .success (contactKeys pointText "s" 2 3 4) ∧
      parseBundle .plain (contactKeys pointText "s" 2 3 4) =
        some ⟨2, 3, 5 :: List.replicate 32 65, 4, 5 :: List.replicate 32 65, [115], 5 :: List.replicate 32 65⟩ := by
  decide +kernel

theorem resent_message_is_heard :
    ((Call.sendMessage sampleOut true (.ciphertext [1] 1 [])).run .plain "alice" noArchives resent).told.length = 1 := by
  obtain ⟨tasks, stale, accepted, keys, bundle⟩ := resent_steps
  have waits (i : Nat) (small : i < 4) := eq_getD_of_map_range tasks [] small
  have finished := waits 3 (by decide)
  rw [List.take_of_length_le (by decide)] at finished
  have once := ((@continuations_run_once_iff everySignature .plain).2 "alice"
    (.sendMessage sampleOut true (.ciphertext [1] 1 [])) noArchives resent).2 finished
  apply once.mpr
  intro done completion task below found silent
  obtain ⟨i, short, rfl, occurs⟩ := snoc_prefix_take below
  have size : resent.length = 3 := rfl
  rw [waits i (by omega)] at found
  clear below
  have places : i = 0 ∨ i = 1 ∨ i = 2 := by omega
  rcases places with rfl | rfl | rfl <;> cases occurs <;> cases found
  · cases stale.symm.trans ((neither_iff _).mpr silent)
  · simp only [Task.Silent, ← neither_iff, Traps, Unsigned, keys, CallResult.success.injEq, existsAndEq, true_and, bundle,
      Option.some.injEq] at silent
    rcases silent with unread | outside | ⟨_, _, unsigned⟩
    · cases unread
    · cases outside
    · cases unsigned
  · cases accepted.symm.trans ((neither_iff _).mpr silent)

/-- The server answers a list where a dictionary is expected, and the app waits for ever; and an empty signature of valid
    keys ends it. -/
theorem list_body_is_not_heard :
    SignalServer.call .plain (.answered 200 ['[', ']']) = .neither ∧
      ((Call.getContactMessages "bob" "chat" true).run .plain "alice" noArchives [(0, completedWith 200 "[]")]).waiting = [] ∧
      ((Call.getContactMessages "bob" "chat" true).run .plain "alice" noArchives [(0, completedWith 200 "[]")]).told = [] ∧
      ((Call.requestPreKeys "bob").run .plain "alice" noArchives [(0, keysWith "")]).waiting = [] ∧
      ((Call.requestPreKeys "bob").run .plain "alice" noArchives [(0, keysWith "")]).told = [] := by
  decide +kernel

end PillarSignal.Ios
