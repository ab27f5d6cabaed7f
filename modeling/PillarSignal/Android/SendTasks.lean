import PillarSignal.Android.Bridge

namespace PillarSignal.Android

open Storage SignalClient Reaction

variable {verify : Verify}

/-- What a message that is sent waits for: the server's time, the answer to its `PUT`, then, for stale devices, the
    server's time again and the new keys, and at last the `Runnable` that sends it once more. -/
inductive SendTask where
  | timestamp
  | put (timestamp : Int)
  | keysTimestamp
  | keys
  | retrySendMessage
deriving DecidableEq, Repr

structure SendState where
  files : Files
  encryptions : Nat
  puts : Nat
  saved : List Saved

abbrev SendReaction := Reaction SendState SendTask Settlement

namespace SendTask

variable (http : OkHttp) (server : SignalServer) (p : Platform) (out : Outgoing)

/-- The message is encrypted and put inside a `try`, so that a header that cannot be sent rejects the promise. -/
def timestampAnswered (response : Response) (encryption : Encryption) (state : SendState) : SendReaction :=
  let timestamp := p.json.optInt (ServerResponse.getResponseJSONObject p response) "timestamp" 0
  match prepareApiBody p out encryption state.files with
  | (.error e, files) =>
    if caughtSending e then telling [nativeFailed e] { state with files } else stopping { state with files }
  | (.ok _, files) =>
    let state := { state with files, encryptions := state.encryptions + 1 }
    if http.acceptsHeader server.authorization then starting [put timestamp] { state with puts := state.puts + 1 }
    else telling [nativeFailed .illegalArgument] state

def putAnswered (response : Response) (timestamp : Int) (state : SendState) : SendReaction :=
  if staleDevices p response then starting [keysTimestamp] state
  else
    let (settlement, files) := saveSentMessage p out.messageTag out.username out.messageString timestamp state.files
    telling [settlement]
      { state with files, saved := state.saved ++ [⟨sentEntry p out.messageString timestamp state.files, state.files⟩] }

/-- The retry has no promise to reject: its rejections are null pointers on the main thread, or are skipped. -/
def keysAnswered (rebuild : Rebuild) (state : SendState) : SendReaction :=
  match rebuild with
  | .built => starting [retrySendMessage] state
  | rebuild =>
    match rebuild.settle out.username false with
    | .ok settlement => telling settlement.toList state
    | .error _ => stopping state

def react (state : SendState) (task : SendTask) (answer : Answer verify) : SendReaction :=
  match task with
  | timestamp =>
    match answer.exchange with
    | .dropped => telling [] state
    | .failed => telling [nativeFailed .io] state
    | .answered response => timestampAnswered http server p out response answer.encryption state
  | put serverTime =>
    match answer.exchange with
    | .dropped => telling [] state
    | .failed => telling [serverFailed] state
    | .answered response => putAnswered p out response serverTime state
  | keysTimestamp =>
    match answer.exchange with
    | .dropped => telling [] state
    | .failed => keysAnswered out .serverFailed state
    | .answered _ =>
      if http.acceptsHeader server.authorization then starting [keys] state else stopping state
  | keys =>
    let (rebuild, files) := requestPreKeys p out.username answer.exchange answer.process state.files
    keysAnswered out rebuild { state with files }
  | retrySendMessage => starting [timestamp] state

def next (state : SendState) (task : SendTask) (event : Event verify) : SendReaction :=
  task.react http server p out { state with files := event.meanwhile state.files } event.toAnswer

def start (files : Files) : SendReaction :=
  if http.acceptsHost server.host then starting [timestamp] ⟨files, 0, 0, []⟩
  else telling [.reject none (.thrown .illegalArgument)] ⟨files, 0, 0, []⟩

def run (files : Files) (events : List (Nat × Event verify)) : Chain SendState SendTask Settlement :=
  (Chain.begun (start http server files)).run (next http server p out) events

end SendTask

def Sending.told (sending : Sending) : List Settlement :=
  match sending.settlement with
  | .ok settlement => settlement.toList
  | .error _ => []

def Round.events (other : Answer verify) (round : Round) : List (Nat × Event verify) :=
  [(0, ⟨{ other with exchange := round.timestamp, encryption := round.encryption }, id⟩),
    (0, ⟨{ other with exchange := round.put }, id⟩), (0, ⟨{ other with exchange := .answered ⟨200, none⟩ }, id⟩),
    (0, ⟨{ other with exchange := round.keys, process := round.process }, id⟩), (0, ⟨other, id⟩)]

def Round.renewal (other : Answer verify) (round : Round) : List (Nat × Event verify) :=
  [(0, ⟨{ other with exchange := .answered ⟨200, none⟩ }, id⟩),
    (0, ⟨{ other with exchange := round.keys, process := round.process }, id⟩), (0, ⟨other, id⟩)]

theorem Round.events_eq (other : Answer verify) (round : Round) :
    round.events other =
      (0, ⟨{ other with exchange := round.timestamp, encryption := round.encryption }, id⟩) ::
        (0, ⟨{ other with exchange := round.put }, id⟩) :: round.renewal other :=
  rfl

namespace SendTask

variable {http : OkHttp} {server : SignalServer} {p : Platform} {out : Outgoing}

theorem keysAnswered_unbuilt {rebuild : Rebuild} (unbuilt : rebuild ≠ .built) (state : SendState) :
    keysAnswered out rebuild state = telling [] state ∨ keysAnswered out rebuild state = stopping state := by
  cases rebuild with
  | built => exact absurd rfl unbuilt
  | waiting => exact .inl rfl
  | serverFailed => exact .inr rfl
  | noContact => exact .inr rfl
  | failed e =>
    cases caught : caughtRebuilding e with
    | true => exact .inl (by simp [keysAnswered, Rebuild.settle, caught])
    | false => exact .inr (by simp [keysAnswered, Rebuild.settle, caught])

theorem told_unpromised (username : String) (rebuild : Rebuild) (puts : List Exchange) (saved : Option Saved)
    (files : Files) : Sending.told ⟨rebuild.settle username false, puts, saved, files⟩ = [] := by
  cases rebuild with
  | failed e => cases caught : caughtRebuilding e <;> simp [Sending.told, Rebuild.settle, caught]
  | _ => rfl

theorem run_renewal (accepted : http.acceptsHeader server.authorization = true) (other : Answer verify) (round : Round)
    (later : List (Nat × Event verify)) (state : SendState) :
    let rebuilt := requestPreKeys p out.username round.keys round.process state.files
    (⟨state, [keysTimestamp], []⟩ : Chain SendState SendTask Settlement).run (next http server p out)
        (round.renewal other ++ later) =
      (⟨{ state with files := rebuilt.2 }, if rebuilt.1 = .built then [timestamp] else [], []⟩ :
        Chain SendState SendTask Settlement).run (next http server p out) later := by
  intro rebuilt
  rw [Round.renewal, List.cons_append, Chain.run_cons, Chain.answer_single]
  dsimp only [next, react, id]
  rw [if_pos accepted, Chain.begun_starting, List.cons_append, Chain.run_cons, Chain.answer_single]
  dsimp only [next, react, id]
  by_cases built : rebuilt.1 = .built
  · rw [if_pos built, show (requestPreKeys p out.username round.keys round.process state.files).1 = .built from built,
      keysAnswered, Chain.begun_starting, List.cons_append, Chain.run_cons, Chain.answer_single]
    rfl
  · have silent : Chain.begun (keysAnswered out rebuilt.1 { state with files := rebuilt.2 }) =
        ⟨{ state with files := rebuilt.2 }, [], []⟩ := by
      rcases keysAnswered_unbuilt built _ with same | same <;> rw [same] <;> rfl
    rw [if_neg built]
    exact (congrArg (Chain.run _ · _) silent).trans
      ((Chain.run_of_idle rfl _).trans (Chain.run_of_idle rfl later).symm)

/-- Without interruptions the tasks of a message do what `sendMessage` does. -/
theorem run_sendMessage (accepted : http.acceptsHeader server.authorization = true) (other : Answer verify)
    (rounds : List Round) (state : SendState) :
    let chain := (⟨state, [timestamp], []⟩ : Chain SendState SendTask Settlement).run (next http server p out)
      (rounds.flatMap (Round.events other))
    let sending := sendMessage p out rounds state.files
    chain.told = sending.told ∧ chain.state.files = sending.files ∧
      chain.state.saved = state.saved ++ sending.saved.toList ∧ chain.state.puts = state.puts + sending.puts.length := by
  induction rounds generalizing state with
  | nil => exact ⟨rfl, rfl, by simp [sendMessage, Chain.run], rfl⟩
  | cons round rounds ih =>
    rw [List.flatMap_cons, Round.events_eq, sendMessage, List.cons_append, Chain.run_cons, Chain.answer_single]
    dsimp only [next, react, id]
    cases round.timestamp with
    | dropped =>
      rw [Chain.begun_telling, Chain.run_of_idle rfl]
      exact ⟨rfl, rfl, by simp, rfl⟩
    | failed =>
      rw [Chain.begun_telling, Chain.run_of_idle rfl]
      exact ⟨rfl, rfl, by simp, rfl⟩
    | answered response =>
      dsimp only [timestampAnswered]
      cases prepareApiBody p out round.encryption state.files with
      | mk body prepared =>
        cases body with
        | error e =>
          dsimp only
          by_cases caught : caughtSending e = true
          · rw [if_pos caught, if_pos caught, Chain.begun_telling, Chain.run_of_idle rfl]
            exact ⟨rfl, rfl, by simp, rfl⟩
          · rw [if_neg caught, if_neg caught, Chain.begun_stopping, Chain.run_of_idle rfl]
            exact ⟨rfl, rfl, by simp, rfl⟩
        | ok request =>
          dsimp only
          rw [if_pos accepted, Chain.begun_starting, List.cons_append, Chain.run_cons, Chain.answer_single]
          dsimp only [next, react, id]
          cases round.put with
          | dropped =>
            rw [Chain.begun_telling, Chain.run_of_idle rfl]
            exact ⟨rfl, rfl, by simp, rfl⟩
          | failed =>
            rw [Chain.begun_telling, Chain.run_of_idle rfl]
            exact ⟨rfl, rfl, by simp, rfl⟩
          | answered reply =>
            dsimp only [putAnswered]
            by_cases stale : staleDevices p reply = true
            · rw [if_pos stale, if_pos stale, Chain.begun_starting, run_renewal accepted]
              dsimp only
              cases requestPreKeys p out.username round.keys round.process prepared with
              | mk rebuild rebuilt =>
                by_cases built : rebuild = .built
                · subst built
                  obtain ⟨told, after, saved, puts⟩ :=
                    ih ⟨rebuilt, state.encryptions + 1, state.puts + 1, state.saved⟩
                  refine ⟨told, after, saved, puts.trans ?_⟩
                  dsimp only
                  rw [List.length_cons]
                  omega
                · rw [if_neg built, Chain.run_of_idle rfl]
                  cases rebuild with
                  | built => exact absurd rfl built
                  | _ => exact ⟨(told_unpromised ..).symm, rfl, by simp, rfl⟩
            · rw [if_neg stale, if_neg stale]
              dsimp only
              rw [Chain.begun_telling, Chain.run_of_idle rfl]
              exact ⟨rfl, rfl, by simp, rfl⟩

end SendTask
end PillarSignal.Android
