import PillarSignal.Delivery.Exchange
import PillarSignal.Libsignal.SessionInvariant

namespace PillarSignal.Libsignal

open Delivery

def limits : Limits := ⟨MAX_RECEIVER_CHAINS, MAX_MESSAGE_KEYS, 2000, by decide⟩

theorem limits_reach : limits.reach = 2000 := rfl

/-- What two parties have agreed on: the secret that they start from, the ratchet key pairs in the
    order in which they took effect, and the identity of each party. -/
structure Agreement where
  secret : Bytes
  keys : Nat → EcKeyPair
  identity : Role → EcPublicKey

namespace Agreement

variable (provider : Provider) (agreement : Agreement)

/-- The root key that an epoch ends with, and the first key of its chain. -/
def derived : Nat → RootKey × ChainKey
  | 0 => ratchetingSessionCalculateDerivedKeys provider agreement.secret
  | epoch + 1 => (derived epoch).1.createChain provider (agreement.keys epoch).publicKey (agreement.keys (epoch + 1)).privateKey

def chainKey (epoch counter : Nat) : ChainKey := (agreement.derived provider epoch).2.advance provider counter

def messageKeys (epoch counter : Nat) : MessageKeys := (agreement.chainKey provider epoch counter).getMessageKeys provider

/-- The chain that a window is kept as. -/
def receiverChain (entry : Nat × Window limits) : ReceiverChain where
  senderRatchetKey := some (agreement.keys entry.1).publicKey
  chainKey := some (agreement.chainKey provider entry.1 entry.2.next)
  messageKeys := entry.2.kept.map (agreement.messageKeys provider entry.1)

def draw (epoch : Nat) (pair : EcKeyPair) : Agreement := { agreement with keys := Function.update agreement.keys epoch pair }

/-- The pairs up to an epoch are key pairs, and different ones. -/
structure Sound (last : Nat) : Prop where
  valid : ∀ epoch ≤ last, (agreement.keys epoch).Valid provider
  distinct : ∀ first ≤ last, ∀ second ≤ last,
    (agreement.keys first).publicKey = (agreement.keys second).publicKey → first = second

variable {provider agreement}

theorem Sound.mono {last less : Nat} (sound : agreement.Sound provider last) (fewer : less ≤ last) :
    agreement.Sound provider less :=
  ⟨fun epoch below => sound.valid epoch (Nat.le_trans below fewer), fun first one second two =>
    sound.distinct first (Nat.le_trans one fewer) second (Nat.le_trans two fewer)⟩

theorem draw_keys_of_lt {epoch other : Nat} (before : other < epoch) (pair : EcKeyPair) :
    (agreement.draw epoch pair).keys other = agreement.keys other := Function.update_of_ne (Nat.ne_of_lt before) ..

@[simp] theorem draw_keys_self (epoch : Nat) (pair : EcKeyPair) : (agreement.draw epoch pair).keys epoch = pair :=
  Function.update_self ..

theorem Sound.draw {last : Nat} (sound : agreement.Sound provider last) {pair : EcKeyPair} (valid : pair.Valid provider)
    (fresh : ∀ epoch ≤ last, (agreement.keys epoch).publicKey ≠ pair.publicKey) :
    (agreement.draw (last + 1) pair).Sound provider (last + 1) := by
  have split : ∀ epoch ≤ last + 1, epoch = last + 1 ∨ epoch ≤ last := by
    intro epoch below
    omega
  have old : ∀ epoch ≤ last, (agreement.draw (last + 1) pair).keys epoch = agreement.keys epoch := fun epoch below =>
    draw_keys_of_lt (by omega) pair
  refine ⟨?_, ?_⟩
  · intro epoch below
    rcases split epoch below with rfl | earlier
    · rw [draw_keys_self]
      exact valid
    · rw [old epoch earlier]
      exact sound.valid epoch earlier
  · intro first one second two same
    rcases split first one with rfl | before <;> rcases split second two with rfl | earlier
    · rfl
    · rw [draw_keys_self, old second earlier] at same
      exact absurd same.symm (fresh second earlier)
    · rw [draw_keys_self, old first before] at same
      exact absurd same (fresh first before)
    · rw [old first before, old second earlier] at same
      exact sound.distinct first before second earlier same

theorem derived_draw {epoch other : Nat} (before : other < epoch) (pair : EcKeyPair) :
    (agreement.draw epoch pair).derived provider other = agreement.derived provider other := by
  induction other with
  | zero => rfl
  | succ other ih =>
    rw [derived, derived, ih (by omega), draw_keys_of_lt (by omega), draw_keys_of_lt before]

theorem receiverChain_draw {epoch : Nat} {entry : Nat × Window limits} (before : entry.1 < epoch) (pair : EcKeyPair) :
    (agreement.draw epoch pair).receiverChain provider entry = agreement.receiverChain provider entry := by
  have chains : ∀ counter, (agreement.draw epoch pair).chainKey provider entry.1 counter =
      agreement.chainKey provider entry.1 counter := by
    intro counter
    rw [chainKey, chainKey, derived_draw before]
  have keys : (agreement.draw epoch pair).messageKeys provider entry.1 = agreement.messageKeys provider entry.1 := by
    funext counter
    rw [messageKeys, messageKeys, chains]
  rw [receiverChain, receiverChain, chains, keys, draw_keys_of_lt before]

theorem derived_index (epoch : Nat) : (agreement.derived provider epoch).2.index = 0 := by
  cases epoch <;> rfl

theorem chainKey_index (epoch counter : Nat) : (agreement.chainKey provider epoch counter).index = UInt32.ofNat counter := by
  rw [chainKey, ChainKey.advance_index, derived_index, UInt32.zero_add]

@[simp] theorem messageKeys_counter (epoch counter : Nat) :
    (agreement.messageKeys provider epoch counter).counter = UInt32.ofNat counter := chainKey_index ..

theorem chainKey_createNext (epoch counter : Nat) :
    (agreement.chainKey provider epoch counter).createNext provider = agreement.chainKey provider epoch (counter + 1) := rfl

theorem chainKey_zero (epoch : Nat) : agreement.chainKey provider epoch 0 = (agreement.derived provider epoch).2 := rfl

/-- The party that receives the first message of an epoch derives the same keys as the one that started it. -/
theorem derived_succ {last epoch : Nat} (sound : agreement.Sound provider last) (within : epoch + 1 ≤ last) :
    (agreement.derived provider epoch).1.createChain provider (agreement.keys (epoch + 1)).publicKey
      (agreement.keys epoch).privateKey = agreement.derived provider (epoch + 1) := by
  rw [derived, RootKey.createChain_comm _ (sound.valid epoch (by omega)) (sound.valid (epoch + 1) within)]

end Agreement

/-- A session state that holds what one party knows of the agreement. -/
structure Represents (provider : Provider) (agreement : Agreement) (role : Role) (side : Side limits) (state : SessionState) :
    Prop where
  version : state.sessionVersion = 3
  localIdentity : state.localIdentityPublic = some (agreement.identity role)
  remoteIdentity : state.remoteIdentityPublic = some (agreement.identity role.other)
  rootKey : state.rootKey = some (agreement.derived provider side.epoch).1
  senderChain : state.senderChain =
    some ⟨some (agreement.keys side.epoch), some (agreement.chainKey provider side.epoch side.sent)⟩
  receiverChains : state.receiverChains = side.windows.map (agreement.receiverChain provider)

theorem ReceiverChain.isFor_iff {key : EcPublicKey} {chain : ReceiverChain} :
    chain.isFor key = true ↔ chain.senderRatchetKey = some key := by
  rw [isFor, beq_iff_eq]

variable {provider : Provider} {agreement : Agreement} {role : Role} {side : Side limits} {state : SessionState}

theorem epoch_lt_of_mem_windows {entry : Nat × Window limits} (member : entry ∈ side.windows) : entry.1 < side.epoch := by
  have followed : entry.1 ∈ side.windows.map Prod.fst := List.mem_map_of_mem member
  rw [side.followed] at followed
  exact (mem_recent.mp followed).1

theorem isFor_receiverChain {last : Nat} (sound : agreement.Sound provider last) (begun : side.epoch ≤ last) {epoch : Nat}
    (within : epoch ≤ last) {entry : Nat × Window limits} (member : entry ∈ side.windows) :
    (agreement.receiverChain provider entry).isFor (agreement.keys epoch).publicKey = (entry.1 == epoch) := by
  have before := epoch_lt_of_mem_windows member
  rw [Bool.eq_iff_iff, ReceiverChain.isFor_iff, beq_iff_eq, Agreement.receiverChain, Option.some.injEq]
  exact ⟨sound.distinct _ (by omega) _ within, fun same => by rw [same]⟩

def ReceiverChain.skip (provider : Provider) (chainKey : ChainKey) (rounds : Nat) (chain : ReceiverChain) : ReceiverChain :=
  { chain with
    messageKeys := pushAll MAX_MESSAGE_KEYS chain.messageKeys
      ((List.range rounds).map fun place => (chainKey.advance provider place).getMessageKeys provider) }

theorem SessionState.changeReceiverChain_changeReceiverChain (senderEphemeral : EcPublicKey)
    {first : ReceiverChain → ReceiverChain} (kept : ∀ chain, (first chain).senderRatchetKey = chain.senderRatchetKey)
    (second : ReceiverChain → ReceiverChain) (state : SessionState) :
    (state.changeReceiverChain senderEphemeral first).changeReceiverChain senderEphemeral second =
      state.changeReceiverChain senderEphemeral fun chain => second (first chain) := by
  have found : ∀ chain : ReceiverChain, chain.isFor senderEphemeral = true → (first chain).isFor senderEphemeral = true := by
    intro chain here
    rw [ReceiverChain.isFor, kept]
    exact here
  rw [changeReceiverChain, changeReceiverChain, changeReceiverChain, modifyFirst_modifyFirst found]

theorem skipMessageKeys_eq (theirEphemeral : EcPublicKey) (rounds : Nat) (chainKey : ChainKey) (state : SessionState) :
    SessionCipher.skipMessageKeys provider theirEphemeral rounds chainKey state =
      (chainKey.advance provider rounds, state.changeReceiverChain theirEphemeral (ReceiverChain.skip provider chainKey rounds)) := by
  induction rounds generalizing chainKey state with
  | zero =>
    rw [SessionCipher.skipMessageKeys, SessionState.changeReceiverChain]
    have nothing : ReceiverChain.skip provider chainKey 0 = fun chain => chain := rfl
    rw [nothing, modifyFirst_id]
    rfl
  | succ rounds ih =>
    have next : ∀ count, (chainKey.createNext provider).advance provider count = chainKey.advance provider (count + 1) := by
      intro count
      rw [Nat.add_comm, ← ChainKey.advance_advance]
      rfl
    have kept : ∀ chain, (ReceiverChain.appendMessageKeys (chainKey.getMessageKeys provider) chain).senderRatchetKey =
        chain.senderRatchetKey := fun _ => rfl
    rw [SessionCipher.skipMessageKeys, ih, next, SessionState.setMessageKeys,
      SessionState.changeReceiverChain_changeReceiverChain _ kept]
    congr 2
    funext chain
    rw [ReceiverChain.skip, ReceiverChain.skip, ReceiverChain.appendMessageKeys, List.range_succ_eq_map, List.map_cons,
      List.map_map, pushAll_cons]
    simp only [next]
    rfl

theorem receiverChain_skipTo {epoch : Nat} {window : Window limits} {counter : Nat} (ahead : window.next ≤ counter) :
    agreement.receiverChain provider (epoch, window.skipTo counter ahead) =
      { (agreement.receiverChain provider (epoch, window)).skip provider (agreement.chainKey provider epoch window.next)
          (counter - window.next) with chainKey := some (agreement.chainKey provider epoch (counter + 1)) } := by
  have keys : (List.range' window.next (counter - window.next)).map (agreement.messageKeys provider epoch) =
      (List.range (counter - window.next)).map fun place =>
        ((agreement.chainKey provider epoch window.next).advance provider place).getMessageKeys provider := by
    rw [List.range'_eq_map_range, List.map_map]
    refine List.map_congr_left fun place _ => ?_
    rw [Agreement.chainKey, ChainKey.advance_advance]
    rfl
  rw [Agreement.receiverChain, ReceiverChain.skip, Agreement.receiverChain]
  dsimp only
  rw [Window.skipTo, map_pushAll, keys]
  rfl

theorem ofNat_inj {first second : Nat} (one : first < 2 ^ 32) (two : second < 2 ^ 32) :
    UInt32.ofNat first = UInt32.ofNat second ↔ first = second := by
  rw [← UInt32.toNat_inj, UInt32.toNat_ofNat', UInt32.toNat_ofNat', Nat.mod_eq_of_lt one, Nat.mod_eq_of_lt two]

theorem ofNat_lt {first second : Nat} (one : first < 2 ^ 32) (two : second < 2 ^ 32) :
    UInt32.ofNat first < UInt32.ofNat second ↔ first < second := by
  rw [UInt32.lt_iff_toNat_lt, UInt32.toNat_ofNat', UInt32.toNat_ofNat', Nat.mod_eq_of_lt one, Nat.mod_eq_of_lt two]

theorem ofNat_sub {first second : Nat} (less : first ≤ second) (two : second < 2 ^ 32) :
    UInt32.ofNat second - UInt32.ofNat first = UInt32.ofNat (second - first) := by
  rw [← UInt32.toNat_inj, UInt32.toNat_sub, UInt32.toNat_ofNat', UInt32.toNat_ofNat', UInt32.toNat_ofNat']
  omega

theorem counter_beq {epoch first second : Nat} (one : first < 2 ^ 32) (two : second < 2 ^ 32) :
    ((agreement.messageKeys provider epoch first).counter == UInt32.ofNat second) = (first == second) := by
  rw [Bool.eq_iff_iff, beq_iff_eq, beq_iff_eq, Agreement.messageKeys_counter, ofNat_inj one two]

theorem eraseP_counter {epoch counter : Nat} (small : counter < 2 ^ 32) {kept : List Nat} (below : ∀ other ∈ kept, other < 2 ^ 32) :
    (kept.map (agreement.messageKeys provider epoch)).eraseP (fun keys => keys.counter == UInt32.ofNat counter) =
      (kept.erase counter).map (agreement.messageKeys provider epoch) := by
  induction kept with
  | nil => rfl
  | cons first kept ih =>
    have rest := ih fun other member => below other (List.mem_cons_of_mem _ member)
    rw [List.map_cons, List.eraseP_cons, counter_beq (below first List.mem_cons_self) small, List.erase_cons, rest]
    by_cases same : first = counter
    · rw [beq_iff_eq.mpr same, cond_true, if_pos rfl]
    · rw [beq_eq_false_iff_ne.mpr same, cond_false, if_neg (by simp), List.map_cons]

theorem find?_counter {epoch counter : Nat} (small : counter < 2 ^ 32) {kept : List Nat} (below : ∀ other ∈ kept, other < 2 ^ 32) :
    (kept.map (agreement.messageKeys provider epoch)).find? (fun keys => keys.counter == UInt32.ofNat counter) =
      if counter ∈ kept then some (agreement.messageKeys provider epoch counter) else none := by
  induction kept with
  | nil => rfl
  | cons first kept ih =>
    have rest := ih fun other member => below other (List.mem_cons_of_mem _ member)
    rw [List.map_cons, List.find?_cons, counter_beq (below first List.mem_cons_self) small, rest]
    by_cases same : first = counter
    · simp [same]
    · rw [beq_eq_false_iff_ne.mpr same]
      simp [Ne.symm same]

def errorOf : Refusal → SgErr
  | .duplicate => .duplicateMessage
  | .distant => .invalidMessage
  | .stray => .invalidMessage

theorem SessionState.findReceiverChain_change {state : SessionState} {senderEphemeral : EcPublicKey}
    {change : ReceiverChain → ReceiverChain} (kept : ∀ chain, (change chain).senderRatchetKey = chain.senderRatchetKey) :
    (state.changeReceiverChain senderEphemeral change).findReceiverChain senderEphemeral =
      (state.findReceiverChain senderEphemeral).map change := by
  refine find?_modifyFirst_self ?_ state.receiverChains
  intro chain here
  rw [ReceiverChain.isFor, kept]
  exact here

namespace Represents

theorem findReceiverChain_eq (represents : Represents provider agreement role side state) {last : Nat}
    (sound : agreement.Sound provider last) (begun : side.epoch ≤ last) {epoch : Nat} (within : epoch ≤ last) :
    state.findReceiverChain (agreement.keys epoch).publicKey =
      (side.find epoch).map fun window => agreement.receiverChain provider (epoch, window) := by
  have same := @find?_congr_of_mem _ (fun entry => (agreement.receiverChain provider entry).isFor (agreement.keys epoch).publicKey)
    (fun entry => entry.1 == epoch) side.windows fun entry member => isFor_receiverChain sound begun within member
  rw [SessionState.findReceiverChain, represents.receiverChains, List.find?_map, Side.find]
  change Option.map _ (side.windows.find? fun entry =>
    (agreement.receiverChain provider entry).isFor (agreement.keys epoch).publicKey) = _
  rw [same]
  cases found : side.windows.find? fun entry => entry.1 == epoch with
  | none => rfl
  | some entry =>
    have here : entry.1 = epoch := by simpa using List.find?_some found
    subst here
    rfl

theorem changeReceiverChain_eq (represents : Represents provider agreement role side state) {last : Nat}
    (sound : agreement.Sound provider last) (begun : side.epoch ≤ last) {epoch : Nat} (within : epoch ≤ last)
    {window changed : Window limits} (found : side.find epoch = some window) {change : ReceiverChain → ReceiverChain}
    (changes : change (agreement.receiverChain provider (epoch, window)) = agreement.receiverChain provider (epoch, changed)) :
    state.changeReceiverChain (agreement.keys epoch).publicKey change =
      { state with receiverChains := (side.replace epoch changed).windows.map (agreement.receiverChain provider) } := by
  have chains : (side.replace epoch changed).windows.map (agreement.receiverChain provider) =
      modifyFirst (ReceiverChain.isFor (agreement.keys epoch).publicKey) change
        (side.windows.map (agreement.receiverChain provider)) := by
    refine map_modifyFirst (fun entry member => isFor_receiverChain sound begun within member) ?_
    intro entry member here
    have here : entry.1 = epoch := by simpa using here
    subst here
    have there : side.find entry.1 = some entry.2 := Side.find_eq_some_iff.mpr member
    rw [found, Option.some.injEq] at there
    subst there
    exact changes.symm
  rw [SessionState.changeReceiverChain, represents.receiverChains, chains]

section

variable (represents : Represents provider agreement role side state) {last : Nat} (sound : agreement.Sound provider last)
  (begun : side.epoch ≤ last) {epoch : Nat} (within : epoch ≤ last) {window : Window limits}
  (found : side.find epoch = some window) (bounded : window.next < 2 ^ 32) {counter : Nat} (small : counter < 2 ^ 32)

include represents sound begun within found bounded small

theorem removeMessageKeys_eq : state.removeMessageKeys (agreement.keys epoch).publicKey (UInt32.ofNat counter) =
    if counter ∈ window.kept then some (agreement.messageKeys provider epoch counter,
      { state with receiverChains := (side.replace epoch (window.take counter)).windows.map (agreement.receiverChain provider) })
    else none := by
  have below : ∀ other ∈ window.kept, other < 2 ^ 32 := fun other member => by
    have := window.below other member
    omega
  have taken : (agreement.receiverChain provider (epoch, window)).deleteMessageKeys (UInt32.ofNat counter) =
      agreement.receiverChain provider (epoch, window.take counter) := by
    rw [ReceiverChain.deleteMessageKeys, Agreement.receiverChain]
    dsimp only
    rw [eraseP_counter small below]
    rfl
  have change := represents.changeReceiverChain_eq sound begun within found taken
  rw [SessionState.removeMessageKeys, represents.findReceiverChain_eq sound begun within, found, Option.map_some,
    Option.bind_some, Agreement.receiverChain]
  dsimp only
  rw [find?_counter small below, change]
  split <;> rfl

theorem getOrCreateMessageKeys_of_accept {changed : Window limits} (accepted : window.accept counter = .ok changed) :
    SessionCipher.getOrCreateMessageKeys provider state (agreement.keys epoch).publicKey
        (agreement.chainKey provider epoch window.next) (UInt32.ofNat counter) =
      .ok (agreement.messageKeys provider epoch counter,
        { state with receiverChains := (side.replace epoch changed).windows.map (agreement.receiverChain provider) }) := by
  rw [SessionCipher.getOrCreateMessageKeys, Agreement.chainKey_index]
  rcases Window.accept_cases accepted with ⟨ahead, near, rfl⟩ | ⟨kept, rfl⟩
  · have onward : ¬ UInt32.ofNat window.next > UInt32.ofNat counter := by
      rw [gt_iff_lt, ofNat_lt small bounded]
      omega
    have reached : ¬ UInt32.ofNat (counter - window.next) > 2000 := by
      rw [limits_reach] at near
      change ¬ UInt32.ofNat 2000 < UInt32.ofNat (counter - window.next)
      rw [ofNat_lt (by decide) (by omega)]
      omega
    have rounds : (UInt32.ofNat (counter - window.next)).toNat = counter - window.next := by
      rw [UInt32.toNat_ofNat', Nat.mod_eq_of_lt (by omega)]
    have current : (agreement.chainKey provider epoch window.next).advance provider (counter - window.next) =
        agreement.chainKey provider epoch counter := by
      rw [Agreement.chainKey, ChainKey.advance_advance, Nat.add_sub_of_le ahead, Agreement.chainKey]
    have kept : ∀ chain : ReceiverChain, (chain.skip provider (agreement.chainKey provider epoch window.next)
        (counter - window.next)).senderRatchetKey = chain.senderRatchetKey := fun _ => rfl
    have there : (state.changeReceiverChain (agreement.keys epoch).publicKey (ReceiverChain.skip provider
        (agreement.chainKey provider epoch window.next) (counter - window.next))).findReceiverChain
        (agreement.keys epoch).publicKey = some ((agreement.receiverChain provider (epoch, window)).skip provider
          (agreement.chainKey provider epoch window.next) (counter - window.next)) := by
      rw [SessionState.findReceiverChain_change kept, represents.findReceiverChain_eq sound begun within, found]
      rfl
    have change : state.changeReceiverChain (agreement.keys epoch).publicKey (fun chain =>
        { chain.skip provider (agreement.chainKey provider epoch window.next) (counter - window.next) with
          chainKey := some (agreement.chainKey provider epoch (counter + 1)) }) =
        { state with
          receiverChains := (side.replace epoch (window.skipTo counter ahead)).windows.map (agreement.receiverChain provider) } :=
      represents.changeReceiverChain_eq sound begun within found (receiverChain_skipTo ahead).symm
    rw [if_neg onward, ofNat_sub ahead small, if_neg reached, rounds, skipMessageKeys_eq]
    dsimp only
    rw [current, Agreement.chainKey_createNext, SessionState.setReceiverChainKey, there]
    dsimp only
    rw [SessionState.changeReceiverChain_changeReceiverChain _ kept, change]
    rfl
  · have behind : UInt32.ofNat window.next > UInt32.ofNat counter := by
      rw [gt_iff_lt, ofNat_lt small bounded]
      exact window.below counter kept
    rw [if_pos behind, represents.removeMessageKeys_eq sound begun within found bounded small, if_pos kept]

theorem getOrCreateMessageKeys_of_refusal {refusal : Refusal} (refused : window.accept counter = .error refusal) :
    SessionCipher.getOrCreateMessageKeys provider state (agreement.keys epoch).publicKey
        (agreement.chainKey provider epoch window.next) (UInt32.ofNat counter) = .error (errorOf refusal) := by
  rw [SessionCipher.getOrCreateMessageKeys, Agreement.chainKey_index]
  unfold Window.accept at refused
  split at refused
  next ahead =>
    split at refused
    next => cases refused
    next distant =>
      cases refused
      rw [limits_reach] at distant
      have onward : ¬ UInt32.ofNat window.next > UInt32.ofNat counter := by
        rw [gt_iff_lt, ofNat_lt small bounded]
        omega
      have beyond : UInt32.ofNat (counter - window.next) > 2000 := by
        change UInt32.ofNat 2000 < UInt32.ofNat (counter - window.next)
        rw [ofNat_lt (by decide) (by omega)]
        omega
      rw [if_neg onward, ofNat_sub ahead small, if_pos beyond]
      rfl
  next behind =>
    split at refused
    next => cases refused
    next spent =>
      cases refused
      have old : UInt32.ofNat window.next > UInt32.ofNat counter := by
        rw [gt_iff_lt, ofNat_lt small bounded]
        omega
      rw [if_pos old, represents.removeMessageKeys_eq sound begun within found bounded small, if_neg spent]
      rfl

end

end Represents

end PillarSignal.Libsignal
