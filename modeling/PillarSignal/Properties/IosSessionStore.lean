import PillarSignal.Ios.ProtocolStorage
import PillarSignal.Storage.Run

namespace PillarSignal.Ios

open Storage ProtocolStorage DownloadsType

abbrev Sessions := List (SignalProtocolAddress × (Bytes × Option Bytes))

inductive Returned where
  | done (result : Bool)
  | deleted (result : Option Bool)
  | number (result : Option Nat)
deriving DecidableEq, Repr

inductive SessionOperation where
  | store (session : Bytes) (address : SignalProtocolAddress) (userRecord : Option Bytes)
  | deleteSession (address : SignalProtocolAddress)
  | deleteAllSessions (name : String)
deriving DecidableEq

namespace SessionOperation

-- `store` and `deleteSession` return `true` whatever there was
def run (p : Platform) : SessionOperation → Archives → Returned × Archives
  | store session address userRecord, archives =>
    (.done true, SessionStorePillar.storeSession p session address userRecord archives)
  | deleteSession address, archives => (.deleted (some true), SessionStorePillar.deleteSession address archives)
  | deleteAllSessions name, archives =>
    let (number, archives) := SessionStorePillar.deleteAllSessions name archives
    (.number number, archives)

def apply : SessionOperation → Sessions → Returned × Sessions
  | store session address userRecord, sessions => (.done true, put address (session, userRecord) sessions)
  | deleteSession address, sessions => (.deleted (some (sessions.lookup address).isSome), erase address sessions)
  | deleteAllSessions name, sessions =>
    (.number (some (sessions.filter fun row => row.1.name = name).length), sessions.filter fun row => row.1.name ≠ name)

def runs (p : Platform) (operations : List SessionOperation) (archives : Archives) : Archives :=
  operations.foldl (fun archives operation => (operation.run p archives).2) archives

def applies (operations : List SessionOperation) (sessions : Sessions) : Sessions :=
  operations.foldl (fun sessions operation => (operation.apply sessions).2) sessions

def Within (used : SignalProtocolAddress → Prop) : SessionOperation → Prop
  | store _ address _ | deleteSession address => used address
  | deleteAllSessions _ => True

/-- The name alone tells which session is meant, and there is something to delete. -/
def Fits (used : SignalProtocolAddress → Prop) (archives : Archives) : SessionOperation → Prop
  | store _ address _ => ∀ other, used other → other.name = address.name → other = address
  | deleteSession address => SessionStorePillar.containsSession address archives = true
  | deleteAllSessions name =>
    ∀ other, used other → SessionStorePillar.containsSession other archives = true → other.name = name

end SessionOperation

variable {p : Platform} {used : SignalProtocolAddress → Prop} {archives : Archives} {sessions : Sessions}

def Answers (p : Platform) (used : SignalProtocolAddress → Prop) (archives : Archives) (sessions : Sessions) : Prop :=
  ∀ address, used address →
    SessionStorePillar.loadSession p address archives = sessions.lookup address ∧
      SessionStorePillar.containsSession address archives = (sessions.lookup address).isSome

def sessionOf (p : Platform) (value : Json) : Option (Bytes × Option Bytes) := do
  let data ← asDictionary value
  let session ← p.base64.decode (← (data.lookup "session").bind asString)
  pure (session, ((data.lookup "userRecord").bind asString).bind p.base64.decode)

theorem loadSession_eq (address : SignalProtocolAddress) (archives : Archives) :
    SessionStorePillar.loadSession p address archives =
      ((get SESSIONS_JSON_FILENAME archives).lookup address.name).bind (sessionOf p) := by
  unfold SessionStorePillar.loadSession
  cases (get SESSIONS_JSON_FILENAME archives).lookup address.name with
  | none => rfl
  | some value => cases value <;> rfl

/-- The dictionary holds the sessions, and an address in use that shares the name of one is its own. -/
structure Mirrors (p : Platform) (used : SignalProtocolAddress → Prop) (archives : Archives) (sessions : Sessions) : Prop where
  coded : Codes SignalProtocolAddress.name (sessionOf p) sessions (get SESSIONS_JSON_FILENAME archives)
  distinct : (sessions.map Prod.fst).Nodup
  within : ∀ row ∈ sessions, used row.1
  alone : ∀ row ∈ sessions, ∀ other, used other → other.name = row.1.name → other = row.1

theorem Mirrors.named (mirrors : Mirrors p used archives sessions) {address : SignalProtocolAddress} (own : used address) :
    ∀ row ∈ sessions, row.1.name = address.name → row.1 = address :=
  fun row member same => (mirrors.alone row member address own same.symm).symm

theorem Mirrors.answers (mirrors : Mirrors p used archives sessions) : Answers p used archives sessions := by
  intro address own
  rw [loadSession_eq, SessionStorePillar.containsSession]
  exact mirrors.coded.lookup (mirrors.named own)

theorem Mirrors.count (mirrors : Mirrors p used archives sessions) :
    (get SESSIONS_JSON_FILENAME archives).count = sessions.length := by
  have apart : ((sessions.map Prod.fst).map SignalProtocolAddress.name).Nodup := by
    apply List.Nodup.map_on _ mirrors.distinct
    intro first held second other same
    obtain ⟨row, member, rfl⟩ := List.mem_map.mp held
    obtain ⟨later, stored, rfl⟩ := List.mem_map.mp other
    exact mirrors.named (mirrors.within later stored) row member same
  rw [Dictionary.count, mirrors.coded.names, apart.dedup, List.length_map, List.length_map]

theorem Mirrors.contains_of_mem (mirrors : Mirrors p used archives sessions) {row : SignalProtocolAddress × (Bytes × Option Bytes)}
    (member : row ∈ sessions) : SessionStorePillar.containsSession row.1 archives = true := by
  rw [(mirrors.answers row.1 (mirrors.within row member)).2]
  exact lookup_isSome_of_mem member

theorem Mirrors.store (mirrors : Mirrors p used archives sessions) {address : SignalProtocolAddress} (own : used address)
    (single : ∀ other, used other → other.name = address.name → other = address) (session : Bytes)
    (userRecord : Option Bytes) :
    Mirrors p used (SessionStorePillar.storeSession p session address userRecord archives)
      (put address (session, userRecord) sessions) where
  coded := by
    have decodes : sessionOf p (.obj [("session", .str (p.base64.encode session)),
        ("userRecord", (userRecord.map (.str ∘ p.base64.encode)).getD .null)]) = some (session, userRecord) := by
      cases userRecord <;> simp [sessionOf, asDictionary, asString, p.base64.decode_encode, lookup_cons_ite]
    rw [SessionStorePillar.storeSession, get_save, if_pos rfl]
    exact mirrors.coded.put (mirrors.named own) decodes
  distinct := nodup_keys_put mirrors.distinct address (session, userRecord)
  within row member := by
    rcases mem_put member with rfl | old
    · exact own
    · exact mirrors.within row old
  alone row member := by
    rcases mem_put member with rfl | old
    · exact single
    · exact mirrors.alone row old

theorem Mirrors.filter (mirrors : Mirrors p used archives sessions) {after : Archives} (keep : SignalProtocolAddress → Bool)
    (coded : Codes SignalProtocolAddress.name (sessionOf p) (sessions.filter fun row => keep row.1)
      (get SESSIONS_JSON_FILENAME after)) : Mirrors p used after (sessions.filter fun row => keep row.1) where
  coded := coded
  distinct := mirrors.distinct.sublist (List.filter_sublist.map Prod.fst)
  within row member := mirrors.within row (List.mem_of_mem_filter member)
  alone row member := mirrors.alone row (List.mem_of_mem_filter member)

theorem Mirrors.run (mirrors : Mirrors p used archives sessions) {operation : SessionOperation}
    (within : operation.Within used) (fits : operation.Fits used archives) :
    Mirrors p used (operation.run p archives).2 (operation.apply sessions).2 := by
  cases operation with
  | store session address userRecord => exact mirrors.store within fits session userRecord
  | deleteSession address =>
    apply mirrors.filter fun other => other ≠ address
    rw [SessionOperation.run, SessionStorePillar.deleteSession, get_save, if_pos rfl]
    exact mirrors.coded.erase (mirrors.named within)
  | deleteAllSessions name =>
    apply mirrors.filter fun other => other.name ≠ name
    have gone : (sessions.filter fun row => decide (row.1.name ≠ name)) = [] := by
      apply List.filter_eq_nil_iff.mpr
      intro row member
      have named := fits row.1 (mirrors.within row member) (mirrors.contains_of_mem member)
      simp [named]
    rw [SessionOperation.run, SessionStorePillar.deleteAllSessions, get_save, if_pos rfl, gone]
    exact .nil

theorem Mirrors.returned (mirrors : Mirrors p used archives sessions) {operation : SessionOperation}
    (within : operation.Within used) (fits : operation.Fits used archives) :
    (operation.run p archives).1 = (operation.apply sessions).1 := by
  cases operation with
  | store session address userRecord => rfl
  | deleteSession address =>
    have present := (mirrors.answers address within).2.symm.trans fits
    rw [SessionOperation.run, SessionOperation.apply, present]
  | deleteAllSessions name =>
    have whole : (sessions.filter fun row => decide (row.1.name = name)) = sessions := by
      apply List.filter_eq_self.mpr
      intro row member
      exact decide_eq_true (fits row.1 (mirrors.within row member) (mirrors.contains_of_mem member))
    rw [SessionOperation.run, SessionOperation.apply, SessionStorePillar.deleteAllSessions, mirrors.count, whole]

theorem Mirrors.fits (mirrors : Mirrors p used archives sessions) {operation : SessionOperation}
    (within : operation.Within used) (answers : Answers p used (operation.run p archives).2 (operation.apply sessions).2)
    (returned : (operation.run p archives).1 = (operation.apply sessions).1) : operation.Fits used archives := by
  cases operation with
  | store session address userRecord =>
    intro other own same
    by_contra apart
    have stored : SessionStorePillar.containsSession other
        (SessionStorePillar.storeSession p session address userRecord archives) = true := by
      rw [SessionStorePillar.containsSession, SessionStorePillar.storeSession, get_save, if_pos rfl, same,
        lookup_put_self]
      rfl
    have held := (answers other own).2.symm.trans stored
    rw [SessionOperation.apply, lookup_put, if_neg (Ne.symm apart)] at held
    obtain ⟨record, found⟩ := Option.isSome_iff_exists.mp held
    exact apart (mirrors.alone _ (mem_of_lookup found) address within same.symm).symm
  | deleteSession address =>
    rw [SessionOperation.run, SessionOperation.apply, Returned.deleted.injEq, Option.some.injEq] at returned
    rw [SessionOperation.Fits, (mirrors.answers address within).2]
    exact returned.symm
  | deleteAllSessions name =>
    intro other own present
    by_contra apart
    have held := (mirrors.answers other own).2.symm.trans present
    have spared : (((SessionOperation.deleteAllSessions name).apply sessions).2.lookup other).isSome = true := by
      rw [SessionOperation.apply]
      dsimp only
      rw [lookup_filter_key (fun address : SignalProtocolAddress => decide (address.name ≠ name)),
        if_pos (decide_eq_true apart), held]
    have kept := (answers other own).2.trans spared
    rw [SessionOperation.run, SessionStorePillar.deleteAllSessions, SessionStorePillar.containsSession, get_save,
      if_pos rfl] at kept
    cases kept

/-- A run answers all along like the table by full address exactly when no call is made whose name does not tell
    the one session that is meant, and nothing is deleted that is not there. -/
theorem session_store_refines_iff (p : Platform) (used : SignalProtocolAddress → Prop) (archives : Archives)
    (sessions : Sessions) (operations : List SessionOperation) (start : Mirrors p used archives sessions)
    (within : ∀ operation ∈ operations, operation.Within used) :
    ((∀ front, front <+: operations →
        Answers p used (SessionOperation.runs p front archives) (SessionOperation.applies front sessions)) ∧
      ∀ front operation, front ++ [operation] <+: operations →
        (operation.run p (SessionOperation.runs p front archives)).1 =
          (operation.apply (SessionOperation.applies front sessions)).1) ↔
    ∀ front operation, front ++ [operation] <+: operations →
      operation.Fits used (SessionOperation.runs p front archives) := by
  induction operations generalizing archives sessions with
  | nil =>
    refine ⟨fun _ front operation below => ?_, fun _ => ⟨fun front below => ?_, fun front operation below => ?_⟩⟩
    · simp at below
    · rw [List.prefix_nil.mp below]
      exact start.answers
    · simp at below
  | cons first later ih =>
    have own : first.Within used := within first List.mem_cons_self
    have onward := fun fits => ih _ _ (start.run own fits) fun other member => within other (List.mem_cons_of_mem _ member)
    constructor
    · rintro ⟨answers, returned⟩ front operation below
      have fits : first.Fits used archives :=
        start.fits own (answers [first] (List.prefix_append [first] later)) (returned [] first (List.prefix_append [first] later))
      rcases snoc_prefix_cons below with ⟨rfl, rfl⟩ | ⟨rest, rfl, further⟩
      · exact fits
      · refine (onward fits).mp ⟨fun shorter prior => ?_, fun shorter other prior => ?_⟩ rest operation further
        · exact answers (first :: shorter) (List.cons_prefix_cons.mpr ⟨rfl, prior⟩)
        · exact returned (first :: shorter) other (List.cons_prefix_cons.mpr ⟨rfl, prior⟩)
    · intro each
      have fits : first.Fits used archives := each [] first (List.prefix_append [first] later)
      obtain ⟨answers, returned⟩ := (onward fits).mpr fun rest operation further =>
        each (first :: rest) operation (List.cons_prefix_cons.mpr ⟨rfl, further⟩)
      refine ⟨fun front below => ?_, fun front operation below => ?_⟩
      · cases front with
        | nil => exact start.answers
        | cons head rest =>
          obtain ⟨rfl, further⟩ := List.cons_prefix_cons.mp below
          exact answers rest further
      · rcases snoc_prefix_cons below with ⟨rfl, rfl⟩ | ⟨rest, rfl, further⟩
        · exact start.returned own fits
        · exact returned rest operation further

section Empty

theorem noArchives_mirrors (used : SignalProtocolAddress → Prop) : Mirrors .plain used noArchives [] :=
  ⟨.nil, List.nodup_nil, List.forall_mem_nil _, List.forall_mem_nil _⟩

def singleDevice : List SessionOperation :=
  [.store [1] ⟨"bob", 1⟩ (some [2]), .deleteAllSessions "bob"]

theorem singleDevice_fits : ∀ front operation, front ++ [operation] <+: singleDevice →
    operation.Fits (fun address => address.deviceId = 1) (SessionOperation.runs .plain front noArchives) := by
  intro front operation below
  rcases snoc_prefix_cons below with ⟨rfl, rfl⟩ | ⟨rest, rfl, further⟩
  · rintro ⟨name, deviceId⟩ device same
    cases device
    cases same
    rfl
  · rcases snoc_prefix_cons further with ⟨rfl, rfl⟩ | ⟨_, rfl, beyond⟩
    · intro other _ present
      have only : (get SESSIONS_JSON_FILENAME
          (SessionOperation.runs .plain [.store [1] ⟨"bob", 1⟩ (some [2])] noArchives)).map Prod.fst = ["bob"] := by
        decide +kernel
      obtain ⟨value, found⟩ := Option.isSome_iff_exists.mp present
      have member := List.mem_map_of_mem (f := Prod.fst) (mem_of_lookup found)
      rw [only] at member
      exact List.mem_singleton.mp member
    · simp at beyond

theorem single_device_is_kept :
    SessionStorePillar.loadSession .plain ⟨"bob", 1⟩ (SessionOperation.runs .plain (singleDevice.take 1) noArchives) =
        some ([1], some [2]) ∧
      SessionStorePillar.containsSession ⟨"bob", 1⟩ (SessionOperation.runs .plain singleDevice noArchives) = false := by
  have within : ∀ operation ∈ singleDevice, operation.Within fun address => address.deviceId = 1 := by
    intro operation member
    simp only [singleDevice, List.mem_cons, List.not_mem_nil, or_false] at member
    rcases member with rfl | rfl
    · rfl
    · exact True.intro
  have answers := ((session_store_refines_iff .plain (fun address => address.deviceId = 1) noArchives [] singleDevice
    (noArchives_mirrors _) within).mpr singleDevice_fits).1
  exact ⟨(answers (singleDevice.take 1) (List.take_prefix 1 singleDevice) ⟨"bob", 1⟩ rfl).1,
    (answers singleDevice List.prefix_rfl ⟨"bob", 1⟩ rfl).2⟩

theorem sessions_are_kept_by_name :
    let stored := SessionStorePillar.storeSession .plain [1] ⟨"bob", 1⟩ none noArchives
    let both := SessionStorePillar.storeSession .plain [2] ⟨"carol", 1⟩ none stored
    SessionStorePillar.loadSession .plain ⟨"bob", 2⟩ stored = some ([1], none) ∧
      ((SessionOperation.deleteAllSessions "bob").run .plain both).1 = .number (some 2) ∧
      SessionStorePillar.containsSession ⟨"carol", 1⟩ ((SessionOperation.deleteAllSessions "bob").run .plain both).2 = false ∧
      ((SessionOperation.deleteSession ⟨"dave", 1⟩).run .plain both).1 = .deleted (some true) := by
  decide +kernel

end Empty

end PillarSignal.Ios
