import PillarSignal.Properties.IosContinuations

namespace PillarSignal.Ios

open Storage SignalClient

namespace SessionPreKeyBundle

def ids (bundle : SessionPreKeyBundle) : List Int := [bundle.registrationId, bundle.preKeyId, bundle.signedPreKeyId]

def Names (dict : Dictionary) (bundle : SessionPreKeyBundle) : Prop :=
  ∃ device devices preKey signedPreKey, dict.lookup "devices" = some (.arr (.obj device :: devices)) ∧
    device.lookup "preKey" = some (.obj preKey) ∧ device.lookup "signedPreKey" = some (.obj signedPreKey) ∧
    (device.lookup "registrationId").bind integerValue = some bundle.registrationId ∧
    (preKey.lookup "keyId").bind integerValue = some bundle.preKeyId ∧
    (signedPreKey.lookup "keyId").bind integerValue = some bundle.signedPreKeyId

end SessionPreKeyBundle

variable {p : Platform} {dict : Dictionary} {bundle : SessionPreKeyBundle}

theorem fits_iff (bundle : SessionPreKeyBundle) :
    SessionPreKeyBundle.fits bundle = true ↔ ∀ id ∈ bundle.ids, 0 ≤ id ∧ id < 2 ^ 32 := by
  simp [SessionPreKeyBundle.fits, isUInt32, SessionPreKeyBundle.ids, and_assoc]

theorem asDictionary_eq_some {value : Json} {dictionary : Dictionary} (read : asDictionary value = some dictionary) :
    value = .obj dictionary := by
  cases value with
  | obj members => rw [Option.some.inj read]
  | _ => cases read

theorem asDictionaries_eq_some {value : Json} {dictionaries : List Dictionary}
    (read : asDictionaries value = some dictionaries) : value = .arr (dictionaries.map .obj) := by
  cases value with
  | arr items =>
    rw [asDictionaries] at read
    induction items generalizing dictionaries with
    | nil =>
      cases read
      rfl
    | cons item items ih =>
      simp only [List.mapM_cons, bind, Option.bind_eq_some_iff] at read
      obtain ⟨first, one, rest, others, same⟩ := read
      cases same
      rw [asDictionary_eq_some one]
      injection ih others with tail
      rw [tail, List.map_cons]
  | _ => cases read

theorem intField_eq_some {name : String} {dictionary : Dictionary} {value : Int}
    (read : intField name dictionary = some value) : (dictionary.lookup name).bind integerValue = some value := by
  obtain ⟨held, found, integer⟩ := Option.bind_eq_some_iff.mp read
  rw [found, Option.bind_some]
  exact (Option.filter_eq_some_iff.mp integer).1

theorem dictionaryField_eq_some {name : String} {dictionary field : Dictionary}
    (read : dictionaryField name dictionary = some field) : dictionary.lookup name = some (.obj field) := by
  obtain ⟨held, found, isDictionary⟩ := Option.bind_eq_some_iff.mp read
  rw [found, asDictionary_eq_some isDictionary]

theorem names_of_parseBundle (parsed : parseBundle p dict = some bundle) : bundle.Names dict := by
  simp only [parseBundle, bind, Option.bind_eq_some_iff, pure] at parsed
  obtain ⟨devices, ⟨value, found, dictionaries⟩, _, _, device, first, _, _, registrationId, registered, preKey, held,
    preKeyId, identified, _, _, signedPreKey, signed, signedPreKeyId, named, _, _, _, _, built⟩ := parsed
  cases built
  obtain ⟨others, rfl⟩ := List.head?_eq_some_iff.mp first
  refine ⟨device, others.map .obj, preKey, signedPreKey, ?_, dictionaryField_eq_some held, dictionaryField_eq_some signed,
    intField_eq_some registered, intField_eq_some identified, intField_eq_some named⟩
  rw [found, asDictionaries_eq_some dictionaries, List.map_cons]

/-- The stores are touched only once there is a bundle whose ids are read without a trap. -/
theorem requestPreKeys_untouched {store : Bool} {username : String} {exchange : Exchange} {process : Process}
    {archives : Archives} (called : SignalServer.call p exchange = .success dict)
    (changed : (requestPreKeys p store username exchange process archives).2 ≠ archives) :
    ∃ bundle, parseBundle p dict = some bundle ∧ SessionPreKeyBundle.fits bundle = true := by
  unfold requestPreKeys at changed
  simp only [called] at changed
  cases parsed : parseBundle p dict with
  | none => simp [parsed] at changed
  | some bundle =>
    cases fits : SessionPreKeyBundle.fits bundle with
    | false => simp [parsed, fits] at changed
    | true => exact ⟨bundle, rfl, fits⟩

/-- The answer is handled without a trap exactly when every id that it has fits into 32 bits; whatever it is, the ids of
    a bundle are its integers, there is a failure and nothing else without a bundle, and nothing is deleted before a
    bundle is built. -/
theorem bundle_is_built_without_trap_iff (p : Platform) (store : Bool) (username : String) (exchange : Exchange)
    (dict : Dictionary) (called : SignalServer.call p exchange = .success dict) (process : Process) (archives : Archives) :
    let handled := requestPreKeys p store username exchange process archives
    (handled.1 ≠ .crashed ↔ ∀ bundle, parseBundle p dict = some bundle → ∀ id ∈ bundle.ids, 0 ≤ id ∧ id < 2 ^ 32) ∧
      (parseBundle p dict = none → handled = (.failure ⟨.ERR_ADD_CONTACT_FAILED,
        .text ("User " ++ username ++ " keys doesn't exist.")⟩, archives)) ∧
      (∀ bundle, parseBundle p dict = some bundle → bundle.Names dict) ∧
      (handled.2 ≠ archives → ∃ bundle, parseBundle p dict = some bundle ∧ ∀ id ∈ bundle.ids, 0 ≤ id ∧ id < 2 ^ 32) := by
  intro handled
  refine ⟨?_, ?_, fun bundle parsed => names_of_parseBundle parsed, ?_⟩
  · rw [Ne, (requestPreKeys_waiting_iff store username exchange process archives).2.1]
    constructor
    · intro untrapped bundle parsed
      rw [← fits_iff]
      by_contra outside
      exact untrapped ⟨dict, bundle, called, parsed, Bool.eq_false_iff.mpr outside⟩
    · intro fitting trapped
      obtain ⟨other, bundle, again, parsed, outside⟩ := trapped
      rw [called] at again
      cases again
      rw [(fits_iff bundle).mpr (fitting bundle parsed)] at outside
      cases outside
  · intro missing
    show requestPreKeys p store username exchange process archives = _
    unfold requestPreKeys
    simp only [called, missing]
  · intro changed
    obtain ⟨bundle, parsed, fits⟩ := requestPreKeys_untouched called changed
    exact ⟨bundle, parsed, (fits_iff bundle).mp fits⟩

section Responses

def keysOf (registrationId preKeyId signedPreKeyId : Int) : Dictionary :=
  contactKeys "" "" registrationId preKeyId signedPreKeyId

def keysExchange (dict : Dictionary) : Exchange := .answered 200 (JsonText.print (.obj dict))

theorem largest_ids_are_read :
    (requestPreKeys .plain true "bob" (keysExchange (keysOf (2 ^ 32 - 1) 0 1)) (fun _ => .ok []) noArchives).1 ≠
      .crashed := by
  have handled := bundle_is_built_without_trap_iff .plain true "bob" (keysExchange (keysOf (2 ^ 32 - 1) 0 1))
    (keysOf (2 ^ 32 - 1) 0 1) (by decide +kernel) (fun _ => .ok []) noArchives
  refine handled.1.mpr fun bundle parsed => ?_
  have built : parseBundle .plain (keysOf (2 ^ 32 - 1) 0 1) = some ⟨2 ^ 32 - 1, 0, [], 1, [], [], []⟩ := by
    decide +kernel
  rw [built] at parsed
  cases parsed
  decide

/-- Each of the three ids stops the app when it is negative or has more than 32 bits. -/
theorem foreign_ids_stop_the_app :
    [keysOf (-1) 1 1, keysOf (2 ^ 32) 1 1, keysOf 1 (-1) 1, keysOf 1 (2 ^ 32) 1, keysOf 1 1 (-1), keysOf 1 1 (2 ^ 32)].map
        (fun dict => (requestPreKeys .plain true "bob" (keysExchange dict) (fun _ => .ok []) noArchives).1) =
      List.replicate 6 .crashed := by
  decide +kernel

end Responses
end PillarSignal.Ios
