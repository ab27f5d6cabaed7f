import PillarSignal.Libsignal.SessionCipher
import Mathlib.Logic.Function.Basic

namespace PillarSignal.Libsignal

/-- The stores of a device. Sessions and identities are kept for each address, the device's own keys once. -/
structure Device (Address : Type) where
  loadSession : Address → Option Bytes
  containsSession : Address → Bool
  isTrusted : Address → Bytes → Bool
  identityKeyPair : Option KeyPair
  localRegistrationId : Option UInt32
  loadPreKey : UInt32 → Option Bytes
  loadSignedPreKey : UInt32 → Option Bytes

namespace Device

variable {Address : Type} [DecidableEq Address] (provider : Provider)

def store (device : Device Address) (address : Address) : Store where
  loadSession := device.loadSession address
  containsSession := device.containsSession address
  isTrusted := device.isTrusted address
  identityKeyPair := device.identityKeyPair
  localRegistrationId := device.localRegistrationId
  loadPreKey := device.loadPreKey
  loadSignedPreKey := device.loadSignedPreKey

def update (device : Device Address) (address : Address) (store : Store) : Device Address where
  loadSession := Function.update device.loadSession address store.loadSession
  containsSession := Function.update device.containsSession address store.containsSession
  isTrusted := Function.update device.isTrusted address store.isTrusted
  identityKeyPair := store.identityKeyPair
  localRegistrationId := store.localRegistrationId
  loadPreKey := store.loadPreKey
  loadSignedPreKey := store.loadSignedPreKey

def ask (device : Device Address) (asked : Address × Request) : Device Address :=
  device.update asked.1 (asked.2.step provider (device.store asked.1))

def run (device : Device Address) (asked : List (Address × Request)) : Device Address := asked.foldl (ask provider) device

end Device

section

variable {provider : Provider} {store : Store} {id : UInt32}

theorem Store.runAll_loadPreKey (gone : store.loadPreKey id = none) (calls : List StoreCall) :
    (store.runAll calls).loadPreKey id = none := by
  rw [Store.runAll]
  induction calls generalizing store with
  | nil => exact gone
  | cons call calls ih =>
    apply ih
    cases call with
    | storeSession record => exact gone
    | saveIdentity identityKey => exact gone
    | removePreKey preKeyId =>
      change (if (id.toNat : Int) = preKeyId then none else store.loadPreKey id) = none
      rw [gone, ite_self]

/-- A key that is gone stays gone, whoever sends what. -/
theorem Device.run_loadPreKey {Address : Type} [DecidableEq Address] {device : Device Address}
    (gone : device.loadPreKey id = none) (asked : List (Address × Request)) : (device.run provider asked).loadPreKey id = none := by
  rw [Device.run]
  induction asked generalizing device with
  | nil => exact gone
  | cons one asked ih =>
    apply ih
    exact Store.runAll_loadPreKey gone _

end

end PillarSignal.Libsignal
