import PillarSignal.Storage.Json

namespace PillarSignal

abbrev Bytes := List UInt8

structure PublicKey where
  bytes : Bytes
deriving DecidableEq, Repr

structure KeyPair where
  publicKey : PublicKey
  privateKey : Bytes
deriving DecidableEq, Repr

structure PreKeyRecord where
  id : Int
  keyPair : KeyPair
deriving DecidableEq, Repr

structure SignedPreKeyRecord where
  id : Int
  keyPair : KeyPair
  signature : Bytes
deriving DecidableEq, Repr

/-- The ratchet state of one conversation, which only libsignal looks into. -/
structure SessionRecord where
  state : Bytes
deriving DecidableEq, Repr

structure Codec (τ α : Type) where
  encode : α → τ
  decode : τ → Option α
  decode_encode : ∀ value, decode (encode value) = some value

abbrev TextCodec := Codec String

abbrev DataCodec := Codec Bytes

def Codec.comp {τ σ α : Type} (outer : Codec τ σ) (inner : Codec σ α) : Codec τ α where
  encode value := outer.encode (inner.encode value)
  decode text := (outer.decode text).bind inner.decode
  decode_encode value := by rw [outer.decode_encode, Option.bind_some, inner.decode_encode]

/-- The Base64 texts in which keys and records are stored and sent. -/
structure RecordTexts where
  bytes : TextCodec Bytes
  publicKey : TextCodec PublicKey
  identityKeyPair : TextCodec KeyPair
  preKey : TextCodec PreKeyRecord
  signedPreKey : TextCodec SignedPreKeyRecord
  session : TextCodec SessionRecord

structure SignalProtocolAddress where
  name : String
  deviceId : Int
deriving DecidableEq, Repr

/-- The calls by which libsignal updates the stores. -/
inductive StoreCall where
  | storeSession (record : SessionRecord)
  | saveIdentity (identityKey : PublicKey)
  | removePreKey (preKeyId : Int)
deriving DecidableEq, Repr

end PillarSignal
