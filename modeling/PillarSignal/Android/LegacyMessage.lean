import PillarSignal.Android.Receive
import PillarSignal.Protocol.Envelope

namespace PillarSignal.Android

def arraycopy (bytes : Bytes) (offset length : Nat) : Except Thrown Bytes :=
  if offset + length ≤ bytes.length then .ok ((bytes.drop offset).take length) else .error .unexpected

namespace LegacyMessage

variable (p : Platform) (ciphers : Ciphers)

/-- The constant stands in the source without a use. -/
def SUPPORTED_VERSION : UInt8 := 1

def CIPHER_KEY_SIZE : Nat := 32

def MAC_KEY_SIZE : Nat := 20

def MAC_SIZE : Nat := 10

def VERSION_LENGTH : Nat := 1

def IV_OFFSET : Nat := VERSION_LENGTH

def IV_LENGTH : Nat := 16

def CIPHERTEXT_OFFSET : Nat := IV_OFFSET + IV_LENGTH

/-- The bytes of a signaling key, of which there is none before the account is registered. -/
def signalingKeyBytes (signalingKey : Option String) : Except Thrown Bytes :=
  match signalingKey with
  | none => .error .nullPointer
  | some text => SignalClient.decodeBase64 p text

def getCipherKey (signalingKey : Option String) : Except Thrown Bytes := do
  arraycopy (← signalingKeyBytes p signalingKey) 0 CIPHER_KEY_SIZE

def getMacKey (signalingKey : Option String) : Except Thrown Bytes := do
  arraycopy (← signalingKeyBytes p signalingKey) CIPHER_KEY_SIZE MAC_KEY_SIZE

def verifyMac (ciphertext macKey : Bytes) : Except Thrown Unit :=
  if ciphertext.length < MAC_SIZE + 1 then .error .io
  else
    let ourMacBytes := (ciphers.hmacSHA256 macKey (ciphertext.take (ciphertext.length - MAC_SIZE))).take MAC_SIZE
    let theirMacBytes := ciphertext.drop (ciphertext.length - MAC_SIZE)
    if ourMacBytes = theirMacBytes then .ok () else .error .io

/-- `Cipher.doFinal`: a last block that is not full is an `AssertionError` here, and bad padding an `IOException`. -/
def doFinal (cipherKey iv bytes : Bytes) : Except Thrown Bytes :=
  match ciphers.decryptCBC cipherKey iv bytes with
  | some plaintext => .ok plaintext
  | none => .error (if bytes.length % 16 = 0 then .io else .unexpected)

def getPlaintext (ciphertext cipherKey : Bytes) : Except Thrown Bytes := do
  let ivBytes ← arraycopy ciphertext IV_OFFSET IV_LENGTH
  if ciphertext.length < VERSION_LENGTH + IV_LENGTH + MAC_SIZE then .error .illegalArgument
  else
    doFinal ciphers cipherKey ivBytes
      ((ciphertext.drop CIPHERTEXT_OFFSET).take (ciphertext.length - VERSION_LENGTH - IV_LENGTH - MAC_SIZE))

def getBytes (ciphertext : Bytes) (signalingKey : Option String) : Except Thrown Bytes := do
  let cipherKey ← getCipherKey p signalingKey
  let macKey ← getMacKey p signalingKey
  verifyMac ciphers ciphertext macKey
  getPlaintext ciphers ciphertext cipherKey

end LegacyMessage

namespace RNSignalClientModule

def decryptReceivedBody (p : Platform) (ciphers : Ciphers) (receivedBody : String) (files : Files) :
    Except Thrown String := do
  let ciphertext ← SignalClient.decodeBase64 p receivedBody
  let messageBytes ← LegacyMessage.getBytes p ciphers ciphertext (ProtocolStorage.getSignalingKey p files)
  pure (p.texts.bytes.encode messageBytes)

end RNSignalClientModule
end PillarSignal.Android
