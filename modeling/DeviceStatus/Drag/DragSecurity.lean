import DeviceStatus.Drag.DragDataPacker
import Mathlib.Data.Vector.Basic

/-!
# The nonce of a drag and the process that it admits

`DragAuth` holds a nonce that it has drawn and checks signatures made from it;
`DragSecurityManager` delivers the nonce to the input service, clears it once a signature has
been accepted and remembers the process that the signature admitted.

## Main definitions

* `Crypto` — the keyed hash, the encodings and the randomness that the signatures rest on.
* `DragAuth`, `DragAuth.verifySignature` — the nonce and the check.
* `DragSecurityManager`, `DragSecurityManager.verifyAndResetNonce` — the process admitted.
-/

namespace DeviceStatus.Drag

def NONCE_SIZE : ℕ := 32
def HMAC_SHA384_SIZE : ℕ := 48
def NONCE_TIMEOUT_MS : ℕ := 3000
def MAX_BASE64_LENGTH : ℕ := 1024

/-- What `RAND_bytes` fills the nonce with, unless it fails. -/
abbrev RandBytes := Option (List.Vector UInt8 NONCE_SIZE)

structure DragEventData (Double : Type) where
  timestampMs : ℕ
  coordinateX : Double
  coordinateY : Double

/-- `HMAC` with `EVP_sha384`, the base64 coding of the same library and the digits of a `double`
on a stream with its precision. -/
structure Crypto (Double : Type) where
  hmac : List UInt8 → StdString → List UInt8
  encodeBlock : List UInt8 → StdString
  decodeBlock : StdString → List UInt8
  print : Double → StdString

structure DragAuth where
  nonceBin : List UInt8 := []
  nonceB64 : StdString := []

namespace DragAuth

variable {Double : Type} (crypto : Crypto Double)

def resetNonce (_ : DragAuth) : DragAuth := { nonceBin := [], nonceB64 := [] }

def base64Encode (nonce : List UInt8) : StdString :=
  if nonce = [] then [] else crypto.encodeBlock nonce

def base64Decode (b64 : StdString) : List UInt8 :=
  if b64 = [] ∨ MAX_BASE64_LENGTH < b64.length then [] else crypto.decodeBlock b64

def generateNonce (randBytes : RandBytes) (auth : DragAuth) : StdString × DragAuth :=
  match randBytes with
  | none => ([], auth.resetNonce)
  | some bytes =>
    let nonceB64 := base64Encode crypto bytes.toList
    (nonceB64, { nonceBin := bytes.toList, nonceB64 })

def serializeDragEventData (data : DragEventData Double) : StdString :=
  (Nat.repr data.timestampMs).toUTF8.toList ++ "|".toUTF8.toList ++ crypto.print data.coordinateX ++
    "|".toUTF8.toList ++ crypto.print data.coordinateY

def generateSignature (nonce : List UInt8) (data : DragEventData Double) : List UInt8 :=
  if nonce = [] then []
  else if serializeDragEventData crypto data = [] then []
  else crypto.hmac nonce (serializeDragEventData crypto data)

def verifyDragEventInterval (currentTime : ℕ) (data : DragEventData Double) : Bool :=
  data.timestampMs ≤ currentTime && currentTime - data.timestampMs ≤ NONCE_TIMEOUT_MS

def verifySignature (currentTime : ℕ) (data : DragEventData Double) (signature : StdString)
    (auth : DragAuth) : Bool :=
  if signature = [] then false
  else if !verifyDragEventInterval currentTime data then false
  else
    let externalSignature := base64Decode crypto signature
    let expectedSignature := generateSignature crypto auth.nonceBin data
    externalSignature.length = HMAC_SHA384_SIZE && expectedSignature.length = HMAC_SHA384_SIZE &&
      externalSignature = expectedSignature

/-- Without a nonce nothing verifies. -/
theorem nonceBin_ne_nil {currentTime : ℕ} {data : DragEventData Double} {signature : StdString}
    {auth : DragAuth} (h : auth.verifySignature crypto currentTime data signature = true) :
    auth.nonceBin ≠ [] := by
  intro cleared
  simp [verifySignature, generateSignature, cleared, HMAC_SHA384_SIZE] at h

end DragAuth

structure DragSecurityManager where
  auth : DragAuth := {}
  securityPid : ℤ := -1

namespace DragSecurityManager

variable {Double : Type} (crypto : Crypto Double)

def verifyAndResetNonce (currentTime : ℕ) (data : DragEventData Double) (signature : StdString)
    (m : DragSecurityManager) : Bool × DragSecurityManager :=
  if m.auth.verifySignature crypto currentTime data signature then
    (true, { m with auth := m.auth.resetNonce })
  else (false, m)

/-- Whether the nonce has reached the input service, which answers `deliverNonce`. -/
def deliverNonceToInput (randBytes : RandBytes) (deliverNonce : StdString → Bool)
    (m : DragSecurityManager) : Bool × DragSecurityManager :=
  let generated := m.auth.generateNonce crypto randBytes
  (generated.1 ≠ [] && deliverNonce generated.1, { m with auth := generated.2 })

def storeSecurityPid (pid : ℤ) (m : DragSecurityManager) : DragSecurityManager :=
  { m with securityPid := pid }

def verifySecurityPid (pid : ℤ) (m : DragSecurityManager) : Bool := pid = m.securityPid

def resetSecurityPid (m : DragSecurityManager) : DragSecurityManager :=
  { m with securityPid := -1 }

section

variable {currentTime : ℕ} {data : DragEventData Double} {signature : StdString}
  {m : DragSecurityManager}

/-- A signature is accepted while there is a nonce, and there is none afterwards. -/
theorem verifyAndResetNonce_cases :
    (m.auth.nonceBin ≠ [] ∧ m.verifyAndResetNonce crypto currentTime data signature =
      (true, { m with auth := {} })) ∨
    m.verifyAndResetNonce crypto currentTime data signature = (false, m) := by
  unfold verifyAndResetNonce
  split
  · next verified => exact .inl ⟨DragAuth.nonceBin_ne_nil crypto verified, rfl⟩
  · exact .inr rfl

@[simp] theorem deliverNonceToInput_securityPid (randBytes : RandBytes)
    (deliverNonce : StdString → Bool) :
    (m.deliverNonceToInput crypto randBytes deliverNonce).2.securityPid = m.securityPid := rfl

@[simp] theorem resetSecurityPid_securityPid : m.resetSecurityPid.securityPid = -1 := rfl

@[simp] theorem resetSecurityPid_auth : m.resetSecurityPid.auth = m.auth := rfl

end

end DragSecurityManager

end DeviceStatus.Drag
