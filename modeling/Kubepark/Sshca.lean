import Kubepark.Podspec
import Mathlib.Algebra.Group.Int.Defs
import Mathlib.Algebra.Group.Nat.Defs

/-!
# The SSH certificate authority and its Secret

`internal/sshca` and `ca.go`. Keys are symbolic : `generateKeyPair` draws a value that was
never handed out before, and only the encodings of a key parse to it. `ensureCASecret`
returns the stored CA Secret, creating it on first use; when it loses the race to create
it, it reads the winner's.
-/

namespace Kubepark

open ApiServer Client

variable {σ : Type}

/-- A generated key in its SSH wire formats. -/
structure KeyPair where
  privatePEM : Blob
  publicAuthorized : Blob

/-- A new key pair. -/
def generateKeyPair (comment : String) : ClientM σ KeyPair := do
  let key ← Routine.ofExcept ((← tryFresh).mapError (.wrap "generate ed25519 key"))
  pure ⟨.privatePEM key comment, .publicAuthorized key⟩

/-- The key of a private key file. -/
def parseSigner : Blob → Except ApiError Nat
  | .privatePEM key _ => .ok key
  | _ => .error (.wrap "parse private key" .other)

/-- The key of an `authorized_keys` line. -/
def parsePublicKey : Blob → Except ApiError Nat
  | .publicAuthorized key => .ok key
  | _ => .error (.wrap "parse public key" .other)

/-- `time.Time.Unix`. -/
def unixSeconds (t : Time) : Int :=
  t / second

/-- The conversion of an `int64` to `uint64`. -/
def toUint64 (n : Int) : Nat :=
  (n % 2 ^ 64).toNat

/-- `ssh.CertTimeInfinity`. -/
def certTimeInfinity : Nat :=
  2 ^ 64 - 1

/-- The end of a certificate's validity. A duration that is not positive means forever. -/
def validBefore (now : Time) (validFor : Duration) : Nat :=
  if validFor ≤ 0 then certTimeInfinity else toUint64 (unixSeconds (now + validFor))

/-- A random certificate serial. -/
def newSerial : ClientM σ Nat := do
  let n ← Routine.ofExcept ((← tryFresh).mapError (.wrap "generate serial"))
  pure (n % 2 ^ 64)

/-- A host certificate for `hostPub`, signed by `ca`. -/
def signHostCert (ca hostPub : Nat) (principals : List String) (validFor : Duration) (now : Time) :
    ClientM σ Certificate := do
  let serial ← newSerial
  pure
    { key := hostPub
      serial := serial
      certType := .host
      keyId := principals.headD ""
      validPrincipals := principals
      validAfter := toUint64 (unixSeconds (now - 60 * second))
      validBefore := validBefore now validFor
      signatureKey := ca }

/-- The user certificate for exactly one principal. -/
def userCertificate (ca userPub : Nat) (principal : String) (validFor : Duration) (now : Time)
    (serial : Nat) : Certificate where
  key := userPub
  serial := serial
  certType := .user
  keyId := principal
  validPrincipals := [principal]
  validAfter := toUint64 (unixSeconds (now - 60 * second))
  validBefore := validBefore now validFor
  extensions := ["permit-pty", "permit-port-forwarding", "permit-agent-forwarding"]
  signatureKey := ca

/-- `ssh.CertChecker.CheckCert` with its clock set : the validity of a certificate for a
principal, its critical options and its signature. -/
structure CertChecker where
  checkCert : String → Certificate → Time → Except ApiError Unit

/-- Whether the certificate is a user certificate signed by `caPub` and valid now for exactly
the expected principal; every rejection has its reason. -/
def checkUserCert (checker : CertChecker) (cert : Option Certificate) (caPub : Nat)
    (principal : String) (now : Time) : Except ApiError Unit :=
  match cert with
  | none => .error (.text "no certificate presented")
  | some cert =>
    if cert.certType ≠ .user then
      .error (.text "certificate is not a user certificate (type 2)")
    else if cert.validPrincipals = [] then .error (.text "certificate has no principals")
    else if cert.signatureKey ≠ caPub then
      .error (.text "certificate not signed by the expected CA")
    else (checker.checkCert principal cert now).mapError (.wrap "certificate check failed")

/-! ## The CA Secret -/

def caSecretName : String :=
  "kubepark-ca"

def keyUserCAPrivate : String :=
  "user-ca.key"

def keyUserCAPublic : String :=
  "user-ca.pub"

def keyHostCAPrivate : String :=
  "host-ca.key"

def keyHostCAPublic : String :=
  "host-ca.pub"

def keyCookieHMAC : String :=
  "cookie-hmac"

/-- A data entry of a Secret; a missing one is empty. -/
def Secret.entry (s : Secret) (name : String) : Blob :=
  (s.spec.data.lookup name).getD (.raw "")

/-- Random bytes for the cookie key. -/
def newCookieKey : ClientM σ Blob := do
  let n ← Routine.ofExcept ((← tryFresh).mapError (.wrap "generate cookie HMAC key"))
  pure (.random n)

/-- The CA Secret made of freshly generated keys. -/
def buildCASecret (ns : String) (userCA hostCA : KeyPair) (hmacKey : Blob) : Secret where
  metadata := { name := caSecretName, namespaceName := ns, labels := [(labelManagedBy, "kubepark")] }
  spec :=
    { data :=
        [(keyUserCAPrivate, userCA.privatePEM), (keyUserCAPublic, userCA.publicAuthorized),
          (keyHostCAPrivate, hostCA.privatePEM), (keyHostCAPublic, hostCA.publicAuthorized),
          (keyCookieHMAC, hmacKey)] }
  status := ()

/-- The CA Secret, generated on first use. -/
def ensureCASecret (ns : String) : ClientM σ Secret := do
  match ← tryGet Kind.secret ⟨ns, caSecretName⟩ with
  | .ok secret => pure secret
  | .error e =>
    if e.isNotFound then
      let userCA ← generateKeyPair "kubepark-user-ca"
      let hostCA ← generateKeyPair "kubepark-host-ca"
      let hmacKey ← newCookieKey
      match ← tryCreate Kind.secret (buildCASecret ns userCA hostCA hmacKey) with
      | .ok secret => pure secret
      | .error e =>
        if e.isAlreadyExists then
          -- Lost the create race : the stored Secret is the winner's.
          Routine.ofExcept ((← tryGet Kind.secret ⟨ns, caSecretName⟩).mapError fun _ =>
            .wrap "create CA secret" e)
        else Routine.fail (.wrap "create CA secret" e)
    else Routine.fail (.wrap "get CA secret" e)

end Kubepark
