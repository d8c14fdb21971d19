import Kubepark.SandboxController

/-!
# The store and the routing of the gateway

`store.go` and `routing.go` : the gateway's view of sandboxes and sessions as calls of the API
server, and the parser of an SSH target. A session is created and then marked Active by a
status update of its own; it is closed by a read and a status update.
-/

namespace Kubepark

namespace Gateway

open ApiServer Client

variable {σ : Type}

/-! ## Routing -/

/-- A parsed SSH jump destination. -/
structure SSHTarget where
  sandbox : String
  namespaceName : String
  deriving DecidableEq, Repr

/-- `unicode.IsSpace`. -/
def isSpace (c : Char) : Bool :=
  c.toNat ∈ [0x09, 0x0a, 0x0b, 0x0c, 0x0d, 0x20, 0x85, 0xa0, 0x1680, 0x2028, 0x2029, 0x202f, 0x205f,
    0x3000] || (0x2000 ≤ c.toNat && c.toNat ≤ 0x200a)

/-- `strings.TrimSpace`. -/
def trimSpace (s : String) : String :=
  String.ofList ((s.toList.dropWhile isSpace).reverse.dropWhile isSpace).reverse

/-- `strings.Cut` at the first dot : what is before it, what is after it, whether there is
one. -/
def cutDot (s : String) : String × String × Bool :=
  let before := s.toList.takeWhile (· ≠ '.')
  (String.ofList before, String.ofList (s.toList.drop (before.length + 1)), s.toList.contains '.')

/-- Parse the inner SSH destination host `<sandbox>.<namespace>`; a bare `<sandbox>` is in the
default namespace. -/
def parseSSHTarget (host defaultNamespace : String) : Except String SSHTarget :=
  let host := trimSpace host
  if host = "" then .error "empty ssh target"
  else
    let (sandbox, namespaceName, found) := cutDot host
    if !found then
      if defaultNamespace = "" then
        .error ("target " ++ quote host ++ " has no namespace and no default is set")
      else .ok ⟨sandbox, defaultNamespace⟩
    else if sandbox = "" ∨ namespaceName = "" then .error ("invalid ssh target " ++ quote host)
    else .ok ⟨sandbox, namespaceName⟩

example : (parseSSHTarget " dev.team\n" "").toOption = some ⟨"dev", "team"⟩ := by decide +kernel

/-! ## The store -/

def getSandbox (namespaceName name : String) : ClientM σ Sandbox :=
  Client.get Kind.sandbox ⟨namespaceName, name⟩

/-- Flip a suspended sandbox back to Running. -/
def setDesiredRunning (sb : Sandbox) : ClientM σ Unit := do
  if sb.spec.desiredState = .running then pure ()
  else
    let _ ← patch Kind.sandbox sb.key fun spec => { spec with desiredState := .running }

/-- Record a session and mark it Active. -/
def createSession (session : SandboxSession) : ClientM σ Unit := do
  let session ← create Kind.sandboxSession session
  let t ← now
  let _ ← updateStatus Kind.sandboxSession
    { session with
      status := { session.status with
        state := .active, startTime := some t, lastActivityTime := some t } }

/-- Refresh the last-activity time of an Active session. -/
def heartbeat (namespaceName name : String) : ClientM σ Unit := do
  let session ← Client.get Kind.sandboxSession ⟨namespaceName, name⟩
  if session.status.state ≠ .active then pure ()
  else
    let t ← now
    let _ ← updateStatus Kind.sandboxSession
      { session with status := { session.status with lastActivityTime := some t } }

/-- Mark a session Closed. -/
def closeSession (namespaceName name : String) (reason : ExitReason) : ClientM σ Unit := do
  let session ← Client.get Kind.sandboxSession ⟨namespaceName, name⟩
  if session.status.state = .closed then pure ()
  else
    let t ← now
    let _ ← updateStatus Kind.sandboxSession
      { session with
        status := { session.status with state := .closed, endTime := some t, exitReason := reason } }

end Gateway

end Kubepark
