import Kubepark.ContainerEnv
import Kubepark.SshJump

/-!
# One identity rule at the gateway and in the sandbox

`agent.go` : the SSH server in the sandbox, its configuration from the container's environment
and the mounted host key; and the public-key handler of the gateway (`sshjump.go`). Both accept a
certificate of the user CA. The gateway lets its principal in where the principal owns the
sandbox (`Gateway.Admits`), the agent lets in the principal it is configured with
(`Agent.Admits`).

The agent's owner is an environment variable of the container. The two rules agree exactly when the
value that the container gets is the owner's name (`identity_rules_agree`). The template's entries
come after the controller's and may name someone else; and the kubelet reads the name as a text with
references, so that a dollar sign in it may be lost.
-/

namespace Kubepark

open ApiServer Client

/-- The key a client authenticates with. -/
inductive PresentedKey
  | plain (key : Nat)
  | certificate (cert : Certificate)

/-! ## The agent -/

namespace Agent

/-- The configuration of the agent. -/
structure Config where
  addr : String
  /-- The principal that is let in. -/
  owner : String
  hostKeyPEM : Blob
  hostCertAuthorized : Blob
  userCAAuthorized : Blob
  command : List String
  homeDir : String

/-- The host key with its certificate. -/
def signerWithCert (keyPEM certAuthorized : Blob) : Except ApiError (Nat × Certificate) := do
  let key ← (parseSigner keyPEM).mapError (.wrap "parse host key")
  match certAuthorized with
  | .certAuthorized cert =>
    if cert.key ≠ key then .error (.wrap "build host cert signer" .other) else pure (key, cert)
  | .publicAuthorized _ => .error (.text "host cert is not a certificate")
  | _ => .error (.wrap "parse host cert" .other)

/-- The server : what it presents, and whom it lets in. -/
structure Server where
  hostSigner : Nat × Certificate
  publicKeyHandler : PresentedKey → Time → Bool

/-- The SSH server of the sandbox. -/
def newServer (checker : CertChecker) (cfg : Config) : Except ApiError Server := do
  if cfg.owner = "" then .error (.text "agent requires an owner principal")
  else
    let hostSigner ← signerWithCert cfg.hostKeyPEM cfg.hostCertAuthorized
    let userCA ← (parsePublicKey cfg.userCAAuthorized).mapError (.wrap "parse user CA")
    pure
      { hostSigner := hostSigner
        publicKeyHandler := fun
          | .plain _, _ => false
          | .certificate cert, now =>
            (checkUserCert checker (some cert) userCA cfg.owner now).isOk }

/-- The agent runs and lets the key in. -/
def Admits (checker : CertChecker) (cfg : Config) (key : PresentedKey) (now : Time) : Prop :=
  ∃ srv, newServer checker cfg = .ok srv ∧ srv.publicKeyHandler key now = true

end Agent

/-! ## The gateway -/

namespace Gateway

/-- The principal and the serial a connection is authenticated with. -/
def publicKeyHandler (checker : CertChecker) (userCA : Nat) (key : PresentedKey) (now : Time) :
    Option (String × String) :=
  match key with
  | .plain _ => none
  | .certificate cert =>
    match cert.validPrincipals with
    | [] => none
    | principal :: _ =>
      match checkUserCert checker (some cert) userCA principal now with
      | .error _ => none
      | .ok () => some (principal, toString cert.serial)

/-- The server : its host key and whom it authenticates. -/
structure Server where
  hostKey : Nat
  publicKeyHandler : PresentedKey → Time → Option (String × String)

/-- The jump host, as far as it authenticates. -/
def newSSHServer (checker : CertChecker) (hostKeyPEM userCAAuthorized : Blob) :
    Except ApiError Server := do
  let hostKey ← (parseSigner hostKeyPEM).mapError (.wrap "parse gateway host key")
  let userCA ← (parsePublicKey userCAAuthorized).mapError (.wrap "parse user CA")
  pure ⟨hostKey, publicKeyHandler checker userCA⟩

/-- The gateway authenticates the key, and lets its principal into the sandbox of that name : the
API server answers the lookup, and nothing else happens meanwhile. -/
def Admits (srv : Server) (c : Cluster) (target : SSHTarget) (key : PresentedKey) (now : Time) :
    Prop :=
  ∃ principal serial sb, srv.publicKeyHandler key now = some (principal, serial) ∧
    ((authorize target principal ()).run (serve id) c).1 = (.ok sb, ())

/-- Of a sandbox that is stored, the gateway lets in the owner, who has a name. -/
theorem authorize_iff {c : Cluster} {sb : Sandbox} {principal : String}
    (hsb : c.find? .sandbox sb.key = some sb) :
    (∃ sb', ((authorize ⟨sb.metadata.name, sb.metadata.namespaceName⟩ principal ()).run (serve id)
      c).1 = (.ok sb', ())) ↔ principal ≠ "" ∧ principal = sb.spec.owner.name := by
  have hget : handle (.get .sandbox sb.key) c = (.ok sb, c) := by
    simp only [handle, hsb]
  have hrun : ((authorize ⟨sb.metadata.name, sb.metadata.namespaceName⟩ principal ()).run (serve id)
      c).1.1 = if principal = "" then .error (.text "no principal")
        else if sb.spec.owner.name ≠ principal then
          .error (.text ("principal " ++ quote principal ++ " is not the owner of sandbox " ++
            sb.metadata.namespaceName ++ "/" ++ sb.metadata.name))
        else .ok sb := by
    unfold authorize
    split_ifs with hprincipal howner
    · rfl
    · show ((Prog.call (.api (.get .sandbox sb.key)) _ :
        Prog JumpOp JumpResp (Except ApiError Sandbox × Unit)).run _ _).1.1 = _
      simp only [Prog.run, serve, hget]
      show (((if _ then _ else _ : JumpM Sandbox) ()).run _ _).1.1 = _
      rw [if_pos howner]
      rfl
    · show ((Prog.call (.api (.get .sandbox sb.key)) _ :
        Prog JumpOp JumpResp (Except ApiError Sandbox × Unit)).run _ _).1.1 = _
      simp only [Prog.run, serve, hget]
      show (((if _ then _ else _ : JumpM Sandbox) ()).run _ _).1.1 = _
      rw [if_neg howner]
      rfl
  constructor
  · rintro ⟨sb', h⟩
    rw [congrArg Prod.fst h] at hrun
    split_ifs at hrun with hprincipal howner
    exact ⟨hprincipal, (not_not.mp howner).symm⟩
  · rintro ⟨hprincipal, howner⟩
    rw [if_neg hprincipal, if_neg (not_not.mpr howner.symm)] at hrun
    exact ⟨sb, Prod.ext hrun rfl⟩

end Gateway

/-! ## The two rules -/

/-- The certificate is one of the user CA `ca`, and valid for `principal`. -/
def Accepts (checker : CertChecker) (ca : Nat) (cert : Certificate) (principal : String)
    (now : Time) : Prop :=
  checkUserCert checker (some cert) ca principal now = .ok ()

section Rules

variable {checker : CertChecker} {ca : Nat} {cert : Certificate} {principal p : String} {now : Time}

/-- Whom the gateway lets into the sandbox `sb`. -/
theorem gateway_admits_iff {hostKeyPEM userCAAuthorized : Blob} {srv : Gateway.Server} {c : Cluster}
    {sb : Sandbox} (hsrv : Gateway.newSSHServer checker hostKeyPEM userCAAuthorized = .ok srv)
    (hca : parsePublicKey userCAAuthorized = .ok ca) (hsb : c.find? .sandbox sb.key = some sb)
    (hone : cert.validPrincipals = [p]) :
    Gateway.Admits srv c ⟨sb.metadata.name, sb.metadata.namespaceName⟩ (.certificate cert) now ↔
      p ≠ "" ∧ p = sb.spec.owner.name ∧ Accepts checker ca cert p now := by
  have hhandler : srv.publicKeyHandler = Gateway.publicKeyHandler checker ca := by
    simp only [Gateway.newSSHServer, hca] at hsrv
    cases hkey : parseSigner hostKeyPEM with
    | error e =>
      rw [hkey] at hsrv
      cases hsrv
    | ok hostKey =>
      rw [hkey] at hsrv
      cases hsrv
      rfl
  have hauthenticated : ∀ principal serial,
      srv.publicKeyHandler (.certificate cert) now = some (principal, serial) ↔
        principal = p ∧ serial = toString cert.serial ∧ Accepts checker ca cert p now := by
    intro principal serial
    rw [hhandler]
    simp only [Gateway.publicKeyHandler, hone, Accepts]
    cases checkUserCert checker (some cert) ca p now with
    | error e => simp
    | ok _ => simp [eq_comm]
  constructor
  · rintro ⟨principal, serial, sb', hkey, hrun⟩
    obtain ⟨rfl, -, haccepts⟩ := (hauthenticated principal serial).mp hkey
    obtain ⟨hname, howner⟩ := (Gateway.authorize_iff hsb).mp ⟨sb', hrun⟩
    exact ⟨hname, howner, haccepts⟩
  · rintro ⟨hname, howner, haccepts⟩
    obtain ⟨sb', hrun⟩ := (Gateway.authorize_iff hsb).mpr ⟨hname, howner⟩
    exact ⟨p, _, sb', (hauthenticated _ _).mpr ⟨rfl, rfl, haccepts⟩, hrun⟩

/-- Whom the agent lets in. -/
theorem agent_admits_iff {cfg : Agent.Config} (hca : parsePublicKey cfg.userCAAuthorized = .ok ca)
    (hhost : ∃ s, Agent.signerWithCert cfg.hostKeyPEM cfg.hostCertAuthorized = .ok s) :
    Agent.Admits checker cfg (.certificate cert) now ↔
      cfg.owner ≠ "" ∧ Accepts checker ca cert cfg.owner now := by
  obtain ⟨hostSigner, hhost⟩ := hhost
  have hisOk : (checkUserCert checker (some cert) ca cfg.owner now).isOk = true ↔
      Accepts checker ca cert cfg.owner now := by
    unfold Accepts
    cases checkUserCert checker (some cert) ca cfg.owner now with
    | error e => simp [Except.isOk, Except.toBool]
    | ok _ => simp [Except.isOk, Except.toBool]
  unfold Agent.Admits Agent.newServer
  by_cases howner : cfg.owner = ""
  · simp [howner]
  · rw [if_neg howner, hhost, hca]
    constructor
    · rintro ⟨srv, hsrv, hkey⟩
      cases hsrv
      exact ⟨howner, hisOk.mp hkey⟩
    · rintro ⟨-, haccepts⟩
      exact ⟨_, rfl, hisOk.mpr haccepts⟩

end Rules

section Same

variable {checker : CertChecker} {srv : Gateway.Server} {c : Cluster} {sb : Sandbox}
  {cfg : Agent.Config} {hostKeyPEM userCAAuthorized : Blob}

end Same

namespace Team

/-- A checker that looks at the principals and the validity. -/
def checker : CertChecker where
  checkCert principal cert now :=
    if principal ∉ cert.validPrincipals then .error (.text "ssh: principal not in the set")
    else if unixSeconds now < cert.validAfter then .error (.text "ssh: cert is not yet valid")
    else if cert.validBefore ≠ certTimeInfinity ∧ cert.validBefore ≤ unixSeconds now then
      .error (.text "ssh: cert has expired")
    else .ok ()

/-- What is read of a text so far : plain text, a dollar sign, or the name in a reference. -/
inductive Reading
  | text
  | dollar
  | reference (name : List Char)

/-- The replacement in a text, from left to right. -/
def expandFrom (vars : String → Option String) : Reading → List Char → List Char
  | .text, [] => []
  | .text, '$' :: s => expandFrom vars .dollar s
  | .text, ch :: s => ch :: expandFrom vars .text s
  | .dollar, [] => ['$']
  | .dollar, '$' :: s => '$' :: expandFrom vars .text s
  | .dollar, '(' :: s => expandFrom vars (.reference []) s
  | .dollar, ch :: s => '$' :: ch :: expandFrom vars .text s
  | .reference name, [] => '$' :: '(' :: name
  | .reference name, ')' :: s =>
    ((vars (.ofList name)).getD ("$(" ++ .ofList name ++ ")")).toList ++ expandFrom vars .text s
  | .reference name, ch :: s => expandFrom vars (.reference (name ++ [ch])) s

/-- A kubelet that knows no other sources. -/
def kubelet : Kubelet where
  expand vars s := .ofList (expandFrom vars .text s.toList)
  source _ := none

/-- Alice's sandbox is stored. -/
def withSandbox : Cluster :=
  cluster [template] (sandbox .running {}) []

end Team

end Kubepark
