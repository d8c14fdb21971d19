import Kubepark.SignEndpoint

/-!
# The command line

`cmd/kubepark` : `login` gets a certificate from the gateway's sign endpoint after a login at the
identity provider, `admin sign-cert` signs one with the CA's Secret, and `ssh` writes an
`ssh_config` and runs `ssh`. All of them use the key pair in `~/.kubepark`, which the first of them
generates (`ensureKeyPair`).

What a command asks of its surroundings is a call : of the file system, of the network, of the
browser, of the API server, and of the clock and randomness.
-/

namespace Kubepark

namespace Cli

open ApiServer Client Gateway

/-! ## Calls -/

/-- The parts of the URL that the user is asked to open. -/
structure LoginURL where
  clientID : String
  redirectURL : String
  scopes : List String
  state : String
  verifier : String

/-- What ends the wait for the browser : the first of the callbacks that have been answered, with
what is in its query, or the end of the patience. -/
inductive BrowserEvent
  | callback (state code : String)
  | canceled (e : ApiError)
  | timedOut

/-- What `http.DefaultClient` returns. -/
structure HTTPResponse where
  statusCode : Nat
  /-- The code with its text. -/
  status : String
  body : List UInt8

inductive CliOp
  | api (op : Call)
  | userHomeDir
  | mkdirAll (path : String)
  | stat (path : String)
  | readFile (path : String)
  | writeFile (path content : String)
  | http (method url : String) (body : List UInt8)
  /-- `oidc.NewProvider`. -/
  | newProvider (issuer : String)
  /-- Listen on a local port; the answer is the address. -/
  | listen
  | generateVerifier
  | randomString
  | showURL (url : LoginURL)
  | awaitCallback
  /-- Exchange a code for a token; the answer is the raw ID token, if the token has one. -/
  | exchange (redirectURL code verifier : String)
  | answerBrowser (message : String) (code : Nat)
  /-- Load the kubeconfig and make a client. -/
  | kubeconfig
  | lookPath (name : String)
  /-- Replace the process; the answer is only seen when that fails. -/
  | exec (path : String) (args : List String)

@[reducible] def CliResp : CliOp → Type
  | .api op => Resp Spec Status op
  | .userHomeDir => Except ApiError String
  | .mkdirAll _ => Except ApiError Unit
  | .stat _ => Except ApiError Unit
  | .readFile _ => Except ApiError String
  | .writeFile _ _ => Except ApiError Unit
  | .http _ _ _ => Except ApiError HTTPResponse
  | .newProvider _ => Except ApiError Unit
  | .listen => Except ApiError String
  | .generateVerifier => String
  | .randomString => String
  | .showURL _ => Unit
  | .awaitCallback => BrowserEvent
  | .exchange _ _ _ => Except ApiError (Option String)
  | .answerBrowser _ _ => Unit
  | .kubeconfig => Except ApiError Unit
  | .lookPath _ => Except ApiError String
  | .exec _ _ => Except ApiError Unit

abbrev CliM (α : Type) := Routine CliOp CliResp Unit ApiError α

def ask (op : CliOp) : CliM (CliResp op) :=
  Routine.lift (Prog.ask op)

def api {α : Type} (x : ClientM Unit α) : CliM α :=
  x.via CliOp.api fun _ r => r

/-! ## The key pair -/

/-- `filepath.Join`, for a directory that is clean. -/
def join (dir name : String) : String :=
  dir ++ "/" ++ name

/-- Where everything is kept. -/
def configDir : CliM String := do
  let home ← Routine.ofExcept (← ask .userHomeDir)
  let dir := join home ".kubepark"
  Routine.ofExcept (← ask (.mkdirAll dir))
  pure dir

def privPath (dir : String) : String :=
  join dir "id_ed25519"

def pubPath (dir : String) : String :=
  privPath dir ++ ".pub"

/-- The paths of the private and of the public key. They are generated unless there is a file for
the private one. -/
def ensureKeyPair (kt : KeyText) : CliM (String × String) := do
  let dir ← configDir
  match ← ask (.stat (privPath dir)) with
  | .ok () => pure (privPath dir, pubPath dir)
  | .error _ =>
    let kp ← api (generateKeyPair "kubepark-cli")
    Routine.ofExcept ((← ask (.writeFile (privPath dir) (kt.write kp.privatePEM))).mapError
      (.wrap "write private key"))
    Routine.ofExcept ((← ask (.writeFile (pubPath dir) (kt.write kp.publicAuthorized))).mapError
      (.wrap "write public key"))
    pure (privPath dir, pubPath dir)

def certPath : CliM String := do
  let dir ← configDir
  pure (join dir "id_ed25519-cert.pub")

/-! ## The login -/

structure GatewayConfig where
  issuer : String
  clientID : String
  principalClaim : String
  deriving DecidableEq, Repr

def GatewayConfig.decode (body : List UInt8) : Option GatewayConfig := do
  let v ← Json.decodeFirst body
  some ⟨← Json.stringField "issuer" v, ← Json.stringField "clientId" v,
    ← Json.stringField "principalClaim" v⟩

/-- The result of `Decode`. -/
def decoded {α : Type} (r : Option α) : CliM α :=
  match r with
  | none => Routine.fail .other
  | some a => pure a

/-- The status of the response is not looked at. -/
def fetchGatewayConfig (gatewayURL : String) : CliM GatewayConfig := do
  let resp ← Routine.ofExcept ((← ask (.http "GET" (gatewayURL ++ "/v1/config") [])).mapError
    (.wrap "fetch gateway config"))
  decoded (GatewayConfig.decode resp.body)

/-- The handler of the callback : the ID token of the code, if the state is the one of this
login. -/
def callback (redirectURL state verifier queryState code : String) : CliM String := do
  if queryState ≠ state then
    ask (.answerBrowser "state mismatch" 400)
    Routine.fail (.text "state mismatch")
  else
    match ← ask (.exchange redirectURL code verifier) with
    | .error e =>
      ask (.answerBrowser "token exchange failed" 502)
      Routine.fail e
    | .ok none =>
      ask (.answerBrowser "no id_token in response" 502)
      Routine.fail (.text "no id_token returned")
    | .ok (some rawID) =>
      ask (.answerBrowser "kubepark login complete; you may close this tab." 200)
      pure rawID

/-- A login in the browser; the raw ID token. -/
def oidcAuthCodeFlow (clientID : String) : CliM String := do
  let addr ← Routine.ofExcept (← ask .listen)
  let redirectURL := "http://" ++ addr ++ "/callback"
  let verifier ← ask .generateVerifier
  let state ← ask .randomString
  ask (.showURL ⟨clientID, redirectURL, ["openid", "email", "profile"], state, verifier⟩)
  match ← ask .awaitCallback with
  | .canceled e => Routine.fail e
  | .timedOut => Routine.fail (.text "timed out waiting for OIDC callback")
  | .callback queryState code => callback redirectURL state verifier queryState code

/-- The certificate and the principal for a public key and an ID token. -/
def requestCert (gatewayURL publicKey idToken : String) : CliM SignResponse := do
  let body := SignRequest.marshal ⟨publicKey, idToken⟩
  let resp ← Routine.ofExcept ((← ask (.http "POST" (gatewayURL ++ "/v1/sign") body)).mapError
    (.wrap "sign request"))
  if resp.statusCode ≠ 200 then
    Routine.fail (.text ("sign request failed: " ++ resp.status))
  else decoded (SignResponse.decode resp.body)

def runLogin (kt : KeyText) (gatewayURL : String) : CliM Unit := do
  let cfg ← fetchGatewayConfig gatewayURL
  if cfg.issuer = "" then Routine.fail (.text "gateway has no OIDC issuer configured")
  else
    Routine.ofExcept ((← ask (.newProvider cfg.issuer)).mapError (.wrap "discover OIDC provider"))
    let idToken ← oidcAuthCodeFlow cfg.clientID
    let paths ← ensureKeyPair kt
    let pub ← Routine.ofExcept (← ask (.readFile paths.2))
    let response ← requestCert gatewayURL pub idToken
    let out ← certPath
    Routine.ofExcept (← ask (.writeFile out response.certificate))

/-! ## Signing with the CA's Secret -/

def runSignCert (kt : KeyText) (principal ns : String) (ttl : Duration) : CliM Unit := do
  let paths ← ensureKeyPair kt
  let pub ← Routine.ofExcept (← ask (.readFile paths.2))
  Routine.ofExcept ((← ask .kubeconfig).mapError (.wrap "load kubeconfig"))
  let result ← (api (get Kind.secret ⟨ns, "kubepark-ca"⟩) : CliM Secret).runFrom ()
  let secret ← Routine.ofExcept (result.1.mapError (.wrap "read kubepark-ca secret"))
  let signer ← Routine.ofExcept (newSigner (Secret.entry secret "user-ca.key") ttl)
  let cert ← api (signer.sign (kt.read pub) principal)
  let out ← certPath
  Routine.ofExcept (← ask (.writeFile out (kt.write cert)))

/-! ## The connection -/

/-- The host and the port of an address : the part before and after the last colon, if there is
one. -/
def splitHostPort (addr : String) : String × String :=
  let l := addr.toList
  let after := l.reverse.takeWhile (· ≠ ':')
  let (host, port) := if after.length = l.length then (addr, "2222")
    else (String.ofList (l.take (l.length - after.length - 1)), String.ofList after.reverse)
  (if host = "" then "localhost" else host, port)

/-- The text of the `ssh_config`. -/
def sshConfig (gwHost gwPort gatewayUser priv gwKnownHosts cert knownHosts : String) : String :=
  "# Generated by kubepark; do not edit.\n" ++
  "Host kubepark-gateway\n" ++
  "    HostName " ++ gwHost ++ "\n" ++
  "    Port " ++ gwPort ++ "\n" ++
  "    User " ++ gatewayUser ++ "\n" ++
  "    IdentityFile " ++ priv ++ "\n" ++
  "    IdentitiesOnly yes\n" ++
  "    UserKnownHostsFile " ++ gwKnownHosts ++ "\n" ++
  "    StrictHostKeyChecking accept-new\n" ++
  "\n" ++
  "Host * !kubepark-gateway\n" ++
  "    ProxyJump kubepark-gateway\n" ++
  "    IdentityFile " ++ priv ++ "\n" ++
  "    CertificateFile " ++ cert ++ "\n" ++
  "    IdentitiesOnly yes\n" ++
  "    ConnectTimeout 180\n" ++
  knownHosts

/-- The lines on the host keys of sandboxes. A host CA is put in the known hosts. -/
def knownHostsLines (dir hostCAPath : String) : CliM String := do
  if hostCAPath ≠ "" then
    let khPath := join dir "known_hosts"
    let caPub ← Routine.ofExcept ((← ask (.readFile hostCAPath)).mapError (.wrap "read host CA"))
    Routine.ofExcept (← ask (.writeFile khPath ("@cert-authority * " ++ caPub)))
    pure ("    UserKnownHostsFile " ++ khPath ++ "\n    StrictHostKeyChecking yes\n")
  else pure "    StrictHostKeyChecking accept-new\n"

def writeSSHConfig (kt : KeyText) (gatewayAddr gatewayUser hostCAPath : String) : CliM String := do
  let dir ← configDir
  let paths ← ensureKeyPair kt
  let cert ← certPath
  let gw := splitHostPort gatewayAddr
  let knownHosts ← knownHostsLines dir hostCAPath
  let cfg := sshConfig gw.1 gw.2 gatewayUser paths.1 (join dir "known_hosts") cert knownHosts
  Routine.ofExcept (← ask (.writeFile (join dir "ssh_config") cfg))
  pure (join dir "ssh_config")

def execSSH (cfgPath target : String) : CliM Unit := do
  let sshPath ← Routine.ofExcept ((← ask (.lookPath "ssh")).mapError
    (.wrap "ssh not found on PATH"))
  Routine.ofExcept (← ask (.exec sshPath ["ssh", "-F", cfgPath, target]))

/-! ## The commands -/

inductive Command
  | login (gatewayURL : String)
  | signCert (principal ns : String) (ttl : Duration)
  | ssh (sandbox ns gatewayAddr gatewayUser hostCAPath : String) (printConfig : Bool)

def Command.run (kt : KeyText) : Command → CliM Unit
  | .login gatewayURL =>
    if gatewayURL = "" then
      Routine.fail (.text
        "--gateway-url is required (e.g. https://gateway.example.com:8080)")
    else runLogin kt gatewayURL
  | .signCert principal ns ttl =>
    if principal = "" then Routine.fail (.text "--principal is required")
    else runSignCert kt principal ns ttl
  | .ssh sandbox ns gatewayAddr gatewayUser hostCAPath printConfig => do
    let target := if ns ≠ "" then sandbox ++ "." ++ ns else sandbox
    let cfgPath ← writeSSHConfig kt gatewayAddr gatewayUser hostCAPath
    if printConfig then pure () else execSSH cfgPath target

end Cli

end Kubepark
