import Kubepark.Encoding
import Kubepark.GatewayStore
import Kubepark.PassGuarantees

/-!
# The HTTP proxy

`httproute.go`, `httpproxy.go` and `cookieauth.go` : what the gateway does with one HTTP request.
The host names a port, a sandbox and a namespace; a port with `auth: oidc` asks for a session
cookie whose principal may use it; a login goes through the identity provider and ends with a
signed cookie. Everything a handler does is a call : of the API server, of the identity
provider, or a part of the response.

`Forwardable` is what the proxy has checked of a request it forwards. Every forwarded request
meets it, and no request writes to the API server (`serveHTTP_forwards`). A cookie that carries
the right code was signed by the gateway : that is the assumption on the code (`Unforgeable`).
-/

namespace Kubepark

namespace Gateway

open ApiServer Client Routine

/-! ## The host -/

/-- A parsed HTTP routing host. -/
structure HTTPTarget where
  port : String
  sandbox : String
  namespaceName : String
  deriving DecidableEq, Repr

/-- The limit of a single DNS label. -/
def maxLabelLen : Nat :=
  63

/-- `strings.ToLower`, over the case table `lower` of `unicode.ToLower`. -/
def toLower (lower : Char → Char) (s : String) : String :=
  String.ofList (s.toList.map lower)

/-- The routing label of a host. -/
def routingLabel (host baseDomain : String) : Except String String :=
  if baseDomain ≠ "" then
    match Text.trimSuffix? host ("." ++ Text.trimPrefix baseDomain ".") with
    | none => .error ("host " ++ quote host ++ " is not under base domain " ++ quote baseDomain)
    | some label => .ok label
  else
    match Text.cut host "." with
    | some (label, _) => .ok label
    | none => .ok host

/-- The port, sandbox and namespace of a routing label. The first separator ends the port, the
second the sandbox. -/
def parseLabel (label : String) : Except String HTTPTarget :=
  if maxLabelLen < label.utf8ByteSize then
    .error ("routing label " ++ quote label ++ " exceeds " ++ toString maxLabelLen ++ " characters")
  else
    match Text.cut label "--" with
    | none => .error ("host label " ++ quote label ++ " missing separators")
    | some (port, rest) =>
      match Text.cut rest "--" with
      | none => .error ("host label " ++ quote label ++ " missing namespace")
      | some (sandbox, namespaceName) =>
        if port = "" ∨ sandbox = "" ∨ namespaceName = "" then
          .error ("host label " ++ quote label ++ " has an empty component")
        else if port ++ "--" ++ sandbox ++ "--" ++ namespaceName ≠ label then
          .error ("host label " ++ quote label ++ " is ambiguous")
        else .ok ⟨port, sandbox, namespaceName⟩

/-- Parse a host `<port>--<sandbox>--<ns>.<baseDomain>`. -/
def parseHTTPHost (lower : Char → Char) (host baseDomain : String) : Except String HTTPTarget := do
  let host := toLower lower (trimSpace host)
  let host := ((Text.cut host ":").map (·.1)).getD host
  parseLabel (← routingLabel host baseDomain)

example : (parseHTTPHost Char.toLower "Web--dev--team.Box.test:8443" "box.test").toOption =
    some ⟨"web", "dev", "team"⟩ := by decide +kernel

/-- A label that parses is the three parts with separators between them, so that no two targets
share one. -/
theorem label_of_parseLabel {label : String} {target : HTTPTarget}
    (h : parseLabel label = .ok target) :
    label = target.port ++ "--" ++ target.sandbox ++ "--" ++ target.namespaceName := by
  simp only [parseLabel] at h
  split_ifs at h
  split at h
  · cases h
  · split at h
    · cases h
    · split_ifs at h with _ hsame
      cases h
      exact (not_not.mp hsame).symm

/-! ## Requests and what is asked while one is handled -/

structure HttpRequest where
  host : String
  path : String
  /-- The URL as it prints. -/
  url : String
  query : List (String × String) := []
  cookies : List (String × String) := []

/-- `r.Cookie` : the first cookie of the name. -/
def HttpRequest.cookie (r : HttpRequest) (name : String) : Option String :=
  r.cookies.lookup name

/-- `r.URL.Query().Get`. -/
def HttpRequest.queryValue (r : HttpRequest) (name : String) : String :=
  (r.query.lookup name).getD ""

/-- A cookie of a response. All are for the whole host and out of reach of scripts. -/
structure SetCookie where
  name : String
  value : String
  path : String := "/"
  httpOnly : Bool := true
  secure : Bool
  sameSite : String := "Lax"
  maxAge : Int

/-- A value of a claim, as far as `identityFromToken` tells values apart. -/
inductive ClaimValue
  | string (s : String)
  /-- The elements that are strings are `some`. -/
  | array (elements : List (Option String))
  | other

/-- What the handler of a request asks of its surroundings. -/
inductive HttpOp
  | api (op : Call)
  /-- Sixteen random bytes, as text. -/
  | randomString
  /-- Exchange a code for a token; the answer is the raw ID token, if the token has one. -/
  | exchange (code : String)
  /-- Verify an ID token; the answer is its claims, if they can be read. -/
  | verify (rawID : String)
  | setCookie (cookie : SetCookie)
  | redirect (location : String) (code : Nat)
  | error (message : String) (code : Nat)
  /-- Proxy the request to the upstream. -/
  | forward (upstream : String)

@[reducible] def HttpResp : HttpOp → Type
  | .api op => Resp Spec Status op
  | .randomString => String
  | .exchange _ => Except Unit (Option String)
  | .verify _ => Except Unit (Option (List (String × ClaimValue)))
  | .setCookie _ => Unit
  | .redirect _ _ => Unit
  | .error _ _ => Unit
  | .forward _ => Unit

abbrev HttpM (α : Type) := Routine HttpOp HttpResp Unit ApiError α

namespace Http

/-- A call. -/
def ask (op : HttpOp) : HttpM (HttpResp op) :=
  Routine.lift (Prog.ask op)

/-- A routine over the API server, with its error if there is one. -/
def api {α : Type} (x : ClientM Unit α) : HttpM (Except ApiError α) := do
  let result ← (x.via HttpOp.api fun _ r => r : HttpM α).runFrom ()
  pure result.1

end Http

open Http

/-! ## The session cookie -/

def sessionCookie : String :=
  "kubepark_session"

def stateCookie : String :=
  "kubepark_oidc_state"

def oidcCallbackPath : String :=
  "/kubepark/oidc/callback"

structure SessionClaims where
  principal : String
  groups : List String := []
  expiry : Int64
  deriving DecidableEq, Repr

/-- The authenticator. `marshal` and `unmarshal` are `json.Marshal` and `json.Unmarshal` at
`SessionClaims`, `hmac` is HMAC-SHA256 and `authCodeURL` the URL of the provider's login page. -/
structure CookieAuthenticator where
  claim : String
  hmacKey : Blob
  ttl : Duration
  secure : Bool
  marshal : SessionClaims → List UInt8
  unmarshal : List UInt8 → Option SessionClaims
  hmac : Blob → String → List UInt8
  authCodeURL : String → String

namespace CookieAuthenticator

variable (a : CookieAuthenticator)

/-- The code of a payload. -/
def signature (payload : String) : String :=
  Base64.encodeToString (a.hmac a.hmacKey payload)

def signCookie (claims : SessionClaims) : String :=
  let b := Base64.encodeToString (a.marshal claims)
  b ++ "." ++ a.signature b

def verifyCookie (value : String) : Option SessionClaims :=
  match Text.cut value "." with
  | none => none
  | some (b, sig) =>
    if sig ≠ a.signature b then none
    else (Base64.decodeString b).bind a.unmarshal

/-- Of the claims `issued`, `json` reads what it wrote. -/
def Faithful (issued : SessionClaims → Prop) : Prop :=
  ∀ claims, issued claims → a.unmarshal (a.marshal claims) = some claims

/-- A signed cookie is verified with the claims it was signed for. -/
theorem verifyCookie_signCookie {issued : SessionClaims → Prop} (ha : a.Faithful issued)
    {claims : SessionClaims} (hclaims : issued claims) :
    a.verifyCookie (a.signCookie claims) = some claims := by
  have hcut : Text.cut (a.signCookie claims) "." = some (Base64.encodeToString (a.marshal claims),
      a.signature (Base64.encodeToString (a.marshal claims))) :=
    Text.cut_append (Base64.dot_not_mem (a.marshal claims))
  simp only [verifyCookie, hcut, ne_eq, not_true_eq_false, ↓reduceIte,
    Base64.decodeString_encodeToString, Option.bind_some]
  exact ha claims hclaims

/-- Whoever presents a payload with its code has it from the gateway, which signed the claims
`issued`. -/
def Unforgeable (issued : SessionClaims → Prop) (r : HttpRequest) : Prop :=
  ∀ value, (sessionCookie, value) ∈ r.cookies → ∀ b, value = b ++ "." ++ a.signature b →
    ∃ claims, issued claims ∧ b = Base64.encodeToString (a.marshal claims)

/-- A cookie that is verified was signed by the gateway, for the claims it is verified with. -/
theorem signed_of_verifyCookie {issued : SessionClaims → Prop} {r : HttpRequest}
    (ha : a.Faithful issued) (hissued : a.Unforgeable issued r) {value : String}
    (hvalue : (sessionCookie, value) ∈ r.cookies) {claims : SessionClaims}
    (h : a.verifyCookie value = some claims) :
    issued claims ∧ value = a.signCookie claims := by
  simp only [verifyCookie] at h
  split at h
  · cases h
  · rename_i b sig hcut
    split_ifs at h with hsig
    have hsig : sig = a.signature b := not_not.mp hsig
    have hsplit : value = b ++ "." ++ a.signature b := by
      rw [← hsig]
      exact Text.eq_of_cut hcut
    obtain ⟨claims', hclaims', rfl⟩ := hissued value hvalue b hsplit
    rw [Base64.decodeString_encodeToString, Option.bind_some, ha claims' hclaims'] at h
    obtain rfl := Option.some.inj h
    exact ⟨hclaims', hsplit⟩

/-- The identity of a request : the claims of a verified cookie that has not expired. -/
def identify (r : HttpRequest) : HttpM (Option SessionClaims) := do
  match r.cookie sessionCookie with
  | none => pure none
  | some value =>
    match a.verifyCookie value with
    | none => pure none
    | some claims =>
      let t ← api now
      match t with
      | .error _ => pure none
      | .ok t => if claims.expiry.toInt < unixSeconds t then pure none else pure (some claims)

/-- Redirect into the login, remembering the URL that was asked for. -/
def startLogin (r : HttpRequest) : HttpM Unit := do
  let state ← ask .randomString
  ask (.setCookie
    { name := stateCookie, value := state ++ "|" ++ r.url, secure := a.secure, maxAge := 600 })
  ask (.redirect (a.authCodeURL state) 302)

/-- The principal and the groups of an ID token. -/
def identityFromToken (claims : Option (List (String × ClaimValue))) (claim : String) :
    String × List String :=
  match claims with
  | none => ("", [])
  | some raw =>
    (match raw.lookup claim with
      | some (.string s) => s
      | _ => "",
    match raw.lookup "groups" with
      | some (.array elements) => elements.filterMap id
      | _ => [])

/-- Set the session cookie and return to the URL that was asked for. -/
def finishLogin (principal : String) (groups : List String) (returnTo : String) : HttpM Unit := do
  match ← api now with
  | .error _ => pure ()
  | .ok t =>
    let value := a.signCookie
      { principal := principal
        groups := groups
        expiry := Int64.ofInt (unixSeconds (t + a.ttl)) }
    ask (.setCookie
      { name := sessionCookie, value := value, secure := a.secure, maxAge := a.ttl.tdiv second })
    ask (.redirect (if returnTo = "" then "/" else returnTo) 302)

/-- The redirect back from the identity provider. -/
def callback (r : HttpRequest) : HttpM Unit := do
  match r.cookie stateCookie with
  | none => ask (.error "missing state" 400)
  | some stateRaw =>
    let (state, returnTo) := (Text.cut stateRaw "|").getD (stateRaw, "")
    if state ≠ r.queryValue "state" then ask (.error "state mismatch" 400)
    else
      match ← ask (.exchange (r.queryValue "code")) with
      | .error _ => ask (.error "token exchange failed" 502)
      | .ok none => ask (.error "no id_token" 502)
      | .ok (some rawID) =>
        match ← ask (.verify rawID) with
        | .error _ => ask (.error "invalid id_token" 401)
        | .ok claims =>
          let (principal, groups) := identityFromToken claims a.claim
          if principal = "" then ask (.error "no principal claim" 400)
          else a.finishLogin principal groups returnTo

/-- Whether a request targets the callback path. -/
def isCallback (_ : CookieAuthenticator) (r : HttpRequest) : Bool :=
  r.path = oidcCallbackPath

end CookieAuthenticator

/-! ## The proxy -/

/-- The configuration of the proxy. `urlParses` tells which texts `url.Parse` accepts. -/
structure HTTPProxyConfig where
  baseDomain : String
  /-- Without it, only ports with `auth: none` are reachable. -/
  auth : Option CookieAuthenticator
  urlParses : String → Bool
  lower : Char → Char

/-- The exposed port with the given name. -/
def findExposedPort (sb : Sandbox) (name : String) : Option ExposedPort :=
  sb.spec.exposedPorts.find? fun p => p.name = name

/-- The owner, and whom the port allows. -/
def authorizedForPort (sb : Sandbox) (port : ExposedPort) (principal : String)
    (groups : List String) : Bool :=
  principal = sb.spec.owner.name || port.allowedUsers.contains principal ||
    groups.any fun g => port.allowedGroups.contains g

/-- The upstream of a port, by default. -/
def dialAddr (sb : Sandbox) (port : Nat) : String :=
  "http://" ++ sb.status.podIP ++ ":" ++ toString port

namespace HTTPProxyConfig

variable (p : HTTPProxyConfig)

/-- The part of the handler after authorization. -/
def proxy (sb : Sandbox) (port : ExposedPort) : HttpM Unit := do
  if sb.status.podIP = "" then ask (.error "sandbox is suspended" 503)
  else if p.urlParses (dialAddr sb port.port) then ask (.forward (dialAddr sb port.port))
  else ask (.error "bad upstream" 500)

/-- The part of the handler for a port with `auth: oidc`. -/
def serveOIDC (r : HttpRequest) (sb : Sandbox) (port : ExposedPort) : HttpM Unit := do
  match p.auth with
  | none => ask (.error "OIDC is not configured on this gateway" 503)
  | some a =>
    match ← a.identify r with
    | none => a.startLogin r
    | some claims =>
      if authorizedForPort sb port claims.principal claims.groups then p.proxy sb port
      else ask (.error "forbidden" 403)

/-- The part of the handler after the callback is ruled out. -/
def serveRoute (r : HttpRequest) : HttpM Unit := do
  match parseHTTPHost p.lower r.host p.baseDomain with
  | .error _ => ask (.error "unknown route" 404)
  | .ok target =>
    match ← api (getSandbox target.namespaceName target.sandbox) with
    | .error _ => ask (.error "sandbox not found" 404)
    | .ok sb =>
      match findExposedPort sb target.port with
      | none => ask (.error "port not exposed" 404)
      | some port => if port.auth = .oidc then p.serveOIDC r sb port else p.proxy sb port

def serveHTTP (r : HttpRequest) : HttpM Unit :=
  match p.auth with
  | some a => if a.isCallback r then a.callback r else p.serveRoute r
  | none => p.serveRoute r

end HTTPProxyConfig

/-! ## What is checked before a request is forwarded -/

/-- The handler of a request : the API server may fail, everything else leaves the cluster
alone. -/
def HttpStep : (op : HttpOp) → Cluster → HttpResp op → Cluster → Prop
  | .api op, c, r, c' => Step op c r c'
  | .randomString, c, _, c' => c' = c
  | .exchange _, c, _, c' => c' = c
  | .verify _, c, _, c' => c' = c
  | .setCookie _, c, _, c' => c' = c
  | .redirect _ _, c, _, c' => c' = c
  | .error _ _, c, _, c' => c' = c
  | .forward _, c, _, c' => c' = c

/-- The request carries a cookie the gateway signed, it has not expired, and its identity may use
the port. -/
def Admitted (p : HTTPProxyConfig) (issued : SessionClaims → Prop) (r : HttpRequest) (c : Cluster)
    (sb : Sandbox) (port : ExposedPort) : Prop :=
  ∃ a claims, p.auth = some a ∧ issued claims ∧
    (sessionCookie, a.signCookie claims) ∈ r.cookies ∧
    unixSeconds c.clock ≤ claims.expiry.toInt ∧
    (claims.principal = sb.spec.owner.name ∨ claims.principal ∈ port.allowedUsers ∨
      ∃ g ∈ claims.groups, g ∈ port.allowedGroups)

/-- What the proxy has checked when it forwards the request to `upstream` : the host, the sandbox
and the port it names, and who is asking. -/
structure Forwardable (p : HTTPProxyConfig) (issued : SessionClaims → Prop) (r : HttpRequest)
    (c : Cluster) (upstream : String) (target : HTTPTarget) (sb : Sandbox) (port : ExposedPort) :
    Prop where
  host : parseHTTPHost p.lower r.host p.baseDomain = .ok target
  stored : c.find? .sandbox ⟨target.namespaceName, target.sandbox⟩ = some sb
  podIP : sb.status.podIP ≠ ""
  exposed : port ∈ sb.spec.exposedPorts
  name : port.name = target.port
  upstream : upstream = "http://" ++ sb.status.podIP ++ ":" ++ toString port.port
  auth : port.auth = .none ∨ Admitted p issued r c sb port

section Forward

variable {p : HTTPProxyConfig} {issued : SessionClaims → Prop} {r : HttpRequest} {c : Cluster}

/-- The calls of the API server that a request makes. -/
inductive ReadCall : Call → Prop
  | get (k : Kind) (key : ObjectKey) : ReadCall (.get k key)
  | now : ReadCall .now

theorem ReadCall.state {call : Call} (h : ReadCall call) {c c' : Cluster}
    {a : Resp Spec Status call} (hs : Step call c a c') : c' = c := by
  cases h with
  | get k key => exact hs.get_state
  | now =>
    rcases hs.state with h | h
    · exact h
    · exact h

/-- The calls of a request made from `c` : it reads, and forwards what it has checked. -/
def HttpCall (p : HTTPProxyConfig) (issued : SessionClaims → Prop) (r : HttpRequest) (c : Cluster)
    (op : HttpOp) (c' : Cluster) : Prop :=
  c' = c ∧ (∀ call, op = .api call → ReadCall call) ∧
    ∀ upstream, op = .forward upstream → ∃ target sb port,
      Forwardable p issued r c upstream target sb port

theorem httpCall_read {call : Call} (h : ReadCall call) :
    HttpCall p issued r c (.api call) c :=
  ⟨rfl, fun _ he => HttpOp.api.inj he ▸ h, nofun⟩

/-- A call that is neither a read nor a forward. -/
def HttpOp.responds : HttpOp → Bool
  | .api _ => false
  | .forward _ => false
  | _ => true

theorem httpCall_respond {op : HttpOp} (h : op.responds = true) : HttpCall p issued r c op c := by
  refine ⟨rfl, ?_, ?_⟩
  · rintro call rfl
    cases h
  · rintro upstream rfl
    cases h

/-- No call of a request changes the cluster. -/
theorem HttpCall.state {op : HttpOp} {c₁ c₂ : Cluster} {a : HttpResp op}
    (hop : HttpCall p issued r c op c₁) (hs : HttpStep op c₁ a c₂) : c₂ = c₁ := by
  cases op with
  | api call => exact (hop.2.1 call rfl).state hs
  | randomString | exchange | verify | setCookie | redirect | error | forward => exact hs

theorem wp_respond {op : HttpOp} {Q : HttpResp op → Unit → Cluster → Prop} (h : op.responds = true)
    (hQ : ∀ a, Q a () c) : (ask op).wp HttpStep (HttpCall p issued r c) Q () c := by
  refine wp_lift.mpr ⟨httpCall_respond h, fun a c' hstep => ?_⟩
  have hcall : HttpCall p issued r c op c := httpCall_respond h
  rw [hcall.state hstep]
  exact hQ a

theorem wp_api_getSandbox {namespaceName name : String}
    {Q : Except ApiError Sandbox → Unit → Cluster → Prop}
    (hQ : ∀ a, (∀ sb, a = .ok sb → c.find? .sandbox ⟨namespaceName, name⟩ = some sb) → Q a () c) :
    (api (getSandbox namespaceName name)).wp HttpStep (HttpCall p issued r c) Q () c := by
  refine ⟨httpCall_read (.get _ _), fun a c' hstep => ?_⟩
  have hread : Step (.get .sandbox ⟨namespaceName, name⟩) c a c' := hstep
  obtain rfl := hread.get_state
  cases a with
  | ok sb =>
    have hsb := hread.get_ok.1
    have hok : Q (.ok sb) () c' := by
      refine hQ (.ok sb) fun sb' he => ?_
      rw [← Except.ok.inj he]
      exact hsb
    exact hok
  | error e =>
    have herror : Q (.error e) () c' := hQ (.error e) fun sb' he => by cases he
    exact herror

theorem wp_api_now {Q : Except ApiError Time → Unit → Cluster → Prop} (hQ : Q (.ok c.clock) () c) :
    (api now).wp HttpStep (HttpCall p issued r c) Q () c := by
  refine ⟨httpCall_read .now, fun a c' hstep => ?_⟩
  have hnow : Step .now c a c' := hstep
  rcases hnow with ⟨rfl, rfl⟩ | ⟨e, -, hf, -⟩
  · exact hQ
  · exact hf.elim

/-- An identity is that of a cookie the gateway signed, and has not expired. -/
theorem wp_identify {a : CookieAuthenticator} (ha : a.Faithful issued)
    (hissued : a.Unforgeable issued r) :
    (a.identify r).wp HttpStep (HttpCall p issued r c) (fun identity _ c' => c' = c ∧
      ∀ claims, identity = some claims → issued claims ∧
        (sessionCookie, a.signCookie claims) ∈ r.cookies ∧
        unixSeconds c.clock ≤ claims.expiry.toInt) () c := by
  unfold CookieAuthenticator.identify
  cases hcookie : r.cookie sessionCookie with
  | none => exact ⟨rfl, nofun⟩
  | some value =>
    have hvalue : (sessionCookie, value) ∈ r.cookies := by
      obtain ⟨l₁, l₂, hcookies, -⟩ := List.lookup_eq_some_iff.mp hcookie
      rw [hcookies]
      simp
    cases hverify : a.verifyCookie value with
    | none =>
      simp only [hverify]
      exact ⟨rfl, nofun⟩
    | some claims =>
      simp only [hverify]
      obtain ⟨hclaims, rfl⟩ := a.signed_of_verifyCookie ha hissued hvalue hverify
      refine wp_bind.mpr (wp_api_now ?_)
      refine wp_ite (fun _ => ⟨rfl, nofun⟩) fun hexpired => ⟨rfl, ?_⟩
      rintro _ ⟨⟩
      exact ⟨hclaims, hvalue, Int.not_lt.mp hexpired⟩

theorem wp_startLogin (a : CookieAuthenticator) :
    (a.startLogin r).wp HttpStep (HttpCall p issued r c) (fun _ _ c' => c' = c) () c := by
  refine wp_bind.mpr (wp_respond rfl fun state => ?_)
  refine wp_bind.mpr (wp_respond rfl fun _ => ?_)
  exact wp_respond rfl fun _ => rfl

theorem wp_finishLogin (a : CookieAuthenticator) (principal : String) (groups : List String)
    (returnTo : String) : (a.finishLogin principal groups returnTo).wp HttpStep
      (HttpCall p issued r c) (fun _ _ c' => c' = c) () c := by
  refine wp_bind.mpr (wp_api_now ?_)
  refine wp_bind.mpr (wp_respond rfl fun _ => ?_)
  exact wp_respond rfl fun _ => rfl

theorem wp_callback (a : CookieAuthenticator) :
    (a.callback r).wp HttpStep (HttpCall p issued r c) (fun _ _ c' => c' = c) () c := by
  have herror : ∀ message code, (ask (.error message code) : HttpM Unit).wp HttpStep
      (HttpCall p issued r c) (fun _ _ c' => c' = c) () c :=
    fun _ _ => wp_respond rfl fun _ => rfl
  unfold CookieAuthenticator.callback
  cases r.cookie stateCookie with
  | none => exact herror _ _
  | some stateRaw =>
    refine wp_ite (fun _ => herror _ _) fun _ => ?_
    refine wp_bind.mpr (wp_respond rfl fun token => ?_)
    cases token with
    | error _ => exact herror _ _
    | ok rawID =>
      cases rawID with
      | none => exact herror _ _
      | some rawID =>
        refine wp_bind.mpr (wp_respond rfl fun claims => ?_)
        cases claims with
        | error _ => exact herror _ _
        | ok claims => exact wp_ite (fun _ => herror _ _) fun _ => wp_finishLogin a _ _ _

theorem wp_forward {upstream : String} (h : ∃ target sb port,
    Forwardable p issued r c upstream target sb port) :
    (ask (.forward upstream) : HttpM Unit).wp HttpStep (HttpCall p issued r c)
      (fun _ _ c' => c' = c) () c := by
  have hcall : HttpCall p issued r c (.forward upstream) c := by
    refine ⟨rfl, fun call he => (by cases he), fun _ he => ?_⟩
    rw [← HttpOp.forward.inj he]
    exact h
  exact wp_lift.mpr ⟨hcall, fun _ c' hstep => hstep⟩

/-- A sandbox that is proxied to has an address, and it is the one the request goes to. -/
theorem wp_proxy {target : HTTPTarget} {sb : Sandbox} {port : ExposedPort}
    (h : sb.status.podIP ≠ "" → Forwardable p issued r c (dialAddr sb port.port) target sb port) :
    (p.proxy sb port).wp HttpStep (HttpCall p issued r c) (fun _ _ c' => c' = c) () c := by
  refine wp_ite (fun _ => wp_respond rfl fun _ => rfl) fun hip => ?_
  refine wp_ite (fun _ => ?_) fun _ => wp_respond rfl fun _ => rfl
  exact wp_forward ⟨target, sb, port, h hip⟩

theorem authorizedForPort_iff {sb : Sandbox} {port : ExposedPort} {principal : String}
    {groups : List String} : authorizedForPort sb port principal groups = true ↔
      principal = sb.spec.owner.name ∨ principal ∈ port.allowedUsers ∨
        ∃ g ∈ groups, g ∈ port.allowedGroups := by
  simp [authorizedForPort, or_assoc]

end Forward

/-- Whatever the request and whatever is stored, the handler reads, and forwards what it has
checked. -/
theorem wp_serveHTTP (p : HTTPProxyConfig) (issued : SessionClaims → Prop) (r : HttpRequest)
    (c : Cluster) (hauth : ∀ a, p.auth = some a → a.Faithful issued ∧ a.Unforgeable issued r) :
    (p.serveHTTP r).wp HttpStep (HttpCall p issued r c) (fun _ _ c' => c' = c) () c := by
  have hroute : (p.serveRoute r).wp HttpStep (HttpCall p issued r c) (fun _ _ c' => c' = c) () c := by
    unfold HTTPProxyConfig.serveRoute
    cases hhost : parseHTTPHost p.lower r.host p.baseDomain with
    | error _ => exact wp_respond rfl fun _ => rfl
    | ok target =>
      refine wp_bind.mpr (wp_api_getSandbox fun found hfound => ?_)
      cases found with
      | error _ => exact wp_respond rfl fun _ => rfl
      | ok sb =>
        have hsb := hfound sb rfl
        cases hport : findExposedPort sb target.port with
        | none =>
          simp only [hport]
          exact wp_respond rfl fun _ => rfl
        | some port =>
          have hmem : port ∈ sb.spec.exposedPorts := List.mem_of_find?_eq_some hport
          have hname : port.name = target.port := by
            simpa using List.find?_some (p := fun p : ExposedPort => p.name = target.port) hport
          simp only [hport]
          refine wp_ite (fun hoidc => ?_) fun hopen => ?_
          · unfold HTTPProxyConfig.serveOIDC
            cases ha : p.auth with
            | none => exact wp_respond rfl fun _ => rfl
            | some a =>
              obtain ⟨hfaithful, hissued⟩ := hauth a ha
              refine wp_bind.mpr
                (wp_post (wp_identify hfaithful hissued) ?_)
              rintro identity ⟨⟩ c' ⟨rfl, hidentity⟩
              cases identity with
              | none => exact wp_startLogin a
              | some claims =>
                obtain ⟨hclaims, hcookie, hexpiry⟩ := hidentity claims rfl
                refine wp_ite (fun hallowed => ?_) fun _ => wp_respond rfl fun _ => rfl
                refine wp_proxy fun hip => ⟨hhost, hsb, hip, hmem, hname, rfl, Or.inr ?_⟩
                exact ⟨a, claims, ha, hclaims, hcookie, hexpiry, authorizedForPort_iff.mp hallowed⟩
          · have hnone : port.auth = .none := by
              cases hmode : port.auth with
              | oidc => exact absurd hmode hopen
              | none => rfl
            exact wp_proxy fun hip => ⟨hhost, hsb, hip, hmem, hname, rfl, Or.inl hnone⟩
  unfold HTTPProxyConfig.serveHTTP
  cases p.auth with
  | none => exact hroute
  | some a => exact wp_ite (fun _ => wp_callback a) fun _ => hroute

/-- However far a request gets : what is forwarded was checked, the API server is only read, and
the cluster is as it was. -/
theorem serveHTTP_forwards (p : HTTPProxyConfig) (issued : SessionClaims → Prop) (r : HttpRequest)
    (c c' : Cluster) (t : List (HttpOp × Cluster))
    (hauth : ∀ a, p.auth = some a → a.Faithful issued ∧ a.Unforgeable issued r)
    (h : (p.serveHTTP r ()).Visits HttpStep c t c') :
    (∀ e ∈ t, ∀ upstream, e.1 = .forward upstream → ∃ target sb port,
      Forwardable p issued r c upstream target sb port) ∧
    (∀ e ∈ t, ∀ call, e.1 = .api call → ReadCall call) ∧ c' = c := by
  have hcalls := h.wp (wp_serveHTTP p issued r c hauth)
  refine ⟨fun e he => (hcalls e he).2.2, fun e he => (hcalls e he).2.1, ?_⟩
  refine h.preserves (I := fun c' => c' = c) hcalls (fun op c₁ a c₂ hop hs hc₁ => ?_) rfl
  rw [hop.state hs]
  exact hc₁

/-! ## Alice's notebook -/

/-- Alice is logged in until the given second. -/
def aliceClaims : SessionClaims where
  principal := "alice"
  expiry := 1700000000

/-- The code of Alice's payload under the key `secret`. -/
def aliceCode : List UInt8 :=
  [6, 195, 95, 156, 36, 193, 67, 82, 3, 30, 94, 34, 218, 102, 120, 190, 231, 76, 134, 59,
      153, 57, 235, 159, 150, 17, 37, 239, 128, 21, 60, 14]

/-- The authenticator of the team, with its library functions as they are on Alice's cookie. -/
def teamAuthenticator : CookieAuthenticator where
  claim := "email"
  hmacKey := .raw "secret"
  ttl := 3600 * second
  secure := true
  marshal claims := ("\x7b\"p\":\"" ++ claims.principal ++ "\",\"e\":" ++
    toString claims.expiry.toInt ++ "\x7d").toUTF8.data.toList
  unmarshal _ := some aliceClaims
  hmac _ b := if b = "eyJwIjoiYWxpY2UiLCJlIjoxNzAwMDAwMDAwfQ" then aliceCode else []
  authCodeURL state := "https://idp.test/auth?state=" ++ state

def teamProxy : HTTPProxyConfig where
  baseDomain := "box.test"
  auth := some teamAuthenticator
  urlParses _ := true
  lower := Char.toLower

/-- Alice asks for the port `web` of her sandbox. -/
def aliceRequest : HttpRequest where
  host := "web--dev--team.box.test"
  path := "/"
  url := "/"
  cookies := [(sessionCookie, teamAuthenticator.signCookie aliceClaims)]

/-- Alice's sandbox runs and exposes `web` to her alone. -/
def exposed : Cluster :=
  let sb := Team.sandbox .running Team.running
  Team.cluster [Team.template]
    { sb with spec.exposedPorts := [{ name := "web", port := 8080, auth := .oidc }] } []

/-- A handler that answers API calls faithfully and refuses logins. -/
def serveHttp : (op : HttpOp) → Cluster → HttpResp op × Cluster
  | .api op, c => handle op c
  | .randomString, c => ("state", c)
  | .exchange _, c => (.error (), c)
  | .verify _, c => (.error (), c)
  | .setCookie _, c => ((), c)
  | .redirect _ _, c => ((), c)
  | .error _ _, c => ((), c)
  | .forward _, c => ((), c)

theorem httpStep_serveHttp (op : HttpOp) (c : Cluster) :
    HttpStep op c (serveHttp op c).1 (serveHttp op c).2 := by
  cases op with
  | api op => exact step_handle op c
  | randomString | exchange | verify | setCookie | redirect | error | forward => rfl

theorem alice_faithful : teamAuthenticator.Faithful (· = aliceClaims) :=
  fun _ h => congrArg some h.symm

/-- No other payload has the code of Alice's cookie. -/
theorem alice_unforgeable : teamAuthenticator.Unforgeable (· = aliceClaims) aliceRequest := by
  intro value hvalue b hb
  obtain rfl : value = teamAuthenticator.signCookie aliceClaims := by
    simpa [aliceRequest] using hvalue
  by_cases hpayload : b = Base64.encodeToString (teamAuthenticator.marshal aliceClaims)
  · exact ⟨aliceClaims, rfl, hpayload⟩
  · have halice : "eyJwIjoiYWxpY2UiLCJlIjoxNzAwMDAwMDAwfQ" =
        Base64.encodeToString (teamAuthenticator.marshal aliceClaims) := by decide +kernel
    have hother : b ≠ "eyJwIjoiYWxpY2UiLCJlIjoxNzAwMDAwMDAwfQ" := fun he =>
      hpayload (he.trans halice)
    have hsignature : teamAuthenticator.signature b = "" := by
      simp [CookieAuthenticator.signature, teamAuthenticator, hother, Base64.encodeToString,
        Base64.encode]
    have hlast : (b ++ "." ++ "").toList.getLast? = some '.' := by simp
    have hcookie : (teamAuthenticator.signCookie aliceClaims).toList.getLast? = some '4' := by
      decide +kernel
    rw [hb, hsignature, hlast] at hcookie
    exact absurd hcookie (by decide)

/-- What is asked while a request is handled. -/
def httpTrace (p : HTTPProxyConfig) (r : HttpRequest) (c : Cluster) : List (HttpOp × Cluster) :=
  (p.serveHTTP r ()).trace serveHttp c

/-- Whether the call forwards the request to `upstream`. -/
def HttpOp.forwardsTo (upstream : String) : HttpOp → Bool
  | .forward u => u = upstream
  | _ => false

/-- Alice's request reaches her notebook, and nothing but it. -/
theorem serveHTTP_forwards_alice :
    (httpTrace teamProxy aliceRequest exposed).any
      (fun e => e.1.forwardsTo "http://10.0.0.7:8080") = true ∧
    ∀ e ∈ httpTrace teamProxy aliceRequest exposed, ∀ upstream, e.1 = .forward upstream →
      ∃ target sb port,
        Forwardable teamProxy (· = aliceClaims) aliceRequest exposed upstream target sb port := by
  have hreached : (httpTrace teamProxy aliceRequest exposed).any
      (fun e => e.1.forwardsTo "http://10.0.0.7:8080") = true := by decide +kernel
  have hauth : ∀ a, teamProxy.auth = some a →
      a.Faithful (· = aliceClaims) ∧ a.Unforgeable (· = aliceClaims) aliceRequest := by
    intro a ha
    rw [← Option.some.inj ha]
    exact ⟨alice_faithful, alice_unforgeable⟩
  refine ⟨hreached, ?_⟩
  -- The request is kept a variable while the theorem is applied, so that it is not evaluated.
  generalize teamProxy = p, aliceRequest = r, exposed = c at hauth ⊢
  exact (serveHTTP_forwards p (· = aliceClaims) r c _ _ hauth
    (Prog.exec_run httpStep_serveHttp _ _).visits).1

end Gateway

end Kubepark
