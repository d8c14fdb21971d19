import Kubepark.CertificateValidity
import Kubepark.HttpProxy
import Kubepark.JsonFields

/-!
# The sign endpoint

`signhttp.go` : the gateway's `/v1/config` and `/v1/sign`. The command line asks for the
configuration of the identity provider, lets the user log in there, and posts a public key with
the ID token; the answer is a certificate for the principal that the token names.

Requests and answers are JSON in the bytes of HTTP bodies. Keys and certificates are symbolic, and
`KeyText` says how they are written as text. What the gateway asks of its surroundings while it
handles a request is a call : the body of the request, the verification of a token, the clock and
randomness, and the answer.
-/

namespace Kubepark

namespace Gateway

open ApiServer Client

/-! ## Texts of keys -/

/-- How keys and certificates are written as text, `MarshalAuthorizedKey` and the like, and read
again. The empty text is not a key. -/
structure KeyText where
  write : Blob → String
  read : String → Blob
  read_write : ∀ b, read (write b) = b
  read_empty : read "" = .raw ""

/-! ## Bodies -/

structure SignRequest where
  publicKey : String
  idToken : String
  deriving DecidableEq, Repr

/-- `Decode` at the request. -/
def SignRequest.decode (body : List UInt8) : Option SignRequest := do
  let v ← Json.decodeFirst body
  some ⟨← Json.stringField "publicKey" v, ← Json.stringField "idToken" v⟩

/-- The body that the command line sends : `Marshal` at a map, which sorts the keys. -/
def SignRequest.marshal (r : SignRequest) : List UInt8 :=
  Utf8.encode (Json.render (Json.ofStrings [("idToken", r.idToken), ("publicKey", r.publicKey)]))

structure SignResponse where
  certificate : String
  principal : String
  deriving DecidableEq, Repr

def SignResponse.toJson (r : SignResponse) : Json.Value :=
  Json.ofStrings [("certificate", r.certificate), ("principal", r.principal)]

/-- `Decode` at the answer, on the side of the client. -/
def SignResponse.decode (body : List UInt8) : Option SignResponse := do
  let v ← Json.decodeFirst body
  some ⟨← Json.stringField "certificate" v, ← Json.stringField "principal" v⟩

structure OIDCConfig where
  issuer : String
  clientID : String
  /-- The claim of an ID token that is the principal. -/
  principalClaim : String
  baseDomain : String
  gatewaySSHAddr : String

/-- The configuration as it is told to clients. The last two are left out when they are empty. -/
def OIDCConfig.toJson (cfg : OIDCConfig) : Json.Value :=
  Json.ofStrings ([("issuer", cfg.issuer), ("clientId", cfg.clientID),
    ("principalClaim", cfg.principalClaim)] ++
    (if cfg.baseDomain = "" then [] else [("baseDomain", cfg.baseDomain)]) ++
    (if cfg.gatewaySSHAddr = "" then [] else [("gatewaySshAddr", cfg.gatewaySSHAddr)]))

/-! ## The server -/

/-- `oidc.IDTokenVerifier` : the issuer and the audience it asks for. -/
structure IDTokenVerifier where
  issuer : String
  clientID : String
  deriving DecidableEq, Repr

/-- The claims of an ID token that was verified, or why they cannot be read. -/
abbrev TokenClaims := Except String (List (String × ClaimValue))

structure HTTPReply where
  status : Nat
  contentType : String
  body : List UInt8
  deriving DecidableEq, Repr

/-- What the handler of a request asks of its surroundings. -/
inductive SignOp
  | api (op : Call)
  /-- The bytes of the request's body. -/
  | readBody
  /-- Verify an ID token : issuer, audience, signature and expiry. -/
  | verify (verifier : IDTokenVerifier) (rawID : String)
  | respond (reply : HTTPReply)

@[reducible] def SignResp : SignOp → Type
  | .api op => Resp Spec Status op
  | .readBody => List UInt8
  | .verify _ _ => Except Unit TokenClaims
  | .respond _ => Unit

abbrev SignM (α : Type) := Routine SignOp SignResp Unit ApiError α

namespace Sign

def ask (op : SignOp) : SignM (SignResp op) :=
  Routine.lift (Prog.ask op)

/-- A routine over the API server, with its error if there is one. -/
def api {α : Type} (x : ClientM Unit α) : SignM (Except ApiError α) := do
  let result ← (x.via SignOp.api fun _ r => r : SignM α).runFrom ()
  pure result.1

/-- `http.Error`. -/
def errorReply (message : String) (code : Nat) : HTTPReply where
  status := code
  contentType := "text/plain; charset=utf-8"
  body := Utf8.encode (message.toList ++ ['\n'])

def error (message : String) (code : Nat) : SignM Unit :=
  ask (.respond (errorReply message code))

/-- The answer of `writeJSON`. -/
def jsonReply (status : Nat) (v : Json.Value) : HTTPReply where
  status := status
  contentType := "application/json"
  body := Utf8.encode (Json.render v ++ ['\n'])

def writeJSON (status : Nat) (v : Json.Value) : SignM Unit :=
  ask (.respond (jsonReply status v))

end Sign

def defaultPrincipalClaim : String :=
  "email"

structure SignServer where
  signer : Signer
  oidc : OIDCConfig
  verifier : Option IDTokenVerifier

/-- Without a claim in the configuration, the default one. -/
def OIDCConfig.withDefaults (cfg : OIDCConfig) : OIDCConfig :=
  if cfg.principalClaim = "" then { cfg with principalClaim := defaultPrincipalClaim } else cfg

/-- The sign server; `discover` is what `oidc.NewProvider` finds at an issuer. -/
def newSignServer (discover : String → Except ApiError Unit) (signer : Signer) (cfg : OIDCConfig) :
    Except ApiError SignServer := do
  let cfg := cfg.withDefaults
  if cfg.issuer ≠ "" then
    (discover cfg.issuer).mapError (.wrap "discover OIDC provider")
    pure { signer := signer, oidc := cfg, verifier := some ⟨cfg.issuer, cfg.clientID⟩ }
  else pure { signer := signer, oidc := cfg, verifier := none }

/-- The claim that is configured, as the principal. -/
def principalFromClaims (idToken : TokenClaims) (claim : String) : Except String String :=
  match idToken with
  | .error e => .error ("parse claims: " ++ e)
  | .ok claims =>
    match claims.lookup claim with
    | some (.string value) =>
      if value = "" then .error ("claim " ++ Kubepark.quote claim ++ " missing or not a string")
      else .ok value
    | _ => .error ("claim " ++ Kubepark.quote claim ++ " missing or not a string")

namespace SignServer

variable (kt : KeyText) (s : SignServer)

def handleConfig : SignM Unit :=
  Sign.writeJSON 200 s.oidc.toJson

def handleSign (method : String) : SignM Unit := do
  if method ≠ "POST" then Sign.error "method not allowed" 405
  else
    match s.verifier with
    | none => Sign.error "OIDC is not configured on this gateway" 503
    | some verifier =>
      let body ← Sign.ask .readBody
      match SignRequest.decode body with
      | none => Sign.error "invalid request body" 400
      | some req =>
        match ← Sign.ask (.verify verifier req.idToken) with
        | .error _ => Sign.error "invalid ID token" 401
        | .ok idToken =>
          match principalFromClaims idToken s.oidc.principalClaim with
          | .error e => Sign.error e 400
          | .ok principal =>
            match ← Sign.api (s.signer.sign (kt.read req.publicKey) principal) with
            | .error _ => Sign.error "signing failed" 500
            | .ok cert => Sign.writeJSON 200 (SignResponse.toJson ⟨kt.write cert, principal⟩)

/-- The handler of the two paths. -/
def handler (method path : String) : SignM Unit :=
  if path = "/v1/config" then s.handleConfig
  else if path = "/v1/sign" then s.handleSign kt method
  else Sign.error "404 page not found" 404

end SignServer

/-! ## What the functions return -/

section Returns

variable {claim principal : String} {idToken : TokenClaims}

theorem principalFromClaims_eq_ok : principalFromClaims idToken claim = .ok principal ↔
    principal ≠ "" ∧ ∃ claims, idToken = .ok claims ∧
      claims.lookup claim = some (.string principal) := by
  unfold principalFromClaims
  constructor
  · intro h
    split at h
    · cases h
    · split at h
      · rename_i hvalue
        split_ifs at h with hempty
        cases h
        exact ⟨hempty, _, rfl, hvalue⟩
      · cases h
  · rintro ⟨hne, claims, rfl, hvalue⟩
    simp only [hvalue, if_neg hne]

theorem OIDCConfig.issuer_withDefaults (cfg : OIDCConfig) :
    cfg.withDefaults.issuer = cfg.issuer := by
  unfold withDefaults
  split_ifs <;> rfl

theorem OIDCConfig.clientID_withDefaults (cfg : OIDCConfig) :
    cfg.withDefaults.clientID = cfg.clientID := by
  unfold withDefaults
  split_ifs <;> rfl

/-- What `newSignServer` makes of its configuration. -/
theorem newSignServer_eq_ok {discover : String → Except ApiError Unit} {signer : Signer}
    {cfg : OIDCConfig} {s : SignServer} (h : newSignServer discover signer cfg = .ok s) :
    s.signer = signer ∧ s.oidc = cfg.withDefaults ∧
      s.verifier = if cfg.issuer = "" then none else some ⟨cfg.issuer, cfg.clientID⟩ := by
  unfold newSignServer at h
  by_cases hissuer : cfg.issuer = ""
  · simp only [cfg.issuer_withDefaults, hissuer, ne_eq, not_true_eq_false, ↓reduceIte] at h
    cases h
    exact ⟨rfl, rfl, by rw [if_pos hissuer]⟩
  · simp only [cfg.issuer_withDefaults, cfg.clientID_withDefaults, hissuer, ne_eq,
      not_false_eq_true, ↓reduceIte] at h
    cases hdiscover : discover cfg.issuer with
    | error e =>
      rw [hdiscover] at h
      cases h
    | ok _ =>
      rw [hdiscover] at h
      cases h
      exact ⟨rfl, rfl, (if_neg hissuer).symm⟩

theorem parsePublicKey_eq_ok {blob : Blob} {key : Nat} :
    parsePublicKey blob = .ok key ↔ blob = .publicAuthorized key := by
  cases blob <;> simp [parsePublicKey]

/-- A request comes back from its JSON. -/
theorem decode_marshal (r : SignRequest) : SignRequest.decode r.marshal = some r := by
  have hnodup : ([("idToken", r.idToken), ("publicKey", r.publicKey)].map
      fun f => Json.foldName f.1.toList).Nodup := by
    simp only [List.map_cons, List.map_nil]
    decide
  have hfirst : Json.decodeFirst r.marshal =
      some (Json.ofStrings [("idToken", r.idToken), ("publicKey", r.publicKey)]) := by
    rw [SignRequest.marshal, ← List.append_nil (Json.render _),
      Json.decodeFirst_render (Json.integral_ofStrings _) Json.endsNumber_nil]
  rw [SignRequest.decode, hfirst]
  simp only [Option.bind_eq_bind, Option.bind_some]
  rw [Json.stringField_ofStrings (s := r.publicKey) hnodup (by simp), Option.bind_some,
    Json.stringField_ofStrings (s := r.idToken) hnodup (by simp), Option.bind_some]

/-- An answer comes back from its JSON. -/
theorem decode_signResponse (r : SignResponse) (status : Nat) :
    SignResponse.decode (Sign.jsonReply status r.toJson).body = some r := by
  have hnodup : ([("certificate", r.certificate), ("principal", r.principal)].map
      fun f => Json.foldName f.1.toList).Nodup := by
    simp only [List.map_cons, List.map_nil]
    decide
  rw [SignResponse.decode, Sign.jsonReply, SignResponse.toJson,
    Json.decodeFirst_render (Json.integral_ofStrings _) Json.endsNumber_newline]
  simp only [Option.bind_eq_bind, Option.bind_some]
  rw [Json.stringField_ofStrings (s := r.certificate) hnodup (by simp), Option.bind_some,
    Json.stringField_ofStrings (s := r.principal) hnodup (by simp), Option.bind_some]

/-- The configuration has no certificate in it. -/
theorem certificate_config {cfg : OIDCConfig} {status : Nat} {r : SignResponse}
    (h : SignResponse.decode (Sign.jsonReply status cfg.toJson).body = some r) :
    r.certificate = "" := by
  rw [SignResponse.decode, Sign.jsonReply, OIDCConfig.toJson,
    Json.decodeFirst_render (Json.integral_ofStrings _) Json.endsNumber_newline] at h
  simp only [Option.bind_eq_bind, Option.bind_some] at h
  rw [Json.stringField_ofStrings_other, Option.bind_some] at h
  · obtain ⟨principal, -, hr⟩ := Option.bind_eq_some_iff.mp h
    rw [← Option.some.inj hr]
  · split_ifs
    all_goals
      simp only [List.map_append, List.map_cons, List.map_nil]
      decide

end Returns

/-! ## Calls -/

section Calls

variable {S α β : Type} {s : S}

/-- A routine over the API server, with its errors. -/
theorem Sign.wp_api_bind {H : (op : SignOp) → S → SignResp op → S → Prop} {P : SignOp → S → Prop}
    {x : ClientM Unit α} {f : Except ApiError α → SignM β} {Q : Except ApiError β × Unit → S → Prop}
    (hx : (x ()).wp (fun op => H (.api op)) (fun op => P (.api op))
      (fun r s' => (f r.1 ()).wp H P Q s') s) : ((Sign.api x >>= f) ()).wp H P Q s := by
  refine Prog.wp_bind.mpr (Prog.wp_bind.mpr (Prog.wp_bind.mpr ?_))
  refine Prog.wp_via _ _ (Prog.Within.handler (Prog.within_true _) ?_ hx)
  rintro op s r s' - ⟨_, rfl, h⟩
  exact h

/-- What signing asks for, and what it returns : the certificate for the time that was read. It
fails without a key, without a principal and without randomness. -/
theorem Signer.wp_sign {H : (op : Call) → S → Resp Spec Status op → S → Prop} {P : Call → S → Prop}
    {Q : Except ApiError Blob × Unit → S → Prop} (signer : Signer) {blob : Blob}
    {principal : String} (hcall : ∀ op s, P op s)
    (hkeyless : ∀ e, (∀ key, blob ≠ .publicAuthorized key) → Q (.error e, ()) s)
    (hnameless : ∀ e t s₁, principal = "" → H .now s t s₁ → Q (.error e, ()) s₁)
    (hdry : ∀ e t s₁ e' s₂, H .now s t s₁ → H .fresh s₁ (.error e') s₂ → Q (.error e, ()) s₂)
    (hok : ∀ key t s₁ n s₂, blob = .publicAuthorized key → H .now s t s₁ →
      H .fresh s₁ (.ok n) s₂ → Q (.ok (.certAuthorized
        (userCertificate signer.ca key principal signer.ttl t (n % 2 ^ 64))), ()) s₂) :
    (signer.sign blob principal ()).wp H P Q s := by
  unfold Signer.sign
  cases hparse : parsePublicKey blob with
  | error e =>
    refine hkeyless _ fun key hkey => ?_
    rw [parsePublicKey_eq_ok.mpr hkey] at hparse
    cases hparse
  | ok key =>
  refine Routine.wp_all_ask_bind (hcall _ _) fun t s₁ hnow => ?_
  unfold signUserCert
  split_ifs with hempty
  · exact hnameless _ t s₁ hempty hnow
  change P .fresh s₁ ∧ ∀ r s₂, H .fresh s₁ r s₂ → _
  refine ⟨hcall _ _, fun r s₂ hfresh => ?_⟩
  cases r with
  | error e => exact hdry _ t s₁ e s₂ hnow hfresh
  | ok n => exact hok key t s₁ n s₂ (parsePublicKey_eq_ok.mp hparse) hnow hfresh

end Calls

/-! ## A format for symbolic keys -/

namespace KeyText

def natJson (n : Nat) : Json.Value :=
  .number (Json.intLiteral n)

def natOf : Json.Value → Option Nat
  | .number literal => (Json.parseInt literal).map Int.toNat
  | _ => none

def textJson (s : String) : Json.Value :=
  .string s.toList

def textOf : Json.Value → Option String
  | .string s => some (String.ofList s)
  | _ => none

def textsJson (l : List String) : Json.Value :=
  .array (l.map textJson)

def textsOf : Json.Value → Option (List String)
  | .array vs => vs.mapM textOf
  | _ => none

def certificateJson (cert : Certificate) : Json.Value :=
  .array [natJson cert.key, natJson cert.serial, .bool (cert.certType = .user), textJson cert.keyId,
    textsJson cert.validPrincipals, natJson cert.validAfter, natJson cert.validBefore,
    textsJson cert.extensions, natJson cert.signatureKey]

def certificateOf : Json.Value → Option Certificate
  | .array [key, serial, .bool user, keyId, principals, validAfter, validBefore, extensions,
      ca] => do
    some
      { key := ← natOf key
        serial := ← natOf serial
        certType := if user then .user else .host
        keyId := ← textOf keyId
        validPrincipals := ← textsOf principals
        validAfter := ← natOf validAfter
        validBefore := ← natOf validBefore
        extensions := ← textsOf extensions
        signatureKey := ← natOf ca }
  | _ => none

def blobJson : Blob → Json.Value
  | .privatePEM key comment => .array [textJson "private", natJson key, textJson comment]
  | .publicAuthorized key => .array [textJson "public", natJson key]
  | .certAuthorized cert => .array [textJson "certificate", certificateJson cert]
  | .random seed => .array [textJson "random", natJson seed]
  | .raw text => .array [textJson "raw", textJson text]

def blobOf : Json.Value → Option Blob
  | .array (tag :: vs) => do
    let tag ← textOf tag
    match vs with
    | [v] =>
      if tag = "public" then (natOf v).map .publicAuthorized
      else if tag = "certificate" then (certificateOf v).map .certAuthorized
      else if tag = "random" then (natOf v).map .random
      else if tag = "raw" then (textOf v).map .raw
      else none
    | [key, comment] => some (.privatePEM (← natOf key) (← textOf comment))
    | _ => none
  | _ => none

theorem natOf_natJson (n : Nat) : natOf (natJson n) = some n := by
  rw [natJson, natOf, Json.parseInt_intLiteral, Option.map_some, Int.toNat_natCast]

theorem textOf_textJson (s : String) : textOf (textJson s) = some s := by
  rw [textJson, textOf, String.ofList_toList]

theorem textsOf_textsJson (l : List String) : textsOf (textsJson l) = some l := by
  rw [textsJson, textsOf]
  induction l with
  | nil => rfl
  | cons s l ih => simp [textOf_textJson, ih]

theorem certificateOf_certificateJson (cert : Certificate) :
    certificateOf (certificateJson cert) = some cert := by
  obtain ⟨key, serial, certType, keyId, principals, validAfter, validBefore, extensions, ca⟩ := cert
  simp only [certificateJson, certificateOf, natOf_natJson, textOf_textJson, textsOf_textsJson,
    Option.bind_eq_bind, Option.bind_some]
  cases certType <;> rfl

theorem blobOf_blobJson (b : Blob) : blobOf (blobJson b) = some b := by
  cases b with
  | privatePEM key comment => simp [blobJson, blobOf, natOf_natJson, textOf_textJson]
  | publicAuthorized key => simp [blobJson, blobOf, natOf_natJson, textOf_textJson]
  | certAuthorized cert =>
    simp [blobJson, blobOf, textOf_textJson, certificateOf_certificateJson]
  | random seed => simp [blobJson, blobOf, natOf_natJson, textOf_textJson]
  | raw text => simp [blobJson, blobOf, textOf_textJson]

theorem integralItems_textsJson (l : List String) : Json.IntegralItems (l.map textJson) := by
  induction l with
  | nil => trivial
  | cons s l ih => exact ⟨trivial, ih⟩

theorem integral_blobJson (b : Blob) : Json.Integral (blobJson b) := by
  cases b with
  | privatePEM key comment => exact ⟨trivial, ⟨_, rfl⟩, trivial, trivial⟩
  | publicAuthorized key => exact ⟨trivial, ⟨_, rfl⟩, trivial⟩
  | certAuthorized cert =>
    exact ⟨trivial, ⟨⟨_, rfl⟩, ⟨_, rfl⟩, trivial, trivial, integralItems_textsJson _, ⟨_, rfl⟩,
      ⟨_, rfl⟩, integralItems_textsJson _, ⟨_, rfl⟩, trivial⟩, trivial⟩
  | random seed => exact ⟨trivial, ⟨_, rfl⟩, trivial⟩
  | raw text => exact ⟨trivial, trivial, trivial⟩

/-- Keys and certificates in JSON. -/
def json : KeyText where
  write b := String.ofList (Json.render (blobJson b))
  read s := ((Json.parse s.toList).bind blobOf).getD (.raw "")
  read_write b := by
    rw [String.toList_ofList, Json.parse_render (integral_blobJson b), Option.bind_some,
      blobOf_blobJson, Option.getD_some]
  read_empty := rfl

end KeyText

end Gateway

end Kubepark
