import Kubepark.CliKeys
import Kubepark.SshAccess

/-!
# A login from end to end

`kubepark login` against the gateway's sign endpoint, when nothing fails : the files can be read
and written, the user logs in at the identity provider, and the provider's keys vouch for the ID
token for as long as it lives (`LoginServed`). The requests go through the endpoint itself, with the
bodies as JSON both ways.

A login that takes no longer than the token lives ends well (`wp_runLogin`). It leaves a private key
and a certificate for it, and the certificate lets its owner into exactly the sandboxes of the
principal that the token names, at the gateway and at their agents, in exactly the window it was
issued for (`login_lets_in`).
-/

namespace Kubepark

namespace Cli

open ApiServer Client Gateway Routine

/-! ## A world in which nothing fails -/

/-- The gateway and the user : how keys are written, what the provider's keys vouch for, the
endpoint and its URL, the user's home and name, and how long an ID token is good. -/
structure Setting where
  kt : KeyText
  idp : Provider
  srv : SignServer
  gatewayURL : String
  home : String
  principal : String
  lifetime : Duration

/-- The gateway's side, the user's files, and the URL that is open in the browser. -/
structure LoginWorld where
  access : AccessWorld
  files : Files
  browser : Option LoginURL := none

/-- Time passes. -/
structure Passes (w w' : LoginWorld) : Prop where
  beside : Gateway.Beside w.access w'.access
  files : w'.files = w.files
  browser : w'.browser = w.browser

/-- The token is the user's, and good from `t` on. -/
def Setting.Vouches (S : Setting) (clientID token : String) (t : Time) : Prop :=
  ∃ claims, claims.lookup S.srv.oidc.principalClaim = some (.string S.principal) ∧
    ∀ t', t ≤ t' → t' ≤ t + S.lifetime →
      S.idp ⟨S.srv.oidc.issuer, clientID⟩ token t' = .ok (.ok claims)

/-- What the calls of a login do. -/
def LoginServed (S : Setting) : (op : CliOp) → LoginWorld → CliResp op → LoginWorld → Prop
  | .api op, w, r, w' => r = (handle op w.access.cluster).1 ∧
    Passes { w with access := { w.access with cluster := (handle op w.access.cluster).2 } } w'
  | .userHomeDir, w, r, w' => r = .ok S.home ∧ Passes w w'
  | .stat path, w, r, w' => (r = .ok () ↔ w.files path ≠ none) ∧ Passes w w'
  | .readFile path, w, r, w' => (∀ text, w.files path = some text → r = .ok text) ∧ Passes w w'
  | .writeFile path content, w, r, w' =>
    r = .ok () ∧ Passes { w with files := w.files.write path content } w'
  | .http method url body, w, r, w' => (∀ path, url = S.gatewayURL ++ path → ∃ calls result,
      (S.srv.handler S.kt method path ()).Exec (SignServed S.idp body) w.access calls result
        w'.access ∧
      ∀ reply, w'.access.replies = reply :: w.access.replies →
        ∃ status, r = .ok ⟨reply.status, status, reply.body⟩) ∧
    w.access.cluster.clock ≤ w'.access.cluster.clock ∧ w'.files = w.files ∧ w'.browser = w.browser
  | .newProvider issuer, w, r, w' => (issuer = S.srv.oidc.issuer → r = .ok ()) ∧ Passes w w'
  | .listen, w, r, w' => (∃ addr, r = .ok addr) ∧ Passes w w'
  | .showURL url, w, _, w' => Passes { w with browser := some url } w'
  | .awaitCallback, w, r, w' =>
    (∀ url, w.browser = some url → ∃ code, r = .callback url.state code) ∧ Passes w w'
  | .exchange _ _ _, w, r, w' => (∀ url, w.browser = some url → ∃ token, r = .ok (some token) ∧
    S.Vouches url.clientID token w.access.cluster.clock) ∧ Passes w w'
  | .mkdirAll _, w, r, w' => r = .ok () ∧ Passes w w'
  | _, w, _, w' => Passes w w'

section Served

variable {S : Setting} {w w' w'' : LoginWorld} {α β : Type}

/-- The time at the gateway. -/
def LoginWorld.clock (w : LoginWorld) : Time :=
  w.access.cluster.clock

theorem Passes.clock (h : Passes w w') : w.clock ≤ w'.clock :=
  h.beside.clock

theorem LoginServed.clock {op : CliOp} {r : CliResp op} (h : LoginServed S op w r w') :
    w.clock ≤ w'.clock := by
  cases op with
  | api op => exact Int.le_trans (Int.le_of_eq (clock_handle op _).symm) h.2.clock
  | http method url body => exact h.2.1
  | showURL url =>
    have hpasses : Passes { w with browser := some url } w' := h
    exact hpasses.beside.clock
  | generateVerifier | randomString | answerBrowser | kubeconfig | lookPath | exec =>
    exact Passes.clock h
  | _ => exact h.2.beside.clock

/-- Time does not go back. -/
theorem wp_login_later (p : Prog CliOp CliResp α) (w : LoginWorld) :
    p.wp (LoginServed S) (fun _ _ => True) (fun _ w' => w.clock ≤ w'.clock) w := by
  refine Prog.wp_mono (Prog.wp_preserves (I := fun w' => w.clock ≤ w'.clock) ?_
    (Prog.wp_true p w) (Int.le_refl _)) (fun _ _ _ => trivial) fun _ _ h => h.2
  exact fun op w₁ r w₂ _ hstep hw₁ => Int.le_trans hw₁ hstep.clock

/-- After the deadline there is nothing to show but that it has passed. -/
theorem wp_late {p : Prog CliOp CliResp α} {deadline : Time} {Q : α → LoginWorld → Prop}
    (hlate : ¬w.clock ≤ deadline) (hQ : ∀ r w', ¬w'.clock ≤ deadline → Q r w') :
    p.wp (LoginServed S) (fun _ _ => True) Q w := by
  refine Prog.wp_mono (wp_login_later p w) (fun _ _ => id) fun r w' hlater => hQ r w' ?_
  exact fun hend => hlate (Int.le_trans hlater hend)

/-- Later, with the same files. -/
structure Later (w w' : LoginWorld) : Prop where
  clock : w.clock ≤ w'.clock
  files : w'.files = w.files

theorem Later.trans (h : Later w w') (h' : Later w' w'') : Later w w'' :=
  ⟨Int.le_trans h.clock h'.clock, h'.files.trans h.files⟩

theorem Passes.later (h : Passes w w') : Later w w' :=
  ⟨h.clock, h.files⟩

theorem succeeds_ask_bind {op : CliOp} {g : CliResp op → CliM β}
    {Q : β → Unit → LoginWorld → Prop}
    (h : ∀ r w', LoginServed S op w r w' → (g r).Succeeds (LoginServed S) Q () w') :
    (ask op >>= g).Succeeds (LoginServed S) Q () w :=
  ⟨trivial, h⟩

/-- A call that is answered without an error. -/
theorem succeeds_ask_ok {op : CliOp} {f : CliResp op → Except ApiError α} {g : α → CliM β}
    {Q : β → Unit → LoginWorld → Prop} (h : ∀ r w', LoginServed S op w r w' →
      ∃ a, f r = .ok a ∧ (g a).Succeeds (LoginServed S) Q () w') :
    (ask op >>= fun r => Routine.ofExcept (f r) >>= g).Succeeds (LoginServed S) Q () w := by
  refine ⟨trivial, fun r w' hr => ?_⟩
  obtain ⟨a, ha, hg⟩ := h r w' hr
  show ((Routine.ofExcept (f r) >>= g) ()).wp _ _ _ _
  rw [ha]
  exact hg

/-! ## The configuration -/

theorem wp_handler_config (kt : KeyText) (idp : Provider) (srv : SignServer) (method : String)
    (body : List UInt8) (w : AccessWorld) :
    (srv.handler kt method "/v1/config" ()).wp (SignServed idp body) (fun _ _ => True)
      (fun _ w' => w'.replies = Sign.jsonReply 200 srv.oidc.toJson :: w.replies) w :=
  ⟨trivial, fun _ _ h => h.2.replies⟩

/-- The configuration comes back from its JSON. -/
theorem decode_config (cfg : OIDCConfig) (status : Nat) :
    GatewayConfig.decode (Sign.jsonReply status cfg.toJson).body =
      some ⟨cfg.issuer, cfg.clientID, cfg.principalClaim⟩ := by
  rw [GatewayConfig.decode, Sign.jsonReply, OIDCConfig.toJson,
    Json.decodeFirst_render (Json.integral_ofStrings _) Json.endsNumber_newline]
  have hnodup : (([("issuer", cfg.issuer), ("clientId", cfg.clientID),
      ("principalClaim", cfg.principalClaim)] ++
      (if cfg.baseDomain = "" then [] else [("baseDomain", cfg.baseDomain)]) ++
      (if cfg.gatewaySSHAddr = "" then [] else [("gatewaySshAddr", cfg.gatewaySSHAddr)])).map
        fun f => Json.foldName f.1.toList).Nodup := by
    split_ifs
    all_goals
      simp only [List.map_append, List.map_cons, List.map_nil]
      decide
  simp only [Option.bind_eq_bind, Option.bind_some]
  rw [Json.stringField_ofStrings (s := cfg.issuer) hnodup (by simp), Option.bind_some,
    Json.stringField_ofStrings (s := cfg.clientID) hnodup (by simp), Option.bind_some,
    Json.stringField_ofStrings (s := cfg.principalClaim) hnodup (by simp), Option.bind_some]

theorem succeeds_fetchGatewayConfig (w : LoginWorld) :
    (fetchGatewayConfig S.gatewayURL).Succeeds (LoginServed S) (fun cfg _ w' => Later w w' ∧
      cfg = ⟨S.srv.oidc.issuer, S.srv.oidc.clientID, S.srv.oidc.principalClaim⟩) () w := by
  refine succeeds_ask_ok fun r w' hserved => ?_
  obtain ⟨hendpoint, hclock, hfiles, -⟩ := hserved
  obtain ⟨calls, result, hexec, hresponse⟩ := hendpoint _ rfl
  obtain ⟨status, rfl⟩ := hresponse _ (hexec.wp (wp_handler_config _ _ _ _ _ _)).2
  refine ⟨_, rfl, ?_⟩
  rw [decode_config]
  exact succeeds_pure ⟨⟨hclock, hfiles⟩, rfl⟩

/-! ## The browser -/

theorem succeeds_oidcAuthCodeFlow (clientID : String) (w : LoginWorld) :
    (oidcAuthCodeFlow clientID).Succeeds (LoginServed S) (fun token _ w' => Later w w' ∧
      ∃ t, w.clock ≤ t ∧ t ≤ w'.clock ∧ S.Vouches clientID token t) () w := by
  refine succeeds_ask_ok fun r w₁ ⟨⟨addr, hlisten⟩, hpasses₁⟩ => ⟨addr, hlisten, ?_⟩
  refine succeeds_ask_bind fun verifier w₂ hpasses₂ => succeeds_ask_bind fun state w₃ hpasses₃ => ?_
  refine succeeds_ask_bind fun _ w₄ hpasses₄ => ?_
  have hshown : Passes { w₃ with browser := some _ } w₄ := hpasses₄
  have hbrowser₄ := hshown.browser
  have hlater₄ : Later w w₄ := ((Passes.later hpasses₁).trans (Passes.later hpasses₂)).trans
    ((Passes.later hpasses₃).trans ⟨hshown.beside.clock, hshown.files⟩)
  refine succeeds_ask_bind fun event w₅ ⟨hevent, hpasses₅⟩ => ?_
  obtain ⟨code, rfl⟩ := hevent _ hbrowser₄
  refine succeeds_ite (fun hne => absurd rfl hne) fun _ => ?_
  refine succeeds_ask_bind fun answer w₆ ⟨hanswer, hpasses₆⟩ => ?_
  obtain ⟨token, rfl, hvouches⟩ := hanswer _ (hpasses₅.browser.trans hbrowser₄)
  refine succeeds_ask_bind fun _ w₇ hpasses₇ => succeeds_pure ?_
  have hlater₅ := hlater₄.trans hpasses₅.later
  have hlater₇ : Later w₅ w₇ := hpasses₆.later.trans (Passes.later hpasses₇)
  exact ⟨hlater₅.trans hlater₇, _, hlater₅.clock, hlater₇.clock, hvouches⟩

/-! ## The key pair -/

/-- There is no key pair yet, or a whole one. -/
def PairReady (S : Setting) (f : Files) : Prop :=
  f (privPath (keyDir S.home)) = none ∨ WholePair S.kt S.home f

theorem succeeds_configDir (w : LoginWorld) : configDir.Succeeds (LoginServed S)
    (fun dir _ w' => Later w w' ∧ dir = keyDir S.home) () w := by
  refine succeeds_ask_ok fun r w₁ ⟨hhome, hpasses₁⟩ => ⟨_, hhome, ?_⟩
  refine succeeds_ask_ok fun r w₂ ⟨hmade, hpasses₂⟩ => ⟨_, hmade, ?_⟩
  exact succeeds_pure ⟨hpasses₁.later.trans hpasses₂.later, rfl⟩

theorem succeeds_generateKeyPair (comment : String) (w : LoginWorld) :
    (api (generateKeyPair comment)).Succeeds (LoginServed S) (fun kp _ w' => Later w w' ∧
      ∃ key, kp = ⟨.privatePEM key comment, .publicAuthorized key⟩) () w := by
  refine ⟨trivial, fun r w' ⟨hr, hpasses⟩ => ?_⟩
  obtain rfl : r = .ok w.access.cluster.entropy := hr
  exact ⟨_, rfl, ⟨hpasses.beside.clock, hpasses.files⟩, _, rfl⟩

theorem succeeds_ensureKeyPair (hready : PairReady S w.files) :
    (ensureKeyPair S.kt).Succeeds (LoginServed S) (fun paths _ w' => w.clock ≤ w'.clock ∧
      paths = (privPath (keyDir S.home), pubPath (keyDir S.home)) ∧
      WholePair S.kt S.home w'.files) () w := by
  refine (succeeds_configDir w).bind fun dir _ w₁ ⟨hlater₁, hdir⟩ => ?_
  subst hdir
  refine succeeds_ask_bind fun r w₂ ⟨hstat, hpasses₂⟩ => ?_
  have hlater₂ := hlater₁.trans hpasses₂.later
  rw [hlater₁.files] at hstat
  rcases hready with hnone | hwhole
  · -- The pair is generated.
    cases r with
    | ok _ => exact absurd hnone (hstat.mp rfl)
    | error e =>
    refine (succeeds_generateKeyPair _ w₂).bind fun kp _ w₃ ⟨hlater₃, key, hkp⟩ => ?_
    subst hkp
    refine succeeds_ask_ok fun r w₄ ⟨hr, hpasses₄⟩ => ⟨(), by rw [hr]; rfl, ?_⟩
    refine succeeds_ask_ok fun r w₅ ⟨hr, hpasses₅⟩ => ⟨(), by rw [hr]; rfl, ?_⟩
    have hclock : w.clock ≤ w₅.clock := Int.le_trans (hlater₂.trans hlater₃).clock
      (Int.le_trans hpasses₄.beside.clock hpasses₅.beside.clock)
    refine succeeds_pure ⟨hclock, rfl, key, ?_, ?_⟩
    · rw [hpasses₅.files]
      show Function.update w₄.files _ _ _ = _
      rw [Function.update_of_ne (pubPath_ne_privPath _).symm, hpasses₄.files]
      exact Function.update_self _ _ _
    · rw [hpasses₅.files]
      exact Function.update_self _ _ _
  · obtain ⟨key, hpriv, hpub⟩ := hwhole
    obtain rfl : r = .ok () := hstat.mpr (by simp [hpriv])
    refine succeeds_pure ⟨hlater₂.clock, rfl, key, ?_, ?_⟩
    · rw [hlater₂.files, hpriv]
    · rw [hlater₂.files, hpub]

/-! ## The certificate -/

/-- The file of the certificate. -/
def certFile (home : String) : String :=
  join (keyDir home) "id_ed25519-cert.pub"

/-- The user has a private key, and a certificate for it that was signed in between. -/
def LoggedIn (S : Setting) (w w' : LoginWorld) : Prop :=
  ∃ key t serial,
    w'.files (privPath (keyDir S.home)) = some (S.kt.write (.privatePEM key "kubepark-cli")) ∧
    w'.files (certFile S.home) = some (S.kt.write (.certAuthorized
      (userCertificate S.srv.signer.ca key S.principal S.srv.signer.ttl t serial))) ∧
    w.clock ≤ t ∧ t ≤ w'.clock

/-- What ends a login within the life of its token. -/
def Ended (S : Setting) (w : LoginWorld) (r : Except ApiError Unit × Unit) (w' : LoginWorld) :
    Prop :=
  w'.clock ≤ w.clock + S.lifetime → r = (.ok (), ()) ∧ LoggedIn S w w'

/-- The certificate that comes back for a token, if it comes while the token is good. -/
def Certified (S : Setting) (w : LoginWorld) (key : Nat) (deadline : Time)
    (r : Except ApiError SignResponse × Unit) (w' : LoginWorld) : Prop :=
  w'.clock ≤ deadline → Later w w' ∧ ∃ t serial, w.clock ≤ t ∧ t ≤ w'.clock ∧
    r.1 = .ok ⟨S.kt.write (.certAuthorized
      (userCertificate S.srv.signer.ca key S.principal S.srv.signer.ttl t serial)), S.principal⟩

theorem wp_requestCert {key : Nat} {token : String} {t₀ : Time}
    (hverifier : S.srv.verifier = some ⟨S.srv.oidc.issuer, S.srv.oidc.clientID⟩)
    (hprincipal : S.principal ≠ "") (hnow : t₀ ≤ w.clock)
    (hvouches : S.Vouches S.srv.oidc.clientID token t₀) :
    (requestCert S.gatewayURL (S.kt.write (.publicAuthorized key)) token ()).wp (LoginServed S)
      (fun _ _ => True) (Certified S w key (t₀ + S.lifetime)) w := by
  obtain ⟨claims, hclaim, hvouches⟩ := hvouches
  have hclaims : principalFromClaims (.ok claims) S.srv.oidc.principalClaim = .ok S.principal :=
    principalFromClaims_eq_ok.mpr ⟨hprincipal, claims, rfl, hclaim⟩
  refine wp_all_ask_bind trivial fun r w₁ hserved => ?_
  obtain ⟨hendpoint, hclock, hfiles, -⟩ := hserved
  obtain ⟨calls, result, hexec, hresponse⟩ := hendpoint _ rfl
  have hanswered := (hexec.wp (wp_handler_sign hverifier (decode_marshal _) (S.kt.read_write _)
    (fun t hstart hend => hvouches t (Int.le_trans hnow hstart) hend) hclaims)).2
  by_cases htime : w₁.clock ≤ t₀ + S.lifetime
  · obtain ⟨-, t, serial, hstart, hend, hreplies⟩ := hanswered.2 htime
    obtain ⟨status, rfl⟩ := hresponse _ hreplies
    have hdecode := decode_signResponse ⟨S.kt.write (.certAuthorized (userCertificate
      S.srv.signer.ca key S.principal S.srv.signer.ttl t serial)), S.principal⟩ 200
    generalize hreply : Sign.jsonReply 200 _ = reply at hdecode
    have hstatus : reply.status = 200 := congrArg HTTPReply.status hreply.symm
    show ((if reply.status ≠ 200 then _ else decoded (SignResponse.decode reply.body) :
      CliM SignResponse) ()).wp _ _ _ _
    rw [if_neg (not_not_intro hstatus), hdecode]
    exact fun _ => ⟨⟨hclock, hfiles⟩, t, serial, hstart, hend, rfl⟩
  · exact wp_late htime fun _ _ h hend => absurd hend h

theorem succeeds_certPath (w : LoginWorld) : certPath.Succeeds (LoginServed S)
    (fun out _ w' => Later w w' ∧ out = certFile S.home) () w := by
  refine (succeeds_configDir w).bind fun dir _ w₁ ⟨hlater₁, hdir⟩ => ?_
  subst hdir
  exact succeeds_pure ⟨hlater₁, rfl⟩

theorem certFile_ne_privPath (home : String) : certFile home ≠ privPath (keyDir home) :=
  join_ne (by decide) (by decide) (by decide)

theorem wp_certificate {w₀ : LoginWorld} {key : Nat} {token : String} {t₀ : Time}
    (hverifier : S.srv.verifier = some ⟨S.srv.oidc.issuer, S.srv.oidc.clientID⟩)
    (hprincipal : S.principal ≠ "")
    (hpriv : w.files (privPath (keyDir S.home)) =
      some (S.kt.write (.privatePEM key "kubepark-cli")))
    (hstart : w₀.clock ≤ t₀) (hnow : t₀ ≤ w.clock)
    (hvouches : S.Vouches S.srv.oidc.clientID token t₀) :
    ((do
      let response ← requestCert S.gatewayURL (S.kt.write (.publicAuthorized key)) token
      let out ← certPath
      Routine.ofExcept (← ask (.writeFile out response.certificate)) : CliM Unit) ()).wp
      (LoginServed S) (fun _ _ => True) (Ended S w₀) w := by
  have hdeadline : w₀.clock + S.lifetime ≤ t₀ + S.lifetime := Int.add_le_add_right hstart _
  refine wp_all_bind (wp_requestCert hverifier hprincipal hnow hvouches) ?_ ?_
  · intro response _ w₁ hcertified
    by_cases htime : w₁.clock ≤ t₀ + S.lifetime
    · obtain ⟨hlater₁, t, serial, hsigned, hpast, hresponse⟩ := hcertified htime
      obtain rfl := Except.ok.inj hresponse
      refine (succeeds_certPath w₁).wp_all_bind fun out _ w₂ ⟨hlater₂, hout⟩ => ?_
      subst hout
      refine wp_all_ask_bind trivial fun r w₃ ⟨hr, hpasses₃⟩ => ?_
      subst hr
      have hclock₃ : w₂.clock ≤ w₃.clock := hpasses₃.beside.clock
      refine fun _ => ⟨rfl, key, t, serial, ?_, ?_, Int.le_trans hstart (Int.le_trans hnow hsigned),
        Int.le_trans hpast (Int.le_trans hlater₂.clock hclock₃)⟩
      · rw [hpasses₃.files]
        show Function.update w₂.files _ _ _ = _
        rw [Function.update_of_ne (certFile_ne_privPath _).symm, (hlater₁.trans hlater₂).files]
        exact hpriv
      · rw [hpasses₃.files]
        exact Function.update_self _ _ _
    · exact wp_late htime fun _ _ h hend => absurd (Int.le_trans hend hdeadline) h
  · intro e _ w₁ hcertified hend
    obtain ⟨-, t, serial, -, -, hresponse⟩ := hcertified (Int.le_trans hend hdeadline)
    cases hresponse

theorem wp_runLogin (hissuer : S.srv.oidc.issuer ≠ "")
    (hverifier : S.srv.verifier = some ⟨S.srv.oidc.issuer, S.srv.oidc.clientID⟩)
    (hprincipal : S.principal ≠ "") (hready : PairReady S w.files) :
    (runLogin S.kt S.gatewayURL ()).wp (LoginServed S) (fun _ _ => True) (Ended S w) w := by
  refine (succeeds_fetchGatewayConfig w).wp_all_bind fun cfg _ w₁ ⟨hlater₁, hcfg⟩ => ?_
  subst hcfg
  rw [if_neg hissuer]
  refine wp_all_ask_bind trivial fun r w₂ ⟨hprovider, hpasses₂⟩ => ?_
  rw [hprovider rfl]
  have hlater₂ := hlater₁.trans hpasses₂.later
  refine (succeeds_oidcAuthCodeFlow _ w₂).wp_all_bind
    fun token _ w₃ ⟨hlater₃, t₀, hstart, hnow, hvouches⟩ => ?_
  have hready₃ : PairReady S w₃.files := by
    rw [(hlater₂.trans hlater₃).files]
    exact hready
  refine (succeeds_ensureKeyPair hready₃).wp_all_bind
    fun paths _ w₄ ⟨hclock₄, hpaths, key, hpriv, hpub⟩ => ?_
  subst hpaths
  refine wp_all_ask_bind trivial fun r w₅ ⟨hread, hpasses₅⟩ => ?_
  rw [hread _ hpub]
  rw [← hpasses₅.files] at hpriv
  exact wp_certificate hverifier hprincipal hpriv (Int.le_trans hlater₂.clock hstart)
    (Int.le_trans hnow (Int.le_trans hclock₄ hpasses₅.clock)) hvouches

end Served

/-! ## Who is let in -/

/-- The time is in the window of a certificate for `ttl`, in whole seconds. -/
def InWindow (signed : Time) (ttl : Duration) (t : Time) : Prop :=
  unixSeconds signed - 60 ≤ unixSeconds t ∧ unixSeconds t < unixSeconds (signed + ttl)

/-- A login from end to end. In every execution of `kubepark login` in which nothing fails and that
takes no longer than an ID token is good, whatever happens beside, the command ends well. It leaves
a private key and a certificate for that key, from a home with no private key or with a whole pair.
With the certificate the gateway lets the user into a sandbox exactly if the sandbox is theirs and
the time is in the window of the certificate, which was signed while the command ran. An agent that
has its host key and trusts the CA lets them in exactly if it was configured with them as owner. -/
theorem login_lets_in (checker : CertChecker) (Verifies : Certificate → Prop)
    (hdoc : checker.Documented Verifies) (S : Setting)
    (userCAPrivPEM userCAAuthorized hostKeyPEM : Blob) (ttl : Duration) (signer : Signer)
    (hsigner : newSigner userCAPrivPEM ttl = .ok signer)
    (discover : String → Except ApiError Unit) (cfg : OIDCConfig) (hissuer : cfg.issuer ≠ "")
    (hsrv : newSignServer discover signer cfg = .ok S.srv) (gw : Server)
    (hgw : newSSHServer checker hostKeyPEM userCAAuthorized = .ok gw)
    (hpair : parsePublicKey userCAAuthorized = .ok signer.ca) (hprincipal : S.principal ≠ "")
    (w : LoginWorld) (hepoch : 60 * second ≤ w.clock) (hready : PairReady S w.files)
    (calls : List (CliOp × LoginWorld)) (r : Except ApiError Unit × Unit) (w' : LoginWorld)
    (hexec : (runLogin S.kt S.gatewayURL ()).Exec (LoginServed S) w calls r w')
    (htime : w'.clock ≤ w.clock + S.lifetime)
    (hrange : unixSeconds (w'.clock + signer.ttl) < 2 ^ 63) :
    r = (.ok (), ()) ∧ ∃ key cert signed,
      w'.files (privPath (keyDir S.home)) = some (S.kt.write (.privatePEM key "kubepark-cli")) ∧
      w'.files (certFile S.home) = some (S.kt.write (.certAuthorized cert)) ∧
      cert.key = key ∧ w.clock ≤ signed ∧ signed ≤ w'.clock ∧
      (∀ c sb t, ApiServer.find? c .sandbox sb.key = some sb →
        (Admits gw c ⟨sb.metadata.name, sb.metadata.namespaceName⟩ (.certificate cert) t ↔
          sb.spec.owner.name = S.principal ∧ InWindow signed signer.ttl t)) ∧
      ∀ agent t, parsePublicKey agent.userCAAuthorized = .ok signer.ca →
        (∃ s, Agent.signerWithCert agent.hostKeyPEM agent.hostCertAuthorized = .ok s) →
        (Agent.Admits checker agent (.certificate cert) t ↔
          agent.owner = S.principal ∧ InWindow signed signer.ttl t) := by
  obtain ⟨hsame, hoidc, hverifier⟩ := newSignServer_eq_ok hsrv
  rw [if_neg hissuer] at hverifier
  have hissuer' : S.srv.oidc.issuer = cfg.issuer := by rw [hoidc, cfg.issuer_withDefaults]
  have hclient : S.srv.oidc.clientID = cfg.clientID := by rw [hoidc, cfg.clientID_withDefaults]
  have hpos := newSigner_ttl_pos hsigner
  obtain ⟨hok, key, signed, serial, hpriv, hcert, hstart, hend⟩ :=
    (hexec.wp (wp_runLogin (hissuer'.symm ▸ hissuer) (by rw [hverifier, hissuer', hclient])
      hprincipal hready)).2 htime
  rw [hsame] at hcert
  have hlast : unixSeconds (signed + signer.ttl) < 2 ^ 63 :=
    Int.lt_of_le_of_lt (unixSeconds_mono (Int.add_le_add_right hend _)) hrange
  have haccepts : ∀ q t, Accepts checker signer.ca
      (userCertificate signer.ca key S.principal signer.ttl signed serial) q t ↔
        q = S.principal ∧ InWindow signed signer.ttl t := by
    intro q t
    rw [Accepts, checkUserCert_userCertificate hdoc (Int.le_trans hepoch hstart) hpos hlast]
    simp [InWindow]
  refine ⟨hok, key, _, signed, hpriv, hcert, rfl, hstart, hend, ?_, ?_⟩
  · intro c sb t hsb
    rw [gateway_admits_iff hgw hpair hsb rfl, haccepts]
    constructor
    · rintro ⟨-, howner, -, hwindow⟩
      exact ⟨howner.symm, hwindow⟩
    · rintro ⟨howner, hwindow⟩
      exact ⟨hprincipal, howner.symm, rfl, hwindow⟩
  · intro agent t hca hhost
    rw [agent_admits_iff hca hhost, haccepts]
    exact ⟨fun h => h.2, fun h => ⟨h.1.symm ▸ hprincipal, h⟩⟩

end Cli

/-! ## Alice logs in from her laptop -/

namespace Team

open Cli Gateway

/-- Alice's laptop and the endpoint of the team. -/
def laptop : Setting where
  kt := KeyText.json
  idp := idp
  srv := signServer
  gatewayURL := "https://gateway.test"
  home := "/home/alice"
  principal := "alice"
  lifetime := 3600 * second

theorem path_of_url {url path path' : String} (h : url ++ path = url ++ path') : path = path' := by
  have htext := congrArg String.toList h
  rw [String.toList_append, String.toList_append] at htext
  exact String.toList_inj.mp (List.append_cancel_left htext)

/-- The endpoint answers every request, and time may stand still meanwhile. -/
theorem exists_handler (method path : String) (body : List UInt8) (w : AccessWorld) :
    ∃ calls result w', (signServer.handler KeyText.json method path ()).Exec (SignServed idp body)
      w calls result w' ∧ w'.cluster.clock = w.cluster.clock := by
  refine Prog.exists_exec (I := fun w' : AccessWorld => w'.cluster.clock = w.cluster.clock)
    ?_ _ rfl
  intro op w₁ hw₁
  refine ⟨_, _, ⟨rfl, Gateway.Beside.refl _⟩, ?_⟩
  rw [← hw₁]
  cases op with
  | api op => exact ApiServer.clock_handle op w₁.cluster
  | readBody | verify | respond => rfl

/-- Every call of a login can be answered, and time may stand still meanwhile. -/
theorem exists_loginServed (op : CliOp) (w : LoginWorld) :
    ∃ r w', LoginServed laptop op w r w' ∧ w'.clock = w.clock := by
  have hpasses : ∀ w : LoginWorld, Passes w w := fun w => ⟨Gateway.Beside.refl _, rfl, rfl⟩
  cases op with
  | api op => exact ⟨_, _, ⟨rfl, hpasses _⟩, ApiServer.clock_handle op _⟩
  | userHomeDir | mkdirAll => exact ⟨_, w, ⟨rfl, hpasses w⟩, rfl⟩
  | writeFile path content => exact ⟨_, _, ⟨rfl, hpasses _⟩, rfl⟩
  | stat path =>
    by_cases hpath : w.files path = none
    · exact ⟨.error .notFound, w, ⟨by simp [hpath], hpasses w⟩, rfl⟩
    · exact ⟨.ok (), w, ⟨by simp [hpath], hpasses w⟩, rfl⟩
  | readFile path =>
    cases hpath : w.files path with
    | none => exact ⟨.error .notFound, w, ⟨by simp [hpath], hpasses w⟩, rfl⟩
    | some text => exact ⟨.ok text, w, ⟨by simp [hpath], hpasses w⟩, rfl⟩
  | http method url body =>
    by_cases hurl : ∃ path, url = laptop.gatewayURL ++ path
    · obtain ⟨path, rfl⟩ := hurl
      obtain ⟨calls, result, w', hexec, hclock⟩ := exists_handler method path body w.access
      obtain ⟨r, hr⟩ : ∃ r : Except ApiError HTTPResponse, ∀ reply,
          w'.replies = reply :: w.access.replies → r = .ok ⟨reply.status, "", reply.body⟩ := by
        cases hreplies : w'.replies with
        | nil => exact ⟨.error .notFound, fun _ hnil => absurd hnil (by simp)⟩
        | cons reply replies =>
          refine ⟨.ok ⟨reply.status, "", reply.body⟩, fun reply' hcons => ?_⟩
          rw [(List.cons.inj hcons).1]
      refine ⟨r, { w with access := w' }, ⟨fun path' hpath => ?_, Int.le_of_eq hclock.symm, rfl,
        rfl⟩, hclock⟩
      obtain rfl := path_of_url hpath
      exact ⟨calls, result, hexec, fun reply hreply => ⟨"", hr reply hreply⟩⟩
    · exact ⟨.error .notFound, w, ⟨fun path hpath => absurd ⟨path, hpath⟩ hurl, Int.le_refl _,
        rfl, rfl⟩, rfl⟩
  | newProvider issuer => exact ⟨.ok (), w, ⟨fun _ => rfl, hpasses w⟩, rfl⟩
  | listen => exact ⟨.ok "127.0.0.1:40000", w, ⟨⟨_, rfl⟩, hpasses w⟩, rfl⟩
  | showURL url => exact ⟨(), _, hpasses { w with browser := some url }, rfl⟩
  | awaitCallback =>
    cases hbrowser : w.browser with
    | none => exact ⟨.timedOut, w, ⟨by simp [hbrowser], hpasses w⟩, rfl⟩
    | some url => exact ⟨.callback url.state "code", w, ⟨by simp [hbrowser], hpasses w⟩, rfl⟩
  | exchange redirectURL code verifier =>
    exact ⟨.ok (some "token"), w, ⟨fun url _ => ⟨"token", rfl, _, rfl, fun _ _ _ => rfl⟩,
      hpasses w⟩, rfl⟩
  | generateVerifier | randomString => exact ⟨"", w, hpasses w, rfl⟩
  | answerBrowser => exact ⟨(), w, hpasses w, rfl⟩
  | kubeconfig | exec => exact ⟨.ok (), w, hpasses w, rfl⟩
  | lookPath name => exact ⟨.ok name, w, hpasses w, rfl⟩

end Team

namespace Cli

open Gateway

/-- Alice's first login, after which the gateway lets her into her sandbox. -/
theorem login_lets_alice_in : ∃ calls w' cert,
    (runLogin KeyText.json "https://gateway.test" ()).Exec (LoginServed Team.laptop)
      ⟨Team.atHour, fun _ => none, none⟩ calls (.ok (), ()) w' ∧
    w'.files "/home/alice/.kubepark/id_ed25519-cert.pub" =
      some (KeyText.json.write (.certAuthorized cert)) ∧
    Admits Team.jumpHost Team.withSandbox ⟨"dev", "team"⟩ (.certificate cert) (3600 * second) := by
  obtain ⟨calls, r, w', hexec, hclock⟩ := Prog.exists_exec
    (I := fun w' : LoginWorld => w'.clock = 3600 * second) (H := LoginServed Team.laptop)
    (fun op w₁ hw₁ => by
      obtain ⟨r, w₂, hserved, hclock⟩ := Team.exists_loginServed op w₁
      exact ⟨r, w₂, hserved, hclock.trans hw₁⟩)
    (runLogin KeyText.json "https://gateway.test" ())
    (show (⟨Team.atHour, fun _ => none, none⟩ : LoginWorld).clock = 3600 * second from rfl)
  have hrange : unixSeconds (w'.clock + 8 * 3600 * second) < 2 ^ 63 := by
    rw [hclock]
    decide
  have htime : w'.clock ≤ 3600 * second + 3600 * second := by
    rw [hclock]
    decide
  obtain ⟨rfl, key, cert, signed, -, hcert, -, hstart, hend, hadmits, -⟩ := login_lets_in
    Team.documentedChecker _ Team.documentedChecker_documented Team.laptop
    (.privatePEM 1 "kubepark-user-ca") (.publicAuthorized 1) (.privatePEM 4 "gateway") 0
    Team.signer rfl (fun _ => .ok ()) Team.signServer.oidc (by decide) rfl Team.jumpHost rfl rfl
    (by decide) ⟨Team.atHour, fun _ => none, none⟩ (by decide) (Or.inl rfl) calls r w' hexec htime
    hrange
  obtain rfl : signed = 3600 * second := Int.le_antisymm (hclock ▸ hend) hstart
  have hsb : Team.withSandbox.find? .sandbox (Team.sandbox .running {}).key =
      some (Team.sandbox .running {}) := rfl
  exact ⟨calls, w', cert, hexec, hcert,
    (hadmits _ _ _ hsb).mpr ⟨rfl, by unfold InWindow; decide⟩⟩

end Cli

end Kubepark
