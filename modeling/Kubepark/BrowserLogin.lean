import Kubepark.HttpProxy
import Kubepark.WebBrowser

/-!
# A login in the browser

`StartLogin` and `Callback` of `cookieauth.go` as a browser sees them, with the redirect URL that
`NewCookieAuthenticator` makes of its base. The login starts on the host of a sandbox, which sets
the state cookie there; the identity provider sends the browser back to the redirect URL; the
callback reads the state cookie, sets the session cookie and redirects to the URL that the state
cookie remembers.

Both cookies are for the host that set them. So the callback finds the state only where the
redirect URL is on the host the login started on : `login_completes_iff`. The gateway configures
the base domain, and no sandbox has that host (`login_never_completes`).
-/

namespace Kubepark

namespace Gateway

open ApiServer Client

/-! ## Hosts -/

/-- Where the identity provider sends the browser back to. -/
def redirectURL (redirectBase : String) : String :=
  (Text.trimSuffix? redirectBase "/").getD redirectBase ++ oidcCallbackPath

/-- The host of an `https` URL. -/
def urlHost (url : String) : String :=
  let rest := Text.trimPrefix url "https://"
  ((Text.cut rest "/").map (·.1)).getD rest

/-- The host that cookies are kept for : lower case, and without the port. -/
def cookieHost (lower : Char → Char) (host : String) : String :=
  ((Text.cut (toLower lower host) ":").map (·.1)).getD (toLower lower host)

theorem length_cookieHost_le (lower : Char → Char) (host : String) :
    (cookieHost lower host).toList.length ≤ host.toList.length := by
  have hlower : (toLower lower host).toList.length = host.toList.length := by simp [toLower]
  unfold cookieHost
  cases hcut : Text.cut (toLower lower host) ":" with
  | none => exact Nat.le_of_eq hlower
  | some p =>
    rw [Text.eq_of_cut hcut] at hlower
    simp only [String.toList_append, List.length_append] at hlower
    simp only [Option.map_some, Option.getD_some]
    omega

/-- The host of the redirect URL is no longer than the domain it is made of. -/
theorem length_urlHost_le {baseDomain : String} (hbase : baseDomain ≠ "") :
    (urlHost (redirectURL ("https://" ++ baseDomain))).toList.length ≤
      baseDomain.toList.length := by
  have hpos : "/".toList.length ≤ baseDomain.toList.length := by
    refine List.length_pos_iff.mpr ?_
    rw [ne_eq, String.toList_eq_nil_iff]
    exact hbase
  obtain ⟨base, htrim, hle⟩ := Text.trimSuffix_append hpos
  have hslash : oidcCallbackPath.toList = '/' :: "kubepark/oidc/callback".toList := by decide
  obtain ⟨p, hp, hp'⟩ := Text.length_cutList_le '/' "kubepark/oidc/callback".toList base.toList
  have hcut : Text.cut (base ++ oidcCallbackPath) "/" =
      some (String.ofList p.1, String.ofList p.2) := by
    unfold Text.cut
    rw [String.toList_append, hslash]
    exact congrArg _ hp
  unfold urlHost redirectURL
  dsimp only
  rw [htrim, String.append_assoc, Text.trimPrefix_append, hcut, Option.map_some, Option.getD_some,
    String.toList_ofList]
  omega

/-- The host of a sandbox is longer than the base domain. -/
theorem length_lt_of_parseHTTPHost {lower : Char → Char} {host baseDomain : String}
    {target : HTTPTarget} (hbase : baseDomain ≠ "") (htrim : trimSpace host = host)
    (h : parseHTTPHost lower host baseDomain = .ok target) :
    baseDomain.toList.length < (cookieHost lower host).toList.length := by
  have hparse : (routingLabel (cookieHost lower host) baseDomain >>= parseLabel) = .ok target := by
    unfold parseHTTPHost at h
    rw [htrim] at h
    exact h
  cases hrouting : routingLabel (cookieHost lower host) baseDomain with
  | error e =>
    rw [hrouting] at hparse
    cases hparse
  | ok label =>
    rw [hrouting] at hparse
    have hlabel := congrArg (·.toList.length) (label_of_parseLabel hparse)
    have hsep : "--".toList.length = 2 := by decide
    have hdot : ".".toList.length = 1 := by decide
    have hbase' := Text.length_le_trimPrefix baseDomain "."
    unfold routingLabel at hrouting
    rw [if_pos hbase] at hrouting
    split at hrouting
    · cases hrouting
    · rename_i label' hsuffix
      cases hrouting
      rw [Text.eq_of_trimSuffix hsuffix]
      simp only [String.toList_append, List.length_append] at hlabel ⊢
      omega

/-! ## The flow -/

/-- What a handler has answered so far. -/
structure Reply where
  cluster : Cluster
  cookies : List SetCookie := []
  location : Option String := none
  failure : Option (String × Nat) := none

/-- A round trip to the identity provider that succeeds. -/
structure RoundTrip where
  /-- The random token of the login. -/
  state : String
  code : String
  rawID : String
  /-- The claims of the ID token. -/
  claims : Option (List (String × ClaimValue))

def answer (x : RoundTrip) : (op : HttpOp) → Reply → HttpResp op × Reply
  | .api op, s => ((handle op s.cluster).1, { s with cluster := (handle op s.cluster).2 })
  | .randomString, s => (x.state, s)
  | .exchange _, s => (.ok (some x.rawID), s)
  | .verify _, s => (.ok x.claims, s)
  | .setCookie cookie, s => ((), { s with cookies := s.cookies ++ [cookie] })
  | .redirect location _, s => ((), { s with location := some location })
  | .error message code, s => ((), { s with failure := some (message, code) })
  | .forward _, s => ((), s)

/-- A login in a browser. -/
structure Login where
  auth : CookieAuthenticator
  redirectBase : String
  lower : Char → Char
  trip : RoundTrip
  /-- The cookies the browser has. -/
  jar : Web.Jar
  cluster : Cluster
  startTime : Time
  callbackTime : Time

namespace Login

variable (l : Login) (host url : String)

/-- The host that the callback is on. -/
def redirectHost : String :=
  urlHost (redirectURL l.redirectBase)

/-- A request of the browser. Of its cookies, the gateway reads these two. -/
def request (jar : Web.Jar) (t : Time) (host path url : String) (query : List (String × String)) :
    HttpRequest where
  host := host
  path := path
  url := url
  query := query
  cookies := [stateCookie, sessionCookie].filterMap fun name =>
    (jar.sent (cookieHost l.lower host) t name).map fun value => (name, value)

/-- The browser keeps the cookies of a reply of `host`. -/
def keep (jar : Web.Jar) (t : Time) (host : String) (reply : Reply) : Web.Jar :=
  reply.cookies.foldl (fun jar cookie =>
    jar.store (cookieHost l.lower host) t cookie.name cookie.value cookie.maxAge) jar

/-- What a handler answers at the time `t`. -/
def reply (x : HttpM Unit) (t : Time) : Reply :=
  ((x ()).run (answer l.trip) { cluster := { l.cluster with clock := t } }).2

/-- The login starts on `host`, where the browser asked for `url`. -/
def started : Reply :=
  l.reply (l.auth.startLogin (l.request l.jar l.startTime host "" url [])) l.startTime

def jarAfterStart : Web.Jar :=
  l.keep l.jar l.startTime host (l.started host url)

/-- The provider redirects the browser to the redirect URL, with the state it was given. -/
def callbackRequest : HttpRequest :=
  l.request (l.jarAfterStart host url) l.callbackTime l.redirectHost oidcCallbackPath
    oidcCallbackPath [("code", l.trip.code), ("state", l.trip.state)]

def finished : Reply :=
  l.reply (l.auth.callback (l.callbackRequest host url)) l.callbackTime

def jarAfterCallback : Web.Jar :=
  l.keep (l.jarAfterStart host url) l.callbackTime l.redirectHost (l.finished host url)

/-- Who the gateway takes the browser for that asks for `url` again. -/
def identity : Option SessionClaims :=
  match (l.auth.identify (l.request (l.jarAfterCallback host url) l.callbackTime host "" url [])
    ()).run (answer l.trip) { cluster := { l.cluster with clock := l.callbackTime } } with
  | ((.ok claims, _), _) => claims
  | _ => none

/-- The browser ends on the URL it asked for, and is known there by the principal of its token. -/
def Completes : Prop :=
  (∃ location, (l.finished host url).location = some location ∧
    Web.resolve (cookieHost l.lower l.redirectHost) (Web.redirectLocation location.toList) =
      (cookieHost l.lower host, url.toList)) ∧
  (l.identity host url).map (·.principal) =
    some (CookieAuthenticator.identityFromToken l.trip.claims l.auth.claim).1

/-- The claims that the callback signs. -/
def claims : SessionClaims where
  principal := (CookieAuthenticator.identityFromToken l.trip.claims l.auth.claim).1
  groups := (CookieAuthenticator.identityFromToken l.trip.claims l.auth.claim).2
  expiry := Int64.ofInt (unixSeconds (l.callbackTime + l.auth.ttl))

/-- What is assumed of a login : the token is new and made by `randomString`, the provider names
a principal and takes less than ten minutes, and the session can be signed. -/
structure Proper : Prop where
  state : ∃ bytes, l.trip.state = Base64.encodeToString bytes
  fresh : ∀ value, l.jar.sent (cookieHost l.lower l.redirectHost) l.callbackTime stateCookie =
    some value → ((Text.cut value "|").getD (value, "")).1 ≠ l.trip.state
  principal : (CookieAuthenticator.identityFromToken l.trip.claims l.auth.claim).1 ≠ ""
  inTime : l.callbackTime < l.startTime + 600 * second
  ttl : 0 ≤ l.auth.ttl
  /-- The expiry fits into an `int64`. -/
  expiry : l.claims.expiry.toInt = unixSeconds (l.callbackTime + l.auth.ttl)
  /-- `json` reads what it wrote. -/
  json : l.auth.unmarshal (l.auth.marshal l.claims) = some l.claims

/-! ## What the cookies carry -/

section Cookies

variable {l : Login} {host url : String}

theorem cookie_request (jar : Web.Jar) (t : Time) (host path url : String)
    (query : List (String × String)) {name : String} (hname : name ∈ [stateCookie, sessionCookie]) :
    (l.request jar t host path url query).cookie name =
      jar.sent (cookieHost l.lower host) t name :=
  jar.lookup_sent hname

theorem cookies_started :
    (l.started host url).cookies =
      [{ name := stateCookie, value := l.trip.state ++ "|" ++ url, secure := l.auth.secure,
         maxAge := 600 }] :=
  rfl

theorem jarAfterStart_eq :
    l.jarAfterStart host url = l.jar.store (cookieHost l.lower host) l.startTime stateCookie
      (l.trip.state ++ "|" ++ url) 600 := by
  rw [jarAfterStart, keep, cookies_started, List.foldl_cons, List.foldl_nil]

theorem validCookieChar_base64 (bytes : List UInt8) :
    ∀ c ∈ (Base64.encodeToString bytes).toList, Web.validCookieChar c = true := by
  have halphabet : Base64.alphabet.all Web.validCookieChar = true := by decide +kernel
  intro c hc
  rw [Base64.encodeToString, String.toList_ofList] at hc
  exact List.all_eq_true.mp halphabet c (Base64.mem_encode bytes c hc)

theorem carried_signCookie (a : CookieAuthenticator) (claims : SessionClaims) :
    Web.carried (a.signCookie claims) = a.signCookie claims := by
  have hdot : Web.carried "." = "." := by decide
  simp only [CookieAuthenticator.signCookie, CookieAuthenticator.signature, Web.carried_append, hdot,
    Web.carried_of_valid (validCookieChar_base64 _)]

/-- The state cookie carries the token and what can be carried of the URL. -/
theorem Proper.carried_state (hl : l.Proper) :
    Web.carried (l.trip.state ++ "|" ++ url) = l.trip.state ++ "|" ++ Web.carried url := by
  have hbar : Web.carried "|" = "|" := by decide
  obtain ⟨bytes, hbytes⟩ := hl.state
  rw [Web.carried_append, Web.carried_append, hbar, hbytes,
    Web.carried_of_valid (validCookieChar_base64 bytes)]

theorem Proper.cut_state (hl : l.Proper) (returnTo : String) :
    Text.cut (l.trip.state ++ "|" ++ returnTo) "|" = some (l.trip.state, returnTo) := by
  have hbar : '|' ∉ Base64.alphabet := by decide +kernel
  obtain ⟨bytes, hbytes⟩ := hl.state
  refine Text.cut_append fun hmem => ?_
  rw [hbytes, Base64.encodeToString, String.toList_ofList] at hmem
  exact hbar (Base64.mem_encode bytes '|' hmem)

/-- On the host the login started on, the callback reads the state back. -/
theorem Proper.state_sent (hl : l.Proper)
    (hhost : cookieHost l.lower l.redirectHost = cookieHost l.lower host) :
    (l.callbackRequest host url).cookie stateCookie =
      some (l.trip.state ++ "|" ++ Web.carried url) := by
  have htime := hl.inTime
  simp only [second] at htime
  rw [callbackRequest, cookie_request _ _ _ _ _ _ (by simp), hhost, jarAfterStart_eq,
    Web.Jar.sent_store_self (by decide) fun _ => by lia, hl.carried_state]

/-- On another host, it does not. -/
theorem Proper.state_not_sent (hl : l.Proper)
    (hhost : cookieHost l.lower l.redirectHost ≠ cookieHost l.lower host) {value : String}
    (h : (l.callbackRequest host url).cookie stateCookie = some value) :
    ((Text.cut value "|").getD (value, "")).1 ≠ l.trip.state := by
  rw [callbackRequest, cookie_request _ _ _ _ _ _ (by simp), jarAfterStart_eq,
    Web.Jar.sent_store_ne (Or.inl hhost)] at h
  exact hl.fresh value h

end Cookies

/-! ## The callback -/

section Callback

variable {l : Login} {r : HttpRequest} {t : Time}

theorem reply_callback_missing (h : r.cookie stateCookie = none) :
    (l.reply (l.auth.callback r) t).location = none := by
  unfold reply CookieAuthenticator.callback
  rw [h]
  rfl

theorem reply_callback_mismatch {value : String} (h : r.cookie stateCookie = some value)
    (hstate : ((Text.cut value "|").getD (value, "")).1 ≠ r.queryValue "state") :
    (l.reply (l.auth.callback r) t).location = none := by
  unfold reply CookieAuthenticator.callback
  simp only [h, ne_eq, hstate, not_false_eq_true, ↓reduceIte]
  rfl

theorem reply_finishLogin {returnTo : String} (hreturn : returnTo ≠ "") (principal : String)
    (groups : List String) :
    (l.reply (l.auth.finishLogin principal groups returnTo) t).location = some returnTo ∧
    (l.reply (l.auth.finishLogin principal groups returnTo) t).cookies =
      [{ name := sessionCookie
         value := l.auth.signCookie ⟨principal, groups, Int64.ofInt (unixSeconds (t + l.auth.ttl))⟩
         secure := l.auth.secure
         maxAge := l.auth.ttl.tdiv second }] := by
  unfold CookieAuthenticator.finishLogin
  rw [if_neg hreturn]
  exact ⟨rfl, rfl⟩

/-- A callback with the state of its query comes to `finishLogin`. -/
theorem reply_callback_ok {value returnTo : String} (h : r.cookie stateCookie = some value)
    (hcut : Text.cut value "|" = some (r.queryValue "state", returnTo))
    (hprincipal : (CookieAuthenticator.identityFromToken l.trip.claims l.auth.claim).1 ≠ "") :
    l.reply (l.auth.callback r) t =
      l.reply (l.auth.finishLogin l.claims.principal l.claims.groups returnTo) t := by
  have hsteps : l.reply (l.auth.callback r) t = l.reply
      (if (CookieAuthenticator.identityFromToken l.trip.claims l.auth.claim).1 = "" then
        Http.ask (.error "no principal claim" 400)
      else l.auth.finishLogin l.claims.principal l.claims.groups returnTo) t := by
    unfold reply CookieAuthenticator.callback
    simp only [h, hcut, Option.getD_some, ne_eq, not_true_eq_false, ↓reduceIte]
    rfl
  rw [hsteps, if_neg hprincipal]

end Callback

/-! ## The whole login -/

section Whole

variable {l : Login} {host url : String}

theorem carried_ne_empty (hroot : url.toList.head? = some '/') : Web.carried url ≠ "" := by
  intro hempty
  have hslash : '/' ∈ (Web.carried url).toList := by
    rw [Web.carried, String.toList_ofList]
    exact List.mem_filter.mpr ⟨List.mem_of_head? hroot, by decide⟩
  rw [hempty] at hslash
  cases hslash

/-- Where the hosts are the same, the callback succeeds. -/
theorem Proper.finished (hl : l.Proper) (hroot : url.toList.head? = some '/')
    (hhost : cookieHost l.lower l.redirectHost = cookieHost l.lower host) :
    (l.finished host url).location = some (Web.carried url) ∧
    (l.finished host url).cookies =
      [{ name := sessionCookie, value := l.auth.signCookie l.claims, secure := l.auth.secure,
         maxAge := l.auth.ttl.tdiv second }] := by
  rw [Login.finished,
    reply_callback_ok (hl.state_sent hhost) (hl.cut_state (Web.carried url)) hl.principal]
  exact reply_finishLogin (carried_ne_empty hroot) _ _

/-- Where they differ, it fails. -/
theorem Proper.not_finished (hl : l.Proper)
    (hhost : cookieHost l.lower l.redirectHost ≠ cookieHost l.lower host) :
    (l.finished host url).location = none := by
  cases hcookie : (l.callbackRequest host url).cookie stateCookie with
  | none => exact reply_callback_missing hcookie
  | some value => exact reply_callback_mismatch hcookie (hl.state_not_sent hhost hcookie)

/-- The session cookie is sent to the host of the callback, and verified there. -/
theorem Proper.identified (hl : l.Proper) (hroot : url.toList.head? = some '/')
    (hhost : cookieHost l.lower l.redirectHost = cookieHost l.lower host) :
    l.identity host url = some l.claims := by
  have hage : 0 ≤ l.auth.ttl.tdiv second := Int.tdiv_nonneg hl.ttl (by decide)
  have hsent : (l.jarAfterCallback host url).sent (cookieHost l.lower host) l.callbackTime
      sessionCookie = some (l.auth.signCookie l.claims) := by
    unfold jarAfterCallback keep
    rw [(hl.finished hroot hhost).2, ← hhost, List.foldl_cons, List.foldl_nil,
      Web.Jar.sent_store_self hage fun _ => by lia, carried_signCookie]
  have hfaithful : l.auth.Faithful (· = l.claims) := fun _ he => he ▸ hl.json
  have hverify := l.auth.verifyCookie_signCookie hfaithful rfl
  have hexpiry : ¬l.claims.expiry.toInt < unixSeconds l.callbackTime := by
    rw [hl.expiry]
    exact Int.not_lt.mpr (Int.ediv_le_ediv (by decide) (by have := hl.ttl; lia))
  unfold identity CookieAuthenticator.identify
  rw [cookie_request _ _ _ _ _ _ (by simp), hsent]
  simp only [hverify]
  change (match Prog.run (answer l.trip) ((if l.claims.expiry.toInt < unixSeconds l.callbackTime
      then pure none else pure (some l.claims) : HttpM (Option SessionClaims)) ())
      { cluster := { l.cluster with clock := l.callbackTime } } with
    | ((.ok claims, _), _) => claims
    | _ => none) = some l.claims
  rw [if_neg hexpiry]
  rfl

/-- A login completes where it started if and only if the redirect URL is on that host, and the
URL that was asked for has only characters that a cookie carries, and a clean path. -/
theorem login_completes_iff (l : Login) (host url : String) (hl : l.Proper)
    (hroot : url.toList.head? = some '/') :
    l.Completes host url ↔
      cookieHost l.lower l.redirectHost = cookieHost l.lower host ∧
      (∀ c ∈ url.toList, Web.validCookieChar c = true) ∧ Web.cleanURL url.toList = url.toList := by
  by_cases hhost : cookieHost l.lower l.redirectHost = cookieHost l.lower host
  · have hlist : (Web.carried url).toList = url.toList.filter Web.validCookieChar :=
      String.toList_ofList
    rw [Completes, (hl.finished hroot hhost).1, hl.identified hroot hhost,
      ← Web.resolve_redirect_iff, ← hlist]
    constructor
    · rintro ⟨⟨location, hlocation, hresolve⟩, -⟩
      rw [Option.some.inj hlocation]
      exact hresolve
    · intro hresolve
      exact ⟨⟨_, rfl, hresolve⟩, rfl⟩
  · constructor
    · rintro ⟨⟨location, hlocation, -⟩, -⟩
      rw [hl.not_finished hhost] at hlocation
      cases hlocation
    · rintro ⟨hsame, -⟩
      exact absurd hsame hhost

/-- Configured as the gateway configures it, no login on the host of a sandbox completes. -/
theorem login_never_completes (hl : l.Proper) {baseDomain : String} (hbase : baseDomain ≠ "")
    (hredirect : l.redirectBase = "https://" ++ baseDomain) (htrim : trimSpace host = host)
    {target : HTTPTarget} (hhost : parseHTTPHost l.lower host baseDomain = .ok target) :
    ¬l.Completes host url := by
  have hlt := length_lt_of_parseHTTPHost hbase htrim hhost
  have hle : l.redirectHost.toList.length ≤ baseDomain.toList.length := by
    rw [redirectHost, hredirect]
    exact length_urlHost_le hbase
  have hne : cookieHost l.lower l.redirectHost ≠ cookieHost l.lower host := by
    intro heq
    have hcookie := length_cookieHost_le l.lower l.redirectHost
    rw [heq] at hcookie
    omega
  rintro ⟨⟨location, hlocation, -⟩, -⟩
  rw [hl.not_finished hne] at hlocation
  cases hlocation

end Whole

end Login

/-- Alice logs in to the team's gateway, with nothing in the browser before. -/
def aliceLogin (redirectBase : String) : Login where
  auth := teamAuthenticator
  redirectBase := redirectBase
  lower := Char.toLower
  trip :=
    { state := Base64.encodeToString [7, 11, 13, 17, 19, 23, 29, 31, 37, 41, 43, 47, 53, 59, 61, 67]
      code := "code"
      rawID := "token"
      claims := some [("email", .string "alice")] }
  jar := fun _ _ => none
  cluster := exposed
  startTime := 1699996390 * second
  callbackTime := 1699996400 * second

theorem claims_aliceLogin (redirectBase : String) :
    (aliceLogin redirectBase).claims = aliceClaims := by
  have hclaims : (aliceLogin "").claims = aliceClaims := by decide +kernel
  exact hclaims

theorem proper_aliceLogin (redirectBase : String) : (aliceLogin redirectBase).Proper := by
  have hprincipal : (CookieAuthenticator.identityFromToken (some [("email", .string "alice")])
      "email").1 ≠ "" := by decide
  have htime : (1699996400 * second : Time) < 1699996390 * second + 600 * second := by decide
  have hexpiry : aliceClaims.expiry.toInt = unixSeconds (1699996400 * second + 3600 * second) := by
    decide +kernel
  have hjson : teamAuthenticator.unmarshal (teamAuthenticator.marshal aliceClaims) =
      some aliceClaims := rfl
  have hclaims := claims_aliceLogin redirectBase
  constructor
  · exact ⟨_, rfl⟩
  · exact fun _ h => nomatch h
  · exact hprincipal
  · exact htime
  · exact (by decide : (0 : Int) ≤ 3600 * second)
  · rw [hclaims]
    exact hexpiry
  · rw [hclaims]
    exact hjson

/-- With a redirect URL on the host of her sandbox, Alice's login would complete. -/
theorem login_completes_alice :
    ∃ l : Login, l.Proper ∧ l.redirectBase = "https://web--dev--team.box.test" ∧
      l.Completes "web--dev--team.box.test" "/lab?path=a" := by
  have hl := proper_aliceLogin "https://web--dev--team.box.test"
  have hhost : cookieHost Char.toLower (urlHost (redirectURL "https://web--dev--team.box.test")) =
      cookieHost Char.toLower "web--dev--team.box.test" := by decide +kernel
  have hvalid : "/lab?path=a".toList.all Web.validCookieChar = true := by decide +kernel
  have hclean : Web.cleanURL "/lab?path=a".toList = "/lab?path=a".toList := by decide +kernel
  exact ⟨_, hl, rfl, (Login.login_completes_iff _ _ _ hl (by decide)).mpr
    ⟨hhost, List.all_eq_true.mp hvalid, hclean⟩⟩

/-- As the gateway is configured, it does not. -/
theorem login_lost_alice :
    ∃ l : Login, l.Proper ∧ l.redirectBase = "https://" ++ "box.test" ∧
      parseHTTPHost l.lower "web--dev--team.box.test" "box.test" =
        .ok ⟨"web", "dev", "team"⟩ ∧
      ¬l.Completes "web--dev--team.box.test" "/" := by
  have hl := proper_aliceLogin ("https://" ++ "box.test")
  have hparse : parseHTTPHost Char.toLower "web--dev--team.box.test" "box.test" =
      .ok ⟨"web", "dev", "team"⟩ := by decide +kernel
  refine ⟨_, hl, rfl, hparse, ?_⟩
  exact Login.login_never_completes hl (by decide) rfl (by decide +kernel) hparse

end Gateway

end Kubepark
