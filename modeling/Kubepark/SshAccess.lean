import Kubepark.Pool
import Kubepark.SignEndpoint

/-!
# Who gets in with a certificate of the sign endpoint

Any number of requests are handled by the sign endpoint at the same time, step by step and in any
order, while time passes and the others do what they do (`AccessRun`). An `SshLogin` is what a
certificate is issued for : a body that was received, with a public key and an ID token that the
verifier vouched for, and a principal that the token names.

Every certificate in an answer of the endpoint comes from a login (`sound_run`). What the gateway
and the agents decide about it is then known, and so is who can get in with it and until when
(`ssh_access_by_login`). That a certificate which the checker accepts was signed with the key of
the CA, by the endpoint or elsewhere, is an assumption on signatures.
-/

namespace Kubepark

namespace Gateway

open ApiServer Client Prog

/-! ## The endpoint and its surroundings -/

/-- What a verifier says of a token, by the time it is asked. -/
abbrev Provider := IDTokenVerifier → String → Time → Except Unit TokenClaims

/-- The cluster, the bodies that the endpoint has read and its answers, and the certificates that
were signed elsewhere with the key of the CA, as `kubepark admin sign-cert` does. -/
structure AccessWorld where
  cluster : Cluster
  received : List (List UInt8) := []
  replies : List HTTPReply := []
  elsewhere : List Certificate := []

/-- What the calls of the endpoint do. The body of a request is whatever the client sends. The
verification fails too when the provider's keys cannot be fetched. -/
def SignStep (idp : Provider) :
    (op : SignOp) → AccessWorld → SignResp op → AccessWorld → Prop
  | .api op, w, r, w' => ∃ c, Step op w.cluster r c ∧ w' = { w with cluster := c }
  | .readBody, w, body, w' => w' = { w with received := body :: w.received }
  | .verify verifier rawID, w, r, w' =>
    w' = w ∧ (r = .error () ∨ r = idp verifier rawID w.cluster.clock)
  | .respond reply, w, _, w' => w' = { w with replies := reply :: w.replies }

/-- What happens beside the endpoint : time passes, the cluster changes, and certificates are
signed elsewhere. -/
structure Beside (w w' : AccessWorld) : Prop where
  clock : w.cluster.clock ≤ w'.cluster.clock
  received : w'.received = w.received
  replies : w'.replies = w.replies
  elsewhere : ∀ cert ∈ w.elsewhere, cert ∈ w'.elsewhere

theorem Beside.refl (w : AccessWorld) : Beside w w :=
  ⟨Int.le_refl _, rfl, rfl, fun _ => id⟩

/-- The requests that are being handled, each with its method and its path. -/
abbrev AccessPool :=
  Pool SignOp SignResp AccessWorld (String × String) (Except ApiError Unit × Unit)

/-- A step of the endpoint or of what happens beside it. -/
def AccessRun (kt : KeyText) (idp : Provider) (srv : SignServer) (pool pool' : AccessPool) : Prop :=
  PoolStep (SignStep idp) (fun r => srv.handler kt r.1 r.2 ()) (fun _ _ => True) Beside pool pool'

/-! ## Logins -/

/-- What a certificate is issued for. -/
structure SshLogin where
  body : List UInt8
  request : SignRequest
  /-- The key of the certificate. -/
  key : Nat
  principal : String
  serial : Nat
  /-- When the token was verified. -/
  verified : Time
  /-- When the certificate was signed. -/
  signed : Time

/-- Since `start` the endpoint has received the login's body, with the key and a token of which the
verifier said at the time that it names the principal; and `cert` is the certificate for them. -/
structure SshLogin.Issued (kt : KeyText) (idp : Provider) (srv : SignServer) (start : Time)
    (w : AccessWorld) (login : SshLogin) (cert : Certificate) : Prop where
  received : login.body ∈ w.received
  decoded : SignRequest.decode login.body = some login.request
  key : kt.read login.request.publicKey = .publicAuthorized login.key
  vouched : ∃ verifier idToken, srv.verifier = some verifier ∧
    idp verifier login.request.idToken login.verified = .ok idToken ∧
    principalFromClaims idToken srv.oidc.principalClaim = .ok login.principal
  started : start ≤ login.verified
  ordered : login.verified ≤ login.signed
  past : login.signed ≤ w.cluster.clock
  cert : cert = userCertificate srv.signer.ca login.key login.principal srv.signer.ttl login.signed
    login.serial

/-- The certificate stands in an answer of the endpoint. -/
def Published (kt : KeyText) (w : AccessWorld) (cert : Certificate) : Prop :=
  ∃ reply ∈ w.replies, ∃ response, reply.status = 200 ∧
    SignResponse.decode reply.body = some response ∧
    kt.read response.certificate = .certAuthorized cert

/-- A certificate in the answer is one of a login. -/
def Justified (kt : KeyText) (idp : Provider) (srv : SignServer) (start : Time) (w : AccessWorld)
    (reply : HTTPReply) : Prop :=
  reply.status = 200 → ∀ response cert, SignResponse.decode reply.body = some response →
    kt.read response.certificate = .certAuthorized cert →
    ∃ login : SshLogin, login.Issued kt idp srv start w cert

/-- What holds of the world since `start`. -/
structure Sound (kt : KeyText) (idp : Provider) (srv : SignServer) (start : Time)
    (w : AccessWorld) : Prop where
  clock : start ≤ w.cluster.clock
  replies : ∀ reply ∈ w.replies, Justified kt idp srv start w reply

/-- What the requests rely on, and guarantee to each other. -/
structure Onward (kt : KeyText) (idp : Provider) (srv : SignServer) (start : Time)
    (w w' : AccessWorld) : Prop where
  clock : w.cluster.clock ≤ w'.cluster.clock
  received : ∀ body ∈ w.received, body ∈ w'.received
  replies : ∀ reply ∈ w'.replies, reply ∈ w.replies ∨ Justified kt idp srv start w' reply

section Steps

variable {kt : KeyText} {idp : Provider} {srv : SignServer} {start : Time} {w w' : AccessWorld}
  {cert : Certificate} {reply : HTTPReply}

theorem SshLogin.Issued.onward {login : SshLogin} (h : login.Issued kt idp srv start w cert)
    (hclock : w.cluster.clock ≤ w'.cluster.clock)
    (hreceived : ∀ body ∈ w.received, body ∈ w'.received) :
    login.Issued kt idp srv start w' cert :=
  { h with received := hreceived _ h.received, past := Int.le_trans h.past hclock }

theorem Justified.onward (h : Justified kt idp srv start w reply)
    (hclock : w.cluster.clock ≤ w'.cluster.clock)
    (hreceived : ∀ body ∈ w.received, body ∈ w'.received) :
    Justified kt idp srv start w' reply := by
  intro hstatus response cert hresponse hcert
  obtain ⟨login, hlogin⟩ := h hstatus response cert hresponse hcert
  exact ⟨login, hlogin.onward hclock hreceived⟩

theorem Sound.onward (hw : Sound kt idp srv start w) (h : Onward kt idp srv start w w') :
    Sound kt idp srv start w' := by
  refine ⟨Int.le_trans hw.clock h.clock, fun reply hreply => ?_⟩
  rcases h.replies reply hreply with hold | hnew
  · exact (hw.replies reply hold).onward h.clock h.received
  · exact hnew

theorem Sound.onwards (hw : Sound kt idp srv start w)
    (h : Relation.ReflTransGen (Onward kt idp srv start) w w') :
    Sound kt idp srv start w' ∧ w.cluster.clock ≤ w'.cluster.clock ∧
      ∀ body ∈ w.received, body ∈ w'.received := by
  induction h with
  | refl => exact ⟨hw, Int.le_refl _, fun _ => id⟩
  | tail _ hstep ih =>
    obtain ⟨hsound, hclock, hreceived⟩ := ih
    exact ⟨hsound.onward hstep, Int.le_trans hclock hstep.clock,
      fun body hbody => hstep.received body (hreceived body hbody)⟩

theorem Beside.onward (h : Beside w w') : Onward kt idp srv start w w' where
  clock := h.clock
  received _ hbody := h.received ▸ hbody
  replies _ hreply := Or.inl (h.replies ▸ hreply)

/-! ## What a request does -/

/-- A call of a request is one that the others can rely on. -/
def Relied (kt : KeyText) (idp : Provider) (srv : SignServer) (start : Time) (op : SignOp)
    (w : AccessWorld) : Prop :=
  ∀ r w', SignStep idp op w r w' → w' = w ∨ Onward kt idp srv start w w'

theorem relied_api (op : Call) : Relied kt idp srv start (.api op) w := by
  rintro r _ ⟨c, hstep, rfl⟩
  exact Or.inr ⟨Int.le_of_eq hstep.clock.symm, fun _ => id, fun _ => Or.inl⟩

theorem relied_readBody : Relied kt idp srv start .readBody w := by
  rintro body _ rfl
  exact Or.inr ⟨Int.le_refl _, fun _ => List.mem_cons_of_mem _, fun _ => Or.inl⟩

theorem relied_verify (verifier : IDTokenVerifier) (rawID : String) :
    Relied kt idp srv start (.verify verifier rawID) w :=
  fun _ _ h => Or.inl h.1

theorem relied_respond (h : Justified kt idp srv start w reply) :
    Relied kt idp srv start (.respond reply) w := by
  rintro _ _ rfl
  refine Or.inr ⟨Int.le_refl _, fun _ => id, fun reply' hreply' => ?_⟩
  rcases List.mem_cons.mp hreply' with rfl | hold
  · exact Or.inr (h.onward (Int.le_refl _) fun _ => id)
  · exact Or.inl hold

/-- The world after a call, when the others have taken their steps. -/
theorem Sound.after {op : SignOp} {r : SignResp op} (hw : Sound kt idp srv start w)
    (hop : Relied kt idp srv start op w)
    (h : interleaved (SignStep idp) (Onward kt idp srv start) op w r w') :
    Sound kt idp srv start w' ∧ w.cluster.clock ≤ w'.cluster.clock ∧
      ∀ body ∈ w.received, body ∈ w'.received := by
  obtain ⟨w₁, hstep, hothers⟩ := h
  rcases hop r w₁ hstep with rfl | honward
  · exact hw.onwards hothers
  · exact hw.onwards (.head honward hothers)

/-- A body that was read stays among those received. -/
theorem Sound.received {body : List UInt8} (hw : Sound kt idp srv start w)
    (h : interleaved (SignStep idp) (Onward kt idp srv start) .readBody w body w') :
    body ∈ w'.received := by
  obtain ⟨w₁, hread, hothers⟩ := h
  have hmem : body ∈ w₁.received := by
    rw [hread]
    exact List.mem_cons_self
  exact ((hw.after relied_readBody ⟨w₁, hread, .refl⟩).1.onwards hothers).2.2 body hmem

/-- The time that is read is the time of the call. -/
theorem time_of_now {t : Time}
    (h : interleaved (SignStep idp) (Onward kt idp srv start) (.api .now) w t w') :
    t = w.cluster.clock := by
  obtain ⟨_, ⟨c, hstep, -⟩, -⟩ := h
  rcases hstep with ⟨rfl, -⟩ | ⟨e, -, hfails, -⟩
  · rfl
  · exact hfails.elim

/-- An answer that ends the request. -/
theorem wp_answer (h : Justified kt idp srv start w reply) :
    (Sign.ask (.respond reply) ()).wp (interleaved (SignStep idp) (Onward kt idp srv start))
      (Relied kt idp srv start) (fun _ _ => True) w :=
  ⟨relied_respond h, fun _ _ _ => trivial⟩

theorem justified_error {message : String} {code : Nat} (hcode : code ≠ 200) :
    Justified kt idp srv start w (Sign.errorReply message code) :=
  fun hstatus => absurd hstatus hcode

theorem justified_signed {login : SshLogin} (h : login.Issued kt idp srv start w cert) :
    Justified kt idp srv start w (Sign.jsonReply 200
      (SignResponse.toJson ⟨kt.write (.certAuthorized cert), login.principal⟩)) := by
  intro _ response cert' hresponse hcert'
  rw [decode_signResponse] at hresponse
  obtain rfl := Option.some.inj hresponse
  rw [kt.read_write] at hcert'
  cases hcert'
  exact ⟨login, h⟩

theorem justified_config : Justified kt idp srv start w (Sign.jsonReply 200 srv.oidc.toJson) := by
  intro _ response cert hresponse hcert
  rw [certificate_config hresponse, kt.read_empty] at hcert
  cases hcert

theorem wp_handleSign (hw : Sound kt idp srv start w) (method : String) :
    (srv.handleSign kt method ()).wp (interleaved (SignStep idp) (Onward kt idp srv start))
      (Relied kt idp srv start) (fun _ _ => True) w := by
  unfold SignServer.handleSign
  split_ifs
  · exact wp_answer (justified_error (by decide))
  cases hverifier : srv.verifier with
  | none => exact wp_answer (justified_error (by decide))
  | some verifier =>
  refine Routine.wp_all_ask_bind relied_readBody fun body w₁ hread => ?_
  obtain ⟨hw₁, -, -⟩ := hw.after relied_readBody hread
  have hbody := hw.received hread
  cases hrequest : SignRequest.decode body with
  | none => exact wp_answer (justified_error (by decide))
  | some req =>
  refine Routine.wp_all_ask_bind (relied_verify _ _) fun verdict w₂ hverify => ?_
  obtain ⟨hw₂, hclock₂, hreceived₂⟩ := hw₁.after (relied_verify _ _) hverify
  cases verdict with
  | error _ => exact wp_answer (justified_error (by decide))
  | ok idToken =>
  dsimp only
  cases hprincipal : principalFromClaims idToken srv.oidc.principalClaim with
  | error e => exact wp_answer (justified_error (by decide))
  | ok principal =>
  have hfailed : ∀ w', (Sign.error "signing failed" 500 ()).wp
      (interleaved (SignStep idp) (Onward kt idp srv start)) (Relied kt idp srv start)
      (fun _ _ => True) w' := fun _ => wp_answer (justified_error (by decide))
  refine Sign.wp_api_bind (Signer.wp_sign srv.signer (fun _ _ => relied_api _)
    (fun _ _ => hfailed _) (fun _ _ _ _ _ => hfailed _) (fun _ _ _ _ _ _ _ => hfailed _) ?_)
  · intro key t w₃ n w₄ hkey hnow hfresh
    obtain ⟨hw₃, hclock₃, hreceived₃⟩ := hw₂.after (relied_api _) hnow
    obtain ⟨hw₄, hclock₄, hreceived₄⟩ := hw₃.after (relied_api _) hfresh
    have hvouched : idp verifier req.idToken w₁.cluster.clock = .ok idToken := by
      obtain ⟨_, ⟨-, hanswer⟩, -⟩ := hverify
      rcases hanswer with hanswer | hanswer
      · cases hanswer
      · exact hanswer.symm
    have htime := time_of_now hnow
    let login : SshLogin := ⟨body, req, key, principal, n % 2 ^ 64, w₁.cluster.clock, t⟩
    have hissued : login.Issued kt idp srv start w₄
        (userCertificate srv.signer.ca key principal srv.signer.ttl t (n % 2 ^ 64)) :=
      { received := hreceived₄ _ (hreceived₃ _ (hreceived₂ _ hbody))
        decoded := hrequest
        key := hkey
        vouched := ⟨verifier, idToken, hverifier, hvouched, hprincipal⟩
        started := hw₁.clock
        ordered := Int.le_trans hclock₂ (Int.le_of_eq htime.symm)
        past := Int.le_trans (Int.le_of_eq htime) (Int.le_trans hclock₃ hclock₄)
        cert := rfl }
    have hjustified := justified_signed hissued
    exact wp_answer hjustified

theorem wp_handler (hw : Sound kt idp srv start w) (method path : String) :
    (srv.handler kt method path ()).wp (interleaved (SignStep idp) (Onward kt idp srv start))
      (Relied kt idp srv start) (fun _ _ => True) w := by
  unfold SignServer.handler
  split_ifs
  · exact wp_answer justified_config
  · exact wp_handleSign hw method
  · exact wp_answer (justified_error (by decide))

end Steps

/-! ## Runs -/

/-- In every run, whatever certificate stands in an answer is one of a login. -/
theorem sound_run {kt : KeyText} {idp : Provider} {srv : SignServer} {w : AccessWorld}
    (hw : w.replies = []) {pool : AccessPool}
    (hrun : Relation.ReflTransGen (AccessRun kt idp srv) ⟨w, []⟩ pool) :
    Sound kt idp srv w.cluster.clock pool.state := by
  have hsafe : (⟨w, []⟩ : AccessPool).Safe (SignStep idp) (Onward kt idp srv w.cluster.clock)
      (Sound kt idp srv w.cluster.clock) (fun _ _ _ => True) := by
    refine ⟨⟨Int.le_refl _, ?_⟩, fun _ ht => absurd ht List.not_mem_nil⟩
    rw [hw]
    exact fun _ hreply => absurd hreply List.not_mem_nil
  refine (Pool.run_safe (fun _ _ hsound => hsound.onward) (fun _ _ _ h => Or.inr h.onward)
    (fun pool request hpool _ => ?_) hsafe hrun).1.state
  intro w' hothers
  exact wp_handler (hpool.state.onwards hothers).1 request.1 request.2

/-! ## A request that is answered with a certificate -/

/-- The surroundings when nothing fails, and the client sends `body`. -/
def serveSign (idp : Provider) (body : List UInt8) :
    (op : SignOp) → AccessWorld → SignResp op × AccessWorld
  | .api op, w => ((handle op w.cluster).1, { w with cluster := (handle op w.cluster).2 })
  | .readBody, w => (body, { w with received := body :: w.received })
  | .verify verifier rawID, w => (idp verifier rawID w.cluster.clock, w)
  | .respond reply, w => ((), { w with replies := reply :: w.replies })

theorem signStep_serveSign (idp : Provider) (body : List UInt8) (op : SignOp) (w : AccessWorld) :
    SignStep idp op w (serveSign idp body op w).1 (serveSign idp body op w).2 := by
  cases op with
  | api op => exact ⟨_, step_handle op w.cluster, rfl⟩
  | readBody => rfl
  | verify verifier rawID => exact ⟨rfl, Or.inr rfl⟩
  | respond reply => rfl

/-- Nothing fails, while other things happen beside. -/
def SignServed (idp : Provider) (body : List UInt8) (op : SignOp) (w : AccessWorld)
    (r : SignResp op) (w' : AccessWorld) : Prop :=
  r = (serveSign idp body op w).1 ∧ Beside (serveSign idp body op w).2 w'

section Answered

variable {kt : KeyText} {idp : Provider} {srv : SignServer} {w : AccessWorld} {body : List UInt8}

/-- The answer to a good request, if it comes before `deadline` : the certificate for a time in
between. -/
def Answered (kt : KeyText) (srv : SignServer) (w : AccessWorld) (key : Nat) (principal : String)
    (deadline : Time) (r : Except ApiError Unit × Unit) (w' : AccessWorld) : Prop :=
  w.cluster.clock ≤ w'.cluster.clock ∧ (w'.cluster.clock ≤ deadline → r = (.ok (), ()) ∧
    ∃ t serial, w.cluster.clock ≤ t ∧ t ≤ w'.cluster.clock ∧
      w'.replies = Sign.jsonReply 200 (SignResponse.toJson ⟨kt.write (.certAuthorized
        (userCertificate srv.signer.ca key principal srv.signer.ttl t serial)), principal⟩) ::
          w.replies)

theorem SignServed.clock {op : SignOp} {r : SignResp op} {w' : AccessWorld}
    (h : SignServed idp body op w r w') : w.cluster.clock ≤ w'.cluster.clock := by
  refine Int.le_trans (Int.le_of_eq ?_) h.2.clock
  cases op with
  | api op => exact (clock_handle op w.cluster).symm
  | readBody | verify | respond => rfl

/-- Time does not go back. -/
theorem wp_later {α : Type} (p : Prog SignOp SignResp α) (w : AccessWorld) :
    p.wp (SignServed idp body) (fun _ _ => True)
      (fun _ w' => w.cluster.clock ≤ w'.cluster.clock) w := by
  refine Prog.wp_mono (Prog.wp_preserves (I := fun w' => w.cluster.clock ≤ w'.cluster.clock) ?_
    (Prog.wp_true p w) (Int.le_refl _)) (fun _ _ _ => trivial) fun _ _ h => h.2
  exact fun op w₁ r w₂ _ hstep hw₁ => Int.le_trans hw₁ hstep.clock

theorem wp_handler_sign {verifier : IDTokenVerifier} {req : SignRequest} {idToken : TokenClaims}
    {key : Nat} {principal : String} {deadline : Time} (hverifier : srv.verifier = some verifier)
    (hrequest : SignRequest.decode body = some req)
    (hkey : kt.read req.publicKey = .publicAuthorized key)
    (hvouched : ∀ t, w.cluster.clock ≤ t → t ≤ deadline →
      idp verifier req.idToken t = .ok idToken)
    (hprincipal : principalFromClaims idToken srv.oidc.principalClaim = .ok principal) :
    (srv.handler kt "POST" "/v1/sign" ()).wp (SignServed idp body) (fun _ _ => True)
      (Answered kt srv w key principal deadline) w := by
  have hhandler : srv.handler kt "POST" "/v1/sign" = srv.handleSign kt "POST" := rfl
  rw [hhandler, SignServer.handleSign, if_neg (by simp), hverifier]
  refine Routine.wp_all_ask_bind trivial fun read w₁ ⟨hread, hbeside₁⟩ => ?_
  obtain rfl : read = body := hread
  rw [hrequest]
  refine Routine.wp_all_ask_bind trivial fun verdict w₂ ⟨hverdict, hbeside₂⟩ => ?_
  have hclock₁ : w.cluster.clock ≤ w₁.cluster.clock := hbeside₁.clock
  have hclock₂ : w₁.cluster.clock ≤ w₂.cluster.clock := hbeside₂.clock
  have hreplies₂ : w₂.replies = w.replies := hbeside₂.replies.trans hbeside₁.replies
  by_cases htime : w₁.cluster.clock ≤ deadline
  · obtain rfl : verdict = .ok idToken := hverdict.trans (hvouched _ hclock₁ htime)
    dsimp only
    rw [hprincipal]
    refine Sign.wp_api_bind (Signer.wp_sign srv.signer (fun _ _ => trivial) ?_ ?_ ?_ ?_)
    · exact fun e hkeyless => absurd hkey (hkeyless key)
    · exact fun e t w₃ hempty _ => absurd hempty (principalFromClaims_eq_ok.mp hprincipal).1
    · rintro e t w₃ e' w₄ - ⟨hfresh, -⟩
      cases hfresh
    · rintro key' t w₃ n w₄ hkey' ⟨hnow, hbeside₃⟩ ⟨-, hbeside₄⟩
      obtain rfl : key = key' := by
        rw [hkey] at hkey'
        cases hkey'
        rfl
      obtain rfl : t = w₂.cluster.clock := hnow
      have hclock₃ : w₂.cluster.clock ≤ w₃.cluster.clock := hbeside₃.clock
      have hclock₄ : w₃.cluster.clock ≤ w₄.cluster.clock := hbeside₄.clock
      refine ⟨trivial, fun _ w₅ ⟨_, hbeside₅⟩ => ?_⟩
      have hclock₅ : w₄.cluster.clock ≤ w₅.cluster.clock := hbeside₅.clock
      refine ⟨by lia, fun _ => ⟨rfl, w₂.cluster.clock, n % 2 ^ 64, by lia, by lia, ?_⟩⟩
      rw [hbeside₅.replies]
      show _ :: w₄.replies = _
      rw [hbeside₄.replies.trans (hbeside₃.replies.trans hreplies₂)]
  · -- The token may have expired before it was verified.
    refine Prog.wp_mono (wp_later _ w₂) (fun _ _ => id) fun _ w' hw' => ⟨by lia, fun hend => ?_⟩
    exact absurd hend (by lia)

end Answered

/-! ## Who gets in -/

/-- The time is in the window of a login's certificate, in whole seconds. -/
def SshLogin.Current (login : SshLogin) (ttl : Duration) (t : Time) : Prop :=
  unixSeconds login.signed - 60 ≤ unixSeconds t ∧ unixSeconds t < unixSeconds (login.signed + ttl)

section Access

variable {checker : CertChecker} {Verifies : Certificate → Prop} {kt : KeyText} {idp : Provider}
  {srv : SignServer} {start : Time} {w : AccessWorld} {cert : Certificate}

/-- Where and when the certificate of a login is accepted. -/
theorem SshLogin.Issued.accepts_iff {login : SshLogin} (h : login.Issued kt idp srv start w cert)
    (hdoc : checker.Documented Verifies) (hepoch : 60 * second ≤ start)
    (hpos : 0 < srv.signer.ttl)
    (hrange : unixSeconds (w.cluster.clock + srv.signer.ttl) < 2 ^ 63) (q : String) (t : Time) :
    Accepts checker srv.signer.ca cert q t ↔
      q = login.principal ∧ login.Current srv.signer.ttl t := by
  have hsigned : 60 * second ≤ login.signed :=
    Int.le_trans hepoch (Int.le_trans h.started h.ordered)
  have hend : unixSeconds (login.signed + srv.signer.ttl) < 2 ^ 63 :=
    Int.lt_of_le_of_lt (unixSeconds_mono (Int.add_le_add_right h.past _)) hrange
  rw [h.cert, Accepts, checkUserCert_userCertificate hdoc hsigned hpos hend]
  simp [Current]

/-- A time-to-live that is not positive is replaced by the default. -/
theorem newSigner_ttl_pos {userCAPrivPEM : Blob} {ttl : Duration} {signer : Signer}
    (h : newSigner userCAPrivPEM ttl = .ok signer) : 0 < signer.ttl := by
  rw [newSigner_ttl h]
  split_ifs with httl
  · exact httl
  · decide

theorem publicKeyHandler_newSSHServer {hostKeyPEM userCAAuthorized : Blob} {gw : Server} {ca : Nat}
    (hgw : newSSHServer checker hostKeyPEM userCAAuthorized = .ok gw)
    (hca : parsePublicKey userCAAuthorized = .ok ca) :
    gw.publicKeyHandler = publicKeyHandler checker ca := by
  simp only [newSSHServer, hca] at hgw
  cases hkey : parseSigner hostKeyPEM with
  | error e =>
    rw [hkey] at hgw
    cases hgw
  | ok hostKey =>
    rw [hkey] at hgw
    cases hgw
    rfl

/-- Whom the gateway lets in anywhere has a certificate that it accepts for someone. -/
theorem accepts_of_admits {hostKeyPEM userCAAuthorized : Blob} {gw : Server} {ca : Nat}
    {c : Cluster} {target : SSHTarget} {t : Time}
    (hgw : newSSHServer checker hostKeyPEM userCAAuthorized = .ok gw)
    (hca : parsePublicKey userCAAuthorized = .ok ca)
    (h : Admits gw c target (.certificate cert) t) : ∃ q, Accepts checker ca cert q t := by
  obtain ⟨principal, serial, sb, hkey, -⟩ := h
  rw [publicKeyHandler_newSSHServer hgw hca, publicKeyHandler] at hkey
  split at hkey
  · cases hkey
  · rename_i q _ _
    split at hkey
    · cases hkey
    · rename_i haccepts
      exact ⟨q, haccepts⟩

/-- An agent that lets anyone in has a host key with its certificate. -/
theorem hostSigner_of_admits {agent : Agent.Config} {key : PresentedKey} {t : Time}
    (h : Agent.Admits checker agent key t) :
    ∃ s, Agent.signerWithCert agent.hostKeyPEM agent.hostCertAuthorized = .ok s := by
  obtain ⟨server, hserver, -⟩ := h
  unfold Agent.newServer at hserver
  split_ifs at hserver
  cases hsigner : Agent.signerWithCert agent.hostKeyPEM agent.hostCertAuthorized with
  | error e =>
    rw [hsigner] at hserver
    cases hserver
  | ok s => exact ⟨s, rfl⟩

end Access

/-- Who gets in, and with what. A certificate that is accepted anywhere comes from an answer of the
endpoint, or from someone else who has the key of the CA. In every run of the endpoint, with
requests by anyone handled side by side, a certificate of the first kind lets into a sandbox only
its owner : someone sent the key of the certificate to the endpoint, with an ID token that the
verifier vouched for then, and the token names the owner. It lets them in from a minute before it
was signed until its time-to-live has passed. An agent lets in the same way the owner that it was
configured with. -/
theorem ssh_access_by_login (checker : CertChecker) (Verifies : Certificate → Prop)
    (hdoc : checker.Documented Verifies) (kt : KeyText) (idp : Provider)
    (userCAPrivPEM userCAAuthorized hostKeyPEM : Blob) (ttl : Duration) (signer : Signer)
    (hsigner : newSigner userCAPrivPEM ttl = .ok signer)
    (discover : String → Except ApiError Unit) (cfg : OIDCConfig) (srv : SignServer)
    (hsrv : newSignServer discover signer cfg = .ok srv) (gw : Server)
    (hgw : newSSHServer checker hostKeyPEM userCAAuthorized = .ok gw)
    (hpair : parsePublicKey userCAAuthorized = .ok signer.ca) (w : AccessWorld)
    (hw : w.replies = []) (hepoch : 60 * second ≤ w.cluster.clock) (pool : AccessPool)
    (hrun : Relation.ReflTransGen (AccessRun kt idp srv) ⟨w, []⟩ pool)
    (hrange : unixSeconds (pool.state.cluster.clock + signer.ttl) < 2 ^ 63) (cert : Certificate)
    (hunforged : ∀ q t, Accepts checker signer.ca cert q t →
      Published kt pool.state cert ∨ cert ∈ pool.state.elsewhere)
    (helsewhere : cert ∉ pool.state.elsewhere) :
    (∀ sb t, pool.state.cluster.find? .sandbox sb.key = some sb →
      Admits gw pool.state.cluster ⟨sb.metadata.name, sb.metadata.namespaceName⟩
        (.certificate cert) t →
      ∃ login : SshLogin, login.Issued kt idp srv w.cluster.clock pool.state cert ∧
        login.principal = sb.spec.owner.name ∧ login.Current signer.ttl t) ∧
    ∀ agent t, parsePublicKey agent.userCAAuthorized = .ok signer.ca →
      Agent.Admits checker agent (.certificate cert) t →
      ∃ login : SshLogin, login.Issued kt idp srv w.cluster.clock pool.state cert ∧
        login.principal = agent.owner ∧ login.Current signer.ttl t := by
  obtain ⟨hsame, -, -⟩ := newSignServer_eq_ok hsrv
  have hpos := newSigner_ttl_pos hsigner
  have hsound := sound_run hw hrun
  -- Whoever is accepted has a certificate from an answer, and so there is a login.
  have hlogin : ∀ q t, Accepts checker signer.ca cert q t → ∃ login : SshLogin,
      login.Issued kt idp srv w.cluster.clock pool.state cert ∧
        ∀ q t, Accepts checker signer.ca cert q t ↔
          q = login.principal ∧ login.Current signer.ttl t := by
    intro q t haccepts
    rcases hunforged q t haccepts with ⟨reply, hreply, response, hstatus, hdecode, hcert⟩ | hcert
    · obtain ⟨login, hissued⟩ := hsound.replies reply hreply hstatus response cert hdecode hcert
      subst hsame
      exact ⟨login, hissued, hissued.accepts_iff hdoc hepoch hpos hrange⟩
    · exact absurd hcert helsewhere
  refine ⟨fun sb t hsb hadmits => ?_, fun agent t hca hadmits => ?_⟩
  · obtain ⟨q, hq⟩ := accepts_of_admits hgw hpair hadmits
    obtain ⟨login, hissued, haccepts⟩ := hlogin q t hq
    have hone : cert.validPrincipals = [login.principal] := by
      rw [hissued.cert]
      rfl
    obtain ⟨-, howner, hcurrent⟩ := (gateway_admits_iff hgw hpair hsb hone).mp hadmits
    exact ⟨login, hissued, howner, ((haccepts _ _).mp hcurrent).2⟩
  · have hq : Accepts checker signer.ca cert agent.owner t :=
      ((agent_admits_iff hca (hostSigner_of_admits hadmits)).mp hadmits).2
    obtain ⟨login, hissued, haccepts⟩ := hlogin _ t hq
    obtain ⟨howner, hcurrent⟩ := (haccepts _ _).mp hq
    exact ⟨login, hissued, howner.symm, hcurrent⟩

end Gateway

/-! ## Alice logs in -/

namespace Team

open Gateway

/-- The endpoint of the team. -/
def signServer : SignServer where
  signer := signer
  oidc :=
    { issuer := "https://idp.test", clientID := "kubepark", principalClaim := "email"
      baseDomain := "", gatewaySSHAddr := ":2222" }
  verifier := some ⟨"https://idp.test", "kubepark"⟩

/-- The provider vouches for one token, which is Alice's. -/
def idp : Provider :=
  fun _ rawID _ =>
    if rawID = "token" then .ok (.ok [("email", .string "alice")]) else .error ()

/-- The gateway with the user CA of the signer. -/
def jumpHost : Server :=
  ⟨4, publicKeyHandler documentedChecker 1⟩

/-- Alice's sandbox, an hour into the epoch. -/
def atHour : AccessWorld where
  cluster := { withSandbox with clock := 3600 * second }

def signRequest : SignRequest :=
  ⟨KeyText.json.write (.publicAuthorized 7), "token"⟩

end Team

namespace Gateway

/-- No call of the endpoint moves the clock, or signs anything elsewhere. -/
theorem wp_atHour {α : Type} (p : Prog SignOp SignResp α) :
    p.wp (SignStep Team.idp) (fun _ _ => True) (fun _ w' =>
      w'.cluster.clock = 3600 * second ∧ w'.elsewhere = []) Team.atHour := by
  refine Prog.wp_mono (Prog.wp_preserves (I := fun w' => w'.cluster.clock = 3600 * second ∧
    w'.elsewhere = []) ?_ (Prog.wp_true p _) ⟨rfl, rfl⟩) (fun _ _ _ => trivial) fun _ _ h => h.2
  rintro op w r w' - hstep hw
  cases op with
  | api op =>
    obtain ⟨c, hstep, rfl⟩ := hstep
    exact ⟨hstep.clock.trans hw.1, hw.2⟩
  | readBody =>
    obtain rfl := hstep
    exact hw
  | verify =>
    obtain ⟨rfl, -⟩ := hstep
    exact hw
  | respond =>
    obtain rfl := hstep
    exact hw

/-- Alice sends a key with a token of hers, and gets into her sandbox with the answer. -/
theorem ssh_access_alice : ∃ (pool : AccessPool) (cert : Certificate) (login : SshLogin),
    Relation.ReflTransGen (AccessRun KeyText.json Team.idp Team.signServer) ⟨Team.atHour, []⟩ pool ∧
    Admits Team.jumpHost pool.state.cluster ⟨"dev", "team"⟩ (.certificate cert) (3600 * second) ∧
    login.Issued KeyText.json Team.idp Team.signServer (3600 * second) pool.state cert ∧
    login.principal = "alice" ∧ login.Current (8 * 3600 * second) (3600 * second) := by
  obtain ⟨calls, r, w, hexec, hserved⟩ : ∃ calls r w,
      (Team.signServer.handler KeyText.json "POST" "/v1/sign" ()).Exec (SignStep Team.idp)
        Team.atHour calls r w ∧
      (Team.signServer.handler KeyText.json "POST" "/v1/sign" ()).Exec
        (SignServed Team.idp Team.signRequest.marshal) Team.atHour calls r w :=
    ⟨_, _, _, Prog.exec_run (signStep_serveSign Team.idp Team.signRequest.marshal) _ _,
      Prog.exec_run (fun _ _ => ⟨rfl, Beside.refl _⟩) _ _⟩
  obtain ⟨hclock, helsewhere⟩ := (hexec.wp (wp_atHour _)).2
  have hvouched : ∀ t, Team.atHour.cluster.clock ≤ t → t ≤ 3600 * second →
      Team.idp ⟨"https://idp.test", "kubepark"⟩ Team.signRequest.idToken t =
        .ok (.ok [("email", .string "alice")]) := fun _ _ _ => rfl
  obtain ⟨-, t, serial, hstart, hend, hreplies⟩ := (hserved.wp (wp_handler_sign rfl
    (decode_marshal _) (KeyText.json.read_write _) hvouched rfl)).2.2 (Int.le_of_eq hclock)
  obtain rfl : t = 3600 * second := Int.le_antisymm (hclock ▸ hend) hstart
  -- The certificate, and the run that ends with it and goes on with the cluster as it was.
  let cert := userCertificate 1 7 "alice" (8 * 3600 * second) (3600 * second) serial
  let pool : AccessPool :=
    ⟨{ w with cluster := Team.atHour.cluster }, [(("POST", "/v1/sign"), .pure r)]⟩
  have hanswer : Relation.ReflTransGen (AccessRun KeyText.json Team.idp Team.signServer)
      ⟨Team.atHour, []⟩ ⟨w, [(("POST", "/v1/sign"), .pure r)]⟩ :=
    Prog.Pool.run_start trivial hexec
  have hrun : Relation.ReflTransGen (AccessRun KeyText.json Team.idp Team.signServer)
      ⟨Team.atHour, []⟩ pool :=
    hanswer.tail (.env ⟨Int.le_of_eq hclock, rfl, rfl, fun _ => id⟩)
  have hpublished : Published KeyText.json pool.state cert := by
    refine ⟨Sign.jsonReply 200 (SignResponse.toJson ⟨KeyText.json.write (.certAuthorized cert),
      "alice"⟩), ?_, _, rfl, decode_signResponse _ 200, KeyText.json.read_write _⟩
    show _ ∈ w.replies
    rw [hreplies]
    exact List.mem_cons_self
  have hgw : newSSHServer Team.documentedChecker (.privatePEM 4 "gateway")
      (.publicAuthorized 1) = .ok Team.jumpHost := rfl
  have hsb : pool.state.cluster.find? .sandbox (Team.sandbox .running {}).key =
      some (Team.sandbox .running {}) := rfl
  have haccepts : Accepts Team.documentedChecker 1 cert "alice" (3600 * second) :=
    (checkUserCert_userCertificate Team.documentedChecker_documented (by decide) (by decide)
      (by decide) 1 "alice" _).mpr ⟨rfl, rfl, by decide, by decide⟩
  have hrange : unixSeconds (3600 * second + 8 * 3600 * second) < 2 ^ 63 := by decide
  have hadmits := (gateway_admits_iff hgw rfl hsb rfl).mpr ⟨by decide, rfl, haccepts⟩
  obtain ⟨login, hissued, hprincipal, hcurrent⟩ := (ssh_access_by_login
    Team.documentedChecker _ Team.documentedChecker_documented KeyText.json Team.idp
    (.privatePEM 1 "kubepark-user-ca") (.publicAuthorized 1) (.privatePEM 4 "gateway") 0
    Team.signer rfl (fun _ => .ok ()) Team.signServer.oidc Team.signServer rfl Team.jumpHost
    hgw rfl Team.atHour rfl (by decide) pool hrun hrange cert (fun _ _ _ => Or.inl hpublished)
    (by simp [pool, helsewhere])).1 _ _ hsb hadmits
  exact ⟨pool, cert, login, hrun, hadmits, hissued, hprincipal, hcurrent⟩

end Gateway

end Kubepark
