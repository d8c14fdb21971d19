import Kubepark.AgentIdentity

/-!
# How long a user certificate is good

`signer.go` and the signing half of `internal/sshca` : `Signer.sign` issues a certificate for one
principal, from a minute before the signing time to the time-to-live after it, in whole Unix
seconds; `checkUserCert` decides who gets in with it. A time-to-live that is not positive would
mean a certificate without end (`validBefore`), and `newSigner` puts eight hours in its place.

What the SSH library's checker decides is taken from its documentation (`CertChecker.Documented`).
The main result (`signed_certificate_valid_iff`) is that a certificate is accepted for exactly
the principal, the CA and the window it was issued for.
-/

namespace Kubepark

open ApiServer Client Routine

variable {σ : Type}

/-- Sign a user's public key for exactly one principal. -/
def signUserCert (ca userPub : Nat) (principal : String) (validFor : Duration) (now : Time) :
    ClientM σ Certificate := do
  if principal = "" then
    Routine.fail (.text "refusing to sign a certificate without a principal")
  else
    let serial ← newSerial
    pure (userCertificate ca userPub principal validFor now serial)

namespace Gateway

/-- Mints user certificates from the user CA's private key. -/
structure Signer where
  ca : Nat
  ttl : Duration

/-- A signer from the user CA's private key. A time-to-live that is not positive is replaced. -/
def newSigner (userCAPrivPEM : Blob) (ttl : Duration) : Except ApiError Signer := do
  let ca ← (parseSigner userCAPrivPEM).mapError (.wrap "parse user CA")
  pure { ca := ca, ttl := if ttl ≤ 0 then 8 * 3600 * second else ttl }

/-- A certificate for the public key and the principal, as an `authorized_keys` line. -/
def Signer.sign (s : Signer) (pubAuthorized : Blob) (principal : String) : ClientM σ Blob := do
  let pub ← Routine.ofExcept ((parsePublicKey pubAuthorized).mapError (.wrap "parse public key"))
  let t ← now
  let cert ← signUserCert s.ca pub principal s.ttl t
  pure (.certAuthorized cert)

end Gateway

/-! ## The checker -/

/-- The documented behaviour of `CertChecker.CheckCert`, on certificates without critical options
whose bounds are Unix times or infinity, where `Verifies` is that the signature of a certificate
is one of its signature key; and `SignCert` makes such signatures. -/
structure CertChecker.Documented (checker : CertChecker) (Verifies : Certificate → Prop) : Prop where
  accepts_iff : ∀ principal cert now, cert.validAfter < 2 ^ 63 →
    (cert.validBefore < 2 ^ 63 ∨ cert.validBefore = certTimeInfinity) →
    (checker.checkCert principal cert now = .ok () ↔
      (cert.validPrincipals ≠ [] → principal ∈ cert.validPrincipals) ∧
      cert.validAfter ≤ unixSeconds now ∧
      (cert.validBefore = certTimeInfinity ∨ unixSeconds now < cert.validBefore) ∧ Verifies cert)
  signed : ∀ ca userPub principal validFor now serial,
    Verifies (userCertificate ca userPub principal validFor now serial)

section Window

variable {now : Time} {validFor : Duration}

theorem toUint64_of_range {n : Int} (h : 0 ≤ n) (hn : n < 2 ^ 63) : (toUint64 n : Int) = n := by
  unfold toUint64
  omega

theorem unixSeconds_skew (now : Time) : unixSeconds (now - 60 * second) = unixSeconds now - 60 := by
  simp only [unixSeconds, second]
  omega

theorem unixSeconds_mono {t t' : Time} (h : t ≤ t') : unixSeconds t ≤ unixSeconds t' := by
  simp only [unixSeconds, second]
  lia

theorem unixSeconds_minute (hnow : 60 * second ≤ now) : 60 ≤ unixSeconds now := by
  simp only [unixSeconds, second] at hnow ⊢
  lia

/-- The start of the window. -/
theorem validAfter_eq {ca userPub serial : Nat} {principal : String} (hnow : 60 * second ≤ now)
    (hrange : unixSeconds now < 2 ^ 63) :
    ((userCertificate ca userPub principal validFor now serial).validAfter : Int) =
      unixSeconds now - 60 := by
  have hminute := unixSeconds_minute hnow
  show (toUint64 (unixSeconds (now - 60 * second)) : Int) = _
  rw [unixSeconds_skew, toUint64_of_range (by omega) (by omega)]

/-- The end of the window, for a duration that is positive. -/
theorem validBefore_eq (hnow : 60 * second ≤ now) (hpos : 0 < validFor)
    (hrange : unixSeconds (now + validFor) < 2 ^ 63) :
    (validBefore now validFor : Int) = unixSeconds (now + validFor) := by
  have hminute := unixSeconds_minute hnow
  have hlater : unixSeconds now ≤ unixSeconds (now + validFor) := unixSeconds_mono (by lia)
  rw [validBefore, if_neg (by lia), toUint64_of_range (by omega) hrange]

end Window

/-! ## Who gets in -/

section Accepted

variable {checker : CertChecker} {ca userPub serial : Nat} {p : String} {validFor : Duration}
  {now : Time}

/-- A user certificate gets past the tests that `checkUserCert` makes itself exactly at its own
CA. -/
theorem checkUserCert_eq_ok (caPub : Nat) (q : String) (t : Time) :
    checkUserCert checker (some (userCertificate ca userPub p validFor now serial)) caPub q t = .ok () ↔
      caPub = ca ∧ checker.checkCert q (userCertificate ca userPub p validFor now serial) t = .ok () := by
  simp only [checkUserCert, userCertificate, ne_eq, not_true_eq_false, ↓reduceIte, List.cons_ne_nil]
  by_cases hca : caPub = ca
  · subst hca
    simp only [not_true_eq_false, ↓reduceIte, true_and]
    cases checker.checkCert q _ t with
    | error e => simp [Except.mapError]
    | ok _ => simp [Except.mapError]
  · simp [hca, Ne.symm hca]

/-- Which user certificates are accepted, of those issued for a positive duration. -/
theorem checkUserCert_userCertificate {Verifies : Certificate → Prop}
    (hdoc : checker.Documented Verifies) (hnow : 60 * second ≤ now) (hpos : 0 < validFor)
    (hrange : unixSeconds (now + validFor) < 2 ^ 63) (caPub : Nat) (q : String) (t : Time) :
    checkUserCert checker (some (userCertificate ca userPub p validFor now serial)) caPub q t = .ok () ↔
      q = p ∧ caPub = ca ∧ unixSeconds now - 60 ≤ unixSeconds t ∧
        unixSeconds t < unixSeconds (now + validFor) := by
  have hlater : unixSeconds now ≤ unixSeconds (now + validFor) := unixSeconds_mono (by lia)
  have hafter : ((userCertificate ca userPub p validFor now serial).validAfter : Int) =
      unixSeconds now - 60 := validAfter_eq hnow (by omega)
  have hbefore : ((userCertificate ca userPub p validFor now serial).validBefore : Int) =
      unixSeconds (now + validFor) := validBefore_eq hnow hpos hrange
  -- The end is a time, so it is not the infinity that the checker knows.
  have hfinite : (userCertificate ca userPub p validFor now serial).validBefore ≠ certTimeInfinity := by
    unfold certTimeInfinity
    omega
  rw [checkUserCert_eq_ok, hdoc.accepts_iff q _ t (by omega) (Or.inl (by omega)), hafter, hbefore]
  have hlisted : ((userCertificate ca userPub p validFor now serial).validPrincipals ≠ [] →
      q ∈ (userCertificate ca userPub p validFor now serial).validPrincipals) ↔ q = p := by
    simp [userCertificate]
  rw [hlisted]
  constructor
  · rintro ⟨hca, hq, hstart, hend, -⟩
    exact ⟨hq, hca, hstart, hend.resolve_left hfinite⟩
  · rintro ⟨hq, hca, hstart, hend⟩
    exact ⟨hca, hq, hstart, Or.inr hend, hdoc.signed _ _ _ _ _ _⟩

end Accepted

/-! ## What the signing functions issue -/

section Issued

variable {st : σ} {c : Cluster}

theorem Gateway.newSigner_ttl {userCAPrivPEM : Blob} {ttl : Duration} {s : Gateway.Signer}
    (h : Gateway.newSigner userCAPrivPEM ttl = .ok s) :
    s.ttl = if 0 < ttl then ttl else 8 * 3600 * second := by
  unfold Gateway.newSigner at h
  cases hca : parseSigner userCAPrivPEM with
  | error e =>
    rw [hca] at h
    cases h
  | ok ca =>
    rw [hca] at h
    cases h
    rcases Int.lt_or_le 0 ttl with hpos | hneg
    · exact (if_neg (Int.not_le.mpr hpos)).trans (if_pos hpos).symm
    · exact (if_pos hneg).trans (if_neg (Int.not_lt.mpr hneg)).symm

/-- What `sign` issues is a user certificate for the principal, at the time of the call. -/
theorem Gateway.ends_sign (s : Gateway.Signer) (pubAuthorized : Blob) (p : String) :
    (s.sign pubAuthorized p : ClientM σ Blob).Ends Step (fun blob _ _ => ∃ userPub serial,
      blob = .certAuthorized (userCertificate s.ca userPub p s.ttl c.clock serial)) st c := by
  refine wp_bind.mpr (wp_ofExcept.mpr fun pub _ => ?_)
  refine wp_bind.mpr (wp_now.mpr ⟨trivial, ?_⟩)
  refine wp_bind.mpr (wp_ite (fun _ => trivial) fun _ => ?_)
  refine wp_bind.mpr (ends_of_forall fun serial _ _ => ?_)
  exact ⟨pub, serial, rfl⟩

/-- What `signHostCert` issues is a host certificate. -/
theorem ends_signHostCert (ca hostPub : Nat) (principals : List String) (validFor : Duration)
    (now : Time) : (signHostCert ca hostPub principals validFor now : ClientM σ Certificate).Ends Step
      (fun cert _ _ => cert.certType = .host) st c :=
  wp_bind.mpr (ends_of_forall fun _ _ _ => rfl)

end Issued

/-- A certificate is good exactly as issued. What a signer issues at a time that is at least a
minute into the Unix epoch is accepted for exactly its principal, at exactly its CA, from a minute
before that time to the end of the time-to-live, eight hours if that was not positive; so it is
not accepted for ever. The end is a time that `time.Time` can represent. A host certificate is not
accepted at all. -/
theorem signed_certificate_valid_iff (checker : CertChecker) (Verifies : Certificate → Prop)
    (hdoc : checker.Documented Verifies) :
    (∀ (userCAPrivPEM : Blob) (ttl : Duration) (s : Gateway.Signer) (pubAuthorized : Blob) (p : String)
        (c c' : Cluster) (calls : List (Call × Cluster)) (blob : Blob),
      Gateway.newSigner userCAPrivPEM ttl = .ok s → p ≠ "" → 60 * second ≤ c.clock →
      unixSeconds (c.clock + if 0 < ttl then ttl else 8 * 3600 * second) < 2 ^ 63 →
      (s.sign pubAuthorized p ()).Exec Step c calls (.ok blob, ()) c' →
      ∃ cert, blob = .certAuthorized cert ∧
        (∀ caPub q t, checkUserCert checker (some cert) caPub q t = .ok () ↔
          q = p ∧ caPub = s.ca ∧ unixSeconds c.clock - 60 ≤ unixSeconds t ∧
            unixSeconds t < unixSeconds (c.clock + if 0 < ttl then ttl else 8 * 3600 * second)) ∧
        ∃ t₀, ∀ caPub q t, t₀ ≤ t → checkUserCert checker (some cert) caPub q t ≠ .ok ()) ∧
    ∀ (ca hostPub : Nat) (principals : List String) (validFor : Duration) (now : Time)
        (c c' : Cluster) (calls : List (Call × Cluster)) (cert : Certificate),
      (signHostCert ca hostPub principals validFor now ()).Exec Step c calls (.ok cert, ()) c' →
      ∀ caPub q t, checkUserCert checker (some cert) caPub q t ≠ .ok () := by
  refine ⟨fun userCAPrivPEM ttl s pubAuthorized p c c' calls blob hs hp hnow hrange hsign => ?_,
    fun ca hostPub principals validFor now c c' calls cert hsign caPub q t haccepts => ?_⟩
  · obtain ⟨userPub, serial, rfl⟩ := (hsign.wp (Gateway.ends_sign s pubAuthorized p)).2
    have hpos : 0 < if 0 < ttl then ttl else 8 * 3600 * second := by
      split_ifs with httl
      · exact httl
      · decide
    rw [Gateway.newSigner_ttl hs]
    refine ⟨_, rfl, checkUserCert_userCertificate hdoc hnow hpos hrange,
      c.clock + if 0 < ttl then ttl else 8 * 3600 * second, ?_⟩
    intro caPub q t hlater haccepts
    have hend :=
      ((checkUserCert_userCertificate hdoc hnow hpos hrange caPub q t).mp haccepts).2.2.2
    exact absurd (unixSeconds_mono hlater) (Int.not_le.mpr hend)
  · have hhost : cert.certType = .host := (hsign.wp (ends_signHostCert _ _ _ _ _)).2
    simp [checkUserCert, hhost] at haccepts

namespace Team

/-- A checker as the library documents it, for signatures that all verify. -/
def documentedChecker : CertChecker where
  checkCert principal cert now :=
    if cert.validPrincipals ≠ [] ∧ principal ∉ cert.validPrincipals then
      .error (.text "ssh: principal not in the set")
    else if unixSeconds now < cert.validAfter then .error (.text "ssh: cert is not yet valid")
    else if cert.validBefore ≠ certTimeInfinity ∧ cert.validBefore ≤ unixSeconds now then
      .error (.text "ssh: cert has expired")
    else .ok ()

theorem documentedChecker_documented : documentedChecker.Documented fun _ => True where
  accepts_iff := by
    intro principal cert now _ _
    simp only [documentedChecker, and_true]
    split_ifs with hlisted hstart hend
    · simpa using fun h => absurd (h hlisted.1) hlisted.2
    · simpa using fun _ h => absurd h (Int.not_le.mpr hstart)
    · simpa [hend.1] using fun _ _ => hend.2
    · refine iff_of_true rfl ⟨fun hne => ?_, Int.not_lt.mp hstart, ?_⟩
      · exact not_not.mp fun hnot => hlisted ⟨hne, hnot⟩
      · by_cases hinf : cert.validBefore = certTimeInfinity
        · exact Or.inl hinf
        · exact Or.inr (Int.not_le.mp fun h => hend ⟨hinf, h⟩)
  signed _ _ _ _ _ _ := trivial

/-- The clock of the gateway, an hour into the epoch. -/
def hourIn : Cluster :=
  .ofObjects (fun _ => []) (3600 * second)

/-- A signer that was configured with a time-to-live of zero. -/
def signer : Gateway.Signer where
  ca := 1
  ttl := 8 * 3600 * second

end Team

/-- Alice's certificate from that signer is good until the ninth hour, and not longer. -/
theorem signed_certificate_eight_hours : ∃ calls cert c',
    (Team.signer.sign (.publicAuthorized 7) "alice" ()).Exec Step Team.hourIn calls
      (.ok (.certAuthorized cert), ()) c' ∧
    checkUserCert Team.documentedChecker (some cert) 1 "alice" (9 * 3600 * second - 1) = .ok () ∧
    checkUserCert Team.documentedChecker (some cert) 1 "alice" (9 * 3600 * second) ≠ .ok () := by
  have hok : ((Team.signer.sign (.publicAuthorized 7) "alice" ()).run handle Team.hourIn).1 =
      (.ok (.certAuthorized (userCertificate 1 7 "alice" (8 * 3600 * second) (3600 * second)
        (Team.hourIn.entropy % 2 ^ 64))), ()) := by rfl
  have hexec := Prog.exec_run step_handle (Team.signer.sign (.publicAuthorized 7) "alice" ())
    Team.hourIn
  rw [hok] at hexec
  obtain ⟨cert, hcert, hiff, -⟩ := (signed_certificate_valid_iff Team.documentedChecker _
    Team.documentedChecker_documented).1 (.privatePEM 1 "kubepark-user-ca") 0 Team.signer
      (.publicAuthorized 7) "alice" Team.hourIn _ _ _ rfl (by decide) (by decide) (by decide) hexec
  cases hcert
  refine ⟨_, _, _, hexec, (hiff _ _ _).mpr (by decide), fun h => ?_⟩
  exact absurd ((hiff _ _ _).mp h).2.2.2 (by decide)

end Kubepark
