import Kubepark.HttpProxy
import Kubepark.Json

/-!
# What a session cookie decodes to

A session cookie is the JSON of the claims in base64, a dot, and the code of that text in base64.
`marshalClaims` and `unmarshalClaims` are `encoding/json` at `sessionClaims`, with the tags of its
fields : `Groups` is left out when there are none. `unmarshalClaims_marshalClaims` says that the
claims come back.

`verifyCookie` compares the code with the text as it stands, before anything is decoded. So what
it accepts is a text with its own code (`verifyCookie_eq_some`), and no other value with that text
or with that code is accepted, nor one that differs in a character (`session_cookie_exact`).
-/

namespace Kubepark

namespace Gateway

/-! ## The JSON of claims -/

/-- The claims by the tags of their fields : `p`, `g,omitempty` and `e`. -/
def SessionClaims.toJson (claims : SessionClaims) : Json.Value :=
  .object ((['p'], .string claims.principal.toList) ::
    ((if claims.groups = [] then []
      else [(['g'], .array (claims.groups.map fun g => .string g.toList))]) ++
    [(['e'], .number (Json.intLiteral claims.expiry.toInt))]))

/-- `json.Marshal`. -/
def marshalClaims (claims : SessionClaims) : List UInt8 :=
  Utf8.encode (Json.render claims.toJson)

def SessionClaims.setPrincipal (claims : SessionClaims) : Json.Value → Option SessionClaims
  | .string s => some { claims with principal := String.ofList s }
  | .null => some claims
  | _ => none

/-- The groups of an array. A `null` leaves the group that was there. -/
def groupsOf : List String → List Json.Value → Option (List String)
  | _, [] => some []
  | old, .string s :: vs => (groupsOf old.tail vs).map (String.ofList s :: ·)
  | old, .null :: vs => (groupsOf old.tail vs).map (old.headD "" :: ·)
  | _, _ :: _ => none

def SessionClaims.setGroups (claims : SessionClaims) : Json.Value → Option SessionClaims
  | .array vs => (groupsOf claims.groups vs).map fun groups => { claims with groups := groups }
  | .null => some { claims with groups := [] }
  | _ => none

def SessionClaims.setExpiry (claims : SessionClaims) : Json.Value → Option SessionClaims
  | .number literal =>
    (Json.parseInt literal).bind fun n =>
      if Int64.minValue.toInt ≤ n ∧ n ≤ Int64.maxValue.toInt then
        some { claims with expiry := Int64.ofInt n }
      else none
  | .null => some claims
  | _ => none

/-- The member is set in the field of its name, in either case. Other members are skipped. -/
def SessionClaims.setMember (claims : SessionClaims) (m : List Char × Json.Value) :
    Option SessionClaims :=
  if m.1 = ['p'] ∨ m.1 = ['P'] then claims.setPrincipal m.2
  else if m.1 = ['g'] ∨ m.1 = ['G'] then claims.setGroups m.2
  else if m.1 = ['e'] ∨ m.1 = ['E'] then claims.setExpiry m.2
  else some claims

def SessionClaims.ofJson : Json.Value → Option SessionClaims
  | .object ms => ms.foldlM SessionClaims.setMember ⟨"", [], 0⟩
  | .null => some ⟨"", [], 0⟩
  | _ => none

/-- `json.Unmarshal`. -/
def unmarshalClaims (bytes : List UInt8) : Option SessionClaims :=
  (Json.parse (Utf8.decode bytes)).bind SessionClaims.ofJson

theorem groupsOf_strings (old groups : List String) :
    groupsOf old (groups.map fun g => .string g.toList) = some groups := by
  induction groups generalizing old with
  | nil => rfl
  | cons g groups ih => rw [List.map_cons, groupsOf, ih, Option.map_some, String.ofList_toList]

theorem integralItems_strings (groups : List String) :
    Json.IntegralItems (groups.map fun g => .string g.toList) := by
  induction groups with
  | nil => trivial
  | cons g groups ih => exact ⟨trivial, ih⟩

theorem integral_toJson (claims : SessionClaims) : Json.Integral claims.toJson := by
  refine ⟨trivial, ?_⟩
  split_ifs
  · exact ⟨⟨_, rfl⟩, trivial⟩
  · exact ⟨integralItems_strings _, ⟨_, rfl⟩, trivial⟩

theorem setExpiry_intLiteral (claims : SessionClaims) (t : Int64) :
    claims.setExpiry (.number (Json.intLiteral t.toInt)) = some { claims with expiry := t } := by
  rw [SessionClaims.setExpiry, Json.parseInt_intLiteral, Option.bind_some,
    if_pos ⟨t.minValue_le_toInt, t.toInt_le⟩, Int64.ofInt_toInt]

theorem ofJson_toJson (claims : SessionClaims) :
    SessionClaims.ofJson claims.toJson = some claims := by
  obtain ⟨principal, groups, expiry⟩ := claims
  have hprincipal : SessionClaims.setMember ⟨"", [], 0⟩ (['p'], .string principal.toList) =
      some ⟨principal, [], 0⟩ := by
    rw [SessionClaims.setMember, if_pos (Or.inl rfl), SessionClaims.setPrincipal,
      String.ofList_toList]
  have hgroups : SessionClaims.setMember ⟨principal, [], 0⟩
      (['g'], .array (groups.map fun g => .string g.toList)) = some ⟨principal, groups, 0⟩ := by
    rw [SessionClaims.setMember, if_neg (by simp), if_pos (Or.inl rfl), SessionClaims.setGroups,
      groupsOf_strings, Option.map_some]
  have hexpiry : SessionClaims.setMember ⟨principal, groups, 0⟩
      (['e'], .number (Json.intLiteral expiry.toInt)) = some ⟨principal, groups, expiry⟩ := by
    rw [SessionClaims.setMember, if_neg (by simp), if_neg (by simp), if_pos (Or.inl rfl),
      setExpiry_intLiteral]
  rw [SessionClaims.toJson, SessionClaims.ofJson, List.foldlM_cons, hprincipal, Option.bind_eq_bind,
    Option.bind_some]
  by_cases hempty : groups = []
  · subst hempty
    rw [if_pos rfl, List.nil_append, List.foldlM_cons, hexpiry]
    rfl
  · rw [if_neg hempty, List.singleton_append, List.foldlM_cons, hgroups, Option.bind_eq_bind,
      Option.bind_some, List.foldlM_cons, hexpiry]
    rfl

/-- Claims come back from their JSON. -/
theorem unmarshalClaims_marshalClaims (claims : SessionClaims) :
    unmarshalClaims (marshalClaims claims) = some claims := by
  rw [unmarshalClaims, marshalClaims, Utf8.decode_encode,
    Json.parse_render (integral_toJson claims), Option.bind_some, ofJson_toJson]

/-! ## What is accepted -/

namespace CookieAuthenticator

variable {a : CookieAuthenticator} {v v' : String} {claims claims' : SessionClaims}

/-- The authenticator reads and writes claims with `encoding/json`. -/
structure StandardJson (a : CookieAuthenticator) : Prop where
  marshal : a.marshal = marshalClaims
  unmarshal : a.unmarshal = unmarshalClaims

/-- No two texts have the same code. -/
def CollisionFree (a : CookieAuthenticator) : Prop :=
  ∀ b b', a.hmac a.hmacKey b = a.hmac a.hmacKey b' → b = b'

theorem cut_dot {s before after : String} :
    Text.cut s "." = some (before, after) ↔ s = before ++ "." ++ after ∧ '.' ∉ before.toList := by
  have hsep : ".".toList = ['.'] := by decide
  have hinfix : ['.'] <:+: before.toList ++ ['.'].dropLast ↔ '.' ∈ before.toList := by
    rw [List.mem_iff_append]
    simp [List.IsInfix, eq_comm]
  rw [Text.cut_eq_some (by rw [hsep]; simp), hsep, hinfix]

/-- What is accepted is a text with its own code, and the text decodes to the claims. -/
theorem verifyCookie_eq_some : a.verifyCookie v = some claims ↔
    ∃ b, '.' ∉ b.toList ∧ v = b ++ "." ++ a.signature b ∧
      (Base64.decodeString b).bind a.unmarshal = some claims := by
  rw [verifyCookie]
  constructor
  · intro h
    split at h
    · cases h
    · rename_i b sig hcut
      obtain ⟨hv, hdot⟩ := cut_dot.mp hcut
      split_ifs at h with hsig
      exact ⟨b, hdot, not_not.mp hsig ▸ hv, h⟩
  · rintro ⟨b, hdot, hv, hclaims⟩
    rw [cut_dot.mpr ⟨hv, hdot⟩]
    simpa using hclaims

theorem dot_notMem_signature (a : CookieAuthenticator) (b : String) :
    '.' ∉ (a.signature b).toList :=
  Base64.dot_not_mem _

theorem signature_inj (ha : a.CollisionFree) {b b' : String}
    (h : a.signature b = a.signature b') : b = b' := by
  have hdecoded := congrArg Base64.decodeString h
  rw [signature, signature, Base64.decodeString_encodeToString,
    Base64.decodeString_encodeToString] at hdecoded
  exact ha b b' (Option.some.inj hdecoded)

/-- `v'` is `v` with another character in one place. -/
def Changed (v v' : String) : Prop :=
  ∃ before c c' after, v.toList = before ++ c :: after ∧ v'.toList = before ++ c' :: after ∧ c ≠ c'

/-- A value that differs in one character is not accepted. -/
theorem verifyCookie_changed (ha : a.CollisionFree) (h : a.verifyCookie v = some claims)
    (hchanged : Changed v v') : a.verifyCookie v' = none := by
  obtain ⟨b, hb, rfl, -⟩ := verifyCookie_eq_some.mp h
  obtain ⟨before, c, c', after, hv, hv', hne⟩ := hchanged
  rw [Option.eq_none_iff_forall_ne_some]
  intro claims' h'
  obtain ⟨b', hb', rfl, -⟩ := verifyCookie_eq_some.mp h'
  simp only [String.toList_append, List.append_assoc] at hv hv'
  rcases Text.split_of_change hb (dot_notMem_signature a b) hb' (dot_notMem_signature a b') hv hv'
    hne with ⟨htext, hcode⟩ | ⟨hcode, htext⟩
  · rw [String.toList_inj.mp htext] at hcode
    exact hcode rfl
  · exact htext (congrArg _ (signature_inj ha (String.toList_inj.mp hcode)))

/-- Two accepted values with the same text or with the same code are the same. -/
theorem eq_of_verifyCookie (ha : a.CollisionFree) {b b' sig sig' : String}
    (h : a.verifyCookie v = some claims) (h' : a.verifyCookie v' = some claims')
    (hcut : Text.cut v "." = some (b, sig)) (hcut' : Text.cut v' "." = some (b', sig'))
    (hshared : b = b' ∨ sig = sig') : v = v' := by
  obtain ⟨text, htext, rfl, -⟩ := verifyCookie_eq_some.mp h
  obtain ⟨text', htext', rfl, -⟩ := verifyCookie_eq_some.mp h'
  rw [cut_dot.mpr ⟨rfl, htext⟩] at hcut
  rw [cut_dot.mpr ⟨rfl, htext'⟩] at hcut'
  obtain ⟨rfl, rfl⟩ := Prod.mk.inj (Option.some.inj hcut)
  obtain ⟨rfl, rfl⟩ := Prod.mk.inj (Option.some.inj hcut')
  rcases hshared with rfl | hcode
  · rfl
  · rw [signature_inj ha hcode]

/-- A cookie decodes to the claims it was signed for. What is accepted is a text with its own code,
so that of the values with the text, or with the code, of a signed cookie no other one is accepted,
and no value that differs from an accepted one in one character. -/
theorem session_cookie_exact (ha : a.StandardJson) :
    (∀ claims, a.verifyCookie (a.signCookie claims) = some claims) ∧
    (∀ v claims, a.verifyCookie v = some claims → ∃ b, Text.cut v "." =
      some (b, Base64.encodeToString (a.hmac a.hmacKey b)) ∧
        v = b ++ "." ++ Base64.encodeToString (a.hmac a.hmacKey b)) ∧
    (a.CollisionFree → ∀ v claims, a.verifyCookie v = some claims →
      (∀ signed b sig b' sig', Text.cut v "." = some (b, sig) →
        Text.cut (a.signCookie signed) "." = some (b', sig') → b = b' ∨ sig = sig' →
          v = a.signCookie signed ∧ claims = signed) ∧
      ∀ v', Changed v v' → a.verifyCookie v' = none) := by
  have hfaithful : a.Faithful fun _ => True := by
    intro claims _
    rw [ha.marshal, ha.unmarshal, unmarshalClaims_marshalClaims]
  have hsigned : ∀ claims, a.verifyCookie (a.signCookie claims) = some claims := fun claims =>
    a.verifyCookie_signCookie hfaithful trivial
  refine ⟨hsigned, fun v claims h => ?_, fun hfree v claims h => ⟨?_, ?_⟩⟩
  · obtain ⟨b, hb, hv, -⟩ := verifyCookie_eq_some.mp h
    exact ⟨b, cut_dot.mpr ⟨hv, hb⟩, hv⟩
  · intro signed b sig b' sig' hcut hcut' hshared
    have hv := eq_of_verifyCookie hfree h (hsigned signed) hcut hcut' hshared
    rw [hv, hsigned] at h
    exact ⟨hv, (Option.some.inj h).symm⟩
  · exact fun v' => verifyCookie_changed hfree h

/-- An authenticator whose code of a text is the text. -/
def plainAuthenticator : CookieAuthenticator where
  claim := "email"
  hmacKey := .raw "secret"
  ttl := 3600 * second
  secure := true
  marshal := marshalClaims
  unmarshal := unmarshalClaims
  hmac _ b := Utf8.encode b.toList
  authCodeURL state := "https://idp.test/auth?state=" ++ state

theorem plainAuthenticator_collisionFree : plainAuthenticator.CollisionFree := by
  intro b b' h
  have hdecoded := congrArg Utf8.decode h
  simp only [plainAuthenticator, Utf8.decode_encode] at hdecoded
  exact String.toList_inj.mp hdecoded

/-- A cookie for a principal with a quote in its name, and with groups. -/
theorem session_cookie_quoted :
    plainAuthenticator.verifyCookie
        (plainAuthenticator.signCookie ⟨"al\"ice", ["dev", "ops"], -1⟩) =
      some ⟨"al\"ice", ["dev", "ops"], -1⟩ ∧
    ∀ v', Changed (plainAuthenticator.signCookie ⟨"al\"ice", ["dev", "ops"], -1⟩) v' →
      plainAuthenticator.verifyCookie v' = none := by
  obtain ⟨hsigned, -, hexact⟩ := session_cookie_exact (a := plainAuthenticator) ⟨rfl, rfl⟩
  exact ⟨hsigned _, (hexact plainAuthenticator_collisionFree _ _ (hsigned _)).2⟩

end CookieAuthenticator

end Gateway

end Kubepark
