import Mathlib.Data.List.Basic

/-!
# Cookies, redirects and a browser

The parts of HTTP that a login flow rests on. A server writes a cookie's value and reads it back
(`sanitizeCookieValue`, `parseCookieValue`, as `net/http` does) : the bytes that are not allowed are
dropped, so what comes back is the allowed part of what was written (`parse_sanitize`). A browser
keeps cookies that name no domain for the host that set them, and sends them to no other
(`Jar`). A redirect to a path is cleaned (`redirectLocation`) and resolved by the browser against
the host that sent it (`resolve`).

`resolve_redirect_iff` puts the last two together : a redirect to what is left of a URL gets the
browser to that URL if and only if nothing was dropped, the path is clean, and the host is the
same.
-/

namespace Web

/-! ## The value of a cookie -/

/-- `validCookieValueByte`. A character that is not ASCII has no valid byte. -/
def validCookieChar (c : Char) : Bool :=
  0x20 ≤ c.toNat && c.toNat < 0x7f && c ≠ '"' && c ≠ ';' && c ≠ '\\'

/-- The part of a value that a cookie can carry. -/
def carried (value : String) : String :=
  String.ofList (value.toList.filter validCookieChar)

/-- `sanitizeCookieValue` : what is not allowed is dropped, and a value with a blank or a comma is
quoted. -/
def sanitizeCookieValue (value : String) : String :=
  if (carried value).toList.any fun c => c = ' ' || c = ',' then "\"" ++ carried value ++ "\""
  else carried value

/-- A value without the quotes around it. -/
def unquote : List Char → List Char
  | '"' :: l => if l.getLast? = some '"' then l.dropLast else '"' :: l
  | l => l

/-- `parseCookieValue`. -/
def parseCookieValue (raw : String) : Option String :=
  let value := unquote raw.toList
  if value.all validCookieChar then some (String.ofList value) else none

theorem quote_not_mem_carried (value : String) : '"' ∉ (carried value).toList := by
  simp [carried, validCookieChar]

theorem unquote_of_not_mem {l : List Char} (h : '"' ∉ l) : unquote l = l := by
  unfold unquote
  split
  · exact absurd (List.mem_cons_self) h
  · rfl

theorem unquote_quoted (l : List Char) : unquote ('"' :: (l ++ ['"'])) = l := by
  simp [unquote]

/-- What is read is the allowed part of what was written. -/
theorem parse_sanitize (value : String) :
    parseCookieValue (sanitizeCookieValue value) = some (carried value) := by
  have hunquote : unquote (sanitizeCookieValue value).toList = (carried value).toList := by
    unfold sanitizeCookieValue
    split_ifs
    · have hlist : ("\"" ++ carried value ++ "\"").toList =
          '"' :: ((carried value).toList ++ ['"']) := by simp
      rw [hlist, unquote_quoted]
    · exact unquote_of_not_mem (quote_not_mem_carried value)
  have hvalid : (carried value).toList.all validCookieChar = true := by simp [carried]
  simp only [parseCookieValue, hunquote, hvalid, ↓reduceIte, String.ofList_toList]

theorem carried_append (value value' : String) :
    carried (value ++ value') = carried value ++ carried value' := by
  simp [carried]

theorem carried_of_valid {value : String} (h : ∀ c ∈ value.toList, validCookieChar c = true) :
    carried value = value := by
  rw [carried, List.filter_eq_self.mpr h, String.ofList_toList]

/-! ## The cookies of a browser -/

structure StoredCookie where
  value : String
  /-- When it is dropped, in nanoseconds. -/
  expires : Option Int

/-- The cookies without a domain, by host and name. -/
def Jar : Type :=
  String → String → Option StoredCookie

namespace Jar

/-- A host sets a cookie at the time `t`. No maximal age keeps it, a negative one drops it. -/
def store (jar : Jar) (host : String) (t : Int) (name value : String) (maxAge : Int) : Jar :=
  fun host' name' =>
    if host' = host ∧ name' = name then
      if maxAge < 0 then none
      else some ⟨sanitizeCookieValue value,
        if maxAge = 0 then none else some (t + maxAge * 1000000000)⟩
    else jar host' name'

/-- The value of a cookie that is sent to `host` at the time `t`, as the server reads it. -/
def sent (jar : Jar) (host : String) (t : Int) (name : String) : Option String :=
  (jar host name).bind fun cookie =>
    if cookie.expires.all fun expires => t < expires then parseCookieValue cookie.value else none

variable {jar : Jar} {host host' name name' value : String} {t t' maxAge : Int}

theorem sent_store_self (hage : 0 ≤ maxAge) (ht' : maxAge ≠ 0 → t' < t + maxAge * 1000000000) :
    (jar.store host t name value maxAge).sent host t' name = some (carried value) := by
  have hneg : ¬maxAge < 0 := by omega
  unfold sent store
  simp only [and_self, ↓reduceIte, if_neg hneg, Option.bind_some]
  by_cases hzero : maxAge = 0
  · simp [hzero, parse_sanitize]
  · simp [hzero, ht' hzero, parse_sanitize]

/-- A cookie is sent to no host but the one that set it. -/
theorem sent_store_ne (h : host' ≠ host ∨ name' ≠ name) :
    (jar.store host t name value maxAge).sent host' t' name' = jar.sent host' t' name' := by
  have hne : ¬(host' = host ∧ name' = name) := by
    rintro ⟨rfl, rfl⟩
    simp at h
  unfold sent store
  rw [if_neg hne]

/-- The first cookie of a name, among those a browser sends of the names `names`. -/
theorem lookup_sent (jar : Jar) {names : List String} (hname : name ∈ names) :
    (names.filterMap fun n => (jar.sent host t n).map fun value => (n, value)).lookup name =
      jar.sent host t name := by
  suffices hlookup : ∀ names : List String,
      (names.filterMap fun n => (jar.sent host t n).map fun value => (n, value)).lookup name =
        if name ∈ names then jar.sent host t name else none by
    rw [hlookup names, if_pos hname]
  intro names
  induction names with
  | nil => rfl
  | cons n names ih =>
    rw [List.filterMap_cons]
    by_cases hn : name = n
    · subst hn
      cases hsent : jar.sent host t name with
      | none => simp [ih, hsent]
      | some value => simp
    · have hne : (name == n) = false := beq_eq_false_iff_ne.mpr hn
      cases jar.sent host t n with
      | none => simp [ih, hn]
      | some value => simp [List.lookup_cons, ih, hn, hne]

end Jar

/-! ## Redirects -/

/-- The parts of a path between slashes. -/
def segments : List Char → List (List Char)
  | [] => [[]]
  | c :: l =>
    if c = '/' then [] :: segments l
    else
      match segments l with
      | [] => [[c]]
      | s :: rest => (c :: s) :: rest

theorem mem_of_mem_segments : ∀ {l s : List Char}, s ∈ segments l → ∀ c ∈ s, c ∈ l ∧ c ≠ '/'
  | [], s, hs, c, hc => by
    simp only [segments, List.mem_singleton] at hs
    rw [hs] at hc
    cases hc
  | c₀ :: l, s, hs, c, hc => by
    have hrest : ∀ s ∈ segments l, c ∈ s → c ∈ c₀ :: l ∧ c ≠ '/' := fun s hs hc =>
      ⟨List.mem_cons_of_mem _ (mem_of_mem_segments hs c hc).1, (mem_of_mem_segments hs c hc).2⟩
    simp only [segments] at hs
    split_ifs at hs with hslash
    · rcases List.mem_cons.mp hs with rfl | hs
      · cases hc
      · exact hrest s hs hc
    · split at hs
      · rw [List.mem_singleton.mp hs, List.mem_singleton] at hc
        subst hc
        exact ⟨List.mem_cons_self, hslash⟩
      · rename_i s₁ rest hsegments
        rcases List.mem_cons.mp hs with rfl | hs
        · rcases List.mem_cons.mp hc with rfl | hc
          · exact ⟨List.mem_cons_self, hslash⟩
          · exact hrest s₁ (by simp [hsegments]) hc
        · exact hrest s (by simp [hsegments, hs]) hc

/-- One part more, onto the parts so far. -/
def cleanStep (stack : List (List Char)) (s : List Char) : List (List Char) :=
  if s = [] ∨ s = ['.'] then stack else if s = ['.', '.'] then stack.tail else s :: stack

/-- The parts of the cleaned path. -/
def cleanSegments (path : List Char) : List (List Char) :=
  ((segments path).foldl cleanStep []).reverse

theorem mem_cleanSegments {path s : List Char} (h : s ∈ cleanSegments path) :
    s ≠ [] ∧ s ∈ segments path := by
  suffices hfold : ∀ segs stack : List (List Char), s ∈ segs.foldl cleanStep stack →
      s ∈ stack ∨ s ≠ [] ∧ s ∈ segs by
    rcases hfold (segments path) [] (List.mem_reverse.mp h) with h | h
    · cases h
    · exact h
  intro segs
  induction segs with
  | nil => exact fun stack h => Or.inl h
  | cons s₀ segs ih =>
    intro stack h
    rcases ih _ h with h | ⟨hne, h⟩
    · unfold cleanStep at h
      split_ifs at h with hskip hup
      · exact Or.inl h
      · exact Or.inl (List.mem_of_mem_tail h)
      · rcases List.mem_cons.mp h with rfl | h
        · exact Or.inr ⟨fun he => hskip (Or.inl he), by simp⟩
        · exact Or.inl h
    · exact Or.inr ⟨hne, List.mem_cons_of_mem _ h⟩

/-- `path.Clean`, of a path from the root. -/
def cleanPath (path : List Char) : List Char :=
  if cleanSegments path = [] then ['/'] else (cleanSegments path).flatMap ('/' :: ·)

/-- The path of a URL, and the query with its question mark. -/
def splitQuery (url : List Char) : List Char × List Char :=
  (url.takeWhile (· ≠ '?'), url.dropWhile (· ≠ '?'))

/-- The cleaned URL. A slash at the end of the path stays. -/
def cleanURL (url : List Char) : List Char :=
  let (path, query) := splitQuery url
  let clean := cleanPath path
  (if path.getLast? = some '/' ∧ clean.getLast? ≠ some '/' then clean ++ ['/'] else clean) ++ query

/-- Whether the character goes on with the host of a URL. -/
def inAuthority (c : Char) : Bool :=
  c ≠ '/' && c ≠ '?'

/-- The host that a URL from the root names, as in `//host/path`. -/
def authority : List Char → List Char
  | '/' :: '/' :: l => ((l.takeWhile inAuthority).reverse.takeWhile (· ≠ '@')).reverse
  | _ => []

/-- The location header of `http.Redirect`, for a URL from the root. -/
def redirectLocation (url : List Char) : List Char :=
  if authority url = [] then cleanURL url else url

/-- Where a browser goes that gets the location from `host` : the host, and the URL on it. -/
def resolve (host : String) : List Char → String × List Char
  | '/' :: '/' :: l => (String.ofList (authority ('/' :: '/' :: l)), l.dropWhile inAuthority)
  | url => (host, url)

/-- A URL that names a path, and no host. -/
def IsPath (url : List Char) : Prop :=
  ∃ l, url = '/' :: l ∧ l.head? ≠ some '/'

theorem resolve_of_isPath {host : String} {url : List Char} (h : IsPath url) :
    resolve host url = (host, url) := by
  obtain ⟨l, rfl, hl⟩ := h
  unfold resolve
  split
  · rename_i heq
    cases heq
    exact absurd rfl hl
  · rfl

theorem authority_of_isPath {url : List Char} (h : IsPath url) : authority url = [] := by
  obtain ⟨l, rfl, hl⟩ := h
  unfold authority
  split
  · rename_i heq
    cases heq
    exact absurd rfl hl
  · rfl

theorem isPath_cleanPath (path : List Char) : IsPath (cleanPath path) := by
  unfold cleanPath
  split_ifs with hempty
  · exact ⟨[], rfl, nofun⟩
  · obtain ⟨s, rest, hs⟩ := List.exists_cons_of_ne_nil hempty
    have hclean : s ∈ cleanSegments path := by simp [hs]
    obtain ⟨hne, hmem⟩ := mem_cleanSegments hclean
    obtain ⟨c, s', rfl⟩ := List.exists_cons_of_ne_nil hne
    refine ⟨c :: s' ++ rest.flatMap ('/' :: ·), by simp [hs], ?_⟩
    simpa using (mem_of_mem_segments hmem c List.mem_cons_self).2

theorem IsPath.append {url rest : List Char} (h : IsPath url)
    (hrest : url = ['/'] → rest.head? ≠ some '/') : IsPath (url ++ rest) := by
  obtain ⟨l, rfl, hl⟩ := h
  refine ⟨l ++ rest, rfl, ?_⟩
  cases l with
  | nil => exact hrest rfl
  | cons c l => exact hl

theorem isPath_cleanURL (url : List Char) : IsPath (cleanURL url) := by
  have hquery : (splitQuery url).2.head? ≠ some '/' := by
    intro hhead
    have hnot := List.head?_dropWhile_not (p := fun c => decide (c ≠ '?')) (l := url)
    rw [show (url.dropWhile fun c => decide (c ≠ '?')).head? = some '/' from hhead] at hnot
    simp at hnot
  unfold cleanURL
  dsimp only
  split_ifs with htrailing
  · refine ((isPath_cleanPath _).append fun hroot => ?_).append fun _ => hquery
    rw [hroot] at htrailing
    exact absurd rfl htrailing.2
  · exact (isPath_cleanPath _).append fun _ => hquery

theorem mem_of_mem_cleanPath {path : List Char} {c : Char} (h : c ∈ cleanPath path) :
    c = '/' ∨ c ∈ path := by
  unfold cleanPath at h
  split_ifs at h
  · exact Or.inl (List.mem_singleton.mp h)
  · obtain ⟨s, hs, hc⟩ := List.mem_flatMap.mp h
    rcases List.mem_cons.mp hc with rfl | hc
    · exact Or.inl rfl
    · exact Or.inr (mem_of_mem_segments (mem_cleanSegments hs).2 c hc).1

theorem mem_of_mem_cleanURL {url : List Char} {c : Char} (h : c ∈ cleanURL url) :
    c = '/' ∨ c ∈ url := by
  have hpath : c ∈ cleanPath (splitQuery url).1 → c = '/' ∨ c ∈ url := fun h =>
    (mem_of_mem_cleanPath h).imp_right fun h => (List.takeWhile_sublist _).subset h
  unfold cleanURL at h
  dsimp only at h
  rcases List.mem_append.mp h with h | h
  · split_ifs at h
    · rcases List.mem_append.mp h with h | h
      · exact hpath h
      · exact Or.inl (List.mem_singleton.mp h)
    · exact hpath h
  · exact Or.inr ((List.dropWhile_sublist _).subset h)

/-- A URL that names a host leads to a shorter one. -/
theorem length_resolve_lt (host : String) {url : List Char} (h : authority url ≠ []) :
    (resolve host url).2.length < url.length := by
  unfold authority at h
  split at h
  · rename_i l
    have hle := (List.dropWhile_sublist inAuthority (l := l)).length_le
    simp only [resolve, List.length_cons]
    omega
  · exact absurd rfl h

/-- A redirect to what a cookie has carried of a URL from the root gets the browser to that URL if
and only if the cookie has carried all of it, its path is clean, and the host is the same. -/
theorem resolve_redirect_iff {host host' : String} {url : List Char} :
    resolve host (redirectLocation (url.filter validCookieChar)) = (host', url) ↔
      host = host' ∧ (∀ c ∈ url, validCookieChar c = true) ∧ cleanURL url = url := by
  constructor
  · intro h
    unfold redirectLocation at h
    split_ifs at h with hauthority
    · rw [resolve_of_isPath (isPath_cleanURL _), Prod.mk.injEq] at h
      obtain ⟨hhost, hclean⟩ := h
      have hvalid : ∀ c ∈ url, validCookieChar c = true := by
        intro c hc
        rw [← hclean] at hc
        rcases mem_of_mem_cleanURL hc with rfl | hc
        · decide
        · exact (List.mem_filter.mp hc).2
      rw [List.filter_eq_self.mpr hvalid] at hclean
      exact ⟨hhost, hvalid, hclean⟩
    · have hlt := length_resolve_lt host hauthority
      rw [h] at hlt
      exact absurd hlt (Nat.not_lt.mpr (List.length_filter_le _ url))
  · rintro ⟨rfl, hvalid, hclean⟩
    rw [List.filter_eq_self.mpr hvalid]
    have hpath : IsPath url := hclean ▸ isPath_cleanURL url
    rw [redirectLocation, if_pos (authority_of_isPath hpath), hclean, resolve_of_isPath hpath]

end Web
