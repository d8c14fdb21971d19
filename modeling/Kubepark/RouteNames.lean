import Kubepark.HttpProxy
import Mathlib.Data.List.Infix

/-!
# The names in a route

A sandbox is reached by name : over HTTP by the host `<port>--<sandbox>--<ns>.<baseDomain>`, over
SSH by the target `<sandbox>.<ns>`. `HTTPTarget.Labels` is the grammar of a routing label, and the
parser accepts exactly what it describes (`parseHTTPHost_iff`).

The other side are the rules under which names are admitted : those of Kubernetes, and the
patterns and CEL rules of the CRDs. They leave no ambiguity in a routing label, but they do not
keep it within one DNS label (`exposed_port_routed_iff`), and they allow a dot in the name of a
sandbox, which is where an SSH target is cut (`ssh_target_routed_iff`).
-/

namespace Kubepark

namespace Gateway

open ApiServer

/-! ## The grammar of a routing label -/

/-- What can stand before a separator : there is no separator in it, and no hyphen at its end. -/
def Undashed (s : String) : Prop :=
  ¬['-', '-'] <:+: s.toList ∧ ¬['-'] <:+ s.toList

/-- `label` is the routing label of `t`. -/
structure HTTPTarget.Labels (t : HTTPTarget) (label : String) : Prop where
  parts : label = t.port ++ "--" ++ t.sandbox ++ "--" ++ t.namespaceName
  port_ne : t.port ≠ ""
  sandbox_ne : t.sandbox ≠ ""
  namespace_ne : t.namespaceName ≠ ""
  port_undashed : Undashed t.port
  sandbox_undashed : Undashed t.sandbox

theorem dashes_infix_concat {l : List Char} :
    ['-', '-'] <:+: l ++ ['-'] ↔ ['-', '-'] <:+: l ∨ ['-'] <:+ l := by
  rw [List.infix_concat_iff, or_comm]
  have hsuffix : ['-'] ++ ['-'] <:+ l ++ ['-'] ↔ ['-'] <:+ l ∧ ['-'] = ['-'] :=
    List.suffix_append_inj_of_length_eq rfl
  exact or_congr_right (hsuffix.trans (and_iff_left rfl))

/-- The first separator is the one after a part without dashes. -/
theorem cut_dashes {s before after : String} :
    Text.cut s "--" = some (before, after) ↔ s = before ++ "--" ++ after ∧ Undashed before := by
  have hsep : "--".toList = ['-', '-'] := by decide
  rw [Text.cut_eq_some (by rw [hsep]; simp), hsep, Undashed, ← not_or, ← dashes_infix_concat]
  rfl

/-- The parts that are cut off make up the label again. -/
theorem label_of_cuts {label port rest sandbox namespaceName : String}
    (hport : Text.cut label "--" = some (port, rest))
    (hsandbox : Text.cut rest "--" = some (sandbox, namespaceName)) :
    port ++ "--" ++ sandbox ++ "--" ++ namespaceName = label := by
  rw [Text.eq_of_cut hport, Text.eq_of_cut hsandbox]
  simp only [String.append_assoc]

/-- The grammar, read off the two cuts. -/
theorem HTTPTarget.labels_iff {t : HTTPTarget} {label : String} : t.Labels label ↔
    ∃ rest, Text.cut label "--" = some (t.port, rest) ∧
      Text.cut rest "--" = some (t.sandbox, t.namespaceName) ∧
        ¬(t.port = "" ∨ t.sandbox = "" ∨ t.namespaceName = "") := by
  simp only [cut_dashes, not_or]
  constructor
  · intro h
    refine ⟨_, ⟨?_, h.port_undashed⟩, ⟨rfl, h.sandbox_undashed⟩, h.port_ne, h.sandbox_ne,
      h.namespace_ne⟩
    rw [h.parts]
    simp only [String.append_assoc]
  · rintro ⟨rest, ⟨rfl, hport⟩, ⟨rfl, hsandbox⟩, hp, hs, hn⟩
    refine ⟨?_, hp, hs, hn, hport, hsandbox⟩
    simp only [String.append_assoc]

/-- A label has one target at most. -/
theorem HTTPTarget.Labels.eq {t₁ t₂ : HTTPTarget} {label : String} (h₁ : t₁.Labels label)
    (h₂ : t₂.Labels label) : t₁ = t₂ := by
  obtain ⟨rest₁, hport₁, hsandbox₁, -⟩ := labels_iff.mp h₁
  obtain ⟨rest₂, hport₂, hsandbox₂, -⟩ := labels_iff.mp h₂
  obtain ⟨hport, rfl⟩ := Prod.mk.inj (Option.some.inj (hport₁.symm.trans hport₂))
  obtain ⟨hsandbox, hns⟩ := Prod.mk.inj (Option.some.inj (hsandbox₁.symm.trans hsandbox₂))
  obtain ⟨port₁, sandbox₁, ns₁⟩ := t₁
  obtain ⟨port₂, sandbox₂, ns₂⟩ := t₂
  exact HTTPTarget.mk.injEq .. |>.mpr ⟨hport, hsandbox, hns⟩

/-- A label that fits is parsed exactly by the grammar. -/
theorem parseLabel_iff {label : String} {t : HTTPTarget} :
    parseLabel label = .ok t ↔ label.utf8ByteSize ≤ maxLabelLen ∧ t.Labels label := by
  rw [HTTPTarget.labels_iff, parseLabel, ← Nat.not_lt]
  by_cases hlen : maxLabelLen < label.utf8ByteSize
  · simp [hlen]
  rw [if_neg hlen, and_iff_right hlen]
  cases hport : Text.cut label "--" with
  | none => simp
  | some p =>
    obtain ⟨port, rest⟩ := p
    dsimp only
    cases hsandbox : Text.cut rest "--" with
    | none => simp [hsandbox]
    | some q =>
      obtain ⟨sandbox, namespaceName⟩ := q
      dsimp only
      rw [if_neg (not_not.mpr (label_of_cuts hport hsandbox))]
      obtain ⟨port', sandbox', namespaceName'⟩ := t
      by_cases hempty : port = "" ∨ sandbox = "" ∨ namespaceName = ""
      · rw [if_pos hempty]
        refine ⟨fun h => ?_, ?_⟩
        · cases h
        · rintro ⟨rest', hp, hs, hne⟩
          cases hp
          cases hsandbox.symm.trans hs
          exact absurd hempty hne
      · rw [if_neg hempty]
        constructor
        · intro h
          cases h
          exact ⟨rest, rfl, hsandbox, hempty⟩
        · rintro ⟨rest', hp, hs, -⟩
          cases hp
          cases hsandbox.symm.trans hs
          rfl

/-- The routing label is the host without the base domain. -/
theorem routingLabel_iff {host baseDomain label : String} (hbase : baseDomain ≠ "") :
    routingLabel host baseDomain = .ok label ↔
      host = label ++ ("." ++ Text.trimPrefix baseDomain ".") := by
  rw [← Text.trimSuffix_eq_some, routingLabel, if_pos hbase]
  cases Text.trimSuffix? host ("." ++ Text.trimPrefix baseDomain ".") with
  | none => simp
  | some label' => simp

/-- A host as it is looked at : trimmed, in lower case and without a port. -/
def normalHost (lower : Char → Char) (host : String) : String :=
  let host := toLower lower (trimSpace host)
  ((Text.cut host ":").map (·.1)).getD host

theorem parseHTTPHost_eq_ok {lower : Char → Char} {host baseDomain : String} {t : HTTPTarget}
    (hbase : baseDomain ≠ "") : parseHTTPHost lower host baseDomain = .ok t ↔
      ∃ label, normalHost lower host = label ++ ("." ++ Text.trimPrefix baseDomain ".") ∧
        label.utf8ByteSize ≤ maxLabelLen ∧ t.Labels label := by
  have hparse : parseHTTPHost lower host baseDomain =
      routingLabel (normalHost lower host) baseDomain >>= parseLabel := rfl
  simp only [← routingLabel_iff hbase, ← parseLabel_iff, hparse]
  cases routingLabel (normalHost lower host) baseDomain with
  | error e => simp [bind, Except.bind]
  | ok label => simp [bind, Except.bind]

/-- The parser accepts its grammar and nothing else. The grammar has one target for a label at
most, and the check that the parts make up the label again rejects nothing. -/
theorem parseHTTPHost_iff (lower : Char → Char) (host baseDomain : String)
    (hbase : baseDomain ≠ "") :
    (∀ t, parseHTTPHost lower host baseDomain = .ok t ↔
      ∃ label, normalHost lower host = label ++ ("." ++ Text.trimPrefix baseDomain ".") ∧
        label.utf8ByteSize ≤ maxLabelLen ∧ t.Labels label) ∧
    (∀ (label : String) (t₁ t₂ : HTTPTarget), t₁.Labels label → t₂.Labels label → t₁ = t₂) ∧
    ∀ label port rest sandbox namespaceName, Text.cut label "--" = some (port, rest) →
      Text.cut rest "--" = some (sandbox, namespaceName) →
        port ++ "--" ++ sandbox ++ "--" ++ namespaceName = label :=
  ⟨fun _ => parseHTTPHost_eq_ok hbase, fun _ _ _ => HTTPTarget.Labels.eq,
    fun _ _ _ _ _ => label_of_cuts⟩

/-- The parser reads a host in capitals and with a port. -/
theorem parseHTTPHost_capitals :
    parseHTTPHost Char.toLower "Web--dev--team--a.Box.test:8443" ".box.test" =
        .ok ⟨"web", "dev", "team--a"⟩ ∧
      HTTPTarget.Labels ⟨"web", "dev", "team--a"⟩ "web--dev--team--a" := by
  have hparse : parseHTTPHost Char.toLower "Web--dev--team--a.Box.test:8443" ".box.test" =
      .ok ⟨"web", "dev", "team--a"⟩ := by
    decide +kernel
  obtain ⟨hiff, -⟩ := parseHTTPHost_iff Char.toLower "Web--dev--team--a.Box.test:8443" ".box.test"
    (by decide)
  obtain ⟨label, hlabel, -, hlabels⟩ := (hiff _).mp hparse
  refine ⟨hparse, ?_⟩
  have hparts := hlabels.parts
  rwa [show label = "web--dev--team--a" from hparts] at hlabels

/-! ## The names that are admitted -/

/-- `[a-z0-9]`. -/
def isAlnum (c : Char) : Bool :=
  c.isLower || c.isDigit

/-- `[-a-z0-9]`. -/
def isNameChar (c : Char) : Bool :=
  isAlnum c || c == '-'

/-- `[a-z0-9]([-a-z0-9]*[a-z0-9])?`. -/
def isLabel (l : List Char) : Bool :=
  l.all isNameChar && l.head?.any isAlnum && l.getLast?.any isAlnum

/-- What Kubernetes takes as the name of a namespace. -/
def isDNS1123Label (s : String) : Bool :=
  isLabel s.toList && s.length ≤ 63

/-- What Kubernetes takes as the name of an object. -/
def isDNS1123Subdomain (s : String) : Bool :=
  (s.toList.splitOn '.').all isLabel && s.length ≤ 253

/-- The rules for the name of an exposed port : `^[a-z]([-a-z0-9]*[a-z0-9])?$`, at most 15
characters and no `--`. -/
def admitsPortName (s : String) : Bool :=
  isLabel s.toList && s.toList.head?.any (·.isLower) && s.length ≤ 15 &&
    !(['-', '-'] <:+: s.toList)

/-- The rules for the name of a sandbox : at most 30 characters and no `--`. -/
def admitsSandboxName (s : String) : Bool :=
  isDNS1123Subdomain s && s.length ≤ 30 && !(['-', '-'] <:+: s.toList)

theorem isLabel_iff {l : List Char} : isLabel l = true ↔
    (∀ c ∈ l, isNameChar c = true) ∧ (∃ c, l.head? = some c ∧ isAlnum c = true) ∧
      ∃ c, l.getLast? = some c ∧ isAlnum c = true := by
  simp only [isLabel, Bool.and_eq_true, List.all_eq_true, Option.any_eq_true, and_assoc]

theorem getLast_intercalate : ∀ {parts : List (List Char)}, parts ≠ [] →
    (∀ l ∈ parts, isLabel l = true) →
      ∃ c, (['.'].intercalate parts).getLast? = some c ∧ isAlnum c = true
  | [l], _, h => by
    simpa using (isLabel_iff.mp (h l (by simp))).2.2
  | l :: l' :: parts, _, h => by
    have htail : ∀ m ∈ l' :: parts, isLabel m = true := fun m hm => h m (List.mem_cons_of_mem _ hm)
    obtain ⟨c, hc, halnum⟩ := getLast_intercalate (List.cons_ne_nil _ _) htail
    refine ⟨c, ?_, halnum⟩
    rw [List.intercalate_cons_cons, List.getLast?_append, hc, Option.some_or]

theorem mem_intercalate {c : Char} : ∀ {parts : List (List Char)},
    c ∈ ['.'].intercalate parts → c = '.' ∨ ∃ l ∈ parts, c ∈ l
  | [], h => by simp at h
  | [l], h => Or.inr ⟨l, by simp, by simpa using h⟩
  | l :: l' :: parts, h => by
    rw [List.intercalate_cons_cons, List.mem_append, List.mem_append, List.mem_singleton] at h
    rcases h with (h | h) | h
    · exact Or.inr ⟨l, List.mem_cons_self, h⟩
    · exact Or.inl h
    · rcases mem_intercalate h with h | ⟨m, hm, h⟩
      · exact Or.inl h
      · exact Or.inr ⟨m, List.mem_cons_of_mem _ hm, h⟩

/-- What routing needs of a name : letters, digits, hyphens and dots, and not a hyphen at the
end. -/
structure RouteName (s : String) : Prop where
  chars : ∀ c ∈ s.toList, isNameChar c = true ∨ c = '.'
  last : ∃ c, s.toList.getLast? = some c ∧ isAlnum c = true

theorem RouteName.of_label {s : String} (h : isLabel s.toList = true) : RouteName s :=
  ⟨fun c hc => Or.inl ((isLabel_iff.mp h).1 c hc), (isLabel_iff.mp h).2.2⟩

theorem RouteName.of_subdomain {s : String} (h : isDNS1123Subdomain s = true) : RouteName s := by
  obtain ⟨hlabels, -⟩ := Bool.and_eq_true_iff.mp h
  rw [List.all_eq_true] at hlabels
  have hs : ['.'].intercalate (s.toList.splitOn '.') = s.toList := List.intercalate_splitOn '.'
  constructor
  · intro c hc
    rw [← hs] at hc
    rcases mem_intercalate hc with h | ⟨l, hl, hc⟩
    · exact Or.inr h
    · exact Or.inl ((isLabel_iff.mp (hlabels l hl)).1 c hc)
  · rw [← hs]
    exact getLast_intercalate (List.splitOn_ne_nil _ _) hlabels

theorem RouteName.ne_empty {s : String} (h : RouteName s) : s ≠ "" := by
  rintro rfl
  obtain ⟨c, hc, -⟩ := h.last
  cases hc

theorem RouteName.undashed {s : String} (h : RouteName s) (hdashes : ¬['-', '-'] <:+: s.toList) :
    Undashed s := by
  refine ⟨hdashes, ?_⟩
  rintro ⟨before, hbefore⟩
  obtain ⟨c, hc, halnum⟩ := h.last
  rw [← hbefore, List.getLast?_concat] at hc
  cases hc
  revert halnum
  decide

theorem trimSpace_of_forall {s : String} (h : ∀ c ∈ s.toList, isSpace c = false) :
    trimSpace s = s := by
  have hdrop : ∀ l : List Char, (∀ c ∈ l, isSpace c = false) → l.dropWhile isSpace = l := by
    intro l hl
    cases l with
    | nil => rfl
    | cons c l => rw [List.dropWhile_cons, hl c List.mem_cons_self, if_neg Bool.false_ne_true]
  rw [trimSpace, hdrop _ h, hdrop _ fun c hc => h c (List.mem_reverse.mp hc),
    List.reverse_reverse, String.ofList_toList]

/-- A host in lower case, without space and without a port, is taken as it is. -/
theorem normalHost_of_forall {lower : Char → Char} {host : String}
    (h : ∀ c ∈ host.toList, lower c = c ∧ isSpace c = false ∧ c ≠ ':') :
    normalHost lower host = host := by
  have hlower : toLower lower host = host := by
    rw [toLower, List.map_congr_left fun c hc => (h c hc).1, List.map_id', String.ofList_toList]
  have hcut : Text.cut host ":" = none := by
    rw [Option.eq_none_iff_forall_ne_some]
    rintro ⟨before, after⟩ hcut
    refine (h ':' ?_).2.2 rfl
    rw [Text.eq_of_cut hcut]
    simp
  rw [normalHost, trimSpace_of_forall fun c hc => (h c hc).2.1, hlower, hcut, Option.map_none,
    Option.getD_none]

/-! ## The host of an exposed port -/

/-- The case table leaves a name as it is. -/
def KeepsNames (lower : Char → Char) : Prop :=
  ∀ c, isNameChar c = true ∨ c = '.' → lower c = c

/-- A base domain in lower case. -/
structure LowerDomain (lower : Char → Char) (baseDomain : String) : Prop where
  ne_empty : baseDomain ≠ ""
  chars : ∀ c ∈ baseDomain.toList, lower c = c ∧ isSpace c = false ∧ c ≠ ':'
  head : ¬['.'] <+: baseDomain.toList

/-- The host of an exposed port. -/
def portHost (t : HTTPTarget) (baseDomain : String) : String :=
  t.port ++ "--" ++ t.sandbox ++ "--" ++ t.namespaceName ++ "." ++ baseDomain

/-- The names of an exposed port are admitted by the API server. -/
structure HTTPTarget.Admitted (t : HTTPTarget) : Prop where
  port : admitsPortName t.port = true
  sandbox : admitsSandboxName t.sandbox = true
  namespaceName : isDNS1123Label t.namespaceName = true

theorem HTTPTarget.Admitted.labels {t : HTTPTarget} (h : t.Admitted) :
    t.Labels (t.port ++ "--" ++ t.sandbox ++ "--" ++ t.namespaceName) := by
  obtain ⟨port, sandbox, ns⟩ := h
  simp only [admitsPortName, admitsSandboxName, isDNS1123Label, Bool.and_eq_true, Bool.not_eq_true',
    decide_eq_true_eq, decide_eq_false_iff_not] at port sandbox ns
  obtain ⟨⟨⟨hport, -⟩, -⟩, hportDashes⟩ := port
  obtain ⟨⟨hsandbox, -⟩, hsandboxDashes⟩ := sandbox
  exact ⟨rfl, (RouteName.of_label hport).ne_empty, (RouteName.of_subdomain hsandbox).ne_empty,
    (RouteName.of_label ns.1).ne_empty, (RouteName.of_label hport).undashed hportDashes,
    (RouteName.of_subdomain hsandbox).undashed hsandboxDashes⟩

theorem HTTPTarget.Admitted.chars {t : HTTPTarget} (h : t.Admitted) :
    ∀ c ∈ (t.port ++ "--" ++ t.sandbox ++ "--" ++ t.namespaceName).toList,
      isNameChar c = true ∨ c = '.' := by
  obtain ⟨port, sandbox, ns⟩ := h
  simp only [admitsPortName, admitsSandboxName, isDNS1123Label, Bool.and_eq_true] at port sandbox ns
  have hdashes : ∀ c ∈ "--".toList, isNameChar c = true ∨ c = '.' := by
    have hall : "--".toList.all isNameChar = true := by decide +kernel
    exact fun c hc => Or.inl (List.all_eq_true.mp hall c hc)
  simp only [String.toList_append, List.mem_append]
  rintro c ((((hc | hc) | hc) | hc) | hc)
  · exact (RouteName.of_label port.1.1.1).chars c hc
  · exact hdashes c hc
  · exact (RouteName.of_subdomain sandbox.1.1).chars c hc
  · exact hdashes c hc
  · exact (RouteName.of_label ns.1).chars c hc

theorem nameChar_range {c : Char} (h : isNameChar c = true ∨ c = '.') :
    45 ≤ c.toNat ∧ c.toNat ≤ 57 ∨ 97 ≤ c.toNat ∧ c.toNat ≤ 122 := by
  have hlower : c.isLower = (decide (97 ≤ c.val) && decide (c.val ≤ 122)) := rfl
  simp only [isNameChar, isAlnum, hlower, Char.isDigit, Bool.or_eq_true, Bool.and_eq_true,
    decide_eq_true_eq, beq_iff_eq, ge_iff_le, UInt32.le_iff_toNat_le] at h
  rcases h with ((⟨hlow, hhigh⟩ | ⟨hlow, hhigh⟩) | rfl) | rfl
  · exact Or.inr ⟨hlow, hhigh⟩
  · exact Or.inl ⟨Nat.le_trans (by decide) hlow, hhigh⟩
  · decide
  · decide

theorem plain_of_nameChar {c : Char} (h : isNameChar c = true ∨ c = '.') :
    isSpace c = false ∧ c ≠ ':' := by
  have hrange := nameChar_range h
  constructor
  · simp only [isSpace, List.mem_cons, List.not_mem_nil, or_false, Bool.or_eq_false_iff,
      decide_eq_false_iff_not, Bool.and_eq_false_iff]
    omega
  · rintro rfl
    revert hrange
    decide

/-- An exposed port is routed exactly when its names fit in one DNS label. No two of them have
the same host. -/
theorem exposed_port_routed_iff {lower : Char → Char} (hlower : KeepsNames lower)
    {baseDomain : String} (hbase : LowerDomain lower baseDomain) {t : HTTPTarget}
    (ht : t.Admitted) :
    (parseHTTPHost lower (portHost t baseDomain) baseDomain = .ok t ↔
      t.port.utf8ByteSize + t.sandbox.utf8ByteSize + t.namespaceName.utf8ByteSize + 4 ≤
        maxLabelLen) ∧
    ∀ t' : HTTPTarget, t'.Admitted → portHost t' baseDomain = portHost t baseDomain → t' = t := by
  have hsuffix : Text.trimPrefix baseDomain "." = baseDomain := by
    have hdot : ¬".".toList.isPrefixOf baseDomain.toList = true := fun h =>
      hbase.head (List.isPrefixOf_iff_prefix.mp h)
    rw [Text.trimPrefix, if_neg hdot]
  have hhost : normalHost lower (portHost t baseDomain) = portHost t baseDomain := by
    refine normalHost_of_forall fun c hc => ?_
    rw [portHost, String.toList_append, List.mem_append] at hc
    rcases hc with hc | hc
    · rw [String.toList_append, List.mem_append] at hc
      have hname : isNameChar c = true ∨ c = '.' := by
        rcases hc with hc | hc
        · exact ht.chars c hc
        · exact Or.inr (by simpa using hc)
      exact ⟨hlower c hname, plain_of_nameChar hname⟩
    · exact hbase.chars c hc
  constructor
  · have hlabel : ∀ label, portHost t baseDomain = label ++ ("." ++ baseDomain) ↔
        t.port ++ "--" ++ t.sandbox ++ "--" ++ t.namespaceName = label := by
      intro label
      have hassoc : portHost t baseDomain = t.port ++ "--" ++ t.sandbox ++ "--" ++
        t.namespaceName ++ ("." ++ baseDomain) := String.append_assoc
      rw [hassoc]
      exact String.append_left_inj _
    have hsize : (t.port ++ "--" ++ t.sandbox ++ "--" ++ t.namespaceName).utf8ByteSize =
        t.port.utf8ByteSize + t.sandbox.utf8ByteSize + t.namespaceName.utf8ByteSize + 4 := by
      have hdashes : "--".utf8ByteSize = 2 := by decide
      simp only [String.utf8ByteSize_append, hdashes]
      omega
    rw [parseHTTPHost_eq_ok hbase.ne_empty, hhost, hsuffix]
    simp only [hlabel, exists_eq_left', hsize, ht.labels, and_true]
  · intro t' ht' heq
    rw [portHost, portHost] at heq
    have hlabel := (String.append_left_inj _).mp ((String.append_left_inj _).mp heq)
    exact ht'.labels.eq (hlabel ▸ ht.labels)

theorem keepsNames_toLower : KeepsNames Char.toLower := by
  intro c hc
  have hrange := nameChar_range hc
  refine dif_neg ?_
  rintro ⟨hlow, hhigh⟩
  have hlow' : 65 ≤ c.toNat := UInt32.le_iff_toNat_le.mp hlow
  have hhigh' : c.toNat ≤ 90 := UInt32.le_iff_toNat_le.mp hhigh
  omega

theorem lowerDomain_test : LowerDomain Char.toLower "box.test" := by
  have hall : "box.test".toList.all (fun c => c.toLower = c ∧ isSpace c = false ∧ c ≠ ':') =
      true := by
    decide +kernel
  exact ⟨by decide, fun c hc => of_decide_eq_true (List.all_eq_true.mp hall c hc), by decide⟩

/-- The names of the team's port fit. -/
theorem exposed_port_fits :
    parseHTTPHost Char.toLower (portHost ⟨"web", "dev", "team"⟩ "box.test") "box.test" =
      .ok ⟨"web", "dev", "team"⟩ := by
  refine (exposed_port_routed_iff keepsNames_toLower lowerDomain_test ⟨?_, ?_, ?_⟩).1.mpr ?_
  all_goals decide +kernel

/-- With the longest name of a namespace they do not. -/
theorem exposed_port_too_long :
    HTTPTarget.Admitted ⟨"web", "dev", String.ofList (List.replicate 63 'a')⟩ ∧
      (parseHTTPHost Char.toLower
        (portHost ⟨"web", "dev", String.ofList (List.replicate 63 'a')⟩ "box.test")
          "box.test").toOption = none := by
  refine ⟨⟨?_, ?_, ?_⟩, ?_⟩
  all_goals decide +kernel

/-! ## The SSH target of a sandbox -/

/-- The target that `kubepark ssh` asks the gateway for. -/
def sshCommandTarget (sandbox namespaceName : String) : String :=
  if namespaceName ≠ "" then sandbox ++ "." ++ namespaceName else sandbox

/-- A target is cut at its first dot. -/
theorem cutDot_append {before after : String} (h : '.' ∉ before.toList) :
    cutDot (before ++ "." ++ after) = (before, after, true) := by
  have hlist : (before ++ "." ++ after).toList = before.toList ++ '.' :: after.toList := by simp
  have htake : (before.toList ++ '.' :: after.toList).takeWhile (· ≠ '.') = before.toList := by
    have hbefore : ∀ c ∈ before.toList, decide (c ≠ '.') = true := fun c hc =>
      decide_eq_true fun (he : c = '.') => h (he ▸ hc)
    rw [List.takeWhile_append_of_pos hbefore]
    simp
  have hdrop : (before.toList ++ '.' :: after.toList).drop (before.toList.length + 1) =
      after.toList := by
    simp
  rw [cutDot, hlist, htake, hdrop, String.ofList_toList, String.ofList_toList]
  simp

/-- What is before the first dot has none in it. -/
theorem dot_notMem_cutDot (s : String) : '.' ∉ (cutDot s).1.toList := by
  rw [cutDot, String.toList_ofList]
  intro h
  have hdot := List.all_eq_true.mp List.all_takeWhile '.' h
  simp at hdot

theorem dot_notMem_of_parseSSHTarget {host defaultNamespace : String} {t : SSHTarget}
    (h : parseSSHTarget host defaultNamespace = .ok t) : '.' ∉ t.sandbox.toList := by
  have hdot := dot_notMem_cutDot (trimSpace host)
  rw [parseSSHTarget] at h
  generalize cutDot (trimSpace host) = parts at h hdot
  obtain ⟨sandbox, namespaceName, found⟩ := parts
  dsimp only at h
  split_ifs at h
  · cases h
    exact hdot
  · cases h
    exact hdot

/-- The host certificate of a sandbox is for the target of the command. The gateway routes this
target back to the sandbox exactly when there is no dot in the sandbox's name. -/
theorem ssh_target_routed_iff {sb : Sandbox} (hname : admitsSandboxName sb.metadata.name = true)
    (hns : isDNS1123Label sb.metadata.namespaceName = true) (defaultNamespace : String) :
    fqdnPrincipals sb = [sshCommandTarget sb.metadata.name sb.metadata.namespaceName] ∧
      (parseSSHTarget (sshCommandTarget sb.metadata.name sb.metadata.namespaceName)
          defaultNamespace = .ok ⟨sb.metadata.name, sb.metadata.namespaceName⟩ ↔
        '.' ∉ sb.metadata.name.toList) := by
  have hsandbox := RouteName.of_subdomain (Bool.and_eq_true_iff.mp
    (Bool.and_eq_true_iff.mp hname).1).1
  have hnamespace := RouteName.of_label (Bool.and_eq_true_iff.mp hns).1
  have htarget : sshCommandTarget sb.metadata.name sb.metadata.namespaceName =
      sb.metadata.name ++ "." ++ sb.metadata.namespaceName :=
    if_pos hnamespace.ne_empty
  have htrim : trimSpace (sb.metadata.name ++ "." ++ sb.metadata.namespaceName) =
      sb.metadata.name ++ "." ++ sb.metadata.namespaceName := by
    refine trimSpace_of_forall fun c hc => (plain_of_nameChar ?_).1
    simp only [String.toList_append, List.mem_append] at hc
    rcases hc with (hc | hc) | hc
    · exact hsandbox.chars c hc
    · exact Or.inr (by simpa using hc)
    · exact hnamespace.chars c hc
  rw [htarget]
  refine ⟨rfl, dot_notMem_of_parseSSHTarget, fun hdot => ?_⟩
  rw [parseSSHTarget, htrim, cutDot_append hdot]
  simp [hsandbox.ne_empty, hnamespace.ne_empty]

/-- A sandbox in the team's namespace. -/
def named (name : String) : Sandbox :=
  ⟨{ name := name, namespaceName := "team", uid := "u1" },
    { template := "base", owner := { name := "alice" } }, {}⟩

/-- The target of a plain name leads back to the sandbox. -/
theorem ssh_target_plain :
    parseSSHTarget (sshCommandTarget "dev" "team") "default" = .ok ⟨"dev", "team"⟩ := by
  have hname : admitsSandboxName (named "dev").metadata.name = true := by decide +kernel
  have hns : isDNS1123Label (named "dev").metadata.namespaceName = true := by decide +kernel
  exact (ssh_target_routed_iff hname hns "default").2.mpr (by decide)

/-- The target of a name with a dot leads to another sandbox, in another namespace. -/
theorem ssh_target_dotted :
    admitsSandboxName "dev.v2" = true ∧ isDNS1123Label "team" = true ∧
      parseSSHTarget (sshCommandTarget "dev.v2" "team") "default" = .ok ⟨"dev", "v2.team"⟩ := by
  refine ⟨?_, ?_, ?_⟩
  all_goals decide +kernel

end Gateway

end Kubepark
