import Mathlib.Data.List.Basic

/-!
# Text encodings

Unpadded url-safe base64 (`Base64.encode`, `Base64.decode`), UTF-8 with the replacement of what is
not valid (`Utf8.decode`), and the cutting of a string at the first occurrence of a separator
(`Text.cut`). What is encoded decodes to itself (`Base64.decode_encode`), and an encoding is made of
the characters of the alphabet (`Base64.mem_encode`); what a cut returns is what was there, around
the separator (`Text.eq_of_cut`), and the first part does not hold the separator
(`Text.cut_append`).
-/

namespace Base64

def alphabet : List Char :=
  "ABCDEFGHIJKLMNOPQRSTUVWXYZabcdefghijklmnopqrstuvwxyz0123456789-_".toList

/-- The character of a six-bit value. -/
def digit (n : Nat) : Char :=
  alphabet.getD n 'A'

/-- The six-bit value of a character. -/
def value (c : Char) : Option Nat :=
  alphabet.findIdx? (· == c)

theorem value_digit {n : Nat} (h : n < 64) : value (digit n) = some n := by
  have hall : ∀ i : Fin 64, value (digit i) = some i.val := by decide +kernel
  exact hall ⟨n, h⟩

theorem digit_mem {n : Nat} (h : n < 64) : digit n ∈ alphabet := by
  have hall : ∀ i : Fin 64, digit i ∈ alphabet := by decide +kernel
  exact hall ⟨n, h⟩

/-- Three bytes are four characters; one or two bytes at the end are two or three. -/
def encode : List UInt8 → List Char
  | [] => []
  | [a] => [digit (a.toNat / 4), digit (a.toNat % 4 * 16)]
  | [a, b] =>
    [digit (a.toNat / 4), digit (a.toNat % 4 * 16 + b.toNat / 16), digit (b.toNat % 16 * 4)]
  | a :: b :: c :: l =>
    digit (a.toNat / 4) :: digit (a.toNat % 4 * 16 + b.toNat / 16) ::
      digit (b.toNat % 16 * 4 + c.toNat / 64) :: digit (c.toNat % 64) :: encode l

/-- The bits left over in a short last group are ignored. -/
def decode : List Char → Option (List UInt8)
  | [] => some []
  | [_] => none
  | [w, x] => do
    let i ← value w
    let j ← value x
    some [UInt8.ofNat (i * 4 + j / 16)]
  | [w, x, y] => do
    let i ← value w
    let j ← value x
    let k ← value y
    some [UInt8.ofNat (i * 4 + j / 16), UInt8.ofNat (j % 16 * 16 + k / 4)]
  | w :: x :: y :: z :: l => do
    let i ← value w
    let j ← value x
    let k ← value y
    let m ← value z
    let rest ← decode l
    some (UInt8.ofNat (i * 4 + j / 16) :: UInt8.ofNat (j % 16 * 16 + k / 4) ::
      UInt8.ofNat (k % 4 * 64 + m) :: rest)

theorem byte_eq {a : UInt8} {n : Nat} (h : n = a.toNat) : UInt8.ofNat n = a := by
  rw [h, UInt8.ofNat_toNat]

/-- What is encoded decodes to itself. -/
theorem decode_encode : ∀ l : List UInt8, decode (encode l) = some l
  | [] => rfl
  | [a] => by
    have ha := a.toNat_lt
    simp only [encode, decode, value_digit (show a.toNat / 4 < 64 by omega),
      value_digit (show a.toNat % 4 * 16 < 64 by omega), Option.bind_eq_bind, Option.bind_some]
    rw [byte_eq (a := a) (by omega)]
  | [a, b] => by
    have ha := a.toNat_lt
    have hb := b.toNat_lt
    simp only [encode, decode, value_digit (show a.toNat / 4 < 64 by omega),
      value_digit (show a.toNat % 4 * 16 + b.toNat / 16 < 64 by omega),
      value_digit (show b.toNat % 16 * 4 < 64 by omega), Option.bind_eq_bind, Option.bind_some]
    rw [byte_eq (a := a) (by omega), byte_eq (a := b) (by omega)]
  | a :: b :: c :: l => by
    have ha := a.toNat_lt
    have hb := b.toNat_lt
    have hc := c.toNat_lt
    simp only [encode, decode, value_digit (show a.toNat / 4 < 64 by omega),
      value_digit (show a.toNat % 4 * 16 + b.toNat / 16 < 64 by omega),
      value_digit (show b.toNat % 16 * 4 + c.toNat / 64 < 64 by omega),
      value_digit (show c.toNat % 64 < 64 by omega), decode_encode l, Option.bind_eq_bind,
      Option.bind_some]
    rw [byte_eq (a := a) (by omega), byte_eq (a := b) (by omega), byte_eq (a := c) (by omega)]

/-- An encoding is made of characters of the alphabet. -/
theorem mem_encode : ∀ (l : List UInt8) (ch : Char), ch ∈ encode l → ch ∈ alphabet
  | [], _, h => nomatch h
  | [a], ch, h => by
    have ha := a.toNat_lt
    simp only [encode, List.mem_cons, List.not_mem_nil, or_false] at h
    rcases h with rfl | rfl <;> exact digit_mem (by omega)
  | [a, b], ch, h => by
    have ha := a.toNat_lt
    have hb := b.toNat_lt
    simp only [encode, List.mem_cons, List.not_mem_nil, or_false] at h
    rcases h with rfl | rfl | rfl <;> exact digit_mem (by omega)
  | a :: b :: c :: l, ch, h => by
    have ha := a.toNat_lt
    have hb := b.toNat_lt
    have hc := c.toNat_lt
    simp only [encode, List.mem_cons] at h
    rcases h with rfl | rfl | rfl | rfl | h
    · exact digit_mem (by omega)
    · exact digit_mem (by omega)
    · exact digit_mem (by omega)
    · exact digit_mem (by omega)
    · exact mem_encode l ch h

/-- `encode` to a string. -/
def encodeToString (bytes : List UInt8) : String :=
  String.ofList (encode bytes)

/-- `decode` of a string; line breaks are skipped. -/
def decodeString (s : String) : Option (List UInt8) :=
  decode (s.toList.filter fun c => c ≠ '\r' ∧ c ≠ '\n')

theorem decodeString_encodeToString (bytes : List UInt8) :
    decodeString (encodeToString bytes) = some bytes := by
  have hclean : alphabet.all (fun c => c ≠ '\r' ∧ c ≠ '\n') = true := by decide +kernel
  have hfilter : (encode bytes).filter (fun c => c ≠ '\r' ∧ c ≠ '\n') = encode bytes := by
    refine List.filter_eq_self.mpr fun c hc => ?_
    exact List.all_eq_true.mp hclean c (mem_encode bytes c hc)
  rw [decodeString, encodeToString, String.toList_ofList, hfilter, decode_encode]

theorem dot_not_mem (bytes : List UInt8) : '.' ∉ (encodeToString bytes).toList := by
  rw [encodeToString, String.toList_ofList]
  intro h
  have hdot : '.' ∉ alphabet := by decide +kernel
  exact hdot (mem_encode bytes '.' h)

end Base64

namespace Utf8

def encode (s : List Char) : List UInt8 :=
  s.flatMap String.utf8EncodeChar

/-- Bytes that are not the start of a character are replaced one by one. -/
def decodeFrom : Nat → List UInt8 → List Char
  | 0, _ => []
  | _ + 1, [] => []
  | fuel + 1, b :: l =>
    match (b :: l).toByteArray.utf8DecodeChar? 0 with
    | some c => c :: decodeFrom fuel ((b :: l).drop (String.utf8EncodeChar c).length)
    | none => '\ufffd' :: decodeFrom fuel l

def decode (l : List UInt8) : List Char :=
  decodeFrom l.length l

theorem decodeFrom_encode : ∀ (s : List Char) {fuel : Nat}, s.length ≤ fuel →
    decodeFrom fuel (encode s) = s
  | [], 0, _ => rfl
  | [], fuel + 1, _ => rfl
  | c :: s, fuel + 1, h => by
    have hsplit : encode (c :: s) = String.utf8EncodeChar c ++ encode s := List.flatMap_cons
    have hchar : (encode (c :: s)).toByteArray.utf8DecodeChar? 0 = some c := by
      rw [hsplit, List.toByteArray_append]
      exact ByteArray.utf8DecodeChar?_utf8EncodeChar_append
    have hne : encode (c :: s) ≠ [] := by
      rw [hsplit]
      simp
    cases hbytes : encode (c :: s) with
    | nil => exact absurd hbytes hne
    | cons b l =>
      rw [hbytes] at hchar hsplit
      rw [decodeFrom, hchar, hsplit]
      dsimp only
      rw [List.drop_left, decodeFrom_encode s (Nat.le_of_succ_le_succ h)]

theorem length_le_encode (s : List Char) : s.length ≤ (encode s).length := by
  induction s with
  | nil => exact Nat.le_refl _
  | cons c s ih =>
    have hpos := c.utf8Size_pos
    have hsplit : encode (c :: s) = String.utf8EncodeChar c ++ encode s := List.flatMap_cons
    rw [hsplit, List.length_append, String.length_utf8EncodeChar, List.length_cons]
    omega

/-- What is encoded decodes to itself. -/
theorem decode_encode (s : List Char) : decode (encode s) = s :=
  decodeFrom_encode s (length_le_encode s)

end Utf8

namespace Text

/-- What is before and after the first occurrence of `sep`. -/
def cutList (sep : List Char) : List Char → Option (List Char × List Char)
  | [] => if sep = [] then some ([], []) else none
  | c :: l =>
    if sep.isPrefixOf (c :: l) then some ([], (c :: l).drop sep.length)
    else (cutList sep l).map fun p => (c :: p.1, p.2)

theorem eq_of_cutList {sep : List Char} :
    ∀ {l before after : List Char}, cutList sep l = some (before, after) →
      l = before ++ sep ++ after
  | [], before, after, h => by
    simp only [cutList] at h
    split_ifs at h with hsep
    cases h
    simp [hsep]
  | c :: l, before, after, h => by
    simp only [cutList] at h
    split_ifs at h with hpre
    · cases h
      obtain ⟨rest, hrest⟩ := List.isPrefixOf_iff_prefix.mp hpre
      rw [← hrest, List.drop_left]
      simp
    · simp only [Option.map_eq_some_iff, Prod.exists, Prod.mk.injEq] at h
      obtain ⟨before', after', hcut, rfl, rfl⟩ := h
      rw [eq_of_cutList hcut]
      simp

/-- What is cut off is before the first occurrence : neither in it nor across its end is there
another one. -/
theorem cutList_eq_some {sep : List Char} (hsep : sep ≠ []) :
    ∀ {l before after : List Char}, cutList sep l = some (before, after) ↔
      l = before ++ sep ++ after ∧ ¬sep <:+: before ++ sep.dropLast
  | [], before, after => by
    simp only [cutList, if_neg hsep]
    refine ⟨nofun, fun h => ?_⟩
    have hnil := h.1.symm
    simp [hsep] at hnil
  | c :: l, before, after => by
    have hlength : sep.dropLast.length + 1 = sep.length := by
      rw [List.length_dropLast, Nat.sub_add_cancel (List.length_pos_iff.mpr hsep)]
    simp only [cutList]
    constructor
    · intro h
      refine ⟨eq_of_cutList h, fun hinfix => ?_⟩
      split_ifs at h with hpre
      · cases h
        have hle := hinfix.length_le
        simp only [List.nil_append] at hle
        omega
      · simp only [Option.map_eq_some_iff, Prod.exists, Prod.mk.injEq] at h
        obtain ⟨before, after, hcut, rfl, rfl⟩ := h
        obtain ⟨rfl, hfirst⟩ := (cutList_eq_some hsep).mp hcut
        rcases List.infix_cons_iff.mp hinfix with hpre' | hinfix
        · refine hpre (List.isPrefixOf_iff_prefix.mpr (hpre'.trans ?_))
          rw [List.append_assoc]
          refine (List.prefix_append_right_inj (c :: before)).mpr ?_
          exact (List.dropLast_prefix sep).trans (List.prefix_append sep after)
        · exact hfirst hinfix
    · rintro ⟨hl, hfirst⟩
      cases before with
      | nil =>
        rw [List.nil_append] at hl
        rw [hl, if_pos (List.isPrefixOf_iff_prefix.mpr (List.prefix_append _ _)), List.drop_left]
      | cons d before =>
        obtain ⟨rfl, rfl⟩ : c = d ∧ l = before ++ sep ++ after := List.cons.inj hl
        have hpre : ¬sep.isPrefixOf (c :: (before ++ sep ++ after)) = true := by
          intro hpre
          refine hfirst (List.IsPrefix.isInfix ?_)
          refine List.prefix_of_prefix_length_le (List.isPrefixOf_iff_prefix.mp hpre) ?_ ?_
          · rw [List.append_assoc]
            refine (List.prefix_append_right_inj (c :: before)).mpr ?_
            exact (List.dropLast_prefix sep).trans (List.prefix_append sep after)
          · simp only [List.cons_append, List.length_cons, List.length_append]
            omega
        have hcut : cutList sep (before ++ sep ++ after) = some (before, after) :=
          (cutList_eq_some hsep).mpr ⟨rfl, fun h => hfirst (List.infix_cons h)⟩
        rw [if_neg hpre, hcut, Option.map_some]

/-- A one-character separator is found at its first place. -/
theorem cutList_append {sep : Char} {after : List Char} :
    ∀ {before : List Char}, sep ∉ before →
      cutList [sep] (before ++ sep :: after) = some (before, after)
  | [], _ => by simp [cutList]
  | c :: before, h => by
    obtain ⟨hc, hbefore⟩ := not_or.mp (List.mem_cons.not.mp h)
    have hne : (sep == c) = false := beq_eq_false_iff_ne.mpr hc
    simp [cutList, cutList_append hbefore, List.isPrefixOf, hne]

/-- A separator that is in neither first part is in the same place. -/
theorem split_inj {sep : Char} {before before' after after' : List Char} (h : sep ∉ before)
    (h' : sep ∉ before') (heq : before ++ sep :: after = before' ++ sep :: after') :
    before = before' ∧ after = after' := by
  have hcut : cutList [sep] (before ++ sep :: after) = some (before, after) := cutList_append h
  rw [heq, cutList_append h'] at hcut
  obtain ⟨rfl, rfl⟩ := Prod.mk.inj (Option.some.inj hcut)
  exact ⟨rfl, rfl⟩

/-- Two texts with one separator each that differ in one character have either the same first part
or the same second one, and not both. -/
theorem split_of_change {sep c c' : Char} {b s b' s' l m : List Char} (hb : sep ∉ b) (hs : sep ∉ s)
    (hb' : sep ∉ b') (hs' : sep ∉ s') (hl : b ++ sep :: s = l ++ c :: m)
    (hl' : b' ++ sep :: s' = l ++ c' :: m) (hne : c ≠ c') : b' = b ∧ s' ≠ s ∨ s' = s ∧ b' ≠ b := by
  have hdot : c ≠ sep ∨ ¬(l = b ∧ m = s) := by
    rw [← not_and_or]
    rintro ⟨rfl, rfl, rfl⟩
    have hmem : c ∈ l ++ c' :: m := hl' ▸ by simp
    simp only [List.mem_append, List.mem_cons] at hmem
    tauto
  rcases List.append_eq_append_iff.mp hl with ⟨q, rfl, hq⟩ | ⟨q, rfl, hq⟩
  · cases q with
    | nil =>
      obtain ⟨rfl, rfl⟩ := List.cons.inj hq
      exact absurd ⟨by simp, rfl⟩ (hdot.resolve_left fun h => h rfl)
    | cons d q =>
      obtain ⟨rfl, rfl⟩ : sep = d ∧ s = q ++ c :: m := List.cons.inj hq
      rw [List.append_assoc] at hl'
      obtain ⟨rfl, rfl⟩ := split_inj hb' hb hl'
      refine Or.inl ⟨rfl, fun h => hne ?_⟩
      exact (List.cons.inj (List.append_cancel_left h)).1.symm
  · cases q with
    | nil =>
      obtain ⟨rfl, rfl⟩ := List.cons.inj hq
      exact absurd ⟨by simp, rfl⟩ (hdot.resolve_left fun h => h rfl)
    | cons d q =>
      obtain ⟨rfl, rfl⟩ : c = d ∧ m = q ++ sep :: s := List.cons.inj hq
      have hlsep : sep ∉ l := fun h => hb (List.mem_append_left _ h)
      by_cases hc' : c' = sep
      · rw [hc'] at hl'
        obtain ⟨rfl, rfl⟩ := split_inj hb' hlsep hl'
        exact absurd (by simp) hs'
      · have hnew : sep ∉ l ++ c' :: q := by
          simp only [List.mem_append, List.mem_cons] at hb ⊢
          tauto
        have hl'' : b' ++ sep :: s' = (l ++ c' :: q) ++ sep :: s := by rw [hl']; simp
        obtain ⟨rfl, rfl⟩ := split_inj hb' hnew hl''
        refine Or.inr ⟨rfl, fun h => hne ?_⟩
        exact (List.cons.inj (List.append_cancel_left h)).1.symm

/-- `strings.Cut`. -/
def cut (s sep : String) : Option (String × String) :=
  (cutList sep.toList s.toList).map fun p => (String.ofList p.1, String.ofList p.2)

theorem eq_of_cut {s sep before after : String} (h : cut s sep = some (before, after)) :
    s = before ++ sep ++ after := by
  simp only [cut, Option.map_eq_some_iff, Prod.exists, Prod.mk.injEq] at h
  obtain ⟨b, a, hcut, rfl, rfl⟩ := h
  apply String.toList_inj.mp
  rw [String.toList_append, String.toList_append, String.toList_ofList, String.toList_ofList]
  exact eq_of_cutList hcut

theorem cut_eq_some {s sep before after : String} (hsep : sep.toList ≠ []) :
    cut s sep = some (before, after) ↔
      s = before ++ sep ++ after ∧ ¬sep.toList <:+: before.toList ++ sep.toList.dropLast := by
  have hlists : cut s sep = some (before, after) ↔
      cutList sep.toList s.toList = some (before.toList, after.toList) := by
    rw [cut, Option.map_eq_some_iff]
    constructor
    · rintro ⟨p, hp, heq⟩
      obtain ⟨rfl, rfl⟩ := Prod.mk.inj heq
      rw [hp, String.toList_ofList, String.toList_ofList]
    · intro h
      exact ⟨_, h, by rw [String.ofList_toList, String.ofList_toList]⟩
  rw [hlists, cutList_eq_some hsep, ← String.toList_inj, String.toList_append, String.toList_append]

theorem cut_append {before after : String} {sep : Char} (h : sep ∉ before.toList) :
    cut (before ++ String.ofList [sep] ++ after) (String.ofList [sep]) = some (before, after) := by
  have hlist : (before ++ String.ofList [sep] ++ after).toList =
      before.toList ++ sep :: after.toList := by simp
  rw [cut, hlist, String.toList_ofList, cutList_append h, Option.map_some, String.ofList_toList,
    String.ofList_toList]

/-- What is before the first separator is no longer than what is before any. -/
theorem length_cutList_le (sep : Char) (after : List Char) :
    ∀ before : List Char, ∃ p, cutList [sep] (before ++ sep :: after) = some p ∧
      p.1.length ≤ before.length
  | [] => ⟨([], after), by simp [cutList], by simp⟩
  | c :: before => by
    obtain ⟨p, hp, hle⟩ := length_cutList_le sep after before
    simp only [List.cons_append, cutList]
    split_ifs
    · exact ⟨_, rfl, by simp⟩
    · exact ⟨(c :: p.1, p.2), by rw [hp, Option.map_some], by simpa using hle⟩

/-- `strings.HasSuffix` and `strings.TrimSuffix` : `s` without the suffix, if it has it. -/
def trimSuffix? (s suffix : String) : Option String :=
  if suffix.toList.isSuffixOf s.toList then
    some (String.ofList (s.toList.take (s.toList.length - suffix.toList.length)))
  else none

/-- A suffix that was trimmed was there. -/
theorem eq_of_trimSuffix {s suffix rest : String} (h : trimSuffix? s suffix = some rest) :
    s = rest ++ suffix := by
  unfold trimSuffix? at h
  split_ifs at h with hsuffix
  obtain ⟨before, hbefore⟩ := List.isSuffixOf_iff_suffix.mp hsuffix
  obtain rfl := Option.some.inj h
  apply String.toList_inj.mp
  rw [String.toList_append, String.toList_ofList, ← hbefore, List.length_append,
    Nat.add_sub_cancel, List.take_left]

theorem trimSuffix_eq_some {s suffix rest : String} :
    trimSuffix? s suffix = some rest ↔ s = rest ++ suffix := by
  refine ⟨eq_of_trimSuffix, ?_⟩
  rintro rfl
  have hsuffix : suffix.toList.isSuffixOf (rest ++ suffix).toList = true := by
    rw [String.toList_append]
    exact List.isSuffixOf_iff_suffix.mpr (List.suffix_append _ _)
  rw [trimSuffix?, if_pos hsuffix, String.toList_append, List.length_append, Nat.add_sub_cancel,
    List.take_left, String.ofList_toList]

/-- A short suffix is trimmed off the second part. -/
theorem trimSuffix_append {pre s suffix : String}
    (h : suffix.toList.length ≤ s.toList.length) :
    ∃ rest : String, (trimSuffix? (pre ++ s) suffix).getD (pre ++ s) = pre ++ rest ∧
      rest.toList.length ≤ s.toList.length := by
  unfold trimSuffix?
  split_ifs
  · refine ⟨String.ofList (s.toList.take (s.toList.length - suffix.toList.length)), ?_, by simp⟩
    apply String.toList_inj.mp
    rw [Option.getD_some, String.toList_append, String.toList_append, String.toList_ofList,
      String.toList_ofList, List.length_append, Nat.add_sub_assoc h, List.take_length_add_append]
  · exact ⟨s, rfl, Nat.le_refl _⟩

/-- `strings.TrimPrefix`. -/
def trimPrefix (s pre : String) : String :=
  if pre.toList.isPrefixOf s.toList then String.ofList (s.toList.drop pre.toList.length) else s

theorem trimPrefix_append (pre s : String) : trimPrefix (pre ++ s) pre = s := by
  have hpre : pre.toList.isPrefixOf (pre ++ s).toList = true := by
    simp [String.toList_append]
  rw [trimPrefix, if_pos hpre, String.toList_append, List.drop_left, String.ofList_toList]

theorem length_le_trimPrefix (s pre : String) :
    s.toList.length ≤ (trimPrefix s pre).toList.length + pre.toList.length := by
  unfold trimPrefix
  split_ifs
  · rw [String.toList_ofList, List.length_drop]
    omega
  · omega

end Text
