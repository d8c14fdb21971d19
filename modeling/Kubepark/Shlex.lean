import Mathlib.Algebra.GroupWithZero.Nat
import Mathlib.Data.List.Basic
import Mathlib.Tactic.SplitIfs

/-!
# Words of a command line

A command line is split into words as a shell splits it, in the manner of the `shlex` lexers : words
are separated by white space, quotes and backslashes keep what they enclose together and are
removed, and an empty word is dropped (`Shlex.split`). A line that ends within quotes or
after a backslash does not split.

Words that are joined by blanks again lose what the quotes said. `Shlex.split_intercalate_iff` says
which words come back : those that hold no white space and nothing that quotes. One direction reads
such words off the line; in the other, each split removes a quoting character if there is one
(`Shlex.sumQuoting_lt`), so words that come back from a split have none.
-/

namespace Shlex

/-- White space, as Unicode has it. -/
def isSpace (c : Char) : Bool :=
  (9 ≤ c.toNat ∧ c.toNat ≤ 13) ∨ c.toNat = 0x20 ∨ c.toNat = 0x85 ∨ c.toNat = 0xA0 ∨
    c.toNat = 0x1680 ∨ (0x2000 ≤ c.toNat ∧ c.toNat ≤ 0x200A) ∨ c.toNat = 0x2028 ∨
    c.toNat = 0x2029 ∨ c.toNat = 0x202F ∨ c.toNat = 0x205F ∨ c.toNat = 0x3000

def isQuote (c : Char) : Bool :=
  c = '\'' ∨ c = '"'

def isEscape (c : Char) : Bool :=
  c = '\\'

/-- Quotes within which a backslash escapes. -/
def isEscapedQuote (c : Char) : Bool :=
  c = '"'

/-- Where the lexer is. -/
inductive State
  | blank
  | word
  | quote (q : Char)
  /-- After a backslash, within the quotes if there are any. -/
  | escape (within : Option Char)

/-- A word that was read, unless it is empty. -/
def emit (token : List Char) (rest : Option (List (List Char))) : Option (List (List Char)) :=
  if token = [] then rest else rest.map (token :: ·)

/-- The words of what is left of the line; `token` is what was read of the current one, and
`quoted` says that it has quotes. -/
def lex : State → List Char → Bool → List Char → Option (List (List Char))
  | .blank, token, _, [] => emit token (some [])
  | .word, token, _, [] => emit token (some [])
  | .quote _, _, _, [] => none
  | .escape _, _, _, [] => none
  | .blank, token, quoted, c :: cs =>
    if isSpace c then emit token (lex .blank [] false cs)
    else if isEscape c then lex (.escape none) token quoted cs
    else if isQuote c then lex (.quote c) token quoted cs
    else lex .word (token ++ [c]) quoted cs
  | .word, token, quoted, c :: cs =>
    if isSpace c then
      if token ≠ [] ∨ quoted then emit token (lex .blank [] false cs) else lex .word token quoted cs
    else if isQuote c then lex (.quote c) token quoted cs
    else if isEscape c then lex (.escape none) token quoted cs
    else lex .word (token ++ [c]) quoted cs
  | .quote q, token, _, c :: cs =>
    if c = q then lex .word token true cs
    else if isEscape c && isEscapedQuote q then lex (.escape (some q)) token true cs
    else lex (.quote q) (token ++ [c]) true cs
  | .escape none, token, quoted, c :: cs => lex .word (token ++ [c]) quoted cs
  | .escape (some q), token, quoted, c :: cs =>
    -- Within quotes a backslash is kept, unless it is before another one or the quote.
    if c ≠ '\\' ∧ c ≠ q then lex (.quote q) (token ++ ['\\', c]) quoted cs
    else lex (.quote q) (token ++ [c]) quoted cs

/-- The words of a command line. -/
def split (s : String) : Option (List String) :=
  (lex .blank [] false s.toList).map (·.map String.ofList)

/-- The character quotes others. -/
def quoting (c : Char) : Bool :=
  isQuote c || isEscape c

/-- Neither white space nor a character that quotes. -/
def plain (c : Char) : Bool :=
  !isSpace c && !quoting c

/-! ## What a split removes -/

theorem emit_eq_some {token : List Char} {rest : Option (List (List Char))}
    {words : List (List Char)} (h : emit token rest = some words) :
    ∃ tail, rest = some tail ∧
      (token = [] ∧ words = tail ∨ token ≠ [] ∧ words = token :: tail) := by
  unfold emit at h
  split_ifs at h with htoken
  · exact ⟨words, h, Or.inl ⟨htoken, rfl⟩⟩
  · obtain ⟨tail, htail, rfl⟩ := Option.map_eq_some_iff.mp h
    exact ⟨tail, htail, Or.inr ⟨htoken, rfl⟩⟩

/-- The number of quoting characters in the words. -/
def sumQuoting (words : List (List Char)) : Nat :=
  (words.map (List.countP quoting)).sum

theorem sumQuoting_emit {token : List Char} {rest : Option (List (List Char))}
    {words : List (List Char)} (h : emit token rest = some words) :
    ∃ tail, rest = some tail ∧ sumQuoting words = token.countP quoting + sumQuoting tail := by
  obtain ⟨tail, hrest, ⟨rfl, rfl⟩ | ⟨-, rfl⟩⟩ := emit_eq_some h
  · exact ⟨words, hrest, by simp⟩
  · exact ⟨tail, hrest, by simp [sumQuoting]⟩

/-- A backslash that is read may still come to be kept. -/
def pending : State → Nat
  | .escape (some _) => 1
  | _ => 0

/-- No word has a quoting character that was not there. -/
theorem sumQuoting_lex {st : State} {token : List Char} {quoted : Bool} {cs : List Char}
    {words : List (List Char)} (h : lex st token quoted cs = some words) :
    sumQuoting words ≤ token.countP quoting + cs.countP quoting + pending st := by
  fun_induction lex st token quoted cs generalizing words with
  | case1 token quoted | case2 token quoted =>
    obtain ⟨tail, ⟨⟩, hsum⟩ := sumQuoting_emit h
    simp [hsum, show sumQuoting [] = 0 from rfl]
  | case3 | case4 => cases h
  | case5 token quoted c cs hspace ih | case9 token quoted c cs hspace hword ih =>
    obtain ⟨tail, htail, hsum⟩ := sumQuoting_emit h
    have htail := ih htail
    simp only [List.countP_nil, List.countP_cons, pending] at htail ⊢
    omega
  | case6 token quoted c cs hspace hescape ih | case7 token quoted c cs hspace hescape hquote ih
  | case10 token quoted c cs hspace hword ih | case11 token quoted c cs hspace hquote ih
  | case12 token quoted c cs hspace hquote hescape ih | case14 token quoted c cs ih =>
    have hrest := ih h
    simp only [List.countP_cons, pending] at hrest ⊢
    omega
  | case15 q token quoted c cs hend hescape ih =>
    -- The backslash that is read is counted until it is known whether it stays.
    have hrest := ih h
    have hc : quoting c = true := by
      simp [quoting, (Bool.and_eq_true _ _).mp hescape]
    simp only [List.countP_cons, hc, pending, ↓reduceIte] at hrest ⊢
    omega
  | case18 q token quoted c cs hkept ih =>
    have hrest := ih h
    simp only [List.countP_append, List.countP_cons, List.countP_nil, pending,
      show quoting '\\' = true from rfl, ↓reduceIte] at hrest ⊢
    omega
  | case8 | case13 | case16 | case17 | case19 =>
    rename_i ih
    have hrest := ih h
    simp only [List.countP_append, List.countP_cons, List.countP_nil, pending] at hrest ⊢
    omega

theorem quoting_of_space {c : Char} (h : isSpace c = true) : quoting c = false := by
  rw [Bool.eq_false_iff]
  intro hc
  simp only [quoting, isQuote, isEscape, Bool.or_eq_true, decide_eq_true_eq, or_assoc] at hc
  rcases hc with rfl | rfl | rfl <;> simp [isSpace] at h

/-- A quoting character outside quotes is removed. -/
theorem sumQuoting_lt {st : State} {token : List Char} {quoted : Bool} {cs : List Char}
    {words : List (List Char)} (hst : st = .blank ∨ st = .word)
    (h : lex st token quoted cs = some words) (hcs : 0 < cs.countP quoting) :
    sumQuoting words < token.countP quoting + cs.countP quoting := by
  induction cs generalizing st token quoted words with
  | nil => simp at hcs
  | cons c cs ih =>
    have hremoved : ∀ {st' : State}, pending st' = 0 → quoting c = true →
        lex st' token quoted cs = some words →
          sumQuoting words < token.countP quoting + (c :: cs).countP quoting := by
      intro st' hst' hc h
      have hrest := sumQuoting_lex h
      simp only [hst', List.countP_cons, hc, ↓reduceIte] at hrest ⊢
      omega
    have hkept : ∀ {st' : State} {token' : List Char} {quoted' : Bool} {words' : List (List Char)},
        st' = .blank ∨ st' = .word → quoting c = false → lex st' token' quoted' cs = some words' →
          sumQuoting words' < token'.countP quoting + (c :: cs).countP quoting := by
      intro st' token' quoted' words' hst' hc h
      have hcount : (c :: cs).countP quoting = cs.countP quoting := by simp [hc]
      rw [hcount] at hcs ⊢
      exact ih hst' h hcs
    have hnext : quoting c = false → lex .word (token ++ [c]) quoted cs = some words →
        sumQuoting words < token.countP quoting + (c :: cs).countP quoting := by
      intro hc h
      have hrest := hkept (Or.inr rfl) hc h
      simpa [List.countP_append, hc] using hrest
    have hspaced : isSpace c = true → emit token (lex .blank [] false cs) = some words →
        sumQuoting words < token.countP quoting + (c :: cs).countP quoting := by
      intro hspace h
      obtain ⟨tail, htail, hsum⟩ := sumQuoting_emit h
      have hrest := hkept (Or.inl rfl) (quoting_of_space hspace) htail
      simp only [List.countP_nil] at hrest
      omega
    rcases hst with rfl | rfl
    · simp only [lex] at h
      split_ifs at h with hspace hescape hquote
      · exact hspaced hspace h
      · exact hremoved rfl (by simp [quoting, hescape]) h
      · exact hremoved rfl (by simp [quoting, hquote]) h
      · exact hnext (by simp [quoting, hquote, hescape]) h
    · simp only [lex] at h
      split_ifs at h with hspace hword hquote hescape
      · exact hspaced hspace h
      · exact hkept (Or.inr rfl) (quoting_of_space hspace) h
      · exact hremoved rfl (by simp [quoting, hquote]) h
      · exact hremoved rfl (by simp [quoting, hescape]) h
      · exact hnext (by simp [quoting, hquote, hescape]) h

/-! ## Words that come back -/

theorem plain_iff {c : Char} :
    plain c = true ↔ isSpace c = false ∧ isQuote c = false ∧ isEscape c = false := by
  simp [plain, quoting]

/-- A word that is not empty and holds neither white space nor anything that quotes. -/
def Plain (w : List Char) : Prop :=
  w ≠ [] ∧ ∀ c ∈ w, plain c = true

instance (w : List Char) : Decidable (Plain w) :=
  decidable_of_iff (w ≠ [] ∧ w.all plain = true) (and_congr_right fun _ => List.all_eq_true)

theorem plain_emit {token : List Char} {rest : Option (List (List Char))}
    {words : List (List Char)} (htoken : ∀ c ∈ token, plain c = true)
    (hrest : ∀ tail, rest = some tail → ∀ w ∈ tail, Plain w) (h : emit token rest = some words) :
    ∀ w ∈ words, Plain w := by
  obtain ⟨tail, htail, ⟨-, rfl⟩ | ⟨hne, rfl⟩⟩ := emit_eq_some h
  · exact hrest words htail
  · exact List.forall_mem_cons.mpr ⟨⟨hne, htoken⟩, hrest tail htail⟩

/-- Where nothing is quoted, the words are plain. -/
theorem plain_lex {st : State} {token : List Char} {quoted : Bool} {cs : List Char}
    {words : List (List Char)} (hst : st = .blank ∨ st = .word)
    (htoken : ∀ c ∈ token, plain c = true) (hcs : ∀ c ∈ cs, quoting c = false)
    (h : lex st token quoted cs = some words) : ∀ w ∈ words, Plain w := by
  induction cs generalizing st token quoted words with
  | nil =>
    have hend : emit token (some []) = some words := by rcases hst with rfl | rfl <;> exact h
    refine plain_emit htoken ?_ hend
    rintro _ ⟨⟩
    exact nofun
  | cons c cs ih =>
    obtain ⟨hc, hcs⟩ := List.forall_mem_cons.mp hcs
    obtain ⟨hquote, hescape⟩ : isQuote c = false ∧ isEscape c = false := by simpa [quoting] using hc
    have hspaced : emit token (lex .blank [] false cs) = some words → ∀ w ∈ words, Plain w :=
      plain_emit htoken fun tail htail => ih (Or.inl rfl) (List.forall_mem_nil _) hcs htail
    have hnext : isSpace c = false → lex .word (token ++ [c]) quoted cs = some words →
        ∀ w ∈ words, Plain w := by
      intro hspace h
      refine ih (Or.inr rfl) (fun d hd => ?_) hcs h
      rcases List.mem_append.mp hd with hd | hd
      · exact htoken d hd
      · obtain rfl := List.mem_singleton.mp hd
        exact plain_iff.mpr ⟨hspace, hquote, hescape⟩
    rcases hst with rfl | rfl
    · simp only [lex, hquote, hescape, Bool.false_eq_true, ↓reduceIte] at h
      split_ifs at h with hspace
      · exact hspaced h
      · exact hnext (Bool.eq_false_iff.mpr hspace) h
    · simp only [lex, hquote, hescape, Bool.false_eq_true, ↓reduceIte] at h
      split_ifs at h with hspace hword
      · exact hspaced h
      · exact ih (Or.inr rfl) htoken hcs h
      · exact hnext (Bool.eq_false_iff.mpr hspace) h

/-- A plain word is read to its end. -/
theorem lex_word {token w rest : List Char} {quoted : Bool} (hw : ∀ c ∈ w, plain c = true) :
    lex .word token quoted (w ++ rest) = lex .word (token ++ w) quoted rest := by
  induction w generalizing token with
  | nil => simp
  | cons c w ih =>
    obtain ⟨hc, hw⟩ := List.forall_mem_cons.mp hw
    obtain ⟨hspace, hquote, hescape⟩ := plain_iff.mp hc
    rw [List.cons_append, lex]
    simp only [hspace, hquote, hescape, Bool.false_eq_true, ↓reduceIte]
    rw [ih hw, List.append_assoc, List.singleton_append]

theorem lex_blank {w rest : List Char} (hw : Plain w) :
    lex .blank [] false (w ++ rest) = lex .word w false rest := by
  obtain ⟨hne, hw⟩ := hw
  cases w with
  | nil => exact absurd rfl hne
  | cons c w =>
    obtain ⟨hc, hw⟩ := List.forall_mem_cons.mp hw
    obtain ⟨hspace, hquote, hescape⟩ := plain_iff.mp hc
    rw [List.cons_append, lex]
    simp only [hspace, hquote, hescape, Bool.false_eq_true, ↓reduceIte]
    exact lex_word hw

theorem lex_intercalate : ∀ {words : List (List Char)}, (∀ w ∈ words, Plain w) →
    lex .blank [] false ([' '].intercalate words) = some words
  | [], _ => rfl
  | [w], h => by
    have hw := h w List.mem_cons_self
    rw [List.intercalate_singleton, ← List.append_nil w, lex_blank hw, lex, emit, if_neg hw.1]
    simp
  | w :: w' :: words, h => by
    obtain ⟨hw, hrest⟩ := List.forall_mem_cons.mp h
    rw [List.intercalate_cons_cons, List.append_assoc, lex_blank hw, List.singleton_append, lex]
    rw [if_pos (show isSpace ' ' = true from rfl), if_pos (Or.inl hw.1), emit, if_neg hw.1,
      lex_intercalate hrest]
    rfl

theorem sumQuoting_intercalate : ∀ words : List (List Char),
    ([' '].intercalate words).countP quoting = sumQuoting words
  | [] => rfl
  | [w] => by simp [sumQuoting]
  | w :: w' :: words => by
    rw [List.intercalate_cons_cons, List.countP_append, List.countP_append,
      sumQuoting_intercalate (w' :: words)]
    simp [sumQuoting, show quoting ' ' = false from rfl]

theorem lex_intercalate_iff {words : List (List Char)} :
    lex .blank [] false ([' '].intercalate words) = some words ↔ ∀ w ∈ words, Plain w := by
  refine ⟨fun h => ?_, lex_intercalate⟩
  -- A quoting character would be removed, and the words would have fewer than the line.
  have hnone : ([' '].intercalate words).countP quoting = 0 := by
    by_contra hsome
    have hlt := sumQuoting_lt (Or.inl rfl) h (Nat.pos_of_ne_zero hsome)
    rw [sumQuoting_intercalate] at hlt
    simp at hlt
  refine plain_lex (Or.inl rfl) (List.forall_mem_nil _) (fun c hc => ?_) h
  exact Bool.eq_false_iff.mpr (List.countP_eq_zero.mp hnone c hc)

/-- The words that are split off the line they are joined to. -/
theorem split_intercalate_iff {words : List String} :
    split (" ".intercalate words) = some words ↔ ∀ w ∈ words, Plain w.toList := by
  have hlex : split (" ".intercalate words) = some words ↔
      lex .blank [] false ([' '].intercalate (words.map String.toList)) =
        some (words.map String.toList) := by
    rw [split, String.toList_intercalate, Option.map_eq_some_iff]
    constructor
    · rintro ⟨ws, hws, rfl⟩
      have hback : (ws.map String.ofList).map String.toList = ws := by simp [Function.comp_def]
      rw [hback] at hws ⊢
      exact hws
    · intro h
      exact ⟨_, h, by simp [Function.comp_def]⟩
  rw [hlex, lex_intercalate_iff, List.forall_mem_map]

end Shlex
