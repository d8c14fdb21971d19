import Kubepark.Encoding

/-!
# JSON texts

JSON values (`Value`), their text (`render`) and the parser (`parse`). Strings are rendered with
the escapes that are safe in HTML; `parse` takes any text of the grammar, with space, fractions
and surrogate pairs. What is rendered parses to itself (`parse_render`), as long as its numbers
are integers.
-/

namespace Json

/-- A JSON value. A number is kept as it is written. -/
inductive Value
  | null
  | bool (b : Bool)
  | number (literal : List Char)
  | string (s : List Char)
  | array (items : List Value)
  | object (members : List (List Char × Value))

/-! ## Strings -/

def hexDigit (n : Nat) : Char :=
  "0123456789abcdef".toList.getD n '0'

/-- Digits are read in either case. -/
def hexValue (c : Char) : Option Nat :=
  if c.isDigit then some (c.toNat - '0'.toNat)
  else if 'a' ≤ c ∧ c ≤ 'f' then some (c.toNat - 'a'.toNat + 10)
  else if 'A' ≤ c ∧ c ≤ 'F' then some (c.toNat - 'A'.toNat + 10)
  else none

def hex4 (a b c d : Char) : Option Nat := do
  some ((((← hexValue a) * 16 + (← hexValue b)) * 16 + (← hexValue c)) * 16 + (← hexValue d))

/-- The letter of a short escape. -/
def escapeLetter (c : Char) : Option Char :=
  if c = '"' ∨ c = '\\' then some c
  else if c = '\x08' then some 'b'
  else if c = '\x0c' then some 'f'
  else if c = '\n' then some 'n'
  else if c = '\r' then some 'r'
  else if c = '\t' then some 't'
  else none

/-- The characters that are written by their number : control characters, what is special in
HTML, and the two line separators. -/
def escapedByNumber (c : Char) : Bool :=
  c.toNat < 0x20 || c ∈ ['<', '>', '&', '\u2028', '\u2029']

def escapeChar (c : Char) : List Char :=
  match escapeLetter c with
  | some e => ['\\', e]
  | none =>
    if escapedByNumber c then
      ['\\', 'u', hexDigit (c.toNat / 4096), hexDigit (c.toNat / 256 % 16),
        hexDigit (c.toNat / 16 % 16), hexDigit (c.toNat % 16)]
    else [c]

def unescape (e : Char) : Option Char :=
  if e = '"' ∨ e = '\\' ∨ e = '/' then some e
  else if e = 'b' then some '\x08'
  else if e = 'f' then some '\x0c'
  else if e = 'n' then some '\n'
  else if e = 'r' then some '\r'
  else if e = 't' then some '\t'
  else none

/-- A piece of a string : a character, or a 16-bit code. -/
inductive Piece
  | char (c : Char)
  | code (n : Nat)

/-- The pieces of a string up to its closing quote, and what follows. -/
def pieces : List Char → Option (List Piece × List Char)
  | [] => none
  | c :: l =>
    if c = '"' then some ([], l)
    else if c = '\\' then
      match l with
      | [] => none
      | e :: l =>
        if e = 'u' then
          match l with
          | w :: x :: y :: z :: l =>
            match hex4 w x y z with
            | some n => (pieces l).map fun p => (.code n :: p.1, p.2)
            | none => none
          | _ => none
        else
          match unescape e with
          | some c => (pieces l).map fun p => (.char c :: p.1, p.2)
          | none => none
    else if c.toNat < 0x20 then none
    else (pieces l).map fun p => (.char c :: p.1, p.2)

def isSurrogate (n : Nat) : Bool :=
  0xd800 ≤ n && n < 0xe000

/-- The pieces put together. A surrogate that is not one of a pair is replaced. -/
def text : List Piece → List Char
  | [] => []
  | .char c :: l => c :: text l
  | .code n :: l =>
    if isSurrogate n then
      match l with
      | .code m :: l' =>
        if n < 0xdc00 ∧ 0xdc00 ≤ m ∧ m < 0xe000 then
          Char.ofNat ((n - 0xd800) * 0x400 + (m - 0xdc00) + 0x10000) :: text l'
        else '\ufffd' :: text (.code m :: l')
      | l => '\ufffd' :: text l
    else Char.ofNat n :: text l

def string (l : List Char) : Option (List Char × List Char) :=
  (pieces l).map fun p => (text p.1, p.2)

def quote (s : List Char) : List Char :=
  '"' :: s.flatMap escapeChar ++ ['"']

theorem hexValue_hexDigit {n : Nat} (h : n < 16) : hexValue (hexDigit n) = some n := by
  have hall : ∀ i : Fin 16, hexValue (hexDigit i) = some i.val := by decide +kernel
  exact hall ⟨n, h⟩

theorem hex4_hexDigits {n : Nat} (h : n < 65536) :
    hex4 (hexDigit (n / 4096)) (hexDigit (n / 256 % 16)) (hexDigit (n / 16 % 16))
      (hexDigit (n % 16)) = some n := by
  simp only [hex4, hexValue_hexDigit (show n / 4096 < 16 by omega),
    hexValue_hexDigit (Nat.mod_lt _ (by decide : 16 > 0)), Option.bind_eq_bind, Option.bind_some]
  exact congrArg some (by omega)

theorem unescape_escapeLetter {c e : Char} (h : escapeLetter c = some e) :
    unescape e = some c ∧ e ≠ 'u' := by
  unfold escapeLetter at h
  split_ifs at h with hsame hb hf hn hr ht
  · obtain rfl := Option.some.inj h
    rcases hsame with rfl | rfl <;> decide
  all_goals
    obtain rfl := Option.some.inj h
    subst_vars
    decide

/-- What a character is read back as. -/
def pieceOf (c : Char) : Piece :=
  if (escapeLetter c).isNone && escapedByNumber c then .code c.toNat else .char c

theorem escapedByNumber_lt {c : Char} (h : escapedByNumber c = true) : c.toNat < 0x2030 := by
  rw [escapedByNumber, Bool.or_eq_true, decide_eq_true_eq, decide_eq_true_eq] at h
  rcases h with h | h
  · omega
  · simp only [List.mem_cons, List.not_mem_nil, or_false] at h
    rcases h with rfl | rfl | rfl | rfl | rfl <;> decide

section Pieces

variable {c e w x y z : Char} {l : List Char} {n : Nat}

@[simp] theorem pieces_close (l : List Char) : pieces ('"' :: l) = some ([], l) := by
  rw [pieces.eq_def]
  rfl

theorem pieces_letter (hu : e ≠ 'u') (h : unescape e = some c) :
    pieces ('\\' :: e :: l) = (pieces l).map fun p => (.char c :: p.1, p.2) := by
  rw [pieces.eq_def]
  simp [hu, h]

theorem pieces_code (h : hex4 w x y z = some n) :
    pieces ('\\' :: 'u' :: w :: x :: y :: z :: l) =
      (pieces l).map fun p => (.code n :: p.1, p.2) := by
  rw [pieces.eq_def]
  simp [h]

theorem pieces_plain (hletter : escapeLetter c = none) (h : escapedByNumber c = false) :
    pieces (c :: l) = (pieces l).map fun p => (.char c :: p.1, p.2) := by
  have hquote : c ≠ '"' := by
    rintro rfl
    cases hletter
  have hslash : c ≠ '\\' := by
    rintro rfl
    cases hletter
  have hcontrol : ¬c.toNat < 0x20 := of_decide_eq_false (Bool.or_eq_false_iff.mp h).1
  rw [pieces.eq_def]
  simp [hquote, hslash, hcontrol]

/-- An escaped character is read as one piece. -/
theorem pieces_escapeChar (c : Char) (l : List Char) :
    pieces (escapeChar c ++ l) = (pieces l).map fun p => (pieceOf c :: p.1, p.2) := by
  unfold escapeChar pieceOf
  cases hletter : escapeLetter c with
  | some e =>
    obtain ⟨hunescape, hu⟩ := unescape_escapeLetter hletter
    exact pieces_letter hu hunescape
  | none =>
    cases hnumber : escapedByNumber c with
    | true =>
      have hlt := escapedByNumber_lt hnumber
      exact pieces_code (hex4_hexDigits (by omega))
    | false => exact pieces_plain hletter hnumber

end Pieces

theorem text_pieceOf (s : List Char) : text (s.map pieceOf) = s := by
  induction s with
  | nil => rfl
  | cons c s ih =>
    rw [List.map_cons, pieceOf]
    split_ifs with hcode
    · have hlt := escapedByNumber_lt (Bool.and_eq_true_iff.mp hcode).2
      have hsurrogate : isSurrogate c.toNat = false := by
        rw [isSurrogate, Bool.and_eq_false_iff, decide_eq_false_iff_not]
        omega
      rw [text.eq_def]
      simp [hsurrogate, ih]
    · rw [text, ih]

/-- A quoted string is read back. -/
theorem string_quote (s l : List Char) :
    string (s.flatMap escapeChar ++ '"' :: l) = some (s, l) := by
  have hpieces : pieces (s.flatMap escapeChar ++ '"' :: l) = some (s.map pieceOf, l) := by
    induction s with
    | nil => exact pieces_close l
    | cons c s ih =>
      rw [List.flatMap_cons, List.append_assoc, pieces_escapeChar, ih]
      rfl
  rw [string, hpieces, Option.map_some, text_pieceOf]

/-! ## Numbers -/

/-- A run of digits, at least one. -/
def digits (l : List Char) : Option (List Char × List Char) :=
  let ds := l.takeWhile (·.isDigit)
  if ds = [] then none else some (ds, l.drop ds.length)

def integerPart : List Char → Option (List Char × List Char)
  | '0' :: l => some (['0'], l)
  | l => digits l

def fraction : List Char → Option (List Char × List Char)
  | '.' :: l => (digits l).map fun p => ('.' :: p.1, p.2)
  | l => some ([], l)

def exponent : List Char → Option (List Char × List Char)
  | c :: l =>
    if c = 'e' ∨ c = 'E' then
      match l with
      | '+' :: l => (digits l).map fun p => (c :: '+' :: p.1, p.2)
      | '-' :: l => (digits l).map fun p => (c :: '-' :: p.1, p.2)
      | l => (digits l).map fun p => (c :: p.1, p.2)
    else some ([], c :: l)
  | [] => some ([], [])

def unsigned (l : List Char) : Option (List Char × List Char) :=
  (integerPart l).bind fun i =>
    (fraction i.2).bind fun f =>
      (exponent f.2).map fun e => (i.1 ++ f.1 ++ e.1, e.2)

def number : List Char → Option (List Char × List Char)
  | '-' :: l => (unsigned l).map fun p => ('-' :: p.1, p.2)
  | l => unsigned l

/-- An integer as it is written. -/
def intLiteral (n : Int) : List Char :=
  n.repr.toList

/-- `strconv.ParseInt` in base 10, without bounds. -/
def parseInt : List Char → Option Int
  | '-' :: ds =>
    if ds ≠ [] ∧ ds.all (·.isDigit) then some (-(Nat.ofDigitChars 10 ds 0 : Int)) else none
  | ds => if ds ≠ [] ∧ ds.all (·.isDigit) then some (Nat.ofDigitChars 10 ds 0 : Int) else none

/-- The text goes on with something that is not part of a number. -/
def EndsNumber (l : List Char) : Prop :=
  ∀ c ∈ l.head?, c.isDigit = false ∧ c ≠ '.' ∧ c ≠ 'e' ∧ c ≠ 'E'

theorem digits_append {ds l : List Char} (hne : ds ≠ []) (hds : ∀ c ∈ ds, c.isDigit = true)
    (hl : EndsNumber l) : digits (ds ++ l) = some (ds, l) := by
  have htake : (ds ++ l).takeWhile (·.isDigit) = ds := by
    rw [List.takeWhile_append_of_pos hds]
    cases l with
    | nil => simp
    | cons c l => simp [(hl c rfl).1]
  rw [digits, htake]
  simp [hne]

theorem isDigit_toDigits {n : Nat} {c : Char} (h : c ∈ Nat.toDigits 10 n) : c.isDigit = true :=
  Nat.isDigit_of_mem_toDigits (by decide) (by decide) h

/-- A number starts with a zero only if it is zero. -/
theorem toDigits_head {n : Nat} (hn : 0 < n) : (Nat.toDigits 10 n).head? ≠ some '0' := by
  induction n using Nat.strongRecOn with
  | ind n ih =>
    rw [Nat.toDigits_eq_if (by decide)]
    split_ifs with hlt
    · have hall : ∀ i : Fin 10, 0 < i.val → [i.val.digitChar].head? ≠ some '0' := by decide
      exact hall ⟨n, hlt⟩ hn
    · rw [List.head?_append_of_ne_nil _ Nat.toDigits_ne_nil]
      exact ih (n / 10) (by omega) (by omega)

theorem integerPart_toDigits (n : Nat) {l : List Char} (hl : EndsNumber l) :
    integerPart (Nat.toDigits 10 n ++ l) = some (Nat.toDigits 10 n, l) := by
  rcases Nat.eq_zero_or_pos n with rfl | hn
  · rfl
  · have hdigits : digits (Nat.toDigits 10 n ++ l) = some (Nat.toDigits 10 n, l) :=
      digits_append Nat.toDigits_ne_nil (fun _ => isDigit_toDigits) hl
    have hhead := toDigits_head hn
    cases hds : Nat.toDigits 10 n with
    | nil => exact absurd hds Nat.toDigits_ne_nil
    | cons c ds =>
      rw [hds] at hdigits hhead
      unfold integerPart
      split
      · rename_i heq
        cases heq
        exact absurd rfl hhead
      · exact hdigits

theorem unsigned_toDigits (n : Nat) {l : List Char} (hl : EndsNumber l) :
    unsigned (Nat.toDigits 10 n ++ l) = some (Nat.toDigits 10 n, l) := by
  have hfraction : fraction l = some ([], l) := by
    cases l with
    | nil => rfl
    | cons c l => 
      unfold fraction
      split
      · rename_i heq
        cases heq
        exact absurd rfl (hl '.' rfl).2.1
      · rfl
  have hexponent : exponent l = some ([], l) := by
    cases l with
    | nil => rfl
    | cons c l => 
      have hc := (hl c rfl).2.2
      simp [exponent, hc.1, hc.2]
  simp [unsigned, integerPart_toDigits n hl, hfraction, hexponent]

/-- An integer is written as its digits, behind a sign if it is negative. -/
theorem intLiteral_cases (n : Int) :
    (∃ m : Nat, n = m ∧ intLiteral n = Nat.toDigits 10 m) ∨
      ∃ m : Nat, n = -(m : Int) ∧ intLiteral n = '-' :: Nat.toDigits 10 m := by
  rw [intLiteral, Int.repr_eq_if]
  split_ifs with hn
  · exact Or.inl ⟨n.toNat, by omega, Nat.toList_repr⟩
  · refine Or.inr ⟨(-n).toNat, by omega, ?_⟩
    rw [String.toList_append, Nat.toList_repr]
    rfl

theorem digit_ne_minus {c : Char} (h : c.isDigit = true) : c ≠ '-' := by
  rintro rfl
  cases h

/-- The first character of a number is a digit. -/
theorem toDigits_cons (n : Nat) : ∃ c ds, Nat.toDigits 10 n = c :: ds ∧ c.isDigit = true := by
  cases hds : Nat.toDigits 10 n with
  | nil => exact absurd hds Nat.toDigits_ne_nil
  | cons c ds => exact ⟨c, ds, rfl, isDigit_toDigits (hds ▸ List.mem_cons_self)⟩

theorem number_intLiteral (n : Int) {l : List Char} (hl : EndsNumber l) :
    number (intLiteral n ++ l) = some (intLiteral n, l) := by
  rcases intLiteral_cases n with ⟨m, -, hm⟩ | ⟨m, -, hm⟩
  · have hunsigned := unsigned_toDigits m hl
    obtain ⟨c, ds, hds, hc⟩ := toDigits_cons m
    rw [hm]
    rw [hds] at hunsigned ⊢
    unfold number
    split
    · rename_i heq
      cases heq
      exact absurd rfl (digit_ne_minus hc)
    · exact hunsigned
  · rw [hm, List.cons_append, number, unsigned_toDigits m hl, Option.map_some]

theorem parseInt_intLiteral (n : Int) : parseInt (intLiteral n) = some n := by
  have hdigits : ∀ m : Nat, Nat.toDigits 10 m ≠ [] ∧ (Nat.toDigits 10 m).all (·.isDigit) = true :=
    fun m => ⟨Nat.toDigits_ne_nil, List.all_eq_true.mpr fun c => isDigit_toDigits⟩
  have hvalue : ∀ m : Nat, Nat.ofDigitChars 10 (Nat.toDigits 10 m) 0 = m :=
    fun m => Nat.ofDigitChars_toDigits (by decide) (by decide)
  rcases intLiteral_cases n with ⟨m, rfl, hm⟩ | ⟨m, rfl, hm⟩
  · obtain ⟨c, ds, hds, hc⟩ := toDigits_cons m
    rw [hm]
    unfold parseInt
    split
    · rename_i heq
      rw [hds] at heq
      cases heq
      exact absurd rfl (digit_ne_minus hc)
    · rw [if_pos (hdigits m), hvalue]
  · rw [hm, parseInt, if_pos (hdigits m), hvalue]

/-! ## Values -/

def skipSpace (l : List Char) : List Char :=
  l.dropWhile (· ∈ [' ', '\t', '\n', '\r'])

mutual

/-- The value at the start of a text, and what follows. The fuel bounds the nesting. -/
def value : Nat → List Char → Option (Value × List Char)
  | 0, _ => none
  | fuel + 1, l =>
    match skipSpace l with
    | '"' :: l => (string l).map fun p => (.string p.1, p.2)
    | '[' :: l =>
      match skipSpace l with
      | ']' :: l => some (.array [], l)
      | l => (items fuel l).map fun p => (.array p.1, p.2)
    | '{' :: l =>
      match skipSpace l with
      | '}' :: l => some (.object [], l)
      | l => (members fuel l).map fun p => (.object p.1, p.2)
    | 'n' :: 'u' :: 'l' :: 'l' :: l => some (.null, l)
    | 't' :: 'r' :: 'u' :: 'e' :: l => some (.bool true, l)
    | 'f' :: 'a' :: 'l' :: 's' :: 'e' :: l => some (.bool false, l)
    | l => (number l).map fun p => (.number p.1, p.2)

/-- The items of an array up to its closing bracket. -/
def items : Nat → List Char → Option (List Value × List Char)
  | 0, _ => none
  | fuel + 1, l =>
    (value fuel l).bind fun v =>
      match skipSpace v.2 with
      | ',' :: l => (items fuel l).map fun p => (v.1 :: p.1, p.2)
      | ']' :: l => some ([v.1], l)
      | _ => none

/-- The members of an object up to its closing brace. -/
def members : Nat → List Char → Option (List (List Char × Value) × List Char)
  | 0, _ => none
  | fuel + 1, l =>
    match skipSpace l with
    | '"' :: l =>
      (string l).bind fun key =>
        match skipSpace key.2 with
        | ':' :: l =>
          (value fuel l).bind fun v =>
            match skipSpace v.2 with
            | ',' :: l => (members fuel l).map fun p => ((key.1, v.1) :: p.1, p.2)
            | '}' :: l => some ([(key.1, v.1)], l)
            | _ => none
        | _ => none
    | _ => none

end

/-- The value of a text. -/
def parse (l : List Char) : Option Value :=
  (value l.length l).bind fun p => if skipSpace p.2 = [] then some p.1 else none

mutual

def render : Value → List Char
  | .null => ['n', 'u', 'l', 'l']
  | .bool true => ['t', 'r', 'u', 'e']
  | .bool false => ['f', 'a', 'l', 's', 'e']
  | .number literal => literal
  | .string s => quote s
  | .array vs => '[' :: renderItems vs ++ [']']
  | .object ms => '{' :: renderMembers ms ++ ['}']

def renderItems : List Value → List Char
  | [] => []
  | [v] => render v
  | v :: w :: vs => render v ++ ',' :: renderItems (w :: vs)

def renderMembers : List (List Char × Value) → List Char
  | [] => []
  | [(key, v)] => quote key ++ ':' :: render v
  | (key, v) :: m :: ms => quote key ++ ':' :: render v ++ ',' :: renderMembers (m :: ms)

end

/-! ## What is rendered parses to itself -/

mutual

/-- The numbers of a value are integers. -/
def Integral : Value → Prop
  | .number literal => ∃ n : Int, literal = intLiteral n
  | .array vs => IntegralItems vs
  | .object ms => IntegralMembers ms
  | _ => True

def IntegralItems : List Value → Prop
  | [] => True
  | v :: vs => Integral v ∧ IntegralItems vs

def IntegralMembers : List (List Char × Value) → Prop
  | [] => True
  | (_, v) :: ms => Integral v ∧ IntegralMembers ms

end

theorem skipSpace_cons {c : Char} {l : List Char} (h : c ∉ [' ', '\t', '\n', '\r']) :
    skipSpace (c :: l) = c :: l := by
  rw [skipSpace, List.dropWhile_cons, if_neg (by simpa using h)]

/-- A text that starts with a digit or a sign is a number. -/
theorem value_number {fuel : Nat} {c : Char} {l : List Char} (hc : c.isDigit = true ∨ c = '-') :
    value (fuel + 1) (c :: l) = (number (c :: l)).map fun p => (.number p.1, p.2) := by
  have hspace : c ∉ [' ', '\t', '\n', '\r'] := by
    intro h
    simp only [List.mem_cons, List.not_mem_nil, or_false] at h
    rcases h with rfl | rfl | rfl | rfl <;> exact absurd hc (by decide)
  rw [value, skipSpace_cons hspace]
  split
  on_goal 7 => rfl
  all_goals
    rename_i heq
    cases heq
    exact absurd hc (by decide)

section Dispatch

variable {fuel : Nat} {c : Char} {l l' : List Char} {v : Value} {key : List Char}

theorem value_string :
    value (fuel + 1) ('"' :: l) = (string l).map fun p => (.string p.1, p.2) := by
  rw [value]
  rfl

theorem value_array (hspace : c ∉ [' ', '\t', '\n', '\r']) (hc : c ≠ ']') :
    value (fuel + 1) ('[' :: c :: l) =
      (items fuel (c :: l)).map fun p => (.array p.1, p.2) := by
  have hopen : skipSpace ('[' :: c :: l) = '[' :: c :: l := skipSpace_cons (by decide)
  rw [value, hopen]
  change (match skipSpace (c :: l) with
    | ']' :: l => some (Value.array [], l)
    | l => (items fuel l).map fun p : List Value × List Char => (Value.array p.1, p.2)) = _
  rw [skipSpace_cons hspace]
  split
  · rename_i heq
    cases heq
    exact absurd rfl hc
  · rfl

theorem value_object : value (fuel + 1) ('{' :: '"' :: l) =
    (members fuel ('"' :: l)).map fun p => (.object p.1, p.2) := by
  rw [value]
  rfl

theorem items_comma (h : value fuel l = some (v, ',' :: l')) :
    items (fuel + 1) l = (items fuel l').map fun p => (v :: p.1, p.2) := by
  rw [items, h]
  rfl

theorem items_close (h : value fuel l = some (v, ']' :: l')) :
    items (fuel + 1) l = some ([v], l') := by
  rw [items, h]
  rfl

/-- A member is a quoted key, a colon and a value. -/
theorem members_key (l : List Char) : members (fuel + 1) (quote key ++ ':' :: l) =
    (value fuel l).bind fun v =>
      match skipSpace v.2 with
      | ',' :: l => (members fuel l).map fun p => ((key, v.1) :: p.1, p.2)
      | '}' :: l => some ([(key, v.1)], l)
      | _ => none := by
  have hquote : quote key ++ ':' :: l = '"' :: (key.flatMap escapeChar ++ '"' :: ':' :: l) := by
    simp [quote]
  rw [hquote, members]
  change (string (key.flatMap escapeChar ++ '"' :: ':' :: l)).bind _ = _
  rw [string_quote]
  rfl

theorem members_comma (h : value fuel l = some (v, ',' :: l')) :
    members (fuel + 1) (quote key ++ ':' :: l) =
      (members fuel l').map fun p => ((key, v) :: p.1, p.2) := by
  rw [members_key, h]
  rfl

theorem members_close (h : value fuel l = some (v, '}' :: l')) :
    members (fuel + 1) (quote key ++ ':' :: l) = some ([(key, v)], l') := by
  rw [members_key, h]
  rfl

end Dispatch

theorem endsNumber_of_mem {c : Char} {l : List Char} (h : c ∈ [',', ']', '}']) :
    EndsNumber (c :: l) := by
  intro d hd
  obtain rfl : c = d := Option.some.inj hd
  simp only [List.mem_cons, List.not_mem_nil, or_false] at h
  rcases h with rfl | rfl | rfl <;> decide

theorem intLiteral_cons (n : Int) :
    ∃ c l, intLiteral n = c :: l ∧ (c.isDigit = true ∨ c = '-') := by
  rcases intLiteral_cases n with ⟨m, -, hm⟩ | ⟨m, -, hm⟩
  · obtain ⟨c, ds, hds, hc⟩ := toDigits_cons m
    exact ⟨c, ds, hm.trans hds, Or.inl hc⟩
  · exact ⟨'-', _, hm, Or.inr rfl⟩

/-- A rendered value does not start with space, nor with what closes an array. -/
theorem render_cons {v : Value} (hv : Integral v) :
    ∃ c l, render v = c :: l ∧ c ∉ [' ', '\t', '\n', '\r'] ∧ c ≠ ']' := by
  cases v with
  | null => exact ⟨_, _, rfl, by decide, by decide⟩
  | bool b => cases b <;> exact ⟨_, _, rfl, by decide, by decide⟩
  | number literal =>
    obtain ⟨n, rfl⟩ := hv
    obtain ⟨c, l, hcl, hc⟩ := intLiteral_cons n
    refine ⟨c, l, hcl, ?_, ?_⟩
    · intro h
      simp only [List.mem_cons, List.not_mem_nil, or_false] at h
      rcases h with rfl | rfl | rfl | rfl <;> exact absurd hc (by decide)
    · rintro rfl
      exact absurd hc (by decide)
  | string s => exact ⟨_, _, rfl, by decide, by decide⟩
  | array vs => exact ⟨_, _, rfl, by decide, by decide⟩
  | object ms => exact ⟨_, _, rfl, by decide, by decide⟩

theorem renderItems_cons {v : Value} (vs : List Value) (hv : Integral v) :
    ∃ c l, renderItems (v :: vs) = c :: l ∧ c ∉ [' ', '\t', '\n', '\r'] ∧ c ≠ ']' := by
  obtain ⟨c, l, hcl, hc⟩ := render_cons hv
  cases vs with
  | nil => exact ⟨c, l, by rw [renderItems, hcl], hc⟩
  | cons w vs => exact ⟨c, _, by rw [renderItems, hcl, List.cons_append], hc⟩

theorem renderMembers_cons (key : List Char) (v : Value) (ms : List (List Char × Value)) :
    ∃ l, renderMembers ((key, v) :: ms) = '"' :: l := by
  cases ms with
  | nil =>
    rw [renderMembers]
    exact ⟨_, rfl⟩
  | cons m ms =>
    rw [renderMembers]
    exact ⟨_, rfl⟩

mutual

theorem value_render : ∀ (v : Value) {fuel : Nat} {l : List Char}, Integral v → EndsNumber l →
    (render v).length ≤ fuel → value fuel (render v ++ l) = some (v, l)
  | v, 0, l, hv, _, hfuel => by
    obtain ⟨c, l', hcl, -⟩ := render_cons hv
    rw [hcl] at hfuel
    cases hfuel
  | .null, fuel + 1, l, _, _, _ => rfl
  | .bool true, fuel + 1, l, _, _, _ => rfl
  | .bool false, fuel + 1, l, _, _, _ => rfl
  | .number _, fuel + 1, l, ⟨n, rfl⟩, hl, _ => by
    have hnumber := number_intLiteral n hl
    obtain ⟨c, ds, hds, hc⟩ := intLiteral_cons n
    rw [render]
    rw [hds, List.cons_append] at hnumber ⊢
    rw [value_number hc, hnumber, Option.map_some]
  | .string s, fuel + 1, l, _, _, _ => by
    have hquote : render (.string s) ++ l = '"' :: (s.flatMap escapeChar ++ '"' :: l) := by
      simp [render, quote]
    rw [hquote, value_string, string_quote]
    rfl
  | .array [], fuel + 1, l, _, _, _ => rfl
  | .array (v :: vs), fuel + 1, l, hv, hl, hfuel => by
    rw [render, List.length_append, List.length_cons, List.length_singleton] at hfuel
    have hitems : items fuel (renderItems (v :: vs) ++ ']' :: l) = some (v :: vs, l) :=
      items_render v vs hv (by omega)
    obtain ⟨c, l', hcl, hspace, hc⟩ := renderItems_cons vs hv.1
    rw [render, List.append_assoc, List.cons_append]
    rw [hcl] at hitems ⊢
    exact (value_array hspace hc).trans (congrArg _ hitems)
  | .object [], fuel + 1, l, _, _, _ => rfl
  | .object ((key, v) :: ms), fuel + 1, l, hv, hl, hfuel => by
    rw [render, List.length_append, List.length_cons, List.length_singleton] at hfuel
    have hmembers : members fuel (renderMembers ((key, v) :: ms) ++ '}' :: l) =
        some ((key, v) :: ms, l) := members_render (key, v) ms hv (by omega)
    obtain ⟨l', hl'⟩ := renderMembers_cons key v ms
    rw [render, List.append_assoc, List.cons_append]
    rw [hl'] at hmembers ⊢
    exact value_object.trans (congrArg _ hmembers)

theorem items_render : ∀ (v : Value) (vs : List Value) {fuel : Nat} {l : List Char},
    IntegralItems (v :: vs) → (renderItems (v :: vs)).length < fuel →
      items fuel (renderItems (v :: vs) ++ ']' :: l) = some (v :: vs, l)
  | v, [], fuel + 1, l, hvs, hfuel => by
    rw [renderItems]
    rw [renderItems] at hfuel
    exact items_close (value_render v hvs.1 (endsNumber_of_mem (by simp)) (Nat.le_of_lt_succ hfuel))
  | v, w :: vs, fuel + 1, l, hvs, hfuel => by
    rw [renderItems, List.append_assoc, List.cons_append]
    rw [renderItems, List.length_append, List.length_cons] at hfuel
    have hrest := items_render w vs (l := l) hvs.2 (show _ < fuel by omega)
    rw [items_comma (value_render v hvs.1 (endsNumber_of_mem (by simp)) (by omega)), hrest]
    rfl

theorem members_render : ∀ (m : List Char × Value) (ms : List (List Char × Value)) {fuel : Nat}
    {l : List Char}, IntegralMembers (m :: ms) → (renderMembers (m :: ms)).length < fuel →
      members fuel (renderMembers (m :: ms) ++ '}' :: l) = some (m :: ms, l)
  | (key, v), [], fuel + 1, l, hms, hfuel => by
    rw [renderMembers, List.append_assoc, List.cons_append]
    rw [renderMembers, List.length_append, List.length_cons] at hfuel
    exact members_close (value_render v hms.1 (endsNumber_of_mem (by simp)) (by omega))
  | (key, v), m :: ms, fuel + 1, l, hms, hfuel => by
    rw [renderMembers]
    rw [renderMembers] at hfuel
    simp only [List.append_assoc, List.cons_append, List.length_append, List.length_cons] at hfuel ⊢
    have hrest := members_render m ms (l := l) hms.2 (show _ < fuel by omega)
    rw [members_comma (value_render v hms.1 (endsNumber_of_mem (by simp)) (by omega)), hrest]
    rfl

end

/-- What is rendered parses to itself. -/
theorem parse_render {v : Value} (hv : Integral v) : parse (render v) = some v := by
  have hvalue : value (render v).length (render v ++ []) = some (v, []) :=
    value_render v hv nofun (Nat.le_refl _)
  rw [List.append_nil] at hvalue
  rw [parse, hvalue]
  rfl

end Json
