import Kubepark.Encoding
import Mathlib.Algebra.Group.Nat.Defs

/-!
# IP addresses and address blocks

Addresses of both families from their texts, and blocks of addresses in CIDR notation : a block
holds the addresses of its own family that agree with it on the first bits. A block of 32 bits is
a single IPv4 address (`CIDR.contains_v4_iff`), and of the IPv6 addresses it holds all those with
the same first 32 bits (`CIDR.contains_v6_iff`).
-/

open Text

/-- An address of one of the two families. -/
inductive IPAddr
  | v4 (bits : BitVec 32)
  | v6 (bits : BitVec 128)
  deriving DecidableEq, Repr

namespace IPAddr

/-! ## Texts -/

/-- What stands between the separators. -/
def fields (sep : Char) : List Char → List (List Char)
  | [] => [[]]
  | c :: l =>
    if c = sep then [] :: fields sep l
    else
      match fields sep l with
      | [] => [[c]]
      | f :: fs => (c :: f) :: fs

/-- The value of a digit, up to base sixteen. -/
def digit? (c : Char) : Option Nat :=
  if '0' ≤ c ∧ c ≤ '9' then some (c.toNat - '0'.toNat)
  else if 'a' ≤ c ∧ c ≤ 'f' then some (c.toNat - 'a'.toNat + 10)
  else if 'A' ≤ c ∧ c ≤ 'F' then some (c.toNat - 'A'.toNat + 10)
  else none

/-- The number written with these digits after the digits of `acc`. -/
def number? (base acc : Nat) : List Char → Option Nat
  | [] => some acc
  | c :: l =>
    match digit? c with
    | some d => if d < base then number? base (acc * base + d) l else none
    | none => none

/-- One of the four numbers of an IPv4 address, without leading zeros. -/
def octet? (f : List Char) : Option Nat :=
  if f ≠ [] ∧ f.length ≤ 3 ∧ (f.length = 1 ∨ f.head? ≠ some '0') then
    (number? 10 0 f).filter (· < 256)
  else none

/-- The bits of an IPv4 address. -/
def v4? (l : List Char) : Option Nat :=
  match fields '.' l with
  | [a, b, c, d] => do
    let a ← octet? a
    let b ← octet? b
    let c ← octet? c
    let d ← octet? d
    pure (((a * 256 + b) * 256 + c) * 256 + d)
  | _ => none

/-- One of the groups of an IPv6 address. -/
def group? (f : List Char) : Option Nat :=
  if f ≠ [] ∧ f.length ≤ 4 then number? 16 0 f else none

/-- The groups of a part of an IPv6 address. At the end of the address an IPv4 address may stand
for two groups. -/
def groups? (atEnd : Bool) : List (List Char) → Option (List Nat)
  | [] => some []
  | [f] =>
    match v4? f with
    | some n => if atEnd then some [n / 65536, n % 65536] else none
    | none => (group? f).map fun x => [x]
  | f :: g :: fs => do
    let x ← group? f
    let xs ← groups? atEnd (g :: fs)
    pure (x :: xs)

/-- The groups of a part of an IPv6 address that may be empty. -/
def part? (atEnd : Bool) (l : List Char) : Option (List Nat) :=
  if l = [] then some [] else groups? atEnd (fields ':' l)

/-- The bits of the groups. -/
def join (xs : List Nat) : Nat :=
  xs.foldl (fun acc x => acc * 65536 + x) 0

/-- The bits of an IPv6 address : eight groups, or fewer with one `::` for at least one group of
zeros. -/
def v6? (l : List Char) : Option Nat :=
  match cutList [':', ':'] l with
  | none => do
    let xs ← groups? true (fields ':' l)
    if xs.length = 8 then some (join xs) else none
  | some (before, after) => do
    let xs ← part? false before
    let ys ← part? true after
    if xs.length + ys.length ≤ 7 then
      some (join (xs ++ List.replicate (8 - (xs.length + ys.length)) 0 ++ ys))
    else none

/-- The address with a text. -/
def parse (s : String) : Option IPAddr :=
  match v4? s.toList with
  | some n => some (.v4 (BitVec.ofNat 32 n))
  | none => (v6? s.toList).map fun n => .v6 (BitVec.ofNat 128 n)

example : parse "10.0.0.1" = some (.v4 0x0a000001) := by decide +kernel

example : parse "2001:db8::1" = some (.v6 0x20010db8000000000000000000000001) := by decide +kernel

section Texts

variable {x sep : Char}

theorem mem_fields (hx : x ≠ sep) : ∀ {l : List Char}, x ∈ l → ∃ f ∈ fields sep l, x ∈ f
  | c :: l, h => by
    rcases List.mem_cons.mp h with rfl | h
    · rw [fields, if_neg hx]
      cases fields sep l with
      | nil => exact ⟨[x], by simp, by simp⟩
      | cons f fs => exact ⟨x :: f, by simp, by simp⟩
    · obtain ⟨f, hf, hmem⟩ := mem_fields hx h
      by_cases hc : c = sep
      · rw [fields, if_pos hc]
        exact ⟨f, List.mem_cons_of_mem _ hf, hmem⟩
      · rw [fields, if_neg hc]
        cases hfields : fields sep l with
        | nil =>
          rw [hfields] at hf
          cases hf
        | cons g gs =>
          rw [hfields] at hf
          rcases List.mem_cons.mp hf with rfl | hf
          · exact ⟨c :: f, by simp, by simp [hmem]⟩
          · exact ⟨f, by simp [hf], hmem⟩

theorem digit?_slash : digit? '/' = none := by decide

theorem number?_of_slash {base : Nat} : ∀ {l : List Char} {acc : Nat}, '/' ∈ l →
    number? base acc l = none
  | c :: l, acc, h => by
    rcases List.mem_cons.mp h with rfl | h
    · simp [number?, digit?_slash]
    · rw [number?]
      cases digit? c with
      | none => rfl
      | some d =>
        by_cases hd : d < base
        · simpa [hd] using number?_of_slash h
        · simp [hd]

theorem octet?_of_slash {f : List Char} (h : '/' ∈ f) : octet? f = none := by
  unfold octet?
  rw [number?_of_slash h]
  simp

theorem group?_of_slash {f : List Char} (h : '/' ∈ f) : group? f = none := by
  unfold group?
  rw [number?_of_slash h]
  simp

theorem v4?_of_slash {l : List Char} (h : '/' ∈ l) : v4? l = none := by
  obtain ⟨f, hf, hmem⟩ := mem_fields (show '/' ≠ '.' by decide) h
  unfold v4?
  split
  · rename_i a b c d hfields
    rw [hfields] at hf
    have hnone := octet?_of_slash hmem
    simp only [List.mem_cons, List.not_mem_nil, or_false] at hf
    rcases hf with rfl | rfl | rfl | rfl <;> simp [hnone]
  · rfl

theorem groups?_of_slash {atEnd : Bool} {f : List Char} (hmem : '/' ∈ f) :
    ∀ {fs : List (List Char)}, f ∈ fs → groups? atEnd fs = none
  | [g], h => by
    obtain rfl := List.mem_singleton.mp h
    simp [groups?, v4?_of_slash hmem, group?_of_slash hmem]
  | g :: g' :: gs, h => by
    rw [groups?]
    rcases List.mem_cons.mp h with rfl | h
    · simp [group?_of_slash hmem]
    · have hrest : groups? atEnd (g' :: gs) = none := groups?_of_slash hmem h
      simp [hrest]

theorem part?_of_slash {atEnd : Bool} {l : List Char} (h : '/' ∈ l) : part? atEnd l = none := by
  obtain ⟨f, hf, hmem⟩ := mem_fields (show '/' ≠ ':' by decide) h
  rw [part?, if_neg (List.ne_nil_of_mem h)]
  exact groups?_of_slash hmem hf

theorem v6?_of_slash {l : List Char} (h : '/' ∈ l) : v6? l = none := by
  unfold v6?
  cases hcut : cutList [':', ':'] l with
  | none =>
    obtain ⟨f, hf, hmem⟩ := mem_fields (show '/' ≠ ':' by decide) h
    simp [groups?_of_slash hmem hf]
  | some p =>
    obtain ⟨before, after⟩ := p
    rw [eq_of_cutList hcut] at h
    simp only [List.mem_append, List.mem_cons, List.not_mem_nil, or_false] at h
    rcases h with (h | h) | h
    · simp [part?_of_slash h]
    · simp at h
    · simp [part?_of_slash h]

/-- There is no slash in the text of an address. -/
theorem slash_not_mem {s : String} {a : IPAddr} (h : parse s = some a) : '/' ∉ s.toList := by
  intro hslash
  rw [parse, v4?_of_slash hslash, v6?_of_slash hslash] at h
  cases h

end Texts

/-- How many bits the addresses of a family have. -/
def width : IPAddr → Nat
  | .v4 _ => 32
  | .v6 _ => 128

end IPAddr

/-! ## Blocks -/

/-- The addresses that agree with `addr` on the first `bits` bits. -/
structure CIDR where
  addr : IPAddr
  bits : Nat
  deriving DecidableEq, Repr

namespace CIDR

/-- The number of bits after the slash. -/
def bits? (s : String) : Option Nat :=
  if s = "" then none else IPAddr.number? 10 0 s.toList

/-- The block with a text. -/
def parse (s : String) : Option CIDR :=
  match cut s "/" with
  | some (addr, bits) =>
    match IPAddr.parse addr, bits? bits with
    | some a, some n => if n ≤ a.width then some ⟨a, n⟩ else none
    | _, _ => none
  | none => none

/-- Whether the block holds the address. -/
def contains (b : CIDR) : IPAddr → Bool
  | .v4 y =>
    match b.addr with
    | .v4 x => x.toNat / 2 ^ (32 - b.bits) = y.toNat / 2 ^ (32 - b.bits)
    | .v6 _ => false
  | .v6 y =>
    match b.addr with
    | .v4 _ => false
    | .v6 x => x.toNat / 2 ^ (128 - b.bits) = y.toNat / 2 ^ (128 - b.bits)

variable {s : String} {a : IPAddr} {x : IPAddr}

theorem parse_bits32 (h : IPAddr.parse s = some a) : parse (s ++ "/32") = some ⟨a, 32⟩ := by
  have hcut : cut (s ++ "/32") "/" = some (s, "32") := by
    have hslash : cut (s ++ "/" ++ "32") "/" = some (s, "32") := cut_append (IPAddr.slash_not_mem h)
    rwa [String.append_assoc] at hslash
  have hwidth : 32 ≤ a.width := by cases a <;> simp [IPAddr.width]
  have hbits : bits? "32" = some 32 := by decide
  simp only [parse, hcut, h, hbits, hwidth, ↓reduceIte]

/-- A block of 32 bits is a single IPv4 address. -/
theorem contains_v4_iff {bits : BitVec 32} :
    contains ⟨.v4 bits, 32⟩ x = true ↔ x = .v4 bits := by
  cases x with
  | v4 y =>
    simp only [contains, Nat.sub_self, Nat.pow_zero, Nat.div_one, decide_eq_true_eq,
      BitVec.toNat_inj, IPAddr.v4.injEq]
    exact eq_comm
  | v6 y => simp [contains]

/-- Of the IPv6 addresses a block of 32 bits holds those with the same first 32 bits. -/
theorem contains_v6_iff {bits : BitVec 128} :
    contains ⟨.v6 bits, 32⟩ x = true ↔ ∃ y, x = .v6 y ∧ y.toNat / 2 ^ 96 = bits.toNat / 2 ^ 96 := by
  cases x with
  | v4 y => simp [contains]
  | v6 y =>
    simp only [contains, decide_eq_true_eq, IPAddr.v6.injEq]
    constructor
    · exact fun h => ⟨y, rfl, h.symm⟩
    · rintro ⟨_, rfl, h⟩
      exact h.symm

end CIDR
