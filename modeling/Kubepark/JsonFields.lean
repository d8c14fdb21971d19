import Kubepark.Json

/-!
# Records of strings as JSON

`encoding/json` at a struct whose fields are strings. A record is written as an object of strings
(`ofStrings`) and read field by field (`stringField`) : the member of a field is found by its name
in either case, the last one counts, a `null` changes nothing, and anything but a string is an
error. `decodeFirst` is one `Decode` of a `Decoder` : it reads the first value of a stream, and
what follows it stays in the stream.

A record that is written comes back field by field (`stringField_ofStrings`), and it is the first
value of its text (`decodeFirst_render`).
-/

namespace Json

/-! ## The names of fields -/

/-- `foldRune`, as far as it tells the letters of ASCII apart from others. The long s and the
Kelvin sign are the two other characters that fold to one of them. -/
def foldChar (c : Char) : Char :=
  if c = '\u017f' then 's' else if c = '\u212a' then 'k' else c.toLower

def foldName (name : List Char) : List Char :=
  name.map foldChar

/-! ## Fields -/

/-- A value is put in a string field that holds `old`. -/
def setString (old : String) : Value → Option String
  | .string s => some (String.ofList s)
  | .null => some old
  | _ => none

/-- The field `name` after a member of the object. -/
def setMember (name : String) (old : String) (m : List Char × Value) : Option String :=
  if foldName m.1 = foldName name.toList then setString old m.2 else some old

/-- The string field `name` of a record that is read from a value. -/
def stringField (name : String) : Value → Option String
  | .object ms => ms.foldlM (setMember name) ""
  | .null => some ""
  | _ => none

/-- An object of strings. -/
def ofStrings (fields : List (String × String)) : Value :=
  .object (fields.map fun f => (f.1.toList, .string f.2.toList))

section Fields

variable {fields : List (String × String)} {name s old : String}

theorem integralMembers_strings (fields : List (String × String)) :
    IntegralMembers (fields.map fun f => (f.1.toList, .string f.2.toList)) := by
  induction fields with
  | nil => trivial
  | cons f fields ih => exact ⟨trivial, ih⟩

theorem integral_ofStrings (fields : List (String × String)) : Integral (ofStrings fields) :=
  integralMembers_strings fields

/-- Members of other names leave a field as it is. -/
theorem foldlM_setMember_other
    (h : foldName name.toList ∉ fields.map fun f => foldName f.1.toList) :
    (fields.map fun f => (f.1.toList, Value.string f.2.toList)).foldlM (setMember name) old =
      some old := by
  induction fields with
  | nil => rfl
  | cons f fields ih =>
    rw [List.map_cons, List.mem_cons, not_or] at h
    rw [List.map_cons, List.foldlM_cons, setMember, if_neg (Ne.symm h.1), Option.bind_eq_bind,
      Option.bind_some, ih h.2]

theorem foldlM_setMember_self (hnodup : (fields.map fun f => foldName f.1.toList).Nodup)
    (hmem : (name, s) ∈ fields) :
    (fields.map fun f => (f.1.toList, Value.string f.2.toList)).foldlM (setMember name) old =
      some s := by
  induction fields generalizing old with
  | nil => cases hmem
  | cons f fields ih =>
    rw [List.map_cons, List.nodup_cons] at hnodup
    rw [List.map_cons, List.foldlM_cons, setMember]
    rcases List.mem_cons.mp hmem with rfl | hmem
    · rw [if_pos rfl, setString, String.ofList_toList, Option.bind_eq_bind, Option.bind_some,
        foldlM_setMember_other hnodup.1]
    · have hne : foldName f.1.toList ≠ foldName name.toList := by
        intro heq
        exact hnodup.1 (heq ▸ List.mem_map_of_mem (f := fun f => foldName f.1.toList) hmem)
      rw [if_neg hne, Option.bind_eq_bind, Option.bind_some, ih hnodup.2 hmem]

/-- A field that is written comes back, if no two names are the same in another case. -/
theorem stringField_ofStrings (hnodup : (fields.map fun f => foldName f.1.toList).Nodup)
    (hmem : (name, s) ∈ fields) : stringField name (ofStrings fields) = some s :=
  foldlM_setMember_self hnodup hmem

/-- A field that is not written is empty. -/
theorem stringField_ofStrings_other
    (h : foldName name.toList ∉ fields.map fun f => foldName f.1.toList) :
    stringField name (ofStrings fields) = some "" :=
  foldlM_setMember_other h

end Fields

/-! ## Streams -/

/-- The first value of a stream. -/
def decodeFirst (bytes : List UInt8) : Option Value :=
  (value (Utf8.decode bytes).length (Utf8.decode bytes)).map (·.1)

/-- A value that is written is the first one of the stream. -/
theorem decodeFirst_render {v : Value} {l : List Char} (hv : Integral v) (hl : EndsNumber l) :
    decodeFirst (Utf8.encode (render v ++ l)) = some v := by
  have hfuel : (render v).length ≤ (render v ++ l).length := by
    rw [List.length_append]
    omega
  rw [decodeFirst, Utf8.decode_encode, value_render v hv hl hfuel, Option.map_some]

theorem endsNumber_nil : EndsNumber [] :=
  nofun

theorem endsNumber_newline : EndsNumber ['\n'] := by
  intro c hc
  obtain rfl := Option.some.inj hc
  decide

end Json
