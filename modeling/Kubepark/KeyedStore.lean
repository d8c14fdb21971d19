import Mathlib.Data.List.Nodup
import Mathlib.Data.List.Perm.Basic

/-!
# Finite collections of objects with a key of their own

A `KeyedStore V` is a finite list of objects no two of which have the same key, where
the key is a function of the object (`Keyed`). So an object cannot be filed under a
foreign key, and a lookup (`find?`) and a listing (`objs`) see the same objects
(`mem_objs_iff`). The order of the listing carries no meaning : `put` moves the object
it writes to the front.
-/

/-- Objects that carry their own key. -/
class Keyed (V : Type) (K : outParam Type) where
  /-- The key of an object. -/
  key : V → K

/-- A finite collection of objects with pairwise distinct keys. -/
structure KeyedStore (V : Type) {K : Type} [Keyed V K] where
  /-- The objects, in no particular order. -/
  objs : List V
  nodup : (objs.map Keyed.key).Nodup

set_option linter.unusedSectionVars false

namespace KeyedStore

variable {V K : Type} [Keyed V K] [DecidableEq K]

/-- The object with key `k`. -/
def find? (s : KeyedStore V) (k : K) : Option V :=
  s.objs.find? fun v => Keyed.key v = k

/-- Remove the object with key `k`. -/
def erase (s : KeyedStore V) (k : K) : KeyedStore V where
  objs := s.objs.filter fun v => Keyed.key v ≠ k
  nodup := s.nodup.sublist (List.filter_sublist.map _)

/-- Write `v` under its key, replacing what was there. -/
def put (s : KeyedStore V) (v : V) : KeyedStore V where
  objs := v :: (s.erase (Keyed.key v)).objs
  nodup := by
    rw [List.map_cons, List.nodup_cons]
    refine ⟨?_, (s.erase _).nodup⟩
    intro h
    obtain ⟨w, hw, hk⟩ := List.mem_map.mp h
    simp [erase, hk] at hw

/-- The empty store. -/
def empty : KeyedStore V :=
  ⟨[], List.nodup_nil⟩

/-- The store of the objects of `l`, a later object replacing an earlier one. -/
def ofList (l : List V) : KeyedStore V :=
  l.foldl put empty

theorem key_of_find? {s : KeyedStore V} {k : K} {v : V} (h : s.find? k = some v) :
    Keyed.key v = k := by
  simpa using List.find?_some h

theorem mem_of_find? {s : KeyedStore V} {k : K} {v : V} (h : s.find? k = some v) :
    v ∈ s.objs :=
  List.mem_of_find?_eq_some h

theorem find?_of_mem {s : KeyedStore V} {v : V} (h : v ∈ s.objs) :
    s.find? (Keyed.key v) = some v := by
  cases hf : s.find? (Keyed.key v) with
  | none =>
    have := List.find?_eq_none.mp hf v h
    simp at this
  | some w =>
    have hw := key_of_find? hf
    rw [List.inj_on_of_nodup_map s.nodup (mem_of_find? hf) h hw]

/-- A listing and a lookup agree. -/
theorem mem_objs_iff {s : KeyedStore V} {v : V} :
    v ∈ s.objs ↔ s.find? (Keyed.key v) = some v :=
  ⟨find?_of_mem, mem_of_find?⟩

theorem find?_eq_none_iff {s : KeyedStore V} {k : K} :
    s.find? k = none ↔ ∀ v ∈ s.objs, Keyed.key v ≠ k := by
  simp [find?, List.find?_eq_none]

@[simp] theorem mem_objs_erase {s : KeyedStore V} {k : K} {v : V} :
    v ∈ (s.erase k).objs ↔ v ∈ s.objs ∧ Keyed.key v ≠ k := by
  simp [erase]

@[simp] theorem mem_objs_put {s : KeyedStore V} {v w : V} :
    w ∈ (s.put v).objs ↔ w = v ∨ w ∈ s.objs ∧ Keyed.key w ≠ Keyed.key v := by
  simp [put]

theorem mem_of_mem_ofList {l : List V} {v : V} (h : v ∈ (ofList l).objs) : v ∈ l := by
  suffices hfold : ∀ (l : List V) (s : KeyedStore V), v ∈ (l.foldl put s).objs → v ∈ s.objs ∨ v ∈ l by
    rcases hfold l empty h with h | h
    · cases h
    · exact h
  intro l
  induction l with
  | nil => exact fun s h => Or.inl h
  | cons w l ih =>
    intro s h
    rcases ih (s.put w) h with h | h
    · rcases mem_objs_put.mp h with rfl | ⟨h, -⟩
      · exact Or.inr (by simp)
      · exact Or.inl h
    · exact Or.inr (List.mem_cons_of_mem _ h)

@[simp] theorem find?_empty (k : K) : (empty : KeyedStore V).find? k = none :=
  rfl

@[simp] theorem find?_erase_self (s : KeyedStore V) (k : K) : (s.erase k).find? k = none :=
  find?_eq_none_iff.mpr fun _ hv => (mem_objs_erase.mp hv).2

theorem find?_erase_ne (s : KeyedStore V) {k k' : K} (h : k' ≠ k) :
    (s.erase k).find? k' = s.find? k' := by
  unfold find? erase
  rw [List.find?_filter]
  congr 1
  funext v
  by_cases hv : Keyed.key v = k'
  · simp [hv, h]
  · simp [hv]

@[simp] theorem find?_put_self (s : KeyedStore V) (v : V) :
    (s.put v).find? (Keyed.key v) = some v := by
  simp [find?, put]

theorem find?_put_of_key (s : KeyedStore V) {v : V} {k : K} (h : Keyed.key v = k) :
    (s.put v).find? k = some v := by
  rw [← h, find?_put_self]

theorem find?_put_ne (s : KeyedStore V) {v : V} {k : K} (h : k ≠ Keyed.key v) :
    (s.put v).find? k = s.find? k := by
  rw [← find?_erase_ne s h]
  simp [find?, put, h.symm]

/-- A search through the listing that picks neither the object written nor the one it
replaces finds the same object after the write. -/
theorem find?_objs_put (s : KeyedStore V) {v : V} {p : V → Bool} (hv : p v = false)
    (hold : ∀ w ∈ s.objs, Keyed.key w = Keyed.key v → p w = false) :
    (s.put v).objs.find? p = s.objs.find? p := by
  simp only [put, erase, List.find?_cons, hv]
  generalize s.objs = l at hold
  induction l with
  | nil => rfl
  | cons w l ih =>
    obtain ⟨hw, hl⟩ := List.forall_mem_cons.mp hold
    by_cases hk : Keyed.key w = Keyed.key v
    · rw [List.filter_cons_of_neg (by simpa using hk), List.find?_cons_of_neg (by simp [hw hk]), ih hl]
    · simp only [ne_eq, hk, not_false_eq_true, decide_true, List.filter_cons_of_pos,
        List.find?_cons, ih hl]

end KeyedStore
