import Kubepark.ResourceVersions

/-!
# What one call changes

A call to the server changes one object at most, the one it is about. `Touched k key c c'` says
that the object of kind `k` under `key` is another in `c'` than in `c` and that everything else is
as it was, listings included : a listing that selects neither the object as it was nor as it is now
gives the same objects in the same order. A call touches its target or leaves every object alone
(`Step.touches`).

Those who watch a kind are told of exactly these changes.
-/

set_option linter.unusedSectionVars false

namespace KeyedStore

variable {V K : Type} [Keyed V K] [DecidableEq K] {s : KeyedStore V} {p : V → Bool}

theorem filter_objs_erase {k : K} (hold : ∀ v, s.find? k = some v → p v = false) :
    (s.erase k).objs.filter p = s.objs.filter p := by
  simp only [erase, List.filter_filter]
  refine List.filter_congr fun v hv => ?_
  by_cases hk : Keyed.key v = k
  · simp [hold v (hk ▸ find?_of_mem hv)]
  · simp [hk]

theorem filter_objs_put {v : V} (hv : p v = false)
    (hold : ∀ w, s.find? (Keyed.key v) = some w → p w = false) :
    (s.put v).objs.filter p = s.objs.filter p := by
  simp only [put, List.filter_cons, hv]
  exact filter_objs_erase hold

theorem erase_of_none {k : K} (h : s.find? k = none) : s.erase k = s := by
  have hobjs : (s.erase k).objs = s.objs :=
    List.filter_eq_self.mpr fun v hv => by simpa using find?_eq_none_iff.mp h v hv
  cases s
  simp_all [erase]

end KeyedStore

namespace ApiServer

variable {Kind : Type} [DecidableEq Kind] {Spec Status : Kind → Type} [KindInfo Kind]
  [∀ k, DecidableEq (Spec k)] [∀ k, Inhabited (Status k)]

/-- The object of kind `k` under `key` has changed from `c` to `c'`, and nothing else has. -/
structure Touched (k : Kind) (key : ObjectKey) (c c' : ApiServer Spec Status) : Prop where
  outside : SameOutside [k] c c'
  others : ∀ key', key' ≠ key → c'.find? k key' = c.find? k key'
  changed : c'.find? k key ≠ c.find? k key
  listing : ∀ p : Object Spec Status k → Bool, (∀ o, c.find? k key = some o → p o = false) →
    (∀ o, c'.find? k key = some o → p o = false) → (c'.objs k).filter p = (c.objs k).filter p

section Touched

variable {c c' : ApiServer Spec Status} {k : Kind} {key : ObjectKey}

/-- Where two states differ, the change is. -/
theorem Touched.at_of_ne (h : Touched k key c c') {k' : Kind} {key' : ObjectKey}
    (hne : c'.find? k' key' ≠ c.find? k' key') : (k', key') = (k, key) := by
  by_cases hk : k' = k
  · subst hk
    by_contra hkey
    exact hne (h.others key' fun he => hkey (by rw [he]))
  · exact absurd (h.outside.find? (by simpa using hk) key') hne

theorem touched_write (hc : c.Versioned) (o : Object Spec Status k) :
    Touched k o.key c (c.write k o) where
  outside := .write (List.mem_singleton_self k) o
  others key' hne := find?_write_ne c k o fun he => hne (Prod.mk.inj he).2
  changed := by
    rw [find?_write_self]
    intro he
    exact absurd (hc k o.key _ he.symm) (Nat.not_succ_le_self _)
  listing p hold hnew := by
    simp only [find?_write_self, Option.some.injEq, forall_eq'] at hnew
    simp only [objs, write, Function.update_self]
    exact KeyedStore.filter_objs_put hnew hold

theorem touched_remove {o : Object Spec Status k} (ho : c.find? k key = some o) :
    Touched k key c (c.remove k key) where
  outside := ⟨rfl, fun k' hk' => store_remove_ne c key (by simpa using hk')⟩
  others key' hne := find?_remove_ne c k key fun he => hne (Prod.mk.inj he).2
  changed := by
    rw [find?_remove_self, ho]
    exact (Option.some_ne_none o).symm
  listing p hold _ := by
    simp only [objs, remove, Function.update_self]
    exact KeyedStore.filter_objs_erase hold

theorem remove_of_none (h : c.find? k key = none) : SameOutside [] c (c.remove k key) := by
  refine ⟨rfl, fun k' _ => ?_⟩
  by_cases hk : k' = k
  · subst hk
    simp only [remove, Function.update_self]
    exact KeyedStore.erase_of_none h
  · exact store_remove_ne c key hk

/-- What a call makes of the state : nothing, a write of its target, or its removal. -/
theorem handle_target (op : Op Spec Status) (c : ApiServer Spec Status) :
    SameOutside [] c (handle op c).2 ∨
      (∃ k o, op.target = some (k, o.key) ∧ (handle op c).2 = c.write k o) ∨
      ∃ k key o, op.target = some (k, key) ∧ c.find? k key = some o ∧
        (handle op c).2 = c.remove k key := by
  have hsame : SameOutside [] c c := .refl _ _
  cases op with
  | get k key =>
    simp only [handle]
    split <;> exact Or.inl hsame
  | list | now => exact Or.inl hsame
  | fresh => exact Or.inl ⟨rfl, fun _ _ => rfl⟩
  | create k o =>
    simp only [handle]
    split_ifs
    · split
      · exact Or.inl hsame
      · exact Or.inr (Or.inl ⟨k, c.created o, rfl, rfl⟩)
    · exact Or.inl hsame
  | update k o =>
    simp only [handle]
    split
    · exact Or.inl hsame
    · next old hold =>
      have hfound := key_of_find? hold
      have hkey : (updated old o).key = o.key := hfound
      split_ifs
      · simp only [settle]
        split_ifs
        · exact Or.inr (Or.inr ⟨k, _, old, by rw [hkey, Op.target], hkey ▸ hold, rfl⟩)
        · exact Or.inr (Or.inl ⟨k, _, by rw [hkey, Op.target], rfl⟩)
      · exact Or.inl hsame
  | updateStatus k o =>
    simp only [handle]
    split
    · exact Or.inl hsame
    · next old hold =>
      have hfound := key_of_find? hold
      have hkey : Object.key { old with status := o.status } = o.key := hfound
      split_ifs
      · exact Or.inr (Or.inl ⟨k, _, by rw [hkey, Op.target], rfl⟩)
      · exact Or.inl hsame
  | patch k key change =>
    simp only [handle]
    split
    · exact Or.inl hsame
    · next old hold =>
      have hfound := key_of_find? hold
      have hkey : (patched change old).key = key := hfound
      exact Or.inr (Or.inl ⟨k, _, by rw [hkey, Op.target], rfl⟩)
  | patchStatus k key change =>
    simp only [handle]
    split
    · exact Or.inl hsame
    · next old hold =>
      have hfound := key_of_find? hold
      have hkey : Object.key { old with status := change old.status } = key := hfound
      exact Or.inr (Or.inl ⟨k, _, by rw [hkey, Op.target], rfl⟩)
  | delete k key site =>
    simp only [handle]
    split
    · exact Or.inl hsame
    · next old hold =>
      have hfound := key_of_find? hold
      have hkey : (c.terminated site old).key = key := hfound
      simp only [deleted]
      split_ifs
      · exact Or.inl hsame
      · exact Or.inr (Or.inl ⟨k, _, by rw [hkey, Op.target], rfl⟩)
      · exact Or.inr (Or.inr ⟨k, key, old, rfl, hold, rfl⟩)

/-- A call touches its target, or it leaves every object alone. -/
theorem Step.touches {op : Op Spec Status} {r : Resp Spec Status op} (hs : Step op c r c')
    (hc : c.Versioned) :
    SameOutside [] c c' ∨ ∃ k key, op.target = some (k, key) ∧ Touched k key c c' := by
  rcases hs.state with rfl | rfl
  · exact Or.inl (.refl _ _)
  rcases handle_target op c with hsame | ⟨k, o, htarget, hstate⟩ | ⟨k, key, o, htarget, ho, hstate⟩
  · exact Or.inl hsame
  · rw [hstate]
    exact Or.inr ⟨k, o.key, htarget, touched_write hc o⟩
  · rw [hstate]
    exact Or.inr ⟨k, key, htarget, touched_remove ho⟩

end Touched

end ApiServer
