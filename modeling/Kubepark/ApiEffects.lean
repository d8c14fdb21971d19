import Kubepark.ApiServer

/-!
# What a call makes of an object

Two inversions that say once what a call can do to the object under a key. An object that is
there after a call was there before, or was created by the call, or is what the call made of
the object that was there (`Step.written`). An object that is not there any more was deleted
by the call, or lost its last finalizer by it (`Step.gone`). Invariants of runs are case
distinctions over the two.
-/

set_option linter.unusedSectionVars false

namespace ApiServer

variable {Kind : Type} [DecidableEq Kind] {Spec Status : Kind → Type} [KindInfo Kind]
  [∀ k, DecidableEq (Spec k)] [∀ k, Inhabited (Status k)]

/-- How the object `o'` came to stand under `key` after the call `op` in `c`. -/
inductive Written (op : Op Spec Status) (c : ApiServer Spec Status) (k : Kind) (key : ObjectKey)
    (o' : Object Spec Status k) : Prop
  | kept (hold : c.find? k key = some o')
  | created (o : Object Spec Status k) (hop : op = .create k o) (hkey : o.key = key)
    (hnone : c.find? k key = none) (h : o' = c.versioned (c.created o))
  | updated (old o : Object Spec Status k) (hop : op = .update k o) (hkey : o.key = key)
    (hold : c.find? k key = some old) (h : o' = c.versioned (ApiServer.updated old o))
  | statusUpdated (old o : Object Spec Status k) (hop : op = .updateStatus k o) (hkey : o.key = key)
    (hold : c.find? k key = some old) (h : o' = c.versioned { old with status := o.status })
  | patched (old : Object Spec Status k) (change : Spec k → Spec k) (hop : op = .patch k key change)
    (hold : c.find? k key = some old) (h : o' = c.versioned (ApiServer.patched change old))
  | statusPatched (old : Object Spec Status k) (change : Status k → Status k)
    (hop : op = .patchStatus k key change) (hold : c.find? k key = some old)
    (h : o' = c.versioned { old with status := change old.status })
  | terminated (old : Object Spec Status k) (site : String) (hop : op = .delete k key site)
    (hold : c.find? k key = some old) (hlive : old.deleting = false)
    (hstays : KindInfo.graceful k = true ∨ old.metadata.finalizers ≠ [])
    (h : o' = c.versioned (c.terminated site old))

section Inversion

variable {op : Op Spec Status} {c c' : ApiServer Spec Status} {r : Resp Spec Status op} {k : Kind}
  {key : ObjectKey} {o o' : Object Spec Status k}

theorem eq_of_find?_write (new : Object Spec Status k) (hkey : new.key = key)
    (h : (c.write k new).find? k key = some o') : o' = c.versioned new := by
  subst hkey
  exact (Option.some.inj ((find?_write_self c k new).symm.trans h)).symm

/-- What stands under a key after a write. -/
theorem find?_write_cases {new : Object Spec Status k} (h : (c.write k new).find? k key = some o') :
    (key = new.key ∧ o' = c.versioned new) ∨ (key ≠ new.key ∧ c.find? k key = some o') := by
  by_cases hkey : key = new.key
  · exact Or.inl ⟨hkey, eq_of_find?_write new hkey.symm h⟩
  · rw [find?_write_ne c k new fun he => hkey (Prod.mk.inj he).2] at h
    exact Or.inr ⟨hkey, h⟩

theorem eq_of_find?_settle {new : Object Spec Status k}
    (h : (c.settle k new).find? k new.key = some o') : o' = c.versioned new := by
  unfold settle at h
  split_ifs at h
  · rw [find?_remove_self] at h
    cases h
  · exact eq_of_find?_write new rfl h

/-- An update stores the object, unless it takes the last finalizer off an object that is being
deleted. -/
theorem find?_settle_self {new : Object Spec Status k}
    (hstays : new.deleting = true → new.metadata.finalizers ≠ []) :
    (c.settle k new).find? k new.key = some (c.versioned new) := by
  have hnot : ¬((new.deleting && new.metadata.finalizers.isEmpty && !KindInfo.graceful k) = true) := by
    intro h
    simp only [Bool.and_eq_true, List.isEmpty_iff] at h
    exact hstays h.1.1 h.1.2
  rw [settle, if_neg hnot]
  exact find?_write_self c k new

theorem written_handle (h : (handle op c).2.find? k key = some o') : Written op c k key o' := by
  by_cases ht : op.target = some (k, key)
  · cases op with
    | get | list | now | fresh => cases ht
    | create k' o =>
      cases ht
      simp only [handle] at h
      split_ifs at h
      · split at h
        · exact .kept h
        · rename_i hnone
          exact .created o rfl rfl hnone (eq_of_find?_write (c.created o) rfl h)
      · exact .kept h
    | update k' o =>
      cases ht
      simp only [handle] at h
      split at h
      · exact .kept h
      · rename_i old hold
        have hkey := key_of_find? hold
        split_ifs at h
        · simp only [settle] at h
          split_ifs at h
          · rw [show (updated old o).key = o.key from hkey, find?_remove_self] at h
            cases h
          · exact .updated old o rfl rfl hold (eq_of_find?_write (updated old o) hkey h)
        · exact .kept h
    | updateStatus k' o =>
      cases ht
      simp only [handle] at h
      split at h
      · exact .kept h
      · rename_i old hold
        have hkey := key_of_find? hold
        split_ifs at h
        · exact .statusUpdated old o rfl rfl hold
            (eq_of_find?_write { old with status := o.status } hkey h)
        · exact .kept h
    | patch k' key' change =>
      cases ht
      simp only [handle] at h
      split at h
      · exact .kept h
      · rename_i old hold
        have hkey := key_of_find? hold
        exact .patched old change rfl hold (eq_of_find?_write (patched change old) hkey h)
    | patchStatus k' key' change =>
      cases ht
      simp only [handle] at h
      split at h
      · exact .kept h
      · rename_i old hold
        have hkey := key_of_find? hold
        exact .statusPatched old change rfl hold
          (eq_of_find?_write { old with status := change old.status } hkey h)
    | delete k' key' site =>
      cases ht
      simp only [handle] at h
      split at h
      · exact .kept h
      · rename_i old hold
        have hkey := key_of_find? hold
        simp only [deleted] at h
        split_ifs at h with hdel hg
        · exact .kept h
        · have hstays : KindInfo.graceful k = true ∨ old.metadata.finalizers ≠ [] := by
            simpa using hg
          exact .terminated old site rfl hold (Bool.eq_false_iff.mpr hdel) hstays
            (eq_of_find?_write (c.terminated site old) hkey h)
        · rw [find?_remove_self] at h
          cases h
  · exact .kept ((handle_find? ht).symm.trans h)

/-- Where an object that is there after a call comes from. -/
theorem Step.written (hs : Step op c r c') (h : c'.find? k key = some o') :
    Written op c k key o' := by
  rcases hs.state with rfl | rfl
  · exact .kept h
  · exact written_handle h

/-- Objects that are marked, by their key or their labels, stand under reserved keys. A call that
leaves the reserved keys alone and marks nothing elsewhere leaves what is marked as it is. -/
theorem Step.kept_of_marked (hs : Step op c r c')
    (Marked : ObjectKey → List (String × String) → Prop) (Reserved : ObjectKey → Prop)
    (hreserved : ∀ key, Reserved key → op.target ≠ some (k, key))
    (hmarks : ∀ o : Object Spec Status k, op = .create k o ∨ op = .update k o →
      Marked o.key o.metadata.labels → Reserved o.key)
    (hold : ∀ key o, c.find? k key = some o → Marked key o.metadata.labels → Reserved key)
    (h : c'.find? k key = some o') (hmarked : Marked key o'.metadata.labels) :
    c.find? k key = some o' := by
  cases hs.written h with
  | kept hkept => exact hkept
  | created o hop hkey _ hnew =>
    subst hop hkey hnew
    exact absurd rfl (hreserved _ (hmarks o (Or.inl rfl) hmarked))
  | updated old o hop hkey _ hnew =>
    subst hop hkey hnew
    exact absurd rfl (hreserved _ (hmarks o (Or.inr rfl) hmarked))
  | statusUpdated old o hop hkey hstored hnew =>
    subst hop hkey hnew
    exact absurd rfl (hreserved _ (hold _ old hstored hmarked))
  | patched old change hop hstored hnew | statusPatched old change hop hstored hnew
  | terminated old _ hop hstored _ _ hnew =>
    subst hop hnew
    exact absurd rfl (hreserved _ (hold _ old hstored hmarked))

/-- A read leaves the state as it is, also when it fails. -/
theorem Step.get_state {a : Resp Spec Status (.get k key)} (hs : Step (.get k key) c a c') :
    c' = c := by
  rcases hs.state with h | h
  · exact h
  · rw [h]
    simp only [handle]
    split <;> rfl

/-- A read that is answered is answered with what is stored. -/
theorem Step.get_ok (hs : Step (.get k key) c (.ok o) c') : c.find? k key = some o ∧ c' = c := by
  rcases hs with ⟨hr, hc'⟩ | ⟨e, -, hf, -⟩
  · simp only [handle] at hr hc'
    cases hfind : c.find? k key with
    | none =>
      rw [hfind] at hr
      cases hr
    | some stored =>
      rw [hfind] at hr hc'
      exact ⟨congrArg some (Except.ok.inj hr).symm, hc'⟩
  · cases hf

/-- An update that is answered is answered with what it made of the stored object. -/
theorem Step.update_ok (hs : Step (.update k o) c (.ok o') c') :
    ∃ old, c.find? k o.key = some old ∧ o' = c.versioned (updated old o) := by
  rcases hs with ⟨hr, -⟩ | ⟨e, -, hf, -⟩
  · simp only [handle] at hr
    cases hfind : c.find? k o.key with
    | none =>
      rw [hfind] at hr
      cases hr
    | some old =>
      rw [hfind] at hr
      simp only at hr
      split_ifs at hr
      exact ⟨old, rfl, Except.ok.inj hr⟩
  · cases hf

/-- How the object `o` came not to stand under `key` any more after the call `op`. -/
inductive Gone (op : Op Spec Status) (k : Kind) (key : ObjectKey) (o : Object Spec Status k) : Prop
  | deleted (site : String) (hop : op = .delete k key site) (hgraceful : KindInfo.graceful k = false)
    (hfinalizers : o.metadata.finalizers = [])
  | finalized (new : Object Spec Status k) (hop : op = .update k new) (hkey : new.key = key)
    (hdeleting : o.deleting = true) (hgraceful : KindInfo.graceful k = false)
    (hfinalizers : new.metadata.finalizers = [])

theorem gone_handle (ho : c.find? k key = some o) (h : (handle op c).2.find? k key = none) :
    Gone op k key o := by
  have hkey := key_of_find? ho
  by_cases ht : op.target = some (k, key)
  · cases op with
    | get | list | now | fresh => cases ht
    | create k' new =>
      cases ht
      simp only [handle, ho] at h
      split_ifs at h <;> cases ho.symm.trans h
    | update k' new =>
      cases ht
      have hnew : (updated o new).key = new.key := hkey
      simp only [handle, ho] at h
      split_ifs at h
      · simp only [settle] at h
        split_ifs at h with hgone
        · simp only [Bool.and_eq_true, Bool.not_eq_true', List.isEmpty_iff] at hgone
          exact .finalized new rfl rfl hgone.1.1 hgone.2 hgone.1.2
        · rw [← hnew, find?_write_self] at h
          cases h
      · cases ho.symm.trans h
    | updateStatus k' new =>
      cases ht
      simp only [handle, ho] at h
      split_ifs at h
      · have hself := find?_write_self c k { o with status := new.status }
        rw [show ({ o with status := new.status } : Object Spec Status k).key = new.key from hkey,
          h] at hself
        cases hself
      · cases ho.symm.trans h
    | patch k' key' change =>
      cases ht
      simp only [handle, ho] at h
      have hself := find?_write_self c k (patched change o)
      rw [show (patched change o).key = key from hkey, h] at hself
      cases hself
    | patchStatus k' key' change =>
      cases ht
      simp only [handle, ho] at h
      have hself := find?_write_self c k { o with status := change o.status }
      rw [show ({ o with status := change o.status } : Object Spec Status k).key = key from hkey,
        h] at hself
      cases hself
    | delete k' key' site =>
      cases ht
      simp only [handle, ho, deleted] at h
      split_ifs at h with hdel hg
      · cases ho.symm.trans h
      · have hself := find?_write_self c k (c.terminated site o)
        rw [show (c.terminated site o).key = key from hkey, h] at hself
        cases hself
      · simp only [Bool.or_eq_true, Bool.not_eq_true', not_or, Bool.not_eq_true,
          Bool.not_eq_false, List.isEmpty_iff] at hg
        exact .deleted site rfl hg.1 hg.2
  · cases ho.symm.trans ((handle_find? ht).symm.trans h)

/-- What became of an object that is not there any more after a call. -/
theorem Step.gone (hs : Step op c r c') (ho : c.find? k key = some o)
    (h : c'.find? k key = none) : Gone op k key o := by
  rcases hs.state with rfl | rfl
  · exact nomatch ho.symm.trans h
  · exact gone_handle ho h

end Inversion

end ApiServer
