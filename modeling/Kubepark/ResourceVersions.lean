import Kubepark.ApiEffects
import Kubepark.Pool

/-!
# Resource versions

Every write stores a version that no object had before. `Versioned` : no stored object is ahead
of the server. `Onward c c'` : what is stored in `c'` with a version of `c` was stored in `c`. Both
hold along any sequence of calls, so a copy that was read at some time, and has the version of what
is stored now, is what is stored now (`Onward.same`). That is what a conditional update relies on.

The second part is about clients whose reads lag : `Seen w o` says that the copy `o` was stored at
some time, which is all that is known of what such a read returns.
-/

set_option linter.unusedSectionVars false

namespace ApiServer

variable {Kind : Type} [DecidableEq Kind] {Spec Status : Kind → Type}

/-- No stored object has a version that is yet to come. -/
def Versioned (c : ApiServer Spec Status) : Prop :=
  ∀ k key o, c.find? k key = some o → o.metadata.resourceVersion ≤ c.revision

/-- From `c` on : objects change by being written with a new version. -/
structure Onward (c c' : ApiServer Spec Status) : Prop where
  revision : c.revision ≤ c'.revision
  kept : ∀ k key o', c'.find? k key = some o' → o'.metadata.resourceVersion ≤ c.revision →
    c.find? k key = some o'

namespace Onward

variable {c c' c'' : ApiServer Spec Status} {k : Kind} {key : ObjectKey}

theorem refl (c : ApiServer Spec Status) : Onward c c :=
  ⟨Nat.le_refl _, fun _ _ _ h _ => h⟩

theorem trans (h : Onward c c') (h' : Onward c' c'') : Onward c c'' where
  revision := Nat.le_trans h.revision h'.revision
  kept k key o' ho' hle := h.kept k key o' (h'.kept k key o' ho' (Nat.le_trans hle h.revision)) hle

/-- A copy that has the version of what is stored now is what is stored now. -/
theorem same (h : Onward c c') (hc : Versioned c) {o o' : Object Spec Status k}
    (ho : c.find? k key = some o) (ho' : c'.find? k key = some o')
    (hversion : o'.metadata.resourceVersion = o.metadata.resourceVersion) : o' = o := by
  have hle : o'.metadata.resourceVersion ≤ c.revision := by
    rw [hversion]
    exact hc k key o ho
  exact Option.some.inj ((h.kept k key o' ho' hle).symm.trans ho)

end Onward

variable {c c' : ApiServer Spec Status} {k : Kind} {key : ObjectKey}

theorem onward_write (c : ApiServer Spec Status) (k : Kind) (o : Object Spec Status k) :
    Onward c (c.write k o) where
  revision := Nat.le_succ _
  kept k' key' o' ho' hle := by
    by_cases he : (⟨k', key'⟩ : Kind × ObjectKey) = (k, o.key)
    · obtain ⟨rfl, rfl⟩ := Prod.mk.inj he
      rw [find?_write_self] at ho'
      obtain rfl := Option.some.inj ho'
      exact absurd hle (Nat.not_succ_le_self _)
    · rwa [find?_write_ne c k o he] at ho'

theorem onward_remove (c : ApiServer Spec Status) (k : Kind) (key : ObjectKey) :
    Onward c (c.remove k key) where
  revision := Nat.le_succ _
  kept _ _ _ ho' _ := find?_of_remove c k key ho'

theorem Versioned.write (h : c.Versioned) (k : Kind) (o : Object Spec Status k) :
    (c.write k o).Versioned := by
  intro k' key' o' ho'
  by_cases he : (⟨k', key'⟩ : Kind × ObjectKey) = (k, o.key)
  · obtain ⟨rfl, rfl⟩ := Prod.mk.inj he
    rw [find?_write_self] at ho'
    obtain rfl := Option.some.inj ho'
    exact Nat.le_refl _
  · rw [find?_write_ne c k o he] at ho'
    exact Nat.le_succ_of_le (h k' key' o' ho')

theorem Versioned.remove (h : c.Versioned) (k : Kind) (key : ObjectKey) :
    (c.remove k key).Versioned :=
  fun k' key' o' ho' => Nat.le_succ_of_le (h k' key' o' (find?_of_remove c k key ho'))

variable [KindInfo Kind] [∀ k, DecidableEq (Spec k)] [∀ k, Inhabited (Status k)]

/-- What a call makes of the state : nothing, a write, or a removal. -/
theorem handle_state (op : Op Spec Status) (c : ApiServer Spec Status) :
    (∃ n, (handle op c).2 = { c with entropy := n }) ∨
      (∃ k o, (handle op c).2 = c.write k o) ∨ ∃ k key, (handle op c).2 = c.remove k key := by
  have hsame : ∃ n, c = { c with entropy := n } := ⟨c.entropy, rfl⟩
  cases op with
  | get k key =>
    simp only [handle]
    split <;> exact Or.inl hsame
  | list | now => exact Or.inl hsame
  | fresh => exact Or.inl ⟨_, rfl⟩
  | create k o =>
    simp only [handle]
    split_ifs
    · split
      · exact Or.inl hsame
      · exact Or.inr (Or.inl ⟨_, _, rfl⟩)
    · exact Or.inl hsame
  | update k o =>
    simp only [handle]
    split
    · exact Or.inl hsame
    · split_ifs
      · simp only [settle]
        split_ifs
        · exact Or.inr (Or.inr ⟨_, _, rfl⟩)
        · exact Or.inr (Or.inl ⟨_, _, rfl⟩)
      · exact Or.inl hsame
  | updateStatus k o =>
    simp only [handle]
    split
    · exact Or.inl hsame
    · split_ifs
      · exact Or.inr (Or.inl ⟨_, _, rfl⟩)
      · exact Or.inl hsame
  | patch k key change | patchStatus k key change =>
    simp only [handle]
    split
    · exact Or.inl hsame
    · exact Or.inr (Or.inl ⟨_, _, rfl⟩)
  | delete k key site =>
    simp only [handle]
    split
    · exact Or.inl hsame
    · simp only [deleted]
      split_ifs
      · exact Or.inl hsame
      · exact Or.inr (Or.inl ⟨_, _, rfl⟩)
      · exact Or.inr (Or.inr ⟨_, _, rfl⟩)

theorem Step.onward {op : Op Spec Status} {r : Resp Spec Status op} (hs : Step op c r c') :
    Onward c c' := by
  rcases hs.state with rfl | rfl
  · exact .refl _
  rcases handle_state op c with ⟨n, h⟩ | ⟨k, o, h⟩ | ⟨k, key, h⟩
  · rw [h]
    exact ⟨Nat.le_refl _, fun _ _ _ h _ => h⟩
  · rw [h]
    exact onward_write c k o
  · rw [h]
    exact onward_remove c k key

theorem Step.versioned {op : Op Spec Status} {r : Resp Spec Status op} (hs : Step op c r c')
    (hc : c.Versioned) : c'.Versioned := by
  rcases hs.state with rfl | rfl
  · exact hc
  rcases handle_state op c with ⟨n, h⟩ | ⟨k, o, h⟩ | ⟨k, key, h⟩
  · rw [h]
    exact hc
  · rw [h]
    exact hc.write k o
  · rw [h]
    exact hc.remove k key

/-- A conditional status update changes nothing, or replaces what has the version it names. -/
theorem Step.updateStatus_cases {o : Object Spec Status k} {r : Resp Spec Status (.updateStatus k o)}
    (hs : Step (.updateStatus k o) c r c') : c' = c ∨ ∃ old, c.find? k o.key = some old ∧
      old.metadata.resourceVersion = o.metadata.resourceVersion ∧
      c' = c.write k { old with status := o.status } := by
  rcases hs.state with h | h
  · exact Or.inl h
  simp only [handle] at h
  cases hold : c.find? k o.key with
  | none =>
    rw [hold] at h
    exact Or.inl h
  | some old =>
    rw [hold] at h
    dsimp only at h
    split_ifs at h with hversion
    · exact Or.inr ⟨old, rfl, hversion, h⟩
    · exact Or.inl h

theorem Step.updateStatus_ok {o o' : Object Spec Status k}
    (hs : Step (.updateStatus k o) c (.ok o') c') : ∃ old, c.find? k o.key = some old ∧
      old.metadata.resourceVersion = o.metadata.resourceVersion ∧
      c' = c.write k { old with status := o.status } := by
  rcases hs with ⟨hr, hc'⟩ | ⟨e, -, hf, -⟩
  · simp only [handle] at hr hc'
    cases hold : c.find? k o.key with
    | none =>
      rw [hold] at hr
      cases hr
    | some old =>
      rw [hold] at hr hc'
      dsimp only at hr hc'
      split_ifs at hr hc' with hversion
      exact ⟨old, rfl, hversion, hc'⟩
  · cases hf

theorem Step.updateStatus_notFound {o : Object Spec Status k} {e : ApiError}
    (hs : Step (.updateStatus k o) c (.error e) c') (he : e.isNotFound = true) :
    c.find? k o.key = none := by
  rcases hs with ⟨hr, -⟩ | ⟨e', hfault, hf, -⟩
  · simp only [handle] at hr
    cases hold : c.find? k o.key with
    | none => rfl
    | some old =>
      rw [hold] at hr
      dsimp only at hr
      split_ifs at hr
      obtain rfl := Except.error.inj hr
      cases he
  · obtain rfl := Except.error.inj hf
    cases hfault.1.symm.trans he

/-- An update finds the version it was made from, or nothing happens. -/
theorem Step.update_cases {o : Object Spec Status k} {r : Resp Spec Status (.update k o)}
    (hs : Step (.update k o) c r c') : c' = c ∨ ∃ old, c.find? k o.key = some old ∧
      old.metadata.resourceVersion = o.metadata.resourceVersion := by
  rcases hs.state with h | h
  · exact Or.inl h
  simp only [handle] at h
  cases hold : c.find? k o.key with
  | none =>
    rw [hold] at h
    exact Or.inl h
  | some old =>
    rw [hold] at h
    dsimp only at h
    split_ifs at h with hversion
    · exact Or.inr ⟨old, rfl, hversion⟩
    · exact Or.inl h

/-- What a creation returns is what it stored. -/
theorem Step.create_ok {o o' : Object Spec Status k} (hs : Step (.create k o) c (.ok o') c') :
    c.find? k o.key = none ∧ o' = c.versioned (c.created o) ∧ c' = c.write k (c.created o) := by
  rcases hs with ⟨hr, hc'⟩ | ⟨e, -, hf, -⟩
  · simp only [handle] at hr hc'
    split_ifs at hr hc'
    cases hold : c.find? k o.key with
    | none =>
      rw [hold] at hr hc'
      exact ⟨rfl, Except.ok.inj hr, hc'⟩
    | some old =>
      rw [hold] at hr
      cases hr
  · cases hf

theorem Step.update_stored {o o' : Object Spec Status k} (hfinalizers : o.metadata.finalizers ≠ [])
    (hs : Step (.update k o) c (.ok o') c') : ∃ old, c.find? k o.key = some old ∧
      o' = c.versioned (updated old o) ∧ c' = c.write k (updated old o) := by
  rcases hs with ⟨hr, hc'⟩ | ⟨e, -, hf, -⟩
  · simp only [handle] at hr hc'
    cases hold : c.find? k o.key with
    | none =>
      rw [hold] at hr
      cases hr
    | some old =>
      have hstays : (updated old o).metadata.finalizers.isEmpty = false := by
        rw [List.isEmpty_eq_false_iff]
        exact hfinalizers
      rw [hold] at hr hc'
      dsimp only at hr hc'
      split_ifs at hr hc' with hversion
      refine ⟨old, rfl, Except.ok.inj hr, hc'.trans ?_⟩
      simp [settle, hstays]
  · cases hf

theorem Step.list_ok {selector : Object Spec Status k → Bool} {l : List (Object Spec Status k)}
    (hs : Step (.list k selector) c (.ok l) c') : l = (c.objs k).filter selector ∧ c' = c := by
  rcases hs with ⟨hr, hc'⟩ | ⟨e, -, hf, -⟩
  · exact ⟨Except.ok.inj hr, hc'⟩
  · cases hf

/-! ## Copies -/

open Prog (Timeline lagging)

/-- The calls that are answered from a cache. -/
def Op.isRead : Op Spec Status → Bool
  | .get _ _ | .list _ _ => true
  | _ => false

/-- The states of the past lead to the state of now. -/
structure Coherent (w : Timeline (ApiServer Spec Status)) : Prop where
  now : w.past w.now
  past : ∀ c, w.past c → c.Versioned ∧ Onward c w.now

/-- The copy `o` was stored at some time. -/
def Seen (w : Timeline (ApiServer Spec Status)) (o : Object Spec Status k) : Prop :=
  ∃ c, w.past c ∧ c.find? k o.key = some o

variable {w w' : Timeline (ApiServer Spec Status)}

theorem coherent_start (hc : c.Versioned) : Coherent (.start c) where
  now := rfl
  past := by
    rintro _ rfl
    exact ⟨hc, .refl _⟩

theorem Coherent.onto (h : Coherent w) (honward : Onward w.now c') (hc' : c'.Versioned) :
    Coherent (w.onto c') where
  now := Or.inr rfl
  past := by
    rintro c₀ (hc₀ | rfl)
    · exact ⟨(h.past c₀ hc₀).1, (h.past c₀ hc₀).2.trans honward⟩
    · exact ⟨hc', .refl _⟩

/-- A copy that has the version of what is stored now is what is stored now. -/
theorem Seen.same (hw : Coherent w) {o s : Object Spec Status k} (h : Seen w o)
    (hs : w.now.find? k o.key = some s)
    (hversion : s.metadata.resourceVersion = o.metadata.resourceVersion) : s = o := by
  obtain ⟨c₀, hc₀, ho⟩ := h
  obtain ⟨hversioned, honward⟩ := hw.past c₀ hc₀
  exact honward.same hversioned ho hs hversion

theorem seen_of_get {o : Object Spec Status k}
    (h : lagging Step Op.isRead (.get k key) w (.ok o) w') : w' = w ∧ o.key = key ∧ Seen w o := by
  obtain ⟨hw', c₀, c₁, hc₀, hstep⟩ := Prog.lagging_read rfl h
  have hkey := key_of_find? hstep.get_ok.1
  refine ⟨hw', hkey, c₀, hc₀, ?_⟩
  rw [hkey]
  exact hstep.get_ok.1

theorem seen_of_list {selector : Object Spec Status k → Bool} {l : List (Object Spec Status k)}
    (h : lagging Step Op.isRead (.list k selector) w (.ok l) w') : w' = w ∧ ∀ o ∈ l, Seen w o := by
  obtain ⟨hw', c₀, c₁, hc₀, hstep⟩ := Prog.lagging_read rfl h
  refine ⟨hw', fun o ho => ⟨c₀, hc₀, mem_objs_iff.mp ?_⟩⟩
  rw [hstep.list_ok.1] at ho
  exact List.mem_of_mem_filter ho

theorem seen_of_create {o o' : Object Spec Status k}
    (h : lagging Step Op.isRead (.create k o) w (.ok o') w') :
    o' = w.now.versioned (w.now.created o) ∧ Seen w' o' := by
  obtain ⟨c', hstep, rfl⟩ := Prog.lagging_write rfl h
  obtain ⟨-, rfl, rfl⟩ := hstep.create_ok
  exact ⟨rfl, _, Or.inr rfl, find?_write_self w.now k (w.now.created o)⟩

/-- What an update returns is what it stored, unless the object is gone with its last finalizer. -/
theorem seen_of_update {o o' : Object Spec Status k} (hfinalizers : o.metadata.finalizers ≠ [])
    (h : lagging Step Op.isRead (.update k o) w (.ok o') w') : Seen w' o' := by
  obtain ⟨c', hstep, rfl⟩ := Prog.lagging_write rfl h
  obtain ⟨old, hold, rfl, rfl⟩ := hstep.update_stored hfinalizers
  exact ⟨_, Or.inr rfl, find?_write_self w.now k (updated old o)⟩

/-- What an update of the status returns is what it stored. -/
theorem seen_of_updateStatus {o o' : Object Spec Status k}
    (h : lagging Step Op.isRead (.updateStatus k o) w (.ok o') w') :
    Seen w' o' ∧ o'.status = o.status := by
  obtain ⟨c', hstep, rfl⟩ := Prog.lagging_write rfl h
  rcases hstep with ⟨hr, hc'⟩ | ⟨e, -, hf, -⟩
  · simp only [handle] at hr hc'
    cases hold : w.now.find? k o.key with
    | none =>
      rw [hold] at hr
      cases hr
    | some old =>
      rw [hold] at hr hc'
      dsimp only at hr hc'
      split_ifs at hr hc'
      obtain rfl := Except.ok.inj hr
      subst hc'
      exact ⟨⟨_, Or.inr rfl, find?_write_self w.now k { old with status := o.status }⟩, rfl⟩
  · cases hf

/-! ## A client beside others -/

/-- What may happen between two calls : objects are written with new versions, and time passes. -/
structure Later (c c' : ApiServer Spec Status) : Prop where
  onward : Onward c c'
  versioned : c.Versioned → c'.Versioned
  clock : c.clock ≤ c'.clock

theorem Later.refl (c : ApiServer Spec Status) : Later c c :=
  ⟨.refl c, id, Int.le_refl _⟩

theorem Later.trans {c'' : ApiServer Spec Status} (h : Later c c') (h' : Later c' c'') :
    Later c c'' :=
  ⟨h.onward.trans h'.onward, h'.versioned ∘ h.versioned, Int.le_trans h.clock h'.clock⟩

theorem later_tick {t : Time} (h : c.clock ≤ t) : Later c { c with clock := t } :=
  ⟨⟨Nat.le_refl _, fun _ _ _ ho _ => ho⟩, id, h⟩

theorem later_remove (c : ApiServer Spec Status) (k : Kind) (key : ObjectKey) :
    Later c (c.remove k key) :=
  ⟨onward_remove c k key, fun h => h.remove k key, Int.le_refl _⟩

theorem Step.later {op : Op Spec Status} {r : Resp Spec Status op} (hs : Step op c r c') :
    Later c c' :=
  ⟨hs.onward, hs.versioned, Int.le_of_eq hs.clock.symm⟩

/-- A program that is cut short anywhere. -/
theorem later_visits {α : Type} {p : Prog (Op Spec Status) (Resp Spec Status) α}
    {t : List (Op Spec Status × ApiServer Spec Status)} (h : p.Visits Step c t c') : Later c c' :=
  h.preserves (P := fun _ _ => True) (fun _ _ => trivial)
    (fun _ _ _ _ _ hs hlater => hlater.trans hs.later) (.refl c)

/-- What was known of the past is known still, and time has passed. -/
structure Since (w w' : Timeline (ApiServer Spec Status)) : Prop where
  coherent : Coherent w → Coherent w'
  past : ∀ c, w.past c → w'.past c
  clock : w.now.clock ≤ w'.now.clock

namespace Since

theorem refl (w : Timeline (ApiServer Spec Status)) : Since w w :=
  ⟨id, fun _ => id, Int.le_refl _⟩

theorem trans {w'' : Timeline (ApiServer Spec Status)} (h : Since w w') (h' : Since w' w'') :
    Since w w'' :=
  ⟨h'.coherent ∘ h.coherent, fun c hc => h'.past c (h.past c hc), Int.le_trans h.clock h'.clock⟩

theorem onto (h : Later w.now c') : Since w (w.onto c') where
  coherent hw := hw.onto h.onward (h.versioned (hw.past _ hw.now).1)
  past _ := Or.inl
  clock := h.clock

theorem seen (h : Since w w') {o : Object Spec Status k} (ho : Seen w o) : Seen w' o := by
  obtain ⟨c₀, hc₀, ho⟩ := ho
  exact ⟨c₀, h.past c₀ hc₀, ho⟩

end Since

/-- The state moves on by a step of `env`. -/
def Elapses (env : ApiServer Spec Status → ApiServer Spec Status → Prop)
    (w w' : Timeline (ApiServer Spec Status)) : Prop :=
  ∃ c', env w.now c' ∧ w' = w.onto c'

/-- The handler of a client that reads through a cache, while the others take steps of `env`. -/
def CachedStep (env : ApiServer Spec Status → ApiServer Spec Status → Prop) (op : Op Spec Status)
    (w : Timeline (ApiServer Spec Status)) (r : Resp Spec Status op)
    (w' : Timeline (ApiServer Spec Status)) : Prop :=
  Prog.interleaved (lagging Step Op.isRead) (Elapses env) op w r w'

section Cached

variable {env : ApiServer Spec Status → ApiServer Spec Status → Prop} {op : Op Spec Status}
  {r : Resp Spec Status op}

theorem since_lagging (h : lagging Step Op.isRead op w r w') : Since w w' := by
  unfold lagging at h
  split_ifs at h
  · obtain ⟨rfl, -⟩ := h
    exact .refl _
  · obtain ⟨c', hstep, rfl⟩ := h
    exact .onto hstep.later

theorem since_elapses (henv : ∀ c c', env c c' → Later c c')
    (h : Relation.ReflTransGen (Elapses env) w w') : Since w w' := by
  induction h with
  | refl => exact .refl _
  | tail _ hstep ih =>
    obtain ⟨c', hc', rfl⟩ := hstep
    exact ih.trans (.onto (henv _ _ hc'))

theorem since_cachedStep (henv : ∀ c c', env c c' → Later c c') (h : CachedStep env op w r w') :
    Since w w' := by
  obtain ⟨w₁, hstep, hsteps⟩ := h
  exact (since_lagging hstep).trans (since_elapses henv hsteps)

/-- What a read through the cache returns was stored at some time. -/
theorem seen_of_cachedGet (henv : ∀ c c', env c c' → Later c c') {o : Object Spec Status k}
    (h : CachedStep env (.get k key) w (.ok o) w') : o.key = key ∧ Seen w' o := by
  obtain ⟨w₁, hstep, hsteps⟩ := h
  obtain ⟨rfl, hkey, hseen⟩ := seen_of_get hstep
  exact ⟨hkey, (since_elapses henv hsteps).seen hseen⟩

/-- The clock is not read through the cache. -/
theorem clock_of_cachedNow (henv : ∀ c c', env c c' → Later c c') {t : Time}
    (h : CachedStep env .now w t w') : t = w.now.clock ∧ t ≤ w'.now.clock := by
  obtain ⟨w₁, hstep, hsteps⟩ := h
  obtain ⟨c', hnow, rfl⟩ := Prog.lagging_write rfl hstep
  have ht : t = w.now.clock := by
    rcases hnow with ⟨ht, -⟩ | ⟨e, -, hf, -⟩
    · exact ht
    · exact hf.elim
  refine ⟨ht, ?_⟩
  rw [ht]
  exact Int.le_trans hnow.later.clock (since_elapses henv hsteps).clock

end Cached

end ApiServer
