import Kubepark.ApiEffects

/-!
# Client idioms over the API server

The calls of `ApiServer` as routines. A call named `try…` returns what the server answered;
the others end the routine on an error. The idioms controllers are written in let one error
pass : a read that takes a missing object for `none` (`getOptional`), a create that is
content with an object that is already there (`createIfAbsent`), and writes that are content
with an object that is gone (`updateIfPresent`, `updateStatusIfPresent`,
`patchStatusIfPresent`, `deleteIfPresent`).

For each idiom there is the rule for its runs without error (`wp_…`) : whatever calls may
fail, such a run is the faithful one. The `always_…` rules are about its one call alone.
-/

set_option linter.unusedSectionVars false

namespace ApiServer

variable {Kind : Type} [DecidableEq Kind] {Spec Status : Kind → Type} {σ : Type}

/-- A routine of a client : record `σ`, and the errors of the server. -/
abbrev Client (Spec Status : Kind → Type) (σ α : Type) :=
  Routine (Op Spec Status) (Resp Spec Status) σ ApiError α

namespace Client

/-- Read an object, or the error. -/
def tryGet (k : Kind) (key : ObjectKey) :
    Client Spec Status σ (Except ApiError (Object Spec Status k)) :=
  Routine.lift (Prog.ask (Op.get k key : Op Spec Status))

/-- Read an object. -/
def get (k : Kind) (key : ObjectKey) : Client Spec Status σ (Object Spec Status k) := do
  Routine.ofExcept (← tryGet k key)

/-- Read an object that may be missing. -/
def getOptional (k : Kind) (key : ObjectKey) :
    Client Spec Status σ (Option (Object Spec Status k)) := do
  Routine.ignoring ApiError.isNotFound some none (← tryGet k key)

/-- The objects that `selector` picks, or the error. -/
def tryList (k : Kind) (selector : Object Spec Status k → Bool) :
    Client Spec Status σ (Except ApiError (List (Object Spec Status k))) :=
  Routine.lift (Prog.ask (Op.list k selector : Op Spec Status))

/-- The objects that `selector` picks. -/
def list (k : Kind) (selector : Object Spec Status k → Bool) :
    Client Spec Status σ (List (Object Spec Status k)) := do
  Routine.ofExcept (← tryList k selector)

/-- Create an object; the object as stored, or the error. -/
def tryCreate (k : Kind) (o : Object Spec Status k) :
    Client Spec Status σ (Except ApiError (Object Spec Status k)) :=
  Routine.lift (Prog.ask (Op.create k o : Op Spec Status))

/-- Create an object; the object as stored. -/
def create (k : Kind) (o : Object Spec Status k) :
    Client Spec Status σ (Object Spec Status k) := do
  Routine.ofExcept (← tryCreate k o)

/-- Create an object unless it is there. -/
def createIfAbsent (k : Kind) (o : Object Spec Status k) : Client Spec Status σ Unit := do
  Routine.ignoring ApiError.isAlreadyExists (fun _ => ()) () (← tryCreate k o)

/-- Write everything but the status of `o`; the object as stored, or the error. -/
def tryUpdate (k : Kind) (o : Object Spec Status k) :
    Client Spec Status σ (Except ApiError (Object Spec Status k)) :=
  Routine.lift (Prog.ask (Op.update k o : Op Spec Status))

/-- Write everything but the status of `o`. -/
def update (k : Kind) (o : Object Spec Status k) :
    Client Spec Status σ (Object Spec Status k) := do
  Routine.ofExcept (← tryUpdate k o)

/-- Write everything but the status of `o` unless it is gone. -/
def updateIfPresent (k : Kind) (o : Object Spec Status k) : Client Spec Status σ Unit := do
  Routine.ignoring ApiError.isNotFound (fun _ => ()) () (← tryUpdate k o)

/-- Write the status of `o`; the object as stored, or the error. -/
def tryUpdateStatus (k : Kind) (o : Object Spec Status k) :
    Client Spec Status σ (Except ApiError (Object Spec Status k)) :=
  Routine.lift (Prog.ask (Op.updateStatus k o : Op Spec Status))

/-- Write the status of `o`; the object as stored. -/
def updateStatus (k : Kind) (o : Object Spec Status k) :
    Client Spec Status σ (Object Spec Status k) := do
  Routine.ofExcept (← tryUpdateStatus k o)

/-- Write the status of `o` unless it is gone; the object as stored. -/
def updateStatusIfPresent (k : Kind) (o : Object Spec Status k) :
    Client Spec Status σ (Option (Object Spec Status k)) := do
  Routine.ignoring ApiError.isNotFound some none (← tryUpdateStatus k o)

/-- Change the stored spec. -/
def patch (k : Kind) (key : ObjectKey) (change : Spec k → Spec k) :
    Client Spec Status σ (Object Spec Status k) := do
  Routine.ofExcept (← Routine.lift (Prog.ask (Op.patch k key change : Op Spec Status)))

/-- Change the stored status unless the object is gone. -/
def patchStatusIfPresent (k : Kind) (key : ObjectKey) (change : Status k → Status k) :
    Client Spec Status σ Unit := do
  Routine.ignoring ApiError.isNotFound (fun _ => ()) ()
    (← Routine.lift (Prog.ask (Op.patchStatus k key change : Op Spec Status)))

/-- Delete an object, or the error. -/
def tryDelete (k : Kind) (key : ObjectKey) (site : String) :
    Client Spec Status σ (Except ApiError Unit) :=
  Routine.lift (Prog.ask (Op.delete k key site : Op Spec Status))

/-- Delete an object unless it is gone. -/
def deleteIfPresent (k : Kind) (key : ObjectKey) (site : String) :
    Client Spec Status σ Unit := do
  Routine.ignoring ApiError.isNotFound id () (← tryDelete k key site)

/-- Read the clock. -/
def now : Client Spec Status σ Time :=
  Routine.lift (Prog.ask (Op.now : Op Spec Status))

/-- Draw a value that was never handed out before, or the error. -/
def tryFresh : Client Spec Status σ (Except ApiError Nat) :=
  Routine.lift (Prog.ask (Op.fresh : Op Spec Status))

end Client

/-! ## What the idioms do -/

variable [KindInfo Kind] [∀ k, DecidableEq (Spec k)] [∀ k, Inhabited (Status k)]

/-- The state once an object with the key of `o` exists. -/
def ensured (c : ApiServer Spec Status) (k : Kind) (o : Object Spec Status k) :
    ApiServer Spec Status :=
  match c.find? k o.key with
  | some _ => c
  | none => c.write k (c.created o)

theorem find?_ensured_ne {c : ApiServer Spec Status} {k k' : Kind} {key : ObjectKey}
    {o : Object Spec Status k} (h : (⟨k', key⟩ : Kind × ObjectKey) ≠ (k, o.key)) :
    (c.ensured k o).find? k' key = c.find? k' key := by
  unfold ensured
  split
  · rfl
  · exact find?_write_ne c k (c.created o) h

theorem find?_ensured_of_none {c : ApiServer Spec Status} {k : Kind} {o : Object Spec Status k}
    (h : c.find? k o.key = none) :
    (c.ensured k o).find? k o.key = some (c.versioned (c.created o)) := by
  rw [ensured, h]
  exact find?_write_self c k (c.created o)

theorem find?_ensured_of_some {c : ApiServer Spec Status} {k : Kind} {o old : Object Spec Status k}
    (h : c.find? k o.key = some old) : (c.ensured k o).find? k o.key = some old := by
  rw [ensured, h]
  exact h

theorem isSome_find?_ensured (c : ApiServer Spec Status) (k : Kind) (o : Object Spec Status k) :
    ((c.ensured k o).find? k o.key).isSome = true := by
  cases h : c.find? k o.key with
  | none =>
    rw [find?_ensured_of_none h]
    rfl
  | some old =>
    rw [find?_ensured_of_some h]
    rfl

/-- The state once the object under `key` is deleted. -/
def dropped (c : ApiServer Spec Status) (k : Kind) (key : ObjectKey) (site : String) :
    ApiServer Spec Status :=
  match c.find? k key with
  | none => c
  | some old => c.deleted k key site old

theorem find?_dropped_ne {c : ApiServer Spec Status} {k k' : Kind} {key key' : ObjectKey}
    {site : String} (h : (⟨k', key'⟩ : Kind × ObjectKey) ≠ (k, key)) :
    (c.dropped k key site).find? k' key' = c.find? k' key' := by
  unfold dropped
  split
  · rfl
  · rename_i old hold
    exact find?_deleted_ne (key_of_find? hold) h

/-- What is left of an object that was deleted is being deleted : a grace period, a finalizer or
an earlier deletion held it. -/
theorem of_find?_dropped {c : ApiServer Spec Status} {k : Kind} {key : ObjectKey} {site : String}
    {o : Object Spec Status k} (h : (c.dropped k key site).find? k key = some o) :
    o.deleting = true ∧ ∃ old, c.find? k key = some old ∧
      (old.deleting = true ∨ KindInfo.graceful k = true ∨ old.metadata.finalizers ≠ []) := by
  unfold dropped at h
  cases hold : c.find? k key with
  | none =>
    rw [hold] at h
    exact nomatch hold.symm.trans h
  | some old =>
    have hkey := key_of_find? hold
    simp only [hold, deleted] at h
    split_ifs at h with hdel hstays
    · obtain rfl := Option.some.inj (hold.symm.trans h)
      exact ⟨hdel, old, rfl, Or.inl hdel⟩
    · have ho := eq_of_find?_write (c.terminated site old) hkey h
      refine ⟨?_, old, rfl, Or.inr (by simpa using hstays)⟩
      rw [ho]
      rfl
    · rw [find?_remove_self] at h
      cases h

/-- An object that nothing holds is gone once it is deleted. -/
theorem find?_dropped_of_free {c : ApiServer Spec Status} {k : Kind} {key : ObjectKey}
    (site : String) {o : Object Spec Status k} (h : c.find? k key = some o)
    (hlive : o.deleting = false) (hfinalizers : o.metadata.finalizers = [])
    (hgraceful : KindInfo.graceful k = false) : (c.dropped k key site).find? k key = none := by
  simp only [dropped, h, deleted, hlive, hgraceful, hfinalizers, List.isEmpty_nil, Bool.not_true,
    Bool.or_self, Bool.false_eq_true, if_false]
  exact find?_remove_self c k key

/-- An object that something holds stays when it is deleted, with its labels and its spec. -/
theorem find?_dropped_of_held {c : ApiServer Spec Status} {k : Kind} {key : ObjectKey}
    (site : String) {o : Object Spec Status k} (h : c.find? k key = some o)
    (hheld : o.deleting = true ∨ o.metadata.finalizers ≠ []) :
    ∃ o', (c.dropped k key site).find? k key = some o' ∧ o'.metadata.labels = o.metadata.labels ∧
      o'.spec = o.spec := by
  have hkey := key_of_find? h
  simp only [dropped, h, deleted]
  split_ifs with hdeleting hstays
  · exact ⟨o, h, rfl, rfl⟩
  · exact ⟨c.versioned (c.terminated site o), hkey ▸ find?_write_self c k _, rfl, rfl⟩
  · rcases hheld with hheld | hheld
    · exact absurd hheld hdeleting
    · simp [hheld] at hstays

/-- An object that is being deleted stays so when something is deleted. -/
theorem deleting_of_dropped {c : ApiServer Spec Status} {k k' : Kind} {key key' : ObjectKey}
    {site : String} {o : Object Spec Status k}
    (hdeleting : ∀ o, c.find? k key = some o → o.deleting = true)
    (h : (c.dropped k' key' site).find? k key = some o) : o.deleting = true := by
  by_cases hsame : (⟨k, key⟩ : Kind × ObjectKey) = (k', key')
  · obtain ⟨rfl, rfl⟩ := Prod.mk.inj hsame
    exact (of_find?_dropped h).1
  · rw [find?_dropped_ne hsame] at h
    exact hdeleting o h

/-- The objects `l`, as a list call returned them, are stored as they were listed. -/
structure Listed (k : Kind) (l : List (Object Spec Status k)) (c : ApiServer Spec Status) : Prop where
  stored : ∀ o ∈ l, c.find? k o.key = some o
  nodup : (l.map Object.key).Nodup

theorem listed_filter (c : ApiServer Spec Status) (k : Kind) (selector : Object Spec Status k → Bool) :
    Listed k ((c.objs k).filter selector) c where
  stored _ ho := mem_objs_iff.mp (List.mem_of_mem_filter ho)
  nodup := (c.store k).nodup.sublist (List.filter_sublist.map _)

/-- Work on the first object leaves the others as they were listed. -/
theorem Listed.tail {k : Kind} {o : Object Spec Status k} {l : List (Object Spec Status k)}
    {c c' : ApiServer Spec Status} (h : Listed k (o :: l) c)
    (hc' : ∀ key, key ≠ o.key → c'.find? k key = c.find? k key) : Listed k l c' := by
  obtain ⟨hne, hnodup⟩ := List.nodup_cons.mp h.nodup
  refine ⟨fun o' ho' => ?_, hnodup⟩
  rw [hc' o'.key fun he => hne (he ▸ List.mem_map_of_mem ho')]
  exact h.stored o' (List.mem_cons_of_mem _ ho')

section Rules

open Client Routine

variable {k : Kind} {key : ObjectKey} {o : Object Spec Status k} {st : σ}
  {c : ApiServer Spec Status} {P : Op Spec Status → ApiServer Spec Status → Prop}

/-- A call followed by a routine that gives up on faults : the runs without error are
those of the faithful answer. -/
theorem wp_call_bind {op : Op Spec Status} {α β : Type}
    (toResp : Except ApiError α → Resp Spec Status op)
    (hfails : ∀ e r, Fails op e r ↔ r = toResp (.error e))
    {f : Resp Spec Status op → Client Spec Status σ β} {Q : β → σ → ApiServer Spec Status → Prop}
    (hfault : ∀ e : ApiError, e.IsFault → f (toResp (.error e)) = Routine.fail e) :
    ((Routine.lift (Prog.ask op) : Client Spec Status σ _) >>= f).wp Step P Q st c ↔
      P op c ∧ (f (handle op c).1).wp Step P Q st (handle op c).2 := by
  rw [wp_bind, wp_lift]
  refine and_congr_right fun _ => ⟨fun h => h _ _ (step_handle op c), fun h r c' hr => ?_⟩
  rcases hr with ⟨rfl, rfl⟩ | ⟨e, he, hr, -⟩
  · exact h
  · rw [(hfails e r).mp hr]
    show (f _).wp Step P Q st c'
    rw [hfault e he]
    exact wp_fail _ _ _ _

@[simp] theorem wp_get {Q : Object Spec Status k → σ → ApiServer Spec Status → Prop} :
    (Client.get k key).wp Step P Q st c ↔
      P (.get k key) c ∧ ∀ o, c.find? k key = some o → Q o st c := by
  unfold Client.get tryGet
  refine (wp_call_bind id (fun _ _ => Iff.rfl) fun e _ => rfl).trans (and_congr_right fun _ => ?_)
  simp only [handle]
  cases c.find? k key <;> simp

@[simp] theorem wp_getOptional
    {Q : Option (Object Spec Status k) → σ → ApiServer Spec Status → Prop} :
    (getOptional k key).wp Step P Q st c ↔ P (.get k key) c ∧ Q (c.find? k key) st c := by
  unfold getOptional tryGet
  refine (wp_call_bind id (fun _ _ => Iff.rfl) fun e he => ?_).trans (and_congr_right fun _ => ?_)
  · simp [Routine.ignoring, he.1]
  · simp only [handle]
    cases c.find? k key <;> simp [Routine.ignoring, ApiError.isNotFound]

@[simp] theorem wp_list {selector : Object Spec Status k → Bool}
    {Q : List (Object Spec Status k) → σ → ApiServer Spec Status → Prop} :
    (list k selector).wp Step P Q st c ↔
      P (.list k selector) c ∧ Q ((c.objs k).filter selector) st c := by
  unfold list tryList
  refine (wp_call_bind id (fun _ _ => Iff.rfl) fun e _ => rfl).trans (and_congr_right fun _ => ?_)
  exact wp_pure

@[simp] theorem wp_createIfAbsent {Q : Unit → σ → ApiServer Spec Status → Prop} :
    (createIfAbsent k o).wp Step P Q st c ↔
      P (.create k o) c ∧ (c.admits k o = true → Q () st (c.ensured k o)) := by
  unfold createIfAbsent tryCreate
  refine (wp_call_bind id (fun _ _ => Iff.rfl) fun e he => ?_).trans (and_congr_right fun _ => ?_)
  · simp [Routine.ignoring, he.2]
  · simp only [handle, ensured]
    cases c.admits k o with
    | false => simp [Routine.ignoring, ApiError.isAlreadyExists]
    | true => cases c.find? k o.key <;> simp [Routine.ignoring, ApiError.isAlreadyExists]

@[simp] theorem wp_update {Q : Object Spec Status k → σ → ApiServer Spec Status → Prop} :
    (update k o).wp Step P Q st c ↔ P (.update k o) c ∧ ∀ old, c.find? k o.key = some old →
      old.metadata.resourceVersion = o.metadata.resourceVersion →
        Q (c.versioned (updated old o)) st (c.settle k (updated old o)) := by
  unfold update tryUpdate
  refine (wp_call_bind id (fun _ _ => Iff.rfl) fun e _ => rfl).trans (and_congr_right fun _ => ?_)
  simp only [handle]
  cases c.find? k o.key with
  | none => simp
  | some old =>
    by_cases hv : old.metadata.resourceVersion = o.metadata.resourceVersion <;> simp [hv]

@[simp] theorem wp_updateIfPresent {Q : Unit → σ → ApiServer Spec Status → Prop} :
    (updateIfPresent k o).wp Step P Q st c ↔ P (.update k o) c ∧
      (c.find? k o.key = none → Q () st c) ∧ ∀ old, c.find? k o.key = some old →
        old.metadata.resourceVersion = o.metadata.resourceVersion →
          Q () st (c.settle k (updated old o)) := by
  unfold updateIfPresent tryUpdate
  refine (wp_call_bind id (fun _ _ => Iff.rfl) fun e he => ?_).trans (and_congr_right fun _ => ?_)
  · simp [Routine.ignoring, he.1]
  · simp only [handle]
    cases c.find? k o.key with
    | none => simp [Routine.ignoring, ApiError.isNotFound]
    | some old =>
      by_cases hv : old.metadata.resourceVersion = o.metadata.resourceVersion <;>
        simp [Routine.ignoring, hv, ApiError.isNotFound]

@[simp] theorem wp_create {Q : Object Spec Status k → σ → ApiServer Spec Status → Prop} :
    (create k o).wp Step P Q st c ↔ P (.create k o) c ∧ (c.admits k o = true →
      c.find? k o.key = none → Q (c.versioned (c.created o)) st (c.write k (c.created o))) := by
  unfold create tryCreate
  refine (wp_call_bind id (fun _ _ => Iff.rfl) fun e _ => rfl).trans (and_congr_right fun _ => ?_)
  simp only [handle]
  cases c.admits k o with
  | false => simp
  | true => cases c.find? k o.key <;> simp

@[simp] theorem wp_patchStatusIfPresent {change : Status k → Status k}
    {Q : Unit → σ → ApiServer Spec Status → Prop} :
    (patchStatusIfPresent k key change).wp Step P Q st c ↔ P (.patchStatus k key change) c ∧
      (c.find? k key = none → Q () st c) ∧ ∀ old, c.find? k key = some old →
        Q () st (c.write k { old with status := change old.status }) := by
  unfold patchStatusIfPresent
  refine (wp_call_bind id (fun _ _ => Iff.rfl) fun e he => ?_).trans (and_congr_right fun _ => ?_)
  · simp [Routine.ignoring, he.1]
  · simp only [handle]
    cases c.find? k key <;> simp [Routine.ignoring, ApiError.isNotFound]

@[simp] theorem wp_updateStatusIfPresent
    {Q : Option (Object Spec Status k) → σ → ApiServer Spec Status → Prop} :
    (updateStatusIfPresent k o).wp Step P Q st c ↔ P (.updateStatus k o) c ∧
      (c.find? k o.key = none → Q none st c) ∧ ∀ old, c.find? k o.key = some old →
        old.metadata.resourceVersion = o.metadata.resourceVersion →
          Q (some (c.versioned { old with status := o.status })) st
            (c.write k { old with status := o.status }) := by
  unfold updateStatusIfPresent tryUpdateStatus
  refine (wp_call_bind id (fun _ _ => Iff.rfl) fun e he => ?_).trans (and_congr_right fun _ => ?_)
  · simp [Routine.ignoring, he.1]
  · simp only [handle]
    cases c.find? k o.key with
    | none => simp [Routine.ignoring, ApiError.isNotFound]
    | some old =>
      by_cases hv : old.metadata.resourceVersion = o.metadata.resourceVersion <;>
        simp [Routine.ignoring, hv, ApiError.isNotFound]

@[simp] theorem wp_deleteIfPresent {site : String}
    {Q : Unit → σ → ApiServer Spec Status → Prop} :
    (deleteIfPresent k key site).wp Step P Q st c ↔
      P (.delete k key site) c ∧ Q () st (c.dropped k key site) := by
  unfold deleteIfPresent tryDelete
  refine (wp_call_bind id (fun _ _ => Iff.rfl) fun e he => ?_).trans (and_congr_right fun _ => ?_)
  · simp [Routine.ignoring, he.1]
  · simp only [handle, dropped]
    cases c.find? k key <;> simp [Routine.ignoring, ApiError.isNotFound]

@[simp] theorem wp_now {Q : Time → σ → ApiServer Spec Status → Prop} :
    (now).wp Step P Q st c ↔ P .now c ∧ Q c.clock st c := by
  unfold now
  rw [wp_lift]
  refine and_congr_right fun _ => ⟨fun h => h _ _ (step_handle _ c), ?_⟩
  rintro h r c' (⟨rfl, rfl⟩ | ⟨e, -, hf, -⟩)
  · exact h
  · exact hf.elim

end Rules

/-! ## The idioms against a faithful server -/

/-- A call that does not fail for reasons of its own. -/
def Faithful (op : Op Spec Status) (c : ApiServer Spec Status) (r : Resp Spec Status op)
    (c' : ApiServer Spec Status) : Prop :=
  r = (handle op c).1 ∧ c' = (handle op c).2

theorem Faithful.step {op : Op Spec Status} {c c' : ApiServer Spec Status}
    {r : Resp Spec Status op} (h : Faithful op c r c') : Step op c r c' :=
  Or.inl h

section Faithful

open Client Routine

variable {k : Kind} {key : ObjectKey} {o : Object Spec Status k} {st : σ}
  {c : ApiServer Spec Status}

/-- What holds of the runs without error whatever fails holds of those in which nothing fails. -/
theorem wp_faithful {α : Type} {P : Op Spec Status → ApiServer Spec Status → Prop}
    {x : Client Spec Status σ α} {Q : α → σ → ApiServer Spec Status → Prop}
    (h : x.wp Step P Q st c) : x.wp Faithful P Q st c :=
  (Prog.within_true (x st)).handler (fun _ _ _ _ _ hstep => hstep.step) h

theorem succeeds_call_bind {op : Op Spec Status} {β : Type}
    {f : Resp Spec Status op → Client Spec Status σ β} {Q : β → σ → ApiServer Spec Status → Prop}
    (h : (f (handle op c).1).Succeeds Faithful Q st (handle op c).2) :
    ((Routine.lift (Prog.ask op) : Client Spec Status σ _) >>= f).Succeeds Faithful Q st c := by
  refine ⟨trivial, ?_⟩
  rintro r c' ⟨rfl, rfl⟩
  exact h

theorem succeeds_get {Q : Object Spec Status k → σ → ApiServer Spec Status → Prop}
    (hfind : c.find? k key = some o) (h : Q o st c) :
    (Client.get k key).Succeeds Faithful Q st c := by
  refine succeeds_call_bind ?_
  simp only [handle, hfind]
  exact succeeds_pure h

theorem succeeds_getOptional {Q : Option (Object Spec Status k) → σ → ApiServer Spec Status → Prop}
    (h : Q (c.find? k key) st c) : (getOptional k key).Succeeds Faithful Q st c := by
  refine succeeds_call_bind ?_
  cases hfind : c.find? k key with
  | none =>
    rw [hfind] at h
    simp only [handle, hfind]
    exact succeeds_pure h
  | some o =>
    rw [hfind] at h
    simp only [handle, hfind]
    exact succeeds_pure h

theorem succeeds_list {selector : Object Spec Status k → Bool}
    {Q : List (Object Spec Status k) → σ → ApiServer Spec Status → Prop}
    (h : Q ((c.objs k).filter selector) st c) : (list k selector).Succeeds Faithful Q st c :=
  succeeds_call_bind (succeeds_pure h)

theorem succeeds_now {Q : Time → σ → ApiServer Spec Status → Prop} (h : Q c.clock st c) :
    (now).Succeeds Faithful Q st c := by
  refine ⟨trivial, ?_⟩
  rintro r c' ⟨rfl, rfl⟩
  exact ⟨_, rfl, h⟩

/-- The namespace of the object exists. -/
theorem succeeds_createIfAbsent {Q : Unit → σ → ApiServer Spec Status → Prop}
    (hadmits : c.admits k o = true) (h : Q () st (c.ensured k o)) :
    (createIfAbsent k o).Succeeds Faithful Q st c := by
  refine succeeds_call_bind ?_
  unfold ensured at h
  simp only [handle, hadmits, ↓reduceIte]
  cases hfind : c.find? k o.key with
  | none =>
    rw [hfind] at h
    exact succeeds_pure h
  | some old =>
    rw [hfind] at h
    exact succeeds_pure h

theorem succeeds_deleteIfPresent {site : String} {Q : Unit → σ → ApiServer Spec Status → Prop}
    (h : Q () st (c.dropped k key site)) :
    (deleteIfPresent k key site).Succeeds Faithful Q st c := by
  refine succeeds_call_bind ?_
  unfold dropped at h
  simp only [handle]
  cases hfind : c.find? k key with
  | none =>
    rw [hfind] at h
    exact succeeds_pure h
  | some o =>
    rw [hfind] at h
    exact succeeds_pure h

/-- The object that is written was read as it is stored. -/
theorem succeeds_update {new : Object Spec Status k}
    {Q : Object Spec Status k → σ → ApiServer Spec Status → Prop}
    (hold : c.find? k new.key = some o)
    (hversion : new.metadata.resourceVersion = o.metadata.resourceVersion)
    (h : Q (c.versioned (updated o new)) st (c.settle k (updated o new))) :
    (update k new).Succeeds Faithful Q st c := by
  refine succeeds_call_bind ?_
  simp only [handle, hold, hversion, ↓reduceIte]
  exact succeeds_pure h

theorem succeeds_updateIfPresent {new : Object Spec Status k}
    {Q : Unit → σ → ApiServer Spec Status → Prop} (hold : c.find? k new.key = some o)
    (hversion : new.metadata.resourceVersion = o.metadata.resourceVersion)
    (h : Q () st (c.settle k (updated o new))) :
    (updateIfPresent k new).Succeeds Faithful Q st c := by
  refine succeeds_call_bind ?_
  simp only [handle, hold, hversion, ↓reduceIte]
  exact succeeds_pure h

theorem succeeds_updateStatusIfPresent {new : Object Spec Status k}
    {Q : Option (Object Spec Status k) → σ → ApiServer Spec Status → Prop}
    (hold : c.find? k new.key = some o)
    (hversion : new.metadata.resourceVersion = o.metadata.resourceVersion)
    (h : Q (some (c.versioned { o with status := new.status })) st
      (c.write k { o with status := new.status })) :
    (updateStatusIfPresent k new).Succeeds Faithful Q st c := by
  refine succeeds_call_bind ?_
  simp only [handle, hold, hversion, ↓reduceIte]
  exact succeeds_pure h

/-- The run against the faithful server, of a routine that does not fail. -/
theorem run_of_succeeds {α : Type} {x : Client Spec Status σ α}
    {Q : α → σ → ApiServer Spec Status → Prop} (h : x.Succeeds Faithful Q st c) :
    ∃ a, ((x st).run handle c).1.1 = .ok a ∧
      Q a ((x st).run handle c).1.2 ((x st).run handle c).2 :=
  ((Prog.exec_run (H := Faithful) (fun _ _ => ⟨rfl, rfl⟩) (x st) c).wp h).2

/-- The run against the faithful server, when it ends without error. -/
theorem run_of_wp {α : Type} {P : Op Spec Status → ApiServer Spec Status → Prop}
    {x : Client Spec Status σ α} {Q : α → σ → ApiServer Spec Status → Prop}
    (h : x.wp Step P Q st c) {a : α} (hok : ((x st).run handle c).1.1 = .ok a) :
    Q a ((x st).run handle c).1.2 ((x st).run handle c).2 := by
  have hpost := ((Prog.exec_run step_handle (x st) c).wp h).2
  generalize (x st).run handle c = out at hok hpost
  obtain ⟨⟨r, st'⟩, c'⟩ := out
  obtain rfl : r = .ok a := hok
  exact hpost

end Faithful

/-! ## The calls the idioms make -/

section Calls

open Client Routine

variable {k : Kind} {key : ObjectKey} {o : Object Spec Status k} {st : σ}
  {c : ApiServer Spec Status} {P : Op Spec Status → ApiServer Spec Status → Prop}

theorem always_call {op : Op Spec Status} (h : P op c) :
    (Routine.lift (Prog.ask op) : Client Spec Status σ _).Always Step P st c :=
  wp_lift.mpr ⟨h, fun _ _ _ => trivial⟩

theorem always_get (h : P (.get k key) c) :
    (Client.get k key : Client Spec Status σ _).Always Step P st c :=
  (always_call h).bind fun r => always_ofExcept r

theorem always_getOptional (h : P (.get k key) c) :
    (getOptional k key : Client Spec Status σ _).Always Step P st c :=
  (always_call h).bind fun r => always_ignoring _ _ _ r

theorem always_list {selector : Object Spec Status k → Bool} (h : P (.list k selector) c) :
    (list k selector : Client Spec Status σ _).Always Step P st c :=
  (always_call h).bind fun r => always_ofExcept r

theorem always_createIfAbsent (h : P (.create k o) c) :
    (createIfAbsent k o : Client Spec Status σ _).Always Step P st c :=
  (always_call h).bind fun r => always_ignoring _ _ _ r

theorem always_update (h : P (.update k o) c) :
    (update k o : Client Spec Status σ _).Always Step P st c :=
  (always_call h).bind fun r => always_ofExcept r

theorem always_updateIfPresent (h : P (.update k o) c) :
    (updateIfPresent k o : Client Spec Status σ _).Always Step P st c :=
  (always_call h).bind fun r => always_ignoring _ _ _ r

theorem always_updateStatus (h : P (.updateStatus k o) c) :
    (updateStatus k o : Client Spec Status σ _).Always Step P st c :=
  (always_call h).bind fun r => always_ofExcept r

theorem always_updateStatusIfPresent (h : P (.updateStatus k o) c) :
    (updateStatusIfPresent k o : Client Spec Status σ _).Always Step P st c :=
  (always_call h).bind fun r => always_ignoring _ _ _ r

theorem always_deleteIfPresent {site : String} (h : P (.delete k key site) c) :
    (deleteIfPresent k key site : Client Spec Status σ _).Always Step P st c :=
  (always_call h).bind fun r => always_ignoring _ _ _ r

/-! ## The idioms under any handler -/

section Handler

variable {S : Type} {H : (op : Op Spec Status) → S → Resp Spec Status op → S → Prop}
  {P : Op Spec Status → S → Prop} {s : S}

/-- A read under any handler : what it returns was answered. -/
theorem wp_getOptional_of {Q : Option (Object Spec Status k) → σ → S → Prop}
    (hP : P (.get k key) s) (hsome : ∀ o s', H (.get k key) s (.ok o) s' → Q (some o) st s')
    (hnone : ∀ a s', H (.get k key) s a s' → Q none st s') :
    (getOptional k key).wp H P Q st s :=
  wp_bind_ignoring (wp_lift.mpr ⟨hP, fun a s' ha =>
    ⟨fun o ho => hsome o s' (ho ▸ ha), fun _ _ _ => hnone a s' ha⟩⟩)

theorem wp_get_of {Q : Object Spec Status k → σ → S → Prop} (hP : P (.get k key) s)
    (h : ∀ o s', H (.get k key) s (.ok o) s' → Q o st s') : (Client.get k key).wp H P Q st s :=
  wp_bind_ofExcept (wp_lift.mpr ⟨hP, fun _ s' ha o ho => h o s' (ho ▸ ha)⟩)

theorem wp_list_of {selector : Object Spec Status k → Bool}
    {Q : List (Object Spec Status k) → σ → S → Prop} (hP : P (.list k selector) s)
    (h : ∀ l s', H (.list k selector) s (.ok l) s' → Q l st s') :
    (Client.list k selector).wp H P Q st s :=
  wp_bind_ofExcept (wp_lift.mpr ⟨hP, fun _ s' ha l hl => h l s' (hl ▸ ha)⟩)

theorem wp_create_of {Q : Object Spec Status k → σ → S → Prop} (hP : P (.create k o) s)
    (h : ∀ o' s', H (.create k o) s (.ok o') s' → Q o' st s') : (create k o).wp H P Q st s :=
  wp_bind_ofExcept (wp_lift.mpr ⟨hP, fun _ s' ha o' ho' => h o' s' (ho' ▸ ha)⟩)

theorem wp_update_of {Q : Object Spec Status k → σ → S → Prop} (hP : P (.update k o) s)
    (h : ∀ o' s', H (.update k o) s (.ok o') s' → Q o' st s') : (update k o).wp H P Q st s :=
  wp_bind_ofExcept (wp_lift.mpr ⟨hP, fun _ s' ha o' ho' => h o' s' (ho' ▸ ha)⟩)

theorem wp_updateStatus_of {Q : Object Spec Status k → σ → S → Prop} (hP : P (.updateStatus k o) s)
    (h : ∀ o' s', H (.updateStatus k o) s (.ok o') s' → Q o' st s') :
    (updateStatus k o).wp H P Q st s :=
  wp_bind_ofExcept (wp_lift.mpr ⟨hP, fun _ s' ha o' ho' => h o' s' (ho' ▸ ha)⟩)

/-- A write that may find the object gone. -/
theorem wp_updateStatusIfPresent_answered {Q : Option (Object Spec Status k) → σ → S → Prop}
    (hP : P (.updateStatus k o) s)
    (hsome : ∀ o' s', H (.updateStatus k o) s (.ok o') s' → Q (some o') st s')
    (hnone : ∀ e s', e.isNotFound = true → H (.updateStatus k o) s (.error e) s' → Q none st s') :
    (updateStatusIfPresent k o).wp H P Q st s :=
  wp_bind_ignoring (wp_lift.mpr ⟨hP, fun _ s' ha =>
    ⟨fun o' ho' => hsome o' s' (ho' ▸ ha), fun e he hgone => hnone e s' hgone (he ▸ ha)⟩⟩)

/-- The same, whatever is answered. -/
theorem wp_updateStatusIfPresent_of {Q : Option (Object Spec Status k) → σ → S → Prop}
    (hP : P (.updateStatus k o) s) (h : ∀ a s', H (.updateStatus k o) s a s' → ∀ o', Q o' st s') :
    (updateStatusIfPresent k o).wp H P Q st s :=
  wp_updateStatusIfPresent_answered hP (fun _ s' ha => h _ s' ha _) fun _ s' _ ha => h _ s' ha _

theorem wp_patchStatusIfPresent_of {change : Status k → Status k} {Q : Unit → σ → S → Prop}
    (hP : P (.patchStatus k key change) s)
    (h : ∀ a s', H (.patchStatus k key change) s a s' → Q () st s') :
    (patchStatusIfPresent k key change).wp H P Q st s :=
  wp_bind_ignoring (wp_lift.mpr ⟨hP, fun a s' ha => ⟨fun _ _ => h a s' ha, fun _ _ _ => h a s' ha⟩⟩)

theorem wp_deleteIfPresent_of {site : String} {Q : Unit → σ → S → Prop}
    (hP : P (.delete k key site) s) (h : ∀ a s', H (.delete k key site) s a s' → Q () st s') :
    (deleteIfPresent k key site).wp H P Q st s :=
  wp_bind_ignoring (wp_lift.mpr ⟨hP, fun a s' ha => ⟨fun _ _ => h a s' ha, fun _ _ _ => h a s' ha⟩⟩)

end Handler

/-! ## The idioms leave the record alone -/

section Frame

variable {τ : Type} {P : Op Spec Status → Prop} {f : σ → τ}

theorem frame_get (h : P (.get k key)) : (Client.get k key : Client Spec Status σ _).Frame P f :=
  (frame_call h).bind fun r => frame_ofExcept r

theorem frame_getOptional (h : P (.get k key)) :
    (getOptional k key : Client Spec Status σ _).Frame P f :=
  (frame_call h).bind fun r => frame_ignoring _ _ _ r

theorem frame_list {selector : Object Spec Status k → Bool} (h : P (.list k selector)) :
    (list k selector : Client Spec Status σ _).Frame P f :=
  (frame_call h).bind fun r => frame_ofExcept r

theorem frame_createIfAbsent (h : P (.create k o)) :
    (createIfAbsent k o : Client Spec Status σ _).Frame P f :=
  (frame_call h).bind fun r => frame_ignoring _ _ _ r

theorem frame_update (h : P (.update k o)) : (update k o : Client Spec Status σ _).Frame P f :=
  (frame_call h).bind fun r => frame_ofExcept r

theorem frame_updateIfPresent (h : P (.update k o)) :
    (updateIfPresent k o : Client Spec Status σ _).Frame P f :=
  (frame_call h).bind fun r => frame_ignoring _ _ _ r

theorem frame_updateStatusIfPresent (h : P (.updateStatus k o)) :
    (updateStatusIfPresent k o : Client Spec Status σ _).Frame P f :=
  (frame_call h).bind fun r => frame_ignoring _ _ _ r

theorem frame_deleteIfPresent {site : String} (h : P (.delete k key site)) :
    (deleteIfPresent k key site : Client Spec Status σ _).Frame P f :=
  (frame_call h).bind fun r => frame_ignoring _ _ _ r

end Frame

/-! ## Invariants that tie the record to the state -/

section Maintains

variable {H : (op : Op Spec Status) → ApiServer Spec Status → Resp Spec Status op →
    ApiServer Spec Status → Prop} {I : σ → ApiServer Spec Status → Prop}

theorem maintains_createIfAbsent (h : ∀ st c, I st c → P (.create k o) c ∧
    ∀ a c', H (.create k o) c a c' → I st c') :
    (createIfAbsent k o : Client Spec Status σ _).Maintains H P I :=
  (maintains_call h).bind fun r => maintains_ignoring _ _ _ r

theorem maintains_updateStatusIfPresent (h : ∀ st c, I st c → P (.updateStatus k o) c ∧
    ∀ a c', H (.updateStatus k o) c a c' → I st c') :
    (updateStatusIfPresent k o : Client Spec Status σ _).Maintains H P I :=
  (maintains_call h).bind fun r => maintains_ignoring _ _ _ r

theorem maintains_deleteIfPresent {site : String} (h : ∀ st c, I st c → P (.delete k key site) c ∧
    ∀ a c', H (.delete k key site) c a c' → I st c') :
    (deleteIfPresent k key site : Client Spec Status σ _).Maintains H P I :=
  (maintains_call h).bind fun r => maintains_ignoring _ _ _ r

/-- A read whose answer matters to what follows. -/
theorem leads_getOptional_bind {α : Type} {F : σ → ApiServer Spec Status → Prop}
    {f : Option (Object Spec Status k) → Client Spec Status σ α}
    (h : ∀ st c, I st c → P (.get k key) c ∧ ∀ a c', H (.get k key) c a c' → I st c')
    (hF : ∀ st c, I st c → F st c) (hnone : (f none).Leads H P I F)
    (hsome : ∀ o st c c', I st c → H (.get k key) c (.ok o) c' →
      (f (some o) st).wp H P (fun r c' => F r.2 c') c') :
    (getOptional k key >>= f).Leads H P I F := by
  refine fun st c hI => ⟨(h st c hI).1, fun a c' ha => ?_⟩
  have hc' := (h st c hI).2 a c' ha
  cases a with
  | ok o => exact hsome o st c c' hI ha
  | error e =>
    by_cases he : e.isNotFound = true
    · simp only [Prog.bind, Routine.ignoring, he, ↓reduceIte]
      exact hnone st c' hc'
    · simp only [Prog.bind, Routine.ignoring, he]
      exact hF st c' hc'

end Maintains

/-! ## Sweeping

Delete the objects that a list call has returned, but for those to be kept. -/

/-- What a sweep over the objects that `sel` selects has made of the one under `key`. -/
structure Swept (sel : Object Spec Status k → Bool) (keep : Object Spec Status k → Prop)
    (site : String) (c : ApiServer Spec Status) (key : ObjectKey) (c' : ApiServer Spec Status) :
    Prop where
  deleted : ∀ o, c.find? k key = some o → sel o = true → ¬keep o → ∃ c₁ : ApiServer Spec Status,
    c₁.find? k key = some o ∧ c'.find? k key = (c₁.dropped k key site).find? k key
  kept : (∀ o, c.find? k key = some o → sel o = true → keep o) → c'.find? k key = c.find? k key

section Sweep

variable {sel : Object Spec Status k → Bool} {keep : Object Spec Status k → Prop} {site : String}
  {c' : ApiServer Spec Status}

/-- An object that nothing holds is gone after the sweep. -/
theorem Swept.free (h : Swept sel keep site c key c') (ho : c.find? k key = some o)
    (hsel : sel o = true) (hkeep : ¬keep o) (hlive : o.deleting = false)
    (hfinalizers : o.metadata.finalizers = []) (hgraceful : KindInfo.graceful k = false) :
    c'.find? k key = none := by
  obtain ⟨c₁, ho₁, hc'⟩ := h.deleted o ho hsel hkeep
  rw [hc']
  exact find?_dropped_of_free site ho₁ hlive hfinalizers hgraceful

/-- An object that something holds is still there, with its labels and its spec. -/
theorem Swept.held (h : Swept sel keep site c key c') (ho : c.find? k key = some o)
    (hsel : sel o = true) (hkeep : ¬keep o)
    (hheld : o.deleting = true ∨ o.metadata.finalizers ≠ []) :
    ∃ o', c'.find? k key = some o' ∧ o'.metadata.labels = o.metadata.labels ∧ o'.spec = o.spec := by
  obtain ⟨c₁, ho₁, hc'⟩ := h.deleted o ho hsel hkeep
  rw [hc']
  exact find?_dropped_of_held site ho₁ hheld

/-- What is left of an object that was swept is being deleted, and something held it. -/
theorem Swept.left {o' : Object Spec Status k} (h : Swept sel keep site c key c')
    (ho : c.find? k key = some o) (hsel : sel o = true) (hkeep : ¬keep o)
    (ho' : c'.find? k key = some o') : o'.deleting = true ∧
      (o.deleting = true ∨ KindInfo.graceful k = true ∨ o.metadata.finalizers ≠ []) := by
  obtain ⟨c₁, ho₁, hc'⟩ := h.deleted o ho hsel hkeep
  obtain ⟨hdeleting, old, hold, hheld⟩ := of_find?_dropped (hc'.symm.trans ho')
  obtain rfl := Option.some.inj (ho₁.symm.trans hold)
  exact ⟨hdeleting, hheld⟩

/-- It is about what stands under `key` only. -/
theorem Swept.congr (h : Swept sel keep site c key c') {c'' : ApiServer Spec Status}
    (hsame : c''.find? k key = c'.find? k key) : Swept sel keep site c key c'' := by
  refine ⟨?_, ?_⟩ <;> rw [hsame]
  exacts [h.deleted, h.kept]

theorem ends_sweep [DecidablePred keep] :
    (Routine.forEach ((c.objs k).filter sel) fun o =>
      if keep o then pure () else (deleteIfPresent k o.key site : Client Spec Status σ Unit)).Ends
      Step (fun _ _ c' => ∀ key, Swept sel keep site c key c') st c := by
  -- A selected object is still listed, as it was, or it has been dealt with.
  refine wp_post (wp_forEach (fun l _ c' => Listed k l c' ∧
    (∀ o ∈ l, c.find? k o.key = some o ∧ sel o = true) ∧
    ∀ key, (∃ o ∈ l, o.key = key) ∨ Swept sel keep site c key c') ?_ _
    ⟨listed_filter c _ _, ?_, ?_⟩) ?_
  · rintro o l st c' ⟨hlisted, hstart, hdone⟩
    obtain ⟨⟨ho, hsel⟩, hl⟩ := List.forall_mem_cons.mp hstart
    have hrest : ∀ c'' : ApiServer Spec Status, (∀ key, key ≠ o.key →
        c''.find? k key = c'.find? k key) → Swept sel keep site c o.key c'' →
        ∀ key, (∃ o' ∈ l, o'.key = key) ∨ Swept sel keep site c key c'' := by
      intro c'' hother hthis key
      by_cases hkey : key = o.key
      · exact Or.inr (hkey ▸ hthis)
      rcases hdone key with ⟨o', hmem, hkey'⟩ | hdone
      · rcases List.mem_cons.mp hmem with rfl | hmem
        · exact absurd hkey'.symm hkey
        · exact Or.inl ⟨o', hmem, hkey'⟩
      · exact Or.inr (hdone.congr (hother key hkey))
    have hstored := hlisted.stored o List.mem_cons_self
    refine wp_ite (fun hkeep => ?_) fun hdrop => ?_
    · refine ⟨hlisted.tail fun _ _ => rfl, hl, hrest c' (fun _ _ => rfl) ⟨?_, fun _ => ?_⟩⟩
      · intro o' ho' _ hdrop
        obtain rfl := Option.some.inj (ho.symm.trans ho')
        exact absurd hkeep hdrop
      · exact hstored.trans ho.symm
    · have hother : ∀ key, key ≠ o.key →
          (c'.dropped k o.key site).find? k key = c'.find? k key :=
        fun key hne => find?_dropped_ne fun he => hne (Prod.mk.inj he).2
      refine wp_deleteIfPresent.mpr
        ⟨trivial, hlisted.tail hother, hl, hrest _ hother ⟨?_, fun hall => ?_⟩⟩
      · intro o' ho' _ _
        obtain rfl := Option.some.inj (ho.symm.trans ho')
        exact ⟨c', hstored, rfl⟩
      · exact absurd (hall o ho hsel) hdrop
  · intro o ho
    obtain ⟨hmem, hsel⟩ := List.mem_filter.mp ho
    exact ⟨mem_objs_iff.mp hmem, hsel⟩
  · intro key
    by_cases hsel : ∃ o, c.find? k key = some o ∧ sel o = true
    · obtain ⟨o, ho, hsel⟩ := hsel
      exact Or.inl ⟨o, List.mem_filter.mpr ⟨mem_of_find? ho, hsel⟩, key_of_find? ho⟩
    · refine Or.inr ⟨fun o ho hsel' => absurd ⟨o, ho, hsel'⟩ hsel, fun _ => rfl⟩
  · rintro _ _ c' ⟨-, -, hdone⟩ key
    exact (hdone key).resolve_left (by simp)

end Sweep

/-- A routine whose calls target the kinds `ks` only leaves the rest as it was, at each of its
calls and at the end. -/
theorem wp_sameOutside {ks : List Kind} {α : Type} {x : Client Spec Status σ α}
    {Q : α → σ → ApiServer Spec Status → Prop} (hP : ∀ op c, P op c → op.Within ks)
    (hx : x.wp Step P Q st c) :
    x.wp Step (fun op c' => P op c' ∧ SameOutside ks c c')
      (fun a st' c' => Q a st' c' ∧ SameOutside ks c c') st c :=
  wp_preserves (fun op _ _ _ hop hs h => h.trans (hs.sameOutside (hP op _ hop))) hx
    (SameOutside.refl ks c)

/-- The same of a routine that does not fail. -/
theorem succeeds_sameOutside {ks : List Kind} {α : Type} {x : Client Spec Status σ α}
    {Q : α → σ → ApiServer Spec Status → Prop} (hx : x.Succeeds Faithful Q st c)
    (hwithin : x.Always Step (fun op _ => op.Within ks) st c) :
    x.Succeeds Faithful (fun a st' c' => Q a st' c' ∧ SameOutside ks c c') st c := by
  have hsame := wp_faithful (wp_sameOutside (fun _ _ => id) hwithin)
  exact (hx.and hsame).mono fun _ _ _ h => ⟨h.1, h.2.2⟩

end Calls

end ApiServer
