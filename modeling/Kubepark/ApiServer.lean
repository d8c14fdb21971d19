import Kubepark.KeyedStore
import Kubepark.Prog
import Mathlib.Logic.Function.Basic

/-!
# An API server with optimistic concurrency, finalizers and graceful deletion

A server stores objects of several kinds under a namespace and a name. The kinds, and
what an object's spec and status are for each kind, are parameters. Each write gives the
object a new resource version; an update carries the version it was read at and is
refused when the stored one has moved on. A status is written by calls of its own, and
neither kind of update touches the other half. A deleted object with finalizers, or of a
kind that is deleted gracefully, stays with a deletion timestamp; an update that removes
the last finalizer of such an object removes it.

`handle` is the faithful server. `Step` is the server as a caller sees it : a call may
also fail with an error that says nothing about the store, and a write that failed may
have been made or not. `Step.find?` is the frame rule : a call changes at most the object
it targets.
-/

set_option linter.unusedSectionVars false

/-- Errors a call returns. -/
inductive ApiError
  | notFound
  | alreadyExists
  | conflict
  /-- Any other failure : a timeout, a refused request, a broken connection. -/
  | other
  | text (message : String)
  /-- An error with context put in front of it. -/
  | wrap (context : String) (e : ApiError)
  deriving DecidableEq, Repr

namespace ApiError

/-- Whether the error, seen through its context, reports a missing object. -/
def isNotFound : ApiError → Bool
  | notFound => true
  | wrap _ e => e.isNotFound
  | _ => false

/-- Whether the error, seen through its context, reports an object that is there. -/
def isAlreadyExists : ApiError → Bool
  | alreadyExists => true
  | wrap _ e => e.isAlreadyExists
  | _ => false

/-- Errors that say nothing about what is stored. -/
def IsFault (e : ApiError) : Prop :=
  e.isNotFound = false ∧ e.isAlreadyExists = false

theorem isFault_other : other.IsFault :=
  ⟨rfl, rfl⟩

end ApiError

/-- The namespace and name of an object. A cluster-scoped object has no namespace. -/
structure ObjectKey where
  namespaceName : String
  name : String
  deriving DecidableEq, Repr

/-- Instants and durations, in nanoseconds. -/
abbrev Time := Int

/-- The metadata of an object. -/
structure ObjectMeta where
  name : String
  namespaceName : String := ""
  uid : String := ""
  labels : List (String × String) := []
  annotations : List (String × String) := []
  creationTimestamp : Time := 0
  deletionTimestamp : Option Time := none
  finalizers : List String := []
  /-- The UIDs of the owners. -/
  ownerReferences : List String := []
  resourceVersion : Nat := 0
  generation : Nat := 0
  /-- The call site whose delete set the deletion timestamp. Nothing reads it but
  specifications. -/
  deletedBy : String := ""
  deriving DecidableEq, Repr

/-- An object of kind `k` : metadata, spec and status. -/
structure Object {Kind : Type} (Spec Status : Kind → Type) (k : Kind) where
  metadata : ObjectMeta
  spec : Spec k
  status : Status k

namespace Object

variable {Kind : Type} {Spec Status : Kind → Type} {k : Kind}

/-- The key an object is stored under. -/
def key (o : Object Spec Status k) : ObjectKey :=
  ⟨o.metadata.namespaceName, o.metadata.name⟩

instance : Keyed (Object Spec Status k) ObjectKey where
  key := key

@[simp] theorem keyed_key (o : Object Spec Status k) : Keyed.key o = o.key :=
  rfl

/-- Whether the object is being deleted. -/
def deleting (o : Object Spec Status k) : Bool :=
  o.metadata.deletionTimestamp.isSome

end Object

/-- What the server knows of a kind. -/
class KindInfo (Kind : Type) where
  /-- A deleted object of this kind stays for its grace period. -/
  graceful : Kind → Bool
  /-- Objects of this kind live in a namespace. -/
  namespaced : Kind → Bool
  /-- The kind whose objects are the namespaces. -/
  namespaceKind : Kind

/-- The state of the server. -/
structure ApiServer {Kind : Type} (Spec Status : Kind → Type) where
  store : (k : Kind) → KeyedStore (Object Spec Status k)
  /-- The last resource version handed out. -/
  revision : Nat := 0
  clock : Time := 0
  /-- Source of values that are never handed out twice. -/
  entropy : Nat := 0

namespace ApiServer

section Calls

variable {Kind : Type} (Spec Status : Kind → Type)

/-- The calls a client makes. -/
inductive Op
  | get (k : Kind) (key : ObjectKey)
  | list (k : Kind) (selector : Object Spec Status k → Bool)
  | create (k : Kind) (o : Object Spec Status k)
  /-- Write the labels, annotations, finalizers, owners and spec of `o`. -/
  | update (k : Kind) (o : Object Spec Status k)
  /-- Write the status of `o`. -/
  | updateStatus (k : Kind) (o : Object Spec Status k)
  /-- Change the stored spec, whatever its resource version. -/
  | patch (k : Kind) (key : ObjectKey) (change : Spec k → Spec k)
  /-- Change the stored status, whatever its resource version. -/
  | patchStatus (k : Kind) (key : ObjectKey) (change : Status k → Status k)
  /-- Delete; `site` names the call site. -/
  | delete (k : Kind) (key : ObjectKey) (site : String)
  /-- Read the clock. -/
  | now
  /-- Draw a value that was never handed out before. -/
  | fresh

/-- The response to a call. -/
@[reducible] def Resp : Op Spec Status → Type
  | .get k _ => Except ApiError (Object Spec Status k)
  | .list k _ => Except ApiError (List (Object Spec Status k))
  | .create k _ => Except ApiError (Object Spec Status k)
  | .update k _ => Except ApiError (Object Spec Status k)
  | .updateStatus k _ => Except ApiError (Object Spec Status k)
  | .patch k _ _ => Except ApiError (Object Spec Status k)
  | .patchStatus k _ _ => Except ApiError (Object Spec Status k)
  | .delete _ _ _ => Except ApiError Unit
  | .now => Time
  | .fresh => Except ApiError Nat

end Calls

variable {Kind : Type} [DecidableEq Kind] {Spec Status : Kind → Type}

/-- The object of kind `k` stored under `key`. -/
def find? (c : ApiServer Spec Status) (k : Kind) (key : ObjectKey) :
    Option (Object Spec Status k) :=
  (c.store k).find? key

/-- The objects of kind `k`. -/
def objs (c : ApiServer Spec Status) (k : Kind) : List (Object Spec Status k) :=
  (c.store k).objs

theorem mem_objs_iff {c : ApiServer Spec Status} {k : Kind} {o : Object Spec Status k} :
    o ∈ c.objs k ↔ c.find? k o.key = some o :=
  KeyedStore.mem_objs_iff

theorem key_of_find? {c : ApiServer Spec Status} {k : Kind} {key : ObjectKey}
    {o : Object Spec Status k} (h : c.find? k key = some o) : o.key = key :=
  KeyedStore.key_of_find? h

theorem mem_of_find? {c : ApiServer Spec Status} {k : Kind} {key : ObjectKey}
    {o : Object Spec Status k} (h : c.find? k key = some o) : o ∈ c.objs k :=
  KeyedStore.mem_of_find? h

/-- Store `o` with the next resource version. -/
def write (c : ApiServer Spec Status) (k : Kind) (o : Object Spec Status k) :
    ApiServer Spec Status :=
  { c with
    store := Function.update c.store k ((c.store k).put
      { o with metadata.resourceVersion := c.revision + 1 })
    revision := c.revision + 1 }

/-- Drop the object stored under `key`. -/
def remove (c : ApiServer Spec Status) (k : Kind) (key : ObjectKey) : ApiServer Spec Status :=
  { c with
    store := Function.update c.store k ((c.store k).erase key)
    revision := c.revision + 1 }

section Frame

variable (c : ApiServer Spec Status) (k : Kind) (o : Object Spec Status k) (key : ObjectKey)

@[simp] theorem clock_write : (c.write k o).clock = c.clock :=
  rfl

@[simp] theorem clock_remove : (c.remove k key).clock = c.clock :=
  rfl

@[simp] theorem find?_write_self :
    (c.write k o).find? k o.key =
      some { o with metadata.resourceVersion := c.revision + 1 } := by
  simp only [find?, write, Function.update_self]
  exact KeyedStore.find?_put_of_key _ rfl

theorem find?_write_ne {k' : Kind} {key' : ObjectKey} (h : (⟨k', key'⟩ : Kind × ObjectKey) ≠ (k, o.key)) :
    (c.write k o).find? k' key' = c.find? k' key' := by
  unfold find? write
  by_cases hk : k' = k
  · subst hk
    simp only [Function.update_self]
    exact KeyedStore.find?_put_ne _ fun he => h (by rw [he]; rfl)
  · simp only [Function.update_of_ne hk]

/-- A search through the objects of a kind that picks neither the object written nor the
one it replaces. -/
theorem find?_objs_write {o : Object Spec Status k} {p : Object Spec Status k → Bool}
    (ho : p { o with metadata.resourceVersion := c.revision + 1 } = false)
    (hold : ∀ o' ∈ c.objs k, o'.key = o.key → p o' = false) :
    ((c.write k o).objs k).find? p = (c.objs k).find? p := by
  simp only [objs, write, Function.update_self]
  exact KeyedStore.find?_objs_put _ ho hold

@[simp] theorem find?_remove_self : (c.remove k key).find? k key = none := by
  simp [find?, remove]

theorem find?_remove_ne {k' : Kind} {key' : ObjectKey} (h : (⟨k', key'⟩ : Kind × ObjectKey) ≠ (k, key)) :
    (c.remove k key).find? k' key' = c.find? k' key' := by
  unfold find? remove
  by_cases hk : k' = k
  · subst hk
    simp only [Function.update_self]
    exact KeyedStore.find?_erase_ne _ fun he => h (by rw [he])
  · simp only [Function.update_of_ne hk]

theorem find?_of_remove {k' : Kind} {key' : ObjectKey} {o' : Object Spec Status k'}
    (h : (c.remove k key).find? k' key' = some o') : c.find? k' key' = some o' := by
  by_cases he : (⟨k', key'⟩ : Kind × ObjectKey) = (k, key)
  · obtain ⟨rfl, rfl⟩ := Prod.mk.inj he
    rw [find?_remove_self] at h
    cases h
  · rwa [find?_remove_ne c k key he] at h

end Frame

/-! ## The faithful server -/

variable [KindInfo Kind] [∀ k, DecidableEq (Spec k)] [∀ k, Inhabited (Status k)]

/-- Whether an object may be created where it says : its namespace exists. -/
def admits (c : ApiServer Spec Status) (k : Kind) (o : Object Spec Status k) : Bool :=
  !KindInfo.namespaced k ||
    (c.find? (KindInfo.namespaceKind : Kind) ⟨"", o.metadata.namespaceName⟩).isSome

/-- What is stored for a new object `o`. The status is the server's to fill in. -/
def created (c : ApiServer Spec Status) {k : Kind} (o : Object Spec Status k) :
    Object Spec Status k where
  metadata := { o.metadata with
    creationTimestamp := c.clock, deletionTimestamp := none, generation := 1, deletedBy := "" }
  spec := o.spec
  status := default

/-- What an update by `o` makes of the stored object `old`. -/
def updated {k : Kind} (old o : Object Spec Status k) : Object Spec Status k where
  metadata := { old.metadata with
    labels := o.metadata.labels
    annotations := o.metadata.annotations
    finalizers := o.metadata.finalizers
    ownerReferences := o.metadata.ownerReferences
    generation := if old.spec = o.spec then old.metadata.generation else old.metadata.generation + 1 }
  spec := o.spec
  status := old.status

/-- What a spec patch makes of the stored object `old`. -/
def patched {k : Kind} (change : Spec k → Spec k) (old : Object Spec Status k) :
    Object Spec Status k :=
  { old with
    spec := change old.spec
    metadata.generation :=
      if old.spec = change old.spec then old.metadata.generation else old.metadata.generation + 1 }

/-- `o` marked for deletion. -/
def terminated (c : ApiServer Spec Status) {k : Kind} (site : String) (o : Object Spec Status k) :
    Object Spec Status k :=
  { o with metadata.deletionTimestamp := some c.clock, metadata.deletedBy := site }

/-- The state after the object `old`, stored under `key`, is deleted. -/
def deleted (c : ApiServer Spec Status) (k : Kind) (key : ObjectKey) (site : String)
    (old : Object Spec Status k) : ApiServer Spec Status :=
  if old.deleting then c
  else if KindInfo.graceful k || !old.metadata.finalizers.isEmpty then
    c.write k (c.terminated site old)
  else c.remove k key

/-- Write `new` over a stored object, or drop it when its last finalizer is gone. -/
def settle (c : ApiServer Spec Status) (k : Kind) (new : Object Spec Status k) :
    ApiServer Spec Status :=
  if new.deleting && new.metadata.finalizers.isEmpty && !KindInfo.graceful k then
    c.remove k new.key
  else c.write k new

/-- `o` as a response carries it. -/
def versioned (c : ApiServer Spec Status) {k : Kind} (o : Object Spec Status k) :
    Object Spec Status k :=
  { o with metadata.resourceVersion := c.revision + 1 }

/-- The response and the state after a call. -/
def handle : (op : Op Spec Status) → ApiServer Spec Status →
    Resp Spec Status op × ApiServer Spec Status
  | .get k key, c =>
    match c.find? k key with
    | some o => (.ok o, c)
    | none => (.error .notFound, c)
  | .list k selector, c => (.ok ((c.objs k).filter selector), c)
  | .create k o, c =>
    if c.admits k o then
      match c.find? k o.key with
      | some _ => (.error .alreadyExists, c)
      | none => (.ok (c.versioned (c.created o)), c.write k (c.created o))
    else (.error .notFound, c)
  | .update k o, c =>
    match c.find? k o.key with
    | none => (.error .notFound, c)
    | some old =>
      if old.metadata.resourceVersion = o.metadata.resourceVersion then
        (.ok (c.versioned (updated old o)), c.settle k (updated old o))
      else (.error .conflict, c)
  | .updateStatus k o, c =>
    match c.find? k o.key with
    | none => (.error .notFound, c)
    | some old =>
      if old.metadata.resourceVersion = o.metadata.resourceVersion then
        (.ok (c.versioned { old with status := o.status }), c.write k { old with status := o.status })
      else (.error .conflict, c)
  | .patch k key change, c =>
    match c.find? k key with
    | none => (.error .notFound, c)
    | some old => (.ok (c.versioned (patched change old)), c.write k (patched change old))
  | .patchStatus k key change, c =>
    match c.find? k key with
    | none => (.error .notFound, c)
    | some old =>
      (.ok (c.versioned { old with status := change old.status }),
        c.write k { old with status := change old.status })
  | .delete k key site, c =>
    match c.find? k key with
    | none => (.error .notFound, c)
    | some old => (.ok (), c.deleted k key site old)
  | .now, c => (c.clock, c)
  | .fresh, c => (.ok c.entropy, { c with entropy := c.entropy + 1 })

/-! ## The server as a caller sees it -/

/-- The response `r` to `op` is the error `e`. Reading the clock does not fail. -/
def Fails : (op : Op Spec Status) → ApiError → Resp Spec Status op → Prop
  | .get _ _, e, r => r = .error e
  | .list _ _, e, r => r = .error e
  | .create _ _, e, r => r = .error e
  | .update _ _, e, r => r = .error e
  | .updateStatus _ _, e, r => r = .error e
  | .patch _ _ _, e, r => r = .error e
  | .patchStatus _ _ _, e, r => r = .error e
  | .delete _ _ _, e, r => r = .error e
  | .now, _, _ => False
  | .fresh, e, r => r = .error e

/-- A call is answered faithfully, or fails with an error that says nothing about the
store, whether or not its effect was made. -/
def Step (op : Op Spec Status) (c : ApiServer Spec Status) (r : Resp Spec Status op)
    (c' : ApiServer Spec Status) : Prop :=
  (r = (handle op c).1 ∧ c' = (handle op c).2) ∨
    ∃ e : ApiError, e.IsFault ∧ Fails op e r ∧ (c' = c ∨ c' = (handle op c).2)

theorem step_handle (op : Op Spec Status) (c : ApiServer Spec Status) :
    Step op c (handle op c).1 (handle op c).2 :=
  Or.inl ⟨rfl, rfl⟩

/-- The state after a call is the one before it or the faithful one. -/
theorem Step.state {op : Op Spec Status} {c c' : ApiServer Spec Status} {r : Resp Spec Status op}
    (h : Step op c r c') : c' = c ∨ c' = (handle op c).2 := by
  rcases h with ⟨-, h⟩ | ⟨e, -, -, h⟩
  · exact Or.inr h
  · exact h

/-- The object a call may change. -/
def Op.target : Op Spec Status → Option (Kind × ObjectKey)
  | .get _ _ => none
  | .list _ _ => none
  | .create k o => some (k, o.key)
  | .update k o => some (k, o.key)
  | .updateStatus k o => some (k, o.key)
  | .patch k key _ => some (k, key)
  | .patchStatus k key _ => some (k, key)
  | .delete k key _ => some (k, key)
  | .now => none
  | .fresh => none

/-- The kind a call reads objects of. -/
def Op.reads : Op Spec Status → Option Kind
  | .get k _ => some k
  | .list k _ => some k
  | .create _ _ => none
  | .update _ _ => none
  | .updateStatus _ _ => none
  | .patch _ _ _ => none
  | .patchStatus _ _ _ => none
  | .delete _ _ _ => none
  | .now => none
  | .fresh => none

/-- An update of an object that is not being deleted stores it. -/
theorem settle_of_live {c : ApiServer Spec Status} {k : Kind} {new : Object Spec Status k}
    (h : new.deleting = false) : c.settle k new = c.write k new := by
  simp only [settle, h, Bool.false_and, Bool.false_eq_true, ↓reduceIte]

theorem find?_settle_ne {c : ApiServer Spec Status} {k k' : Kind} {new : Object Spec Status k}
    {key' : ObjectKey} (h : (⟨k', key'⟩ : Kind × ObjectKey) ≠ (k, new.key)) :
    (c.settle k new).find? k' key' = c.find? k' key' := by
  unfold settle
  split_ifs
  · exact find?_remove_ne c k new.key h
  · exact find?_write_ne c k new h

theorem find?_deleted_ne {c : ApiServer Spec Status} {k k' : Kind} {key key' : ObjectKey}
    {site : String} {old : Object Spec Status k} (hold : old.key = key)
    (h : (⟨k', key'⟩ : Kind × ObjectKey) ≠ (k, key)) :
    (c.deleted k key site old).find? k' key' = c.find? k' key' := by
  unfold deleted
  split_ifs
  · rfl
  · refine find?_write_ne c k _ ?_
    show _ ≠ (k, old.key)
    rwa [hold]
  · exact find?_remove_ne c k key h

/-- The frame rule of the faithful server. -/
theorem handle_find? {op : Op Spec Status} {c : ApiServer Spec Status} {k : Kind} {key : ObjectKey}
    (h : op.target ≠ some (k, key)) : (handle op c).2.find? k key = c.find? k key := by
  cases op with
  | get k' key' => simp only [handle]; split <;> rfl
  | list k' selector => rfl
  | create k' o =>
    have hne : (⟨k, key⟩ : Kind × ObjectKey) ≠ (k', (c.created o).key) := fun he => h (by rw [he]; rfl)
    simp only [handle]
    split_ifs
    · split
      · rfl
      · exact find?_write_ne c k' _ hne
    · rfl
  | update k' o =>
    simp only [handle]
    split
    · rfl
    · rename_i old hold
      have hne : (⟨k, key⟩ : Kind × ObjectKey) ≠ (k', (updated old o).key) := fun he => h (by
        rw [he]
        exact congrArg (fun x => some (k', x)) (key_of_find? hold).symm)
      split_ifs
      · exact find?_settle_ne hne
      · rfl
  | updateStatus k' o =>
    simp only [handle]
    split
    · rfl
    · rename_i old hold
      have hne : (⟨k, key⟩ : Kind × ObjectKey) ≠ (k', old.key) := fun he => h (by
        rw [he, key_of_find? hold]
        rfl)
      split_ifs
      · exact find?_write_ne c k' _ hne
      · rfl
  | patch k' key' change =>
    simp only [handle]
    split
    · rfl
    · rename_i old hold
      refine find?_write_ne c k' _ fun he => h ?_
      rw [he]
      exact congrArg (fun x => some (k', x)) (key_of_find? hold).symm
  | patchStatus k' key' change =>
    simp only [handle]
    split
    · rfl
    · rename_i old hold
      refine find?_write_ne c k' _ fun he => h ?_
      rw [he]
      exact congrArg (fun x => some (k', x)) (key_of_find? hold).symm
  | delete k' key' site =>
    simp only [handle]
    split
    · rfl
    · rename_i old hold
      exact find?_deleted_ne (key_of_find? hold) fun he => h (by rw [he]; rfl)
  | now => rfl
  | fresh => rfl

/-- The frame rule : a call changes at most the object it targets. -/
theorem Step.find? {op : Op Spec Status} {c c' : ApiServer Spec Status} {r : Resp Spec Status op}
    {k : Kind} {key : ObjectKey} (hs : Step op c r c') (h : op.target ≠ some (k, key)) :
    c'.find? k key = c.find? k key := by
  rcases hs.state with rfl | rfl
  · rfl
  · exact handle_find? h

/-- Of the objects of kind `k`, the call changes none : at most it creates one. -/
def Op.OnlyCreates (k : Kind) (op : Op Spec Status) : Prop :=
  ∀ t, op.target = some t → t.1 = k → ∃ o, op = .create k o

/-- A stored object stays as it is under calls that only create. -/
theorem Step.keeps {op : Op Spec Status} {c c' : ApiServer Spec Status} {r : Resp Spec Status op}
    {k : Kind} {key : ObjectKey} {o : Object Spec Status k} (hs : Step op c r c')
    (h : op.OnlyCreates k) (ho : c.find? k key = some o) : c'.find? k key = some o := by
  by_cases ht : op.target = some (k, key)
  · obtain ⟨new, rfl⟩ := h _ ht rfl
    obtain rfl : new.key = key := by simpa [Op.target] using ht
    rcases hs.state with rfl | rfl
    · exact ho
    · simp only [handle, ho]
      split_ifs <;> exact ho
  · rw [hs.find? ht, ho]

theorem store_write_ne (c : ApiServer Spec Status) {k k' : Kind} (o : Object Spec Status k)
    (h : k' ≠ k) : (c.write k o).store k' = c.store k' :=
  Function.update_of_ne h _ _

theorem store_remove_ne (c : ApiServer Spec Status) {k k' : Kind} (key : ObjectKey) (h : k' ≠ k) :
    (c.remove k key).store k' = c.store k' :=
  Function.update_of_ne h _ _

theorem store_settle_ne (c : ApiServer Spec Status) {k k' : Kind} (o : Object Spec Status k)
    (h : k' ≠ k) : (c.settle k o).store k' = c.store k' := by
  unfold settle
  split_ifs
  · exact store_remove_ne c _ h
  · exact store_write_ne c o h

theorem store_deleted_ne (c : ApiServer Spec Status) {k k' : Kind} (key : ObjectKey) (site : String)
    (old : Object Spec Status k) (h : k' ≠ k) : (c.deleted k key site old).store k' = c.store k' := by
  unfold deleted
  split_ifs
  · rfl
  · exact store_write_ne c _ h
  · exact store_remove_ne c key h

/-- A call changes objects of the kind it targets only. -/
theorem store_handle {op : Op Spec Status} {c : ApiServer Spec Status} {k : Kind}
    (h : ∀ t, op.target = some t → t.1 ≠ k) : (handle op c).2.store k = c.store k := by
  cases op with
  | get k' key' => simp only [handle]; split <;> rfl
  | list k' selector => rfl
  | create k' o =>
    simp only [handle]
    split_ifs
    · split
      · rfl
      · exact store_write_ne c _ (h _ rfl).symm
    · rfl
  | update k' o =>
    simp only [handle]
    split
    · rfl
    · split_ifs
      · exact store_settle_ne c _ (h _ rfl).symm
      · rfl
  | updateStatus k' o =>
    simp only [handle]
    split
    · rfl
    · split_ifs
      · exact store_write_ne c _ (h _ rfl).symm
      · rfl
  | patch k' key' change =>
    simp only [handle]
    split
    · rfl
    · exact store_write_ne c _ (h _ rfl).symm
  | patchStatus k' key' change =>
    simp only [handle]
    split
    · rfl
    · exact store_write_ne c _ (h _ rfl).symm
  | delete k' key' site =>
    simp only [handle]
    split
    · rfl
    · exact store_deleted_ne c _ _ _ (h _ rfl).symm
  | now => rfl
  | fresh => rfl

theorem clock_handle (op : Op Spec Status) (c : ApiServer Spec Status) :
    (handle op c).2.clock = c.clock := by
  cases op <;> simp only [handle] <;>
    repeat' first
      | rfl
      | split
      | (simp only [settle, deleted]; split_ifs <;> rfl)

/-- The calls that target objects of the kinds `ks` only. -/
def Op.Within (ks : List Kind) (op : Op Spec Status) : Prop :=
  ∀ t, op.target = some t → t.1 ∈ ks

theorem within_read {ks : List Kind} {op : Op Spec Status} (h : op.target = none) : op.Within ks :=
  fun _ ht => nomatch h.symm.trans ht

theorem within_write {ks : List Kind} {op : Op Spec Status} {t : Kind × ObjectKey}
    (h : op.target = some t) (ht : t.1 ∈ ks) : op.Within ks := by
  intro t' ht'
  obtain rfl := Option.some.inj (h.symm.trans ht')
  exact ht

/-- The two states agree on the clock and on every kind outside `ks`. -/
structure SameOutside (ks : List Kind) (c c' : ApiServer Spec Status) : Prop where
  clock : c'.clock = c.clock
  store : ∀ k, k ∉ ks → c'.store k = c.store k

namespace SameOutside

variable {ks : List Kind} {c c' c'' : ApiServer Spec Status}

theorem refl (ks : List Kind) (c : ApiServer Spec Status) : SameOutside ks c c :=
  ⟨rfl, fun _ _ => rfl⟩

theorem trans (h : SameOutside ks c c') (h' : SameOutside ks c' c'') : SameOutside ks c c'' :=
  ⟨h'.clock.trans h.clock, fun k hk => (h'.store k hk).trans (h.store k hk)⟩

theorem find? (h : SameOutside ks c c') {k : Kind} (hk : k ∉ ks) (key : ObjectKey) :
    c'.find? k key = c.find? k key := by
  simp only [ApiServer.find?, h.store k hk]

theorem objs (h : SameOutside ks c c') {k : Kind} (hk : k ∉ ks) : c'.objs k = c.objs k := by
  simp only [ApiServer.objs, h.store k hk]

theorem mono {ks' : List Kind} (h : SameOutside ks c c') (hks : ∀ k ∈ ks, k ∈ ks') :
    SameOutside ks' c c' :=
  ⟨h.clock, fun k hk => h.store k fun hk' => hk (hks k hk')⟩

theorem write {k : Kind} (hk : k ∈ ks) (o : Object Spec Status k) : SameOutside ks c (c.write k o) :=
  ⟨rfl, fun _ hk' => store_write_ne c o fun he => hk' (he ▸ hk)⟩

theorem settle {k : Kind} (hk : k ∈ ks) (o : Object Spec Status k) :
    SameOutside ks c (c.settle k o) := by
  refine ⟨?_, fun _ hk' => store_settle_ne c o fun he => hk' (he ▸ hk)⟩
  unfold ApiServer.settle
  split_ifs <;> rfl

end SameOutside

/-- No call moves the clock. -/
theorem Step.clock {op : Op Spec Status} {c c' : ApiServer Spec Status} {r : Resp Spec Status op}
    (hs : Step op c r c') : c'.clock = c.clock := by
  rcases hs.state with rfl | rfl
  · rfl
  · exact clock_handle op c

theorem Step.sameOutside {ks : List Kind} {op : Op Spec Status} {c c' : ApiServer Spec Status}
    {r : Resp Spec Status op} (hs : Step op c r c') (h : op.Within ks) : SameOutside ks c c' := by
  refine ⟨hs.clock, fun k hk => ?_⟩
  rcases hs.state with rfl | rfl
  · rfl
  · exact store_handle fun t ht he => hk (he ▸ h t ht)

end ApiServer
