import Kubepark.Prog

/-!
# Programs that run side by side

A `Pool` is a state that several programs share, and what is left of each of them. Programs are
started under a label that says what they are, make their calls one at a time in any order, and
stay in the pool with their result when they are done.

The rule for pools is rely and guarantee. `Safe R Q p s` : whatever steps of `R` the others take,
at any time, each call of `p` is a step of `R` itself, and where `p` returns `Q` holds from then on.
If the programs of a pool are safe when they are started, every step of the pool is one of `R`
(`Pool.run_safe`), and what was returned is in `Q`.

A `Timeline` is a state with the states before it. Under `lagging` a read is answered from any of
them.

`recorded` makes each call of a program carry the calls before it and their answers, for handlers
that ask what the caller has seen.
-/

namespace Prog

variable {Op : Type} {Resp : Op → Type} {S L α : Type}

/-! ## Pools -/

/-- A shared state, and the programs that run on it with their labels. -/
structure Pool (Op : Type) (Resp : Op → Type) (S L α : Type) where
  state : S
  threads : List (L × Prog Op Resp α)

/-- One step of a pool : a program is started, a program makes its next call, or the state changes
by itself. -/
inductive PoolStep (H : (op : Op) → S → Resp op → S → Prop) (body : L → Prog Op Resp α)
    (Starts : Pool Op Resp S L α → L → Prop) (env : S → S → Prop) :
    Pool Op Resp S L α → Pool Op Resp S L α → Prop
  | start {s : S} {ts : List (L × Prog Op Resp α)} {l : L} (h : Starts ⟨s, ts⟩ l) :
    PoolStep H body Starts env ⟨s, ts⟩ ⟨s, (l, body l) :: ts⟩
  | call {s s' : S} {before after : List (L × Prog Op Resp α)} {l : L} {op : Op}
    {next : Resp op → Prog Op Resp α} {a : Resp op} (h : H op s a s') :
    PoolStep H body Starts env ⟨s, before ++ (l, .call op next) :: after⟩
      ⟨s', before ++ (l, next a) :: after⟩
  | env {s s' : S} {ts : List (L × Prog Op Resp α)} (h : env s s') :
    PoolStep H body Starts env ⟨s, ts⟩ ⟨s', ts⟩

section Safe

variable {H : (op : Op) → S → Resp op → S → Prop} {R : S → S → Prop} {Q : α → S → Prop}
  {s s' : S}

/-- Whatever steps of `R` the others take, each call of the program is a step of `R` or leaves the
state as it is, and where it returns `Q` holds and keeps holding. -/
def Safe (H : (op : Op) → S → Resp op → S → Prop) (R : S → S → Prop) (Q : α → S → Prop)
    (p : Prog Op Resp α) (s : S) : Prop :=
  ∀ s', Relation.ReflTransGen R s s' →
    p.wp (interleaved H R) (fun op s => ∀ a s', H op s a s' → s' = s ∨ R s s') Q s'

theorem Safe.others {p : Prog Op Resp α} (h : p.Safe H R Q s) (hR : R s s') : p.Safe H R Q s' :=
  fun s'' hs'' => h s'' (hs''.head hR)

theorem Safe.guarantee {op : Op} {next : Resp op → Prog Op Resp α} {a : Resp op}
    (h : (call op next).Safe H R Q s) (ha : H op s a s') : s' = s ∨ R s s' :=
  (h s .refl).1 a s' ha

theorem Safe.next {op : Op} {next : Resp op → Prog Op Resp α} {a : Resp op}
    (h : (call op next).Safe H R Q s) (ha : H op s a s') : (next a).Safe H R Q s' :=
  fun s'' hs'' => (h s .refl).2 a s'' ⟨s', ha, hs''⟩

theorem Safe.result {a : α} (h : (Prog.pure a : Prog Op Resp α).Safe H R Q s) : Q a s :=
  h s .refl

end Safe

section Rule

variable {H : (op : Op) → S → Resp op → S → Prop} {body : L → Prog Op Resp α}
  {Starts : Pool Op Resp S L α → L → Prop} {env R : S → S → Prop} {I : S → Prop}
  {Q : L → α → S → Prop}

/-- Every program of the pool is safe, and the state is in `I`. -/
structure Pool.Safe (H : (op : Op) → S → Resp op → S → Prop) (R : S → S → Prop) (I : S → Prop)
    (Q : L → α → S → Prop) (pool : Pool Op Resp S L α) : Prop where
  state : I pool.state
  threads : ∀ t ∈ pool.threads, t.2.Safe H R (Q t.1) pool.state

/-- What a program has returned. -/
theorem Pool.Safe.result {pool : Pool Op Resp S L α} (h : pool.Safe H R I Q) {l : L} {a : α}
    (ht : (l, .pure a) ∈ pool.threads) : Q l a pool.state :=
  (h.threads _ ht).result

theorem Pool.Safe.others {s s' : S} {ts : List (L × Prog Op Resp α)}
    (h : (⟨s, ts⟩ : Pool Op Resp S L α).Safe H R I Q) (hI : ∀ s s', I s → R s s' → I s')
    (hs' : s' = s ∨ R s s') : (⟨s', ts⟩ : Pool Op Resp S L α).Safe H R I Q := by
  rcases hs' with rfl | hR
  · exact h
  · exact ⟨hI s s' h.state hR, fun t ht => (h.threads t ht).others hR⟩

/-- Programs that are safe when they are started, in a pool of safe ones. -/
theorem PoolStep.safe (hI : ∀ s s', I s → R s s' → I s')
    (henv : ∀ s s', I s → env s s' → s' = s ∨ R s s')
    (hstart : ∀ (pool : Pool Op Resp S L α) l, pool.Safe H R I Q → Starts pool l →
      (body l).Safe H R (Q l) pool.state)
    {pool pool' : Pool Op Resp S L α} (h : pool.Safe H R I Q)
    (hstep : PoolStep H body Starts env pool pool') :
    pool'.Safe H R I Q ∧ (pool'.state = pool.state ∨ R pool.state pool'.state) := by
  cases hstep with
  | @start s ts l hl =>
    refine ⟨⟨h.state, fun t ht => ?_⟩, Or.inl rfl⟩
    rcases List.mem_cons.mp ht with rfl | ht
    · exact hstart ⟨s, ts⟩ l h hl
    · exact h.threads t ht
  | @call s s' before after l op next a ha =>
    have hsafe := h.threads (l, .call op next) (by simp)
    have hstep := hsafe.guarantee ha
    refine ⟨⟨(h.others hI hstep).state, fun t ht => ?_⟩, hstep⟩
    rcases List.mem_append.mp ht with hbefore | ht
    · exact (h.others hI hstep).threads t (List.mem_append_left _ hbefore)
    · rcases List.mem_cons.mp ht with rfl | hafter
      · exact hsafe.next ha
      · exact (h.others hI hstep).threads t (List.mem_append_right _ (List.mem_cons_of_mem _ hafter))
  | env hs' =>
    have hstep := henv _ _ h.state hs'
    exact ⟨h.others hI hstep, hstep⟩

/-- The rule for whole runs. -/
theorem Pool.run_safe (hI : ∀ s s', I s → R s s' → I s')
    (henv : ∀ s s', I s → env s s' → s' = s ∨ R s s')
    (hstart : ∀ (pool : Pool Op Resp S L α) l, pool.Safe H R I Q → Starts pool l →
      (body l).Safe H R (Q l) pool.state)
    {pool pool' : Pool Op Resp S L α} (h : pool.Safe H R I Q)
    (hrun : Relation.ReflTransGen (PoolStep H body Starts env) pool pool') :
    pool'.Safe H R I Q ∧ Relation.ReflTransGen R pool.state pool'.state := by
  induction hrun with
  | refl => exact ⟨h, .refl⟩
  | tail _ hstep ih =>
    obtain ⟨hsafe, hs⟩ := hstep.safe hI henv hstart ih.1
    refine ⟨hsafe, ?_⟩
    rcases hs with hs | hs
    · rw [hs]
      exact ih.2
    · exact ih.2.tail hs

/-- The program that was started last makes its next call. -/
theorem PoolStep.last {s s' : S} {ts : List (L × Prog Op Resp α)} {l : L} {p : Prog Op Resp α}
    {op : Op} {next : Resp op → Prog Op Resp α} {a : Resp op} (hp : p = .call op next)
    (h : H op s a s') : PoolStep H body Starts env ⟨s, (l, p) :: ts⟩ ⟨s', (l, next a) :: ts⟩ := by
  subst hp
  exact @PoolStep.call _ _ _ _ _ H body Starts env s s' [] ts l op next a h

/-- A program that is started and runs to its end while nothing else happens. -/
theorem Pool.run_start {s s' : S} {ts : List (L × Prog Op Resp α)} {l : L} {t : List (Op × S)} {a : α}
    (hl : Starts ⟨s, ts⟩ l) (h : (body l).Exec H s t a s') :
    Relation.ReflTransGen (PoolStep H body Starts env) ⟨s, ts⟩ ⟨s', (l, .pure a) :: ts⟩ := by
  suffices hrun : ∀ (p : Prog Op Resp α) s t, p.Exec H s t a s' →
      Relation.ReflTransGen (PoolStep H body Starts env) ⟨s, (l, p) :: ts⟩
        ⟨s', (l, .pure a) :: ts⟩ from .head (.start hl) (hrun _ s t h)
  intro p
  induction p with
  | pure b =>
    rintro s t ⟨rfl, rfl, rfl⟩
    exact .refl
  | call op next ih =>
    rintro s t ⟨r, s₁, t', hr, rfl, hnext⟩
    exact .head (PoolStep.last rfl hr) (ih r s₁ t' hnext)

end Rule

/-! ## Reads that lag -/

/-- A state, and the states up to it. -/
structure Timeline (S : Type) where
  now : S
  past : S → Prop

/-- The timeline on which nothing has happened yet. -/
def Timeline.start (s : S) : Timeline S :=
  ⟨s, (· = s)⟩

/-- The state is `s` now. -/
def Timeline.onto (w : Timeline S) (s : S) : Timeline S :=
  ⟨s, fun s' => w.past s' ∨ s' = s⟩

/-- The handler under which a call of `reads` is answered from a state of the past, and leaves the
state as it is. -/
def lagging (H : (op : Op) → S → Resp op → S → Prop) (reads : Op → Bool) (op : Op) (w : Timeline S)
    (a : Resp op) (w' : Timeline S) : Prop :=
  if reads op then w' = w ∧ ∃ s s', w.past s ∧ H op s a s'
  else ∃ s', H op w.now a s' ∧ w' = w.onto s'

theorem lagging_read {H : (op : Op) → S → Resp op → S → Prop} {reads : Op → Bool} {op : Op}
    {w w' : Timeline S} {a : Resp op} (hop : reads op = true) (h : lagging H reads op w a w') :
    w' = w ∧ ∃ s s', w.past s ∧ H op s a s' := by
  rwa [lagging, if_pos hop] at h

theorem lagging_write {H : (op : Op) → S → Resp op → S → Prop} {reads : Op → Bool} {op : Op}
    {w w' : Timeline S} {a : Resp op} (hop : reads op = false) (h : lagging H reads op w a w') :
    ∃ s', H op w.now a s' ∧ w' = w.onto s' := by
  rwa [lagging, if_neg (by simp [hop])] at h

/-- The handler that answers reads from the state `old` and everything else from now. -/
def recalling (h : (op : Op) → S → Resp op × S) (reads : Op → Bool) (old : S) (op : Op)
    (w : Timeline S) : Resp op × Timeline S :=
  if reads op then ((h op old).1, w) else ((h op w.now).1, w.onto (h op w.now).2)

theorem lagging_recalling {H : (op : Op) → S → Resp op → S → Prop} {h : (op : Op) → S → Resp op × S}
    (hH : ∀ op s, H op s (h op s).1 (h op s).2) (reads : Op → Bool) (op : Op) {old : S}
    {w : Timeline S} (hold : w.past old) :
    lagging H reads op w (recalling h reads old op w).1 (recalling h reads old op w).2 := by
  unfold recalling lagging
  split_ifs
  · exact ⟨rfl, old, _, hold, hH op old⟩
  · exact ⟨_, hH op w.now, rfl⟩

theorem exec_recalling {K : (op : Op) → Timeline S → Resp op → Timeline S → Prop}
    {h : (op : Op) → S → Resp op × S} {reads : Op → Bool} {old : S}
    (hK : ∀ op w, w.past old → K op w (recalling h reads old op w).1 (recalling h reads old op w).2)
    (p : Prog Op Resp α) {w : Timeline S} (hold : w.past old) : ∃ t,
      p.Exec K w t (p.run (recalling h reads old) w).1 (p.run (recalling h reads old) w).2 ∧
      (p.run (recalling h reads old) w).2.past old := by
  induction p generalizing w with
  | pure a => exact ⟨[], ⟨rfl, rfl, rfl⟩, hold⟩
  | call op next ih =>
    have hstep : (recalling h reads old op w).2.past old := by
      unfold recalling
      split_ifs
      · exact hold
      · exact Or.inl hold
    obtain ⟨t, ht, hpast⟩ := ih (recalling h reads old op w).1 hstep
    exact ⟨_, ⟨_, _, _, hK op w hold, rfl, ht⟩, hpast⟩

/-- The handler that answers everything from now. -/
def present (h : (op : Op) → S → Resp op × S) (reads : Op → Bool) (op : Op) (w : Timeline S) :
    Resp op × Timeline S :=
  recalling h reads w.now op w

theorem exec_present {K : (op : Op) → Timeline S → Resp op → Timeline S → Prop}
    {h : (op : Op) → S → Resp op × S} {reads : Op → Bool}
    (hK : ∀ op w, w.past w.now → K op w (present h reads op w).1 (present h reads op w).2)
    (p : Prog Op Resp α) {w : Timeline S} (hw : w.past w.now) :
    ∃ t, p.Exec K w t (p.run (present h reads) w).1 (p.run (present h reads) w).2 := by
  have hkeeps : ∀ op (w : Timeline S), w.past w.now →
      (present h reads op w).2.past (present h reads op w).2.now := by
    intro op w hw
    unfold present recalling
    split_ifs
    · exact hw
    · exact Or.inr rfl
  exact ⟨_, exec_run_of_trace p w fun e he => hK e.1 e.2 (trace_preserves hkeeps p hw e he)⟩

/-! ## Programs that carry a log -/

/-- Calls with their answers, the last one first. -/
abbrev Log (Op : Type) (Resp : Op → Type) :=
  List (Σ op, Resp op)

/-- The program whose calls carry the log so far. -/
def recorded : Log Op Resp → Prog Op Resp α → Prog (Log Op Resp × Op) (fun e => Resp e.2) α
  | _, .pure a => .pure a
  | log, .call op next => .call (log, op) fun a => (next a).recorded (⟨op, a⟩ :: log)

/-- A handler of calls that carry a log, with the log as a part of the state. -/
def logging (H : (e : Log Op Resp × Op) → S → Resp e.2 → S → Prop) (op : Op) (s : Log Op Resp × S)
    (a : Resp op) (s' : Log Op Resp × S) : Prop :=
  H (s.1, op) s.2 a s'.2 ∧ s'.1 = ⟨op, a⟩ :: s.1

theorem wp_recorded {H : (e : Log Op Resp × Op) → S → Resp e.2 → S → Prop}
    {P : Log Op Resp × Op → S → Prop} {Q : α → S → Prop} {p : Prog Op Resp α} {log : Log Op Resp}
    {s : S} (h : p.wp (logging H) (fun op s => P (s.1, op) s.2) (fun a s => Q a s.2) (log, s)) :
    (p.recorded log).wp H P Q s := by
  induction p generalizing log s with
  | pure a => exact h
  | call op next ih => exact ⟨h.1, fun a s' ha => ih a (h.2 a (_, s') ⟨ha, rfl⟩)⟩

/-- A handler that does not look at the log. -/
theorem exec_recorded {H : (op : Op) → S → Resp op → S → Prop} {p : Prog Op Resp α} {s s' : S}
    {t : List (Op × S)} {a : α} (h : p.Exec H s t a s') (log : Log Op Resp) :
    ∃ t', (p.recorded log).Exec (fun (e : Log Op Resp × Op) => H e.2) s t' a s' := by
  induction p generalizing log s t with
  | pure b => exact ⟨[], rfl, h.2.1, h.2.2⟩
  | call op next ih =>
    obtain ⟨r, s₁, t₁, hr, -, hnext⟩ := h
    obtain ⟨t', ht'⟩ := ih r hnext (⟨op, r⟩ :: log)
    exact ⟨_, r, s₁, t', hr, rfl, ht'⟩

end Prog
