import TypedGraph.Graph.Transaction

/-!
# What computations with calls answer

A computation surfaces its faults if it stops at the first call that is not served and
its error tells of that call. `Answers` says so of computations that change nothing:
their result is fixed by what they can see of the state. `Serves` says so of a run of a
computation on a transaction, which may change its graph. Both state what the result is
when every call is served, and both are put together along the computation. `Returns`
says of every run what it returns, if it returns anything.
-/
namespace TypedGraph

namespace Access

variable {σ ε ε' α β : Type}

theorem run_pure (a : α) (t : σ) : (pure a : Access σ ε α).run.run t = (.ok a, t) := rfl

theorem run_throw (e : ε) (t : σ) : (throw e : Access σ ε α).run.run t = (.error e, t) := rfl

theorem run_bind_of_ok {x : Access σ ε α} {t t' : σ} {a : α} (h : x.run.run t = (.ok a, t'))
    (f : α → Access σ ε β) : (x >>= f).run.run t = (f a).run.run t' := by
  change (ExceptT.bindCont f (x.run.run t).1).run (x.run.run t).2 = _
  rw [h]
  rfl

theorem run_bind_of_error {x : Access σ ε α} {t t' : σ} {e : ε}
    (h : x.run.run t = (.error e, t')) (f : α → Access σ ε β) :
    (x >>= f).run.run t = (.error e, t') := by
  change (ExceptT.bindCont f (x.run.run t).1).run (x.run.run t).2 = _
  rw [h]
  rfl

/-- A computation that goes on ends as its first part does, if that fails, or else as
the rest of it. -/
theorem run_bind_cases (x : Access σ ε α) (f : α → Access σ ε β) (t : σ) :
    (∃ a t', x.run.run t = (.ok a, t') ∧ (x >>= f).run.run t = (f a).run.run t') ∨
      ∃ e t', x.run.run t = (.error e, t') ∧ (x >>= f).run.run t = (.error e, t') := by
  rcases hx : x.run.run t with ⟨_ | a, t'⟩
  · exact .inr ⟨_, t', rfl, run_bind_of_error hx f⟩
  · exact .inl ⟨a, t', rfl, run_bind_of_ok hx f⟩

@[simp] theorem ofResult_ok (asError : ε' → ε) (a : α) :
    (ofResult asError (.ok a) : Access σ ε α) = pure a := rfl

theorem run_ofResult (asError : ε' → ε) (r : Except ε' α) (t : σ) :
    (ofResult asError r : Access σ ε α).run.run t = (r.mapError asError, t) := by
  cases r <;> rfl

/-! ## What is returned -/

section Returns

variable {x : Access σ ε α} {Q R : α → Prop}

/-- Whether every value that a computation returns is as `Q` says. -/
def Returns (x : Access σ ε α) (Q : α → Prop) : Prop :=
  ∀ t a t', x.run.run t = (.ok a, t') → Q a

theorem Returns.pure {a : α} (h : Q a) : Returns (pure a : Access σ ε α) Q := by
  intro t b t' hrun
  rw [run_pure] at hrun
  cases hrun
  exact h

theorem Returns.throw {e : ε} : Returns (throw e : Access σ ε α) Q := by
  intro t a t' hrun
  rw [run_throw] at hrun
  cases hrun

theorem Returns.bind {f : α → Access σ ε β} {Q : β → Prop} (hx : Returns x R)
    (hf : ∀ a, R a → Returns (f a) Q) : Returns (x >>= f) Q := by
  intro t b t' hrun
  rcases run_bind_cases x f t with ⟨a, t₁, hrun₁, heq⟩ | ⟨e, t₁, hrun₁, heq⟩
  · rw [heq] at hrun
    exact hf a (hx t a t₁ hrun₁) t₁ b t' hrun
  · rw [heq] at hrun
    cases hrun

/-- What comes first may return anything. -/
theorem Returns.after {x : Access σ ε β} {f : β → Access σ ε α} (hf : ∀ b, Returns (f b) Q) :
    Returns (x >>= f) Q :=
  Returns.bind (R := fun _ => True) (fun _ _ _ _ => trivial) fun b _ => hf b

theorem Returns.of_result {t : σ} {a : α} (hx : Returns x Q) (ha : (x.run.run t).1 = .ok a) :
    Q a :=
  hx t a _ (Prod.ext ha rfl)

theorem Returns.outcome (hx : Returns x R) :
    Returns (outcome x : Access σ ε' (Except ε α)) fun r => ∀ a, r = .ok a → R a := by
  intro t r t' hrun a ha
  rw [run_outcome] at hrun
  cases hrun
  exact hx.of_result ha

theorem Returns.mapM {f : β → Access σ ε α} (hf : ∀ b, Returns (f b) Q) (bs : List β) :
    Returns (bs.mapM f) fun as => ∀ a ∈ as, Q a := by
  induction bs with
  | nil => exact .pure (by simp)
  | cons b bs ih =>
    rw [List.mapM_cons]
    refine (hf b).bind fun a ha => ih.bind fun as has => .pure fun a' ha' => ?_
    rcases List.mem_cons.1 ha' with rfl | ha'
    · exact ha
    · exact has a' ha'

theorem Returns.call [KeepsCalls σ] {outage : Outage} {m : Method} {failure : String → ε}
    (hx : Returns x Q) : Returns (call outage m failure x) Q := by
  intro t a t' hrun
  by_cases h : m ∈ outage.methods
  · rw [run_call_of_mem h] at hrun
    cases hrun
  · rw [run_call_of_notMem h] at hrun
    exact hx _ a t' hrun

end Returns

/-! ## Calls that are not served -/

/-- The state after calls, the latest first. -/
def recordAll [KeepsCalls σ] (calls : List Method) (t : σ) : σ :=
  calls.foldr KeepsCalls.record t

theorem recordAll_append [KeepsCalls σ] (calls calls' : List Method) (t : σ) :
    recordAll (calls ++ calls') t = recordAll calls (recordAll calls' t) :=
  List.foldr_append

variable {out : Method → Prop} {tells : Method → ε → Prop} {tells' : Method → ε' → Prop}

/-- How a computation ends that makes calls, the latest first: they are all served and
the end is good, or only the last one is not served and the error tells of it. -/
def Surfaces (out : Method → Prop) (tells : Method → ε → Prop) (calls : List Method)
    (r : Except ε α) (good : Prop) : Prop :=
  (∀ m ∈ calls, ¬ out m) ∧ good ∨
    ∃ m rest e, calls = m :: rest ∧ out m ∧ (∀ m ∈ rest, ¬ out m) ∧ r = .error e ∧ tells m e

theorem Surfaces.of_served {r : Except ε α} {good : Prop} (h : good) :
    Surfaces out tells [] r good := .inl ⟨by simp, h⟩

theorem Surfaces.mono {calls : List Method} {r : Except ε α} {good good' : Prop}
    (h : Surfaces out tells calls r good) (hgood : good → good') :
    Surfaces out tells calls r good' := by
  rcases h with ⟨served, h⟩ | h
  · exact .inl ⟨served, hgood h⟩
  · exact .inr h

/-- Calls that were served before do not matter. -/
theorem Surfaces.append {calls calls' : List Method} {r : Except ε α} {good : Prop}
    (h : Surfaces out tells calls' r good) (served : ∀ m ∈ calls, ¬ out m) :
    Surfaces out tells (calls' ++ calls) r good := by
  rcases h with ⟨served', h⟩ | ⟨m, rest, e, rfl, hm, hrest, hr, he⟩
  · refine .inl ⟨fun m hm => ?_, h⟩
    rcases List.mem_append.1 hm with hm | hm
    · exact served' m hm
    · exact served m hm
  · refine .inr ⟨m, rest ++ calls, e, rfl, hm, fun m hm => ?_, hr, he⟩
    rcases List.mem_append.1 hm with hm | hm
    · exact hrest m hm
    · exact served m hm

/-- A call that is not served is the last one, and the error tells of it. -/
theorem Surfaces.of_mem {calls : List Method} {r : Except ε α} {good : Prop} {m : Method}
    (h : Surfaces out tells calls r good) (hm : m ∈ calls) (hout : out m) :
    ∃ e, r = .error e ∧ tells m e := by
  rcases h with ⟨served, -⟩ | ⟨last, rest, e, rfl, -, hrest, hr, he⟩
  · exact absurd hout (served m hm)
  · rcases List.mem_cons.1 hm with rfl | hm
    · exact ⟨e, hr, he⟩
    · exact absurd hout (hrest m hm)

/-- Where everything is served the end is good. -/
theorem Surfaces.good {calls : List Method} {r : Except ε α} {good : Prop}
    (h : Surfaces out tells calls r good) (hout : ∀ m, ¬ out m) : good := by
  rcases h with ⟨-, h⟩ | ⟨m, _, _, _, hm, _⟩
  · exact h
  · exact absurd hm (hout m)

/-! ## Computations that change nothing -/

variable [KeepsCalls σ] {P : σ → Prop}

/-- From all states with `P` a computation ends in the same result with the same calls,
and changes nothing but the calls recorded. If they are all served, the result is as
`Q` says. -/
def Answers (P : σ → Prop) (out : Method → Prop) (tells : Method → ε → Prop)
    (x : Access σ ε α) (Q : Except ε α → Prop) : Prop :=
  ∃ r calls, (∀ t, P t → x.run.run t = (r, recordAll calls t) ∧ P (recordAll calls t)) ∧
    Surfaces out tells calls r (Q r)

variable {x : Access σ ε α} {Q Q' : Except ε α → Prop}

theorem Answers.mono (h : Answers P out tells x Q) (hQ : ∀ r, Q r → Q' r) :
    Answers P out tells x Q' := by
  obtain ⟨r, calls, hrun, hr⟩ := h
  exact ⟨r, calls, hrun, hr.mono (hQ r)⟩

/-- A computation without calls answers its result. -/
theorem Answers.of_run {r : Except ε α} (hrun : ∀ t, P t → x.run.run t = (r, t)) (hr : Q r) :
    Answers P out tells x Q :=
  ⟨r, [], fun t ht => ⟨hrun t ht, ht⟩, .of_served hr⟩

theorem Answers.pure {a : α} (h : Q (.ok a)) : Answers P out tells (pure a : Access σ ε α) Q :=
  .of_run (fun _ _ => rfl) h

theorem Answers.throw {e : ε} (h : Q (.error e)) :
    Answers P out tells (throw e : Access σ ε α) Q :=
  .of_run (fun _ _ => rfl) h

theorem Answers.ofResult {asError : ε' → ε} {r : Except ε' α} (h : Q (r.mapError asError)) :
    Answers P out tells (ofResult asError r : Access σ ε α) Q :=
  .of_run (fun t _ => run_ofResult asError r t) h

/-- The result is the one of every run. -/
theorem Answers.with_runs (h : Answers P out tells x Q) :
    Answers P out tells x fun r => Q r ∧ ∀ t, P t → (x.run.run t).1 = r ∧ P (x.run.run t).2 := by
  obtain ⟨r, calls, hrun, hr⟩ := h
  refine ⟨r, calls, hrun, hr.mono fun h => ⟨h, fun t ht => ?_⟩⟩
  obtain ⟨run, ht'⟩ := hrun t ht
  rw [run]
  exact ⟨rfl, ht'⟩

/-- What a run returns is as the answer is. -/
theorem Answers.of_ok (h : Answers P out tells x Q) {t : σ} (ht : P t) {a : α}
    (ha : (x.run.run t).1 = .ok a) : Q (.ok a) := by
  obtain ⟨r, calls, hruns, hr⟩ := h
  rw [(hruns t ht).1] at ha
  subst ha
  rcases hr with ⟨-, hr⟩ | ⟨_, _, _, _, _, _, he, _⟩
  · exact hr
  · contradiction

theorem Answers.returns (h : Answers (fun _ => True) out tells x Q) :
    Returns x fun a => Q (.ok a) :=
  fun _ _ _ hrun => h.of_ok trivial (congrArg Prod.fst hrun)

theorem Answers.bind {f : α → Access σ ε β} {Q : Except ε β → Prop} {R : Except ε α → Prop}
    (hx : Answers P out tells x R) (hf : ∀ a, R (.ok a) → Answers P out tells (f a) Q)
    (he : ∀ e, R (.error e) → Q (.error e)) : Answers P out tells (x >>= f) Q := by
  obtain ⟨r, calls, hrun, hr⟩ := hx
  rcases hr with ⟨served, hr⟩ | ⟨m, rest, e, hcalls, hm, hrest, rfl, htells⟩
  · cases r with
    | error e =>
      refine ⟨.error e, calls, fun t ht => ?_, .inl ⟨served, he e hr⟩⟩
      obtain ⟨run, ht'⟩ := hrun t ht
      exact ⟨run_bind_of_error run f, ht'⟩
    | ok a =>
      obtain ⟨r', calls', hrun', hr'⟩ := hf a hr
      refine ⟨r', calls' ++ calls, fun t ht => ?_, hr'.append served⟩
      obtain ⟨run, ht'⟩ := hrun t ht
      rw [recordAll_append, run_bind_of_ok run f]
      exact hrun' _ ht'
  · refine ⟨.error e, calls, fun t ht => ?_, .inr ⟨m, rest, e, hcalls, hm, hrest, rfl, htells⟩⟩
    obtain ⟨run, ht'⟩ := hrun t ht
    exact ⟨run_bind_of_error run f, ht'⟩

/-- A computation that goes on with what another one returns, which does not fail while
it is served. -/
theorem Answers.bind_ok {f : α → Access σ ε β} {Q : Except ε β → Prop} {R : α → Prop}
    (hx : Answers P out tells x fun r => ∃ a, r = .ok a ∧ R a)
    (hf : ∀ a, R a → Answers P out tells (f a) Q) : Answers P out tells (x >>= f) Q := by
  refine hx.bind (fun a h => ?_) fun e h => ?_
  · obtain ⟨_, heq, h⟩ := h
    cases heq
    exact hf a h
  · obtain ⟨_, heq, -⟩ := h
    contradiction

/-- A computation that goes on with the outcome of another one surfaces its faults if
it ends where the other one told of them. -/
theorem Answers.outcome_bind {k : Except ε α → Access σ ε' β} {R : Except ε α → Prop}
    {Q : Except ε' β → Prop} (hx : Answers P out tells x R)
    (hk : ∀ r, R r → Answers P out tells' (k r) Q)
    (hfault : ∀ m e, out m → tells m e → ∃ e', k (.error e) = MonadExcept.throw e' ∧ tells' m e') :
    Answers P out tells' (outcome x >>= k) Q := by
  obtain ⟨r, calls, hrun, hr⟩ := hx
  have hrun' : ∀ t, P t → (outcome x >>= k).run.run t = (k r).run.run (recordAll calls t) ∧
      P (recordAll calls t) := by
    intro t ht
    obtain ⟨run, ht'⟩ := hrun t ht
    refine ⟨?_, ht'⟩
    rw [run_bind_of_ok (run_outcome x t) k, run]
  rcases hr with ⟨served, hr⟩ | ⟨m, rest, e, hcalls, hm, hrest, rfl, htells⟩
  · obtain ⟨r', calls', hrun'', hr'⟩ := hk r hr
    refine ⟨r', calls' ++ calls, fun t ht => ?_, hr'.append served⟩
    obtain ⟨run, ht'⟩ := hrun' t ht
    rw [recordAll_append, run]
    exact hrun'' _ ht'
  · obtain ⟨e', hk', htells'⟩ := hfault m e hm htells
    refine ⟨.error e', calls, fun t ht => ?_,
      .inr ⟨m, rest, e', hcalls, hm, hrest, rfl, htells'⟩⟩
    obtain ⟨run, ht'⟩ := hrun' t ht
    rw [run, hk']
    exact ⟨rfl, ht'⟩

theorem Answers.call {outage : Outage} {m : Method} {failure : String → ε}
    (hout : out m ↔ m ∈ outage.methods) (hP : ∀ t, P t → P (KeepsCalls.record m t))
    (htells : tells m (failure m.unavailable)) (hx : Answers P out tells x Q) :
    Answers P out tells (call outage m failure x) Q := by
  by_cases h : m ∈ outage.methods
  · exact ⟨.error (failure m.unavailable), [m],
      fun t ht => ⟨run_call_of_mem h failure x t, hP t ht⟩,
      .inr ⟨m, [], _, rfl, hout.2 h, by simp, rfl, htells⟩⟩
  · obtain ⟨r, calls, hrun, hr⟩ := hx
    refine ⟨r, calls ++ [m], fun t ht => ?_, hr.append ?_⟩
    · rw [run_call_of_notMem h, recordAll_append]
      exact hrun _ (hP t ht)
    · intro m' hm'
      rw [List.mem_singleton.1 hm', hout]
      exact h

/-! ## Computations on a transaction -/

section Transaction

variable {x : Access Transaction ε α} {t : Transaction}

@[simp] theorem recordAll_transaction (calls : List Method) (t : Transaction) :
    recordAll calls t = { t with calls := calls ++ t.calls } := by
  induction calls with
  | nil => rfl
  | cons m calls ih =>
    rw [show recordAll (m :: calls) t = KeepsCalls.record m (recordAll calls t) from rfl, ih]
    rfl

/-- The run of a computation from a transaction surfaces its faults, and ends as `Q`
says if all calls are served. -/
def Serves (out : Method → Prop) (tells : Method → ε → Prop) (x : Access Transaction ε α)
    (t : Transaction) (Q : Except ε α → Transaction → Prop) : Prop :=
  ∃ calls, (x.run.run t).2.calls = calls ++ t.calls ∧
    Surfaces out tells calls (x.run.run t).1 (Q (x.run.run t).1 (x.run.run t).2)

variable {Q Q' : Except ε α → Transaction → Prop}

theorem Serves.mono (h : Serves out tells x t Q) (hQ : ∀ r t', Q r t' → Q' r t') :
    Serves out tells x t Q' := by
  obtain ⟨calls, hcalls, hr⟩ := h
  exact ⟨calls, hcalls, hr.mono (hQ _ _)⟩

theorem Serves.result (h : Serves out tells x t Q) (hout : ∀ m, ¬ out m) :
    Q (x.run.run t).1 (x.run.run t).2 := by
  obtain ⟨_, -, hr⟩ := h
  exact hr.good hout

/-- A run that makes no calls. -/
theorem Serves.of_run {r : Except ε α} {t' : Transaction} (hrun : x.run.run t = (r, t'))
    (hcalls : t'.calls = t.calls) (h : Q r t') : Serves out tells x t Q := by
  refine ⟨[], by rw [hrun, hcalls]; rfl, ?_⟩
  rw [hrun]
  exact .of_served h

theorem Serves.pure {a : α} (h : Q (.ok a) t) :
    Serves out tells (pure a : Access Transaction ε α) t Q :=
  .of_run (run_pure a t) rfl h

theorem Serves.throw {e : ε} (h : Q (.error e) t) :
    Serves out tells (throw e : Access Transaction ε α) t Q :=
  .of_run (run_throw e t) rfl h

/-- What changes nothing leaves the graph and the count of ids as they are. -/
theorem Answers.serves {P : Transaction → Prop} {R : Except ε α → Prop}
    (h : Answers P out tells x R) (ht : P t)
    (hQ : ∀ r t', R r → t'.graph = t.graph → t'.drawn = t.drawn → Q r t') :
    Serves out tells x t Q := by
  obtain ⟨r, calls, hrun, hr⟩ := h
  refine ⟨calls, ?_, ?_⟩
  · rw [(hrun t ht).1, recordAll_transaction]
  · rw [(hrun t ht).1, recordAll_transaction]
    exact hr.mono fun h => hQ r _ h rfl rfl

theorem Serves.bind {f : α → Access Transaction ε β} {Q : Except ε β → Transaction → Prop}
    {R : Except ε α → Transaction → Prop} (hx : Serves out tells x t R)
    (hf : ∀ a t', R (.ok a) t' → Serves out tells (f a) t' Q)
    (he : ∀ e t', R (.error e) t' → Q (.error e) t') : Serves out tells (x >>= f) t Q := by
  obtain ⟨calls, hcalls, hr⟩ := hx
  rcases run_bind_cases x f t with ⟨a, t', hrun, heq⟩ | ⟨e, t', hrun, heq⟩
  · rw [hrun] at hcalls hr
    rcases hr with ⟨served, hr⟩ | ⟨_, _, _, _, _, _, hr, _⟩
    · obtain ⟨calls', hcalls', hr'⟩ := hf a t' hr
      refine ⟨calls' ++ calls, ?_, ?_⟩
      · rw [heq, hcalls', hcalls, List.append_assoc]
      · rw [heq]
        exact hr'.append served
    · contradiction
  · rw [hrun] at hcalls hr
    refine ⟨calls, by rw [heq]; exact hcalls, ?_⟩
    rw [heq]
    rcases hr with ⟨served, hr⟩ | ⟨m, rest, e', h, hm, hrest, hr, htells⟩
    · exact .inl ⟨served, he e t' hr⟩
    · exact .inr ⟨m, rest, e, h, hm, hrest, rfl, by cases hr; exact htells⟩

/-- A run that goes on with what another one returns, or ends with its error. -/
theorem Serves.bind_cases {f : α → Access Transaction ε β} {Q : Except ε β → Transaction → Prop}
    {R : α → Transaction → Prop} {F : ε → Prop}
    (hx : Serves out tells x t fun r t' =>
      (∃ a, r = .ok a ∧ R a t') ∨ ∃ e, r = .error e ∧ F e)
    (hf : ∀ a t', R a t' → Serves out tells (f a) t' Q)
    (he : ∀ e t', F e → Q (.error e) t') : Serves out tells (x >>= f) t Q := by
  refine hx.bind (fun a t' h => ?_) fun e t' h => ?_
  · rcases h with ⟨_, heq, h⟩ | ⟨_, heq, -⟩
    · cases heq
      exact hf a t' h
    · contradiction
  · rcases h with ⟨_, heq, -⟩ | ⟨_, heq, h⟩
    · contradiction
    · cases heq
      exact he e t' h

theorem Serves.outcome_bind {k : Except ε α → Access Transaction ε' β}
    {Q : Except ε' β → Transaction → Prop} {R : Except ε α → Transaction → Prop}
    (hx : Serves out tells x t R)
    (hk : ∀ r t', R r t' → Serves out tells' (k r) t' Q)
    (hfault : ∀ m e, out m → tells m e → ∃ e', k (.error e) = MonadExcept.throw e' ∧ tells' m e') :
    Serves out tells' (outcome x >>= k) t Q := by
  obtain ⟨calls, hcalls, hr⟩ := hx
  have hrun := run_bind_of_ok (run_outcome x t) k
  generalize x.run.run t = end' at hcalls hr hrun
  obtain ⟨r, t'⟩ := end'
  rcases hr with ⟨served, hr⟩ | ⟨m, rest, e, h, hm, hrest, hr, htells⟩
  · obtain ⟨calls', hcalls', hr'⟩ := hk r t' hr
    refine ⟨calls' ++ calls, ?_, ?_⟩
    · rw [hrun, hcalls', hcalls, List.append_assoc]
    · rw [hrun]
      exact hr'.append served
  · cases hr
    obtain ⟨e', hk', htells'⟩ := hfault m e hm htells
    have hrun' : (outcome x >>= k).run.run t = (.error e', t') := by
      rw [hrun, hk']
      rfl
    refine ⟨calls, by rw [hrun']; exact hcalls, ?_⟩
    rw [hrun']
    exact .inr ⟨m, rest, e', h, hm, hrest, rfl, htells'⟩

theorem Serves.call {outage : Outage} {m : Method} {failure : String → ε}
    (hout : out m ↔ m ∈ outage.methods) (htells : tells m (failure m.unavailable))
    (hx : Serves out tells x (KeepsCalls.record m t) Q) :
    Serves out tells (call outage m failure x) t Q := by
  by_cases h : m ∈ outage.methods
  · have hrun := run_call_of_mem h failure x t
    refine ⟨[m], by rw [hrun]; rfl, ?_⟩
    rw [hrun]
    exact .inr ⟨m, [], _, rfl, hout.2 h, by simp, rfl, htells⟩
  · have hrun := run_call_of_notMem h failure x t
    obtain ⟨calls, hcalls, hr⟩ := hx
    refine ⟨calls ++ [m], ?_, ?_⟩
    · rw [hrun, hcalls, List.append_assoc]
      rfl
    · rw [hrun]
      refine hr.append fun m' hm' => ?_
      rw [List.mem_singleton.1 hm', hout]
      exact h

/-- What computations keep true of the graph, also where they fail. -/
def Keeps (I : Graph → Prop) (x : Access Transaction ε α) : Prop :=
  ∀ t : Transaction, I t.graph → I (x.run.run t).2.graph

variable {I : Graph → Prop}

theorem Keeps.bind {f : α → Access Transaction ε β} (hx : Keeps I x) (hf : ∀ a, Keeps I (f a)) :
    Keeps I (x >>= f) := by
  intro t ht
  have hx := hx t ht
  rcases run_bind_cases x f t with ⟨a, t', hrun, heq⟩ | ⟨e, t', hrun, heq⟩
  · rw [hrun] at hx
    rw [heq]
    exact hf a t' hx
  · rw [hrun] at hx
    rw [heq]
    exact hx

theorem Keeps.mapM {f : α → Access Transaction ε β} (hf : ∀ a, Keeps I (f a)) (as : List α) :
    Keeps I (as.mapM f) := by
  induction as with
  | nil => exact fun _ ht => ht
  | cons a as ih =>
    rw [List.mapM_cons]
    exact (hf a).bind fun _ => ih.bind fun _ => fun _ ht => ht

theorem Keeps.call {outage : Outage} {m : Method} {failure : String → ε} (hx : Keeps I x) :
    Keeps I (call outage m failure x) := by
  intro t ht
  by_cases h : m ∈ outage.methods
  · rw [run_call_of_mem h]
    exact ht
  · rw [run_call_of_notMem h]
    exact hx _ ht

end Transaction

end Access

end TypedGraph
