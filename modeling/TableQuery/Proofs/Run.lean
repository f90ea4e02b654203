/-
# TableQuery.Proofs.Run — what a computation answers and what it leaves.

A computation that may fail and may change a state is read through `Run.outcome`: its answer and the
state at the end.  The equations of §A take an outcome apart step by step; §B puts together what is
known of the steps.  §C is about computations that answer the same from all states of some kinds and
keep the kind: what they answer is then a value, and it does not matter when, or how often, they are
run.  §D is about computations that move on from kind to kind: what they answer, and where they come
to, hangs on the kind alone.  §E puts two computations side by side: they may do different things, but
answer the same and come to states of the same kind.  §F does not ask what a computation answers, only
what it does to the state meanwhile and what it may fail with.

## §A — outcomes.
## §B — where computations lead.
## §C — settled computations.
## §D — determined computations.
## §E — two computations side by side.
## §F — computations within bounds.
-/
import TableQuery.Error

namespace TableQuery
namespace Run
variable {σ α β : Type}

/-! ## §A — outcomes -/

@[simp]
theorem outcome_pure (a : α) (s : σ) : outcome (pure a : Run σ α) s = (.ok a, s) := rfl

@[simp]
theorem outcome_throw (e : Error) (s : σ) : outcome (throw e : Run σ α) s = (.error e, s) := rfl

/-- What is left of a computation whose first part has the given outcome. -/
def resume (f : α → Run σ β) : Except Error α × σ → Except Error β × σ
  | (.ok a, s) => outcome (f a) s
  | (.error e, s) => (.error e, s)

@[simp]
theorem resume_ok (f : α → Run σ β) (a : α) (s : σ) : resume f (.ok a, s) = outcome (f a) s := rfl

@[simp]
theorem resume_error (f : α → Run σ β) (e : Error) (s : σ) :
    resume f (.error e, s) = (.error e, s) := rfl

theorem outcome_bind (x : Run σ α) (f : α → Run σ β) (s : σ) :
    outcome (x >>= f) s = resume f (outcome x s) := by
  change (ExceptT.bind x f).run.run s = _
  simp only [ExceptT.bind, ExceptT.run, ExceptT.mk, StateT.run, bind, StateT.bind, outcome]
  rcases x s with ⟨a | a, s'⟩ <;> rfl

/-- An answer is that of the second part, behind an answer of the first. -/
theorem outcome_bind_eq_ok {x : Run σ α} {f : α → Run σ β} {s u : σ} {b : β} :
    outcome (x >>= f) s = (.ok b, u) ↔
      ∃ a t, outcome x s = (.ok a, t) ∧ outcome (f a) t = (.ok b, u) := by
  rw [outcome_bind]
  rcases outcome x s with ⟨e | a, t⟩
  · exact ⟨nofun, fun ⟨_, _, h, _⟩ => nomatch h⟩
  · refine ⟨fun h => ⟨a, t, rfl, h⟩, fun ⟨a', t', hx, h⟩ => ?_⟩
    obtain ⟨ha, rfl⟩ := Prod.mk.inj hx
    obtain rfl := Except.ok.inj ha
    exact h

theorem outcome_map (f : α → β) (x : Run σ α) (s : σ) :
    outcome (f <$> x) s = ((outcome x s).1.map f, (outcome x s).2) := by
  change (ExceptT.map f x).run.run s = _
  simp only [ExceptT.map, ExceptT.run, ExceptT.mk, StateT.run, bind, StateT.bind, outcome]
  rcases x s with ⟨a | a, s'⟩ <;> rfl

/-- A failure that is caught keeps the state that it left. -/
theorem outcome_tryCatch (x : Run σ α) (f : Error → Run σ α) (s : σ) :
    outcome (tryCatch x f) s = match outcome x s with
      | (.ok a, t) => (.ok a, t)
      | (.error e, t) => outcome (f e) t := by
  change (ExceptT.tryCatch x f).run.run s = _
  simp only [ExceptT.tryCatch, ExceptT.run, ExceptT.mk, StateT.run, bind, StateT.bind, outcome]
  rcases x s with ⟨a | a, s'⟩ <;> rfl

@[simp]
theorem outcome_get (s : σ) : outcome (get : Run σ σ) s = (.ok s, s) := rfl

@[simp]
theorem outcome_set (t s : σ) : outcome (set t : Run σ PUnit) s = (.ok ⟨⟩, t) := rfl

@[simp]
theorem outcome_modify (f : σ → σ) (s : σ) :
    outcome (modify f : Run σ PUnit) s = (.ok ⟨⟩, f s) := rfl

/-- A step that cannot fail. -/
@[simp]
theorem outcome_lift (x : StateM σ α) (s : σ) :
    outcome (liftM x : Run σ α) s = (.ok (x.run s).1, (x.run s).2) := rfl

@[simp]
theorem outcome_mk (x : StateM σ (Except Error α)) (s : σ) :
    outcome (ExceptT.mk x : Run σ α) s = x.run s := rfl

@[simp]
theorem outcome_liftExcept (x : Except Error α) (s : σ) :
    outcome (liftExcept x : Run σ α) s = (x, s) := by
  cases x <;> rfl

/-- A computation on numbers fails with the fault of the numbers. -/
theorem outcome_ofNumber (x : Except NumberError α) (s : σ) :
    outcome (ofNumber x : Run σ α) s = (x.mapError .number, s) := by
  cases x <;> rfl

/-- What every computation on an element keeps of the element is kept of the list. -/
theorem map_of_mapM {f : α → Run σ β} {g : β → α}
    (hg : ∀ a s b t, outcome (f a) s = (.ok b, t) → g b = a) {as : List α} {bs : List β} {s t : σ}
    (h : outcome (as.mapM f) s = (.ok bs, t)) :
    bs.map g = as := by
  induction as generalizing bs s t with
  | nil =>
      obtain ⟨hbs, -⟩ := Prod.mk.inj h
      rw [← Except.ok.inj hbs]
      rfl
  | cons a as ih =>
      rw [List.mapM_cons] at h
      obtain ⟨b, u, hfirst, h⟩ := outcome_bind_eq_ok.mp h
      obtain ⟨rest, v, hrest, h⟩ := outcome_bind_eq_ok.mp h
      rw [← Except.ok.inj (Prod.mk.inj h).1, List.map_cons, hg a s b u hfirst, ih hrest]

/-! ## §B — where computations lead -/

/-- **Leading** — from every state before, the computation answers `a` and leaves a state after. -/
def Leads (before : σ → Prop) (x : Run σ α) (a : Except Error α) (after : σ → Prop) : Prop :=
  ∀ s, before s → (outcome x s).1 = a ∧ after (outcome x s).2

section Leads
variable {before between after : σ → Prop} {x : Run σ α}

theorem leads_pure (a : α) : Leads before (pure a) (.ok a) before := fun _ hs => ⟨rfl, hs⟩

theorem leads_throw (e : Error) : Leads before (throw e : Run σ α) (.error e) before :=
  fun _ hs => ⟨rfl, hs⟩

theorem leads_liftExcept (a : Except Error α) : Leads before (liftExcept a) a before := by
  intro s hs
  simpa using hs

theorem leads_ofNumber (a : Except NumberError α) :
    Leads before (ofNumber a) (a.mapError .number) before := by
  intro s hs
  rw [outcome_ofNumber]
  exact ⟨rfl, hs⟩

theorem leads_ofLocale (a : Except Collation.LocaleError α) :
    Leads before (ofLocale a) (a.mapError .locale) before := by
  intro s hs
  cases a <;> exact ⟨rfl, hs⟩

theorem Leads.bind {f : α → Run σ β} {a : α} {b : Except Error β}
    (hx : Leads before x (.ok a) between) (hf : Leads between (f a) b after) :
    Leads before (x >>= f) b after := by
  intro s hs
  obtain ⟨ha, hk⟩ := hx s hs
  rw [outcome_bind]
  rcases hout : outcome x s with ⟨answer, s'⟩
  rw [hout] at ha hk
  subst ha
  exact hf s' hk

theorem Leads.bind_error {f : α → Run σ β} {e : Error} (hx : Leads before x (.error e) after) :
    Leads before (x >>= f) (.error e) after := by
  intro s hs
  obtain ⟨ha, hk⟩ := hx s hs
  rw [outcome_bind]
  rcases hout : outcome x s with ⟨answer, s'⟩
  rw [hout] at ha hk
  subst ha
  exact ⟨rfl, hk⟩

theorem Leads.weaken {a : Except Error α} {weaker : σ → Prop} (hx : Leads before x a after)
    (h : ∀ s, after s → weaker s) : Leads before x a weaker :=
  fun s hs => ⟨(hx s hs).1, h _ (hx s hs).2⟩

theorem Leads.map (f : α → β) {a : Except Error α} (hx : Leads before x a after) :
    Leads before (f <$> x) (a.map f) after := by
  intro s hs
  obtain ⟨ha, hk⟩ := hx s hs
  rw [outcome_map, ha]
  exact ⟨rfl, hk⟩

theorem outcome_ensuring (x : Run σ α) (finish : StateM σ Unit) (s : σ) :
    outcome (ensuring x finish) s = ((outcome x s).1, (finish.run (outcome x s).2).2) := rfl

/-- What is done at the end has no part in the answer. -/
theorem outcome_ensuring_eq_ok {x : Run σ α} {finish : StateM σ Unit} {s u : σ} {a : α} :
    outcome (ensuring x finish) s = (.ok a, u) ↔
      ∃ t, outcome x s = (.ok a, t) ∧ u = (finish.run t).2 := by
  rw [outcome_ensuring, Prod.mk.injEq]
  constructor
  · exact fun h => ⟨_, Prod.ext h.1 rfl, h.2.symm⟩
  · rintro ⟨t, h, rfl⟩
    rw [h]
    exact ⟨rfl, rfl⟩

theorem Leads.ensuring {a : Except Error α} (hx : Leads before x a after) (finish : StateM σ Unit) :
    Leads before (ensuring x finish) a fun _ => True :=
  fun s hs => ⟨(hx s hs).1, trivial⟩

/-- Computations on the elements of a list that come back to where they began. -/
theorem leads_mapM {f : α → Run σ β} {g : α → β} {as : List α}
    (h : ∀ a ∈ as, Leads before (f a) (.ok (g a)) before) :
    Leads before (as.mapM f) (.ok (as.map g)) before := by
  induction as with
  | nil =>
      rw [List.mapM_nil]
      exact leads_pure []
  | cons a as ih =>
      rw [List.mapM_cons]
      exact (h a List.mem_cons_self).bind
        ((ih fun b hb => h b (List.mem_cons_of_mem a hb)).bind (leads_pure _))

/-- A computation answers one thing only. -/
theorem Leads.unique {a b : Except Error α} {other : σ → Prop} (ha : Leads before x a after)
    (hb : Leads before x b other) {s : σ} (hs : before s) : a = b :=
  (ha s hs).1.symm.trans (hb s hs).1

end Leads

/-! ## §C — settled computations -/

section Settled
variable {ι : Type} {kind : ι → σ → Prop} {x : Run σ α}

/-- **Settled** — the computation answers `a` from the states of every kind and keeps the kind. -/
def Settles (kind : ι → σ → Prop) (x : Run σ α) (a : Except Error α) : Prop :=
  ∀ i, Leads (kind i) x a (kind i)

/-- A settled computation may begin in any of the kinds. -/
theorem Settles.anywhere {a : Except Error α} (h : Settles kind x a) :
    Leads (fun s => ∃ i, kind i s) x a (fun s => ∃ i, kind i s) := by
  rintro s ⟨i, hs⟩
  exact ⟨(h i s hs).1, i, (h i s hs).2⟩

/-- A computation that answers the same from the states of every kind, whatever the answer is. -/
def Steady (kind : ι → σ → Prop) (x : Run σ α) : Prop := ∃ a, Settles kind x a

theorem steady_pure (a : α) : Steady kind (pure a : Run σ α) := ⟨_, fun _ => leads_pure a⟩

theorem steady_throw (e : Error) : Steady kind (throw e : Run σ α) := ⟨_, fun _ => leads_throw e⟩

theorem steady_ofNumber (a : Except NumberError α) : Steady kind (ofNumber a : Run σ α) :=
  ⟨_, fun _ => leads_ofNumber a⟩

theorem steady_liftExcept (a : Except Error α) : Steady kind (liftExcept a : Run σ α) :=
  ⟨_, fun _ => leads_liftExcept a⟩

theorem Steady.bind {f : α → Run σ β} (hx : Steady kind x) (hf : ∀ a, Steady kind (f a)) :
    Steady kind (x >>= f) := by
  obtain ⟨a | a, ha⟩ := hx
  · exact ⟨_, fun i => (ha i).bind_error⟩
  · obtain ⟨b, hb⟩ := hf a
    exact ⟨b, fun i => (ha i).bind (hb i)⟩

theorem Steady.map (f : α → β) (hx : Steady kind x) : Steady kind (f <$> x) := by
  obtain ⟨a, ha⟩ := hx
  exact ⟨_, fun i => (ha i).map f⟩

/-- A steady computation settles on the answer that it gives from any one state. -/
theorem Steady.settles (hx : Steady kind x) {i : ι} {s : σ} (hs : kind i s) :
    Settles kind x (outcome x s).1 := by
  obtain ⟨a, ha⟩ := hx
  rw [(ha i s hs).1]
  exact ha

end Settled

/-! ## §D — determined computations -/

section Determined
variable {ι : Type} {kind : ι → σ → Prop} {x : Run σ α}

/-- **Determined** — from all states of a kind the computation answers the same and comes to states
of one kind. -/
def Determined (kind : ι → σ → Prop) (x : Run σ α) : Prop :=
  ∀ i, ∃ a j, Leads (kind i) x a (kind j)

theorem Steady.determined (hx : Steady kind x) : Determined kind x := by
  obtain ⟨a, ha⟩ := hx
  exact fun i => ⟨a, i, ha i⟩

theorem determined_pure (a : α) : Determined kind (pure a : Run σ α) := (steady_pure a).determined

theorem determined_throw (e : Error) : Determined kind (throw e : Run σ α) :=
  (steady_throw e).determined

theorem determined_ofLocale (a : Except Collation.LocaleError α) :
    Determined kind (ofLocale a : Run σ α) :=
  fun i => ⟨_, i, leads_ofLocale a⟩

theorem Determined.bind {f : α → Run σ β} (hx : Determined kind x)
    (hf : ∀ a, Determined kind (f a)) : Determined kind (x >>= f) := by
  intro i
  obtain ⟨e | a, j, ha⟩ := hx i
  · exact ⟨.error e, j, ha.bind_error⟩
  · obtain ⟨b, k, hb⟩ := hf a j
    exact ⟨b, k, ha.bind hb⟩

theorem Determined.map (f : α → β) (hx : Determined kind x) : Determined kind (f <$> x) := by
  intro i
  obtain ⟨a, j, ha⟩ := hx i
  exact ⟨a.map f, j, ha.map f⟩

/-- Steps that cannot fail, one after the other. -/
theorem Determined.lift_bind {x : StateM σ α} {f : α → StateM σ β}
    (hx : Determined kind (liftM x : Run σ α))
    (hf : ∀ a, Determined kind (liftM (f a) : Run σ β)) :
    Determined kind (liftM (x >>= f) : Run σ β) :=
  Determined.bind hx hf

theorem Determined.attempt (hx : Determined kind x) :
    Determined kind (liftM (attempt x) : Run σ (Except Error α)) := by
  intro i
  obtain ⟨a, j, ha⟩ := hx i
  refine ⟨.ok a, j, fun s hs => ?_⟩
  obtain ⟨hanswer, hafter⟩ := ha s hs
  exact ⟨congrArg Except.ok hanswer, hafter⟩

/-- What is done at the end in any case does not change the answer. -/
theorem Determined.ensuring {finish : StateM σ Unit} (hx : Determined kind x)
    (hfinish : Determined kind (liftM finish : Run σ Unit)) :
    Determined kind (ensuring x finish) := by
  intro i
  obtain ⟨a, j, ha⟩ := hx i
  obtain ⟨b, k, hb⟩ := hfinish j
  refine ⟨a, k, fun s hs => ?_⟩
  obtain ⟨hanswer, hafter⟩ := ha s hs
  rw [outcome_ensuring]
  exact ⟨hanswer, (hb _ hafter).2⟩

end Determined

/-! ## §E — two computations side by side -/

section Beside
variable {ι : Type} {kind : ι → σ → Prop} {x y : Run σ α}

/-- **Agreeing** — two computations settle on the same answer. -/
def Agree (kind : ι → σ → Prop) (x y : Run σ α) : Prop :=
  ∃ a, Settles kind x a ∧ Settles kind y a

/-- **Going together** — from states of a kind two computations answer the same and come to states of
one kind. -/
def Together (kind : ι → σ → Prop) (x y : Run σ α) : Prop :=
  ∀ i, ∃ a j, Leads (kind i) x a (kind j) ∧ Leads (kind i) y a (kind j)

theorem Steady.agree (hx : Steady kind x) : Agree kind x x := by
  obtain ⟨a, ha⟩ := hx
  exact ⟨a, ha, ha⟩

theorem Agree.steady (h : Agree kind x y) : Steady kind x := by
  obtain ⟨a, ha, -⟩ := h
  exact ⟨a, ha⟩

theorem Determined.together (hx : Determined kind x) : Together kind x x := by
  intro i
  obtain ⟨a, j, ha⟩ := hx i
  exact ⟨a, j, ha, ha⟩

theorem Together.determined (h : Together kind x y) : Determined kind x := by
  intro i
  obtain ⟨a, j, ha, -⟩ := h i
  exact ⟨a, j, ha⟩

theorem Agree.together (h : Agree kind x y) : Together kind x y := by
  obtain ⟨a, ha, hb⟩ := h
  exact fun i => ⟨a, i, ha i, hb i⟩

theorem agree_settled {a : Except Error α} (hx : Settles kind x a) (hy : Settles kind y a) :
    Agree kind x y := ⟨a, hx, hy⟩

theorem Agree.bind {f g : α → Run σ β} (h : Agree kind x y) (hf : ∀ a, Agree kind (f a) (g a)) :
    Agree kind (x >>= f) (y >>= g) := by
  obtain ⟨e | a, hx, hy⟩ := h
  · exact ⟨_, fun i => (hx i).bind_error, fun i => (hy i).bind_error⟩
  · obtain ⟨b, hfa, hga⟩ := hf a
    exact ⟨b, fun i => (hx i).bind (hfa i), fun i => (hy i).bind (hga i)⟩

theorem Agree.map (f : α → β) (h : Agree kind x y) : Agree kind (f <$> x) (f <$> y) := by
  obtain ⟨a, hx, hy⟩ := h
  exact ⟨_, fun i => (hx i).map f, fun i => (hy i).map f⟩

theorem agree_mapM {f g : α → Run σ β} {as : List α} (h : ∀ a ∈ as, Agree kind (f a) (g a)) :
    Agree kind (as.mapM f) (as.mapM g) := by
  induction as with
  | nil =>
      rw [List.mapM_nil, List.mapM_nil]
      exact (steady_pure []).agree
  | cons a as ih =>
      rw [List.mapM_cons, List.mapM_cons]
      exact (h a List.mem_cons_self).bind fun b =>
        (ih fun c hc => h c (List.mem_cons_of_mem a hc)).bind fun bs => (steady_pure _).agree

theorem Together.bind {f g : α → Run σ β} (h : Together kind x y)
    (hf : ∀ a, Together kind (f a) (g a)) : Together kind (x >>= f) (y >>= g) := by
  intro i
  obtain ⟨e | a, j, hx, hy⟩ := h i
  · exact ⟨.error e, j, hx.bind_error, hy.bind_error⟩
  · obtain ⟨b, k, hfa, hga⟩ := hf a j
    exact ⟨b, k, hx.bind hfa, hy.bind hga⟩

/-- Steps that cannot fail, one after the other. -/
theorem Together.lift_bind {x y : StateM σ α} {f g : α → StateM σ β}
    (h : Together kind (liftM x : Run σ α) (liftM y))
    (hf : ∀ a, Together kind (liftM (f a) : Run σ β) (liftM (g a))) :
    Together kind (liftM (x >>= f) : Run σ β) (liftM (y >>= g)) :=
  Together.bind h hf

theorem Together.attempt (h : Together kind x y) :
    Together kind (liftM (attempt x) : Run σ (Except Error α)) (liftM (attempt y)) := by
  intro i
  obtain ⟨a, j, hx, hy⟩ := h i
  refine ⟨.ok a, j, fun s hs => ?_, fun s hs => ?_⟩
  · exact ⟨congrArg Except.ok (hx s hs).1, (hx s hs).2⟩
  · exact ⟨congrArg Except.ok (hy s hs).1, (hy s hs).2⟩

end Beside

/-! ## §F — computations within bounds -/

/-- **Bounds** — what may become of a state by the time of an answer, and what by the time of a
failure.  Doing nothing is within bounds, and so is one thing behind another. -/
structure Bounds (σ : Type) where
  answering : σ → σ → Prop
  failing : Error → σ → σ → Prop
  refl (s : σ) : answering s s
  trans {s t u : σ} : answering s t → answering t u → answering s u
  behind {e : Error} {s t u : σ} : answering s t → failing e t u → failing e s u

/-- Bounds on failures, which say nothing of answers or states. -/
def Bounds.failures (P : Error → Prop) : Bounds σ where
  answering _ _ := True
  failing e _ _ := P e
  refl _ := trivial
  trans _ _ := trivial
  behind _ h := h

section Within
variable {b : Bounds σ} {x : Run σ α}

/-- **Within bounds** — whatever the computation answers, or fails with, it keeps to the bounds. -/
def Within (b : Bounds σ) (x : Run σ α) : Prop :=
  ∀ s, (∀ a t, outcome x s = (.ok a, t) → b.answering s t) ∧
    ∀ e t, outcome x s = (.error e, t) → b.failing e s t

/-- An answer that a computation gives from some state. -/
def MayAnswer (x : Run σ α) (a : α) : Prop := ∃ s t, outcome x s = (.ok a, t)

theorem MayAnswer.of_pure {a c : α} (h : MayAnswer (pure a : Run σ α) c) : a = c := by
  obtain ⟨s, t, h⟩ := h
  exact Except.ok.inj (Prod.mk.inj h).1

theorem MayAnswer.of_bind {f : α → Run σ β} {c : β} (h : MayAnswer (x >>= f) c) :
    ∃ a, MayAnswer x a ∧ MayAnswer (f a) c := by
  obtain ⟨s, u, h⟩ := h
  obtain ⟨a, t, hx, hf⟩ := outcome_bind_eq_ok.mp h
  exact ⟨a, ⟨s, t, hx⟩, t, u, hf⟩

theorem within_pure (a : α) : Within b (pure a) :=
  fun s => ⟨fun _ _ h => (Prod.mk.inj h).2 ▸ b.refl s, fun _ _ h => nomatch (Prod.mk.inj h).1⟩

theorem within_throw {e : Error} (h : ∀ s, b.failing e s s) : Within b (throw e : Run σ α) := by
  intro s
  refine ⟨fun _ _ hout => (nomatch (Prod.mk.inj hout).1), fun e' t hout => ?_⟩
  obtain ⟨he, rfl⟩ := Prod.mk.inj hout
  exact Except.error.inj he ▸ h s

theorem within_lift {x : StateM σ α} (h : ∀ s, b.answering s (x.run s).2) :
    Within b (liftM x : Run σ α) :=
  fun s => ⟨fun _ _ hout => (Prod.mk.inj hout).2 ▸ h s, fun _ _ hout => nomatch (Prod.mk.inj hout).1⟩

theorem within_liftExcept (a : Except Error α) (h : ∀ e, a = .error e → ∀ s, b.failing e s s) :
    Within b (liftExcept a) := by
  rcases a with e | a
  · exact within_throw (h e rfl)
  · exact within_pure a

theorem within_ofNumber (a : Except NumberError α)
    (h : ∀ fault, a = .error fault → ∀ s, b.failing (.number fault) s s) :
    Within b (ofNumber a) := by
  rcases a with fault | a
  · exact within_throw (h fault rfl)
  · exact within_pure a

theorem within_ofLocale (a : Except Collation.LocaleError α)
    (h : ∀ fault, a = .error fault → ∀ s, b.failing (.locale fault) s s) :
    Within b (ofLocale a) := by
  rcases a with fault | a
  · exact within_throw (h fault rfl)
  · exact within_pure a

/-- One thing behind another; the second is only come to with what the first may answer. -/
theorem Within.bind {f : α → Run σ β} (hx : Within b x) (hf : ∀ a, MayAnswer x a → Within b (f a)) :
    Within b (x >>= f) := by
  intro s
  rw [outcome_bind]
  rcases hout : outcome x s with ⟨e | a, t⟩
  · refine ⟨fun _ _ h => (nomatch (Prod.mk.inj h).1), fun e' t' h => ?_⟩
    obtain ⟨he, rfl⟩ := Prod.mk.inj h
    exact Except.error.inj he ▸ (hx s).2 e t hout
  · have hst : b.answering s t := (hx s).1 a t hout
    have hrest := hf a ⟨s, t, hout⟩ t
    exact ⟨fun c u h => b.trans hst (hrest.1 c u h), fun e u h => b.behind hst (hrest.2 e u h)⟩

theorem Within.map (f : α → β) (hx : Within b x) : Within b (f <$> x) := by
  rw [← bind_pure_comp]
  exact hx.bind fun a _ => within_pure (f a)

theorem within_mapM {f : α → Run σ β} {as : List α} (h : ∀ a ∈ as, Within b (f a)) :
    Within b (as.mapM f) := by
  induction as with
  | nil =>
      rw [List.mapM_nil]
      exact within_pure []
  | cons a as ih =>
      rw [List.mapM_cons]
      exact (h a List.mem_cons_self).bind fun c _ =>
        (ih fun d hd => h d (List.mem_cons_of_mem a hd)).bind fun cs _ => within_pure (c :: cs)

end Within

end Run
end TableQuery
