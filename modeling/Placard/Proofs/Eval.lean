import Placard.Context

/-! # Running computations on the shared state

`Eval.outcome` runs a computation; a run that stops keeps the state of that moment. `Eval.Yields`
says that a run succeeds. A sequence of computations yields what its last part yields
(`Eval.yields_bind`), and each primitive has a lemma that says all it can do, so that later proofs
take a computation apart without looking at how the state is passed on. -/

namespace Placard

namespace Eval

variable {σ α β : Type}

/-- The result of a computation and the state that it leaves. -/
def outcome (x : Eval σ α) (c : Context σ) : Except Halt α × Context σ := x.run c

/-- The run from `c` succeeds with `a` and leaves `d`. -/
def Yields (x : Eval σ α) (c : Context σ) (a : α) (d : Context σ) : Prop :=
  x.outcome c = (.ok a, d)

/-! ## Outcomes of the primitives -/

@[simp] theorem outcome_pure (a : α) (c : Context σ) :
    (pure a : Eval σ α).outcome c = (.ok a, c) := rfl

theorem outcome_bind (x : Eval σ α) (f : α → Eval σ β) (c : Context σ) :
    (x >>= f).outcome c = match x.outcome c with
      | (.ok a, d) => (f a).outcome d
      | (.error e, d) => (.error e, d) := by
  have hbind : (x >>= f).outcome c =
      (ExceptT.bindCont f (x.outcome c).1).run (x.outcome c).2 := rfl
  rw [hbind]
  rcases x.outcome c with ⟨_ | _, _⟩ <;> rfl

@[simp] theorem outcome_get (c : Context σ) :
    (get : Eval σ (Context σ)).outcome c = (.ok c, c) := rfl

@[simp] theorem outcome_set (s c : Context σ) : (set s : Eval σ PUnit).outcome c = (.ok ⟨⟩, s) := rfl

@[simp] theorem outcome_modifyGet (f : Context σ → α × Context σ) (c : Context σ) :
    (modifyGet f : Eval σ α).outcome c = (.ok (f c).1, (f c).2) := rfl

@[simp] theorem outcome_modify (f : Context σ → Context σ) (c : Context σ) :
    (modify f : Eval σ PUnit).outcome c = (.ok ⟨⟩, f c) := rfl

@[simp] theorem outcome_throw (e : Halt) (c : Context σ) :
    (throw e : Eval σ α).outcome c = (.error e, c) := rfl

theorem outcome_withoutStyles (x : Eval σ α) (c : Context σ) :
    (withoutStyles x).outcome c =
      ((x.outcome { c with styles.active := [] }).1,
        { (x.outcome { c with styles.active := [] }).2 with styles.active := c.styles.active }) := rfl

/-! ## Successful runs -/

variable {x : Eval σ α} {c d : Context σ} {a b : α}

theorem yields_pure : (pure a : Eval σ α).Yields c b d ↔ b = a ∧ d = c := by
  simp only [Yields, outcome_pure, Prod.mk.injEq, Except.ok.injEq, eq_comm]

theorem yields_bind {f : α → Eval σ β} {b : β} :
    (x >>= f).Yields c b d ↔ ∃ a c', x.Yields c a c' ∧ (f a).Yields c' b d := by
  unfold Yields
  rw [outcome_bind]
  rcases x.outcome c with ⟨_ | a, c'⟩
  · simp
  · constructor
    · exact fun h => ⟨a, c', rfl, h⟩
    · rintro ⟨_, _, h, h'⟩
      cases h
      exact h'

/-- A run has one result. -/
theorem Yields.unique (h : x.Yields c a d) (h' : x.Yields c b e) : b = a ∧ e = d := by
  cases h.symm.trans h'
  exact ⟨rfl, rfl⟩

/-- Whose first part is known to succeed. -/
theorem Yields.bind_iff {f : α → Eval σ β} {b : β} (h : x.Yields c a d) :
    (x >>= f).Yields c b e ↔ (f a).Yields d b e := by
  unfold Yields at h ⊢
  rw [outcome_bind, h]

theorem yields_get {s : Context σ} : (get : Eval σ (Context σ)).Yields c s d ↔ s = c ∧ d = c := by
  simp only [Yields, outcome_get, Prod.mk.injEq, Except.ok.injEq, eq_comm]

theorem yields_modifyGet {f : Context σ → α × Context σ} :
    (modifyGet f : Eval σ α).Yields c a d ↔ a = (f c).1 ∧ d = (f c).2 := by
  simp only [Yields, outcome_modifyGet, Prod.mk.injEq, Except.ok.injEq, eq_comm]

theorem yields_modify {f : Context σ → Context σ} {u : PUnit} :
    (modify f : Eval σ PUnit).Yields c u d ↔ d = f c := by
  simp only [Yields, outcome_modify, Prod.mk.injEq, true_and, eq_comm]

theorem not_yields_throw {e : Halt} : ¬ (throw e : Eval σ α).Yields c a d := by
  simp [Yields]

theorem yields_ofExcept {r : Except Failure α} :
    (ofExcept r).Yields c a d ↔ r = .ok a ∧ d = c := by
  cases r with
  | ok b => simp only [ofExcept, yields_pure, Except.ok.injEq, eq_comm]
  | error failure => simp [ofExcept, fail, not_yields_throw]

theorem yields_report {diagnostic : Diagnostic} {u : Unit} :
    (report diagnostic).Yields c u d ↔ d = c.report diagnostic := yields_modify

theorem yields_withoutStyles : (withoutStyles x).Yields c a d ↔
    ∃ d', x.Yields { c with styles.active := [] } a d' ∧
      d = { d' with styles.active := c.styles.active } := by
  unfold Yields
  rw [outcome_withoutStyles]
  constructor
  · intro h
    obtain ⟨ha, hd⟩ := Prod.mk.inj h
    exact ⟨_, Prod.ext ha rfl, hd.symm⟩
  · rintro ⟨d', h, rfl⟩
    rw [h]

/-- A run that can be evaluated yields what it is seen to yield. -/
theorem exists_yields {p : α → Bool} {Q : α → Context σ → Prop}
    (h : (x.outcome c).1.toOption.any p = true)
    (hQ : ∀ a d, x.Yields c a d → p a = true → Q a d) : ∃ a d, x.Yields c a d ∧ Q a d := by
  unfold Yields at hQ ⊢
  rcases hx : x.outcome c with ⟨_ | a, d⟩ <;> rw [hx] at h
  · exact absurd h nofun
  · exact ⟨a, d, rfl, hQ a d hx h⟩

end Eval

end Placard
