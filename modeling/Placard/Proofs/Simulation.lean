import Mathlib.Data.List.Forall2
import Placard.Proofs.Eval

/-! # Computations side by side

`Eval.Simulates demand R V x y` says that `y` does what `x` does: run from states that `R` relates,
it gives a result that `V` relates to that of `x`, and the states are related again. The `Demand`
says for which runs this is asked. The combinators follow the structure of a computation
(`Simulates.bind`), so that a simulation of a whole program is put together from those of its
primitives. -/

namespace Placard.Eval

/-- Which runs of the first computation the second one has to follow. -/
inductive Demand where
  /-- All runs: it also stops where the first one stops, and for the same reason. -/
  | all
  /-- Runs that succeed. -/
  | successes
  /-- Runs that succeed where it succeeds itself. -/
  | jointSuccesses

variable {σ α β γ δ : Type} {demand : Demand} {R : Context σ → Context σ → Prop}

/-- The second outcome is what the first one asks for. -/
inductive Follows (demand : Demand) (R : Context σ → Context σ → Prop) (V : α → β → Prop) :
    Except Halt α × Context σ → Except Halt β × Context σ → Prop
  | ok : V a b → R c d → Follows demand R V (.ok a, c) (.ok b, d)
  | error : R c d → Follows demand R V (.error e, c) (.error e, d)
  | free (outcome) : demand ≠ .all → Follows demand R V (.error e, c) outcome
  | lost (outcome) : demand = .jointSuccesses → Follows demand R V outcome (.error e, d)

theorem Follows.mono {V V' : α → β → Prop} (hV : ∀ a b, V a b → V' a b)
    (h : Follows demand R V p q) : Follows demand R V' p q := by
  cases h with
  | ok hab hR => exact .ok (hV _ _ hab) hR
  | error hR => exact .error hR
  | free _ hd => exact .free _ hd
  | lost _ hd => exact .lost _ hd

theorem Follows.mono_state {V : α → β → Prop} {R' : Context σ → Context σ → Prop}
    (h : Follows demand R V p q) (hR : ∀ c d, R c d → R' c d) : Follows demand R' V p q := by
  cases h with
  | ok hab h => exact .ok hab (hR _ _ h)
  | error h => exact .error (hR _ _ h)
  | free _ hd => exact .free _ hd
  | lost _ hd => exact .lost _ hd

def Simulates (demand : Demand) (R : Context σ → Context σ → Prop) (V : α → β → Prop)
    (x : Eval σ α) (y : Eval σ β) : Prop :=
  ∀ c d, R c d → Follows demand R V (x.outcome c) (y.outcome d)

namespace Simulates

variable {V : α → β → Prop} {W : γ → δ → Prop} {x : Eval σ α} {y : Eval σ β}

theorem yields (h : Simulates demand R V x y) (hdemand : demand ≠ .jointSuccesses) (hR : R c d)
    (hx : x.Yields c a c') : ∃ b d', y.Yields d b d' ∧ V a b ∧ R c' d' := by
  have hf := h c d hR
  rw [hx] at hf
  generalize hy : y.outcome d = outcome at hf
  cases hf with
  | ok hV hR' => exact ⟨_, _, hy, hV, hR'⟩
  | lost _ hd => exact absurd hd hdemand

/-- Where both succeed, the results are related. -/
theorem related (h : Simulates demand R V x y) (hR : R c d) (hx : x.Yields c a c')
    (hy : y.Yields d b d') : V a b ∧ R c' d' := by
  have hf := h c d hR
  rw [hx, hy] at hf
  cases hf with
  | ok hV hR' => exact ⟨hV, hR'⟩

theorem mono {V' : α → β → Prop} (hV : ∀ a b, V a b → V' a b) (h : Simulates demand R V x y) :
    Simulates demand R V' x y := fun c d hR => (h c d hR).mono hV

/-- What is known of the results of the first computation may be added. -/
theorem and_left {P : α → Prop} (h : Simulates demand R V x y)
    (hP : ∀ {c d a c'}, R c d → x.Yields c a c' → P a) :
    Simulates demand R (fun a b => V a b ∧ P a) x y := by
  intro c d hR
  have hf := h c d hR
  have hyields (a c') (hx : x.outcome c = (.ok a, c')) : P a := hP hR hx
  generalize x.outcome c = p, y.outcome d = q at hf hyields
  cases hf with
  | ok hV hR => exact .ok ⟨hV, hyields _ _ rfl⟩ hR
  | error hR => exact .error hR
  | free _ hd => exact .free _ hd
  | lost _ hd => exact .lost _ hd

/-! ## Primitives -/

theorem pure (h : V a b) : Simulates demand R V (pure a) (pure b) := fun _ _ hR => .ok h hR

theorem throw (e : Halt) : Simulates demand R V (throw e) (throw e) := fun _ _ hR => .error hR

theorem ofExcept (r : Except Failure α) : Simulates demand R Eq (ofExcept r) (ofExcept r) := by
  cases r with
  | ok a => exact pure rfl
  | error failure => exact throw (.failure failure)

/-- Both computations look at their own state. -/
theorem get : Simulates demand R R get get := fun _ _ hR => .ok hR hR

theorem modifyGet {f : Context σ → α × Context σ} {g : Context σ → β × Context σ}
    (h : ∀ c d, R c d → V (f c).1 (g d).1 ∧ R (f c).2 (g d).2) :
    Simulates demand R V (modifyGet f) (modifyGet g) :=
  fun c d hR => .ok (h c d hR).1 (h c d hR).2

theorem modify {f g : Context σ → Context σ} (h : ∀ c d, R c d → R (f c) (g d)) :
    Simulates demand R Eq (modify f : Eval σ PUnit) (modify g) := fun c d hR => .ok rfl (h c d hR)

/-! ## Combinations -/

theorem bind {f : α → Eval σ γ} {g : β → Eval σ δ} (hx : Simulates demand R V x y)
    (hf : ∀ a b, V a b → Simulates demand R W (f a) (g b)) :
    Simulates demand R W (x >>= f) (y >>= g) := by
  intro c d hR
  have h := hx c d hR
  rw [outcome_bind, outcome_bind]
  generalize x.outcome c = p, y.outcome d = q at h
  cases h with
  | ok hV hR' => exact hf _ _ hV _ _ hR'
  | error hR' => exact .error hR'
  | free _ hd => exact .free _ hd
  | lost _ hd => exact .lost _ hd

/-- Equal results are the same in what follows. -/
theorem bind_eq {x y : Eval σ α} {f : α → Eval σ γ} {g : α → Eval σ δ}
    (hx : Simulates demand R Eq x y) (hf : ∀ a, Simulates demand R W (f a) (g a)) :
    Simulates demand R W (x >>= f) (y >>= g) := by
  refine hx.bind fun a b hab => ?_
  rw [← hab]
  exact hf a

theorem map {f : α → γ} {g : β → δ} (hx : Simulates demand R V x y)
    (hf : ∀ a b, V a b → W (f a) (g b)) : Simulates demand R W (f <$> x) (g <$> y) := by
  rw [← bind_pure_comp, ← bind_pure_comp]
  exact hx.bind fun a b h => pure (hf a b h)

theorem mapM {ι : Type} {f : ι → Eval σ α} {g : ι → Eval σ β}
    (h : ∀ i, Simulates demand R V (f i) (g i)) (is : List ι) :
    Simulates demand R (List.Forall₂ V) (is.mapM f) (is.mapM g) := by
  induction is with
  | nil => exact pure .nil
  | cons i is ih =>
    rw [List.mapM_cons, List.mapM_cons]
    exact (h i).bind fun _ _ hab => ih.bind fun _ _ hl => pure (.cons hab hl)

/-- The styles of the states may be taken out, and put back in afterwards. What is related in between
is of no matter outside. -/
theorem withoutStyles_of_inner {S : Context σ → Context σ → Prop}
    (hin : ∀ c d, R c d → S { c with styles.active := [] } { d with styles.active := [] })
    (hout : ∀ c d c' d', R c d → S c' d' →
      R { c' with styles.active := c.styles.active } { d' with styles.active := d.styles.active })
    (hx : Simulates demand S V x y) :
    Simulates demand R V (withoutStyles x) (withoutStyles y) := by
  intro c d hR
  have h := hx _ _ (hin c d hR)
  rw [outcome_withoutStyles, outcome_withoutStyles]
  generalize x.outcome { c with styles.active := [] } = p,
    y.outcome { d with styles.active := [] } = q at h
  cases h with
  | ok hV hR' => exact .ok hV (hout _ _ _ _ hR hR')
  | error hR' => exact .error (hout _ _ _ _ hR hR')
  | free _ hd => exact .free _ hd
  | lost _ hd => exact .lost _ hd

theorem withoutStyles
    (hin : ∀ c d, R c d → R { c with styles.active := [] } { d with styles.active := [] })
    (hout : ∀ c d c' d', R c d → R c' d' →
      R { c' with styles.active := c.styles.active } { d' with styles.active := d.styles.active })
    (hx : Simulates demand R V x y) :
    Simulates demand R V (withoutStyles x) (withoutStyles y) :=
  withoutStyles_of_inner hin hout hx

end Simulates

end Placard.Eval
