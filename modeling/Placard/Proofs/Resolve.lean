import Placard.Info.Resolve
import Placard.Proofs.Eval
import Placard.Proofs.TagNames

/-! # What an info tag does

A tag that names no module fails, and one that stands for lines is expanded each time. The value of
any other one is computed once and then remembered for its key (`Info.resolve_eq`). -/

namespace Placard.Info

variable {σ : Type} [Provider σ]

/-- The value of a tag, whatever is remembered of it. -/
def compute (nested : Nested σ) (spec : List Char) : Eval σ Value := do
  let (name, memberName) := splitSpec spec
  let module ← Eval.ofExcept (Module.lookup (String.ofList name))
  match memberName with
  | some memberName => member nested module (String.ofList memberName)
  | none => summary nested module

theorem compute_eq_member (nested : Nested σ)
    (hsplit : splitSpec spec = (name, some memberName))
    (hlookup : Module.lookup (String.ofList name) = .ok module) :
    compute nested spec = member nested module (String.ofList memberName) := by
  unfold compute
  rw [hsplit]
  dsimp only
  rw [hlookup]
  rfl

theorem compute_eq_summary (nested : Nested σ) (hsplit : splitSpec spec = (name, none))
    (hlookup : Module.lookup (String.ofList name) = .ok module) :
    compute nested spec = summary nested module := by
  unfold compute
  rw [hsplit]
  dsimp only
  rw [hlookup]
  rfl

/-- Remembers a value for a key, unless there is one; gives the value that stays. -/
def remember (key : String × String) (value : Value) : Eval σ Value :=
  modifyGet fun context =>
    let (kept, cache) := context.cache.insert key.1 key.2 value
    (kept, { context with cache })

/-- The tag names a module, and not one that stands for lines. -/
def NamesValue (spec : List Char) : Prop :=
  ∃ module, Module.lookup (String.ofList (splitSpec spec).1) = .ok module ∧
    module.isExpanding = false

/-- A tag that yields a value names a module. -/
theorem exists_module_of_resolve {nested : Nested σ} (h : (resolve nested spec).Yields c value d) :
    ∃ module, Module.lookup (String.ofList (splitSpec spec).1) = .ok module := by
  unfold resolve at h
  obtain ⟨module, _, hmodule, -⟩ := Eval.yields_bind.mp h
  exact ⟨module, (Eval.yields_ofExcept.mp hmodule).1⟩

theorem resolve_eq_throw (nested : Nested σ) {failure : Failure}
    (hlookup : Module.lookup (String.ofList (splitSpec spec).1) = .error failure) :
    resolve nested spec = throw (.failure failure) := by
  rcases hspec : splitSpec spec with ⟨name, memberName⟩
  rw [hspec] at hlookup
  simp only [resolve, hspec, hlookup]
  rfl

/-- A tag that stands for lines is expanded each time. -/
theorem resolve_eq_expand (nested : Nested σ)
    (hlookup : Module.lookup (String.ofList (splitSpec spec).1) = .ok module)
    (hexpanding : module.isExpanding = true) :
    resolve nested spec = expand nested ((splitSpec spec).2.map String.ofList) := by
  rcases hspec : splitSpec spec with ⟨name, memberName⟩
  rw [hspec] at hlookup
  simp only [resolve, hspec, hlookup, Eval.ofExcept, pure_bind, hexpanding, if_true]

/-- A tag that does not stand for lines is computed once for its key. -/
theorem resolve_eq (nested : Nested σ) (h : NamesValue spec) :
    resolve nested spec = (do
      match (← get).cache.get? (keyOf spec).1 (keyOf spec).2 with
      | some value => return value
      | none => remember (keyOf spec) (← compute nested spec)) := by
  obtain ⟨module, hlookup, hexpanding⟩ := h
  rcases hspec : splitSpec spec with ⟨name, memberName⟩
  rw [hspec] at hlookup
  dsimp only at hlookup
  simp only [resolve, compute, keyOf, hspec, hlookup, Eval.ofExcept, pure_bind, hexpanding]
  refine bind_congr fun context => ?_
  cases context.cache.get? (String.ofList name)
      ((memberName.map String.ofList).getD ("module-" ++ String.ofList name)) with
  | some value => rfl
  | none => cases memberName <;> rfl

end Placard.Info
