import Placard.Proofs.Invariant
import Placard.Provider.Snapshot

/-! # What is remembered stays

A value is written once for its key and never changed (`Info.Cache.get?_insert_of_get?`), and a tag
that has given a value has left it there (`Info.get?_of_resolve`). So whatever is read in between,
with success or without (`Context.Later`), the same tag gives the same value without a query, and
leaves the state as it is (`resolve_eq_of_later`). -/

namespace Placard

namespace Info

/-! ## One value for a key -/

/-- Remembering gives the value that is found from then on. -/
theorem Cache.get?_insert (cache : Cache) (module member : String) (value : Value) :
    (cache.insert module member value).2.get? module member =
      some (cache.insert module member value).1 := by
  unfold insert
  cases hget : cache.get? module member with
  | some kept => exact hget
  | none =>
    change (cache.entries ++ [((module, member), value)]).lookup (module, member) = some value
    have hentries : cache.entries.lookup (module, member) = none := hget
    rw [List.lookup_append, hentries, List.lookup_cons_self]
    rfl

/-- What is remembered is not written over, under the same key or another one. -/
theorem Cache.get?_insert_of_get? {cache : Cache} {key : String × String}
    (h : cache.get? key.1 key.2 = some value) (module member : String) (value' : Value) :
    (cache.insert module member value').2.get? key.1 key.2 = some value := by
  unfold insert
  cases cache.get? module member with
  | some kept => exact h
  | none =>
    change (cache.entries ++ [((module, member), value')]).lookup key = some value
    have hentries : cache.entries.lookup key = some value := h
    rw [List.lookup_append, hentries]
    rfl

variable {σ : Type} [Provider σ] {nested : Nested σ} {c d : Context σ}

/-- A value that is remembered is all there is to a tag. -/
theorem resolve_of_get? (nested : Nested σ) (hspec : NamesValue spec)
    (hget : c.cache.get? (keyOf spec).1 (keyOf spec).2 = some value) :
    (resolve nested spec).outcome c = (.ok value, c) := by
  rw [resolve_eq nested hspec, Eval.outcome_bind, Eval.outcome_get]
  dsimp only
  rw [hget]
  rfl

/-- A tag that gave a value has left it under its key. -/
theorem get?_of_resolve (hspec : NamesValue spec) (h : (resolve nested spec).Yields c value d) :
    d.cache.get? (keyOf spec).1 (keyOf spec).2 = some value := by
  rw [resolve_eq nested hspec] at h
  obtain ⟨_, _, hget, hrest⟩ := Eval.yields_bind.mp h
  obtain ⟨rfl, rfl⟩ := Eval.yields_get.mp hget
  split at hrest
  · next kept hkept =>
    obtain ⟨rfl, rfl⟩ := Eval.yields_pure.mp hrest
    exact hkept
  · obtain ⟨computed, c', -, hremember⟩ := Eval.yields_bind.mp hrest
    obtain ⟨rfl, rfl⟩ := Eval.yields_modifyGet.mp hremember
    exact Cache.get?_insert _ _ _ computed

end Info

open Template
open Eval (Keeps)

variable {σ : Type} {c d : Context σ}

/-! ## Whatever is read in between -/

/-- The value is remembered for the key. -/
def Context.Remembers (key : String × String) (value : Info.Value) (c : Context σ) : Prop :=
  c.cache.get? key.1 key.2 = some value

theorem remembers_applyColor (token : String) (key : String × String) (value : Info.Value) :
    Keeps (Context.Remembers (σ := σ) key value) (applyColor token) := by
  intro c h
  obtain ⟨styles, autoColors, firstColorSeen, diagnostics, heq, -⟩ := exists_of_applyColor token c
  rw [heq]
  exact h

variable [Provider σ]

theorem invariant_remembers (key : String × String) (value : Info.Value) :
    Invariant (Context.Remembers (σ := σ) key value) where
  ask h _ := h
  sepResetApplied h _ := h
  spliced h _ := h
  report h _ := h
  applyColor token := remembers_applyColor token key value

omit [Provider σ] in
theorem remembers_remember (key key' : String × String) (value value' : Info.Value) :
    Keeps (Context.Remembers (σ := σ) key value) (Info.remember key' value') :=
  fun _ h => Info.Cache.get?_insert_of_get? h _ _ _

theorem remembers_evalNested (key : String × String) (value : Info.Value) (depth : Nat)
    (template : List Char) :
    Keeps (Context.Remembers (σ := σ) key value) (evalNested depth template) :=
  (invariant_remembers key value).keeps_evalNested id (fun _ h => h)
    (fun _ _ => remembers_remember key _ value _) depth template

theorem remembers_resolve (key : String × String) (value : Info.Value) (depth : Nat)
    (spec : List Char) :
    Keeps (Context.Remembers (σ := σ) key value) (Info.resolve (evalNested depth) spec) :=
  (invariant_remembers key value).keeps_resolve (remembers_evalNested key value depth)
    fun _ _ => remembers_remember key _ value _

theorem remembers_evalBody (key : String × String) (value : Info.Value) (depth : Nat)
    (name : String) (evaluate : Bool) (draft : Draft) (body : Body) :
    Keeps (Context.Remembers (σ := σ) key value)
      (evalBody (evalNested depth) name evaluate draft body) :=
  (invariant_remembers key value).keeps_evalBody (remembers_evalNested key value depth)
    (remembers_resolve key value depth) name evaluate draft body

/-- The states that can come after `c` as long as nothing is forgotten. -/
inductive Context.Later (c : Context σ) : Context σ → Prop
  | refl : Later c c
  /-- Any part of a template is read, at any depth, with success or without. -/
  | read (d : Context σ) (depth name evaluate draft body) : Later c d →
      Later c ((evalBody (evalNested depth) name evaluate draft body).outcome d).2
  | resolve (d : Context σ) (depth spec) : Later c d →
      Later c ((Info.resolve (evalNested depth) spec).outcome d).2
  /-- Reading goes on elsewhere, in the art or in the layout, under other styles, or after the
  facts have changed. -/
  | move (d e : Context σ) : Later c d → e.cache = d.cache → Later c e

/-- A whole template, whether it succeeds or fails. -/
theorem Context.Later.parseLine (h : c.Later d) (template : String) :
    c.Later ((Template.parseLine template).outcome d).2 := by
  have hread := h.read d maxDepth (String.ofList template.toList) true {} (.read template.toList)
  refine .move _ _ hread ?_
  unfold Template.parseLine evalWhole
  rw [Eval.outcome_bind]
  rcases (evalBody (evalNested maxDepth) (String.ofList template.toList) true {}
    (.read template.toList)).outcome d with ⟨_ | _, _⟩ <;> rfl

theorem Context.Later.remembers {key : String × String} {value : Info.Value} (h : c.Later d)
    (hc : c.Remembers key value) : d.Remembers key value := by
  induction h with
  | refl => exact hc
  | read d depth name evaluate draft body _ ih =>
    exact remembers_evalBody key value depth name evaluate draft body d ih
  | resolve d depth spec _ ih => exact remembers_resolve key value depth spec d ih
  | move d e _ hcache ih =>
    unfold Context.Remembers
    rw [hcache]
    exact ih

/-- All that is remembered stays as it is. A tag that has given a value gives the same one ever
after, styles included, and does nothing else. -/
theorem resolve_eq_of_later (h : c.Later d) :
    (∀ module member value, c.cache.get? module member = some value →
      d.cache.get? module member = some value) ∧
    ∀ depth spec before value, Info.NamesValue spec →
      (Info.resolve (evalNested depth) spec).Yields before value c →
      ∀ depth', (Info.resolve (evalNested depth') spec).outcome d = (.ok value, d) := by
  have hstays (module member : String) (value : Info.Value)
      (hget : c.cache.get? module member = some value) :
      d.cache.get? module member = some value := by
    have hc : c.Remembers (module, member) value := hget
    exact h.remembers hc
  refine ⟨hstays, fun depth spec before value hspec hyields depth' => ?_⟩
  exact Info.resolve_of_get? _ hspec (hstays _ _ _ (Info.get?_of_resolve hspec hyields))

/-- A whole module, before and after a template that fails. -/
theorem resolve_eq_of_later_failure :
    let facts : Facts := { gpus := [{ name := "Arc", vendor := "Intel" }] }
    let before : Context Snapshot := { config := {}, provider := { facts } }
    let spec := "gpu".toList
    let c := ((Info.resolve (evalNested maxDepth) spec).outcome before).2
    let d := ((parseLine "$<os.name>$<x>").outcome c).2
    c.Later d ∧ ((parseLine "$<os.name>$<x>").outcome c).1.toOption.isNone = true ∧
      ∃ value, (Info.resolve (evalNested maxDepth) spec).Yields before value c ∧
        value.toText = "Intel Arc".toList ∧ Info.NamesValue spec ∧
        (Info.resolve (evalNested maxDepth) spec).outcome d = (.ok value, d) := by
  intro facts before spec c d
  have hlater : c.Later d := Context.Later.refl.parseLine _
  have hspec : Info.NamesValue spec := ⟨.gpu 0, by decide, rfl⟩
  refine ⟨hlater, by decide +kernel, ?_⟩
  obtain ⟨value, after, hyields, htext, rfl⟩ := Eval.exists_yields
    (x := Info.resolve (evalNested maxDepth) spec) (c := before)
    (p := (·.toText = "Intel Arc".toList))
    (Q := fun value after => value.toText = "Intel Arc".toList ∧ after = c)
    (by decide +kernel) fun value after h hp =>
      ⟨of_decide_eq_true hp, (congrArg Prod.snd h).symm⟩
  exact ⟨value, hyields, htext, hspec,
    (resolve_eq_of_later hlater).2 _ _ _ _ hspec hyields maxDepth⟩

end Placard
