import Placard.Proofs.Awaited

/-! # The name of a template

A template is named in one place only, the report of a tag in it that is not closed, and after this
report nothing is done any more: `ReportsLast` says so of a computation, whatever its name, and the
trees that are read are followed in this way (`reportsLast_evalBody`). A tree without such a tag is
followed in the same way under all names (`ReportsLast.eq`). -/

namespace Placard.Template

variable {σ α β : Type}

/-- Reports tags of a template that lack these delimiters. -/
def reportMissed (name : String) (delimiters : List Char) : Eval σ Unit :=
  modify fun c => { c with diagnostics := c.diagnostics ++ unclosedTags name delimiters }

theorem reportMissed_nil (name : String) : (reportMissed name [] : Eval σ Unit) = pure () := by
  funext c
  change (reportMissed name []).outcome c = (.ok (), c)
  rw [reportMissed, Eval.outcome_modify, unclosedTags, List.map_nil, List.append_nil]

/-- Nothing that is done depends on the name of the template, but the report of what is missed in
it, which is the last thing that is done. -/
def ReportsLast (missed : List Char) (x : String → Eval σ α) : Prop :=
  ∃ y : Eval σ α, ∀ name, x name = do
    let a ← y
    reportMissed name missed
    return a

/-- It does not matter if reports are made before this or after it. -/
def Blind (x : Eval σ α) : Prop :=
  ∀ name delimiters, (do reportMissed name delimiters; x) = do
    let a ← x
    reportMissed name delimiters
    return a

theorem Blind.pure (a : α) : Blind (pure a : Eval σ α) := fun _ _ => by rw [pure_bind]

theorem Blind.openStyles_map (f : List OpenStyle → α) :
    Blind (do return f (← openStyles) : Eval σ α) := fun _ _ => rfl

namespace ReportsLast

variable {x : String → Eval σ α} {missed : List Char}

theorem const (y : Eval σ α) : ReportsLast [] fun _ => y := by
  refine ⟨y, fun name => ?_⟩
  simp only [reportMissed_nil, pure_bind, bind_pure]

theorem report (d : Char) (a : α) : ReportsLast [d] fun name => do
    Eval.report (σ := σ) (.unclosedTag d name)
    return a :=
  ⟨pure a, fun _ => by rw [pure_bind]; rfl⟩

/-- After a part in which nothing is missed. -/
theorem bind {f : String → α → Eval σ β} (hx : ReportsLast [] x)
    (hf : ∀ a, ReportsLast missed (f · a)) : ReportsLast missed fun name => x name >>= f name := by
  obtain ⟨y, hy⟩ := hx
  refine ⟨y >>= fun a => (hf a).choose, fun name => ?_⟩
  dsimp only
  rw [hy, reportMissed_nil, bind_assoc, bind_assoc]
  refine bind_congr fun a => ?_
  rw [pure_bind, pure_bind]
  exact (hf a).choose_spec name

/-- After a part in which something may be missed. -/
theorem bind_blind {f : α → Eval σ β} (hx : ReportsLast missed x) (hf : ∀ a, Blind (f a)) :
    ReportsLast missed fun name => x name >>= f := by
  obtain ⟨y, hy⟩ := hx
  refine ⟨y >>= f, fun name => ?_⟩
  dsimp only
  rw [hy, bind_assoc, bind_assoc]
  refine bind_congr fun a => ?_
  rw [bind_assoc, ← hf a name missed]
  exact bind_congr fun _ => pure_bind a f

/-- After a part of a tag, which stands for the whole tag if it is cut off. -/
theorem part {k : String → α → Eval σ β} (hx : ReportsLast first x)
    (hends : EndsOnce isClosed first left) (g : α → β)
    (hk : isClosed = true → ∀ a, ReportsLast second (k · a)) :
    ReportsLast (first ++ if isClosed then second else []) fun name =>
      x name >>= fun a => if (!isClosed) = true then pure (g a) else k name a := by
  cases isClosed with
  | true =>
    obtain rfl : first = [] := hends
    exact hx.bind (hk rfl)
  | false =>
    rw [if_neg Bool.false_ne_true, List.append_nil]
    exact hx.bind_blind fun a => .pure (g a)

/-- After the last part of a tag. -/
theorem last_part {k : α → Eval σ β} (hx : ReportsLast missed x)
    (hends : EndsOnce isClosed missed left) (g : α → β) :
    ReportsLast missed fun name =>
      x name >>= fun a => if (!isClosed) = true then pure (g a) else k a := by
  have hpart := hx.part hends g fun _ a => .const (k a)
  rwa [ite_self, List.append_nil] at hpart

/-- Where nothing is missed the name is irrelevant. -/
theorem eq (hx : ReportsLast [] x) (name name' : String) : x name = x name' := by
  obtain ⟨y, hy⟩ := hx
  rw [hy, hy, reportMissed_nil, reportMissed_nil]

theorem exists_state (hx : ReportsLast missed x) {c d : Context σ} {a : α}
    (h : (x name).Yields c a d) : ∃ c' : Context σ, ∀ other, (x other).Yields c a
      { c' with diagnostics := c'.diagnostics ++ unclosedTags other missed } := by
  obtain ⟨y, hy⟩ := hx
  rw [hy, Eval.yields_bind] at h
  obtain ⟨_, c', hyields, h⟩ := h
  obtain ⟨_, _, -, h⟩ := Eval.yields_bind.mp h
  obtain ⟨rfl, -⟩ := Eval.yields_pure.mp h
  refine ⟨c', fun other => ?_⟩
  rw [hy, hyields.bind_iff]
  rfl

end ReportsLast

variable [Provider σ] (nested : Info.Nested σ)

theorem evalBody_done (h : Ending.cutOffs ending = []) (name : String) (evaluate : Bool)
    (draft : Draft) : evalBody nested name evaluate draft (.done ending) = pure draft := by
  cases ending with
  | unclosed d => cases h
  | closed | interrupted => rfl

theorem cutOffs_atEnd_true (stop : Option Char) : (Ending.atEnd stop true).cutOffs = [] := by
  cases stop <;> rfl

theorem reportsLast_done (ending : Ending) (evaluate : Bool) (draft : Draft) :
    ReportsLast ending.cutOffs fun name => evalBody nested name evaluate draft (.done ending) := by
  unfold evalBody
  cases ending with
  | unclosed d => exact .report d draft
  | closed | interrupted => exact .const (pure draft)

mutual

theorem reportsLast_evalBody : ReadsBody stop cutOff cs body left → ∀ evaluate draft,
    ReportsLast body.cutOffs fun name => evalBody nested name evaluate draft body
  | .atEnd, evaluate, draft => reportsLast_done nested _ evaluate draft
  | .delimiter, evaluate, draft => reportsLast_done nested _ evaluate draft
  | .backslash _, evaluate, draft => by
    unfold evalBody
    exact (ReportsLast.const _).bind fun _ => reportsLast_done nested _ evaluate _
  | .escaped _ h, evaluate, draft => by
    unfold evalBody
    exact (ReportsLast.const _).bind fun _ => reportsLast_evalBody h evaluate _
  | .char _ _ _ h, evaluate, draft => by
    unfold evalBody
    exact (ReportsLast.const _).bind fun _ => reportsLast_evalBody h evaluate _
  | .tag _ ht h, evaluate, draft => by
    unfold evalBody
    rw [(cutOffs_of_tag ht h).1]
    have htag := reportsLast_evalTag ht evaluate
    split
    · rename_i hclosed
      rw [ht.cutOffs_eq_nil hclosed] at htag ⊢
      exact htag.bind fun _ => (ReportsLast.const _).bind fun _ => reportsLast_evalBody h evaluate _
    · rename_i hopen
      obtain ⟨rfl, -⟩ := eq_done_of_open ht h (eq_false_of_ne_true hopen)
      rw [List.append_nil]
      simp only [evalBody_done nested (cutOffs_atEnd_true _)]
      exact htag.bind_blind fun _ => .openStyles_map _

theorem reportsLast_evalTag : ReadsTag cs tag left → ∀ evaluate,
    ReportsLast tag.cutOffs fun name => evalTag nested name evaluate tag
  | .info h, evaluate => by
    unfold evalTag
    exact (reportsLast_evalBody h evaluate {}).last_part ((endsOnce_of_readsBody h).2 rfl) _
  | .color h, evaluate => by
    unfold evalTag
    exact (reportsLast_evalBody h evaluate {}).last_part ((endsOnce_of_readsBody h).2 rfl) _
  | .percentage h₁ h₂, evaluate => by
    unfold evalTag
    refine (reportsLast_evalBody h₁ _ {}).part ((endsOnce_of_readsBody h₁).2 rfl) _ fun _ _ => ?_
    exact (reportsLast_evalBody h₂ _ {}).last_part ((endsOnce_of_readsBody h₂).2 rfl) _
  | .conditional h₁ h₂ h₃ h₄, evaluate => by
    unfold evalTag
    refine (reportsLast_evalBody h₁ _ {}).part ((endsOnce_of_readsBody h₁).2 rfl) _ fun _ _ => ?_
    refine (reportsLast_evalBody h₂ _ {}).part ((endsOnce_of_readsBody h₂).2 rfl) _ fun _ _ => ?_
    refine (reportsLast_evalBody h₃ _ {}).part ((endsOnce_of_readsBody h₃).2 rfl) _ fun _ _ => ?_
    exact (reportsLast_evalBody h₄ _ {}).last_part ((endsOnce_of_readsBody h₄).2 rfl) _

end

end Placard.Template
