import Placard.Proofs.SetAside
import Placard.Provider.Snapshot

/-! # A context that was reset

A reset forgets all but the numbers of the openings, which go on, and the provider may keep a record
of its own. No request to a context shows either: on two states that are the same but for that
(`Context.Same`) each request gives the same and leaves such states again
(`Context.Request.simulates_run`), and so does a whole list of them (`Context.transcript_eq`). So a
context that was reset is as good as a new one, whatever was done with it before
(`Context.transcript_reset`). -/

namespace Placard

variable {σ : Type}

/-! ## Providers that answer alike -/

/-- The relation holds between providers that answer alike, and queries keep it. -/
structure Provider.Bisimulation [Provider σ] (R : σ → σ → Prop) : Prop where
  answer : R p q → ∀ query, (Provider.ask query p).1 = (Provider.ask query q).1
  after : R p q → ∀ query, R (Provider.ask query p).2 (Provider.ask query q).2

/-- Whatever the two are asked, they give the same answers. -/
def Provider.Alike [Provider σ] (p q : σ) : Prop := ∃ R, Bisimulation R ∧ R p q

namespace Provider.Alike

variable [Provider σ] {p q : σ}

theorem refl (p : σ) : Alike p p :=
  ⟨Eq, ⟨fun h _ => by rw [h], fun h _ => by rw [h]⟩, rfl⟩

theorem answer (h : Alike p q) (query : Query) :
    (Provider.ask query p).1 = (Provider.ask query q).1 := by
  obtain ⟨R, hR, hpq⟩ := h
  exact hR.answer hpq query

theorem after (h : Alike p q) (query : Query) :
    Alike (Provider.ask query p).2 (Provider.ask query q).2 := by
  obtain ⟨R, hR, hpq⟩ := h
  exact ⟨R, hR, hR.after hpq query⟩

end Provider.Alike

/-- Snapshots of the same facts answer alike, whatever they were asked. -/
theorem Snapshot.alike {p q : Snapshot} (h : p.facts = q.facts) : Provider.Alike p q :=
  ⟨fun p q => p.facts = q.facts,
    ⟨fun h query => congrArg (·.answer query) h, fun h _ => h⟩, h⟩

/-! ## States that are the same but for their numbers -/

/-- The states are the same but for the numbers of openings and for what the providers keep. -/
def Context.Same [Provider σ] (n m : Nat) (c d : Context σ) : Prop :=
  ∃ provider styles, Provider.Alike c.provider provider ∧ c.styles.Renumbered n m styles ∧
    d = { c with provider, styles }

namespace Context.Same

variable [Provider σ] {n m : Nat} {c d : Context σ} {nested : Info.Nested σ}

theorem laid (h : Same n m c d) :
    List.Forall₂ (OpenStyle.Renumbered n m) c.laid d.laid := by
  obtain ⟨provider, styles, -, hstyles, rfl⟩ := h
  unfold Context.laid
  split
  · exact .nil
  · exact hstyles.active

/-! ## Info tags -/

theorem simulates_injectSeparatorReset (line : List Char) :
    Eval.Simulates .all (Same (σ := σ) n m) Eq (modifyGet (·.injectSeparatorReset line))
      (modifyGet (·.injectSeparatorReset line)) := by
  refine .modifyGet ?_
  rintro c _ ⟨provider, styles, hprovider, hstyles, rfl⟩
  simp only [Context.injectSeparatorReset]
  split
  · exact ⟨rfl, provider, styles, hprovider, hstyles, rfl⟩
  split
  · exact ⟨rfl, provider, styles, hprovider, hstyles, rfl⟩
  · exact ⟨rfl, provider, styles, hprovider, hstyles, rfl⟩

theorem simulates_setSepResetApplied (applied : Bool) :
    Eval.Simulates .all (Same (σ := σ) n m) Eq
      (modify ({ · with sepResetApplied := applied }) : Eval σ PUnit)
      (modify ({ · with sepResetApplied := applied })) := by
  refine .modify ?_
  rintro c _ ⟨provider, styles, hprovider, hstyles, rfl⟩
  exact ⟨provider, styles, hprovider, hstyles, rfl⟩

theorem expandable : Info.Expandable .all (Same (σ := σ) n m) Eq where
  config := by
    rintro c _ ⟨provider, styles, -, -, rfl⟩
    rfl
  ask query := by
    refine .modifyGet ?_
    rintro c _ ⟨provider, styles, hprovider, hstyles, rfl⟩
    exact ⟨hprovider.answer query, _, styles, hprovider.after query, hstyles, rfl⟩
  pushText := by
    rintro r _ rfl text
    rfl
  parsingLayout := by
    rintro c _ ⟨provider, styles, -, -, rfl⟩
    rfl
  injectSeparatorReset line := by
    exact (simulates_setSepResetApplied false).bind_eq fun _ => simulates_injectSeparatorReset line
  splice := by
    rintro c _ r _ ⟨provider, styles, hprovider, hstyles, rfl⟩ rfl
    exact ⟨provider, styles, hprovider, hstyles, rfl⟩

variable (hn : ∀ template, Eval.Simulates .all (Same n m) Eq (nested template) (nested template))

theorem simulates_remember (key : String × String) (value : Info.Value) :
    Eval.Simulates .all (Same (σ := σ) n m) Eq (Info.remember key value)
      (Info.remember key value) := by
  refine .modifyGet ?_
  rintro c _ ⟨provider, styles, hprovider, hstyles, rfl⟩
  exact ⟨rfl, provider, styles, hprovider, hstyles, rfl⟩

include hn

theorem simulates_coloredPercentage (percent : Float) (inverted : Bool) :
    Eval.Simulates .all (Same n m) Eq (Info.coloredPercentage nested percent inverted)
      (Info.coloredPercentage nested percent inverted) :=
  Info.simulates_coloredPercentage (fun _ _ h => expandable.config h) hn percent inverted

theorem simulates_compute (spec : List Char) :
    Eval.Simulates .all (Same n m) Eq (Info.compute nested spec) (Info.compute nested spec) := by
  have hsummary (module : Info.Module) : Eval.Simulates .all (Same n m) (Info.Value.Related Eq)
      (Info.summary nested module) (Info.summary nested module) :=
    Info.simulates_summary expandable.toComparable module fun template _ => hn template
  unfold Info.compute
  refine (Eval.Simulates.ofExcept _).bind_eq fun module => ?_
  dsimp only
  split
  · refine (Info.simulates_member expandable.toComparable module _
      (simulates_coloredPercentage hn) fun _ => hsummary module).mono fun _ _ => ?_
    exact Info.eq_of_related
  · exact (hsummary module).mono fun _ _ => Info.eq_of_related

theorem simulates_resolve (spec : List Char) :
    Eval.Simulates .all (Same n m) Eq (Info.resolve nested spec) (Info.resolve nested spec) := by
  cases hlookup : Info.Module.lookup (String.ofList (Info.splitSpec spec).1) with
  | error failure =>
    rw [Info.resolve_eq_throw nested hlookup]
    exact .throw _
  | ok module =>
    cases hexpanding : module.isExpanding with
    | true =>
      rw [Info.resolve_eq_expand nested hlookup hexpanding]
      exact (Info.simulates_expand expandable hn _).mono fun _ _ => Info.eq_of_related
    | false =>
      rw [Info.resolve_eq nested ⟨module, hlookup, hexpanding⟩]
      refine Eval.Simulates.get.bind ?_
      rintro c _ ⟨provider, styles, -, -, rfl⟩
      cases c.cache.get? (Info.keyOf spec).1 (Info.keyOf spec).2 with
      | some value => exact .pure rfl
      | none => exact (simulates_compute hn spec).bind_eq fun value => simulates_remember _ value

/-! ## Templates -/

open Template

theorem comparable :
    Template.Comparable {} .all (Same n m) Eq (Piece.Renumbered n m) nested nested where
  text_eq h := by rw [h]
  plain _ := rfl
  ofRich h := ⟨h.symm, .nil⟩
  toRich h := h.text.symm
  add h hp text := hp.add h.laid text
  addPiece h hp hq := hp.addPiece hq h.laid
  report := by
    rintro diagnostic c _ - ⟨provider, styles, hprovider, hstyles, rfl⟩
    exact ⟨provider, styles, hprovider, hstyles, rfl⟩
  applyColor token := by
    rintro c _ ⟨provider, styles, hprovider, hstyles, rfl⟩
    rw [outcome_applyColor, outcome_applyColor]
    split
    · exact .ok rfl ⟨provider, styles, hprovider, hstyles, rfl⟩
    rcases ColorToken.resolve c.config token c.autoColors with ⟨failure | _ | resolved, colors⟩
    · exact .error ⟨provider, styles, hprovider, hstyles, rfl⟩
    · exact .ok rfl ⟨provider, styles, hprovider, hstyles, rfl⟩
    · exact .ok rfl ⟨provider, _, hprovider, hstyles.after resolved.action, rfl⟩
  resolve _ := (simulates_resolve hn _).mono fun _ _ h => by rw [h]
  coloredPercentage _ := simulates_coloredPercentage hn
  reset := False.elim
  addReset := False.elim

theorem simulates_evalWhole (template : List Char) :
    Eval.Simulates .all (Same n m) Eq (evalWhole nested template) (evalWhole nested template) := by
  have hC := comparable hn
  have hbody := hC.simulates_evalBody (hC.sameReports (String.ofList template)) true
    (.refl (fun _ => trivial) trivial (.read template)) hC.drafts_empty
  refine hbody.bind fun draft other hd => ?_
  refine (Eval.Simulates.modify ?_).bind_eq fun _ => .pure ?_
  · rintro c _ ⟨provider, styles, hprovider, hstyles, rfl⟩
    exact ⟨provider, _, hprovider, hstyles.cleared, rfl⟩
  · rw [hd.piece.text, Draft.plain, Draft.plain, hd.edits not_false]

omit hn

theorem simulates_evalNested (depth : Nat) (template : List Char) :
    Eval.Simulates .all (Same (σ := σ) n m) Eq (evalNested depth template)
      (evalNested depth template) := by
  induction depth generalizing template with
  | zero => exact .throw .tooDeep
  | succ depth ih =>
    refine Eval.Simulates.withoutStyles ?_ ?_
      ((simulates_evalWhole ih template).bind_eq fun _ => .pure rfl)
    · rintro c _ ⟨provider, styles, hprovider, hstyles, rfl⟩
      exact ⟨provider, styles.cleared, hprovider, hstyles.cleared, rfl⟩
    · rintro c _ c' _ ⟨_, styles, -, hstyles, rfl⟩ ⟨provider, styles', hprovider, hstyles', rfl⟩
      exact ⟨provider, { styles' with active := styles.active }, hprovider,
        ⟨hstyles.active, hstyles'.count⟩, rfl⟩

theorem simulates_parseLine (template : String) :
    Eval.Simulates .all (Same (σ := σ) n m) Eq (parseLine template) (parseLine template) :=
  simulates_evalWhole (simulates_evalNested maxDepth) template.toList

end Context.Same

/-! ## Requests -/

/-- The same span is closed on both sides. -/
theorem OpenStyles.Renumbered.closed {n m : Nat} {styles other : OpenStyles}
    (h : Renumbered n m styles other) (span : Span) :
    Renumbered n m (styles.closed span) (other.closed span) := by
  have herase {l l' : List OpenStyle} (h : List.Forall₂ (OpenStyle.Renumbered n m) l l') :
      List.Forall₂ (OpenStyle.Renumbered n m) (l.eraseP (·.span = span))
        (l'.eraseP (·.span = span)) := by
    induction h with
    | nil => exact .nil
    | @cons style _ _ _ hstyle htail ih =>
      rw [List.eraseP_cons, List.eraseP_cons, hstyle.1]
      cases decide (style.span = span) with
      | true => exact htail
      | false => exact .cons hstyle ih
  refine ⟨?_, h.count⟩
  exact List.rel_reverse (herase (List.rel_reverse h.active))

namespace Context

/-- What a context is asked for, or to do. -/
inductive Request where
  | parse (template : String)
  | resolve (spec : String)
  | injectSeparatorReset (line : String)
  | remember (key : String × String) (value : Info.Value)
  | openStyle (span : Span)
  | closeStyle (span : Span)
  | clearStyles
  | addAutoColor (token : String)
  | setFlags (parsingLayout sepResetApplied firstColorSeen : Bool)
  | takeSpliced

inductive Reply where
  | parsed (parsed : Template.Parsed)
  | value (value : Info.Value)
  | line (line : List Char)
  | lines (lines : List RichText)
  | done

def Request.run [Provider σ] : Request → Eval σ Reply
  | .parse template => return .parsed (← Template.parseLine template)
  | .resolve spec =>
    return .value (← Info.resolve (Template.evalNested Template.maxDepth) spec.toList)
  | .injectSeparatorReset line => return .line (← modifyGet (·.injectSeparatorReset line.toList))
  | .remember key value => return .value (← Info.remember key value)
  | .openStyle span => do
    modify fun context => { context with styles := context.styles.opened span }
    return .done
  | .closeStyle span => do
    modify fun context => { context with styles := context.styles.closed span }
    return .done
  | .clearStyles => do
    modify fun context => { context with styles := context.styles.cleared }
    return .done
  | .addAutoColor token => do
    modify fun context => { context with autoColors := context.autoColors ++ [token] }
    return .done
  | .setFlags parsingLayout sepResetApplied firstColorSeen => do
    modify fun context => { context with parsingLayout, sepResetApplied, firstColorSeen }
    return .done
  | .takeSpliced =>
    return .lines (← modifyGet fun context => (context.spliced, { context with spliced := [] }))

/-- What can be seen of a context. -/
structure Observed where
  cache : Info.Cache
  spans : List Span
  autoColors : List String
  parsingLayout : Bool
  sepResetApplied : Bool
  firstColorSeen : Bool
  spliced : List RichText
  diagnostics : List Diagnostic

def observed (c : Context σ) : Observed where
  cache := c.cache
  spans := c.styles.active.map (·.span)
  autoColors := c.autoColors
  parsingLayout := c.parsingLayout
  sepResetApplied := c.sepResetApplied
  firstColorSeen := c.firstColorSeen
  spliced := c.spliced
  diagnostics := c.diagnostics

/-- The reply to each request, and what can be seen after it. A request that fails is not the last
one. -/
def transcript [Provider σ] : List Request → Context σ → List (Except Halt Reply × Observed)
  | [], _ => []
  | request :: requests, c =>
    let (reply, after) := request.run.outcome c
    (reply, after.observed) :: transcript requests after

variable [Provider σ] {n m : Nat} {c d : Context σ}

theorem Same.observed_eq (h : Same n m c d) : d.observed = c.observed := by
  obtain ⟨provider, styles, -, hstyles, rfl⟩ := h
  have hspans : styles.active.map (·.span) = c.styles.active.map (·.span) := by
    have hspan := hstyles.active.imp fun _ _ hstyle => hstyle.1.symm
    exact (List.forall₂_eq_eq_eq ▸ List.forall₂_map_left_iff.mpr
      (List.forall₂_map_right_iff.mpr hspan) : _ = _).symm
  simp only [observed, hspans]

/-- Each request gives the same on such states, and leaves such states again. -/
theorem Request.simulates_run (request : Request) :
    Eval.Simulates .all (Same (σ := σ) n m) Eq request.run request.run := by
  cases request with
  | parse template => exact (Same.simulates_parseLine template).bind_eq fun _ => .pure rfl
  | resolve spec =>
    exact (Same.simulates_resolve (Same.simulates_evalNested _) _).bind_eq fun _ => .pure rfl
  | injectSeparatorReset line =>
    exact (Same.simulates_injectSeparatorReset _).bind_eq fun _ => .pure rfl
  | remember key value => exact (Same.simulates_remember key value).bind_eq fun _ => .pure rfl
  | openStyle span =>
    refine (Eval.Simulates.modify ?_).bind_eq fun _ => .pure rfl
    rintro c _ ⟨provider, styles, hprovider, hstyles, rfl⟩
    exact ⟨provider, _, hprovider, hstyles.opened span, rfl⟩
  | closeStyle span =>
    refine (Eval.Simulates.modify ?_).bind_eq fun _ => .pure rfl
    rintro c _ ⟨provider, styles, hprovider, hstyles, rfl⟩
    exact ⟨provider, _, hprovider, hstyles.closed span, rfl⟩
  | clearStyles =>
    refine (Eval.Simulates.modify ?_).bind_eq fun _ => .pure rfl
    rintro c _ ⟨provider, styles, hprovider, hstyles, rfl⟩
    exact ⟨provider, _, hprovider, hstyles.cleared, rfl⟩
  | addAutoColor | setFlags =>
    refine (Eval.Simulates.modify ?_).bind_eq fun _ => .pure rfl
    rintro c _ ⟨provider, styles, hprovider, hstyles, rfl⟩
    exact ⟨provider, styles, hprovider, hstyles, rfl⟩
  | takeSpliced =>
    refine (Eval.Simulates.modifyGet ?_).bind_eq fun _ => .pure rfl
    rintro c _ ⟨provider, styles, hprovider, hstyles, rfl⟩
    exact ⟨rfl, provider, styles, hprovider, hstyles, rfl⟩

/-- Whatever is asked for, the replies are the same. -/
theorem transcript_eq (h : Same n m c d) (requests : List Request) :
    transcript requests d = transcript requests c := by
  induction requests generalizing c d with
  | nil => rfl
  | cons request requests ih =>
    have hf := request.simulates_run c d h
    unfold transcript
    generalize request.run.outcome c = p, request.run.outcome d = q at hf
    cases hf with
    | ok hreply h =>
      obtain rfl := hreply
      dsimp only
      rw [h.observed_eq, ih h]
    | error h =>
      dsimp only
      rw [h.observed_eq, ih h]
    | free _ hd => exact absurd rfl hd
    | lost _ hd => cases hd

/-- After a reset the numbers of openings go on, and the provider was told to forget. -/
theorem same_reset {provider : σ} (h : Provider.Alike (Provider.clear c.provider) provider) :
    Same c.styles.count 0 c.reset { config := c.config, provider } :=
  ⟨provider, {}, h, ⟨.nil, Nat.add_comm ..⟩, rfl⟩

/-- Whatever was done with a context, after a reset it is as good as a new one on the provider as the
reset leaves it, or on any other one that answers alike. -/
theorem transcript_reset (c : Context σ) (requests : List Request) :
    transcript requests c.reset =
        transcript requests { config := c.config, provider := Provider.clear c.provider } ∧
      ∀ provider, Provider.Alike (Provider.clear c.provider) provider →
        transcript requests c.reset = transcript requests { config := c.config, provider } :=
  ⟨(transcript_eq (same_reset (.refl _)) requests).symm,
    fun _ h => (transcript_eq (same_reset h) requests).symm⟩

/-- A template that fails in the layout leaves spliced lines, an open style and remembered values
behind. -/
theorem transcript_reset_failed :
    let config : Config := { layout := ["$<auto.disk>"] }
    let facts : Facts :=
      { os := { name := "Arch" }, disks := [{ mountdir := "/", types := { regular := true } }] }
    let start : Context Snapshot := { config, provider := { facts }, parsingLayout := true }
    let c := ((Request.parse "$\x7bred\x7d$<os.name>$<auto.disk>$<nope>").run.outcome start).2
    let requests : List Request :=
      [.parse "$\x7bgreen\x7d$<os.name>", .resolve "ram", .injectSeparatorReset "a: b"]
    (c.styles.active ≠ [] ∧ c.spliced ≠ [] ∧ c.cache.isEmpty = false) ∧
      transcript requests c.reset =
        transcript requests { config := c.config, provider := c.provider } := by
  intro config facts start c requests
  exact ⟨by decide +kernel, (transcript_reset c requests).2 _ (Snapshot.alike rfl)⟩

end Context

end Placard
