import Placard.Proofs.Finishing
import Placard.Proofs.History

/-! # What was computed is what is remembered

`Info.Computed` says that a value was computed for a tag on some state over the settings and facts.
Of a tag with a key of its own nothing else is ever yielded, whatever was read before
(`Context.Faithful.computed_of_resolve`). The members of a volume are computed from the first volume
with its mount point (`Info.Computed.of_memberSpec`). -/

namespace Placard

open Template
open Eval (Keeps)

variable {config : Config} {facts : Facts} {c d : Context Snapshot} {spec : List Char}
  {value : Info.Value}

/-- The value was computed for the tag, in some state over the settings and facts. -/
def Info.Computed (config : Config) (facts : Facts) (spec : List Char) (value : Value) : Prop :=
  ∃ depth c d, Context.Over config facts c ∧
    (compute (evalNested depth) spec).Yields c value d

/-- All that is remembered was computed for some tag with the key. -/
structure Context.Faithful (config : Config) (facts : Facts) (c : Context Snapshot) : Prop where
  isOver : c.Over config facts
  computed : ∀ entry ∈ c.cache.entries,
    ∃ spec, Info.keyOf spec = entry.1 ∧ Info.Computed config facts spec entry.2

/-! ## Reading remembers nothing else -/

theorem invariant_faithful (config : Config) (facts : Facts) :
    Invariant (Context.Faithful config facts) where
  ask h _ := { h with }
  sepResetApplied h _ := { h with }
  spliced h _ := { h with }
  report h _ := { h with }
  applyColor token c h := by
    obtain ⟨_, _, _, _, heq, -⟩ := exists_of_applyColor token c
    rw [heq]
    exact { h with }

/-- A value that was computed may be remembered. -/
theorem keeps_remember_computed (hvalue : Info.Computed config facts spec value) :
    Keeps (Context.Faithful config facts) (Info.remember (Info.keyOf spec) value) := by
  intro c h
  unfold Info.remember
  rw [Eval.outcome_modifyGet]
  dsimp only [Info.Cache.insert]
  cases c.cache.get? (Info.keyOf spec).1 (Info.keyOf spec).2 with
  | some kept => exact h
  | none =>
    refine { h with computed := ?_ }
    exact List.forall_mem_append.mpr
      ⟨h.computed, List.forall_mem_singleton.mpr ⟨spec, rfl, hvalue⟩⟩

theorem keeps_faithful_evalNested (depth : Nat) (template : List Char) :
    Keeps (Context.Faithful config facts) (evalNested depth template) :=
  (invariant_faithful config facts).keeps_evalNested (fun h => { h with }) (fun _ h => { h with })
    (fun h hx => keeps_remember_computed ⟨_, _, _, h.isOver, hx⟩) depth template

theorem keeps_faithful_compute (depth : Nat) (spec : List Char) :
    Keeps (Context.Faithful config facts) (Info.compute (evalNested depth) spec) :=
  (invariant_faithful config facts).step.keeps_compute
    (fun _ template _ => keeps_faithful_evalNested depth template)
    (Invariant.keeps_coloredPercentage (keeps_faithful_evalNested depth)) spec

theorem keeps_faithful_resolve (depth : Nat) (spec : List Char) :
    Keeps (Context.Faithful config facts) (Info.resolve (evalNested depth) spec) :=
  (invariant_faithful config facts).keeps_resolve (keeps_faithful_evalNested depth)
    fun h hx => keeps_remember_computed ⟨_, _, _, h.isOver, hx⟩

theorem Reached.faithful (h : Reached config facts c) : c.Faithful config facts := by
  induction h with
  | start _ hconfig hfacts hcache =>
    refine ⟨⟨hconfig, hfacts⟩, ?_⟩
    rw [hcache]
    exact nofun
  | read _ depth name evaluate draft body _ ih =>
    exact (invariant_faithful config facts).keeps_evalBody (keeps_faithful_evalNested depth)
      (keeps_faithful_resolve depth) name evaluate draft body _ ih
  | ask _ _ _ ih => exact { ih with }
  | move _ _ _ _ _ _ _ ih => exact { ih with }

/-- What is remembered for a tag with a key of its own was computed for it. -/
theorem Context.Faithful.computed_of_get? (h : c.Faithful config facts)
    (hown : (Info.keyOf spec).2 ≠ "module-" ++ (Info.keyOf spec).1)
    (hget : c.cache.get? (Info.keyOf spec).1 (Info.keyOf spec).2 = some value) :
    Info.Computed config facts spec value := by
  obtain ⟨spec', hkey, hcomputed⟩ := h.computed _ (Info.Cache.mem_of_get? hget)
  rwa [Info.eq_of_keyOf_eq hown hkey] at hcomputed

/-- What a tag for a member yields was computed for it, and for no other tag. -/
theorem Context.Faithful.computed_of_resolve (h : c.Faithful config facts)
    (hspec : Info.AsksMember spec)
    (hyields : (Info.resolve (evalNested depth) spec).Yields c value d) :
    Info.Computed config facts spec value := by
  have hget : (get : Eval Snapshot _).Yields c c c := rfl
  rw [Info.resolve_eq _ (hspec.namesValue hyields), hget.bind_iff] at hyields
  split at hyields
  · next kept hkept =>
    obtain ⟨rfl, -⟩ := Eval.yields_pure.mp hyields
    exact h.computed_of_get? hspec.own hkept
  · -- While the value was computed, one may have been remembered for the same tag.
    obtain ⟨computed, c', hcomputed, hremember⟩ := Eval.yields_bind.mp hyields
    have hc' := (keeps_faithful_compute depth spec).of_yields hcomputed h
    obtain ⟨rfl, -⟩ := Eval.yields_modifyGet.mp hremember
    dsimp only [Info.Cache.insert]
    cases hget : c'.cache.get? (Info.keyOf spec).1 (Info.keyOf spec).2 with
    | some kept => exact hc'.computed_of_get? hspec.own hget
    | none => exact ⟨_, _, _, h.isOver, hcomputed⟩

/-! ## Members of volumes -/

namespace Info

/-- The name of a member of the volume at the path. -/
def memberSpec (path member : String) : List Char :=
  "disk(".toList ++ path.toList ++ ')' :: '.' :: member.toList

/-- The tag for the member asks for it by its name. -/
theorem memberTag_diskName (path : String) {member : String}
    (hplain : ∀ c ∈ member.toList, isSpecial c = false) :
    memberTag (diskName path) member =
      '$' :: '<' :: (quote (memberSpec path member) ++ ['>']) := by
  rw [← quote_diskName, memberTag_quote _ hplain]
  simp only [memberSpec, List.append_assoc, List.cons_append, List.nil_append]

/-- What stands between the parentheses, whatever it holds. -/
theorem argument?_append (stem argument : List Char) :
    argument? stem (stem ++ '(' :: (argument ++ [')'])) =
      if argument.isEmpty then none else some (String.ofList argument) := by
  have hstart : Text.afterStart? (stem ++ ['(']) (stem ++ '(' :: (argument ++ [')'])) =
      some (argument ++ [')']) := by
    have happend : stem ++ '(' :: (argument ++ [')']) = stem ++ ['('] ++ (argument ++ [')']) :=
      List.append_cons ..
    rw [happend, Text.afterStart?, if_pos (by simp), List.drop_left]
  have hlast : Text.beforeLast? ')' (argument ++ [')']) = some argument := by
    rw [Text.beforeLast?, if_pos (by simp), List.dropLast_concat]
  rw [argument?, hstart, Option.bind_some, hlast]
  cases argument <;> rfl

/-- An argument must not be empty, and nothing else is asked of it. -/
theorem withArgument_eq {name stem argument : String}
    (hname : name.toList = stem.toList ++ '(' :: (argument.toList ++ [')']))
    (fault : ArgumentFault) (make : String → Module) :
    Module.withArgument name stem fault make =
      if argument = "" then .error (.malformedModule name fault) else .ok (make argument) := by
  rw [Module.withArgument, hname, argument?_append]
  by_cases h : argument = ""
  · subst h
    rfl
  · have hne : ¬ argument.toList.isEmpty = true := by simpa using h
    rw [if_neg hne, if_neg h, String.ofList_toList]

theorem lookup_parenthesized {name stem argument : String}
    {fault : ArgumentFault} {make : String → Module}
    (hname : name.toList = stem.toList ++ '(' :: (argument.toList ++ [')']))
    (hstem : Module.lookupWithArgument name = Module.withArgument name stem fault make) :
    Module.lookup name =
      if argument = "" then .error (.malformedModule name fault) else .ok (make argument) := by
  have hparenthesis : '(' ∈ name.toList := by
    rw [hname]
    exact List.mem_append_right _ List.mem_cons_self
  rw [Module.lookup_eq_lookupWithArgument hparenthesis (.inl rfl), hstem, withArgument_eq hname]

theorem lookup_diskName (path : String) :
    Module.lookup (String.ofList ("disk(".toList ++ path.toList ++ [')'])) =
      if path = "" then .error (.malformedModule "disk()" .diskPath) else .ok (.disk path) := by
  have hname : (String.ofList ("disk(".toList ++ path.toList ++ [')'])).toList =
      "disk".toList ++ '(' :: (path.toList ++ [')']) := by
    rw [String.toList_ofList]
    rfl
  have hempty : path = "" → String.ofList ("disk(".toList ++ path.toList ++ [')']) = "disk()" := by
    rintro rfl
    rfl
  generalize String.ofList ("disk(".toList ++ path.toList ++ [')']) = name at hname hempty
  have hstem : Module.lookupWithArgument name =
      Module.withArgument name "disk" .diskPath .disk := by
    unfold Module.lookupWithArgument
    rw [hname]
    rfl
  rw [lookup_parenthesized hname hstem]
  split
  · next h => rw [hempty h]
  · rfl

theorem lookup_disk {path : String} {module : Module}
    (h : Module.lookup (String.ofList ("disk(".toList ++ path.toList ++ [')'])) = .ok module) :
    module = .disk path := by
  rw [lookup_diskName] at h
  split at h
  · cases h
  · cases h
    rfl

/-- The member is that of the first volume with the mount point. -/
theorem Computed.of_memberSpec {path member : String} (hplain : ')' ∉ member.toList)
    (h : Computed config facts (memberSpec path member) value)
    (hdisk : facts.disks.find? (·.mountdir = path) = some disk) :
    ∃ depth c shown d, Context.Over config facts c ∧
      (diskMember (evalNested depth) disk member).Yields c shown d ∧
      value = shown.getD .missing := by
  obtain ⟨depth, c, d, hc, h⟩ := h
  have hsplit : splitSpec (memberSpec path member) =
      ("disk(".toList ++ path.toList ++ [')'], some member.toList) :=
    splitSpec_of_argument (List.mem_append_left _ (by decide)) hplain
  unfold compute at h
  rw [hsplit] at h
  obtain ⟨module, c, hmodule, h⟩ := Eval.yields_bind.mp h
  obtain ⟨hlookup, rfl⟩ := Eval.yields_ofExcept.mp hmodule
  obtain rfl := lookup_disk hlookup
  have hanswer : c.provider.facts.answer (.disk path) = some disk := by
    rw [hc.2]
    exact hdisk
  let asked := { c with provider := (Provider.ask (.disk path) c.provider).2 }
  have hask : (Eval.ask (.disk path) : Eval Snapshot _).Yields c (some disk) asked :=
    Eval.yields_modifyGet.mpr ⟨hanswer.symm, rfl⟩
  dsimp only at h
  rw [String.ofList_toList, Info.member, hask.bind_iff] at h
  obtain ⟨shown, d', hshown, h⟩ := Eval.yields_bind.mp h
  obtain ⟨rfl, -⟩ := Eval.yields_pure.mp h
  exact ⟨depth, asked, shown, d', hc, hshown, rfl⟩

end Info

end Placard
