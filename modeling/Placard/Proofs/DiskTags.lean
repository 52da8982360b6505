import Placard.Proofs.Computed
import Placard.Proofs.Remembered

/-! # Tags for volumes

The mount point of a volume may hold any characters, and so may stand in a tag with its special
characters quoted. The tag is read up to its own end, its name is taken apart behind the last
parenthesis, and what stood between the parentheses is the path again. So it stands for the volume
at this path, and for no other one is the provider asked (`Info.resolve_diskTag`). -/

namespace Placard

open Template
open Eval (Keeps)

/-! ## What was asked since -/

/-- With these settings, and nothing but what is allowed was asked after what was asked before. -/
structure Context.AskedSince (config : Config) (allowed : Query → Prop) (before : List Query)
    (c : Context Snapshot) : Prop where
  config : c.config = config
  asked : ∃ later, c.provider.asked = later ++ before ∧ ∀ query ∈ later, allowed query

section

variable {config : Config} {allowed : Query → Prop} {before : List Query}

theorem keeps_ask (h : allowed query) :
    Keeps (Context.AskedSince config allowed before) (Eval.ask query) := by
  rintro c ⟨hconfig, later, hasked, hlater⟩
  exact ⟨hconfig, query :: later, congrArg (query :: ·) hasked,
    List.forall_mem_cons.mpr ⟨h, hlater⟩⟩

/-- Following a tree asks nothing but what its tags ask. -/
theorem treeInvariant_askedSince :
    TreeInvariant (Context.AskedSince config allowed before) where
  report h _ := { h with }
  applyColor token c h := by
    obtain ⟨_, _, _, _, heq, -⟩ := exists_of_applyColor token c
    rw [heq]
    exact { h with }

/-- Whatever is evaluated, the record of what was asked grows only. -/
theorem invariant_askedSince (config : Config) (before : List Query) :
    Invariant (Context.AskedSince config (fun _ => True) before) where
  ask h _ := keeps_ask trivial _ h
  sepResetApplied h _ := { h with }
  spliced h _ := { h with }
  report h _ := { h with }
  applyColor := treeInvariant_askedSince.applyColor

theorem keeps_askedSince_evalNested (depth : Nat) (template : List Char) :
    Keeps (Context.AskedSince config (fun _ => True) before) (evalNested depth template) :=
  (invariant_askedSince config before).keeps_evalNested (fun h => { h with })
    (fun _ h => { h with }) (fun _ _ _ h => { h with }) depth template

/-- A template whose tags ask for nothing else. -/
theorem keeps_askedSince_of_bodyAlike {shape : Shape} (hresets : ¬ shape.resets)
    (hpercent : ¬ shape.percentages)
    (hresolve : ∀ depth spec, shape.asks spec →
      Keeps (Context.AskedSince config allowed before) (Info.resolve (evalNested depth) spec))
    (h : BodyAlike shape (.read template) (.read template)) (depth : Nat) :
    Keeps (Context.AskedSince config allowed before) (evalNested depth template) := by
  cases depth with
  | zero => exact fun _ hc => hc
  | succ depth =>
    have hwhole := treeInvariant_askedSince.keeps_evalWhole hresets (hresolve depth)
      (fun h => absurd h hpercent) (fun hc => { hc with }) h
    exact hwhole.rich.withoutStyles (fun hc => { hc with }) fun _ hc => { hc with }

/-- A percentage asks for nothing if there is no tag in its color. -/
theorem keeps_askedSince_coloredPercentage (hcolors : config.percentageColors.NoTags) (depth : Nat)
    (percent : Float) (inverted : Bool) : Keeps (Context.AskedSince config allowed before)
      (Info.coloredPercentage (evalNested depth) percent inverted) := by
  intro c hc
  have hcolor : '$' ∉ (c.config.percentageColors.get (.shown percent inverted)).toList := by
    rw [hc.config]
    exact hcolors _
  have halike : BodyAlike (flatShape fun _ => False) _ _ :=
    bodyAlike_of_onlyColors (reads_read _) (Info.onlyColors_percentage hcolor percent)
  exact keeps_askedSince_of_bodyAlike id id (fun _ _ => False.elim) halike depth c hc

end

namespace Info

/-! ## Names and tags -/

/-- The name of the volume at a path, or that of one of its members. -/
def diskSpec (path : String) : Option String → List Char
  | some member => memberSpec path member
  | none => "disk(".toList ++ path.toList ++ [')']

/-- The tag with this name, its special characters quoted. -/
def diskTag (path : String) (member : Option String) : List Char :=
  '$' :: '<' :: (diskName path ++ (member.elim [] fun member => '.' :: quote member.toList) ++
    ['>'])

/-- What stands for the volume at a path, or for one of its members. -/
def diskValue [Provider σ] (nested : Nested σ) (path : String) : Option String → Eval σ Value
  | some member => Info.member nested (.disk path) member
  | none => summary nested (.disk path)

variable {path : String} {member : Option String}

theorem diskSpec_some (path member : String) :
    diskSpec path (some member) = diskSpec path none ++ '.' :: member.toList := by
  simp only [diskSpec, memberSpec, List.append_assoc, List.cons_append, List.nil_append]

theorem diskTag_eq (path : String) (member : Option String) :
    diskTag path member = '$' :: '<' :: (quote (diskSpec path member) ++ ['>']) := by
  cases member with
  | none =>
    rw [diskSpec, quote_diskName, diskTag, Option.elim_none, List.append_nil]
  | some member =>
    rw [diskSpec_some, quote_append, diskSpec, quote_diskName]
    rfl

theorem splitSpec_diskSpec (path : String) (hmember : ∀ name ∈ member, ')' ∉ name.toList) :
    splitSpec (diskSpec path member) = (diskSpec path none, member.map String.toList) := by
  have hname : '(' ∈ "disk(".toList ++ path.toList := List.mem_append_left _ (by decide)
  cases member with
  | none => exact splitSpec_of_argument_end hname
  | some member => exact splitSpec_of_argument hname (hmember member rfl)

theorem lookup_diskSpec (hpath : path ≠ "") :
    Module.lookup (String.ofList (diskSpec path none)) = .ok (.disk path) := by
  rw [diskSpec, lookup_diskName, if_neg hpath]

theorem compute_diskSpec [Provider σ] (nested : Nested σ) (hpath : path ≠ "")
    (hmember : ∀ name ∈ member, ')' ∉ name.toList) :
    compute nested (diskSpec path member) = diskValue nested path member := by
  have hsplit := splitSpec_diskSpec path hmember
  cases member with
  | none => exact compute_eq_summary nested hsplit (lookup_diskSpec hpath)
  | some member =>
    rw [compute_eq_member nested hsplit (lookup_diskSpec hpath), String.ofList_toList]
    rfl

/-! ## What is asked -/

section

variable {P : Context Snapshot → Prop} {nested : Nested Snapshot}

/-- A member takes one query, and then at most a percentage. -/
theorem member_disk_eq_ask (nested : Nested Snapshot) (path member : String) :
    ∃ rest, Info.member nested (.disk path) member = Eval.ask (.disk path) >>= rest ∧
      ∀ P, (∀ percent inverted, Keeps P (coloredPercentage nested percent inverted)) →
        ∀ disk, Keeps P (rest disk) := by
  refine ⟨_, rfl, fun P hpercent disk => ?_⟩
  cases disk with
  | none => exact fun _ hc => hc
  | some disk =>
    have hconfig (c d : Context Snapshot) (h : Stays P c d) :
        d.config = { c.config with disableColors := d.config.disableColors } := by
      obtain ⟨rfl, -⟩ := h
      rfl
    have hdisk : Eval.Simulates .all (Stays P) (Option.Rel (Value.Related Eq))
        (diskMember nested disk member) (diskMember nested disk member) :=
      simulates_diskMember (fun percent inverted => (hpercent percent inverted).simulates) hconfig
        disk member
    exact (hdisk.bind (W := fun _ _ => True) fun _ _ _ => .pure trivial).keeps

/-- The whole volume takes one query, and then a template. -/
theorem summary_disk_eq_ask (nested : Nested Snapshot) (path : String) :
    ∃ rest, summary nested (.disk path) = Eval.ask (.disk path) >>= rest ∧
      ∀ P, (∀ template, Summarizes (.disk path) template → Keeps P (nested template)) →
        ∀ disk, Keeps P (rest disk) := by
  refine ⟨_, rfl, fun P htemplate disk => ?_⟩
  cases disk with
  | none => exact fun _ hc => hc
  | some disk =>
    have hrich := (htemplate _ (.disk path)).simulates
    refine (hrich.bind_eq (W := Eq) fun rich => ?_).keeps
    dsimp only
    split
    · exact .pure rfl
    · exact .pure rfl

/-- Of what begins with a query for the volume this query is recorded first. -/
theorem asked_of_eq_ask {x : Eval Snapshot Value} {rest : Option DiskInfo → Eval Snapshot Value}
    {allowed : Query → Prop} (hx : x = Eval.ask (.disk path) >>= rest) (c : Context Snapshot)
    (hrest : ∀ disk,
      Keeps (Context.AskedSince c.config allowed (.disk path :: c.provider.asked)) (rest disk)) :
    ∃ later, (x.outcome c).2.provider.asked = later ++ .disk path :: c.provider.asked ∧
      ∀ query ∈ later, allowed query := by
  subst hx
  have hasked := hrest (c.provider.facts.answer (.disk path))
    { c with provider := (Provider.ask (.disk path) c.provider).2 } ⟨rfl, [], rfl, nofun⟩
  rw [Eval.outcome_bind]
  exact hasked.asked

end

/-! ## Nothing else is asked -/

section

variable {config : Config} {before : List Query} (hcolors : config.percentageColors.NoTags)

include hcolors

theorem keeps_askedSince_member (depth : Nat) (path member : String) :
    Keeps (Context.AskedSince config (· = .disk path) before)
      (Info.member (evalNested depth) (.disk path) member) := by
  obtain ⟨rest, heq, hrest⟩ := member_disk_eq_ask (evalNested depth) path member
  rw [heq]
  have hask : Keeps (Context.AskedSince config (· = .disk path) before) (Eval.ask (.disk path)) :=
    keeps_ask rfl
  refine (hask.simulates.bind_eq (W := Eq) fun disk => ?_).keeps
  exact (hrest _ (keeps_askedSince_coloredPercentage hcolors depth) disk).simulates

theorem keeps_askedSince_resolve (hpath : path ≠ "") {member : String}
    (hmember : ')' ∉ member.toList) (depth : Nat) :
    Keeps (Context.AskedSince config (· = .disk path) before)
      (resolve (evalNested depth) (memberSpec path member)) := by
  have hmember : ∀ name ∈ some member, ')' ∉ name.toList := by
    rintro _ ⟨⟩
    exact hmember
  have hsplit := splitSpec_diskSpec path hmember
  refine StepInvariant.keeps_resolve (fun hlookup hexpanding => ?_) ?_ fun _ _ _ hc => { hc with }
  · change Module.lookup (String.ofList (splitSpec (diskSpec path (some member))).1) = _ at hlookup
    rw [hsplit, lookup_diskSpec hpath] at hlookup
    cases hlookup
    cases hexpanding
  · change Keeps _ (compute (evalNested depth) (diskSpec path (some member)))
    rw [compute_diskSpec _ hpath hmember]
    exact keeps_askedSince_member hcolors depth path member

omit hcolors in
/-- The template of the whole volume asks for members of the volume only. -/
theorem flat_of_summarizes_disk (h : Summarizes (.disk path) template) :
    Flat (fun spec => ∃ member : String, spec = memberSpec path member ∧ ')' ∉ member.toList)
      template := by
  have hflat (member : String)
      (hplain : (∀ c ∈ member.toList, isSpecial c = false) ∧ ')' ∉ member.toList) :
      Flat (fun spec => ∃ member : String, spec = memberSpec path member ∧ ')' ∉ member.toList)
        (memberTag (diskName path) member) := by
    rw [memberTag_diskName path hplain.1]
    exact .info ⟨member, rfl, hplain.2⟩ .nil
  cases h with
  | disk =>
    have h := flat_amounts (hflat "used" (by simp [isSpecial]))
      (hflat "total" (by simp [isSpecial])) (hflat "used_perc" (by simp [isSpecial]))
      ((flat_literal ") - " (by simp)).append (hflat "fs" (by simp [isSpecial])))
    simpa only [List.append_assoc] using h

theorem keeps_askedSince_summary (hpath : path ≠ "") (depth : Nat)
    (h : Summarizes (.disk path) template) :
    Keeps (Context.AskedSince config (· = .disk path) before) (evalNested depth template) := by
  have halike := bodyAlike_of_flat (flat_of_summarizes_disk h)
  refine keeps_askedSince_of_bodyAlike id id ?_ halike depth
  rintro depth _ ⟨member, rfl, hmember⟩
  exact keeps_askedSince_resolve hcolors hpath hmember depth

end

/-- The first thing that is asked is the volume at the path, and without tags in the colors of
percentages so is everything else. -/
theorem asked_diskValue (hpath : path ≠ "") (member : Option String) (depth : Nat)
    (c : Context Snapshot) : ∃ later,
      ((diskValue (evalNested depth) path member).outcome c).2.provider.asked =
        later ++ .disk path :: c.provider.asked ∧
      (c.config.percentageColors.NoTags → ∀ query ∈ later, query = .disk path) := by
  by_cases hcolors : c.config.percentageColors.NoTags
  · have hasked : ∃ later, ((diskValue (evalNested depth) path member).outcome c).2.provider.asked =
        later ++ .disk path :: c.provider.asked ∧ ∀ query ∈ later, query = .disk path := by
      cases member with
      | some member =>
        obtain ⟨rest, heq, hrest⟩ := member_disk_eq_ask (evalNested depth) path member
        exact asked_of_eq_ask heq c (hrest _ (keeps_askedSince_coloredPercentage hcolors depth))
      | none =>
        obtain ⟨rest, heq, hrest⟩ := summary_disk_eq_ask (evalNested depth) path
        exact asked_of_eq_ask heq c
          (hrest _ fun _ htemplate => keeps_askedSince_summary hcolors hpath depth htemplate)
    obtain ⟨later, hlater, honly⟩ := hasked
    exact ⟨later, hlater, fun _ => honly⟩
  · have hasked : ∃ later, ((diskValue (evalNested depth) path member).outcome c).2.provider.asked =
        later ++ .disk path :: c.provider.asked ∧ ∀ query ∈ later, True := by
      have hn (template : List Char) : Keeps (Context.AskedSince c.config (fun _ => True)
          (.disk path :: c.provider.asked)) (evalNested depth template) :=
        keeps_askedSince_evalNested depth template
      cases member with
      | some member =>
        obtain ⟨rest, heq, hrest⟩ := member_disk_eq_ask (evalNested depth) path member
        exact asked_of_eq_ask heq c (hrest _ (Invariant.keeps_coloredPercentage hn))
      | none =>
        obtain ⟨rest, heq, hrest⟩ := summary_disk_eq_ask (evalNested depth) path
        exact asked_of_eq_ask heq c (hrest _ fun template _ => hn template)
    obtain ⟨later, hlater, -⟩ := hasked
    exact ⟨later, hlater, fun h => absurd h hcolors⟩

/-- What is remembered under the key of the tag is not computed again. -/
theorem outcome_resolve_diskSpec [Provider σ] (nested : Nested σ) (hpath : path ≠ "")
    (hmember : ∀ name ∈ member, ')' ∉ name.toList) (c : Context σ) :
    let name := String.ofList (diskSpec path none)
    let key := (name, member.getD ("module-" ++ name))
    (∀ value, c.cache.get? key.1 key.2 = some value →
      (resolve nested (diskSpec path member)).Yields c value c) ∧
    (c.cache.get? key.1 key.2 = none → (resolve nested (diskSpec path member)).outcome c =
      (do remember key (← diskValue nested path member)).outcome c) := by
  intro name key
  have hsplit := splitSpec_diskSpec path hmember
  have hnames : NamesValue (diskSpec path member) := by
    refine ⟨.disk path, ?_, rfl⟩
    rw [hsplit]
    exact lookup_diskSpec hpath
  have hkey : keyOf (diskSpec path member) = key := by
    unfold keyOf
    rw [hsplit]
    cases member with
    | none => rfl
    | some member => exact congrArg (name, ·) (String.ofList_toList ..)
  have hget : (get : Eval σ _).Yields c c c := rfl
  rw [resolve_eq _ hnames, hkey, compute_diskSpec _ hpath hmember]
  refine ⟨fun value hvalue => hget.bind_iff.mpr ?_, fun hnone => ?_⟩
  · rw [hvalue]
    exact Eval.yields_pure.mpr ⟨rfl, rfl⟩
  · rw [Eval.outcome_bind, Eval.outcome_get]
    dsimp only
    rw [hnone]

/-- Whatever the path and the name of the member hold (but for a parenthesis in the latter), the tag
is read with them as its name, and the name is taken apart into these two again. So it stands for
this member of the volume at the path, or for the whole volume. For this volume is the provider
asked, first of all, and for nothing else unless the colors of percentages hold tags. -/
theorem resolve_diskTag (hpath : path ≠ "") (hmember : ∀ name ∈ member, ')' ∉ name.toList) :
    let spec := diskSpec path member
    splitSpec spec = (diskSpec path none, member.map String.toList) ∧
    Module.lookup (String.ofList (diskSpec path none)) = .ok (.disk path) ∧
    (∀ rest, ∃ length, Body.read (diskTag path member ++ rest) =
      .tag (.info (.quoted spec (.done .closed))) length (.read rest)) ∧
    ∀ depth template (c : Context Snapshot),
      let name := String.ofList (diskSpec path none)
      let key := (name, member.getD ("module-" ++ name))
      (evalTag (evalNested depth) template true (.info (.quoted spec (.done .closed)))).outcome c =
        (do return ({ text := (← resolve (evalNested depth) spec).toRich } : Piece)).outcome c ∧
      (∀ value, c.cache.get? key.1 key.2 = some value →
        (resolve (evalNested depth) spec).Yields c value c) ∧
      (c.cache.get? key.1 key.2 = none → (resolve (evalNested depth) spec).outcome c =
        (do remember key (← diskValue (evalNested depth) path member)).outcome c) ∧
      ∃ later, ((diskValue (evalNested depth) path member).outcome c).2.provider.asked =
          later ++ .disk path :: c.provider.asked ∧
        (c.config.percentageColors.NoTags → ∀ query ∈ later, query = .disk path) := by
  intro spec
  refine ⟨splitSpec_diskSpec path hmember, lookup_diskSpec hpath, fun rest => ?_,
    fun depth template c => ?_⟩
  · have htag : diskTag path member ++ rest = '$' :: '<' :: (quote spec ++ '>' :: rest) := by
      rw [diskTag_eq]
      simp only [List.cons_append, List.append_assoc, List.nil_append]
      rfl
    rw [htag]
    exact read_infoTag spec rest
  · obtain ⟨hkept, hnew⟩ := outcome_resolve_diskSpec (evalNested depth) hpath hmember c
    exact ⟨outcome_infoTag (evalNested depth) template spec c, hkept, hnew,
      asked_diskValue hpath member depth c⟩

/-- A path with dots, parentheses, and what ends a tag or begins one. -/
theorem resolve_diskTag_specials :
    let path := "/a.b)(.c>$<os>\\"
    let disk : DiskInfo := { mountdir := path, fsType := "ext4" }
    let c : Context Snapshot := { config := {}, provider := { facts := { disks := [disk] } } }
    path ≠ "" ∧ (∀ name ∈ some "fs", ')' ∉ name.toList) ∧
      splitSpec (diskSpec path (some "fs")) = (diskSpec path none, some "fs".toList) ∧
      Module.lookup (String.ofList (diskSpec path none)) = .ok (.disk path) ∧
      c.config.percentageColors.NoTags ∧
      (∃ value d, (resolve (evalNested maxDepth) (diskSpec path (some "fs"))).Yields c value d ∧
        value.toText = "ext4".toList) ∧
      ∃ later, ((diskValue (evalNested maxDepth) path (some "fs")).outcome c).2.provider.asked =
        later ++ [.disk path] ∧ ∀ query ∈ later, query = .disk path := by
  intro path disk c
  have hpath : path ≠ "" := by decide
  have hmember : ∀ name ∈ some "fs", ')' ∉ name.toList := by
    rintro _ ⟨⟩
    decide
  have hcolors : c.config.percentageColors.NoTags := by
    intro level
    cases level <;> decide
  obtain ⟨hsplit, hlookup, -, htag⟩ := resolve_diskTag hpath hmember
  obtain ⟨-, -, hnew, later, hasked, honly⟩ := htag maxDepth "" c
  refine ⟨hpath, hmember, hsplit, hlookup, hcolors, ?_, later, hasked, honly hcolors⟩
  refine Eval.exists_yields (p := fun value => value.toText == "ext4".toList) ?_
    fun _ _ _ htext => eq_of_beq htext
  rw [hnew rfl]
  decide +kernel

end Info

end Placard
