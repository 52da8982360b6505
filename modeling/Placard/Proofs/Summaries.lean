import Placard.Proofs.Grammar
import Placard.Proofs.Members
import Placard.Proofs.Quoted
import Placard.Proofs.TagNames
import Placard.Proofs.TreeSimulation

/-! # The templates behind members and summaries

A percentage is made by a template of color tags, unless its color holds a dollar sign
(`bodyAlike_of_onlyColors`). A summary is made by a flat template: text, color tags and tags for
members by their names (`flat_of_summarizes`), and such a template is read as it is written
(`bodyAlike_of_flat`). -/

namespace Placard

namespace Template

variable {shape : Shape}

/-! ## Templates with color tags only -/

/-- Each dollar sign begins a color tag. -/
def OnlyColors (cs : List Char) : Prop :=
  ∀ rest, '$' :: rest <:+ cs → ∃ token, rest = '\x7b' :: token

theorem OnlyColors.of_suffix (h : OnlyColors cs) (hsuffix : cs' <:+ cs) : OnlyColors cs' :=
  fun rest hrest => h rest (hrest.trans hsuffix)

theorem OnlyColors.tail (h : OnlyColors (c :: cs)) : OnlyColors cs :=
  h.of_suffix (List.suffix_cons c cs)

theorem onlyColors_nil : OnlyColors [] := by
  intro rest hrest
  cases List.suffix_nil.mp hrest

theorem onlyColors_cons (hc : c = '$' → ∃ token, cs = '\x7b' :: token) (h : OnlyColors cs) :
    OnlyColors (c :: cs) := by
  intro rest hrest
  obtain heq | hrest := List.suffix_cons_iff.mp hrest
  · obtain ⟨rfl, rfl⟩ := List.cons.inj heq
    exact hc rfl
  · exact h rest hrest

theorem onlyColors_append (hbefore : '$' ∉ before) (h : OnlyColors cs) :
    OnlyColors (before ++ cs) := by
  induction before with
  | nil => exact h
  | cons c before ih =>
    rw [List.mem_cons, not_or] at hbefore
    exact onlyColors_cons (fun heq => absurd heq.symm hbefore.1) (ih hbefore.2)

theorem colorTag_append (token cs : List Char) :
    Info.colorTag token ++ cs = '$' :: '\x7b' :: (token ++ '\x7d' :: cs) := by
  simp only [Info.colorTag, List.cons_append, List.append_assoc, List.nil_append]

theorem onlyColors_colorTag (htoken : '$' ∉ token) (h : OnlyColors cs) :
    OnlyColors (Info.colorTag token ++ cs) := by
  have hrest : OnlyColors ('\x7b' :: (token ++ '\x7d' :: cs)) := by
    refine onlyColors_cons (absurd · (by decide)) (onlyColors_append htoken ?_)
    exact onlyColors_cons (absurd · (by decide)) h
  rw [colorTag_append]
  exact onlyColors_cons (fun _ => ⟨_, rfl⟩) hrest

mutual

theorem bodyAlike_of_onlyColors : ReadsBody stop cutOff cs body left → OnlyColors cs →
    BodyAlike shape body body
  | .atEnd, _ => .done _
  | .delimiter, _ => .done _
  | .backslash _, _ => .backslash (.done _)
  | .escaped _ h, hcs => .escaped _ (bodyAlike_of_onlyColors h hcs.tail.tail)
  | .tag _ ht h, hcs => .tag (tagAlike_of_onlyColors ht hcs) (fun _ => rfl)
      (bodyAlike_of_onlyColors h (hcs.tail.of_suffix ht.suffix))
  | .char _ _ _ h, hcs => .char _ (bodyAlike_of_onlyColors h hcs.tail)

theorem tagAlike_of_onlyColors (h : ReadsTag cs tag left) (hcs : OnlyColors ('$' :: cs)) :
    TagAlike shape tag tag := by
  obtain ⟨token, rfl⟩ := hcs cs (List.suffix_refl _)
  cases h with
  | color h => exact .color (bodyAlike_of_onlyColors h hcs.tail.tail)

end

/-! ## Flat templates -/

/-- Text, and tags that hold nothing but text. -/
inductive Flat (asks : List Char → Prop) : List Char → Prop
  | nil : Flat asks []
  | char : c ≠ '\\' → c ≠ '$' → Flat asks cs → Flat asks (c :: cs)
  | escaped (c) : Flat asks cs → Flat asks ('\\' :: c :: cs)
  | color : (∀ c ∈ token, c ≠ '\\' ∧ c ≠ '$' ∧ c ≠ '\x7d') → Flat asks cs →
      Flat asks (Info.colorTag token ++ cs)
  | info : asks spec → Flat asks cs → Flat asks ('$' :: '<' :: (quote spec ++ '>' :: cs))

/-- What such templates are read as. -/
abbrev flatShape (asks : List Char → Prop) : Shape := { asks, percentages := False }

/-- Characters that mean nothing in a color tag. -/
def IsToken (token : List Char) : Prop := ∀ c ∈ token, c ≠ '\\' ∧ c ≠ '$' ∧ c ≠ '\x7d'

/-- They stand for themselves. -/
theorem readsBody_token (htoken : IsToken token) (cs : List Char) :
    ReadsBody (some '\x7d') false (token ++ '\x7d' :: cs) (.ofChars token) cs := by
  induction token with
  | nil => exact .delimiter
  | cons c token ih =>
    obtain ⟨⟨hescape, hdollar, hstop⟩, htoken⟩ := List.forall_mem_cons.mp htoken
    exact reads_ordinary (fun heq => hstop (Option.some.inj heq).symm) hescape hdollar (ih htoken)

theorem BodyAlike.ofChars (cs : List Char) : BodyAlike shape (.ofChars cs) (.ofChars cs) := by
  induction cs with
  | nil => exact .done .closed
  | cons c cs ih => exact .char c ih

/-- A flat template is read as it is written. -/
theorem reads_of_flat (h : Flat asks cs) : ∀ cutOff, ∃ body,
    ReadsBody none cutOff cs body [] ∧ BodyAlike (flatShape asks) body body := by
  induction h with
  | nil => exact fun cutOff => ⟨_, .atEnd, .done _⟩
  | char hescape hdollar _ ih =>
    intro cutOff
    obtain ⟨body, hreads, halike⟩ := ih false
    exact ⟨_, reads_ordinary nofun hescape hdollar hreads, .char _ halike⟩
  | escaped c _ ih =>
    intro cutOff
    obtain ⟨body, hreads, halike⟩ := ih false
    exact ⟨_, .escaped nofun hreads, .escaped c halike⟩
  | @color token cs htoken _ ih =>
    intro cutOff
    obtain ⟨body, hreads, halike⟩ := ih (!(Body.ofChars token).isClosed)
    rw [colorTag_append]
    exact ⟨_, .tag nofun (.color (readsBody_token htoken cs)) hreads,
      .tag (.color (.ofChars token)) (fun _ => rfl) halike⟩
  | @info spec cs hasks _ ih =>
    intro cutOff
    have hname : ReadsBody (some '>') false (quote spec ++ '>' :: cs) _ cs :=
      readsBody_quote_delimiter (by decide) spec cs
    obtain ⟨body, hreads, halike⟩ := ih (!(Body.quoted spec (.done .closed)).isClosed)
    have halike' : BodyAlike (flatShape asks) (.quoted spec (.done .closed)) _ :=
      .quoted spec (.done .closed)
    refine ⟨_, .tag nofun (.info hname) hreads, .tag (.info halike' ?_) (fun _ => rfl) halike⟩
    intro said hsaid
    rwa [eq_of_maySay_quoted hsaid]

theorem bodyAlike_of_flat (h : Flat asks template) :
    BodyAlike (flatShape asks) (.read template) (.read template) := by
  obtain ⟨body, hreads, halike⟩ := reads_of_flat h false
  rwa [hreads.read_eq]

/-! ## Templates of summaries -/

theorem Flat.append (h : Flat asks cs) (h' : Flat asks cs') : Flat asks (cs ++ cs') := by
  induction h with
  | nil => exact h'
  | char hescape hdollar _ ih => exact .char hescape hdollar ih
  | escaped c _ ih => exact .escaped c ih
  | color htoken _ ih =>
    rw [List.append_assoc]
    exact .color htoken ih
  | @info spec _ hasks _ ih =>
    have hinfo := Flat.info hasks ih
    simpa only [List.cons_append, List.append_assoc] using hinfo

theorem flat_flatMap {f : α → List Char} (h : ∀ a, Flat asks (f a)) (as : List α) :
    Flat asks (as.flatMap f) := by
  induction as with
  | nil => exact .nil
  | cons a as ih =>
    rw [List.flatMap_cons]
    exact (h a).append ih

theorem flat_colorTag (token : List Char)
    (htoken : ∀ c ∈ token, c ≠ '\\' ∧ c ≠ '$' ∧ c ≠ '\x7d') :
    Flat asks (Info.colorTag token) := by
  have h : Flat asks (Info.colorTag token ++ []) := .color htoken .nil
  rwa [List.append_nil] at h

theorem flat_text (htext : ∀ c ∈ text, c ≠ '\\' ∧ c ≠ '$') : Flat asks text := by
  induction text with
  | nil => exact .nil
  | cons c text ih =>
    obtain ⟨hc, htext⟩ := List.forall_mem_cons.mp htext
    exact .char hc.1 hc.2 (ih htext)

theorem flat_quote (cs : List Char) : Flat asks (quote cs) := by
  refine flat_flatMap (fun c => ?_) cs
  split
  · exact .escaped c .nil
  · rename_i hc
    refine flat_text fun d hd => ?_
    obtain rfl := List.mem_singleton.mp hd
    exact ⟨fun heq => hc (heq ▸ rfl), fun heq => hc (heq ▸ rfl)⟩

theorem quote_eq_self (h : ∀ c ∈ cs, isSpecial c = false) : quote cs = cs := by
  induction cs with
  | nil => rfl
  | cons c cs ih =>
    obtain ⟨hc, hcs⟩ := List.forall_mem_cons.mp h
    rw [quote_cons, ih hcs, hc]
    rfl

theorem quote_append (cs ds : List Char) : quote (cs ++ ds) = quote cs ++ quote ds :=
  List.flatMap_append ..

/-- A tag for a member is one for the name of the member, dotted. -/
theorem memberTag_quote (name : List Char)
    (hmember : ∀ c ∈ member.toList, isSpecial c = false) :
    Info.memberTag (quote name) member =
      '$' :: '<' :: (quote (name ++ '.' :: member.toList) ++ ['>']) := by
  have hdotted : quote ('.' :: member.toList) = '.' :: member.toList :=
    quote_eq_self (List.forall_mem_cons.mpr ⟨rfl, hmember⟩)
  rw [quote_append, hdotted, List.append_assoc]
  rfl

theorem flat_memberTag (hmember : ∀ c ∈ member.toList, isSpecial c = false)
    (hasks : asks (name ++ '.' :: member.toList)) :
    Flat asks (Info.memberTag (quote name) member) := by
  rw [memberTag_quote name hmember]
  exact .info hasks .nil

end Template

namespace Info

open Template

/-! ## Percentages -/

/-- Digits mean nothing in a template or in the name of a tag. -/
theorem plain_of_mem_decimal {n : Nat} {c : Char} (h : c ∈ Number.decimal n) :
    isSpecial c = false ∧ c ≠ '.' ∧ c ≠ '(' := by
  have hdigit := Number.isDigit_of_mem_decimal h
  refine ⟨?_, ?_, ?_⟩
  · have hspecials : ∀ c ∈ ['\\', '$', '>', ',', '%', ']', '\x7d'], ¬ c.isDigit = true := by simp
    exact Bool.eq_false_iff.mpr fun hspecial => hspecials c (of_decide_eq_true hspecial) hdigit
  · rintro rfl
    exact absurd hdigit (by decide)
  · rintro rfl
    exact absurd hdigit (by decide)

theorem plain_of_mem_writeFixed {x : Float} {c : Char} (h : c ∈ Number.writeFixed x) :
    isSpecial c = false := by
  have hdigit (n : Nat) : isSpecial (n % 10).digitChar = false := by
    have h : ∀ m < 10, isSpecial (Nat.digitChar m) = false := by decide
    exact h _ (Nat.mod_lt n (by decide))
  have hnan : ∀ d ∈ "NaN".toList, isSpecial d = false := by simp [isSpecial]
  have hinf : ∀ d ∈ "inf".toList, isSpecial d = false := by simp [isSpecial]
  have hsign : ∀ d ∈ if x.toBits < 0x8000000000000000 then [] else ['-'], isSpecial d = false := by
    split <;> simp [isSpecial]
  unfold Number.writeFixed Number.writeHundredths at h
  dsimp only at h
  split at h
  · exact hnan c h
  split at h
  · exact (List.mem_append.mp h).elim (hsign c) (hinf c)
  · simp only [List.mem_append, List.mem_cons, List.not_mem_nil, or_false] at h
    obtain h | h | rfl | rfl | rfl := h
    · exact hsign c h
    · exact (plain_of_mem_decimal h).1
    · rfl
    · exact hdigit _
    · exact hdigit _

theorem dollar_not_mem_writeFixed (x : Float) : '$' ∉ Number.writeFixed x :=
  fun h => absurd (plain_of_mem_writeFixed h) (by decide)

/-- The template of a percentage in a color. -/
theorem onlyColors_percentage {color : List Char} (h : '$' ∉ color) (percent : Float) :
    OnlyColors (colorTag color ++ Number.writeFixed percent ++ ['%'] ++ colorTag ['0']) := by
  rw [List.append_assoc, List.append_assoc]
  refine onlyColors_colorTag h (onlyColors_append (dollar_not_mem_writeFixed percent) ?_)
  have hreset : OnlyColors (colorTag ['0'] ++ []) :=
    onlyColors_colorTag (by decide) onlyColors_nil
  rw [List.append_nil] at hreset
  exact onlyColors_append (by decide) hreset

/-! ## Members by their names -/

/-- The tag asks for a member of a module that has members, and its key is that of no other tag. -/
def AsksMember (spec : List Char) : Prop :=
  ∃ name member, splitSpec spec = (name, some member) ∧
    String.ofList member ≠ "module-" ++ String.ofList name ∧
    ∀ module, Module.lookup (String.ofList name) = .ok module → module.isBuiltIn = false

theorem AsksMember.own (h : AsksMember spec) : (keyOf spec).2 ≠ "module-" ++ (keyOf spec).1 := by
  obtain ⟨name, member, hspec, hmember, -⟩ := h
  simpa only [keyOf, hspec, Option.map_some, Option.getD_some] using hmember

theorem ne_module_append {member : String} (h : member.toList.head? ≠ some 'm') (name : String) :
    member ≠ "module-" ++ name := by
  rintro rfl
  exact h (by simp)

/-- The names of built-in texts begin otherwise. -/
theorem isBuiltIn_of_lookup {name : String} (h : Module.lookup name = .ok module)
    (hname : name.toList.head? = some 'd' ∨ name.toList.head? = some 'g') :
    module.isBuiltIn = false := by
  have hc : name.toList.head? ≠ some 'c' := by
    intro heq
    rw [heq] at hname
    revert hname
    decide
  obtain hknown | hargument := Module.named_of_lookup h
  · unfold Module.ofName? at hknown
    split at hknown <;> cases hknown <;> first | rfl | (exfalso; revert hname; decide)
  · cases hargument with
    | disk | themeGtk | gpu => rfl
    | colorsSymbol _ hstart | colorsLightSymbol _ hstart => exact absurd hstart hc

/-- A member of a module without an argument. -/
theorem asksMember_of_name {name : List Char} {member : String} (hdot : '.' ∉ name)
    (hplain : '(' ∉ name ++ '.' :: member.toList) (hm : member.toList.head? ≠ some 'm')
    (hmodule : ∀ module, Module.lookup (String.ofList name) = .ok module →
      module.isBuiltIn = false) : AsksMember (name ++ '.' :: member.toList) := by
  refine ⟨name, member.toList, splitSpec_of_not_mem hdot hplain, ?_, hmodule⟩
  rw [String.ofList_toList]
  exact ne_module_append hm _

/-- A member of a volume. -/
theorem asksMember_disk (path : String) {member : String} (hplain : ')' ∉ member.toList)
    (hm : member.toList.head? ≠ some 'm') :
    AsksMember ("disk(".toList ++ path.toList ++ ')' :: '.' :: member.toList) := by
  have hname : '(' ∈ "disk(".toList ++ path.toList := List.mem_append_left _ (by decide)
  refine ⟨_, member.toList, splitSpec_of_argument hname hplain, ?_, ?_⟩
  · rw [String.ofList_toList]
    exact ne_module_append hm _
  · intro module h
    refine isBuiltIn_of_lookup h (.inl ?_)
    rw [String.toList_ofList]
    rfl

/-! ## Templates of summaries -/

/-- A tag for a member of a module by its literal name. -/
theorem flat_literalMember {name : List Char} {member : String}
    (hspecial : ∀ c ∈ name ++ '.' :: member.toList, isSpecial c = false)
    (hasks : AsksMember (name ++ '.' :: member.toList)) :
    Flat AsksMember (memberTag name member) := by
  have hname : quote name = name := quote_eq_self fun c hc => hspecial c (List.mem_append_left _ hc)
  have h := flat_memberTag (fun c hc =>
    hspecial c (List.mem_append_right _ (List.mem_cons_of_mem _ hc))) hasks
  rwa [hname] at h

theorem flat_knownMember (name member : String) (hlookup : Module.lookup name = .ok module)
    (hmodule : module.isBuiltIn = false)
    (h : (∀ c ∈ name.toList ++ '.' :: member.toList, isSpecial c = false) ∧ '.' ∉ name.toList ∧
      '(' ∉ name.toList ++ '.' :: member.toList ∧ member.toList.head? ≠ some 'm') :
    Flat AsksMember (memberTag name.toList member) := by
  obtain ⟨hspecial, hdot, hplain, hm⟩ := h
  refine flat_literalMember hspecial (asksMember_of_name hdot hplain hm ?_)
  rw [String.ofList_toList, hlookup]
  intro _ heq
  cases heq
  exact hmodule

theorem flat_literal (text : String) (h : ∀ c ∈ text.toList, c ≠ '\\' ∧ c ≠ '$') :
    Flat asks text.toList := flat_text h

theorem flat_cpu : Flat AsksMember "$<cpu.name> ($<cpu.nproc>) @ $<cpu.freq_max> GHz".toList := by
  have h := (flat_knownMember "cpu" "name" rfl rfl (by simp [isSpecial])).append <|
    (flat_literal " (" (by simp)).append <|
    (flat_knownMember "cpu" "nproc" rfl rfl (by simp [isSpecial])).append <|
    (flat_literal ") @ " (by simp)).append <|
    (flat_knownMember "cpu" "freq_max" rfl rfl (by simp [isSpecial])).append <|
    flat_literal " GHz" (by simp)
  simpa [memberTag] using h

theorem flat_gpuMember (index : Nat) (member : String)
    (h : (∀ c ∈ member.toList, isSpecial c = false) ∧ '(' ∉ member.toList ∧
      member.toList.head? ≠ some 'm') :
    Flat AsksMember (memberTag ("gpu".toList ++ Number.decimal index) member) := by
  obtain ⟨hspecial, hplain, hm⟩ := h
  have hgpu : ∀ c ∈ "gpu".toList, isSpecial c = false ∧ c ≠ '.' ∧ c ≠ '(' := by
    simp [isSpecial]
  have hname : ∀ c ∈ "gpu".toList ++ Number.decimal index,
      isSpecial c = false ∧ c ≠ '.' ∧ c ≠ '(' :=
    fun c hc => (List.mem_append.mp hc).elim (hgpu c) plain_of_mem_decimal
  have hdotted : ∀ c ∈ '.' :: member.toList, isSpecial c = false :=
    List.forall_mem_cons.mpr ⟨rfl, hspecial⟩
  refine flat_literalMember ?_ (asksMember_of_name ?_ ?_ hm ?_)
  · exact fun c hc => (List.mem_append.mp hc).elim (fun hc => (hname c hc).1) (hdotted c)
  · exact fun hc => (hname _ hc).2.1 rfl
  · intro hc
    obtain hc | hc := List.mem_append.mp hc
    · exact (hname _ hc).2.2 rfl
    · exact hplain ((List.mem_cons.mp hc).resolve_left (by decide))
  · intro module hlookup
    refine isBuiltIn_of_lookup hlookup (.inr ?_)
    rw [String.toList_ofList]
    rfl

theorem quote_diskName (path : String) :
    quote ("disk(".toList ++ path.toList ++ [')']) = diskName path := by
  rw [quote_append, quote_append]
  rfl

theorem flat_diskMember (path member : String)
    (h : (∀ c ∈ member.toList, isSpecial c = false) ∧ ')' ∉ member.toList ∧
      member.toList.head? ≠ some 'm') :
    Flat AsksMember (memberTag (diskName path) member) := by
  obtain ⟨hspecial, hplain, hm⟩ := h
  rw [← quote_diskName]
  refine flat_memberTag hspecial ?_
  have hasks := asksMember_disk path hplain hm
  rwa [List.append_assoc]

/-- How much of something is used, before what else is to be said of it. -/
theorem flat_amounts {name rest : List Char} (hused : Flat asks (memberTag name "used"))
    (htotal : Flat asks (memberTag name "total"))
    (hpercent : Flat asks (memberTag name "used_perc")) (hrest : Flat asks rest) :
    Flat asks (memberTag name "used" ++ " / ".toList ++ memberTag name "total" ++ " (".toList ++
      memberTag name "used_perc" ++ rest) := by
  have h := hused.append <| (flat_literal " / " (by simp)).append <|
    htotal.append <| (flat_literal " (" (by simp)).append <| hpercent.append hrest
  simpa only [List.append_assoc] using h

/-- An SGR code is a token. -/
theorem isToken_code (code : Nat) :
    IsToken ('\x1b' :: '[' :: (Number.decimal code ++ ['m'])) := by
  have hframe : ∀ c ∈ ['\x1b', '[', 'm'], c ≠ '\\' ∧ c ≠ '$' ∧ c ≠ '\x7d' := by simp
  intro c hc
  simp only [List.mem_cons, List.mem_append, List.not_mem_nil, or_false] at hc
  obtain hc | hc | hc | hc := hc
  · exact hframe c (by simp [hc])
  · exact hframe c (by simp [hc])
  · have hspecial := (plain_of_mem_decimal hc).1
    refine ⟨?_, ?_, ?_⟩ <;> rintro rfl <;> exact absurd hspecial (by decide)
  · exact hframe c (by simp [hc])

theorem flat_paletteRow {cell : List Char} (first : Nat) (hcell : Flat asks cell) :
    Flat asks (paletteRow first cell) :=
  (flat_flatMap (fun i => (flat_colorTag _ (isToken_code (first + i))).append hcell) _).append
    (flat_colorTag _ (by simp))

theorem flat_symbolCell (symbol : String) : Flat asks (symbolCell symbol) :=
  .char (by decide) (by decide) ((flat_quote _).append (flat_text (by simp)))

/-- Summaries are made of text, colors and members. -/
theorem flat_of_summarizes (h : Summarizes module template) : Flat AsksMember template := by
  cases h with
  | cpu => exact flat_cpu
  | gpu index =>
    exact (flat_gpuMember index "vendor" (by simp [isSpecial])).append
      (.char (by decide) (by decide) (flat_gpuMember index "name" (by simp [isSpecial])))
  | ram =>
    have h := flat_amounts (flat_knownMember "ram" "used" rfl rfl (by simp [isSpecial]))
      (flat_knownMember "ram" "total" rfl rfl (by simp [isSpecial]))
      (flat_knownMember "ram" "used_perc" rfl rfl (by simp [isSpecial]))
      (flat_literal ")" (by simp))
    simpa [memberTag] using h
  | swap =>
    have h := flat_amounts (flat_knownMember "swap" "used" rfl rfl (by simp [isSpecial]))
      (flat_knownMember "swap" "total" rfl rfl (by simp [isSpecial]))
      (flat_knownMember "swap" "used_perc" rfl rfl (by simp [isSpecial]))
      (flat_literal ")" (by simp))
    simpa [memberTag] using h
  | disk path =>
    have hfs := (flat_literal ") - " (by simp)).append
      (flat_diskMember path "fs" (by simp [isSpecial]))
    have h := flat_amounts (flat_diskMember path "used" (by simp [isSpecial]))
      (flat_diskMember path "total" (by simp [isSpecial]))
      (flat_diskMember path "used_perc" (by simp [isSpecial])) hfs
    simpa only [List.append_assoc] using h
  | battery =>
    have h := (flat_knownMember "battery" "perc" rfl rfl (by simp [isSpecial])).append <|
      (flat_literal " [" (by simp)).append <|
      (flat_knownMember "battery" "status" rfl rfl (by simp [isSpecial])).append <|
      flat_literal "]" (by simp)
    simpa [memberTag] using h
  | title =>
    have h := (flat_colorTag "auto2".toList (by simp)).append <|
      (flat_knownMember "user" "name" rfl rfl (by simp [isSpecial])).append <|
      (flat_colorTag "0".toList (by simp)).append <|
      (flat_literal "@" (by simp)).append <|
      (flat_colorTag "auto2".toList (by simp)).append <|
      flat_knownMember "os" "hostname" rfl rfl (by simp [isSpecial])
    simpa [memberTag, colorTag] using h
  | colors => exact flat_paletteRow 40 (flat_text (by simp [blankCell]))
  | colorsLight => exact flat_paletteRow 100 (flat_text (by simp [blankCell]))
  | colorsSymbol symbol => exact flat_paletteRow 30 (flat_symbolCell symbol)
  | colorsLightSymbol symbol => exact flat_paletteRow 90 (flat_symbolCell symbol)

end Info

end Placard
