import Placard.Info.Module

/-! # The names of info tags

A tag names a module, or a member of a module after a dot. Nothing is lost when the two are taken
apart (`eq_of_splitSpec`). The name of a module is one of a few words, or begins with the stem of a
module with an argument (`Module.named_of_lookup`). -/

namespace Placard.Info

/-! ## The names of modules -/

theorem head?_of_afterStart? (h : (Text.afterStart? (c :: start) cs).isSome = true) :
    cs.head? = some c := by
  unfold Text.afterStart? at h
  split at h
  · rename_i hprefix
    obtain ⟨rest, rfl⟩ := List.isPrefixOf_iff_prefix.mp hprefix
    rfl
  · cases h

/-- The modules with an argument, by how their names begin. -/
inductive Module.TakesArgument (name : List Char) : Module → Prop
  | disk (path) : TakesArgument name (.disk path)
  | colorsSymbol (symbol) : name.head? = some 'c' → TakesArgument name (.colorsSymbol symbol)
  | colorsLightSymbol (symbol) :
      name.head? = some 'c' → TakesArgument name (.colorsLightSymbol symbol)
  | themeGtk (version) : TakesArgument name (.themeGtk version)
  | gpu (index) : TakesArgument name (.gpu index)

theorem Module.named_of_lookup {name : String} (h : lookup name = .ok module) :
    ofName? name = some module ∨ TakesArgument name.toList module := by
  unfold lookup at h
  split at h
  · rename_i hknown
    cases h
    exact .inl hknown
  right
  unfold lookupWithArgument at h
  dsimp only at h
  split at h
  · unfold withArgument at h
    split at h <;> cases h
    exact .disk _
  split at h
  · rename_i hstart
    unfold withArgument at h
    split at h <;> cases h
    exact .colorsLightSymbol _ (head?_of_afterStart? hstart)
  split at h
  · rename_i hstart
    unfold withArgument at h
    split at h <;> cases h
    exact .colorsSymbol _ (head?_of_afterStart? hstart)
  split at h
  · unfold themeGtkOf at h
    split at h <;> cases h
    exact .themeGtk _
  · unfold gpuOf at h
    split at h
    · cases h
      exact .gpu _
    · split at h <;> cases h
      exact .gpu _
  · cases h

/-- Names without an argument hold neither parentheses nor digits. -/
theorem Module.plain_of_ofName? {name : String} (h : ofName? name = some module) :
    ∀ c ∈ name.toList, c ≠ '(' ∧ c.isDigit = false := by
  unfold ofName? at h
  split at h <;> cases h
  all_goals simp

/-- So these stand for an argument. -/
theorem Module.lookup_eq_lookupWithArgument {name : String} (hc : c ∈ name.toList)
    (hargument : c = '(' ∨ c.isDigit = true) : lookup name = lookupWithArgument name := by
  unfold lookup
  cases hname : ofName? name with
  | none => rfl
  | some module =>
    obtain ⟨hparenthesis, hdigit⟩ := plain_of_ofName? hname c hc
    obtain heq | hc := hargument
    · exact absurd heq hparenthesis
    · exact absurd (hdigit.symm.trans hc) nofun

/-! ## Module and member -/

theorem append_of_cutAfterLast? (h : cutAfterLast? c cs = some (done, rest)) :
    done ++ rest = cs := by
  unfold cutAfterLast? at h
  dsimp only at h
  split at h
  · cases h
  cases h
  have hsuffix : (cs.reverse.takeWhile (· != c)).reverse <:+ cs := by
    rw [← List.reverse_prefix, List.reverse_reverse]
    exact List.takeWhile_prefix _
  obtain ⟨front, hfront⟩ := hsuffix
  generalize (cs.reverse.takeWhile (· != c)).reverse = after at hfront
  subst hfront
  rw [List.length_append, Nat.add_sub_cancel, List.take_left]

theorem takeWhile_ne_append {c : α} [DecidableEq α] {before : List α} (h : c ∉ before)
    (rest : List α) : (before ++ c :: rest).takeWhile (· != c) = before := by
  have hbefore : ∀ a ∈ before, (a != c) = true := fun a ha => bne_iff_ne.mpr fun heq => h (heq ▸ ha)
  rw [List.takeWhile_append_of_pos hbefore, List.takeWhile_cons_of_neg (by simp), List.append_nil]

theorem cutAfterLast?_append (done : List Char) (hrest : c ∉ rest) :
    cutAfterLast? c (done ++ c :: rest) = some (done ++ [c], rest) := by
  have hafter : ((done ++ c :: rest).reverse.takeWhile (· != c)).reverse = rest := by
    rw [List.reverse_append, List.reverse_cons, List.append_assoc, List.singleton_append,
      takeWhile_ne_append (by simpa using hrest), List.reverse_reverse]
  unfold cutAfterLast?
  dsimp only
  have hshorter : ¬ rest.length = (done ++ c :: rest).length := by
    simp only [List.length_append, List.length_cons]
    omega
  rw [hafter, if_neg hshorter]
  have hlength : (done ++ c :: rest).length - rest.length = (done ++ [c]).length := by
    simp only [List.length_append, List.length_cons, List.length_nil]
    omega
  have hsplit : done ++ c :: rest = (done ++ [c]) ++ rest := by simp
  rw [hlength, hsplit, List.take_left]

theorem splitAtDot_append (done before member : List Char) (hbefore : '.' ∉ before) :
    splitAtDot done (before ++ '.' :: member) = (done ++ before, some member) := by
  have hdrop : (before ++ '.' :: member).dropWhile (· != '.') = '.' :: member := by
    have h := List.takeWhile_append_dropWhile (p := (· != '.')) (l := before ++ '.' :: member)
    rw [takeWhile_ne_append hbefore] at h
    exact List.append_cancel_left h
  unfold splitAtDot
  rw [hdrop, takeWhile_ne_append hbefore]

theorem eq_of_splitAtDot (h : splitAtDot done rest = (name, member)) :
    done ++ rest = name ++ member.elim [] ('.' :: ·) := by
  have hrest := List.takeWhile_append_dropWhile (p := (· != '.')) (l := rest)
  unfold splitAtDot at h
  dsimp only at h
  split at h
  · obtain ⟨rfl, rfl⟩ := Prod.mk.inj h
    exact (List.append_nil _).symm
  · rename_i c member hdrop
    obtain ⟨rfl, rfl⟩ := Prod.mk.inj h
    have hc := List.head?_dropWhile_not (· != '.') rest
    rw [hdrop] at hc hrest
    obtain rfl : c = '.' := by simpa using hc
    rw [List.append_assoc]
    exact congrArg (done ++ ·) hrest.symm

theorem eq_of_splitSpec (h : splitSpec spec = (name, member)) :
    spec = name ++ member.elim [] ('.' :: ·) := by
  unfold splitSpec at h
  split at h
  · split at h
    · rename_i done rest hcut
      rw [← eq_of_splitAtDot h, append_of_cutAfterLast? hcut]
    · exact eq_of_splitAtDot h
  · exact eq_of_splitAtDot h

/-- A name without an argument ends at the first dot. -/
theorem splitSpec_of_not_mem {name member : List Char} (hname : '.' ∉ name)
    (hplain : '(' ∉ name ++ '.' :: member) :
    splitSpec (name ++ '.' :: member) = (name, some member) := by
  unfold splitSpec
  rw [if_neg (by simpa using hplain)]
  exact splitAtDot_append [] name member hname

/-- A name without a dot names no member. -/
theorem splitSpec_of_plain (hdot : '.' ∉ name) (hplain : '(' ∉ name) :
    splitSpec name = (name, none) := by
  have hbefore : ∀ c ∈ name, (c != '.') = true := fun c hc =>
    bne_iff_ne.mpr (ne_of_mem_of_not_mem hc hdot)
  have hdrop : name.dropWhile (· != '.') = [] := by
    have h : (name ++ []).dropWhile (· != '.') = [].dropWhile (· != '.') :=
      List.dropWhile_append_of_pos hbefore
    rwa [List.append_nil] at h
  unfold splitSpec splitAtDot
  rw [if_neg (by simpa using hplain), hdrop]
  rfl

/-- A name with an argument ends after the last parenthesis. -/
theorem splitSpec_of_argument {name member : List Char} (hname : '(' ∈ name)
    (hmember : ')' ∉ member) :
    splitSpec (name ++ ')' :: '.' :: member) = (name ++ [')'], some member) := by
  unfold splitSpec
  have hmem : (name ++ ')' :: '.' :: member).contains '(' = true :=
    List.contains_iff_mem.mpr (List.mem_append_left _ hname)
  have hrest : ')' ∉ '.' :: member := by
    rw [List.mem_cons, not_or]
    exact ⟨by decide, hmember⟩
  rw [if_pos hmem, cutAfterLast?_append name hrest]
  have h := splitAtDot_append (name ++ [')']) [] member List.not_mem_nil
  rwa [List.append_nil] at h

/-- Behind the last parenthesis there need not be a member. -/
theorem splitSpec_of_argument_end {name : List Char} (hname : '(' ∈ name) :
    splitSpec (name ++ [')']) = (name ++ [')'], none) := by
  have hmem : (name ++ [')']).contains '(' = true :=
    List.contains_iff_mem.mpr (List.mem_append_left _ hname)
  unfold splitSpec
  rw [if_pos hmem, cutAfterLast?_append name List.not_mem_nil]
  simp only [splitAtDot, List.dropWhile_nil, List.append_nil]

/-! ## Keys -/

/-- The key under which the value of a tag is remembered. -/
def keyOf (spec : List Char) : String × String :=
  let (name, member) := splitSpec spec
  (String.ofList name, (member.map String.ofList).getD ("module-" ++ String.ofList name))

/-- A tag for a whole module, and a tag for a member of the same module that is named as the value
of the whole module is remembered. -/
def Twins (spec spec' : List Char) : Prop :=
  ∃ name member, splitSpec spec = (name, none) ∧ splitSpec spec' = (name, some member) ∧
    String.ofList member = "module-" ++ String.ofList name

/-- Tags with one key are the same tag or twins. -/
theorem eq_or_twins_of_keyOf_eq (h : keyOf spec' = keyOf spec) :
    spec' = spec ∨ Twins spec spec' ∨ Twins spec' spec := by
  rcases hspec : splitSpec spec with ⟨name, member⟩
  rcases hspec' : splitSpec spec' with ⟨name', member'⟩
  have heq := eq_of_splitSpec hspec
  have heq' := eq_of_splitSpec hspec'
  unfold keyOf at h
  rw [hspec, hspec'] at h
  obtain ⟨hname, hkey⟩ := Prod.mk.inj h
  obtain rfl := String.ofList_injective hname
  cases member with
  | none =>
    cases member' with
    | none => exact .inl (heq'.trans heq.symm)
    | some member' => exact .inr (.inl ⟨_, member', hspec, hspec', hkey⟩)
  | some member =>
    cases member' with
    | none => exact .inr (.inr ⟨_, member, hspec', hspec, hkey.symm⟩)
    | some member' =>
      obtain rfl := String.ofList_injective hkey
      exact .inl (heq'.trans heq.symm)

/-- A tag whose key is not that of a whole module shares it with no other tag. -/
theorem eq_of_keyOf_eq (hown : (keyOf spec).2 ≠ "module-" ++ (keyOf spec).1)
    (h : keyOf spec' = keyOf spec) : spec' = spec := by
  obtain heq | ⟨name, _, hspec, -, -⟩ | ⟨name, member, -, hspec, hmember⟩ :=
    eq_or_twins_of_keyOf_eq h
  · exact heq
  · refine absurd ?_ hown
    simp only [keyOf, hspec, Option.map_none, Option.getD_none]
  · refine absurd ?_ hown
    simp only [keyOf, hspec, Option.map_some, Option.getD_some, hmember]

end Placard.Info
