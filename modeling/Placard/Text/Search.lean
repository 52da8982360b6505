/-!
Looking for one text inside another.
-/

namespace Placard.Text

/-- The text before the first `needle`, and the rest, which starts with it. -/
def cutAt? (needle : List Char) : List Char → Option (List Char × List Char)
  | [] => if needle.isEmpty then some ([], []) else none
  | c :: cs =>
    if needle.isPrefixOf (c :: cs) then some ([], c :: cs)
    else (cutAt? needle cs).map fun (before, rest) => (c :: before, rest)

def contains (needle cs : List Char) : Bool := (cutAt? needle cs).isSome

/-- Nothing is lost by cutting. -/
theorem append_of_cutAt? {needle cs before rest : List Char}
    (h : cutAt? needle cs = some (before, rest)) : before ++ rest = cs := by
  induction cs generalizing before with
  | nil => simp_all [cutAt?]
  | cons c cs ih =>
    rw [cutAt?] at h
    split at h
    · simp_all
    · obtain ⟨⟨inner, rest'⟩, hcut, heq⟩ := Option.map_eq_some_iff.1 h
      simp only [Prod.mk.injEq] at heq
      obtain ⟨rfl, rfl⟩ := heq
      simp [ih hcut]

theorem cutAt?_isSome_iff {needle cs : List Char} :
    (cutAt? needle cs).isSome = true ↔ needle <:+: cs := by
  induction cs with
  | nil => cases needle <;> simp [cutAt?]
  | cons c cs ih =>
    rw [cutAt?, List.infix_cons_iff]
    split
    · rename_i h
      simp [List.isPrefixOf_iff_prefix.1 h]
    · rename_i h
      have hp : ¬ needle <+: c :: cs := fun hp => h (List.isPrefixOf_iff_prefix.2 hp)
      rw [Option.isSome_map, ih]
      simp [hp]

/-- A text is found wherever it stands. -/
theorem contains_iff {needle cs : List Char} : contains needle cs = true ↔ needle <:+: cs :=
  cutAt?_isSome_iff

theorem cutAt?_append {c : Char} {before : List Char} (h : c ∉ before) (rest : List Char) :
    cutAt? [c] (before ++ c :: rest) = some (before, c :: rest) := by
  induction before with
  | nil => simp [cutAt?]
  | cons d before ih =>
    rw [List.mem_cons, not_or] at h
    simp [cutAt?, h.1, ih h.2]

/-- The text before and after the first `separator`. -/
def splitOnce? (separator : Char) (cs : List Char) : Option (List Char × List Char) :=
  (cutAt? [separator] cs).map fun (before, rest) => (before, rest.drop 1)

theorem splitOnce?_append {separator : Char} {before : List Char} (h : separator ∉ before)
    (after : List Char) :
    splitOnce? separator (before ++ separator :: after) = some (before, after) := by
  rw [splitOnce?, cutAt?_append h]
  rfl

theorem splitOnce?_of_not_mem {separator : Char} {cs : List Char} (h : separator ∉ cs) :
    splitOnce? separator cs = none := by
  have hcut : ¬ (cutAt? [separator] cs).isSome = true := fun hcut =>
    h ((cutAt?_isSome_iff.mp hcut).subset List.mem_cons_self)
  rw [splitOnce?, Option.not_isSome_iff_eq_none.mp hcut]
  rfl

/-- What follows `start`, if the text starts with it. -/
def afterStart? (start cs : List Char) : Option (List Char) :=
  if start.isPrefixOf cs then some (cs.drop start.length) else none

/-- What stands before the last character, if that is `c`. -/
def beforeLast? (c : Char) (cs : List Char) : Option (List Char) :=
  if cs.getLast? = some c then some cs.dropLast else none

/-- The pieces between the separators; a text without one is a single piece. -/
def splitOn (separator : Char) : List Char → List (List Char)
  | [] => [[]]
  | c :: cs =>
    if c = separator then [] :: splitOn separator cs
    else match splitOn separator cs with
      | [] => [[c]]
      | piece :: pieces => (c :: piece) :: pieces

theorem splitOn_of_not_mem {separator : Char} {cs : List Char} (h : separator ∉ cs) :
    splitOn separator cs = [cs] := by
  induction cs with
  | nil => rfl
  | cons c cs ih =>
    rw [List.mem_cons, not_or] at h
    rw [splitOn, if_neg (Ne.symm h.1), ih h.2]

theorem splitOn_append {separator : Char} {cs : List Char} (h : separator ∉ cs) (rest : List Char) :
    splitOn separator (cs ++ separator :: rest) = cs :: splitOn separator rest := by
  induction cs with
  | nil => exact if_pos rfl
  | cons c cs ih =>
    rw [List.mem_cons, not_or] at h
    rw [List.cons_append, splitOn, if_neg (Ne.symm h.1), ih h.2]

end Placard.Text
