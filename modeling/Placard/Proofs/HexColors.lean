import Mathlib.Algebra.Group.Nat.Defs
import Placard.Style

/-! # Hex colors

Three, six or eight hexadecimal digits in either case are a color, and nothing else is. A color is
the low 24 bits of the number that its digits write, except that each of three digits is one half
of a channel and stands for both (`Rgb.parseHex_eq_ofHexNumber`). So three digits are short for
six, the first two of eight do not count, and a color is read as it is written
(`Rgb.parseHex_accepts`). -/

namespace Placard

namespace Text

/-! ## Digits -/

/-- The hexadecimal digits. -/
def hexAlphabet : List Char :=
  ['0', '1', '2', '3', '4', '5', '6', '7', '8', '9', 'a', 'b', 'c', 'd', 'e', 'f',
    'A', 'B', 'C', 'D', 'E', 'F']

variable {c : Char} {digits : List Char}

/-- What holds of all ASCII characters is checked one by one. -/
theorem ascii_induction {p : Char → Prop} (h : ∀ n < 128, p (Char.ofNat n)) (hc : c.toNat < 128) :
    p c :=
  Char.ofNat_toNat c ▸ h c.toNat hc

theorem hexValue?_of_not_ascii (h : 128 ≤ c.toNat) : hexValue? c = none := by
  have hrange {low high : Char} (hhigh : high.toNat < 128) : ¬ (low ≤ c && c ≤ high) = true := by
    simp only [Bool.and_eq_true, decide_eq_true_eq, not_and]
    intro _ hc
    exact absurd (Nat.le_trans h hc) (Nat.not_le.mpr hhigh)
  rw [hexValue?, if_neg (hrange (by decide)), if_neg (hrange (by decide)),
    if_neg (hrange (by decide))]

theorem toLower_of_not_ascii (h : 128 ≤ c.toNat) : c.toLower = c := by
  refine dif_neg fun hc => ?_
  exact absurd (Nat.le_trans h hc.2) (by decide)

theorem lt_of_hexValue? {value : Nat} (h : hexValue? c = some value) : value < 16 := by
  by_cases hc : c.toNat < 128
  · have hall : ∀ n < 128, ∀ value ∈ hexValue? (Char.ofNat n), value < 16 := by decide
    exact ascii_induction (p := fun c => ∀ value ∈ hexValue? c, value < 16) hall hc value h
  · rw [hexValue?_of_not_ascii (Nat.le_of_not_lt hc)] at h
    cases h

theorem hexValue?_isSome_iff : (hexValue? c).isSome = true ↔ c ∈ hexAlphabet := by
  constructor
  · intro h
    by_cases hc : c.toNat < 128
    · exact ascii_induction (p := fun c => (hexValue? c).isSome = true → c ∈ hexAlphabet)
        (by decide) hc h
    · rw [hexValue?_of_not_ascii (Nat.le_of_not_lt hc)] at h
      cases h
  · have hall : hexAlphabet.all (fun c => (hexValue? c).isSome) = true := by decide
    exact List.all_eq_true.mp hall c

theorem hexValue?_toLower (c : Char) : hexValue? c.toLower = hexValue? c := by
  by_cases hc : c.toNat < 128
  · exact ascii_induction (p := fun c => hexValue? c.toLower = hexValue? c) (by decide) hc
  · rw [toLower_of_not_ascii (Nat.le_of_not_lt hc)]

theorem hexValue?_digitChar {n : Nat} (h : n < 16) : hexValue? n.digitChar = some n := by
  have hall : ∀ n < 16, hexValue? (Nat.digitChar n) = some n := by decide
  exact hall n h

/-! ## Numbers -/

/-- The number of which these are the hexadecimal places. -/
def hexNumber (values : List Nat) : Nat := values.foldl (16 * · + ·) 0

/-- The number that hexadecimal digits write. -/
def hexNumber? (digits : List Char) : Option Nat := (digits.mapM hexValue?).map hexNumber

theorem mapM_hexValue?_cons (c : Char) (digits : List Char) :
    (c :: digits).mapM hexValue? =
      (hexValue? c).bind fun value => (digits.mapM hexValue?).map (value :: ·) := by
  rw [List.mapM_cons]
  cases hexValue? c with
  | none => rfl
  | some value => cases digits.mapM hexValue? <;> rfl

theorem mapM_hexValue?_isSome_iff :
    (digits.mapM hexValue?).isSome = true ↔ ∀ c ∈ digits, c ∈ hexAlphabet := by
  induction digits with
  | nil => simp
  | cons c digits ih =>
    rw [mapM_hexValue?_cons, List.forall_mem_cons, ← ih, ← hexValue?_isSome_iff]
    cases hexValue? c <;> simp

theorem of_mapM_hexValue? {values : List Nat} (h : digits.mapM hexValue? = some values) :
    values.length = digits.length ∧ ∀ value ∈ values, value < 16 := by
  induction digits generalizing values with
  | nil =>
    cases h
    exact ⟨rfl, nofun⟩
  | cons c digits ih =>
    rw [mapM_hexValue?_cons] at h
    obtain ⟨value, hvalue, hrest⟩ := Option.bind_eq_some_iff.mp h
    obtain ⟨rest, hdigits, rfl⟩ := Option.map_eq_some_iff.mp hrest
    obtain ⟨hlength, hlt⟩ := ih hdigits
    exact ⟨congrArg (· + 1) hlength, List.forall_mem_cons.mpr ⟨lt_of_hexValue? hvalue, hlt⟩⟩

theorem foldl_hexNumber_lt {values : List Nat} (h : ∀ value ∈ values, value < 16) (start : Nat) :
    values.foldl (16 * · + ·) start < (start + 1) * 16 ^ values.length := by
  induction values generalizing start with
  | nil => simp
  | cons value values ih =>
    obtain ⟨hvalue, hvalues⟩ := List.forall_mem_cons.mp h
    calc values.foldl (16 * · + ·) (16 * start + value)
        < (16 * start + value + 1) * 16 ^ values.length := ih hvalues _
      _ ≤ (16 * (start + 1)) * 16 ^ values.length := Nat.mul_le_mul_right _ (by omega)
      _ = (start + 1) * 16 ^ (value :: values).length := by
        rw [List.length_cons, Nat.pow_succ', Nat.mul_comm 16 (start + 1), Nat.mul_assoc]

theorem hexNumber_lt {values : List Nat} (h : ∀ value ∈ values, value < 16) :
    hexNumber values < 16 ^ values.length := by
  have hlt := foldl_hexNumber_lt h 0
  rwa [Nat.zero_add, Nat.one_mul] at hlt

/-- Eight places make no more than 32 bits. -/
theorem hexNumber_lt_word {values : List Nat} (h : ∀ value ∈ values, value < 16)
    (hlength : values.length ≤ 8) : hexNumber values < 2 ^ 32 :=
  Nat.lt_of_lt_of_le (hexNumber_lt h) (Nat.pow_le_pow_right (Nat.succ_pos 15) hlength)

end Text

namespace Rgb

open Text

/-- The color of a number that was written with so many digits. -/
def ofHexNumber (count n : Nat) : Option Rgb :=
  match count with
  | 3 => some ⟨.ofNat (n / 0x100 % 0x10 * 0x11), .ofNat (n / 0x10 % 0x10 * 0x11),
    .ofNat (n % 0x10 * 0x11)⟩
  | 6 | 8 => some (ofNat n)
  | _ => none

theorem ofHexNumber_isSome_iff (count n : Nat) :
    (ofHexNumber count n).isSome = true ↔ count = 3 ∨ count = 6 ∨ count = 8 := by
  unfold ofHexNumber
  split <;> simp_all

/-- A color is what the number stands for, which has at most 32 bits. -/
theorem parseHex_eq_ofHexNumber (digits : List Char) :
    parseHex digits = (hexNumber? digits).bind fun n =>
      if n < 2 ^ 32 then ofHexNumber digits.length n else none := by
  unfold parseHex hexNumber?
  cases hvalues : digits.mapM hexValue? with
  | none => rfl
  | some values =>
    obtain ⟨hlength, hlt⟩ := of_mapM_hexValue? hvalues
    rw [← hlength, Option.map_some, Option.bind_some]
    split
    case h_4 h₃ h₆ h₈ =>
      have hnone : ofHexNumber values.length (hexNumber values) = none := by
        rw [← Option.not_isSome_iff_eq_none, ofHexNumber_isSome_iff]
        match values with
        | [r, g, b] => exact absurd rfl (h₃ r g b)
        | [r₁, r₀, g₁, g₀, b₁, b₀] => exact absurd rfl (h₆ r₁ r₀ g₁ g₀ b₁ b₀)
        | [a₁, a₀, r₁, r₀, g₁, g₀, b₁, b₀] => exact absurd rfl (h₈ a₁ a₀ r₁ r₀ g₁ g₀ b₁ b₀)
        | [] | [_] | [_, _] | [_, _, _, _] | [_, _, _, _, _] | [_, _, _, _, _, _, _]
        | _ :: _ :: _ :: _ :: _ :: _ :: _ :: _ :: _ :: _ => simp
      rw [hnone, ite_self]
    all_goals
      rename_i heq
      cases heq
      rw [if_pos (hexNumber_lt_word hlt (by simp))]
      simp only [List.forall_mem_cons] at hlt
      simp only [ofHexNumber, ofNat, List.length_cons, List.length_nil, hexNumber, List.foldl_cons,
        List.foldl_nil]
      congr 3 <;> omega

variable {digits : List Char}

/-! ## The parts -/

theorem parseHex_isSome_iff : (parseHex digits).isSome = true ↔
    (∀ c ∈ digits, c ∈ hexAlphabet) ∧
      (digits.length = 3 ∨ digits.length = 6 ∨ digits.length = 8) := by
  rw [parseHex_eq_ofHexNumber, ← mapM_hexValue?_isSome_iff, hexNumber?]
  cases hvalues : digits.mapM hexValue? with
  | none => simp
  | some values =>
    obtain ⟨hlength, hlt⟩ := of_mapM_hexValue? hvalues
    rw [← ofHexNumber_isSome_iff _ (hexNumber values), Option.map_some, Option.bind_some]
    split
    · simp
    · next hword =>
      -- A number with more than 32 bits has more than eight places.
      have hcount : ¬ (digits.length = 3 ∨ digits.length = 6 ∨ digits.length = 8) := fun hcount =>
        hword (hexNumber_lt_word hlt (by omega))
      rw [ofHexNumber_isSome_iff]
      simp [hcount]

/-- Lower case is read like upper case. -/
theorem parseHex_map_toLower (digits : List Char) :
    parseHex (digits.map Char.toLower) = parseHex digits := by
  have hvalue : hexValue? ∘ Char.toLower = hexValue? := funext hexValue?_toLower
  rw [parseHex, List.mapM_map, hvalue, ← parseHex]

/-- A single digit stands for two of it. -/
theorem parseHex_three (a b c : Char) : parseHex [a, b, c] = parseHex [a, a, b, b, c, c] := by
  have htwice (n : Nat) : 17 * n = 16 * n + n := by omega
  simp only [parseHex, mapM_hexValue?_cons, List.mapM_nil]
  cases hexValue? a with
  | none => rfl
  | some x =>
    cases hexValue? b with
    | none => rfl
    | some y =>
      cases hexValue? c with
      | none => rfl
      | some z =>
        simp only [htwice]
        rfl

/-- The byte in front of a color does not count. -/
theorem parseHex_eight {a₁ a₀ : Char} {rest : List Char} (h₁ : a₁ ∈ hexAlphabet)
    (h₀ : a₀ ∈ hexAlphabet) (hlength : rest.length = 6) :
    parseHex (a₁ :: a₀ :: rest) = parseHex rest := by
  obtain ⟨x₁, hx₁⟩ := Option.isSome_iff_exists.mp (hexValue?_isSome_iff.mpr h₁)
  obtain ⟨x₀, hx₀⟩ := Option.isSome_iff_exists.mp (hexValue?_isSome_iff.mpr h₀)
  unfold parseHex
  rw [mapM_hexValue?_cons, mapM_hexValue?_cons, hx₁, hx₀, Option.bind_some, Option.bind_some]
  cases hrest : rest.mapM hexValue? with
  | none => rfl
  | some values =>
    have hsix : values.length = 6 := (of_mapM_hexValue? hrest).1.trans hlength
    match values, hsix with
    | [r₁, r₀, g₁, g₀, b₁, b₀], _ => rfl

theorem mapM_hexByte (b : UInt8) (rest : List Char) :
    (hexByte b ++ rest).mapM hexValue? =
      (rest.mapM hexValue?).map fun values => b.toNat / 16 :: b.toNat % 16 :: values := by
  have hhigh : b.toNat / 16 < 16 := Nat.div_lt_of_lt_mul b.toNat_lt
  change (_ :: _ :: rest).mapM hexValue? = _
  rw [mapM_hexValue?_cons, mapM_hexValue?_cons, hexValue?_digitChar hhigh,
    hexValue?_digitChar (Nat.mod_lt _ (Nat.succ_pos 15)), Option.bind_some, Option.bind_some,
    Option.map_map]
  rfl

theorem parseHex_hex (c : Rgb) : parseHex c.hex = some c := by
  have hbyte (b : UInt8) : UInt8.ofNat (16 * (b.toNat / 16) + b.toNat % 16) = b := by
    rw [Nat.div_add_mod, UInt8.ofNat_toNat]
  have hvalues : c.hex.mapM hexValue? = some [c.r.toNat / 16, c.r.toNat % 16, c.g.toNat / 16,
      c.g.toNat % 16, c.b.toNat / 16, c.b.toNat % 16] := by
    rw [hex, List.append_assoc, mapM_hexByte, mapM_hexByte, ← List.append_nil (hexByte c.b),
      mapM_hexByte]
    rfl
  simp only [parseHex, hvalues, hbyte]

/-! ## The main statement -/

/-- Just the texts of three, six or eight hexadecimal digits are colors. Their case does not
matter, three digits stand for six, the first two of eight are left out, and a color that is
written and read again is the same. -/
theorem parseHex_accepts :
    (∀ digits, (parseHex digits).isSome = true ↔ (∀ c ∈ digits, c ∈ hexAlphabet) ∧
      (digits.length = 3 ∨ digits.length = 6 ∨ digits.length = 8)) ∧
    (∀ digits other : List Char, digits.map Char.toLower = other.map Char.toLower →
      parseHex digits = parseHex other) ∧
    (∀ a b c, parseHex [a, b, c] = parseHex [a, a, b, b, c, c]) ∧
    (∀ digits, (∀ c ∈ digits, c ∈ hexAlphabet) → digits.length = 8 →
      parseHex digits = parseHex (digits.drop 2)) ∧
    ∀ c : Rgb, ∃ digits, c.notate.toList = '#' :: digits ∧ digits.length = 6 ∧
      parseHex digits = some c := by
  refine ⟨fun digits => parseHex_isSome_iff, ?_, parseHex_three, ?_, ?_⟩
  · intro digits other hcase
    rw [← parseHex_map_toLower digits, hcase, parseHex_map_toLower]
  · intro digits hdigits hlength
    match digits, hlength with
    | a₁ :: a₀ :: rest, hlength =>
      rw [List.forall_mem_cons, List.forall_mem_cons] at hdigits
      exact parseHex_eight hdigits.1 hdigits.2.1 (Nat.succ.inj (Nat.succ.inj hlength))
  · intro c
    exact ⟨c.hex, String.toList_ofList, rfl, parseHex_hex c⟩

/-- An orange in mixed case, and with a byte in front of it. -/
theorem parseHex_accepts_orange :
    let orange := ['f', 'F', '8', '0', '0', '0']
    let other := ['F', 'f', '8', '0', '0', '0']
    let withAlpha := ['8', '0', 'f', 'F', '8', '0', '0', '0']
    orange.map Char.toLower = other.map Char.toLower ∧ parseHex orange = parseHex other ∧
    (∀ c ∈ withAlpha, c ∈ hexAlphabet) ∧ withAlpha.length = 8 ∧
    parseHex withAlpha = parseHex orange ∧ parseHex orange = some ⟨255, 128, 0⟩ := by
  intro orange other withAlpha
  have hcase : orange.map Char.toLower = other.map Char.toLower := by decide
  have hdigits : ∀ c ∈ withAlpha, c ∈ hexAlphabet := by simp [withAlpha, hexAlphabet]
  exact ⟨hcase, parseHex_accepts.2.1 orange other hcase, hdigits, rfl,
    parseHex_accepts.2.2.2.1 withAlpha hdigits rfl, rfl⟩

end Rgb
end Placard
