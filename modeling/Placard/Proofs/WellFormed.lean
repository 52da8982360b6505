import Mathlib.Data.List.Induction
import Placard.Proofs.Ranges
import Placard.Proofs.Render
import Placard.Proofs.TemplateCoupling
import Placard.Provider.Snapshot

/-! # Well-formed texts

The number of characters that a styled text counts along is right, and every range of it covers some
of them and ends within it (`Buffer.WellFormed`). Each operation on texts keeps this, whatever the
offsets, so all that is built by them is well-formed, and every well-formed text can be built
(`Buffer.built_iff`).

Templates make and lay their texts by these operations only. As a coupling of a state with itself,
this goes through whole templates and renders (`TemplateCoupling.wellFormed`): what they give is
well-formed, and so is what they remember and what they splice in, also where they fail. -/

namespace Placard

namespace StyledRange

/-- The range covers something, and ends within a text of this length. -/
def Within (length : Nat) (range : StyledRange) : Prop :=
  range.start < range.stop ∧ range.stop ≤ length

variable {range : StyledRange} {length : Nat}

theorem Within.mono (h : range.Within length) (hlength : length ≤ longer) : range.Within longer :=
  ⟨h.1, Nat.le_trans h.2 hlength⟩

theorem Within.shift (h : range.Within length) (offset : Nat) :
    (range.shift offset).Within (offset + length) := by
  obtain ⟨hstart, hstop⟩ := h
  exact ⟨Nat.add_lt_add_right hstart offset, by
    rw [Nat.add_comm offset]
    exact Nat.add_le_add_right hstop offset⟩

/-- Wherever the characters are inserted. -/
theorem Within.insertAt (h : range.Within length) (position count : Nat) :
    (range.insertAt position count).Within (length + count) := by
  unfold StyledRange.insertAt
  split
  · rw [Nat.add_comm length]
    exact h.shift count
  · split
    · exact ⟨Nat.lt_add_right count h.1, Nat.add_le_add_right h.2 count⟩
    · exact h.mono (Nat.le_add_right ..)

end StyledRange

namespace Buffer

/-- The count is right, no range is empty, and none reaches beyond the end of the text. -/
structure WellFormed (b : Buffer) : Prop where
  counted : b.chars = b.text.length
  within : ∀ range ∈ b.ranges, range.start < range.stop ∧ range.stop ≤ b.chars

/-- What the operations make of texts without style, with any offsets and with arguments that they
have made themselves. -/
inductive Built : Buffer → Prop
  | plain (text) : Built { text }
  | push (c) : Built b → Built (b.push c)
  | pushText (text) : Built b → Built (b.pushText text)
  | append : Built b → Built other → Built (b.append other)
  | insertText (offset text) : Built b → Built (b.insertText offset text)
  | insert (offset) : Built b → Built other → Built (b.insert offset other)
  | layer (offset) : Built b → Built other → Built (b.layer offset other)
  | setSpan (span start stop) : Built b → Built (b.setSpan span start stop)

variable {b other : Buffer}

/-! ## Operations -/

namespace WellFormed

theorem plain (text : List Char) : WellFormed { text } := ⟨rfl, nofun⟩

theorem pushText (h : b.WellFormed) (text : List Char) : (b.pushText text).WellFormed where
  counted := Counted.pushText h.counted text
  within range hrange := StyledRange.Within.mono (h.within range hrange) (Nat.le_add_right ..)

theorem push (h : b.WellFormed) (c : Char) : (b.push c).WellFormed := h.pushText [c]

theorem append (h : b.WellFormed) (hother : other.WellFormed) : (b.append other).WellFormed where
  counted := Counted.append h.counted hother.counted
  within range hrange := by
    obtain hrange | hrange := List.mem_append.mp hrange
    · exact StyledRange.Within.mono (h.within range hrange) (Nat.le_add_right ..)
    · obtain ⟨inner, hinner, rfl⟩ := List.mem_map.mp hrange
      exact StyledRange.Within.shift (hother.within inner hinner) b.chars

theorem insertText (h : b.WellFormed) (offset : Nat) (text : List Char) :
    (b.insertText offset text).WellFormed where
  counted := Counted.insertText h.counted offset text
  within range hrange := by
    obtain ⟨inner, hinner, rfl⟩ := List.mem_map.mp hrange
    exact StyledRange.Within.insertAt (h.within inner hinner) _ _

/-- The ranges move with the text that they are over, which is counted before it is inserted. -/
theorem insert (h : b.WellFormed) (hother : other.WellFormed) (offset : Nat) :
    (b.insert offset other).WellFormed where
  counted := Counted.insert h.counted offset other
  within range hrange := by
    obtain hrange | hrange := List.mem_append.mp hrange
    · exact (h.insertText _ other.text).within range hrange
    · obtain ⟨inner, hinner, rfl⟩ := List.mem_map.mp hrange
      have hmoved := StyledRange.Within.shift (hother.within inner hinner) (min offset b.chars)
      refine hmoved.mono ?_
      rw [hother.counted]
      exact Nat.add_le_add_right (Nat.min_le_right ..) _

/-- The layer is cut at the end of the text, and what is left of it covers something. -/
theorem layer (h : b.WellFormed) (offset : Nat) (other : Buffer) :
    (b.layer offset other).WellFormed where
  counted := h.counted
  within range hrange := by
    obtain hrange | hrange := List.mem_append.mp hrange
    · exact h.within range hrange
    · obtain ⟨hlaid, hlt⟩ := List.mem_filter.mp hrange
      obtain ⟨inner, -, rfl⟩ := List.mem_map.mp hlaid
      exact ⟨of_decide_eq_true hlt, Nat.min_le_right ..⟩

/-- The range that is stretched or cut keeps its start, which is before the new end. -/
theorem setSpan (h : b.WellFormed) (span : Span) (start stop : Nat) :
    (b.setSpan span start stop).WellFormed where
  counted := Counted.setSpan h.counted span start stop
  within := by
    unfold Buffer.setSpan
    dsimp only
    split
    · exact h.within
    · next hstart =>
      intro range hrange
      change range ∈ (restop (span, start).1 (span, start).2 (min stop b.chars) b.ranges).getD
        (b.ranges ++ [.ofPlace (min stop b.chars) (span, start)]) at hrange
      rw [RichText.restop_eq_lay] at hrange
      obtain hrange | ⟨hplace, hstop⟩ := Ranges.mem_lay hrange
      · exact h.within range hrange
      · have hplace : range.start = start := congrArg (·.2) hplace
        rw [hplace, hstop]
        exact ⟨Nat.lt_of_not_le hstart, Nat.min_le_right ..⟩

end WellFormed

theorem Built.wellFormed (h : b.Built) : b.WellFormed := by
  induction h with
  | plain text => exact .plain text
  | push c _ ih => exact ih.push c
  | pushText text _ ih => exact ih.pushText text
  | append _ _ ih ih' => exact ih.append ih'
  | insertText offset text _ ih => exact ih.insertText offset text
  | insert offset _ _ ih ih' => exact ih.insert ih' offset
  | layer offset _ _ ih => exact ih.layer offset _
  | setSpan span start stop _ ih => exact ih.setSpan span start stop

/-- A single range, laid over a text from its beginning, is added to the others. -/
theorem layer_setSpan (h : StyledRange.Within b.text.length range) (hcounted : b.Counted) :
    b.layer 0 (({ text := b.text } : Buffer).setSpan range.span range.start range.stop) =
      { b with ranges := b.ranges ++ [range] } := by
  have hposition (position : Nat) : b.layPosition 0 position = position := if_pos (Nat.zero_le _)
  have hstop : min range.stop b.text.length = range.stop := Nat.min_eq_left h.2
  have hsingle : ({ text := b.text } : Buffer).setSpan range.span range.start range.stop =
      { text := b.text, ranges := [range] } := by
    unfold setSpan
    simp only [hstop, if_neg (Nat.not_le.mpr h.1)]
    rfl
  have hkept : min range.stop b.chars = range.stop := by rw [hcounted, hstop]
  rw [hsingle]
  simp only [layer, List.map_singleton, hposition, hkept, List.filter_singleton, h.1, decide_true]
  rfl

/-- What is well-formed can be built: the ranges are laid over the text one after another. -/
theorem WellFormed.built (h : b.WellFormed) : b.Built := by
  obtain ⟨text, ranges, chars⟩ := b
  obtain ⟨hcounted, hwithin⟩ := h
  obtain rfl : chars = text.length := hcounted
  induction ranges using List.reverseRecOn with
  | nil => exact .plain text
  | append_singleton ranges range ih =>
    have hranges : ∀ range ∈ ranges, range.start < range.stop ∧ range.stop ≤ text.length :=
      fun inner hinner => hwithin inner (List.mem_append_left _ hinner)
    have hrange : range.Within text.length :=
      hwithin range (List.mem_append_right _ List.mem_cons_self)
    have hbelow : Buffer.Built { text, ranges } := ih hranges
    have hlaid := hbelow.layer 0 ((Built.plain text).setSpan range.span range.start range.stop)
    have hcounted : Counted { text, ranges } := rfl
    rwa [layer_setSpan hrange hcounted] at hlaid

theorem built_iff : b.Built ↔ b.WellFormed := ⟨Built.wellFormed, WellFormed.built⟩

/-- No span is over what is behind the end. -/
theorem WellFormed.spansAt_eq_nil {r : RichText} (h : r.WellFormed) (hindex : r.length ≤ index) :
    Ranges.spansAt r.ranges index = [] := by
  refine Ranges.spansAt_eq_nil fun range hrange => ?_
  have hstop := (h.within range hrange).2
  rw [Bool.eq_false_iff, Ne, StyledRange.covers_iff]
  exact fun hcovers => Nat.not_lt.mpr (Nat.le_trans hstop hindex) hcovers.2

end Buffer

/-! ## Pieces -/

namespace Template.Piece

variable {piece added : Piece}

theorem wellFormed_stretchAll (h : piece.text.WellFormed) (offset : Nat)
    (styles : List OpenStyle) : (piece.stretchAll offset styles).text.WellFormed := by
  unfold stretchAll
  induction styles generalizing piece with
  | nil => exact h
  | cons style styles ih => exact ih (h.setSpan _ _ _)

theorem wellFormed_add (h : piece.text.WellFormed) (styles : List OpenStyle) (text : List Char) :
    (piece.add styles text).text.WellFormed := wellFormed_stretchAll (h.pushText text) _ styles

theorem wellFormed_addPiece (h : piece.text.WellFormed) (styles : List OpenStyle) (added : Piece) :
    (piece.addPiece styles added).text.WellFormed := by
  unfold addPiece
  dsimp only
  refine (wellFormed_stretchAll ?_ _ styles).layer _ _
  exact h.pushText added.text.text

end Template.Piece

/-! ## States -/

variable {σ : Type} {c d : Context σ}

/-- The texts that a state holds are well-formed: what is remembered, and what is to be spliced
in. -/
structure Context.WellFormed (c : Context σ) : Prop where
  cache : ∀ entry ∈ c.cache.entries, entry.2.toRich.WellFormed
  spliced : ∀ line ∈ c.spliced, line.WellFormed

theorem Context.wellFormed_reset [Provider σ] (c : Context σ) : c.reset.WellFormed := ⟨nofun, nofun⟩

/-- A state beside itself, with well-formed texts. -/
def Coupling.wellFormed : Coupling where
  demand := .all
  tint := Eq
  reported := Eq
  resetApplied := Eq
  resetApplied_self _ := rfl
  rich r s := r.WellFormed ∧ r = s
  pushText := by
    rintro r _ ⟨h, rfl⟩ text
    exact ⟨h.pushText text, rfl⟩

namespace Coupling

theorem wellFormed_value {v w : Info.Value} :
    wellFormed.Value v w ↔ v.toRich.WellFormed ∧ v = w := by
  constructor
  · intro h
    cases h with
    | rich hr => exact ⟨hr.1, congrArg _ hr.2⟩
    | text | count | real => exact ⟨.plain _, rfl⟩
  · rintro ⟨h, rfl⟩
    cases v with
    | text s => exact .text s
    | rich r => exact .rich ⟨h, rfl⟩
    | count n => exact .count n
    | real x => exact .real x

theorem wellFormed_cache {cache other : Info.Cache} : cache.Related wellFormed.rich other ↔
    (∀ entry ∈ cache.entries, entry.2.toRich.WellFormed) ∧ cache = other := by
  have hentry (e f : (String × String) × Info.Value) :
      e.1 = f.1 ∧ wellFormed.Value e.2 f.2 ↔ e.2.toRich.WellFormed ∧ e = f := by
    rw [wellFormed_value]
    constructor
    · exact fun ⟨hkey, hvalue, heq⟩ => ⟨hvalue, Prod.ext hkey heq⟩
    · rintro ⟨hvalue, rfl⟩
      exact ⟨rfl, hvalue, rfl⟩
  obtain ⟨entries⟩ := cache
  obtain ⟨others⟩ := other
  simp only [Info.Cache.Related, hentry, List.forall₂_and_left, List.forall₂_eq_eq_eq,
    Info.Cache.mk.injEq]

theorem wellFormed_lines {l m : List RichText} :
    List.Forall₂ wellFormed.rich l m ↔ (∀ line ∈ l, line.WellFormed) ∧ l = m := by
  change List.Forall₂ (fun r s => r.WellFormed ∧ r = s) l m ↔ _
  rw [List.forall₂_and_left, List.forall₂_eq_eq_eq]

theorem wellFormed_iff : wellFormed.State c d ↔ c.WellFormed ∧ c = d := by
  constructor
  · intro h
    obtain ⟨hentries, hcache⟩ := wellFormed_cache.mp h.cache
    obtain ⟨hlines, hspliced⟩ := wellFormed_lines.mp h.spliced
    have htint : c.tint = d.tint := h.tint
    simp only [Context.tint, Tint.mk.injEq] at htint
    obtain ⟨hdisabled, hstyles, hcolors, hseen⟩ := htint
    have hconfig : d.config = c.config := by rw [h.config, ← hdisabled]
    have happlied : c.sepResetApplied = d.sepResetApplied := h.sepResetApplied
    have hdiagnostics : c.diagnostics = d.diagnostics := h.diagnostics
    refine ⟨⟨hentries, hlines⟩, ?_⟩
    cases c
    cases d
    simp only [Context.mk.injEq]
    exact ⟨hconfig.symm, h.provider.symm, hcache, hstyles, hcolors, h.parsingLayout.symm,
      happlied, hseen, hspliced, hdiagnostics⟩
  · rintro ⟨h, rfl⟩
    exact
      { config := rfl, provider := rfl, cache := wellFormed_cache.mpr ⟨h.cache, rfl⟩, tint := rfl
        parsingLayout := rfl, sepResetApplied := rfl
        spliced := wellFormed_lines.mpr ⟨h.spliced, rfl⟩, diagnostics := rfl }

theorem wellFormed_of_follows {V : α → α → Prop} {p : Except Halt α × Context σ}
    (h : Eval.Follows .all wellFormed.State V p p) :
    p.2.WellFormed ∧ ∀ a, p.1 = .ok a → V a a := by
  obtain ⟨e | a, d⟩ := p
  · cases h with
    | error h => exact ⟨(wellFormed_iff.mp h).1, nofun⟩
    | free _ hd => exact absurd rfl hd
    | lost _ hd => cases hd
  · cases h with
    | ok hV h =>
      refine ⟨(wellFormed_iff.mp h).1, ?_⟩
      rintro _ ⟨⟩
      exact hV

/-- A computation that goes side by side with itself leaves well-formed texts in the state, and
gives what is related to itself. -/
theorem wellFormed_outcome {V : α → α → Prop} {x : Eval σ α} (hx : wellFormed.Simulates V x x)
    (hc : c.WellFormed) : (x.outcome c).2.WellFormed ∧ ∀ a d, x.Yields c a d → V a a := by
  have hf := hx c c (wellFormed_iff.mpr ⟨hc, rfl⟩)
  obtain ⟨hd, hV⟩ := wellFormed_of_follows hf
  exact ⟨hd, fun a d h => hV a (congrArg Prod.fst h)⟩

end Coupling

/-- Pieces go side by side with themselves as long as their texts are well-formed. -/
def TemplateCoupling.wellFormed : TemplateCoupling where
  toCoupling := .wellFormed
  piece p q := p.text.WellFormed ∧ p = q
  text_eq h := congrArg (·.text) h.2.symm
  plain text := ⟨.plain text, rfl⟩
  append := by
    rintro r _ r' _ ⟨h, rfl⟩ ⟨h', rfl⟩
    exact ⟨h.append h', rfl⟩
  ofRich := by
    rintro r _ ⟨h, rfl⟩
    exact ⟨h, rfl⟩
  toRich := by
    rintro p _ ⟨h, rfl⟩
    exact ⟨h, rfl⟩
  add := by
    rintro a _ p _ rfl ⟨h, rfl⟩ text
    exact ⟨Template.Piece.wellFormed_add h _ text, rfl⟩
  addPiece := by
    rintro a _ p _ p' _ rfl ⟨h, rfl⟩ ⟨-, rfl⟩
    exact ⟨Template.Piece.wellFormed_addPiece h _ p', rfl⟩
  cleared := by
    rintro a _ rfl
    rfl
  restored := by
    rintro a _ a' _ rfl rfl
    rfl
  report := by
    rintro l _ diagnostic rfl -
    rfl
  applyColor token := by
    intro c d h
    obtain ⟨hc, rfl⟩ := Coupling.wellFormed_iff.mp h
    obtain ⟨styles, autoColors, seen, diagnostics, hafter, -⟩ :=
      Template.exists_of_applyColor token c
    generalize (Template.applyColor token).outcome c = outcome at hafter
    obtain ⟨_ | _, _⟩ := outcome
    · obtain rfl := hafter
      exact .error (Coupling.wellFormed_iff.mpr ⟨⟨hc.cache, hc.spliced⟩, rfl⟩)
    · obtain rfl := hafter
      exact .ok rfl (Coupling.wellFormed_iff.mpr ⟨⟨hc.cache, hc.spliced⟩, rfl⟩)

/-! ## Templates and renders -/

open Template

variable [Provider σ]

/-- The texts that the operations can build are those whose count is right and whose ranges all
cover something within them. So it is with the texts of templates, with those that are remembered or
spliced in, after a failure too, and with the lines of a render. -/
theorem wellFormed_texts :
    (∀ b : Buffer, b.Built ↔ b.WellFormed) ∧
    (∀ c : Context σ, c.reset.WellFormed) ∧
    (∀ c : Context σ, c.WellFormed → ∀ template,
      ((parseLine template).outcome c).2.WellFormed ∧
        ∀ parsed d, (parseLine template).Yields c parsed d → parsed.rich.WellFormed) ∧
    ∀ (config : Config) (provider : σ) (art : String),
      ((Render.renderLines art).outcome (Context.reset { config, provider })).2.WellFormed ∧
        ∀ output after, render config provider art = (.ok output, after) →
          ∀ line ∈ output.lines, line.WellFormed := by
  refine ⟨fun _ => Buffer.built_iff, Context.wellFormed_reset, fun c hc template => ?_,
    fun config provider art => ?_⟩
  · obtain ⟨hd, hparsed⟩ := Coupling.wellFormed_outcome
      (TemplateCoupling.wellFormed.simulates_parseLine template) hc
    exact ⟨hd, fun parsed d h => (hparsed parsed d h).1.1⟩
  · obtain ⟨hd, hlines⟩ := Coupling.wellFormed_outcome
      (TemplateCoupling.wellFormed.simulates_renderLines art)
      (Context.wellFormed_reset { config, provider })
    refine ⟨hd, fun output after h => ?_⟩
    obtain ⟨c, hrun, -⟩ := render_eq_ok_iff.mp h
    exact (Coupling.wellFormed_lines.mp (hlines _ _ hrun)).1

/-- A text with offsets beyond its end, a template that remembers a styled summary, and a render
with two volumes. -/
theorem wellFormed_texts_volumes :
    let red : Span := .foreground ⟨255, 0, 0⟩
    let plain (text : String) : Buffer := { text := text.toList }
    let b := ((((plain "ab").setSpan red 1 9).insert 7 (plain "c")).insertText 1 ['d']).layer 3
      ((plain "xy").setSpan red 0 2)
    let gpus : List GpuInfo := [{ name := "Arc", vendor := "Intel" }]
    let c : Context Snapshot := Context.reset { config := {}, provider := { facts := { gpus } } }
    let template := "$\x7bred\x7d$<gpu>"
    let config : Config :=
      { layout := ["$\x7bred\x7d$<gpu>", "$<auto.disk>"]
        autoDisk := { format := "$\x7bblue\x7d%1: %3" } }
    let volume (path : String) : DiskInfo :=
      { mountdir := path, device := path, types := { regular := true } }
    let provider : Snapshot := { facts := { gpus, disks := [volume "/", volume "/home"] } }
    let art := "$\x7bblue\x7d##"
    (b.Built ∧ b.WellFormed ∧ b.chars = 4 ∧ b.ranges.length = 2) ∧
    (c.WellFormed ∧ ∃ parsed d, (parseLine template).Yields c parsed d ∧
      d.cache.entries.length = 3 ∧ parsed.rich.WellFormed ∧ d.WellFormed) ∧
    ∃ output after, render config provider art = (.ok output, after) ∧
      output.lines.length = 3 ∧ ∀ line ∈ output.lines, line.WellFormed := by
  intro red plain b gpus c template config volume provider art
  obtain ⟨hbuilt, hreset, hparse, hrender⟩ := wellFormed_texts (σ := Snapshot)
  refine ⟨?_, ⟨hreset _, ?_⟩, ?_⟩
  · have h : b.Built := .layer 3 (.insertText 1 ['d'] (.insert 7 (.setSpan red 1 9 (.plain _))
      (.plain _))) (.setSpan red 0 2 (.plain _))
    exact ⟨h, (hbuilt b).mp h, rfl, rfl⟩
  · have hentries : ((parseLine template).outcome c).2.cache.entries.length = 3 := by
      decide +kernel
    refine Eval.exists_yields (p := fun _ => true) (by decide +kernel) fun parsed d h _ => ?_
    obtain ⟨hd, hparsed⟩ := hparse c (hreset _) template
    rw [h] at hd hentries
    exact ⟨hentries, hparsed parsed d h, hd⟩
  · refine exists_render (p := fun output => output.lines.length = 3) (by decide +kernel)
      fun output after h hp => ⟨of_decide_eq_true hp, ?_⟩
    exact (hrender config provider art).2 output after h

end Placard
