import Placard.Proofs.Runs
import Placard.Terminal

/-! # What a terminal shows

A terminal takes characters one at a time (`Screen.step`). It shows them in its current style, and
an SGR sequence changes that style: `0` takes everything away, `1`, `3`, `4`, `5` and `9` add a
modifier, `38;2` and `48;2` set a color from the three numbers after them.

The encoder writes differences only. They are right because the terminal's style is always the one
that the encoder believes it to be: a transition takes it from the one style to the other
(`Screen.feed_transition`), so a line shows each character in the style that the line gives it and
ends in the plain style (`Screen.feed_encode`). Lines written one after another do not reach into
each other (`TerminalBuffer.feed_writes`). -/

namespace Placard.Sgr

/-- What the next character means to a terminal. -/
inductive Mode where
  | text
  | escape
  | parameters (read : List Char)
  deriving DecidableEq

/-- A terminal, and what it has shown. -/
structure Screen where
  style : Style := .plain
  mode : Mode := .text
  shown : List (Style × Char) := []
  deriving DecidableEq

/-- The style after a sequence with these numbers. A number without a meaning is passed over. -/
def select (style : Style) : List Nat → Style
  | 38 :: 2 :: r :: g :: b :: rest =>
    select { style with fg := some ⟨.ofNat r, .ofNat g, .ofNat b⟩ } rest
  | 48 :: 2 :: r :: g :: b :: rest =>
    select { style with bg := some ⟨.ofNat r, .ofNat g, .ofNat b⟩ } rest
  | 0 :: rest => select .plain rest
  | 1 :: rest => select { style with modifiers.bold := true } rest
  | 3 :: rest => select { style with modifiers.italic := true } rest
  | 4 :: rest => select { style with modifiers.underline := true } rest
  | 5 :: rest => select { style with modifiers.blink := true } rest
  | 9 :: rest => select { style with modifiers.strikethrough := true } rest
  | _ :: rest => select style rest
  | [] => style

/-- The numbers between the semicolons; an empty one is zero. -/
def numbers (parameters : List Char) : List Nat :=
  (Text.splitOn ';' parameters).map Number.ofDigits

namespace Screen

/-- Only sequences of digits and semicolons are known; any other ends without an effect. -/
def step (screen : Screen) (c : Char) : Screen :=
  match screen.mode with
  | .text =>
    if c = '\x1b' then { screen with mode := .escape }
    else { screen with shown := screen.shown ++ [(screen.style, c)] }
  | .escape => { screen with mode := if c = '[' then .parameters [] else .text }
  | .parameters read =>
    if c = 'm' then { screen with style := select screen.style (numbers read), mode := .text }
    else if c.isDigit || c = ';' then { screen with mode := .parameters (read ++ [c]) }
    else { screen with mode := .text }

def feed (screen : Screen) (cs : List Char) : Screen := cs.foldl step screen

@[simp] theorem feed_nil (screen : Screen) : screen.feed [] = screen := rfl

@[simp] theorem feed_cons (screen : Screen) (c : Char) (cs : List Char) :
    screen.feed (c :: cs) = (screen.step c).feed cs := rfl

theorem feed_append (screen : Screen) (cs ds : List Char) :
    screen.feed (cs ++ ds) = (screen.feed cs).feed ds := List.foldl_append

/-! ## Text and sequences -/

/-- Text without an escape character is shown as it is. -/
theorem feed_text {text : List Char} (h : '\x1b' ∉ text) (style : Style)
    (shown : List (Style × Char)) :
    feed { style, shown } text = { style, shown := shown ++ text.map (style, ·) } := by
  induction text generalizing shown with
  | nil => simp
  | cons c text ih =>
    rw [List.mem_cons, not_or] at h
    have hc : step { style, shown } c = { style, shown := shown ++ [(style, c)] } :=
      if_neg (Ne.symm h.1)
    rw [feed_cons, hc, ih h.2]
    simp

theorem feed_parameters {parameters : List Char}
    (h : ∀ c ∈ parameters, c.isDigit ∨ c = ';') (style : Style) (read : List Char)
    (shown : List (Style × Char)) :
    feed { style, mode := .parameters read, shown } (parameters ++ ['m']) =
      { style := select style (numbers (read ++ parameters)), shown } := by
  induction parameters generalizing read with
  | nil => simp [step]
  | cons c parameters ih =>
    have hc : c.isDigit || c = ';' := by simpa using h c List.mem_cons_self
    have hm : c ≠ 'm' := by
      rintro rfl
      exact absurd hc (by decide)
    have hstep : step { style, mode := .parameters read, shown } c =
        { style, mode := .parameters (read ++ [c]), shown } := by
      simp only [step, hm, hc, if_false, if_true]
    rw [List.cons_append, feed_cons, hstep, ih fun d hd => h d (List.mem_cons_of_mem _ hd)]
    simp

theorem feed_sequence {parameters : List Char} (h : ∀ c ∈ parameters, c.isDigit ∨ c = ';')
    (style : Style) (shown : List (Style × Char)) :
    feed { style, shown } (sequence parameters) =
      { style := select style (numbers parameters), shown } :=
  feed_parameters h style [] shown

/-! ## The sequences of the encoder -/

theorem isParameter_of_mem_color {plane : List Char} (h : ∀ c ∈ plane, c.isDigit = true)
    (r g b : Nat) : ∀ c ∈ plane ++ ';' :: '2' :: ';' :: Number.decimal r ++ ';' :: Number.decimal g
      ++ ';' :: Number.decimal b, c.isDigit ∨ c = ';' := by
  intro c hc
  simp only [List.mem_append, List.mem_cons] at hc
  rcases hc with ((hc | rfl | rfl | rfl | hc) | rfl | hc) | rfl | hc
  · exact .inl (h c hc)
  · exact .inr rfl
  · exact .inl rfl
  · exact .inr rfl
  · exact .inl (Number.isDigit_of_mem_decimal hc)
  · exact .inr rfl
  · exact .inl (Number.isDigit_of_mem_decimal hc)
  · exact .inr rfl
  · exact .inl (Number.isDigit_of_mem_decimal hc)

theorem numbers_append {digits : List Char} (h : ∀ c ∈ digits, c.isDigit = true) (rest : List Char) :
    numbers (digits ++ ';' :: rest) = Number.ofDigits digits :: numbers rest := by
  have hs : ';' ∉ digits := fun hc => absurd (h _ hc) (by decide)
  rw [numbers, Text.splitOn_append hs, List.map_cons, numbers]

theorem numbers_decimal (n : Nat) : numbers (Number.decimal n) = [n] := by
  have hs : ';' ∉ Number.decimal n :=
    fun hc => absurd (Number.isDigit_of_mem_decimal hc) (by decide)
  rw [numbers, Text.splitOn_of_not_mem hs, List.map_singleton, Number.ofDigits_decimal]

theorem numbers_color {plane : List Char} (h : ∀ c ∈ plane, c.isDigit = true) (r g b : Nat) :
    numbers (plane ++ ';' :: '2' :: ';' :: Number.decimal r ++ ';' :: Number.decimal g
      ++ ';' :: Number.decimal b) = [Number.ofDigits plane, 2, r, g, b] := by
  have htwo (rest : List Char) : numbers ('2' :: ';' :: rest) = 2 :: numbers rest :=
    numbers_append (List.forall_mem_singleton.mpr (by decide)) rest
  have hnext (n : Nat) (rest : List Char) :
      numbers (Number.decimal n ++ ';' :: rest) = n :: numbers rest := by
    rw [numbers_append fun _ => Number.isDigit_of_mem_decimal, Number.ofDigits_decimal]
  simp only [List.append_assoc, List.cons_append]
  rw [numbers_append h, htwo, hnext, hnext, numbers_decimal]

theorem feed_color {plane : List Char} (h : ∀ c ∈ plane, c.isDigit = true) (c : Rgb) (style : Style)
    (shown : List (Style × Char)) :
    feed { style, shown } (color plane c) =
      { style := select style [Number.ofDigits plane, 2, c.r.toNat, c.g.toNat, c.b.toNat]
        shown } := by
  rw [color, feed_sequence (isParameter_of_mem_color h _ _ _), numbers_color h]

theorem feed_foreground (c : Rgb) (style : Style) (shown : List (Style × Char)) :
    feed { style, shown } (foreground c) = { style := { style with fg := some c }, shown } := by
  rw [foreground, feed_color (List.all_eq_true.mp rfl)]
  simp [select, Number.ofDigits, Number.digitValue]

theorem feed_background (c : Rgb) (style : Style) (shown : List (Style × Char)) :
    feed { style, shown } (background c) = { style := { style with bg := some c }, shown } := by
  rw [background, feed_color (List.all_eq_true.mp rfl)]
  simp [select, Number.ofDigits, Number.digitValue]

theorem feed_reset (style : Style) (shown : List (Style × Char)) :
    feed { style, shown } reset = { shown } := rfl

/-- The sequence for one modifier, written or left out. -/
theorem feed_switch {digit : Char} (h : digit.isDigit = true) (on : Bool) (style : Style)
    (shown : List (Style × Char)) :
    feed { style, shown } (if on then sequence [digit] else []) =
      { style := if on then select style [Number.digitValue digit] else style, shown } := by
  have hnumbers : numbers [digit] = [Number.digitValue digit] := by
    have hs : ';' ∉ [digit] := by
      rintro (_ | _)
      · exact absurd h (by decide)
      · contradiction
    simp [numbers, Text.splitOn_of_not_mem hs, Number.ofDigits]
  cases on with
  | false => rfl
  | true => rw [if_pos rfl, feed_sequence (by simpa using .inl h), hnumbers, if_pos rfl]

theorem feed_modifiers (m : Modifiers) (style : Style) (shown : List (Style × Char)) :
    feed { style, shown } (modifiers m) =
      { style := { style with modifiers := style.modifiers.union m }, shown } := by
  simp only [modifiers, feed_append]
  rw [feed_switch (by decide), feed_switch (by decide), feed_switch (by decide),
    feed_switch (by decide), feed_switch (by decide)]
  rcases m with ⟨_ | _, _ | _, _ | _, _ | _, _ | _⟩ <;>
    simp [Modifiers.union, select, Number.digitValue]

/-! ## Transitions -/

/-- The sequence for one of the two colors, `put` being the style that has this color. -/
theorem feed_color_change (put : Option Rgb → Style) {write : Rgb → List Char}
    {shown : List (Style × Char)} {current next : Option Rgb}
    (hwrite : ∀ c,
      feed { style := put current, shown } (write c) = { style := put (some c), shown }) :
    (current.isSome → next.isSome) → feed { style := put current, shown } (match next with
      | some c => if current = some c then [] else write c
      | none => []) = { style := put next, shown } := by
  intro h
  cases next with
  | none =>
    cases current with
    | none => rfl
    | some c => exact absurd (h rfl) Bool.false_ne_true
  | some c =>
    dsimp only
    split
    · next heq =>
      rw [heq]
      rfl
    · exact hwrite c

/-- Adding what is missing gives the whole set, if nothing has to go. -/
theorem union_difference {m n : Modifiers} (h : (m.difference n).isEmpty) :
    m.union (n.difference m) = n := by
  rcases m with ⟨_ | _, _ | _, _ | _, _ | _, _ | _⟩ <;>
    rcases n with ⟨_ | _, _ | _, _ | _, _ | _, _ | _⟩ <;> first | rfl | cases h

theorem feed_additions {current next : Style} (h : needsReset current next = false)
    (shown : List (Style × Char)) :
    feed { style := current, shown } (additions current next) = { style := next, shown } := by
  simp only [needsReset, Bool.or_eq_false_iff, Bool.not_eq_false', Bool.and_eq_false_imp,
    Option.isNone_eq_false_iff] at h
  obtain ⟨⟨hm, hf⟩, hb⟩ := h
  have hfg := feed_color_change (fun fg => { current with fg })
    (fun c => feed_foreground c _ shown) hf
  have hbg := feed_color_change (fun bg => { current with fg := next.fg, bg })
    (fun c => feed_background c _ shown) hb
  rw [additions, feed_append, feed_append]
  refine (congrArg (fun s => (feed s _).feed _) hfg).trans ?_
  refine (congrArg (feed · _) hbg).trans ?_
  rw [feed_modifiers, union_difference hm]

theorem needsReset_plain (style : Style) : needsReset .plain style = false := by
  simp [needsReset, Style.plain, Modifiers.difference, Modifiers.isEmpty]

/-- A transition takes the terminal to its style, wherever it comes from. -/
theorem feed_transition (current next : Style) (shown : List (Style × Char)) :
    feed { style := current, shown } (transition current next) = { style := next, shown } := by
  rw [transition]
  split
  · next heq => rw [heq, feed_nil]
  · split
    · rw [feed_append, feed_reset]
      exact feed_additions (needsReset_plain next) shown
    · next h => exact feed_additions (by simpa using h) shown

/-! ## Lines -/

open RichText (cells cells_runs)

/-- The runs are shown one after another, and the terminal has the style that is left. -/
theorem feed_encodeRuns {runs : List (Style × List Char)}
    (h : ∀ run ∈ runs, '\x1b' ∉ run.2) (current : Style) (shown : List (Style × Char)) :
    feed { style := current, shown } (encodeRuns current runs).1 =
      { style := (encodeRuns current runs).2, shown := shown ++ runs.flatMap cells } := by
  induction runs generalizing current shown with
  | nil => simp [encodeRuns]
  | cons run runs ih =>
    obtain ⟨style, text⟩ := run
    have hrest : ∀ run ∈ runs, '\x1b' ∉ run.2 := fun run hr => h run (List.mem_cons_of_mem _ hr)
    simp only [encodeRuns]
    rw [feed_append, feed_append, feed_transition, feed_text (h _ List.mem_cons_self),
      ih hrest, List.flatMap_cons, List.append_assoc]
    rfl

theorem snd_mem_of_mem_runs {line : RichText} {run : Style × List Char} (hr : run ∈ line.runs)
    {c : Char} (hc : c ∈ run.2) : c ∈ line.text := by
  have hcell : (run.1, c) ∈ line.styled := by
    rw [← cells_runs, List.mem_flatMap]
    exact ⟨run, hr, List.mem_map_of_mem hc⟩
  obtain ⟨⟨d, i⟩, hd, heq⟩ := List.mem_map.mp hcell
  obtain ⟨-, rfl⟩ := Prod.mk.inj heq
  exact (List.mem_zipIdx' hd).2 ▸ List.getElem_mem _

theorem eq_plain_of_isPlain {style : Style} (h : style.isPlain = true) : style = .plain := by
  obtain ⟨fg, bg, bold, italic, underline, blink, strikethrough⟩ := style
  simpa [Style.isPlain, Modifiers.isEmpty, Style.plain, and_assoc] using h

/-- A line shows each of its characters in its style, and leaves the terminal in the plain one. -/
theorem feed_encode {line : RichText} (h : '\x1b' ∉ line.text) (resetAfter : Bool)
    (shown : List (Style × Char)) :
    feed { shown } (encode line resetAfter) = { shown := shown ++ line.styled } := by
  have hruns : ∀ run ∈ line.runs, '\x1b' ∉ run.2 :=
    fun _ hr hc => h (snd_mem_of_mem_runs hr hc)
  have hbody := feed_encodeRuns hruns .plain shown
  rw [cells_runs] at hbody
  rw [encode, feed_append]
  refine (congrArg (feed · _) hbody).trans ?_
  split
  · rfl
  · next hp =>
    have hfinal : (encodeRuns .plain line.runs).2.isPlain = true := by
      simp only [Bool.or_eq_true, Bool.not_eq_true', not_or, Bool.not_eq_false] at hp
      exact hp.2
    rw [eq_plain_of_isPlain hfinal]
    rfl

end Screen

end Placard.Sgr

/-! ## What a program writes -/

namespace Placard.TerminalBuffer

open Sgr (encode Screen)

/-- A call that adds lines to a buffer. -/
inductive Write where
  | line (text : RichText) (resetAfter : Bool)
  | output (render : Output)

namespace Write

/-- The lines of a write, each with whether it asks for a reset. -/
def lines : Write → List (RichText × Bool)
  | .line text resetAfter => [(text, resetAfter)]
  | .output render => render.lines.map (·, render.styled)

def apply (buffer : TerminalBuffer) : Write → TerminalBuffer
  | .line text resetAfter => buffer.writeLine text resetAfter
  | .output render => buffer.writeOutput render

end Write

/-- What a line puts into a buffer with colors. -/
def sent : RichText × Bool → List Char
  | (line, resetAfter) => encode line resetAfter ++ ['\n']

/-- What a terminal should show of a line. -/
def seen : RichText × Bool → List (Style × Char)
  | (line, _) => line.styled ++ [(.plain, '\n')]

theorem writeLine_eq {buffer : TerminalBuffer} (h : buffer.colors = true) (line : RichText)
    (resetAfter : Bool) : buffer.writeLine line resetAfter =
      { buffer with data := buffer.data ++ sent (line, resetAfter) } := by
  rw [writeLine, if_pos h]
  rfl

theorem writeLines_eq {buffer : TerminalBuffer} (h : buffer.colors = true) (lines : List RichText)
    (resetAfter : Bool) : buffer.writeLines lines resetAfter =
      { buffer with data := buffer.data ++ (lines.map (·, resetAfter)).flatMap sent } := by
  induction lines generalizing buffer with
  | nil => simp [writeLines]
  | cons line lines ih =>
    have hrest := @ih (buffer.writeLine line resetAfter) h
    rw [writeLine_eq h, List.append_assoc] at hrest
    rw [writeLines, List.foldl_cons, writeLine_eq h, List.map_cons, List.flatMap_cons]
    exact hrest

theorem Write.apply_eq {buffer : TerminalBuffer} (h : buffer.colors = true) (write : Write) :
    write.apply buffer = { buffer with data := buffer.data ++ write.lines.flatMap sent } := by
  cases write with
  | line text resetAfter => simpa [lines, apply] using writeLine_eq h text resetAfter
  | output render => exact writeLines_eq h render.lines render.styled

/-- Writes add the lines one after another. -/
theorem foldl_apply_eq {buffer : TerminalBuffer} (h : buffer.colors = true) (writes : List Write) :
    writes.foldl Write.apply buffer =
      { buffer with data := buffer.data ++ (writes.flatMap Write.lines).flatMap sent } := by
  induction writes generalizing buffer with
  | nil => simp
  | cons write writes ih =>
    have hrest := @ih (write.apply buffer)
    rw [Write.apply_eq h] at hrest
    rw [List.foldl_cons, Write.apply_eq h, hrest h, List.flatMap_cons, List.flatMap_append,
      List.append_assoc]

/-- Each line is shown from the plain style, and leaves the plain style to the next one. -/
theorem feed_sent {lines : List (RichText × Bool)} (h : ∀ line ∈ lines, '\x1b' ∉ line.1.text)
    (shown : List (Style × Char)) :
    Screen.feed { shown } (lines.flatMap sent) = { shown := shown ++ lines.flatMap seen } := by
  induction lines generalizing shown with
  | nil => simp
  | cons line lines ih =>
    obtain ⟨line, resetAfter⟩ := line
    have hline : '\x1b' ∉ line.text := h _ List.mem_cons_self
    have hend : '\x1b' ∉ ['\n'] := by decide
    rw [List.flatMap_cons, Screen.feed_append, sent, Screen.feed_append, Screen.feed_encode hline,
      Screen.feed_text hend .plain, ih fun line hl => h line (List.mem_cons_of_mem _ hl)]
    simp [seen]

/-- A terminal shows every character of a line in the style of the line there and is in its own
style afterwards. So whatever is written to a buffer with colors, each line begins in that style
and shows as if it were alone. -/
theorem feed_writes :
    (∀ (line : RichText) (resetAfter : Bool), '\x1b' ∉ line.text →
      Screen.feed {} (encode line resetAfter) =
        { shown := line.text.zipIdx.map fun (c, i) => (line.styleAt i, c) }) ∧
    ∀ (buffer : TerminalBuffer) (writes : List Write), buffer.colors = true →
      (∀ line ∈ writes.flatMap Write.lines, '\x1b' ∉ line.1.text) →
      ∃ added, (writes.foldl Write.apply buffer).data = buffer.data ++ added ∧
        Screen.feed {} added = { shown := (writes.flatMap Write.lines).flatMap seen } ∧
        ∀ before line resetAfter after,
          writes.flatMap Write.lines = before ++ (line, resetAfter) :: after →
          ∃ start rest, added = start ++ (encode line resetAfter ++ '\n' :: rest) ∧
            Screen.feed {} start = { shown := before.flatMap seen } := by
  refine ⟨fun line resetAfter h => Screen.feed_encode h resetAfter [], ?_⟩
  intro buffer writes hcolors h
  refine ⟨(writes.flatMap Write.lines).flatMap sent, ?_, feed_sent h [], ?_⟩
  · rw [foldl_apply_eq hcolors]
  · intro before line resetAfter after heq
    refine ⟨before.flatMap sent, after.flatMap sent, ?_, ?_⟩
    · rw [heq, List.flatMap_append, List.flatMap_cons, sent, List.append_assoc]
      rfl
    · refine feed_sent (fun line hl => h line ?_) []
      rw [heq]
      exact List.mem_append_left _ hl

/-- Two styled lines of which the second begins plain, after a style that is left open. -/
theorem feed_two_lines :
    let red := Span.foreground ⟨255, 0, 0⟩
    let bold := Span.emphasis { bold := true }
    let first : RichText := .ofRanges "abc".toList [⟨red, 0, 2⟩, ⟨bold, 1, 3⟩]
    let second : RichText := .ofRanges "de".toList [⟨bold, 1, 2⟩]
    Screen.feed {} (encode first false) =
      { shown := [({ fg := some ⟨255, 0, 0⟩ }, 'a'),
        ({ fg := some ⟨255, 0, 0⟩, modifiers := { bold := true } }, 'b'),
        ({ modifiers := { bold := true } }, 'c')] } ∧
    ∃ added, ([Write.line first false, .output ⟨[second], [], false⟩].foldl Write.apply
        ({} : TerminalBuffer)).data = added ∧
      ∃ start rest, added = start ++ (encode second false ++ '\n' :: rest) ∧
        Screen.feed {} start = { shown := first.styled ++ [(.plain, '\n')] } := by
  intro red bold first second
  refine ⟨(feed_writes.1 first false (by decide +kernel)).trans (by decide +kernel), ?_⟩
  obtain ⟨added, hdata, -, hcut⟩ :=
    feed_writes.2 {} [.line first false, .output ⟨[second], [], false⟩] rfl (by decide +kernel)
  obtain ⟨start, rest, hadded, hstart⟩ := hcut [(first, false)] second false [] rfl
  exact ⟨added, hdata, start, rest, hadded, hstart.trans (by simp [seen])⟩

end Placard.TerminalBuffer
