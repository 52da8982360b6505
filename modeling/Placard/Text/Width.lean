import Placard.Text.Width.Property

/-!
The number of terminal columns that a text takes. Widths are not simply added up: a character
may join what stands to its right, so the text is read from right to left, and `Ahead` says
what stands there.
-/

namespace Placard.Text

/-- What a character finds to its right, as far as it matters to its width. The scripts'
ligatures come last; `joined` says that a zero width joiner stands before the letter. -/
inductive Ahead where
  | plain
  | lineFeed
  | modifier
  | regional
  | regionals
  | emoji
  | joinedEmoji
  | joinedKeycap
  | joinedRegional
  | joinedEven
  | joinedOdd
  | flagTags (letters digits : Nat)
  | alef
  | lamed (joined : Bool)
  | ya (joined : Bool)
  | vowelSignYa
  | tifinagh (joined : Bool)
  | tifinaghJoiner
  | lisuTone
  | orkhonI (joined : Bool)
  | coengLetter
  | kiratVowel
  deriving DecidableEq

namespace Ahead

/-- Default ignorable marks do not come between the parts of these ligatures. -/
def skipsMarks : Ahead → Bool
  | lamed _ | ya _ | vowelSignYa | tifinagh _ | tifinaghJoiner | lisuTone | orkhonI _
  | coengLetter | kiratVowel => true
  | _ => false

/-- A zero width joiner stands before the letter. -/
def join : Ahead → Ahead
  | lamed _ => lamed true
  | ya _ => ya true
  | tifinagh _ => tifinagh true
  | orkhonI _ => orkhonI true
  | a => a

/-- A variation selector may stand inside what this ends. -/
def keepsSelector : Ahead → Bool
  | joinedEmoji | joinedKeycap => true
  | a => a.skipsMarks || a = alef

/-- An emoji before this is joined to the one after it. -/
def isJoined : Ahead → Bool
  | joinedEmoji | joinedKeycap => true
  | _ => false

end Ahead

/-- A variation selector that the character before it has to answer. -/
inductive Selector where
  | emojiStyle
  | textStyle
  | fullWidth
  deriving DecidableEq

/-- The state of the walk from right to left. -/
structure RightContext where
  ahead : Ahead := .plain
  selector : Option Selector := none

/-- Marks, ignorable characters and the later parts of a syllable take no column. -/
def isZeroWidth (c : Char) : Bool :=
  c != '\u115F' && c != '\u2D7F' &&
    (inRanges defaultIgnorable c || inRanges graphemeExtend c
      || inRanges [(0x1160, 0x11FF), (0xD7B0, 0xD7C6), (0xD7CB, 0xD7FB)] c
      || inRanges [(0x0605, 0x0605), (0x070F, 0x070F), (0x0890, 0x0891), (0x08E2, 0x08E2)] c
      || inRanges graphemePrepend c
          && !inRanges [(0x0600, 0x0605), (0x06DD, 0x06DD), (0x110BD, 0x110BD), (0x110CD, 0x110CD)] c
      || c = '\uA8FA')

/-- Columns of a character on its own. -/
def charWidth (c : Char) : Int :=
  if c.toNat ≤ 0xA0 then 1
  else if isZeroWidth c then 0
  else if c = '\u17D8' then 3
  else if c = '\u17A4' || inRanges wide c then 2
  else 1

def isTifinagh (c : Char) : Bool := inRanges [(0x2D31, 0x2D65), (0x2D6F, 0x2D6F)] c

def isTagLetter (c : Char) : Bool := inRanges [(0xE0061, 0xE007A)] c

def isTagDigit (c : Char) : Bool := inRanges [(0xE0030, 0xE0039)] c

def isRegional (c : Char) : Bool := inRanges regionalIndicators c

/-- Letters that a following alef is drawn into. -/
def isLam (c : Char) : Bool :=
  inRanges [(0x0644, 0x0644), (0x06B5, 0x06B8), (0x076A, 0x076A), (0x08A6, 0x08A6), (0x08C7, 0x08C7)] c

def isAlef (c : Char) : Bool :=
  inRanges [(0x0622, 0x0623), (0x0625, 0x0625), (0x0627, 0x0627), (0x0671, 0x0673),
    (0x0675, 0x0675), (0x0773, 0x0774), (0x0870, 0x0882)] c

def isCoengLetter (c : Char) : Bool :=
  inRanges [(0x1780, 0x1782), (0x1784, 0x1787), (0x1789, 0x178C), (0x178E, 0x1793),
    (0x1795, 0x1798), (0x179B, 0x179D), (0x17A0, 0x17A0), (0x17A2, 0x17A2), (0x17A7, 0x17A7),
    (0x17AB, 0x17AC), (0x17AF, 0x17AF)] c

/-- Marks that may stand inside a ligature without a trace. -/
def isLigatureMark (c : Char) : Bool :=
  inRanges [(0x034F, 0x034F), (0x17B4, 0x17B5), (0x180B, 0x180D), (0x180F, 0x180F),
    (0xFE00, 0xFE0F), (0xE0100, 0xE01EF)] c

def isCurlyQuote (c : Char) : Bool := c ∈ ['\u2018', '\u2019', '\u201C', '\u201D']

/-- What a character that joins nothing is to the one before it. -/
def RightContext.ofChar (c : Char) : RightContext :=
  if c = '\uFE0F' then ⟨.plain, some .emojiStyle⟩
  else if c = '\uFE0E' then ⟨.plain, some .textStyle⟩
  else if c = '\uFE01' then ⟨.plain, some .fullWidth⟩
  else if inRanges emojiModifiers c then ⟨.modifier, none⟩
  else if isRegional c then ⟨.regional, none⟩
  else if inRanges emojiPresentation c then ⟨.emoji, none⟩
  else if isAlef c then ⟨.alef, none⟩
  else if c = '\u05DC' then ⟨.lamed false, none⟩
  else if c = '\u1A10' then ⟨.ya false, none⟩
  else if isTifinagh c then ⟨.tifinagh false, none⟩
  else if c = '\uA4FC' || c = '\uA4FD' then ⟨.lisuTone, none⟩
  else if c.toNat = 0x10C03 then ⟨.orkhonI false, none⟩
  else if isCoengLetter c then ⟨.coengLetter, none⟩
  else if c.toNat = 0x16D67 || c.toNat = 0x16D68 then ⟨.kiratVowel, none⟩
  else {}

/-- Columns that `c` adds by joining what stands to its right, and what it then is to the
character before it; `none` if it joins nothing there. -/
def joinAhead (c : Char) : Ahead → Option (Int × Ahead)
  | .alef =>
    if isLam c then some (0, .plain)
    else if isZeroWidth c && !inRanges boundZeroWidth c then some (0, .alef)
    else none
  | .lamed true => if c = '\u05D0' then some (0, .plain) else none
  | .coengLetter => if c = '\u17D2' then some (-1, .plain) else none
  | .ya true => if c = '\u1A17' then some (0, .vowelSignYa) else none
  | .vowelSignYa => if c = '\u1A15' then some (0, .plain) else none
  | .tifinagh joined =>
    if c = '\u2D7F' then some (1, .tifinaghJoiner)
    else if joined && isTifinagh c then some (0, .plain)
    else none
  | .tifinaghJoiner => if isTifinagh c then some (-1, .plain) else none
  | .lisuTone => if inRanges [(0xA4F8, 0xA4FB)] c then some (0, .plain) else none
  | .orkhonI true => if c.toNat = 0x10C32 then some (0, .plain) else none
  | .kiratVowel =>
    if c.toNat = 0x16D63 || c.toNat = 0x16D69 then some (0, .plain)
    else if c.toNat = 0x16D67 then some (0, .kiratVowel)
    else if c.toNat = 0x16D68 then some (1, .kiratVowel)
    else none
  | .modifier =>
    if inRanges modifierBase c then some (0, .emoji)
    else if c = '\u200D' then some (0, .joinedEmoji)
    else none
  | .regional => if isRegional c then some (1, .regionals) else none
  | .regionals =>
    if isRegional c then some (1, .regionals)
    else if c = '\u200D' then some (0, .joinedEmoji)
    else none
  | .emoji => if c = '\u200D' then some (0, .joinedEmoji) else none
  | .joinedEmoji =>
    if c = '\u20E3' then some (0, .joinedKeycap)
    else if isRegional c then some (1, .joinedRegional)
    else if inRanges emojiModifiers c then some (0, .modifier)
    else if c.toNat = 0xE007F then some (0, .flagTags 0 0)
    else if inRanges emojiPresentation c then some (0, .emoji)
    else none
  | .joinedRegional => if isRegional c then some (-1, .joinedEven) else none
  | .joinedOdd =>
    if isRegional c then some (-1, .joinedEven)
    else if c = '\u200D' then some (0, .joinedEmoji)
    else none
  | .joinedEven =>
    if isRegional c then some (3, .joinedOdd)
    else if c = '\u200D' then some (0, .joinedEmoji)
    else none
  | .flagTags letters digits =>
    if isTagLetter c && digits = 0 && letters < 6 then some (0, .flagTags (letters + 1) 0)
    else if isTagDigit c && letters < 5 && digits < 3 then some (0, .flagTags letters (digits + 1))
    else if c.toNat = 0x1F3F4 && (digits = 3 || digits = 0 && 3 ≤ letters) then some (0, .emoji)
    else none
  | _ => none

/-- The character on its own, next to what it cannot join. -/
def stepAlone (c : Char) (ahead : Ahead) : Int × RightContext :=
  if ahead.skipsMarks && c = '\u200D' then (0, ⟨ahead.join, none⟩)
  else if ahead.skipsMarks && isLigatureMark c then (0, ⟨ahead, none⟩)
  else match joinAhead c ahead with
    | some (width, ahead) => (width, ⟨ahead, none⟩)
    | none => (charWidth c, .ofChar c)

/-- A character above the Latin blanks, next to a variation selector that did not make an emoji
of it. -/
def stepStyled (c : Char) (right : RightContext) : Int × RightContext :=
  let selected (s : Selector) : RightContext :=
    if right.ahead.keepsSelector then ⟨right.ahead, some s⟩ else ⟨.plain, some s⟩
  if c = '\uFE0F' then (0, selected .emojiStyle)
  else if c = '\uFE0E' then (0, selected .textStyle)
  else if c = '\uFE01' then (0, selected .fullWidth)
  else match right.selector with
    | some .textStyle => if inRanges textStyleEmoji c then (1, {}) else stepAlone c right.ahead
    | some .fullWidth => if isCurlyQuote c then (2, {}) else stepAlone c right.ahead
    | _ => stepAlone c right.ahead

/-- Columns that `c` adds to the text at its right. -/
def stepWidth (c : Char) (right : RightContext) : Int × RightContext :=
  if right.selector = some .emojiStyle
      && (inRanges narrowEmoji c || inRanges emojiPresentation c) then
    (if right.ahead.isJoined then 0 else 2, ⟨.emoji, none⟩)
  else if c.toNat ≤ 0xA0 then
    if c = '\n' then (1, ⟨.lineFeed, none⟩)
    else if c = '\r' && right.ahead = .lineFeed then (0, {})
    else (1, {})
  else stepStyled c right

/-- The width of a text in columns, with what its left neighbour would find. -/
def widthFrom : List Char → Int × RightContext
  | [] => (0, {})
  | c :: cs =>
    let (width, right) := widthFrom cs
    let (added, right) := stepWidth c right
    (width + added, right)

/-- The width of a text in terminal columns. -/
def width (cs : List Char) : Nat := (widthFrom cs).1.toNat

end Placard.Text
