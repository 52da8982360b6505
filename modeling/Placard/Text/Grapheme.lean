import Placard.Text.Grapheme.Property

/-!
Glyphs: the extended grapheme clusters of a text, cut from left to right. A cut depends only on
what stands before it and on the next character.
-/

namespace Placard.Text

/-- What a character is to the rules that keep two neighbours in one glyph. -/
inductive GlyphClass where
  | other | carriageReturn | lineFeed | control | extend | joiner | regional | prepend
  | spacing | leading | vowel | trailing | leadingVowel | leadingVowelTrailing
  deriving DecidableEq

/-- Hangul syllables that end in a vowel come every 28th, the ones with a final between them. -/
def GlyphClass.ofHangul (c : Char) : Option GlyphClass :=
  if inRanges [(0x1100, 0x115F), (0xA960, 0xA97C)] c then some .leading
  else if inRanges [(0x1160, 0x11A7), (0xD7B0, 0xD7C6), (0x16D63, 0x16D63), (0x16D67, 0x16D6A)] c then
    some .vowel
  else if inRanges [(0x11A8, 0x11FF), (0xD7CB, 0xD7FB)] c then some .trailing
  else if inRanges [(0xAC00, 0xD7A3)] c then
    if (c.toNat - 0xAC00) % 28 = 0 then some .leadingVowel else some .leadingVowelTrailing
  else none

def GlyphClass.ofChar (c : Char) : GlyphClass :=
  if c = '\r' then .carriageReturn
  else if c = '\n' then .lineFeed
  else if inRanges graphemeControl c then .control
  else if c = '\u200D' then .joiner
  else if inRanges regionalIndicators c then .regional
  else if inRanges graphemePrepend c then .prepend
  else if inRanges graphemeExtend c || inRanges emojiModifiers c then .extend
  else if inRanges spacingMark c then .spacing
  else (GlyphClass.ofHangul c).getD .other

/-- A break always stands on both sides of these, a line end of two characters apart. -/
def GlyphClass.isControl : GlyphClass → Bool
  | .carriageReturn | .lineFeed | .control => true
  | _ => false

/-- How far an emoji sequence has come: a pictograph, then the joiner after it. -/
inductive PictographState where
  | absent | pictograph | joined
  deriving DecidableEq

/-- How far a conjunct has come: a consonant, then a virama after it. -/
inductive ConjunctState where
  | absent | consonant | linked
  deriving DecidableEq

/-- What the characters so far decide about the cut before the next one. -/
structure GlyphState where
  last : GlyphClass
  /-- An odd number of regional indicators stands last. -/
  oddRegional : Bool
  pictograph : PictographState
  conjunct : ConjunctState

namespace GlyphState

def isPictograph (c : Char) : Bool := inRanges extendedPictographic c

def isConsonant (c : Char) : Bool := inRanges conjunctConsonant c

/-- The state after a glyph's first character. -/
def start (c : Char) : GlyphState where
  last := .ofChar c
  oddRegional := GlyphClass.ofChar c = .regional
  pictograph := if isPictograph c then .pictograph else .absent
  conjunct := if isConsonant c then .consonant else .absent

/-- The state after one more character of the same glyph. -/
def extend (s : GlyphState) (c : Char) : GlyphState where
  last := .ofChar c
  oddRegional := GlyphClass.ofChar c = .regional && !s.oddRegional
  pictograph :=
    if isPictograph c then .pictograph
    else match s.pictograph, GlyphClass.ofChar c with
      | .pictograph, .extend => .pictograph
      | .pictograph, .joiner => .joined
      | _, _ => .absent
  conjunct :=
    if isConsonant c then .consonant
    else if s.conjunct = .absent then .absent
    else if inRanges conjunctLinker c then .linked
    else match GlyphClass.ofChar c with
      | .joiner => s.conjunct
      | .extend => if c = '\u200C' then .absent else s.conjunct
      | _ => .absent

/-- No cut stands before `c`. -/
def joins (s : GlyphState) (c : Char) : Bool :=
  match s.last, GlyphClass.ofChar c with
  | .carriageReturn, .lineFeed => true
  | last, next =>
    if last.isControl || next.isControl then false
    else match last, next with
      | .leading, .leading | .leading, .vowel | .leading, .leadingVowel
      | .leading, .leadingVowelTrailing => true
      | .leadingVowel, .vowel | .leadingVowel, .trailing | .vowel, .vowel | .vowel, .trailing => true
      | .leadingVowelTrailing, .trailing | .trailing, .trailing => true
      | _, .extend | _, .joiner | _, .spacing | .prepend, _ => true
      | .joiner, _ =>
        s.pictograph = .joined && isPictograph c || s.conjunct = .linked && isConsonant c
      | .regional, .regional => s.oddRegional
      | _, _ => s.conjunct = .linked && isConsonant c

end GlyphState

/-- The glyph under way, last character first, is closed where a cut stands. -/
def clustersFrom (s : GlyphState) (open_ : List Char) : List Char → List (List Char)
  | [] => [open_.reverse]
  | c :: cs =>
    if s.joins c then clustersFrom (s.extend c) (c :: open_) cs
    else open_.reverse :: clustersFrom (.start c) [c] cs

/-- The glyphs of a text, in order. -/
def clusters : List Char → List (List Char)
  | [] => []
  | c :: cs => clustersFrom (.start c) [c] cs

/-- The number of user-perceived characters. -/
def glyphCount (cs : List Char) : Nat := (clusters cs).length

end Placard.Text
