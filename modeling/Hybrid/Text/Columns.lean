import Hybrid.Text.Advance
import Hybrid.Text.Emoji
import Hybrid.Text.Ligature

/-! # The width of a text in columns

How far a text moves the cursor of a fixed-pitch display. A text of ASCII characters takes one
column a character, control characters included. In any other text a carriage return before a line
feed takes none, and characters that are drawn as one sign are counted together: emoji sequences
take two columns, and the ligatures of `Hybrid.Text.Ligature` those of one letter.

What a character takes depends only on the characters after it, so a text is measured from its end:
`Context` holds what the rest of the text says about the character before it, and `measure` adds one
character to the front.
-/

namespace Hybrid.Text

/-- What is read of an emoji to the left of a joiner that ties it to an emoji on the right. -/
inductive Joint where
  /-- Nothing but the joiner. -/
  | joiner
  /-- The frame of a keycap. -/
  | keycap
  /-- A number of regional indicators. -/
  | indicators (count : Nat)
  /-- The end of a tag sequence, after a number of letters. -/
  | letters (count : Nat)
  /-- The end of a tag sequence and its letters, after a number of digits. -/
  | digits (count : Nat)
deriving DecidableEq

/-- What follows a character, as far as its columns depend on it. -/
inductive Tail where
  | plain
  | lineFeed
  /-- The later part of a ligature, with a joiner before it or without. -/
  | ligature (part : Ligature) (joined : Bool)
  /-- The Kirat Rai vowel sign e, which combines with the vowel signs before it. -/
  | vowelE
  /-- The Kirat Rai vowel sign ai. -/
  | vowelAi
  /-- A regional indicator without a partner. -/
  | indicator
  /-- Several regional indicators. -/
  | indicators
  /-- An emoji modifier. -/
  | skinTone
  /-- An emoji. -/
  | emoji
  /-- A joiner before an emoji, and what is read to the left of the joiner. -/
  | tied (joint : Joint)
deriving DecidableEq

/-- The form that a variation selector asks of the character before it. -/
inductive Selector where
  | emoji
  | text
  | fullwidth
deriving DecidableEq

/-- What the rest of a text says about the character before it: what follows, and the variation
selectors that stand between, the nearest first. -/
structure Context where
  tail : Tail
  selectors : List Selector
deriving DecidableEq

namespace Context

/-- A tail without a selector before it. -/
def ofTail (tail : Tail) : Context := ⟨tail, []⟩

/-- The end of a text. -/
def plain : Context := .ofTail .plain

end Context

namespace Tail

/-- What a character is to the one before it. -/
def ofChar (c : Char) : Tail :=
  if c = '\n' then .lineFeed
  else if c.toNat ≤ 0xA0 then .plain
  else if c.toNat = 0x16D67 then .vowelE
  else if c.toNat = 0x16D68 then .vowelAi
  else if regionalIndicators.contains c then .indicator
  else if skinTones.contains c then .skinTone
  else if shownAsEmoji.contains c then .emoji
  else
    match Ligature.ofChar? c with
    | some part => .ligature part false
    | none => .plain

/-- Whether the tail is the later part of a ligature; a variation selector before it does not keep
the parts apart. -/
def isLigature : Tail → Bool
  | .ligature _ _ => true
  | _ => false

/-- What is left of a tail once a variation selector stands before it. The selector of emoji also
leaves a joiner in place, which may then tie the emoji it selects. -/
def behindSelector (selector : Selector) (tail : Tail) : Tail :=
  match selector, tail with
  | .emoji, .tied .joiner => .tied .joiner
  | .emoji, .tied .keycap => .tied .keycap
  | _, tail => if tail.isLigature then tail else .plain

end Tail

/-- The selector that a character is. -/
def Selector.ofChar? (c : Char) : Option Selector :=
  if c.toNat = 0xFE0F then some .emoji
  else if c.toNat = 0xFE0E then some .text
  else if c.toNat = 0xFE01 then some .fullwidth
  else none

/-- Whether `c` is the zero-width joiner. -/
def isJoiner (c : Char) : Bool := c.toNat = 0x200D

/-- Whether `c` is one of the four quotation marks that have a fullwidth form. -/
def isQuotationMark (c : Char) : Bool :=
  c = '‘' || c = '’' || c = '“' || c = '”'

/-- A character before the later part of a ligature: the columns it adds and the tail it leaves, if
it joins the ligature or may stand within it. -/
def Ligature.extend? (part : Ligature) (joined : Bool) (c : Char) : Option (Int × Tail) :=
  if part ≠ .alef ∧ isJoiner c then some (0, .ligature part true)
  else if part ≠ .alef ∧ bridges.contains c then some (0, .ligature part joined)
  else
    match part with
    | .alef =>
      if lams.contains c then some (0, .plain)
      else if weightless.contains c && !joinBreakers.contains c then
        some (0, .ligature .alef joined)
      else none
    | .lamed => if joined ∧ c.toNat = 0x05D0 then some (0, .plain) else none
    | .coengLetter => if c.toNat = 0x17D2 then some (-1, .plain) else none
    | .ya => if joined ∧ c.toNat = 0x1A17 then some (0, .ligature .yaWithVowel false) else none
    | .yaWithVowel => if c.toNat = 0x1A15 then some (0, .plain) else none
    | .tifinagh =>
      if c.toNat = 0x2D7F then some (1, .ligature .tifinaghJoined false)
      else if joined ∧ tifinaghConsonants.contains c then some (0, .plain)
      else none
    | .tifinaghJoined => if tifinaghConsonants.contains c then some (-1, .plain) else none
    | .lisuTone => if 0xA4F8 ≤ c.toNat ∧ c.toNat ≤ 0xA4FB then some (0, .plain) else none
    | .orkhonI => if joined ∧ c.toNat = 0x10C32 then some (0, .plain) else none

/-- A character to the left of a joiner before an emoji: the columns it adds and the tail it leaves,
if it may be part of an emoji. Flags take two columns, but one that is tied to the emoji takes none,
and only the next character shows which of a row of indicators belong together. -/
def Joint.extend? (joint : Joint) (c : Char) : Option (Int × Tail) :=
  match joint with
  | .joiner =>
    if c.toNat = 0x20E3 then some (0, .tied .keycap)
    else if regionalIndicators.contains c then some (1, .tied (.indicators 1))
    else if skinTones.contains c then some (0, .skinTone)
    else if c.toNat = 0xE007F then some (0, .tied (.letters 0))
    else if shownAsEmoji.contains c then some (0, .emoji)
    else none
  | .keycap => none
  | .indicators count =>
    if regionalIndicators.contains c then
      some (if count % 2 = 1 then -1 else 3, .tied (.indicators (count + 1)))
    else if isJoiner c ∧ 2 ≤ count then some (0, .tied .joiner)
    else none
  | .letters count =>
    if tagLetters.contains c ∧ count < 6 then some (0, .tied (.letters (count + 1)))
    else if tagDigits.contains c ∧ count ≤ 4 then some (0, .tied (.digits 1))
    else if c.toNat = 0x1F3F4 ∧ 3 ≤ count then some (0, .emoji)
    else none
  | .digits count =>
    if tagDigits.contains c ∧ count < 3 then some (0, .tied (.digits (count + 1)))
    else if c.toNat = 0x1F3F4 ∧ count = 3 then some (0, .emoji)
    else none

/-- A character before a tail: the columns it adds and the tail it leaves, if they are drawn
together. -/
def Tail.extend? (tail : Tail) (c : Char) : Option (Int × Tail) :=
  match tail with
  | .plain => none
  | .lineFeed => if c = '\r' then some (0, .plain) else none
  | .ligature part joined => part.extend? joined c
  | .vowelE =>
    if c.toNat = 0x16D63 ∨ c.toNat = 0x16D69 then some (0, .plain)
    else if c.toNat = 0x16D67 then some (0, .vowelAi)
    else if c.toNat = 0x16D68 then some (1, .vowelE)
    else none
  | .vowelAi => if c.toNat = 0x16D63 then some (0, .plain) else none
  | .indicator => if regionalIndicators.contains c then some (1, .indicators) else none
  | .indicators =>
    if regionalIndicators.contains c then some (1, .indicators)
    else if isJoiner c then some (0, .tied .joiner)
    else none
  | .skinTone =>
    if takesSkinTone.contains c then some (0, .emoji)
    else if isJoiner c then some (0, .tied .joiner)
    else none
  | .emoji => if isJoiner c then some (0, .tied .joiner) else none
  | .tied joint => joint.extend? c

/-- A character that a selector before a tail applies to: the columns it takes and the tail it
leaves. -/
def Selector.select? (selector : Selector) (tail : Tail) (c : Char) : Option (Int × Tail) :=
  match selector with
  | .emoji =>
    if takesSelector.contains c then
      some (if tail = .tied .joiner ∨ tail = .tied .keycap then 0 else 2, .emoji)
    else none
  | .text => if narrowedAsText.contains c then some (1, .plain) else none
  | .fullwidth => if isQuotationMark c then some (2, .plain) else none

/-- A character that one of the selectors of the context applies to, the nearest first: the columns
it takes and the tail it leaves. -/
def Context.select? (context : Context) (c : Char) : Option (Int × Tail) :=
  context.selectors.findSome? (·.select? context.tail c)

/-- The tail of a context whose selectors have met a character that none of them applies to. -/
def Context.settledTail (context : Context) : Tail :=
  if context.selectors.isEmpty || context.tail.isLigature then context.tail else .plain

/-- The context behind one more selector. Before a ligature the other selectors stay in force, but
for that of emoji, which concerns only the character right before it; elsewhere the new selector
takes their place. -/
def Context.behindSelector (context : Context) (selector : Selector) : Context :=
  let tail := context.settledTail
  let others :=
    if tail.isLigature then
      context.selectors.filter fun other => other ≠ .emoji && other ≠ selector
    else []
  ⟨tail.behindSelector selector, selector :: others⟩

/-- A character before a context: the columns it adds and the context it leaves. The letters and
signs of ASCII and the controls beside them join nothing but a line feed. -/
def Context.measure (c : Char) (context : Context) : Int × Context :=
  match context.select? c with
  | some (columns, tail) => (columns, .ofTail tail)
  | none =>
    match Selector.ofChar? c with
    | some selector => (0, context.behindSelector selector)
    | none =>
      match context.settledTail.extend? c with
      | some (columns, tail) => (columns, .ofTail tail)
      | none => (charColumns c, .ofTail (.ofChar c))

/-- The columns of the characters of a text, and what they say about a character before them. -/
def measured (text : List Char) : Int × Context :=
  text.foldr (fun c (columns, context) =>
    let (added, context) := context.measure c
    (columns + added, context)) (0, .plain)

/-- The columns of a text. -/
def columns (text : String) : Nat :=
  if text.toList.all fun c => c.toNat < 0x80 then text.length
  else (measured text.toList).1.toNat

end Hybrid.Text
