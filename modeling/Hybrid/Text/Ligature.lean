import Hybrid.Text.CharClass

/-! # Ligatures of letters

Some scripts draw certain neighbouring letters as one sign, so that together they take the columns
of a single letter. A text is measured from its end: the later part of such a sign is met first and
opens a `Ligature`, which an earlier part may complete.
-/

namespace Hybrid.Text

/-- The Arabic letters of the joining group alef. -/
def alefs : CharClass where
  ranges := [
    (0x0622, 0x0623), (0x0625, 0x0625), (0x0627, 0x0627), (0x0671, 0x0673), (0x0675, 0x0675),
    (0x0773, 0x0774), (0x0870, 0x0882)]

/-- The Arabic letters of the joining group lam. -/
def lams : CharClass where
  ranges := [
    (0x0644, 0x0644), (0x06B5, 0x06B8), (0x076A, 0x076A), (0x08A6, 0x08A6), (0x08C7, 0x08C7)]

/-- The characters without a column that keep the Arabic letters beside them from joining. -/
def joinBreakers : CharClass where
  ranges := [
    (0x0605, 0x0605), (0x0890, 0x0891), (0x08E2, 0x08E2), (0x09BE, 0x09BE), (0x09D7, 0x09D7),
    (0x0B3E, 0x0B3E), (0x0B57, 0x0B57), (0x0BBE, 0x0BBE), (0x0BD7, 0x0BD7), (0x0CC0, 0x0CC0),
    (0x0CC2, 0x0CC2), (0x0CC7, 0x0CC8), (0x0CCA, 0x0CCB), (0x0CD5, 0x0CD6), (0x0D3E, 0x0D3E),
    (0x0D4E, 0x0D4E), (0x0D57, 0x0D57), (0x0DCF, 0x0DCF), (0x0DDF, 0x0DDF), (0x1160, 0x11FF),
    (0x1715, 0x1715), (0x1734, 0x1734), (0x180E, 0x180E), (0x1B35, 0x1B35), (0x1B3B, 0x1B3B),
    (0x1B3D, 0x1B3D), (0x1B43, 0x1B44), (0x1BAA, 0x1BAA), (0x1BF2, 0x1BF3), (0x200C, 0x200D),
    (0x2065, 0x2069), (0x302E, 0x302F), (0x3164, 0x3164), (0xA8FA, 0xA8FA), (0xA953, 0xA953),
    (0xA9C0, 0xA9C0), (0xD7B0, 0xD7C6), (0xD7CB, 0xD7FB), (0xFFA0, 0xFFA0), (0xFFF0, 0xFFF8),
    (0x111C0, 0x111C0), (0x111C2, 0x111C3), (0x11235, 0x11235), (0x1133E, 0x1133E),
    (0x1134D, 0x1134D), (0x11357, 0x11357), (0x113B8, 0x113B8), (0x113C2, 0x113C2),
    (0x113C5, 0x113C5), (0x113C7, 0x113C9), (0x113CF, 0x113CF), (0x113D1, 0x113D1),
    (0x114B0, 0x114B0), (0x114BD, 0x114BD), (0x115AF, 0x115AF), (0x116B6, 0x116B6),
    (0x11930, 0x11930), (0x1193D, 0x1193D), (0x1193F, 0x1193F), (0x11941, 0x11941),
    (0x11A84, 0x11A89), (0x11D46, 0x11D46), (0x11F02, 0x11F02), (0x11F41, 0x11F41),
    (0x16FF0, 0x16FF1), (0x1D165, 0x1D166), (0x1D16D, 0x1D172), (0xE0000, 0xE0000),
    (0xE0002, 0xE001F), (0xE0080, 0xE00FF), (0xE01F0, 0xE0FFF)]

/-- The Khmer letters that are drawn below the line after the sign coeng. -/
def coengLetters : CharClass where
  ranges := [
    (0x1780, 0x1782), (0x1784, 0x1787), (0x1789, 0x178C), (0x178E, 0x1793), (0x1795, 0x1798),
    (0x179B, 0x179D), (0x17A0, 0x17A0), (0x17A2, 0x17A2), (0x17A7, 0x17A7), (0x17AB, 0x17AC),
    (0x17AF, 0x17AF)]

/-- The Tifinagh letters that form signs of two consonants. -/
def tifinaghConsonants : CharClass where
  ranges := [
    (0x2D31, 0x2D65), (0x2D6F, 0x2D6F)]

/-- The invisible characters that may stand between the parts of a ligature. -/
def bridges : CharClass where
  ranges := [
    (0x034F, 0x034F), (0x17B4, 0x17B5), (0x180B, 0x180D), (0x180F, 0x180F), (0x200D, 0x200D),
    (0xFE00, 0xFE0F), (0xE0100, 0xE01EF)]

/-- A ligature whose later part is read. -/
inductive Ligature where
  /-- An alef, before which a lam takes no column. -/
  | alef
  /-- A Hebrew lamed, to which a joiner ties an alef. -/
  | lamed
  /-- A Khmer letter that a coeng before it moves below the line. -/
  | coengLetter
  /-- A Buginese ya, to which a joiner ties the vowel sign i. -/
  | ya
  /-- A Buginese ya with its vowel sign, which complete the letter a. -/
  | yaWithVowel
  /-- A Tifinagh consonant, to which a joiner ties another one. -/
  | tifinagh
  /-- A Tifinagh consonant after the consonant joiner. -/
  | tifinaghJoined
  /-- A Lisu tone that completes another tone. -/
  | lisuTone
  /-- An Old Turkic i, to which a joiner ties the letter ec. -/
  | orkhonI
deriving DecidableEq

/-- The ligature that a character may be the later part of. -/
def Ligature.ofChar? (c : Char) : Option Ligature :=
  if alefs.contains c then some .alef
  else if c.toNat = 0x05DC then some .lamed
  else if coengLetters.contains c then some .coengLetter
  else if c.toNat = 0x1A10 then some .ya
  else if tifinaghConsonants.contains c then some .tifinagh
  else if c.toNat = 0xA4FC ∨ c.toNat = 0xA4FD then some .lisuTone
  else if c.toNat = 0x10C03 then some .orkhonI
  else none

end Hybrid.Text
