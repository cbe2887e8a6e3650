import PageSketch.Text.Composed
import PageSketch.Text.Composed.Tables
import PageSketch.Text.Property
import PageSketch.Text.Quoted
import PageSketch.Web.Domain.Mapping
import PageSketch.Web.Punycode

/-!
# Domains

A domain is labels with points between them. It is known by its ASCII form, in which a label with
other characters is written in Punycode behind a mark. `canonical?` gives that form: what is written
in different ways but is the same has the same form, and what no domain may be has none.

Letters are written from left to right or from right to left, numbers and signs go with them. Once
a domain has anything that is written from right to left, every label has to begin with a letter
that shows its direction, keep to that direction, and end in a letter or a number. Two characters that
cannot be seen say that letters are to be joined, or not to be. They may only stand where that makes a
difference: behind a mark that takes the vowel from its letter, or, to keep letters apart, between
letters that would be joined otherwise.
-/

namespace PageSketch.Web.Domain

open Text (combiningClass inRanges isNonspacingMark)

/-! ## Directions -/

/-- How a character is written. -/
inductive Direction where
  | leftToRight
  | rightToLeft
  /-- The digits of Arabic, which stand in text from right to left only. -/
  | arabicNumber
  | number
  /-- A mark, which goes with the character before it. -/
  | mark
  /-- A sign without a direction. -/
  | neutral
deriving DecidableEq, Repr

/-- The letters that are written from right to left. -/
def rightToLeftRanges : List (Nat × Nat) :=
  [(0x5BE, 0x5F4), (0x608, 0x608), (0x60B, 0x60B), (0x60D, 0x60D), (0x61B, 0x64A), (0x66D, 0x6D5),
   (0x6E5, 0x6E6), (0x6EE, 0x6EF), (0x6FA, 0x7F5), (0x7FA, 0x8C9), (0xFBB2, 0xFBC2),
   (0xFE73, 0xFE73), (0x10800, 0x1091B), (0x10920, 0x10B35), (0x10B40, 0x10D23),
   (0x10D40, 0x10D4F), (0x10D6F, 0x10D85), (0x10E80, 0x10EC7), (0x10F00, 0x10FF6),
   (0x1E800, 0x1ED3D)]

/-- The digits and signs of Arabic numbers. -/
def arabicNumberRanges : List (Nat × Nat) :=
  [(0x660, 0x669), (0x66B, 0x66C), (0x10D30, 0x10D39), (0x10E60, 0x10E7E)]

/-- The digits of numbers in text of both directions. -/
def numberRanges : List (Nat × Nat) :=
  [(0x30, 0x39), (0x6F0, 0x6F9), (0x102E1, 0x102FB)]

/-- The signs without a direction. -/
def neutralRanges : List (Nat × Nat) :=
  [(0x0, 0x2F), (0x3A, 0x60), (0x7B, 0xD7), (0xF7, 0xF7), (0x2B9, 0x2BA), (0x2C2, 0x2CF),
   (0x2D2, 0x2ED), (0x2EF, 0x2FF), (0x375, 0x375), (0x3F6, 0x3F6), (0x58A, 0x58F), (0x606, 0x607),
   (0x609, 0x60A), (0x60C, 0x60C), (0x60E, 0x60F), (0x66A, 0x66A), (0x6DE, 0x6DE), (0x6E9, 0x6E9),
   (0x7F6, 0x7F9), (0x9F2, 0x9F3), (0x9FB, 0x9FB), (0xAF1, 0xAF1), (0xBF3, 0xBFA), (0xC78, 0xC7E),
   (0xE3F, 0xE3F), (0xF3A, 0xF3D), (0x1390, 0x1399), (0x1400, 0x1400), (0x169B, 0x169C),
   (0x17DB, 0x17DB), (0x17F0, 0x180A), (0x1940, 0x1945), (0x19DE, 0x19FF), (0x1B4E, 0x1B4F),
   (0x1B7F, 0x1B7F), (0x200C, 0x214D), (0x218A, 0x2335), (0x237B, 0x2394), (0x2396, 0x26AB),
   (0x26AD, 0x27FF), (0x2900, 0x2BFF), (0x2CE5, 0x2CEA), (0x2CF9, 0x2CFF), (0x2E00, 0x3004),
   (0x3008, 0x3020), (0x3030, 0x3030), (0x3037, 0x3037), (0x303D, 0x303F), (0x30A0, 0x30A0),
   (0x30FB, 0x30FB), (0x31C0, 0x31E5), (0x4DC0, 0x4DFF), (0xA490, 0xA4C6), (0xA60D, 0xA60F),
   (0xA673, 0xA67F), (0xA700, 0xA721), (0xA788, 0xA788), (0xA828, 0xA82B), (0xA838, 0xA839),
   (0xA874, 0xA877), (0xAB6A, 0xAB6B), (0xFBC3, 0xFE46), (0x10101, 0x10101), (0x10140, 0x1018C),
   (0x10190, 0x101A0), (0x1091F, 0x1091F), (0x10B39, 0x10B3F), (0x10D6E, 0x10D6E),
   (0x10D8E, 0x10D8F), (0x10ED0, 0x10ED8), (0x11052, 0x11065), (0x113D4, 0x113D8),
   (0x11660, 0x1166C), (0x1171E, 0x1171E), (0x11BE1, 0x11BE1), (0x11FD5, 0x11FF1),
   (0x16D6D, 0x16D6F), (0x16FE2, 0x16FE2), (0x1CC00, 0x1CEF0), (0x1D1E9, 0x1D245),
   (0x1D300, 0x1D356), (0x1E2FF, 0x1E2FF), (0x1E5FF, 0x1E5FF), (0x1EEF0, 0x1F12F),
   (0x1F16D, 0x1F16F), (0x1F1AD, 0x1F1AD), (0x1F260, 0x1FBFA)]

/-- The direction of a character. -/
def directionOf (c : Char) : Direction :=
  if isNonspacingMark c then .mark
  else if inRanges rightToLeftRanges c then .rightToLeft
  else if inRanges arabicNumberRanges c then .arabicNumber
  else if inRanges numberRanges c then .number
  else if inRanges neutralRanges c then .neutral
  else .leftToRight

/-- Whether a character makes a domain one that is written from right to left. -/
def isBackward (c : Char) : Bool :=
  directionOf c = .rightToLeft || directionOf c = .arabicNumber

/-- The directions of a label without the marks at its end. -/
def trimMarks (directions : List Direction) : List Direction :=
  (directions.reverse.dropWhile (· = .mark)).reverse

/-- Whether directions may follow one another in a label from left to right. -/
def fitsForward (directions : List Direction) : Bool :=
  directions.all (fun d => d ≠ .rightToLeft && d ≠ .arabicNumber) &&
    (trimMarks directions).getLast?.any fun d => d = .leftToRight || d = .number

/-- Whether directions may follow one another in a label from right to left; numbers of two kinds
may not. -/
def fitsBackward (directions : List Direction) : Bool :=
  directions.all (· ≠ .leftToRight) &&
    !(directions.contains .number && directions.contains .arabicNumber) &&
    (trimMarks directions).getLast?.any fun d =>
      d = .rightToLeft || d = .number || d = .arabicNumber

/-- Whether a label keeps to one direction. -/
def keepsDirection (label : List Char) : Bool :=
  let directions := label.map directionOf
  match directions.head? with
  | none => true
  | some .leftToRight => fitsForward directions
  | some .rightToLeft => fitsBackward directions
  | some _ => false

/-- Whether the labels of a domain agree with its direction. -/
def haveDirection (labels : List (List Char)) : Bool :=
  !(labels.any fun label => label.any isBackward) || labels.all keepsDirection

/-! ## Joiners -/

/-- The character that keeps letters apart. -/
def nonJoiner : Char := '\u200C'

/-- The character that joins letters. -/
def joiner : Char := '\u200D'

/-- The letters that are joined on both sides. -/
def dualJoiningRanges : List (Nat × Nat) :=
  [(0x620, 0x620), (0x626, 0x626), (0x628, 0x628), (0x62A, 0x62E), (0x633, 0x63F), (0x641, 0x647),
   (0x649, 0x64A), (0x66E, 0x66F), (0x679, 0x687), (0x69A, 0x6BF), (0x6C1, 0x6C2), (0x6CC, 0x6CC),
   (0x6CE, 0x6CE), (0x6D0, 0x6D1), (0x6FA, 0x6FC), (0x6FF, 0x6FF), (0x712, 0x714), (0x71A, 0x71D),
   (0x71F, 0x727), (0x729, 0x729), (0x72B, 0x72B), (0x72D, 0x72E), (0x74E, 0x758), (0x75C, 0x76A),
   (0x76D, 0x770), (0x772, 0x772), (0x775, 0x777), (0x77A, 0x77F), (0x7CA, 0x7EA), (0x841, 0x845),
   (0x848, 0x848), (0x84A, 0x853), (0x855, 0x855), (0x860, 0x860), (0x862, 0x865), (0x868, 0x868),
   (0x886, 0x886), (0x889, 0x88D), (0x88F, 0x8A9), (0x8AF, 0x8B0), (0x8B3, 0x8B8), (0x8BA, 0x8C8),
   (0x1807, 0x1807), (0x1820, 0x1878), (0x1887, 0x18AA), (0xA840, 0xA871), (0x10AC0, 0x10AC4),
   (0x10AD3, 0x10AD6), (0x10AD8, 0x10ADC), (0x10ADE, 0x10AE0), (0x10AEB, 0x10AEE),
   (0x10B80, 0x10B80), (0x10B82, 0x10B82), (0x10B86, 0x10B88), (0x10B8A, 0x10B8B),
   (0x10B8D, 0x10B8D), (0x10B90, 0x10B90), (0x10BAD, 0x10BAE), (0x10D01, 0x10D21),
   (0x10D23, 0x10D23), (0x10EC3, 0x10EC4), (0x10EC6, 0x10EC7), (0x10F30, 0x10F32),
   (0x10F34, 0x10F44), (0x10F51, 0x10F53), (0x10F70, 0x10F73), (0x10F76, 0x10F81),
   (0x10FB0, 0x10FB0), (0x10FB2, 0x10FB3), (0x10FB8, 0x10FB8), (0x10FBB, 0x10FBC),
   (0x10FBE, 0x10FBF), (0x10FC1, 0x10FC1), (0x10FC4, 0x10FC4), (0x10FCA, 0x10FCA),
   (0x1E922, 0x1E943)]

/-- The letters that are joined to the one before them only. -/
def backJoiningRanges : List (Nat × Nat) :=
  [(0x622, 0x625), (0x627, 0x627), (0x629, 0x629), (0x62F, 0x632), (0x648, 0x648), (0x671, 0x673),
   (0x688, 0x699), (0x6C0, 0x6C0), (0x6C3, 0x6CB), (0x6CD, 0x6CD), (0x6CF, 0x6CF), (0x6D2, 0x6D3),
   (0x6D5, 0x6D5), (0x6EE, 0x6EF), (0x710, 0x710), (0x715, 0x719), (0x71E, 0x71E), (0x728, 0x728),
   (0x72A, 0x72A), (0x72C, 0x72C), (0x72F, 0x74D), (0x759, 0x75B), (0x76B, 0x76C), (0x771, 0x771),
   (0x773, 0x774), (0x778, 0x779), (0x840, 0x840), (0x846, 0x847), (0x849, 0x849), (0x854, 0x854),
   (0x856, 0x858), (0x867, 0x867), (0x869, 0x882), (0x88E, 0x88E), (0x8AA, 0x8AC), (0x8AE, 0x8AE),
   (0x8B1, 0x8B2), (0x8B9, 0x8B9), (0x10AC5, 0x10AC5), (0x10AC7, 0x10AC7), (0x10AC9, 0x10ACA),
   (0x10ACE, 0x10AD2), (0x10ADD, 0x10ADD), (0x10AE1, 0x10AE1), (0x10AE4, 0x10AE4),
   (0x10AEF, 0x10AEF), (0x10B81, 0x10B81), (0x10B83, 0x10B85), (0x10B89, 0x10B89),
   (0x10B8C, 0x10B8C), (0x10B8E, 0x10B8F), (0x10B91, 0x10B91), (0x10BA9, 0x10BAC),
   (0x10D22, 0x10D22), (0x10EC2, 0x10EC2), (0x10F33, 0x10F33), (0x10F54, 0x10F54),
   (0x10F74, 0x10F75), (0x10FB4, 0x10FB6), (0x10FB9, 0x10FBA), (0x10FBD, 0x10FBD),
   (0x10FC2, 0x10FC3), (0x10FC9, 0x10FC9)]

/-- The letters that are joined to the one after them only. -/
def frontJoiningRanges : List (Nat × Nat) :=
  [(0xA872, 0xA872), (0x10ACD, 0x10ACD), (0x10AD7, 0x10AD7), (0x10D00, 0x10D00),
   (0x10FCB, 0x10FCB)]

/-- Whether letters are joined as if the character were not there. -/
def isTransparent (c : Char) : Bool := isNonspacingMark c || c.toNat = 0x1E94B

/-- Whether a letter is joined to the one after it. -/
def joinsNext (c : Char) : Bool := inRanges dualJoiningRanges c || inRanges frontJoiningRanges c

/-- Whether a letter is joined to the one before it. -/
def joinsPrevious (c : Char) : Bool := inRanges dualJoiningRanges c || inRanges backJoiningRanges c

/-- Whether a character takes the vowel from its letter. -/
def isVowelKiller (c : Char) : Bool := combiningClass c.toNat = 9

/-- Whether the letters around a place would be joined; the characters before it are given the
nearest one first. -/
def areJoined (before after : List Char) : Bool :=
  (before.dropWhile isTransparent).head?.any joinsNext &&
    (after.dropWhile isTransparent).head?.any joinsPrevious

/-- Whether all joiners stand where they may; the characters before the place are given the nearest
one first. -/
def joinersFit (before : List Char) : List Char → Bool
  | [] => true
  | c :: rest =>
    (if c = joiner then before.head?.any isVowelKiller
      else if c = nonJoiner then before.head?.any isVowelKiller || areJoined before rest
      else true) &&
    joinersFit (c :: before) rest

/-! ## Characters -/

/-- What a domain writes for a character. -/
def written (c : Char) : List Char :=
  if c.toNat < 0x80 then [c.toLower]
  else if Text.inRanges ignoredRanges c then []
  else
    match Text.lookupTarget mapping c.toNat with
    | some codes => codes.map Char.ofNat
    | none => [c]

/-- The characters that can be seen, but would be read as several or as none. -/
def misleadingRanges : List (Nat × Nat) :=
  [(0x2024, 0x2026), (0x2488, 0x249B), (0x2FF0, 0x2FFF), (0x31EF, 0x31EF), (0x33C2, 0x33C2),
   (0x33C7, 0x33C7), (0x33D8, 0x33D8), (0xFE12, 0xFE12), (0xFE19, 0xFE19), (0xFE30, 0xFE30),
   (0xFE52, 0xFE52), (0xFFFC, 0xFFFD), (0x1F100, 0x1F100)]

/-- The visible ASCII characters that mean something in an address. -/
def reservedChars : List Char :=
  [' ', '#', '%', '/', ':', '<', '>', '?', '@', '[', '\\', ']', '^', '|']

/-- Whether a domain may hold a character. -/
def isAllowed (c : Char) : Bool :=
  c = joiner || c = nonJoiner ||
    !(reservedChars.contains c || Text.inRanges misleadingRanges c || Text.isUnprintable c)

/-! ## Labels -/

/-- The mark of labels in Punycode. -/
def encodedMark : List Char := ['x', 'n', '-', '-']

/-- Whether a text is ASCII. -/
def isAscii (cs : List Char) : Bool := cs.all fun c => c.toNat < 0x80

/-- Whether a text is as a domain writes it. -/
def isWritten (cs : List Char) : Bool := cs.flatMap written == cs && Text.composed cs == cs

/-- The characters that a label stands for. A label in Punycode has to need it. -/
def readLabel? (label : List Char) : Option (List Char) :=
  if encodedMark.isPrefixOf label then
    if !isAscii label then none
    else
      match Punycode.decode (label.drop encodedMark.length) with
      | some decoded => if !isAscii decoded && isWritten decoded then some decoded else none
      | none => none
  else some label

/-- Whether the characters of a label may stand where they do. -/
def isAllowedLabel (label : List Char) : Bool :=
  label.all isAllowed && !label.head?.any Text.isMark && joinersFit [] label

/-- The ASCII form of a label. -/
def asciiLabel (label : List Char) : List Char :=
  if isAscii label then label else encodedMark ++ Punycode.encode label

/-! ## Domains -/

/-- The ASCII form of a domain. -/
def canonical? (cs : List Char) : Option (List Char) :=
  match (Text.pieces '.' (Text.composed (cs.flatMap written))).mapM readLabel? with
  | none => none
  | some labels =>
    if labels.all isAllowedLabel && haveDirection labels then
      some (['.'].intercalate (labels.map asciiLabel))
    else none

end PageSketch.Web.Domain
