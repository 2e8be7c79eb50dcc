import Uplift.Regex.Binary
import Uplift.Text.Script
/-! # Breaks

How characters count where a text is divided into what a reader takes for characters, into words and
into sentences, in Unicode 15.0.

* `Breaks.graphemes`, `Breaks.words`, `Breaks.sentences`: the values of the three properties, each
  under its names.
-/

namespace Uplift.Regex.Breaks

open Text Binary

/-- The characters of a script. -/
def script (name : String) : Class := .ranges (((Script.find? name).map (·.ranges)).getD [])

/-- Carriage returns. -/
def cr : Class := .only '\r'

/-- Line feeds. -/
def lf : Class := .only '\n'

/-- The joiner without a width. -/
def joiner : Class := .ranges [(0x200D, 0x200D)]

/-! ## What a reader takes for a character -/

/-- Characters that belong to the one before them. -/
def extend : Class := .union graphemeExtend emojiModifier

/-- Characters that stand alone. -/
def control : Class :=
  .diff
    (.union (.categories [.control, .format, .lineSeparator, .paragraphSeparator])
      (.diff defaultIgnorableCodePoint .assigned))
    (.any [cr, lf, joiner, graphemeExtend, prependedConcatenationMark])

/-- Characters that belong to the one after them. -/
def prepend : Class :=
  .union prependedConcatenationMark
    (.ranges [(0xD4E, 0xD4E), (0x111C2, 0x111C3), (0x1193F, 0x1193F), (0x11941, 0x11941),
      (0x11A3A, 0x11A3A), (0x11A84, 0x11A89), (0x11D46, 0x11D46), (0x11F02, 0x11F02)])

/-- Marks with a width that break like other characters. -/
def apart : Class :=
  .ranges [(0x102B, 0x102C), (0x1038, 0x1038), (0x1062, 0x1064), (0x1067, 0x106D),
    (0x1083, 0x1083), (0x1087, 0x108C), (0x108F, 0x108F), (0x109A, 0x109C), (0x1A61, 0x1A61),
    (0x1A63, 0x1A64), (0xAA7B, 0xAA7B), (0xAA7D, 0xAA7D), (0x11720, 0x11721)]

/-- Marks with a width that belong to the character before them. -/
def spacing : Class :=
  .union (.diff (.categories [.spacingMark]) (.union extend apart))
    (.ranges [(0xE33, 0xE33), (0xEB3, 0xEB3)])

/-- Syllables without a final consonant. -/
def openSyllables : Class :=
  .ranges ((List.range 399).map fun k => (0xAC00 + 28 * k, 0xAC00 + 28 * k))

/-- How characters break, to a reader. -/
def graphemes : Class.Named :=
  [(["control", "cn"], control),
    (["cr"], cr),
    (["extend", "ex"], extend),
    (["l"], .ranges [(0x1100, 0x115F), (0xA960, 0xA97C)]),
    (["lf"], lf),
    (["lv"], openSyllables),
    (["lvt"], .diff (.ranges [(0xAC00, 0xD7A3)]) openSyllables),
    (["prepend", "pp"], prepend),
    (["regionalindicator", "ri"], regionalIndicator),
    (["spacingmark", "sm"], spacing),
    (["t"], .ranges [(0x11A8, 0x11FF), (0xD7CB, 0xD7FB)]),
    (["v"], .ranges [(0x1160, 0x11A7), (0xD7B0, 0xD7C6)]),
    (["zwj"], joiner)]

/-! ## Words -/

/-- Characters that belong to the one before them, those with a width among them. -/
def extendWide : Class := .any [graphemeExtend, emojiModifier, .categories [.spacingMark]]

/-- Digits. -/
def numeric : Class := .union (.categories [.decimalNumber]) (.ranges [(0x66B, 0x66B)])

/-- Letters of Hebrew. -/
def hebrew : Class := .inter (script "hebr") (.categories [.otherLetter])

/-- The characters of Katakana, and the signs that are used with them. -/
def katakana : Class :=
  .union (script "kana")
    (.ranges [(0x3031, 0x3035), (0x309B, 0x309C), (0x30A0, 0x30A0), (0x30FC, 0x30FC),
      (0xFF70, 0xFF70)])

/-- Letters of scripts that write no blanks between words. -/
def unspaced : Class :=
  .ranges [(0xE01, 0xE30), (0xE32, 0xE33), (0xE40, 0xE46), (0xE81, 0xE82), (0xE84, 0xE84),
    (0xE86, 0xE8A), (0xE8C, 0xEA3), (0xEA5, 0xEA5), (0xEA7, 0xEB0), (0xEB2, 0xEB3),
    (0xEBD, 0xEBD), (0xEC0, 0xEC4), (0xEC6, 0xEC6), (0xEDC, 0xEDF), (0x1000, 0x102A),
    (0x103F, 0x103F), (0x1050, 0x1055), (0x105A, 0x105D), (0x1061, 0x1061), (0x1065, 0x1066),
    (0x106E, 0x1070), (0x1075, 0x1081), (0x108E, 0x108E), (0x1780, 0x17B3), (0x17D7, 0x17D7),
    (0x17DC, 0x17DC), (0x1950, 0x196D), (0x1970, 0x1974), (0x1980, 0x19AB), (0x19B0, 0x19C9),
    (0x1A20, 0x1A54), (0x1AA7, 0x1AA7), (0xA9E0, 0xA9E4), (0xA9E6, 0xA9EF), (0xA9FA, 0xA9FE),
    (0xAA60, 0xAA76), (0xAA7A, 0xAA7A), (0xAA7E, 0xAAAF), (0xAAB1, 0xAAB1), (0xAAB5, 0xAAB6),
    (0xAAB9, 0xAABD), (0xAAC0, 0xAAC0), (0xAAC2, 0xAAC2), (0xAADB, 0xAADD), (0x11700, 0x1171A),
    (0x11740, 0x11746)]

/-- Letters of words. -/
def wordLetter : Class :=
  .union
    (.diff alphabetic
      (.any [ideographic, katakana, script "hira", extendWide, hebrew, unspaced]))
    (.ranges [(0x2C2, 0x2C5), (0x2D2, 0x2D7), (0x2DE, 0x2DF), (0x2E5, 0x2EB), (0x2ED, 0x2ED),
      (0x2EF, 0x2FF), (0x55A, 0x55C), (0x55E, 0x55E), (0x58A, 0x58A), (0x5F3, 0x5F3),
      (0xA708, 0xA716), (0xA720, 0xA721), (0xA789, 0xA78A), (0xAB5B, 0xAB5B)])

/-- How characters break, in words. -/
def words : Class.Named :=
  [(["aletter", "le"], wordLetter),
    (["cr"], cr),
    (["doublequote", "dq"], .only '"'),
    (["extend"], extendWide),
    (["extendnumlet", "ex"],
      .union (.categories [.connectorPunctuation]) (.ranges [(0x202F, 0x202F)])),
    (["format", "fo"],
      .diff (.categories [.format])
        (.any [graphemeExtend, joiner, .ranges [(0x200B, 0x200B)]])),
    (["hebrewletter", "hl"], hebrew),
    (["katakana", "ka"], katakana),
    (["lf"], lf),
    (["midletter", "ml"],
      .ranges [(0x3A, 0x3A), (0xB7, 0xB7), (0x387, 0x387), (0x55F, 0x55F), (0x5F4, 0x5F4),
        (0x2027, 0x2027), (0xFE13, 0xFE13), (0xFE55, 0xFE55), (0xFF1A, 0xFF1A)]),
    (["midnum", "mn"],
      .ranges [(0x2C, 0x2C), (0x3B, 0x3B), (0x37E, 0x37E), (0x589, 0x589), (0x60C, 0x60D),
        (0x66C, 0x66C), (0x7F8, 0x7F8), (0x2044, 0x2044), (0xFE10, 0xFE10), (0xFE14, 0xFE14),
        (0xFE50, 0xFE50), (0xFE54, 0xFE54), (0xFF0C, 0xFF0C), (0xFF1B, 0xFF1B)]),
    (["midnumlet", "mb"],
      .ranges [(0x2E, 0x2E), (0x2018, 0x2019), (0x2024, 0x2024), (0xFE52, 0xFE52),
        (0xFF07, 0xFF07), (0xFF0E, 0xFF0E)]),
    (["newline", "nl"], .ranges [(0x0B, 0x0C), (0x85, 0x85), (0x2028, 0x2029)]),
    (["numeric", "nu"], numeric),
    (["regionalindicator", "ri"], regionalIndicator),
    (["singlequote", "sq"], .only '\''),
    (["wsegspace"],
      .ranges [(0x20, 0x20), (0x1680, 0x1680), (0x2000, 0x2006), (0x2008, 0x200A),
        (0x205F, 0x205F), (0x3000, 0x3000)]),
    (["zwj"], joiner)]

/-! ## Sentences -/

/-- Full stops. -/
def fullStop : Class :=
  .ranges [(0x2E, 0x2E), (0x2024, 0x2024), (0xFE52, 0xFE52), (0xFF0E, 0xFF0E)]

/-- Separators of paragraphs. -/
def paragraphEnd : Class := .ranges [(0x85, 0x85), (0x2028, 0x2029)]

/-- Characters that belong to the one before them, in sentences. -/
def sentenceExtend : Class := .any [graphemeExtend, joiner, .categories [.spacingMark]]

/-- Capitals and small letters of a script that begins no sentence with a capital. -/
def georgian : Class :=
  .ranges [(0x10D0, 0x10FA), (0x10FD, 0x10FF), (0x1C90, 0x1CBA), (0x1CBD, 0x1CBF)]

/-- Lowercase characters. -/
def sentenceLower : Class := .diff lowercase (.union sentenceExtend georgian)

/-- Uppercase characters, and those that begin a title. -/
def sentenceUpper : Class := .diff (.union uppercase (.categories [.titlecaseLetter])) georgian

/-- How characters break, in sentences. -/
def sentences : Class.Named :=
  [(["aterm", "at"], fullStop),
    (["close", "cl"],
      .union
        (.categories [.openPunctuation, .closePunctuation, .initialPunctuation, .finalPunctuation])
        (.ranges [(0x22, 0x22), (0x27, 0x27), (0x275B, 0x2760), (0x2E00, 0x2E01),
          (0x2E06, 0x2E08), (0x2E0B, 0x2E0B), (0x1F676, 0x1F678)])),
    (["cr"], cr),
    (["extend", "ex"], sentenceExtend),
    (["format", "fo"], .diff (.categories [.format]) (.union graphemeExtend joiner)),
    (["lf"], lf),
    (["lower", "lo"], sentenceLower),
    (["numeric", "nu"], .union numeric (.ranges [(0x66C, 0x66C)])),
    (["oletter", "le"],
      .union (.diff alphabetic (.any [sentenceLower, sentenceUpper, sentenceExtend]))
        (.ranges [(0x5F3, 0x5F3)])),
    (["scontinue", "sc"],
      .ranges [(0x2C, 0x2D), (0x3A, 0x3A), (0x55D, 0x55D), (0x60C, 0x60D), (0x7F8, 0x7F8),
        (0x1802, 0x1802), (0x1808, 0x1808), (0x2013, 0x2014), (0x3001, 0x3001), (0xFE10, 0xFE11),
        (0xFE13, 0xFE13), (0xFE31, 0xFE32), (0xFE50, 0xFE51), (0xFE55, 0xFE55), (0xFE58, 0xFE58),
        (0xFE63, 0xFE63), (0xFF0C, 0xFF0D), (0xFF1A, 0xFF1A), (0xFF64, 0xFF64)]),
    (["sep", "se"], paragraphEnd),
    (["sp"], .diff .space (.any [cr, lf, paragraphEnd])),
    (["sterm", "st"], .diff sentenceTerminal fullStop),
    (["upper", "up"], sentenceUpper)]

end Uplift.Regex.Breaks
