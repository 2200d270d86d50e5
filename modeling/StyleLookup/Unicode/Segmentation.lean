import StyleLookup.Unicode.Property
import StyleLookup.Unicode.Script

/-!
# Segmentation classes

Three properties say where a text may be cut: between what a reader takes for single characters,
between words, and between sentences. Each puts a code point into one class, and only what has a
part in some cut has a class at all. The classes are derived, as the standard derives them, from
categories, scripts and binary properties; few characters are named one by one.
-/

namespace StyleLookup.Unicode

open Scalars

/-- The set of the first that is in none of the others. -/
def without (a : Scalars) (others : List Scalars) : Scalars := difference a (unions others)

/-- The line feed. -/
def lineFeed : Scalars := single 0xA

/-- The carriage return. -/
def carriageReturn : Scalars := single 0xD

/-- The character that keeps its neighbours from joining. -/
def zeroWidthNonJoiner : Scalars := single 0x200C

/-- The character that joins its neighbours. -/
def zeroWidthJoiner : Scalars := single 0x200D

/-- The Syriac sign of an abbreviation, which opens no number as other signs of its kind do. -/
def abbreviationMark : Scalars := single 0x70F

/-! ## Grapheme clusters -/

/-- Letters that stand before the cluster they belong to. -/
def prefixedConsonants : Scalars := Scalars.ofTable
  "d4e 111c2-111c3 113d1 1193f 11941 11a3a 11a84-11a89 11d46 11f02"

/-- Spacing marks that a cluster does not take in. -/
def freeSpacingMarks : Scalars := Scalars.ofTable
  "102b-102c 1038 1062-1064 1067-106d 1083 1087-108c 108f 109a-109c 1a61 1a63-1a64 aa7b aa7d
   11720-11721"

/-- Marks that continue a cluster. -/
def clusterExtend : Scalars := union (without graphemeExtend [zeroWidthJoiner]) emojiModifier

/-- Characters that stand alone. -/
def clusterControl : Scalars :=
  without
    (union (inCategories ["Zl", "Zp", "Cc", "Cf"])
      (intersection (inCategories ["Cn"]) defaultIgnorableCodePoint))
    [lineFeed, carriageReturn, zeroWidthNonJoiner, zeroWidthJoiner, prependedConcatenationMark,
      graphemeExtend]

/-- Spacing marks, and two vowels, that a cluster takes in. -/
def clusterSpacingMark : Scalars :=
  without (union (inCategories ["Mc"]) (Scalars.ofTable "e33 eb3"))
    [graphemeExtend, freeSpacingMarks]

/-- Hangul syllables without a final consonant: every twenty-eighth, from the first. -/
def openSyllables : Scalars := (List.range 399).map fun k => ⟨0xAC00 + 28 * k, 0xAC00 + 28 * k⟩

/-- All Hangul syllables. -/
def syllables : Scalars := Scalars.ofTable "ac00-d7a3"

/-- The classes of Grapheme_Cluster_Break, each with its names. -/
def graphemeClusterBreaks : List (List String × Scalars) :=
  [ (["Control", "CN"], clusterControl),
    (["CR"], carriageReturn),
    (["Extend", "EX"], clusterExtend),
    (["L"], Scalars.ofTable "1100-115f a960-a97c"),
    (["LF"], lineFeed),
    (["LV"], openSyllables),
    (["LVT"], difference syllables openSyllables),
    (["Prepend", "PP"], union prependedConcatenationMark prefixedConsonants),
    (["Regional_Indicator", "RI"], regionalIndicator),
    (["SpacingMark", "SM"], clusterSpacingMark),
    (["T"], Scalars.ofTable "11a8-11ff d7cb-d7fb"),
    (["V"], Scalars.ofTable "1160-11a7 16d63 16d67-16d6a d7b0-d7c6"),
    (["ZWJ"], zeroWidthJoiner) ]

/-! ## Words -/

/-- Marks that continue whatever stands before them. -/
def trailingMarks : Scalars :=
  without (union graphemeExtend (inCategories ["Mc"])) [zeroWidthJoiner]

/-- Digits, decimal separators, and the signs that open a number; the abbreviation mark is none. -/
def numberChars : Scalars :=
  unions [decimalDigits, Scalars.ofTable "66b-66c 19da",
    without prependedConcatenationMark [abbreviationMark]]

/-- Letters of the scripts that write words without spaces between them. -/
def unspacedLetters : Scalars :=
  unions (["Ahom", "Khmr", "Lana", "Laoo", "Mymr", "Tale", "Talu", "Tavt", "Thai"].map inScript)

/-- Katakana, and the marks that words in it share with other scripts. -/
def wordKatakana : Scalars :=
  union (inScript "Kana") (Scalars.ofTable "3031-3035 309b-309c 30a0 30fc ff70")

/-- Letters of the Hebrew script. -/
def hebrewLetters : Scalars := intersection (inScript "Hebr") (inCategories ["Lo"])

/-- Signs that count as letters of a word. -/
def letterLike : Scalars := Scalars.ofTable
  "2c2-2c5 2d2-2d7 2de-2df 2e5-2eb 2ed 2ef-2ff 55a-55c 55e 58a 5f3 70f a708-a716 a720-a721
   a789-a78a ab5b"

/-- Letters of words that spaces set apart. -/
def wordLetters : Scalars :=
  without (union alphabetic letterLike)
    [ideographic, wordKatakana, unspacedLetters, inScript "Hira", trailingMarks, hebrewLetters,
      numberChars]

/-- Format controls that words run over. -/
def wordFormat : Scalars :=
  without (inCategories ["Cf"])
    [single 0x200B, zeroWidthNonJoiner, zeroWidthJoiner, graphemeExtend,
      prependedConcatenationMark]

/-- The classes of Word_Break, each with its names. -/
def wordBreaks : List (List String × Scalars) :=
  [ (["ALetter", "LE"], wordLetters),
    (["CR"], carriageReturn),
    (["Double_Quote", "DQ"], Scalars.ofTable "22"),
    (["Extend"], union trailingMarks emojiModifier),
    (["ExtendNumLet", "EX"], union (inCategories ["Pc"]) (Scalars.ofTable "202f")),
    (["Format", "FO"], wordFormat),
    (["Hebrew_Letter", "HL"], hebrewLetters),
    (["Katakana", "KA"], wordKatakana),
    (["LF"], lineFeed),
    (["MidLetter", "ML"], Scalars.ofTable "3a b7 387 55f 5f4 2027 fe13 fe55 ff1a"),
    (["MidNum", "MN"],
      Scalars.ofTable "2c 3b 37e 589 60c-60d 66c 7f8 2044 fe50 fe54 ff0c ff1b"),
    (["MidNumLet", "MB"], Scalars.ofTable "2e 2018-2019 2024 fe52 ff07 ff0e"),
    (["Newline", "NL"], Scalars.ofTable "b-c 85 2028-2029"),
    (["Numeric", "NU"], without numberChars [single 0x66C]),
    (["Regional_Indicator", "RI"], regionalIndicator),
    (["Single_Quote", "SQ"], Scalars.ofTable "27"),
    (["WSegSpace"], without (inCategories ["Zs"]) [Scalars.ofTable "a0 2007 202f"]),
    (["ZWJ"], zeroWidthJoiner) ]

/-! ## Sentences -/

/-- Line and paragraph separators. -/
def paragraphSeparators : Scalars := Scalars.ofTable "85 2028-2029"

/-- Marks that end a sentence or an abbreviation. -/
def fullStops : Scalars := Scalars.ofTable "2e 2024 fe52 ff0e"

/-- Marks that end a sentence and nothing else. -/
def sentenceEnds : Scalars := without sentenceTerminal [fullStops]

/-- Small letters that may open the rest of a sentence; Georgian has no case in this. -/
def sentenceLower : Scalars :=
  without lowercase [graphemeExtend, Scalars.ofTable "10d0-10fa 10fd-10ff"]

/-- Capitals. -/
def sentenceUpper : Scalars :=
  without (union (inCategories ["Lt"]) uppercase) [Scalars.ofTable "1c90-1cba 1cbd-1cbf"]

/-- Marks that continue whatever stands before them, the joiner among them. -/
def sentenceExtend : Scalars := unions [graphemeExtend, inCategories ["Mc"], zeroWidthJoiner]

/-- Letters that are neither small nor capital. -/
def sentenceLetters : Scalars :=
  without (union alphabetic (Scalars.ofTable "5f3"))
    [sentenceLower, sentenceUpper, sentenceExtend, numberChars]

/-- Brackets and quotation marks. -/
def closers : Scalars :=
  without
    (union (inCategories ["Ps", "Pe", "Pi", "Pf"])
      (Scalars.ofTable "22 27 275b-2760 2e00-2e01 2e06-2e08 2e0b 1f676-1f678"))
    [fullStops, sentenceEnds]

/-- The classes of Sentence_Break, each with its names. -/
def sentenceBreaks : List (List String × Scalars) :=
  [ (["ATerm", "AT"], fullStops),
    (["Close", "CL"], closers),
    (["CR"], carriageReturn),
    (["Extend", "EX"], sentenceExtend),
    (["Format", "FO"],
      without (inCategories ["Cf"])
        [zeroWidthNonJoiner, zeroWidthJoiner, graphemeExtend, numberChars]),
    (["LF"], lineFeed),
    (["Lower", "LO"], sentenceLower),
    (["Numeric", "NU"], numberChars),
    (["OLetter", "LE"], sentenceLetters),
    (["SContinue", "SC"],
      Scalars.ofTable
        "2c-2d 3a-3b 37e 55d 60c-60d 7f8 1802 1808 2013-2014 3001 fe10-fe11 fe13-fe14 fe31-fe32
         fe50-fe51 fe54-fe55 fe58 fe63 ff0c-ff0d ff1a-ff1b ff64"),
    (["Sep", "SE"], paragraphSeparators),
    (["Sp"], without whiteSpace [lineFeed, carriageReturn, paragraphSeparators]),
    (["STerm", "ST"], sentenceEnds),
    (["Upper", "UP"], sentenceUpper) ]

end StyleLookup.Unicode
