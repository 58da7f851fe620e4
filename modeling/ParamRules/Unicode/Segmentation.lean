import ParamRules.Unicode.BinaryProperty
import ParamRules.Unicode.Script

/-!
# Boundaries in text

The classes of code points by which text is divided into characters as they are
perceived, into words and into sentences, under the names by which they may be asked
for.
-/

namespace ParamRules.Unicode

open GeneralCategory

/-- The syllables of the Korean alphabet without a final consonant. -/
def openSyllables : Ranges :=
  (List.range 399).map fun n => (0xAC00 + 28 * n, 0xAC00 + 28 * n)

/-- The syllables of the Korean alphabet with a final consonant. -/
def closedSyllables : Ranges :=
  (List.range 399).map fun n => (0xAC01 + 28 * n, 0xAC1B + 28 * n)

/-- Formats and joiners that leave the text around them as it is. -/
def plainFormat : SetFormula :=
  format \ prependedMark

/-- Spacing marks and extensions of the character before. -/
def attached : SetFormula :=
  graphemeExtend ∪ spacingMark

/-- The tags, which extend although they are formats. -/
def tags : SetFormula :=
  .table "E0020-E007F"

/-- The classes that keep perceived characters together. -/
def graphemeClusterBreaks : List (List String × SetFormula) :=
  [ (["cr"], .table "D"),
    (["lf"], .table "A"),
    (["cn", "control"],
      (control ∪ plainFormat ∪ lineSeparator ∪ paragraphSeparator ∪
        unassigned ∩ defaultIgnorable) \ (.table "A D 200C-200D" ∪ tags)),
    (["ex", "extend"], graphemeExtend ∪ emojiModifier),
    (["zwj"], .table "200D"),
    (["ri", "regionalindicator"], regionalIndicator),
    (["pp", "prepend"],
      prependedMark ∪ .table "D4E 111C2-111C3 113D1 1193F 11941 11A84-11A89 11D46 11F02"),
    (["sm", "spacingmark"],
      (spacingMark \ graphemeExtend ∪ .table "E33 EB3") \
        .table "102B-102C 1038 1062-1064 1067-106D 1083 1087-108C 108F 109A-109C 1A61 1A63-1A64 AA7B
          AA7D 11720-11721"),
    (["l"], .table "1100-115F A960-A97C"),
    (["v"], .table "1160-11A7 D7B0-D7C6 16D63 16D67-16D6A"),
    (["t"], .table "11A8-11FF D7CB-D7FB"),
    (["lv"], .listed openSyllables),
    (["lvt"], .listed closedSyllables) ]

/-- Lower-case code points at which a sentence may go on. -/
def sentenceLower : SetFormula :=
  lowercase \ (graphemeExtend ∪ .table "10D0-10FA 10FD-10FF")

/-- Upper-case and title-case code points at which a sentence may begin. -/
def sentenceUpper : SetFormula :=
  (uppercase ∪ titlecaseLetter) \ .table "1C90-1CBA 1CBD-1CBF"

/-- Numbers to which the signs between digits are counted. -/
def numeric : SetFormula :=
  (decimalNumber ∪ prependedMark ∪ .table "66B 19DA") \ .table "70F"

/-- The classes that divide text into sentences. -/
def sentenceBreaks : List (List String × SetFormula) :=
  [ (["cr"], .table "D"),
    (["lf"], .table "A"),
    (["se", "sep"], .table "85 2028-2029"),
    (["ex", "extend"], attached ∪ .table "200D"),
    (["fo", "format"], (plainFormat ∪ .table "70F") \ (.table "200C-200D" ∪ tags)),
    (["sp"], .listed Text.blankRanges \ .table "A D 85 2028-2029"),
    (["lo", "lower"], sentenceLower),
    (["up", "upper"], sentenceUpper),
    (["le", "oletter"], alphabetic \ (sentenceLower ∪ sentenceUpper ∪ attached) ∪ .table "5F3"),
    (["nu", "numeric"], numeric ∪ .table "66C"),
    (["at", "aterm"], .table "2E 2024 FE52 FF0E"),
    (["st", "sterm"], sentenceTerminal \ .table "2E 2024 FE52 FF0E"),
    (["cl", "close"],
      openPunctuation ∪ closePunctuation ∪ initialPunctuation ∪ finalPunctuation ∪
        .table "22 27 275B-2760 2E00-2E01 2E06-2E08 2E0B 1F676-1F678"),
    (["sc", "scontinue"],
      .table
        "2C-2D 3A-3B 37E 55D 60C-60D 7F8 1802 1808 2013-2014 3001 FE10-FE11 FE13-FE14 FE31-FE32
        FE50-FE51 FE54-FE55 FE58 FE63 FF0C-FF0D FF1A-FF1B FF64") ]

/-- The Hebrew letters. -/
def hebrewLetter : SetFormula :=
  .table "5D0-5EA 5EF-5F2 FB1D FB1F-FB28 FB2A-FB36 FB38-FB3C FB3E FB40-FB41 FB43-FB44 FB46-FB4F"

/-- The Katakana letters with the signs used among them. -/
def katakana : SetFormula :=
  .table
    "3031-3035 309B-309C 30A0-30FA 30FC-30FF 31F0-31FF 32D0-32FE 3300-3357 FF66-FF9D 1AFF0-1AFF3
    1AFF5-1AFFB 1AFFD-1AFFE 1B000 1B120-1B122 1B155 1B164-1B167"

/-- The scripts that are written without blanks between words. -/
def unspacedScripts : List String :=
  ["hira", "thai", "laoo", "mymr", "khmr", "tale", "talu", "lana", "tavt", "ahom"]

/-- The characters of the scripts that are written without blanks between words. -/
def unspaced : SetFormula :=
  (scripts.filter fun (names, _) => names.any unspacedScripts.contains).foldl
    (fun set row => set ∪ row.2) (.listed [])

/-- The classes that divide text into words. -/
def wordBreaks : List (List String × SetFormula) :=
  [ (["cr"], .table "D"),
    (["lf"], .table "A"),
    (["nl", "newline"], .table "B-C 85 2028-2029"),
    (["extend"], attached ∪ emojiModifier),
    (["zwj"], .table "200D"),
    (["fo", "format"], plainFormat \ (.table "200B-200D" ∪ tags)),
    (["ri", "regionalindicator"], regionalIndicator),
    (["ka", "katakana"], katakana),
    (["hl", "hebrewletter"], hebrewLetter),
    (["le", "aletter"],
      alphabetic \ (ideographic ∪ katakana ∪ attached ∪ hebrewLetter ∪ unspaced) ∪
        .table "B8 2C2-2C5 2D2-2D7 2DE-2DF 2E5-2EB 2ED 2EF-2FF 55A-55C 55E 58A 5F3 70F A708-A716
          A720-A721 A789-A78A AB5B"),
    (["sq", "singlequote"], .table "27"),
    (["dq", "doublequote"], .table "22"),
    (["mb", "midnumlet"], .table "2E 2018-2019 2024 FE52 FF07 FF0E"),
    (["ml", "midletter"], .table "3A B7 387 55F 5F4 2027 FE13 FE55 FF1A"),
    (["mn", "midnum"], .table "2C 3B 37E 589 60C-60D 66C 7F8 2044 FE50 FE54 FF0C FF1B"),
    (["nu", "numeric"], numeric),
    (["ex", "extendnumlet"], .table "5F 202F 203F-2040 2054 FE33-FE34 FE4D-FE4F FF3F"),
    (["wsegspace"], .table "20 1680 2000-2006 2008-200A 205F 3000") ]

end ParamRules.Unicode
