-- Where texts may be broken: the classes of characters that the rules for
-- graphemes, words and sentences speak of.
import Patchbay.Pattern.Property

namespace Patchbay.Pattern.Breaks

open CharSet

/-- Marks that go with what is before them in any text. -/
def extenders : CharSet := graphemeExtend.union (listed "emojimodifier")

def joiner : CharSet := [(0x200D, 0x200D)]

def joiners : CharSet := [(0x200C, 0x200D)]

/-! ## Graphemes -/

def spacingMarks : CharSet :=
  (((categories ["Mc"]).union (ofHex ["E33 EB3"])).diff extenders).diff
    (ofHex ["102B-102C 1038 1062-1064 1067-106D 1083 1087-108C 108F 109A-109C 1A61 1A63-1A64",
      "AA7B AA7D 11720-11721"])

def controls : CharSet :=
  (((categories ["Zl", "Zp", "Cc", "Cf"]).union (defaultIgnorable.diff assigned)).diff
    (extenders.union precedingMarks)).diff (ofHex ["A D 200C-200D"])

/-- Letters that come before the cluster they belong to, as marks do. -/
def prepended : CharSet :=
  precedingMarks.union
    (ofHex ["D4E 111C2-111C3 113D1 1193F 11941 11A3A 11A84-11A89 11D46 11F02"])

/-- The syllables of Hangul without a last consonant: every twenty-eighth one. -/
def openSyllables : CharSet := (List.range 399).map fun n => (0xAC00 + 28 * n, 0xAC00 + 28 * n)

def closedSyllables : CharSet := CharSet.diff [(0xAC00, 0xD7A3)] openSyllables

def grapheme? (value : String) : Option CharSet :=
  match value with
  | "cr" => some [(0x0D, 0x0D)]
  | "lf" => some [(0x0A, 0x0A)]
  | "control" | "cn" => some controls
  | "extend" | "ex" => some extenders
  | "zwj" => some joiner
  | "regionalindicator" | "ri" => some (listed "regionalindicator")
  | "prepend" | "pp" => some prepended
  | "spacingmark" | "sm" => some spacingMarks
  | "l" => some (ofHex ["1100-115F A960-A97C"])
  | "v" => some (ofHex ["1160-11A7 D7B0-D7C6 16D63 16D67-16D6A"])
  | "t" => some (ofHex ["11A8-11FF D7CB-D7FB"])
  | "lv" => some openSyllables
  | "lvt" => some closedSyllables
  | _ => none

/-! ## Words -/

/-- Marks and joiners that words and sentences do not see. -/
def wordExtenders : CharSet := (extenders.union (categories ["Mc"])).diff joiner

def formats : CharSet := (categories ["Cf"]).diff (extenders.union joiners)

def wordFormats : CharSet := (formats.diff precedingMarks).diff [(0x200B, 0x200B)]

def hebrewLetters : CharSet := ((script? "hebr").getD []).inter (categories ["Lo"])

def katakana : CharSet :=
  ((script? "kana").getD []).union (ofHex ["3031-3035 309B-309C 30A0 30FC FF70"])

/-- Letters of scripts that put no blanks between words. -/
def unspaced : CharSet :=
  ofHex ["E01-E30 E32-E33 E40-E46 E81-E82 E84 E86-E8A E8C-EA3 EA5 EA7-EB0 EB2-EB3 EBD EC0-EC4",
    "EC6 EDC-EDF 1000-102A 103F 1050-1055 105A-105D 1061 1065-1066 106E-1070 1075-1081 108E",
    "1780-17B3 17D7 17DC 1950-196D 1970-1974 1980-19AB 19B0-19C9 1A20-1A54 1AA7 A9E0-A9E4",
    "A9E6-A9EF A9FA-A9FE AA60-AA76 AA7A AA7E-AAAF AAB1 AAB5-AAB6 AAB9-AABD AAC0 AAC2 AADB-AADD",
    "11700-1171A 11740-11746"]

/-- Letters of scripts with blanks between words, and signs that count as such. -/
def wordLetters : CharSet :=
  ((alphabetic.diff (ofRanges (listed "ideographic" ++ katakana ++ (script? "hira").getD []))).diff
    (ofRanges (wordExtenders ++ hebrewLetters ++ unspaced))).union
    (ofHex ["B8 2C2-2C5 2D2-2D7 2DE-2DF 2E5-2EB 2ED 2EF-2FF 55A-55C 55E 58A 5F3 70F A708-A716",
      "A720-A721 A789-A78A AB5B"])

/-- Digits, and the signs that start numbers or divide them. -/
def wordNumbers : CharSet :=
  digits.union (ofHex ["600-605 66B 6DD 890-891 8E2 19DA 110BD 110CD"])

def word? (value : String) : Option CharSet :=
  match value with
  | "cr" => some [(0x0D, 0x0D)]
  | "lf" => some [(0x0A, 0x0A)]
  | "newline" | "nl" => some (ofHex ["B-C 85 2028-2029"])
  | "extend" => some wordExtenders
  | "zwj" => some joiner
  | "format" | "fo" => some wordFormats
  | "regionalindicator" | "ri" => some (listed "regionalindicator")
  | "katakana" | "ka" => some katakana
  | "hebrewletter" | "hl" => some hebrewLetters
  | "aletter" | "le" => some wordLetters
  | "singlequote" | "sq" => some [(0x27, 0x27)]
  | "doublequote" | "dq" => some [(0x22, 0x22)]
  | "midnumlet" | "mb" => some (ofHex ["2E 2018-2019 2024 FE52 FF07 FF0E"])
  | "midletter" | "ml" => some (ofHex ["3A B7 387 55F 5F4 2027 FE13 FE55 FF1A"])
  | "midnum" | "mn" =>
    some (ofHex ["2C 3B 37E 589 60C-60D 66C 7F8 2044 FE10 FE14 FE50 FE54 FF0C FF1B"])
  | "numeric" | "nu" => some wordNumbers
  | "extendnumlet" | "ex" => some ((categories ["Pc"]).union [(0x202F, 0x202F)])
  | "wsegspace" => some ((categories ["Zs"]).diff (ofHex ["A0 2007 202F"]))
  | _ => none

/-! ## Sentences -/

/-- Georgian letters with two forms, which mean nothing for sentences. -/
def georgian : CharSet := ofHex ["10D0-10FA 10FD-10FF 1C90-1CBA 1CBD-1CBF"]

def sentenceExtenders : CharSet := (graphemeExtend.union (categories ["Mc"])).union joiner

def sentenceLower : CharSet := (lowercase.diff graphemeExtend).diff georgian

def sentenceUpper : CharSet := (uppercase.union (categories ["Lt"])).diff georgian

def sentenceLetters : CharSet :=
  (alphabetic.diff (ofRanges (sentenceLower ++ sentenceUpper ++ sentenceExtenders))).union
    [(0x5F3, 0x5F3)]

/-- Format characters that are part of no number. -/
def sentenceFormats : CharSet := formats.diff wordNumbers

def separators : CharSet := ofHex ["85 2028-2029"]

/-- Full stops, which need not end a sentence. -/
def fullStops : CharSet := ofHex ["2E 2024 FE52 FF0E"]

/-- Brackets and quotation marks. -/
def closers : CharSet :=
  (((categories ["Ps", "Pe", "Pi", "Pf"]).union (listed "quotationmark")).diff
    (ofHex ["FF02 FF07"])).union (ofHex ["275B-2760 2E00-2E01 2E06-2E08 2E0B 1F676-1F678"])

def sentence? (value : String) : Option CharSet :=
  match value with
  | "cr" => some [(0x0D, 0x0D)]
  | "lf" => some [(0x0A, 0x0A)]
  | "extend" | "ex" => some sentenceExtenders
  | "sep" | "se" => some separators
  | "format" | "fo" => some sentenceFormats
  | "sp" => some (blanks.diff (ofRanges (separators ++ [(0x0A, 0x0A), (0x0D, 0x0D)])))
  | "lower" | "lo" => some sentenceLower
  | "upper" | "up" => some sentenceUpper
  | "oletter" | "le" => some sentenceLetters
  | "numeric" | "nu" => some (wordNumbers.union [(0x66C, 0x66C)])
  | "aterm" | "at" => some fullStops
  | "scontinue" | "sc" =>
    some (ofHex ["2C-2D 3A-3B 37E 55D 60C-60D 7F8 1802 1808 2013-2014 3001 FE10-FE11 FE13-FE14",
      "FE31-FE32 FE50-FE51 FE54-FE55 FE58 FE63 FF0C-FF0D FF1A-FF1B FF64"])
  | "sterm" | "st" => some ((listed "sentenceterminal").diff fullStops)
  | "close" | "cl" => some closers
  | _ => none

end Patchbay.Pattern.Breaks
