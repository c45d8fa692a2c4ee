import Workbook.Unicode.Derived
import Workbook.Unicode.Script

/-!
Where text breaks.

Three properties class the characters for the rules by which text is divided into what a reader
takes for one character (`graphemeBreaks`), into words (`wordBreaks`) and into sentences
(`sentenceBreaks`).  The standard gives most classes by rules over other properties, and so does
this module; the tables are the exceptions.
-/

namespace Workbook
namespace Unicode

def lineFeed : CharSet := .singleton 0xa

def carriageReturn : CharSet := .singleton 0xd

def zeroWidthJoiner : CharSet := .singleton 0x200d

/-! ## Characters as readers see them -/

def graphemeExtenders : CharSet := graphemeExtend.union emojiModifier

/-- Controls break text at both sides: so do format characters that stand for nothing themselves. -/
def graphemeControl : CharSet :=
  .diff (.unions [lineSeparator, paragraphSeparator, control, format,
      unassigned.inter defaultIgnorable])
    (.unions [lineFeed, carriageReturn, .table ["200C-200D"], prependedConcatenationMark,
      graphemeExtenders])

/-- Marks and vowels that take space, as far as they belong to what is in front. -/
def graphemeSpacing : CharSet :=
  .diff (spacingMark.union (.table ["E33 EB3"]))
    (graphemeExtenders.union (.table [
      "102B-102C 1038 1062-1064 1067-106D 1083 1087-108C 108F 109A-109C 1A61 1A63-1A64 AA7B",
      "AA7D 11720-11721"]))

/-- Hangul syllables without a final consonant, each followed by those that have one. -/
def openSyllable : CharSet := .table ["AC00-D788/1C"]

def closedSyllable : CharSet := .diff (.table ["AC00-D7A3"]) openSyllable

def graphemeBreaks : List CharSet.Named := [
  ⟨["CN", "Control"], graphemeControl⟩,
  ⟨["CR"], carriageReturn⟩,
  ⟨["EX", "Extend"], graphemeExtenders⟩,
  ⟨["L"], .table ["1100-115F A960-A97C"]⟩,
  ⟨["LF"], lineFeed⟩,
  ⟨["LV"], openSyllable⟩,
  ⟨["LVT"], closedSyllable⟩,
  ⟨["PP", "Prepend"], prependedConcatenationMark.union (.table [
    "D4E 111C2-111C3 113D1 1193F 11941 11A3A 11A84-11A89 11D46 11F02"])⟩,
  ⟨["RI", "Regional_Indicator"], regionalIndicator⟩,
  ⟨["SM", "SpacingMark"], graphemeSpacing⟩,
  ⟨["T"], .table ["11A8-11FF D7CB-D7FB"]⟩,
  ⟨["V"], .table ["1160-11A7 D7B0-D7C6 16D63 16D67-16D6A"]⟩,
  ⟨["ZWJ"], zeroWidthJoiner⟩]

/-! ## Words -/

def wordExtenders : CharSet :=
  .diff (.unions [graphemeExtend, spacingMark, emojiModifier]) zeroWidthJoiner

def wordFormat : CharSet :=
  format.diff (.unions [.table ["200B-200D"], prependedConcatenationMark, wordExtenders])

def wordKatakana : CharSet := katakana.union (.table ["3031-3035 309B-309C 30A0 30FC FF70"])

def hebrewLetter : CharSet := hebrew.inter otherLetter

def wordNumeric : CharSet :=
  .diff (.unions [decimalNumber, prependedConcatenationMark, .table ["66B"]]) (.table ["70F"])

/-- Letters of scripts in which words follow each other without space. -/
def unspacedLetter : CharSet := .table [
  "E01-E30 E32-E33 E40-E46 E81-E82 E84 E86-E8A E8C-EA3 EA5 EA7-EB0 EB2-EB3 EBD EC0-EC4 EC6",
  "EDC-EDF 1000-102A 103F 1050-1055 105A-105D 1061 1065-1066 106E-1070 1075-1081 108E",
  "1780-17B3 17D7 17DC 1950-196D 1970-1974 1980-19AB 19B0-19C9 1A20-1A54 1AA7 A9E0-A9E4",
  "A9E6-A9EF A9FA-A9FE AA60-AA76 AA7A AA7E-AAAF AAB1 AAB5-AAB6 AAB9-AABD AAC0 AAC2 AADB-AADD",
  "11700-1171A 11740-11746"]

/-- Letters and signs inside words, of scripts that divide words by space. -/
def wordLetter : CharSet :=
  .diff
    (alphabetic.union (.table [
      "2C2-2C5 2D2-2D7 2DE-2DF 2E5-2EB 2ED 2EF-2FF 55A-55C 55E 58A 5F3 70F A708-A716 A720-A721",
      "A789-A78A AB5B"]))
    (.unions [ideographic, wordKatakana, hiragana, wordExtenders, hebrewLetter, wordNumeric,
      unspacedLetter, .table ["2139 24C2 1F170-1F171 1F17E-1F17F"]])

def wordBreaks : List CharSet.Named := [
  ⟨["CR"], carriageReturn⟩,
  ⟨["DQ", "Double_Quote"], .singleton 0x22⟩,
  ⟨["EX", "ExtendNumLet"], connectorPunctuation.union (.singleton 0x202f)⟩,
  ⟨["Extend"], wordExtenders⟩,
  ⟨["FO", "Format"], wordFormat⟩,
  ⟨["HL", "Hebrew_Letter"], hebrewLetter⟩,
  ⟨["KA", "Katakana"], wordKatakana⟩,
  ⟨["LE", "ALetter"], wordLetter⟩,
  ⟨["LF"], lineFeed⟩,
  ⟨["MB", "MidNumLet"], .table ["2E 2018-2019 2024 FE52 FF07 FF0E"]⟩,
  ⟨["ML", "MidLetter"], .table ["3A B7 387 55F 5F4 2027 FE13 FE55 FF1A"]⟩,
  ⟨["MN", "MidNum"], .table ["2C 3B 37E 589 60C-60D 66C 7F8 2044 FE10 FE14 FE50 FE54 FF0C FF1B"]⟩,
  ⟨["NL", "Newline"], .table ["B-C 85 2028-2029"]⟩,
  ⟨["NU", "Numeric"], wordNumeric⟩,
  ⟨["RI", "Regional_Indicator"], regionalIndicator⟩,
  ⟨["SQ", "Single_Quote"], .singleton 0x27⟩,
  ⟨["WSegSpace"], spaceSeparator.diff (.table ["A0 2007 202F"])⟩,
  ⟨["ZWJ"], zeroWidthJoiner⟩]

/-! ## Sentences -/

def sentenceExtenders : CharSet := .unions [graphemeExtend, spacingMark, zeroWidthJoiner]

def sentenceEnd : CharSet := .table ["85 2028-2029"]

/-- The capital letters of the Georgian script do not begin sentences. -/
def sentenceUpper : CharSet :=
  .diff (titlecaseLetter.union uppercase) (.table ["1C90-1CBA 1CBD-1CBF"])

def sentenceLower : CharSet :=
  lowercase.diff (sentenceExtenders.union (.table ["10D0-10FA 10FD-10FF"]))

def sentenceStop : CharSet := .table ["2E 2024 FE52 FF0E"]

def sentenceTerm : CharSet := sentenceTerminal.diff sentenceStop

def sentenceBreaks : List CharSet.Named := [
  ⟨["AT", "ATerm"], sentenceStop⟩,
  ⟨["CL", "Close"], .unions [openPunctuation, closePunctuation, initialPunctuation,
    finalPunctuation, .table ["22 27 275B-2760 2E00-2E01 2E06-2E08 2E0B 1F676-1F678"]]⟩,
  ⟨["CR"], carriageReturn⟩,
  ⟨["EX", "Extend"], sentenceExtenders⟩,
  ⟨["FO", "Format"], format.diff (sentenceExtenders.union (.table ["200C-200D"]))⟩,
  ⟨["LE", "OLetter"], .diff (alphabetic.union (.singleton 0x5f3))
    (.unions [sentenceLower, sentenceUpper, sentenceExtenders])⟩,
  ⟨["LF"], lineFeed⟩,
  ⟨["LO", "Lower"], sentenceLower⟩,
  ⟨["NU", "Numeric"], decimalNumber.union (.table ["66B-66C"])⟩,
  ⟨["SC", "SContinue"], .table [
    "2C-2D 3A-3B 37E 55D 60C-60D 7F8 1802 1808 2013-2014 3001 FE10-FE11 FE13-FE14 FE31-FE32",
    "FE50-FE51 FE54-FE55 FE58 FE63 FF0C-FF0D FF1A-FF1B FF64"]⟩,
  ⟨["SE", "Sep"], sentenceEnd⟩,
  ⟨["SP", "Sp"], whiteSpace.diff (.unions [sentenceEnd, carriageReturn, lineFeed])⟩,
  ⟨["ST", "STerm"], sentenceTerm⟩,
  ⟨["UP", "Upper"], sentenceUpper⟩]

end Unicode
end Workbook
