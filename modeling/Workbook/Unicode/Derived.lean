import Workbook.Unicode.CaseFold
import Workbook.Unicode.Category
import Workbook.Unicode.Property

/-!
Properties that follow from others.

The standard derives these from general categories and from the listed properties, so they are
given by their rules; the tables here are only the exceptions that a rule names.
-/

namespace Workbook
namespace Unicode

def lowercase : CharSet := lowercaseLetter.union otherLowercase

def uppercase : CharSet := uppercaseLetter.union otherUppercase

def cased : CharSet := .unions [lowercase, uppercase, titlecaseLetter]

def alphabetic : CharSet :=
  .unions [lowercase, uppercase, titlecaseLetter, modifierLetter, otherLetter, letterNumber,
    otherAlphabetic]

def math : CharSet := mathSymbol.union otherMath

def graphemeExtend : CharSet := .unions [enclosingMark, nonspacingMark, otherGraphemeExtend]

def graphemeBase : CharSet :=
  .diff .all (.unions [control, format, privateUse, unassigned, lineSeparator, paragraphSeparator,
    graphemeExtend])

/-- Format characters that one should see if the text around them is not laid out. -/
def visibleFormat : CharSet := .union (.table ["FFF9-FFFB 13430-13440"]) prependedConcatenationMark

def defaultIgnorable : CharSet :=
  .diff (.unions [otherDefaultIgnorable, format, variationSelector])
    (whiteSpace.union visibleFormat)

/-! ## Identifiers -/

/-- What patterns use for themselves, and so no identifier has. -/
def patternUse : CharSet := patternSyntax.union patternWhiteSpace

def idStart : CharSet := .diff (.unions [letter, letterNumber, otherIdStart]) patternUse

def idContinue : CharSet :=
  .diff (.unions [idStart, nonspacingMark, spacingMark, decimalNumber, connectorPunctuation,
    otherIdContinue]) patternUse

/-- The same for identifiers that stay such when their text is normalized. -/
def xidStart : CharSet := idStart.diff (.table [
  "37A E33 EB3 309B-309C FC5E-FC63 FDFA-FDFB FE70-FE7E/2 FF9E-FF9F"])

def xidContinue : CharSet := idContinue.diff (.table [
  "37A 309B-309C FC5E-FC63 FDFA-FDFB FE70-FE7E/2"])

def idCompatMathContinue : CharSet :=
  idCompatMathStart.union (.table ["B2-B3 B9 2070 2074-207E 2080-208E"])

/-! ## Changes of case -/

/-- The characters inside words that have no case and do not end it. -/
def caseIgnorable : CharSet :=
  .unions [nonspacingMark, enclosingMark, format, modifierLetter, modifierSymbol,
    .table ["27 2E 3A B7 387 55F 5F4 2018-2019 2024 2027 FE13 FE52 FE55 FF07 FF0E FF1A"]]

/-- Capital letters without a small form. -/
def fixedUppercase : CharSet := .table [
  "3D2-3D4 2102 2107 210B-210D 2110-2112 2115 2119-211D 2124 2128 212C-212D 2130-2131 2133",
  "213E-213F 2145 1D400-1D419 1D434-1D44D 1D468-1D481 1D49C 1D49E-1D49F 1D4A2 1D4A5-1D4A6",
  "1D4A9-1D4AC 1D4AE-1D4B5 1D4D0-1D4E9 1D504-1D505 1D507-1D50A 1D50D-1D514 1D516-1D51C",
  "1D538-1D539 1D53B-1D53E 1D540-1D544 1D546 1D54A-1D550 1D56C-1D585 1D5A0-1D5B9 1D5D4-1D5ED",
  "1D608-1D621 1D63C-1D655 1D670-1D689 1D6A8-1D6C0 1D6E2-1D6FA 1D71C-1D734 1D756-1D76E",
  "1D790-1D7A8 1D7CA 1F130-1F149 1F150-1F169 1F170-1F189"]

/-- Small letters without a capital form. -/
def fixedLowercase : CharSet := .table [
  "AA BA 138 18D 1AA-1AB 1BA 1BE 221 234-239 255 258 25A 25D-25F 262 267 26D-26E 270 273-274",
  "276-27C 27E-27F 281 284-286 28D-291 293 295-29C 29F-2B8 2C0-2C1 2E0-2E4 37A 3FC 560 588",
  "10FC 1D00-1D78 1D7A-1D7C 1D7E-1D8D 1D8F-1DBF 1E9C-1E9D 1E9F 2071 207F 2090-209C 210A",
  "210E-210F 2113 212F 2134 2139 213C-213D 2146-2149 2C71 2C74 2C77-2C7D 2CE4 A69C-A69D",
  "A730-A731 A770-A778 A78E A795 A7AF A7F2-A7F4 A7F8-A7FA AB30-AB52 AB54-AB5A AB5C-AB69 10780",
  "10783-10785 10787-107B0 107B2-107BA 1D41A-1D433 1D44E-1D454 1D456-1D467 1D482-1D49B",
  "1D4B6-1D4B9 1D4BB 1D4BD-1D4C3 1D4C5-1D4CF 1D4EA-1D503 1D51E-1D537 1D552-1D56B 1D586-1D59F",
  "1D5BA-1D5D3 1D5EE-1D607 1D622-1D63B 1D656-1D66F 1D68A-1D6A5 1D6C2-1D6DA 1D6DC-1D6E1",
  "1D6FC-1D714 1D716-1D71B 1D736-1D74E 1D750-1D755 1D770-1D788 1D78A-1D78F 1D7AA-1D7C2",
  "1D7C4-1D7C9 1D7CB 1DF00-1DF09 1DF0B-1DF1E 1DF25-1DF2A 1E030-1E06D"]

def changesWhenLowercased : CharSet := (uppercase.union titlecaseLetter).diff fixedUppercase

def changesWhenUppercased : CharSet := (lowercase.union titlecaseLetter).diff fixedLowercase

/-- Letters that change as the first of a word: of the digraphs also the capital ones, and of the
Georgian script none. -/
def changesWhenTitlecased : CharSet :=
  .union (.table ["1C4 1C7 1CA 1F1"])
    (changesWhenUppercased.diff (titlecaseLetter.union (.table ["10D0-10FA 10FD-10FF"])))

def changesWhenCasemapped : CharSet :=
  .unions [changesWhenLowercased, changesWhenUppercased, changesWhenTitlecased]

/-- Characters that fold, also those that fold to several others only, but for the three that are
made up of characters that do not. -/
def changesWhenCasefolded : CharSet :=
  .union (folding.diff (.table ["1FBE 1FD3 1FE3"])) (.table [
    "DF 130 149 587 1E9A 1F80-1F87 1F90-1F97 1FA0-1FA7 1FB2-1FB4 1FB7 1FC2-1FC4 1FC7 1FF2-1FF4",
    "1FF7 FB00-FB04 FB06 FB13-FB17"])

/-- The sets of the properties that follow from others. -/
def derivedProperties : List CharSet.Named := [
  ⟨["Lower", "Lowercase"], lowercase⟩,
  ⟨["Upper", "Uppercase"], uppercase⟩,
  ⟨["Cased"], cased⟩,
  ⟨["Alpha", "Alphabetic"], alphabetic⟩,
  ⟨["Math"], math⟩,
  ⟨["Gr_Ext", "Grapheme_Extend"], graphemeExtend⟩,
  ⟨["Gr_Base", "Grapheme_Base"], graphemeBase⟩,
  ⟨["DI", "Default_Ignorable_Code_Point"], defaultIgnorable⟩,
  ⟨["IDS", "ID_Start"], idStart⟩,
  ⟨["IDC", "ID_Continue"], idContinue⟩,
  ⟨["XIDS", "XID_Start"], xidStart⟩,
  ⟨["XIDC", "XID_Continue"], xidContinue⟩,
  ⟨["ID_Compat_Math_Continue"], idCompatMathContinue⟩,
  ⟨["CI", "Case_Ignorable"], caseIgnorable⟩,
  ⟨["CWL", "Changes_When_Lowercased"], changesWhenLowercased⟩,
  ⟨["CWU", "Changes_When_Uppercased"], changesWhenUppercased⟩,
  ⟨["CWT", "Changes_When_Titlecased"], changesWhenTitlecased⟩,
  ⟨["CWCM", "Changes_When_Casemapped"], changesWhenCasemapped⟩,
  ⟨["CWCF", "Changes_When_Casefolded"], changesWhenCasefolded⟩]

end Unicode
end Workbook
