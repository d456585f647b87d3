import LineFill.Text.CharRange

/-!
Line-breaking classes of characters, by the property `Line_Break` of Unicode 15.0. The table leaves
out Hangul syllables, whose class follows from their number, and alphabetic characters. Ambiguous,
surrogate and unknown ones are left out as well, since by the first of the rules they count as
alphabetic.
-/
namespace LineFill

/-- The classes BK, CR, LF, CM, NL, SG, WJ, ZW, GL, SP, ZWJ, B2, BA, BB, HY, CB, CL, CP, EX, IN,
NS, OP, QU, IS, NU, PO, PR, SY, AI, AL, CJ, EB, EM, H2, H3, HL, ID, JL, JV, JT, RI, SA and XX, in
this order. -/
inductive BreakClass
  | mandatoryBreak
  | carriageReturn
  | lineFeed
  | combiningMark
  | nextLine
  | surrogate
  | wordJoiner
  | zeroWidthSpace
  | glue
  | space
  | zeroWidthJoiner
  | breakBothSides
  | breakAfter
  | breakBefore
  | hyphen
  | contingentBreak
  | closePunctuation
  | closeParenthesis
  | exclamation
  | inseparable
  | nonStarter
  | openPunctuation
  | quotation
  | numericSeparator
  | numeric
  | unitAfter
  | unitBefore
  | breakingSymbol
  | ambiguous
  | alphabetic
  | conditionalJapanese
  | emojiBase
  | emojiModifier
  | hangulLV
  | hangulLVT
  | hebrewLetter
  | ideographic
  | hangulL
  | hangulV
  | hangulT
  | regionalIndicator
  | complexContext
  | unknown
  deriving DecidableEq, Repr

namespace BreakClass

/-- Where the class stands in the order of its declaration. -/
def column (cls : BreakClass) : Nat := cls.ctorIdx

def ranges : List (CharRange BreakClass) := [
  ⟨0x0000, 0x0008, .combiningMark⟩, ⟨0x0009, 0x0009, .breakAfter⟩, ⟨0x000A, 0x000A, .lineFeed⟩,
  ⟨0x000B, 0x000C, .mandatoryBreak⟩, ⟨0x000D, 0x000D, .carriageReturn⟩,
  ⟨0x000E, 0x001F, .combiningMark⟩, ⟨0x0020, 0x0020, .space⟩, ⟨0x0021, 0x0021, .exclamation⟩,
  ⟨0x0022, 0x0022, .quotation⟩, ⟨0x0024, 0x0024, .unitBefore⟩, ⟨0x0025, 0x0025, .unitAfter⟩,
  ⟨0x0027, 0x0027, .quotation⟩, ⟨0x0028, 0x0028, .openPunctuation⟩,
  ⟨0x0029, 0x0029, .closeParenthesis⟩, ⟨0x002B, 0x002B, .unitBefore⟩,
  ⟨0x002C, 0x002C, .numericSeparator⟩, ⟨0x002D, 0x002D, .hyphen⟩,
  ⟨0x002E, 0x002E, .numericSeparator⟩, ⟨0x002F, 0x002F, .breakingSymbol⟩,
  ⟨0x0030, 0x0039, .numeric⟩, ⟨0x003A, 0x003B, .numericSeparator⟩, ⟨0x003F, 0x003F, .exclamation⟩,
  ⟨0x005B, 0x005B, .openPunctuation⟩, ⟨0x005C, 0x005C, .unitBefore⟩,
  ⟨0x005D, 0x005D, .closeParenthesis⟩, ⟨0x007B, 0x007B, .openPunctuation⟩,
  ⟨0x007C, 0x007C, .breakAfter⟩, ⟨0x007D, 0x007D, .closePunctuation⟩,
  ⟨0x007F, 0x0084, .combiningMark⟩, ⟨0x0085, 0x0085, .nextLine⟩, ⟨0x0086, 0x009F, .combiningMark⟩,
  ⟨0x00A0, 0x00A0, .glue⟩, ⟨0x00A1, 0x00A1, .openPunctuation⟩, ⟨0x00A2, 0x00A2, .unitAfter⟩,
  ⟨0x00A3, 0x00A5, .unitBefore⟩, ⟨0x00AB, 0x00AB, .quotation⟩, ⟨0x00AD, 0x00AD, .breakAfter⟩,
  ⟨0x00B0, 0x00B0, .unitAfter⟩, ⟨0x00B1, 0x00B1, .unitBefore⟩, ⟨0x00B4, 0x00B4, .breakBefore⟩,
  ⟨0x00BB, 0x00BB, .quotation⟩, ⟨0x00BF, 0x00BF, .openPunctuation⟩,
  ⟨0x02C8, 0x02C8, .breakBefore⟩, ⟨0x02CC, 0x02CC, .breakBefore⟩, ⟨0x02DF, 0x02DF, .breakBefore⟩,
  ⟨0x0300, 0x034E, .combiningMark⟩, ⟨0x034F, 0x034F, .glue⟩, ⟨0x0350, 0x035B, .combiningMark⟩,
  ⟨0x035C, 0x0362, .glue⟩, ⟨0x0363, 0x036F, .combiningMark⟩, ⟨0x037E, 0x037E, .numericSeparator⟩,
  ⟨0x0483, 0x0489, .combiningMark⟩, ⟨0x0589, 0x0589, .numericSeparator⟩,
  ⟨0x058A, 0x058A, .breakAfter⟩, ⟨0x058F, 0x058F, .unitBefore⟩, ⟨0x0591, 0x05BD, .combiningMark⟩,
  ⟨0x05BE, 0x05BE, .breakAfter⟩, ⟨0x05BF, 0x05BF, .combiningMark⟩,
  ⟨0x05C1, 0x05C2, .combiningMark⟩, ⟨0x05C4, 0x05C5, .combiningMark⟩,
  ⟨0x05C6, 0x05C6, .exclamation⟩, ⟨0x05C7, 0x05C7, .combiningMark⟩,
  ⟨0x05D0, 0x05EA, .hebrewLetter⟩, ⟨0x05EF, 0x05F2, .hebrewLetter⟩, ⟨0x0609, 0x060B, .unitAfter⟩,
  ⟨0x060C, 0x060D, .numericSeparator⟩, ⟨0x0610, 0x061A, .combiningMark⟩,
  ⟨0x061B, 0x061B, .exclamation⟩, ⟨0x061C, 0x061C, .combiningMark⟩,
  ⟨0x061D, 0x061F, .exclamation⟩, ⟨0x064B, 0x065F, .combiningMark⟩, ⟨0x0660, 0x0669, .numeric⟩,
  ⟨0x066A, 0x066A, .unitAfter⟩, ⟨0x066B, 0x066C, .numeric⟩, ⟨0x0670, 0x0670, .combiningMark⟩,
  ⟨0x06D4, 0x06D4, .exclamation⟩, ⟨0x06D6, 0x06DC, .combiningMark⟩,
  ⟨0x06DF, 0x06E4, .combiningMark⟩, ⟨0x06E7, 0x06E8, .combiningMark⟩,
  ⟨0x06EA, 0x06ED, .combiningMark⟩, ⟨0x06F0, 0x06F9, .numeric⟩, ⟨0x0711, 0x0711, .combiningMark⟩,
  ⟨0x0730, 0x074A, .combiningMark⟩, ⟨0x07A6, 0x07B0, .combiningMark⟩, ⟨0x07C0, 0x07C9, .numeric⟩,
  ⟨0x07EB, 0x07F3, .combiningMark⟩, ⟨0x07F8, 0x07F8, .numericSeparator⟩,
  ⟨0x07F9, 0x07F9, .exclamation⟩, ⟨0x07FD, 0x07FD, .combiningMark⟩, ⟨0x07FE, 0x07FF, .unitBefore⟩,
  ⟨0x0816, 0x0819, .combiningMark⟩, ⟨0x081B, 0x0823, .combiningMark⟩,
  ⟨0x0825, 0x0827, .combiningMark⟩, ⟨0x0829, 0x082D, .combiningMark⟩,
  ⟨0x0859, 0x085B, .combiningMark⟩, ⟨0x0898, 0x089F, .combiningMark⟩,
  ⟨0x08CA, 0x08E1, .combiningMark⟩, ⟨0x08E3, 0x0903, .combiningMark⟩,
  ⟨0x093A, 0x093C, .combiningMark⟩, ⟨0x093E, 0x094F, .combiningMark⟩,
  ⟨0x0951, 0x0957, .combiningMark⟩, ⟨0x0962, 0x0963, .combiningMark⟩,
  ⟨0x0964, 0x0965, .breakAfter⟩, ⟨0x0966, 0x096F, .numeric⟩, ⟨0x0981, 0x0983, .combiningMark⟩,
  ⟨0x09BC, 0x09BC, .combiningMark⟩, ⟨0x09BE, 0x09C4, .combiningMark⟩,
  ⟨0x09C7, 0x09C8, .combiningMark⟩, ⟨0x09CB, 0x09CD, .combiningMark⟩,
  ⟨0x09D7, 0x09D7, .combiningMark⟩, ⟨0x09E2, 0x09E3, .combiningMark⟩, ⟨0x09E6, 0x09EF, .numeric⟩,
  ⟨0x09F2, 0x09F3, .unitAfter⟩, ⟨0x09F9, 0x09F9, .unitAfter⟩, ⟨0x09FB, 0x09FB, .unitBefore⟩,
  ⟨0x09FE, 0x09FE, .combiningMark⟩, ⟨0x0A01, 0x0A03, .combiningMark⟩,
  ⟨0x0A3C, 0x0A3C, .combiningMark⟩, ⟨0x0A3E, 0x0A42, .combiningMark⟩,
  ⟨0x0A47, 0x0A48, .combiningMark⟩, ⟨0x0A4B, 0x0A4D, .combiningMark⟩,
  ⟨0x0A51, 0x0A51, .combiningMark⟩, ⟨0x0A66, 0x0A6F, .numeric⟩, ⟨0x0A70, 0x0A71, .combiningMark⟩,
  ⟨0x0A75, 0x0A75, .combiningMark⟩, ⟨0x0A81, 0x0A83, .combiningMark⟩,
  ⟨0x0ABC, 0x0ABC, .combiningMark⟩, ⟨0x0ABE, 0x0AC5, .combiningMark⟩,
  ⟨0x0AC7, 0x0AC9, .combiningMark⟩, ⟨0x0ACB, 0x0ACD, .combiningMark⟩,
  ⟨0x0AE2, 0x0AE3, .combiningMark⟩, ⟨0x0AE6, 0x0AEF, .numeric⟩, ⟨0x0AF1, 0x0AF1, .unitBefore⟩,
  ⟨0x0AFA, 0x0AFF, .combiningMark⟩, ⟨0x0B01, 0x0B03, .combiningMark⟩,
  ⟨0x0B3C, 0x0B3C, .combiningMark⟩, ⟨0x0B3E, 0x0B44, .combiningMark⟩,
  ⟨0x0B47, 0x0B48, .combiningMark⟩, ⟨0x0B4B, 0x0B4D, .combiningMark⟩,
  ⟨0x0B55, 0x0B57, .combiningMark⟩, ⟨0x0B62, 0x0B63, .combiningMark⟩, ⟨0x0B66, 0x0B6F, .numeric⟩,
  ⟨0x0B82, 0x0B82, .combiningMark⟩, ⟨0x0BBE, 0x0BC2, .combiningMark⟩,
  ⟨0x0BC6, 0x0BC8, .combiningMark⟩, ⟨0x0BCA, 0x0BCD, .combiningMark⟩,
  ⟨0x0BD7, 0x0BD7, .combiningMark⟩, ⟨0x0BE6, 0x0BEF, .numeric⟩, ⟨0x0BF9, 0x0BF9, .unitBefore⟩,
  ⟨0x0C00, 0x0C04, .combiningMark⟩, ⟨0x0C3C, 0x0C3C, .combiningMark⟩,
  ⟨0x0C3E, 0x0C44, .combiningMark⟩, ⟨0x0C46, 0x0C48, .combiningMark⟩,
  ⟨0x0C4A, 0x0C4D, .combiningMark⟩, ⟨0x0C55, 0x0C56, .combiningMark⟩,
  ⟨0x0C62, 0x0C63, .combiningMark⟩, ⟨0x0C66, 0x0C6F, .numeric⟩, ⟨0x0C77, 0x0C77, .breakBefore⟩,
  ⟨0x0C81, 0x0C83, .combiningMark⟩, ⟨0x0C84, 0x0C84, .breakBefore⟩,
  ⟨0x0CBC, 0x0CBC, .combiningMark⟩, ⟨0x0CBE, 0x0CC4, .combiningMark⟩,
  ⟨0x0CC6, 0x0CC8, .combiningMark⟩, ⟨0x0CCA, 0x0CCD, .combiningMark⟩,
  ⟨0x0CD5, 0x0CD6, .combiningMark⟩, ⟨0x0CE2, 0x0CE3, .combiningMark⟩, ⟨0x0CE6, 0x0CEF, .numeric⟩,
  ⟨0x0CF3, 0x0CF3, .combiningMark⟩, ⟨0x0D00, 0x0D03, .combiningMark⟩,
  ⟨0x0D3B, 0x0D3C, .combiningMark⟩, ⟨0x0D3E, 0x0D44, .combiningMark⟩,
  ⟨0x0D46, 0x0D48, .combiningMark⟩, ⟨0x0D4A, 0x0D4D, .combiningMark⟩,
  ⟨0x0D57, 0x0D57, .combiningMark⟩, ⟨0x0D62, 0x0D63, .combiningMark⟩, ⟨0x0D66, 0x0D6F, .numeric⟩,
  ⟨0x0D79, 0x0D79, .unitAfter⟩, ⟨0x0D81, 0x0D83, .combiningMark⟩,
  ⟨0x0DCA, 0x0DCA, .combiningMark⟩, ⟨0x0DCF, 0x0DD4, .combiningMark⟩,
  ⟨0x0DD6, 0x0DD6, .combiningMark⟩, ⟨0x0DD8, 0x0DDF, .combiningMark⟩, ⟨0x0DE6, 0x0DEF, .numeric⟩,
  ⟨0x0DF2, 0x0DF3, .combiningMark⟩, ⟨0x0E01, 0x0E3A, .complexContext⟩,
  ⟨0x0E3F, 0x0E3F, .unitBefore⟩, ⟨0x0E40, 0x0E4E, .complexContext⟩, ⟨0x0E50, 0x0E59, .numeric⟩,
  ⟨0x0E5A, 0x0E5B, .breakAfter⟩, ⟨0x0E81, 0x0E82, .complexContext⟩,
  ⟨0x0E84, 0x0E84, .complexContext⟩, ⟨0x0E86, 0x0E8A, .complexContext⟩,
  ⟨0x0E8C, 0x0EA3, .complexContext⟩, ⟨0x0EA5, 0x0EA5, .complexContext⟩,
  ⟨0x0EA7, 0x0EBD, .complexContext⟩, ⟨0x0EC0, 0x0EC4, .complexContext⟩,
  ⟨0x0EC6, 0x0EC6, .complexContext⟩, ⟨0x0EC8, 0x0ECE, .complexContext⟩,
  ⟨0x0ED0, 0x0ED9, .numeric⟩, ⟨0x0EDC, 0x0EDF, .complexContext⟩, ⟨0x0F01, 0x0F04, .breakBefore⟩,
  ⟨0x0F06, 0x0F07, .breakBefore⟩, ⟨0x0F08, 0x0F08, .glue⟩, ⟨0x0F09, 0x0F0A, .breakBefore⟩,
  ⟨0x0F0B, 0x0F0B, .breakAfter⟩, ⟨0x0F0C, 0x0F0C, .glue⟩, ⟨0x0F0D, 0x0F11, .exclamation⟩,
  ⟨0x0F12, 0x0F12, .glue⟩, ⟨0x0F14, 0x0F14, .exclamation⟩, ⟨0x0F18, 0x0F19, .combiningMark⟩,
  ⟨0x0F20, 0x0F29, .numeric⟩, ⟨0x0F34, 0x0F34, .breakAfter⟩, ⟨0x0F35, 0x0F35, .combiningMark⟩,
  ⟨0x0F37, 0x0F37, .combiningMark⟩, ⟨0x0F39, 0x0F39, .combiningMark⟩,
  ⟨0x0F3A, 0x0F3A, .openPunctuation⟩, ⟨0x0F3B, 0x0F3B, .closePunctuation⟩,
  ⟨0x0F3C, 0x0F3C, .openPunctuation⟩, ⟨0x0F3D, 0x0F3D, .closePunctuation⟩,
  ⟨0x0F3E, 0x0F3F, .combiningMark⟩, ⟨0x0F71, 0x0F7E, .combiningMark⟩,
  ⟨0x0F7F, 0x0F7F, .breakAfter⟩, ⟨0x0F80, 0x0F84, .combiningMark⟩, ⟨0x0F85, 0x0F85, .breakAfter⟩,
  ⟨0x0F86, 0x0F87, .combiningMark⟩, ⟨0x0F8D, 0x0F97, .combiningMark⟩,
  ⟨0x0F99, 0x0FBC, .combiningMark⟩, ⟨0x0FBE, 0x0FBF, .breakAfter⟩,
  ⟨0x0FC6, 0x0FC6, .combiningMark⟩, ⟨0x0FD0, 0x0FD1, .breakBefore⟩, ⟨0x0FD2, 0x0FD2, .breakAfter⟩,
  ⟨0x0FD3, 0x0FD3, .breakBefore⟩, ⟨0x0FD9, 0x0FDA, .glue⟩, ⟨0x1000, 0x103F, .complexContext⟩,
  ⟨0x1040, 0x1049, .numeric⟩, ⟨0x104A, 0x104B, .breakAfter⟩, ⟨0x1050, 0x108F, .complexContext⟩,
  ⟨0x1090, 0x1099, .numeric⟩, ⟨0x109A, 0x109F, .complexContext⟩, ⟨0x1100, 0x115F, .hangulL⟩,
  ⟨0x1160, 0x11A7, .hangulV⟩, ⟨0x11A8, 0x11FF, .hangulT⟩, ⟨0x135D, 0x135F, .combiningMark⟩,
  ⟨0x1361, 0x1361, .breakAfter⟩, ⟨0x1400, 0x1400, .breakAfter⟩, ⟨0x1680, 0x1680, .breakAfter⟩,
  ⟨0x169B, 0x169B, .openPunctuation⟩, ⟨0x169C, 0x169C, .closePunctuation⟩,
  ⟨0x16EB, 0x16ED, .breakAfter⟩, ⟨0x1712, 0x1715, .combiningMark⟩,
  ⟨0x1732, 0x1734, .combiningMark⟩, ⟨0x1735, 0x1736, .breakAfter⟩,
  ⟨0x1752, 0x1753, .combiningMark⟩, ⟨0x1772, 0x1773, .combiningMark⟩,
  ⟨0x1780, 0x17D3, .complexContext⟩, ⟨0x17D4, 0x17D5, .breakAfter⟩, ⟨0x17D6, 0x17D6, .nonStarter⟩,
  ⟨0x17D7, 0x17D7, .complexContext⟩, ⟨0x17D8, 0x17D8, .breakAfter⟩, ⟨0x17DA, 0x17DA, .breakAfter⟩,
  ⟨0x17DB, 0x17DB, .unitBefore⟩, ⟨0x17DC, 0x17DD, .complexContext⟩, ⟨0x17E0, 0x17E9, .numeric⟩,
  ⟨0x1802, 0x1803, .exclamation⟩, ⟨0x1804, 0x1805, .breakAfter⟩, ⟨0x1806, 0x1806, .breakBefore⟩,
  ⟨0x1808, 0x1809, .exclamation⟩, ⟨0x180B, 0x180D, .combiningMark⟩, ⟨0x180E, 0x180E, .glue⟩,
  ⟨0x180F, 0x180F, .combiningMark⟩, ⟨0x1810, 0x1819, .numeric⟩, ⟨0x1885, 0x1886, .combiningMark⟩,
  ⟨0x18A9, 0x18A9, .combiningMark⟩, ⟨0x1920, 0x192B, .combiningMark⟩,
  ⟨0x1930, 0x193B, .combiningMark⟩, ⟨0x1944, 0x1945, .exclamation⟩, ⟨0x1946, 0x194F, .numeric⟩,
  ⟨0x1950, 0x196D, .complexContext⟩, ⟨0x1970, 0x1974, .complexContext⟩,
  ⟨0x1980, 0x19AB, .complexContext⟩, ⟨0x19B0, 0x19C9, .complexContext⟩,
  ⟨0x19D0, 0x19D9, .numeric⟩, ⟨0x19DA, 0x19DA, .complexContext⟩,
  ⟨0x19DE, 0x19DF, .complexContext⟩, ⟨0x1A17, 0x1A1B, .combiningMark⟩,
  ⟨0x1A20, 0x1A5E, .complexContext⟩, ⟨0x1A60, 0x1A7C, .complexContext⟩,
  ⟨0x1A7F, 0x1A7F, .combiningMark⟩, ⟨0x1A80, 0x1A89, .numeric⟩, ⟨0x1A90, 0x1A99, .numeric⟩,
  ⟨0x1AA0, 0x1AAD, .complexContext⟩, ⟨0x1AB0, 0x1ACE, .combiningMark⟩,
  ⟨0x1B00, 0x1B04, .combiningMark⟩, ⟨0x1B34, 0x1B44, .combiningMark⟩, ⟨0x1B50, 0x1B59, .numeric⟩,
  ⟨0x1B5A, 0x1B5B, .breakAfter⟩, ⟨0x1B5D, 0x1B60, .breakAfter⟩, ⟨0x1B6B, 0x1B73, .combiningMark⟩,
  ⟨0x1B7D, 0x1B7E, .breakAfter⟩, ⟨0x1B80, 0x1B82, .combiningMark⟩,
  ⟨0x1BA1, 0x1BAD, .combiningMark⟩, ⟨0x1BB0, 0x1BB9, .numeric⟩, ⟨0x1BE6, 0x1BF3, .combiningMark⟩,
  ⟨0x1C24, 0x1C37, .combiningMark⟩, ⟨0x1C3B, 0x1C3F, .breakAfter⟩, ⟨0x1C40, 0x1C49, .numeric⟩,
  ⟨0x1C50, 0x1C59, .numeric⟩, ⟨0x1C7E, 0x1C7F, .breakAfter⟩, ⟨0x1CD0, 0x1CD2, .combiningMark⟩,
  ⟨0x1CD4, 0x1CE8, .combiningMark⟩, ⟨0x1CED, 0x1CED, .combiningMark⟩,
  ⟨0x1CF4, 0x1CF4, .combiningMark⟩, ⟨0x1CF7, 0x1CF9, .combiningMark⟩,
  ⟨0x1DC0, 0x1DCC, .combiningMark⟩, ⟨0x1DCD, 0x1DCD, .glue⟩, ⟨0x1DCE, 0x1DFB, .combiningMark⟩,
  ⟨0x1DFC, 0x1DFC, .glue⟩, ⟨0x1DFD, 0x1DFF, .combiningMark⟩, ⟨0x1FFD, 0x1FFD, .breakBefore⟩,
  ⟨0x2000, 0x2006, .breakAfter⟩, ⟨0x2007, 0x2007, .glue⟩, ⟨0x2008, 0x200A, .breakAfter⟩,
  ⟨0x200B, 0x200B, .zeroWidthSpace⟩, ⟨0x200C, 0x200C, .combiningMark⟩,
  ⟨0x200D, 0x200D, .zeroWidthJoiner⟩, ⟨0x200E, 0x200F, .combiningMark⟩,
  ⟨0x2010, 0x2010, .breakAfter⟩, ⟨0x2011, 0x2011, .glue⟩, ⟨0x2012, 0x2013, .breakAfter⟩,
  ⟨0x2014, 0x2014, .breakBothSides⟩, ⟨0x2018, 0x2019, .quotation⟩,
  ⟨0x201A, 0x201A, .openPunctuation⟩, ⟨0x201B, 0x201D, .quotation⟩,
  ⟨0x201E, 0x201E, .openPunctuation⟩, ⟨0x201F, 0x201F, .quotation⟩,
  ⟨0x2024, 0x2026, .inseparable⟩, ⟨0x2027, 0x2027, .breakAfter⟩,
  ⟨0x2028, 0x2029, .mandatoryBreak⟩, ⟨0x202A, 0x202E, .combiningMark⟩, ⟨0x202F, 0x202F, .glue⟩,
  ⟨0x2030, 0x2037, .unitAfter⟩, ⟨0x2039, 0x203A, .quotation⟩, ⟨0x203C, 0x203D, .nonStarter⟩,
  ⟨0x2044, 0x2044, .numericSeparator⟩, ⟨0x2045, 0x2045, .openPunctuation⟩,
  ⟨0x2046, 0x2046, .closePunctuation⟩, ⟨0x2047, 0x2049, .nonStarter⟩,
  ⟨0x2056, 0x2056, .breakAfter⟩, ⟨0x2057, 0x2057, .unitAfter⟩, ⟨0x2058, 0x205B, .breakAfter⟩,
  ⟨0x205D, 0x205F, .breakAfter⟩, ⟨0x2060, 0x2060, .wordJoiner⟩, ⟨0x2066, 0x206F, .combiningMark⟩,
  ⟨0x207D, 0x207D, .openPunctuation⟩, ⟨0x207E, 0x207E, .closePunctuation⟩,
  ⟨0x208D, 0x208D, .openPunctuation⟩, ⟨0x208E, 0x208E, .closePunctuation⟩,
  ⟨0x20A0, 0x20A6, .unitBefore⟩, ⟨0x20A7, 0x20A7, .unitAfter⟩, ⟨0x20A8, 0x20B5, .unitBefore⟩,
  ⟨0x20B6, 0x20B6, .unitAfter⟩, ⟨0x20B7, 0x20BA, .unitBefore⟩, ⟨0x20BB, 0x20BB, .unitAfter⟩,
  ⟨0x20BC, 0x20BD, .unitBefore⟩, ⟨0x20BE, 0x20BE, .unitAfter⟩, ⟨0x20BF, 0x20BF, .unitBefore⟩,
  ⟨0x20C0, 0x20C0, .unitAfter⟩, ⟨0x20C1, 0x20CF, .unitBefore⟩, ⟨0x20D0, 0x20F0, .combiningMark⟩,
  ⟨0x2103, 0x2103, .unitAfter⟩, ⟨0x2109, 0x2109, .unitAfter⟩, ⟨0x2116, 0x2116, .unitBefore⟩,
  ⟨0x2212, 0x2213, .unitBefore⟩, ⟨0x22EF, 0x22EF, .inseparable⟩,
  ⟨0x2308, 0x2308, .openPunctuation⟩, ⟨0x2309, 0x2309, .closePunctuation⟩,
  ⟨0x230A, 0x230A, .openPunctuation⟩, ⟨0x230B, 0x230B, .closePunctuation⟩,
  ⟨0x231A, 0x231B, .ideographic⟩, ⟨0x2329, 0x2329, .openPunctuation⟩,
  ⟨0x232A, 0x232A, .closePunctuation⟩, ⟨0x23F0, 0x23F3, .ideographic⟩,
  ⟨0x2600, 0x2603, .ideographic⟩, ⟨0x2614, 0x2615, .ideographic⟩, ⟨0x2618, 0x2618, .ideographic⟩,
  ⟨0x261A, 0x261C, .ideographic⟩, ⟨0x261D, 0x261D, .emojiBase⟩, ⟨0x261E, 0x261F, .ideographic⟩,
  ⟨0x2639, 0x263B, .ideographic⟩, ⟨0x2668, 0x2668, .ideographic⟩, ⟨0x267F, 0x267F, .ideographic⟩,
  ⟨0x26BD, 0x26C8, .ideographic⟩, ⟨0x26CD, 0x26CD, .ideographic⟩, ⟨0x26CF, 0x26D1, .ideographic⟩,
  ⟨0x26D3, 0x26D4, .ideographic⟩, ⟨0x26D8, 0x26D9, .ideographic⟩, ⟨0x26DC, 0x26DC, .ideographic⟩,
  ⟨0x26DF, 0x26E1, .ideographic⟩, ⟨0x26EA, 0x26EA, .ideographic⟩, ⟨0x26F1, 0x26F5, .ideographic⟩,
  ⟨0x26F7, 0x26F8, .ideographic⟩, ⟨0x26F9, 0x26F9, .emojiBase⟩, ⟨0x26FA, 0x26FA, .ideographic⟩,
  ⟨0x26FD, 0x2704, .ideographic⟩, ⟨0x2708, 0x2709, .ideographic⟩, ⟨0x270A, 0x270D, .emojiBase⟩,
  ⟨0x275B, 0x2760, .quotation⟩, ⟨0x2762, 0x2763, .exclamation⟩, ⟨0x2764, 0x2764, .ideographic⟩,
  ⟨0x2768, 0x2768, .openPunctuation⟩, ⟨0x2769, 0x2769, .closePunctuation⟩,
  ⟨0x276A, 0x276A, .openPunctuation⟩, ⟨0x276B, 0x276B, .closePunctuation⟩,
  ⟨0x276C, 0x276C, .openPunctuation⟩, ⟨0x276D, 0x276D, .closePunctuation⟩,
  ⟨0x276E, 0x276E, .openPunctuation⟩, ⟨0x276F, 0x276F, .closePunctuation⟩,
  ⟨0x2770, 0x2770, .openPunctuation⟩, ⟨0x2771, 0x2771, .closePunctuation⟩,
  ⟨0x2772, 0x2772, .openPunctuation⟩, ⟨0x2773, 0x2773, .closePunctuation⟩,
  ⟨0x2774, 0x2774, .openPunctuation⟩, ⟨0x2775, 0x2775, .closePunctuation⟩,
  ⟨0x27C5, 0x27C5, .openPunctuation⟩, ⟨0x27C6, 0x27C6, .closePunctuation⟩,
  ⟨0x27E6, 0x27E6, .openPunctuation⟩, ⟨0x27E7, 0x27E7, .closePunctuation⟩,
  ⟨0x27E8, 0x27E8, .openPunctuation⟩, ⟨0x27E9, 0x27E9, .closePunctuation⟩,
  ⟨0x27EA, 0x27EA, .openPunctuation⟩, ⟨0x27EB, 0x27EB, .closePunctuation⟩,
  ⟨0x27EC, 0x27EC, .openPunctuation⟩, ⟨0x27ED, 0x27ED, .closePunctuation⟩,
  ⟨0x27EE, 0x27EE, .openPunctuation⟩, ⟨0x27EF, 0x27EF, .closePunctuation⟩,
  ⟨0x2983, 0x2983, .openPunctuation⟩, ⟨0x2984, 0x2984, .closePunctuation⟩,
  ⟨0x2985, 0x2985, .openPunctuation⟩, ⟨0x2986, 0x2986, .closePunctuation⟩,
  ⟨0x2987, 0x2987, .openPunctuation⟩, ⟨0x2988, 0x2988, .closePunctuation⟩,
  ⟨0x2989, 0x2989, .openPunctuation⟩, ⟨0x298A, 0x298A, .closePunctuation⟩,
  ⟨0x298B, 0x298B, .openPunctuation⟩, ⟨0x298C, 0x298C, .closePunctuation⟩,
  ⟨0x298D, 0x298D, .openPunctuation⟩, ⟨0x298E, 0x298E, .closePunctuation⟩,
  ⟨0x298F, 0x298F, .openPunctuation⟩, ⟨0x2990, 0x2990, .closePunctuation⟩,
  ⟨0x2991, 0x2991, .openPunctuation⟩, ⟨0x2992, 0x2992, .closePunctuation⟩,
  ⟨0x2993, 0x2993, .openPunctuation⟩, ⟨0x2994, 0x2994, .closePunctuation⟩,
  ⟨0x2995, 0x2995, .openPunctuation⟩, ⟨0x2996, 0x2996, .closePunctuation⟩,
  ⟨0x2997, 0x2997, .openPunctuation⟩, ⟨0x2998, 0x2998, .closePunctuation⟩,
  ⟨0x29D8, 0x29D8, .openPunctuation⟩, ⟨0x29D9, 0x29D9, .closePunctuation⟩,
  ⟨0x29DA, 0x29DA, .openPunctuation⟩, ⟨0x29DB, 0x29DB, .closePunctuation⟩,
  ⟨0x29FC, 0x29FC, .openPunctuation⟩, ⟨0x29FD, 0x29FD, .closePunctuation⟩,
  ⟨0x2CEF, 0x2CF1, .combiningMark⟩, ⟨0x2CF9, 0x2CF9, .exclamation⟩, ⟨0x2CFA, 0x2CFC, .breakAfter⟩,
  ⟨0x2CFE, 0x2CFE, .exclamation⟩, ⟨0x2CFF, 0x2CFF, .breakAfter⟩, ⟨0x2D70, 0x2D70, .breakAfter⟩,
  ⟨0x2D7F, 0x2D7F, .combiningMark⟩, ⟨0x2DE0, 0x2DFF, .combiningMark⟩,
  ⟨0x2E00, 0x2E0D, .quotation⟩, ⟨0x2E0E, 0x2E15, .breakAfter⟩, ⟨0x2E17, 0x2E17, .breakAfter⟩,
  ⟨0x2E18, 0x2E18, .openPunctuation⟩, ⟨0x2E19, 0x2E19, .breakAfter⟩, ⟨0x2E1C, 0x2E1D, .quotation⟩,
  ⟨0x2E20, 0x2E21, .quotation⟩, ⟨0x2E22, 0x2E22, .openPunctuation⟩,
  ⟨0x2E23, 0x2E23, .closePunctuation⟩, ⟨0x2E24, 0x2E24, .openPunctuation⟩,
  ⟨0x2E25, 0x2E25, .closePunctuation⟩, ⟨0x2E26, 0x2E26, .openPunctuation⟩,
  ⟨0x2E27, 0x2E27, .closePunctuation⟩, ⟨0x2E28, 0x2E28, .openPunctuation⟩,
  ⟨0x2E29, 0x2E29, .closePunctuation⟩, ⟨0x2E2A, 0x2E2D, .breakAfter⟩,
  ⟨0x2E2E, 0x2E2E, .exclamation⟩, ⟨0x2E30, 0x2E31, .breakAfter⟩, ⟨0x2E33, 0x2E34, .breakAfter⟩,
  ⟨0x2E3A, 0x2E3B, .breakBothSides⟩, ⟨0x2E3C, 0x2E3E, .breakAfter⟩, ⟨0x2E40, 0x2E41, .breakAfter⟩,
  ⟨0x2E42, 0x2E42, .openPunctuation⟩, ⟨0x2E43, 0x2E4A, .breakAfter⟩,
  ⟨0x2E4C, 0x2E4C, .breakAfter⟩, ⟨0x2E4E, 0x2E4F, .breakAfter⟩, ⟨0x2E53, 0x2E54, .exclamation⟩,
  ⟨0x2E55, 0x2E55, .openPunctuation⟩, ⟨0x2E56, 0x2E56, .closePunctuation⟩,
  ⟨0x2E57, 0x2E57, .openPunctuation⟩, ⟨0x2E58, 0x2E58, .closePunctuation⟩,
  ⟨0x2E59, 0x2E59, .openPunctuation⟩, ⟨0x2E5A, 0x2E5A, .closePunctuation⟩,
  ⟨0x2E5B, 0x2E5B, .openPunctuation⟩, ⟨0x2E5C, 0x2E5C, .closePunctuation⟩,
  ⟨0x2E5D, 0x2E5D, .breakAfter⟩, ⟨0x2E80, 0x2E99, .ideographic⟩, ⟨0x2E9B, 0x2EF3, .ideographic⟩,
  ⟨0x2F00, 0x2FD5, .ideographic⟩, ⟨0x2FF0, 0x2FFB, .ideographic⟩, ⟨0x3000, 0x3000, .breakAfter⟩,
  ⟨0x3001, 0x3002, .closePunctuation⟩, ⟨0x3003, 0x3004, .ideographic⟩,
  ⟨0x3005, 0x3005, .nonStarter⟩, ⟨0x3006, 0x3007, .ideographic⟩,
  ⟨0x3008, 0x3008, .openPunctuation⟩, ⟨0x3009, 0x3009, .closePunctuation⟩,
  ⟨0x300A, 0x300A, .openPunctuation⟩, ⟨0x300B, 0x300B, .closePunctuation⟩,
  ⟨0x300C, 0x300C, .openPunctuation⟩, ⟨0x300D, 0x300D, .closePunctuation⟩,
  ⟨0x300E, 0x300E, .openPunctuation⟩, ⟨0x300F, 0x300F, .closePunctuation⟩,
  ⟨0x3010, 0x3010, .openPunctuation⟩, ⟨0x3011, 0x3011, .closePunctuation⟩,
  ⟨0x3012, 0x3013, .ideographic⟩, ⟨0x3014, 0x3014, .openPunctuation⟩,
  ⟨0x3015, 0x3015, .closePunctuation⟩, ⟨0x3016, 0x3016, .openPunctuation⟩,
  ⟨0x3017, 0x3017, .closePunctuation⟩, ⟨0x3018, 0x3018, .openPunctuation⟩,
  ⟨0x3019, 0x3019, .closePunctuation⟩, ⟨0x301A, 0x301A, .openPunctuation⟩,
  ⟨0x301B, 0x301B, .closePunctuation⟩, ⟨0x301C, 0x301C, .nonStarter⟩,
  ⟨0x301D, 0x301D, .openPunctuation⟩, ⟨0x301E, 0x301F, .closePunctuation⟩,
  ⟨0x3020, 0x3029, .ideographic⟩, ⟨0x302A, 0x302F, .combiningMark⟩,
  ⟨0x3030, 0x3034, .ideographic⟩, ⟨0x3035, 0x3035, .combiningMark⟩,
  ⟨0x3036, 0x303A, .ideographic⟩, ⟨0x303B, 0x303C, .nonStarter⟩, ⟨0x303D, 0x303F, .ideographic⟩,
  ⟨0x3041, 0x3041, .conditionalJapanese⟩, ⟨0x3042, 0x3042, .ideographic⟩,
  ⟨0x3043, 0x3043, .conditionalJapanese⟩, ⟨0x3044, 0x3044, .ideographic⟩,
  ⟨0x3045, 0x3045, .conditionalJapanese⟩, ⟨0x3046, 0x3046, .ideographic⟩,
  ⟨0x3047, 0x3047, .conditionalJapanese⟩, ⟨0x3048, 0x3048, .ideographic⟩,
  ⟨0x3049, 0x3049, .conditionalJapanese⟩, ⟨0x304A, 0x3062, .ideographic⟩,
  ⟨0x3063, 0x3063, .conditionalJapanese⟩, ⟨0x3064, 0x3082, .ideographic⟩,
  ⟨0x3083, 0x3083, .conditionalJapanese⟩, ⟨0x3084, 0x3084, .ideographic⟩,
  ⟨0x3085, 0x3085, .conditionalJapanese⟩, ⟨0x3086, 0x3086, .ideographic⟩,
  ⟨0x3087, 0x3087, .conditionalJapanese⟩, ⟨0x3088, 0x308D, .ideographic⟩,
  ⟨0x308E, 0x308E, .conditionalJapanese⟩, ⟨0x308F, 0x3094, .ideographic⟩,
  ⟨0x3095, 0x3096, .conditionalJapanese⟩, ⟨0x3099, 0x309A, .combiningMark⟩,
  ⟨0x309B, 0x309E, .nonStarter⟩, ⟨0x309F, 0x309F, .ideographic⟩, ⟨0x30A0, 0x30A0, .nonStarter⟩,
  ⟨0x30A1, 0x30A1, .conditionalJapanese⟩, ⟨0x30A2, 0x30A2, .ideographic⟩,
  ⟨0x30A3, 0x30A3, .conditionalJapanese⟩, ⟨0x30A4, 0x30A4, .ideographic⟩,
  ⟨0x30A5, 0x30A5, .conditionalJapanese⟩, ⟨0x30A6, 0x30A6, .ideographic⟩,
  ⟨0x30A7, 0x30A7, .conditionalJapanese⟩, ⟨0x30A8, 0x30A8, .ideographic⟩,
  ⟨0x30A9, 0x30A9, .conditionalJapanese⟩, ⟨0x30AA, 0x30C2, .ideographic⟩,
  ⟨0x30C3, 0x30C3, .conditionalJapanese⟩, ⟨0x30C4, 0x30E2, .ideographic⟩,
  ⟨0x30E3, 0x30E3, .conditionalJapanese⟩, ⟨0x30E4, 0x30E4, .ideographic⟩,
  ⟨0x30E5, 0x30E5, .conditionalJapanese⟩, ⟨0x30E6, 0x30E6, .ideographic⟩,
  ⟨0x30E7, 0x30E7, .conditionalJapanese⟩, ⟨0x30E8, 0x30ED, .ideographic⟩,
  ⟨0x30EE, 0x30EE, .conditionalJapanese⟩, ⟨0x30EF, 0x30F4, .ideographic⟩,
  ⟨0x30F5, 0x30F6, .conditionalJapanese⟩, ⟨0x30F7, 0x30FA, .ideographic⟩,
  ⟨0x30FB, 0x30FB, .nonStarter⟩, ⟨0x30FC, 0x30FC, .conditionalJapanese⟩,
  ⟨0x30FD, 0x30FE, .nonStarter⟩, ⟨0x30FF, 0x30FF, .ideographic⟩, ⟨0x3105, 0x312F, .ideographic⟩,
  ⟨0x3131, 0x318E, .ideographic⟩, ⟨0x3190, 0x31E3, .ideographic⟩,
  ⟨0x31F0, 0x31FF, .conditionalJapanese⟩, ⟨0x3200, 0x321E, .ideographic⟩,
  ⟨0x3220, 0x3247, .ideographic⟩, ⟨0x3250, 0x4DBF, .ideographic⟩, ⟨0x4E00, 0xA014, .ideographic⟩,
  ⟨0xA015, 0xA015, .nonStarter⟩, ⟨0xA016, 0xA48C, .ideographic⟩, ⟨0xA490, 0xA4C6, .ideographic⟩,
  ⟨0xA4FE, 0xA4FF, .breakAfter⟩, ⟨0xA60D, 0xA60D, .breakAfter⟩, ⟨0xA60E, 0xA60E, .exclamation⟩,
  ⟨0xA60F, 0xA60F, .breakAfter⟩, ⟨0xA620, 0xA629, .numeric⟩, ⟨0xA66F, 0xA672, .combiningMark⟩,
  ⟨0xA674, 0xA67D, .combiningMark⟩, ⟨0xA69E, 0xA69F, .combiningMark⟩,
  ⟨0xA6F0, 0xA6F1, .combiningMark⟩, ⟨0xA6F3, 0xA6F7, .breakAfter⟩,
  ⟨0xA802, 0xA802, .combiningMark⟩, ⟨0xA806, 0xA806, .combiningMark⟩,
  ⟨0xA80B, 0xA80B, .combiningMark⟩, ⟨0xA823, 0xA827, .combiningMark⟩,
  ⟨0xA82C, 0xA82C, .combiningMark⟩, ⟨0xA838, 0xA838, .unitAfter⟩, ⟨0xA874, 0xA875, .breakBefore⟩,
  ⟨0xA876, 0xA877, .exclamation⟩, ⟨0xA880, 0xA881, .combiningMark⟩,
  ⟨0xA8B4, 0xA8C5, .combiningMark⟩, ⟨0xA8CE, 0xA8CF, .breakAfter⟩, ⟨0xA8D0, 0xA8D9, .numeric⟩,
  ⟨0xA8E0, 0xA8F1, .combiningMark⟩, ⟨0xA8FC, 0xA8FC, .breakBefore⟩,
  ⟨0xA8FF, 0xA8FF, .combiningMark⟩, ⟨0xA900, 0xA909, .numeric⟩, ⟨0xA926, 0xA92D, .combiningMark⟩,
  ⟨0xA92E, 0xA92F, .breakAfter⟩, ⟨0xA947, 0xA953, .combiningMark⟩, ⟨0xA960, 0xA97C, .hangulL⟩,
  ⟨0xA980, 0xA983, .combiningMark⟩, ⟨0xA9B3, 0xA9C0, .combiningMark⟩,
  ⟨0xA9C7, 0xA9C9, .breakAfter⟩, ⟨0xA9D0, 0xA9D9, .numeric⟩, ⟨0xA9E0, 0xA9EF, .complexContext⟩,
  ⟨0xA9F0, 0xA9F9, .numeric⟩, ⟨0xA9FA, 0xA9FE, .complexContext⟩, ⟨0xAA29, 0xAA36, .combiningMark⟩,
  ⟨0xAA43, 0xAA43, .combiningMark⟩, ⟨0xAA4C, 0xAA4D, .combiningMark⟩, ⟨0xAA50, 0xAA59, .numeric⟩,
  ⟨0xAA5D, 0xAA5F, .breakAfter⟩, ⟨0xAA60, 0xAAC2, .complexContext⟩,
  ⟨0xAADB, 0xAADF, .complexContext⟩, ⟨0xAAEB, 0xAAEF, .combiningMark⟩,
  ⟨0xAAF0, 0xAAF1, .breakAfter⟩, ⟨0xAAF5, 0xAAF6, .combiningMark⟩,
  ⟨0xABE3, 0xABEA, .combiningMark⟩, ⟨0xABEB, 0xABEB, .breakAfter⟩,
  ⟨0xABEC, 0xABED, .combiningMark⟩, ⟨0xABF0, 0xABF9, .numeric⟩, ⟨0xD7B0, 0xD7C6, .hangulV⟩,
  ⟨0xD7CB, 0xD7FB, .hangulT⟩, ⟨0xF900, 0xFAFF, .ideographic⟩, ⟨0xFB1D, 0xFB1D, .hebrewLetter⟩,
  ⟨0xFB1E, 0xFB1E, .combiningMark⟩, ⟨0xFB1F, 0xFB28, .hebrewLetter⟩,
  ⟨0xFB2A, 0xFB36, .hebrewLetter⟩, ⟨0xFB38, 0xFB3C, .hebrewLetter⟩,
  ⟨0xFB3E, 0xFB3E, .hebrewLetter⟩, ⟨0xFB40, 0xFB41, .hebrewLetter⟩,
  ⟨0xFB43, 0xFB44, .hebrewLetter⟩, ⟨0xFB46, 0xFB4F, .hebrewLetter⟩,
  ⟨0xFD3E, 0xFD3E, .closePunctuation⟩, ⟨0xFD3F, 0xFD3F, .openPunctuation⟩,
  ⟨0xFDFC, 0xFDFC, .unitAfter⟩, ⟨0xFE00, 0xFE0F, .combiningMark⟩,
  ⟨0xFE10, 0xFE10, .numericSeparator⟩, ⟨0xFE11, 0xFE12, .closePunctuation⟩,
  ⟨0xFE13, 0xFE14, .numericSeparator⟩, ⟨0xFE15, 0xFE16, .exclamation⟩,
  ⟨0xFE17, 0xFE17, .openPunctuation⟩, ⟨0xFE18, 0xFE18, .closePunctuation⟩,
  ⟨0xFE19, 0xFE19, .inseparable⟩, ⟨0xFE20, 0xFE2F, .combiningMark⟩,
  ⟨0xFE30, 0xFE34, .ideographic⟩, ⟨0xFE35, 0xFE35, .openPunctuation⟩,
  ⟨0xFE36, 0xFE36, .closePunctuation⟩, ⟨0xFE37, 0xFE37, .openPunctuation⟩,
  ⟨0xFE38, 0xFE38, .closePunctuation⟩, ⟨0xFE39, 0xFE39, .openPunctuation⟩,
  ⟨0xFE3A, 0xFE3A, .closePunctuation⟩, ⟨0xFE3B, 0xFE3B, .openPunctuation⟩,
  ⟨0xFE3C, 0xFE3C, .closePunctuation⟩, ⟨0xFE3D, 0xFE3D, .openPunctuation⟩,
  ⟨0xFE3E, 0xFE3E, .closePunctuation⟩, ⟨0xFE3F, 0xFE3F, .openPunctuation⟩,
  ⟨0xFE40, 0xFE40, .closePunctuation⟩, ⟨0xFE41, 0xFE41, .openPunctuation⟩,
  ⟨0xFE42, 0xFE42, .closePunctuation⟩, ⟨0xFE43, 0xFE43, .openPunctuation⟩,
  ⟨0xFE44, 0xFE44, .closePunctuation⟩, ⟨0xFE45, 0xFE46, .ideographic⟩,
  ⟨0xFE47, 0xFE47, .openPunctuation⟩, ⟨0xFE48, 0xFE48, .closePunctuation⟩,
  ⟨0xFE49, 0xFE4F, .ideographic⟩, ⟨0xFE50, 0xFE50, .closePunctuation⟩,
  ⟨0xFE51, 0xFE51, .ideographic⟩, ⟨0xFE52, 0xFE52, .closePunctuation⟩,
  ⟨0xFE54, 0xFE55, .nonStarter⟩, ⟨0xFE56, 0xFE57, .exclamation⟩, ⟨0xFE58, 0xFE58, .ideographic⟩,
  ⟨0xFE59, 0xFE59, .openPunctuation⟩, ⟨0xFE5A, 0xFE5A, .closePunctuation⟩,
  ⟨0xFE5B, 0xFE5B, .openPunctuation⟩, ⟨0xFE5C, 0xFE5C, .closePunctuation⟩,
  ⟨0xFE5D, 0xFE5D, .openPunctuation⟩, ⟨0xFE5E, 0xFE5E, .closePunctuation⟩,
  ⟨0xFE5F, 0xFE66, .ideographic⟩, ⟨0xFE68, 0xFE68, .ideographic⟩, ⟨0xFE69, 0xFE69, .unitBefore⟩,
  ⟨0xFE6A, 0xFE6A, .unitAfter⟩, ⟨0xFE6B, 0xFE6B, .ideographic⟩, ⟨0xFEFF, 0xFEFF, .wordJoiner⟩,
  ⟨0xFF01, 0xFF01, .exclamation⟩, ⟨0xFF02, 0xFF03, .ideographic⟩, ⟨0xFF04, 0xFF04, .unitBefore⟩,
  ⟨0xFF05, 0xFF05, .unitAfter⟩, ⟨0xFF06, 0xFF07, .ideographic⟩,
  ⟨0xFF08, 0xFF08, .openPunctuation⟩, ⟨0xFF09, 0xFF09, .closePunctuation⟩,
  ⟨0xFF0A, 0xFF0B, .ideographic⟩, ⟨0xFF0C, 0xFF0C, .closePunctuation⟩,
  ⟨0xFF0D, 0xFF0D, .ideographic⟩, ⟨0xFF0E, 0xFF0E, .closePunctuation⟩,
  ⟨0xFF0F, 0xFF19, .ideographic⟩, ⟨0xFF1A, 0xFF1B, .nonStarter⟩, ⟨0xFF1C, 0xFF1E, .ideographic⟩,
  ⟨0xFF1F, 0xFF1F, .exclamation⟩, ⟨0xFF20, 0xFF3A, .ideographic⟩,
  ⟨0xFF3B, 0xFF3B, .openPunctuation⟩, ⟨0xFF3C, 0xFF3C, .ideographic⟩,
  ⟨0xFF3D, 0xFF3D, .closePunctuation⟩, ⟨0xFF3E, 0xFF5A, .ideographic⟩,
  ⟨0xFF5B, 0xFF5B, .openPunctuation⟩, ⟨0xFF5C, 0xFF5C, .ideographic⟩,
  ⟨0xFF5D, 0xFF5D, .closePunctuation⟩, ⟨0xFF5E, 0xFF5E, .ideographic⟩,
  ⟨0xFF5F, 0xFF5F, .openPunctuation⟩, ⟨0xFF60, 0xFF61, .closePunctuation⟩,
  ⟨0xFF62, 0xFF62, .openPunctuation⟩, ⟨0xFF63, 0xFF64, .closePunctuation⟩,
  ⟨0xFF65, 0xFF65, .nonStarter⟩, ⟨0xFF66, 0xFF66, .ideographic⟩,
  ⟨0xFF67, 0xFF70, .conditionalJapanese⟩, ⟨0xFF71, 0xFF9D, .ideographic⟩,
  ⟨0xFF9E, 0xFF9F, .nonStarter⟩, ⟨0xFFA0, 0xFFBE, .ideographic⟩, ⟨0xFFC2, 0xFFC7, .ideographic⟩,
  ⟨0xFFCA, 0xFFCF, .ideographic⟩, ⟨0xFFD2, 0xFFD7, .ideographic⟩, ⟨0xFFDA, 0xFFDC, .ideographic⟩,
  ⟨0xFFE0, 0xFFE0, .unitAfter⟩, ⟨0xFFE1, 0xFFE1, .unitBefore⟩, ⟨0xFFE2, 0xFFE4, .ideographic⟩,
  ⟨0xFFE5, 0xFFE6, .unitBefore⟩, ⟨0xFFF9, 0xFFFB, .combiningMark⟩,
  ⟨0xFFFC, 0xFFFC, .contingentBreak⟩, ⟨0x10100, 0x10102, .breakAfter⟩,
  ⟨0x101FD, 0x101FD, .combiningMark⟩, ⟨0x102E0, 0x102E0, .combiningMark⟩,
  ⟨0x10376, 0x1037A, .combiningMark⟩, ⟨0x1039F, 0x1039F, .breakAfter⟩,
  ⟨0x103D0, 0x103D0, .breakAfter⟩, ⟨0x104A0, 0x104A9, .numeric⟩, ⟨0x10857, 0x10857, .breakAfter⟩,
  ⟨0x1091F, 0x1091F, .breakAfter⟩, ⟨0x10A01, 0x10A03, .combiningMark⟩,
  ⟨0x10A05, 0x10A06, .combiningMark⟩, ⟨0x10A0C, 0x10A0F, .combiningMark⟩,
  ⟨0x10A38, 0x10A3A, .combiningMark⟩, ⟨0x10A3F, 0x10A3F, .combiningMark⟩,
  ⟨0x10A50, 0x10A57, .breakAfter⟩, ⟨0x10AE5, 0x10AE6, .combiningMark⟩,
  ⟨0x10AF0, 0x10AF5, .breakAfter⟩, ⟨0x10AF6, 0x10AF6, .inseparable⟩,
  ⟨0x10B39, 0x10B3F, .breakAfter⟩, ⟨0x10D24, 0x10D27, .combiningMark⟩,
  ⟨0x10D30, 0x10D39, .numeric⟩, ⟨0x10EAB, 0x10EAC, .combiningMark⟩,
  ⟨0x10EAD, 0x10EAD, .breakAfter⟩, ⟨0x10EFD, 0x10EFF, .combiningMark⟩,
  ⟨0x10F46, 0x10F50, .combiningMark⟩, ⟨0x10F82, 0x10F85, .combiningMark⟩,
  ⟨0x11000, 0x11002, .combiningMark⟩, ⟨0x11038, 0x11046, .combiningMark⟩,
  ⟨0x11047, 0x11048, .breakAfter⟩, ⟨0x11066, 0x1106F, .numeric⟩,
  ⟨0x11070, 0x11070, .combiningMark⟩, ⟨0x11073, 0x11074, .combiningMark⟩,
  ⟨0x1107F, 0x11082, .combiningMark⟩, ⟨0x110B0, 0x110BA, .combiningMark⟩,
  ⟨0x110BE, 0x110C1, .breakAfter⟩, ⟨0x110C2, 0x110C2, .combiningMark⟩,
  ⟨0x110F0, 0x110F9, .numeric⟩, ⟨0x11100, 0x11102, .combiningMark⟩,
  ⟨0x11127, 0x11134, .combiningMark⟩, ⟨0x11136, 0x1113F, .numeric⟩,
  ⟨0x11140, 0x11143, .breakAfter⟩, ⟨0x11145, 0x11146, .combiningMark⟩,
  ⟨0x11173, 0x11173, .combiningMark⟩, ⟨0x11175, 0x11175, .breakBefore⟩,
  ⟨0x11180, 0x11182, .combiningMark⟩, ⟨0x111B3, 0x111C0, .combiningMark⟩,
  ⟨0x111C5, 0x111C6, .breakAfter⟩, ⟨0x111C8, 0x111C8, .breakAfter⟩,
  ⟨0x111C9, 0x111CC, .combiningMark⟩, ⟨0x111CE, 0x111CF, .combiningMark⟩,
  ⟨0x111D0, 0x111D9, .numeric⟩, ⟨0x111DB, 0x111DB, .breakBefore⟩, ⟨0x111DD, 0x111DF, .breakAfter⟩,
  ⟨0x1122C, 0x11237, .combiningMark⟩, ⟨0x11238, 0x11239, .breakAfter⟩,
  ⟨0x1123B, 0x1123C, .breakAfter⟩, ⟨0x1123E, 0x1123E, .combiningMark⟩,
  ⟨0x11241, 0x11241, .combiningMark⟩, ⟨0x112A9, 0x112A9, .breakAfter⟩,
  ⟨0x112DF, 0x112EA, .combiningMark⟩, ⟨0x112F0, 0x112F9, .numeric⟩,
  ⟨0x11300, 0x11303, .combiningMark⟩, ⟨0x1133B, 0x1133C, .combiningMark⟩,
  ⟨0x1133E, 0x11344, .combiningMark⟩, ⟨0x11347, 0x11348, .combiningMark⟩,
  ⟨0x1134B, 0x1134D, .combiningMark⟩, ⟨0x11357, 0x11357, .combiningMark⟩,
  ⟨0x11362, 0x11363, .combiningMark⟩, ⟨0x11366, 0x1136C, .combiningMark⟩,
  ⟨0x11370, 0x11374, .combiningMark⟩, ⟨0x11435, 0x11446, .combiningMark⟩,
  ⟨0x1144B, 0x1144E, .breakAfter⟩, ⟨0x11450, 0x11459, .numeric⟩, ⟨0x1145A, 0x1145B, .breakAfter⟩,
  ⟨0x1145E, 0x1145E, .combiningMark⟩, ⟨0x114B0, 0x114C3, .combiningMark⟩,
  ⟨0x114D0, 0x114D9, .numeric⟩, ⟨0x115AF, 0x115B5, .combiningMark⟩,
  ⟨0x115B8, 0x115C0, .combiningMark⟩, ⟨0x115C1, 0x115C1, .breakBefore⟩,
  ⟨0x115C2, 0x115C3, .breakAfter⟩, ⟨0x115C4, 0x115C5, .exclamation⟩,
  ⟨0x115C9, 0x115D7, .breakAfter⟩, ⟨0x115DC, 0x115DD, .combiningMark⟩,
  ⟨0x11630, 0x11640, .combiningMark⟩, ⟨0x11641, 0x11642, .breakAfter⟩,
  ⟨0x11650, 0x11659, .numeric⟩, ⟨0x11660, 0x1166C, .breakBefore⟩,
  ⟨0x116AB, 0x116B7, .combiningMark⟩, ⟨0x116C0, 0x116C9, .numeric⟩,
  ⟨0x11700, 0x1171A, .complexContext⟩, ⟨0x1171D, 0x1172B, .complexContext⟩,
  ⟨0x11730, 0x11739, .numeric⟩, ⟨0x1173A, 0x1173B, .complexContext⟩,
  ⟨0x1173C, 0x1173E, .breakAfter⟩, ⟨0x1173F, 0x11746, .complexContext⟩,
  ⟨0x1182C, 0x1183A, .combiningMark⟩, ⟨0x118E0, 0x118E9, .numeric⟩,
  ⟨0x11930, 0x11935, .combiningMark⟩, ⟨0x11937, 0x11938, .combiningMark⟩,
  ⟨0x1193B, 0x1193E, .combiningMark⟩, ⟨0x11940, 0x11940, .combiningMark⟩,
  ⟨0x11942, 0x11943, .combiningMark⟩, ⟨0x11944, 0x11946, .breakAfter⟩,
  ⟨0x11950, 0x11959, .numeric⟩, ⟨0x119D1, 0x119D7, .combiningMark⟩,
  ⟨0x119DA, 0x119E0, .combiningMark⟩, ⟨0x119E2, 0x119E2, .breakBefore⟩,
  ⟨0x119E4, 0x119E4, .combiningMark⟩, ⟨0x11A01, 0x11A0A, .combiningMark⟩,
  ⟨0x11A33, 0x11A39, .combiningMark⟩, ⟨0x11A3B, 0x11A3E, .combiningMark⟩,
  ⟨0x11A3F, 0x11A3F, .breakBefore⟩, ⟨0x11A41, 0x11A44, .breakAfter⟩,
  ⟨0x11A45, 0x11A45, .breakBefore⟩, ⟨0x11A47, 0x11A47, .combiningMark⟩,
  ⟨0x11A51, 0x11A5B, .combiningMark⟩, ⟨0x11A8A, 0x11A99, .combiningMark⟩,
  ⟨0x11A9A, 0x11A9C, .breakAfter⟩, ⟨0x11A9E, 0x11AA0, .breakBefore⟩,
  ⟨0x11AA1, 0x11AA2, .breakAfter⟩, ⟨0x11B00, 0x11B09, .breakBefore⟩,
  ⟨0x11C2F, 0x11C36, .combiningMark⟩, ⟨0x11C38, 0x11C3F, .combiningMark⟩,
  ⟨0x11C41, 0x11C45, .breakAfter⟩, ⟨0x11C50, 0x11C59, .numeric⟩, ⟨0x11C70, 0x11C70, .breakBefore⟩,
  ⟨0x11C71, 0x11C71, .exclamation⟩, ⟨0x11C92, 0x11CA7, .combiningMark⟩,
  ⟨0x11CA9, 0x11CB6, .combiningMark⟩, ⟨0x11D31, 0x11D36, .combiningMark⟩,
  ⟨0x11D3A, 0x11D3A, .combiningMark⟩, ⟨0x11D3C, 0x11D3D, .combiningMark⟩,
  ⟨0x11D3F, 0x11D45, .combiningMark⟩, ⟨0x11D47, 0x11D47, .combiningMark⟩,
  ⟨0x11D50, 0x11D59, .numeric⟩, ⟨0x11D8A, 0x11D8E, .combiningMark⟩,
  ⟨0x11D90, 0x11D91, .combiningMark⟩, ⟨0x11D93, 0x11D97, .combiningMark⟩,
  ⟨0x11DA0, 0x11DA9, .numeric⟩, ⟨0x11EF3, 0x11EF6, .combiningMark⟩,
  ⟨0x11F00, 0x11F01, .combiningMark⟩, ⟨0x11F03, 0x11F03, .combiningMark⟩,
  ⟨0x11F34, 0x11F3A, .combiningMark⟩, ⟨0x11F3E, 0x11F42, .combiningMark⟩,
  ⟨0x11F43, 0x11F44, .breakAfter⟩, ⟨0x11F45, 0x11F4F, .ideographic⟩, ⟨0x11F50, 0x11F59, .numeric⟩,
  ⟨0x11FDD, 0x11FE0, .unitAfter⟩, ⟨0x11FFF, 0x11FFF, .breakAfter⟩,
  ⟨0x12470, 0x12474, .breakAfter⟩, ⟨0x13258, 0x1325A, .openPunctuation⟩,
  ⟨0x1325B, 0x1325D, .closePunctuation⟩, ⟨0x13282, 0x13282, .closePunctuation⟩,
  ⟨0x13286, 0x13286, .openPunctuation⟩, ⟨0x13287, 0x13287, .closePunctuation⟩,
  ⟨0x13288, 0x13288, .openPunctuation⟩, ⟨0x13289, 0x13289, .closePunctuation⟩,
  ⟨0x13379, 0x13379, .openPunctuation⟩, ⟨0x1337A, 0x1337B, .closePunctuation⟩,
  ⟨0x13430, 0x13436, .glue⟩, ⟨0x13437, 0x13437, .openPunctuation⟩,
  ⟨0x13438, 0x13438, .closePunctuation⟩, ⟨0x13439, 0x1343B, .glue⟩,
  ⟨0x1343C, 0x1343C, .openPunctuation⟩, ⟨0x1343D, 0x1343D, .closePunctuation⟩,
  ⟨0x1343E, 0x1343E, .openPunctuation⟩, ⟨0x1343F, 0x1343F, .closePunctuation⟩,
  ⟨0x13440, 0x13440, .combiningMark⟩, ⟨0x13447, 0x13455, .combiningMark⟩,
  ⟨0x145CE, 0x145CE, .openPunctuation⟩, ⟨0x145CF, 0x145CF, .closePunctuation⟩,
  ⟨0x16A60, 0x16A69, .numeric⟩, ⟨0x16A6E, 0x16A6F, .breakAfter⟩, ⟨0x16AC0, 0x16AC9, .numeric⟩,
  ⟨0x16AF0, 0x16AF4, .combiningMark⟩, ⟨0x16AF5, 0x16AF5, .breakAfter⟩,
  ⟨0x16B30, 0x16B36, .combiningMark⟩, ⟨0x16B37, 0x16B39, .breakAfter⟩,
  ⟨0x16B44, 0x16B44, .breakAfter⟩, ⟨0x16B50, 0x16B59, .numeric⟩, ⟨0x16E97, 0x16E98, .breakAfter⟩,
  ⟨0x16F4F, 0x16F4F, .combiningMark⟩, ⟨0x16F51, 0x16F87, .combiningMark⟩,
  ⟨0x16F8F, 0x16F92, .combiningMark⟩, ⟨0x16FE0, 0x16FE3, .nonStarter⟩, ⟨0x16FE4, 0x16FE4, .glue⟩,
  ⟨0x16FF0, 0x16FF1, .combiningMark⟩, ⟨0x17000, 0x187F7, .ideographic⟩,
  ⟨0x18800, 0x18AFF, .ideographic⟩, ⟨0x18D00, 0x18D08, .ideographic⟩,
  ⟨0x1B000, 0x1B122, .ideographic⟩, ⟨0x1B132, 0x1B132, .conditionalJapanese⟩,
  ⟨0x1B150, 0x1B152, .conditionalJapanese⟩, ⟨0x1B155, 0x1B155, .conditionalJapanese⟩,
  ⟨0x1B164, 0x1B167, .conditionalJapanese⟩, ⟨0x1B170, 0x1B2FB, .ideographic⟩,
  ⟨0x1BC9D, 0x1BC9E, .combiningMark⟩, ⟨0x1BC9F, 0x1BC9F, .breakAfter⟩,
  ⟨0x1BCA0, 0x1BCA3, .combiningMark⟩, ⟨0x1CF00, 0x1CF2D, .combiningMark⟩,
  ⟨0x1CF30, 0x1CF46, .combiningMark⟩, ⟨0x1D165, 0x1D169, .combiningMark⟩,
  ⟨0x1D16D, 0x1D182, .combiningMark⟩, ⟨0x1D185, 0x1D18B, .combiningMark⟩,
  ⟨0x1D1AA, 0x1D1AD, .combiningMark⟩, ⟨0x1D242, 0x1D244, .combiningMark⟩,
  ⟨0x1D7CE, 0x1D7FF, .numeric⟩, ⟨0x1DA00, 0x1DA36, .combiningMark⟩,
  ⟨0x1DA3B, 0x1DA6C, .combiningMark⟩, ⟨0x1DA75, 0x1DA75, .combiningMark⟩,
  ⟨0x1DA84, 0x1DA84, .combiningMark⟩, ⟨0x1DA87, 0x1DA8A, .breakAfter⟩,
  ⟨0x1DA9B, 0x1DA9F, .combiningMark⟩, ⟨0x1DAA1, 0x1DAAF, .combiningMark⟩,
  ⟨0x1E000, 0x1E006, .combiningMark⟩, ⟨0x1E008, 0x1E018, .combiningMark⟩,
  ⟨0x1E01B, 0x1E021, .combiningMark⟩, ⟨0x1E023, 0x1E024, .combiningMark⟩,
  ⟨0x1E026, 0x1E02A, .combiningMark⟩, ⟨0x1E08F, 0x1E08F, .combiningMark⟩,
  ⟨0x1E130, 0x1E136, .combiningMark⟩, ⟨0x1E140, 0x1E149, .numeric⟩,
  ⟨0x1E2AE, 0x1E2AE, .combiningMark⟩, ⟨0x1E2EC, 0x1E2EF, .combiningMark⟩,
  ⟨0x1E2F0, 0x1E2F9, .numeric⟩, ⟨0x1E2FF, 0x1E2FF, .unitBefore⟩,
  ⟨0x1E4EC, 0x1E4EF, .combiningMark⟩, ⟨0x1E4F0, 0x1E4F9, .numeric⟩,
  ⟨0x1E8D0, 0x1E8D6, .combiningMark⟩, ⟨0x1E944, 0x1E94A, .combiningMark⟩,
  ⟨0x1E950, 0x1E959, .numeric⟩, ⟨0x1E95E, 0x1E95F, .openPunctuation⟩,
  ⟨0x1ECAC, 0x1ECAC, .unitAfter⟩, ⟨0x1ECB0, 0x1ECB0, .unitAfter⟩,
  ⟨0x1F000, 0x1F0FF, .ideographic⟩, ⟨0x1F10D, 0x1F10F, .ideographic⟩,
  ⟨0x1F16D, 0x1F16F, .ideographic⟩, ⟨0x1F1AD, 0x1F1E5, .ideographic⟩,
  ⟨0x1F1E6, 0x1F1FF, .regionalIndicator⟩, ⟨0x1F200, 0x1F384, .ideographic⟩,
  ⟨0x1F385, 0x1F385, .emojiBase⟩, ⟨0x1F386, 0x1F39B, .ideographic⟩,
  ⟨0x1F39E, 0x1F3B4, .ideographic⟩, ⟨0x1F3B7, 0x1F3BB, .ideographic⟩,
  ⟨0x1F3BD, 0x1F3C1, .ideographic⟩, ⟨0x1F3C2, 0x1F3C4, .emojiBase⟩,
  ⟨0x1F3C5, 0x1F3C6, .ideographic⟩, ⟨0x1F3C7, 0x1F3C7, .emojiBase⟩,
  ⟨0x1F3C8, 0x1F3C9, .ideographic⟩, ⟨0x1F3CA, 0x1F3CC, .emojiBase⟩,
  ⟨0x1F3CD, 0x1F3FA, .ideographic⟩, ⟨0x1F3FB, 0x1F3FF, .emojiModifier⟩,
  ⟨0x1F400, 0x1F441, .ideographic⟩, ⟨0x1F442, 0x1F443, .emojiBase⟩,
  ⟨0x1F444, 0x1F445, .ideographic⟩, ⟨0x1F446, 0x1F450, .emojiBase⟩,
  ⟨0x1F451, 0x1F465, .ideographic⟩, ⟨0x1F466, 0x1F478, .emojiBase⟩,
  ⟨0x1F479, 0x1F47B, .ideographic⟩, ⟨0x1F47C, 0x1F47C, .emojiBase⟩,
  ⟨0x1F47D, 0x1F480, .ideographic⟩, ⟨0x1F481, 0x1F483, .emojiBase⟩,
  ⟨0x1F484, 0x1F484, .ideographic⟩, ⟨0x1F485, 0x1F487, .emojiBase⟩,
  ⟨0x1F488, 0x1F48E, .ideographic⟩, ⟨0x1F48F, 0x1F48F, .emojiBase⟩,
  ⟨0x1F490, 0x1F490, .ideographic⟩, ⟨0x1F491, 0x1F491, .emojiBase⟩,
  ⟨0x1F492, 0x1F49F, .ideographic⟩, ⟨0x1F4A1, 0x1F4A1, .ideographic⟩,
  ⟨0x1F4A3, 0x1F4A3, .ideographic⟩, ⟨0x1F4A5, 0x1F4A9, .ideographic⟩,
  ⟨0x1F4AA, 0x1F4AA, .emojiBase⟩, ⟨0x1F4AB, 0x1F4AE, .ideographic⟩,
  ⟨0x1F4B0, 0x1F4B0, .ideographic⟩, ⟨0x1F4B3, 0x1F4FF, .ideographic⟩,
  ⟨0x1F507, 0x1F516, .ideographic⟩, ⟨0x1F525, 0x1F531, .ideographic⟩,
  ⟨0x1F54A, 0x1F573, .ideographic⟩, ⟨0x1F574, 0x1F575, .emojiBase⟩,
  ⟨0x1F576, 0x1F579, .ideographic⟩, ⟨0x1F57A, 0x1F57A, .emojiBase⟩,
  ⟨0x1F57B, 0x1F58F, .ideographic⟩, ⟨0x1F590, 0x1F590, .emojiBase⟩,
  ⟨0x1F591, 0x1F594, .ideographic⟩, ⟨0x1F595, 0x1F596, .emojiBase⟩,
  ⟨0x1F597, 0x1F5D3, .ideographic⟩, ⟨0x1F5DC, 0x1F5F3, .ideographic⟩,
  ⟨0x1F5FA, 0x1F644, .ideographic⟩, ⟨0x1F645, 0x1F647, .emojiBase⟩,
  ⟨0x1F648, 0x1F64A, .ideographic⟩, ⟨0x1F64B, 0x1F64F, .emojiBase⟩,
  ⟨0x1F676, 0x1F678, .quotation⟩, ⟨0x1F679, 0x1F67B, .nonStarter⟩,
  ⟨0x1F680, 0x1F6A2, .ideographic⟩, ⟨0x1F6A3, 0x1F6A3, .emojiBase⟩,
  ⟨0x1F6A4, 0x1F6B3, .ideographic⟩, ⟨0x1F6B4, 0x1F6B6, .emojiBase⟩,
  ⟨0x1F6B7, 0x1F6BF, .ideographic⟩, ⟨0x1F6C0, 0x1F6C0, .emojiBase⟩,
  ⟨0x1F6C1, 0x1F6CB, .ideographic⟩, ⟨0x1F6CC, 0x1F6CC, .emojiBase⟩,
  ⟨0x1F6CD, 0x1F6FF, .ideographic⟩, ⟨0x1F774, 0x1F77F, .ideographic⟩,
  ⟨0x1F7D5, 0x1F7FF, .ideographic⟩, ⟨0x1F80C, 0x1F80F, .ideographic⟩,
  ⟨0x1F848, 0x1F84F, .ideographic⟩, ⟨0x1F85A, 0x1F85F, .ideographic⟩,
  ⟨0x1F888, 0x1F88F, .ideographic⟩, ⟨0x1F8AE, 0x1F8FF, .ideographic⟩,
  ⟨0x1F90C, 0x1F90C, .emojiBase⟩, ⟨0x1F90D, 0x1F90E, .ideographic⟩,
  ⟨0x1F90F, 0x1F90F, .emojiBase⟩, ⟨0x1F910, 0x1F917, .ideographic⟩,
  ⟨0x1F918, 0x1F91F, .emojiBase⟩, ⟨0x1F920, 0x1F925, .ideographic⟩,
  ⟨0x1F926, 0x1F926, .emojiBase⟩, ⟨0x1F927, 0x1F92F, .ideographic⟩,
  ⟨0x1F930, 0x1F939, .emojiBase⟩, ⟨0x1F93A, 0x1F93B, .ideographic⟩,
  ⟨0x1F93C, 0x1F93E, .emojiBase⟩, ⟨0x1F93F, 0x1F976, .ideographic⟩,
  ⟨0x1F977, 0x1F977, .emojiBase⟩, ⟨0x1F978, 0x1F9B4, .ideographic⟩,
  ⟨0x1F9B5, 0x1F9B6, .emojiBase⟩, ⟨0x1F9B7, 0x1F9B7, .ideographic⟩,
  ⟨0x1F9B8, 0x1F9B9, .emojiBase⟩, ⟨0x1F9BA, 0x1F9BA, .ideographic⟩,
  ⟨0x1F9BB, 0x1F9BB, .emojiBase⟩, ⟨0x1F9BC, 0x1F9CC, .ideographic⟩,
  ⟨0x1F9CD, 0x1F9CF, .emojiBase⟩, ⟨0x1F9D0, 0x1F9D0, .ideographic⟩,
  ⟨0x1F9D1, 0x1F9DD, .emojiBase⟩, ⟨0x1F9DE, 0x1F9FF, .ideographic⟩,
  ⟨0x1FA54, 0x1FAC2, .ideographic⟩, ⟨0x1FAC3, 0x1FAC5, .emojiBase⟩,
  ⟨0x1FAC6, 0x1FAEF, .ideographic⟩, ⟨0x1FAF0, 0x1FAF8, .emojiBase⟩,
  ⟨0x1FAF9, 0x1FAFF, .ideographic⟩, ⟨0x1FBF0, 0x1FBF9, .numeric⟩,
  ⟨0x1FC00, 0x1FFFD, .ideographic⟩, ⟨0x20000, 0x2FFFD, .ideographic⟩,
  ⟨0x30000, 0x3FFFD, .ideographic⟩, ⟨0xE0001, 0xE0001, .combiningMark⟩,
  ⟨0xE0020, 0xE007F, .combiningMark⟩, ⟨0xE0100, 0xE01EF, .combiningMark⟩]

/-- Of each run of 28 Hangul syllables the first ends in a vowel and the others in a consonant. -/
def ofSyllable (n : Nat) : BreakClass := if n % 28 = 0 then .hangulLV else .hangulLVT

def ofChar (c : Char) : BreakClass :=
  if 0xAC00 ≤ c.toNat ∧ c.toNat ≤ 0xD7A3 then ofSyllable (c.toNat - 0xAC00)
  else CharRange.lookup ranges .alphabetic c

theorem ranges_ascending : CharRange.ascending 0 ranges = true := by decide +kernel

theorem column_lt (cls : BreakClass) : cls.column < 43 := by cases cls <;> decide

end BreakClass

end LineFill
