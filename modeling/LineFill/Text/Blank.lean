import LineFill.Text.Offset

/-!
Blank characters and hard line breaks, by the Unicode properties `White_Space` and `Line_Break`
(classes BK, CR, LF and NL).
-/
namespace LineFill

/-- The property `White_Space`. -/
def isBlank (c : Char) : Bool :=
  let n := c.toNat
  (0x9 ≤ n && n ≤ 0xD) || n = 0x20 || n = 0x85 || n = 0xA0 || n = 0x1680 ||
    (0x2000 ≤ n && n ≤ 0x200A) || n = 0x2028 || n = 0x2029 || n = 0x202F || n = 0x205F || n = 0x3000

/-- Characters after which a line must end. -/
def isHardBreak (c : Char) : Bool :=
  let n := c.toNat
  (0xA ≤ n && n ≤ 0xD) || n = 0x85 || n = 0x2028 || n = 0x2029

/-- Which characters a text must not contain and which are not seen at the end of a line. -/
structure CharClasses where
  isHardBreak : Char → Bool
  isBlank : Char → Bool

def CharClasses.unicode : CharClasses := ⟨LineFill.isHardBreak, LineFill.isBlank⟩

namespace Text

def trimStart (text : Text) : Text := text.dropWhile isBlank

def trimEnd (text : Text) : Text := (text.reverse.dropWhile isBlank).reverse

def trim (text : Text) : Text := text.trimStart.trimEnd

/-- Folds the ASCII letters to lower case and keeps every other character. -/
def lowerAscii (text : Text) : Text := text.map Char.toLower

/-- The name without its surrounding blanks, whatever the case of its letters. -/
def keyword (text : Text) : String := String.ofList text.trim.lowerAscii

end Text

end LineFill
