import LineFill.Text.Invisible

/-!
Texts in quotation marks. What would end the quotation, or would not be seen in it, is written as
an escape, so a quoted text is one line of visible characters.
-/
namespace LineFill.Text

/-- The code point in braces. -/
def codeEscape (c : Char) : Text := '\\' :: 'u' :: '\x7b' :: Nat.toDigits 16 c.toNat ++ ['\x7d']

def quotedChar (c : Char) : Text :=
  match c with
  | '"' => ['\\', '"']
  | '\\' => ['\\', '\\']
  | '\n' => ['\\', 'n']
  | '\r' => ['\\', 'r']
  | '\t' => ['\\', 't']
  | '\x00' => ['\\', '0']
  | c => if isInvisible c then codeEscape c else [c]

def quoted (text : Text) : Text := '"' :: text.flatMap quotedChar ++ ['"']

end LineFill.Text
