import Contracts.Unicode.Character

/-!
# Quoted text

In descriptions and messages a text stands between double quotes, with an escape for everything
that could be misread: the quote and the backslash, the controls, characters without a visible
form, and marks that would join the character before them.
-/

namespace Contracts.Text

/-- Escape one character between double quotes. -/
def escape (c : Char) : List Char :=
  match c with
  | '"' => ['\\', '"']
  | '\\' => ['\\', '\\']
  | '\n' => ['\\', 'n']
  | '\r' => ['\\', 'r']
  | '\t' => ['\\', 't']
  | '\x00' => ['\\', '0']
  | c =>
    if Unicode.extendsGrapheme c || !Unicode.isPrintable c then
      '\\' :: 'u' :: '\x7b' :: Nat.toDigits 16 c.toNat ++ ['\x7d']
    else [c]

/-- Write a text between double quotes. -/
def quoted (text : String) : String :=
  String.ofList ('"' :: text.toList.flatMap escape ++ ['"'])

end Contracts.Text
