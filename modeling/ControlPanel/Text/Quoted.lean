import ControlPanel.Text.Unprintable

/-!
# Quoted texts

The form in which messages show a string: in double quotes, with the quote, the backslash and the
usual control characters escaped, and every character without a glyph written by its code in
braces.
-/

namespace ControlPanel.Text

def hexCode (n : Nat) : List Char := Nat.toDigits 16 n

def quotedChar (c : Char) : List Char :=
  match c with
  | '"' => ['\\', '"']
  | '\\' => ['\\', '\\']
  | '\n' => ['\\', 'n']
  | '\r' => ['\\', 'r']
  | '\t' => ['\\', 't']
  | '\x00' => ['\\', '0']
  | c =>
    if 32 ≤ c.toNat && c.toNat < 127 then [c]
    else if isUnprintable c then ['\\', 'u', '{'] ++ hexCode c.toNat ++ ['}']
    else [c]

def quoted (s : String) : String :=
  String.ofList ('"' :: (s.toList.flatMap quotedChar ++ ['"']))

end ControlPanel.Text
