import ShieldPolicy.Text.Mark
import ShieldPolicy.Text.Printable

/-!
# Quoted text

The quoted form in which messages and logs show a text: double quotes around it, a backslash before
a quote or a backslash, a short escape for the common controls, and the code point in hexadecimal
for everything that cannot be shown by itself.
-/

namespace ShieldPolicy.Text

def hexadecimal (n : Nat) : List Char := Nat.toDigits 16 n

def quotedChar (c : Char) : List Char :=
  if c = '\x00' then ['\\', '0']
  else if c = '\t' then ['\\', 't']
  else if c = '\r' then ['\\', 'r']
  else if c = '\n' then ['\\', 'n']
  else if c = '"' then ['\\', '"']
  else if c = '\\' then ['\\', '\\']
  else if extendsGrapheme c || !isPrintable c then
    ['\\', 'u', '\x7b'] ++ hexadecimal c.toNat ++ ['\x7d']
  else [c]

def quoted (s : String) : String :=
  String.ofList ('"' :: s.toList.flatMap quotedChar ++ ['"'])

end ShieldPolicy.Text
