import TransformRegistry.Text.GraphemeExtend
import TransformRegistry.Text.Unprintable

/-!
# Quoted text

A text between double quotes, in which every character can be seen. A backslash stands before a
backslash or a double quote. What has no printed form of its own is written as its code point.
-/

namespace TransformRegistry.Text

def hexadecimal (n : Nat) : List Char := Nat.toDigits 16 n

def quotedChar (c : Char) : List Char :=
  match c with
  | '\x00' => ['\\', '0']
  | '\t' => ['\\', 't']
  | '\n' => ['\\', 'n']
  | '\r' => ['\\', 'r']
  | '\\' => ['\\', '\\']
  | '"' => ['\\', '"']
  | c =>
    if isCombining c || isUnprintable c then
      ['\\', 'u', '\x7b'] ++ hexadecimal c.toNat ++ ['\x7d']
    else [c]

def quoted (s : String) : String :=
  String.ofList ('"' :: s.toList.flatMap quotedChar ++ ['"'])

end TransformRegistry.Text
