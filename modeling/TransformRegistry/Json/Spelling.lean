/-!
# Spelled strings

What stands between the quotes of a JSON string. A text has one spelling when it is written, and
may have many when it is read. A spelling can be in order and still name no text: half a surrogate
pair is no character.
-/

namespace TransformRegistry.Json

/-- The characters between the quotes, escapes unresolved. -/
abbrev Spelling := List Char

namespace Spelling

/-! ## Writing -/

/-- The two lower case hexadecimal digits of a number below 256. -/
def twoDigits (n : Nat) : List Char := [Nat.digitChar (n / 16), Nat.digitChar (n % 16)]

/-- A short escape where there is one, a numbered one for any other control, the character else. -/
def escapeChar (c : Char) : Spelling :=
  match c with
  | '"' => ['\\', '"']
  | '\\' => ['\\', '\\']
  | '\x08' => ['\\', 'b']
  | '\x0c' => ['\\', 'f']
  | '\n' => ['\\', 'n']
  | '\r' => ['\\', 'r']
  | '\t' => ['\\', 't']
  | c => if c.toNat < 0x20 then ['\\', 'u', '0', '0'] ++ twoDigits c.toNat else [c]

def ofText (s : String) : Spelling := s.toList.flatMap escapeChar

/-! ## Resolving escapes -/

def digitValue? (c : Char) : Option Nat :=
  if '0' ≤ c ∧ c ≤ '9' then some (c.toNat - '0'.toNat)
  else if 'a' ≤ c ∧ c ≤ 'f' then some (c.toNat - 'a'.toNat + 10)
  else if 'A' ≤ c ∧ c ≤ 'F' then some (c.toNat - 'A'.toNat + 10)
  else none

def fourDigits? (a b c d : Char) : Option Nat := do
  return 4096 * (← digitValue? a) + 256 * (← digitValue? b) + 16 * (← digitValue? c)
    + (← digitValue? d)

def isLeadingSurrogate (n : Nat) : Bool := 0xD800 ≤ n && n ≤ 0xDBFF

def isTrailingSurrogate (n : Nat) : Bool := 0xDC00 ≤ n && n ≤ 0xDFFF

/-- The character that a surrogate pair stands for. -/
def pairChar (lead trail : Nat) : Char :=
  Char.ofNat (0x10000 + (lead - 0xD800) * 0x400 + (trail - 0xDC00))

def shortEscape? : Char → Option Char
  | '"' => some '"'
  | '\\' => some '\\'
  | '/' => some '/'
  | 'b' => some '\x08'
  | 'f' => some '\x0c'
  | 'n' => some '\n'
  | 'r' => some '\r'
  | 't' => some '\t'
  | _ => none

/-- The characters that a spelling stands for. Surrogates count only in pairs. -/
def chars? : Spelling → Option (List Char)
  | [] => some []
  | '\\' :: 'u' :: a :: b :: c :: d :: '\\' :: 'u' :: e :: f :: g :: h :: rest => do
    let n ← fourDigits? a b c d
    if isLeadingSurrogate n then
      let m ← fourDigits? e f g h
      if isTrailingSurrogate m then return pairChar n m :: (← chars? rest) else none
    else if isTrailingSurrogate n then none
    else return Char.ofNat n :: (← chars? ('\\' :: 'u' :: e :: f :: g :: h :: rest))
  | '\\' :: 'u' :: a :: b :: c :: d :: rest => do
    let n ← fourDigits? a b c d
    if isLeadingSurrogate n || isTrailingSurrogate n then none
    else return Char.ofNat n :: (← chars? rest)
  | '\\' :: c :: rest => return (← shortEscape? c) :: (← chars? rest)
  | c :: rest => return c :: (← chars? rest)
termination_by s => s.length

def text? (s : Spelling) : Option String := s.chars?.map String.ofList

/-! ## Finding the closing quote -/

/-- The spelling up to the closing quote, and what follows the quote. Escapes must be formed
rightly; a control character may not stand unescaped. -/
def read : List Char → Option (Spelling × List Char)
  | [] => none
  | '"' :: rest => some ([], rest)
  | '\\' :: 'u' :: a :: b :: c :: d :: rest =>
    if (fourDigits? a b c d).isSome then
      (read rest).map fun (s, rest) => ('\\' :: 'u' :: a :: b :: c :: d :: s, rest)
    else none
  | '\\' :: c :: rest =>
    if (shortEscape? c).isSome then (read rest).map fun (s, rest) => ('\\' :: c :: s, rest)
    else none
  | c :: rest =>
    if c = '\\' ∨ c.toNat < 0x20 then none else (read rest).map fun (s, rest) => (c :: s, rest)

end Spelling

end TransformRegistry.Json
