import TransformRegistry.Json.Basic

/-!
# Reading JSON

A text is read by the standard grammar. Numbers may be of any size and strings may hold any escape
that is formed rightly, since what a value is good for is decided by whoever takes it.
-/

namespace TransformRegistry.Json

/-! ## Blanks, literals and numbers -/

def isBlank (c : Char) : Bool := c ∈ [' ', '\n', '\t', '\r']

def skipBlanks (cs : List Char) : List Char := cs.dropWhile isBlank

/-- What follows a given word, if the word is there. -/
def after? (word : String) (cs : List Char) : Option (List Char) :=
  if word.toList.isPrefixOf cs then some (cs.drop word.length) else none

/-- What follows a run of digits, which holds one digit at least. -/
def afterDigits? (cs : List Char) : Option (List Char) :=
  if (cs.takeWhile Char.isDigit).isEmpty then none else some (cs.dropWhile Char.isDigit)

/-- What follows an integer without a sign. A zero in front stands alone. -/
def afterInteger? (cs : List Char) : Option (List Char) :=
  match cs with
  | '0' :: rest => if (rest.takeWhile Char.isDigit).isEmpty then some rest else none
  | cs => afterDigits? cs

def afterFraction? (cs : List Char) : Option (List Char) :=
  match cs with
  | '.' :: rest => afterDigits? rest
  | cs => some cs

def afterExponentDigits? (cs : List Char) : Option (List Char) :=
  match cs with
  | '+' :: rest => afterDigits? rest
  | '-' :: rest => afterDigits? rest
  | cs => afterDigits? cs

def afterExponent? (cs : List Char) : Option (List Char) :=
  match cs with
  | 'e' :: rest => afterExponentDigits? rest
  | 'E' :: rest => afterExponentDigits? rest
  | cs => some cs

def afterNumber? (cs : List Char) : Option (List Char) :=
  afterInteger? (if cs.head? = some '-' then cs.tail else cs) >>= afterFraction? >>= afterExponent?

def readNumber (cs : List Char) : Option (Json × List Char) :=
  (afterNumber? cs).map fun rest => (.number (cs.take (cs.length - rest.length)), rest)

def readScalar (cs : List Char) : Option (Json × List Char) :=
  if let some rest := after? "null" cs then some (.null, rest)
  else if let some rest := after? "true" cs then some (.bool true, rest)
  else if let some rest := after? "false" cs then some (.bool false, rest)
  else readNumber cs

/-! ## Values -/

def readString (cs : List Char) : Option (Spelling × List Char) :=
  match cs with
  | '"' :: rest => Spelling.read rest
  | _ => none

mutual

/-- Reads a value after any blanks. The first argument bounds the calls that follow. -/
def readValue : Nat → List Char → Option (Json × List Char)
  | 0, _ => none
  | fuel + 1, cs => match skipBlanks cs with
    | '"' :: rest => (Spelling.read rest).map fun (s, rest) => (.str s, rest)
    | '[' :: rest => match skipBlanks rest with
      | ']' :: rest => some (.arr [], rest)
      | rest => (readItems fuel rest).map fun (items, rest) => (.arr items, rest)
    | '\x7b' :: rest => match skipBlanks rest with
      | '\x7d' :: rest => some (.obj [], rest)
      | rest => (readFields fuel rest).map fun (fields, rest) => (.obj fields, rest)
    | cs => readScalar cs

/-- Reads the items of an array, one at least, and the closing bracket. -/
def readItems : Nat → List Char → Option (List Json × List Char)
  | 0, _ => none
  | fuel + 1, cs => match readValue fuel cs with
    | none => none
    | some (item, rest) => match skipBlanks rest with
      | ',' :: rest => (readItems fuel rest).map fun (items, rest) => (item :: items, rest)
      | ']' :: rest => some ([item], rest)
      | _ => none

/-- Reads the fields of an object, one at least, and the closing brace. -/
def readFields : Nat → List Char → Option (List (Spelling × Json) × List Char)
  | 0, _ => none
  | fuel + 1, cs => match readString (skipBlanks cs) with
    | none => none
    | some (key, rest) => match skipBlanks rest with
      | ':' :: rest => match readValue fuel rest with
        | none => none
        | some (value, rest) => match skipBlanks rest with
          | ',' :: rest =>
            (readFields fuel rest).map fun (fields, rest) => ((key, value) :: fields, rest)
          | '\x7d' :: rest => some ([(key, value)], rest)
          | _ => none
      | _ => none

end

/-- Reads a whole text: one value, with nothing but blanks around it. A value that opens a
container takes a character, so twice the length bounds the depth of the calls. -/
def parse? (text : String) : Option Json :=
  let cs := text.toList
  match readValue (2 * cs.length + 2) cs with
  | some (value, rest) => if (skipBlanks rest).isEmpty then some value else none
  | none => none

/-! ## Taking values apart -/

/-- The option that a value names: by a string, or by an object with that one key, holding null. -/
def choice? {α : Type} (option? : String → Option α) : Json → Option α
  | .str name => name.text? >>= option?
  | .obj [(name, .null)] => name.text? >>= option?
  | _ => none

def bool? : Json → Option Bool
  | .bool b => some b
  | _ => none

end TransformRegistry.Json
