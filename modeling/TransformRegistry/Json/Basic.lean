import TransformRegistry.Json.Spelling

/-!
# JSON values and their compact text

A value keeps its strings as they are spelled and its numbers as they are written. An object keeps
its fields in order, repeats included. The compact text has no blanks.
-/

namespace TransformRegistry

inductive Json where
  | null
  | bool (value : Bool)
  | number (literal : List Char)
  | str (spelling : Json.Spelling)
  | arr (items : List Json)
  | obj (fields : List (Json.Spelling × Json))
deriving Inhabited, Repr

namespace Json

def ofText (s : String) : Json := .str (.ofText s)

def ofTexts (ss : List String) : Json := .arr (ss.map ofText)

def ofFields (fields : List (String × Json)) : Json :=
  .obj (fields.map fun (key, value) => (.ofText key, value))

/-! ## The compact text -/

def inQuotes (s : Spelling) : List Char := '"' :: s ++ ['"']

mutual

/-- The characters of the compact text. -/
def chars : Json → List Char
  | .null => "null".toList
  | .bool true => "true".toList
  | .bool false => "false".toList
  | .number literal => literal
  | .str spelling => inQuotes spelling
  | .arr items => '[' :: itemsChars items ++ [']']
  | .obj fields => '\x7b' :: fieldsChars fields ++ ['\x7d']

def itemsChars : List Json → List Char
  | [] => []
  | [item] => item.chars
  | item :: rest => item.chars ++ ',' :: itemsChars rest

def fieldsChars : List (Spelling × Json) → List Char
  | [] => []
  | [(key, value)] => inQuotes key ++ ':' :: value.chars
  | (key, value) :: rest => inQuotes key ++ ':' :: (value.chars ++ ',' :: fieldsChars rest)

end

def text (j : Json) : String := String.ofList j.chars

end Json

end TransformRegistry
