import Conform.Value.Basic
/-!
# JSON text

The compact JSON text of a tree, and the quoting of texts in it.
-/

namespace Conform

namespace Json

/-- A character inside quotes. Quotes, backslashes and control characters are escaped; all other
characters stand for themselves. -/
def escape (c : Char) : List Char :=
  match c with
  | '"' => ['\\', '"']
  | '\\' => ['\\', '\\']
  | '\n' => ['\\', 'n']
  | '\r' => ['\\', 'r']
  | '\t' => ['\\', 't']
  | '\x08' => ['\\', 'b']
  | '\x0c' => ['\\', 'f']
  | _ =>
    if c.toNat < 0x20 then
      ['\\', 'u', '0', '0', Nat.digitChar (c.toNat / 16), Nat.digitChar (c.toNat % 16)]
    else [c]

def quote (text : String) : List Char := '"' :: text.toList.flatMap escape ++ ['"']

/-- Items between brackets, with commas between them. -/
def bracket (opening closing : Char) (items : List (List Char)) : List Char :=
  opening :: [','].intercalate items ++ [closing]

mutual

def chars : Value → List Char
  | .null => "null".toList
  | .bool b => if b then "true".toList else "false".toList
  | .num n => n.toText.toList
  | .str text => quote text
  | .arr items => bracket '[' ']' (itemChars items)
  | .obj fields => bracket '\x7b' '\x7d' (fieldChars fields)

def itemChars : List Value → List (List Char)
  | [] => []
  | item :: rest => chars item :: itemChars rest

def fieldChars : List (String × Value) → List (List Char)
  | [] => []
  | (key, value) :: rest => (quote key ++ ':' :: chars value) :: fieldChars rest

end

end Json

/-- The compact JSON text of a tree. -/
def Value.toJson (value : Value) : String := String.ofList (Json.chars value)

end Conform
