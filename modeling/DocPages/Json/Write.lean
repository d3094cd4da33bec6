import DocPages.Data
import DocPages.Decimal.Layout
import DocPages.Text.Quoted
/-! # Writing JSON

Data values as indented JSON: each item and each entry on a line of its own, two blanks deeper than
the collection, and an empty collection as a bare pair of brackets.  In strings only the quote, the
backslash and the controls below the space are escaped. -/
set_option autoImplicit false
namespace DocPages.Json

def escapeChar (c : Char) : List Char :=
  if c = '"' then "\\\"".toList
  else if c = '\\' then "\\\\".toList
  else if c = '\n' then "\\n".toList
  else if c = '\r' then "\\r".toList
  else if c = '\t' then "\\t".toList
  else if c = '\x08' then "\\b".toList
  else if c = '\x0c' then "\\f".toList
  else if c.toNat < 0x20 then '\\' :: 'u' :: Text.hexDigits 4 c.toNat
  else [c]

def writeString (s : String) : List Char := '"' :: s.toList.flatMap escapeChar ++ ['"']

def writeInt (n : Int) : List Char := (toString n).toList

def newline (depth : Nat) : List Char := '\n' :: List.replicate (2 * depth) ' '

mutual
def write (depth : Nat) : Data → List Char
  | .null => "null".toList
  | .bool true => "true".toList
  | .bool false => "false".toList
  | .int n => writeInt n
  | .float x => (Decimal.Layout.data.write x).toList
  | .text s => writeString s
  | .list [] => ['[', ']']
  | .list (x :: xs) =>
    '[' :: newline (depth + 1) ++ write (depth + 1) x ++ writeItems (depth + 1) xs
      ++ newline depth ++ [']']
  | .mapping [] => ['\x7b', '\x7d']
  | .mapping ((k, x) :: es) =>
    '\x7b' :: newline (depth + 1) ++ writeString k ++ [':', ' '] ++ write (depth + 1) x
      ++ writeEntries (depth + 1) es ++ newline depth ++ ['\x7d']

def writeItems (depth : Nat) : List Data → List Char
  | [] => []
  | x :: xs => ',' :: newline depth ++ write depth x ++ writeItems depth xs

def writeEntries (depth : Nat) : List (String × Data) → List Char
  | [] => []
  | (k, x) :: es =>
    ',' :: newline depth ++ writeString k ++ [':', ' '] ++ write depth x ++ writeEntries depth es
end

def document (d : Data) : String := String.ofList (write 0 d ++ ['\n'])

end DocPages.Json
