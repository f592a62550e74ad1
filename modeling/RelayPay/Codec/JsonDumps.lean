import RelayPay.Codec.JsonText

/-! The text of a value with a blank after each comma and colon, its keys in order. -/

namespace RelayPay.Json

def spaced (close : Char) : List (List Char) → List Char
  | [] => [close]
  | [t] => t ++ [close]
  | t :: ts => t ++ ',' :: ' ' :: spaced close ts

def quoted (s : String) : List Char := '"' :: (s.toList.flatMap escapeChar ++ ['"'])

section Dumps

variable (float : ℚ → List Char)

mutual

def dumps : Json → List Char
  | null => "null".toList
  | bool b => if b then "true".toList else "false".toList
  | int n => (toString n).toList
  | real q => float q
  | str s => quoted s
  | arr items => '[' :: spaced ']' (dumpsItems items)
  | obj fields => '\x7b' :: spaced '\x7d'
      (((dumpsEntries fields).insertionSort fun a b => a.1 ≤ b.1).map fun f => quoted f.1 ++ ':' :: ' ' :: f.2)

def dumpsItems : List Json → List (List Char)
  | [] => []
  | j :: js => dumps j :: dumpsItems js

def dumpsEntries : List (String × Json) → List (String × List Char)
  | [] => []
  | (k, j) :: fs => (k, dumps j) :: dumpsEntries fs

end

end Dumps

def loadsText (text : List Char) : Option Json :=
  (readValue (text.length + 1) text).bind fun x => if skipBlanks x.2 = [] then some x.1 else none

def setItem : List (String × Json) → String × Json → List (String × Json)
  | [], f => [f]
  | g :: rest, f => if g.1 = f.1 then f :: rest else g :: setItem rest f

def items (fields : List (String × Json)) : List (String × Json) := fields.foldl setItem []

end RelayPay.Json
