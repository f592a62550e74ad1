import Mathlib.Data.List.Sort
import Mathlib.Data.Rat.Defs
import Mathlib.Tactic.Common

namespace RelayPay

abbrev Bytes := List UInt8

lemma bind_eq_ok {ε α β : Type} {x : Except ε α} {f : α → Except ε β} {b : β} :
    (x >>= f) = .ok b ↔ ∃ a, x = .ok a ∧ f a = .ok b := by
  cases x with
  | error e => simp [bind, Except.bind]
  | ok a => simp [bind, Except.bind]

inductive Json where
  | null
  | bool (b : Bool)
  | int (n : ℤ)
  | real (q : ℚ)
  | str (s : String)
  | arr (items : List Json)
  | obj (fields : List (String × Json))

namespace Json

def hexDigit (n : ℕ) : Char := if n < 10 then Char.ofNat (48 + n) else Char.ofNat (87 + n)

def escapeChar (c : Char) : List Char :=
  if c = '"' then ['\\', '"']
  else if c = '\\' then ['\\', '\\']
  else if c = '\n' then ['\\', 'n']
  else if c = '\r' then ['\\', 'r']
  else if c = '\t' then ['\\', 't']
  else if c.toNat = 8 then ['\\', 'b']
  else if c.toNat = 12 then ['\\', 'f']
  else if c.toNat < 32 then ['\\', 'u', '0', '0', hexDigit (c.toNat / 16), hexDigit (c.toNat % 16)]
  else [c]

def quote (s : String) : String := "\"" ++ String.ofList (s.toList.flatMap escapeChar) ++ "\""

def renderFields (fields : List (String × String)) : String :=
  let sorted := fields.insertionSort fun a b => a.1 ≤ b.1
  "\x7b" ++ ",".intercalate (sorted.map fun f => quote f.1 ++ ":" ++ f.2) ++ "\x7d"

mutual

/-- Keys sorted, no blanks, characters outside ASCII kept, as `json.dumps` is called. -/
def render : Json → String
  | null => "null"
  | bool b => if b then "true" else "false"
  | int n => toString n
  | real q => toString q
  | str s => quote s
  | arr items => "[" ++ ",".intercalate (renderItems items) ++ "]"
  | obj fields => renderFields (renderEntries fields)

def renderItems : List Json → List String
  | [] => []
  | j :: js => render j :: renderItems js

def renderEntries : List (String × Json) → List (String × String)
  | [] => []
  | (k, j) :: fs => (k, render j) :: renderEntries fs

end

def get? : Json → String → Option Json
  | obj fields, k => (fields.reverse.find? fun f => f.1 = k).map Prod.snd
  | _, _ => none

def isObject : Json → Bool
  | obj _ => true
  | _ => false

def eqStr : Json → String → Bool
  | str s, t => s = t
  | _, _ => false

/-- Equality as Python has it between a parsed value and an integer, where `true == 1` and `1.0 == 1`. -/
def eqInt : Json → ℤ → Bool
  | int m, n => m = n
  | real q, n => q = n
  | bool b, n => (if b then 1 else 0) = n
  | _, _ => false

def truthy : Json → Bool
  | null => false
  | bool b => b
  | int n => n ≠ 0
  | real q => q ≠ 0
  | str s => s ≠ ""
  | arr items => !items.isEmpty
  | obj fields => !fields.isEmpty

def ofOptStr : Option String → Json
  | some s => str s
  | none => null

end Json

example : (Json.obj [("b", .int 2), ("a", .arr [.str "x", .null])]).render
    = "\x7b\"a\":[\"x\",null],\"b\":2\x7d" := by decide

def encode (s : String) : Bytes := s.toUTF8.data.toList

def canonicalJsonBytes (value : Json) : Bytes := encode value.render

structure Digest where
  preimage : Bytes
  deriving DecidableEq

def sha256 (data : Bytes) : Digest := ⟨data⟩

def Digest.hex (d : Digest) : String :=
  String.ofList (d.preimage.flatMap fun b => [Json.hexDigit (b.toNat / 16), Json.hexDigit (b.toNat % 16)])

end RelayPay
