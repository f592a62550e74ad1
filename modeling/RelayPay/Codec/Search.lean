import Mathlib.Data.List.Infix
import Mathlib.Tactic.Common

namespace Search

variable {α : Type} [DecidableEq α]

def find (pattern : List α) : List α → Option ℕ
  | [] => if pattern = [] then some 0 else none
  | c :: cs => if pattern.isPrefixOf (c :: cs) then some 0 else (find pattern cs).map (· + 1)

def contains (pattern text : List α) : Bool := (find pattern text).isSome

def replace (old new : List α) : (skip : ℕ) → List α → List α
  | _, [] => []
  | skip + 1, _ :: cs => replace old new skip cs
  | 0, c :: cs =>
    if old.isPrefixOf (c :: cs) then new ++ replace old new (old.length - 1) cs else c :: replace old new 0 cs

end Search
