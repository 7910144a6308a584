import Mathlib.Logic.Basic

/-! # Decoded Payloads

  The values of a decoded JSON payload, with the readings dynamically typed code makes
  of them: a key that may be missing, a value that counts as true, a value that converts
  to a number. Numbers are in `Q`. What a text converts to comes with the text.
-/

/-- A decoded value. -/
inductive Json (Q : Type)
  | null
  | bool (b : Bool)
  | num (q : Q)
  /-- A text, and the number it reads as. -/
  | str (s : String) (reads : Option Q)
  | arr (items : List (Json Q))
  | obj (fields : List (String × Json Q))

namespace Json

variable {Q : Type}

/-- The value is an object. -/
def is_obj : Json Q → Bool
  | obj _ => true
  | _ => false

/-- The value is a list. -/
def is_arr : Json Q → Bool
  | arr _ => true
  | _ => false

/-- The value under a key, where there is one. -/
def get? (v : Json Q) (key : String) : Option (Json Q) :=
  match v with
  | obj fields => (fields.find? fun field => field.1 = key).map Prod.snd
  | _ => none

/-- `v.get(key, default)`. -/
def getD (v : Json Q) (key : String) (default : Json Q) : Json Q := (v.get? key).getD default

/-- `v.get(key)`. -/
def get (v : Json Q) (key : String) : Json Q := v.getD key null

/-- The value counts as true. -/
def truthy [Zero Q] [DecidableEq Q] : Json Q → Bool
  | null => false
  | bool b => b
  | num q => q ≠ 0
  | str s _ => s ≠ ""
  | arr items => !items.isEmpty
  | obj fields => !fields.isEmpty

/-- `a or b`. -/
def orElse [Zero Q] [DecidableEq Q] (a b : Json Q) : Json Q := if a.truthy then a else b

/-- The first value that counts as true, of those under the keys, else `default`. -/
def first [Zero Q] [DecidableEq Q] (v : Json Q) (keys : List String) (default : Json Q) : Json Q :=
  match keys with
  | [] => default
  | key :: rest => (v.get key).orElse (v.first rest default)

/-- `str(v)`, where `spelled` is what it makes of a value that is no text. -/
def text (spelled : Json Q → String) : Json Q → String
  | str s _ => s
  | v => spelled v

/-- `float(v)`, where that does not raise. -/
def float [Zero Q] [One Q] : Json Q → Option Q
  | bool b => some (if b then 1 else 0)
  | num q => some q
  | str _ reads => reads
  | _ => none

/-- What a loop over the value goes through, where it is iterable: of a text its characters,
    of an object its keys. -/
def iterated : Json Q → Option (List (Json Q))
  | arr items => some items
  | obj fields => some (fields.map fun field => str field.1 none)
  | str s _ => some (s.toList.map fun c => str (String.singleton c) none)
  | _ => none

end Json
