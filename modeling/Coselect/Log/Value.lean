import Coselect.Json.Writer
import Coselect.Number.Shortest
import Coselect.Text.Basic

/-! The values of log fields: besides those of JSON there are tuples and sets. A set holds no
value that can change, and of equal ones only the first, where a flag equals the number that
it counts as. -/

namespace Coselect.Log

inductive Value
  /-- A value without parts. -/
  | plain (v : Json)
  | list (xs : List Value)
  | tuple (xs : List Value)
  | set (xs : List Value)
  | record (fs : List (String × Value))
  deriving Inhabited

namespace Value

/-- The number that a value counts as. -/
def numberOf? : Json → Option Rat
  | .bool b => some (if b then 1 else 0)
  | .int i => some i
  | .float x => if (Number.nonFinite? x).isSome then none else some (Number.exact x)
  | _ => none

/-- Whether two values without parts are equal. -/
def samePlain (a b : Json) : Bool :=
  match a, b with
  | .null, .null => true
  | .str s, .str t => s == t
  | .float x, .float y => x == y
  | a, b =>
    match numberOf? a, numberOf? b with
    | some p, some q => p == q
    | _, _ => false

mutual

/-- Whether two values that cannot change are equal. -/
def same : Value → Value → Bool
  | plain a, plain b => samePlain a b
  | tuple xs, tuple ys => sameItems xs ys
  | _, _ => false

def sameItems : List Value → List Value → Bool
  | [], [] => true
  | x :: xs, y :: ys => same x y && sameItems xs ys
  | _, _ => false

end

mutual

/-- Whether a value cannot change. -/
def isFixed : Value → Bool
  | plain _ => true
  | tuple xs => allFixed xs
  | _ => false

def allFixed : List Value → Bool
  | [] => true
  | x :: xs => isFixed x && allFixed xs

end

/-- The first of equal values each. -/
def distinct (xs : List Value) : List Value :=
  (xs.foldl (fun acc x => if acc.any (same · x) then acc else x :: acc) []).reverse

/-- The set of some values, if none of them can change. -/
def ofItems? (xs : List Value) : Option Value :=
  if allFixed xs then some (set (distinct xs)) else none

mutual

/-- A value as messages show it. -/
def display : Value → String
  | plain v => v.display
  | list xs => "[" ++ Text.join ", " (displays xs) ++ "]"
  | tuple [x] => "(" ++ display x ++ ",)"
  | tuple xs => "(" ++ Text.join ", " (displays xs) ++ ")"
  | set xs =>
    if xs.isEmpty then "set()"
    else "\x7b" ++ Text.join ", " ((displays xs).mergeSort fun a b => decide (a ≤ b)) ++ "\x7d"
  | record fs => "\x7b" ++ Text.join ", " (displayFields fs) ++ "\x7d"

def displays : List Value → List String
  | [] => []
  | x :: xs => display x :: displays xs

def displayFields : List (String × Value) → List String
  | [] => []
  | (k, v) :: fs => (Text.quoted k ++ ": " ++ display v) :: displayFields fs

end

/-- A value as plain text. -/
def text : Value → String
  | plain v => v.plain
  | v => v.display

/-- Items of a set in the order of their texts. -/
def sorted (xs : List Value) : List Value :=
  ((xs.map fun x => (x.text, x)).mergeSort fun a b => decide (a.1 ≤ b.1)).map Prod.snd

mutual

/-- A value in a log line, where a set is shown as text. -/
def toJson : Value → Json
  | plain v => v
  | list xs => .arr (toJsons xs)
  | tuple xs => .arr (toJsons xs)
  | set xs => .str (display (set xs))
  | record fs => .obj (toFields fs)

def toJsons : List Value → List Json
  | [] => []
  | x :: xs => toJson x :: toJsons xs

def toFields : List (String × Value) → List (String × Json)
  | [] => []
  | (k, v) :: fs => (k, toJson v) :: toFields fs

end

/-- Whether a value counts as set: not null, false, zero or empty. -/
def isTruthy : Value → Bool
  | plain v => v.isTruthy
  | list xs | tuple xs | set xs => !xs.isEmpty
  | record fs => !fs.isEmpty

end Value

end Coselect.Log
