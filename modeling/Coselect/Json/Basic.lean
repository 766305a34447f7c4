/-! JSON values. Whole numbers are kept apart from floating-point ones, and an object
keeps its fields in the order of their first appearance. -/

namespace Coselect

inductive Json
  | null
  | bool (b : Bool)
  | int (i : Int)
  | float (x : Float)
  | str (s : String)
  | arr (items : List Json)
  | obj (fields : List (String × Json))
  deriving Inhabited

namespace Json

def setField (k : String) (v : Json) : List (String × Json) → List (String × Json)
  | [] => [(k, v)]
  | (k', v') :: fs => if k' = k then (k, v) :: fs else (k', v') :: setField k v fs

/-- The object of some fields; a repeated name keeps its first place and its last value. -/
def ofFields (fs : List (String × Json)) : Json :=
  obj (fs.foldl (fun acc f => setField f.1 f.2 acc) [])

def field? (k : String) : Json → Option Json
  | obj fs => (fs.find? fun f => f.1 == k).map Prod.snd
  | _ => none

def nat (n : Nat) : Json := int n

def strings (xs : List String) : Json := arr (xs.map str)

def option (f : α → Json) : Option α → Json
  | some a => f a
  | none => null

/-- Whether a value counts as set: not null, false, zero or empty. -/
def isTruthy : Json → Bool
  | null => false
  | bool b => b
  | int i => i != 0
  | float x => x != 0.0
  | str s => s != ""
  | arr xs => !xs.isEmpty
  | obj fs => !fs.isEmpty

end Json

end Coselect
