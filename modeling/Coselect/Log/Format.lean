import Coselect.Fault
import Coselect.Log.Value

/-! Values filled into a text. A percent sign with `s` stands for a value's plain text, with `r`
for the form shown in messages and with `d`, `i` or `u` for a whole number; two percent signs
are one. A name in parentheses takes the value from a record. A tuple gives its items one
after the other, any other value stands for itself once. -/

namespace Coselect.Log

/-- What can be filled in: values in their order or, from a list or a record, the whole once
and items by name. -/
structure Supply where
  values : List Value
  whole : Option Value := none

def Supply.of : Value → Supply
  | .tuple xs => { values := xs }
  | .plain v => { values := [.plain v] }
  | v => { values := [v], whole := some v }

/-- The value of a name in what is filled in. -/
def Supply.named (s : Supply) (name : String) : Except Failure Value :=
  match s.whole with
  | some (.record fs) =>
    match fs.lookup name with
    | some v => .ok v
    | none => .error .unknownKey
  | some (.list _) => .error (.wrongType "list indices must be integers or slices, not str")
  | _ => .error (.wrongType "format requires a mapping")

def Supply.next (s : Supply) : Except Failure (Value × Supply) :=
  match s.values with
  | v :: vs => .ok (v, { s with values := vs })
  | [] => .error (.wrongType "not enough arguments for format string")

/-- A value as a whole number. -/
def wholeText (v : Value) : Except Failure String :=
  match v with
  | .plain (.int i) => .ok (Number.decimalInt i)
  | .plain (.bool b) => .ok (if b then "1" else "0")
  | .plain (.float x) =>
    if (Number.nonFinite? x).isSome then
      .error (.outOfRange "cannot convert float NaN to integer")
    else
      let q := Number.exact x
      .ok (Number.decimalInt (q.num.tdiv q.den))
  | _ => .error (.wrongType "%d format: a real number is required")

/-- A value as a letter asks for it; none when the letter is unknown. -/
def converted? (letter : Char) (v : Value) : Option (Except Failure String) :=
  if letter == 's' then some (.ok v.text)
  else if letter == 'r' then some (.ok v.display)
  else if letter == 'd' || letter == 'i' || letter == 'u' then some (wholeText v)
  else none

def unknownLetter (letter : Char) (index : Nat) : Failure :=
  let shown := if 31 ≤ letter.toNat ∧ letter.toNat ≤ 126 then letter else '?'
  .outOfRange ("unsupported format character '" ++ String.ofList [shown] ++ "' (0x" ++
    String.ofList (Number.digits 16 letter.toNat) ++ ") at index " ++ Number.decimal index)

/-- The text with the values filled in from an index on; `fuel` is more than its length. -/
def fillFrom (s : Supply) : Nat → Nat → List Char → Except Failure (List Char)
  | 0, _, _ => .ok []
  | _, _, [] =>
    if s.values.isEmpty || s.whole.isSome then .ok []
    else .error (.wrongType "not all arguments converted during string formatting")
  | fuel + 1, i, '%' :: '(' :: cs => do
    let name := cs.takeWhile (· != ')')
    if s.whole.isNone then throw (.wrongType "format requires a mapping")
    if name.length = cs.length then throw (.outOfRange "incomplete format key")
    let v ← s.named (String.ofList name)
    match cs.drop (name.length + 1) with
    | [] => throw (.outOfRange "incomplete format")
    | c :: rest =>
      let place := i + name.length + 3
      match converted? c v with
      | none => throw (unknownLetter c place)
      | some shown =>
        return (← shown).toList ++ (← fillFrom { s with values := [] } fuel (place + 1) rest)
  | _, _, ['%'] => .error (.outOfRange "incomplete format")
  | fuel + 1, i, '%' :: '%' :: cs => do return '%' :: (← fillFrom s fuel (i + 2) cs)
  | fuel + 1, i, '%' :: c :: cs => do
    let (v, rest) ← s.next
    match converted? c v with
    | none => .error (unknownLetter c (i + 1))
    | some shown => return (← shown).toList ++ (← fillFrom rest fuel (i + 2) cs)
  | fuel + 1, i, c :: cs => do return c :: (← fillFrom s fuel (i + 1) cs)

def fill (text : String) (args : Value) : Except Failure String :=
  (fillFrom (.of args) (text.length + 1) 0 text.toList).map String.ofList

end Coselect.Log
