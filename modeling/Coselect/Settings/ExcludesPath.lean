import Coselect.Settings.Environment

/-! The place of the user's excludes file as a setting gives it: blanks and one pair of
quotes around it are dropped, a tilde in front stands for a home directory, and a dollar sign
with a name for a variable. -/

namespace Coselect.Settings

/-- One's own home directory: a variable may name it, and else the user database does. -/
def home (env : Environment) : String := (env.get? "HOME").getD env.ownHome

def unquote (cs : List Char) : List Char :=
  match cs with
  | q :: rest =>
    if (q == '"' || q == '\'') && !rest.isEmpty && rest.getLast? == some q then rest.dropLast
    else cs
  | [] => []

/-- The home directory of a user, oneself when there is no name. -/
def homeOf? (env : Environment) (user : String) : Option String :=
  if user = "" then some (home env) else env.homes.lookup user

/-- The home directory in place of a leading tilde and the name of a known user behind it. -/
def expandHome (env : Environment) (path : String) : String :=
  match path.toList with
  | '~' :: cs =>
    match homeOf? env (String.ofList (cs.takeWhile (· != '/'))) with
    | none => path
    | some directory =>
      let expanded := String.ofList
        (Text.dropEndWhile (· == '/') directory.toList ++ cs.dropWhile (· != '/'))
      if expanded = "" then "/" else expanded
  | _ => path

def isVariableChar (c : Char) : Bool := c.isAlphanum || c == '_'

/-- The name behind a dollar sign, in braces or as a run of letters, digits and underscores,
and how many characters it takes. -/
def variableName? (cs : List Char) : Option (List Char × Nat) :=
  match cs with
  | '\x7b' :: rest =>
    let name := rest.takeWhile (· != '\x7d')
    if name.length < rest.length then some (name, name.length + 2) else none
  | cs =>
    let name := cs.takeWhile isVariableChar
    if name.isEmpty then none else some (name, name.length)

/-- Variables in place of their names; unknown ones stay. The counter skips a name already
dealt with. -/
def expandVariables (env : Environment) : Nat → List Char → List Char
  | _, [] => []
  | k + 1, _ :: cs => expandVariables env k cs
  | 0, c :: cs =>
    match if c == '$' then variableName? cs else none with
    | none => c :: expandVariables env 0 cs
    | some (name, taken) =>
      let value := match env.get? (String.ofList name) with
        | some value => value.toList
        | none => c :: cs.take taken
      value ++ expandVariables env taken cs

/-- The path that a value of the setting stands for. One that is relative after the expansion is
taken from the root, the working directory (`Path.normalize`). -/
def excludesPath (env : Environment) (value : String) : String :=
  let text := String.ofList (unquote (Text.trimChars value.toList))
  Path.normalize (String.ofList (expandVariables env 0 (expandHome env text).toList))

/-- Where the excludes file is looked for when no setting names it. -/
def usualExcludes (env : Environment) : List String :=
  ["~/.config/git/ignore", "~/.gitignore_global", "~/.gitignore"].map (expandHome env)

end Coselect.Settings
