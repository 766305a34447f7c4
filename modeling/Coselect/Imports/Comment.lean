/-! Blanking of comments. A comment becomes spaces of the same length with its line feeds
kept, so that offsets and line numbers stay those of the text. A literal is passed over
whole, and an opener whose closer is missing is an ordinary character: a quote needs its
partner on the same line, a backquote needs it anywhere, and an escaped line feed ends
neither. -/

namespace Coselect.Imports

def backquote : Char := '\x60'

def isQuote (c : Char) : Bool := c == '"' || c == '\'' || c == backquote

/-- Whether a literal opened by `q` is closed in what follows. -/
def closes (q : Char) : List Char → Bool
  | [] => false
  | '\\' :: '\n' :: _ => false
  | '\\' :: _ :: cs => closes q cs
  | c :: cs => c == q || (c != '\\' && (c != '\n' || q == backquote) && closes q cs)

/-- Whether a block comment is closed in what follows its opener. -/
def blockCloses : List Char → Bool
  | '*' :: '/' :: _ => true
  | _ :: cs => blockCloses cs
  | [] => false

/-- Where the scan stands: in code, in a literal, after a backslash in one, in a line
comment, on the star of a block comment's opener, inside the block, on the slash of its
closer. -/
inductive Mode
  | code
  | literal (q : Char)
  | escaped (q : Char)
  | line
  | blockStar
  | block
  | blockSlash
  deriving DecidableEq, Repr

namespace Mode

/-- The mode after a character, given the characters that follow it. -/
def next : Mode → Char → List Char → Mode
  | code, c, rest =>
    if isQuote c && closes c rest then literal c
    else if c == '/' then
      match rest with
      | '/' :: _ => line
      | '*' :: r => if blockCloses r then blockStar else code
      | _ => code
    else code
  | literal q, c, _ => if c == '\\' then escaped q else if c == q then code else literal q
  | escaped q, _, _ => literal q
  | line, c, _ => if c == '\n' then code else line
  | blockStar, _, _ => block
  | block, c, rest => if c == '*' && rest.head? == some '/' then blockSlash else block
  | blockSlash, _, _ => code

/-- Whether a character belongs to a comment, by the modes before and after it. -/
def blanks : Mode → Mode → Bool
  | code, after => after == line || after == blockStar
  | line, _ | blockStar, _ | block, _ | blockSlash, _ => true
  | literal _, _ | escaped _, _ => false

end Mode

def blankChar (c : Char) : Char := if c == '\n' then c else ' '

def blankFrom : Mode → List Char → List Char
  | _, [] => []
  | m, c :: cs =>
    let m' := m.next c cs
    (if m.blanks m' then blankChar c else c) :: blankFrom m' cs

def blankComments (cs : List Char) : List Char := blankFrom .code cs

def stripComments (text : String) : String := String.ofList (blankComments text.toList)

end Coselect.Imports
