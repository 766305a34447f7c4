import Coselect.Imports.Extract
import Coselect.Proofs.Text.Words

/-! Imports as they are written: names that are no keyword, the clauses made of them, and sources in
quotes. A clause holds names and five marks only, at most one pair of braces, and no blank at its
ends. -/

namespace Coselect.Imports

open Text

/-- The words that a form may begin with. -/
def keywords : List (List Char) := ["import", "export", "const", "let", "var"].map String.toList

structure Identifier where
  name : List Char
  ne_nil : name ≠ []
  isName_of_mem : ∀ c ∈ name, isName c = true
  notKeyword : name ∉ keywords

def Identifier.of (name : String)
    (h : name.toList ≠ [] ∧ (∀ c ∈ name.toList, isName c = true) ∧ name.toList ∉ keywords := by
      decide) : Identifier :=
  ⟨name.toList, h.1, h.2.1, h.2.2⟩

/-- One name between the braces of a clause, under its own name or another one. -/
inductive Binding
  | plain (name : Identifier)
  | renamed (name shown : Identifier)

/-- What stands between the keyword and `from`. -/
inductive Clause
  | default (name : Identifier)
  | named (bindings : List Binding)
  | star (name : Identifier)
  | defaultNamed (name : Identifier) (bindings : List Binding)
  | defaultStar (name shown : Identifier)

/-- A source in quotes, on one line and without quotes, backquotes and backslashes. -/
structure Literal where
  quote : Char
  source : List Char
  isQuote : quote = '"' ∨ quote = '\''
  ne_nil : source ≠ []
  plain : ∀ c ∈ source, isSourceChar c = true ∧ c ≠ backquote ∧ c ≠ '\\'

/-- The source in single quotes. -/
def Literal.of (source : String)
    (h : source.toList ≠ [] ∧
      ∀ c ∈ source.toList, isSourceChar c = true ∧ c ≠ backquote ∧ c ≠ '\\' := by decide) : Literal :=
  ⟨'\'', source.toList, .inr rfl, h.1, h.2⟩

def Literal.text (l : Literal) : List Char := l.quote :: (l.source ++ [l.quote])

def Binding.text : Binding → List Char
  | plain n => n.name
  | renamed n m => n.name ++ " as ".toList ++ m.name

/-- The bindings with commas between them. -/
def listed (bindings : List Binding) : List Char := joinWith ", ".toList (bindings.map Binding.text)

def braces (bindings : List Binding) : List Char := '\x7b' :: (listed bindings ++ ['\x7d'])

def starAs (name : Identifier) : List Char := "* as ".toList ++ name.name

theorem starAs_eq (n : Identifier) : starAs n = "* as ".toList ++ n.name := rfl

namespace Clause

def text : Clause → List Char
  | default n => n.name
  | named bs => braces bs
  | star n => starAs n
  | defaultNamed n bs => n.name ++ ", ".toList ++ braces bs
  | defaultStar n m => n.name ++ ", ".toList ++ starAs m

/-- The names that the clause binds. -/
def names : Clause → List (List Char)
  | default n => [n.name]
  | named bs => bs.map Binding.text
  | star n => [starAs n]
  | defaultNamed n bs => n.name :: bs.map Binding.text
  | defaultStar n m => [n.name, starAs m]

def specifiers (clause : Clause) : List String := clause.names.map String.ofList

/-- What stands in front of the braces; the whole clause when it has none. -/
def lead : Clause → List Char
  | default n => n.name
  | named _ => []
  | star n => starAs n
  | defaultNamed n _ => n.name ++ ", ".toList
  | defaultStar n m => n.name ++ ", ".toList ++ starAs m

/-- The braces of the clause, with what they hold, or nothing. -/
def braced : Clause → List Char
  | named bs | defaultNamed _ bs => braces bs
  | default _ | star _ | defaultStar _ _ => []

theorem text_eq (clause : Clause) : clause.text = clause.lead ++ clause.braced := by
  cases clause <;> simp [text, lead, braced]

end Clause

/-- The import of a clause, on one line and without a semicolon. -/
def Clause.importText (clause : Clause) (l : Literal) : List Char :=
  "import ".toList ++ (clause.text ++ (" from ".toList ++ l.text))

theorem Clause.importText_eq (clause : Clause) (l : Literal) :
    clause.importText l = "import ".toList ++ (clause.text ++ (" from ".toList ++ l.text)) := rfl

/-- The statement of a form that stands behind a text. -/
def statementBehind (before : List Char) (kind : Kind) (source : List Char)
    (specifiers : List String) : Statement :=
  { source := String.ofList source, kind, specifiers
    line := before.count '\n' + 1
    offset := before.length }

def Clause.importBehind (before : List Char) (clause : Clause) (l : Literal) : Statement :=
  statementBehind before .staticImport l.source clause.specifiers

/-- Between names stand blanks, commas and stars. -/
def isMark (c : Char) : Bool := c == ' ' || c == ',' || c == '*'

/-- What a clause holds apart from its braces. -/
def isPart (c : Char) : Bool := isName c || isMark c

theorem Identifier.isPart_of_mem (n : Identifier) : ∀ c ∈ n.name, isPart c = true := by
  intro c hc
  simp [isPart, n.isName_of_mem c hc]

theorem Binding.mem_text (b : Binding) : ∀ c ∈ b.text, isName c = true ∨ c = ' ' := by
  cases b with
  | plain n => exact fun c hc => .inl (n.isName_of_mem c hc)
  | renamed n m =>
    have has : ∀ c ∈ " as ".toList, isName c = true ∨ c = ' ' := by decide
    simpa only [text, List.forall_mem_append] using
      ⟨⟨fun c hc => .inl (n.isName_of_mem c hc), has⟩, fun c hc => .inl (m.isName_of_mem c hc)⟩

theorem forall_mem_joinWith {P : Char → Prop} {sep : List Char} {parts : List (List Char)}
    (hsep : ∀ c ∈ sep, P c) (h : ∀ part ∈ parts, ∀ c ∈ part, P c) :
    ∀ c ∈ joinWith sep parts, P c := by
  induction parts with
  | nil => simp [joinWith]
  | cons part parts ih =>
    cases parts with
    | nil => exact h part List.mem_cons_self
    | cons part' parts =>
      simp only [joinWith, List.forall_mem_append]
      exact ⟨⟨h part List.mem_cons_self, hsep⟩, ih fun p hp => h p (List.mem_cons_of_mem _ hp)⟩

/-- Names, blanks and commas are all that a list of bindings holds. -/
theorem mem_listed (bs : List Binding) : ∀ c ∈ listed bs, isName c = true ∨ c = ' ' ∨ c = ',' := by
  apply forall_mem_joinWith
  · decide
  · intro part hpart c hc
    obtain ⟨b, _, rfl⟩ := List.mem_map.1 hpart
    rcases b.mem_text c hc with h | h
    · exact .inl h
    · exact .inr (.inl h)

theorem isPart_of_mem_listed (bs : List Binding) : ∀ c ∈ listed bs, isPart c = true := by
  intro c hc
  rcases mem_listed bs c hc with h | rfl | rfl
  · simp [isPart, h]
  all_goals decide

theorem isPart_of_mem_starAs (n : Identifier) : ∀ c ∈ starAs n, isPart c = true := by
  have has : ∀ c ∈ "* as ".toList, isPart c = true := by decide
  simpa only [starAs_eq, List.forall_mem_append] using ⟨has, n.isPart_of_mem⟩

theorem Clause.isPart_of_mem_lead (clause : Clause) : ∀ c ∈ clause.lead, isPart c = true := by
  have hsep : ∀ c ∈ ", ".toList, isPart c = true := by decide
  cases clause with
  | default n => exact n.isPart_of_mem
  | named bs => simp [lead]
  | star n => exact isPart_of_mem_starAs n
  | defaultNamed n bs =>
    simpa only [lead, List.forall_mem_append] using ⟨n.isPart_of_mem, hsep⟩
  | defaultStar n m =>
    simpa only [lead, List.forall_mem_append] using
      ⟨⟨n.isPart_of_mem, hsep⟩, isPart_of_mem_starAs m⟩

/-- A clause has no braces or one pair. -/
theorem Clause.braced_eq (clause : Clause) :
    clause.braced = [] ∨ ∃ bs, clause.braced = braces bs := by
  cases clause with
  | named bs | defaultNamed _ bs => exact .inr ⟨bs, rfl⟩
  | default _ | star _ | defaultStar _ _ => exact .inl rfl

/-- Names, marks and braces are all that a clause holds. -/
theorem Clause.mem_text (clause : Clause) :
    ∀ c ∈ clause.text, isPart c = true ∨ c = '\x7b' ∨ c = '\x7d' := by
  intro c hc
  rw [text_eq, List.mem_append] at hc
  rcases hc with hc | hc
  · exact .inl (clause.isPart_of_mem_lead c hc)
  · rcases clause.braced_eq with h | ⟨bs, h⟩
    · simp [h] at hc
    · rw [h, braces, List.mem_cons, List.mem_append, List.mem_singleton] at hc
      rcases hc with hc | hc | hc
      · exact .inr (.inl hc)
      · exact .inl (isPart_of_mem_listed bs c hc)
      · exact .inr (.inr hc)

end Coselect.Imports
