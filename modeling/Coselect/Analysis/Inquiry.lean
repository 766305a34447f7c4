import Coselect.Analysis.Caches

/-! Work that asks the disk and uses the shared caches, as a value that can be stopped and
taken up again. An inquiry stands still wherever it asks or pauses; a change of the caches
happens in one piece and sees the caches as they are at that time. Between its parts an
inquiry may look for a signal to stop. -/

namespace Coselect.Analysis

open Disk

/-- What an inquiry may find when it looks for signals. -/
structure Signal where
  cancelled : Bool := false
  expired : Bool := false
  deriving DecidableEq, Repr

inductive Inquiry (α : Type)
  | done (a : α)
  | ask (q : Query) (k : q.Answer → Inquiry α)
  | change (f : Caches → Caches) (k : Caches → Inquiry α)
  | look (k : Signal → Inquiry α)
  | pause (next : Inquiry α)

namespace Inquiry

def bind : Inquiry α → (α → Inquiry β) → Inquiry β
  | done a, f => f a
  | ask q k, f => ask q fun r => bind (k r) f
  | change g k, f => change g fun c => bind (k c) f
  | look k, f => look fun s => bind (k s) f
  | pause next, f => pause (bind next f)

instance : Monad Inquiry where
  pure := done
  bind := bind

def isFile (path : String) : Inquiry Bool := ask (.isFile path) done
def isDirectory (path : String) : Inquiry Bool := ask (.isDirectory path) done
def names (path : String) : Inquiry (List String) := ask (.names path) done
def read (path : String) : Inquiry (Except ReadFault String) := ask (.read path) done
def stamp (path : String) : Inquiry (Option Stamp) := ask (.stamp path) done

/-- The first of some paths that is a file. -/
def firstFile : List String → Inquiry (Option String)
  | [] => pure none
  | path :: paths => do
    if ← isFile path then return some path else firstFile paths

/-- The caches as they are. -/
def caches : Inquiry Caches := change id done

/-- Changes the caches, and gives them as they were before. -/
def swap (f : Caches → Caches) : Inquiry Caches := change f done

def signal : Inquiry Signal := look done

/-- Lets others have a turn. -/
def yield : Inquiry Unit := pause (done ())

/-- Gives up, without an answer, when the time ends while the inquiry waits for a reply. -/
def withinTime : Inquiry α → Inquiry (Option α)
  | done a => done (some a)
  | ask q k => ask q fun r => look fun s => if s.expired then done none else withinTime (k r)
  | change g k => change g fun c => withinTime (k c)
  | look k => look fun s => withinTime (k s)
  | pause next => pause (withinTime next)

/-- The inquiry up to the next place where it stands still, with the caches it leaves. -/
def settle (s : Signal) : Inquiry α → Caches → Inquiry α × Caches
  | done a, c => (done a, c)
  | ask q k, c => (ask q k, c)
  | change g k, c => settle s (k c) (g c)
  | look k, c => settle s (k s) c
  | pause next, c => (pause next, c)

/-- The whole inquiry on a disk that does not change; `signal` tells what a look finds after
some questions, the last one first. -/
def run (d : Volume) (signal : List Query → Signal) : Inquiry α → List Query → Caches → α × Caches
  | done a, _, c => (a, c)
  | ask q k, asked, c => run d signal (k (d.answer q)) (q :: asked) c
  | change g k, asked, c => run d signal (k c) asked (g c)
  | look k, asked, c => run d signal (k (signal asked)) asked c
  | pause next, asked, c => run d signal next asked c

end Inquiry

/-- An inquiry that may fail. -/
abbrev Work (α : Type) := ExceptT Failure Inquiry α

namespace Work

def ofInquiry (t : Inquiry α) : Work α := ExceptT.lift t

def fail (f : Failure) : Work α := throw f

/-- The text of a file, none when it cannot be read. -/
def read? (path : String) : Work (Option String) := do
  match ← ofInquiry (.read path) with
  | .ok text => return some text
  | .error .unreadable => return none
  | .error (.unknownEncoding name) => fail (.unknownEncoding name)

end Work

end Coselect.Analysis
