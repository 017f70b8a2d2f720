import FilterQuery.QueryReading

/-!
# Journals

Reading a query can be followed in a journal: what is being read, each token as it comes within
sight, each combination whose parts are taken over, and what the query came to.  Tokens are
entries of their own, finer level.
The journal shows a filter with all of its parts named.
-/

namespace FilterQuery

/-! ## Dumps -/

namespace Dump

def list (items : List String) : String := "[" ++ String.intercalate ", " items ++ "]"

/-- Named parts after the name of a whole, between braces. -/
def record (name : String) (parts : List (String × String)) : String :=
  name ++ " \x7b " ++ String.intercalate ", " (parts.map fun p => p.1 ++ ": " ++ p.2) ++ " \x7d"

/-- A text in parentheses after a name. -/
def labelled (name text : String) : String := name ++ "(" ++ text ++ ")"

end Dump

def Value.dump : Value → String
  | .string text => Dump.labelled "String" (quoted text)
  | .integer n => Dump.labelled "Integer" n.toInt.repr
  | .float x => Dump.labelled "Float" x.text
  | .boolean b => Dump.labelled "Boolean" (booleanText b)
  | .null => "Null"

def Argument.dump : Argument → String
  | .one value => Dump.labelled "Scalar" value.dump
  | .list values => Dump.labelled "List" (Dump.list (values.map Value.dump))

namespace Filter

mutual

def dump : Filter → String
  | constraint field op argument =>
    Dump.labelled "Constraint"
      (Dump.record "Constraint"
        [("field", quoted field), ("operator", op.name), ("value", argument.dump)])
  | combination op parts =>
    Dump.labelled "Logical"
      (Dump.record "Logical" [("operator", op.name), ("nodes", Dump.list (dumps parts))])

def dumps : List Filter → List String
  | [] => []
  | part :: rest => dump part :: dumps rest

end

end Filter

/-! ## Entries -/

/-- How fine a journal entry is. -/
inductive JournalLevel where
  | debug
  | trace
  deriving DecidableEq

def JournalLevel.name : JournalLevel → String
  | debug => "DEBUG"
  | trace => "TRACE"

structure JournalEntry where
  level : JournalLevel
  message : String
  deriving DecidableEq

namespace JournalEntry

def ofNote : Note → JournalEntry
  | .scanned token =>
    ⟨.trace, "lexed " ++ token.display ++ " at offset " ++ token.offset.repr⟩
  | .flattened parts op =>
    ⟨.debug, "flattening " ++ parts.repr ++ " " ++ op.name ++ " children"⟩

/-- The entry of what a query came to. -/
def ofResult (query : String) : Except ParseError Filter → JournalEntry
  | .ok filter => ⟨.debug, "parsed " ++ quoted query ++ " into " ++ filter.dump⟩
  | .error e => ⟨.debug, "failed to parse " ++ quoted query ++ ": " ++ e.message⟩

end JournalEntry

/-- The notes of reading a stream as a query, those of the tokens first in sight included. -/
def queryNotes (s : TokenStream) : List Note :=
  s.inSight.map .scanned ++ (readQuery s).notes

def journal (query : String) : List JournalEntry :=
  ⟨.debug, "parsing " ++ quoted query⟩ ::
    ((queryNotes (scan query)).map .ofNote ++ [.ofResult query (parse query)])

/-- The journal without the entries that are finer than asked for. -/
def journalUpTo (level : JournalLevel) (query : String) : List JournalEntry :=
  (journal query).filter fun entry => level = .trace ∨ entry.level = .debug

end FilterQuery
