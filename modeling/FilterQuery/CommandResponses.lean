import FilterQuery.CommandLine
import FilterQuery.Guide

/-!
# Responses of the command

Running the command is a function of its words, of the format that the environment names, and of
what stands on the standard input.  A query from the standard input loses the blanks at its ends.
A command fails when its query cannot be had or cannot be read, or when it is asked for a format or
a topic that there is none of.
-/

namespace FilterQuery

/-! ## Errors -/

/-- Why a command fails. -/
inductive CommandError where
  | parse (e : ParseError)
  | unreadableInput
  | noInput
  | unknownFormat (name : String)
  | unknownTopic (name : String)
  deriving DecidableEq

def CommandError.message : CommandError → String
  | parse e => "Parse error: " ++ e.message
  | unreadableInput => "IO error: stream did not contain valid UTF-8"
  | noInput => "No query provided. Pass it as an argument or pipe it to stdin."
  | unknownFormat name => "Unknown format: '" ++ name ++ "'. Valid formats are: tree, json, rsql"
  | unknownTopic name =>
    "Unknown category: '" ++ name ++ "'\nRun 'rsql docs' to see available categories."

def OutputFormat.ofName (name : String) : Except CommandError OutputFormat :=
  match ofName? name with
  | some format => .ok format
  | none => .error (.unknownFormat name)

def GuideTopic.ofName (name : String) : Except CommandError GuideTopic :=
  match ofName? name with
  | some topic => .ok topic
  | none => .error (.unknownTopic name)

/-! ## Responses -/

/-- What the command writes, and the status with which it ends. -/
structure Response where
  status : Nat
  output : String
  errors : String
  deriving DecidableEq

namespace Response

def success (output : String) : Response := ⟨0, output, ""⟩

def failure (e : CommandError) : Response := ⟨1, "", e.message ++ "\n"⟩

/-- The response to a command line that is not understood. -/
def misuse (e : UsageError) : Response := ⟨2, "", "error: " ++ e.message ++ "\n"⟩

def ofResult : Except CommandError String → Response
  | .ok output => success output
  | .error e => failure e

end Response

/-- The query on the standard input, which is absent when the input is a terminal. -/
def queryOfInput : Option ByteArray → Except CommandError String
  | none => .error .noInput
  | some bytes =>
    match String.fromUTF8? bytes with
    | some text => .ok (String.ofList (trimBlanks text.toList))
    | none => .error .unreadableInput

/-- The query that is given as an operand, or else on the standard input. -/
def givenQuery (input : Option ByteArray) : Option String → Except CommandError String
  | some query => .ok query
  | none => queryOfInput input

def versionLine : String := "rsql 0.1.0\n"

def usageText : String :=
  textOfLines [
    "Usage: rsql [-v] <command>",
    "",
    "  check [QUERY] [-f FORMAT] [-p] [--syntax-only]   Parse a query and print its AST",
    "  tokens [QUERY]                                   Print the tokens of a query",
    "  docs                                             List documentation categories",
    "  doc CATEGORY                                     Show one documentation category"]

namespace Command

def output (input : Option ByteArray) : Command → Except CommandError String
  | check query options => do
    let text ← givenQuery input query
    match checkQuery options text with
    | .ok result => return result.text ++ "\n"
    | .error e => throw (.parse e)
  | tokens query => (givenQuery input query).map fun text => tokenListing text ++ "\n"
  | topics => .ok guideOverview
  | topic name => (GuideTopic.ofName name).map GuideTopic.text
  | version => .ok versionLine
  | help => .ok usageText

end Command

/-- The response of the program to the words of its command line. -/
def respond (environment : Option String) (words : List String) (input : Option ByteArray) :
    Response :=
  match Command.ofWords environment words with
  | .ok command => .ofResult (command.output input)
  | .error e => .misuse e

end FilterQuery
