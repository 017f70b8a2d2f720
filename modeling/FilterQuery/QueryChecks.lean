import FilterQuery.FilterTexts
import FilterQuery.QueryReading

/-!
# Checking queries

Checking a query reads it and writes the filter in a chosen format, or only says that it can be
read.
-/

namespace FilterQuery

inductive OutputFormat where
  | tree
  | json
  | query
  deriving DecidableEq

/-- The format of a name, in which case does not matter. -/
def OutputFormat.ofName? (name : String) : Option OutputFormat :=
  let key := name.toLower
  if key = "tree" then some .tree
  else if key = "json" then some .json
  else if key = "rsql" ∨ key = "fiql" then some .query
  else none

def Filter.render (format : OutputFormat) (pretty : Bool) (filter : Filter) : String :=
  match format with
  | .tree => filter.outline 0
  | .json => filter.jsonText pretty
  | .query => filter.queryText

/-- How a query is checked. -/
structure CheckOptions where
  format : OutputFormat
  pretty : Bool
  syntaxOnly : Bool
  deriving DecidableEq

/-- What checking a readable query comes to. -/
inductive CheckResult where
  | valid
  | rendered (text : String)
  deriving DecidableEq

def checkQuery (options : CheckOptions) (query : String) : Except ParseError CheckResult :=
  (parse query).map fun filter =>
    if options.syntaxOnly then .valid else .rendered (filter.render options.format options.pretty)

def CheckResult.text : CheckResult → String
  | valid => "Syntax is valid"
  | rendered text => text

end FilterQuery
