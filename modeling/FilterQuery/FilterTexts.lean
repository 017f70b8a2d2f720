import FilterQuery.Filters

/-!
# Texts of filters

A filter is written in three formats.

As a query it is written without blanks, with one spelling for each comparison, and with
parentheses only around a combination that binds no tighter than the one that it is a part of.

An outline shows it as a tree: a line for each constraint, and the parts of a combination one tab
further in, between a line that opens it and a line that closes it.  Every part but the last has a
comma behind it.  Where parts are counted, the last one is found by its number, which is one less
than the number of all parts; without parts there is no such number.

In JSON a constraint is an object with a field, an operator and a value; a combination is an object
with its nodes and an operator.  Members are in alphabetical order.  The text is compact, or spread
over lines with two blanks of indentation for each level.
-/

namespace FilterQuery

/-! ## Canonical queries -/

/-- A value in a query; strings stand bare. -/
def Value.queryText : Value → String
  | .string text => text
  | .integer n => n.toInt.repr
  | .float x => x.text
  | .boolean b => booleanText b
  | .null => "null"

/-- An argument in a query. -/
def Argument.queryText : Argument → String
  | .one value => value.queryText
  | .list values => "(" ++ String.intercalate "," (values.map Value.queryText) ++ ")"

namespace Filter

def needsGroup (outer : Connective) : Filter → Bool
  | combination inner _ => decide (inner.precedence ≤ outer.precedence)
  | constraint .. => false

mutual

/-- The canonical query of a filter. -/
def queryText : Filter → String
  | constraint field op argument => field ++ op.symbol ++ argument.queryText
  | combination op parts => String.intercalate op.symbol (partTexts op parts)

def partTexts (outer : Connective) : List Filter → List String
  | [] => []
  | part :: rest =>
    (if part.needsGroup outer then "(" ++ queryText part ++ ")" else queryText part) ::
      partTexts outer rest

end

end Filter

/-! ## Outlines -/

namespace Filter

def tabs (indent : Nat) : String := String.ofList (List.replicate indent '\t')

mutual

def outline (indent : Nat) : Filter → String
  | constraint field op argument =>
    tabs indent ++ field ++ " " ++ op.name ++ " " ++ argument.display
  | combination op parts =>
    tabs indent ++ op.name ++ " [\n" ++ outlineParts (indent + 1) parts ++ tabs indent ++ "]"

/-- The outlines of the parts of a combination, each ended by a line break and all but the last by
a comma before it. -/
def outlineParts (indent : Nat) : List Filter → String
  | [] => ""
  | part :: rest =>
    outline indent part ++ (if rest.isEmpty then "\n" else ",\n") ++ outlineParts indent rest

end

def lastNumber? : Nat → Option Nat
  | 0 => none
  | count + 1 => some count

mutual

/-- The outline of a filter, put together by the numbers of its parts; `none` if the number of a
last part is asked for where there are no parts. -/
def numberedOutline (indent : Nat) : Filter → Option String
  | constraint field op argument =>
    some (tabs indent ++ field ++ " " ++ op.name ++ " " ++ argument.display)
  | combination op parts => do
    let inner ← numberedParts (indent + 1) parts.length 0 parts
    return tabs indent ++ op.name ++ " [\n" ++ inner ++ tabs indent ++ "]"

def numberedParts (indent count number : Nat) : List Filter → Option String
  | [] => some ""
  | part :: rest => do
    let text ← numberedOutline indent part
    let last ← lastNumber? count
    let behind ← numberedParts indent count (number + 1) rest
    return text ++ (if number < last then ",\n" else "\n") ++ behind

end

end Filter

/-! ## JSON -/

namespace JsonText

/-- One character of a JSON string; quotes, backslashes and controls are escaped. -/
def character (c : Char) : String :=
  if c = '"' then "\\\""
  else if c = '\\' then "\\\\"
  else if c = '\x08' then "\\b"
  else if c = '\x0c' then "\\f"
  else if c = '\n' then "\\n"
  else if c = '\r' then "\\r"
  else if c = '\t' then "\\t"
  else if c.toNat < 16 then "\\u000" ++ String.ofList (Nat.toDigits 16 c.toNat)
  else if c.toNat < 32 then "\\u00" ++ String.ofList (Nat.toDigits 16 c.toNat)
  else String.singleton c

def string (text : String) : String :=
  "\"" ++ String.join (text.toList.map character) ++ "\""

/-- The line break and the indentation before an item at a depth, absent from compact text. -/
def lineBreak (pretty : Bool) (depth : Nat) : String :=
  if pretty then String.ofList ('\n' :: List.replicate (2 * depth) ' ') else ""

/-- Items between brackets, at a depth; nothing stands between the brackets of no items. -/
def enclosed (pretty : Bool) (depth : Nat) (opening closing : String) (items : List String) :
    String :=
  if items.isEmpty then opening ++ closing
  else
    opening ++ lineBreak pretty (depth + 1) ++
      String.intercalate ("," ++ lineBreak pretty (depth + 1)) items ++
      lineBreak pretty depth ++ closing

def array (pretty : Bool) (depth : Nat) (items : List String) : String :=
  enclosed pretty depth "[" "]" items

def member (pretty : Bool) (key value : String) : String :=
  string key ++ (if pretty then ": " else ":") ++ value

def object (pretty : Bool) (depth : Nat) (members : List (String × String)) : String :=
  enclosed pretty depth "\x7b" "\x7d" (members.map fun m => member pretty m.1 m.2)

end JsonText

/-- A value in JSON.  What JSON has no number for is null. -/
def Value.jsonText : Value → String
  | .string text => JsonText.string text
  | .integer n => n.toInt.repr
  | .float x => if x.isFinite then DecimalLayout.json.finiteText x else "null"
  | .boolean b => booleanText b
  | .null => "null"

def Argument.jsonText (pretty : Bool) (depth : Nat) : Argument → String
  | .one value => value.jsonText
  | .list values => JsonText.array pretty depth (values.map Value.jsonText)

namespace Filter

mutual

def jsonTextAt (pretty : Bool) (depth : Nat) : Filter → String
  | constraint field op argument =>
    JsonText.object pretty depth
      [("field", JsonText.string field), ("operator", JsonText.string op.key),
        ("value", argument.jsonText pretty (depth + 1))]
  | combination op parts =>
    JsonText.object pretty depth
      [("nodes", JsonText.array pretty (depth + 1) (jsonTextsAt pretty (depth + 2) parts)),
        ("operator", JsonText.string op.key)]

def jsonTextsAt (pretty : Bool) (depth : Nat) : List Filter → List String
  | [] => []
  | part :: rest => jsonTextAt pretty depth part :: jsonTextsAt pretty depth rest

end

def jsonText (pretty : Bool) (filter : Filter) : String := filter.jsonTextAt pretty 0

end Filter

end FilterQuery
