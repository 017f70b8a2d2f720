import FilterQuery.CommandResponses

/-!
# The program

Reads the words, the environment and, if the command asks for it, the standard input; writes the
response.
-/

namespace FilterQuery

/-- The bytes on the standard input, unless a terminal is attached to it. -/
partial def readInput : IO (Option ByteArray) := do
  let stream ← IO.getStdin
  if ← stream.isTty then return none
  let rec collect (bytes : ByteArray) : IO ByteArray := do
    let chunk ← stream.read 65536
    if chunk.isEmpty then return bytes else collect (bytes ++ chunk)
  return some (← collect ByteArray.empty)

end FilterQuery

def main (words : List String) : IO UInt32 := do
  let environment ← IO.getEnv "RSQL_FORMAT"
  let awaits :=
    match FilterQuery.Command.ofWords environment words with
    | .ok command => command.awaitsInput
    | .error _ => false
  let input ← if awaits then FilterQuery.readInput else pure none
  let response := FilterQuery.respond environment words input
  (← IO.getStdout).putStr response.output
  (← IO.getStderr).putStr response.errors
  return UInt32.ofNat response.status
