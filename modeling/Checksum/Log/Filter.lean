import Checksum.Log.Directive

/-!
# Log filters

A filter is a list of directives separated by commas. A directive reaches the events whose target
starts with its own, and among those that reach an event the one with the longest target decides. A
directive that names a span or the value of a field waits for spans, of which there are none here,
and one that names a field reaches only events with that field. One malformed directive spoils the
list, and a spoilt or missing list means `info`; an empty one lets errors through.
-/

namespace Checksum.Log

abbrev Filter := List Directive

namespace Filter

/-- The environment variable that holds the directives. -/
def variableName : String := "RUST_LOG"

/-- The directives that are meant where none are given. -/
def standard : String := "info"

def infoOnly : Filter := [⟨none, none, none, Level.info.verbosity⟩]

def errorOnly : Filter := [⟨none, none, none, Level.error.verbosity⟩]

def parse? (text : String) : Option Filter :=
  let pieces := (text.toList.splitOn ',').filter (!·.isEmpty)
  if pieces.isEmpty then some errorOnly else pieces.mapM Directive.parse?

/-- The filter that an environment variable with this value asks for. -/
def ofVariable (value : Option Bytes) : Filter :=
  ((value.bind Bytes.toText?).bind parse?).getD infoOnly

/-- The directive that decides about an event: of equally narrow ones the last. -/
def deciding? (filter : Filter) (e : Event) : Option Directive :=
  (filter.filter (·.reaches e)).foldl (fun best d =>
    match best with
    | none => some d
    | some other => if d.coversAsMuch other then some d else some other) none

def passes (filter : Filter) (e : Event) : Bool :=
  match filter.deciding? e with
  | some d => e.level.verbosity ≤ d.limit
  | none => false

end Filter

end Checksum.Log
