/-!
# The journal

What happens on the way is written into a journal: what was left out and why, which
files are read, what could not be ordered.  An entry has a level and the name of the
**channel** it was written to; channels are named after the program and one of its
parts.  A console shows the entries from a level on, with the level in front; its format and
its lines are made from the same parts (`consoleParts`).
-/

namespace GirTypings

/-- The name of the program. -/
def programName : String :=
  "gir_to_dts"

/-- How much an entry matters. -/
inductive Level where
  | debug
  | info
  | warning
  | error
deriving DecidableEq, Repr

namespace Level

/-- All levels, in increasing order. -/
def all : List Level :=
  [debug, info, warning, error]

/-- How a level is written. -/
def name : Level → String
  | debug => "DEBUG"
  | info => "INFO"
  | warning => "WARNING"
  | error => "ERROR"

/-- The place of a level in the order. -/
def rank : Level → Nat
  | debug => 0
  | info => 1
  | warning => 2
  | error => 3

/-- The least level that a console shows, by whether it is to be verbose. -/
def threshold (verbose : Bool) : Level :=
  if verbose then debug else info

/-- Whether a console that starts at one level shows another. -/
def shownFrom (least level : Level) : Bool :=
  least.rank ≤ level.rank

end Level

/-- The channel of a part of the program; of the program itself if no part is named. -/
def channelName (part : Option String) : String :=
  match part with
  | none => programName
  | some p => if p = "" then programName else programName ++ "." ++ p

/-- An entry of the journal. -/
structure Entry where
  /-- How much it matters. -/
  level : Level
  /-- The channel it was written to. -/
  channel : String
  /-- What it says. -/
  message : String
deriving DecidableEq, Repr

/-! ### Consoles -/

/-- A part of the lines that a console writes. -/
inductive ConsolePart where
  /-- The same text in all lines. -/
  | literal (text : String)
  /-- The level of the entry. -/
  | level
  /-- What the entry says. -/
  | message

namespace ConsolePart

/-- How a part is told in a format. -/
def placeholder : ConsolePart → String
  | literal text => text
  | level => "%(levelname)s"
  | message => "%(message)s"

/-- What a part is in the line for an entry. -/
def fill (e : Entry) : ConsolePart → String
  | literal text => text
  | level => e.level.name
  | message => e.message

end ConsolePart

/-- What all lines start with. -/
def consoleStart : String :=
  "[" ++ programName ++ "] "

/-- The parts of a line, in order. -/
def consoleParts : List ConsolePart :=
  [.literal consoleStart, .level, .literal " ", .message]

/-- The format of the lines, `[gir_to_dts] %(levelname)s %(message)s`. -/
def consoleFormat : String :=
  .join (consoleParts.map ConsolePart.placeholder)

/-- The line that a console writes for an entry. -/
def Entry.consoleLine (e : Entry) : String :=
  .join (consoleParts.map (ConsolePart.fill e))

/-- The lines that a console shows of a journal. -/
def consoleLines (verbose : Bool) (journal : List Entry) : List String :=
  (journal.filter fun e => (Level.threshold verbose).shownFrom e.level).map Entry.consoleLine

end GirTypings
