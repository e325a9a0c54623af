import AbiBindings.Text.Digits

/-!
# Levels of the log

A message has a level, and a level shows the messages that are not more verbose than itself.
-/

namespace AbiBindings.Log

/-- How much is logged, from nothing to everything. -/
inductive Level where
  | off
  | error
  | warn
  | info
  | debug
  | trace
  deriving DecidableEq

namespace Level

def rank : Level → Nat
  | off => 0
  | error => 1
  | warn => 2
  | info => 3
  | debug => 4
  | trace => 5

def all : List Level := [off, error, warn, info, debug, trace]

def name : Level → String
  | off => "off"
  | error => "error"
  | warn => "warn"
  | info => "info"
  | debug => "debug"
  | trace => "trace"

/-- The level of a name in any case. -/
def ofName? (cs : List Char) : Option Level :=
  all.find? fun level => level.name.toList == cs.map Char.toLower

/-- The level of a rank in decimal, before which a plus sign may stand. -/
def ofRank? (cs : List Char) : Option Level := do
  let rank ← Text.decimal? (if cs.head? = some '+' then cs.tail else cs)
  all.find? fun level => level.rank == rank

/-- The level that a text names or numbers. -/
def ofText? (cs : List Char) : Option Level :=
  (ofRank? cs).or (ofName? cs)

/-- Whether messages of a level are shown at this one. -/
def shows (enabled message : Level) : Bool :=
  message.rank ≤ enabled.rank

end Level

end AbiBindings.Log
