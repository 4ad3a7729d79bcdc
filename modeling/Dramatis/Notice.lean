import Dramatis.Text.Decimal

/-!
# Dramatis.Notice

The log of a play. Every transition leaves a notice of what happened and how many
actors are on stage; a notice says so in one line of text.
-/

namespace Dramatis

open Text

/-- How much attention a notice asks for. -/
inductive Level where
  | debug
  | trace
deriving DecidableEq

/-- The level as the log spells it. -/
def Level.text : Level → String
  | debug => "DEBUG"
  | trace => "TRACE"

/-- An event worth a line in the log. Actors appear under the names they have at
the time. -/
inductive Notice where
  /-- A cast is complete. -/
  | assembled (actors : Nat)
  /-- Actors came on together; so many are on stage now. -/
  | entered (names : List String) (present : Nat)
  /-- Actors left together; so many are on stage now. -/
  | leftTogether (names : List String) (present : Nat)
  /-- One actor left; so many are on stage now. -/
  | leftAlone (name : String) (present : Nat)
  /-- Everybody left, so many in all. -/
  | cleared (actors : Nat)
  /-- One of two actors facing each other spoke to the other. -/
  | addressed (speaker addressee : String)
deriving DecidableEq

namespace Notice

/-- Speech is traced, all else is for debugging. -/
def level : Notice → Level
  | addressed _ _ => .trace
  | _ => .debug

/-- Names in a row. -/
def list (names : List String) : String := ", ".intercalate names

/-- The event in words. -/
def text : Notice → String
  | assembled actors => "cast assembled with " ++ Decimal.text actors ++ " actor(s)"
  | entered names present => "enter " ++ list names ++ ": " ++ Decimal.text present ++ " on stage"
  | leftTogether names present =>
    "exeunt " ++ list names ++ ": " ++ Decimal.text present ++ " on stage"
  | leftAlone name present => "exit " ++ name ++ ": " ++ Decimal.text present ++ " on stage"
  | cleared actors => "exeunt omnes: " ++ Decimal.text actors ++ " left the stage"
  | addressed speaker addressee => speaker ++ " is addressing " ++ addressee

/-- The line that the log holds: the level, a space and the event. -/
def line (notice : Notice) : String := notice.level.text ++ " " ++ notice.text

end Notice

end Dramatis
