import OrderDesk.Text.Case
import OrderDesk.Text.Quoted

/-!
# The level of the log

A level is named in any letter case. A name that is no level stands for the usual one,
except for two names that are taken: they name something else about logging, and using
one as a level is an error.
-/

namespace OrderDesk.Logging

/-- The form of a written line. -/
def lineFormat : String := "%(asctime)s %(levelname)-8s %(name)s: %(message)s"

/-- The levels and their numbers. -/
def levels : List (String × Nat) :=
  [("CRITICAL", 50), ("FATAL", 50), ("ERROR", 40), ("WARNING", 30), ("WARN", 30),
   ("INFO", 20), ("DEBUG", 10), ("NOTSET", 0)]

/-- The number of the usual level. -/
def usualLevel : Nat := 20

/-- Why a name cannot be used as a level. -/
inductive Misnamed where
  /-- The name stands for a format. -/
  | format (text : String)
  /-- The name stands for a table of styles. -/
  | styles
  deriving DecidableEq, Repr

/-- What is written about a name that cannot be used. -/
def Misnamed.message : Misnamed → String
  | format text => "Unknown level: " ++ Text.quoted text
  | styles => "Level not an integer or a valid string"

/-- The names that are taken. -/
def taken : List (String × Misnamed) :=
  [("BASIC_FORMAT", .format "%(levelname)s:%(name)s:%(message)s"), ("_STYLES", .styles)]

/-- **The number of a named level.** -/
def levelNumber (name : String) : Except Misnamed Nat :=
  let name := Text.upper name
  match taken.lookup name with
  | some why => .error why
  | none => .ok ((levels.lookup name).getD usualLevel)

end OrderDesk.Logging
