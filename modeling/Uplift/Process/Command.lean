/-! # Commands

What is asked of a program outside, and what comes of running it.
-/

namespace Uplift

/-- A program to be run, with its time limit in milliseconds. -/
structure Command where
  program : String
  args : List String
  workingDir : String
  timeoutMillis : Nat
  /-- What it prints is shown as it comes. -/
  echo : Bool := false
deriving DecidableEq, Repr

namespace Command

/-- The words of a command. -/
def text (c : Command) : String := " ".intercalate (c.program :: c.args)

/-- The time limit in whole seconds. -/
def timeoutSecs (c : Command) : Nat := c.timeoutMillis / 1000

end Command

/-- A program that has ended: its status, and the lines that it wrote. -/
structure Finished where
  status : Int
  lines : List String
deriving DecidableEq, Repr

/-- The program says that it did what it was asked. -/
def Finished.success (f : Finished) : Bool := f.status = 0

/-- Why a program did not end by itself: it was not started, or it took too long and was stopped
after some lines. -/
inductive RunFailure where
  | spawn (cause : String)
  | timeout (lines : List String)
deriving DecidableEq, Repr

end Uplift
