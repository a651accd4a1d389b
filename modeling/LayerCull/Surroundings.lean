import LayerCull.Config.Reference

/-!
This module contains what a program finds where it is started: variables and files.
-/

namespace LayerCull

/-- Why there is no text at a path. -/
inductive Unreadable where
  | missing
  | notDirectory
  | directory
  | forbidden
  /-- No path looks like this. -/
  | noPath
  /-- The bytes of the file encode no text. -/
  | notText
  | other (reason : String)
  deriving DecidableEq, Repr

def Unreadable.message : Unreadable → String
  | .missing => "No such file or directory (os error 2)"
  | .notDirectory => "Not a directory (os error 20)"
  | .directory => "Is a directory (os error 21)"
  | .forbidden => "Permission denied (os error 13)"
  | .noPath => "file name contained an unexpected NUL byte"
  | .notText => "stream did not contain valid UTF-8"
  | .other reason => reason

structure Surroundings where
  environment : Environment
  /-- The text of the file at a path. -/
  textAt : String → Except Unreadable String

end LayerCull
