namespace QueryBook.Files

/-!
# What can go wrong with a file

* `Fault` — why a file or directory is not read.
* `Fault.message` — the wording, with the system's number.
-/

/-- Why a file or a directory is not read. -/
inductive Fault where
  | notFound
  | isDirectory
  | notDirectory
  /-- The bytes of a file that is read as text are no UTF-8. -/
  | notText
  /-- Any other report of the system, in its own words. -/
  | other (report : String)
deriving DecidableEq, Repr

/-- The wording of a fault. -/
def Fault.message : Fault → String
  | .notFound => "No such file or directory (os error 2)"
  | .isDirectory => "Is a directory (os error 21)"
  | .notDirectory => "Not a directory (os error 20)"
  | .notText => "stream did not contain valid UTF-8"
  | .other report => report

end QueryBook.Files
