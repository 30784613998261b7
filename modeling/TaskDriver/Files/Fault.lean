/-! What can be wrong with an operation on files. -/
namespace TaskDriver.Files

inductive Fault
  | missing
  | denied
  | alreadyThere
  | notDirectory
  | isDirectory
  | notLink
  | notProgram
  | nameTooLong
  | tooManyLinks
  /-- The content is no text in UTF-8. -/
  | notText
  | zeroInPath
  | other (text : String)
  deriving DecidableEq, Repr

def numbered (text : String) (number : Nat) : String :=
  text ++ " (os error " ++ toString number ++ ")"

/-- The words and the number that the operating system has for it. -/
def Fault.text : Fault → String
  | .missing => numbered "No such file or directory" 2
  | .notProgram => numbered "Exec format error" 8
  | .denied => numbered "Permission denied" 13
  | .alreadyThere => numbered "File exists" 17
  | .notDirectory => numbered "Not a directory" 20
  | .isDirectory => numbered "Is a directory" 21
  | .notLink => numbered "Invalid argument" 22
  | .nameTooLong => numbered "File name too long" 36
  | .tooManyLinks => numbered "Too many levels of symbolic links" 40
  | .notText => "stream did not contain valid UTF-8"
  | .zeroInPath => "file name contained an unexpected NUL byte"
  | .other text => text

end TaskDriver.Files
