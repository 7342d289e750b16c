/-! The ways in which using a file can fail, with the operating system's words for them. -/

namespace Attribution.Files

inductive Fault where
  | notFound
  | noDevice
  | notDirectory
  | isDirectory
  | invalidArgument
  | nameTooLong
  | linkLoop
  /-- The content is not well-formed UTF-8. -/
  | notText
  /-- The path holds a zero byte. -/
  | zeroInPath
  deriving DecidableEq, Repr

namespace Fault

/-- Number, kind and words of an operating system error. -/
def code? : Fault → Option (Nat × String × String)
  | notFound => some (2, "NotFound", "No such file or directory")
  | noDevice => some (6, "Uncategorized", "No such device or address")
  | notDirectory => some (20, "NotADirectory", "Not a directory")
  | isDirectory => some (21, "IsADirectory", "Is a directory")
  | invalidArgument => some (22, "InvalidInput", "Invalid argument")
  | nameTooLong => some (36, "InvalidFilename", "File name too long")
  | linkLoop => some (40, "FilesystemLoop", "Too many levels of symbolic links")
  | notText => none
  | zeroInPath => none

/-- Kind and words of a failure that is not the operating system's. -/
def ownWords : Fault → String × String
  | zeroInPath => ("InvalidInput", "file name contained an unexpected NUL byte")
  | _ => ("InvalidData", "stream did not contain valid UTF-8")

def message (fault : Fault) : String :=
  match fault.code? with
  | some (number, _, words) => words ++ " (os error " ++ toString number ++ ")"
  | none => fault.ownWords.2

/-- Every part of the failure spelled out. -/
def details (fault : Fault) : String :=
  match fault.code? with
  | some (number, kind, words) =>
    "Os \x7b code: " ++ toString number ++ ", kind: " ++ kind ++ ", message: \"" ++ words ++ "\" \x7d"
  | none =>
    "Error \x7b kind: " ++ fault.ownWords.1 ++ ", message: \"" ++ fault.ownWords.2 ++ "\" \x7d"

end Fault

end Attribution.Files
