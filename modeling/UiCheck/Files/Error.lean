/-! # Errors of input and output

Why a file operation or an exchange with another process fails, and the text that reports it. A failure
that has no cause of its own here carries its text.
-/

namespace UiCheck

/-- Why an input or output operation fails. -/
inductive IoError where
  /-- Nothing is there. -/
  | notFound
  /-- Something is there already. -/
  | exists
  /-- A file stands where a directory is needed. -/
  | notDirectory
  /-- A directory stands where a file is needed. -/
  | isDirectory
  /-- A path or one of its names is too long. -/
  | nameTooLong
  /-- A directory still holds something. -/
  | notEmpty
  /-- The root of the file system cannot be taken away. -/
  | busy
  /-- A path does not say which entry is meant. -/
  | invalidPath
  /-- Symbolic links lead around in circles. -/
  | tooManyLinks
  /-- A path holds the character that ends a path. -/
  | nulInPath
  /-- The bytes are no text. -/
  | notText
  /-- The reader at the other end is gone. -/
  | brokenPipe
  | other (message : String)
  deriving DecidableEq, Inhabited, Repr

/-- The words for an error. -/
def IoError.reason : IoError → String
  | .notFound => "No such file or directory"
  | .exists => "File exists"
  | .notDirectory => "Not a directory"
  | .isDirectory => "Is a directory"
  | .nameTooLong => "File name too long"
  | .notEmpty => "Directory not empty"
  | .busy => "Device or resource busy"
  | .invalidPath => "Invalid argument"
  | .tooManyLinks => "Too many levels of symbolic links"
  | .nulInPath => "file name contained an unexpected NUL byte"
  | .notText => "stream did not contain valid UTF-8"
  | .brokenPipe => "Broken pipe"
  | .other message => message

/-- The number of an error that the system reports. -/
def IoError.number? : IoError → Option Nat
  | .notFound => some 2
  | .busy => some 16
  | .exists => some 17
  | .notDirectory => some 20
  | .isDirectory => some 21
  | .invalidPath => some 22
  | .brokenPipe => some 32
  | .nameTooLong => some 36
  | .notEmpty => some 39
  | .tooManyLinks => some 40
  | .nulInPath | .notText | .other _ => none

/-- The message of an error. -/
def IoError.message (e : IoError) : String :=
  match e.number? with
  | some number => s!"{e.reason} (os error {number})"
  | none => e.reason

end UiCheck
