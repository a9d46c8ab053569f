import FilterWire.Text.Quoted

/-!
# File errors

What the file system says when a path cannot be used.
-/

namespace FilterWire

inductive FileCause
  | notFound
  | occupied
  | notDirectory
  | isDirectory
  | nameTooLong
  deriving DecidableEq

/-- A path that could not be used, as it was given to the file system. -/
structure FileError where
  cause : FileCause
  path : Text
  deriving DecidableEq

namespace FileCause

def number : FileCause → Nat
  | notFound => 2
  | occupied => 17
  | notDirectory => 20
  | isDirectory => 21
  | nameTooLong => 36

def message : FileCause → Text
  | notFound => "No such file or directory".toList
  | occupied => "File exists".toList
  | notDirectory => "Not a directory".toList
  | isDirectory => "Is a directory".toList
  | nameTooLong => "File name too long".toList

end FileCause

def FileError.message (e : FileError) : Text :=
  "[Errno ".toList ++ Text.ofNat e.cause.number ++ "] ".toList ++ e.cause.message ++
    ": ".toList ++ e.path.quoted

end FilterWire
