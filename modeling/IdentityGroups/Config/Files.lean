/-! # Reading files

What a configuration needs of a file system: the content under a path, or why there is none. A flat
directory, in which no directory stands, serves as one.
-/

namespace IdentityGroups.Config

inductive FileFault where
  | notFound
  | isDirectory
  | notDirectory
  | nameTooLong
  | nulInName
  | other (message : String)
  deriving DecidableEq, Repr

def FileFault.message : FileFault → String
  | .notFound => "No such file or directory (os error 2)"
  | .isDirectory => "Is a directory (os error 21)"
  | .notDirectory => "Not a directory (os error 20)"
  | .nameTooLong => "File name too long (os error 36)"
  | .nulInName => "file name contained an unexpected NUL byte"
  | .other message => message

abbrev Files := (path : String) → Except FileFault (List UInt8)

def isIdle (s : String) : Bool := s = "" ∨ s = "."

/-- What is found from a directory that is known to exist, but not what it holds. -/
def outside (steps : List String) : Except FileFault (List UInt8) :=
  .error (if steps.all isIdle then .isDirectory else .notFound)

def walk (files : List (String × List UInt8)) : (steps : List String) → Except FileFault (List UInt8)
  | [] => .error .isDirectory
  | s :: rest =>
    if isIdle s then walk files rest
    else if s = ".." then outside rest
    else if 255 < s.utf8ByteSize then .error .nameTooLong
    else
      match files.lookup s, rest with
      | some content, [] => .ok content
      | some _, _ :: _ => .error .notDirectory
      | none, _ => .error .notFound

/-- The files of a flat directory, by relative paths. Of the directories around it nothing is
known but that they exist. -/
def Files.flat (files : List (String × List UInt8)) : Files := fun path =>
  if '\x00' ∈ path.toList then .error .nulInName
  else if 4095 < path.utf8ByteSize then .error .nameTooLong
  else if path = "" then .error .notFound
  else
    match path.splitOn "/" with
    | "" :: steps => outside steps
    | steps => walk files steps

end IdentityGroups.Config
