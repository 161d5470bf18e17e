/-
  This file defines why a file is not read or created.

  Key definitions include:
    * `FileFailure`
    * `FileFailure.message`, `FileFailure.record`
-/

namespace TracePlayer

/-
  There is no file of that name, it is a directory, something
  on the way to it is none, a name is too long or holds a
  zero, or the content is not text. The operating system can
  have other reasons, with a number and a text.
-/
inductive FileFailure where
| absent
| isDirectory
| notDirectory
| nameTooLong
| badName
| notText
| system (code : Nat) (text : String)
deriving DecidableEq, Repr

namespace FileFailure

/- The number and text of the operating system. -/
def systemText? : FileFailure → Option (Nat × String)
| absent => some (2, "No such file or directory")
| isDirectory => some (21, "Is a directory")
| notDirectory => some (20, "Not a directory")
| nameTooLong => some (36, "File name too long")
| badName => none
| notText => none
| system code text => some (code, text)

/- What is said about a failure that is not the system's. -/
def ownText : FileFailure → String
| badName => "file name contained an unexpected NUL byte"
| _ => "stream did not contain valid UTF-8"

def message (failure : FileFailure) : String :=
  match failure.systemText? with
  | some (code, text) =>
      text ++ " (os error " ++ toString code ++ ")"
  | none => failure.ownText

/- The class of a failure. -/
def className : FileFailure → String
| absent => "NotFound"
| isDirectory => "IsADirectory"
| notDirectory => "NotADirectory"
| nameTooLong => "InvalidFilename"
| badName => "InvalidInput"
| notText => "InvalidData"
| system 13 _ => "PermissionDenied"
| system 30 _ => "ReadOnlyFilesystem"
| system _ _ => "Uncategorized"

/- A failure written as a record of its parts. -/
def record (failure : FileFailure) : String :=
  match failure.systemText? with
  | some (code, text) =>
      "Os \x7b code: " ++ toString code ++ ", kind: " ++
        failure.className ++ ", message: \"" ++ text ++
        "\" \x7d"
  | none =>
      "Error \x7b kind: " ++ failure.className ++
        ", message: \"" ++ failure.ownText ++ "\" \x7d"

end FileFailure

end TracePlayer
