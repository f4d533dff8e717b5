/-!
# Errors of the system

What goes wrong with files and with the launch of programs, under the numbers and the wording of
the system. `other` is an error of which only the wording is known.
-/

namespace BuoyGateway

/-- An error of the operating system, or one of the checks in front of it. -/
inductive SystemError
  | notFound
  | badProgram
  | permissionDenied
  | alreadyExists
  | notDirectory
  | isDirectory
  | invalidArgument
  | nameTooLong
  | notEmpty
  | noSpace
  | notUtf8
  | nulInName
  | nulInArgument
  | noDevice
  | argumentsTooLong
  | badDescriptor
  | busy
  | tooManyLinks
  | other (text : String)
  deriving DecidableEq, Repr

namespace SystemError

/-- The number, the class and the wording of an error that the operating system reports. -/
def numbered? : SystemError → Option (Nat × String × String)
  | notFound => some (2, "NotFound", "No such file or directory")
  | noDevice => some (6, "Uncategorized", "No such device or address")
  | argumentsTooLong => some (7, "ArgumentListTooLong", "Argument list too long")
  | badProgram => some (8, "Uncategorized", "Exec format error")
  | badDescriptor => some (9, "Uncategorized", "Bad file descriptor")
  | permissionDenied => some (13, "PermissionDenied", "Permission denied")
  | busy => some (16, "ResourceBusy", "Device or resource busy")
  | alreadyExists => some (17, "AlreadyExists", "File exists")
  | notDirectory => some (20, "NotADirectory", "Not a directory")
  | isDirectory => some (21, "IsADirectory", "Is a directory")
  | invalidArgument => some (22, "InvalidInput", "Invalid argument")
  | noSpace => some (28, "StorageFull", "No space left on device")
  | nameTooLong => some (36, "InvalidFilename", "File name too long")
  | notEmpty => some (39, "DirectoryNotEmpty", "Directory not empty")
  | tooManyLinks => some (40, "FilesystemLoop", "Too many levels of symbolic links")
  | notUtf8 | nulInName | nulInArgument | other _ => none

def wording (e : SystemError) : String :=
  match e.numbered? with
  | some (_, _, text) => text
  | none => match e with
    | other text => text
    | _ => "Invalid argument"

def message (e : SystemError) : String :=
  match e.numbered? with
  | some (number, _, wording) => wording ++ " (os error " ++ toString number ++ ")"
  | none =>
    match e with
    | notUtf8 => "stream did not contain valid UTF-8"
    | nulInName => "file name contained an unexpected NUL byte"
    | nulInArgument => "nul byte found in provided data"
    | other text => text
    | _ => ""

end SystemError

end BuoyGateway
