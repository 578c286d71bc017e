import TokenCourier.Text.Quoted
import TokenCourier.Text.Utf8

namespace TokenCourier

inductive FileFault where
  | missing | notDirectory | directory | denied | longName | badName | notText
deriving DecidableEq, Repr

namespace FileFault

def system? : FileFault → Option (Nat × String × String)
  | .missing => some (2, "NotFound", "No such file or directory")
  | .denied => some (13, "PermissionDenied", "Permission denied")
  | .notDirectory => some (20, "NotADirectory", "Not a directory")
  | .directory => some (21, "IsADirectory", "Is a directory")
  | .longName => some (36, "InvalidFilename", "File name too long")
  | .badName | .notText => none

def message (f : FileFault) : String :=
  match f, f.system? with
  | _, some (n, _, text) => s!"{text} (os error {n})"
  | .badName, _ => "file name contained an unexpected NUL byte"
  | _, _ => "stream did not contain valid UTF-8"

def describe (f : FileFault) : String :=
  match f.system? with
  | some (n, kind, text) =>
    s!"Os \x7b code: {n}, kind: {kind}, message: " ++ Quoted.quoted text ++ " \x7d"
  | none => "Error \x7b kind: InvalidData, message: " ++ Quoted.quoted f.message ++ " \x7d"

end FileFault

abbrev Files := String → Except FileFault (List UInt8)

def Files.text (files : Files) (path : String) : Except FileFault String := do
  match Utf8.decode ⟨(← files path).toArray⟩ with
  | .ok s => .ok s
  | .error _ => .error .notText

namespace Path

def under (folder path : String) : String :=
  if folder = "" || folder.toList.getLast? = some '/' then folder ++ path
  else folder ++ "/" ++ path

def folder (file : String) : String :=
  let path := (file.toList.reverse.dropWhile (· = '/')).dropWhile (· != '/')
  if path.isEmpty then "" else
    let path := path.dropWhile (· = '/')
    if path.isEmpty then "/" else String.ofList path.reverse

/-- A path that a file names, which is seen from the folder of the file. -/
def besides (file path : String) : String :=
  if path.toList.head? = some '/' then path else under (folder file) path

end Path

/-- `now` is in seconds since 1970. -/
structure Machine where
  files : Files
  lookup : String → Option String
  now : Int

def Machine.first? (m : Machine) (names : List String) : Option String :=
  names.findSome? fun n => (m.lookup n).filter (· != "")

end TokenCourier
