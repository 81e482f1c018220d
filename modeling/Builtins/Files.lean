import Builtins.Text.Lines

/-!
# Files

A tree of files and directories with a working directory in it, and what reading a path and making
directories and files does there. Names and paths are bytes; a slash parts the names in a path, and a
path that begins with one starts at the top of the tree.
-/
namespace Builtins

/-- Why a path cannot be read as text. -/
inductive ReadFault where
  | notFound
  | notDirectory
  | isDirectory
  | tooLong
  | nulByte
  | invalidUtf8
  | other (text : String)
  deriving DecidableEq, Repr

def ReadFault.message : ReadFault → String
  | notFound => "No such file or directory (os error 2)"
  | notDirectory => "Not a directory (os error 20)"
  | isDirectory => "Is a directory (os error 21)"
  | tooLong => "File name too long (os error 36)"
  | nulByte => "file name contained an unexpected NUL byte"
  | invalidUtf8 => "stream did not contain valid UTF-8"
  | other text => text

/-- Whether the fault tells that there is no file to read. -/
def ReadFault.tellsNoFile : ReadFault → Bool
  | notFound | notDirectory | isDirectory | tooLong | nulByte => true
  | invalidUtf8 | other _ => false

abbrev FileName := List UInt8

/-- The names that lead to a file or a directory from the top. -/
abbrev Place := List FileName

structure Files where
  workingDirectory : Place := []
  files : List (Place × ByteArray) := []
  directories : List Place := []

namespace Files

/-! ## Paths -/

def bytes (path : String) : List UInt8 := path.toUTF8.data.toList

/-- The name of the directory itself. -/
def here : FileName := bytes "."

/-- The name of the directory around a directory. -/
def above : FileName := bytes ".."

/-- The number of bytes in the longest name. -/
def longestName : Nat := 255

/-- The number of bytes in the longest path. -/
def longestPath : Nat := 4095

/-- The names in a path. A path from the top begins with an empty one. -/
def names (path : List UInt8) : List FileName := Text.pieces 0x2F path

/-- The path from the top to a place. -/
def path (place : Place) : List UInt8 := place.flatMap (0x2F :: ·)

/-- A path that is continued by another one; a path from the top stands for itself. -/
def join (directory path : String) : String :=
  if directory.isEmpty || path.startsWith "/" then path
  else if directory.endsWith "/" then directory ++ path
  else directory ++ "/" ++ path

/-- The path of the directory that a path lies in; it is empty if the path is a mere name. -/
def parent (path : String) : String :=
  "/".intercalate ((Text.pieces '/' path.toList).dropLast.map String.ofList)

/-- Refuses a path that no file can have. -/
def checkPath (path : List UInt8) : Except ReadFault Unit :=
  if path.contains 0 then .error .nulByte
  else if longestPath < path.length then .error .tooLong
  else .ok ()

/-! ## Reading -/

def file? (fs : Files) (place : Place) : Option ByteArray := fs.files.lookup place

/-- Directories are those that are given, the working directory, and those that something lies in. -/
def isDirectory (fs : Files) (place : Place) : Bool :=
  place.isPrefixOf fs.workingDirectory || fs.directories.any (place.isPrefixOf ·) ||
    fs.files.any fun f => place.isPrefixOf f.1 && f.1 != place

/-- The place where a path starts. -/
def origin (fs : Files) (path : List UInt8) : Place :=
  if path.head? = some 0x2F then [] else fs.workingDirectory

/-- The place one step further. -/
def step (fs : Files) (place : Place) (name : FileName) : Except ReadFault Place :=
  if !fs.isDirectory place then .error .notDirectory
  else if name.isEmpty || name == here then .ok place
  else if name == above then .ok place.dropLast
  else if longestName < name.length then .error .tooLong
  else
    let next := place ++ [name]
    if (fs.file? next).isSome || fs.isDirectory next then .ok next else .error .notFound

def locate (fs : Files) (path : List UInt8) : Except ReadFault Place := do
  checkPath path
  if path.isEmpty then .error .notFound
  else (names path).foldlM fs.step (fs.origin path)

/-- The text in the bytes of a file. -/
def decode (bytes : ByteArray) : Except ReadFault String :=
  match String.fromUTF8? bytes with
  | some text => .ok text
  | none => .error .invalidUtf8

/-- The text of the file at a path. -/
def read (fs : Files) (path : List UInt8) : Except ReadFault String := do
  match fs.file? (← fs.locate path) with
  | some bytes => decode bytes
  | none => .error .isDirectory

/-! ## Making directories and files -/

/-- Goes one step further and makes the directory if it is missing. -/
def stepMaking (state : Files × Place) (name : FileName) : Option (Files × Place) :=
  let (fs, place) := state
  match fs.step place name with
  | .ok next => some (fs, next)
  | .error .notFound =>
    let next := place ++ [name]
    some ({ fs with directories := next :: fs.directories }, next)
  | .error _ => none

/-- Makes the directories that names lead through from a place. -/
def makeDirectories (fs : Files) (start : Place) (names : List FileName) : Option (Files × Place) :=
  names.foldlM stepMaking (fs, start)

/-- The place of a file that is to be written, and the tree after its directories have been made. There
is none if a file stands where a directory should be, or the other way round, or if no file can have
the path. -/
def prepare? (fs : Files) (path : List UInt8) : Option (Files × Place) := do
  (checkPath path).toOption
  let names := names path
  let (fs, directory) ← fs.makeDirectories (fs.origin path) names.dropLast
  let name ← names.getLast?
  let file := directory ++ [name]
  if longestName < name.length || !fs.isDirectory directory || fs.isDirectory file then none
  else return (fs, file)

/-- Makes a directory and those around it. -/
def makeDirectory? (fs : Files) (path : List UInt8) : Option Files := do
  (checkPath path).toOption
  let (fs, directory) ← fs.makeDirectories (fs.origin path) (names path)
  if fs.isDirectory directory then return fs else none

/-- Writes a file; its directories are made. -/
def write? (fs : Files) (path : List UInt8) (content : ByteArray) : Option Files := do
  let (fs, file) ← fs.prepare? path
  return { fs with files := (file, content) :: fs.files }

/-- The name of a log file on a day. -/
def logName (stem date : String) : String := if stem.isEmpty then date else stem ++ "." ++ date

end Files

end Builtins
