import CommandConsole.Settings
import CommandConsole.Text.Split

/-!
# Settings in a folder

A folder holds files by their paths; a path is a list of names, and every path that leads to a file
passes through folders. Settings are loaded from a path in a folder and saved to one.

* Saving makes the folders on the way. It fails where a file stands in the way, and where the path
  names no file: its last name is empty, a dot or two dots, or is no name at all. The folders that
  were made up to there stay.
* Settings that cannot be written leave the folder as it is.
-/

namespace CommandConsole

/-- The files below a folder, and the folders that were made in it. -/
structure Folder where
  files : List (List String × List UInt8)
  /-- The folders that writing came through. Those on the way to a file need not be among them. -/
  folders : List (List String) := []
  deriving DecidableEq, Repr

namespace Folder

/-- The names of a path, empty ones included. -/
def names (path : String) : List String :=
  (Text.splitAt '/' path.toList).map String.ofList

/-- The file at a place. -/
def file? (f : Folder) (place : List String) : Option (List UInt8) := f.files.lookup place

/-- A folder is at a place: the folder itself, one that was made, or one on the way to a file or to
    a folder that was made. -/
def isFolder (f : Folder) (place : List String) : Bool :=
  place.isEmpty || f.folders.any (fun made => place.isPrefixOf made)
    || f.files.any fun e => place.isPrefixOf e.1 && e.1 != place

/-- A name that stays in the same folder. -/
def isIdle (name : String) : Bool := name == "" || name == "."

/-- Follows names from a place. Only a folder can be walked through. -/
def follow (f : Folder) (place : List String) : List String → Option (List String)
  | [] => some place
  | n :: more =>
    if !f.isFolder place then none
    else if isIdle n then f.follow place more
    else if n == ".." then f.follow place.dropLast more
    else f.follow (place ++ [n]) more

/-- What stands at a path. -/
def find (f : Folder) (path : String) : Settings.Source :=
  match f.follow [] (names path) with
  | none => .absent
  | some place =>
    match f.file? place with
    | some bytes => .file bytes
    | none => if f.isFolder place then .unreadable else .absent

/-- How many bytes a name may have. -/
def maxName : Nat := 255

/-- A name that a file can have. -/
def isFileName (n : String) : Bool :=
  !isIdle n && n != ".." && n.utf8ByteSize ≤ maxName && !n.toList.contains '\x00'

/-- Follows names from a place and makes the folders that are missing: the place reached, unless
    something is in the way, and the folder afterwards. -/
def makeWay (f : Folder) (place : List String) : List String → Option (List String) × Folder
  | [] => (some place, f)
  | n :: more =>
    if isIdle n then f.makeWay place more
    else if n == ".." then f.makeWay place.dropLast more
    else if !isFileName n || (f.file? (place ++ [n])).isSome then (none, f)
    else
      ({ f with folders := (place ++ [n]) :: f.folders } : Folder).makeWay (place ++ [n]) more

/-- The folder with these bytes as the file at a place. -/
def withFile (f : Folder) (place : List String) (bytes : List UInt8) : Folder :=
  { f with files := (place, bytes) :: f.files.filter fun e => e.1 != place }

/-- The names of the folders that a path leads through: all but the last of its names, which idle
    names may follow. -/
def parentNames (path : String) : List String :=
  (((names path).reverse.dropWhile isIdle).drop 1).reverse

/-- Writes a file to a path: whether that can be done, and the folder afterwards. -/
def write (f : Folder) (path : String) (bytes : List UInt8) : Bool × Folder :=
  if path.toList.contains '\x00' then (false, f)
  else
    match f.makeWay [] (parentNames path), (names path).getLast? with
    | (some place, f), some last =>
      if !isFileName last || f.isFolder (place ++ [last]) then (false, f)
      else (true, f.withFile (place ++ [last]) bytes)
    | (_, f), _ => (false, f)

end Folder

namespace Settings

/-- The settings from a path in a folder. -/
def loadFrom (f : Folder) (path : String) : Except Failure Settings := load (f.find path)

/-- Saves the settings to a path: how that went, and the folder afterwards. The text of the error about a
    path that cannot be written is a stand-in for what the system says of it. -/
def saveTo (s : Settings) (f : Folder) (path : String) : Except Failure Unit × Folder :=
  match s.toText with
  | .error e => (.error e, f)
  | .ok text =>
    match f.write path (Text.Utf8.encode text) with
    | (true, f) => (.ok (), f)
    | (false, f) => (.error (.io "the file cannot be written"), f)

/-- The folder with the settings saved to a path. -/
def save (s : Settings) (f : Folder) (path : String) : Except Failure Folder :=
  match s.saveTo f path with
  | (.ok (), f) => .ok f
  | (.error e, _) => .error e

end Settings

end CommandConsole
