import Pseudocode.Decimal.Notation
import Pseudocode.Text.Blank
import Pseudocode.Text.Quoted
import Pseudocode.Text.Utf8

namespace Pseudocode.Cli

open Pseudocode.Text

/-- A place: the names on the way from the working folder. A way that starts at the root has `/`
for its first name, and one that leads up has `..` for its first names. -/
abbrev Place := List String

def Place.enter (here : Place) (name : String) : Place :=
  if name == "." then here
  else if name == ".." then
    match here.getLast? with
    | none => [".."]
    | some ".." => here ++ [".."]
    | some "/" => here
    | some _ => here.dropLast
  else here ++ [name]

def Place.through (here : Place) : List String → List Place
  | [] => []
  | name :: rest => here.enter name :: through (here.enter name) rest

/-- A path as it is written: where it starts, and the names in it. -/
structure Path where
  start : Place
  names : List String

namespace Path

def parts : List Char → List (List Char)
  | [] => []
  | c :: rest => if c == '/' then [] :: parts rest else extendLine c (parts rest)

def ofString (s : String) : Path :=
  ⟨if s.toList.head? == some '/' then ["/"] else [],
    ((parts s.toList).filter (!·.isEmpty)).map String.ofList⟩

def places (path : Path) : List Place := path.start.through path.names

def place (path : Path) : Place := path.places.getLastD path.start

end Path

/-- Files by place, and folders of which no file is listed. -/
structure Folder where
  files : List (Place × List UInt8) := []
  folders : List Place := []

inductive FileFault where
  | isFolder (path : String)
  | notFolder (path : String)
  | noSuchFile (path : String)
  | nameTooLong (path : String)
  | nullCharacter
  | notText (fault : Utf8Fault)

namespace FileFault

def reasonText : Utf8Reason → String
  | .badStart => "invalid start byte"
  | .badContinuation => "invalid continuation byte"
  | .cutShort => "unexpected end of data"

def message : FileFault → String
  | isFolder path => "[Errno 21] Is a directory: " ++ quoted path
  | notFolder path => "[Errno 20] Not a directory: " ++ quoted path
  | noSuchFile path => "[Errno 2] No such file or directory: " ++ quoted path
  | nameTooLong path => "[Errno 36] File name too long: " ++ quoted path
  | nullCharacter => "embedded null byte"
  | notText fault =>
      let place :=
        if fault.count == 1 then
          "byte 0x" ++ String.ofList (hexadecimal 2 fault.lead.toNat) ++ " in position " ++
            Decimal.digitsOf fault.start
        else
          "bytes in position " ++ Decimal.digitsOf fault.start ++ "-" ++
            Decimal.digitsOf (fault.start + fault.count - 1)
      "'utf-8' codec can't decode " ++ place ++ ": " ++ reasonText fault.reason

end FileFault

def asksFolder (path : String) : Bool := path.toList.getLast? == some '/'

/-- What a path leads to: a folder, a file, or a place for a new file. -/
inductive Spot where
  | folder
  | file (place : Place) (bytes : List UInt8)
  | free (place : Place)

def nameBytes : Nat := 255

def pathBytes : Nat := 4095

namespace Folder

def bytes? (folder : Folder) (place : Place) : Option (List UInt8) := folder.files.lookup place

/-- Whether a place is a folder: the working folder or one above it, the root, or one with
something in it. -/
def isFolder (folder : Folder) (place : Place) : Bool :=
  place.all (· == "..") || place == ["/"] || folder.folders.contains place ||
    folder.files.any fun file => place.isPrefixOf file.1 && place != file.1

/-- Follow names from a folder. All but the last have to lead to folders. The length of a last name
does not matter if a slash follows it, since no file can be there. -/
def follow (folder : Folder) (path : String) (here : Place) : List String → Except FileFault Spot
  | [] => .ok .folder
  | name :: rest =>
      let next := here.enter name
      if nameBytes < name.utf8ByteSize && !(rest.isEmpty && asksFolder path) then
        .error (.nameTooLong path)
      else if folder.isFolder next then follow folder path next rest
      else
        match folder.bytes? next with
        | some bytes => if rest.isEmpty then .ok (.file next bytes) else .error (.notFolder path)
        | none => if rest.isEmpty then .ok (.free next) else .error (.noSuchFile path)

def locate (folder : Folder) (path : String) : Except FileFault Spot :=
  if path.toList.contains '\x00' then .error .nullCharacter
  else if path.isEmpty then .error (.noSuchFile path)
  else if pathBytes < path.utf8ByteSize then .error (.nameTooLong path)
  else
    let way := Path.ofString path
    folder.follow path way.start way.names

/-- Whether a path leads to something that is there. A slash at its end asks for a folder. -/
def has (folder : Folder) (path : String) : Bool :=
  match folder.locate path with
  | .ok .folder => true
  | .ok (.file _ _) => !asksFolder path
  | _ => false

def read (folder : Folder) (path : String) : Except FileFault (List Char) := do
  match ← folder.locate path with
  | .folder => .error (.isFolder path)
  | .free _ => .error (.noSuchFile path)
  | .file _ bytes =>
      if asksFolder path then .error (.notFolder path)
      else
        match decodeUtf8 bytes with
        | .ok cs => .ok (unifyBreaks cs)
        | .error fault => .error (.notText fault)

def put (folder : Folder) (place : Place) (bytes : List UInt8) : Folder :=
  if (folder.bytes? place).isSome then
    { folder with
      files := folder.files.map fun file => if file.1 == place then (place, bytes) else file }
  else { folder with files := folder.files ++ [(place, bytes)] }

/-- The folder with a file that has a given text. A slash at the end of the path asks for a
folder. -/
def write (folder : Folder) (path text : String) : Except FileFault Folder := do
  let place ←
    match ← folder.locate path with
    | .folder => .error (.isFolder path)
    | .file place _ => pure place
    | .free place => pure place
  if asksFolder path then .error (.isFolder path)
  else .ok (folder.put place text.toUTF8.data.toList)

end Folder

end Pseudocode.Cli
