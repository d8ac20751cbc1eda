import SpriteStage.CommandLine.Session

/-!
# Sessions in a folder

A folder that holds files and nothing else, and the program run in it: which files a session finds
and what it leaves behind.
-/

namespace SpriteStage

/-- The files of a folder, by name. -/
abbrev Folder := List (String × ByteArray)

namespace Folder

/-- What a path leads to. -/
inductive Target where
  /-- A folder: this one or one above it. -/
  | folder
  /-- A file of this folder. -/
  | file (name : String)
  /-- Nothing, but a file could be written there. -/
  | free (name : String)
  /-- Nothing that is known, but a file could be written there, in a folder above this one. -/
  | outside
  /-- Nothing, and with a slash at its end the path names no file. Reading meets the fault. -/
  | slashed (fault : FileFault)
  /-- Nothing, and no file can be written there. -/
  | nothing (fault : FileFault)
  deriving DecidableEq, Repr

/-- The greatest number of bytes in a name. -/
def nameLimit : Nat := 255

/-- The greatest number of bytes in a path. -/
def pathLimit : Nat := 4095

/-- The parts of a path between its slashes. -/
def parts (path : List Char) : List (List Char) :=
  match path with
  | [] => [[]]
  | c :: path =>
    match parts path with
    | [] => [[c]]
    | part :: rest => if c = '/' then [] :: part :: rest else (c :: part) :: rest

/-- Why a name leads to no folder. -/
def nameFault (folder : Folder) (inside : Bool) (name : String) : FileFault :=
  if nameLimit < name.utf8ByteSize then .nameTooLong
  else if inside && (folder.lookup name).isSome then .notFolder
  else .missing

/-- What a name leads to if nothing follows it. -/
def named (folder : Folder) (inside : Bool) (name : String) : Target :=
  if nameLimit < name.utf8ByteSize then .nothing .nameTooLong
  else if !inside then .outside
  else if (folder.lookup name).isSome then .file name
  else .free name

/-- What the parts of a path lead to from this folder. Above it only folders are found. -/
def follow (folder : Folder) (inside : Bool) : List (List Char) → Target
  | [] => .folder
  | part :: rest =>
    if part = [] ∨ part = ['.'] then follow folder inside rest
    else if part = ['.', '.'] then follow folder false rest
    else
      let name := String.ofList part
      if rest.isEmpty then folder.named inside name
      else if rest.all List.isEmpty then .slashed (folder.nameFault inside name)
      else .nothing (folder.nameFault inside name)

/-- What a path leads to from this folder. -/
def target (folder : Folder) (path : String) : Target :=
  if pathLimit < path.utf8ByteSize then .nothing .nameTooLong
  else follow folder (path.toList.head? ≠ some '/') (parts path.toList)

/-- The content of the file at a path. -/
def read (folder : Folder) (path : String) : Except FileFault ByteArray :=
  match folder.target path with
  | .folder => .error .isFolder
  | .file name => ((folder.lookup name).map .ok).getD (.error .missing)
  | .free _ | .outside => .error .missing
  | .slashed fault | .nothing fault => .error fault

/-- Write the file at a path. What is written above this folder is out of its sight. -/
def write (folder : Folder) (path : String) (content : ByteArray) :
    Except FileFault Folder :=
  match folder.target path with
  | .folder | .slashed _ => .error .isFolder
  | .outside => .ok folder
  | .file name | .free name => .ok ((name, content) :: folder.filter (·.1 ≠ name))
  | .nothing fault => .error fault

/-- Run the program in this folder: what it reports and the folder it leaves behind. -/
def run (folder : Folder) (arguments : List String) : Report × Folder :=
  match Options.ofArguments arguments with
  | .error stop => (stop.report, folder)
  | .ok options =>
    match options.session (folder.read options.configPath) with
    | .over report => (report, folder)
    | .save path text conclude =>
      match folder.write path text.toUTF8 with
      | .ok folder => (conclude none, folder)
      | .error fault => (conclude (some fault), folder)

end Folder

end SpriteStage
