import SentenceCards.Files.Exchange

/-!
# Folders

A folder holds files by name, and no other folders.  A path names a file of the folder,
or something that cannot be read or written as one.
-/

namespace SentenceCards

/-- What can be in the way of reading or writing a file. -/
inductive Obstacle where
  | missing
  | notFolder
  | isFolder
  | longName
  /-- A null character in the path. -/
  | nullInPath
  deriving DecidableEq, Inhabited

/-- How an obstacle is reported. -/
def Obstacle.reason : Obstacle → String
  | .missing => "No such file or directory (os error 2)"
  | .notFolder => "Not a directory (os error 20)"
  | .isFolder => "Is a directory (os error 21)"
  | .longName => "File name too long (os error 36)"
  | .nullInPath => "file name contained an unexpected NUL byte"

/-- What a path is wanted for. -/
inductive Access where
  | reading
  | writing
  deriving DecidableEq, Inhabited

/-- What a path names in a folder. -/
inductive Destination where
  /-- A file with this name, which need not be there. -/
  | file (name : String)
  /-- The folder itself, or one that holds it. -/
  | folder
  | blocked (obstacle : Obstacle)
  deriving DecidableEq, Inhabited

structure Folder where
  files : List (String × Bytes)
  deriving Inhabited

namespace Folder

/-- A folder without files. -/
def empty : Folder := ⟨[]⟩

/-- The bytes of a file. -/
def file? (folder : Folder) (name : String) : Option Bytes := folder.files.lookup name

/-- Puts a file into the folder, in place of any other one with the name. -/
def put (folder : Folder) (name : String) (bytes : Bytes) : Folder :=
  ⟨(name, bytes) :: folder.files.filter (·.1 != name)⟩

/-- The number of bytes that a name may have. -/
def longestName : Nat := 255

/-- The number of bytes that a path may have. -/
def longestPath : Nat := 4095

/-- What is in the way of a name that would have to be a folder's; `present` says whether it is
the name of a file. -/
def obstacleAt (name : String) (present : Bool) : Obstacle :=
  if longestName < name.utf8ByteSize then .longName
  else if present then .notFolder
  else .missing

/-- What the names along a path lead to.  The way begins in the folder itself if `inside` holds,
and otherwise in one of which nothing is known but the folders that hold it.  `closed` says that
the path ends in a slash: nothing can be written there, and only a folder can be read. -/
def destinationOf (folder : Folder) (access : Access) (closed : Bool) :
    (inside : Bool) → (names : List String) → Destination
  | _, [] => .folder
  | inside, name :: rest =>
      if name = "." then folder.destinationOf access closed inside rest
      else if name = ".." then folder.destinationOf access closed false rest
      else if rest.isEmpty && closed && access == .writing then .blocked .isFolder
      else if !rest.isEmpty || closed || !inside then
        .blocked (obstacleAt name (inside && (folder.file? name).isSome))
      else if longestName < name.utf8ByteSize then .blocked .longName
      else .file name

/-- What a path names. -/
def destination (folder : Folder) (access : Access) (path : String) : Destination :=
  if path.toList.contains '\x00' then .blocked .nullInPath
  else if path.isEmpty then .blocked .missing
  else if longestPath < path.utf8ByteSize then .blocked .longName
  else
    let parts := (path.toList.splitOn '/').map String.ofList
    folder.destinationOf access (parts.getLast? == some "") (parts.head? != some "")
      (parts.filter (· != ""))

/-- Reads the file that a path names. -/
def read (folder : Folder) (path : String) : Except ReadTrouble Bytes :=
  match folder.destination .reading path with
  | .file name =>
      match folder.file? name with
      | some bytes => .ok bytes
      | none => .error (.opening Obstacle.missing.reason)
  | .folder => .error (.reading Obstacle.isFolder.reason)
  | .blocked obstacle => .error (.opening obstacle.reason)

/-- Writes the file that a path names. -/
def write (folder : Folder) (path : String) (bytes : Bytes) : Except WriteTrouble Unit × Folder :=
  match folder.destination .writing path with
  | .file name => (.ok (), folder.put name bytes)
  | .folder => (.error (.creating Obstacle.isFolder.reason), folder)
  | .blocked obstacle => (.error (.creating obstacle.reason), folder)

/-- A folder answers for its files, and no time goes by in it. -/
instance : Surroundings Folder where
  read path folder := (folder.read path, folder)
  write path bytes folder := folder.write path bytes
  time folder := (0, folder)

end Folder

/-- Runs an exchange on a folder. -/
def Exchange.runIn {α : Type} (folder : Folder) (exchange : Exchange α) : α × Folder :=
  exchange.run folder

end SentenceCards
