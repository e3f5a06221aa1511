import Lathe.Text.Quoted

/-!
# Files

The operator opens and saves programs under paths. A path starts in the folder of the operator, or
at the top when it begins with a slash, and leads from folder to folder: a single dot stays in a
folder, two dots lead to the folder around it, and empty steps are left out. A slash at the end asks
for a folder. All folders that a path can lead to are there from the beginning, and hold nothing but
files.

* `Folder.locate` is the place to which a path leads.
* `Folder.read` and `Folder.write` open and save a file.
-/

namespace Lathe

/-- Why a file could not be opened or saved. -/
inductive FileProblem where
  /-- There is no such file, or no such folder on the way to it. -/
  | missing
  /-- A file stands where the path needs a folder. -/
  | notFolder
  /-- The path leads to a folder. -/
  | isFolder
  /-- The path, or a step of it, has too many characters. -/
  | tooLong
deriving DecidableEq, Repr

namespace FileProblem

/-- The number by which a problem is known. -/
def number : FileProblem → Nat
  | .missing => 2
  | .notFolder => 20
  | .isFolder => 21
  | .tooLong => 36

/-- What a problem is, in words. -/
def words : FileProblem → String
  | .missing => "No such file or directory"
  | .notFolder => "Not a directory"
  | .isFolder => "Is a directory"
  | .tooLong => "File name too long"

/-- The words for a problem with a path. -/
def message (problem : FileProblem) (path : String) : String :=
  s!"[Errno {problem.number}] {problem.words}: {Text.quoted path}"

end FileProblem

/-- What a file is looked up for. -/
inductive Access where
  /-- To read it. -/
  | reading
  /-- To write it. -/
  | writing
deriving DecidableEq, Repr

/-- Where a path leads. -/
inductive Place where
  /-- To a folder. -/
  | folder
  /-- To the name of a file that is there. -/
  | file (name text : String)
  /-- To a name that is free. -/
  | free (name : String)
deriving DecidableEq, Repr

/-- Named texts. -/
structure Folder where
  /-- The files, by their names; the name of a file in another folder begins with the way to it. -/
  files : List (String × String) := []
deriving DecidableEq, Repr

namespace Folder

/-- A text with every kind of line break replaced by a line feed. -/
def plainBreaks : List Char → List Char
  | '\r' :: '\n' :: rest => '\n' :: plainBreaks rest
  | '\r' :: rest => '\n' :: plainBreaks rest
  | c :: rest => c :: plainBreaks rest
  | [] => []

/-- The text of a file as it is stored. -/
def get? (folder : Folder) (name : String) : Option String :=
  folder.files.lookup name

/-- Store a text under a name. -/
def put (name text : String) (folder : Folder) : Folder :=
  { files := (name, text) :: folder.files.filter fun file => decide (file.1 ≠ name) }

/-- The way to the folder at the top. -/
def top : String := "/"

/-- The way to the folder around the one to which `way` leads. Nothing is around the top. -/
def around (way : String) : String :=
  if way = top then top else way ++ "../"

/-- The greatest number of bytes in a step of a path. -/
def longestStep : Nat := 255

/-- The greatest number of bytes in a path. -/
def longestPath : Nat := 4095

/-- The place of the last step of a path, in the folder to which `way` leads. A folder cannot be
written, whether it is there or not. -/
def lastPlace (folder : Folder) (access : Access) (asksFolder : Bool) (way step : String) :
    Except FileProblem Place :=
  if asksFolder && decide (access = .writing) then .error .isFolder
  else if longestStep < step.utf8ByteSize then .error .tooLong
  else
    match folder.get? (way ++ step), asksFolder with
    | some _, true => .error .notFolder
    | some text, false => .ok (.file (way ++ step) text)
    | none, true => .error .missing
    | none, false => .ok (.free (way ++ step))

/-- Follow the steps of a path from the folder to which `way` leads. -/
def follow (folder : Folder) (access : Access) (asksFolder : Bool) (way : String) :
    List String → Except FileProblem Place
  | [] => .ok .folder
  | step :: rest =>
    if step = "." then follow folder access asksFolder way rest
    else if step = ".." then follow folder access asksFolder (around way) rest
    else if rest.isEmpty then folder.lastPlace access asksFolder way step
    else if longestStep < step.utf8ByteSize then .error .tooLong
    else if (folder.get? (way ++ step)).isSome then .error .notFolder
    else .error .missing

/-- The steps of a path. -/
def steps (path : String) : List String :=
  ((path.toList.splitOn '/').map String.ofList).filter fun step => !step.isEmpty

/-- Whether a path ends in a slash. -/
def asksFolder (path : String) : Bool :=
  path.toList.getLast? == some '/'

/-- The place to which a path leads. -/
def locate (folder : Folder) (access : Access) (path : String) : Except FileProblem Place :=
  if longestPath < path.utf8ByteSize then .error .tooLong
  else
    folder.follow access (asksFolder path) (if path.toList.head? = some '/' then top else "")
      (steps path)

/-- The text of the file to which a path leads, with its line breaks made plain. -/
def read (folder : Folder) (path : String) : Except FileProblem String :=
  match folder.locate .reading path with
  | .ok (.file _ text) => .ok (String.ofList (plainBreaks text.toList))
  | .ok (.free _) => .error .missing
  | .ok .folder => .error .isFolder
  | .error problem => .error problem

/-- Store a text under the name to which a path leads. -/
def write (folder : Folder) (path text : String) : Except FileProblem Folder :=
  match folder.locate .writing path with
  | .ok (.file name _) => .ok (folder.put name text)
  | .ok (.free name) => .ok (folder.put name text)
  | .ok .folder => .error .isFolder
  | .error problem => .error problem

end Folder

end Lathe
