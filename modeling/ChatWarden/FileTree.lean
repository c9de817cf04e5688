/-!
# File trees

A tree of files, directories and symbolic links as one value. A path is walked from the top of the
tree name by name; links are followed, up to a limit. Around the tree lie only empty directories.

A walk ends at a place, which holds the directories around it as well. So the whole tree can be
built again with a node put there, and a file is written along the same way that it is read.
-/

namespace ChatWarden

inductive FileError where
  | notFound
  | notADirectory
  | isADirectory
  | nameTooLong
  | tooManyLinks
  /-- A name holds a null character. -/
  | nullInName
  /-- The bytes of the file are no text. -/
  | notText
  | other (text : String)
deriving DecidableEq

namespace FileError

def message : FileError → String
  | .notFound => "No such file or directory (os error 2)"
  | .notADirectory => "Not a directory (os error 20)"
  | .isADirectory => "Is a directory (os error 21)"
  | .nameTooLong => "File name too long (os error 36)"
  | .nullInName => "file name contained an unexpected NUL byte"
  | .tooManyLinks => "Too many levels of symbolic links (os error 40)"
  | .notText => "stream did not contain valid UTF-8"
  | .other text => text

end FileError

def decodeText (bytes : ByteArray) : Except FileError String :=
  match String.fromUTF8? bytes with
  | some text => .ok text
  | none => .error .notText

inductive FileTree where
  | file (bytes : ByteArray)
  | directory (entries : List (String × FileTree))
  | link (target : String)

/-- What a program finds under a name in a directory. -/
inductive FoundEntry where
  /-- A file, or a link to one, with the result of reading it. -/
  | file (content : Except FileError ByteArray)
  /-- A directory that is not behind a link. -/
  | directory (entries : List (String × FoundEntry))
  /-- Anything that is neither, or cannot be reached. -/
  | other

/-- What a program finds when it lists a directory. -/
inductive Listing where
  | missing
  | unreadable (error : FileError)
  | entries (entries : List (String × FoundEntry))

namespace FileTree

def empty : FileTree := .directory []

instance : Inhabited FileTree := ⟨empty⟩

def names (path : String) : List String :=
  path.splitOn "/"

/-- Whether a path starts outside every tree. -/
def isAbsolute (path : String) : Bool :=
  path.front == '/'

/-- The bytes that a name may take. -/
def nameLimit : Nat := 255

/-- The bytes that a path may take. -/
def pathLimit : Nat := 4095

/-- The links that may be followed on one walk. -/
def linkLimit : Nat := 40

/-- Puts an entry in place of the one of that name, or at the end. -/
def replaceEntry (name : String) (node : FileTree) :
    List (String × FileTree) → List (String × FileTree)
  | [] => [(name, node)]
  | e :: es => if e.1 = name then (name, node) :: es else e :: replaceEntry name node es

/-- A place in a tree, with what stands there. -/
structure Place where
  node : FileTree
  /-- For each directory around the place, innermost first, the name that leads on from it and its
  entries. -/
  above : List (String × List (String × FileTree)) := []
  /-- Whether the place is not in the tree, but around it. -/
  isOutside : Bool := false

namespace Place

def outside : Place := { node := empty, isOutside := true }

def entries (p : Place) : List (String × FileTree) :=
  match p.node with
  | .directory entries => entries
  | _ => []

/-- The place of a name in the directory, with a node put there. -/
def down (p : Place) (name : String) (node : FileTree) : Place :=
  { p with node, above := (name, p.entries) :: p.above }

def up (p : Place) : Place :=
  match p.above with
  | [] => outside
  | (name, entries) :: above =>
    { p with node := .directory (replaceEntry name p.node entries), above }

/-- The tree around a place, built again with what now stands there. -/
def rebuild (p : Place) (tree : FileTree) : FileTree :=
  if p.isOutside then tree
  else
    p.above.foldl (fun node (name, entries) => .directory (replaceEntry name node entries)) p.node

@[simp] theorem up_down (p : Place) (name : String) (node : FileTree) :
    (p.down name node).up = { p with node := .directory (replaceEntry name node p.entries) } := rfl

end Place

/-- Walks from a place along names. A node that is given stands for a missing last one. -/
def walk (missing : Option FileTree) (links : Nat) (place : Place) :
    List String → Except FileError Place
  | [] => .ok place
  | name :: rest =>
    match place.node with
    | .directory entries =>
      if name = "" ∨ name = "." then walk missing links place rest
      else if name = ".." then walk missing links place.up rest
      else if nameLimit < name.utf8ByteSize then .error .nameTooLong
      else
        match entries.lookup name with
        | none =>
          match rest, missing with
          | [], some node => .ok (place.down name node)
          | _, _ => .error .notFound
        | some (.link target) =>
          match links with
          | 0 => .error .tooManyLinks
          | links + 1 =>
            walk missing links (if isAbsolute target then .outside else place)
              (names target ++ rest)
        | some node => walk missing links (place.down name node) rest
    | _ => .error .notADirectory
termination_by ns => (links, ns.length)

def start (tree : FileTree) (path : String) : Place :=
  if isAbsolute path then .outside else { node := tree }

def resolve (tree : FileTree) (path : String) : Except FileError FileTree :=
  if path.contains '\x00' then .error .nullInName
  else if pathLimit < path.utf8ByteSize then .error .nameTooLong
  else if path = "" then .error .notFound
  else (walk none linkLimit (tree.start path) (names path)).map (·.node)

def isThere (tree : FileTree) (path : String) : Bool :=
  match tree.resolve path with
  | .ok _ => true
  | .error _ => false

def read (tree : FileTree) (path : String) : Except FileError ByteArray :=
  match tree.resolve path with
  | .ok (.file bytes) => .ok bytes
  | .ok _ => .error .isADirectory
  | .error e => .error e

def join (directory name : String) : String :=
  if directory.endsWith "/" then directory ++ name else directory ++ "/" ++ name

/-- What is found at a path that leads to no directory of its own: a file, or a link to one. -/
def foundFile (tree : FileTree) (path : String) : FoundEntry :=
  match tree.read path with
  | .ok bytes => .file (.ok bytes)
  | .error _ => .other

mutual

/-- What is found in place of a node, given the path to it. A path can be too long, or lead over too
many links, although the node is there. -/
def found (tree : FileTree) (path : String) : FileTree → FoundEntry
  | .file _ => tree.foundFile path
  | .link _ => tree.foundFile path
  | .directory entries =>
    match tree.resolve path with
    | .ok _ => .directory (foundAll tree path entries)
    | .error _ => .other

def foundAll (tree : FileTree) (path : String) :
    List (String × FileTree) → List (String × FoundEntry)
  | [] => []
  | (name, node) :: rest => (name, found tree (join path name) node) :: foundAll tree path rest

end

def list (tree : FileTree) (path : String) : Listing :=
  match tree.resolve path with
  | .error _ => .missing
  | .ok (.directory entries) => .entries (tree.foundAll path entries)
  | .ok _ => .unreadable .notADirectory

def isFree (place : Place) (name : String) : Bool :=
  match walk none 0 place [name] with
  | .error .notFound => true
  | _ => false

/-- Walks from a place along names, and makes the directories that are not there. -/
def enter (place : Place) : List String → Except FileError Place
  | [] => .ok place
  | name :: rest => do
    if isFree place name then enter (place.down name empty) rest
    else enter (← walk none linkLimit place [name]) rest

/-- Makes a directory, and those around it, where there is none. A tree in which that cannot be done
stays as it is. -/
def makeDirectory (tree : FileTree) (path : String) : FileTree :=
  match enter (tree.start path) (names path) with
  | .ok place => place.rebuild tree
  | .error _ => tree

/-- The directory in which the last name of a path stands, made where it is not there. -/
def enterParent (tree : FileTree) (path : String) : Except FileError Place :=
  enter (tree.start path) (names path).dropLast

def lastName (path : String) : String :=
  (names path).getLastD ""

/-- Writes a file. It is written through links, and behind a link to nothing it is made. -/
def write (tree : FileTree) (path : String) (bytes : ByteArray) : FileTree :=
  match tree.enterParent path with
  | .error _ => tree
  | .ok parent =>
    match walk (some (.file bytes)) linkLimit parent [lastName path] with
    | .error _ | .ok { node := .directory _, .. } => parent.rebuild tree
    | .ok place => Place.rebuild { place with node := .file bytes } tree

def addLink (tree : FileTree) (path target : String) : FileTree :=
  match tree.enterParent path with
  | .error _ => tree
  | .ok parent =>
    let name := lastName path
    if isFree parent name then (parent.down name (.link target)).rebuild tree
    else parent.rebuild tree

end FileTree

end ChatWarden
