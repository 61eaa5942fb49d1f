import FaxRelay.Files.Fault

/-!
# A tree of files, and the way of a path through it

Documents stand in directories, and directories in other ones up to the root. A
path is a row of names between slashes. It is followed one name at a time, from
the root if a slash comes first and otherwise from the working directory.

Of several faults the earliest on the way counts: a name is looked at only once
the names before it have led to a directory. Hence a name that is too long
matters only in a directory that is there, and even an empty name behind a
document, as a slash at the end leaves one, finds that the document is no
directory. The length of the whole path is judged before its names are.
-/

set_option autoImplicit false

namespace FaxRelay.Files

/-- A place in a tree: the names that lead to it from the root, the last one first. -/
abbrev Location := List String

/-- What stands at a place. -/
inductive Entry where
  | directory
  | document (text : String)
  deriving DecidableEq, Repr

/-- The documents of a system, its further directories, and the directory from which a path starts
that does not start at the root. -/
structure Tree where
  documents : List (Location × String)
  directories : List Location
  working : Location
  deriving DecidableEq, Repr

/-- The most bytes that a name has. -/
def maxNameSize : Nat := 255

/-- The most bytes that a path has. -/
def maxPathSize : Nat := 4095

/-! ## Paths -/

/-- The names of a path: what stands before, between and behind its slashes. -/
def splitNames : List Char → List (List Char)
  | [] => [[]]
  | character :: rest =>
    if character = '/' then [] :: splitNames rest
    else
      match splitNames rest with
      | [] => [[character]]
      | name :: names => (character :: name) :: names

/-- The names of a path as texts. -/
def namesOfPath (path : String) : List String := (splitNames path.toList).map String.ofList

/-- The place to which a path from the root leads that goes down at every name. -/
def Location.ofPath (path : String) : Location := ((namesOfPath path).filter (· ≠ "")).reverse

namespace Tree

/-! ## Entries -/

/-- The places that are known to be directories, each with the ones above it. -/
def directoryPlaces (tree : Tree) : List Location :=
  tree.working :: tree.directories ++ tree.documents.map fun document => document.1.tail

/-- What stands at a place: a document, or a directory if the place lies above or at a place that
is known to be one. -/
def entry? (tree : Tree) (place : Location) : Option Entry :=
  match tree.documents.lookup place with
  | some text => some (.document text)
  | none =>
    if tree.directoryPlaces.any fun inner => place.isSuffixOf inner then some .directory else none

/-- Puts a document into the tree, at the place of a path from the root. -/
def insert (tree : Tree) (path text : String) : Tree :=
  { tree with documents := (Location.ofPath path, text) :: tree.documents }

/-! ## The way of a path -/

/-- Where a path starts. -/
def start (tree : Tree) (path : String) : Location :=
  if path.toList.head? = some '/' then [] else tree.working

/-- Goes on by a name, from a place that has to be a directory: an empty name and a single dot stay,
two dots lead to the directory above, and above the root is the root. -/
def step (tree : Tree) (place : Location) (name : String) : Except OsFault Location :=
  match tree.entry? place with
  | none => .error .noSuchFile
  | some (.document _) => .error .notDirectory
  | some .directory =>
    if name = "" ∨ name = "." then .ok place
    else if name = ".." then .ok place.tail
    else if maxNameSize < name.utf8ByteSize then .error .nameTooLong
    else .ok (name :: place)

/-- The place to which a path leads. -/
def locate (tree : Tree) (path : String) : Except OsFault Location :=
  if path = "" then .error .noSuchFile
  else if maxPathSize < path.utf8ByteSize then .error .nameTooLong
  else (namesOfPath path).foldlM tree.step (tree.start path)

/-- The text of the document to which a path leads. -/
def read (tree : Tree) (path : String) : Except FileFault String :=
  if '\x00' ∈ path.toList then .error .zeroInPath
  else
    match tree.locate path with
    | .error cause => .error (.system cause)
    | .ok place =>
      match tree.entry? place with
      | none => .error (.system .noSuchFile)
      | some .directory => .error (.system .isDirectory)
      | some (.document text) => .ok text

/-! ## A system as it is found -/

/-- The directories and documents that every system has, before anything is put there. -/
def bare : Tree where
  documents :=
    [("/dev/null", ""),
      ("/etc/passwd", "root:x:0:0:root:/root:/bin/sh\n"),
      ("/etc/hosts", "127.0.0.1\tlocalhost\n")].map fun (path, text) => (Location.ofPath path, text)
  directories :=
    ["/bin", "/boot", "/dev", "/etc", "/home", "/lib", "/media", "/mnt", "/opt", "/proc", "/root",
      "/run", "/sbin", "/srv", "/sys", "/tmp", "/usr/bin", "/usr/lib", "/usr/local", "/usr/sbin",
      "/usr/share", "/var/lib", "/var/log", "/var/tmp"].map Location.ofPath
  working := Location.ofPath "/srv/relay"

end Tree

end FaxRelay.Files
