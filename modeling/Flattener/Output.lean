import Flattener.Encoding.Utf8
import Flattener.Fault
import Flattener.FileTree.Basic
import Flattener.Log.Record
import Flattener.Text.Quoted

/-!
# Output files

The output replaces whatever file stands at its place. Missing directories on the way are made;
a directory at the place, or a file where a directory is needed, is refused before anything is
changed. The file system takes names and paths up to a certain length only; a name that is too long
is noticed once the way to it exists, which may be after directories have been made.

* `Output.prepare` makes a place ready for the output.
* `Output.write` prepares a place and stores a text there.
-/

namespace Flattener.Output

/-- A change to a file tree that logs and may fail; the tree is what it has become, also then. -/
structure Change where
  tree : FileTree
  records : List Log.Record
  fault : Option Fault

/-- The path seen from the working directory. -/
def absolute (cwd p : Path) : Path := cwd.join p

/-- A path that cannot receive output. -/
def refused (p : Path) (reason : Text) : Fault := .failure (.badTarget p.toText reason)

/-- What is logged before directories are made. -/
def makingRecord (parent : Path) : Log.Record :=
  ⟨.info, Log.loggerOf "utils.output",
    "Output directory not found, creating directory tree \"".toList ++ parent.toText ++ ['"'], []⟩

/-- What is logged before a file is removed. -/
def removingRecord (p : Path) : Log.Record :=
  ⟨.info, Log.loggerOf "utils.output",
    "Output file already exists, removing file \"".toList ++ p.toText ++ ['"'], []⟩

/-- Whether a path has a segment that no directory can hold. -/
def hasNull (p : Path) : Bool := p.segments.any (·.contains '\x00')

/-- The greatest number of bytes of a path that is looked up. -/
def pathLimit : Nat := 4095

/-- Whether the last segment of a path is longer than a directory can hold. -/
def hasLongName (p : Path) : Bool := p.segments.getLast?.any FileTree.isLongName

/-- Whether a path is too long to be looked up, or the way along it comes to a directory that is to
be searched for a name that is too long. -/
def tooLong (tree : FileTree) (cwd p : Path) : Bool :=
  !hasNull p && (pathLimit < Utf8.length p.toText ||
    (p :: p.ancestors).any fun q => hasLongName q && tree.isDirectory (absolute cwd q.parent))

/-- What is wrong with `q` as a directory on the way to `p`: it cannot be looked up, or it is a
file. -/
def obstacle (tree : FileTree) (cwd p q : Path) : Option Fault :=
  if tooLong tree cwd q then some .nameTooLong
  else if tree.occupied (absolute cwd q) && !tree.isDirectory (absolute cwd q) then
    some (refused p (q.toText ++ " is not a directory".toList))
  else none

/-- What is wrong with the nearest directory on the way to `p` with which something is wrong. -/
def blockedBy (tree : FileTree) (cwd p : Path) : Option Fault :=
  (p.parent :: p.parent.ancestors).findSome? (obstacle tree cwd p)

/-- The start of the path `p`, as it is written, that leads to the segments `found` once the path
is seen from a directory. -/
def writtenStart (p seen : Path) (found : List Text) : Path :=
  { p with segments := p.segments.take (found.length + p.segments.length - seen.segments.length) }

/-- What stops the making of the directory `q`: its name is too long, or it is a file. -/
def stopReason (q : Path) : Text :=
  (if hasLongName q then "[Errno 36] File name too long: ".toList
    else "[Errno 17] File exists: ".toList) ++ Text.quoted q.toText

/-- Makes sure that the directory of `p` exists. A path that climbs back out of a directory made
for it may lead to a file. -/
def makeParent (tree : FileTree) (cwd p : Path) : Change :=
  let seen := absolute cwd p.parent
  if tree.occupied seen then ⟨tree, [], none⟩
  else if hasNull p.parent then ⟨tree, [makingRecord p.parent], some (.path .embeddedNull)⟩
  else
    let (made, blocked) := tree.makeDirectory seen
    ⟨made, [makingRecord p.parent], blocked.map fun found =>
      refused p (stopReason (writtenStart p.parent seen found))⟩

/-- Removes what stands at the place `p`. A path that climbs back out of a directory made for it
leads to a directory, which is not removed. -/
def clear (tree : FileTree) (cwd p : Path) : Change :=
  if tooLong tree cwd p then ⟨tree, [], some .nameTooLong⟩
  else if tree.isDirectory (absolute cwd p) then
    ⟨tree, [removingRecord p],
      some (refused p ("[Errno 21] Is a directory: ".toList ++ Text.quoted p.toText))⟩
  else if tree.occupied (absolute cwd p) then
    ⟨tree.removeFile (absolute cwd p), [removingRecord p], none⟩
  else ⟨tree, [], none⟩

/-- Makes the place `p`, seen from `cwd`, ready for the output: its directory exists afterwards
and no file stands there. -/
def prepare (tree : FileTree) (cwd p : Path) : Change :=
  if tooLong tree cwd p then ⟨tree, [], some .nameTooLong⟩
  else if tree.isDirectory (absolute cwd p) then
    ⟨tree, [], some (refused p "is a directory".toList)⟩
  else
    match blockedBy tree cwd p with
    | some e => ⟨tree, [], some e⟩
    | none =>
      let made := makeParent tree cwd p
      if made.fault.isSome then made
      else
        let cleared := clear made.tree cwd p
        { cleared with records := made.records ++ cleared.records }

/-- Stores a text at a prepared place. The file is opened before its codec is looked up, so it is
there but empty if no codec has the name, or if the text has no bytes in it. A setting that is no
name, and a path with a null character, are refused before that, and there is no file. -/
def store (codecs : Codecs) (tree : FileTree) (cwd p : Path) (t : Text) (encoding : Setting) :
    FileTree × Option Fault :=
  match Codecs.nameOf encoding with
  | .error e => (tree, some (.encoding e))
  | .ok name =>
    if hasNull p then (tree, some (.path .embeddedNull))
    else
      let (bytes, fault) :=
        match codecs.find name >>= (·.bytes t) with
        | .ok bytes => (bytes, none)
        | .error e => ([], some (.encoding e))
      match tree.write (absolute cwd p) bytes with
      | some tree => (tree, fault)
      | none => (tree, some (refused p "the file cannot be written".toList))

/-- Writes the text to the place `p`, seen from `cwd`. -/
def write (codecs : Codecs) (tree : FileTree) (cwd p : Path) (t : Text) (encoding : Setting) :
    Change :=
  let prepared := prepare tree cwd p
  if prepared.fault.isSome then prepared
  else
    let (tree, fault) := store codecs prepared.tree cwd p t encoding
    { prepared with tree, fault }

end Flattener.Output
