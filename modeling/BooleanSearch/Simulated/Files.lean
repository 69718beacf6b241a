import BooleanSearch.Error
import BooleanSearch.Path
import BooleanSearch.Table
import BooleanSearch.Text.Utf8

/-!
This module contains a directory of files and named pipes that lives in memory, and exchanges over it.
Nobody waits here: an exchange that comes to a pipe without a partner is blocked there, and goes on
when the partner comes.
-/

namespace BooleanSearch

/--
What a name in a directory stands for.
-/
inductive Node where
  | file (content : Bytes)
  /-- A named pipe. Pipes made at different times have different numbers. -/
  | pipe (number : Nat)
deriving DecidableEq, Repr

def Node.content : Node → Bytes
  | file content => content
  | pipe _ => []

structure Directory where
  nodes : Table Node := ∅
  /-- The number of pipes made so far. -/
  pipes : Nat := 0

namespace Directory

def ofFiles (files : List (Text × Bytes)) : Directory where
  nodes := files.foldl (fun nodes (name, content) => nodes.insert name (.file content)) ∅

def node? (directory : Directory) (name : Text) : Option Node := directory.nodes[name]?

def write (directory : Directory) (name : Text) (content : Bytes) : Directory :=
  { directory with nodes := directory.nodes.insert name (.file content) }

def remove (directory : Directory) (name : Text) : Directory :=
  { directory with nodes := directory.nodes.erase name }

def makePipe (directory : Directory) (name : Text) : Directory where
  nodes := directory.nodes.insert name (.pipe directory.pipes)
  pipes := directory.pipes + 1

/--
Go along a path from the directory on. There is nothing below what stands in it.
-/
def walk (directory : Directory) : List Text → Except IoFailure Node
  | [] => .error .isDirectory
  | name :: rest =>
    if Path.staysHere name then
      walk directory rest
    else
      match directory.node? name with
      | none => .error .notFound
      | some node => if rest.isEmpty then .ok node else .error .notDirectory

def read (directory : Directory) (path : Text) : Except IoFailure Bytes :=
  match Text.splitOn (· == '/') path with
  | [] :: _ => .error .notFound
  | names => (directory.walk names).map Node.content

theorem node?_write (directory : Directory) (name other : Text) (content : Bytes) :
    (directory.write name content).node? other =
      if name = other then some (.file content) else directory.node? other := by
  simp only [node?, write, Std.TreeMap.getElem?_insert]
  by_cases h : name = other <;> simp [h]

end Directory

/--
The bytes of a file into which others are written from its beginning on. The file is not truncated, so
the end of a longer content stays.
-/
def overlay (content written : Bytes) : Bytes := written ++ content.drop written.length

end BooleanSearch
