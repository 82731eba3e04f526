import PipeShell.System.Names
import PipeShell.Text.Raw
import PipeShell.Utility.Mode

/-! # What is known of a file

The facts that are told about files: their kinds, permissions, sizes, owners and numbers.
Times are not kept. -/

set_option autoImplicit false

namespace PipeShell.Utility

open PipeShell.System

def kindLetter : Node → Char
  | .directory _ => 'd'
  | .link _ => 'l'
  | .device _ => 'c'
  | .pipe _ => 'p'
  | .file _ | .program _ => '-'

def kindBits : Node → Nat
  | .directory _ => 0x4000
  | .link _ => 0xa000
  | .device _ => 0x2000
  | .pipe _ => 0x1000
  | .file _ | .program _ => 0x8000

def modeLetters (files : FileSystem) (node : Node) : String :=
  String.singleton (kindLetter node) ++ modeText (files.attributesOf node).mode

def isRunnable (files : FileSystem) (node : Node) : Bool := (files.attributesOf node).mode &&& 0o111 != 0

def storageBlock : Nat := 4096

def byteSize (files : FileSystem) (node : Node) : Nat :=
  match node with
  | .link target => (rawBytes target).length
  | .directory _ => storageBlock
  | node => ((files.fileOf? node).map fun file => file.content.length).getD 0

def storedSize (files : FileSystem) (node : Node) : Nat :=
  match node with
  | .link _ | .device _ | .pipe _ => 0
  | node => (byteSize files node + storageBlock - 1) / storageBlock * storageBlock

/-- How many names something has. A directory has one in the directory above, one in
itself and one in each directory below. -/
def linkCount (files : FileSystem) (location : Location) (node : Node) : Nat :=
  match node with
  | .directory _ => 2 + ((files.children location).filter fun (_, node) => node.isDirectory).length
  | node => files.nameCount node

def nodeNumber (files : FileSystem) (location : Location) (node : Node) : Nat :=
  match node with
  | .file number => number + 1
  | _ => files.stored.length + files.entries.findIdx (fun entry => entry.1 == location) + 1

def deviceNumbers : Device → Nat × Nat
  | .null => (1, 3)
  | .zero => (1, 5)
  | .full => (1, 7)

def userName (user : Nat) : String := if user = 0 then "root" else "nobody"

end PipeShell.Utility
