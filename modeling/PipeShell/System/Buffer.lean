import PipeShell.Text.Utf8

/-! # Byte buffers

A sequence of bytes that grows at its end, piece by piece, and may be consumed
from its beginning. The pieces are kept the newest first, together with the
number of bytes in them. -/

set_option autoImplicit false

namespace PipeShell.System

structure Buffer where
  /-- The pieces, the newest first. -/
  pieces : List Bytes
  /-- The number of bytes in all pieces. -/
  size : Nat
  size_eq : size = pieces.flatten.length

namespace Buffer

def empty : Buffer := ⟨[], 0, rfl⟩

instance : Inhabited Buffer := ⟨empty⟩

def toList (buffer : Buffer) : Bytes := buffer.pieces.reverse.flatten

def push (buffer : Buffer) (piece : Bytes) : Buffer where
  pieces := piece :: buffer.pieces
  size := buffer.size + piece.length
  size_eq := by rw [buffer.size_eq, List.flatten_cons, List.length_append, Nat.add_comm]

def ofList (bytes : Bytes) : Buffer := empty.push bytes

/-- At most `limit` bytes from the beginning, and the buffer without them. -/
def pull (buffer : Buffer) (limit : Nat) : Bytes × Buffer :=
  let bytes := buffer.toList
  (bytes.take limit, ofList (bytes.drop limit))

@[simp] theorem toList_empty : empty.toList = [] := rfl

@[simp] theorem toList_push (buffer : Buffer) (piece : Bytes) :
    (buffer.push piece).toList = buffer.toList ++ piece := by
  simp [toList, push]

@[simp] theorem toList_ofList (bytes : Bytes) : (ofList bytes).toList = bytes := by
  simp [ofList]

/-- The size is the number of bytes. -/
theorem length_toList (buffer : Buffer) : buffer.toList.length = buffer.size := by
  rw [buffer.size_eq, toList, List.length_flatten, List.length_flatten, List.map_reverse, List.sum_reverse]

/-- What is consumed and what is left make up the buffer. -/
theorem pull_append (buffer : Buffer) (limit : Nat) :
    (buffer.pull limit).1 ++ (buffer.pull limit).2.toList = buffer.toList := by
  simp [pull]

end Buffer

end PipeShell.System
