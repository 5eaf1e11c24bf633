import Inetstack.Lib.Bytes
import Inetstack.Tcp.IsnGenerator

/-!
# Reading and writing bytes

What the encoders and decoders of the headers do with a buffer: index it, read a number off it, write
bytes into it. An index or a slice that is out of range is a panic. A read cursor is the bytes that are
left to read, and a read past its end is an error; which one is the runtime's conversion of an I/O
error, and a parameter here (`eof`).
-/

namespace Inetstack.Tcp

/-- A result, an error the call returns, or a call that does not return. -/
abbrev Outcome (α : Type) := ExceptT Fail (Except Fault) α

namespace Buffer

def readU8 (buf : Buffer) (pos : Nat) : Except Fault UInt8 :=
  match buf[pos]? with
  | some byte => .ok byte
  | none => .error .indexOutOfBounds

def readU16 (buf : Buffer) (pos : Nat) : Except Fault UInt16 := do
  let high ← readU8 buf pos
  let low ← readU8 buf (pos + 1)
  .ok (UInt16.ofNat (Bytes.ofBe [high, low]))

def readU32 (buf : Buffer) (pos : Nat) : Except Fault UInt32 := do
  let b0 ← readU8 buf pos
  let b1 ← readU8 buf (pos + 1)
  let b2 ← readU8 buf (pos + 2)
  let b3 ← readU8 buf (pos + 3)
  .ok (UInt32.ofNat (Bytes.ofBe [b0, b1, b2, b3]))

def write (buf : Buffer) (pos : Nat) (bytes : Buffer) : Except Fault Buffer :=
  if pos + bytes.length ≤ buf.length then .ok (Bytes.splice buf pos bytes)
  else .error .indexOutOfBounds

/-- Run a writer on the `len` bytes from `pos` on. -/
def writeSlice (buf : Buffer) (pos len : Nat) (writer : Buffer → Except Fault Buffer) :
    Except Fault Buffer :=
  if pos + len ≤ buf.length then do
    let bytes ← writer ((buf.drop pos).take len)
    .ok (Bytes.splice buf pos bytes)
  else .error .indexOutOfBounds

end Buffer

namespace Cursor

variable (eof : Fail)

def readU8 : Buffer → Except Fail (UInt8 × Buffer)
  | [] => .error eof
  | byte :: rest => .ok (byte, rest)

def readU16 : Buffer → Except Fail (UInt16 × Buffer)
  | b0 :: b1 :: rest => .ok (UInt16.ofNat (Bytes.ofBe [b0, b1]), rest)
  | _ => .error eof

def readU32 : Buffer → Except Fail (UInt32 × Buffer)
  | b0 :: b1 :: b2 :: b3 :: rest => .ok (UInt32.ofNat (Bytes.ofBe [b0, b1, b2, b3]), rest)
  | _ => .error eof

end Cursor

end Inetstack.Tcp
