import HeapKit.Request.Decode
import HeapKit.Memory.Allocator

/-!
# Container elements in requests

Vectors and arrays in requests hold one of three element types: 64-bit
integers, strings (a number given for one is taken as the characters it is
written with), or blocks of thirteen 64-bit integers of which requests set
and show only the first. A codec says how an element is read and written, how
an integer becomes an element, and which type allocations are made for.
-/

namespace HeapKit.Request

open HeapKit.Memory

/-- How the elements of a container are read, written and stored. -/
structure Codec (α : Type) where
  element : ElementType
  read : Json → Outcome α
  write : α → Json
  ofInt : Int → α

/-- A signed word from an integer, wrapping. -/
def wrapWord (value : Int) : Int64 := Int64.ofInt value

/-- 64-bit integer elements. -/
def wordCodec : Codec Int64 where
  element := { name := "int64", size := 8, alignment := 8 }
  read := readInt64 "value"
  write value := .int value.toInt
  ofInt := wrapWord

/-- The decimal text of an integer as bytes. -/
def decimalBytes (value : Int) : List UInt8 := Utf8.encode (toString value)

/-- String elements: strings, or numbers taken as the characters they are
written with. -/
def textCodec : Codec (List UInt8) where
  element := { name := "string", size := 16, alignment := 8 }
  read := readTextual "value"
  write := bytesJson
  ofInt := decimalBytes

/-- Blocks of thirteen 64-bit integers, read and shown by their first. -/
def blockCodec : Codec Int64 where
  element := { name := "[13]int64", size := 104, alignment := 8 }
  read := readInt64 "value"
  write value := .int value.toInt
  ofInt := wrapWord

end HeapKit.Request
