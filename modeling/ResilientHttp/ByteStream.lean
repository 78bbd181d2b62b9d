import ResilientHttp.Compression.Decoder
import ResilientHttp.Span

/-! Bodies as streams of bytes: what happens, one thing after the other, as a body is read.

Nothing in a stream happens before somebody reads that far. So a reader that stops early leaves the
rest undone, and what was passed tells how much of the source was taken and how long it took. -/
namespace ResilientHttp

inductive StreamEvent
  /-- An item was taken from the source with that number. -/
  | taken (source : Nat)
  | chunk (bytes : ByteArray)
  /-- The source fails; it may still go on afterwards. -/
  | failed (e : StreamError)
  | pause (d : Span)

abbrev ByteStream := List StreamEvent

namespace ByteStream

/-- A body whose bytes are all there. -/
def full (bytes : ByteArray) : ByteStream := if bytes.isEmpty then [] else [.chunk bytes]

/-- Cuts bytes in pieces of some size; the last one may be shorter. -/
def pieces (size : Nat) (bytes : ByteArray) : List ByteArray :=
  (List.range ((bytes.size + size - 1) / size)).map fun i =>
    bytes.extract (i * size) ((i + 1) * size)

def isFailure : StreamEvent → Bool
  | .failed _ => true
  | _ => false

def bytesOf : StreamEvent → ByteArray
  | .chunk bytes => bytes
  | _ => ByteArray.empty

def sound (s : ByteStream) : ByteStream := s.takeWhile fun e => !isFailure e

def failure? (s : ByteStream) : Option StreamError :=
  s.findSome? fun
    | .failed e => some e
    | _ => none

/-- All bytes up to the end or the first failure. -/
def data (s : ByteStream) : ByteArray :=
  s.sound.foldl (fun acc e => acc ++ bytesOf e) ByteArray.empty

def readAll (s : ByteStream) : Except StreamError ByteArray :=
  match s.failure? with
  | some e => .error e
  | none => .ok s.data

/-- What is passed by a reader that starts no read once it has `limit` bytes, and stops at a
failure. -/
def drained (limit : Nat) : (read : Nat) → ByteStream → ByteStream
  | _, [] => []
  | read, e :: rest =>
    if limit ≤ read then []
    else if isFailure e then [e]
    else e :: drained limit (read + (bytesOf e).size) rest

open Compression in
/-- Decodes the chunks of a stream. A decoder that never saw a byte is not asked to finish: nothing
encoded is nothing. -/
def decodeFrom {σ : Type} (d : Decoder σ) (state : σ) (seen : Bool) : ByteStream → ByteStream
  | [] =>
    if seen then
      match d.finish state with
      | .ok out => full out
      | .error e => [.failed e]
    else []
  | .chunk bytes :: rest =>
    if bytes.isEmpty then decodeFrom d state seen rest
    else
      match d.write state bytes with
      | .error e => [.failed e]
      | .ok (out, state) => full out ++ decodeFrom d state true rest
  | .failed e :: _ => [.failed e]
  | e :: rest => e :: decodeFrom d state seen rest

open Compression in
def decode {σ : Type} (d : Decoder σ) (s : ByteStream) : ByteStream := decodeFrom d d.start false s

end ByteStream
end ResilientHttp
