import ResilientHttp.Compression.Fault

/-! Programs that read bits one at a time.

A program that needs a bit is a value of its own, so that reading can stop after any bit and go on
when more arrive. -/
namespace ResilientHttp.Compression

/-- A program that reads finitely many bits and then gives a value or a fault. -/
inductive Bits (α : Type) : Type
  | done (a : α)
  | fail (f : Fault)
  | need (next : Bool → Bits α)

namespace Bits

def bind {α β : Type} : Bits α → (α → Bits β) → Bits β
  | done a, f => f a
  | fail e, _ => fail e
  | need next, f => need fun b => (next b).bind f

instance : Monad Bits where
  pure := done
  bind := bind

def bit : Bits Bool := need done

/-- A number of `count` bits on top of `low`, the bit of weight `weight` first. -/
def numberFrom (low weight : Nat) : (count : Nat) → Bits Nat
  | 0 => done low
  | count + 1 => need fun b => numberFrom (if b then low + weight else low) (2 * weight) count

/-- A number of `count` bits, the lowest first. -/
def number (count : Nat) : Bits Nat := numberFrom 0 1 count

def skip : (count : Nat) → Bits Unit
  | 0 => done ()
  | count + 1 => need fun _ => skip count

def failAfter {α : Type} (f : Fault) : (count : Nat) → Bits α
  | 0 => fail f
  | count + 1 => need fun _ => failAfter f count

def byte : Bits UInt8 := do return (← number 8).toUInt8

/-- Reads `count` bytes; those in `read` were there before, last first. -/
def bytes (read : List UInt8) : (count : Nat) → Bits (List UInt8)
  | 0 => done read.reverse
  | count + 1 => byte.bind fun b => bytes (b :: read) count

end Bits

/-- The bits from one of a byte up to the next whole byte. -/
def padding (position : Nat) : Nat := (8 - position % 8) % 8

def bitsOf (b : UInt8) : List Bool :=
  (List.range 8).map fun i => b.toNat >>> i % 2 = 1

end ResilientHttp.Compression
