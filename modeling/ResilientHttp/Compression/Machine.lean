import ResilientHttp.Compression.Bits
import ResilientHttp.Compression.Decoder
import ResilientHttp.Compression.Window

/-! Formats of compressed data as machines that take one bit after the other.

A machine is always in some phase. In each phase it reads a few bits, adds something to the output
and turns to the next phase; it can wait for its next bit at any place. -/
namespace ResilientHttp.Compression

/-- What a step may know of the output: its length and its last two bytes. -/
structure Edge where
  size : Nat
  last : UInt8
  beforeLast : UInt8

def Window.edge (w : Window) : Edge := ⟨w.bytes.size, w.back 1, w.back 2⟩

/-- A format whose phases are in `κ`. -/
structure Machine (κ : Type) where
  start : κ
  isFinished : κ → Bool
  /-- What is read in a phase, from some bit of a byte on. -/
  step : (position : Nat) → Edge → κ → Bits (Action × κ)
  /-- What must hold of the output when a phase begins. -/
  enter : κ → Window → Except Fault Unit
  /-- What must hold when no more data comes. -/
  close : κ → Window → Except Fault Unit

namespace Machine

structure State (κ : Type) where
  phase : κ
  reader : Bits (Action × κ)
  /-- The bit of the byte that comes next. -/
  position : Nat := 0
  window : Window := {}

/-- More steps than any format takes between two bits. -/
def maxIdle : Nat := 1 <<< 26

variable {κ : Type} (m : Machine κ)

/-- Carries out steps until a bit is needed. -/
def settle : (fuel : Nat) → (position : Nat) → Bits (Action × κ) → State κ → Except Fault (State κ)
  | 0, _, _, _ => .error .endless
  | fuel + 1, position, reader, s =>
    match reader with
    | .fail f => .error f
    | .need next => .ok { s with position, reader := .need next }
    | .done (action, phase) =>
      let window := s.window.apply action
      match m.enter phase window with
      | .error f => .error f
      | .ok _ =>
        if m.isFinished phase then .ok ⟨phase, .done (.write [], phase), position, window⟩
        else
          let reader := m.step position window.edge phase
          settle fuel position reader ⟨phase, .done (.write [], phase), position, window⟩

def begin : State κ := { phase := m.start, reader := m.step 0 ⟨0, 0, 0⟩ m.start }

/-- Takes one bit. Bits behind the end fill the last byte and mean nothing. -/
def feedBit (s : State κ) (b : Bool) : Except Fault (State κ) :=
  match s.reader with
  | .done _ => .ok s
  | .fail f => .error f
  | .need next => m.settle maxIdle ((s.position + 1) % 8) (next b) s

def feed (s : State κ) (b : UInt8) : Except Fault (State κ) :=
  if m.isFinished s.phase then .error .leftover else (bitsOf b).foldlM m.feedBit s

def feedAll (s : State κ) (bytes : List UInt8) : Except Fault (State κ) := bytes.foldlM m.feed s

def write (s : State κ) (chunk : ByteArray) : Except StreamError (ByteArray × State κ) :=
  match m.feedAll s chunk.data.toList with
  | .ok s => .ok (s.window.fresh, { s with window := s.window.markTaken })
  | .error f => .error f.toStreamError

def finish (s : State κ) : Except StreamError ByteArray :=
  match m.close s.phase s.window with
  | .ok _ => .ok ByteArray.empty
  | .error f => .error f.toStreamError

def decoder : Decoder (State κ) := { start := m.begin, write := m.write, finish := m.finish }

end Machine
end ResilientHttp.Compression
