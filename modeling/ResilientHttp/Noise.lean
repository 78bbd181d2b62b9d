/-! Random numbers: a sequence of words that a seed determines, read from front to back.

The words are the key stream of a cipher in counter mode, twelve rounds of ChaCha, whose key is
spread from the seed. -/
namespace ResilientHttp

/-- Four words side by side; a block of the key stream is four rows. -/
structure Noise.Row where
  a : UInt32
  b : UInt32
  c : UInt32
  d : UInt32

structure Noise.Block where
  r0 : Row
  r1 : Row
  r2 : Row
  r3 : Row

namespace Noise

def Row.zip (f : UInt32 → UInt32 → UInt32) (x y : Row) : Row :=
  ⟨f x.a y.a, f x.b y.b, f x.c y.c, f x.d y.d⟩

def Row.turn (x : Row) : Row := ⟨x.b, x.c, x.d, x.a⟩

def Row.word (x : Row) : Nat → UInt32
  | 0 => x.a
  | 1 => x.b
  | 2 => x.c
  | _ => x.d

def rotate (n : UInt32) (x : UInt32) : UInt32 := (x <<< n) ||| (x >>> (32 - n))

/-- Takes the exclusive or, word by word, and rotates the bits of each word. -/
def Row.mix (n : UInt32) (x y : Row) : Row := Row.zip (fun u v => rotate n (u ^^^ v)) x y

def Row.add (x y : Row) : Row := Row.zip (· + ·) x y

def Block.stir (s : Block) : Block :=
  let r0 := s.r0.add s.r1
  let r3 := s.r3.mix 16 r0
  let r2 := s.r2.add r3
  let r1 := s.r1.mix 12 r2
  let r0 := r0.add r1
  let r3 := r3.mix 8 r0
  let r2 := r2.add r3
  let r1 := r1.mix 7 r2
  ⟨r0, r1, r2, r3⟩

/-- Turns the rows so that diagonals become columns. -/
def Block.slant (s : Block) : Block := ⟨s.r0, s.r1.turn, s.r2.turn.turn, s.r3.turn.turn.turn⟩

def Block.straighten (s : Block) : Block :=
  ⟨s.r0, s.r1.turn.turn.turn, s.r2.turn.turn, s.r3.turn⟩

/-- Two rounds, one on the columns and one on the diagonals, some times over. -/
def Block.rounds : (pairs : Nat) → Block → Block
  | 0, s => s
  | pairs + 1, s => rounds pairs s.stir.slant.stir.straighten

def keyBlock (k0 k1 : Row) (number : Nat) : Block :=
  let start : Block := {
    r0 := ⟨0x61707865, 0x3320646E, 0x79622D32, 0x6B206574⟩
    r1 := k0
    r2 := k1
    r3 := ⟨number.toUInt32, (number >>> 32).toUInt32, 0, 0⟩ }
  let s := start.rounds 6
  ⟨s.r0.add start.r0, s.r1.add start.r1, s.r2.add start.r2, s.r3.add start.r3⟩

def Block.word (s : Block) (i : Nat) : UInt32 :=
  match i / 4 with
  | 0 => s.r0.word (i % 4)
  | 1 => s.r1.word (i % 4)
  | 2 => s.r2.word (i % 4)
  | _ => s.r3.word (i % 4)

/-- A step of the generator that spreads a seed over a key. -/
def spread (state : UInt64) : UInt64 := state * 6364136223846793005 + 11634580027462260723

def shown (state : UInt64) : UInt32 :=
  let x := (((state >>> 18) ^^^ state) >>> 27).toUInt32
  let n := (state >>> 59).toUInt32
  (x >>> n) ||| (x <<< ((32 - n) % 32))

def keyRow (state : UInt64) : Row × UInt64 :=
  let s1 := spread state
  let s2 := spread s1
  let s3 := spread s2
  let s4 := spread s3
  (⟨shown s1, shown s2, shown s3, shown s4⟩, s4)

end Noise

/-- A sequence of random words, and how many of them were used. -/
structure Noise where
  word : Nat → UInt64
  used : Nat := 0

namespace Noise

def ofSeed (seed : Nat) : Noise :=
  let (k0, state) := keyRow seed.toUInt64
  let (k1, _) := keyRow state
  { word := fun i =>
      let block := keyBlock k0 k1 (i / 8)
      (block.word (i % 8 * 2)).toUInt64 ||| ((block.word (i % 8 * 2 + 1)).toUInt64 <<< 32) }

def wordCount : Nat := 1 <<< 64

def next (s : Noise) : Nat × Noise := ((s.word s.used).toNat, { s with used := s.used + 1 })

/-- A number below `n`, which is not zero, and the sequence after it: the share of a word in all
words, scaled to `n`. Where that rounds a share down too far, the next word may round it up. -/
def below (s : Noise) (n : Nat) : Nat × Noise :=
  let (x, s) := s.next
  let share := x * n / wordCount
  let rest := x * n % wordCount
  if wordCount - n < rest then
    let (y, s) := s.next
    if wordCount ≤ rest + y * n / wordCount then (share + 1, s) else (share, s)
  else (share, s)

theorem next_lt (s : Noise) : s.next.1 < wordCount := (s.word s.used).toNat_lt

theorem below_lt (s : Noise) {n : Nat} (h : 0 < n) : (s.below n).1 < n := by
  have hm : (s.next.1 + 1) * n ≤ wordCount * n := Nat.mul_le_mul_right n s.next_lt
  have hd := Nat.div_add_mod (s.next.1 * n) wordCount
  rw [Nat.add_mul] at hm
  have hshare : s.next.1 * n / wordCount < n := by
    apply Nat.div_lt_of_lt_mul
    omega
  simp only [below]
  split
  · split
    · rename_i hrest _
      generalize s.next.1 * n / wordCount = q at *
      generalize s.next.1 * n % wordCount = r at *
      simp only [wordCount] at *
      omega
    · exact hshare
  · exact hshare

end Noise
end ResilientHttp
