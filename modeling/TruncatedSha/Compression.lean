import TruncatedSha.RoundConstant
import TruncatedSha.State
import TruncatedSha.Block

/-!
# The compression function

Of the eighty schedule words only sixteen are alive at a time. Word `t` lives in slot `t % 16` of a
window, where it takes the place of word `t - 16`.

There are two ways of computing with it: in little code, with a loop that reassigns all eight working
variables in each round, or quickly, with the rounds spelled out and the variables left standing. In
both, `progress` gives the window and the variables after so many rounds, and `compress` adds the
variables after eighty to the input state.
-/
namespace TruncatedSha

/-! ## The window -/

abbrev Window := Vector UInt64 16

namespace Window

/-- The first sixteen schedule words are the block itself. -/
def load (block : Block) : Window := Vector.ofFn block.word

/-- The word in the slot of round `t`. -/
def slot (window : Window) (t : Nat) : UInt64 := window[t % 16]

/-- Schedule word `t`, from a window that holds the sixteen words before it. -/
def next (window : Window) (t : Nat) : UInt64 :=
  window.slot (t - 16) + Word.smallSigma1 (window.slot (t - 2)) + window.slot (t - 7) +
    Word.smallSigma0 (window.slot (t - 15))

/-- Brings word `t` into the window; the first sixteen are there from the start. -/
def advance (window : Window) (t : Nat) : Window :=
  if 16 ≤ t then window.set (t % 16) (window.next t) else window

end Window

/-! ## Moving variables -/

/-- What is alive between two rounds. -/
structure Progress where
  window : Window
  working : State

namespace Shifting

/-- One round: every variable takes the place of the next. -/
def round (constant word : UInt64) (v : State) : State :=
  let t1 := v.h + Word.bigSigma1 v.e + Word.choose v.e v.f v.g + constant + word
  let t2 := Word.bigSigma0 v.a + Word.majority v.a v.b v.c
  ⟨t1 + t2, v.a, v.b, v.c, v.d + t1, v.e, v.f, v.g⟩

def step (t : Nat) (p : Progress) : Progress :=
  let window := p.window.advance t
  ⟨window, round (roundConstant t) (window.slot t) p.working⟩

def progress (block : Block) (s : State) : (rounds : Nat) → Progress
  | 0 => ⟨.load block, s⟩
  | t + 1 => step t (progress block s t)

def compress (s : State) (block : Block) : State := s.add (progress block s 80).working

end Shifting

/-! ## Standing variables

No working variable moves. A round changes two of them where they stand, and the next round is
given the eight in an order rotated by one, so that eight rounds restore the first order. Ten
such groups make up the eighty rounds.
-/

namespace Rotating

/-- One round, for the variables in the roles `a` to `h`. The first component replaces `d`, which
is the next round's `e`; the second replaces `h`, which is the next round's `a`. -/
def round (constant word a b c d e f g h : UInt64) : UInt64 × UInt64 :=
  let h := h + Word.bigSigma1 e + Word.choose e f g + constant + word
  let d := d + h
  let h := h + Word.bigSigma0 a + Word.majority a b c
  (d, h)

/-- Rounds `t` to `t + 7`. -/
def eightRounds (t : Nat) (p : Progress) : Progress :=
  let ⟨w, a, b, c, d, e, f, g, h⟩ := p
  let w := w.advance t
  let (d, h) := round (roundConstant t) (w.slot t) a b c d e f g h
  let w := w.advance (t + 1)
  let (c, g) := round (roundConstant (t + 1)) (w.slot (t + 1)) h a b c d e f g
  let w := w.advance (t + 2)
  let (b, f) := round (roundConstant (t + 2)) (w.slot (t + 2)) g h a b c d e f
  let w := w.advance (t + 3)
  let (a, e) := round (roundConstant (t + 3)) (w.slot (t + 3)) f g h a b c d e
  let w := w.advance (t + 4)
  let (h, d) := round (roundConstant (t + 4)) (w.slot (t + 4)) e f g h a b c d
  let w := w.advance (t + 5)
  let (g, c) := round (roundConstant (t + 5)) (w.slot (t + 5)) d e f g h a b c
  let w := w.advance (t + 6)
  let (f, b) := round (roundConstant (t + 6)) (w.slot (t + 6)) c d e f g h a b
  let w := w.advance (t + 7)
  let (e, a) := round (roundConstant (t + 7)) (w.slot (t + 7)) b c d e f g h a
  ⟨w, a, b, c, d, e, f, g, h⟩

def progress (block : Block) (s : State) : (groups : Nat) → Progress
  | 0 => ⟨.load block, s⟩
  | r + 1 => eightRounds (8 * r) (progress block s r)

def compress (s : State) (block : Block) : State := s.add (progress block s 10).working

end Rotating

/-! ## Either way -/

inductive Strategy where
  | unrolled
  | looped
  deriving DecidableEq, Repr

def Strategy.compress : Strategy → State → Block → State
  | .unrolled => Rotating.compress
  | .looped => Shifting.compress

/-- The states after each of some blocks, starting from `s`. -/
def Strategy.states (how : Strategy) (s : State) : List Block → List State
  | [] => []
  | block :: rest =>
    let s := how.compress s block
    s :: how.states s rest

end TruncatedSha
