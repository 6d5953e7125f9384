import TruncatedSha.Compression
import TruncatedSha.Proofs.BigEndian
import TruncatedSha.Proofs.Compression.Conformance

/-!
# The schedule loses nothing

No update of the window reads the slot that it overwrites for anything but the word that goes into
the sum, so that every update can be taken back. At each round the sixteen words of the window
therefore stand for the whole block.
-/
namespace TruncatedSha

namespace Window

theorem slot_lt (t : Nat) : t % 16 < 16 := Nat.mod_lt t (by decide)

/-- What the recurrence adds to word `t - 16` to make word `t`. -/
def increment (window : Window) (t : Nat) : UInt64 :=
  Word.smallSigma1 (window.slot (t - 2)) + window.slot (t - 7) +
    Word.smallSigma0 (window.slot (t - 15))

/-- Puts word `t - 16` back in the place of word `t`. -/
def retreat (window : Window) (t : Nat) : Window :=
  if 16 ≤ t then window.set (t % 16) (window.slot t - window.increment t) (slot_lt t) else window

/-- The block whose words are in the window, each in eight bytes. -/
def unload (window : Window) : Block :=
  ⟨(window.toList.flatMap fun word => bigEndian 8 word.toNat).toArray, by simp [List.map_const']⟩

theorem toList_unload (window : Window) :
    window.unload.toList = window.toList.flatMap fun word => bigEndian 8 word.toNat := rfl

/-- The numbers of the words that are brought into a window, up to word `t`. -/
def brought (t : Nat) : List Nat := List.range' 16 (t - 15)

/-- The window over a block once word `t` is in it. -/
def reached (block : Block) (t : Nat) : Window := (brought t).foldl advance (load block)

/-- The block that a window with word `t` in it has come from. -/
def recover (window : Window) (t : Nat) : Block :=
  ((brought t).foldr (fun t window => window.retreat t) window).unload

/-! ## One update -/

theorem next_eq_add_increment (window : Window) {t : Nat} (late : 16 ≤ t) :
    window.next t = window.slot t + window.increment t := by
  have own : window.slot (t - 16) = window.slot t := by
    have place : (t - 16) % 16 = t % 16 := by omega
    simp only [slot, place]
  rw [next, own, increment]
  ac_rfl

/-- The three other words of the sum are in slots of their own. -/
theorem increment_set (window : Window) {t : Nat} (late : 16 ≤ t) (word : UInt64) :
    increment (window.set (t % 16) word (slot_lt t)) t = window.increment t := by
  have second := slot_set_of_ne window t (t - 15) word (by omega)
  have tenth := slot_set_of_ne window t (t - 7) word (by omega)
  have newest := slot_set_of_ne window t (t - 2) word (by omega)
  rw [increment, second, tenth, newest, increment]

theorem set_slot (window : Window) (t : Nat) (word : UInt64) :
    Vector.set (window.set (t % 16) word (slot_lt t)) (t % 16) (window.slot t) (slot_lt t) =
      window := by
  rw [Vector.set_set]
  exact Vector.set_getElem_self _

theorem retreat_advance (window : Window) (t : Nat) : (window.advance t).retreat t = window := by
  by_cases late : 16 ≤ t
  · -- The sum has the overwritten word in it once, so taking off the others gives it back.
    have word : window.next t - window.increment t = window.slot t := by
      rw [window.next_eq_add_increment late, UInt64.add_sub_cancel]
    rw [advance, if_pos late, retreat, if_pos late, slot_set_self, increment_set window late, word]
    exact window.set_slot t _
  · rw [advance, if_neg late, retreat, if_neg late]

theorem advance_retreat (window : Window) (t : Nat) : (window.retreat t).advance t = window := by
  by_cases late : 16 ≤ t
  · rw [retreat, if_pos late, advance, if_pos late, next_eq_add_increment _ late, slot_set_self,
      increment_set window late, UInt64.sub_add_cancel]
    exact window.set_slot t _
  · rw [retreat, if_neg late, advance, if_neg late]

/-! ## The words of a block -/

/-- Pieces of one length, laid one behind the other, are found where they were put. -/
theorem take_drop_flatMap {α β : Type} {f : α → List β} {width : Nat}
    (even : ∀ a, (f a).length = width) (items : List α) (i : Nat) (inside : i < items.length) :
    ((items.flatMap f).drop (width * i)).take width = f items[i] := by
  induction items generalizing i with
  | nil => simp at inside
  | cons a rest ih =>
    rw [List.flatMap_cons]
    cases i with
    | zero => exact List.take_left' (even a)
    | succ i =>
      have next : i < rest.length := by simpa using inside
      -- The first piece has the width of them all, so the one sought is one index nearer behind it.
      have place : width * (i + 1) = (f a).length + width * i := by
        rw [even, Nat.mul_succ, Nat.add_comm]
      rw [place, ← List.drop_drop, List.drop_left, ih i next, List.getElem_cons_succ]

theorem bytes_unload (window : Window) (i : Nat) (inside : i < 16) :
    (window.unload.toList.drop (8 * i)).take 8 = bigEndian 8 window[i].toNat := by
  have within : i < window.toList.length := by simpa using inside
  have eight (word : UInt64) : (bigEndian 8 word.toNat).length = 8 := length_bigEndian 8 word.toNat
  rw [toList_unload, take_drop_flatMap eight window.toList i within, Vector.getElem_toList]

theorem load_unload (window : Window) : load window.unload = window := by
  apply Vector.ext
  intro i inside
  apply UInt64.toNat_inj.mp
  rw [load, Vector.getElem_ofFn, Block.toNat_word, bytes_unload window i inside,
    bigEndianValue_bigEndian 8 _ window[i].toNat_lt]

/-- The words of a block spell it out again. -/
theorem bytes_unload_load (block : Block) (i : Nat) (inside : i < 16) :
    ((load block).unload.toList.drop (8 * i)).take 8 = (block.toList.drop (8 * i)).take 8 := by
  have eight : ((block.toList.drop (8 * i)).take 8).length = 8 := by
    rw [List.length_take, List.length_drop, Vector.length_toList]
    omega
  have spelled := bigEndian_bigEndianValue ((block.toList.drop (8 * i)).take 8)
  rw [eight, ← Block.toNat_word block ⟨i, inside⟩] at spelled
  rw [bytes_unload _ i inside, load, Vector.getElem_ofFn, spelled]

theorem unload_load (block : Block) : (load block).unload = block := by
  apply Vector.ext
  intro j inside
  -- Byte `j` stands in the word before which there are `j / 8` others.
  have same := congrArg (·[j % 8]?) (bytes_unload_load block (j / 8) (by omega))
  have place : 8 * (j / 8) + j % 8 = j := Nat.div_add_mod j 8
  have low : j % 8 < 8 := Nat.mod_lt j (by decide)
  simpa [List.getElem?_take, low, place, inside] using same

/-! ## All updates -/

theorem foldr_retreat_foldl_advance (words : List Nat) (window : Window) :
    words.foldr (fun t window => window.retreat t) (words.foldl advance window) = window := by
  induction words generalizing window with
  | nil => rfl
  | cons t rest ih => rw [List.foldl_cons, List.foldr_cons, ih, retreat_advance]

theorem foldl_advance_foldr_retreat (words : List Nat) (window : Window) :
    words.foldl advance (words.foldr (fun t window => window.retreat t) window) = window := by
  induction words with
  | nil => rfl
  | cons t rest ih => rw [List.foldr_cons, List.foldl_cons, advance_retreat, ih]

theorem recover_reached (block : Block) (t : Nat) : (reached block t).recover t = block := by
  rw [recover, reached, foldr_retreat_foldl_advance, unload_load]

theorem reached_recover (window : Window) (t : Nat) : reached (window.recover t) t = window := by
  rw [reached, recover, load_unload, foldl_advance_foldr_retreat]

/-- The next word comes into the window, unless it is one of the first sixteen. -/
theorem reached_succ (block : Block) (t : Nat) :
    reached block (t + 1) = (reached block t).advance (t + 1) := by
  by_cases late : 15 ≤ t
  · have count : t + 1 - 15 = t - 15 + 1 := by omega
    have last : 16 + 1 * (t - 15) = t + 1 := by omega
    rw [reached, brought, count, List.range'_concat, last, List.foldl_append]
    rfl
  · have before : t - 15 = 0 := by omega
    have after : t + 1 - 15 = 0 := by omega
    rw [advance, if_neg (by omega), reached, reached, brought, brought, before, after]

end Window

namespace Shifting

/-- The rounds go through these windows, whatever state they work on. -/
theorem window_progress (block : Block) (s : State) (t : Nat) :
    (progress block s (t + 1)).window = Window.reached block t := by
  induction t with
  | zero => rfl
  | succ t ih => rw [progress, step, ih, Window.reached_succ]

end Shifting

/-- At every round the window stands for the block. A block is its sixteen words, every update can be
taken back from the window that it leaves, and so distinct blocks are never in one window. -/
theorem windows_determine_block :
    (∀ block, (Window.load block).unload = block) ∧
    (∀ window, Window.load (Window.unload window) = window) ∧
    (∀ t window, (Window.advance window t).retreat t = window ∧
      (Window.retreat window t).advance t = window) ∧
    ∀ t,
      (∀ block s, (Shifting.progress block s (t + 1)).window = Window.reached block t) ∧
      (∀ block, (Window.reached block t).recover t = block) ∧
      (∀ window, Window.reached (Window.recover window t) t = window) ∧
      ∀ block other, block ≠ other → Window.reached block t ≠ Window.reached other t := by
  refine ⟨Window.unload_load, Window.load_unload, ?_, ?_⟩
  · intro t window
    exact ⟨window.retreat_advance t, window.advance_retreat t⟩
  · intro t
    have recovered (block : Block) := Window.recover_reached block t
    refine ⟨fun block s => Shifting.window_progress block s t, recovered,
      fun window => window.reached_recover t, ?_⟩
    intro block other distinct same
    apply distinct
    rw [← recovered block, same, recovered other]

end TruncatedSha
