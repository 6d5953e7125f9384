import Mathlib.Logic.Relation
import TruncatedSha.Reader
import TruncatedSha.Proofs.Context

/-!
# Reading to the end

However a reader interleaves data and interruptions, a context takes in the portions that fit, up to
the first that does not, and is otherwise told how the reader ends. So what reading comes to depends
on the bytes that the reader holds and on the failure at their end. No other cut into reads, and no
interruption, makes a difference.
-/
namespace TruncatedSha.Reader

/-! ## What a reader delivers -/

/-- All portions up to the end of the input or the first failure. -/
def delivered : List Read → List Bytes
  | [] => []
  | .interrupted :: rest => delivered rest
  | .failed _ :: _ => []
  | .data bytes :: rest => if bytes.isEmpty then [] else portions bytes ++ delivered rest

/-- How the reading ends when all portions have been taken. -/
def ending : List Read → Ending
  | [] => .complete
  | .interrupted :: rest => ending rest
  | .failed reason :: _ => .failed reason
  | .data bytes :: rest => if bytes.isEmpty then .complete else ending rest

/-- The pieces in front of the first that is too long for what the others have left of the room. -/
def fitting (room : Nat) : List Bytes → List Bytes
  | [] => []
  | piece :: rest =>
    if piece.length ≤ room then piece :: fitting (room - piece.length) rest else []

/-! ## One row of portions -/

/-- Goes on with a transfer, unless it has been cut short. -/
def Transfer.andThen (t : Transfer) (next : Context → UInt64 → Transfer) : Transfer :=
  match t.ending with
  | .complete => next t.context t.moved
  | _ => t

theorem Transfer.andThen_assoc (t : Transfer) (first second : Context → UInt64 → Transfer) :
    (t.andThen first).andThen second = t.andThen fun c moved => (first c moved).andThen second := by
  obtain ⟨c, moved, ending⟩ := t
  cases ending <;> rfl

theorem takeIn_append (how : Strategy) (c : Context) (moved : UInt64) (first second : List Bytes) :
    takeIn how c moved (first ++ second) =
      (takeIn how c moved first).andThen fun c moved => takeIn how c moved second := by
  induction first generalizing c moved with
  | nil => rfl
  | cons piece rest ih =>
    rw [List.cons_append, takeIn, takeIn]
    cases c.absorb how piece with
    | ok next => exact ih next _
    | error error => rfl

theorem copyFrom_data (how : Strategy) (c : Context) (moved : UInt64) {bytes : Bytes}
    (present : ¬ bytes.isEmpty) (rest : List Read) :
    copyFrom how c moved (.data bytes :: rest) =
      (takeIn how c moved (portions bytes)).andThen fun c moved => copyFrom how c moved rest := by
  rw [copyFrom, if_neg present]
  cases takeIn how c moved (portions bytes) with
  | mk c moved ending => cases ending <;> rfl

/-- Interruptions are passed over, and nothing is read behind the end. -/
theorem copyFrom_eq (how : Strategy) (c : Context) (moved : UInt64) (reads : List Read) :
    copyFrom how c moved reads =
      (takeIn how c moved (delivered reads)).andThen fun c moved => ⟨c, moved, ending reads⟩ := by
  induction reads generalizing c moved with
  | nil => rfl
  | cons read rest ih =>
    cases read with
    | interrupted => exact ih c moved
    | failed reason => rfl
    | data bytes =>
      rw [delivered, ending]
      split
      next empty => rw [copyFrom, if_pos empty]; rfl
      next present =>
        -- The portions of this piece come first, and copying goes on behind them.
        rw [copyFrom_data how c moved present, takeIn_append, Transfer.andThen_assoc]
        simp only [ih]

/-! ## Contents and failure, read by read -/

theorem contents_cons (read : Read) (rest : List Read) :
    contents (read :: rest) = if read.ends then [] else read.bytes ++ contents rest := by
  unfold contents
  cases ends : read.ends <;> simp [ends]

theorem failure_cons (read : Read) (rest : List Read) :
    failure (read :: rest) = if read.ends then read.failure else failure rest := by
  unfold failure
  cases ends : read.ends <;> simp [ends]

theorem behind_cons (read : Read) (more : List Read) :
    behind (read :: more) = if read.ends then more else behind more := by
  unfold behind
  cases ends : read.ends <;> simp [ends]

theorem rest_eq (reads : List Read) : rest reads = behind reads := by
  induction reads with
  | nil => rfl
  | cons read more ih =>
    rw [behind_cons]
    cases read with
    | interrupted => exact ih
    | failed reason => rfl
    | data bytes =>
      rw [rest, Read.ends_data, ih]

theorem flatten_portions (bytes : Bytes) : (portions bytes).flatten = bytes := by
  fun_induction portions bytes with
  | case1 => rfl
  | case2 bytes present ih => rw [List.flatten_cons, ih, List.take_append_drop]

theorem flatten_delivered (reads : List Read) : (delivered reads).flatten = contents reads := by
  induction reads with
  | nil => rfl
  | cons read rest ih =>
    rw [contents_cons]
    cases read with
    | interrupted => exact ih
    | failed reason => rfl
    | data bytes =>
      rw [delivered, Read.ends_data]
      split
      next => rfl
      next => rw [List.flatten_append, flatten_portions, ih, Read.bytes]

theorem ending_eq (reads : List Read) :
    ending reads = (failure reads).elim .complete .failed := by
  induction reads with
  | nil => rfl
  | cons read rest ih =>
    rw [failure_cons]
    cases read with
    | interrupted => exact ih
    | failed reason => rfl
    | data bytes =>
      rw [ending, Read.ends_data]
      split
      next => rfl
      next => exact ih

/-! ## The portions that fit -/

theorem fitting_eq_self_iff (room : Nat) (pieces : List Bytes) :
    fitting room pieces = pieces ↔ pieces.flatten.length ≤ room := by
  induction pieces generalizing room with
  | nil => simp [fitting]
  | cons piece rest ih =>
    rw [fitting, List.flatten_cons, List.length_append]
    split
    next fits =>
      simp only [List.cons.injEq, true_and, ih]
      omega
    next long =>
      constructor
      · intro wrong
        cases wrong
      · omega

/-- What is taken is the longest front part for which there is room. -/
theorem takeIn_takes (how : Strategy) (c : Context) (moved : UInt64) (pieces : List Bytes) :
    ∃ t, Stream.Takes how.compress c (fitting c.count.left pieces).flatten t ∧
      takeIn how c moved pieces =
        ⟨t, moved + .ofNat (fitting c.count.left pieces).flatten.length,
          if fitting c.count.left pieces = pieces then .complete
          else .overflow .messageTooLong⟩ := by
  induction pieces generalizing c moved with
  | nil => exact ⟨c, .nil how.compress c, by simp [takeIn, fitting]⟩
  | cons piece rest ih =>
    rw [takeIn, fitting]
    by_cases fits : piece.length ≤ c.count.left
    · -- The others are taken behind this piece, which has used up some of the room.
      obtain ⟨next, absorbed, takenPiece⟩ := Stream.absorb_of_fits how.compress c piece fits
      obtain ⟨t, taken, others⟩ := ih next (moved + .ofNat piece.length)
      rw [takenPiece.left] at taken others
      refine ⟨t, ?_, ?_⟩
      · rw [if_pos fits]
        exact takenPiece.append taken
      · rw [Context.absorb, absorbed]
        dsimp only
        rw [others, if_pos fits]
        simp [UInt64.add_assoc]
    · have refused := Stream.absorb_refuses how.compress c piece (Nat.lt_of_not_le fits)
      refine ⟨c, ?_, ?_⟩
      · rw [if_neg fits]
        exact .nil how.compress c
      · rw [Context.absorb, refused, if_neg fits]
        simp

theorem fitting_append (room : Nat) (first second : List Bytes) :
    fitting room (first ++ second) =
      if first.flatten.length ≤ room then
        first ++ fitting (room - first.flatten.length) second
      else fitting room first := by
  induction first generalizing room with
  | nil => simp
  | cons piece rest ih =>
    rw [List.cons_append, fitting, ih, fitting, List.flatten_cons, List.length_append]
    by_cases fits : piece.length ≤ room
    · -- What the others have to fit into is the room behind the piece.
      have behind : rest.flatten.length ≤ room - piece.length ↔
          piece.length + rest.flatten.length ≤ room := by omega
      simp only [if_pos fits, behind, Nat.sub_sub]
      split <;> rfl
    · rw [if_neg fits, if_neg fits, if_neg (by omega)]

/-- Of a piece that is too long, whole portions are taken while they fit. -/
theorem flatten_fitting_portions {bytes : Bytes} {room : Nat} (long : room < bytes.length) :
    (fitting room (portions bytes)).flatten = bytes.take (room / 8192 * 8192) := by
  fun_induction portions bytes generalizing room with
  | case1 => simp at long
  | case2 bytes present ih =>
    -- The induction takes off one portion, and as much of the room.
    have size : (bytes.take portion).length = min 8192 bytes.length := List.length_take
    rw [fitting, size]
    by_cases whole : 8192 ≤ room
    · have rest : room - 8192 < (bytes.drop portion).length := by
        rw [List.length_drop, portion]
        omega
      have all : room / 8192 * 8192 = portion + (room - 8192) / 8192 * 8192 := by
        rw [portion]
        omega
      rw [Nat.min_eq_left (by omega), if_pos whole, List.flatten_cons, ih rest, all, List.take_add]
    · -- Not even the first portion fits.
      rw [if_neg (by omega), Nat.div_eq_of_lt (by omega)]
      simp

theorem flatten_fitting_delivered (room : Nat) (reads : List Read) :
    (fitting room (delivered reads)).flatten = (contents reads).take (taken room reads) := by
  induction reads generalizing room with
  | nil => rfl
  | cons read rest ih =>
    rw [contents_cons]
    cases read with
    | interrupted => exact ih room
    | failed reason => rfl
    | data bytes =>
      rw [delivered, taken, Read.ends_data, Read.bytes]
      split
      next => rfl
      next =>
        rw [fitting_append, flatten_portions]
        split
        -- There is room for all of this piece, and the others use what is left of it.
        next fits => rw [List.flatten_append, flatten_portions, ih, List.take_length_add_append]
        next long =>
          -- Copying ends within this piece, so nothing behind it matters.
          have below : room / 8192 * 8192 ≤ bytes.length := by omega
          rw [flatten_fitting_portions (Nat.lt_of_not_le long), List.take_append_of_le_length below]

theorem take_taken_of_fits {room : Nat} {reads : List Read}
    (fits : (contents reads).length ≤ room) :
    (contents reads).take (taken room reads) = contents reads := by
  rw [← flatten_delivered, ← fitting_eq_self_iff] at fits
  rw [← flatten_fitting_delivered, fits, flatten_delivered]

/-- A whole reading, from what there is to read. -/
theorem copy_takes (how : Strategy) (c : Context) (reads : List Read) :
    ∃ t, Stream.Takes how.compress c ((contents reads).take (taken c.count.left reads)) t ∧
      copy how c reads =
        ⟨t, .ofNat ((contents reads).take (taken c.count.left reads)).length,
          if (contents reads).length ≤ c.count.left then (failure reads).elim .complete .failed
          else .overflow .messageTooLong⟩ := by
  obtain ⟨t, took, moved⟩ := takeIn_takes how c 0 (delivered reads)
  rw [flatten_fitting_delivered] at took moved
  refine ⟨t, took, ?_⟩
  have whole : fitting c.count.left (delivered reads) = delivered reads ↔
      (contents reads).length ≤ c.count.left := by
    rw [fitting_eq_self_iff, flatten_delivered]
  rw [copy, copyFrom_eq, moved, UInt64.zero_add, ← ending_eq]
  simp only [whole]
  split <;> rfl

/-! ## Digests of readers -/

/-- The digest is that of the contents, unless these are too long or the reader fails. -/
theorem hash_eq (how : Strategy) (reads : List Read) :
    hash how reads =
      match TruncatedSha.hash how (contents reads) with
      | .error error => .error (.overflow error)
      | .ok digest => (failure reads).elim (.ok digest) fun reason => .error (.failed reason) := by
  obtain ⟨t, took, copied⟩ := copy_takes how Context.init reads
  rw [hash, copied, TruncatedSha.hash]
  by_cases fits : (contents reads).length ≤ Context.init.count.left
  · -- All of it is taken, as it would be in one piece, and the end decides.
    obtain ⟨once, absorbed, tookOnce⟩ := Stream.absorb_of_fits how.compress Context.init _ fits
    rw [take_taken_of_fits fits] at took
    have same := Context.finish_eq_of_agree how (took.agree tookOnce)
    rw [if_pos fits, Context.absorb, absorbed, Except.map, ← same]
    cases failure reads <;> rfl
  · -- Some portion is refused, and so is the whole.
    have refused := Stream.absorb_refuses how.compress Context.init _ (Nat.lt_of_not_le fits)
    rw [if_neg fits, Context.absorb, refused]
    rfl

/-! ## Reshaping -/

end TruncatedSha.Reader
