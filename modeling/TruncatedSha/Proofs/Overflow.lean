import TruncatedSha.Proofs.Session.Refinement
import TruncatedSha.Proofs.Stream.InPlace

/-!
# Messages that are too long

A context refuses data exactly if there would be more bytes than the length field can count the bits
of, and is then the context that it was. So no context that a session arrives at has a length that
the field cannot hold.
-/
namespace TruncatedSha

theorem Context.absorb_eq_error_iff (how : Strategy) (c : Context) (data : Bytes) :
    c.absorb how data = .error .messageTooLong ↔
      data ≠ [] ∧ 2 ^ 125 - 1 < c.count.toNat + data.length := by
  unfold Context.absorb
  -- No data at all is always taken, also by a context that is past the limit.
  rcases Stream.absorb_cases how.compress c data with ⟨room, t, absorbed, -⟩ | ⟨above, refused⟩
  · rw [absorbed]
    constructor
    · intro wrong
      cases wrong
    · rintro ⟨present, above⟩
      rcases room with rfl | room
      · exact absurd rfl present
      · omega
  · exact ⟨fun _ => above, fun _ => refused⟩

/-- What the last block says of the length is the length. -/
theorem Context.exists_close_eq (how : Strategy) {c : Context}
    (bounded : c.count.toNat ≤ 2 ^ 125 - 1) :
    ∃ chain last, Stream.close how.compress c = how.compress chain last ∧
      bigEndianValue (last.toList.drop 112) = 8 * c.count.toNat := by
  obtain ⟨chain, block, closed⟩ := Stream.exists_close_eq_stamp how.compress c
  refine ⟨chain, _, closed, ?_⟩
  -- Up to the limit, eight times the count fits into the sixteen bytes of the field.
  rw [Stream.drop_stamp, Count.toNat_bitLength bounded]
  apply bigEndianValue_bigEndian
  omega

/-- Data is refused exactly if it is there and the bytes in all are more than `2 ^ 125 - 1`, and it
leaves everything as it was. Of several pieces the first that goes over this limit is refused, behind
those before it. Within the limit, the length in bits is written without losing a bit. -/
theorem absorb_overflow_exact (how : Strategy) :
    (∀ (c : Context) (data : Bytes),
      (c.absorb how data = .error .messageTooLong ↔
        data ≠ [] ∧ 2 ^ 125 - 1 < c.count.toNat + data.length) ∧
      (∀ error, c.absorb how data = .error error →
        (InPlace.absorb how.compress data).run c = .error error c) ∧
      ∀ t, c.absorb how data = .ok t → (InPlace.absorb how.compress data).run c = .ok () t) ∧
    (∀ (c : Context) (pieces : List Bytes), c.count.toNat ≤ 2 ^ 125 - 1 →
      ((∃ t, (InPlace.absorbAll how.compress pieces).run c = .error .messageTooLong t) ↔
        2 ^ 125 - 1 < c.count.toNat + pieces.flatten.length) ∧
      ∀ t, (InPlace.absorbAll how.compress pieces).run c = .error .messageTooLong t →
        ∃ front piece rest, pieces = front ++ piece :: rest ∧ piece ≠ [] ∧
          c.count.toNat + front.flatten.length ≤ 2 ^ 125 - 1 ∧
          2 ^ 125 - 1 < c.count.toNat + front.flatten.length + piece.length ∧
          (InPlace.absorbAll how.compress front).run c = .ok () t ∧
          (InPlace.absorb how.compress piece).run t = .error .messageTooLong t) ∧
    ∀ commands : List (String × Session.Command),
      (∀ input ∈ commands, input.2.restores = false) →
      ∀ name c, (Session.after how .empty commands).get? name = some c →
        c.count.bitLength.toNat = 8 * c.count.toNat ∧
        ∃ chain last, Stream.close how.compress c = how.compress chain last ∧
          bigEndianValue (last.toList.drop 112) = 8 * c.count.toNat := by
  refine ⟨?_, ?_, ?_⟩
  · intro c data
    have changed := InPlace.run_absorb how.compress data c
    refine ⟨c.absorb_eq_error_iff how data, ?_, ?_⟩
    · intro error refused
      rw [changed, ← Context.absorb, refused]
    · intro t absorbed
      rw [changed, ← Context.absorb, absorbed]
  · intro c pieces bounded
    refine ⟨InPlace.exists_run_absorbAll_eq_error_iff how.compress bounded pieces, ?_⟩
    intro t failed
    exact InPlace.split_of_run_absorbAll_eq_error how.compress bounded pieces failed
  · intro commands inside name c found
    -- A context of a session has a message, and no message is longer than the limit.
    obtain ⟨t, described⟩ := Session.exists_describes how commands inside found
    have bounded : c.count.toNat ≤ 2 ^ 125 - 1 := by
      rw [described.count]
      exact t.bounded
    exact ⟨Count.toNat_bitLength bounded, Context.exists_close_eq how bounded⟩

/-- There is room for one byte. A byte, nothing and another byte are one too many, and the last of
them is refused; a byte that a session has taken in is counted in eight bits. -/
theorem absorb_overflow_exact_at_limit :
    let almost : Context := ⟨.zero, .replicate 128 0xff, Count.longest - 1⟩
    let commands : List (String × Session.Command) := [("a", .createFrom [1])]
    almost.absorb .unrolled [1, 2] = .error .messageTooLong ∧
      (InPlace.absorb Rotating.compress [1, 2]).run almost = .error .messageTooLong almost ∧
      (∃ t, (InPlace.absorbAll Rotating.compress [[1], [], [2]]).run almost =
        .error .messageTooLong t) ∧
      ∀ name c, (Session.after .unrolled .empty commands).get? name = some c →
        c.count.bitLength.toNat = 8 * c.count.toNat := by
  intro almost commands
  have count : almost.count.toNat = 2 ^ 125 - 2 := by decide
  obtain ⟨single, several, reached⟩ := absorb_overflow_exact .unrolled
  obtain ⟨refuses, keeps, -⟩ := single almost [1, 2]
  have refused := refuses.mpr ⟨by simp, by rw [count]; decide⟩
  have exceeds := (several almost [[1], [], [2]] (by rw [count]; decide)).1
  have inside : ∀ input ∈ commands, input.2.restores = false := by decide
  refine ⟨refused, keeps _ refused, exceeds.mpr (by rw [count]; decide), ?_⟩
  intro name c found
  exact (reached commands inside name c found).1

end TruncatedSha
