import Mathlib.Data.List.Basic
import Mathlib.Data.List.Induction
import TruncatedSha.Proofs.Stream.Trace

/-!
# Collisions come from the compression function

Two messages with one digest are followed back from their ends, call by call. Because no message's
blocks are the last blocks of another message, the two runs differ before either of them is over,
and where they first differ the compression function collides.
-/
namespace TruncatedSha

namespace State

/-- The digest is the first four words, and nothing less. -/
theorem words_take_of_digest_eq {s t : State} (same : s.digest = t.digest) :
    s.words.take 4 = t.words.take 4 := by
  have spelled : [s.a, s.b, s.c, s.d].flatMap (fun word => bigEndian 8 word.toNat) =
      [t.a, t.b, t.c, t.d].flatMap (fun word => bigEndian 8 word.toNat) :=
    congrArg Vector.toList same
  simp only [List.flatMap_cons, List.flatMap_nil, List.append_nil] at spelled
  have word (x y : UInt64) (alike : bigEndian 8 x.toNat = bigEndian 8 y.toNat) : x = y :=
    UInt64.toNat_inj.mp (bigEndian_inj x.toNat_lt y.toNat_lt alike)
  -- Every word takes eight bytes, so the front ones can be taken off one by one.
  obtain ⟨a, spelled⟩ := List.append_inj spelled (by simp)
  obtain ⟨b, spelled⟩ := List.append_inj spelled (by simp)
  obtain ⟨c, d⟩ := List.append_inj spelled (by simp)
  simp only [words, List.take_succ_cons, List.take_zero, word _ _ a, word _ _ b, word _ _ c,
    word _ _ d]

end State

namespace Stream

variable {σ : Type} {step : σ → Block → σ}

theorem calls_concat (step : σ → Block → σ) (chain : σ) (blocks : List Block) (last : Block) :
    calls step chain (blocks ++ [last]) =
      calls step chain blocks ++ [(blocks.foldl step chain, last)] := by
  induction blocks generalizing chain with
  | nil => rfl
  | cons block rest ih => rw [List.cons_append, calls, ih, calls, List.foldl_cons, List.cons_append]

theorem reverse_calls_concat (step : σ → Block → σ) (chain : σ) (blocks : List Block)
    (last : Block) :
    (calls step chain (blocks ++ [last])).reverse =
      (blocks.foldl step chain, last) :: (calls step chain blocks).reverse := by
  rw [calls_concat, List.reverse_append, List.reverse_singleton, List.singleton_append]

/-- Neither list is the end of the other, so that a walk back along both finds a difference. -/
def Apart (first second : List Block) : Prop := ¬ first <:+ second ∧ ¬ second <:+ first

theorem Apart.of_concat {first second : List Block} {last : Block}
    (apart : Apart (first ++ [last]) (second ++ [last])) : Apart first second := by
  constructor
  · rintro ⟨before, rfl⟩
    exact apart.1 ⟨before, by simp⟩
  · rintro ⟨before, rfl⟩
    exact apart.2 ⟨before, by simp⟩

/-- One step back. If the last calls are the same, the runs are still apart without them, and have
met already. -/
private theorem last_calls (step : σ → Block → σ) (chain : σ) {first second : List Block}
    (apart : Apart first second) :
    ∃ front block front' block', first = front ++ [block] ∧ second = front' ++ [block'] ∧
      ((front.foldl step chain, block) ≠ (front'.foldl step chain, block') ∨
        Apart front front' ∧ front.foldl step chain = front'.foldl step chain) := by
  -- Every list ends in the empty one, so neither of these is empty.
  rcases List.eq_nil_or_concat' first with rfl | ⟨front, block, rfl⟩
  · exact absurd List.nil_suffix apart.1
  rcases List.eq_nil_or_concat' second with rfl | ⟨front', block', rfl⟩
  · exact absurd List.nil_suffix apart.2
  refine ⟨front, block, front', block', rfl, rfl, ?_⟩
  by_cases same : (front.foldl step chain, block) = (front'.foldl step chain, block')
  · obtain ⟨meet, rfl⟩ := Prod.mk.inj same
    exact .inr ⟨apart.of_concat, meet⟩
  · exact .inl same

/-- Runs that are apart and meet have made different calls with the same chaining value as result,
equally far from their ends. -/
theorem exists_calls_of_foldl_eq (step : σ → Block → σ) (chain : σ) {first second : List Block}
    (apart : Apart first second) (meet : first.foldl step chain = second.foldl step chain) :
    ∃ (i : Nat) (x y : Call σ), (calls step chain first).reverse[i]? = some x ∧
      (calls step chain second).reverse[i]? = some y ∧ x ≠ y ∧ step x.1 x.2 = step y.1 y.2 := by
  -- The induction takes off last blocks, because it is at their ends that the runs have met.
  induction first using List.reverseRecOn generalizing second with
  | nil => exact absurd List.nil_suffix apart.1
  | append_singleton front block ih =>
    obtain ⟨_, _, front', block', split, rfl, last⟩ := last_calls step chain apart
    obtain ⟨rfl, same⟩ := List.append_inj' split rfl
    obtain rfl := List.singleton_inj.mp same
    rw [reverse_calls_concat, reverse_calls_concat]
    rcases last with differ | ⟨stillApart, before⟩
    · rw [List.foldl_concat, List.foldl_concat] at meet
      exact ⟨0, _, _, rfl, rfl, differ, meet⟩
    · obtain ⟨i, x, y, left, right, differ, alike⟩ := ih stillApart before
      exact ⟨i + 1, x, y, left, right, differ, alike⟩

/-- Runs that are apart and end in one digest collide. -/
theorem collide_of_digest_eq (step : State → Block → State) (chain : State)
    {first second : List Block} (apart : Apart first second)
    (same : (first.foldl step chain).digest = (second.foldl step chain).digest) :
    Collide step (calls step chain first) (calls step chain second) := by
  obtain ⟨front, block, front', block', rfl, rfl, differ | ⟨stillApart, before⟩⟩ :=
    last_calls step chain apart
  · -- Only half of what the last call gives is known to be the same.
    rw [Collide, reverse_calls_concat, reverse_calls_concat]
    rw [List.foldl_concat, List.foldl_concat] at same
    exact ⟨0, _, _, rfl, rfl, differ, .inr ⟨rfl, State.words_take_of_digest_eq same⟩⟩
  · obtain ⟨i, x, y, left, right, differ, alike⟩ :=
      exists_calls_of_foldl_eq step chain stillApart before
    rw [Collide, reverse_calls_concat, reverse_calls_concat]
    exact ⟨i + 1, x, y, left, right, differ, .inl alike⟩

end Stream

/-! ## Messages -/

theorem apart_blocks {first second : Bytes} (firstFits : first.length ≤ 2 ^ 125 - 1)
    (secondFits : second.length ≤ 2 ^ 125 - 1) (distinct : first ≠ second) :
    Stream.Apart (Padding.blocks first) (Padding.blocks second) :=
  ⟨fun ends => distinct (Padding.eq_of_blocks_suffix firstFits secondFits ends),
    fun ends => distinct (Padding.eq_of_blocks_suffix secondFits firstFits ends).symm⟩

theorem traced_eq (step : State → Block → State) (message : Bytes)
    (fits : message.length ≤ 2 ^ 125 - 1) :
    traced step message = .ok ((Padding.blocks message).foldl step .initial,
      Stream.calls step .initial (Padding.blocks message)) := by
  obtain ⟨s, absorbed, taken⟩ := Stream.absorb_takes (Stream.record step)
    (.start (.initial, [])) message (by simpa [Stream.start] using fits)
  rw [traced, absorbed, Except.map, taken.close_start, Stream.foldl_record, List.nil_append]

/-- Hashing is the digest of a traced run. -/
theorem hash_eq_map_traced (how : Strategy) (message : Bytes) :
    hash how message = (traced how.compress message).map fun run => run.1.digest := by
  by_cases fits : message.length ≤ 2 ^ 125 - 1
  · rw [hash_eq_digest how message fits, traced_eq how.compress message fits]
    rfl
  · -- Neither the hash nor the traced run takes the message in.
    have long : Count.left 0 < message.length := by
      rw [Count.left_eq, show (0 : Count).toNat = 0 from rfl]
      omega
    rw [hash, traced, Context.absorb, Stream.absorb_refuses how.compress Context.init message long,
      Stream.absorb_refuses (Stream.record how.compress) (.start (.initial, [])) message long]
    rfl

/-- Traced runs of distinct messages that end in one digest collide. -/
theorem traced_collide (step : State → Block → State) (first second : Bytes)
    (firstFits : first.length ≤ 2 ^ 125 - 1) (secondFits : second.length ≤ 2 ^ 125 - 1) :
    ∃ run run', traced step first = .ok run ∧ traced step second = .ok run' ∧
      (first ≠ second → run.1.digest = run'.1.digest → Stream.Collide step run.2 run'.2) := by
  refine ⟨_, _, traced_eq step first firstFits, traced_eq step second secondFits, ?_⟩
  intro distinct same
  exact Stream.collide_of_digest_eq step .initial (apart_blocks firstFits secondFits distinct) same

/-- The digest of a message is that of its traced run, whatever the strategy. Two messages with one
digest give a collision of the compression function: the runs call it with different inputs, equally
far from their ends, that it does not tell apart. This is so for any chaining function. -/
theorem equal_digests_collide :
    (∀ how message, hash how message =
      (traced how.compress message).map fun run => run.1.digest) ∧
    (∀ (how : Strategy) (first second : Bytes),
      first.length ≤ 2 ^ 125 - 1 → second.length ≤ 2 ^ 125 - 1 →
      first ≠ second → hash how first = hash how second →
      ∃ run run', traced how.compress first = .ok run ∧ traced how.compress second = .ok run' ∧
        Stream.Collide how.compress run.2 run'.2) ∧
    ∀ (step : State → Block → State) (first second : Bytes),
      first.length ≤ 2 ^ 125 - 1 → second.length ≤ 2 ^ 125 - 1 →
      ∃ run run', traced step first = .ok run ∧ traced step second = .ok run' ∧
        (first ≠ second → run.1.digest = run'.1.digest → Stream.Collide step run.2 run'.2) := by
  refine ⟨hash_eq_map_traced, ?_, traced_collide⟩
  intro how first second firstFits secondFits distinct same
  obtain ⟨run, run', left, right, collide⟩ :=
    traced_collide how.compress first second firstFits secondFits
  rw [hash_eq_map_traced, hash_eq_map_traced, left, right] at same
  exact ⟨run, run', left, right, collide distinct (Except.ok.inj same)⟩

/-- A chaining function that ignores its blocks gives all messages one digest. -/
theorem equal_digests_collide_constant :
    ([] : Bytes).length ≤ 2 ^ 125 - 1 ∧ (zeros 200).length ≤ 2 ^ 125 - 1 ∧ [] ≠ zeros 200 ∧
      ∃ run run', traced (fun s _ => s) [] = .ok run ∧
        traced (fun s _ => s) (zeros 200) = .ok run' ∧
        run.1.digest = run'.1.digest ∧ Stream.Collide (fun s _ => s) run.2 run'.2 := by
  have fits : (zeros 200).length ≤ 2 ^ 125 - 1 := by simp
  have distinct : [] ≠ zeros 200 := by decide
  obtain ⟨run, run', left, right, collide⟩ :=
    equal_digests_collide.2.2 (fun s _ => s) [] (zeros 200) (by simp) fits
  -- Both runs end in the state that they begin in.
  have same : run.1.digest = run'.1.digest := by
    rw [traced_eq _ _ (by simp)] at left
    rw [traced_eq _ _ fits] at right
    cases left
    cases right
    rw [List.foldl_fixed, List.foldl_fixed]
  exact ⟨by simp, fits, distinct, run, run', left, right, same, collide distinct same⟩

end TruncatedSha
