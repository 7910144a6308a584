import Mathlib.Data.List.Nodup
import Arbiter.Framework.Decimal

/-! # Arb Ids

  `_next_arb_id` mints `ARB-NNNNNN` from a database sequence, or from an
  in-memory counter when the sequence gives no answer.

  The counter follows the sequence, the sequence does not follow the counter, so
  the two are not in lockstep: `arb_ids_nodup_iff` says exactly which patterns of
  outages issue an id twice.
-/

namespace Execution

open Decimal

/-! ### Model -/

/-- The two counters ids come from. -/
structure IdCounters where
  /-- `_execution_count`, the in-memory fallback. -/
  execution_count : ℕ
  /-- The last value `arb_id_seq` gave out. -/
  arb_id_seq : ℕ

/-- What becomes of one `SELECT nextval('arb_id_seq')`. -/
inductive SeqReply
  /-- The sequence advanced and its value arrived. -/
  | answered
  /-- The sequence advanced, the answer was lost. -/
  | lost
  /-- The query failed before it reached the sequence. -/
  | raised
  /-- There is no store or pool, so nothing is asked. -/
  | no_pool
  deriving DecidableEq

/-- The text of an id, `ARB-{n:06d}`. -/
def arb_id (n : ℕ) : String := "ARB-" ++ padded 6 n

/-- The in-memory path: count up and use the count. -/
def count_up (s : IdCounters) : String × IdCounters :=
  (arb_id (s.execution_count + 1), { s with execution_count := s.execution_count + 1 })

/-- `_next_arb_id`: the id and the counters afterwards. -/
def next_arb_id (s : IdCounters) : SeqReply → String × IdCounters
  | .answered =>
      let n := s.arb_id_seq + 1
      (arb_id n, { execution_count := if n > s.execution_count then n else s.execution_count
                   arb_id_seq := n })
  | .lost => count_up { s with arb_id_seq := s.arb_id_seq + 1 }
  | .raised => count_up s
  | .no_pool => count_up s

/-- The counters after a sequence of calls. -/
def counters_after (s : IdCounters) : List SeqReply → IdCounters
  | [] => s
  | r :: rs => counters_after (next_arb_id s r).2 rs

/-- The ids a sequence of calls returns, in order. -/
def arb_ids (s : IdCounters) : List SeqReply → List String
  | [] => []
  | r :: rs => (next_arb_id s r).1 :: arb_ids (next_arb_id s r).2 rs

/-! ### Numbers behind the ids -/

theorem arb_id_injective : Function.Injective arb_id := by
  intro a b h
  have hchars := congrArg String.toList h
  simp only [arb_id, String.toList_append] at hchars
  exact padded_injective 6 (String.toList_injective (List.append_cancel_left hchars))

/-- The number a call puts in its id. -/
def minted (s : IdCounters) : SeqReply → ℕ
  | .answered => s.arb_id_seq + 1
  | _ => s.execution_count + 1

@[simp] theorem minted_answered (s : IdCounters) : minted s .answered = s.arb_id_seq + 1 := rfl

theorem minted_fallback (s : IdCounters) {r : SeqReply} (hr : r ≠ .answered) :
    minted s r = s.execution_count + 1 := by
  cases r with
  | answered => exact absurd rfl hr
  | lost | raised | no_pool => rfl

theorem next_arb_id_fst (s : IdCounters) (r : SeqReply) :
    (next_arb_id s r).1 = arb_id (minted s r) := by
  cases r <;> rfl

/-- What one call does to the counters. -/
theorem next_arb_id_snd (s : IdCounters) (r : SeqReply) :
    (next_arb_id s r).2.execution_count = max s.execution_count (minted s r) ∧
      s.arb_id_seq ≤ (next_arb_id s r).2.arb_id_seq ∧
      (r = .answered → (next_arb_id s r).2.arb_id_seq = minted s r) := by
  cases r with
  | answered =>
    simp only [next_arb_id, minted]
    refine ⟨?_, by omega, by simp⟩
    split <;> omega
  | lost => simp [next_arb_id, count_up, minted]
  | raised => simp [next_arb_id, count_up, minted]
  | no_pool => simp [next_arb_id, count_up, minted]

/-- Neither counter ever goes back. -/
theorem counters_mono (s : IdCounters) (rs : List SeqReply) :
    s.execution_count ≤ (counters_after s rs).execution_count ∧
      s.arb_id_seq ≤ (counters_after s rs).arb_id_seq := by
  induction rs generalizing s with
  | nil => exact ⟨le_refl _, le_refl _⟩
  | cons r rs ih =>
    obtain ⟨hcount, hseq, -⟩ := next_arb_id_snd s r
    obtain ⟨ihc, ihs⟩ := ih (next_arb_id s r).2
    simp only [counters_after]
    omega

/-- The ids of a sequence of calls are those its calls mint, each in the state
    the calls before it leave. -/
theorem mem_arb_ids {s : IdCounters} {rs : List SeqReply} {id : String} :
    id ∈ arb_ids s rs ↔ ∃ before r after, rs = before ++ r :: after ∧
      id = arb_id (minted (counters_after s before) r) := by
  induction rs generalizing s with
  | nil => simp [arb_ids]
  | cons r rs ih =>
    simp only [arb_ids, List.mem_cons, ih, next_arb_id_fst]
    constructor
    · rintro (rfl | ⟨before, r', after, rfl, rfl⟩)
      · exact ⟨[], r, rs, rfl, rfl⟩
      · exact ⟨r :: before, r', after, rfl, rfl⟩
    · rintro ⟨before, r', after, hrs, rfl⟩
      cases before with
      | nil =>
        obtain ⟨rfl, rfl⟩ := List.cons.inj hrs
        exact .inl rfl
      | cons b before =>
        obtain ⟨rfl, rfl⟩ := List.cons.inj hrs
        exact .inr ⟨before, r', after, rfl, rfl⟩

/-! ### When ids are unique -/

/-- No answer of the sequence finds it standing where the in-memory counter stood
    at an earlier call that fell back. -/
def SequenceStaysClear (s : IdCounters) (rs : List SeqReply) : Prop :=
  ∀ before r between after, rs = before ++ r :: between ++ .answered :: after →
    r ≠ .answered →
    (counters_after s (before ++ r :: between)).arb_id_seq ≠
      (counters_after s before).execution_count

/-- Clearness of a run, one call at a time. -/
theorem sequenceStaysClear_cons {s : IdCounters} {r : SeqReply} {rs : List SeqReply} :
    SequenceStaysClear s (r :: rs) ↔
      (r ≠ .answered → ∀ between after, rs = between ++ .answered :: after →
        (counters_after (next_arb_id s r).2 between).arb_id_seq ≠ s.execution_count) ∧
      SequenceStaysClear (next_arb_id s r).2 rs := by
  constructor
  · intro h
    refine ⟨fun hr between after hrs => ?_, fun before r' between after hrs hr' => ?_⟩
    · exact h [] r between after (by rw [hrs]; rfl) hr
    · exact h (r :: before) r' between after (by rw [hrs]; rfl) hr'
  · rintro ⟨hhead, htail⟩ before r' between after hrs hr'
    cases before with
    | nil =>
      obtain ⟨rfl, rfl⟩ := List.cons.inj hrs
      exact hhead hr' between after rfl
    | cons b before =>
      obtain ⟨rfl, rfl⟩ := List.cons.inj hrs
      exact htail before r' between after rfl hr'

/-- A call's id comes up again in later calls only through the sequence reaching
    a count the call fell back to. -/
private theorem minted_again_iff {s : IdCounters} {r : SeqReply} {rs : List SeqReply} :
    arb_id (minted s r) ∈ arb_ids (next_arb_id s r).2 rs ↔
      r ≠ .answered ∧ ∃ between after, rs = between ++ .answered :: after ∧
        (counters_after (next_arb_id s r).2 between).arb_id_seq = s.execution_count := by
  obtain ⟨hcount, hseq, hans⟩ := next_arb_id_snd s r
  rw [mem_arb_ids]
  constructor
  · rintro ⟨between, r', after, hrs, hid⟩
    have hnum := arb_id_injective hid
    have hmono := counters_mono (next_arb_id s r).2 between
    -- a later call that falls back counts past everything minted so far
    have hr' : r' = .answered := by
      by_contra hne
      rw [minted_fallback _ hne] at hnum
      omega
    rw [hr', minted_answered] at hnum
    have hr : r ≠ .answered := by
      intro hr
      have := hans hr
      omega
    rw [minted_fallback s hr] at hnum
    exact ⟨hr, between, after, hr' ▸ hrs, by omega⟩
  · rintro ⟨hr, between, after, hrs, hat⟩
    exact ⟨between, .answered, after, hrs, by rw [minted_fallback s hr, minted_answered, hat]⟩

/-- **Uniqueness of arb ids**: from any counters and for every pattern of outages,
    no id is returned twice exactly when the sequence stays clear of the counts
    that earlier calls fell back to. -/
theorem arb_ids_nodup_iff (s : IdCounters) (rs : List SeqReply) :
    (arb_ids s rs).Nodup ↔ SequenceStaysClear s rs := by
  induction rs generalizing s with
  | nil =>
    refine ⟨fun _ before r between after h => ?_, fun _ => List.nodup_nil⟩
    simp at h
  | cons r rs ih =>
    rw [arb_ids, List.nodup_cons, ih, next_arb_id_fst, minted_again_iff,
      sequenceStaysClear_cons]
    refine and_congr_left fun _ => ?_
    constructor
    · intro h hr between after hrs hat
      exact h ⟨hr, between, after, hrs, hat⟩
    · rintro h ⟨hr, between, after, hrs, hat⟩
      exact h hr between after hrs hat

/-- With the counter seeded level with the sequence, an outage of one query and an
    answer right after it return one id twice. -/
theorem outage_then_answer_repeats :
    ¬ ∀ (s : IdCounters) (rs : List SeqReply), (arb_ids s rs).Nodup := by
  intro h
  exact absurd (h ⟨5, 5⟩ [.raised, .answered]) (by simp [arb_ids, next_arb_id, count_up])

end Execution
