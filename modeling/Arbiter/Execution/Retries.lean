import Arbiter.Framework.System
import Arbiter.Execution.RetryScheduler

/-! # Runs of the Retry Scheduler

  A retry is an execution of the engine like any other: when it fails it is published,
  and comes back to the scheduler through its queue.

  ## Contents

  - Section 1: the scheduler, its queue and the engine's other work.
  - Section 2: retries that descend from one failed execution.
  - Section 3: a chain that grows without bound.
  - Section 4: one chain against its rounds.
  - Section 5: retries after an attempt that left exposure.
-/

namespace Execution.RetryScheduler

open Effect LTS Scanner

/-! ## Section 1: The queue -/

/-- A published execution. Ghost: the execution it descends from, and whether it is the
    result of a retry. -/
structure Item where
  execution : ArbExecution
  root : ℕ
  retried : Bool

/-- What the scheduler shares with the rest of the program. -/
structure Board where
  /-- `time.time()`. -/
  now : ℚ
  queue : List Item
  /-- Ghost: how many executions others published; they are numbered. -/
  published : ℕ
  /-- Ghost: retries that descend from each of them. -/
  retries : ℕ → ℕ

/-- Time passes. -/
def Board.Passes (w w' : Board) : Prop := w.now ≤ w'.now ∧ w' = { w with now := w'.now }

/-- `_publish_execution`, which drops the execution where the queue is full. -/
def Board.publish (w : Board) (item : Item) (full : Bool) : Board :=
  if full then w else { w with queue := w.queue ++ [item] }

/-- One more retry that descends from `root`. -/
def Board.submit (w : Board) (root : ℕ) : Board :=
  { w with retries := Function.update w.retries root (w.retries root + 1) }

/-- The outside while an execution that descends from `root` is handled. The engine
    publishes the execution that it returns. -/
def desk (root : ℕ) : Env Call Answer Board where
  serve := fun w c a w' =>
    match c, a with
    | .sleep seconds, _ => w.now + seconds ≤ w'.now ∧ w.Passes w'
    | .execute_opportunity _, .ok (some result) =>
        ∃ full, ((w.submit root).publish ⟨result, root, true⟩ full).Passes w'
    | .execute_opportunity _, _ => (w.submit root).Passes w'
    | _, _ => w.Passes w'

/-- The scheduler: the board, the cooldowns, and what is left of the handling of an
    execution that descends from some root. -/
structure Sched where
  board : Board
  cooldowns : Cooldowns
  handler : Option (ℕ × Scheduled (Cooldowns × Option FailedTradeRecord))

/-- Nothing published. -/
def Sched.start : Sched where
  board := { now := 0, queue := [], published := 0, retries := fun _ => 0 }
  cooldowns := []
  handler := none

/-- What can happen next. -/
inductive Label
  /-- The engine publishes an execution that is no retry. -/
  | publish (execution : ArbExecution) (full : Bool)
  /-- `_run_loop` takes the next execution from the queue. -/
  | take
  /-- The next call of its handling is answered. -/
  | answer
  /-- Its handling is over. -/
  | finish

/-- `_run_loop` over the engine's published executions. -/
def scheduler (cfg : Config) : System Sched Label where
  init := fun s => s = .start
  step := fun s l s' =>
    match l with
    -- the engine publishes by itself, at any moment
    | .publish execution full =>
        ({ s.board.publish ⟨execution, s.board.published, false⟩ full with
          published := s.board.published + 1 } : Board).Passes s'.board ∧
        s'.cooldowns = s.cooldowns ∧ s'.handler = s.handler
    | .take => ∃ item rest, s.handler = none ∧ s.board.queue = item :: rest ∧
        s' = { s with
          board := { s.board with queue := rest }
          handler := some (item.root,
            handle_execution cfg s.cooldowns s.board.now item.execution) }
    | .answer => ∃ root c k a, s.handler = some (root, .call c k) ∧
        (desk root).serve s.board c a s'.board ∧
        s'.cooldowns = s.cooldowns ∧ s'.handler = some (root, k a)
    | .finish => ∃ root cooldowns record, s.handler = some (root, .ret (cooldowns, record)) ∧
        s' = { s with cooldowns := cooldowns, handler := none }

/-- A failed retry that the loop takes is still in cooldown. -/
def retries_suppressed (cfg : Config) (s : Sched) (l : Label) : Prop :=
  l = .take → ∀ item ∈ s.board.queue.head?, item.retried = true →
    item.execution.status = .failed →
    suppressed cfg s.cooldowns s.board.now item.execution

/-! ## Section 2: Descendants -/

/-- The executions in the queue that are no retries. -/
def originals (queue : List Item) : List Item := queue.filter fun item => !item.retried

/-- The invariant: an execution that is no retry has no descendants while it is in the
    queue, and what is submitted so far leaves room for what is still to be handled. -/
structure Bounded (cfg : Config) (s : Sched) : Prop where
  known : ∀ item ∈ s.board.queue, item.root < s.board.published
  /-- Executions that are no retries are the first of their descent. -/
  first : ((originals s.board.queue).map Item.root).Nodup
  untouched : ∀ item ∈ originals s.board.queue, s.board.retries item.root = 0 ∧
    ∀ other ∈ s.board.queue, other.retried = true → other.root ≠ item.root
  elsewhere : ∀ item ∈ originals s.board.queue, ∀ root p, s.handler = some (root, p) →
    root ≠ item.root
  budget : ∀ root p, s.handler = some (root, p) → root < s.board.published ∧
    ∃ n, p.Within submissions n ∧ s.board.retries root + n ≤ cfg.max_retries
  unpublished : ∀ root, s.board.published ≤ root → s.board.retries root = 0
  bounded : ∀ root, s.board.retries root ≤ cfg.max_retries

section descendants

variable {cfg : Config} {s s' : Sched}

theorem Bounded.start : Bounded cfg .start where
  known := fun _ h => nomatch h
  first := List.nodup_nil
  untouched := fun _ h => nomatch h
  elsewhere := fun _ h => nomatch h
  budget := fun _ _ h => nomatch h
  unpublished := fun _ _ => rfl
  bounded := fun _ => Nat.zero_le _

theorem mem_originals {item : Item} {queue : List Item} :
    item ∈ originals queue ↔ item ∈ queue ∧ item.retried = false := by
  simp [originals]

/-- The invariant does not look at the clock. -/
theorem Bounded.passes {w w' : Board} {cooldowns : Cooldowns}
    {handler : Option (ℕ × Scheduled (Cooldowns × Option FailedTradeRecord))}
    (h : Bounded cfg ⟨w, cooldowns, handler⟩) (hp : w.Passes w') (cooldowns' : Cooldowns) :
    Bounded cfg ⟨w', cooldowns', handler⟩ := by
  rw [hp.2]
  exact ⟨h.known, h.first, h.untouched, h.elsewhere, h.budget, h.unpublished, h.bounded⟩

/-- One more execution that is no retry. -/
theorem Bounded.published {w : Board} {cooldowns : Cooldowns}
    {handler : Option (ℕ × Scheduled (Cooldowns × Option FailedTradeRecord))}
    (h : Bounded cfg ⟨w, cooldowns, handler⟩) (execution : ArbExecution) (full : Bool) :
    Bounded cfg ⟨{ w.publish ⟨execution, w.published, false⟩ full with
      published := w.published + 1 }, cooldowns, handler⟩ := by
  have hlater : ∀ root p, handler = some (root, p) → root < w.published + 1 ∧
      ∃ n, p.Within submissions n ∧ w.retries root + n ≤ cfg.max_retries := by
    intro root p hp
    obtain ⟨hroot, hn⟩ := h.budget root p hp
    exact ⟨Nat.lt_succ_of_lt hroot, hn⟩
  cases full with
  -- a full queue drops it: nothing else changes
  | true =>
    refine ⟨fun item hi => Nat.lt_succ_of_lt (h.known item hi), h.first, h.untouched, h.elsewhere,
      hlater, fun root hr => h.unpublished root (Nat.le_of_succ_le hr), h.bounded⟩
  | false =>
    -- it joins the originals, under a number that nothing has yet
    have horiginals : originals (w.queue ++ [⟨execution, w.published, false⟩]) =
        originals w.queue ++ [⟨execution, w.published, false⟩] := by
      simp [originals]
    constructor
    · show ∀ item ∈ w.queue ++ [_], item.root < w.published + 1
      intro item hi
      rcases List.mem_append.1 hi with hi | hi
      · exact Nat.lt_succ_of_lt (h.known item hi)
      · simp [List.mem_singleton.1 hi]
    · show ((originals (w.queue ++ [_])).map Item.root).Nodup
      rw [horiginals, List.map_append, List.nodup_append]
      refine ⟨h.first, List.nodup_singleton _, ?_⟩
      intro a ha b hb
      obtain ⟨item, hi, rfl⟩ := List.mem_map.1 ha
      have hlt : item.root < w.published := h.known item (mem_originals.1 hi).1
      simp only [List.map_cons, List.map_nil, List.mem_singleton] at hb
      omega
    · show ∀ item ∈ originals (w.queue ++ [_]), w.retries item.root = 0 ∧
        ∀ other ∈ w.queue ++ [_], other.retried = true → other.root ≠ item.root
      intro item hi
      rw [horiginals] at hi
      rcases List.mem_append.1 hi with hold | hnew
      · refine ⟨(h.untouched item hold).1, fun other ho hretried => ?_⟩
        rcases List.mem_append.1 ho with ho | ho
        · exact (h.untouched item hold).2 other ho hretried
        · simp [List.mem_singleton.1 ho] at hretried
      · obtain rfl := List.mem_singleton.1 hnew
        refine ⟨h.unpublished _ (le_refl _), fun other ho hretried => ?_⟩
        rcases List.mem_append.1 ho with ho | ho
        · exact Nat.ne_of_lt (h.known other ho)
        · simp [List.mem_singleton.1 ho] at hretried
    · show ∀ item ∈ originals (w.queue ++ [_]), ∀ root p, handler = some (root, p) → root ≠ item.root
      intro item hi root p hp
      rw [horiginals] at hi
      rcases List.mem_append.1 hi with hold | hnew
      · exact h.elsewhere item hold root p hp
      · obtain rfl := List.mem_singleton.1 hnew
        exact Nat.ne_of_lt (h.budget root p hp).1
    · exact hlater
    · exact fun root hr => h.unpublished root (Nat.le_of_succ_le hr)
    · exact h.bounded

/-- The head of the queue is taken. -/
theorem Bounded.taken {w : Board} {cooldowns : Cooldowns} {item : Item} {rest : List Item}
    (h : Bounded cfg ⟨w, cooldowns, none⟩) (hqueue : w.queue = item :: rest)
    (hretried : item.retried = true → item.execution.status = .failed →
      suppressed cfg cooldowns w.now item.execution) :
    Bounded cfg ⟨{ w with queue := rest }, cooldowns, some (item.root,
      handle_execution cfg cooldowns w.now item.execution)⟩ := by
  have hmem : ∀ other ∈ rest, other ∈ w.queue := by
    intro other ho
    rw [hqueue]
    exact List.mem_cons_of_mem _ ho
  have horig : ∀ other ∈ originals rest, other ∈ originals w.queue := by
    intro other ho
    rw [mem_originals] at ho ⊢
    exact ⟨hmem other ho.1, ho.2⟩
  have hhead : item ∈ w.queue := by simp [hqueue]
  -- an original is not taken twice: its number occurs once
  have hfirst := h.first
  simp only [hqueue, originals, List.filter_cons] at hfirst
  constructor
  · exact fun other ho => h.known other (hmem other ho)
  · cases hown : item.retried with
    | true => simpa [originals, hown] using hfirst
    | false =>
      simp only [hown, Bool.not_false, if_true, List.map_cons, List.nodup_cons] at hfirst
      exact hfirst.2
  · intro other ho
    refine ⟨(h.untouched other (horig other ho)).1, fun third ht => ?_⟩
    exact (h.untouched other (horig other ho)).2 third (hmem third ht)
  · intro other ho root p hp
    obtain ⟨rfl, rfl⟩ := Prod.mk.inj (Option.some.inj hp)
    cases hown : item.retried with
    | true => exact (h.untouched other (horig other ho)).2 item hhead hown
    | false =>
      simp only [hown, Bool.not_false, if_true, List.map_cons, List.nodup_cons] at hfirst
      intro heq
      exact hfirst.1 (List.mem_map.2 ⟨other, ho, heq.symm⟩)
  · intro root p hp
    obtain ⟨rfl, rfl⟩ := Prod.mk.inj (Option.some.inj hp)
    refine ⟨h.known item hhead, ?_⟩
    cases hown : item.retried with
    -- a retry that failed is suppressed: nothing is submitted for it
    | true => exact ⟨0, handle_execution_skips (hretried hown), h.bounded item.root⟩
    | false =>
      have hzero := (h.untouched item (mem_originals.2 ⟨hhead, hown⟩)).1
      refine ⟨cfg.max_retries, handle_execution_within _ _ _, ?_⟩
      show w.retries item.root + cfg.max_retries ≤ _
      rw [show w.retries item.root = 0 from hzero]
      omega
  · exact h.unpublished
  · exact h.bounded

/-- A call of the handling that submits nothing. -/
theorem Bounded.goes_on {w : Board} {cooldowns : Cooldowns} {root : ℕ} {c : Call}
    {k : Answer c → Scheduled (Cooldowns × Option FailedTradeRecord)}
    (h : Bounded cfg ⟨w, cooldowns, some (root, .call c k)⟩) (hfree : submissions c = 0)
    (a : Answer c) : Bounded cfg ⟨w, cooldowns, some (root, k a)⟩ := by
  refine ⟨h.known, h.first, h.untouched, ?_, ?_, h.unpublished, h.bounded⟩
  · intro item hi r p hp
    obtain ⟨rfl, rfl⟩ := Prod.mk.inj (Option.some.inj hp)
    exact h.elsewhere item hi _ _ rfl
  · intro r p hp
    obtain ⟨rfl, rfl⟩ := Prod.mk.inj (Option.some.inj hp)
    obtain ⟨hroot, n, hn, hle⟩ := h.budget _ _ rfl
    have hrest := hn.2 a
    rw [hfree, Nat.sub_zero] at hrest
    exact ⟨hroot, n, hrest, hle⟩

/-- A retry is submitted. -/
theorem Bounded.submitted {w : Board} {cooldowns : Cooldowns} {root : ℕ} {opp : Opportunity}
    {k : Answer (.execute_opportunity opp) → Scheduled (Cooldowns × Option FailedTradeRecord)}
    (h : Bounded cfg ⟨w, cooldowns, some (root, .call (.execute_opportunity opp) k)⟩)
    (a : Answer (.execute_opportunity opp)) :
    Bounded cfg ⟨w.submit root, cooldowns, some (root, k a)⟩ := by
  obtain ⟨hroot, n, hn, hle⟩ := h.budget _ _ rfl
  have hone : 1 ≤ n := hn.1
  have hrest : (k a).Within submissions (n - 1) := hn.2 a
  have hother : ∀ r, r ≠ root → (w.submit root).retries r = w.retries r := by
    intro r hr
    simp [Board.submit, hr]
  -- one retry more, one less in the budget of the rest
  have hhere : (w.submit root).retries root = w.retries root + 1 := by simp [Board.submit]
  refine ⟨h.known, h.first, ?_, ?_, ?_, ?_, ?_⟩
  · intro item hi
    have hne := h.elsewhere item hi _ _ rfl
    refine ⟨?_, (h.untouched item hi).2⟩
    show (w.submit root).retries item.root = 0
    rw [hother _ hne.symm]
    exact (h.untouched item hi).1
  · intro item hi r p hp
    obtain ⟨rfl, rfl⟩ := Prod.mk.inj (Option.some.inj hp)
    exact h.elsewhere item hi _ _ rfl
  · intro r p hp
    obtain ⟨rfl, rfl⟩ := Prod.mk.inj (Option.some.inj hp)
    refine ⟨hroot, n - 1, hrest, ?_⟩
    show (w.submit root).retries root + (n - 1) ≤ _
    rw [hhere]
    have hle' : w.retries root + n ≤ cfg.max_retries := hle
    omega
  · intro r hr
    have hlt : root < w.published := hroot
    have hge : w.published ≤ r := hr
    show (w.submit root).retries r = 0
    rw [hother r (by omega)]
    exact h.unpublished r hr
  · intro r
    show (w.submit root).retries r ≤ _
    by_cases hr : r = root
    · rw [hr, hhere]
      have hle' : w.retries root + n ≤ cfg.max_retries := hle
      omega
    · rw [hother r hr]
      exact h.bounded r

/-- The retry comes back through the queue. -/
theorem Bounded.requeued {w : Board} {cooldowns : Cooldowns} {root : ℕ}
    {p : Scheduled (Cooldowns × Option FailedTradeRecord)}
    (h : Bounded cfg ⟨w, cooldowns, some (root, p)⟩) (result : ArbExecution) (full : Bool) :
    Bounded cfg ⟨w.publish ⟨result, root, true⟩ full, cooldowns, some (root, p)⟩ := by
  cases full with
  | true => exact h
  | false =>
    -- the queue has one entry more, which is no original
    have horiginals : originals (w.queue ++ [⟨result, root, true⟩]) = originals w.queue := by
      simp [originals]
    constructor
    · show ∀ item ∈ w.queue ++ [_], item.root < w.published
      intro item hi
      rcases List.mem_append.1 hi with hi | hi
      · exact h.known item hi
      · rw [List.mem_singleton.1 hi]
        exact (h.budget _ _ rfl).1
    · show ((originals (w.queue ++ [_])).map Item.root).Nodup
      rw [horiginals]
      exact h.first
    · show ∀ item ∈ originals (w.queue ++ [_]), w.retries item.root = 0 ∧
        ∀ other ∈ w.queue ++ [_], other.retried = true → other.root ≠ item.root
      rw [horiginals]
      intro item hi
      refine ⟨(h.untouched item hi).1, fun other ho hretried => ?_⟩
      rcases List.mem_append.1 ho with ho | ho
      · exact (h.untouched item hi).2 other ho hretried
      · rw [List.mem_singleton.1 ho]
        exact h.elsewhere item hi _ _ rfl
    · show ∀ item ∈ originals (w.queue ++ [_]), ∀ r q, some (root, p) = some (r, q) → r ≠ item.root
      rw [horiginals]
      exact h.elsewhere
    · exact h.budget
    · exact h.unpublished
    · exact h.bounded

/-- Every step keeps the invariant, where failed retries that are taken are suppressed. -/
theorem Bounded.step {l : Label} (h : Bounded cfg s)
    (hok : retries_suppressed cfg s l) (hs : (scheduler cfg).step s l s') : Bounded cfg s' := by
  obtain ⟨w, cooldowns, handler⟩ := s
  obtain ⟨w', cooldowns', handler'⟩ := s'
  cases l with
  | publish execution full =>
    obtain ⟨hpasses, hcooldowns, hhandler⟩ := hs
    cases hhandler
    exact (h.published execution full).passes hpasses _
  | take =>
    obtain ⟨item, rest, hnone, hqueue, heq⟩ := hs
    cases hnone
    cases heq
    have hhead : item ∈ w.queue.head? := by
      rw [show w.queue = item :: rest from hqueue]
      rfl
    exact h.taken hqueue (hok rfl item hhead)
  | answer =>
    obtain ⟨root, c, k, a, hhandler, hserve, hcooldowns, hhandler'⟩ := hs
    cases hhandler
    cases hhandler'
    cases c with
    | supervisor_armed => exact (h.goes_on rfl a).passes hserve _
    | sleep _ => exact (h.goes_on rfl a).passes hserve.2 _
    | get_price => exact (h.goes_on rfl a).passes hserve _
    | execute_opportunity _ =>
      -- what the engine returns may be published, and comes back as a retried execution
      match a, hserve with
      | .ok (some result), hserve =>
        obtain ⟨full, hpasses⟩ := hserve
        exact ((h.submitted _).requeued result full).passes hpasses _
      | .ok none, hserve => exact (h.submitted _).passes hserve _
      | .error _, hserve => exact (h.submitted _).passes hserve _
  | finish =>
    obtain ⟨root, cooldowns'', record, hhandler, heq⟩ := hs
    cases heq
    exact ⟨h.known, h.first, h.untouched, fun _ _ _ _ hp => (nomatch hp), fun _ _ hp => (nomatch hp),
      h.unpublished, h.bounded⟩

end descendants

/-- **Retries are bounded where failed retries are suppressed**: in every run of the
    scheduler in which each failed retry that it takes from its queue is still in cooldown,
    at most `max_retries` retries descend from any one execution. -/
theorem retries_bounded (cfg : Config) (s : Sched)
    (hr : Reachable ((scheduler cfg).restrict (retries_suppressed cfg)) s) (root : ℕ) :
    s.board.retries root ≤ cfg.max_retries := by
  have hinv : Invariant ((scheduler cfg).restrict (retries_suppressed cfg)) (Bounded cfg) := by
    apply Invariant.of_step
    · intro s hs
      rw [show s = .start from hs]
      exact Bounded.start
    · intro s l s' h hs
      exact h.step hs.1 hs.2
  exact (hinv s hr).bounded root

/-! ## Section 3: A chain without end -/

/-- Time stands still. -/
theorem Board.Passes.refl (w : Board) : w.Passes w := ⟨le_refl _, rfl⟩

/-- The board after a round whose retry failed. -/
def Board.after_round (w : Board) (cfg : Config) (root : ℕ) (result : ArbExecution) : Board :=
  (({ w with now := w.now + cfg.retry_delay_s } : Board).submit root).publish
    ⟨result, root, true⟩ false

/-- A round that ends in a failed retry, with the quotes it reads. -/
structure FailingRound (cfg : Config) (opp : Opportunity) (yes_quote no_quote : PricePoint)
    (fresh : Opportunity) (result : ArbExecution) : Prop where
  store : cfg.has_price_store = true
  delay : 0 ≤ cfg.retry_delay_s
  quoted : requoted cfg opp (some yes_quote) (some no_quote) = .ok fresh
  edge : ¬ fresh.net_edge_cents < cfg.min_edge_cents_retry
  failed : ¬ succeeded result

section rounds

variable {cfg : Config} {opp fresh : Opportunity} {yes_quote no_quote : PricePoint}
  {result : ArbExecution} {root : ℕ}

/-- Such a round, and what comes after it. -/
theorem FailingRound.exec (h : FailingRound cfg opp yes_quote no_quote fresh result) {left : ℕ}
    {w w' : Board} (hrest : ∀ record, ∃ r, Exec (desk root) (retry_rounds cfg opp left record)
      (w.after_round cfg root result) r w') (record : FailedTradeRecord) :
    ∃ r, Exec (desk root) (retry_rounds cfg opp (left + 1) record) w r w' := by
  let later : Board := { w with now := w.now + cfg.retry_delay_s }
  have hunarmed : ∀ w, (desk root).serve w .supervisor_armed false w := fun w => .refl w
  have hslept : (desk root).serve w (.sleep cfg.retry_delay_s) () later := by
    refine ⟨le_refl _, ?_, rfl⟩
    have hdelay := h.delay
    show w.now ≤ w.now + cfg.retry_delay_s
    linarith
  have hquote : ∀ platform canonical_id a,
      (desk root).serve later (.get_price platform canonical_id) a later :=
    fun _ _ _ => .refl later
  have hsubmitted : (desk root).serve later (.execute_opportunity fresh) (.ok (some result))
      (w.after_round cfg root result) := ⟨false, .refl _⟩
  have hrequoted : Exec (desk root) (requote cfg opp) later (.ok fresh) later := by
    rw [requote, if_pos h.store, ← h.quoted]
    exact .call (hquote _ _ (.ok (some yes_quote))) (.call (hquote _ _ (.ok (some no_quote)))
      (.ret _ _))
  obtain ⟨r, hr⟩ := hrest _
  refine ⟨r, .send (hunarmed w) (.send hslept (.send (hunarmed later) ?_))⟩
  refine exec_bind.2 ⟨_, _, hrequoted, ?_⟩
  show Exec _ (if fresh.net_edge_cents < cfg.min_edge_cents_retry then _ else _) _ _ _
  rw [if_neg h.edge]
  refine .send hsubmitted ?_
  show Exec _ (if succeeded result then _ else _) _ _ _
  rw [if_neg h.failed]
  exact hr

/-- An execution that failed and is not in cooldown is retried. -/
theorem exec_handle {cooldowns : Cooldowns} {now : ℚ} {execution : ArbExecution}
    {key : CooldownKey} {w w' : Board} (hfailed : execution.status = .failed)
    (hkey : cooldown_key (primary_leg execution) = some key)
    (hcold : suppressed cfg cooldowns now execution = false)
    (hrounds : ∃ r, Exec (desk root) (retry_rounds cfg execution.opportunity cfg.max_retries
      (new_record execution)) w r w') :
    ∃ record, Exec (desk root) (handle_execution cfg cooldowns now execution) w
      (note_rejection cfg cooldowns now key, record) w' := by
  obtain ⟨r, hr⟩ := hrounds
  refine ⟨some r, ?_⟩
  unfold handle_execution
  rw [if_neg (by simp [hfailed]), hkey]
  show Exec _ (if suppressed cfg cooldowns now execution = true then _ else _) _ _ _
  rw [hcold, if_neg Bool.false_ne_true]
  exact exec_bind.2 ⟨_, _, hr, .ret _ _⟩

/-- The handling of one execution may go on to its end. -/
theorem drive {sys : System Sched Label} {cooldowns cooldowns' : Cooldowns}
    {p : Scheduled (Cooldowns × Option FailedTradeRecord)} {record : Option FailedTradeRecord}
    {w w' : Board}
    (hsub : ∀ s l s', l ≠ .take → (scheduler cfg).step s l s' → sys.step s l s')
    (hr : Reachable sys ⟨w, cooldowns, some (root, p)⟩)
    (hrun : Exec (desk root) p w (cooldowns', record) w') :
    Reachable sys ⟨w', cooldowns', none⟩ := by
  generalize hend : (cooldowns', record) = ending at hrun
  induction hrun with
  | ret a w =>
    subst hend
    exact hr.step (hsub _ .finish _ (by simp) ⟨root, cooldowns', record, rfl, rfl⟩)
  | call hs _ ih =>
    exact ih (hr.step (hsub _ .answer _ (by simp) ⟨root, _, _, _, rfl, hs, rfl, rfl⟩)) hend

end rounds

/-- The default settings. -/
def default_config : Config where
  max_retries := 2
  retry_delay_s := 30
  min_edge_cents_retry := 3
  max_quote_age_seconds := 30
  rejected_cooldown_s := 60
  has_price_store := true

/-- A fresh quote of 40 cents on either side. -/
def forty_cents (platform market_id : String) : PricePoint where
  platform := platform
  yes_price := 2 / 5
  no_price := 2 / 5
  yes_volume := 100
  no_volume := 100
  age_seconds := 0
  raw_market_id := market_id
  yes_market_id := market_id
  no_market_id := market_id
  yes_bid := 19 / 50
  yes_ask := 2 / 5
  no_bid := 19 / 50
  no_ask := 2 / 5
  fee_rate := none

/-- Ten contracts at those quotes: 17.34 cents each after fees. -/
def at_forty : Opportunity where
  canonical_id := "mkt-1"
  yes_platform := "kalshi"
  yes_market_id := "KX-1"
  yes_price := 2 / 5
  yes_fee_rate := 0
  no_platform := "polymarket"
  no_market_id := "0x1"
  no_price := 2 / 5
  no_fee_rate := 0
  suggested_qty := 10
  net_edge := 867 / 5000
  net_edge_cents := 867 / 50
  confidence := 1
  quote_age_seconds := 0
  status := .tradable
  requires_manual := false

/-- Its execution, with the FOK on Kalshi rejected. -/
def fok_rejected (arb_id : String) (status : ExecStatus) : ArbExecution where
  arb_id := arb_id
  opportunity := at_forty
  leg_yes := Order.synthetic "9f1" "kalshi" "KX-1" "mkt-1" .yes (2 / 5) 10 .failed "FOK rejected"
  leg_no := Order.synthetic "ARB-NO-SKIPPED" "polymarket" "0x1" "mkt-1" .no (2 / 5) 10 .aborted
    "Skipped: primary leg did not fill (sequential execution)"
  status := status
  realized_pnl := 0
  unwind_pnl := 0
  notes := []

/-- The key its failures are noted under. -/
def forty_cent_key : CooldownKey := ("KX-1", .yes, 40)

theorem fok_rejected_key (arb_id : String) (status : ExecStatus) :
    cooldown_key (primary_leg (fok_rejected arb_id status)) = some forty_cent_key := by
  -- The leg at fault does not depend on the id or the status.
  show cooldown_key (primary_leg (fok_rejected "" .failed)) = some forty_cent_key
  decide +kernel

/-- A retry that fails like the first attempt, thirty seconds later. -/
theorem fok_rejected_again :
    FailingRound default_config at_forty (forty_cents "kalshi" "KX-1")
      (forty_cents "polymarket" "0x1") at_forty (fok_rejected "ARB-000002" .failed) where
  store := rfl
  delay := by norm_num [default_config]
  quoted := by decide +kernel
  edge := by decide +kernel
  failed := by decide

/-- The board after two such rounds. -/
def Board.after_two (w : Board) : Board :=
  (w.after_round default_config 0 (fok_rejected "ARB-000002" .failed)).after_round default_config 0
    (fok_rejected "ARB-000002" .failed)

/-- Handling one of these failures, where it is not in cooldown, submits two retries that
    fail again. -/
theorem two_rounds (cooldowns : Cooldowns) (w : Board) (arb_id : String)
    (hcold : suppressed default_config cooldowns w.now (fok_rejected arb_id .failed) = false) :
    ∃ record, Exec (desk 0)
      (handle_execution default_config cooldowns w.now (fok_rejected arb_id .failed)) w
      (note_rejection default_config cooldowns w.now forty_cent_key, record) w.after_two := by
  apply exec_handle rfl (fok_rejected_key arb_id .failed) hcold
  apply fok_rejected_again.exec
  apply fok_rejected_again.exec
  intro record
  exact ⟨_, .ret _ _⟩

/-- The board when the first failure is published. -/
def first_failure : Board :=
  { now := 0, queue := [⟨fok_rejected "ARB-000001" .failed, 0, false⟩], published := 1
    retries := fun _ => 0 }

/-- The first failure is handled: two retries, and both are back in the queue. -/
theorem two_retries {sys : System Sched Label}
    (hinit : sys.init .start) (htake : sys.step ⟨first_failure, [], none⟩ .take
      ⟨{ first_failure with queue := [] }, [], some (0, handle_execution default_config [] 0
        (fok_rejected "ARB-000001" .failed))⟩)
    (hsub : ∀ s l s', l ≠ .take → (scheduler default_config).step s l s' → sys.step s l s') :
    Reachable sys ⟨({ first_failure with queue := [] } : Board).after_two,
      note_rejection default_config [] 0 forty_cent_key, none⟩ := by
  have hpublished : Reachable sys ⟨first_failure, [], none⟩ :=
    (Reachable.init hinit).step (hsub .start
      (.publish (fok_rejected "ARB-000001" .failed) false) _ (by simp) ⟨.refl _, rfl, rfl⟩)
  have hcold : suppressed default_config [] 0 (fok_rejected "ARB-000001" .failed) = false := by
    rw [suppressed, fok_rejected_key]
    rfl
  obtain ⟨record, hrun⟩ := two_rounds [] { first_failure with queue := [] } "ARB-000001" hcold
  exact drive hsub (hpublished.step htake) hrun

/-- That state, and the bound on the retries so far. -/
theorem retries_bounded_two :
    (({ first_failure with queue := [] } : Board).after_two).retries 0 ≤ 2 := by
  have hok : ∀ s l s', l ≠ .take → (scheduler default_config).step s l s' →
      ((scheduler default_config).restrict (retries_suppressed default_config)).step s l s' :=
    fun s l s' hl hs => ⟨fun h => absurd h hl, hs⟩
  have htake : ((scheduler default_config).restrict (retries_suppressed default_config)).step
      ⟨first_failure, [], none⟩ .take
      ⟨{ first_failure with queue := [] }, [], some (0, handle_execution default_config [] 0
        (fok_rejected "ARB-000001" .failed))⟩ := by
    refine ⟨fun _ item hi hretried => ?_, _, [], rfl, rfl, rfl⟩
    obtain rfl : _ = item := Option.some.inj hi
    exact Bool.noConfusion hretried
  exact retries_bounded default_config _ (two_retries rfl htake hok) 0

/-- Sixty seconds after the first failure its retries come back, and the cooldown that was
    noted then is over: two more retries descend from it. -/
theorem retries_outlast_the_cooldown :
    ¬ ∀ (cfg : Config) (s : Sched), Reachable (scheduler cfg) s →
      ∀ root, s.board.retries root ≤ cfg.max_retries := by
  intro h
  have htwo : Reachable (scheduler default_config)
      ⟨({ first_failure with queue := [] } : Board).after_two,
        note_rejection default_config [] 0 forty_cent_key, none⟩ :=
    two_retries rfl ⟨_, [], rfl, rfl, rfl⟩ fun _ _ _ _ hs => hs
  let again : Item := ⟨fok_rejected "ARB-000002" .failed, 0, true⟩
  let queued : Board := ({ first_failure with queue := [] } : Board).after_two
  have hcold : suppressed default_config (note_rejection default_config [] 0 forty_cent_key)
      queued.now (fok_rejected "ARB-000002" .failed) = false := by
    rw [suppressed, fok_rejected_key]
    decide +kernel
  obtain ⟨record, hrun⟩ := two_rounds (note_rejection default_config [] 0 forty_cent_key)
    { queued with queue := [again] } "ARB-000002" hcold
  have hfour := drive (fun _ _ _ _ hs => hs)
    (htwo.step (l := Label.take) ⟨again, [again], rfl, rfl, rfl⟩) hrun
  have hle := h default_config _ hfour 0
  revert hle
  decide

/-! ## Section 4: One chain, round by round -/

/-- What the outside answers in one round. -/
structure Round where
  /-- The kill switch before the delay, and after it. -/
  armed_before : Bool
  armed_after : Bool
  yes_quote : Except String (Option PricePoint)
  no_quote : Except String (Option PricePoint)
  outcome : Except String (Option ArbExecution)
  /-- Ghost: the primary leg had filled when `execute_opportunity` raised. -/
  primary_filled : Bool

/-- The rounds so far: which one is on, how many of its questions are answered, and in
    which rounds a retry was submitted. -/
structure ChainLog where
  round : ℕ
  answered : ℕ
  submitted : List ℕ

/-- Before the first round. -/
def ChainLog.start : ChainLog where
  round := 0
  answered := 0
  submitted := []

/-- One more question of the round is answered. -/
def ChainLog.next (w : ChainLog) : ChainLog := { w with answered := w.answered + 1 }

/-- The outside that answers round after round. A round asks for the kill switch twice,
    then for the two quotes. -/
def scripted (rounds : ℕ → Round) : Env Call Answer ChainLog where
  serve := fun w c a w' =>
    match c, a with
    | .supervisor_armed, a =>
        a = (if w.answered = 0 then (rounds w.round).armed_before
          else (rounds w.round).armed_after) ∧ w' = w.next
    | .sleep _, _ => w' = w
    | .get_price .., a =>
        a = (if w.answered = 2 then (rounds w.round).yes_quote else (rounds w.round).no_quote) ∧
        w' = w.next
    | .execute_opportunity _, a =>
        a = (rounds w.round).outcome ∧
        w' = { round := w.round + 1, answered := 0, submitted := w.submitted ++ [w.round] }

/-- The fresh quotes of a round, or why there are none. -/
def Round.fresh (r : Round) (cfg : Config) (opp : Opportunity) : Except String Opportunity :=
  if cfg.has_price_store then
    match r.yes_quote with
    | .error exc => .error ("price store error: " ++ exc)
    | .ok current_yes =>
        match r.no_quote with
        | .error exc => .error ("price store error: " ++ exc)
        | .ok current_no => requoted cfg opp current_yes current_no
  else .error "price store unavailable"

/-- The round is cut off before a retry: the kill switch is armed, there are no usable
    quotes, or the edge at them is below the floor. -/
def Round.CutOff (r : Round) (cfg : Config) (opp : Opportunity) : Prop :=
  r.armed_before = true ∨ r.armed_after = true ∨
    ∀ fresh, r.fresh cfg opp = .ok fresh → fresh.net_edge_cents < cfg.min_edge_cents_retry

/-- The retry of the round ends the chain. -/
def Round.Succeeds (r : Round) : Prop := ∃ result, r.outcome = .ok (some result) ∧ succeeded result

/-- The retry of the round left, or may have left, exposure: it is recovering, or it
    raised after its primary leg filled. -/
def Round.Exposes (r : Round) : Prop :=
  (∃ result, r.outcome = .ok (some result) ∧ result.status = .recovering) ∨
    (∃ err, r.outcome = .error err) ∧ r.primary_filled = true

/-- An exposing retry does not end the chain. -/
theorem Round.Exposes.not_succeeds {r : Round} (h : r.Exposes) : ¬ r.Succeeds := by
  rintro ⟨result, heq, hdone⟩
  rcases h with ⟨other, hother, hrec⟩ | ⟨⟨err, herr⟩, -⟩
  · rw [hother] at heq
    cases heq
    simp [succeeded, hrec] at hdone
  · rw [herr] at heq
    cases heq

/-- A chain that comes to round `i` submits a retry in it. -/
structure Submits (cfg : Config) (opp : Opportunity) (rounds : ℕ → Round) (first i : ℕ) : Prop where
  left : i < cfg.max_retries
  open_to : ∀ k, first ≤ k → k ≤ i → ¬ (rounds k).CutOff cfg opp
  unsuccessful : ∀ k, first ≤ k → k < i → ¬ (rounds k).Succeeds

section chain

variable {cfg : Config} {opp : Opportunity} {rounds : ℕ → Round}

/-- Where a chain stops, nothing more is submitted. -/
theorem not_submits_of_cutOff {first i : ℕ} (hcut : (rounds first).CutOff cfg opp)
    (hle : first ≤ i) : ¬ Submits cfg opp rounds first i :=
  fun h => h.open_to first (le_refl _) hle hcut

/-- A round that submits, and what comes after it. -/
theorem submits_iff {first i : ℕ} (hopen : ¬ (rounds first).CutOff cfg opp)
    (hfirst : first < cfg.max_retries) :
    first ≤ i ∧ Submits cfg opp rounds first i ↔
      i = first ∨ (¬ (rounds first).Succeeds ∧ first + 1 ≤ i ∧
        Submits cfg opp rounds (first + 1) i) := by
  constructor
  · rintro ⟨hle, h⟩
    rcases Nat.eq_or_lt_of_le hle with rfl | hlt
    · exact .inl rfl
    · refine .inr ⟨h.unsuccessful first (le_refl _) hlt, hlt, h.left, ?_, ?_⟩
      · exact fun k hk hki => h.open_to k (by omega) hki
      · exact fun k hk hki => h.unsuccessful k (by omega) hki
  · rintro (rfl | ⟨hfailed, hlt, h⟩)
    · refine ⟨le_refl _, hfirst, fun k hk hki => ?_, fun k hk hki => absurd hk (by omega)⟩
      rw [show k = i by omega]
      exact hopen
    · refine ⟨by omega, h.left, fun k hk hki => ?_, fun k hk hki => ?_⟩
      · rcases Nat.eq_or_lt_of_le hk with rfl | hlt
        · exact hopen
        · exact h.open_to k hlt hki
      · rcases Nat.eq_or_lt_of_le hk with rfl | hlt
        · exact hfailed
        · exact h.unsuccessful k hlt hki

/-- The quotes of the round are read. -/
private theorem requote_spec {i : ℕ} {submitted : List ℕ} :
    wp (scripted rounds) (requote cfg opp)
      (fun r w' => r = (rounds i).fresh cfg opp ∧ w'.round = i ∧ w'.submitted = submitted)
      ⟨i, 2, submitted⟩ := by
  unfold requote Round.fresh
  rw [wp_ite]
  constructor
  · intro hstore
    rw [wp_bind, wp_send]
    rintro answer w₁ ⟨hyes, rfl⟩
    rw [if_pos hstore, ← show answer = (rounds i).yes_quote from hyes]
    cases answer with
    | error exc => simp [ChainLog.next]
    | ok current_yes =>
      simp only [wp_bind, wp_send]
      rintro answer w₂ ⟨hno, rfl⟩
      rw [← show answer = (rounds i).no_quote from hno]
      cases answer <;> simp [ChainLog.next]
  · intro hstore
    simp [hstore]

/-- One round of the loop: it is cut off, or it submits a retry, which ends the chain or
    does not. -/
private theorem wp_round {Q : ChainLog → Prop} {left first : ℕ} {record : FailedTradeRecord}
    {submitted : List ℕ}
    (hcut : (rounds first).CutOff cfg opp → ∀ w, w.submitted = submitted → Q w)
    (hends : ¬ (rounds first).CutOff cfg opp → (rounds first).Succeeds →
      Q ⟨first + 1, 0, submitted ++ [first]⟩)
    (hgoes : ¬ (rounds first).CutOff cfg opp → ¬ (rounds first).Succeeds → ∀ record,
      wp (scripted rounds) (retry_rounds cfg opp left record) (fun _ => Q)
        ⟨first + 1, 0, submitted ++ [first]⟩) :
    wp (scripted rounds) (retry_rounds cfg opp (left + 1) record) (fun _ => Q)
      ⟨first, 0, submitted⟩ := by
  unfold retry_rounds
  rw [wp_bind, wp_send]
  -- the kill switch before the delay
  rintro before w₁ ⟨hbefore, hw⟩
  obtain rfl : w₁ = ⟨first, 1, submitted⟩ := hw
  replace hbefore : before = (rounds first).armed_before := hbefore
  rw [wp_ite]
  refine ⟨fun harmed => wp_pure.2 (hcut (.inl (hbefore ▸ harmed)) _ rfl), fun hbefore' => ?_⟩
  rw [wp_bind, wp_send]
  rintro _ w₂ hw
  obtain rfl : w₂ = ⟨first, 1, submitted⟩ := hw
  rw [wp_bind, wp_send]
  -- and after it
  rintro after w₃ ⟨hafter, hw⟩
  obtain rfl : w₃ = ⟨first, 2, submitted⟩ := hw
  replace hafter : after = (rounds first).armed_after := hafter
  rw [wp_ite]
  refine ⟨fun harmed => wp_pure.2 (hcut (.inr (.inl (hafter ▸ harmed))) _ rfl), fun hafter' => ?_⟩
  refine wp_bind.2 (wp_mono requote_spec fun quoted w₄ hread => ?_)
  obtain ⟨hquoted, hround, hsubmitted⟩ := hread
  cases quoted with
  | error reason =>
    have hnone : (rounds first).CutOff cfg opp :=
      .inr (.inr fun fresh hfresh => by rw [hfresh] at hquoted; cases hquoted)
    exact wp_pure.2 (hcut hnone _ hsubmitted)
  | ok fresh =>
    simp only [wp_ite, wp_pure]
    constructor
    · intro hedge
      have hlow : (rounds first).CutOff cfg opp :=
        .inr (.inr fun other hother => by rw [hother] at hquoted; cases hquoted; exact hedge)
      exact hcut hlow _ hsubmitted
    · intro hedge
      have hopen : ¬ (rounds first).CutOff cfg opp := by
        rintro (harmed | harmed | hlow)
        · exact hbefore' (hbefore.trans harmed)
        · exact hafter' (hafter.trans harmed)
        · exact hedge (hlow fresh hquoted.symm)
      rw [wp_bind, wp_send]
      rintro outcome w₅ ⟨houtcome, hw⟩
      rw [hround] at houtcome
      obtain rfl : w₅ = ⟨first + 1, 0, submitted ++ [first]⟩ := by rw [hw, hround, hsubmitted]
      -- an exception and a rejected retry go on; a result does unless it is a success
      have hfails : (∀ result, outcome = .ok (some result) → ¬ succeeded result) →
          ¬ (rounds first).Succeeds := by
        rintro hnone ⟨result, heq, hdone⟩
        exact hnone result (houtcome.trans heq) hdone
      rcases outcome with err | (_ | result)
      · exact hgoes hopen (hfails fun _ h => by cases h) _
      · exact hgoes hopen (hfails fun _ h => by cases h) _
      · simp only [wp_ite, wp_pure]
        refine ⟨fun hdone => hends hopen ⟨result, houtcome.symm, hdone⟩, fun hnot => ?_⟩
        refine hgoes hopen (hfails fun other h => ?_) _
        cases h
        exact hnot

/-- The loop submits in the rounds that `Submits` says, and in no others. -/
private theorem retry_rounds_spec {left first : ℕ} {record : FailedTradeRecord}
    {submitted : List ℕ} (hleft : first + left = cfg.max_retries) :
    wp (scripted rounds) (retry_rounds cfg opp left record)
      (fun _ w' => ∀ i, i ∈ w'.submitted ↔
        i ∈ submitted ∨ (first ≤ i ∧ Submits cfg opp rounds first i)) ⟨first, 0, submitted⟩ := by
  induction left generalizing first record submitted with
  | zero =>
    simp only [retry_rounds, wp_ret]
    intro i
    have hnone : ¬ (first ≤ i ∧ Submits cfg opp rounds first i) := by
      rintro ⟨hle, h⟩
      have hlt := h.left
      omega
    tauto
  | succ left ih =>
    refine wp_round (fun hcut w hw i => ?_) (fun hopen hdone i => ?_) fun hopen hfailed record => ?_
    · have hnone : ¬ (first ≤ i ∧ Submits cfg opp rounds first i) :=
        fun h => not_submits_of_cutOff hcut h.1 h.2
      rw [hw]
      tauto
    · rw [submits_iff hopen (by omega), List.mem_append, List.mem_singleton]
      tauto
    · refine wp_mono (ih (by omega)) fun _ w' hw i => ?_
      rw [hw i, submits_iff hopen (by omega), List.mem_append, List.mem_singleton]
      tauto

/-- An execution is retried when it failed and is not in cooldown. -/
def Retried (cfg : Config) (cooldowns : Cooldowns) (now : ℚ) (execution : ArbExecution) : Prop :=
  execution.status = .failed ∧ suppressed cfg cooldowns now execution = false

/-- The rounds in which the handling of an execution submits. -/
theorem mem_submitted {cooldowns : Cooldowns} {now : ℚ} {execution : ArbExecution}
    {a : Cooldowns × Option FailedTradeRecord} {w : ChainLog}
    (hrun : Exec (scripted rounds) (handle_execution cfg cooldowns now execution) .start a w)
    (i : ℕ) : i ∈ w.submitted ↔ Retried cfg cooldowns now execution ∧
      Submits cfg execution.opportunity rounds 0 i := by
  have hspec : wp (scripted rounds) (handle_execution cfg cooldowns now execution)
      (fun _ w => ∀ i, i ∈ w.submitted ↔ Retried cfg cooldowns now execution ∧
        Submits cfg execution.opportunity rounds 0 i) .start := by
    unfold handle_execution
    simp only [wp_ite, wp_pure]
    refine ⟨fun hother i => ?_, fun hfailed => ⟨fun hcold i => ?_, fun hwarm => ?_⟩⟩
    · have hnot : ¬ Retried cfg cooldowns now execution := fun h => hother h.1
      simp [ChainLog.start, hnot]
    · have hnot : ¬ Retried cfg cooldowns now execution := by
        rintro ⟨-, h⟩
        rw [hcold] at h
        cases h
      simp [ChainLog.start, hnot]
    · refine wp_bind.2 (wp_mono (retry_rounds_spec (Nat.zero_add _)) fun record w hw => ?_)
      rw [wp_pure]
      intro i
      have hretried : Retried cfg cooldowns now execution :=
        ⟨by simpa using hfailed, by simpa using hwarm⟩
      simp [hw i, hretried]
  exact hspec a w hrun i

end chain

/-! ## Section 5: Exposure -/

/-- After a retry that left, or may have left, exposure no further one is submitted. -/
def NeverDoublesDown (rounds : ℕ → Round) (submitted : List ℕ) : Prop :=
  ∀ i ∈ submitted, (rounds i).Exposes → ∀ j ∈ submitted, j ≤ i

/-- **A chain doubles down unless the next round is cut off**: a chain submits no retry
    after one that left exposure if and only if every such retry is in the last round, or
    in the next round the kill switch is armed, the quotes are unusable or the edge at
    them is below the floor. -/
theorem never_doubles_down_iff (cfg : Config) (cooldowns : Cooldowns) (now : ℚ)
    (execution : ArbExecution) (rounds : ℕ → Round) (a : Cooldowns × Option FailedTradeRecord)
    (w : ChainLog)
    (hrun : Exec (scripted rounds) (handle_execution cfg cooldowns now execution) .start a w) :
    NeverDoublesDown rounds w.submitted ↔
      (Retried cfg cooldowns now execution →
        ∀ i, Submits cfg execution.opportunity rounds 0 i → (rounds i).Exposes →
          i + 1 = cfg.max_retries ∨ (rounds (i + 1)).CutOff cfg execution.opportunity) := by
  constructor
  · intro h hretried i hi hexposed
    by_contra hnext
    obtain ⟨hmore, hopen⟩ := not_or.1 hnext
    have hleft := hi.left
    -- an exposing retry is no success, so the chain comes to the next round
    have hsubmits : Submits cfg execution.opportunity rounds 0 (i + 1) := by
      refine ⟨by omega, fun k _ hk => ?_, fun k _ hk => ?_⟩
      · rcases Nat.eq_or_lt_of_le hk with rfl | hlt
        · exact hopen
        · exact hi.open_to k (Nat.zero_le _) (by omega)
      · rcases Nat.eq_or_lt_of_le (Nat.le_of_lt_succ hk) with rfl | hlt
        · exact hexposed.not_succeeds
        · exact hi.unsuccessful k (Nat.zero_le _) hlt
    have hle := h i ((mem_submitted hrun i).2 ⟨hretried, hi⟩) hexposed (i + 1)
      ((mem_submitted hrun (i + 1)).2 ⟨hretried, hsubmits⟩)
    omega
  · intro h i hi hexposed j hj
    obtain ⟨hretried, hi⟩ := (mem_submitted hrun i).1 hi
    obtain ⟨-, hj⟩ := (mem_submitted hrun j).1 hj
    by_contra hlt
    rcases h hretried i hi hexposed with hlast | hcut
    · have hleft := hj.left
      omega
    · exact hj.open_to (i + 1) (Nat.zero_le _) (by omega) hcut

/-- Two rounds at 40 cents whose retries are recovering, with the kill switch as it is in
    the second. -/
def recovering_rounds (armed : Bool) (i : ℕ) : Round where
  armed_before := armed && i == 1
  armed_after := false
  yes_quote := .ok (some (forty_cents "kalshi" "KX-1"))
  no_quote := .ok (some (forty_cents "polymarket" "0x1"))
  outcome := .ok (some (fok_rejected "ARB-000002" .recovering))
  primary_filled := true

/-- Every question of a script is answered. -/
theorem scripted_total (rounds : ℕ → Round) (w : ChainLog) (c : Call) :
    ∃ a w', (scripted rounds).serve w c a w' := by
  cases c with
  | supervisor_armed => exact ⟨_, _, rfl, rfl⟩
  | sleep => exact ⟨(), _, rfl⟩
  | get_price => exact ⟨_, _, rfl, rfl⟩
  | execute_opportunity => exact ⟨_, _, rfl, rfl⟩

/-- A chain that the kill switch stops after the first of them. -/
theorem never_doubles_down_iff_armed :
    ∃ a w, Exec (scripted (recovering_rounds true))
        (handle_execution default_config [] 0 (fok_rejected "ARB-000001" .failed)) .start a w ∧
      (NeverDoublesDown (recovering_rounds true) w.submitted ↔
        (Retried default_config [] 0 (fok_rejected "ARB-000001" .failed) →
          ∀ i, Submits default_config at_forty (recovering_rounds true) 0 i →
            (recovering_rounds true i).Exposes → i + 1 = default_config.max_retries ∨
              (recovering_rounds true (i + 1)).CutOff default_config at_forty)) := by
  obtain ⟨a, w, hrun⟩ := Exec.total (scripted_total (recovering_rounds true))
    (handle_execution default_config [] 0 (fok_rejected "ARB-000001" .failed)) .start
  exact ⟨a, w, hrun, never_doubles_down_iff default_config [] 0 _ (recovering_rounds true) a w hrun⟩

/-- The loop looks for a success and for nothing else: after a retry that is recovering it
    submits the next. -/
theorem recovering_retry_is_retried :
    ¬ ∀ (cfg : Config) (cooldowns : Cooldowns) (now : ℚ) (execution : ArbExecution)
        (rounds : ℕ → Round) (a : Cooldowns × Option FailedTradeRecord) (w : ChainLog),
      Exec (scripted rounds) (handle_execution cfg cooldowns now execution) .start a w →
      NeverDoublesDown rounds w.submitted := by
  intro h
  obtain ⟨a, w, hrun⟩ := Exec.total (scripted_total (recovering_rounds false))
    (handle_execution default_config [] 0 (fok_rejected "ARB-000001" .failed)) .start
  have hretried : Retried default_config [] 0 (fok_rejected "ARB-000001" .failed) := by
    refine ⟨rfl, ?_⟩
    rw [suppressed, fok_rejected_key]
    rfl
  have hopen : ∀ k, ¬ (recovering_rounds false k).CutOff default_config at_forty := by
    intro k
    have hfresh : (recovering_rounds false k).fresh default_config at_forty = .ok at_forty :=
      fok_rejected_again.quoted
    rintro (harmed | harmed | hlow)
    · cases harmed
    · cases harmed
    · exact fok_rejected_again.edge (hlow at_forty hfresh)
  have hexposes : ∀ k, (recovering_rounds false k).Exposes := fun k => .inl ⟨_, rfl, rfl⟩
  have hsubmits : ∀ i, i < 2 → i ∈ w.submitted := fun i hi =>
    (mem_submitted hrun i).2 ⟨hretried, hi, fun k _ _ => hopen k,
      fun k _ _ => (hexposes k).not_succeeds⟩
  have hle := h _ _ _ _ _ a w hrun 0 (hsubmits 0 (by omega)) (hexposes 0) 1 (hsubmits 1 (by omega))
  omega

end Execution.RetryScheduler
