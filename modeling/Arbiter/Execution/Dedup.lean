import Arbiter.Execution.AutoExecutor

/-! # The Dedup Window of the Auto-Executor

  An opportunity that gets to the dedup gate is let through once for each market, pair of
  platforms and bucket of the clock. The buckets are as long as the window, but they lie
  where the clock puts them: the first opportunities of two neighbouring buckets may come
  right after each other.

  ## Contents

  - Section 1: keys and buckets.
  - Section 2: a sequence of opportunities, and which of them pass.
  - Section 3: what the executor remembers.
  - Section 4: when passes are a window apart.
-/

namespace AutoExecutor

/-! ## Section 1: Keys and buckets -/

/-- How long a bucket is. -/
def bucket_s (cfg : AutoExecutorConfig) : ℤ := max 1 cfg.dedup_window_seconds

/-- The bucket of a moment. -/
def bucket (cfg : AutoExecutorConfig) (now : ℚ) : ℤ := ⌊now / bucket_s cfg⌋

/-- The same market, the same platform for YES and the same for NO. -/
def SamePair (opp opp' : Scanner.ArbitrageOpportunity) : Prop :=
  opp.canonical_id = opp'.canonical_id ∧ opp.yes_platform = opp'.yes_platform ∧
    opp.no_platform = opp'.no_platform

section keys

variable {cfg : AutoExecutorConfig} {opp opp' : Scanner.ArbitrageOpportunity} {t t' : ℚ}

theorem bucket_s_pos (cfg : AutoExecutorConfig) : (0 : ℚ) < bucket_s cfg :=
  Int.cast_pos.mpr (lt_of_lt_of_le one_pos (le_max_left _ _))

/-- The window is no longer than a bucket. -/
theorem window_le_bucket_s (cfg : AutoExecutorConfig) :
    (cfg.dedup_window_seconds : ℚ) ≤ bucket_s cfg :=
  Int.cast_le.mpr (le_max_right _ _)

/-- A moment lies within its bucket. -/
theorem bucket_bounds (cfg : AutoExecutorConfig) (t : ℚ) :
    bucket cfg t * bucket_s cfg ≤ t ∧ t < (bucket cfg t + 1) * bucket_s cfg := by
  have hpos := bucket_s_pos cfg
  constructor
  · rw [← le_div_iff₀ hpos]
    exact Int.floor_le _
  · rw [← div_lt_iff₀ hpos]
    exact Int.lt_floor_add_one _

theorem bucket_mono (cfg : AutoExecutorConfig) (h : t ≤ t') : bucket cfg t ≤ bucket cfg t' := by
  apply Int.floor_le_floor
  exact div_le_div_of_nonneg_right h (bucket_s_pos cfg).le

/-- Two moments of one bucket are less than its length apart. -/
theorem lt_add_of_bucket_eq (h : bucket cfg t = bucket cfg t') : t' < t + bucket_s cfg := by
  have hfrom := (bucket_bounds cfg t).1
  have hto := (bucket_bounds cfg t').2
  rw [← h] at hto
  linarith

theorem dedup_key_eq : dedup_key cfg opp t =
    opp.canonical_id ++ ":" ++ opp.yes_platform ++ ":" ++ opp.no_platform ++ ":" ++
      Int.repr (bucket cfg t) :=
  rfl

/-- One pair has one key for each bucket. -/
theorem dedup_key_of_same (hpair : SamePair opp opp') (h : bucket cfg t = bucket cfg t') :
    dedup_key cfg opp t = dedup_key cfg opp' t' := by
  obtain ⟨hid, hyes, hno⟩ := hpair
  rw [dedup_key_eq, dedup_key_eq, hid, hyes, hno, h]

/-- A key ends in its bucket. -/
theorem bucket_of_dedup_key (h : dedup_key cfg opp t = dedup_key cfg opp' t') :
    bucket cfg t = bucket cfg t' := by
  rw [dedup_key_eq, dedup_key_eq] at h
  have hrepr := (Text.append_sep_inj rfl (Text.not_mem_repr (by decide) (by decide) _)
    (Text.not_mem_repr (by decide) (by decide) _) h).2
  exact Text.repr_injective hrepr

end keys

/-! ## Section 2: A sequence of opportunities -/

/-- The gates before the dedup gate. -/
def gates_before (cfg : AutoExecutorConfig) (s : State) (c : Consideration) : Prop :=
  cfg.enabled = true ∧ c.is_armed = false ∧ c.opp.requires_manual = false ∧
    mapping_ok cfg c.opp c.mapping = true ∧ ¬ suspicious_edge cfg c.opp ∧
    s.failed_cooldown c.opp.canonical_id ≤ c.now ∧
    c.should_skip .yes c.opp.yes_price = false ∧ c.should_skip .no c.opp.no_price = false

theorem gates_iff {cfg : AutoExecutorConfig} {s : State} {c : Consideration} :
    gates cfg s c ↔ gates_before cfg s c ∧
      dedup_key cfg c.opp c.now ∉ s.seen_dedup_keys.map Prod.fst := by
  unfold gates gates_before
  tauto

/-- The executor, having considered the first opportunities of a sequence. -/
def state_at (cfg : AutoExecutorConfig) (cs : List Consideration) (i : ℕ) : State :=
  (cs.take i).foldl (consider_opportunity cfg) idle

/-- The `i`th of the sequence gets to the dedup gate. -/
structure Reached (cfg : AutoExecutorConfig) (cs : List Consideration) (i : ℕ)
    (c : Consideration) : Prop where
  at_index : cs[i]? = some c
  before : gates_before cfg (state_at cfg cs i) c

/-- The `i`th of the sequence passes the dedup gate. -/
structure Passed (cfg : AutoExecutorConfig) (cs : List Consideration) (i : ℕ)
    (c : Consideration) : Prop extends Reached cfg cs i c where
  unseen : dedup_key cfg c.opp c.now ∉ (state_at cfg cs i).seen_dedup_keys.map Prod.fst

/-- The sequence is considered in the order of its times. -/
def InOrder (cs : List Consideration) : Prop := cs.Pairwise fun c d => c.now ≤ d.now

section sequence

variable {cfg : AutoExecutorConfig} {cs : List Consideration} {i j : ℕ} {c d : Consideration}

theorem state_at_succ (cfg : AutoExecutorConfig) (h : cs[i]? = some c) :
    state_at cfg cs (i + 1) = consider_opportunity cfg (state_at cfg cs i) c := by
  obtain ⟨hi, rfl⟩ := List.getElem?_eq_some_iff.mp h
  rw [state_at, List.take_add_one, List.getElem?_eq_getElem hi, List.foldl_append]
  rfl

theorem InOrder.le (horder : InOrder cs) (hc : cs[i]? = some c) (hd : cs[j]? = some d)
    (hij : i ≤ j) : c.now ≤ d.now := by
  obtain ⟨hi, rfl⟩ := List.getElem?_eq_some_iff.mp hc
  obtain ⟨hj, rfl⟩ := List.getElem?_eq_some_iff.mp hd
  rcases Nat.eq_or_lt_of_le hij with rfl | hlt
  · exact le_rfl
  · exact List.pairwise_iff_getElem.mp horder i j hi hj hlt

/-- Passing is having all gates open. -/
theorem passed_iff : Passed cfg cs i c ↔ cs[i]? = some c ∧ gates cfg (state_at cfg cs i) c := by
  constructor
  · intro h
    exact ⟨h.at_index, gates_iff.mpr ⟨h.before, h.unseen⟩⟩
  · intro h
    obtain ⟨hbefore, hunseen⟩ := gates_iff.mp h.2
    exact ⟨⟨h.1, hbefore⟩, hunseen⟩

end sequence

/-! ## Section 3: What is remembered -/

section remembered

variable {cfg : AutoExecutorConfig} {cs : List Consideration} {s : State} {c : Consideration}

/-- What follows a call leaves the keys alone. -/
theorem after_engine_seen (canonical_id : String) (result : EngineResult) (now : ℚ) :
    (s.after_engine cfg canonical_id result now).seen_dedup_keys = s.seen_dedup_keys := by
  have hfailed : ∀ t : State,
      (t.failed cfg canonical_id result now).seen_dedup_keys = t.seen_dedup_keys := fun _ => rfl
  cases result with
  | raised => simp [State.after_engine, EngineResult.is_failure]
  | no_result => simp [State.after_engine, EngineResult.is_failure, hfailed]
  | result status realized_pnl =>
    simp only [State.after_engine]
    split <;> split <;> split <;> rfl

theorem gate_closed_seen (canonical_id reason : String) (now : ℚ) :
    (s.gate_closed canonical_id reason now).seen_dedup_keys = s.seen_dedup_keys := by
  rw [State.gate_closed]
  split <;> rfl

/-- One consideration records its key if it passes, and nothing otherwise. -/
theorem consider_opportunity_seen (cfg : AutoExecutorConfig) (s : State) (c : Consideration) :
    (consider_opportunity cfg s c).seen_dedup_keys =
      if gates cfg s c then
        (s.record_dedup cfg (dedup_key cfg c.opp c.now) c.now).seen_dedup_keys
      else s.seen_dedup_keys := by
  rw [consider_opportunity]
  split
  case isFalse => rfl
  case isTrue =>
    cases prepared cfg c with
    | none => rfl
    | some opp =>
      show (ite _ _ _ : State).seen_dedup_keys = _
      split
      · rfl
      · split
        · exact after_engine_seen _ _ _
        · exact gate_closed_seen _ _ _

/-- What is remembered of the first `i` opportunities: only keys of some that got to the gate,
    and each such key until a later one is more than a bucket ahead. -/
structure Remembers (cfg : AutoExecutorConfig) (cs : List Consideration) (i : ℕ) : Prop where
  only : ∀ p ∈ (state_at cfg cs i).seen_dedup_keys, ∃ k < i, ∃ c, Reached cfg cs k c ∧
    p = (dedup_key cfg c.opp c.now, c.now)
  each : ∀ k < i, ∀ c, Reached cfg cs k c →
    dedup_key cfg c.opp c.now ∈ (state_at cfg cs i).seen_dedup_keys.map Prod.fst ∨
      ∃ j < i, ∃ d, cs[j]? = some d ∧ c.now + bucket_s cfg ≤ d.now

/-- A pass that prunes the key of an earlier one is more than a bucket ahead of it. -/
theorem far_ahead_of_pruned (hwindow : 1 ≤ cfg.dedup_window_seconds) {c' d : Consideration}
    (hkey : dedup_key cfg c.opp c.now = dedup_key cfg c'.opp c'.now)
    (hpruned : c'.now < d.now - cfg.dedup_window_seconds * 10) :
    c.now + bucket_s cfg ≤ d.now := by
  have hclose := lt_add_of_bucket_eq (bucket_of_dedup_key hkey).symm
  have hlength : bucket_s cfg = cfg.dedup_window_seconds := max_eq_right hwindow
  have hpos : (1 : ℚ) ≤ cfg.dedup_window_seconds := by exact_mod_cast hwindow
  rw [hlength] at hclose ⊢
  linarith

/-- An opportunity that gets to the gate is remembered from then on: it has just been recorded,
    or that is why it is stopped. -/
theorem mem_seen_of_reached {i : ℕ} (h : Reached cfg cs i c) :
    dedup_key cfg c.opp c.now ∈
      (consider_opportunity cfg (state_at cfg cs i) c).seen_dedup_keys.map Prod.fst := by
  rw [consider_opportunity_seen]
  split
  case isTrue => exact List.mem_cons_self
  case isFalse hstopped =>
    rw [gates_iff, not_and, not_not] at hstopped
    exact hstopped h.before

/-- The step: one more opportunity. -/
theorem Remembers.succ (hwindow : 1 ≤ cfg.dedup_window_seconds) {i : ℕ} {d : Consideration}
    (h : Remembers cfg cs i) (hd : cs[i]? = some d) : Remembers cfg cs (i + 1) := by
  have hstate := state_at_succ cfg hd
  by_cases hgates : gates cfg (state_at cfg cs i) d
  · -- it passes: its key is recorded, and the old ones are pruned
    have hreached : Reached cfg cs i d := ⟨hd, (gates_iff.mp hgates).1⟩
    have hseen := consider_opportunity_seen cfg (state_at cfg cs i) d
    rw [if_pos hgates, ← hstate] at hseen
    constructor
    · intro p hp
      rw [hseen] at hp
      rcases List.mem_cons.mp hp with rfl | hold
      · exact ⟨i, by omega, d, hreached, rfl⟩
      · obtain ⟨k, hk, c, hc, heq⟩ := h.only p (List.mem_of_mem_filter hold)
        exact ⟨k, by omega, c, hc, heq⟩
    · intro k hk c hc
      rcases Nat.lt_succ_iff_lt_or_eq.mp hk with hlt | rfl
      · rcases h.each k hlt c hc with hkept | ⟨j, hj, e, he, hfar⟩
        · obtain ⟨p, hp, hpkey⟩ := List.mem_map.mp hkept
          by_cases hsame : p.1 = dedup_key cfg d.opp d.now
          · left
            rw [hseen, ← hpkey, hsame]
            exact List.mem_cons_self
          · by_cases hcutoff : d.now - cfg.dedup_window_seconds * 10 ≤ p.2
            · left
              rw [hseen, ← hpkey]
              refine List.mem_map_of_mem (List.mem_cons_of_mem _ (List.mem_filter.mpr ⟨hp, ?_⟩))
              simp [hsame, hcutoff]
            · right
              obtain ⟨_, -, c', -, rfl⟩ := h.only p hp
              exact ⟨i, by omega, d, hd,
                far_ahead_of_pruned hwindow hpkey.symm (not_le.mp hcutoff)⟩
        · exact .inr ⟨j, by omega, e, he, hfar⟩
      · left
        obtain rfl : c = d := Option.some.inj (hc.at_index.symm.trans hd)
        rw [hstate]
        exact mem_seen_of_reached hc
  · -- it is stopped: nothing changes
    have hseen := consider_opportunity_seen cfg (state_at cfg cs i) d
    rw [if_neg hgates, ← hstate] at hseen
    constructor
    · intro p hp
      rw [hseen] at hp
      obtain ⟨k, hk, hrest⟩ := h.only p hp
      exact ⟨k, by omega, hrest⟩
    · intro k hk c hc
      rcases Nat.lt_succ_iff_lt_or_eq.mp hk with hlt | rfl
      · rw [hseen]
        rcases h.each k hlt c hc with hkept | ⟨j, hj, hrest⟩
        · exact .inl hkept
        · exact .inr ⟨j, by omega, hrest⟩
      · left
        obtain rfl : c = d := Option.some.inj (hc.at_index.symm.trans hd)
        rw [hstate]
        exact mem_seen_of_reached hc

/-- The run: so it is after any number of them. -/
theorem remembers (hwindow : 1 ≤ cfg.dedup_window_seconds) {i : ℕ} (hi : i ≤ cs.length) :
    Remembers cfg cs i := by
  induction i with
  | zero =>
    constructor
    · intro p hp
      exact absurd hp List.not_mem_nil
    · intro k hk
      omega
  | succ i ih => exact (ih (by omega)).succ hwindow (List.getElem?_eq_getElem hi)

/-- **What passes**: an opportunity that gets to the gate and is the first of its key there. -/
theorem passed_iff_first (hwindow : 1 ≤ cfg.dedup_window_seconds) (horder : InOrder cs) {i : ℕ} :
    Passed cfg cs i c ↔ Reached cfg cs i c ∧ ∀ k < i, ∀ b, Reached cfg cs k b →
      dedup_key cfg b.opp b.now ≠ dedup_key cfg c.opp c.now := by
  constructor
  · intro h
    refine ⟨h.toReached, fun k hk b hb hkey => ?_⟩
    obtain ⟨hi, -⟩ := List.getElem?_eq_some_iff.mp h.at_index
    rcases (remembers hwindow hi.le).each k hk b hb with hkept | ⟨j, hj, e, he, hfar⟩
    · rw [hkey] at hkept
      exact h.unseen hkept
    · -- the bucket would have to be over
      have hclose := lt_add_of_bucket_eq (bucket_of_dedup_key hkey)
      have hle := horder.le he h.at_index hj.le
      linarith
  · intro h
    obtain ⟨hreached, hfirst⟩ := h
    refine ⟨hreached, fun hseen => ?_⟩
    obtain ⟨p, hp, hpkey⟩ := List.mem_map.mp hseen
    obtain ⟨hi, -⟩ := List.getElem?_eq_some_iff.mp hreached.at_index
    obtain ⟨k, hk, b, hb, rfl⟩ := (remembers hwindow hi.le).only p hp
    exact hfirst k hk b hb hpkey

end remembered

/-! ## Section 4: When passes are a window apart -/

/-- The dedup window holds: two passes of one pair are a window apart. -/
def WindowHolds (cfg : AutoExecutorConfig) (cs : List Consideration) : Prop :=
  ∀ i j c d, i < j → Passed cfg cs i c → Passed cfg cs j d → SamePair c.opp d.opp →
    cfg.dedup_window_seconds ≤ d.now - c.now

/-- The first of its key to get to the gate. -/
structure Opens (cfg : AutoExecutorConfig) (cs : List Consideration) (i : ℕ)
    (c : Consideration) : Prop extends Reached cfg cs i c where
  first : ∀ k < i, ∀ b, Reached cfg cs k b →
    dedup_key cfg b.opp b.now ≠ dedup_key cfg c.opp c.now

/-- The first opportunities of one pair in two neighbouring buckets come a window apart. -/
def EdgesApart (cfg : AutoExecutorConfig) (cs : List Consideration) : Prop :=
  ∀ i j c d, i < j → Opens cfg cs i c → Opens cfg cs j d → SamePair c.opp d.opp →
    bucket cfg d.now = bucket cfg c.now + 1 → cfg.dedup_window_seconds ≤ d.now - c.now

section window

variable {cfg : AutoExecutorConfig} {cs : List Consideration} {c d : Consideration}

/-- Two buckets that are not neighbours are more than a window apart. -/
theorem window_le_of_not_next (h : bucket cfg c.now + 1 < bucket cfg d.now) :
    cfg.dedup_window_seconds ≤ d.now - c.now := by
  have hto := (bucket_bounds cfg c.now).2
  have hfrom := (bucket_bounds cfg d.now).1
  have hpos := bucket_s_pos cfg
  have hwindow := window_le_bucket_s cfg
  have htwo : bucket cfg c.now + 2 ≤ bucket cfg d.now := by omega
  have hnext : (bucket cfg c.now : ℚ) + 2 ≤ bucket cfg d.now := by exact_mod_cast htwo
  nlinarith [mul_le_mul_of_nonneg_right hnext hpos.le]

/-- **When the dedup window holds**: exactly when the first opportunities of a pair in two
    neighbouring buckets are a window apart. -/
theorem dedup_window_iff (horder : InOrder cs) : WindowHolds cfg cs ↔ EdgesApart cfg cs := by
  by_cases hwindow : 1 ≤ cfg.dedup_window_seconds
  · have hopens : ∀ i c, Passed cfg cs i c ↔ Opens cfg cs i c := fun i c =>
      (passed_iff_first hwindow horder).trans ⟨fun h => ⟨h.1, h.2⟩, fun h => ⟨h.toReached, h.first⟩⟩
    constructor
    · intro h i j c d hij hc hd hpair _
      exact h i j c d hij ((hopens i c).mpr hc) ((hopens j d).mpr hd) hpair
    · intro h i j c d hij hc hd hpair
      have hle := bucket_mono cfg (horder.le hc.at_index hd.at_index hij.le)
      -- not the same bucket, as the later one is the first of its key
      have hne : bucket cfg c.now ≠ bucket cfg d.now := fun hsame =>
        ((hopens j d).mp hd).first i hij c hc.toReached (dedup_key_of_same hpair hsame)
      by_cases hnext : bucket cfg d.now = bucket cfg c.now + 1
      · exact h i j c d hij ((hopens i c).mp hc) ((hopens j d).mp hd) hpair hnext
      · exact window_le_of_not_next (by omega)
  · -- without a window any order will do
    have hzero : (cfg.dedup_window_seconds : ℚ) ≤ 0 := by
      exact_mod_cast (by omega : cfg.dedup_window_seconds ≤ 0)
    have htrivial : ∀ {i j : ℕ} {c d : Consideration}, i < j → cs[i]? = some c → cs[j]? = some d →
        (cfg.dedup_window_seconds : ℚ) ≤ d.now - c.now := by
      intro i j c d hij hc hd
      have := horder.le hc hd hij.le
      linarith
    constructor
    · intro _ i j c d hij hc hd _ _
      exact htrivial hij hc.at_index hd.at_index
    · intro _ i j c d hij hc hd _
      exact htrivial hij hc.at_index hd.at_index

end window

/-- The published opportunity, taken from the queue at a moment. -/
def house_consideration_at (now : ℚ) : Consideration :=
  { house_consideration Scanner.kalshi_quote with now }

/-- It is taken from the queue right before a bucket ends, and again right after. -/
def emitted_twice : List Consideration :=
  [house_consideration_at (10049 / 10), house_consideration_at 1005]

theorem emitted_twice_in_order : InOrder emitted_twice := by
  have hle : (house_consideration_at (10049 / 10)).now ≤ (house_consideration_at 1005).now := by
    decide +kernel
  simpa [InOrder, emitted_twice] using hle

/-- `dedup_window_iff` of two opportunities a tenth of a second apart. -/
theorem dedup_window_iff_emitted_twice :
    WindowHolds default_config emitted_twice ↔ EdgesApart default_config emitted_twice :=
  dedup_window_iff emitted_twice_in_order

/-- **One opportunity is executed twice in a tenth of a second**, at a window of five: a bucket
    ends in between. -/
theorem executed_twice_within_window :
    InOrder emitted_twice ∧
      (state_at default_config emitted_twice emitted_twice.length).handovers.length = 2 ∧
      ¬ WindowHolds default_config emitted_twice := by
  refine ⟨emitted_twice_in_order, by decide +kernel, fun h => ?_⟩
  have hfirst : Passed default_config emitted_twice 0 (house_consideration_at (10049 / 10)) :=
    passed_iff.mpr ⟨rfl, by decide +kernel⟩
  have hsecond : Passed default_config emitted_twice 1 (house_consideration_at 1005) :=
    passed_iff.mpr ⟨rfl, by decide +kernel⟩
  have hapart := h 0 1 _ _ (by omega) hfirst hsecond ⟨rfl, rfl, rfl⟩
  exact absurd hapart (by decide +kernel)

end AutoExecutor
