import Mathlib.Data.List.Sort
import Mathlib.Data.Prod.Lex
import Arbiter.Mapping.Keeps

/-! # A Database That Answers

  One way in which the database can answer every statement: nothing raises that need not,
  every stamp is the same, rows are sorted stably. Runs of operations on given tables are
  runs against it.
-/

namespace Mapping

open Effect

/-! ### Sorting rows -/

/-- The order of `outranks` as an order of keys. -/
def MarketMapping.rank_key (m : MarketMapping) : ℕ ×ₗ (ℕ ×ₗ ℤ) :=
  toLex (m.rank.1, toLex (m.rank.2, -m.updated_at))

theorem outranks_iff (r s : MarketMapping) : r.outranks s ↔ r.rank_key < s.rank_key := by
  simp only [MarketMapping.outranks, MarketMapping.rank_key, Prod.Lex.toLex_lt_toLex, neg_lt_neg_iff]

/-- The order of `loads_before` as an order of keys. -/
def MarketMapping.load_key (m : MarketMapping) : ℕ ×ₗ ℤ :=
  toLex (m.load_rank, -m.updated_at)

theorem loads_before_iff (r s : MarketMapping) : r.loads_before s ↔ r.load_key < s.load_key := by
  simp only [MarketMapping.loads_before, MarketMapping.load_key, Prod.Lex.toLex_lt_toLex,
    neg_lt_neg_iff]

/-- Rows sorted by a key. -/
def sort_by {κ : Type} [LinearOrder κ] (key : MarketMapping → κ) (rows : List MarketMapping) :
    List MarketMapping :=
  rows.insertionSort fun r s => key r ≤ key s

/-- The rows a query selects, sorted. -/
theorem sort_by_ordered {κ : Type} [LinearOrder κ] (key : MarketMapping → κ) (t : Mappings)
    (p : MarketMapping → Bool) {before : MarketMapping → MarketMapping → Prop}
    (hbefore : ∀ r s, before r s ↔ key r < key s) :
    t.Ordered p before (sort_by key (t.rows.filter p)) := by
  refine ⟨List.perm_insertionSort _ _, ?_⟩
  have : Std.Total fun r s : MarketMapping => key r ≤ key s := ⟨fun r s => le_total _ _⟩
  have : IsTrans MarketMapping fun r s => key r ≤ key s := ⟨fun _ _ _ => le_trans⟩
  refine (List.pairwise_insertionSort (fun r s : MarketMapping => key r ≤ key s) _).imp ?_
  intro r s hle hlt
  exact absurd ((hbefore s r).mp hlt) (not_lt.mpr hle)

/-! ### Answers -/

/-- The first active row of a pair. -/
def first_of_pair (t : Mappings) (pair : String × String) : Option MarketMapping :=
  (sort_by MarketMapping.rank_key
    (t.rows.filter fun r => r.status.active && r.pair = pair)).head?

/-- The ids of these. -/
def kept_ids (t : Mappings) (pair : String × String) : String :=
  ((first_of_pair t pair).map (·.canonical_id)).getD ""

theorem kept_ids_first (t : Mappings) : RanksFirst t (kept_ids t) := by
  intro r hr hactive _
  have hordered := sort_by_ordered MarketMapping.rank_key t
    (fun s => s.status.active && s.pair = r.pair) outranks_iff
  cases hrows : sort_by MarketMapping.rank_key
      (t.rows.filter fun s => s.status.active && s.pair = r.pair) with
  | nil =>
      have hmem : r ∈ sort_by MarketMapping.rank_key
          (t.rows.filter fun s => s.status.active && s.pair = r.pair) :=
        hordered.mem_iff.mpr ⟨hr, by simp [hactive]⟩
      rw [hrows] at hmem
      exact absurd hmem (List.not_mem_nil)
  | cons s rest =>
      rw [hrows] at hordered
      have hs := hordered.mem_iff.mp (List.mem_cons_self ..)
      simp only [Bool.and_eq_true, decide_eq_true_eq] at hs
      refine ⟨s, hs.1, hs.2.1, hs.2.2, by simp [kept_ids, first_of_pair, hrows], ?_⟩
      intro s' hs' hactive' hpair
      exact hordered.not_before_head (fun r h => lt_irrefl _ ((outranks_iff r r).mp h)) hs'
        (by simp [hactive', hpair])

/-- The database, answering. -/
def store_oracle : Oracle Call Answer World
  | w, .select id => (some (w.table.find id), w)
  | w, .select_exact_pair k p => (some (sort_by MarketMapping.rank_key (w.table.rows.filter
      fun r => r.kalshi_market_id = k && r.polymarket_slug = p)).head?, w)
  | w, .select_platform platform id => (some (sort_by MarketMapping.rank_key (w.table.rows.filter
      fun r => r.platform_id platform = id && id ≠ "")).head?, w)
  | w, .select_status status limit =>
      (some ((w.table.rows.filter fun r => r.status = status).take limit), w)
  | w, .select_confirmed => (some (w.table.rows.filter fun r => r.status = .confirmed), w)
  | w, .select_active limit => (some ((sort_by MarketMapping.load_key
      (w.table.rows.filter fun r => r.status.active)).take limit), w)
  | w, .insert m =>
      if m.resolution_criteria.readable then
        (some (), { w with table := w.table.put (m.inserted 0 (w.table.find m.canonical_id)) })
      else (none, w)
  | w, .insert_seed m =>
      (some (), { w with table := w.table.put (m.seeded 0 (w.table.find m.canonical_id)) })
  | w, .expire_exact_pair id k p =>
      (some ((w.table.rows.filter (duplicates id k p)).map (·.canonical_id)),
        { w with table := retire_where w.table (duplicates id k p) 0 })
  | w, .expire_ranked =>
      (some ((w.table.rows.filter (ranked_out (kept_ids w.table))).map (·.canonical_id)),
        { w with table := retire_where w.table (ranked_out (kept_ids w.table)) 0 })
  | w, .disable id reason => (some ((w.table.find id).any (·.allow_auto_trade)), { w with
      table := update_where w.table (fun r => r.canonical_id = id && r.allow_auto_trade)
        (·.disable 0 ("\n[auto-disabled " ++ "" ++ ": " ++ reason ++ "]"))
        (MarketMapping.disable_id 0 _) })
  | w, .mark_unavailable id unavailable => (some (w.table.find id).isSome, { w with
      table := update_where w.table (·.canonical_id = id) (·.mark 0 unavailable)
        (MarketMapping.mark_id 0 unavailable) })
  | w, .set_conid id conid no_side => (some (w.table.find id).isSome, { w with
      table := update_where w.table (·.canonical_id = id) (·.rebind 0 conid no_side)
        (MarketMapping.rebind_id 0 conid no_side) })
  | w, .delete id => (some (w.table.find id).isSome, { w with table := w.table.erase id })
  | w, .runtime_put id entry => ((), { w with
      runtime := fun c => if c = id then some entry else w.runtime c })
  | w, .runtime_drop ids => ((), { w with
      runtime := fun c => if c ∈ ids then none else w.runtime c })
  | w, .runtime_replace entries => ((), { w with
      runtime := fun c => (entries.reverse.find? (·.1 = c)).map Prod.snd })
  | w, .turn_to _ => ((), w)

theorem store_oracle_serves (w : World) (c : Call) :
    store_serve w c (store_oracle w c).1 (store_oracle w c).2 := by
  cases c with
  | select id => exact ⟨rfl, .inr rfl⟩
  | select_exact_pair k p =>
      exact ⟨rfl, .inr ⟨_, rfl, sort_by_ordered _ _ _ outranks_iff⟩⟩
  | select_platform platform id =>
      exact ⟨rfl, .inr ⟨_, rfl, sort_by_ordered _ _ _ outranks_iff⟩⟩
  | select_status status limit =>
      exact ⟨rfl, .inr ⟨_, rfl, .refl _, List.pairwise_of_forall fun _ _ h => h⟩⟩
  | select_confirmed => exact ⟨rfl, .inr ⟨_, rfl, .refl _, List.pairwise_of_forall fun _ _ h => h⟩⟩
  | select_active limit => exact ⟨rfl, .inr ⟨_, rfl, sort_by_ordered _ _ _ loads_before_iff⟩⟩
  | insert m =>
      by_cases hm : m.resolution_criteria.readable = true
      · have hanswer : store_oracle w (.insert m) = (some (), { w with
            table := w.table.put (m.inserted 0 (w.table.find m.canonical_id)) }) := if_pos hm
        rw [hanswer]
        exact .inr ⟨rfl, hm, 0, rfl⟩
      · have hanswer : store_oracle w (.insert m) = (none, w) := if_neg hm
        rw [hanswer]
        exact .inl ⟨rfl, rfl⟩
  | insert_seed m => exact .inr ⟨rfl, 0, rfl⟩
  | expire_exact_pair id k p => exact .inr ⟨0, rfl, rfl⟩
  | expire_ranked => exact .inr ⟨0, kept_ids w.table, kept_ids_first w.table, rfl, rfl⟩
  | disable id reason => exact .inr ⟨0, "", rfl, rfl⟩
  | mark_unavailable id unavailable => exact .inr ⟨0, rfl, rfl⟩
  | set_conid id conid no_side => exact .inr ⟨0, rfl, rfl⟩
  | delete id => exact .inr ⟨rfl, rfl⟩
  | runtime_put _ _ | runtime_drop _ | runtime_replace _ | turn_to _ => exact rfl

/-- The world after an operation, answered so. -/
def after {α : Type} (op : Op α) (w : World) : World := (play store_oracle op w).2

theorem ends_after {α : Type} (op : Op α) (w : World) :
    Raising.Ends store_env op w (play store_oracle op w).1 (after op w) :=
  exec_play (E := store_env) store_oracle_serves op w

theorem store_oracle_answered (w : World) (c : Call) : Answered w c (store_oracle w c).1 := by
  cases c with
  | insert m => exact fun _ => ⟨m, rfl⟩
  | runtime_put _ _ | runtime_drop _ | runtime_replace _ | turn_to _ => exact False.elim
  | select _ | select_exact_pair _ _ | select_platform _ _ | select_status _ _
  | select_confirmed | select_active _ | insert_seed _ | expire_exact_pair _ _ _
  | expire_ranked | disable _ _ | mark_unavailable _ _ | set_conid _ _ _ | delete _ =>
      intro hraised
      cases hraised

theorem ends_after_answered {α : Type} (op : Op α) (w : World) :
    Raising.Ends (store_env.restrict Answered) op w (play store_oracle op w).1 (after op w) :=
  exec_play (E := store_env.restrict Answered)
    (fun w c => ⟨store_oracle_answered w c, store_oracle_serves w c⟩) op w

/-- The items a play turns to pass a test. -/
def turns_pass (test : World → Turn → Bool) : World → Call → Bool
  | w, .turn_to turn => test w turn
  | _, _ => true

theorem ends_after_turns {α : Type} {cond : World → Turn → Prop} (test : World → Turn → Bool)
    (htest : ∀ w turn, test w turn = true → cond w turn) {op : Op α} {w : World}
    (hop : play_passes store_oracle (turns_pass test) op w = true) :
    Raising.Ends (store_env.restrict (AtTurns cond)) op w (play store_oracle op w).1
      (after op w) := by
  refine exec_play_restrict (E := store_env) store_oracle_serves (fun w c hpass => ?_) hop
  cases c with
  | turn_to turn => exact htest w turn hpass
  | _ => exact trivial

/-! ### Rows of runs -/

/-- A row that is traded. -/
def traded_row : MarketMapping :=
  { canonical_id := "FED", description := "", status := .confirmed, allow_auto_trade := true
    kalshi_market_id := "KX", polymarket_slug := "px", resolution_match_status := "identical" }

theorem traded_row_nodup : ([traded_row].map (·.canonical_id)).Nodup := List.nodup_singleton _

end Mapping
