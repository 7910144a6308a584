import Arbiter.Framework.Interleaving
import Arbiter.Mapping.Conids
import Arbiter.Mapping.Replay

/-! # Disabling Auto-Trade among Other Writers

  The store's writers run as tasks that take turns statement by statement. Many read a row,
  wait, and write every column back, the permission as they have read it; so a row that
  `disable_auto_trade` has disabled in between is traded again.

  A row stays disabled, until a call passes `allow_auto_trade=True` for it, where no task in
  flight is still to write it back as it was.
-/

namespace Mapping

open Effect LTS

/-! ### Writers -/

/-- An operation of the store, or the discovery of conids. -/
inductive Writer
  | store (op : StoreOp)
  | discover (client : FxClient) (events : List FxEvent) (dry_run : Bool)

/-- The call passes `allow_auto_trade=True` itself: an upsert of such a row, an update to
    it, or a seed. -/
def StoreOp.explicit : StoreOp → Bool
  | .upsert m => m.allow_auto_trade
  | .update_status _ _ _ allow_auto_trade => allow_auto_trade = some true
  | .seed_from_records _ _ => true
  | _ => false

/-- Whether what a task writes next was passed explicitly: a candidate may carry the
    permission of a promotion. -/
def explicit_after (explicit : Bool) : Call → Bool
  | .turn_to (.candidate c) => c.allow_auto_trade
  | .turn_to (.stale _) => false
  | _ => explicit

section writers

variable (digest : String → String) (spelled : Json ℚ → String)

/-- What a writer does. -/
def Writer.run : Writer → Op Unit
  | .store op => op.run digest spelled
  | .discover client events dry_run => do
      let _ ← Mapping.discover client spelled events dry_run
      pure ()

/-- It passes `allow_auto_trade=True` itself. -/
def Writer.explicit : Writer → Bool
  | .store op => op.explicit
  | .discover _ _ _ => false

/-- A writer, as a job. -/
def Writer.job (writer : Writer) : Job Call Answer Bool :=
  ⟨writer.explicit, writer.run digest spelled⟩

end writers

/-- The store, and whether the row was disabled since its permission was last passed. -/
structure Watched where
  store : World
  disabled : Bool

/-- The call writes the row with the permission. -/
def permits (id : String) : Call → Bool
  | .insert m | .insert_seed m => m.canonical_id = id && m.allow_auto_trade
  | _ => false

/-- The call disables the row, which is not disabled yet. -/
def disables (id : String) (w : World) : Call → Bool
  | .disable c _ => c = id && (w.table.find id).any (·.allow_auto_trade)
  | _ => false

/-- An `UPDATE` found a row. -/
def found (answer : Option Bool) : Bool := answer.getD false

/-- Whether the row counts as disabled after a call. -/
def disabled_after (id : String) (explicit disabled : Bool) : (c : Call) → Answer c → Bool
  | .disable c _, a => if c = id && found a then true else disabled
  | .insert m, a =>
      if permits id (.insert m) && explicit && Option.isSome a then false else disabled
  | .insert_seed m, a =>
      if permits id (.insert_seed m) && explicit && Option.isSome a then false else disabled
  | _, _ => disabled

/-- The database, with what was disabled. -/
def watched_env (id : String) (explicit : Bool) : Env Call Answer Watched where
  serve := fun w c a w' => store_serve w.store c a w'.store ∧
    w'.disabled = disabled_after id explicit w.disabled c a

/-- The writers, call by call. -/
def writers (digest : String → String) (spelled : Json ℚ → String) (id : String) :
    LTS.System (Crew Call Answer Watched Bool) (Turning Writer) :=
  interleaved (watched_env id) explicit_after (Writer.job digest spelled) fun w =>
    w.disabled = false

/-! ### Quiet tasks -/

/-- The row may be written with the permission by a call that was passed it. -/
def WritesPassed (id : String) (explicit : Bool) (c : Call) : Prop :=
  permits id c = true → explicit = true

/-- What is read of the row is disabled. -/
def ReadsDisabled (id : String) : (c : Call) → Answer c → Prop
  | .select _, a => ∀ r, a = some (some r) → r.canonical_id = id → r.allow_auto_trade = false
  | .select_exact_pair _ _, a =>
      ∀ r, a = some (some r) → r.canonical_id = id → r.allow_auto_trade = false
  | .select_platform _ _, a =>
      ∀ r, a = some (some r) → r.canonical_id = id → r.allow_auto_trade = false
  | .select_status _ _, a =>
      ∀ rows, a = some rows → ∀ r ∈ rows, r.canonical_id = id → r.allow_auto_trade = false
  | .select_confirmed, a =>
      ∀ rows, a = some rows → ∀ r ∈ rows, r.canonical_id = id → r.allow_auto_trade = false
  | .select_active _, a =>
      ∀ rows, a = some rows → ∀ r ∈ rows, r.canonical_id = id → r.allow_auto_trade = false
  | _, _ => True

/-- The task will not write the row back as it was: from now on, reading the row disabled,
    it writes it with the permission only if that is passed. -/
abbrev QuietFor (id : String) (job : Job Call Answer Bool) : Prop :=
  job.Quiet explicit_after (WritesPassed id) (ReadsDisabled id)

section quiet

variable {digest : String → String} {spelled : Json ℚ → String} {id : String}

/-- What programs of the store do, given that the row is read disabled. -/
abbrev Writes (id : String) {α : Type} (Q : Bool → Option α → Prop) (explicit : Bool)
    (p : Op α) : Prop :=
  Raising.Given explicit_after (WritesPassed id) (ReadsDisabled id) Q explicit p

theorem upsert_writes {m : MarketMapping} {explicit : Bool}
    (hm : m.canonical_id = id → m.allow_auto_trade = true → explicit = true) :
    Writes id (fun n _ => n = explicit) explicit (upsert spelled m) := by
  have hpassed : WritesPassed id explicit (.insert (enforce_auto_trade_safety spelled m)) := by
    intro hpermits
    simp only [permits, Bool.and_eq_true, decide_eq_true_eq] at hpermits
    obtain he | he := enforce_eq spelled m <;> rw [he] at hpermits
    · exact hm hpermits.1 hpermits.2
    · cases hpermits.2
  refine Raising.given_bind ⟨hpassed, fun _ _ => ⟨fun _ _ => ?_, fun _ => rfl⟩⟩
  refine Raising.given_bind ?_
  have hlast (ids : List String) : Writes id (fun n _ => n = explicit) explicit (do
      runtime_drop ids
      runtime_put (enforce_auto_trade_safety spelled m).canonical_id
        (enforce_auto_trade_safety spelled m).to_dict
      pure (enforce_auto_trade_safety spelled m)) := by
    refine Raising.given_bind (Raising.given_lift ⟨nofun, fun _ _ => ⟨fun _ _ => ?_, fun _ => rfl⟩⟩)
    refine Raising.given_bind (Raising.given_lift ⟨nofun, fun _ _ => ⟨fun _ _ => ?_, fun _ => rfl⟩⟩)
    exact rfl
  obtain ⟨-, -, -, hsent⟩ | ⟨-, hnothing⟩ :=
    expire_duplicates_eq (enforce_auto_trade_safety spelled m)
  · rw [hsent]
    exact ⟨nofun, fun _ _ => ⟨fun ids _ => hlast ids, fun _ => rfl⟩⟩
  · rw [hnothing]
    exact ⟨fun ids _ => hlast ids, fun _ => rfl⟩

/-- What a row is looked up by does not matter. -/
abbrev LooksDisabled (id : String) (explicit n : Bool)
    (result : Option (Option MarketMapping)) : Prop :=
  n = explicit ∧ ∀ m, result = some (some m) → m.canonical_id = id → m.allow_auto_trade = false

theorem get_writes (c : String) (explicit : Bool) :
    Writes id (LooksDisabled id explicit) explicit (get c) :=
  ⟨nofun, fun _ ha => ⟨rfl, ha⟩⟩

theorem get_by_exact_pair_writes (k p : String) (explicit : Bool) :
    Writes id (LooksDisabled id explicit) explicit (get_by_exact_pair k p) :=
  ⟨nofun, fun _ ha => ⟨rfl, ha⟩⟩

theorem get_by_platform_writes (platform : Platform) (market_id : String) (explicit : Bool) :
    Writes id (LooksDisabled id explicit) explicit (get_by_platform platform market_id) :=
  ⟨nofun, fun _ ha => ⟨rfl, ha⟩⟩

theorem update_status_writes (c : String) (status : MappingStatus) (review_note : String)
    (allow_auto_trade : Option Bool) :
    Writes id (fun _ _ => True) (decide (allow_auto_trade = some true))
      (update_status spelled c status review_note allow_auto_trade) := by
  refine Raising.given_bind ((get_writes c _).mono ?_)
  rintro n found ⟨rfl, hfound⟩
  refine ⟨fun m hm => ?_, fun _ => trivial⟩
  cases m with
  | none => exact trivial
  | some m =>
      refine Raising.given_bind ((upsert_writes ?_).mono fun _ _ _ => ⟨fun _ _ => ?_, ?_⟩)
      · intro hid hallow
        have hdisabled := hfound m hm hid
        cases allow_auto_trade with
        | none =>
            rw [show Option.getD none m.allow_auto_trade = m.allow_auto_trade from rfl,
              hdisabled] at hallow
            cases hallow
        | some allow => simpa using hallow
      · exact trivial
      · exact fun _ => trivial

/-- A candidate gives the permission only where it carries it. -/
theorem merge_permits {c : Candidate} {existing : MarketMapping}
    (hdisabled : existing.canonical_id = id → existing.allow_auto_trade = false)
    (hid : (merge_candidate c existing).canonical_id = id)
    (hallow : (merge_candidate c existing).allow_auto_trade = true) :
    c.allow_auto_trade = true := by
  have hallow : (merged_status c existing).2 = true := hallow
  unfold merged_status at hallow
  split_ifs at hallow
  · rw [hdisabled hid] at hallow
    cases hallow
  · split at hallow
    · exact hallow
    · cases hallow
    · cases hallow

theorem mapping_from_candidate_writes (c : Candidate) (explicit : Bool) :
    Writes id (fun n result => n = explicit ∧ ∀ m, result = some (some m) →
      m.canonical_id = id → m.allow_auto_trade = true → c.allow_auto_trade = true) explicit
      (mapping_from_candidate digest c) := by
  by_cases hpaired : c.paired = true
  · rw [mapping_from_candidate, if_neg (by simp [hpaired])]
    refine Raising.given_bind ((get_by_exact_pair_writes _ _ explicit).mono ?_)
    rintro n p ⟨rfl, hp⟩
    refine ⟨fun pair_mapping hpair => ?_, fun _ => ⟨rfl, by simp⟩⟩
    refine Raising.given_bind ((get_by_platform_writes _ _ n).mono ?_)
    rintro n k ⟨rfl, hk⟩
    refine ⟨fun kalshi_mapping hkalshi => ?_, fun _ => ⟨rfl, by simp⟩⟩
    refine Raising.given_bind ((get_by_platform_writes _ _ n).mono ?_)
    rintro n q ⟨rfl, hq⟩
    refine ⟨fun poly_mapping hpoly => ?_, fun _ => ⟨rfl, by simp⟩⟩
    refine ⟨rfl, fun m hm hid hallow => ?_⟩
    obtain ⟨existing, hexisting, rfl⟩ := Option.map_eq_some_iff.mp (Option.some.inj hm)
    refine merge_permits (fun hexid => ?_) hid hallow
    obtain h | ⟨h, -⟩ | ⟨-, h | h | h⟩ := existing_mapping_cases hexisting
    · exact hp existing (by rw [hpair, h]) hexid
    · exact hk existing (by rw [hkalshi, h]) hexid
    · exact hk existing (by rw [hkalshi, h]) hexid
    · exact hq existing (by rw [hpoly, h]) hexid
    · rw [h]
      rfl
  · rw [mapping_from_candidate, if_pos (by simpa using hpaired)]
    exact ⟨rfl, by simp⟩

theorem write_candidates_writes (candidates : List Candidate) (explicit : Bool) :
    Writes id (fun _ _ => True) explicit (write_candidates digest spelled candidates) := by
  refine Raising.given_foldlM (fun written c _ n _ => ?_) 0 trivial
  refine Raising.given_bind (Raising.given_lift ⟨nofun, fun _ _ => ⟨fun _ _ => ?_, fun _ => trivial⟩⟩)
  refine Raising.given_bind ((mapping_from_candidate_writes c _).mono ?_)
  rintro n found ⟨rfl, hfound⟩
  refine ⟨fun m hm => ?_, fun _ => trivial⟩
  cases m with
  | none => exact trivial
  | some m =>
      refine Raising.given_bind ((upsert_writes fun hid hallow => hfound m hm hid hallow).mono
        fun _ _ _ => ⟨fun _ _ => ?_, fun _ => ?_⟩) <;> exact trivial

theorem sync_candidates_writes (candidates : List Candidate) (explicit : Bool) :
    Writes id (fun _ _ => True) explicit (sync_candidates digest spelled candidates) := by
  refine Raising.given_bind ((write_candidates_writes candidates explicit).mono
    fun n _ _ => ⟨fun written _ => ?_, fun _ => trivial⟩)
  refine Raising.given_bind ⟨nofun, fun rows _ => ⟨fun existing _ => ?_, fun _ => trivial⟩⟩
  refine Raising.given_bind ((Raising.given_foldlM (I := fun _ => True) (fun _ m _ n _ => ?_) ()
    trivial).mono fun _ _ _ => ⟨fun _ _ => trivial, fun _ => trivial⟩)
  unfold expire_stale
  split_ifs
  · refine Raising.given_bind (Raising.given_lift ⟨nofun, fun _ _ => ⟨fun _ _ => ?_, fun _ =>
      trivial⟩⟩)
    refine Raising.given_bind (Prog.Given.mono (upsert_writes ?_) fun _ _ _ =>
      ⟨fun _ _ => trivial, fun _ => trivial⟩)
    exact nofun
  · exact trivial

theorem refresh_writes (explicit : Bool) :
    Writes id (fun _ _ => True) explicit refresh_runtime_cache := by
  refine Raising.given_bind (Raising.given_bind ⟨nofun, fun _ _ => ⟨fun ids _ => ?_, fun _ => ?_⟩⟩)
  · refine Raising.given_bind (Raising.given_lift ⟨nofun, fun _ _ => ⟨fun _ _ => ?_, nofun⟩⟩)
    refine ⟨fun _ _ => ?_, fun _ => trivial⟩
    refine Raising.given_bind ⟨nofun, fun _ _ => ⟨fun merged _ => ?_, fun _ => trivial⟩⟩
    exact Raising.given_bind (Raising.given_lift ⟨nofun, fun _ _ => ⟨fun _ _ => trivial, nofun⟩⟩)
  · exact ⟨nofun, fun _ => trivial⟩

theorem seed_writes (records : List MarketMappingRecord) (overwrite : Bool) :
    Writes id (fun _ _ => True) true (seed_from_records spelled records overwrite) := by
  refine Raising.given_bind ((Raising.given_foldlM (I := (· = true)) (fun inserted record _ n hn => ?_)
    0 rfl).mono fun n _ _ => ⟨fun _ _ => ?_, fun _ => trivial⟩)
  · subst hn
    refine Raising.given_bind ⟨nofun, fun _ _ => ⟨fun existing _ => ?_, fun _ => rfl⟩⟩
    split_ifs
    · exact rfl
    · exact Raising.given_bind ⟨fun _ => rfl, fun _ _ => ⟨fun _ _ => rfl, fun _ => rfl⟩⟩
  · exact Raising.given_bind ((refresh_writes n).mono fun _ _ _ =>
      ⟨fun _ _ => trivial, fun _ => trivial⟩)

/-- A row that is read disabled is written back so. -/
theorem write_back_writes {m : MarketMapping}
    (hm : m.canonical_id = id → m.allow_auto_trade = false) :
    Writes id (fun n _ => n = false) false (write_back spelled m) := by
  refine Raising.given_bind (Raising.given_lift ⟨nofun, fun _ _ => ⟨fun _ _ => ?_, fun _ => rfl⟩⟩)
  refine Raising.given_bind (Raising.given_attempt ((upsert_writes fun hid hallow => ?_).mono
    fun _ _ hn => ⟨fun _ _ => hn, fun _ => hn⟩))
  rw [hm hid] at hallow
  cases hallow

theorem discover_writes (client : FxClient) (events : List FxEvent) (dry_run : Bool) :
    Writes id (fun _ _ => True) false (discover client spelled events dry_run) := by
  refine Raising.given_bind ⟨nofun, fun rows hrows => ⟨fun confirmed hconfirmed => ?_, fun _ =>
    trivial⟩⟩
  have hread : ∀ m ∈ confirmed, m.canonical_id = id → m.allow_auto_trade = false :=
    hrows confirmed hconfirmed
  refine Raising.given_bind ((Raising.given_foldlM (I := (· = false)) (fun matched m hm n hn => ?_) 0
    rfl).mono fun n matched hn => ⟨fun matched _ => ?_, fun _ => trivial⟩)
  -- no write of either loop gives a permission that was not read
  · subst hn
    have hmem : m ∈ confirmed := by
      split_ifs at hm
      · cases hm
      · exact List.mem_of_mem_filter (List.mem_of_mem_filter hm)
    unfold attach_conids
    split
    · exact rfl
    · split_ifs
      · exact rfl
      · exact Raising.given_bind (Raising.given_attempt ⟨nofun, fun _ _ => ⟨fun _ _ => rfl, fun _ =>
          rfl⟩⟩)
    · split_ifs
      · exact rfl
      · refine Raising.given_bind (Prog.Given.mono (write_back_writes ?_) fun _ _ hn =>
          ⟨fun _ _ => hn, fun _ => hn⟩)
        exact hread m hmem
  · subst hn
    refine Raising.given_bind ((Raising.given_foldlM (I := (· = false)) (fun _ m hm n hn => ?_) ()
      rfl).mono fun _ _ _ => ⟨fun _ _ => trivial, fun _ => trivial⟩)
    subst hn
    have hmem : m ∈ confirmed := List.mem_of_mem_filter (List.mem_of_mem_filter hm)
    unfold backfill_conid
    split
    · exact rfl
    · split_ifs
      · exact rfl
      · refine Raising.given_bind (Prog.Given.mono (write_back_writes ?_) fun _ _ hn =>
          ⟨fun _ _ => hn, fun _ => hn⟩)
        exact hread m hmem

/-- Every writer begins quiet. -/
theorem job_quiet (digest : String → String) (spelled : Json ℚ → String) (writer : Writer) :
    QuietFor id (writer.job digest spelled) := by
  -- what a writer returns is thrown away
  have hdone {n : Bool} {α : Type} {p : Op α} (hp : Writes id (fun _ _ => True) n p) :
      Writes id (fun _ _ => True) n (do
        let _ ← p
        pure ()) :=
    Raising.given_bind (hp.mono fun _ _ _ => ⟨fun _ _ => trivial, fun _ => trivial⟩)
  cases writer with
  | discover client events dry_run => exact hdone (discover_writes client events dry_run)
  | store op =>
      cases op with
      | seed_from_records records overwrite => exact hdone (seed_writes records overwrite)
      | upsert m =>
          have hupsert : Writes id (fun n _ => n = m.allow_auto_trade) m.allow_auto_trade
              (upsert spelled m) := upsert_writes fun _ h => h
          exact hdone (hupsert.mono fun _ _ _ => trivial)
      | update_status c status review_note allow_auto_trade =>
          exact hdone (update_status_writes c status review_note allow_auto_trade)
      | write_candidates candidates => exact hdone (write_candidates_writes candidates false)
      | sync_candidates candidates => exact hdone (sync_candidates_writes candidates false)
      | refresh_runtime_cache => exact hdone (refresh_writes false)
      | expire_duplicate_active_pairs =>
          refine hdone (Raising.given_bind ⟨nofun, fun _ _ => ⟨fun ids _ => ?_, fun _ => trivial⟩⟩)
          exact Raising.given_bind (Raising.given_lift ⟨nofun, fun _ _ => ⟨fun _ _ => trivial, nofun⟩⟩)
      | delete c =>
          refine hdone (Raising.given_bind ⟨nofun, fun _ _ => ⟨fun deleted _ => ?_, fun _ =>
            trivial⟩⟩)
          split_ifs
          · exact Raising.given_bind (Raising.given_lift ⟨nofun, fun _ _ => ⟨fun _ _ => trivial,
              nofun⟩⟩)
          · exact trivial
      | disable_auto_trade _ _ | mark_forecastex_unavailable _ _ | set_forecastex_conid _ _ _ =>
          exact hdone ⟨nofun, fun _ _ => trivial⟩

end quiet

/-! ### Statements -/

section statements

variable {id : String} {explicit : Bool} {w w' : Watched} {c : Call} {a : Answer c}

/-- The row is not traded. -/
def RowDisabled (id : String) (w : Watched) : Prop :=
  ∀ r, w.store.table.find id = some r → r.allow_auto_trade = false

/-- What is read of the row is what is in the table. -/
theorem reads_disabled (hserve : store_serve w.store c a w'.store) (hw : RowDisabled id w) :
    ReadsDisabled id c a := by
  have hrow (r : MarketMapping) (hr : r ∈ w.store.table.rows) (hid : r.canonical_id = id) :
      r.allow_auto_trade = false :=
    hw r (by rw [← hid]; exact Table.find_of_mem hr)
  have hhead {p : MarketMapping → Bool} {rows : List MarketMapping} {r : MarketMapping}
      (hordered : w.store.table.Ordered p MarketMapping.outranks rows)
      (hhead : rows.head? = some r) : r ∈ w.store.table.rows :=
    (LooksUp.mem ⟨rows, hhead.symm, hordered⟩).1
  -- one row, the head of an ordered list, or a list: all of the table
  cases c with
  | select c =>
      obtain ⟨-, rfl | rfl⟩ := hserve
      · exact fun r hr => nomatch hr
      · intro r hr hid
        exact hrow r (Table.mem_of_find (Option.some.inj hr)) hid
  | select_exact_pair k p =>
      obtain ⟨-, rfl | ⟨rows, rfl, hordered⟩⟩ := hserve
      · exact fun r hr => nomatch hr
      · exact fun r hr hid => hrow r (hhead hordered (Option.some.inj hr)) hid
  | select_platform platform c =>
      obtain ⟨-, rfl | ⟨rows, rfl, hordered⟩⟩ := hserve
      · exact fun r hr => nomatch hr
      · exact fun r hr hid => hrow r (hhead hordered (Option.some.inj hr)) hid
  | select_status status limit =>
      obtain ⟨-, rfl | ⟨rows, rfl, hordered⟩⟩ := hserve
      · exact fun r hr => nomatch hr
      · intro listed hlisted r hr
        cases hlisted
        exact hrow r (hordered.mem_iff.mp (List.mem_of_mem_take hr)).1
  | select_confirmed =>
      obtain ⟨-, rfl | ⟨rows, rfl, hordered⟩⟩ := hserve
      · exact fun r hr => nomatch hr
      · intro listed hlisted r hr
        cases hlisted
        exact hrow r (hordered.mem_iff.mp hr).1
  | select_active limit =>
      obtain ⟨-, rfl | ⟨rows, rfl, hordered⟩⟩ := hserve
      · exact fun r hr => nomatch hr
      · intro listed hlisted r hr
        cases hlisted
        exact hrow r (hordered.mem_iff.mp (List.mem_of_mem_take hr)).1
  | insert _ | insert_seed _ | expire_exact_pair _ _ _ | expire_ranked | disable _ _
  | mark_unavailable _ _ | set_conid _ _ _ | delete _ | runtime_put _ _ | runtime_drop _
  | runtime_replace _ | turn_to _ => exact trivial

/-- An update that gives no permission keeps the row disabled. -/
theorem RowDisabled.update (hw : RowDisabled id w) {p : MarketMapping → Bool}
    {f : MarketMapping → MarketMapping} (hf : ∀ r, (f r).canonical_id = r.canonical_id)
    (hallow : ∀ r, r.allow_auto_trade = false → (f r).allow_auto_trade = false)
    (htable : w'.store.table = update_where w.store.table p f hf) : RowDisabled id w' := by
  intro s hs
  rw [htable, find_update_where] at hs
  obtain ⟨r, hr, rfl⟩ := Option.map_eq_some_iff.mp hs
  split_ifs
  · exact hallow r (hw r hr)
  · exact hw r hr

/-- A row that is put without the permission, or is another one, keeps it disabled. -/
theorem RowDisabled.put (hw : RowDisabled id w) {m : MarketMapping}
    (hm : m.canonical_id = id → m.allow_auto_trade = false)
    (htable : w'.store.table = w.store.table.put m) : RowDisabled id w' := by
  intro s hs
  rw [htable, Table.find_put] at hs
  split_ifs at hs with hid
  · cases hs
    exact hm hid
  · exact hw s hs

/-- A row that is disabled stays so, or is written by a call that passes the permission. -/
theorem stays_disabled (hserve : (watched_env id explicit).serve w c a w')
    (hw : RowDisabled id w) (hc : WritesPassed id explicit c) (hup : w'.disabled = true) :
    RowDisabled id w' := by
  obtain ⟨hserve, hdisabled⟩ := hserve
  have hsame (h : w'.store = w.store) : RowDisabled id w' := by
    unfold RowDisabled
    rw [h]
    exact hw
  -- a row that was written with the permission has taken the guard down
  have hwritten {m : MarketMapping} (hpermits : permits id c = (m.canonical_id = id && m.allow_auto_trade))
      (hdown : permits id c = true → explicit = true → w'.disabled = false) :
      m.canonical_id = id → m.allow_auto_trade = false := by
    intro hid
    by_contra hallow
    have hpermitted : permits id c = true := by
      rw [hpermits]
      simpa [hid] using hallow
    rw [hdown hpermitted (hc hpermitted)] at hup
    cases hup
  cases c with
  | insert m =>
      obtain ⟨-, h⟩ | ⟨rfl, -, stamp, h⟩ := hserve
      · exact hsame h
      · refine hw.put (m := m.inserted stamp _) ?_ (congrArg World.table h)
        exact hwritten rfl fun hp he => by simp [hdisabled, disabled_after, hp, he]
  | insert_seed m =>
      obtain ⟨-, h⟩ | ⟨rfl, stamp, h⟩ := hserve
      · exact hsame h
      · refine hw.put (m := m.seeded stamp (w.store.table.find m.canonical_id)) ?_
          (congrArg World.table h)
        exact hwritten rfl fun hp he => by simp [hdisabled, disabled_after, hp, he]
  | expire_exact_pair c k p =>
      obtain ⟨-, h⟩ | ⟨stamp, h, -⟩ := hserve
      · exact hsame h
      · exact hw.update (MarketMapping.retire_id stamp) (fun _ _ => rfl) (congrArg World.table h)
  | expire_ranked =>
      obtain ⟨-, h⟩ | ⟨stamp, keep, -, h, -⟩ := hserve
      · exact hsame h
      · exact hw.update (MarketMapping.retire_id stamp) (fun _ _ => rfl) (congrArg World.table h)
  | disable c reason =>
      obtain ⟨-, h⟩ | ⟨stamp, time, h, -⟩ := hserve
      · exact hsame h
      · exact hw.update (MarketMapping.disable_id stamp _) (fun _ _ => rfl) (congrArg World.table h)
  | mark_unavailable c unavailable =>
      obtain ⟨-, h⟩ | ⟨stamp, h, -⟩ := hserve
      · exact hsame h
      · exact hw.update (MarketMapping.mark_id stamp unavailable) (fun _ hr => hr)
          (congrArg World.table h)
  | set_conid c conid no_side =>
      obtain ⟨-, h⟩ | ⟨stamp, h, -⟩ := hserve
      · exact hsame h
      · refine hw.update (MarketMapping.rebind_id stamp conid no_side) (fun r hr => ?_)
          (congrArg World.table h)
        cases no_side <;> exact hr
  | delete c =>
      obtain ⟨-, h⟩ | ⟨h, -⟩ := hserve
      · exact hsame h
      · intro r hr
        rw [congrArg World.table h, Table.find_erase] at hr
        split_ifs at hr
        exact hw r hr
  | select _ | select_exact_pair _ _ | select_platform _ _ | select_status _ _
  | select_confirmed | select_active _ => exact hsame hserve.1
  | runtime_put _ _ | runtime_drop _ | runtime_replace _ | turn_to _ =>
      intro r hr
      rw [congrArg World.table hserve] at hr
      exact hw r hr

/-- The guard goes up where the row is disabled. -/
theorem disables_row (hserve : (watched_env id explicit).serve w c a w')
    (hdown : ¬ w.disabled = true) (hup : w'.disabled = true) :
    disables id w.store c = true ∧ ReadsDisabled id c a ∧ RowDisabled id w' := by
  obtain ⟨hserve, hdisabled⟩ := hserve
  rw [hup] at hdisabled
  cases c with
  | disable c reason =>
      simp only [disabled_after] at hdisabled
      -- the statement is about another row, or finds none: the guard stays down
      by_cases hfound : (c = id && found a) = true
      swap
      · simp only [if_neg hfound] at hdisabled
        exact absurd hdisabled.symm hdown
      simp only [Bool.and_eq_true, decide_eq_true_eq] at hfound
      obtain ⟨rfl, hfound⟩ := hfound
      obtain ⟨rfl, -⟩ | ⟨stamp, time, h, rfl⟩ := hserve
      · cases hfound
      · refine ⟨by simpa [disables, found] using hfound, trivial, fun r hr => ?_⟩
        rw [congrArg World.table h, find_update_where] at hr
        obtain ⟨r', hr', rfl⟩ := Option.map_eq_some_iff.mp hr
        have hkey : r'.canonical_id = c := Table.find_key hr'
        split_ifs with hallow
        · rfl
        · simpa [hkey] using hallow
  | insert m =>
      simp only [disabled_after] at hdisabled
      split_ifs at hdisabled
      exact absurd hdisabled.symm hdown
  | insert_seed m =>
      simp only [disabled_after] at hdisabled
      split_ifs at hdisabled
      exact absurd hdisabled.symm hdown
  | select _ | select_exact_pair _ _ | select_platform _ _ | select_status _ _
  | select_confirmed | select_active _ | expire_exact_pair _ _ _ | expire_ranked
  | mark_unavailable _ _ | set_conid _ _ _ | delete _ | runtime_put _ _ | runtime_drop _
  | runtime_replace _ | turn_to _ => exact absurd hdisabled.symm hdown

end statements

/-! ### Interleavings -/

/-- Where a call disables the row, no task in flight will write it back as it was. -/
def DisabledQuietly (id : String) (s : Crew Call Answer Watched Bool) (move : Turning Writer) : Prop :=
  ∀ i, move = .call i →
    (∃ job c, s.jobs[i]? = some job ∧ job.next = some c ∧ disables id s.world.store c = true) →
    ∀ job ∈ s.jobs, QuietFor id job

/-- The database, answering, with what was disabled. -/
def watched_oracle (id : String) (explicit : Bool) : Oracle Call Answer Watched := fun w c =>
  ((store_oracle w.store c).1, ⟨(store_oracle w.store c).2,
    disabled_after id explicit w.disabled c (store_oracle w.store c).1⟩)

/-- A task makes its next call. -/
def turn (i : ℕ) (s : Crew Call Answer Watched Bool) : Crew Call Answer Watched Bool :=
  s.play (watched_oracle "FED") explicit_after i

/-- A task begins. -/
def begin_task (writer : Writer) (s : Crew Call Answer Watched Bool) :
    Crew Call Answer Watched Bool :=
  { s with jobs := s.jobs ++ [writer.job (fun _ => "") fun _ => ""] }

/-- A store with a row that is traded. -/
def traded_crew : Crew Call Answer Watched Bool :=
  ⟨⟨⟨Table.empty.put traded_row, fun _ => none⟩, false⟩, []⟩

theorem watched_oracle_serves (id : String) (explicit : Bool) (w : Watched) (c : Call) :
    (watched_env id explicit).serve w c (watched_oracle id explicit w c).1
      (watched_oracle id explicit w c).2 :=
  ⟨store_oracle_serves w.store c, rfl⟩

theorem turn_steps {i : ℕ} {s : Crew Call Answer Watched Bool}
    (hi : (s.jobs[i]?.bind Job.next).isSome = true) :
    (writers (fun _ => "") (fun _ => "") "FED").step s (.call i) (turn i s) :=
  Crew.play_steps (watched_oracle_serves "FED") hi

theorem begin_steps (writer : Writer) (s : Crew Call Answer Watched Bool) :
    (writers (fun _ => "") (fun _ => "") "FED").step s (.start writer) (begin_task writer s) :=
  rfl

/-- The row is disabled with nobody else in flight. -/
def disabled_crew : Crew Call Answer Watched Bool :=
  turn 0 (begin_task (.store (.disable_auto_trade "FED" "loss streak")) traded_crew)

/-- A row is read for an update of its status, disabled, and written back. -/
def revived_crew : Crew Call Answer Watched Bool :=
  turn 0 (turn 1 (begin_task (.store (.disable_auto_trade "FED" "loss streak"))
    (turn 0 (begin_task (.store (.update_status "FED" .confirmed "checked" none)) traded_crew))))

end Mapping
