import Arbiter.Framework.Decimal
import Arbiter.Framework.Latest
import Arbiter.Framework.System
import Arbiter.Framework.Text

/-! # The Price Store

  The collectors put the price points of all venues into one dictionary, under a text made of
  the platform and the canonical id. A point is read by its key, or with all others of a
  market: those whose key ends in the market's canonical id.

  Two points can have one key, and the key of one market can end in the id of another. The
  main result says for which points that are put every read is right; what Redis answers is
  checked by no read.

  ## Contents

  - Section 1: the store and its reads.
  - Section 2: runs, and when the reads are right.
-/

namespace Scanner.PriceStore

open LTS

/-! ## Section 1: The store -/

/-- `PricePoint`, as it is put. -/
structure StoredPoint where
  platform : String
  canonical_id : String
  yes_price : ℚ≥0
  no_price : ℚ≥0
  yes_volume : ℚ≥0
  no_volume : ℚ≥0
  timestamp : ℚ
  raw_market_id : String
  yes_market_id : String
  no_market_id : String
  yes_bid : ℚ≥0
  yes_ask : ℚ≥0
  no_bid : ℚ≥0
  no_ask : ℚ≥0
  fee_rate : ℚ≥0
  mapping_status : String
  mapping_score : ℚ
  deriving DecidableEq

/-- `age_seconds`. -/
def StoredPoint.age_seconds (x : StoredPoint) (now : ℚ) : ℚ := max (now - x.timestamp) 0

/-- `_key`. -/
def key (platform canonical_id : String) : String := "price:" ++ platform ++ ":" ++ canonical_id

/-- The key of a point. -/
def StoredPoint.key (x : StoredPoint) : String := PriceStore.key x.platform x.canonical_id

/-- An entry of the chart history. -/
structure HistoryEntry where
  timestamp : ℚ
  platform : String
  yes_price : ℚ≥0
  no_price : ℚ≥0
  mid_price : ℚ
  mapping_status : String

/-- The entry of a point. -/
def StoredPoint.entry (x : StoredPoint) : HistoryEntry where
  timestamp := x.timestamp
  platform := x.platform
  yes_price := x.yes_price
  no_price := x.no_price
  mid_price := Decimal.round_to 4 ((x.yes_price + (1 - x.no_price)) / 2)
  mapping_status := x.mapping_status

/-- `PriceStore`: `_mem`, in the order of insertion, the history by canonical id, the oldest
    entry first, and the puts since the last sweep. -/
structure State where
  mem : Table StoredPoint StoredPoint.key
  history : String → Option (List HistoryEntry)
  prune_counter : ℕ

/-- An empty store. -/
def State.new : State := ⟨.empty, fun _ => none, 0⟩

/-- `PRUNE_EVERY`. -/
def prune_every : ℕ := 5000

/-- `PRUNE_AFTER_S`. -/
def prune_after : ℚ := 3600

/-- `_prune_dead_locked`. -/
def State.prune_dead (s : State) (now : ℚ) : State :=
  let cutoff := now - prune_after
  { s with
    mem :=
      { rows := s.mem.rows.filter (cutoff ≤ ·.timestamp)
        nodup := s.mem.nodup.sublist (List.filter_sublist.map _) }
    history := fun canonical_id =>
      (s.history canonical_id).filter fun entries =>
        entries.getLast?.any fun last => cutoff ≤ last.timestamp }

/-- The sweep, once in so many puts. -/
def State.sweep (s : State) (now : ℚ) : State :=
  let s := { s with prune_counter := s.prune_counter + 1 }
  if prune_every ≤ s.prune_counter then { s with prune_counter := 0 }.prune_dead now else s

/-- The chart history with one more entry, the latest of which are kept. -/
def State.chart (s : State) (history_limit : ℕ) (x : StoredPoint) : State :=
  { s with
    history := Function.update s.history x.canonical_id
      (some ((((s.history x.canonical_id).getD []) ++ [x.entry]).rtake history_limit)) }

/-- `put`. What Redis makes of its copy is left to the reads. -/
def State.put (s : State) (history_limit : ℕ) (x : StoredPoint) (now : ℚ) : State :=
  ({ s with mem := s.mem.put x }.sweep now).chart history_limit x

/-- What Redis has under a key: a point, or nothing that can be read. -/
abbrev Redis := String → Option StoredPoint

/-- The cached point, if it is fresh. -/
def State.cached (s : State) (ttl : ℚ) (key : String) (now : ℚ) : Option StoredPoint :=
  (s.mem.find key).filter fun x => x.age_seconds now < ttl

/-- `get`. A point of Redis is returned as it is. -/
def State.get (s : State) (ttl : ℚ) (redis : Option Redis) (platform canonical_id : String)
    (now : ℚ) : Option StoredPoint :=
  let key := PriceStore.key platform canonical_id
  match s.cached ttl key now with
  | some x => some x
  | none =>
      -- neither the age nor the market of the copy is looked at
      match redis with
      | some redis => redis key
      | none => none

/-- The points that are read for a market. -/
def State.read_for_market (s : State) (ttl : ℚ) (canonical_id : String) (now : ℚ) :
    List StoredPoint :=
  s.mem.rows.filter fun x =>
    Text.ends_with (":" ++ canonical_id) x.key ∧ x.age_seconds now < ttl

/-- `get_all_for_market`: by platform. -/
def State.get_all_for_market (s : State) (ttl : ℚ) (canonical_id : String) (now : ℚ) :
    Table StoredPoint StoredPoint.platform :=
  .fill _ (s.read_for_market ttl canonical_id now)

/-! ## Section 2: Runs -/

/-- A point is put. -/
structure Put where
  point : StoredPoint
  now : ℚ

/-- Any points, put one after another. -/
def system (history_limit : ℕ) : System State Put where
  init := fun s => s = .new
  step := fun s put s' => s' = s.put history_limit put.point put.now

/-- The key of the point ends in the canonical id only if it is the point's. -/
def Apart (canonical_id : String) (x : StoredPoint) : Prop :=
  Text.ends_with (":" ++ canonical_id) x.key = true → x.canonical_id = canonical_id

/-- Redis is read for a fresh point of the market only, if it is read. -/
def RedisFresh (s : State) (ttl : ℚ) (redis : Option Redis) (platform canonical_id : String)
    (now : ℚ) : Prop :=
  s.cached ttl (key platform canonical_id) now = none → ∀ answers ∈ redis,
    ∀ x ∈ answers (key platform canonical_id),
      x.platform = platform ∧ x.canonical_id = canonical_id ∧ x.age_seconds now < ttl

/-- **A right read** of a platform and a canonical id. -/
def Right (ttl : ℚ) (platform canonical_id : String) (now : ℚ) (x : StoredPoint) : Prop :=
  x.platform = platform ∧ x.canonical_id = canonical_id ∧ x.age_seconds now < ttl

section keys

variable {platform canonical_id : String} {x : StoredPoint}

theorem ends_with_key :
    Text.ends_with (":" ++ canonical_id) (key platform canonical_id) = true := by
  rw [Text.ends_with, List.isSuffixOf_iff_suffix, key, String.append_assoc,
    String.toList_append (s := "price:" ++ platform)]
  exact List.suffix_append _ _

/-- The platform is told by the key, where the canonical id is known. -/
theorem platform_of_key (h : x.key = key platform canonical_id)
    (hid : x.canonical_id = canonical_id) : x.platform = platform := by
  have hchars := congrArg String.toList h
  simp only [StoredPoint.key, key, hid, String.toList_append, List.append_cancel_right_eq,
    List.append_cancel_left_eq] at hchars
  exact String.toList_inj.mp hchars

/-- A point of the canonical id with the key of a platform is the platform's. -/
theorem Apart.of_key (h : Apart canonical_id x) (hkey : x.key = key platform canonical_id) :
    x.platform = platform ∧ x.canonical_id = canonical_id := by
  have hid := h (hkey ▸ ends_with_key)
  exact ⟨platform_of_key hkey hid, hid⟩

end keys

section reads

variable {history_limit : ℕ} {ttl now : ℚ} {platform canonical_id : String} {s : State}
         {x : StoredPoint}

/-- A put leaves no point but the new one and some of those that were there. -/
theorem mem_put {y : StoredPoint} (h : y ∈ (s.put history_limit x now).mem.rows) :
    y = x ∨ y ∈ s.mem.rows := by
  have hput : y ∈ (s.mem.put x).rows := by
    change y ∈ (({ s with mem := s.mem.put x } : State).sweep now).mem.rows at h
    unfold State.sweep at h
    dsimp only at h
    split at h
    · exact List.mem_of_mem_filter h
    · exact h
  -- the sweep only takes away
  rcases Table.mem_put.mp hput with heq | ⟨hmem, -⟩
  · exact .inl heq
  · exact .inr hmem

/-- Where all that was put is apart from the market, so is all that is stored. -/
theorem stored_apart :
    Invariant ((system history_limit).restrict fun _ put => Apart canonical_id put.point)
      fun s => ∀ x ∈ s.mem.rows, Apart canonical_id x := by
  refine Invariant.of_step ?_ ?_
  · rintro s rfl x hx
    cases hx
  · rintro s put _ hall ⟨hapart, rfl⟩ x hx
    rcases mem_put hx with rfl | hx
    · exact hapart
    · exact hall x hx

theorem cached_eq_some {key : String} :
    s.cached ttl key now = some x ↔ s.mem.find key = some x ∧ x.age_seconds now < ttl := by
  simp [State.cached, Option.filter_eq_some_iff]

theorem mem_read_for_market :
    x ∈ s.read_for_market ttl canonical_id now ↔
      x ∈ s.mem.rows ∧ Text.ends_with (":" ++ canonical_id) x.key = true ∧
        x.age_seconds now < ttl := by
  simp [State.read_for_market]

/-- What is read from memory under a key is right. -/
theorem cached_right (hall : ∀ x ∈ s.mem.rows, Apart canonical_id x)
    (hcached : s.cached ttl (key platform canonical_id) now = some x) :
    Right ttl platform canonical_id now x := by
  obtain ⟨hfind, hfresh⟩ := cached_eq_some.mp hcached
  obtain ⟨hplatform, hid⟩ := (hall x (Table.mem_of_find hfind)).of_key (Table.find_key hfind)
  exact ⟨hplatform, hid, hfresh⟩

/-- What is read for the market is right, and stored under its platform's key. -/
theorem read_for_market_right (hall : ∀ x ∈ s.mem.rows, Apart canonical_id x)
    (hx : x ∈ s.read_for_market ttl canonical_id now) :
    Right ttl x.platform canonical_id now x ∧
      s.cached ttl (key x.platform canonical_id) now = some x := by
  obtain ⟨hmem, hends, hfresh⟩ := mem_read_for_market.mp hx
  have hid := hall x hmem hends
  have hkey : x.key = key x.platform canonical_id := by rw [← hid]; rfl
  exact ⟨⟨rfl, hid, hfresh⟩, cached_eq_some.mpr ⟨hkey ▸ Table.find_of_mem hmem, hfresh⟩⟩

/-- What is cached under the key of a platform is read for the market. -/
theorem mem_read_for_market_of_cached
    (hcached : s.cached ttl (key platform canonical_id) now = some x) :
    x ∈ s.read_for_market ttl canonical_id now := by
  obtain ⟨hfind, hfresh⟩ := cached_eq_some.mp hcached
  exact mem_read_for_market.mpr
    ⟨Table.mem_of_find hfind, Table.find_key hfind ▸ ends_with_key, hfresh⟩

/-- Of a platform, the read for the market has what is cached under its key. -/
theorem get_all_for_market_find (hall : ∀ x ∈ s.mem.rows, Apart canonical_id x) :
    (s.get_all_for_market ttl canonical_id now).find platform =
      s.cached ttl (key platform canonical_id) now := by
  cases hfind : (s.get_all_for_market ttl canonical_id now).find platform with
  | some x =>
    -- what is read of a platform is what its key has
    have hread := read_for_market_right hall (Table.mem_of_find_fill hfind)
    rw [← Table.find_key hfind]
    exact hread.2.symm
  | none =>
    cases hcached : s.cached ttl (key platform canonical_id) now with
    | none => rfl
    | some x =>
      -- a cached point is read, so its platform has one
      obtain ⟨y, hy⟩ : ∃ y, (s.get_all_for_market ttl canonical_id now).find x.platform = some y :=
        Table.exists_find_fill (mem_read_for_market_of_cached hcached)
      rw [(cached_right hall hcached).1] at hy
      exact absurd (hy.symm.trans hfind) (by simp)

/-- Without Redis, `get` has what is cached. -/
theorem get_without_redis :
    s.get ttl none platform canonical_id now = s.cached ttl (key platform canonical_id) now := by
  unfold State.get
  dsimp only
  cases s.cached ttl (key platform canonical_id) now <;> rfl

theorem get_right (hall : ∀ x ∈ s.mem.rows, Apart canonical_id x) {redis : Option Redis}
    (hredis : RedisFresh s ttl redis platform canonical_id now)
    (hget : s.get ttl redis platform canonical_id now = some x) :
    Right ttl platform canonical_id now x := by
  unfold State.get at hget
  dsimp only at hget
  cases hcached : s.cached ttl (key platform canonical_id) now with
  | some y =>
    simp only [hcached, Option.some.injEq] at hget
    exact cached_right hall (hget ▸ hcached)
  | none =>
    cases redis with
    | none =>
      rw [hcached] at hget
      cases hget
    | some answers =>
      rw [hcached] at hget
      exact hredis hcached answers rfl x hget

/-- In every run that puts only points apart from the market, every read of the market is
    right, and without Redis both reads agree. -/
theorem reads_right
    (hs : Reachable ((system history_limit).restrict fun _ put => Apart canonical_id put.point) s) :
    (∀ redis platform now x, RedisFresh s ttl redis platform canonical_id now →
        s.get ttl redis platform canonical_id now = some x →
          Right ttl platform canonical_id now x) ∧
      (∀ platform now x, (s.get_all_for_market ttl canonical_id now).find platform = some x →
        Right ttl platform canonical_id now x) ∧
      ∀ platform now, (s.get_all_for_market ttl canonical_id now).find platform =
        s.get ttl none platform canonical_id now := by
  have hall := stored_apart s hs
  refine ⟨fun redis platform now x => get_right hall, fun platform now x hfind => ?_,
    fun platform now => ?_⟩
  · rw [get_all_for_market_find hall] at hfind
    exact cached_right hall hfind
  · rw [get_all_for_market_find hall, get_without_redis]

end reads

/-- A point of Kalshi, as of the moment 100. -/
def point (canonical_id : String) : StoredPoint where
  platform := "kalshi"
  canonical_id := canonical_id
  yes_price := 2 / 5
  no_price := 3 / 5
  yes_volume := 0
  no_volume := 0
  timestamp := 100
  raw_market_id := "KX-FED"
  yes_market_id := "KX-FED"
  no_market_id := "KX-FED"
  yes_bid := 2 / 5
  yes_ask := 2 / 5
  no_bid := 3 / 5
  no_ask := 3 / 5
  fee_rate := 0
  mapping_status := "confirmed"
  mapping_score := 1

/-- The point is put, and read ten seconds later. -/
theorem reads_right_fed :
    Right 30 "kalshi" "FED" 110 (point "FED") ∧
      ((State.new.put 240 (point "FED") 100).get_all_for_market 30 "FED" 110).find "kalshi" =
        (State.new.put 240 (point "FED") 100).get 30 none "kalshi" "FED" 110 := by
  have hput : Reachable ((system 240).restrict fun _ put => Apart "FED" put.point)
      (State.new.put 240 (point "FED") 100) :=
    .step (l := ⟨point "FED", 100⟩) (.init rfl) ⟨fun _ => rfl, rfl⟩
  have hreads := @reads_right 240 30 "FED" _ hput
  exact ⟨hreads.2.1 "kalshi" 110 _ (by decide +kernel), hreads.2.2 "kalshi" 110⟩

/-- The read of one market has a point of another, whose id ends in the first one's; and a
    point of Redis is returned a quarter of an hour after it was put. -/
theorem other_market_read :
    ¬ (∀ s, Reachable (system 240) s → ∀ platform canonical_id now x,
        (s.get_all_for_market 30 canonical_id now).find platform = some x →
          Right 30 platform canonical_id now x) ∧
      ¬ (∀ s, Reachable (system 240) s → ∀ redis platform canonical_id now x,
        s.get 30 redis platform canonical_id now = some x →
          Right 30 platform canonical_id now x) := by
  constructor
  · -- "price:kalshi:US:FED" ends in ":FED"
    intro hright
    have hput : Reachable (system 240) (State.new.put 240 (point "US:FED") 100) :=
      .step (l := ⟨point "US:FED", 100⟩) (.init rfl) rfl
    have hread := hright _ hput "kalshi" "FED" 100 (point "US:FED") (by decide +kernel)
    exact absurd hread.2.1 (by decide)
  · -- too old for the memory, and not for Redis
    intro hright
    have hput : Reachable (system 240) (State.new.put 240 (point "FED") 100) :=
      .step (l := ⟨point "FED", 100⟩) (.init rfl) rfl
    have hread := hright _ hput (some fun _ => some (point "FED")) "kalshi" "FED" 1000
      (point "FED") (by decide +kernel)
    exact absurd hread.2.2 (by decide +kernel)

end Scanner.PriceStore
