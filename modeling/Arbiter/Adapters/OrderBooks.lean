import Arbiter.Adapters.PolymarketUs
import Arbiter.Framework.OrderBook

/-! # The Order Books of the Venues

  Two questions are put to a venue's book before an order: whether it holds as many contracts
  (`check_depth`), and what limit sweeps as many (`best_executable_price`). Each adapter answers
  them in its own loops, over levels of its own format. Where a book offers to sell only what
  is bid on the other side, the levels are that side's bids at one less the price.

  ## Contents

  - Section 1: the two answers, and when they agree with a book.
  - Section 2: Kalshi.
  - Section 3: Polymarket US.
  - Section 4: Polymarket.
  - Section 5: all three.
-/

namespace OrderBooks

open Execution (Side)
open OrderBook
open PolymarketUs (amount_value)

/-! ## Section 1: Two answers -/

/-- A level: a price in dollars, and contracts. -/
abbrev BookLevel := Level ℚ ℚ

/-- The level of the other side's bid. -/
def complement (bid : BookLevel) : BookLevel := ⟨1 - bid.price, bid.size⟩

/-- A price strictly between nothing and a dollar, with at most four decimals, and some size. -/
structure WellFormed (level : BookLevel) : Prop where
  pos : 0 < level.price
  lt_one : level.price < 1
  decimals : ∃ n : ℕ, level.price * 10 ^ 4 = n
  size_pos : 0 < level.size

/-- Whether the levels, from the cheapest on, hold as many; and the cheapest price. -/
def depth_answer (levels : List BookLevel) (required_qty : ℕ) : Bool × ℚ :=
  match levels with
  | [] => (false, 0)
  | best :: _ => ((walk (required_qty : ℚ) 0 levels).isSome, best.price)

/-- The price at which they hold as many, or that of the last one. -/
def price_answer (levels : List BookLevel) (required_qty : ℕ) : Bool × ℚ :=
  match walk (required_qty : ℚ) 0 levels with
  | some price => (true, price)
  | none => (false, (levels.getLast?.map Level.price).getD 0)

/-- The answers to all quantities agree with what the levels offer. -/
structure AnswersAgree (levels : List BookLevel) (depth price : ℕ → Bool × ℚ) : Prop where
  depth_sufficient : ∀ q : ℕ, 1 ≤ q → ((depth q).1 = true ↔ (q : ℚ) ≤ total levels)
  price_sufficient : ∀ q : ℕ, 1 ≤ q → ((price q).1 = true ↔ (q : ℚ) ≤ total levels)
  lowest : ∀ q : ℕ, 1 ≤ q → levels ≠ [] → IsLeast (prices levels) (depth q).2
  least_enough : ∀ q : ℕ, 1 ≤ q → (q : ℚ) ≤ total levels →
    IsLeast (enough levels (q : ℚ)) (price q).2
  nondecreasing : ∀ q q' : ℕ, 1 ≤ q → q ≤ q' → (price q).2 ≤ (price q').2

/-- So do the answers that two methods give, which do not raise. -/
def WalkersAgree (levels : List BookLevel)
    (check_depth best_executable_price : ℕ → Option (Bool × ℚ)) : Prop :=
  ∃ depth price : ℕ → Bool × ℚ, AnswersAgree levels depth price ∧
    ∀ q, check_depth q = some (depth q) ∧ best_executable_price q = some (price q)

section answers

variable {levels sorted : List BookLevel}

/-- Levels in the order of their prices answer for the book. -/
theorem answers_agree (h : FromCheapest levels sorted)
    (hsize : ∀ level ∈ levels, 0 ≤ level.size) :
    AnswersAgree levels (depth_answer sorted) (price_answer sorted) := by
  have hpos {q : ℕ} (hq : 1 ≤ q) : (0 : ℚ) < q := by exact_mod_cast hq
  have hprice (q : ℕ) : (price_answer sorted q).2 =
      (walk (q : ℚ) 0 sorted).getD ((sorted.getLast?.map Level.price).getD 0) := by
    unfold price_answer
    cases walk (q : ℚ) 0 sorted <;> rfl
  -- enough, which both answer; the best price; the worst price that is needed; and its growth
  constructor
  · intro q hq
    rw [← h.walk_isSome_iff hsize (hpos hq)]
    cases sorted with
    | nil => exact Iff.rfl
    | cons best rest => exact Iff.rfl
  · intro q hq
    rw [← h.walk_isSome_iff hsize (hpos hq), price_answer]
    cases walk (q : ℚ) 0 sorted with
    | none => simp
    | some p => simp
  · intro q _ hsome
    cases sorted with
    | nil => exact absurd (List.nil_perm.mp h.perm) hsome
    | cons best rest => exact h.head_isLeast
  · intro q hq henough
    obtain ⟨p, hwalk⟩ := Option.isSome_iff_exists.mp
      ((h.walk_isSome_iff hsize (hpos hq)).mpr henough)
    rw [hprice, hwalk]
    exact h.walk_isLeast_enough hsize hwalk
  · intro q q' hq hle
    rw [hprice, hprice]
    exact h.walk_mono hsize (hpos hq) (by exact_mod_cast hle) 0

end answers

/-! ## Section 2: Kalshi -/

namespace Kalshi

/-- What `for raw in levels` goes through, where that does not raise. -/
def iterate : Json ℚ → Option (List (Json ℚ))
  | .arr items => some items
  | .obj fields => some (fields.map fun field => .str field.1 none)
  | .str s _ => some (s.toList.map fun c => .str (String.singleton c) none)
  | _ => none

/-- `float(raw[i])`, where it can be read; what it raises is caught, unless `raw` is an
    object. -/
def entry (raw : Json ℚ) (i : ℕ) : Option ℚ :=
  match raw with
  | .arr items => items[i]?.bind Json.float
  | .str s _ => s.toList[i]?.bind fun c => if c.isDigit then some ((c.toNat - 48 : ℕ) : ℚ) else none
  | _ => none

/-- A bid on the other side, as a level to buy at. -/
def from_bid (opp_bid qty : ℚ) : Option BookLevel :=
  if opp_bid ≤ 0 ∨ qty ≤ 0 then none
  else
    -- Cents may come under the key for dollars.
    let opp_bid := if 1 < opp_bid then opp_bid / 100 else opp_bid
    let buy_price := Decimal.round_to 4 (1 - opp_bid)
    if buy_price ≤ 0 ∨ 1 ≤ buy_price then none else some ⟨buy_price, qty⟩

/-- An ask of the older format. -/
def from_ask (price_raw qty : ℚ) : Option BookLevel :=
  if price_raw ≤ 0 ∨ qty ≤ 0 then none
  else
    let buy_price := if 1 < price_raw then price_raw / 100 else price_raw
    if buy_price ≤ 0 ∨ 1 ≤ buy_price then none else some ⟨buy_price, qty⟩

/-- The levels that convert, from the cheapest on. -/
def converted (convert : ℚ → ℚ → Option BookLevel) (raws : Json ℚ) : Option (List BookLevel) :=
  (iterate raws).bind fun raws =>
    -- `raw[0]` of an object raises what is not caught.
    if raws.any Json.is_obj then none
    else
      some (sorted_on Level.price (raws.filterMap fun raw =>
        (entry raw 0).bind fun price => (entry raw 1).bind fun qty => convert price qty))

/-- The bids of the other side. -/
def opp_levels (payload : Json ℚ) (side : Side) : Json ℚ :=
  let fp := payload.get "orderbook_fp"
  if fp.is_obj then fp.first [side.other.text ++ "_dollars", side.other.text] (.arr []) else .arr []

/-- The asks of the older format. -/
def legacy_levels (payload : Json ℚ) (side : Side) : Json ℚ :=
  let legacy := payload.get "orderbook"
  if legacy.is_obj then (legacy.getD side.text (.arr [])).orElse (.arr []) else .arr []

/-- `_extract_buy_levels`, where it does not raise. -/
def extract_buy_levels (payload : Json ℚ) (side : Side) : Option (List BookLevel) :=
  if payload.is_obj = false then none
  else if (opp_levels payload side).truthy then converted from_bid (opp_levels payload side)
  else if (legacy_levels payload side).truthy then
    converted from_ask (legacy_levels payload side)
  else some []

/-- `check_depth`, through `_fetch_depth`: no payload where the answer was none or cannot be
    decoded. What raises is caught. -/
def check_depth (payload : Option (Json ℚ)) (side : Side) (required_qty : ℕ) : Bool × ℚ :=
  match payload.bind fun data => extract_buy_levels data side with
  | some levels => depth_answer levels required_qty
  | none => (false, 0)

/-- `best_executable_price`, through `_fetch_executable_price`. -/
def best_executable_price (payload : Option (Json ℚ)) (side : Side) (required_qty : ℕ) :
    Bool × ℚ :=
  match payload.bind fun data => extract_buy_levels data side with
  | some levels => price_answer levels required_qty
  | none => (false, 0)

/-- The raw level tells the price and the size, first and second in a list. -/
def Tells (raw : Json ℚ) (level : BookLevel) : Prop :=
  ∃ price size rest, raw = .arr (price :: size :: rest) ∧ price.float = some level.price ∧
    size.float = some level.size

/-- A well formed payload, and what it offers to one who buys the side. -/
inductive Offers (payload : Json ℚ) (side : Side) : List BookLevel → Prop
  /-- Bids on the other side. -/
  | bids {raws : List (Json ℚ)} {bids : List BookLevel} (hobj : payload.is_obj)
      (hraws : opp_levels payload side = .arr raws) (hsome : raws ≠ [])
      (htells : List.Forall₂ Tells raws bids) (hformed : ∀ bid ∈ bids, WellFormed bid) :
      Offers payload side (bids.map complement)
  /-- Asks, in the older format. -/
  | asks {raws : List (Json ℚ)} {asks : List BookLevel} (hobj : payload.is_obj)
      (hnone : (opp_levels payload side).truthy = false)
      (hraws : legacy_levels payload side = .arr raws) (hsome : raws ≠ [])
      (htells : List.Forall₂ Tells raws asks) (hformed : ∀ ask ∈ asks, WellFormed ask) :
      Offers payload side asks
  /-- Nothing. -/
  | nothing (hobj : payload.is_obj) (hnone : (opp_levels payload side).truthy = false)
      (hnone' : (legacy_levels payload side).truthy = false) : Offers payload side []

section offers

variable {payload : Json ℚ} {side : Side} {level : BookLevel} {levels : List BookLevel}

/-- One less a price of four decimals is not rounded. -/
theorem from_bid_eq (h : WellFormed level) :
    from_bid level.price level.size = some (complement level) := by
  obtain ⟨n, hn⟩ := h.decimals
  have hlt : n ≤ 10 ^ 4 := by
    have hle : (n : ℚ) ≤ (10 ^ 4 : ℕ) := by
      rw [← hn]
      push_cast
      linarith [h.lt_one]
    exact_mod_cast hle
  have hrest : (1 - level.price) * 10 ^ 4 = ((10 ^ 4 - n : ℕ) : ℚ) := by
    rw [Nat.cast_sub hlt, ← hn]
    push_cast
    ring
  have hround := Decimal.round_to_eq_self hrest
  have hpos := h.pos
  have hlt_one := h.lt_one
  rw [from_bid, if_neg (not_or.mpr ⟨not_le.mpr h.pos, not_le.mpr h.size_pos⟩)]
  dsimp only
  rw [if_neg (not_lt.mpr hlt_one.le), hround,
    if_neg (not_or.mpr ⟨not_le.mpr (by linarith), not_le.mpr (by linarith)⟩)]
  rfl

theorem from_ask_eq (h : WellFormed level) :
    from_ask level.price level.size = some level := by
  rw [from_ask, if_neg (not_or.mpr ⟨not_le.mpr h.pos, not_le.mpr h.size_pos⟩)]
  dsimp only
  rw [if_neg (not_lt.mpr h.lt_one.le),
    if_neg (not_or.mpr ⟨not_le.mpr h.pos, not_le.mpr h.lt_one⟩)]

/-- Levels that are told and convert. -/
theorem converted_eq {convert : ℚ → ℚ → Option BookLevel} {f : BookLevel → BookLevel}
    {raws : List (Json ℚ)} (htells : List.Forall₂ Tells raws levels)
    (hconvert : ∀ l ∈ levels, convert l.price l.size = some (f l)) :
    converted convert (.arr raws) = some (sorted_on Level.price (levels.map f)) := by
  have hread : raws.any Json.is_obj = false ∧ (raws.filterMap fun raw =>
      (entry raw 0).bind fun price => (entry raw 1).bind fun qty => convert price qty) =
      levels.map f := by
    induction htells with
    | nil => exact ⟨rfl, rfl⟩
    | @cons raw l raws levels htell _ ih =>
      obtain ⟨price, size, rest, rfl, hprice, hsize⟩ := htell
      have hhead : convert l.price l.size = some (f l) := hconvert l List.mem_cons_self
      obtain ⟨hobj, hrest⟩ := ih fun l' hl' => hconvert l' (List.mem_cons_of_mem _ hl')
      rw [List.any_cons, List.filterMap_cons, List.map_cons, ← hrest]
      simp [entry, hprice, hsize, hhead, hobj, Json.is_obj]
  rw [converted, iterate, Option.bind_some, hread.1, hread.2]
  rfl

theorem truthy_arr {raws : List (Json ℚ)} (hsome : raws ≠ []) :
    (Json.arr raws).truthy = true := by
  simpa [Json.truthy] using hsome

/-- Both methods go through the same levels. -/
theorem walkers_agree_of_extracted {sorted : List BookLevel}
    (hextract : extract_buy_levels payload side = some sorted) (h : FromCheapest levels sorted)
    (hsize : ∀ l ∈ levels, 0 ≤ l.size) :
    WalkersAgree levels (fun q => some (check_depth (some payload) side q))
      fun q => some (best_executable_price (some payload) side q) := by
  refine ⟨_, _, answers_agree h hsize, fun q => ⟨?_, ?_⟩⟩
  · simp only [check_depth, Option.bind_some, hextract]
  · simp only [best_executable_price, Option.bind_some, hextract]

/-- **Kalshi's walkers agree with what the payload offers.** -/
theorem walkers_agree (h : Offers payload side levels) :
    WalkersAgree levels (fun q => some (check_depth (some payload) side q))
      fun q => some (best_executable_price (some payload) side q) := by
  cases h with
  | @bids raws bids hobj hraws hsome htells hformed =>
    have hextract : extract_buy_levels payload side =
        some (sorted_on Level.price (bids.map complement)) := by
      rw [extract_buy_levels, if_neg (by rw [hobj]; nofun), hraws, if_pos (truthy_arr hsome)]
      exact converted_eq htells fun bid hbid => from_bid_eq (hformed bid hbid)
    apply walkers_agree_of_extracted hextract (from_cheapest_sorted_on _)
    intro l hl
    obtain ⟨bid, hbid, rfl⟩ := List.mem_map.mp hl
    exact (hformed bid hbid).size_pos.le
  | asks hobj hnone hraws hsome htells hformed =>
    have hextract : extract_buy_levels payload side = some (sorted_on Level.price levels) := by
      have hconverted := converted_eq htells fun ask hask => from_ask_eq (hformed ask hask)
      rw [List.map_id'] at hconverted
      rw [extract_buy_levels, if_neg (by rw [hobj]; nofun), hnone, if_neg nofun, hraws,
        if_pos (truthy_arr hsome), hconverted]
    exact walkers_agree_of_extracted hextract (from_cheapest_sorted_on _)
      fun l hl => (hformed l hl).size_pos.le
  | nothing hobj hnone hnone' =>
    have hextract : extract_buy_levels payload side = some [] := by
      rw [extract_buy_levels, if_neg (by rw [hobj]; nofun), hnone, if_neg nofun, hnone',
        if_neg nofun]
    exact walkers_agree_of_extracted hextract ⟨.refl _, .nil⟩ nofun

end offers

end Kalshi

/-! ## Section 3: Polymarket US -/

namespace PolymarketUs

/-- The levels of the side that is consumed, where reading them does not raise: the offers to
    buy YES, the bids to buy NO. -/
def levels_of (book : Json ℚ) (side : Side) : Option (List (Json ℚ)) :=
  let market_data := if book.is_obj then book.getD "marketData" book else .obj []
  let levels_key := if side = .yes then "offers" else "bids"
  if market_data.is_obj then Kalshi.iterate (market_data.getD levels_key (.arr [])) else none

/-- `lvl.get("px", lvl.get("price"))`, as a number. -/
def raw_price (lvl : Json ℚ) : ℚ := amount_value (lvl.getD "px" (lvl.get "price"))

/-- What the level costs to buy. -/
def level_price (side : Side) (lvl : Json ℚ) : ℚ :=
  if side = .yes then raw_price lvl else max (1 - raw_price lvl) 0

/-- Its size, where that can be read. -/
def level_size (lvl : Json ℚ) : Option ℚ := (lvl.getD "qty" (lvl.getD "size" (.num 0))).float

/-- The levels from the best on: bids are sorted from the highest down. -/
def sorted_levels (side : Side) (levels : List (Json ℚ)) : List (Json ℚ) :=
  if side = .yes then sorted_on raw_price levels else sorted_on (fun lvl => -raw_price lvl) levels

/-- The loop of `check_depth`. -/
def depth_loop (side : Side) (required_qty : ℚ) : ℚ → ℚ → List (Json ℚ) → Bool × ℚ
  | _, best_price, [] => (false, best_price)
  | cumulative, best_price, lvl :: rest =>
      let best_price := if best_price = 0 then level_price side lvl else best_price
      match level_size lvl with
      | none => depth_loop side required_qty cumulative best_price rest
      | some qty =>
          if required_qty ≤ cumulative + qty then (true, best_price)
          else depth_loop side required_qty (cumulative + qty) best_price rest

/-- The loop of `best_executable_price`. -/
def price_loop (side : Side) (required_qty : ℚ) : ℚ → ℚ → List (Json ℚ) → Bool × ℚ
  | _, worst_price, [] => (false, worst_price)
  | cumulative, worst_price, lvl :: rest =>
      match level_size lvl with
      | none => price_loop side required_qty cumulative worst_price rest
      | some qty =>
          if required_qty ≤ cumulative + qty then (true, level_price side lvl)
          else price_loop side required_qty (cumulative + qty) (level_price side lvl) rest

/-- What both methods make of the book: nothing where it could not be fetched. A level that is
    no object raises. -/
def walked (loop : List (Json ℚ) → Bool × ℚ) (book : Option (Json ℚ)) (side : Side) :
    Option (Bool × ℚ) :=
  match book with
  | none => some (false, 0)
  | some book =>
      (levels_of book side).bind fun levels =>
        if levels = [] then some (false, 0)
        else if levels.all Json.is_obj then some (loop (sorted_levels side levels))
        else none

/-- `check_depth`. -/
def check_depth (book : Option (Json ℚ)) (side : Side) (required_qty : ℕ) : Option (Bool × ℚ) :=
  walked (depth_loop side required_qty 0 0) book side

/-- `best_executable_price`. -/
def best_executable_price (book : Option (Json ℚ)) (side : Side) (required_qty : ℕ) :
    Option (Bool × ℚ) :=
  walked (price_loop side required_qty 0 0) book side

/-- The raw level is an object that tells the price and the size. -/
def Tells (raw : Json ℚ) (level : BookLevel) : Prop :=
  raw.is_obj ∧ raw_price raw = level.price ∧ level_size raw = some level.size

/-- A well formed book, and what it offers to one who buys the side: its offers, or its bids at
    one less the price. -/
structure Offers (book : Json ℚ) (side : Side) (levels : List BookLevel) : Prop where
  told : ∃ raws quoted, levels_of book side = some raws ∧ List.Forall₂ Tells raws quoted ∧
    (∀ level ∈ quoted, WellFormed level) ∧
    levels = if side = .yes then quoted else quoted.map complement

section offers

variable {book : Json ℚ} {side : Side} {levels quoted : List BookLevel} {raws : List (Json ℚ)}

/-- A raw level, as one to buy at. -/
def buy_level (side : Side) (raw : Json ℚ) : BookLevel :=
  ⟨level_price side raw, (level_size raw).getD 0⟩

theorem buy_level_eq {raw : Json ℚ} {level : BookLevel} (htells : Tells raw level)
    (hformed : WellFormed level) :
    buy_level side raw = if side = .yes then level else complement level := by
  obtain ⟨-, hprice, hsize⟩ := htells
  cases side with
  | yes =>
    rw [buy_level, level_price, if_pos rfl, if_pos rfl, hprice, hsize]
    rfl
  | no =>
    have hrest : 0 ≤ 1 - level.price := by linarith [hformed.lt_one]
    rw [buy_level, level_price, if_neg nofun, if_neg nofun, hprice, hsize, max_eq_left hrest]
    rfl

/-- What is told is what is offered, each level with a size, and none for nothing. -/
theorem buy_levels_eq (htells : List.Forall₂ Tells raws quoted)
    (hformed : ∀ level ∈ quoted, WellFormed level) :
    raws.map (buy_level side) = (if side = .yes then quoted else quoted.map complement) ∧
      ∀ raw ∈ raws, raw.is_obj = true ∧ (level_size raw).isSome = true ∧
        0 < (buy_level side raw).price ∧ 0 < (buy_level side raw).size := by
  induction htells with
  | nil =>
    constructor
    · cases side <;> rfl
    · exact nofun
  | @cons raw level raws quoted htell _ ih =>
    have hlevel := hformed level List.mem_cons_self
    obtain ⟨hrest, hraws⟩ := ih fun l hl => hformed l (List.mem_cons_of_mem _ hl)
    have hbuy : buy_level side raw = if side = .yes then level else complement level :=
      buy_level_eq htell hlevel
    constructor
    · rw [List.map_cons, hrest, hbuy]
      cases side <;> rfl
    · intro raw' hraw'
      rcases List.mem_cons.mp hraw' with rfl | hraw'
      · refine ⟨htell.1, by rw [htell.2.2]; rfl, ?_⟩
        rw [hbuy]
        have hpos := hlevel.pos
        have hlt_one := hlevel.lt_one
        cases side with
        | yes => exact ⟨hpos, hlevel.size_pos⟩
        | no => exact ⟨sub_pos.mpr hlt_one, hlevel.size_pos⟩
      · exact hraws raw' hraw'

/-- Sorted, the levels are in the order of what they cost: a lower bid costs more. -/
theorem sorted_levels_from_cheapest (side : Side) (raws : List (Json ℚ)) :
    FromCheapest (raws.map (buy_level side)) ((sorted_levels side raws).map (buy_level side)) := by
  unfold sorted_levels
  constructor
  · split
    · exact (sorted_on_perm _ _).map _
    · exact (sorted_on_perm _ _).map _
  · rw [List.pairwise_map]
    cases side with
    | yes => exact pairwise_sorted_on raw_price raws
    | no =>
      refine (pairwise_sorted_on (fun raw => -raw_price raw) raws).imp fun {a b} hle => ?_
      show max (1 - raw_price a) 0 ≤ max (1 - raw_price b) 0
      exact max_le_max (by linarith) le_rfl

/-- The price loop is the walk. -/
theorem price_loop_eq {q cumulative worst_price : ℚ}
    (hsome : ∀ raw ∈ raws, (level_size raw).isSome = true) :
    price_loop side q cumulative worst_price raws =
      match walk q cumulative (raws.map (buy_level side)) with
      | some price => (true, price)
      | none =>
          (false, ((raws.map (buy_level side)).getLast?.map Level.price).getD worst_price) := by
  induction raws generalizing cumulative worst_price with
  | nil => rfl
  | cons raw rest ih =>
    obtain ⟨qty, hqty⟩ := Option.isSome_iff_exists.mp (hsome raw List.mem_cons_self)
    have hsize : (buy_level side raw).size = qty := by rw [buy_level, hqty]; rfl
    rw [price_loop, hqty, List.map_cons, walk, hsize]
    by_cases hreach : q ≤ cumulative + qty
    · rw [if_pos hreach]
      exact if_pos hreach
    · dsimp only
      rw [if_neg hreach, if_neg hreach, ih fun r hr => hsome r (List.mem_cons_of_mem _ hr)]
      cases walk q (cumulative + qty) (rest.map (buy_level side)) with
      | some price => rfl
      | none =>
        -- the last of no more levels is this one
        cases rest with
        | nil => rfl
        | cons next rest => rfl

/-- The depth loop is the walk, with the first price, as soon as there is one. -/
theorem depth_loop_eq {q cumulative best_price : ℚ}
    (hraws : ∀ raw ∈ raws, (level_size raw).isSome = true ∧ 0 < (buy_level side raw).price) :
    depth_loop side q cumulative best_price raws =
      ((walk q cumulative (raws.map (buy_level side))).isSome,
        if best_price = 0 then ((raws.map (buy_level side)).head?.map Level.price).getD 0
        else best_price) := by
  -- zero stands for no price yet: the first level that is read sets it, for good
  induction raws generalizing cumulative best_price with
  | nil =>
    by_cases hzero : best_price = 0
    · rw [if_pos hzero, hzero]
      rfl
    · rw [if_neg hzero]
      rfl
  | cons raw rest ih =>
    obtain ⟨hsome, hprice⟩ := hraws raw List.mem_cons_self
    obtain ⟨qty, hqty⟩ := Option.isSome_iff_exists.mp hsome
    have hsize : (buy_level side raw).size = qty := by rw [buy_level, hqty]; rfl
    obtain ⟨best, hbest⟩ : ∃ best, best = if best_price = 0 then level_price side raw
      else best_price := ⟨_, rfl⟩
    have hne : best ≠ 0 := by
      rw [hbest]
      split
      · exact hprice.ne'
      · next hzero => exact hzero
    have hhead : (if best_price = 0 then
        (((raw :: rest).map (buy_level side)).head?.map Level.price).getD 0 else best_price) =
        best := by
      rw [hbest]
      rfl
    rw [hhead, depth_loop, ← hbest, hqty, List.map_cons, walk, hsize]
    by_cases hreach : q ≤ cumulative + qty
    · rw [if_pos hreach]
      dsimp only
      rw [if_pos hreach]
      rfl
    · rw [if_neg hreach]
      dsimp only
      rw [if_neg hreach, ih fun r hr => hraws r (List.mem_cons_of_mem _ hr), if_neg hne]

/-- **Polymarket US's walkers agree with what the book offers.** -/
theorem walkers_agree (h : Offers book side levels) :
    WalkersAgree levels (check_depth (some book) side)
      (best_executable_price (some book) side) := by
  obtain ⟨raws, quoted, hraws, htells, hformed, rfl⟩ := h.told
  have hbuy : raws.map (buy_level side) =
      (if side = .yes then quoted else quoted.map complement) ∧ _ :=
    buy_levels_eq htells hformed
  obtain ⟨hlevels, hread⟩ := hbuy
  rw [← hlevels]
  have hcheapest := sorted_levels_from_cheapest side raws
  have hsorted : ∀ raw ∈ sorted_levels side raws, raw ∈ raws := by
    intro raw hraw
    unfold sorted_levels at hraw
    split at hraw
    · exact (sorted_on_perm _ _).mem_iff.mp hraw
    · exact (sorted_on_perm _ _).mem_iff.mp hraw
  -- both walkers go the same way to their loop
  have hwalked (loop : List (Json ℚ) → Bool × ℚ) (hnil : loop [] = (false, 0)) :
      walked loop (some book) side = some (loop (sorted_levels side raws)) := by
    rw [walked, hraws, Option.bind_some]
    by_cases hempty : raws = []
    · rw [if_pos hempty, hempty]
      cases side <;> exact congrArg some hnil.symm
    · rw [if_neg hempty, if_pos (List.all_eq_true.mpr fun raw hraw => (hread raw hraw).1)]
  refine ⟨_, _, answers_agree hcheapest ?_, fun q => ⟨?_, ?_⟩⟩
  · intro level hlevel
    obtain ⟨raw, hraw, rfl⟩ := List.mem_map.mp hlevel
    exact (hread raw hraw).2.2.2.le
  · rw [check_depth, hwalked _ rfl, depth_loop_eq fun raw hraw =>
      ⟨(hread raw (hsorted raw hraw)).2.1, (hread raw (hsorted raw hraw)).2.2.1⟩, if_pos rfl]
    cases (sorted_levels side raws).map (buy_level side) with
    | nil => rfl
    | cons best rest => rfl
  · rw [best_executable_price, hwalked _ rfl, price_loop_eq fun raw hraw =>
      (hread raw (hsorted raw hraw)).2.1]
    rfl

end offers

end PolymarketUs

/-! ## Section 4: Polymarket -/

namespace Polymarket

/-- A level, as the client returns it. -/
inductive RawLevel
  | dict (fields : Json ℚ)
  | object (price size : Json ℚ)
  | sequence (items : List (Json ℚ))
  | other

/-- Its price and size, where they can be read. -/
def read_level : RawLevel → Option BookLevel
  | .dict fields =>
      (fields.getD "price" (.num 0)).float.bind fun price =>
        (fields.getD "size" (.num 0)).float.map fun size => ⟨price, size⟩
  | .object price size => price.float.bind fun price => size.float.map fun size => ⟨price, size⟩
  | .sequence (price :: size :: _) =>
      price.float.bind fun price => size.float.map fun size => ⟨price, size⟩
  | _ => none

/-- What a book has under one of its names. -/
inductive RawLevels
  | absent
  | null
  | list (levels : List RawLevel)

/-- A book, as the client returns it. -/
inductive RawBook
  | none
  | dict (asks bids : RawLevels)
  | object (asks bids : RawLevels)

/-- `_extract_levels` of what is under a name, where it does not raise: a dictionary with
    nothing under the name has no levels, one with null raises. -/
def extract_levels (is_dict : Bool) : RawLevels → Option (List BookLevel)
  | .absent => some []
  | .null => if is_dict then none else some []
  | .list levels => some (levels.filterMap read_level)

/-- The asks and the bids of a book. -/
def extracted (book : RawBook) : Option (List BookLevel × List BookLevel) :=
  match book with
  | .none => some ([], [])
  | .dict asks bids => (extract_levels true asks).bind fun asks =>
      (extract_levels true bids).map fun bids => (asks, bids)
  | .object asks bids => (extract_levels false asks).bind fun asks =>
      (extract_levels false bids).map fun bids => (asks, bids)

/-- The stale-book guard: the last price is outside of the book by more than a cent. A price
    that cannot be read is passed over. -/
def stale_book (asks bids : List BookLevel) (tick_price : Json ℚ) : Bool :=
  match sorted_on Level.price asks, tick_price.float with
  | best :: _, some tick =>
      let best_bid := (bids.map Level.price).max?.getD 0
      best.price + 1 / 100 < tick || tick < best_bid - 1 / 100
  | _, _ => false

/-- What both methods make of the book of a token: nothing where the client is not there or
    raises. -/
def walked (answer : List BookLevel → Bool × ℚ) (fetched : Option (RawBook × Json ℚ)) :
    Option (Bool × ℚ) :=
  match fetched with
  | none => some (false, 0)
  | some (book, tick_price) =>
      (extracted book).map fun (asks, bids) =>
        if asks = [] then (false, 0)
        else if stale_book asks bids tick_price then (false, 0)
        else answer (sorted_on Level.price asks)

/-- `check_depth`. The side is told only to the request for the last price. -/
def check_depth (fetched : Option (RawBook × Json ℚ)) (required_qty : ℕ) : Option (Bool × ℚ) :=
  walked (fun asks => depth_answer asks required_qty) fetched

/-- `best_executable_price`. -/
def best_executable_price (fetched : Option (RawBook × Json ℚ)) (required_qty : ℕ) :
    Option (Bool × ℚ) :=
  walked (fun asks => price_answer asks required_qty) fetched

/-- What is under the name of the asks. -/
def RawBook.asks : RawBook → RawLevels
  | .none => .absent
  | .dict asks _ => asks
  | .object asks _ => asks

/-- A well formed book, at which the guard does not fire, and what it offers: its asks. -/
structure Offers (book : RawBook) (tick_price : Json ℚ) (levels : List BookLevel) : Prop where
  told : ∃ raws, book.asks = .list raws ∧
    List.Forall₂ (fun raw level => read_level raw = some level) raws levels
  formed : ∀ level ∈ levels, WellFormed level
  /-- Its bids can be read. -/
  fresh : ∃ asks bids, extracted book = some (asks, bids) ∧
    stale_book asks bids tick_price = false

section offers

variable {book : RawBook} {tick_price : Json ℚ} {levels : List BookLevel}

theorem filterMap_read_level {raws : List RawLevel}
    (htells : List.Forall₂ (fun raw level => read_level raw = some level) raws levels) :
    raws.filterMap read_level = levels := by
  induction htells with
  | nil => rfl
  | cons htell _ ih => rw [List.filterMap_cons, htell, ih]

/-- The asks that are extracted are those that are told. -/
theorem asks_eq_of_extracted {raws : List RawLevel} {asks bids : List BookLevel}
    (hraws : book.asks = .list raws) (h : extracted book = some (asks, bids)) :
    asks = raws.filterMap read_level := by
  cases book with
  | none => cases hraws
  | dict rawAsks rawBids | object rawAsks rawBids =>
    obtain rfl : rawAsks = .list raws := hraws
    simp only [extracted, extract_levels, Option.bind_some, Option.map_eq_some_iff,
      Prod.mk.injEq] at h
    obtain ⟨_, -, hasks, -⟩ := h
    exact hasks.symm

/-- **Polymarket's walkers agree with what the book offers.** -/
theorem walkers_agree (h : Offers book tick_price levels) :
    WalkersAgree levels (check_depth (some (book, tick_price)))
      (best_executable_price (some (book, tick_price))) := by
  obtain ⟨raws, hraws, htells⟩ := h.told
  obtain ⟨asks, bids, hextracted, hfresh⟩ := h.fresh
  obtain rfl : asks = levels :=
    (asks_eq_of_extracted hraws hextracted).trans (filterMap_read_level htells)
  have hwalked (answer : List BookLevel → Bool × ℚ) (hnil : answer [] = (false, 0)) :
      walked answer (some (book, tick_price)) = some (answer (sorted_on Level.price asks)) := by
    simp only [walked, hextracted, Option.map_some, hfresh]
    by_cases hempty : asks = []
    · rw [if_pos hempty, hempty]
      exact congrArg some hnil.symm
    · rw [if_neg hempty]
      rfl
  exact ⟨_, _, answers_agree (from_cheapest_sorted_on asks) fun l hl => (h.formed l hl).size_pos.le,
    fun q => ⟨hwalked _ rfl, hwalked _ rfl⟩⟩

end offers

end Polymarket

/-! ## Section 5: All three -/

/-- Two bids for YES at Kalshi, the better one last. -/
def yes_bids : List BookLevel := [⟨80 / 100, 100⟩, ⟨85 / 100, 50⟩]

/-- They are all that is told. -/
def yes_bids_payload : Json ℚ :=
  .obj [("orderbook_fp", .obj [
    ("yes_dollars", .arr [.arr [.str "0.80" (some (80 / 100)), .str "100" (some 100)],
      .arr [.str "0.85" (some (85 / 100)), .str "50" (some 50)]]),
    ("no_dollars", .arr [])])]

end OrderBooks
