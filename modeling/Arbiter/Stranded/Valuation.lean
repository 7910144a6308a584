import Arbiter.Scanner.Collectors
import Arbiter.Stranded.Cap
import Arbiter.Stranded.Mitigation

/-! # What a Lot Is Worth

  A lot is to be valued on the side that is held, in dollars: at the bid and ask of that side,
  and at what was paid for the contracts that are still there. The fetchers read what each
  venue tells, and the engine takes it that they have turned it to the side held; they do so
  only where the venue itself does.

  ## Contents

  - Section 1: holdings, books, and what a position ought to say of them.
  - Section 2: the positions the fetchers build.
  - Section 3: Kalshi.
  - Section 4: Polymarket US.
  - Section 5: ForecastEx.
  - Section 6: when a lot is valued right.
-/

namespace Stranded

open Effect Execution
open Collectors (PriceUnit)

/-! ## Section 1: Holdings and books -/

/-- Contracts of one side of a market, with what was paid for those still held. -/
structure Holding where
  side : Side
  contracts : ℚ
  pos : 0 < contracts
  paid : ℚ

/-- The best bid and ask of YES in dollars, zero where there is none. -/
structure Book where
  yes_bid : ℚ
  yes_ask : ℚ
  yes_bid_nonneg : 0 ≤ yes_bid
  yes_bid_lt : yes_bid < 1
  yes_ask_nonneg : 0 ≤ yes_ask
  yes_ask_lt : yes_ask < 1

namespace Book

/-- The best bid of a side: who offers YES bids for NO. -/
def bid (b : Book) : Side → ℚ
  | .yes => b.yes_bid
  | .no => if b.yes_ask = 0 then 0 else 1 - b.yes_ask

/-- The best ask of a side. -/
def ask (b : Book) : Side → ℚ
  | .yes => b.yes_ask
  | .no => if b.yes_bid = 0 then 0 else 1 - b.yes_bid

/-- Nothing is bid or asked. -/
def Empty (b : Book) : Prop := b.yes_bid = 0 ∧ b.yes_ask = 0

/-- Nothing is, or the spread lies around fifty cents: both sides have the same quotes. -/
def Even (b : Book) : Prop :=
  b.Empty ∨ b.yes_bid ≠ 0 ∧ b.yes_ask ≠ 0 ∧ b.yes_bid + b.yes_ask = 1

variable {b : Book}

theorem bid_nonneg (side : Side) : 0 ≤ b.bid side := by
  cases side with
  | yes => exact b.yes_bid_nonneg
  | no =>
    show 0 ≤ if b.yes_ask = 0 then 0 else 1 - b.yes_ask
    split
    · exact le_rfl
    · linarith [b.yes_ask_lt]

/-- The quotes of YES are those of NO. -/
theorem even_iff : b.yes_bid = b.bid .no ∧ b.yes_ask = b.ask .no ↔ b.Even := by
  unfold bid ask Even Empty
  dsimp only
  by_cases hbid : b.yes_bid = 0
  · by_cases hask : b.yes_ask = 0
    · simp [hbid, hask]
    · simp [hbid, hask]
  · by_cases hask : b.yes_ask = 0
    · simp [hbid, hask]
    · rw [if_neg hbid, if_neg hask]
      constructor
      · rintro ⟨hsum, -⟩
        exact .inr ⟨hbid, hask, by linarith⟩
      · rintro (⟨hzero, -⟩ | ⟨-, -, hsum⟩)
        · exact absurd hzero hbid
        · exact ⟨by linarith, by linarith⟩

/-- The quotes of YES are those of the side. -/
theorem yes_quotes_iff (side : Side) :
    b.yes_bid = b.bid side ∧ b.yes_ask = b.ask side ↔ side = .yes ∨ b.Even := by
  cases side with
  | yes => exact iff_of_true ⟨rfl, rfl⟩ (.inl rfl)
  | no => rw [even_iff, or_iff_right nofun]

/-- A side has no quotes only where the other has none. -/
theorem empty_iff (side : Side) : 0 = b.bid side ∧ 0 = b.ask side ↔ b.Empty := by
  cases side with
  | yes => exact and_congr eq_comm eq_comm
  | no =>
    have hbid_lt := b.yes_bid_lt
    have hask_lt := b.yes_ask_lt
    unfold bid ask Empty
    constructor
    · rintro ⟨hbid, hask⟩
      constructor
      · by_contra hne
        dsimp only at hask
        rw [if_neg hne] at hask
        linarith
      · by_contra hne
        dsimp only at hbid
        rw [if_neg hne] at hbid
        linarith
    · rintro ⟨hbid, hask⟩
      exact ⟨(if_pos hask).symm, (if_pos hbid).symm⟩

end Book

/-- `mtm_usd` of the snapshot: the contracts at the bid. -/
def snapshot_mtm_usd (pos : StrandedPosition) : ℚ :=
  |pos.qty| * if 0 < pos.best_bid then pos.best_bid else 0

/-- It is what the snapshot takes for the proceeds of a close, before fees. -/
theorem close_proceeds_eq (pos : StrandedPosition) (now : ℚ) :
    (build_profitability_snapshot pos now).close_proceeds_usd =
      max 0 (snapshot_mtm_usd pos - estimate_close_fees pos.platform
        (if 0 < pos.best_bid then pos.best_bid else 0) pos.contracts) :=
  rfl

/-- What is asked of a position: the quotes of the side held in dollars, what was paid for what
    is held, and by that the proceeds of selling it at its bid. -/
structure Valued (h : Holding) (bid ask : ℚ) (pos : StrandedPosition) : Prop where
  best_bid : pos.best_bid = bid
  best_ask : pos.best_ask = ask
  cost_basis_usd : pos.cost_basis_usd = h.paid
  mtm_usd : snapshot_mtm_usd pos = h.contracts * bid

/-- With the quantity right, the proceeds follow from the bid. -/
theorem valued_iff_of_qty {h : Holding} {bid ask : ℚ} {pos : StrandedPosition}
    (hbid : 0 ≤ bid) (hqty : |pos.qty| = h.contracts) : Valued h bid ask pos ↔
      (pos.best_bid = bid ∧ pos.best_ask = ask) ∧ pos.cost_basis_usd = h.paid := by
  constructor
  · exact fun hvalued => ⟨⟨hvalued.best_bid, hvalued.best_ask⟩, hvalued.cost_basis_usd⟩
  · rintro ⟨⟨hbest, hask⟩, hcost⟩
    refine ⟨hbest, hask, hcost, ?_⟩
    rw [snapshot_mtm_usd, hqty, hbest]
    split
    · rfl
    · next hnot => rw [le_antisymm (not_lt.mp hnot) hbid]

/-- The quantity as the payloads tell it: what is held of NO counts down. -/
def Holding.signed (h : Holding) : ℚ :=
  match h.side with
  | .yes => h.contracts
  | .no => -h.contracts

theorem Holding.signed_ne_zero (h : Holding) : h.signed ≠ 0 := by
  have hpos := h.pos
  unfold signed
  split
  · exact hpos.ne'
  · exact neg_ne_zero.mpr hpos.ne'

theorem Holding.abs_signed (h : Holding) : |h.signed| = h.contracts := by
  unfold signed
  split
  · exact abs_of_pos h.pos
  · rw [abs_neg, abs_of_pos h.pos]

/-- A position that is built of a lot of as many contracts. -/
theorem Lot.valued_iff (lot : Lot) {h : Holding} {bid ask : ℚ} {platform : String} {mtm now : ℚ}
    {quote : Quote} (hbid : 0 ≤ bid) (hqty : lot.qty = h.signed) :
    Valued h bid ask (lot.position platform (side_of lot.qty) mtm quote now) ↔
      (quote.bid = bid ∧ quote.ask = ask) ∧ lot.cost_basis_usd = h.paid :=
  valued_iff_of_qty hbid (by
    show |lot.qty| = h.contracts
    rw [hqty, h.abs_signed])

/-! ## Section 2: What the fetchers build -/

/-- Kalshi's lot, at what was answered for its market. -/
def kalshi_position (cfg : Config) (p : Json ℚ) (answer : Option (Json ℚ)) (now : ℚ) :
    Option StrandedPosition :=
  (kalshi_lot cfg p).join.map fun lot =>
    let quote := quote_of (kalshi_quote cfg) answer
    lot.position "kalshi" (side_of lot.qty) (lot.qty * quote.bid) quote now

/-- Polymarket's lot, at what was answered for its book. -/
def polymarket_position (cfg : Config) (slug : String) (p : Json ℚ) (answer : Option (Json ℚ))
    (now : ℚ) : Option StrandedPosition :=
  (polymarket_lot cfg slug p).join.map fun lot =>
    lot.position "polymarket" (side_of lot.qty) lot.mtm_usd (quote_of polymarket_quote answer) now

/-- ForecastEx's lot, at the snapshot of its contract. -/
def forecastex_position (cfg : Config) (p : Json ℚ) (answer : Option (Json ℚ)) (now : ℚ) :
    Option StrandedPosition :=
  (forecastex_lot cfg p).join.map fun lot =>
    lot.position "forecastex" (side_of lot.qty) lot.mtm_usd
      (quote_of (forecastex_quote cfg) answer) now

section fetchers

variable {W : Type} {E : Env Call Answer W} {w : W} {cfg : Config} {platform : String}
         {mtm : Lot → Quote → ℚ}

/-- A lot that is read comes from an entry. -/
theorem mem_read_lots {read : Json ℚ → Option (Option Lot)} {entries : List (Json ℚ)}
    {lots : List Lot} {lot : Lot} (h : read_lots read entries = some lots) (hlot : lot ∈ lots) :
    ∃ p ∈ entries, (read p).join = some lot := by
  induction entries generalizing lots with
  | nil =>
    obtain rfl := Option.some.inj h
    exact absurd hlot List.not_mem_nil
  | cons p rest ih =>
    unfold read_lots at h
    split at h
    · next later hread hrest =>
      obtain rfl := Option.some.inj h
      obtain ⟨q, hq, hlot⟩ := ih hrest hlot
      exact ⟨q, List.mem_cons_of_mem _ hq, hlot⟩
    · next first later hread hrest =>
      obtain rfl := Option.some.inj h
      rcases List.mem_cons.mp hlot with rfl | hlot
      · exact ⟨p, List.mem_cons_self, by rw [hread]; rfl⟩
      · obtain ⟨q, hq, hlot⟩ := ih hrest hlot
        exact ⟨q, List.mem_cons_of_mem _ hq, hlot⟩
    · cases h

/-- Every lot gets the quote that was asked for it. -/
theorem quoted_built {ask : Lot → Recon Quote} {Asked : Lot → Quote → Prop} {lots : List Lot}
    (hask : ∀ lot w, wp E (ask lot) (fun quote _ => Asked lot quote) w) :
    wp E (quoted platform mtm ask lots) (fun ps _ => ∀ pos ∈ ps, ∃ lot ∈ lots, ∃ quote now,
      Asked lot quote ∧ pos = lot.position platform (side_of lot.qty) (mtm lot quote) quote now)
      w := by
  induction lots generalizing w with
  | nil => exact wp_pure.2 fun pos hpos => absurd hpos List.not_mem_nil
  | cons lot rest ih =>
    unfold quoted
    rw [wp_bind]
    refine wp_mono (hask lot w) fun quote w₁ hquote => ?_
    rw [wp_bind, wp_send]
    intro now w₂ _
    rw [wp_bind]
    refine wp_mono ih fun later w₃ hlater => wp_pure.2 fun pos hpos => ?_
    rcases List.mem_cons.mp hpos with rfl | hpos
    · exact ⟨lot, List.mem_cons_self, quote, now, hquote, rfl⟩
    · obtain ⟨lot', hmem, hbuilt⟩ := hlater pos hpos
      exact ⟨lot', List.mem_cons_of_mem _ hmem, hbuilt⟩

/-- So does every lot of a fetch. -/
theorem fetch_built {ask : Lot → Recon Quote} {portfolio : Recon (Option (List Lot))}
    {Asked : Lot → Quote → Prop} (Listed : Lot → Prop)
    (hask : ∀ lot w, wp E (ask lot) (fun quote _ => Asked lot quote) w)
    (hlisted : ∀ w, wp E portfolio
      (fun lots _ => ∀ listed, lots = some listed → ∀ lot ∈ listed, Listed lot) w) :
    wp E (fetch platform portfolio mtm ask) (fun r _ => ∀ ps, r = some ps → ∀ pos ∈ ps,
      ∃ lot quote now, Listed lot ∧ Asked lot quote ∧
        pos = lot.position platform (side_of lot.qty) (mtm lot quote) quote now) w := by
  unfold fetch
  rw [wp_bind, wp_send]
  intro configured w₁ _
  cases configured with
  | false =>
    refine wp_pure.2 fun ps hps pos hpos => ?_
    obtain rfl := Option.some.inj hps
    exact absurd hpos List.not_mem_nil
  | true =>
    show wp E (portfolio >>= _) _ _
    rw [wp_bind]
    refine wp_mono (hlisted w₁) fun lots w₂ hlots => ?_
    cases lots with
    | none => exact wp_pure.2 nofun
    | some lots =>
      dsimp only
      rw [wp_bind]
      refine wp_mono (quoted_built hask) fun built w₃ hbuilt => wp_pure.2 fun ps hps pos hpos => ?_
      obtain rfl := Option.some.inj hps
      obtain ⟨lot, hlot, quote, now, hquote, hpos⟩ := hbuilt pos hpos
      exact ⟨lot, quote, now, hlots lots rfl lot hlot, hquote, hpos⟩

/-- A lookup answers something. -/
theorem lookup_asked {c : Call} {read : Answer c → Quote} (w : W) :
    wp E (do return read (← .send c)) (fun quote _ => ∃ answer, quote = read answer) w := by
  rw [wp_bind, wp_send]
  intro answer w' _
  exact wp_pure.2 ⟨answer, rfl⟩

/-- **What a fetch of Kalshi returns** has been built of entries and answers, in every run. -/
theorem fetch_kalshi_built :
    wp E (fetch_kalshi_positions cfg) (fun r _ => ∀ ps, r = some ps → ∀ pos ∈ ps,
      ∃ p answer now, kalshi_position cfg p answer now = some pos) w := by
  refine wp_mono (fetch_built (fun lot => ∃ p, (kalshi_lot cfg p).join = some lot)
    (fun lot w => lookup_asked w) fun w => ?_) fun r _ hbuilt ps hps pos hpos => ?_
  · rw [wp_bind, wp_send]
    refine fun response w' _ => wp_pure.2 fun listed hlisted lot hlot => ?_
    obtain ⟨response, -, hlots⟩ := Option.bind_eq_some_iff.mp hlisted
    unfold kalshi_lots at hlots
    split at hlots
    · cases hlots
    · rw [Option.ite_none_left_eq_some] at hlots
      obtain ⟨-, hlots⟩ := hlots
      split at hlots
      · obtain ⟨p, -, hp⟩ := mem_read_lots hlots hlot
        exact ⟨p, hp⟩
      · cases hlots
  · obtain ⟨lot, quote, now, ⟨p, hp⟩, ⟨answer, rfl⟩, rfl⟩ := hbuilt ps hps pos hpos
    exact ⟨p, answer, now, by rw [kalshi_position, hp]; rfl⟩

/-- A lot of Polymarket's portfolio comes from one of its positions. -/
theorem mem_polymarket_lots {payload : Json ℚ} {lots : List Lot} {lot : Lot}
    (h : polymarket_lots cfg payload = some lots) (hlot : lot ∈ lots) :
    ∃ slug p, (polymarket_lot cfg slug p).join = some lot := by
  unfold polymarket_lots at h
  split at h
  · split at h
    · next positions hpositions =>
      clear hpositions
      induction positions generalizing lots with
      | nil =>
        obtain rfl := Option.some.inj h
        exact absurd hlot List.not_mem_nil
      | cons entry rest ih =>
        rw [List.foldr_cons] at h
        split at h
        · next later hread hrest =>
          obtain rfl := Option.some.inj h
          exact ih hlot hrest
        · next first later hread hrest =>
          obtain rfl := Option.some.inj h
          rcases List.mem_cons.mp hlot with rfl | hlot
          · exact ⟨entry.1, entry.2, by rw [hread]; rfl⟩
          · exact ih hlot hrest
        · cases h
    · cases h
  · cases h

/-- **What a fetch of Polymarket US returns**, likewise. -/
theorem fetch_polymarket_built :
    wp E (fetch_polymarket_us_positions cfg) (fun r _ => ∀ ps, r = some ps → ∀ pos ∈ ps,
      ∃ slug p answer now, polymarket_position cfg slug p answer now = some pos) w := by
  unfold fetch_polymarket_us_positions
  split
  · refine wp_ret.2 fun ps hps pos hpos => ?_
    obtain rfl := Option.some.inj hps
    exact absurd hpos List.not_mem_nil
  · refine wp_mono (fetch_built (fun lot => ∃ slug p, (polymarket_lot cfg slug p).join = some lot)
      (fun lot w => lookup_asked w) fun w => ?_) fun r _ hbuilt ps hps pos hpos => ?_
    · rw [wp_bind, wp_send]
      refine fun payload w' _ => wp_pure.2 fun listed hlisted lot hlot => ?_
      obtain ⟨payload, -, hlots⟩ := Option.bind_eq_some_iff.mp hlisted
      exact mem_polymarket_lots hlots hlot
    · obtain ⟨lot, quote, now, ⟨slug, p, hp⟩, ⟨answer, rfl⟩, rfl⟩ := hbuilt ps hps pos hpos
      exact ⟨slug, p, answer, now, by rw [polymarket_position, hp]; rfl⟩

/-- **What a fetch of ForecastEx returns**, likewise. -/
theorem fetch_forecastex_built :
    wp E (fetch_forecastex_positions cfg) (fun r _ => ∀ ps, r = some ps → ∀ pos ∈ ps,
      ∃ p answer now, forecastex_position cfg p answer now = some pos) w := by
  refine wp_mono (fetch_built (fun lot => ∃ p, (forecastex_lot cfg p).join = some lot)
    (fun lot w => lookup_asked w) fun w => ?_) fun r _ hbuilt ps hps pos hpos => ?_
  · rw [wp_bind, wp_send]
    refine fun positions w' _ => wp_pure.2 fun listed hlisted lot hlot => ?_
    obtain ⟨positions, -, hlots⟩ := Option.bind_eq_some_iff.mp hlisted
    obtain ⟨p, -, hp⟩ := mem_read_lots hlots hlot
    exact ⟨p, hp⟩
  · obtain ⟨lot, quote, now, ⟨p, hp⟩, ⟨answer, rfl⟩, rfl⟩ := hbuilt ps hps pos hpos
    exact ⟨p, answer, now, by rw [forecastex_position, hp]; rfl⟩

end fetchers

/-! ## Section 3: Kalshi -/

/-- A Kalshi entry and the answer for its market tell a holding, with all that was ever traded
    for it, and a book in cents or in dollars. -/
structure KalshiReports (p data : Json ℚ) (unit : PriceUnit) (h : Holding) (traded : ℚ)
    (b : Book) : Prop where
  obj : p.is_obj = true
  ticker : (p.get? "ticker").isSome = true
  position : number p "position_fp" = some h.signed
  total_traded : number p "total_traded_dollars" = some traded
  quotes :
    let market := (data.getD "market" (.obj [])).orElse (.obj [])
    match unit with
    | .cents => number market "yes_bid" = some (b.yes_bid * 100) ∧
        number market "yes_ask" = some (b.yes_ask * 100)
    | .dollars => (market.get? "yes_bid" = none ∧ market.get? "yes_ask" = none) ∧
        number market "yes_bid_dollars" = some b.yes_bid ∧
        number market "yes_ask_dollars" = some b.yes_ask

/-- A holding of Kalshi that is valued right: nothing of what was traded is gone, and the side is
    YES, or has its quotes by chance. Quotes in dollars are not read. -/
def KalshiReadable (unit : PriceUnit) (h : Holding) (traded : ℚ) (b : Book) : Prop :=
  (match unit with
    | .cents => h.side = .yes ∨ b.Even
    | .dollars => b.Empty) ∧ traded = h.paid

section kalshi

variable {cfg : Config} {p data : Json ℚ} {unit : PriceUnit} {h : Holding} {traded now : ℚ}
         {b : Book}

theorem kalshi_quote_bid_ask (cfg : Config) {market : Json ℚ} {bid ask : ℚ}
    (hmarket : (data.getD "market" (.obj [])).orElse (.obj []) = market)
    (hbid : number market "yes_bid" = some bid) (hask : number market "yes_ask" = some ask) :
    (kalshi_quote cfg data).bid = bid / 100 ∧ (kalshi_quote cfg data).ask = ask / 100 := by
  unfold kalshi_quote
  dsimp only
  rw [hmarket, hbid, hask]
  dsimp only
  split
  · exact ⟨rfl, rfl⟩
  · exact ⟨rfl, rfl⟩

/-- A key that is missing counts as zero. -/
theorem number_of_missing {v : Json ℚ} {key : String} (hmissing : v.get? key = none) :
    number v key = some 0 := by
  rw [number, Json.getD, hmissing]
  simp [Json.orElse, Json.truthy, Json.float]

/-- What is read of the book: its quotes of YES, or nothing. -/
theorem kalshi_quote_eq (cfg : Config) (hreports : KalshiReports p data unit h traded b) :
    (kalshi_quote cfg data).bid = (if unit = .cents then b.yes_bid else 0) ∧
      (kalshi_quote cfg data).ask = if unit = .cents then b.yes_ask else 0 := by
  have hquotes := hreports.quotes
  cases unit with
  | cents =>
    have hread := kalshi_quote_bid_ask cfg rfl hquotes.1 hquotes.2
    rw [mul_div_cancel_right₀ _ (by norm_num), mul_div_cancel_right₀ _ (by norm_num)] at hread
    exact hread
  | dollars =>
    have hread := kalshi_quote_bid_ask cfg rfl (number_of_missing hquotes.1.1)
      (number_of_missing hquotes.1.2)
    rw [zero_div] at hread
    exact hread

/-- **A lot of Kalshi**: it is built, and valued right exactly in that case. -/
theorem kalshi_valued_iff (hreports : KalshiReports p data unit h traded b) :
    ∃ pos, kalshi_position cfg p (some data) now = some pos ∧
      (Valued h (b.bid h.side) (b.ask h.side) pos ↔ KalshiReadable unit h traded b) := by
  obtain ⟨ticker, hticker⟩ := Option.isSome_iff_exists.mp hreports.ticker
  obtain ⟨lot, hlot, hqty, hcost⟩ :
      ∃ lot, kalshi_lot cfg p = some (some lot) ∧ lot.qty = h.signed ∧
        lot.cost_basis_usd = traded := by
    unfold kalshi_lot
    rw [if_neg (by rw [hreports.obj]; nofun), hreports.position]
    dsimp only
    rw [if_neg h.signed_ne_zero, hticker, hreports.total_traded]
    exact ⟨_, rfl, rfl, rfl⟩
  obtain ⟨hbid, hask⟩ := kalshi_quote_eq cfg hreports
  refine ⟨_, by rw [kalshi_position, hlot]; rfl, ?_⟩
  rw [lot.valued_iff (b.bid_nonneg _) hqty, hcost]
  refine and_congr ?_ Iff.rfl
  show (kalshi_quote cfg data).bid = _ ∧ (kalshi_quote cfg data).ask = _ ↔ _
  rw [hbid, hask]
  cases unit with
  | cents => exact b.yes_quotes_iff h.side
  | dollars => exact b.empty_iff h.side

end kalshi

/-! ## Section 4: Polymarket US -/

/-- A Polymarket entry and the book of its market tell a holding, with what the position cost,
    and a book in dollars, the best level of each side first. -/
structure PolymarketReports (p book : Json ℚ) (h : Holding) (b : Book) : Prop where
  obj : p.is_obj = true
  position : ∃ net : ℤ, whole_number p "netPosition" = some net ∧ (net : ℚ) = h.signed
  cost : let cost := (p.get "cost").orElse (.obj [])
    cost.is_obj = true ∧ number cost "value" = some h.paid
  cash_value : let cash_value := (p.get "cashValue").orElse (.obj [])
    cash_value.is_obj = true ∧ (number cash_value "value").isSome = true
  metadata : let metadata := (p.getD "marketMetadata" (.obj [])).orElse (.obj [])
    metadata.is_obj = true ∧ (headline metadata).isSome = true
  quotes : let data := if book.is_obj then book.getD "marketData" book else .obj []
    data.is_obj = true ∧ best_level (data.get "bids") = some b.yes_bid ∧
      best_level (data.get "offers") = some b.yes_ask

section polymarket

variable {cfg : Config} {slug : String} {p book : Json ℚ} {h : Holding} {now : ℚ} {b : Book}

/-- **A lot of Polymarket US**: it is built, and valued right exactly where the side held is YES
    or has its quotes by chance. -/
theorem polymarket_valued_iff (hreports : PolymarketReports p book h b) :
    ∃ pos, polymarket_position cfg slug p (some book) now = some pos ∧
      (Valued h (b.bid h.side) (b.ask h.side) pos ↔ h.side = .yes ∨ b.Even) := by
  obtain ⟨net, hnet, hsigned⟩ := hreports.position
  obtain ⟨cash, hcash⟩ := Option.isSome_iff_exists.mp hreports.cash_value.2
  obtain ⟨title, htitle⟩ := Option.isSome_iff_exists.mp hreports.metadata.2
  have hne : net ≠ 0 := by
    rintro rfl
    exact h.signed_ne_zero (by rw [← hsigned]; rfl)
  obtain ⟨lot, hlot, hqty, hcost⟩ :
      ∃ lot, polymarket_lot cfg slug p = some (some lot) ∧ lot.qty = h.signed ∧
        lot.cost_basis_usd = h.paid := by
    unfold polymarket_lot
    rw [if_neg (by rw [hreports.obj]; nofun), hnet]
    dsimp only
    rw [if_neg hne, if_neg (by
        rw [hreports.cost.1, hreports.cash_value.1, hreports.metadata.1]
        rintro (h | h | h) <;> cases h),
      hreports.cost.2, hcash, htitle]
    exact ⟨_, rfl, hsigned, rfl⟩
  have hquote : (polymarket_quote book).bid = b.yes_bid ∧
      (polymarket_quote book).ask = b.yes_ask := by
    unfold polymarket_quote
    dsimp only
    rw [if_neg (by rw [hreports.quotes.1]; nofun), hreports.quotes.2.1, hreports.quotes.2.2]
    exact ⟨rfl, rfl⟩
  -- the lot is quoted as YES whatever its side
  refine ⟨_, by rw [polymarket_position, hlot]; rfl, ?_⟩
  rw [lot.valued_iff (b.bid_nonneg _) hqty, hcost, and_iff_left rfl]
  show (polymarket_quote book).bid = _ ∧ (polymarket_quote book).ask = _ ↔ _
  rw [hquote.1, hquote.2]
  exact b.yes_quotes_iff h.side

end polymarket

/-! ## Section 5: ForecastEx -/

/-- How many of the unit make a dollar. -/
def per_dollar : PriceUnit → ℚ
  | .cents => 100
  | .dollars => 1

/-- A field of a snapshot tells a price in the unit: not at all, as a number that may start with
    a `C`, or with an `H` while the market is halted. -/
inductive TellsPrice (cfg : Config) (unit : PriceUnit) : Bool → Json ℚ → ℚ → Prop
  | absent {halted : Bool} : TellsPrice cfg unit halted .null 0
  | told {raw : Json ℚ} {price : ℚ} (hraw : raw ≠ .null)
      (hread : cfg.float_text (Text.strip (String.ofList
        ((raw.text cfg.spelled).toList.dropWhile (· == 'C')))) = some (price * per_dollar unit)) :
      TellsPrice cfg unit false raw price
  | halted {raw : Json ℚ} {rest : String} {price : ℚ} (hraw : raw ≠ .null)
      (htext : raw.text cfg.spelled = "H" ++ rest)
      (hread : cfg.float_text rest = some (price * per_dollar unit))
      (hmark : cfg.float_text (Text.strip ("H" ++ rest)) = none) :
      TellsPrice cfg unit true raw price

/-- An IBKR record and the snapshot of its contract tell a holding and the quotes of the contract
    that is held. A NO is held as a contract of its own, none is sold short. -/
structure ForecastexReports (cfg : Config) (p snap : Json ℚ) (unit : PriceUnit) (halted : Bool)
    (h : Holding) (bid ask : ℚ) : Prop where
  forecastex : is_forecastex_position cfg p = true
  position : ((p.get "position").orElse (.num 0)).float = some h.contracts
  conid : Text.strip (((p.get "conid").orElse (.str "" none)).text cfg.spelled) ≠ ""
  avg_cost : ∃ avg_cost, ((p.get "avgCost").orElse (.num 0)).float = some avg_cost ∧
    avg_cost * h.contracts = h.paid
  mkt_price : (((p.get "mktPrice").orElse (.num 0)).float).isSome = true
  bid_nonneg : 0 ≤ bid
  bid : TellsPrice cfg unit halted (snap.get "84") bid
  ask : TellsPrice cfg unit halted (snap.get "86") ask

/-- Quotes in dollars are read, unless the market is halted; others only where there are none. -/
def ForecastexReadable (unit : PriceUnit) (halted : Bool) (bid ask : ℚ) : Prop :=
  unit = .dollars ∧ halted = false ∨ bid = 0 ∧ ask = 0

section forecastex

variable {cfg : Config} {p snap : Json ℚ} {unit : PriceUnit} {halted : Bool} {h : Holding}
         {bid ask price now : ℚ}

/-- What the fetcher reads of a field. -/
theorem snapshot_price_eq {field : String}
    (htells : TellsPrice cfg unit halted (snap.get field) price) :
    snapshot_price cfg snap field = if halted then 0 else price * per_dollar unit := by
  have hsome (hraw : snap.get field ≠ .null) : snapshot_price cfg snap field =
      (cfg.float_text (Text.strip (String.ofList
        (((snap.get field).text cfg.spelled).toList.dropWhile (· == 'C'))))).getD 0 := by
    unfold snapshot_price
    split
    · next hnull => exact absurd hnull hraw
    · rfl
  generalize hfield : snap.get field = raw at htells hsome
  cases htells with
  | absent =>
    unfold snapshot_price
    rw [hfield]
    simp
  | told hraw hread =>
    rw [hsome hraw, hread]
    rfl
  | halted hraw htext hread hmark =>
    have hkept (rest : String) :
        ("H" ++ rest).toList.dropWhile (· == 'C') = ("H" ++ rest).toList := by
      rw [String.toList_append]
      rfl
    rw [hsome hraw, htext, hkept, String.ofList_toList, hmark]
    rfl

/-- A price is read where it is in dollars and not halted, or zero. -/
theorem read_price_iff :
    (if halted then 0 else price * per_dollar unit) = price ↔
      unit = .dollars ∧ halted = false ∨ price = 0 := by
  cases halted with
  | true =>
    rw [if_pos rfl]
    constructor
    · exact fun hzero => .inr hzero.symm
    · rintro (⟨-, hfalse⟩ | hzero)
      · cases hfalse
      · exact hzero.symm
  | false =>
    rw [if_neg nofun]
    cases unit with
    | dollars => simp [per_dollar]
    | cents =>
      constructor
      · intro hread
        right
        unfold per_dollar at hread
        linarith
      · rintro (⟨hunit, -⟩ | hzero)
        · cases hunit
        · rw [hzero, zero_mul]

/-- **A lot of ForecastEx**: it is built, and valued right exactly in that case. -/
theorem forecastex_valued_iff (hreports : ForecastexReports cfg p snap unit halted h bid ask) :
    ∃ pos, forecastex_position cfg p (some snap) now = some pos ∧
      (Valued h bid ask pos ↔ ForecastexReadable unit halted bid ask) := by
  obtain ⟨avg_cost, havg, hpaid⟩ := hreports.avg_cost
  obtain ⟨market_price, hmarket⟩ := Option.isSome_iff_exists.mp hreports.mkt_price
  have habs : |h.contracts| = h.contracts := abs_of_pos h.pos
  obtain ⟨lot, hlot, hqty, hcost⟩ :
      ∃ lot, forecastex_lot cfg p = some (some lot) ∧ lot.qty = h.contracts ∧
        lot.cost_basis_usd = h.paid := by
    unfold forecastex_lot
    rw [if_neg (by rw [hreports.forecastex]; nofun), hreports.position]
    dsimp only [Option.getD_some]
    rw [if_neg (not_or.mpr ⟨h.pos.ne', hreports.conid⟩), hmarket, havg]
    refine ⟨_, rfl, rfl, ?_⟩
    rw [Option.getD_some, habs, hpaid]
  refine ⟨_, by rw [forecastex_position, hlot]; rfl, ?_⟩
  rw [valued_iff_of_qty hreports.bid_nonneg (by
    show |lot.qty| = h.contracts
    rw [hqty, habs])]
  show (snapshot_price cfg snap "84" = bid ∧ snapshot_price cfg snap "86" = ask) ∧
    lot.cost_basis_usd = h.paid ↔ _
  rw [hcost, and_iff_left rfl, snapshot_price_eq hreports.bid, snapshot_price_eq hreports.ask,
    read_price_iff, read_price_iff, ForecastexReadable, or_and_left]

end forecastex

/-! ## Section 6: When a lot is valued right -/

/-- **When a lot is valued on the side held and in dollars**, at each venue: exactly where the
    venue tells it as the fetcher reads it. -/
theorem lots_valued_iff (cfg : Config) (now : ℚ) :
    (∀ p data unit h traded b, KalshiReports p data unit h traded b →
      ∃ pos, kalshi_position cfg p (some data) now = some pos ∧
        (Valued h (b.bid h.side) (b.ask h.side) pos ↔ KalshiReadable unit h traded b)) ∧
    (∀ slug p book h b, PolymarketReports p book h b →
      ∃ pos, polymarket_position cfg slug p (some book) now = some pos ∧
        (Valued h (b.bid h.side) (b.ask h.side) pos ↔ h.side = .yes ∨ b.Even)) ∧
    ∀ p snap unit halted h bid ask, ForecastexReports cfg p snap unit halted h bid ask →
      ∃ pos, forecastex_position cfg p (some snap) now = some pos ∧
        (Valued h bid ask pos ↔ ForecastexReadable unit halted bid ask) :=
  ⟨fun _ _ _ _ _ _ hreports => kalshi_valued_iff hreports,
    fun _ _ _ _ _ hreports => polymarket_valued_iff hreports,
    fun _ _ _ _ _ _ _ hreports => forecastex_valued_iff hreports⟩

/-- Ten contracts of NO at Kalshi, for four dollars. -/
def no_holding : Holding where
  side := .no
  contracts := 10
  pos := by norm_num
  paid := 4

/-- YES at 60 bid and 62 asked. -/
def no_book : Book where
  yes_bid := 60 / 100
  yes_ask := 62 / 100
  yes_bid_nonneg := by norm_num
  yes_bid_lt := by norm_num
  yes_ask_nonneg := by norm_num
  yes_ask_lt := by norm_num

/-- The entry of the portfolio. -/
def no_entry : Json ℚ :=
  .obj [("ticker", .str "KXHOUSE" none), ("position_fp", .str "-10.00" (some (-10))),
    ("total_traded_dollars", .str "4.00" (some 4))]

/-- The answer for its market. -/
def no_market : Json ℚ := .obj [("market", .obj [("yes_bid", .num 60), ("yes_ask", .num 62)])]

/-- **A NO is valued as a YES**: at 60 cents, where 38 are bid for it. -/
theorem no_valued_as_yes :
    KalshiReports no_entry no_market .cents no_holding 4 no_book ∧
      no_book.bid .no = 38 / 100 ∧
      ∃ pos, kalshi_position lone_config no_entry (some no_market) 0 = some pos ∧
        pos.best_bid = 60 / 100 ∧ snapshot_mtm_usd pos = 6 ∧
        ¬ Valued no_holding (no_book.bid .no) (no_book.ask .no) pos := by
  have hbid : no_book.bid .no = 38 / 100 := by decide +kernel
  have hposition : (kalshi_position lone_config no_entry (some no_market) 0).map
      (fun pos => (pos.best_bid, snapshot_mtm_usd pos)) = some (60 / 100, 6) := by
    decide +kernel
  obtain ⟨pos, hpos, hread⟩ := Option.map_eq_some_iff.mp hposition
  obtain ⟨hbest, hmtm⟩ := Prod.mk.inj hread
  refine ⟨⟨rfl, rfl, by decide +kernel, by decide +kernel, by decide +kernel⟩, hbid, pos, hpos,
    hbest, hmtm, fun hvalued => ?_⟩
  have hwrong := hvalued.best_bid
  rw [hbest, hbid] at hwrong
  norm_num at hwrong

end Stranded
