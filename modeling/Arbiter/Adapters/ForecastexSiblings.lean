import Mathlib.Data.List.Sort
import Arbiter.Adapters.Forecastex
import Arbiter.Framework.System

/-! # Siblings of ForecastEx Contracts

  The YES and the NO of a ForecastEx market are contracts of their own. The venue cancels
  every SELL, so an exit buys the other contract: the adapter looks for it among the
  children of the contract's parent, then among the neighbouring ids, and keeps the pair.

  Parent, right and, where it is told, strike are compared; the maturity never is.

  ## Contents

  - Section 1: the children of an event, as the client lists them.
  - Section 2: the sibling of a contract, as the adapter finds it.
  - Section 3: exits, one after the other, with what is sent.
  - Section 4: the contracts themselves, and answers that are true of them.
  - Section 5: in which runs every exit buys the sibling, and every pair is kept both ways.
-/

namespace Forecastex

open LTS
open Execution (Side)

/-! ## Section 1: The children of an event -/

/-- `is_valid_conid`, of a text. -/
def is_valid_conid (value : String) : Bool :=
  let text := Text.strip value
  text ≠ "" && text ≠ "0" && text ≠ "None"

/-- What the gateway answers while one exit is looked up; `none` where a request raises. -/
structure Gateway where
  /-- `/iserver/contract/{conid}/info`. -/
  contract_info : String → Option (Json ℚ)
  /-- `/iserver/secdef/strikes`, of a parent and a month: the strikes of the calls and of
      the puts. -/
  strikes : String → String → Option (List ℚ × List ℚ)
  /-- `/iserver/secdef/info`, of a parent, a month and a strike: the items. -/
  secdef_info : String → String → ℚ → Option (List (Json ℚ))
  /-- The name in `/trsrv/secdef`, empty where there is none. -/
  secdef_name : String → String

/-- A child contract, as listed. -/
structure Child where
  conid : String
  right : String
  strike : Json ℚ
  maturity_date : Json ℚ
  desc : Json ℚ

/-- The months that are probed, in order. -/
def month_candidates : List String :=
  ["26", "27"].flatMap fun y =>
    ["JAN", "FEB", "MAR", "APR", "MAY", "JUN", "JUL", "AUG", "SEP", "OCT", "NOV", "DEC"].map
      (· ++ y)

section lookup

variable (spelled : Json ℚ → String)

/-- `str(v or "")`. -/
def text_or_empty (v : Json ℚ) : String := (v.orElse (.str "" none)).text spelled

/-- The child an item lists, if it has a usable id. -/
def Child.of_item (item : Json ℚ) : Option Child :=
  let conid := Text.strip (text_or_empty spelled (item.get "conid"))
  if item.is_obj && is_valid_conid conid then
    some
      { conid
        right := (text_or_empty spelled (item.get "right")).toUpper
        strike := item.get "strike"
        maturity_date := item.get "maturityDate"
        desc := item.first ["desc2", "desc1"] (.str "" none) }
  else none

/-- The children listed at one strike. -/
def children_at (gw : Gateway) (parent month : String) (strike : ℚ) : List Child :=
  ((gw.secdef_info parent month strike).getD []).filterMap (Child.of_item spelled)

/-- The first month with strikes, and these, each once and in order. -/
def hit_month (gw : Gateway) (parent : String) : Option (String × List ℚ) :=
  month_candidates.findSome? fun month =>
    match gw.strikes parent month with
    | none => none
    | some (calls, puts) =>
        if calls = [] ∧ puts = [] then none
        else some (month, (calls ++ puts).dedup.insertionSort (· ≤ ·))

/-- The parent's name says that its contracts are at the strikes 1 and 2. -/
def is_binary_control (name : String) : Bool :=
  ["HOUSE", "SENATE", "CONTROL", "MAJORITY", "PRESIDENT", "ELECTION", "GOVERNOR"].any
    fun kw => Text.occurs kw name.toUpper

/-- The children of the first of three Novembers that has any at the strikes 1 and 2. -/
def fallback_children (gw : Gateway) (parent : String) : List Child :=
  (["NOV26", "NOV27", "NOV28"].findSome? fun month =>
    match [1, 2].flatMap (children_at spelled gw parent month) with
    | [] => none
    | children => some children).getD []

/-- `resolve_event_children`; it raises where no month was answered. -/
def resolve_event_children (gw : Gateway) (parent : String) : Option (List Child) :=
  match hit_month gw parent with
  | some (month, strikes) => some (strikes.flatMap (children_at spelled gw parent month))
  | none =>
      if month_candidates.all fun month => (gw.strikes parent month).isNone then none
      else if is_binary_control (gw.secdef_name parent) then
        some (fallback_children spelled gw parent)
      else some []

/-! ## Section 2: The sibling of a contract -/

/-- The keys of a contract's parent. -/
def parent_keys : List String :=
  ["underlying_con_id", "underlyingConid", "undConid", "underconid"]

/-- The right of a contract. -/
def info_right (info : Json ℚ) : String := (text_or_empty spelled (info.get "right")).toUpper

def call_rights : List String := ["C", "CALL"]

def put_rights : List String := ["P", "PUT"]

/-- The rights opposite to one of `call_rights` and `put_rights`. -/
def want_right (right : String) : List String :=
  if right ∈ call_rights then put_rights else call_rights

/-- The strike as a number, where it is given and converts. -/
def strike_f (strike : Json ℚ) : Option ℚ :=
  match strike with
  | .null => none
  | strike => strike.float

/-- The strike `v or 0.0` converts, to one that differs from `q` by no more than a
    millionth. -/
def near_strike (v : Json ℚ) (q : ℚ) : Bool :=
  match (v.orElse (.num 0)).float with
  | some p => |p - q| ≤ 1 / 1000000
  | none => false

/-- The loop over the children takes this one. -/
def takes (conid : String) (rights : List String) (strike : Option ℚ) (child : Child) : Bool :=
  let candidate := Text.strip child.conid
  child.right.toUpper ∈ rights && (strike.all fun q => near_strike child.strike q) &&
    candidate ≠ "" && candidate ≠ conid

/-- `_contract_info_is_verified_sibling`. -/
def contract_info_is_verified_sibling (info : Json ℚ) (parent : Json ℚ) (strike : Option ℚ)
    (rights : List String) : Bool :=
  let candidate_parent := info.first parent_keys .null
  let exchange := (text_or_empty spelled
    (info.first ["exchange", "valid_exchanges", "listingExchange"] .null)).toUpper
  info.is_obj && info.truthy &&
    text_or_empty spelled candidate_parent = text_or_empty spelled parent &&
    (exchange = "" || Text.occurs "FORECASTX" exchange) &&
    info_right spelled info ∈ rights &&
    match strike with
    | some q => near_strike (info.get "strike") q
    -- Without a strike of its own the contract may only match one that has none either.
    | none =>
        match info.get "strike" with
        | .null => true
        | .str s _ => s = ""
        | _ => false

/-- The neighbour at an offset, if its page verifies it. -/
def verified_neighbour (gw : Gateway) (conid : String) (parent : Json ℚ) (strike : Option ℚ)
    (rights : List String) (base offset : ℤ) : Option String :=
  let candidate := toString (base + offset)
  if candidate = conid then none
  else
    match gw.contract_info candidate with
    | none => none
    | some info =>
        if contract_info_is_verified_sibling spelled info parent strike rights then
          some candidate
        else none

/-- The order in which neighbours are asked for. -/
def offsets : List ℤ := [1, -1, 2, -2]

/-- `_resolve_adjacent_verified_sibling`. -/
def resolve_adjacent_verified_sibling (gw : Gateway) (conid : String) (parent : Json ℚ)
    (strike : Option ℚ) (rights : List String) : Option String :=
  match conid.toInt? with
  | none => none
  | some base =>
      offsets.findSome? (verified_neighbour spelled gw conid parent strike rights base)

/-- `_sibling_cache`: the text is empty for a contract that has no sibling. -/
abbrev SiblingCache := String → Option String

/-- `_cache_sibling_pair`. -/
def cache_sibling_pair (cache : SiblingCache) (conid sibling_conid : String) : SiblingCache :=
  let cache := Function.update cache conid (some sibling_conid)
  -- `setdefault`: the way back is only noted where nothing is.
  match cache sibling_conid with
  | some _ => cache
  | none => Function.update cache sibling_conid (some conid)

/-- The contract that is taken for the sibling, if the lookups end with one; they are not
    repeated where they have `ended`. -/
structure Found where
  ended : Bool
  sibling : Option String
  deriving DecidableEq

/-- The lookups of `_resolve_sibling_conid`. -/
def find_sibling (gw : Gateway) (conid : String) : Found :=
  match gw.contract_info conid with
  | none => ⟨false, none⟩
  | some info =>
      if info.is_obj && info.truthy then
        let parent := info.first parent_keys .null
        let strike := strike_f (info.get "strike")
        let right := info_right spelled info
        if parent.truthy && right ∈ call_rights ++ put_rights then
          match resolve_event_children spelled gw (parent.text spelled) with
          -- raised: not an end that is remembered
          | none => ⟨false, none⟩
          | some children =>
              match children.find? (takes conid (want_right right) strike) with
              | some child => ⟨true, some (Text.strip child.conid)⟩
              | none =>
                  ⟨true, resolve_adjacent_verified_sibling spelled gw conid parent strike
                    (want_right right)⟩
        else ⟨true, none⟩
      else ⟨true, none⟩

/-- `_resolve_sibling_conid`: the sibling, and the cache afterwards. -/
def resolve_sibling_conid (gw : Gateway) (cache : SiblingCache) (conid : String) :
    Option String × SiblingCache :=
  if conid ∈ ["", "0", "None"] then (none, cache)
  else
    match cache conid with
    | some sibling => (if sibling = "" then none else some sibling, cache)
    | none =>
        match find_sibling spelled gw conid with
        | ⟨_, some sibling⟩ => (some sibling, cache_sibling_pair cache conid sibling)
        -- What was answered once is not asked again; what raised is.
        | ⟨true, none⟩ => (none, Function.update cache conid (some ""))
        | ⟨false, none⟩ => (none, cache)

/-! ## Section 3: Exits -/

/-- A call of `place_resting_sell` or `place_unwind_sell`. -/
structure Exit where
  market_id : String
  price : ℚ≥0
  qty : ℕ
  tif : String

/-- A BUY that was sent for an exit of `held`. -/
structure Routed where
  held : String
  conid : String
  price : ℚ≥0
  quantity : ℕ
  tif : String

/-- The adapter, with what it has sent for exits, newest first. -/
structure ExitDesk where
  sibling_cache : SiblingCache
  sent : List Routed

/-- `_submit_sell`, to the order it sends. -/
def submit_sell (gw : Gateway) (s : ExitDesk) (exit : Exit) : ExitDesk :=
  let held := Text.strip exit.market_id
  let snapped := snap_to_tick exit.price
  match resolve_sibling_conid spelled gw s.sibling_cache held with
  | (none, cache) => { s with sibling_cache := cache }
  | (some sibling_conid, cache) =>
      { sibling_cache := cache
        sent :=
          { held
            conid := sibling_conid
            price := snap_to_tick (1 - snapped)
            quantity := exit.qty
            tif := exit.tif } :: s.sent }

/-- The adapter over its life: exits, with what the gateway answers to each. -/
def exits : System ExitDesk (Gateway × Exit) where
  init := fun s => s = ⟨fun _ => none, []⟩
  step := fun s l s' => s' = submit_sell spelled l.1 s l.2

end lookup

/-! ## Section 4: Contracts -/

/-- YES is a call, NO a put. -/
inductive Right
  | call
  | put
  deriving DecidableEq

/-- A contract as it is. -/
structure Contract where
  parent : String
  strike : Option ℚ
  maturity : String
  right : Right

/-- The contracts there are, by id. -/
abbrev Catalogue := String → Option Contract

/-- The two sides of one market. -/
def Siblings (cat : Catalogue) (a b : String) : Prop :=
  ∃ k l, cat a = some k ∧ cat b = some l ∧ l.parent = k.parent ∧ l.strike = k.strike ∧
    l.maturity = k.maturity ∧ l.right ≠ k.right

theorem Siblings.symm {cat : Catalogue} {a b : String} (h : Siblings cat a b) :
    Siblings cat b a := by
  obtain ⟨k, l, hk, hl, hparent, hstrike, hmaturity, hright⟩ := h
  exact ⟨l, k, hl, hk, hparent.symm, hstrike.symm, hmaturity.symm, hright.symm⟩

theorem Siblings.ne {cat : Catalogue} {a b : String} (h : Siblings cat a b) : a ≠ b := by
  rintro rfl
  obtain ⟨k, l, hk, hl, -, -, -, hright⟩ := h
  rw [hk, Option.some.injEq] at hl
  exact hright (hl ▸ rfl)

/-- What is said of the right and of the strike is so. -/
structure Contract.Told (k : Contract) (right : String) (strike : Json ℚ) : Prop where
  call : right ∈ call_rights → k.right = .call
  put : right ∈ put_rights → k.right = .put
  strike : ∀ q, strike_f strike = some q → k.strike = some q

section truth

variable (spelled : Json ℚ → String) (cat : Catalogue)

/-- What the gateway says of contracts is so: of one on its own page, where that names its
    parent, and of those it lists under a parent. -/
structure Truthful (gw : Gateway) : Prop where
  page : ∀ conid info, gw.contract_info conid = some info →
    (info.first parent_keys .null).truthy = true →
      ∃ k, cat conid = some k ∧ k.parent = (info.first parent_keys .null).text spelled ∧
        k.Told (info_right spelled info) (info.get "strike")
  listed : ∀ parent month strike items item child,
    gw.secdef_info parent month strike = some items → item ∈ items →
    Child.of_item spelled item = some child →
      ∃ k, cat (Text.strip child.conid) = some k ∧ k.parent = parent ∧
        k.Told child.right.toUpper child.strike
  /-- Every contract has a parent. -/
  named : ∀ conid k, cat conid = some k → k.parent ≠ ""

/-! ## Section 5: Exits that buy the sibling -/

/-- The first contract that the comparisons let through for `conid`, whose page is `info`,
    with the strike it is told with: a child, or where there is none a neighbour. -/
inductive MatchedFirst (gw : Gateway) (conid : String) (info : Json ℚ) : String → Json ℚ → Prop
  | child {before after : List Child} {child : Child}
      (hchildren : resolve_event_children spelled gw
        ((info.first parent_keys .null).text spelled) = some (before ++ child :: after))
      (htakes : takes conid (want_right (info_right spelled info)) (strike_f (info.get "strike"))
        child = true)
      (hbefore : ∀ c ∈ before, takes conid (want_right (info_right spelled info))
        (strike_f (info.get "strike")) c = false) :
      MatchedFirst gw conid info (Text.strip child.conid) child.strike
  | neighbour {children : List Child} {base offset : ℤ} {before after : List ℤ}
      {sibling : String} {page : Json ℚ}
      (hchildren : resolve_event_children spelled gw
        ((info.first parent_keys .null).text spelled) = some children)
      (hnone : ∀ c ∈ children, takes conid (want_right (info_right spelled info))
        (strike_f (info.get "strike")) c = false)
      (hbase : conid.toInt? = some base) (hoffsets : offsets = before ++ offset :: after)
      (hverified : verified_neighbour spelled gw conid (info.first parent_keys .null)
        (strike_f (info.get "strike")) (want_right (info_right spelled info)) base offset =
          some sibling)
      (hbefore : ∀ o ∈ before, verified_neighbour spelled gw conid (info.first parent_keys .null)
        (strike_f (info.get "strike")) (want_right (info_right spelled info)) base o = none)
      (hpage : gw.contract_info sibling = some page) :
      MatchedFirst gw conid info sibling (page.get "strike")

/-- What the comparisons leave open is so: the first match matures with the contract, has
    its strike unless both strikes are told and the same, and is in no pair yet. -/
def MatchesTruly (gw : Gateway) (cache : SiblingCache) (conid : String) : Prop :=
  ∀ info sibling strike, gw.contract_info conid = some info →
    MatchedFirst spelled gw conid info sibling strike →
      cache sibling = none ∧
        ∀ k l, cat conid = some k → cat sibling = some l →
          l.maturity = k.maturity ∧
            (l.strike = k.strike ∨
              ∃ q, strike_f (info.get "strike") = some q ∧ strike_f strike = some q)

/-- The pairs in the cache are siblings, and each is kept both ways. -/
structure Paired (cache : SiblingCache) : Prop where
  cached : ∀ a b, cache a = some b → b ≠ "" → Siblings cat a b
  involution : ∀ a b, cache a = some b → b ≠ "" → cache b = some a

/-- Every order of an exit is for the sibling of the contract that is held, and the cache
    pairs siblings. -/
structure Hedging (s : ExitDesk) : Prop where
  sent : ∀ order ∈ s.sent, Siblings cat order.held order.conid
  paired : Paired cat s.sibling_cache

/-- The condition on one exit: it is answered truthfully, and where the sibling has to be
    looked up, what the comparisons leave open is so. -/
def ResolvesTruly (s : ExitDesk) (l : Gateway × Exit) : Prop :=
  Truthful spelled cat l.1 ∧
    (Text.strip l.2.market_id ∉ ["", "0", "None"] →
      s.sibling_cache (Text.strip l.2.market_id) = none →
      MatchesTruly spelled cat l.1 s.sibling_cache (Text.strip l.2.market_id))

/-! ### The lookups -/

variable {spelled cat} {gw : Gateway} {conid : String}

/-- A child that is listed for an event is one of the items at some month and strike. -/
theorem exists_item_of_mem_children {parent : String} {children : List Child} {child : Child}
    (h : resolve_event_children spelled gw parent = some children) (hmem : child ∈ children) :
    ∃ month strike items item, gw.secdef_info parent month strike = some items ∧
      item ∈ items ∧ Child.of_item spelled item = some child := by
  have hat : ∀ month strike, child ∈ children_at spelled gw parent month strike →
      ∃ month strike items item, gw.secdef_info parent month strike = some items ∧
        item ∈ items ∧ Child.of_item spelled item = some child := by
    intro month strike hchild
    rw [children_at, List.mem_filterMap] at hchild
    obtain ⟨item, hitem, hof⟩ := hchild
    cases hinfo : gw.secdef_info parent month strike with
    | none => simp [hinfo] at hitem
    | some items => exact ⟨month, strike, items, item, hinfo, by simpa [hinfo] using hitem, hof⟩
  unfold resolve_event_children at h
  split at h
  · rename_i month strikes _
    cases h
    obtain ⟨strike, -, hchild⟩ := List.mem_flatMap.mp hmem
    exact hat month strike hchild
  -- without a listed strike, the first of three months that lists any
  · split_ifs at h
    · cases h
      rw [fallback_children] at hmem
      generalize hfound : (["NOV26", "NOV27", "NOV28"].findSome? _) = found at hmem
      cases found with
      | none => simp at hmem
      | some hits =>
          obtain ⟨month, -, hmonth⟩ := List.exists_of_findSome?_eq_some hfound
          split at hmonth
          · cases hmonth
          · cases hmonth
            obtain ⟨strike, -, hchild⟩ := List.mem_flatMap.mp hmem
            exact hat month strike hchild
    · cases h
      simp at hmem

/-- What a neighbour's page says, where it verifies it. -/
theorem verified_neighbour_eq_some {parent : Json ℚ} {strike : Option ℚ} {rights : List String}
    {base offset : ℤ} {sibling : String}
    (h : verified_neighbour spelled gw conid parent strike rights base offset = some sibling) :
    sibling ≠ conid ∧ ∃ page, gw.contract_info sibling = some page ∧
      contract_info_is_verified_sibling spelled page parent strike rights = true := by
  unfold verified_neighbour at h
  simp only at h
  split_ifs at h with hself
  split at h
  · cases h
  · rename_i page hpage
    split_ifs at h with hverified
    cases h
    exact ⟨hself, page, hpage, hverified⟩

/-- A sibling that is found is the first match for a contract whose page names its parent
    and its right. -/
theorem find_sibling_eq_some {ended : Bool} {sibling : String}
    (h : find_sibling spelled gw conid = ⟨ended, some sibling⟩) :
    ∃ info strike, gw.contract_info conid = some info ∧
      (info.first parent_keys .null).truthy = true ∧
      info_right spelled info ∈ call_rights ++ put_rights ∧
      MatchedFirst spelled gw conid info sibling strike := by
  unfold find_sibling at h
  split at h
  · cases h
  · rename_i info hinfo
    simp only at h
    split_ifs at h with hobj hnamed
    · rw [Bool.and_eq_true, decide_eq_true_eq] at hnamed
      obtain ⟨hparent, hright⟩ := hnamed
      split at h
      · cases h
      · rename_i children hchildren
        split at h
        -- a child of the same parent, or else a neighbour whose page is verified
        · rename_i child hfind
          cases h
          obtain ⟨htakes, before, after, rfl, hbefore⟩ := List.find?_eq_some_iff_append.mp hfind
          exact ⟨info, child.strike, hinfo, hparent, hright,
            .child hchildren htakes fun c hc => by simpa using hbefore c hc⟩
        · rename_i hfind
          have hadjacent : resolve_adjacent_verified_sibling spelled gw conid
              (info.first parent_keys .null) (strike_f (info.get "strike"))
              (want_right (info_right spelled info)) = some sibling := by
            simpa using congrArg Found.sibling h
          unfold resolve_adjacent_verified_sibling at hadjacent
          split at hadjacent
          · cases hadjacent
          · rename_i base hbase
            obtain ⟨before, offset, after, hoffsets, hverified, hbefore⟩ :=
              List.findSome?_eq_some_iff.mp hadjacent
            obtain ⟨-, page, hpage, -⟩ := verified_neighbour_eq_some hverified
            exact ⟨info, page.get "strike", hinfo, hparent, hright,
              .neighbour hchildren (by simpa using hfind) hbase hoffsets hverified hbefore
                hpage⟩
    · cases h
    · cases h

/-- A first match is what is found. -/
theorem MatchedFirst.find_sibling_eq {info : Json ℚ} {sibling : String} {strike : Json ℚ}
    (h : MatchedFirst spelled gw conid info sibling strike)
    (hinfo : gw.contract_info conid = some info) (hobj : (info.is_obj && info.truthy) = true)
    (hparent : (info.first parent_keys .null).truthy = true)
    (hright : info_right spelled info ∈ call_rights ++ put_rights) :
    find_sibling spelled gw conid = ⟨true, some sibling⟩ := by
  have hnamed : ((info.first parent_keys .null).truthy &&
      decide (info_right spelled info ∈ call_rights ++ put_rights)) = true := by
    rw [hparent, Bool.true_and, decide_eq_true_eq]
    exact hright
  -- past the checks of the page, the two searches decide
  unfold find_sibling
  simp only [hinfo, hobj, hnamed, if_true]
  cases h with
  | @child before after child hchildren htakes hbefore =>
      have hfind : (before ++ child :: after).find? (takes conid
          (want_right (info_right spelled info)) (strike_f (info.get "strike"))) = some child :=
        List.find?_eq_some_iff_append.mpr
          ⟨htakes, before, after, rfl, fun c hc => by simp [hbefore c hc]⟩
      simp only [hchildren, hfind]
  | @neighbour children base offset before after _ page hchildren hnone hbase hoffsets hverified
      hbefore hpage =>
      have hfind : children.find? (takes conid (want_right (info_right spelled info))
          (strike_f (info.get "strike"))) = none :=
        List.find?_eq_none.mpr fun c hc => by simp [hnone c hc]
      have hadjacent : resolve_adjacent_verified_sibling spelled gw conid
          (info.first parent_keys .null) (strike_f (info.get "strike"))
          (want_right (info_right spelled info)) = some sibling := by
        simp only [resolve_adjacent_verified_sibling, hbase]
        exact List.findSome?_eq_some_iff.mpr
          ⟨before, offset, after, hoffsets, hverified, hbefore⟩
      simp only [hchildren, hfind, hadjacent]

/-! ### What the comparisons are worth -/

/-- A contract with a right opposite to the one that is told of `k`. -/
theorem Contract.Told.right_ne {k l : Contract} {right other : String} {strike strike' : Json ℚ}
    (hk : k.Told right strike) (hl : l.Told other strike')
    (hright : right ∈ call_rights ++ put_rights) (hother : other ∈ want_right right) :
    l.right ≠ k.right := by
  by_cases hcall : right ∈ call_rights
  · have hput : other ∈ put_rights := by simpa [want_right, hcall] using hother
    rw [hl.put hput, hk.call hcall]
    simp
  · have hput : right ∈ put_rights := by simpa [hcall] using hright
    have hother : other ∈ call_rights := by simpa [want_right, hcall] using hother
    rw [hl.call hother, hk.put hput]
    simp

/-- A first match has the parent of the contract and the opposite right, and both strikes
    are as they are told. -/
theorem MatchedFirst.told {info : Json ℚ} {sibling : String} {strike : Json ℚ}
    (htrue : Truthful spelled cat gw) (hinfo : gw.contract_info conid = some info)
    (hparent : (info.first parent_keys .null).truthy = true)
    (hright : info_right spelled info ∈ call_rights ++ put_rights)
    (h : MatchedFirst spelled gw conid info sibling strike) :
    ∃ k l, cat conid = some k ∧ cat sibling = some l ∧ l.parent = k.parent ∧
      l.right ≠ k.right ∧
      (∀ q, strike_f (info.get "strike") = some q → k.strike = some q) ∧
      ∀ q, strike_f strike = some q → l.strike = some q := by
  obtain ⟨k, hk, hkparent, hktold⟩ := htrue.page conid info hinfo hparent
  refine ⟨k, ?_⟩
  -- a child is told of by its item, a neighbour by its own page
  cases h with
  | @child before after child hchildren htakes _ =>
      have hmem : child ∈ before ++ child :: after := by simp
      obtain ⟨month, strike, items, item, hitems, hitem, hof⟩ :=
        exists_item_of_mem_children hchildren hmem
      obtain ⟨l, hl, hlparent, hltold⟩ := htrue.listed _ month strike items item child hitems
        hitem hof
      have hother : child.right.toUpper ∈ want_right (info_right spelled info) := by
        simp only [takes, Bool.and_eq_true, decide_eq_true_eq] at htakes
        exact htakes.1.1.1
      exact ⟨l, hk, hl, by rw [hlparent, hkparent], hktold.right_ne hltold hright hother,
        hktold.strike, hltold.strike⟩
  | @neighbour children base offset before after _ page hchildren _ _ _ hverified _ hpage =>
      obtain ⟨-, page', hpage', hsame⟩ := verified_neighbour_eq_some hverified
      obtain rfl : page' = page := by simpa [hpage] using hpage'.symm
      simp only [contract_info_is_verified_sibling, Bool.and_eq_true, decide_eq_true_eq] at hsame
      obtain ⟨⟨⟨⟨-, hsame⟩, -⟩, hother⟩, -⟩ := hsame
      have hparent_text : text_or_empty spelled (info.first parent_keys .null) = k.parent := by
        rw [text_or_empty, Json.orElse, if_pos hparent, hkparent]
      have htruthy : (page'.first parent_keys .null).truthy = true := by
        by_contra hfalse
        rw [hparent_text, text_or_empty, Json.orElse, if_neg hfalse] at hsame
        exact htrue.named conid k hk hsame.symm
      obtain ⟨l, hl, hlparent, hltold⟩ := htrue.page sibling page' hpage htruthy
      have hlparent' : l.parent = k.parent := by
        rw [hlparent, ← hparent_text, ← hsame, text_or_empty, Json.orElse, if_pos htruthy]
      exact ⟨l, hk, hl, hlparent', hktold.right_ne hltold hright hother, hktold.strike,
        hltold.strike⟩

/-- Where what the comparisons leave open is so, what is found is the sibling. -/
theorem find_sibling_siblings {cache : SiblingCache} {ended : Bool} {sibling : String}
    (htrue : Truthful spelled cat gw) (hmatch : MatchesTruly spelled cat gw cache conid)
    (h : find_sibling spelled gw conid = ⟨ended, some sibling⟩) :
    Siblings cat conid sibling ∧ cache sibling = none := by
  obtain ⟨info, strike, hinfo, hparent, hright, hfirst⟩ := find_sibling_eq_some h
  obtain ⟨k, l, hk, hl, hlparent, hne, hkstrike, hlstrike⟩ :=
    hfirst.told htrue hinfo hparent hright
  obtain ⟨hnew, hopen⟩ := hmatch info sibling strike hinfo hfirst
  obtain ⟨hmaturity, hstrike⟩ := hopen k l hk hl
  have hstrike' : l.strike = k.strike := by
    obtain hstrike | ⟨q, hq, hq'⟩ := hstrike
    · exact hstrike
    · rw [hlstrike q hq', hkstrike q hq]
  exact ⟨⟨k, l, hk, hl, hlparent, hstrike', hmaturity, hne⟩, hnew⟩

/-! ### One exit, and every run of them -/

/-- A pair that is new on both sides. -/
theorem Paired.cache_pair {cache : SiblingCache} {sibling : String} (h : Paired cat cache)
    (hconid : cache conid = none) (hsibling : cache sibling = none)
    (hpair : Siblings cat conid sibling) : Paired cat (cache_sibling_pair cache conid sibling) := by
  have hne : sibling ≠ conid := hpair.ne.symm
  have heq : cache_sibling_pair cache conid sibling =
      Function.update (Function.update cache conid (some sibling)) sibling (some conid) := by
    simp [cache_sibling_pair, Function.update_of_ne hne, hsibling]
  rw [heq]
  have hkept : ∀ a b, cache a = some b → b ≠ "" → b ≠ conid ∧ b ≠ sibling := by
    intro a b hab hb
    have hback := h.involution a b hab hb
    constructor <;> rintro rfl <;> simp_all
  -- an entry is one of the two that are new, or an old one
  have hcases : ∀ a b, Function.update (Function.update cache conid (some sibling)) sibling
      (some conid) a = some b →
        (a = sibling ∧ b = conid) ∨ (a = conid ∧ b = sibling) ∨ cache a = some b := by
    intro a b hab
    by_cases hasibling : a = sibling
    · subst hasibling
      exact .inl ⟨rfl, by simpa using hab.symm⟩
    · rw [Function.update_of_ne hasibling] at hab
      by_cases haconid : a = conid
      · subst haconid
        exact .inr (.inl ⟨rfl, by simpa using hab.symm⟩)
      · rw [Function.update_of_ne haconid] at hab
        exact .inr (.inr hab)
  constructor
  · intro a b hab hb
    rcases hcases a b hab with ⟨rfl, rfl⟩ | ⟨rfl, rfl⟩ | hold
    · exact hpair.symm
    · exact hpair
    · exact h.cached a b hold hb
  · intro a b hab hb
    rcases hcases a b hab with ⟨rfl, rfl⟩ | ⟨rfl, rfl⟩ | hold
    · rw [Function.update_of_ne hne.symm, Function.update_self]
    · rw [Function.update_self]
    · obtain ⟨hbconid, hbsibling⟩ := hkept a b hold hb
      rw [Function.update_of_ne hbsibling, Function.update_of_ne hbconid]
      exact h.involution a b hold hb

/-- Noting that a contract, of which nothing was noted, has no sibling. -/
theorem Paired.cache_none {cache : SiblingCache} (h : Paired cat cache)
    (hconid : cache conid = none) : Paired cat (Function.update cache conid (some "")) := by
  have hold : ∀ a b, Function.update cache conid (some "") a = some b → b ≠ "" →
      cache a = some b := by
    intro a b hab hb
    by_cases ha : a = conid
    · subst ha
      exact absurd (by simpa using hab) hb.symm
    · rwa [Function.update_of_ne ha] at hab
  constructor
  · intro a b hab hb
    exact h.cached a b (hold a b hab hb) hb
  · intro a b hab hb
    have hback := h.involution a b (hold a b hab hb) hb
    have hne : b ≠ conid := by
      rintro rfl
      simp [hconid] at hback
    rw [Function.update_of_ne hne]
    exact hback

/-- What one lookup gives and leaves. -/
theorem resolve_sibling_conid_spec {cache : SiblingCache} (hpaired : Paired cat cache)
    (htrue : Truthful spelled cat gw)
    (hmatch : conid ∉ ["", "0", "None"] → cache conid = none →
      MatchesTruly spelled cat gw cache conid) :
    (∀ sibling ∈ (resolve_sibling_conid spelled gw cache conid).1, Siblings cat conid sibling) ∧
      Paired cat (resolve_sibling_conid spelled gw cache conid).2 := by
  unfold resolve_sibling_conid
  by_cases husable : conid ∈ ["", "0", "None"]
  · rw [if_pos husable]
    exact ⟨by simp, hpaired⟩
  · rw [if_neg husable]
    cases hcache : cache conid with
    | some sibling =>
        refine ⟨?_, hpaired⟩
        by_cases hempty : sibling = ""
        · simp [hempty]
        · simpa [hempty] using hpaired.cached conid sibling hcache hempty
    | none =>
        cases hfind : find_sibling spelled gw conid with
        | mk ended found =>
            cases found with
            | some sibling =>
                obtain ⟨hpair, hnew⟩ :=
                  find_sibling_siblings htrue (hmatch husable hcache) hfind
                exact ⟨by simpa using hpair, hpaired.cache_pair hcache hnew hpair⟩
            | none =>
                cases ended with
                | true => exact ⟨by simp, hpaired.cache_none hcache⟩
                | false => exact ⟨by simp, hpaired⟩

/-- One exit keeps `Hedging`. -/
theorem submit_sell_hedging {s : ExitDesk} {exit : Exit} (h : Hedging cat s)
    (hok : ResolvesTruly spelled cat s (gw, exit)) :
    Hedging cat (submit_sell spelled gw s exit) := by
  obtain ⟨htrue, hmatch⟩ := hok
  obtain ⟨hfound, hpaired⟩ :=
    resolve_sibling_conid_spec h.paired htrue hmatch
  unfold submit_sell
  simp only
  generalize resolve_sibling_conid spelled gw s.sibling_cache (Text.strip exit.market_id) =
    resolved at hfound hpaired
  match resolved with
  | (none, cache) => exact ⟨h.sent, hpaired⟩
  | (some sibling, cache) =>
      refine ⟨?_, hpaired⟩
      intro order horder
      obtain rfl | horder := List.mem_cons.mp horder
      · exact hfound sibling rfl
      · exact h.sent order horder

/-- In every run whose exits are all answered truthfully, and whose first matches have the
    contract's maturity, its strike unless both are told, and no pair yet: every order is
    for the sibling, and the pairs are siblings and kept both ways. -/
theorem exits_hedge {s : ExitDesk}
    (hr : Reachable ((exits spelled).restrict (ResolvesTruly spelled cat)) s) :
    Hedging cat s := by
  have hinv : Invariant ((exits spelled).restrict (ResolvesTruly spelled cat)) (Hedging cat) := by
    refine Invariant.of_step ?_ ?_
    · rintro s rfl
      exact ⟨by simp, by simp, by simp⟩
    · rintro s ⟨gw, exit⟩ s' h ⟨hok, rfl⟩
      exact submit_sell_hedging h hok
  exact hinv s hr

end truth

/-! ### A market with two maturities -/

/-- The YES and the NO that mature in February, and the NO that matures in January. -/
def two_maturities : Catalogue := fun conid =>
  match conid with
  | "101" => some ⟨"500", some 3, "20260228", .call⟩
  | "102" => some ⟨"500", some 3, "20260228", .put⟩
  | "202" => some ⟨"500", some 3, "20260131", .put⟩
  | _ => none

/-- A contract's page. -/
def page_of (right : String) : Json ℚ :=
  .obj [("underlying_con_id", .str "500" none), ("strike", .num 3), ("right", .str right none)]

/-- An item of `/iserver/secdef/info`. -/
def item_of (conid right : String) : Json ℚ :=
  .obj [("conid", .str conid none), ("right", .str right none), ("strike", .num 3)]

/-- The gateway, with what it lists in the months where there are contracts. -/
def gateway_with (listed : String → Option (List (Json ℚ))) : Gateway where
  contract_info := fun conid =>
    match conid with
    | "101" => some (page_of "C")
    | "102" => some (page_of "P")
    | "202" => some (page_of "P")
    | _ => none
  strikes := fun _ month => if (listed month).isSome then some ([3], [3]) else some ([], [])
  secdef_info := fun parent month _ => if parent = "500" then listed month else none
  secdef_name := fun _ => ""

/-- What is listed: in January one contract, in February two. -/
def listed_twice : String → Option (List (Json ℚ))
  | "JAN26" => some [item_of "202" "P"]
  | "FEB26" => some [item_of "101" "C", item_of "102" "P"]
  | _ => none

/-- The market where only February is listed. -/
def listed_once : String → Option (List (Json ℚ))
  | "FEB26" => some [item_of "101" "C", item_of "102" "P"]
  | _ => none

/-- The exit of the YES. -/
def exit_of_yes : Exit := ⟨"101", 2 / 5, 10, "IOC"⟩

/-- Values that are no text are spelled the same. -/
def unspelled : Json ℚ → String := fun _ => ""

/-- Nothing cached, nothing sent. -/
def fresh : ExitDesk := ⟨fun _ => none, []⟩

/-- Lists of items that are told as they are make a truthful gateway. -/
theorem gateway_with_truthful {listed : String → Option (List (Json ℚ))}
    (hlisted : ∀ month items, listed month = some items → ∀ item ∈ items,
      (Child.of_item unspelled item).all fun child =>
        [("101", "C"), ("102", "P"), ("202", "P")].contains
            (Text.strip child.conid, child.right.toUpper) &&
          strike_f child.strike = some 3) :
    Truthful unspelled two_maturities (gateway_with listed) := by
  have hcall : info_right unspelled (page_of "C") = "C" := by decide +kernel
  have hput : info_right unspelled (page_of "P") = "P" := by decide +kernel
  have hstrike : ∀ right, strike_f ((page_of right).get "strike") = some 3 := fun _ => rfl
  refine ⟨?_, ?_, ?_⟩
  -- the pages of the three contracts
  · intro conid info h _
    simp only [gateway_with] at h
    split at h
    · cases h
      refine ⟨_, rfl, rfl, ?_, ?_, ?_⟩ <;> simp [hcall, hstrike, put_rights]
    · cases h
      refine ⟨_, rfl, rfl, ?_, ?_, ?_⟩ <;> simp [hput, hstrike, call_rights]
    · cases h
      refine ⟨_, rfl, rfl, ?_, ?_, ?_⟩ <;> simp [hput, hstrike, call_rights]
    · cases h
  · intro parent month strike items item child h hitem hof
    simp only [gateway_with] at h
    split_ifs at h with hparent
    have hchild := hlisted month items h item hitem
    simp only [hof, Option.all_some, List.contains_eq_mem, List.mem_cons, Prod.mk.injEq,
      List.not_mem_nil, or_false, Bool.and_eq_true, decide_eq_true_eq] at hchild
    obtain ⟨⟨hconid, hright⟩ | ⟨hconid, hright⟩ | ⟨hconid, hright⟩, hthree⟩ := hchild
    · refine ⟨_, by rw [hconid]; rfl, hparent.symm, ?_, ?_, ?_⟩ <;>
        simp [hright, hthree, put_rights]
    · refine ⟨_, by rw [hconid]; rfl, hparent.symm, ?_, ?_, ?_⟩ <;>
        simp [hright, hthree, call_rights]
    · refine ⟨_, by rw [hconid]; rfl, hparent.symm, ?_, ?_, ?_⟩ <;>
        simp [hright, hthree, call_rights]
  · intro conid k h
    unfold two_maturities at h
    split at h <;> cases h <;> simp

theorem listed_twice_truthful :
    Truthful unspelled two_maturities (gateway_with listed_twice) := by
  refine gateway_with_truthful ?_
  intro month items h item hitem
  unfold listed_twice at h
  split at h <;> cases h
  · revert item
    decide +kernel
  · revert item
    decide +kernel

theorem listed_once_truthful : Truthful unspelled two_maturities (gateway_with listed_once) := by
  refine gateway_with_truthful ?_
  intro month items h item hitem
  unfold listed_once at h
  split at h <;> cases h
  revert item
  decide +kernel

/-- The search for children stops at January: the exit of the February YES buys the January
    NO, though the February NO is listed too and every answer is true. -/
theorem earlier_maturity_is_bought :
    Siblings two_maturities "101" "102" ∧ ¬ Siblings two_maturities "101" "202" ∧
      Truthful unspelled two_maturities (gateway_with listed_twice) ∧
      ((submit_sell unspelled (gateway_with listed_twice) fresh exit_of_yes).sent.map
        fun order => (order.held, order.conid)) = [("101", "202")] ∧
      ¬ ∀ s, Reachable ((exits unspelled).restrict fun _ l => Truthful unspelled two_maturities l.1)
        s → Hedging two_maturities s := by
  have htrue := listed_twice_truthful
  have hsent : ((submit_sell unspelled (gateway_with listed_twice) fresh exit_of_yes).sent.map
      fun order => (order.held, order.conid)) = [("101", "202")] := by decide +kernel
  have hwrong : ¬ Siblings two_maturities "101" "202" := by
    rintro ⟨k, l, hk, hl, -, -, hmaturity, -⟩
    cases hk
    cases hl
    exact absurd hmaturity (by decide)
  refine ⟨⟨_, _, rfl, rfl, rfl, rfl, rfl, by decide⟩, hwrong, htrue, hsent, ?_⟩
  intro h
  have hr : Reachable ((exits unspelled).restrict fun _ l => Truthful unspelled two_maturities l.1)
      (submit_sell unspelled (gateway_with listed_twice) fresh exit_of_yes) :=
    .step (l := (gateway_with listed_twice, exit_of_yes)) (.init rfl) ⟨htrue, rfl⟩
  have hhedging := h _ hr
  have hmem : ("101", "202") ∈
      (submit_sell unspelled (gateway_with listed_twice) fresh exit_of_yes).sent.map
        fun order => (order.held, order.conid) := by simp [hsent]
  obtain ⟨order, horder, heq⟩ := List.mem_map.mp hmem
  rw [Prod.mk.injEq] at heq
  have hpair := hhedging.sent order horder
  rw [heq.1, heq.2] at hpair
  exact hwrong hpair

/-- Where only February is listed, the exit of the YES buys the NO. -/
theorem exits_hedge_once :
    Hedging two_maturities
        (submit_sell unspelled (gateway_with listed_once) fresh exit_of_yes) ∧
      ((submit_sell unspelled (gateway_with listed_once) fresh exit_of_yes).sent.map
        fun order => (order.held, order.conid)) = [("101", "102")] := by
  have htrue := listed_once_truthful
  have hmatch : MatchesTruly unspelled two_maturities (gateway_with listed_once)
      fresh.sibling_cache "101" := by
    intro info sibling strike hinfo hfirst
    cases hinfo
    have hfound : find_sibling unspelled (gateway_with listed_once) "101" = ⟨true, some "102"⟩ := by
      decide +kernel
    have heq := hfirst.find_sibling_eq rfl (by decide) (by decide)
      (by decide +kernel)
    rw [hfound, Found.mk.injEq, Option.some.injEq] at heq
    obtain ⟨-, rfl⟩ := heq
    refine ⟨rfl, ?_⟩
    intro k l hk hl
    cases hk
    cases hl
    exact ⟨rfl, .inl rfl⟩
  have hr : Reachable ((exits unspelled).restrict (ResolvesTruly unspelled two_maturities))
      (submit_sell unspelled (gateway_with listed_once) fresh exit_of_yes) :=
    .step (l := (gateway_with listed_once, exit_of_yes)) (.init rfl)
      ⟨⟨htrue, fun _ _ => hmatch⟩, rfl⟩
  exact ⟨exits_hedge hr, by decide +kernel⟩

end Forecastex
