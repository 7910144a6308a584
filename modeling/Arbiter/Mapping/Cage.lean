import Arbiter.Mapping.Discovery
import Arbiter.Mapping.Passes
import Arbiter.Mapping.Replay

/-! # The Semantic Cage

  A pair whose only evidence is its similarity is not to be traded without an operator.
  The cage is the candidate's: what is stored of it is its score, its status and that its
  resolution is identical, and from these the fast path and the validator confirm rows.

  So the cage holds as long as neither of these turns to a row of such a pair.
-/

namespace Mapping

open Effect LTS

variable {sp : Spelling} {pair : String × String}

/-! ### Sequences of passes -/

/-- A pass of the discovery, or any other pass. -/
inductive CagePass
  | discovery (settings : Option PromotionSettings) (clock : Clock) (seen : Found → Evidence)
      (found : List Found) (syncs : Bool)
  | other (pass : AutoPass)

/-- What it does to the store. -/
def CagePass.pass : CagePass → AutoPass
  | .discovery settings clock seen found syncs => discovery_pass settings clock seen found syncs
  | .other pass => pass

/-- The discovery finds no structural match for the pair, and no other pass writes
    candidates. -/
def CagePass.Semantic (pair : String × String) : CagePass → Prop
  | .discovery _ _ _ found _ => ∀ f ∈ found, f.pair = pair → f.structural_match = false
  | .other pass => pass.candidates = []

/-- Passes one after the other, in which the pair's structural match is never found. The
    items they turn to meet `cond`. -/
def cage_runs (sp : Spelling) (pair : String × String) (cond : World → Turn → Prop)
    (start : World → Prop) : LTS.System World CagePass where
  init := start
  step := fun w label w' => label.Semantic pair ∧ ∃ result,
    Raising.Ends (store_env.restrict (AtTurns cond)) (label.pass.run sp) w result w'

/-- Neither the fast path nor the validator turns to a row of the pair. -/
def LeavesToOperator (pair : String × String) (w : World) : Turn → Prop
  | .fast_promote m _ => ∀ r, w.table.find m.canonical_id = some r → r.pair ≠ pair
  | .validated id _ => ∀ r, w.table.find id = some r → r.pair ≠ pair
  | _ => True

/-! ### The invariant -/

/-- No row of the pair is traded. -/
def Caged (pair : String × String) (t : Mappings) : Prop :=
  ∀ r ∈ t.rows, r.pair = pair → r.tradable = false

/-- A written row keeps it where it is not a traded row of the pair. -/
theorem Caged.puts {t : Mappings} {m : MarketMapping} (ht : Caged pair t)
    (hm : m.pair = pair → m.tradable = false) : Puts sp (Caged pair) t m := by
  intro stamp r hr hpair
  obtain rfl | ⟨hr, -⟩ := Table.mem_put.mp hr
  · obtain he | he := enforce_eq sp.spelled m
    · rw [he] at hpair ⊢
      exact hm hpair
    · simp [he, MarketMapping.tradable, MarketMapping.inserted]
  · exact ht r hr hpair

theorem Caged.update {t : Mappings} {p : MarketMapping → Bool} {f : MarketMapping → MarketMapping}
    (hf : ∀ r, (f r).canonical_id = r.canonical_id) (ht : Caged pair t)
    (hpair : ∀ r, (f r).pair = r.pair) (htraded : ∀ r, r.tradable = false → (f r).tradable = false) :
    Caged pair (update_where t p f hf) := by
  refine forall_update_where ht fun r hr hsame => ?_
  exact htraded r (hr ((hpair r).symm.trans hsame))

/-- A candidate of the pair without the permission leaves it caged. -/
theorem Caged.merge {digest : String → String} {t : Mappings} {c : Candidate}
    {existing : MarketMapping} (ht : Caged pair t)
    (hc : c.pair = pair → c.allow_auto_trade = false) (h : Resolves digest t c existing)
    (hpair : (merge_candidate c existing).pair = pair) :
    (merge_candidate c existing).tradable = false := by
  have hpair : c.pair = pair := hpair
  have hmerged : (merge_candidate c existing).tradable =
      ((merged_status c existing).1 = .confirmed && (merged_status c existing).2) := rfl
  rw [hmerged]
  unfold merged_status
  cases hstatus : existing.status with
  | confirmed =>
      obtain ⟨hmem, hsame⟩ := h.pair_of_confirmed hstatus
      have huntraded := ht existing hmem (hsame.trans hpair)
      simpa [MappingStatus.protected, MarketMapping.tradable, hstatus] using huntraded
  | candidate => cases c.asked <;> simp [MappingStatus.protected, hc hpair]
  | review | rejected | expired => simp [MappingStatus.protected]

theorem cage_kept (hslug : pair.2 ≠ "") :
    Kept sp (LeavesToOperator pair) (Caged pair) (fun m => m.pair = pair → m.tradable = false)
      fun c => c.pair = pair → c.allow_auto_trade = false where
  read := fun t ht => ht
  retire := fun t p stamp ht => ht.update (MarketMapping.retire_id stamp) (fun _ => rfl) fun r _ => by
    simp [MarketMapping.tradable, MarketMapping.retire]
  mark := fun t id unavailable stamp ht =>
    ht.update (MarketMapping.mark_id stamp unavailable) (fun _ => rfl) fun r h => h
  candidate := fun w c existing hw hc _ hexisting => hw.puts (hw.merge hc hexisting)
  stale := fun w m hw _ _ _ => hw.puts fun _ => by simp [MarketMapping.tradable]
  fast_promote := fun w m r note counts hw _ _ _ hleaves hr =>
    hw.puts fun hpair => absurd hpair (hleaves r hr)
  validated := fun w id r note counts hw _ hleaves hr =>
    hw.puts fun hpair => absurd hpair (hleaves r hr)
  quarantine := fun t r reason ht _ => ht.puts fun _ => by simp [MarketMapping.tradable]
  matched := fun w now found counts hw _ _ =>
    hw.puts fun hpair => absurd (congrArg Prod.snd hpair).symm hslug
  attach := fun w m yes no hw hm _ _ => hw.puts hm
  expire := fun w id r note hw _ _ => hw.puts fun _ => by simp [MarketMapping.tradable]

/-- A pair that looks alike. -/
def similar_pair : Found where
  kalshi_ticker := "KXFED"
  poly_slug := "fed"
  kalshi_title := "Fed funds"
  poly_question := "Fed funds"
  score := 97 / 100
  category := "economics"

/-- The discovery, over that pair: every gate passes. -/
def similar_pass : CagePass :=
  .discovery (some { auto_promote_enabled := true, auto_promote_advisory_scans := 0 })
    ⟨fun _ => none, fun _ => none⟩ (fun _ => ⟨.identical, "YES", 100, 100⟩) [similar_pair] true

theorem similar_pass_semantic : similar_pass.Semantic ("KXFED", "fed") := by
  intro f hf _
  obtain rfl := List.mem_singleton.mp hf
  rfl

/-- No rows. -/
def no_rows : World := ⟨.empty, fun _ => none⟩

/-- The store after that pass. -/
def similar_world : World := after (similar_pass.pass.run plain_spelling) no_rows

theorem similar_world_reached (cond : World → Turn → Prop)
    (hcond : ∀ w c, cond w (.candidate c)) :
    Reachable (cage_runs plain_spelling ("KXFED", "fed") cond (· = no_rows)) similar_world := by
  refine (Reachable.init rfl).step (l := similar_pass) ⟨similar_pass_semantic, _,
    ends_after_turns (fun _ turn => match turn with
      | .candidate _ => true
      | _ => false) (fun w turn hturn => ?_) ?_⟩
  · cases turn <;> first | exact hcond _ _ | cases hturn
  · decide +kernel

example : similar_world.table.rows.map (·.allow_auto_trade) = [false] := by decide +kernel

end Mapping
