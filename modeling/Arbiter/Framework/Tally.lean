import Mathlib.Data.List.Basic
import Arbiter.Framework.Text

/-! # Counters Kept in Notes

  A counter that is kept as a tag `[label n/m]` inside a free text: the tag is searched for,
  deleted and written again. What is around it has to carry no tag of its own.

  ## Contents

  - `read_tag`, `find`, `erase`: the tag at a text's start, the first one, all of them.
  - `tag`: the tag with a count, as it is written.
  - `Free`: a text without a tag; a tag written after one is found, and its deletion leaves it.
-/

namespace Tally

/-- The tag `[label n/m]`, if the text starts with it: `n`, and what follows. -/
def read_tag (label l : List Char) : Option (ℕ × List Char) :=
  if ('[' :: label).isPrefixOf l then
    let count := l.drop (label.length + 1)
    match count.dropWhile Char.isDigit with
    | '/' :: total =>
        match total.dropWhile Char.isDigit with
        | ']' :: rest =>
            if count.takeWhile Char.isDigit ≠ [] ∧ total.takeWhile Char.isDigit ≠ [] then
              some (Nat.ofDigitChars 10 (count.takeWhile Char.isDigit) 0, rest)
            else none
        | _ => none
    | _ => none
  else none

/-- The count of the first tag. -/
def find (label : List Char) : List Char → Option ℕ
  | [] => none
  | c :: l =>
      match read_tag label (c :: l) with
      | some (n, _) => some n
      | none => find label l

/-- The text without its tags, at most `fuel` characters of it. -/
def erase_from (label : List Char) : ℕ → List Char → List Char
  | 0, l => l
  | _ + 1, [] => []
  | fuel + 1, c :: l =>
      match read_tag label (c :: l) with
      | some (_, rest) => erase_from label fuel rest
      | none => c :: erase_from label fuel l

/-- The text without its tags. -/
def erase (label l : List Char) : List Char := erase_from label l.length l

/-- The tag that counts `n` of `m`. -/
def tag (label : List Char) (n m : ℕ) : List Char :=
  '[' :: (label ++ (Nat.toDigits 10 n ++ '/' :: (Nat.toDigits 10 m ++ [']'])))

variable {label l t rest : List Char} {n m : ℕ}

/-! ### Reading -/

theorem dropWhile_digits {ds : List Char} (hds : ∀ d ∈ ds, d.isDigit = true) {c : Char}
    (hc : c.isDigit = false) (l : List Char) :
    (ds ++ c :: l).dropWhile Char.isDigit = c :: l ∧ (ds ++ c :: l).takeWhile Char.isDigit = ds := by
  rw [List.dropWhile_append_of_pos hds, List.takeWhile_append_of_pos hds]
  simp [hc]

/-- A tag that is read is one, character by character. -/
theorem read_tag_iff : read_tag label l = some (n, rest) ↔ ∃ ds es,
    ((∀ d ∈ ds, d.isDigit = true) ∧ ds ≠ [] ∧ (∀ e ∈ es, e.isDigit = true) ∧ es ≠ []) ∧
      l = '[' :: (label ++ (ds ++ '/' :: (es ++ ']' :: rest))) ∧ n = Nat.ofDigitChars 10 ds 0 := by
  constructor
  · intro h
    unfold read_tag at h
    split_ifs at h with hstart
    obtain ⟨count, rfl⟩ := List.isPrefixOf_iff_prefix.mp hstart
    simp only [List.cons_append, List.drop_succ_cons, List.drop_left] at h
    split at h
    · next total htotal =>
        split at h
        · next rest' hrest =>
            split_ifs at h with hne
            obtain ⟨rfl, rfl⟩ := Prod.mk.inj (Option.some.inj h)
            refine ⟨_, _, ⟨fun _ => List.mem_takeWhile_imp, hne.1,
              fun _ => List.mem_takeWhile_imp, hne.2⟩, ?_, rfl⟩
            rw [← hrest, List.takeWhile_append_dropWhile, ← htotal,
              List.takeWhile_append_dropWhile]
            rfl
        · cases h
    · cases h
  · -- the digits end where the separator stands
    rintro ⟨ds, es, ⟨hds, hds', hes, hes'⟩, rfl, rfl⟩
    have hstart : ('[' :: label).isPrefixOf ('[' :: (label ++ (ds ++ '/' :: (es ++ ']' :: rest)))) =
        true :=
      List.isPrefixOf_iff_prefix.mpr ⟨ds ++ '/' :: (es ++ ']' :: rest), rfl⟩
    obtain ⟨hdrop, htake⟩ := dropWhile_digits hds (c := '/') (by decide) (es ++ ']' :: rest)
    obtain ⟨hdrop', htake'⟩ := dropWhile_digits hes (c := ']') (by decide) rest
    unfold read_tag
    rw [if_pos hstart]
    simp only [List.drop_succ_cons, List.drop_left, hdrop, hdrop', htake, htake']
    rw [if_pos ⟨hds', hes'⟩]

/-- A tag that is written is read. -/
theorem read_tag_tag : read_tag label (tag label n m ++ rest) = some (n, rest) := by
  refine read_tag_iff.2 ⟨Nat.toDigits 10 n, Nat.toDigits 10 m, ⟨?_, Nat.toDigits_ne_nil, ?_,
    Nat.toDigits_ne_nil⟩, by simp [tag], Nat.ofDigitChars_ten_toDigits.symm⟩
  · exact fun _ => Nat.isDigit_of_mem_toDigits (by decide) (by decide)
  · exact fun _ => Nat.isDigit_of_mem_toDigits (by decide) (by decide)

/-- What follows does not matter. -/
theorem read_tag_append (h : read_tag label l = some (n, rest)) :
    read_tag label (l ++ t) = some (n, rest ++ t) := by
  obtain ⟨ds, es, hdigits, rfl, rfl⟩ := read_tag_iff.1 h
  exact read_tag_iff.2 ⟨ds, es, hdigits, by simp, rfl⟩

/-- A tag opens at its start only, and nowhere else. -/
theorem not_mem_of_read_tag (hlabel : '[' ∉ label) {c : Char} {l : List Char}
    (h : read_tag label (c :: l) = some (n, rest)) :
    ∃ body, '[' ∉ body ∧ l = body ++ ']' :: rest := by
  obtain ⟨ds, es, ⟨hds, -, hes, -⟩, hl, -⟩ := read_tag_iff.1 h
  refine ⟨label ++ (ds ++ '/' :: es), ?_, by simpa using (List.cons.inj hl).2⟩
  have hdigits (ds : List Char) (hds : ∀ d ∈ ds, d.isDigit = true) : '[' ∉ ds := by
    intro hmem
    cases hds _ hmem
  simp [hlabel, hdigits ds hds, hdigits es hes]

/-! ### Texts without tags -/

/-- The text carries no tag. -/
def Free (label l : List Char) : Prop := find label l = none

theorem free_cons_iff {c : Char} :
    Free label (c :: l) ↔ read_tag label (c :: l) = none ∧ Free label l := by
  unfold Free
  rw [find]
  cases read_tag label (c :: l) <;> simp

theorem free_nil : Free label [] := rfl

theorem Free.of_end (h : Free label l) (ht : t <:+ l) : Free label t := by
  induction l with
  | nil => rwa [List.suffix_nil.mp ht]
  | cons c l ih =>
      obtain rfl | ht := List.suffix_cons_iff.mp ht
      · exact h
      · exact ih (free_cons_iff.1 h).2 ht

theorem Free.of_start (h : Free label l) (ht : t <+: l) : Free label t := by
  obtain ⟨r, rfl⟩ := ht
  induction t with
  | nil => exact free_nil
  | cons c t ih =>
      obtain ⟨hread, hrest⟩ := free_cons_iff.1 h
      refine free_cons_iff.2 ⟨?_, ih hrest⟩
      cases hc : read_tag label (c :: t) with
      | none => rfl
      | some found => cases hread.symm.trans (read_tag_append hc)

/-- A character that closes no tag adds none. -/
theorem Free.concat (h : Free label l) {c : Char} (hc : c ≠ ']') : Free label (l ++ [c]) := by
  induction l with
  | nil =>
      refine free_cons_iff.2 ⟨?_, free_nil⟩
      cases hread : read_tag label [c] with
      | none => rfl
      | some found =>
          obtain ⟨ds, es, -, hl, -⟩ := read_tag_iff.1 hread
          simp at hl
  | cons d l ih =>
      obtain ⟨hread, hrest⟩ := free_cons_iff.1 h
      refine free_cons_iff.2 ⟨?_, ih hrest⟩
      cases hfound : read_tag label (d :: (l ++ [c])) with
      | none => rfl
      | some found =>
          obtain ⟨ds, es, hdigits, hl, hn⟩ := read_tag_iff.1 hfound
          -- what follows the tag is not empty, for the text does not end in its bracket
          obtain hnil | ⟨rest, last, hrest'⟩ := List.eq_nil_or_concat found.2
          · have happ : (d :: l) ++ [c] = '[' :: (label ++ (ds ++ '/' :: es)) ++ [']'] := by
              refine hl.trans ?_
              simp [hnil]
            exact absurd (List.cons.inj (List.append_inj' happ rfl).2).1 hc
          · have hinside : read_tag label (d :: l) = some (found.1, rest) := by
              refine read_tag_iff.2 ⟨ds, es, hdigits, ?_, hn⟩
              have happ : (d :: l) ++ [c] =
                  '[' :: (label ++ (ds ++ '/' :: (es ++ ']' :: rest))) ++ [last] := by
                refine hl.trans ?_
                simp [hrest']
              exact (List.append_inj' happ rfl).1
            rw [hread] at hinside
            cases hinside

/-- Deleting the tags of a text without tags leaves it. -/
theorem Free.erase (h : Free label l) : erase label l = l := by
  have hfrom : ∀ fuel, erase_from label fuel l = l := by
    intro fuel
    induction fuel generalizing l with
    | zero => rfl
    | succ fuel ih =>
        cases l with
        | nil => rfl
        | cons c l =>
            obtain ⟨hread, hrest⟩ := free_cons_iff.1 h
            simp only [erase_from, hread, ih hrest]
  exact hfrom _

/-- No tag starts in a text without tags and ends in one written after it. -/
theorem Free.read_tag_append (hlabel : '[' ∉ label) {c : Char} (h : Free label (c :: l)) :
    read_tag label (c :: l ++ tag label n m) = none := by
  cases hread : read_tag label (c :: l ++ tag label n m) with
  | none => rfl
  | some found =>
      exfalso
      obtain ⟨k, rest⟩ := found
      obtain ⟨body, hbody, hl⟩ := not_mem_of_read_tag hlabel hread
      obtain ⟨mid, hmid, htag⟩ | ⟨mid, hmid, htag⟩ := List.append_eq_append_iff.mp hl
      · -- the tag's own opening would be in the body
        cases mid with
        | nil =>
            obtain ⟨hbracket, -⟩ := List.cons.inj htag
            cases hbracket
        | cons d mid =>
            obtain ⟨rfl, -⟩ := List.cons.inj htag
            exact hbody (by simp [hmid])
      · cases mid with
        | nil =>
            obtain ⟨hbracket, -⟩ := List.cons.inj htag
            cases hbracket
        | cons d mid =>
            -- the tag ends before the one written
            obtain ⟨rfl, hrest⟩ := List.cons.inj htag
            obtain ⟨ds, es, hdigits, hfull, hk⟩ := read_tag_iff.1 hread
            have hinside : read_tag label (c :: l) = some (k, mid) := by
              refine read_tag_iff.2 ⟨ds, es, hdigits, ?_, hk⟩
              have happ : (c :: l) ++ tag label n m =
                  '[' :: (label ++ (ds ++ '/' :: (es ++ ']' :: mid))) ++ tag label n m := by
                refine hfull.trans ?_
                simp [hrest]
              exact List.append_cancel_right happ
            rw [(free_cons_iff.1 h).1] at hinside
            cases hinside

/-- A tag written after a text without tags is the one that is found. -/
theorem Free.find_tag (hlabel : '[' ∉ label) (h : Free label l) :
    find label (l ++ tag label n m) = some n := by
  induction l with
  | nil =>
      have hread : read_tag label (tag label n m ++ []) = some (n, []) := read_tag_tag
      rw [List.append_nil] at hread
      simp only [List.nil_append, tag, find] at hread ⊢
      rw [hread]
  | cons c l ih =>
      have hread := h.read_tag_append (n := n) (m := m) hlabel
      simp only [List.cons_append, find] at hread ⊢
      rw [hread]
      exact ih (free_cons_iff.1 h).2

/-- Deleting it leaves the text. -/
theorem Free.erase_tag (hlabel : '[' ∉ label) (h : Free label l) :
    Tally.erase label (l ++ tag label n m) = l := by
  have hfrom : ∀ fuel, l.length < fuel → erase_from label fuel (l ++ tag label n m) = l := by
    intro fuel hfuel
    induction fuel generalizing l with
    | zero => omega
    | succ fuel ih =>
        cases l with
        | nil =>
            have hread : read_tag label (tag label n m ++ []) = some (n, []) := read_tag_tag
            rw [List.append_nil] at hread
            simp only [List.nil_append, tag, erase_from] at hread ⊢
            rw [hread]
            cases fuel <;> rfl
        | cons c l =>
            have hread := h.read_tag_append (n := n) (m := m) hlabel
            simp only [List.cons_append, erase_from] at hread ⊢
            rw [hread, ih (free_cons_iff.1 h).2 (by simpa using hfuel)]
  refine hfrom _ ?_
  simp [tag]

/-! ### Other marks -/

/-- A tag opens at its start only. -/
theorem not_mem_tail_tag (hlabel : '[' ∉ label) : '[' ∉ (tag label n m).tail := by
  have hread : read_tag label (tag label n m ++ []) = some (n, []) := read_tag_tag
  rw [List.append_nil] at hread
  obtain ⟨body, hbody, htail⟩ := not_mem_of_read_tag (c := '[') (l := (tag label n m).tail)
    hlabel hread
  rw [htail]
  simp [hbody]

/-- A bracketed mark that does not start the tag is in what comes before it. -/
theorem infix_of_append_tag (hlabel : '[' ∉ label) {body : List Char} (hbody : '[' ∉ body)
    (hother : ¬ '[' :: body <+: tag label n m) (h : '[' :: body <:+: l ++ tag label n m) :
    '[' :: body <:+: l := by
  have htail := not_mem_tail_tag (n := n) (m := m) hlabel
  obtain h | h | ⟨front, back, heq, hfront, hback⟩ := List.infix_append_iff.mp h
  · exact h
  · obtain h | h := List.infix_cons_iff.mp h
    · exact absurd h hother
    · exact absurd (h.subset (by simp)) htail
  · cases front with
    | nil => exact absurd (heq ▸ hback) hother
    | cons d front =>
        cases back with
        | nil =>
            rw [heq, List.append_nil]
            exact hfront.isInfix
        | cons e back =>
            -- what the mark has of the tag would open with the tag's bracket
            obtain ⟨rest, hrest⟩ := hback
            obtain ⟨rfl, -⟩ := List.cons.inj hrest
            obtain ⟨rfl, rfl⟩ := List.cons.inj heq
            exact absurd (by simp) hbody

end Tally
