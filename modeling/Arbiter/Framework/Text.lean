import Mathlib.Data.List.Basic
import Mathlib.Data.List.DropRight
import Arbiter.Framework.Instances

/-! # Text Operations

  The few string operations the modelled code uses: stripping, occurrence of one
  text in another, its end, removal of a first occurrence. Characters are classified as
  in ASCII.
-/

namespace Text

/-- `s` without leading and trailing whitespace. -/
def strip (s : String) : String :=
  String.ofList ((s.toList.dropWhile Char.isWhitespace).reverse.dropWhile Char.isWhitespace).reverse

/-- A stripped text has nothing to strip. -/
theorem strip_strip (s : String) : strip (strip s) = strip s := by
  have hfront (l : List Char) (hl : l.dropWhile Char.isWhitespace = l) :
      (l.rdropWhile Char.isWhitespace).dropWhile Char.isWhitespace =
        l.rdropWhile Char.isWhitespace := by
    rw [List.dropWhile_eq_self_iff] at hl ⊢
    intro hpos
    have hstart := List.rdropWhile_prefix Char.isWhitespace l
    rw [hstart.getElem hpos]
    exact hl (hpos.trans_le hstart.length_le)
  have hlist := hfront _ (List.dropWhile_idempotent _ s.toList)
  simp only [strip, String.toList_ofList]
  rw [show ((s.toList.dropWhile Char.isWhitespace).reverse.dropWhile Char.isWhitespace).reverse =
      (s.toList.dropWhile Char.isWhitespace).rdropWhile Char.isWhitespace from rfl, hlist]
  exact congrArg String.ofList (List.rdropWhile_idempotent _ (s.toList.dropWhile Char.isWhitespace))

/-- A character is changed only from an upper case letter to a lower case one. -/
theorem toLower_cases (c : Char) :
    c.toLower = c ∨ ('A'.val ≤ c.val ∧ 'a'.val ≤ c.toLower.val) := by
  unfold Char.toLower
  split
  next hupper =>
    have hlow := UInt32.le_iff_toNat_le.mp hupper.1
    have hhigh := UInt32.le_iff_toNat_le.mp hupper.2
    change 65 ≤ c.val.toNat at hlow
    change c.val.toNat ≤ 90 at hhigh
    have hsum : (c.val + ('a'.val - 'A'.val)).toNat = c.val.toNat + 32 := by
      rw [UInt32.toNat_add]
      exact Nat.mod_eq_of_lt (by change c.val.toNat + 32 < 2 ^ 32; omega)
    refine .inr ⟨hupper.1, UInt32.le_iff_toNat_le.mpr ?_⟩
    rw [hsum]
    change 97 ≤ c.val.toNat + 32
    omega
  next => exact .inl rfl

theorem toList_toLower (s : String) : s.toLower.toList = s.toList.map Char.toLower := by
  rw [← String.toList_map]
  rfl

/-- A text in lower case stays as it is. -/
theorem toLower_toLower (s : String) : s.toLower.toLower = s.toLower := by
  -- the lower case letters are above the upper case ones
  have hlow (c : Char) (hc : 'a'.val ≤ c.val) : c.toLower = c := by
    unfold Char.toLower
    split
    · next hupper => exact absurd (UInt32.le_trans hc hupper.2) (by decide)
    · rfl
  have hchar (c : Char) : c.toLower.toLower = c.toLower := by
    obtain hsame | ⟨-, hlower⟩ := toLower_cases c
    · rw [hsame, hsame]
    · exact hlow c.toLower hlower
  refine String.toList_injective ?_
  simp only [toList_toLower, List.map_map]
  exact List.map_congr_left fun c _ => hchar c

/-- Case is no matter to what is stripped. -/
theorem strip_toLower (s : String) : (strip s).toLower = strip s.toLower := by
  -- blanks are below the letters
  have habove (c : Char) (hc : 'A'.val ≤ c.val) : c.isWhitespace = false := by
    by_contra hspace
    simp only [Char.isWhitespace, Bool.or_eq_true, decide_eq_true_eq, Bool.not_eq_false] at hspace
    obtain ((rfl | rfl) | rfl) | rfl := hspace <;> exact absurd hc (by decide)
  have hblank : (Char.isWhitespace ∘ Char.toLower) = Char.isWhitespace := by
    funext c
    rw [Function.comp_apply]
    obtain hsame | ⟨hupper, hlower⟩ := toLower_cases c
    · rw [hsame]
    · have horder : 'A'.val ≤ 'a'.val := by decide
      rw [habove c hupper, habove _ (UInt32.le_trans horder hlower)]
  refine String.toList_injective ?_
  simp only [strip, toList_toLower, String.toList_ofList, List.dropWhile_map,
    ← List.map_reverse, hblank]

/-- `pat` occurs in `l`. -/
def occurs_list (pat : List Char) : List Char → Bool
  | [] => pat.isEmpty
  | c :: cs => pat.isPrefixOf (c :: cs) || occurs_list pat cs

/-- `pat in s`. -/
def occurs (pat s : String) : Bool := occurs_list pat.toList s.toList

/-- `s.endswith(suffix)`. -/
def ends_with (suffix s : String) : Bool := suffix.toList.isSuffixOf s.toList

/-- `right(s, n)`: the last `n` characters. -/
def right (s : String) (n : ℕ) : String := String.ofList (s.toList.drop (s.length - n))

/-- `l` without the first occurrence of `pat`. -/
def remove_first_list (pat : List Char) : List Char → List Char
  | [] => []
  | c :: cs =>
      if pat.isPrefixOf (c :: cs) then (c :: cs).drop pat.length
      else c :: remove_first_list pat cs

/-- `s.replace(pat, "", 1)`. -/
def remove_first (pat s : String) : String :=
  String.ofList (remove_first_list pat.toList s.toList)

/-- `l` with `new` for `pat`, from the left; `skip` characters are of a match. -/
def replace_list (pat new : List Char) : ℕ → List Char → List Char
  | _, [] => []
  | skip + 1, _ :: cs => replace_list pat new skip cs
  | 0, c :: cs =>
      if pat.isPrefixOf (c :: cs) then new ++ replace_list pat new (pat.length - 1) cs
      else c :: replace_list pat new 0 cs

/-- `s.replace(pat, new)`, of a text that is not empty. -/
def replace (pat new s : String) : String :=
  String.ofList (replace_list pat.toList new.toList 0 s.toList)

/-- `s.startswith(start)` -/
def starts_with (start s : String) : Bool := start.toList.isPrefixOf s.toList

private theorem isPrefixOf_append_self (l t : List Char) : l.isPrefixOf (l ++ t) = true := by
  induction l with
  | nil => rfl
  | cons c l ih => simp [ih]

/-- A replaced text has the characters of both. -/
theorem mem_replace {pat new s : String} {c : Char} (h : c ∈ (replace pat new s).toList) :
    c ∈ new.toList ∨ c ∈ s.toList := by
  have hlist (skip : ℕ) (l : List Char) :
      c ∈ replace_list pat.toList new.toList skip l → c ∈ new.toList ∨ c ∈ l := by
    induction l generalizing skip with
    | nil => cases skip <;> exact fun h => absurd h List.not_mem_nil
    | cons d l ih =>
        intro h
        cases skip with
        | succ skip => exact (ih skip h).imp_right (List.mem_cons_of_mem _)
        | zero =>
            rw [replace_list] at h
            split_ifs at h
            · obtain h | h := List.mem_append.mp h
              · exact .inl h
              · exact (ih _ h).imp_right (List.mem_cons_of_mem _)
            · obtain rfl | h := List.mem_cons.mp h
              · exact .inr List.mem_cons_self
              · exact (ih _ h).imp_right (List.mem_cons_of_mem _)
  rw [replace, String.toList_ofList] at h
  exact hlist 0 _ h

theorem occurs_list_iff (pat l : List Char) : occurs_list pat l = true ↔ pat <:+: l := by
  induction l with
  | nil => simp [occurs_list]
  | cons c cs ih =>
      rw [occurs_list, Bool.or_eq_true, ih, List.isPrefixOf_iff_prefix, List.infix_cons_iff]

/-- A text occurs in another as a run of its characters. -/
theorem occurs_iff (pat s : String) : occurs pat s = true ↔ pat.toList <:+: s.toList :=
  occurs_list_iff _ _

/-- What occurs in the end of a text occurs in it. -/
theorem occurs_append (pat s t : String) (h : occurs pat t = true) : occurs pat (s ++ t) = true := by
  rw [occurs_iff] at h ⊢
  rw [String.toList_append]
  exact h.trans (List.suffix_append _ _).isInfix

/-- What occurs in the start of a text occurs in it. -/
theorem occurs_append_left (pat s t : String) (h : occurs pat s = true) :
    occurs pat (s ++ t) = true := by
  rw [occurs_iff] at h ⊢
  rw [String.toList_append]
  exact h.trans (List.prefix_append _ _).isInfix

/-- A run without `c` does not go across one. -/
theorem infix_append_cons_iff {pat l r : List Char} {c : Char} (hc : c ∉ pat) :
    pat <:+: l ++ c :: r ↔ pat <:+: l ∨ pat <:+: r := by
  constructor
  · rintro ⟨before, after, h⟩
    rw [List.append_assoc] at h
    obtain ⟨mid, rfl, htail⟩ | ⟨mid, rfl, htail⟩ := List.append_eq_append_iff.mp h
    · obtain ⟨rest, rfl, -⟩ | ⟨rest, hpat, hrest⟩ := List.append_eq_append_iff.mp htail
      · exact .inl ⟨before, rest, by simp⟩
      · cases rest with
        | nil => exact .inl ⟨before, [], by simp [hpat]⟩
        | cons d rest =>
            obtain ⟨rfl, -⟩ := List.cons.inj hrest
            exact absurd (by simp [hpat]) hc
    · cases mid with
      | nil =>
          cases pat with
          | nil => exact .inl (List.nil_infix)
          | cons d pat =>
              obtain ⟨rfl, -⟩ := List.cons.inj htail
              exact absurd (by simp) hc
      | cons d mid =>
          obtain ⟨rfl, rfl⟩ := List.cons.inj htail
          exact .inr ⟨mid, after, by simp⟩
  · rintro (h | h)
    · exact h.trans (List.prefix_append _ _).isInfix
    · exact h.trans ((List.suffix_cons _ _).trans (List.suffix_append _ _)).isInfix

/-- A text without a blank occurs in two texts with a blank between them as it does in one
    of them. -/
theorem occurs_blank_iff {pat s t : String} (hpat : ' ' ∉ pat.toList) :
    occurs pat (s ++ " " ++ t) = true ↔ occurs pat s = true ∨ occurs pat t = true := by
  have hlist : (s ++ " " ++ t).toList = s.toList ++ ' ' :: t.toList := by
    rw [String.toList_append, String.toList_append, List.append_assoc]
    rfl
  rw [occurs_iff, occurs_iff, occurs_iff, hlist]
  exact infix_append_cons_iff hpat

/-- What is joined by a character that occurs in none of the parts can be told apart. -/
theorem join_injective {c : Char} {xs ys : List String} (hxs : ∀ x ∈ xs, c ∉ x.toList)
    (hys : ∀ y ∈ ys, c ∉ y.toList) (hx : xs ≠ []) (hy : ys ≠ [])
    (h : (String.singleton c).intercalate xs = (String.singleton c).intercalate ys) : xs = ys := by
  have hsplit := String.toList_split_intercalate hxs
  rw [h, String.toList_split_intercalate hys, if_neg hx, if_neg hy] at hsplit
  exact hsplit.symm

/-- What follows the last separator tells two texts apart. -/
theorem append_cons_inj {c : Char} {l l' t t' : List Char} (ht : c ∉ t) (ht' : c ∉ t')
    (h : l ++ c :: t = l' ++ c :: t') : l = l' ∧ t = t' := by
  -- read from the end, up to the first separator
  have hrev : t.reverse ++ c :: l.reverse = t'.reverse ++ c :: l'.reverse := by
    have := congrArg List.reverse h
    simpa using this
  have htake : ∀ {u m : List Char}, c ∉ u →
      (u.reverse ++ c :: m).takeWhile (· ≠ c) = u.reverse := by
    intro u m hu
    rw [List.takeWhile_append_of_pos]
    · simp
    · intro x hx
      have hne : x ≠ c := fun heq => hu (by simpa [heq] using hx)
      simpa using hne
  have hsame : t.reverse = t'.reverse := by
    rw [← htake (m := l.reverse) ht, hrev, htake ht']
  rw [hsame, List.append_cancel_left_eq, List.cons_inj_right] at hrev
  exact ⟨List.reverse_injective hrev, List.reverse_injective hsame⟩

/-- The texts before it, and the texts after it. -/
theorem append_sep_inj {c : Char} {sep s s' t t' : String} (hsep : sep.toList = [c])
    (ht : c ∉ t.toList) (ht' : c ∉ t'.toList) (h : s ++ sep ++ t = s' ++ sep ++ t') :
    s = s' ∧ t = t' := by
  have hlist := congrArg String.toList h
  simp only [String.toList_append, hsep, List.append_assoc, List.singleton_append] at hlist
  obtain ⟨hfront, hback⟩ := append_cons_inj ht ht' hlist
  exact ⟨String.toList_injective hfront, String.toList_injective hback⟩

/-! ### Texts of numbers -/

/-- A number is written in digits. -/
theorem isDigit_of_mem_toString {n : ℕ} {c : Char} (hc : c ∈ (toString n).toList) :
    c.isDigit = true := by
  rw [Nat.toString_eq_repr, Nat.toList_repr] at hc
  exact Nat.isDigit_of_mem_toDigits (by decide) (by decide) hc

/-- Two numbers are never written the same. -/
theorem toString_injective {a b : ℕ} (h : toString a = toString b) : a = b := by
  have hdigits := congrArg (fun s : String => Nat.ofDigitChars 10 s.toList 0) h
  simpa only [Nat.toString_eq_repr, Nat.toList_repr, Nat.ofDigitChars_ten_toDigits] using hdigits

/-- A negative one has a minus sign in front. -/
theorem repr_cases (n : ℤ) : (0 ≤ n ∧ Int.repr n = toString n.toNat) ∨
    (n < 0 ∧ Int.repr n = "-" ++ toString (-n).toNat) := by
  rw [Int.repr_eq_if]
  by_cases hn : 0 ≤ n
  · left
    rw [if_pos hn]
    exact ⟨hn, rfl⟩
  · right
    rw [if_neg hn]
    exact ⟨by omega, rfl⟩

/-- No other character occurs in it. -/
theorem not_mem_repr {c : Char} (hdigit : c.isDigit = false) (hminus : c ≠ '-') (n : ℤ) :
    c ∉ (Int.repr n).toList := by
  have hdigits (m : ℕ) : c ∉ (toString m).toList := by
    intro hc
    rw [isDigit_of_mem_toString hc] at hdigit
    cases hdigit
  rcases repr_cases n with ⟨-, heq⟩ | ⟨-, heq⟩
  · rw [heq]
    exact hdigits _
  · rw [heq, String.toList_append, List.mem_append, not_or]
    exact ⟨by simpa using hminus, hdigits _⟩

theorem repr_injective {n m : ℤ} (h : Int.repr n = Int.repr m) : n = m := by
  have hminus (a : ℕ) (t : String) : toString a ≠ "-" ++ t := by
    intro ha
    have hmem : '-' ∈ (toString a).toList := by simp [ha]
    exact absurd (isDigit_of_mem_toString hmem) (by decide)
  rcases repr_cases n with ⟨hn, hn'⟩ | ⟨hn, hn'⟩ <;>
    rcases repr_cases m with ⟨hm, hm'⟩ | ⟨hm, hm'⟩ <;>
    rw [hn', hm'] at h
  · have hsame := toString_injective h
    omega
  · exact absurd h (hminus _ _)
  · exact absurd h.symm (hminus _ _)
  · have hsame := toString_injective (String.append_right_inj _ |>.mp h)
    omega

/-! ### Removal -/

/-- Removing the text a string starts with. -/
theorem remove_first_append (pat s : String) (hpat : pat ≠ "") :
    remove_first pat (pat ++ s) = s := by
  have hne : pat.toList ≠ [] := by
    intro h
    exact hpat (String.toList_injective h)
  obtain ⟨c, cs, hcs⟩ := List.exists_cons_of_ne_nil hne
  have hpre : (pat.toList).isPrefixOf (c :: (cs ++ s.toList)) = true := by
    rw [hcs]
    exact isPrefixOf_append_self (c :: cs) s.toList
  have hlist : remove_first_list pat.toList (pat.toList ++ s.toList) = s.toList := by
    conv_lhs => rw [show pat.toList ++ s.toList = c :: (cs ++ s.toList) by rw [hcs]; rfl]
    rw [remove_first_list, if_pos hpre, hcs]
    simp
  rw [remove_first, String.toList_append, hlist, String.ofList_toList]

end Text
