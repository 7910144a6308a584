import Mathlib.Data.List.Basic
import Mathlib.Data.String.Basic

/-! # Regular Expressions

  Matching by backtracking, with groups: `run` gives every match from a place, the one that
  is preferred first. A character that a pattern cannot read is in no group of a match
  (`run_avoids`).
-/

namespace Regex

/-! ## Section 1: Patterns -/

/-- A pattern. -/
inductive Re
  | empty
  | char (p : Char → Bool)
  | seq (r s : Re)
  /-- `r|s`: `r` is preferred. -/
  | alt (r s : Re)
  /-- `r*`: more is preferred. -/
  | star (r : Re)
  /-- `r*?`: less is preferred. -/
  | lazy_star (r : Re)
  | group (name : String) (r : Re)
  /-- `\b` -/
  | boundary
  /-- `$`: the end, or a line break at the end. -/
  | ending

namespace Re

/-- One after the other. -/
def all (rs : List Re) : Re := rs.foldr seq empty

/-- The first that matches. -/
def any (rs : List Re) : Re := rs.foldr alt (char fun _ => false)

/-- The text itself. -/
def text (s : String) : Re := all (s.toList.map fun c => char (· = c))

/-- One of the texts. -/
def texts (l : List String) : Re := any (l.map text)

/-- `r?` -/
def opt (r : Re) : Re := alt r empty

/-- `r+` -/
def plus (r : Re) : Re := seq r (star r)

/-- `r+?` -/
def lazy_plus (r : Re) : Re := seq r (lazy_star r)

/-- `r{n}` -/
def times (n : ℕ) (r : Re) : Re := all (List.replicate n r)

end Re

/-! ### Classes -/

/-- `[A-Z]` -/
def upper : Re := .char Char.isUpper

/-- `[a-z]` -/
def lower : Re := .char Char.isLower

/-- `[0-9]` -/
def ascii_digit : Re := .char Char.isDigit

/-- `[A-Z0-9]` -/
def upper_digit : Re := .char fun c => c.isUpper || c.isDigit

/-- `[a-z0-9]` -/
def lower_digit : Re := .char fun c => c.isLower || c.isDigit

/-- The zeros of the scripts that have digits. -/
def decimal_zeros : List ℕ :=
  [0x30, 0x660, 0x6F0, 0x7C0, 0x966, 0x9E6, 0xA66, 0xAE6, 0xB66, 0xBE6, 0xC66, 0xCE6, 0xD66,
    0xDE6, 0xE50, 0xED0, 0xF20, 0x1040, 0x1090, 0x17E0, 0x1810, 0x1946, 0x19D0, 0x1A80, 0x1A90,
    0x1B50, 0x1BB0, 0x1C40, 0x1C50, 0xA620, 0xA8D0, 0xA900, 0xA9D0, 0xA9F0, 0xAA50, 0xABF0,
    0xFF10, 0x104A0, 0x10D30, 0x11066, 0x110F0, 0x11136, 0x111D0, 0x112F0, 0x11450, 0x114D0,
    0x11650, 0x116C0, 0x11730, 0x118E0, 0x11950, 0x11C50, 0x11D50, 0x11DA0, 0x16A60, 0x16AC0,
    0x16B50, 0x1D7CE, 0x1D7D8, 0x1D7E2, 0x1D7EC, 0x1D7F6, 0x1E140, 0x1E2F0, 0x1E950, 0x1FBF0]

/-- The digit a character stands for. -/
def digit_value (c : Char) : Option ℕ :=
  (decimal_zeros.find? fun z => z ≤ c.toNat && c.toNat < z + 10).map (c.toNat - ·)

/-- `\d` -/
def digit : Re := .char fun c => (digit_value c).isSome

/-- `\s` -/
def blank : Re := .char Char.isWhitespace

/-- A character of a word, for `\b`. -/
def in_word (c : Option Char) : Bool := c.any fun c => c.isAlphanum || c = '_'

/-! ## Section 2: Matching -/

/-- Where a match has come to. -/
structure At where
  /-- The character before. -/
  before : Option Char
  /-- What is left to read. -/
  rest : List Char
  /-- The groups, newest first. -/
  groups : List (String × List Char) := []

/-- `f` again and again, at most `n` times, as long as it reads something. -/
def greedy (f : At → List At) : ℕ → At → List At
  | 0, a => [a]
  | n + 1, a => ((f a).filter fun b => b.rest.length < a.rest.length).flatMap (greedy f n) ++ [a]

/-- The same, with less preferred. -/
def reluctant (f : At → List At) : ℕ → At → List At
  | 0, a => [a]
  | n + 1, a =>
      a :: ((f a).filter fun b => b.rest.length < a.rest.length).flatMap (reluctant f n)

/-- What was read from `a` to `b` is a group. -/
def At.note (a : At) (name : String) (b : At) : At :=
  { b with groups := (name, a.rest.take (a.rest.length - b.rest.length)) :: b.groups }

/-- Every match from a place, the preferred one first. -/
def run : Re → At → List At
  | .empty, a => [a]
  | .char p, a =>
      match a.rest with
      | [] => []
      | c :: cs => if p c then [{ a with before := some c, rest := cs }] else []
  | .seq r s, a => (run r a).flatMap (run s)
  | .alt r s, a => run r a ++ run s a
  | .star r, a => greedy (run r) a.rest.length a
  | .lazy_star r, a => reluctant (run r) a.rest.length a
  | .group name r, a => (run r a).map (a.note name)
  | .boundary, a => if in_word a.before = in_word a.rest.head? then [] else [a]
  | .ending, a => if a.rest = [] ∨ a.rest = ['\n'] then [a] else []

/-- The groups of a match, newest first. -/
abbrev Match := List (String × List Char)

/-- `match.group(name)`. -/
def Match.group (m : Match) (name : String) : Option String := (m.lookup name).map String.ofList

/-- The same, of a group that every match has. -/
def Match.text (m : Match) (name : String) : String := (m.group name).getD ""

/-- `re.match`. -/
def Re.at_start (r : Re) (s : String) : Option Match :=
  (run r ⟨none, s.toList, []⟩).head?.map (·.groups)

/-- The first match at a place or after it. -/
def search_from (r : Re) : Option Char → List Char → Option Match
  | before, [] => (run r ⟨before, [], []⟩).head?.map (·.groups)
  | before, c :: cs =>
      match (run r ⟨before, c :: cs, []⟩).head? with
      | some b => some b.groups
      | none => search_from r (some c) cs

/-- `re.search`. -/
def Re.search (r : Re) (s : String) : Option Match := search_from r none s.toList

/-! ## Section 3: What a match reads -/

section reads

variable {c : Char} {a b : At}

/-- No class of the pattern has `c`. -/
def Re.avoids (c : Char) : Re → Bool
  | .char p => !p c
  | .seq r s => r.avoids c && s.avoids c
  | .alt r s => r.avoids c && s.avoids c
  | .star r => r.avoids c
  | .lazy_star r => r.avoids c
  | .group _ r => r.avoids c
  | _ => true

/-- From `a` to `b` no `c` is read, and the groups since then are without it. -/
structure Reads (c : Char) (a b : At) : Prop where
  read : ∃ w, a.rest = w ++ b.rest ∧ c ∉ w
  groups : ∀ g ∈ b.groups, g ∈ a.groups ∨ c ∉ g.2

theorem Reads.refl (a : At) : Reads c a a := ⟨⟨[], rfl, List.not_mem_nil⟩, fun _ => .inl⟩

theorem Reads.trans {b' : At} (h : Reads c a b) (h' : Reads c b b') : Reads c a b' := by
  obtain ⟨⟨w, hw, hc⟩, hgroups⟩ := h
  obtain ⟨⟨w', hw', hc'⟩, hgroups'⟩ := h'
  refine ⟨⟨w ++ w', by rw [hw, hw', List.append_assoc], ?_⟩, fun g hg => ?_⟩
  · rw [List.mem_append, not_or]
    exact ⟨hc, hc'⟩
  · exact (hgroups' g hg).elim (hgroups g) .inr

theorem Reads.note (h : Reads c a b) (name : String) : Reads c a (a.note name b) := by
  obtain ⟨⟨w, hw, hc⟩, hgroups⟩ := h
  refine ⟨⟨w, hw, hc⟩, fun g hg => ?_⟩
  obtain rfl | hg := List.mem_cons.mp hg
  · right
    rw [hw, List.length_append, Nat.add_sub_cancel, List.take_left]
    exact hc
  · exact hgroups g hg

variable {f : At → List At}

/-- Steps that read no `c`, again and again. -/
theorem greedy_reads (hf : ∀ a, ∀ b ∈ f a, Reads c a b) (n : ℕ) (h : b ∈ greedy f n a) :
    Reads c a b := by
  induction n generalizing a with
  | zero =>
      obtain rfl := List.mem_singleton.mp h
      exact .refl b
  | succ n ih =>
      rw [greedy, List.mem_append, List.mem_flatMap] at h
      obtain ⟨mid, hmid, h⟩ | h := h
      · exact (hf a mid (List.mem_filter.mp hmid).1).trans (ih h)
      · obtain rfl := List.mem_singleton.mp h
        exact .refl b

theorem reluctant_reads (hf : ∀ a, ∀ b ∈ f a, Reads c a b) (n : ℕ) (h : b ∈ reluctant f n a) :
    Reads c a b := by
  induction n generalizing a with
  | zero =>
      obtain rfl := List.mem_singleton.mp h
      exact .refl b
  | succ n ih =>
      rw [reluctant, List.mem_cons, List.mem_flatMap] at h
      obtain rfl | ⟨mid, hmid, h⟩ := h
      · exact .refl b
      · exact (hf a mid (List.mem_filter.mp hmid).1).trans (ih h)

/-- **The rule of avoidance**: what no class has, no match reads. -/
theorem run_avoids {r : Re} (hr : r.avoids c = true) (h : b ∈ run r a) : Reads c a b := by
  induction r generalizing a b with
  | empty =>
      obtain rfl := List.mem_singleton.mp h
      exact .refl b
  | char p =>
      unfold run at h
      cases hrest : a.rest with
      | nil => simp [hrest] at h
      | cons d ds =>
          simp only [hrest] at h
          split_ifs at h with hp
          · obtain rfl := List.mem_singleton.mp h
            refine ⟨⟨[d], by rw [hrest]; rfl, ?_⟩, fun _ => .inl⟩
            rintro hd
            obtain rfl := List.mem_singleton.mp hd
            simp [Re.avoids, hp] at hr
          · exact absurd h List.not_mem_nil
  | seq r s ihr ihs =>
      rw [Re.avoids, Bool.and_eq_true] at hr
      obtain ⟨mid, hmid, h⟩ := List.mem_flatMap.mp h
      exact (ihr hr.1 hmid).trans (ihs hr.2 h)
  | alt r s ihr ihs =>
      rw [Re.avoids, Bool.and_eq_true] at hr
      exact (List.mem_append.mp h).elim (ihr hr.1) (ihs hr.2)
  -- the stars have inductions of their own, on the fuel of their loops
  | star r ih => exact greedy_reads (fun _ _ => ih hr) _ h
  | lazy_star r ih => exact reluctant_reads (fun _ _ => ih hr) _ h
  | group name r ih =>
      obtain ⟨mid, hmid, rfl⟩ := List.mem_map.mp h
      exact (ih hr hmid).note name
  | boundary =>
      unfold run at h
      split_ifs at h
      · exact absurd h List.not_mem_nil
      · obtain rfl := List.mem_singleton.mp h
        exact .refl b
  | ending =>
      unfold run at h
      split_ifs at h
      · obtain rfl := List.mem_singleton.mp h
        exact .refl b
      · exact absurd h List.not_mem_nil

end reads

/-! ### Groups -/

section groups

variable {c : Char} {r : Re} {m : Match}

/-- A match from the start of its groups has no `c` in them. -/
theorem run_groups_avoid (hr : r.avoids c = true) {before : Option Char} {rest : List Char}
    (h : (run r ⟨before, rest, []⟩).head?.map (·.groups) = some m) : ∀ g ∈ m, c ∉ g.2 := by
  obtain ⟨b, hb, rfl⟩ := Option.map_eq_some_iff.mp h
  intro g hg
  exact ((run_avoids hr (List.mem_of_mem_head? hb)).groups g hg).resolve_left List.not_mem_nil

theorem text_avoids (h : ∀ g ∈ m, c ∉ g.2) (name : String) : c ∉ (m.text name).toList := by
  unfold Match.text Match.group
  cases hlookup : m.lookup name with
  | none => exact List.not_mem_nil
  | some l =>
      obtain ⟨before, after, rfl, -⟩ := List.lookup_eq_some_iff.mp hlookup
      simpa using h (name, l) (by simp)

theorem at_start_avoids (hr : r.avoids c = true) {s : String} (h : r.at_start s = some m)
    (name : String) : c ∉ (m.text name).toList :=
  text_avoids (run_groups_avoid hr h) name

theorem search_from_avoids (hr : r.avoids c = true) {before : Option Char} {l : List Char}
    (h : search_from r before l = some m) : ∀ g ∈ m, c ∉ g.2 := by
  induction l generalizing before with
  | nil => exact run_groups_avoid hr h
  | cons d l ih =>
      rw [search_from] at h
      cases hhead : (run r ⟨before, d :: l, []⟩).head? with
      | none =>
          rw [hhead] at h
          exact ih h
      | some b =>
          rw [hhead] at h
          exact run_groups_avoid hr (by rw [hhead]; exact h)

theorem search_avoids (hr : r.avoids c = true) {s : String} (h : r.search s = some m)
    (name : String) : c ∉ (m.text name).toList :=
  text_avoids (search_from_avoids hr h) name

end groups

end Regex
