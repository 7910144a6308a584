import Mathlib.Data.Nat.Init

/-! # Instances with a Name

  Where an instance is a proof, a definition that uses it holds a copy. The instances here
  have a name and no parameters, so that a definition refers to them instead.

  ## Contents

  - The numerals from two on that prices and quantities are written with.
  - Equality of pairs of texts.
-/

namespace Instances

instance two : Nat.AtLeastTwo 2 := ⟨by decide⟩
instance three : Nat.AtLeastTwo 3 := ⟨by decide⟩
instance four : Nat.AtLeastTwo 4 := ⟨by decide⟩
instance five : Nat.AtLeastTwo 5 := ⟨by decide⟩
instance six : Nat.AtLeastTwo 6 := ⟨by decide⟩
instance seven : Nat.AtLeastTwo 7 := ⟨by decide⟩
instance ten : Nat.AtLeastTwo 10 := ⟨by decide⟩
instance thirty : Nat.AtLeastTwo 30 := ⟨by decide⟩
instance thirty_nine : Nat.AtLeastTwo 39 := ⟨by decide⟩
instance forty : Nat.AtLeastTwo 40 := ⟨by decide⟩
instance fifty : Nat.AtLeastTwo 50 := ⟨by decide⟩
instance sixty_one : Nat.AtLeastTwo 61 := ⟨by decide⟩
instance ninety_nine : Nat.AtLeastTwo 99 := ⟨by decide⟩
instance hundred : Nat.AtLeastTwo 100 := ⟨by decide⟩
instance thousand : Nat.AtLeastTwo 1000 := ⟨by decide⟩

instance lawful_pairs : LawfulBEq (String × String) := inferInstance

end Instances
