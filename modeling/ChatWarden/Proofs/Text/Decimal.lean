import ChatWarden.Text.Decimal

/-!
# What a run of digits denotes

Reading a run of digits gives the number that it denotes in base ten, as long as that fits; what a
number is written as is read as that number, with or without room for a sign.
-/

namespace ChatWarden.Text

variable {d : Char} {cs : List Char}

/-- The number that a run of digits denotes. -/
def decimal (text : String) : Nat :=
  Nat.ofDigitChars 10 text.toList 0

theorem digitsFrom?_of_digits (soFar : Nat) (h : ∀ c ∈ cs, c.isDigit = true) :
    digitsFrom? soFar cs = some (Nat.ofDigitChars 10 cs soFar) := by
  induction cs generalizing soFar with
  | nil => rfl
  | cons c cs ih =>
      have hc := h c (by simp)
      have hcs : ∀ e ∈ cs, e.isDigit = true := fun e he => h e (by simp [he])
      have hv : digitValue? c = some (c.toNat - '0'.toNat) := by simp [digitValue?, hc]
      rw [digitsFrom?, hv, Option.bind_some, ih _ hcs, Nat.ofDigitChars_cons]

theorem unsigned?_of_digits (h : ∀ c ∈ d :: cs, c.isDigit = true) :
    unsigned? (d :: cs) = some (Nat.ofDigitChars 10 (d :: cs) 0) := by
  unfold unsigned?
  split
  · rename_i ds hds
    cases hds
    have := h '+' (by simp)
    contradiction
  · exact digitsFrom?_of_digits 0 h

theorem uint64?_eq_some_iff {id : UInt64} (h : ∀ c ∈ d :: cs, c.isDigit = true) :
    uint64? (String.ofList (d :: cs)) = some id ↔
      decimal (String.ofList (d :: cs)) = id.toNat := by
  simp only [uint64?, decimal, String.toList_ofList, unsigned?_of_digits h, Option.bind_some]
  constructor
  · intro hid
    split at hid
    · rename_i hlt
      cases hid
      exact (UInt64.toNat_ofNat_of_lt hlt).symm
    · contradiction
  · intro hid
    have hlt : id.toNat < UInt64.size := id.toNat_lt_size
    rw [hid, if_pos hlt, UInt64.ofNat_toNat]

theorem decimal_toString (id : UInt64) : decimal (toString id) = id.toNat := by
  have hs : (toString id).toList = Nat.toDigits 10 id.toNat := Nat.toList_repr
  rw [decimal, hs, Nat.ofDigitChars_ten_toDigits]

theorem exists_digits_of_nat (n : Nat) :
    ∃ d cs, toString n = String.ofList (d :: cs) ∧ ∀ c ∈ d :: cs, c.isDigit = true := by
  have hs : (toString n).toList = Nat.toDigits 10 n := Nat.toList_repr
  obtain ⟨d, cs, hd⟩ := List.exists_cons_of_ne_nil (Nat.toDigits_ne_nil (n := n) (b := 10))
  refine ⟨d, cs, ?_, fun c hc => ?_⟩
  · rw [← hd, ← hs, String.ofList_toList]
  · rw [← hd] at hc
    exact Nat.isDigit_of_mem_toDigits (by decide) (by decide) hc

theorem exists_digits_of_toString (id : UInt64) :
    ∃ d cs, toString id = String.ofList (d :: cs) ∧ ∀ c ∈ d :: cs, c.isDigit = true :=
  exists_digits_of_nat id.toNat

/-! ## Reading what was written -/

theorem unsigned?_toString (n : Nat) : unsigned? (toString n).toList = some n := by
  have hs : (toString n).toList = Nat.toDigits 10 n := Nat.toList_repr
  obtain ⟨d, cs, hd, hdigits⟩ := exists_digits_of_nat n
  have hcs : (toString n).toList = d :: cs := by rw [hd, String.toList_ofList]
  rw [hcs, unsigned?_of_digits hdigits, ← hcs, hs, Nat.ofDigitChars_ten_toDigits]

theorem signed?_of_digits (h : ∀ c ∈ d :: cs, c.isDigit = true) :
    signed? (d :: cs) = (unsigned? (d :: cs)).map Int.ofNat := by
  unfold signed?
  split
  · rename_i ds hds
    cases hds
    have hminus := h '-' (by simp)
    contradiction
  · rfl

theorem signed?_toString (n : Nat) : signed? (toString n).toList = some (n : Int) := by
  obtain ⟨d, cs, hd, hdigits⟩ := exists_digits_of_nat n
  have hcs : (toString n).toList = d :: cs := by rw [hd, String.toList_ofList]
  rw [hcs, signed?_of_digits hdigits, ← hcs, unsigned?_toString]
  rfl

theorem uint64?_toString (n : UInt64) : uint64? (toString n) = some n := by
  have hn : unsigned? (toString n).toList = some n.toNat := unsigned?_toString n.toNat
  have hlt : n.toNat < UInt64.size := n.toNat_lt_size
  simp [uint64?, hn, hlt]

theorem int64?_toString {n : Nat} (h : (n : Int) ≤ Int64.maxValue.toInt) :
    int64? (toString n) = some (Int64.ofNat n) := by
  have hmin : Int64.minValue.toInt ≤ (n : Int) := by
    rw [Int64.toInt_minValue]
    omega
  rw [int64?, signed?_toString, Option.bind_some, if_pos ⟨hmin, h⟩]
  rfl

end ChatWarden.Text
