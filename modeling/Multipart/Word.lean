/-!
# Sums that may not be words

Lengths, sizes and positions are 64-bit words.  A sum or a product that no
word can tell is not told by another word instead: the computation breaks off
there, and with it whatever had asked for the number.
-/

namespace Multipart

/-- Why a computation breaks off. -/
inductive Panic where
  /-- A sum is larger than any word. -/
  | addition
  /-- A product is larger than any word. -/
  | multiplication
  /-- More memory is asked for than can be addressed. -/
  | capacity
  /-- Something is polled that broke off before. -/
  | resumption
deriving DecidableEq

/-- The sentence that tells why. -/
def Panic.message : Panic → String
  | .addition => "attempt to add with overflow"
  | .multiplication => "attempt to multiply with overflow"
  | .capacity => "capacity overflow"
  | .resumption => "`async fn` resumed after panicking"

namespace Word

/-- A natural number as a word, unless it is larger than any. -/
def ofNat (panic : Panic) (value : Nat) : Except Panic UInt64 :=
  if value < UInt64.size then .ok (UInt64.ofNat value) else .error panic

/-- The sum of a word and a count. -/
def add (word : UInt64) (count : Nat) : Except Panic UInt64 :=
  ofNat .addition (word.toNat + count)

/-- The product of two words. -/
def mul (left right : UInt64) : Except Panic UInt64 :=
  ofNat .multiplication (left.toNat * right.toNat)

/-- What is told is the number itself. -/
theorem ofNat_eq_ok {panic : Panic} {value : Nat} {word : UInt64} :
    ofNat panic value = .ok word ↔ word.toNat = value := by
  rw [ofNat]
  split
  · rename_i fits
    rw [Except.ok.injEq, ← UInt64.toNat_inj,
      UInt64.toNat_ofNat_of_lt' fits, eq_comm]
  · rename_i exceeds
    refine iff_of_false (by simp) fun same => exceeds ?_
    exact same ▸ word.toNat_lt

/-- Only a number that is larger than any word is not told. -/
theorem ofNat_eq_error {panic other : Panic} {value : Nat} :
    ofNat panic value = .error other ↔
      other = panic ∧ UInt64.size ≤ value := by
  rw [ofNat]
  split
  · rename_i fits
    exact iff_of_false (by simp) fun large =>
      Nat.not_le.mpr fits large.2
  · rename_i exceeds
    rw [Except.error.injEq, eq_comm]
    exact (and_iff_left (Nat.not_lt.mp exceeds)).symm

theorem add_eq_ok {word sum : UInt64} {count : Nat} :
    add word count = .ok sum ↔ sum.toNat = word.toNat + count :=
  ofNat_eq_ok

theorem add_eq_error {word : UInt64} {count : Nat} {panic : Panic} :
    add word count = .error panic ↔
      panic = .addition ∧ UInt64.size ≤ word.toNat + count :=
  ofNat_eq_error

/-- A sum that is not too large is told. -/
theorem exists_add {word : UInt64} {count : Nat}
    (fits : word.toNat + count < UInt64.size) :
    ∃ sum, add word count = .ok sum ∧ sum.toNat = word.toNat + count :=
  ⟨_, if_pos fits, UInt64.toNat_ofNat_of_lt' fits⟩

/-- A product that is not too large is told. -/
theorem exists_mul {left right : UInt64}
    (fits : left.toNat * right.toNat < UInt64.size) :
    ∃ product, mul left right = .ok product ∧
      product.toNat = left.toNat * right.toNat :=
  ⟨_, if_pos fits, UInt64.toNat_ofNat_of_lt' fits⟩

/-- Adding nothing leaves a word as it is. -/
@[simp]
theorem add_zero (word : UInt64) : add word 0 = .ok word :=
  add_eq_ok.mpr rfl

end Word

end Multipart
