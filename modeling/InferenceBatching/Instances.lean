namespace InferenceBatching

/-!
# Instances

Powers of numbers, the empty sum and the order of strings have more than one
instance once the algebraic hierarchy is in scope. The ones below are tried first,
so that a definition means the same whatever else is imported.
-/

@[default_instance high]
instance (priority := high) natPow
    {α : Type}
    [NatPow α] :
    Pow α Nat :=
  instPowNat

instance (priority := high) natZero :
    Zero Nat :=
  ⟨0⟩

instance (priority := high) stringTrans :
    Trans (α := String) (β := String) (γ := String) (· < ·) (· < ·) (· < ·) :=
  ⟨String.lt_trans⟩

instance (priority := high) stringTrichotomous :
    Std.Trichotomous (α := String) (· < ·) :=
  Std.instTrichotomousLtOfLawfulOrderLTOfTotalOfAntisymmLe

end InferenceBatching
