/-! Powers of ten and of two, the bases of written and of binary numbers. -/
namespace Thermostat

def powerOfTen (k : Nat) : Nat := Nat.pow 10 k

def powerOfTwo (k : Nat) : Nat := Nat.pow 2 k

theorem powerOfTen_zero : powerOfTen 0 = 1 := rfl

theorem powerOfTen_succ (k : Nat) : powerOfTen (k + 1) = powerOfTen k * 10 := rfl

theorem powerOfTen_pos (k : Nat) : 0 < powerOfTen k := Nat.pow_pos (by decide)

theorem powerOfTwo_pos (k : Nat) : 0 < powerOfTwo k := Nat.pow_pos (by decide)

theorem powerOfTen_add (j k : Nat) : powerOfTen (j + k) = powerOfTen j * powerOfTen k :=
  Nat.pow_add 10 j k

end Thermostat
