import Thermostat.Proofs.Calendar.Digits

/-! Clocks in text: those written with two digits a part and six for a fraction are read as they are, and
a clock with nothing behind it holds only what clocks are written with. -/
namespace Thermostat.Iso

/-- Microseconds behind a clock, written where there are any. -/
def fraction (micro : Nat) : List Char :=
  if micro = 0 then [] else '.' :: (Text.padded 6 micro).toList

section Written

variable {hour minute second micro : Nat}

theorem readFraction_padded (short : micro < 1000000) :
    readFraction (Text.padded 6 micro).toList = some (micro, true) := by
  have length : (Text.padded 6 micro).toList.length = 6 := (digits_padded (by decide) short).length
  have taken : takeDigits 6 (Text.padded 6 micro).toList = some (micro, []) := by
    rw [← List.append_nil (Text.padded 6 micro).toList]
    exact takeDigits_padded (by decide) short []
  simp [readFraction, length, taken, powerOfTen]

theorem endsClean_cons_cons (c d : Char) (cs : List Char) : endsClean (c :: d :: cs) = none := rfl

theorem readClockParts_fraction (pairs : Nat) (parts : List Nat) (short : micro < 1000000) :
    readClockParts true pairs parts (fraction micro) = some (parts, micro, true) := by
  unfold fraction
  split
  · next none =>
    rw [none]
    simp [readClockParts, endsClean]
  · obtain ⟨d, ds, same, -, -⟩ := (digits_padded (by decide) short : Digits 6 _).uncons
    have read := readFraction_padded short
    rw [same] at read ⊢
    simp [readClockParts, endsClean_cons_cons, read]

theorem readClockParts_pair {n : Nat} (pairs : Nat) (parts : List Nat) (short : n < 100)
    (rest : List Char) :
    readClockParts true (pairs + 1) parts (':' :: ((Text.padded 2 n).toList ++ rest)) =
      readClockParts true pairs (parts ++ [n]) rest := by
  have taken : takeDigits 2 ((Text.padded 2 n).toList ++ rest) = some (n, rest) :=
    takeDigits_padded (by decide) short rest
  obtain ⟨a, b, same, -, -⟩ := (digits_padded (by decide) short : Digits 2 _).two
  simp only [same, List.cons_append, List.nil_append] at taken ⊢
  rw [readClockParts]
  simp [endsClean_cons_cons, taken]

theorem readClock_minutes (hours : hour < 100) (minutes : minute < 100) :
    readClock ((Text.padded 2 hour).toList ++ ':' :: (Text.padded 2 minute).toList) =
      some ⟨hour, minute, 0, 0, true⟩ := by
  have parts := readClockParts_pair 1 [hour] minutes []
  rw [List.append_nil] at parts
  have nothing : readClockParts true 1 [hour, minute] [] = some ([hour, minute], 0, true) := by
    simp [readClockParts, endsClean]
  simp [readClock, takeDigits_padded, hours, parts, nothing]

theorem readClock_seconds (hours : hour < 100) (minutes : minute < 100) (seconds : second < 100)
    (short : micro < 1000000) :
    readClock ((Text.padded 2 hour).toList ++ ':' :: ((Text.padded 2 minute).toList ++
      ':' :: ((Text.padded 2 second).toList ++ fraction micro))) =
      some ⟨hour, minute, second, micro, true⟩ := by
  simp [readClock, takeDigits_padded, hours, readClockParts_pair, minutes, seconds,
    readClockParts_fraction, short]

end Written

/-- What clocks are written with. -/
def inClock (c : Char) : Bool := c.isDigit || c == ':' || c == '.' || c == ','

theorem startsOffset_of_inClock {c : Char} (clock : inClock c = true) : startsOffset c = false := by
  rw [← Bool.not_eq_true]
  intro sign
  simp only [startsOffset, Bool.or_eq_true, beq_iff_eq] at sign
  obtain (rfl | rfl) | rfl := sign <;> exact absurd clock (by decide)

section Clean

variable {cs : List Char}

theorem inClock_of_isDigit {c : Char} (digit : c.isDigit = true) : inClock c = true := by
  simp [inClock, digit]

theorem Digits.inClock {n : Nat} (digits : Digits n cs) : ∀ c ∈ cs, inClock c = true :=
  fun c mem => inClock_of_isDigit (digits.all c mem)

theorem inClock_of_endsClean (clean : endsClean cs = some true) (noNul : '\x00' ∉ cs) :
    ∀ c ∈ cs, inClock c = true := by
  unfold endsClean at clean
  split at clean
  · exact nofun
  · next c =>
    have nul : c = '\x00' := by grind
    exact absurd (List.mem_singleton.mpr nul.symm) noNul
  · cases clean

theorem inClock_of_readFraction {micro : Nat} (read : readFraction cs = some (micro, true))
    (noNul : '\x00' ∉ cs) : ∀ c ∈ cs, inClock c = true := by
  simp only [readFraction, Option.bind_eq_bind, Option.bind_eq_some_iff, Prod.exists,
    takeDigits_eq_some_iff, Option.some.injEq, Prod.mk.injEq, Bool.or_eq_true,
    List.isEmpty_iff, beq_iff_eq] at read
  obtain ⟨value, rest, ⟨ds, digits, rfl, -⟩, -, clean⟩ := read
  have all : ∀ c ∈ rest, c.isDigit = true := by
    rcases clean with nothing | nul
    · exact List.dropWhile_eq_nil_iff.mp nothing
    · have mem := (List.dropWhile_suffix _).subset (List.mem_of_mem_head? nul)
      exact absurd (List.mem_append_right ds mem) noNul
  exact List.forall_mem_append.mpr ⟨digits.inClock, fun c mem => inClock_of_isDigit (all c mem)⟩

/-- A part begins with its digits, or with a colon before them. -/
theorem inClock_of_part {colons : Bool} {c : Char} (mark : ¬(colons && c != ':') = true)
    (noNul : '\x00' ∉ c :: cs)
    (all : '\x00' ∉ (if colons then cs else c :: cs) →
      ∀ d ∈ if colons then cs else c :: cs, inClock d = true) :
    ∀ d ∈ c :: cs, inClock d = true := by
  cases colons with
  | false => exact all noNul
  | true =>
    obtain rfl : c = ':' := by simpa using mark
    exact List.forall_mem_cons.mpr ⟨rfl, all (List.not_mem_of_not_mem_cons noNul)⟩

theorem inClock_of_readClockParts {colons : Bool} {pairs micro : Nat} {parts found : List Nat}
    (read : readClockParts colons pairs parts cs = some (found, micro, true))
    (noNul : '\x00' ∉ cs) : ∀ c ∈ cs, inClock c = true := by
  -- What is in front of the ending is consumed part by part, a mark and two digits at a time.
  fun_induction readClockParts colons pairs parts cs with
  | case1 pairs parts cs clean ended =>
    cases read
    exact inClock_of_endsClean ended noNul
  | case2 => cases read
  | case3 pairs parts c more point =>
    simp only [Option.bind_eq_bind, Option.bind_eq_some_iff, Prod.exists] at read
    obtain ⟨value, clean, read, same⟩ := read
    cases same
    have first : inClock c = true := by grind [inClock]
    exact List.forall_mem_cons.mpr
      ⟨first, inClock_of_readFraction read (List.not_mem_of_not_mem_cons noNul)⟩
  | case4 => cases read
  | case5 parts c more point mark =>
    simp only [Option.bind_eq_bind, Option.bind_eq_some_iff, Prod.exists] at read
    obtain ⟨value, clean, read, same⟩ := read
    cases same
    exact inClock_of_part mark noNul (inClock_of_readFraction read)
  | case6 parts c more point mark pairs _ ih =>
    simp only [Option.bind_eq_bind, Option.bind_eq_some_iff, Prod.exists,
      takeDigits_eq_some_iff] at read
    obtain ⟨n, rest, ⟨ds, digits, split, -⟩, read⟩ := read
    refine inClock_of_part mark noNul fun noNul => ?_
    rw [split, List.mem_append, not_or] at noNul
    rw [split]
    exact List.forall_mem_append.mpr ⟨digits.inClock, ih n rest read noNul.2⟩

/-- Where a NUL is in the text it may end the clock, with anything behind it. -/
theorem inClock_of_readClock {clock : Clock} (read : readClock cs = some clock)
    (clean : clock.clean = true) (noNul : '\x00' ∉ cs) : ∀ c ∈ cs, inClock c = true := by
  simp only [readClock, Option.bind_eq_bind, Option.bind_eq_some_iff, Prod.exists,
    takeDigits_eq_some_iff] at read
  obtain ⟨hour, rest, ⟨ds, digits, rfl, -⟩, parts, micro, whole, read, same⟩ := read
  cases same
  cases clean
  rw [List.mem_append, not_or] at noNul
  exact List.forall_mem_append.mpr ⟨digits.inClock, inClock_of_readClockParts read noNul.2⟩

end Clean

end Thermostat.Iso
