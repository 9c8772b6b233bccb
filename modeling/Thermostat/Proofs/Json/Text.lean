import Mathlib.Data.List.Chain
import Thermostat.Json.Reader
import Thermostat.Json.Writer
import Thermostat.Proofs.Text.Append
import Thermostat.Proofs.Text.Whole

/-! Texts between quotes read back: every code point from its escape, but two halves that meet as the
one character that they stand for. -/
namespace Thermostat.Json

/-- A string as the code points that are read. -/
def pointsOf (s : String) : List CodePoint := (Text.ofString s).points

@[simp] theorem pointsOf_append (s t : String) : pointsOf (s ++ t) = pointsOf s ++ pointsOf t := by
  simp [pointsOf, Text.ofString]

@[simp] theorem pointsOf_ofList (cs : List Char) : pointsOf (String.ofList cs) = cs.map .char := by
  simp [pointsOf, Text.ofString]

@[simp] theorem pointsOf_singleton (c : Char) : pointsOf (String.singleton c) = [.char c] := by
  simp [pointsOf, Text.ofString]

theorem pointsOf_join (ss : List String) : pointsOf (String.join ss) = ss.flatMap pointsOf := by
  change (String.join ss).toList.map CodePoint.char = _
  rw [String.toList_join, List.map_flatMap]
  rfl

section Hex

/-- A number with one more hexadecimal digit. -/
def hexStep (n : Nat) (p : CodePoint) : Option Nat := (p.toChar?.bind hexDigit?).map (16 * n + ·)

theorem hexStep_digitChar (n : Nat) {d : Nat} (small : d < 16) :
    hexStep n (.char d.digitChar) = some (16 * n + d) := by
  have each : ∀ d < 16, hexDigit? d.digitChar = some d := by decide
  simp [hexStep, CodePoint.toChar?, each d small]

theorem foldlM_toDigits (n : Nat) :
    ((Nat.toDigits 16 n).map CodePoint.char).foldlM hexStep 0 = some n := by
  induction n using Nat.strongRecOn with
  | ind n ih =>
    by_cases small : n < 16
    · rw [Nat.toDigits_of_lt_base small, List.map_singleton, List.foldlM_cons,
        hexStep_digitChar 0 small]
      simp
    · rw [Nat.toDigits_of_base_le (by decide) (Nat.le_of_not_lt small), List.map_append,
        List.foldlM_append, ih (n / 16) (by omega), List.map_singleton]
      have last := hexStep_digitChar (n / 16) (Nat.mod_lt n (by decide))
      simp [last, Nat.div_add_mod]

theorem foldlM_hex (width n : Nat) : (pointsOf (Text.hex width n)).foldlM hexStep 0 = some n := by
  have zeros (k : Nat) : (List.replicate k (CodePoint.char '0')).foldlM hexStep 0 = some 0 := by
    induction k with
    | zero => rfl
    | succ k ih =>
      rw [List.replicate_succ, List.foldlM_cons, show hexStep 0 (.char '0') = some 0 by decide]
      exact ih
  simp [Text.hex, zeros, foldlM_toDigits]

variable {n : Nat} {rest : List CodePoint}

theorem length_hex (small : n < 0x10000) : (pointsOf (Text.hex 4 n)).length = 4 := by
  have digits : (Nat.toDigits 16 n).length ≤ 4 :=
    (Nat.length_toDigits_le_iff (by decide) (by decide)).mpr small
  simp [Text.hex]
  omega

theorem hex4?_append (small : n < 0x10000) :
    hex4? (pointsOf (Text.hex 4 n) ++ rest) = some n := by
  have four := length_hex small
  have value := foldlM_hex 4 n
  unfold hex4?
  rw [if_neg (by rw [List.length_append]; omega), List.take_left' four]
  exact value

end Hex

theorem isLow_pairOf (h l : CodePoint) : (pairOf h l).isLow = false := by
  unfold pairOf CodePoint.ofNat CodePoint.firstHalf
  rw [dif_neg (by omega)]
  rfl

theorem isHigh_eq_false_of_isLow {p : CodePoint} (low : p.isLow = true) : p.isHigh = false := by
  cases p with
  | char c => rfl
  | half n =>
    have least : 0x400 ≤ n.val := of_decide_eq_true low
    refine decide_eq_false fun high => ?_
    change n.val < 0x400 at high
    omega

theorem isHigh_half {n : Nat} (h : n < 0x800) (first : n < 0x400) :
    (CodePoint.half ⟨n, h⟩).isHigh = true := decide_eq_true first

theorem isLow_half {n : Nat} (h : n < 0x800) (second : 0x400 ≤ n) :
    (CodePoint.half ⟨n, h⟩).isLow = true := decide_eq_true second

theorem number_lt_of_isHigh {p : CodePoint} (high : p.isHigh = true) : p.number < 0x10000 := by
  cases p with
  | char c => cases high
  | half n =>
    have := n.isLt
    simp only [CodePoint.number, CodePoint.firstHalf]
    omega

theorem number_lt_of_isLow {p : CodePoint} (low : p.isLow = true) : p.number < 0x10000 := by
  cases p with
  | char c => cases low
  | half n =>
    have := n.isLt
    simp only [CodePoint.number, CodePoint.firstHalf]
    omega

/-- An escape by one unit. -/
def unit (p : CodePoint) : List CodePoint :=
  .char '\\' :: .char 'u' :: pointsOf (Text.hex 4 p.number)

/-- The ways in which a code point is written between quotes. -/
inductive Spelling : CodePoint → List CodePoint → Prop
  | unit {p : CodePoint} (small : p.number < 0x10000) : Spelling p (unit p)
  | pair {h l : CodePoint} (high : h.isHigh = true) (low : l.isLow = true) :
    Spelling (pairOf h l) (Json.unit h ++ Json.unit l)
  | letter {c d : Char} (escape : plainEscape? d = some c) : Spelling (.char c) [.char '\\', .char d]
  | plain {c : Char} (printable : 0x20 ≤ c.toNat) (quote : c ≠ '"') (mark : c ≠ '\\') :
    Spelling (.char c) [.char c]

theorem spelling_code (p : CodePoint) : Spelling p (pointsOf (escapeCode p.number)) := by
  by_cases small : p.number < 0x10000
  · have code : pointsOf (escapeCode p.number) = unit p := by
      simp only [escapeCode, small, if_true, escapeUnit, pointsOf_append]
      rfl
    rw [code]
    exact .unit small
  · cases p with
    | half n =>
      have := n.isLt
      simp only [CodePoint.number, CodePoint.firstHalf] at small
      omega
    | char c =>
      have valid : c.toNat < 0xD800 ∨ 0xDFFF < c.toNat ∧ c.toNat < 0x110000 := c.valid
      change ¬ c.toNat < 0x10000 at small
      let h : CodePoint := .half ⟨(c.toNat - 0x10000) / 0x400, by omega⟩
      let l : CodePoint := .half ⟨0x400 + (c.toNat - 0x10000) % 0x400, by omega⟩
      have whole : pairOf h l = .char c := by
        have number : 0x10000 + (h.number - 0xD800) * 0x400 + (l.number - 0xDC00) =
            (CodePoint.char c).number := by
          simp only [h, l, CodePoint.number, CodePoint.firstHalf]
          omega
        rw [pairOf, number, CodePoint.ofNat_number]
      have code : pointsOf (escapeCode (CodePoint.char c).number) = unit h ++ unit l := by
        have second : l.number = 0xDC00 + (c.toNat - 0x10000) % 0x400 := by
          simp only [l, CodePoint.number, CodePoint.firstHalf]
          omega
        change pointsOf (escapeCode c.toNat) = _
        unfold unit escapeCode
        rw [if_neg small, second]
        simp only [escapeUnit, pointsOf_append]
        rfl
      rw [code, ← whole]
      exact .pair (isHigh_half _ (by omega)) (isLow_half _ (by omega))

/-- Every code point is written in one of these ways. -/
theorem spelling (p : CodePoint) : Spelling p (pointsOf (escapePoint p)) := by
  cases p with
  | half n => exact spelling_code (.half n)
  | char c =>
    unfold escapePoint
    dsimp only [CodePoint.toChar?]
    cases escape : letterEscape? c with
    | some s =>
      unfold letterEscape? at escape
      split at escape <;> cases escape
      · exact .letter (d := '"') rfl
      · exact .letter (d := '\\') rfl
      · exact .letter (d := 'n') rfl
      · exact .letter (d := 'r') rfl
      · exact .letter (d := 't') rfl
      · exact .letter (d := 'b') rfl
      · exact .letter (d := 'f') rfl
    | none =>
      dsimp only
      split
      · next printable =>
        rw [pointsOf_singleton]
        refine .plain ?_ ?_ ?_
        · rw [Bool.and_eq_true, decide_eq_true_eq] at printable
          exact printable.1
        · rintro rfl
          cases escape
        · rintro rfl
          cases escape
      · exact spelling_code (.char c)

variable {p : CodePoint} {s rest : List CodePoint} {start fuel : Nat} {acc : List CodePoint}

theorem lowHalf?_code (ps : List CodePoint) :
    lowHalf? (.char '\\' :: .char 'u' :: ps) =
      if ps.length ≤ 4 then .ok none
      else
        match hex4? ps with
        | none => stopAt .badUnicodeEscape (.char 'u' :: ps)
        | some n => .ok (if (CodePoint.ofNat n).isLow then some (.ofNat n) else none) := rfl

theorem lowHalf?_unit (small : p.number < 0x10000) (more : rest ≠ []) :
    lowHalf? (unit p ++ rest) = .ok (if p.isLow then some p else none) := by
  have four := length_hex small
  have some := List.length_pos_iff.mpr more
  rw [unit, List.cons_append, List.cons_append, lowHalf?_code,
    if_neg (by rw [List.length_append]; omega), hex4?_append small]
  dsimp only
  rw [CodePoint.ofNat_number]

theorem lowHalf?_eq_none {ps : List CodePoint} (other : ∀ rest, ps ≠ .char '\\' :: .char 'u' :: rest) :
    lowHalf? ps = .ok none := by
  unfold lowHalf?
  split
  · exact absurd rfl (other _)
  · rfl

/-- The escape of a half is looked for behind a first half, and found just if it stands there. -/
theorem lowHalf?_of_spelling (spelled : Spelling p s) (more : rest ≠ []) :
    lowHalf? (s ++ rest) = .ok (if p.isLow then some p else none) := by
  cases spelled with
  | unit small => exact lowHalf?_unit small more
  | @pair h l high low =>
    have apart : h.isLow = false := by
      cases second : h.isLow with
      | false => rfl
      | true =>
        rw [isHigh_eq_false_of_isLow second] at high
        cases high
    rw [List.append_assoc, lowHalf?_unit (number_lt_of_isHigh high)
      (List.append_ne_nil_of_right_ne_nil _ more), apart, isLow_pairOf]
    simp only [Bool.false_eq_true, if_false]
  | @letter c d escape =>
    refine lowHalf?_eq_none fun rest same => ?_
    cases same
    cases escape
  | plain printable quote mark =>
    refine lowHalf?_eq_none fun rest same => mark ?_
    cases same
    rfl

/-- One unit is read as its code point, unless it is the first of two halves. -/
theorem readCode_unit (small : p.number < 0x10000) (more : rest ≠ [])
    (apart : p.isHigh = true → lowHalf? rest = .ok none) :
    readCode (pointsOf (Text.hex 4 p.number) ++ rest) = .ok (p, rest) := by
  have four := length_hex small
  have some := List.length_pos_iff.mpr more
  unfold readCode
  rw [if_neg (by rw [List.length_append]; omega), hex4?_append small]
  dsimp only
  rw [CodePoint.ofNat_number, List.drop_left' four]
  split
  · next high =>
    rw [apart high]
    rfl
  · rfl

/-- Two halves that meet are read as one. -/
theorem readCode_pair {h l : CodePoint} (high : h.isHigh = true) (low : l.isLow = true)
    (more : rest ≠ []) :
    readCode (pointsOf (Text.hex 4 h.number) ++ (unit l ++ rest)) = .ok (pairOf h l, rest) := by
  have four := length_hex (number_lt_of_isHigh high)
  have four' := length_hex (number_lt_of_isLow low)
  have second := lowHalf?_of_spelling (.unit (number_lt_of_isLow low)) more
  rw [if_pos low] at second
  unfold readCode
  rw [if_neg (by simp only [List.length_append, unit, List.length_cons]; omega),
    hex4?_append (number_lt_of_isHigh high)]
  dsimp only
  rw [CodePoint.ofNat_number, List.drop_left' four, if_pos high, second]
  have six : (unit l).length = 6 := by
    simp only [unit, List.length_cons]
    omega
  change Except.ok (pairOf h l, (unit l ++ rest).drop 6) = _
  rw [List.drop_left' six]

theorem readPoints_escape (p : CodePoint) (rest : List CodePoint) :
    readPoints start (fuel + 1) acc (.char '\\' :: p :: rest) =
      if p == .char 'u' then
        readCode rest >>= fun (p, rest) => readPoints start fuel (p :: acc) rest
      else
        match p.toChar?.bind plainEscape? with
        | some d => readPoints start fuel (.char d :: acc) rest
        | none => stopAt .badEscape (.char '\\' :: p :: rest) := rfl

theorem readPoints_plain (rest : List CodePoint) (quote : p ≠ .char '"') (mark : p ≠ .char '\\') :
    readPoints start (fuel + 1) acc (p :: rest) =
      if p.number < 0x20 then stopAt .controlCharacter (p :: rest)
      else readPoints start fuel (p :: acc) rest := by
  rw [readPoints]
  all_goals simp_all

theorem readPoints_pair {h l : CodePoint} (high : h.isHigh = true) (low : l.isLow = true)
    (more : rest ≠ []) :
    readPoints start (fuel + 1) acc (unit h ++ (unit l ++ rest)) =
      readPoints start fuel (pairOf h l :: acc) rest := by
  change readPoints start (fuel + 1) acc (.char '\\' :: .char 'u' ::
    (pointsOf (Text.hex 4 h.number) ++ (unit l ++ rest))) = _
  rw [readPoints_escape, if_pos (beq_self_eq_true _), readCode_pair high low more]
  rfl

/-- One code point is read, unless it is the first of two halves. -/
theorem readPoints_spelling (spelled : Spelling p s) (more : rest ≠ [])
    (apart : p.isHigh = true → lowHalf? rest = .ok none) :
    readPoints start (fuel + 1) acc (s ++ rest) = readPoints start fuel (p :: acc) rest := by
  cases spelled with
  | unit small =>
    change readPoints start (fuel + 1) acc (.char '\\' :: .char 'u' ::
      (pointsOf (Text.hex 4 p.number) ++ rest)) = _
    rw [readPoints_escape, if_pos (beq_self_eq_true _), readCode_unit small more apart]
    rfl
  | pair high low =>
    rw [List.append_assoc]
    exact readPoints_pair high low more
  | @letter c d escape =>
    have other : (CodePoint.char d == .char 'u') = false := by
      rw [beq_eq_false_iff_ne]
      intro same
      cases same
      cases escape
    change readPoints start (fuel + 1) acc (.char '\\' :: .char d :: rest) = _
    rw [readPoints_escape, other]
    change (match (some d).bind plainEscape? with | some d => _ | none => _) = _
    rw [Option.bind_some, escape]
  | @plain c printable quote mark =>
    have print : ¬ (CodePoint.char c).number < 0x20 := Nat.not_lt.mpr printable
    have quote : CodePoint.char c ≠ .char '"' := fun same => quote (CodePoint.char.inj same)
    have mark : CodePoint.char c ≠ .char '\\' := fun same => mark (CodePoint.char.inj same)
    change readPoints start (fuel + 1) acc (.char c :: rest) = _
    rw [readPoints_plain rest quote mark, if_neg print]

/-- Code points as they are read back: a first half and a second half that meet are read as the one
character that they stand for. -/
def joinHalves : List CodePoint → List CodePoint
  | p :: q :: ps =>
    if p.isHigh && q.isLow then pairOf p q :: joinHalves ps else p :: joinHalves (q :: ps)
  | ps => ps

/-- A text as it is read back. -/
def joined (t : Text) : Text := ⟨joinHalves t.points⟩

/-- No two halves that stand for one character meet in a text. -/
def Apart (t : Text) : Prop := t.points.IsChain fun p q => ¬ (p.isHigh = true ∧ q.isLow = true)

theorem joinHalves_eq_self {ps : List CodePoint}
    (apart : ps.IsChain fun p q => ¬ (p.isHigh = true ∧ q.isLow = true)) : joinHalves ps = ps := by
  induction ps using joinHalves.induct with
  | case1 p q ps pair =>
    rw [Bool.and_eq_true] at pair
    exact absurd pair (List.isChain_cons_cons.mp apart).1
  | case2 p q ps other ih =>
    rw [joinHalves, if_neg other, ih (List.isChain_cons_cons.mp apart).2]
  | case3 ps other => rw [joinHalves]; exact other

theorem joined_eq_self {t : Text} (apart : Apart t) : joined t = t :=
  Text.ext_points (joinHalves_eq_self apart)

theorem apart_of_whole {t : Text} (whole : t.Whole) : Apart t := by
  refine (List.pairwise_of_forall_mem_list fun p mem q _ halves => ?_).isChain
  have none := whole p mem
  cases p with
  | char c => cases halves.1
  | half n => cases none

theorem joined_ofString (s : String) : joined (Text.ofString s) = Text.ofString s :=
  joined_eq_self (apart_of_whole (Text.whole_ofString s))

/-- Code points one after the other, each in its escape. -/
def escapes (ps : List CodePoint) : List CodePoint := ps.flatMap fun p => pointsOf (escapePoint p)

theorem escapes_cons (p : CodePoint) (ps : List CodePoint) :
    escapes (p :: ps) = pointsOf (escapePoint p) ++ escapes ps := List.flatMap_cons

theorem escape_half (n : Fin 0x800) : pointsOf (escapePoint (.half n)) = unit (.half n) := by
  have small : (CodePoint.half n).number < 0x10000 := by
    have := n.isLt
    simp only [CodePoint.number, CodePoint.firstHalf]
    omega
  change pointsOf (escapeCode (CodePoint.half n).number) = _
  rw [escapeCode, if_pos small, escapeUnit, pointsOf_append]
  rfl

theorem escape_of_isHigh (high : p.isHigh = true) : pointsOf (escapePoint p) = unit p := by
  cases p with
  | char c => cases high
  | half n => exact escape_half n

theorem escape_of_isLow (low : p.isLow = true) : pointsOf (escapePoint p) = unit p := by
  cases p with
  | char c => cases low
  | half n => exact escape_half n

/-- Escapes are read up to the closing quote. -/
theorem readPoints_escapes (start : Nat) (ps rest : List CodePoint) (fuel : Nat) (acc : List CodePoint)
    (room : ps.length < fuel) :
    readPoints start fuel acc (escapes ps ++ .char '"' :: rest) =
      .ok (⟨acc.reverse ++ joinHalves ps⟩, rest) := by
  have closed : lowHalf? (.char '"' :: rest) = .ok none := lowHalf?_eq_none nofun
  induction ps using joinHalves.induct generalizing fuel acc with
  | case1 p q ps pair ih =>
    obtain ⟨fuel, rfl⟩ := Nat.exists_eq_add_one.mpr (Nat.zero_lt_of_lt room)
    have halves := Bool.and_eq_true_iff.mp pair
    simp only [List.length_cons] at room
    rw [escapes_cons, escapes_cons, escape_of_isHigh halves.1, escape_of_isLow halves.2,
      List.append_assoc, List.append_assoc, readPoints_pair halves.1 halves.2 (by simp),
      ih fuel (pairOf p q :: acc) (by omega), joinHalves, if_pos pair, List.reverse_cons,
      List.append_assoc, List.singleton_append]
  | case2 p q ps other ih =>
    obtain ⟨fuel, rfl⟩ := Nat.exists_eq_add_one.mpr (Nat.zero_lt_of_lt room)
    have apart : p.isHigh = true →
        lowHalf? (escapes (q :: ps) ++ .char '"' :: rest) = .ok none := by
      intro high
      have single : q.isLow = false := by simpa [high] using other
      rw [escapes_cons, List.append_assoc, lowHalf?_of_spelling (spelling q) (by simp), single]
      rfl
    rw [List.length_cons] at room
    rw [escapes_cons, List.append_assoc, readPoints_spelling (spelling p) (by simp) apart,
      ih fuel (p :: acc) (by omega), joinHalves, if_neg other, List.reverse_cons,
      List.append_assoc, List.singleton_append]
  | case3 ps short =>
    obtain ⟨fuel, rfl⟩ := Nat.exists_eq_add_one.mpr (Nat.zero_lt_of_lt room)
    cases ps with
    | nil =>
      rw [joinHalves, List.append_nil]
      · rfl
      · exact short
    | cons p ps =>
      cases ps with
      | cons q ps => exact absurd rfl (short p q ps)
      | nil =>
        obtain ⟨fuel, rfl⟩ : ∃ f, fuel = f + 1 := Nat.exists_eq_add_one.mpr (by simpa using room)
        change readPoints start (fuel + 1 + 1) acc
          ((pointsOf (escapePoint p) ++ []) ++ .char '"' :: rest) = _
        rw [List.append_nil, readPoints_spelling (spelling p) (by simp) fun _ => closed, joinHalves]
        · rw [← List.reverse_cons]
          rfl
        · exact short

theorem Spelling.length_pos (spelled : Spelling p s) : 0 < s.length := by
  cases spelled <;> simp [Json.unit]

theorem length_le_escapes (ps : List CodePoint) : ps.length ≤ (escapes ps).length := by
  induction ps with
  | nil => exact Nat.zero_le _
  | cons p ps ih =>
    have some := (spelling p).length_pos
    rw [escapes_cons, List.length_append, List.length_cons]
    omega

theorem pointsOf_quote (t : Text) :
    pointsOf (quote t) = .char '"' :: (escapes t.points ++ [.char '"']) := by
  rw [quote, pointsOf_append, pointsOf_append, pointsOf_join, List.flatMap_map]
  rfl

/-- A text between quotes is read back, but for halves that meet. -/
theorem readText_escapes (t : Text) (rest : List CodePoint) :
    readText (escapes t.points ++ .char '"' :: rest) = .ok (joined t, rest) := by
  have room := length_le_escapes t.points
  exact readPoints_escapes _ t.points rest _ [] (by rw [List.length_append]; omega)

end Thermostat.Json
