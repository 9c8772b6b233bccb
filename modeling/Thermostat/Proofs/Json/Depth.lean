import Thermostat.Proofs.Json.Data

/-! How deep lists and objects stand in one another: more depth than a text needs changes nothing, and no
text needs more of it than it has opening brackets. -/
namespace Thermostat.Json

variable {α β : Type} {limit : Option Nat} {fuel depth depth' : Nat} {ps qs : List CodePoint}

/-- A reading is the same as another one, or it is given up for its depth. -/
def Approximates (r s : Except Stop α) : Prop := r = s ∨ ∃ c, r = .error (.tooDeep c)

theorem Approximates.refl (r : Except Stop α) : Approximates r r := Or.inl rfl

theorem Approximates.bind {r s : Except Stop α} {f g : α → Except Stop β} (first : Approximates r s)
    (next : ∀ a, Approximates (f a) (g a)) : Approximates (r >>= f) (s >>= g) := by
  rcases first with rfl | ⟨c, rfl⟩
  · cases r with
    | error e => exact Or.inl rfl
    | ok a => exact next a
  · exact Or.inr ⟨c, rfl⟩

theorem approximates_enter (c : Container) {f g : Nat → Except Stop α} (le : depth ≤ depth')
    (inside : ∀ {d d'}, d ≤ d' → Approximates (f d) (g d')) :
    Approximates (enter c depth >>= f) (enter c depth' >>= g) := by
  cases depth with
  | zero => exact Or.inr ⟨c, rfl⟩
  | succ d =>
    obtain ⟨d', rfl⟩ := Nat.exists_eq_add_one.mpr (Nat.zero_lt_of_lt le)
    exact inside (Nat.le_of_succ_le_succ le)

/-- With so much fuel, each of the three readers gives the same with more depth, or was given up. -/
structure Deepens (limit : Option Nat) (fuel : Nat) : Prop where
  value : ∀ {depth depth'}, depth ≤ depth' → ∀ ps,
    Approximates (readValue limit fuel depth ps) (readValue limit fuel depth' ps)
  items : ∀ {depth depth'}, depth ≤ depth' → ∀ before ps,
    Approximates (readItems limit fuel depth before ps) (readItems limit fuel depth' before ps)
  entries : ∀ {depth depth'}, depth ≤ depth' → ∀ before ps,
    Approximates (readEntries limit fuel depth before ps) (readEntries limit fuel depth' before ps)

theorem Deepens.zero : Deepens limit 0 :=
  ⟨fun _ _ => .refl _, fun _ _ _ => .refl _, fun _ _ _ => .refl _⟩

theorem Deepens.value_succ (h : Deepens limit fuel) (le : depth ≤ depth') (ps : List CodePoint) :
    Approximates (readValue limit (fuel + 1) depth ps) (readValue limit (fuel + 1) depth' ps) := by
  unfold readValue
  split
  · exact .refl _
  · exact .refl _
  · refine approximates_enter .list le fun le => ?_
    split
    · exact .refl _
    · exact h.items le _ _
  · refine approximates_enter .object le fun le => ?_
    split
    · exact .refl _
    · exact h.entries le _ _
  · exact .refl _

theorem Deepens.items_succ (h : Deepens limit fuel) (le : depth ≤ depth') (before : List Value)
    (ps : List CodePoint) :
    Approximates (readItems limit (fuel + 1) depth before ps)
      (readItems limit (fuel + 1) depth' before ps) := by
  unfold readItems
  refine (h.value le ps).bind fun r => ?_
  obtain ⟨v, rest⟩ := r
  dsimp only
  split
  · exact .refl _
  · exact h.items le _ _
  · exact .refl _

theorem Deepens.entries_succ (h : Deepens limit fuel) (le : depth ≤ depth')
    (before : List (Text × Value)) (ps : List CodePoint) :
    Approximates (readEntries limit (fuel + 1) depth before ps)
      (readEntries limit (fuel + 1) depth' before ps) := by
  unfold readEntries
  split
  · refine (Approximates.refl _).bind fun r => ?_
    obtain ⟨name, rest⟩ := r
    dsimp only
    split
    · refine (h.value le _).bind fun r => ?_
      obtain ⟨v, rest⟩ := r
      dsimp only
      split
      · exact .refl _
      · exact h.entries le _ _
      · exact .refl _
    · exact .refl _
  · exact .refl _

theorem deepens (limit : Option Nat) (fuel : Nat) : Deepens limit fuel := by
  induction fuel with
  | zero => exact .zero
  | succ fuel ih => exact ⟨ih.value_succ, ih.items_succ, ih.entries_succ⟩

/-- With more depth a text is read as before, unless there was too little of it. -/
theorem read_of_le (le : depth ≤ depth') (limit : Option Nat) (text : Text) :
    read limit depth text = read limit depth' text ∨
      ∃ c, read limit depth text = .error (.tooDeep c) := by
  unfold read
  dsimp only
  split
  · exact Or.inl rfl
  · rcases (deepens limit _).value le (skipSpace text.points) with same | ⟨c, deep⟩
    · rw [same]
      exact Or.inl rfl
    · rw [deep]
      exact Or.inr ⟨c, rfl⟩

/-- A reader comes to what stands further on, or it stops for something else than depth. -/
inductive Advances (ps : List CodePoint) : Except Stop (α × List CodePoint) → Prop
  | ok {a : α} {rest : List CodePoint} (later : rest <:+ ps) : Advances ps (.ok (a, rest))
  | error {s : Stop} (other : ∀ c, s ≠ .tooDeep c) : Advances ps (.error s)

theorem Advances.of_suffix {r : Except Stop (α × List CodePoint)} (advances : Advances qs r)
    (later : qs <:+ ps) : Advances ps r := by
  cases advances with
  | ok suffix => exact .ok (suffix.trans later)
  | error other => exact .error other

theorem Advances.bind {r : Except Stop (α × List CodePoint)}
    {f : α × List CodePoint → Except Stop (β × List CodePoint)} (first : Advances ps r)
    (next : ∀ a {rest}, rest <:+ ps → Advances ps (f (a, rest))) : Advances ps (r >>= f) := by
  cases first with
  | ok later => exact next _ later
  | error other => exact .error other

theorem advances_stopAt (f : Flaw) (qs : List CodePoint) :
    Advances ps (stopAt f qs : Except Stop (α × List CodePoint)) := .error nofun

theorem lowHalf?_not_tooDeep {s : Stop} (stopped : lowHalf? ps = .error s) (c : Container) :
    s ≠ .tooDeep c := by
  unfold lowHalf? at stopped
  split at stopped
  · split at stopped
    · cases stopped
    · split at stopped
      · cases stopped
        exact nofun
      · cases stopped
  · cases stopped

theorem advances_readCode (ps : List CodePoint) : Advances ps (readCode ps) := by
  unfold readCode
  split
  · exact advances_stopAt _ _
  · split
    · exact advances_stopAt _ _
    · dsimp only
      split
      · cases low : lowHalf? (ps.drop 4) with
        | error s => exact .error (lowHalf?_not_tooDeep low)
        | ok p =>
          cases p with
          | none => exact .ok (List.drop_suffix 4 ps)
          | some low => exact .ok ((List.drop_suffix 6 _).trans (List.drop_suffix 4 ps))
      · exact .ok (List.drop_suffix 4 ps)

theorem advances_readPoints (start fuel : Nat) (acc ps : List CodePoint) :
    Advances ps (readPoints start fuel acc ps) := by
  induction fuel generalizing acc ps with
  | zero => exact .error nofun
  | succ fuel ih =>
    unfold readPoints
    split
    · exact .error nofun
    · exact .ok (List.suffix_cons _ _)
    · exact .error nofun
    · next p rest =>
      have later : rest <:+ .char '\\' :: p :: rest := List.suffix_append [_, p] rest
      split
      · refine ((advances_readCode rest).of_suffix later).bind fun q more later => ?_
        exact (ih _ _).of_suffix later
      · split
        · exact (ih _ _).of_suffix later
        · exact advances_stopAt _ _
    · split
      · exact advances_stopAt _ _
      · exact (ih _ _).of_suffix (List.suffix_cons _ _)

theorem advances_readText (ps : List CodePoint) : Advances ps (readText ps) :=
  advances_readPoints _ _ _ _

theorem suffix_skipSpace (ps : List CodePoint) : skipSpace ps <:+ ps := List.dropWhile_suffix _

theorem suffix_spanDigits (ps : List CodePoint) : (spanDigits ps).2 <:+ ps := List.dropWhile_suffix _

theorem suffix_spanSign (ps : List CodePoint) : (spanSign ps).2 <:+ ps := by
  unfold spanSign
  split
  · exact List.suffix_cons _ _
  · exact List.suffix_cons _ _
  · exact List.suffix_rfl

theorem suffix_spanWhole (ps : List CodePoint) : (spanWhole ps).2 <:+ ps := by
  unfold spanWhole
  split
  · exact List.suffix_cons _ _
  · exact suffix_spanDigits ps

theorem suffix_spanFraction (ps : List CodePoint) : (spanFraction ps).2 <:+ ps := by
  unfold spanFraction
  split
  · dsimp only
    split
    · exact List.suffix_rfl
    · exact (suffix_spanDigits _).trans (List.suffix_cons _ _)
  · exact List.suffix_rfl

theorem suffix_spanExponent (ps : List CodePoint) : (spanExponent ps).2 <:+ ps := by
  unfold spanExponent
  split
  · split
    · dsimp only
      split
      · exact List.suffix_rfl
      · exact ((suffix_spanDigits _).trans (suffix_spanSign _)).trans (List.suffix_cons _ _)
    · exact List.suffix_rfl
  · exact List.suffix_rfl

theorem suffix_splitMinus (ps : List CodePoint) : (splitMinus ps).2 <:+ ps := by
  unfold splitMinus
  split
  · exact List.suffix_cons _ _
  · exact List.suffix_rfl

theorem advances_readNumber (limit : Option Nat) (ps : List CodePoint) :
    Advances ps (readNumber limit ps) := by
  rw [readNumber_eq]
  have later := suffix_splitMinus ps
  generalize (splitMinus ps).1 = negative, (splitMinus ps).2 = body at later
  have later : (spanExponent (spanFraction (spanWhole body).2).2).2 <:+ ps :=
    (suffix_spanExponent _).trans ((suffix_spanFraction _).trans ((suffix_spanWhole _).trans later))
  unfold readUnsigned
  dsimp only
  split
  · exact advances_stopAt _ _
  · split
    · split
      · exact .error nofun
      · exact .ok later
    · split
      · exact .ok later
      · exact advances_stopAt _ _

def isBracket (p : CodePoint) : Bool := p == .char '[' || p == .char '\x7b'

/-- How many brackets open in a text, with those in quotes. -/
def brackets (ps : List CodePoint) : Nat := ps.countP isBracket

theorem brackets_le (later : qs <:+ ps) : brackets qs ≤ brackets ps := later.sublist.countP_le

/-- Behind a bracket there is one bracket fewer, and one less of the depth. -/
theorem advances_enter (c : Container) {p : CodePoint} {f : Nat → Except Stop (α × List CodePoint)}
    (bracket : isBracket p = true) (few : brackets (p :: ps) ≤ depth)
    (inside : ∀ {inner}, brackets (skipSpace ps) ≤ inner → Advances (skipSpace ps) (f inner)) :
    Advances (p :: ps) (enter c depth >>= f) := by
  rw [brackets, List.countP_cons_of_pos bracket] at few
  obtain ⟨inner, rfl⟩ := Nat.exists_eq_add_one.mpr (Nat.zero_lt_of_lt few)
  have fewer : brackets (skipSpace ps) ≤ inner :=
    Nat.le_trans (brackets_le (suffix_skipSpace ps)) (Nat.le_of_succ_le_succ few)
  exact (inside fewer).of_suffix ((suffix_skipSpace ps).trans (List.suffix_cons p ps))

/-- With so much fuel, and with depth for all brackets, none of the three readers is given up. -/
structure ReadsOn (limit : Option Nat) (fuel : Nat) : Prop where
  value : ∀ {depth ps}, brackets ps ≤ depth → Advances ps (readValue limit fuel depth ps)
  items : ∀ {depth ps}, brackets ps ≤ depth → ∀ before,
    Advances ps (readItems limit fuel depth before ps)
  entries : ∀ {depth ps}, brackets ps ≤ depth → ∀ before,
    Advances ps (readEntries limit fuel depth before ps)

theorem ReadsOn.zero : ReadsOn limit 0 :=
  ⟨fun _ => .error nofun, fun _ _ => .error nofun, fun _ _ => .error nofun⟩

theorem ReadsOn.value_succ (h : ReadsOn limit fuel) (few : brackets ps ≤ depth) :
    Advances ps (readValue limit (fuel + 1) depth ps) := by
  unfold readValue
  split
  · exact advances_stopAt _ _
  · next rest =>
    refine ((advances_readText rest).of_suffix (List.suffix_cons _ _)).bind fun t more later => ?_
    exact .ok later
  · refine advances_enter .list rfl few fun few => ?_
    split
    · next more same =>
      rw [same]
      exact .ok (List.suffix_cons _ _)
    · exact h.items few []
  · refine advances_enter .object rfl few fun few => ?_
    split
    · next more same =>
      rw [same]
      exact .ok (List.suffix_cons _ _)
    · exact h.entries few []
  · split
    · exact .ok (List.drop_suffix _ _)
    · exact advances_readNumber _ _

/-- What stands behind the first sign of a text further on is further on, too. -/
theorem suffix_of_skipSpace {p : CodePoint} {more rest : List CodePoint} (later : rest <:+ ps)
    (same : skipSpace rest = p :: more) : more <:+ ps :=
  ((List.suffix_cons p more).trans (same ▸ suffix_skipSpace rest)).trans later

theorem ReadsOn.items_succ (h : ReadsOn limit fuel) (few : brackets ps ≤ depth)
    (before : List Value) : Advances ps (readItems limit (fuel + 1) depth before ps) := by
  unfold readItems
  refine (h.value few).bind fun v rest later => ?_
  dsimp only
  split
  · next more same => exact .ok (suffix_of_skipSpace later same)
  · next more same =>
    have later := (suffix_skipSpace more).trans (suffix_of_skipSpace later same)
    exact (h.items (Nat.le_trans (brackets_le later) few) _).of_suffix later
  · exact advances_stopAt _ _

theorem ReadsOn.entries_succ (h : ReadsOn limit fuel) (few : brackets ps ≤ depth)
    (before : List (Text × Value)) : Advances ps (readEntries limit (fuel + 1) depth before ps) := by
  unfold readEntries
  split
  · next rest =>
    refine ((advances_readText rest).of_suffix (List.suffix_cons _ _)).bind fun name rest later => ?_
    dsimp only
    split
    · next more same =>
      have later := (suffix_skipSpace more).trans (suffix_of_skipSpace later same)
      refine ((h.value (Nat.le_trans (brackets_le later) few)).of_suffix later).bind
        fun v rest later => ?_
      dsimp only
      split
      · next more same => exact .ok (suffix_of_skipSpace later same)
      · next more same =>
        have later := (suffix_skipSpace more).trans (suffix_of_skipSpace later same)
        exact (h.entries (Nat.le_trans (brackets_le later) few) _).of_suffix later
      · exact advances_stopAt _ _
    · exact advances_stopAt _ _
  · exact advances_stopAt _ _

theorem readsOn (limit : Option Nat) (fuel : Nat) : ReadsOn limit fuel := by
  induction fuel with
  | zero => exact .zero
  | succ fuel ih => exact ⟨ih.value_succ, ih.items_succ, ih.entries_succ⟩

/-- No text with so few opening brackets is too deep. -/
theorem read_not_tooDeep {text : Text} (few : brackets text.points ≤ depth) (c : Container) :
    read limit depth text ≠ .error (.tooDeep c) := by
  have few := Nat.le_trans (brackets_le (suffix_skipSpace text.points)) few
  have advances := (readsOn limit (2 * text.points.length + 2)).value few
  unfold read
  dsimp only
  split
  · exact nofun
  · cases found : readValue limit (2 * text.points.length + 2) depth (skipSpace text.points) with
    | ok found =>
      dsimp only
      split
      · exact nofun
      · exact nofun
    | error s =>
      rw [found] at advances
      cases advances with
      | error other =>
        cases s with
        | flaw f remaining => exact nofun
        | longNumber digits => exact nofun
        | tooDeep d => exact absurd rfl (other d)

theorem skipSpace_brackets {n : Nat} (pos : 0 < n) (rest : List CodePoint) :
    skipSpace (List.replicate n (.char '[') ++ rest) = List.replicate n (.char '[') ++ rest := by
  obtain ⟨m, rfl⟩ := Nat.exists_eq_add_one.mpr pos
  rfl

theorem readValue_brackets {n : Nat} (deep : depth < n) (room : 2 * depth < fuel)
    (rest : List CodePoint) :
    readValue limit fuel depth (List.replicate n (.char '[') ++ rest) = .error (.tooDeep .list) := by
  induction depth generalizing n fuel with
  | zero =>
    obtain ⟨f, rfl⟩ := Nat.exists_eq_add_one.mpr room
    obtain ⟨m, rfl⟩ := Nat.exists_eq_add_one.mpr deep
    rfl
  | succ depth ih =>
    obtain ⟨f, rfl⟩ := Nat.exists_eq_add_of_le' (show 2 ≤ fuel by omega)
    obtain ⟨m, rfl⟩ := Nat.exists_eq_add_of_le' (show 2 ≤ n by omega)
    have inside : readValue limit f depth (List.replicate (m + 1) (.char '[') ++ rest) =
        .error (.tooDeep .list) := ih (by omega) (by omega)
    rw [List.replicate_succ, List.cons_append, readValue]
    dsimp only [enter, bind, Except.bind]
    rw [skipSpace_brackets (Nat.succ_pos m)]
    split
    · next same => cases same
    · rw [readItems, inside]
      rfl

/-- A text with more brackets at its beginning than there is depth is too deep. -/
theorem read_brackets {n : Nat} (deep : depth < n) (rest : List CodePoint) :
    read limit depth ⟨List.replicate n (.char '[') ++ rest⟩ = .error (.tooDeep .list) := by
  have pos := Nat.zero_lt_of_lt deep
  have given (fuel : Nat) (room : 2 * depth < fuel) :
      readValue limit fuel depth (skipSpace (List.replicate n (.char '[') ++ rest)) =
        .error (.tooDeep .list) := by
    rw [skipSpace_brackets pos, readValue_brackets deep room]
  have length : n ≤ (List.replicate n (CodePoint.char '[') ++ rest).length := by
    rw [List.length_append, List.length_replicate]
    exact Nat.le_add_right _ _
  have mark : ((List.replicate n (CodePoint.char '[') ++ rest).head? == some (.ofNat 0xFEFF)) =
      false := by
    obtain ⟨m, rfl⟩ := Nat.exists_eq_add_one.mpr pos
    rfl
  unfold read
  dsimp only
  rw [mark, if_neg Bool.false_ne_true, given _ (by omega)]

end Thermostat.Json
