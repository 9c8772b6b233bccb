import Thermostat.Proofs.Entries
import Thermostat.Proofs.Json.Number

/-! Written trees read back: each tree as the value that it stands for, whatever its depth. -/
namespace Thermostat.Json

namespace Tree

mutual

/-- The value that a tree is read back as. -/
def value : Tree → Value
  | null => .none
  | bool b => .bool b
  | int n => .int n
  | text t => .text (.text (joined t))
  | list items => .list (values items)
  | dict entries => .dict (entryValues entries)

def values : List Tree → List Value
  | [] => []
  | t :: ts => t.value :: values ts

def entryValues : List (Text × Tree) → List (Text × Value)
  | [] => []
  | (k, t) :: es => (joined k, t.value) :: entryValues es

end

/-- The trees that can be read back where lists and objects stand in one another so deep: whole numbers
are not too long, and no two entries of an object are read back under one name. -/
inductive Readable (limit : Nat) : Nat → Tree → Prop
  | null {depth : Nat} : Readable limit depth null
  | bool {depth : Nat} (b : Bool) : Readable limit depth (bool b)
  | int {depth : Nat} {n : Int} (short : Decimal.digitCount n.natAbs ≤ limit) :
      Readable limit depth (int n)
  | text {depth : Nat} (t : Text) : Readable limit depth (text t)
  | list {depth : Nat} {items : List Tree} (each : ∀ t ∈ items, Readable limit depth t) :
      Readable limit (depth + 1) (list items)
  | dict {depth : Nat} {entries : List (Text × Tree)} (names : (entries.map (joined ·.1)).Nodup)
      (each : ∀ e ∈ entries, Readable limit depth e.2) : Readable limit (depth + 1) (dict entries)

end Tree

variable {limit depth level fuel : Nat} {rest : List CodePoint}

theorem skipSpace_indent (level : Nat) (ps : List CodePoint) :
    skipSpace (pointsOf (indent level) ++ ps) = skipSpace ps := by
  have spaces : ∀ p ∈ pointsOf (indent level), p.satisfies isSpace = true := by
    intro p mem
    rw [indent, pointsOf_ofList, List.map_replicate] at mem
    rw [List.eq_of_mem_replicate mem]
    rfl
  exact List.dropWhile_append_of_pos spaces

theorem skipSpace_line (level : Nat) (ps : List CodePoint) :
    skipSpace (.char '\n' :: (pointsOf (indent level) ++ ps)) = skipSpace ps :=
  skipSpace_indent level ps

theorem skipSpace_of_ne {p : CodePoint} (other : p.satisfies isSpace = false) (ps : List CodePoint) :
    skipSpace (p :: ps) = p :: ps := by
  rw [skipSpace, List.dropWhile_cons_of_neg]
  rw [other]
  exact Bool.false_ne_true

/-- The characters that values begin with, but digits. -/
def openings : List Char := ['n', 't', 'f', '"', '[', '\x7b', '-']

def Opening (c : Char) : Prop := c.isDigit = true ∨ c ∈ openings

theorem Opening.ne {c d : Char} (opening : Opening c) (digit : d.isDigit = false)
    (free : d ∉ openings) : c ≠ d := by
  rintro rfl
  rcases opening with isDigit | mark
  · rw [digit] at isDigit
    cases isDigit
  · exact free mark

/-- Where a value begins. -/
def Opens (ps : List CodePoint) : Prop := ∃ c more, ps = .char c :: more ∧ Opening c

theorem skipSpace_of_opens {ps : List CodePoint} (opens : Opens ps) : skipSpace ps = ps := by
  obtain ⟨c, more, rfl, opening⟩ := opens
  have blank : c ≠ ' ' := opening.ne rfl (by decide)
  have tab : c ≠ '\t' := opening.ne rfl (by decide)
  have line : c ≠ '\n' := opening.ne rfl (by decide)
  have carriage : c ≠ '\r' := opening.ne rfl (by decide)
  have other : (CodePoint.char c).satisfies isSpace = false := by
    simp [CodePoint.satisfies, CodePoint.toChar?, isSpace, blank, tab, line, carriage]
  exact skipSpace_of_ne other more

theorem ne_cons_of_opens {ps : List CodePoint} (opens : Opens ps) {d : Char}
    (digit : d.isDigit = false) (free : d ∉ openings) (more : List CodePoint) :
    ps ≠ .char d :: more := by
  obtain ⟨c, more', rfl, opening⟩ := opens
  intro same
  exact opening.ne digit free (CodePoint.char.inj (List.cons.inj same).1)

/-- A whole number begins with a digit or a sign. -/
theorem toString_cons (n : Int) (rest : List CodePoint) :
    ∃ c more, pointsOf (toString n) ++ rest = .char c :: more ∧ (c.isDigit = true ∨ c = '-') := by
  cases n with
  | ofNat n =>
    change ∃ c more, pointsOf (toString n) ++ rest = .char c :: more ∧ _
    obtain ⟨d, ds, digits⟩ := List.exists_cons_of_ne_nil (Nat.toDigits_ne_nil (b := 10) (n := n))
    have first : d.isDigit = true := Text.isDigit_of_mem_toDigits (n := n) (by simp [digits])
    rw [pointsOf_natural, digits]
    exact ⟨d, _, rfl, Or.inl first⟩
  | negSucc n =>
    rw [pointsOf_negative]
    exact ⟨_, _, rfl, Or.inr rfl⟩

theorem opens_toString (n : Int) (rest : List CodePoint) : Opens (pointsOf (toString n) ++ rest) := by
  obtain ⟨c, more, points, digit | rfl⟩ := toString_cons n rest
  · exact ⟨c, more, points, Or.inl digit⟩
  · exact ⟨'-', more, points, Or.inr (by decide)⟩

theorem opens_bracket {left right : String} {parts : List String} {c : Char}
    (first : pointsOf left = [.char c]) (opening : c ∈ openings) :
    Opens (pointsOf (bracket level left right parts) ++ rest) := by
  unfold bracket
  split <;> simp only [pointsOf_append, first, List.append_assoc] <;>
    exact ⟨c, _, rfl, Or.inr opening⟩

theorem opens_write (level : Nat) (t : Tree) (rest : List CodePoint) :
    Opens (pointsOf (write level t) ++ rest) := by
  cases t with
  | null =>
    rw [write]
    exact ⟨'n', _, rfl, Or.inr (by decide)⟩
  | bool b =>
    rw [write]
    cases b
    · exact ⟨'f', _, rfl, Or.inr (by decide)⟩
    · exact ⟨'t', _, rfl, Or.inr (by decide)⟩
  | int n =>
    rw [write]
    exact opens_toString n rest
  | text t =>
    rw [write, pointsOf_quote]
    exact ⟨'"', _, rfl, Or.inr (by decide)⟩
  | list items =>
    rw [write]
    exact opens_bracket rfl (by decide)
  | dict entries =>
    rw [write]
    exact opens_bracket rfl (by decide)

/-- Parts behind the first of a list: each on a line of its own behind a comma. -/
def following (level : Nat) (parts : List String) : List CodePoint :=
  parts.flatMap fun s => .char ',' :: .char '\n' :: (pointsOf (indent level) ++ pointsOf s)

theorem following_cons (level : Nat) (s : String) (parts : List String) :
    following level (s :: parts) =
      .char ',' :: .char '\n' :: (pointsOf (indent level) ++ (pointsOf s ++ following level parts)) := by
  rw [following, List.flatMap_cons, List.cons_append, List.cons_append, List.append_assoc]
  rfl

theorem pointsOf_intercalate_cons (between first next : String) (parts : List String) :
    pointsOf (between.intercalate (first :: next :: parts)) =
      pointsOf first ++ (pointsOf between ++ pointsOf (between.intercalate (next :: parts))) := by
  simp only [pointsOf, Text.ofString, String.toList_intercalate, List.map_cons,
    List.intercalate_cons_cons, List.map_append, List.append_assoc]

theorem pointsOf_intercalate (level : Nat) (first : String) (parts : List String) :
    pointsOf (",\n".intercalate ((first :: parts).map (indent level ++ ·))) =
      pointsOf (indent level) ++ (pointsOf first ++ following level parts) := by
  induction parts generalizing first with
  | nil => simp [following, pointsOf, Text.ofString]
  | cons next parts ih =>
    rw [List.map_cons, List.map_cons, pointsOf_intercalate_cons, ← List.map_cons, ih next,
      pointsOf_append, List.append_assoc, following_cons]
    rfl

theorem pointsOf_bracket_nil (level : Nat) (left right : String) :
    pointsOf (bracket level left right []) = pointsOf left ++ pointsOf right := pointsOf_append _ _

/-- The points of a bracket with parts in it. -/
theorem pointsOf_bracket (left right first : String) (parts : List String) :
    pointsOf (bracket level left right (first :: parts)) =
      pointsOf left ++ .char '\n' :: (pointsOf (indent (level + 1)) ++
        (pointsOf first ++ (following (level + 1) parts ++
          .char '\n' :: (pointsOf (indent level) ++ pointsOf right)))) := by
  unfold bracket
  rw [if_neg (by simp)]
  simp only [pointsOf_append, pointsOf_intercalate, List.append_assoc]
  rfl

/-- With fuel for its points a tree is read back in front of what ends a value. -/
def ReadsBack (limit depth : Nat) (t : Tree) : Prop :=
  ∀ level fuel rest, (pointsOf (write level t)).length ≤ fuel → Ends rest →
    readValue (some limit) fuel depth (pointsOf (write level t) ++ rest) = .ok (t.value, rest)

variable {t : Tree}

/-- One item is read, and what follows says how the list goes on. -/
theorem readItems_step (back : ReadsBack limit depth t) {level : Nat} (before : List Value)
    (room : (pointsOf (write level t)).length ≤ fuel) (ends : Ends rest) :
    readItems (some limit) (fuel + 1) depth before (pointsOf (write level t) ++ rest) =
      match skipSpace rest with
      | .char ']' :: rest => .ok (.list (t.value :: before).reverse, rest)
      | .char ',' :: rest => readItems (some limit) fuel depth (t.value :: before) (skipSpace rest)
      | rest => stopAt .expectedComma rest := by
  rw [readItems, back level fuel rest room ends]
  rfl

theorem skipSpace_colon (level : Nat) (t : Tree) (rest : List CodePoint) :
    skipSpace (.char ' ' :: (pointsOf (write level t) ++ rest)) = pointsOf (write level t) ++ rest :=
  skipSpace_of_opens (opens_write level t rest)

theorem pointsOf_entry (level : Nat) (k : Text) (t : Tree) :
    pointsOf (quote k ++ ": " ++ write level t) =
      .char '"' :: (escapes k.points ++ .char '"' :: .char ':' :: .char ' ' ::
        pointsOf (write level t)) := by
  rw [pointsOf_append, pointsOf_append, pointsOf_quote, List.append_assoc, List.cons_append,
    List.append_assoc]
  rfl

theorem readEntries_step (back : ReadsBack limit depth t) {level : Nat} (k : Text)
    (before : List (Text × Value)) (room : (pointsOf (write level t)).length ≤ fuel)
    (ends : Ends rest) :
    readEntries (some limit) (fuel + 1) depth before
        (pointsOf (quote k ++ ": " ++ write level t) ++ rest) =
      match skipSpace rest with
      | .char '\x7d' :: rest => .ok (.dict (Entries.set (joined k) t.value before), rest)
      | .char ',' :: rest =>
        readEntries (some limit) fuel depth (Entries.set (joined k) t.value before) (skipSpace rest)
      | rest => stopAt .expectedComma rest := by
  rw [pointsOf_entry, List.cons_append, List.append_assoc, readEntries]
  change readText (escapes k.points ++ .char '"' :: .char ':' :: .char ' ' ::
    (pointsOf (write level t) ++ rest)) >>= _ = _
  rw [readText_escapes]
  change readValue (some limit) fuel depth
    (skipSpace (.char ' ' :: (pointsOf (write level t) ++ rest))) >>= _ = _
  rw [skipSpace_colon, back level fuel rest room ends]
  rfl

theorem skipSpace_close (level : Nat) {c : Char} (other : isSpace c = false) (rest : List CodePoint) :
    skipSpace (.char '\n' :: (pointsOf (indent level) ++ .char c :: rest)) = .char c :: rest := by
  rw [skipSpace_line, skipSpace_of_ne]
  exact other

theorem skipSpace_write (level level' : Nat) (t : Tree) (rest : List CodePoint) :
    skipSpace (.char '\n' :: (pointsOf (indent level) ++ (pointsOf (write level' t) ++ rest))) =
      pointsOf (write level' t) ++ rest := by
  rw [skipSpace_line, skipSpace_of_opens (opens_write level' t rest)]

/-- The items of a list are read back one after the other, with those before them given. -/
theorem readItems_write (level outer : Nat) (t : Tree) (ts : List Tree)
    (each : ∀ u ∈ t :: ts, ReadsBack limit depth u) (fuel : Nat) (before : List Value)
    (rest : List CodePoint)
    (room : (pointsOf (write level t) ++ following level (writeItems level ts)).length < fuel) :
    readItems (some limit) fuel depth before (pointsOf (write level t) ++
        (following level (writeItems level ts) ++
          .char '\n' :: (pointsOf (indent outer) ++ .char ']' :: rest))) =
      .ok (.list (before.reverse ++ Tree.values (t :: ts)), rest) := by
  induction ts generalizing t fuel before with
  | nil =>
    obtain ⟨fuel, rfl⟩ := Nat.exists_eq_add_one.mpr (Nat.zero_lt_of_lt room)
    rw [List.length_append] at room
    rw [writeItems, following, List.flatMap_nil, List.nil_append,
      readItems_step (each t List.mem_cons_self) before (by omega) (Ends.line _),
      skipSpace_close outer rfl rest]
    simp only [List.reverse_cons, Tree.values]
  | cons u ts ih =>
    obtain ⟨fuel, rfl⟩ := Nat.exists_eq_add_one.mpr (Nat.zero_lt_of_lt room)
    obtain ⟨first, each⟩ := List.forall_mem_cons.mp each
    rw [writeItems, following_cons] at room ⊢
    simp only [List.length_append, List.length_cons] at room
    rw [List.cons_append, List.cons_append, List.append_assoc, List.append_assoc,
      readItems_step first before (by omega) (Ends.comma _), skipSpace_of_ne rfl]
    change readItems _ _ _ _ (skipSpace (.char '\n' :: _)) = _
    rw [skipSpace_write, ih u each fuel (t.value :: before) (by rw [List.length_append]; omega),
      List.reverse_cons, List.append_assoc]
    rfl

theorem Tree.names_entryValues (entries : List (Text × Tree)) :
    (Tree.entryValues entries).map (·.1) = entries.map (joined ·.1) := by
  induction entries with
  | nil => rfl
  | cons e entries ih => rw [Tree.entryValues, List.map_cons, List.map_cons, ih]

/-- The text of an entry. -/
def entryText (level : Nat) (e : Text × Tree) : String := quote e.1 ++ ": " ++ write level e.2

theorem writeEntries_cons (level : Nat) (e : Text × Tree) (es : List (Text × Tree)) :
    writeEntries level (e :: es) = entryText level e :: writeEntries level es := by
  rw [writeEntries, entryText]

theorem opens_entry (level : Nat) (e : Text × Tree) (rest : List CodePoint) :
    Opens (pointsOf (entryText level e) ++ rest) := by
  rw [entryText, pointsOf_entry]
  exact ⟨'"', _, rfl, Or.inr (by decide)⟩

theorem skipSpace_entry (level level' : Nat) (e : Text × Tree) (rest : List CodePoint) :
    skipSpace (.char '\n' :: (pointsOf (indent level) ++ (pointsOf (entryText level' e) ++ rest))) =
      pointsOf (entryText level' e) ++ rest := by
  rw [skipSpace_line, skipSpace_of_opens (opens_entry level' e rest)]

theorem length_entryText (level : Nat) (e : Text × Tree) :
    (pointsOf (write level e.2)).length < (pointsOf (entryText level e)).length := by
  rw [entryText, pointsOf_entry]
  simp only [List.length_cons, List.length_append]
  omega

/-- The entries of an object are read back one after the other, with those before them given. -/
theorem readEntries_write (level outer : Nat) (e : Text × Tree) (es : List (Text × Tree))
    (each : ∀ u ∈ e :: es, ReadsBack limit depth u.2) (fuel : Nat) (before : List (Text × Value))
    (names : ((before ++ Tree.entryValues (e :: es)).map (·.1)).Nodup) (rest : List CodePoint)
    (room : (pointsOf (entryText level e) ++ following level (writeEntries level es)).length < fuel) :
    readEntries (some limit) fuel depth before (pointsOf (entryText level e) ++
        (following level (writeEntries level es) ++
          .char '\n' :: (pointsOf (indent outer) ++ .char '\x7d' :: rest))) =
      .ok (.dict (before ++ Tree.entryValues (e :: es)), rest) := by
  induction es generalizing e fuel before with
  | nil =>
    obtain ⟨fuel, rfl⟩ := Nat.exists_eq_add_one.mpr (Nat.zero_lt_of_lt room)
    have longer := length_entryText level e
    rw [List.length_append] at room
    rw [entryText, writeEntries, following, List.flatMap_nil, List.nil_append,
      readEntries_step (each e List.mem_cons_self) e.1 before (by omega) (Ends.line _),
      skipSpace_close outer rfl rest]
    change Except.ok (Value.dict (Entries.set (joined e.1) e.2.value before), rest) = _
    rw [Entries.set_eq_append names]
    rfl
  | cons u es ih =>
    obtain ⟨fuel, rfl⟩ := Nat.exists_eq_add_one.mpr (Nat.zero_lt_of_lt room)
    have longer := length_entryText level e
    obtain ⟨first, each⟩ := List.forall_mem_cons.mp each
    rw [writeEntries_cons, following_cons] at room ⊢
    simp only [List.length_append, List.length_cons] at room
    rw [entryText, List.cons_append, List.cons_append, List.append_assoc, List.append_assoc,
      readEntries_step first e.1 before (by omega) (Ends.comma _), skipSpace_of_ne rfl]
    change readEntries _ _ _ (Entries.set (joined e.1) e.2.value before)
      (skipSpace (.char '\n' :: _)) = _
    rw [Entries.set_eq_append names]
    rw [Tree.entryValues, List.append_cons] at names
    rw [Tree.entryValues, List.append_cons before _ (Tree.entryValues (u :: es)), skipSpace_entry,
      ih u each fuel _ names (by rw [List.length_append]; omega)]

/-- There is fuel for the first step of every tree that there is room for. -/
theorem exists_fuel (room : (pointsOf (write level t)).length ≤ fuel) : ∃ f, fuel = f + 1 := by
  obtain ⟨c, more, same, -⟩ := opens_write level t []
  rw [List.append_nil] at same
  rw [same, List.length_cons] at room
  exact Nat.exists_eq_add_one.mpr (by omega)

theorem isPrefixOf_cons_of_ne {p q : CodePoint} (ne : p ≠ q) (ps qs : List CodePoint) :
    (p :: ps).isPrefixOf (q :: qs) = false := by
  simp [List.isPrefixOf, ne]

/-- No word is written in digits, not even behind a sign. -/
theorem find?_words_toString (n : Int) (rest : List CodePoint) :
    words.find? (fun w => w.1.points.isPrefixOf (pointsOf (toString n) ++ rest)) = none := by
  have digits (m : Nat) : ∃ d more, (Nat.toDigits 10 m).map CodePoint.char ++ rest = .char d :: more ∧
      d.isDigit = true := by
    obtain ⟨d, ds, digits⟩ := List.exists_cons_of_ne_nil (Nat.toDigits_ne_nil (b := 10) (n := m))
    exact ⟨d, _, by rw [digits]; rfl, Text.isDigit_of_mem_toDigits (n := m) (by simp [digits])⟩
  have ne {c d : Char} (digit : d.isDigit = true) (other : c.isDigit = false) :
      CodePoint.char c ≠ .char d := by
    intro same
    cases same
    rw [digit] at other
    cases other
  rw [List.find?_eq_none]
  intro w mem
  rw [Bool.not_eq_true]
  simp only [words, List.mem_cons, List.not_mem_nil, or_false] at mem
  cases n with
  | ofNat m =>
    obtain ⟨d, more, points, digit⟩ := digits m
    change w.1.points.isPrefixOf (pointsOf (toString m) ++ rest) = false
    rw [pointsOf_natural, points]
    rcases mem with rfl | rfl | rfl | rfl | rfl | rfl <;>
      exact isPrefixOf_cons_of_ne (ne digit rfl) _ _
  | negSucc m =>
    obtain ⟨d, more, points, digit⟩ := digits (m + 1)
    rw [pointsOf_negative, List.cons_append, points]
    rcases mem with rfl | rfl | rfl | rfl | rfl | rfl
    case inr.inr.inr.inr.inr => exact isPrefixOf_cons_of_ne (ne digit rfl) _ _
    all_goals exact isPrefixOf_cons_of_ne (by decide) _ _

theorem readsBack_int {n : Int} (short : Decimal.digitCount n.natAbs ≤ limit) :
    ReadsBack limit depth (.int n) := by
  intro level fuel rest room ends
  obtain ⟨fuel, rfl⟩ := exists_fuel room
  rw [write]
  have number := readNumber_toString short ends
  have noWord := find?_words_toString n rest
  obtain ⟨c, more, points, first⟩ := toString_cons n rest
  rw [points] at number noWord ⊢
  have other {d : Char} (digit : d.isDigit = false) (sign : d ≠ '-') :
      ∀ rest, CodePoint.char c :: more = .char d :: rest → False := by
    intro rest same
    cases same
    rcases first with isDigit | rfl
    · rw [digit] at isDigit
      cases isDigit
    · exact sign rfl
  rw [readValue, noWord]
  · exact number
  · exact nofun
  · exact other rfl (by decide)
  · exact other rfl (by decide)
  · exact other rfl (by decide)

theorem readValue_list {ps : List CodePoint} (items : ∀ more, skipSpace ps ≠ .char ']' :: more) :
    readValue (some limit) (fuel + 1) (depth + 1) (.char '[' :: ps) =
      readItems (some limit) fuel depth [] (skipSpace ps) := by
  rw [readValue]
  dsimp only [enter, bind, Except.bind]
  split
  · next more same => exact absurd same (items more)
  · rfl

theorem readValue_dict {ps : List CodePoint} (entries : ∀ more, skipSpace ps ≠ .char '\x7d' :: more) :
    readValue (some limit) (fuel + 1) (depth + 1) (.char '\x7b' :: ps) =
      readEntries (some limit) fuel depth [] (skipSpace ps) := by
  rw [readValue]
  dsimp only [enter, bind, Except.bind]
  split
  · next more same => exact absurd same (entries more)
  · rfl

theorem readsBack_list {items : List Tree} (each : ∀ t ∈ items, ReadsBack limit depth t) :
    ReadsBack limit (depth + 1) (.list items) := by
  intro level fuel rest room ends
  obtain ⟨fuel, rfl⟩ := exists_fuel room
  rw [write] at room ⊢
  cases items with
  | nil =>
    rw [writeItems, pointsOf_bracket_nil]
    rfl
  | cons t ts =>
    rw [writeItems, pointsOf_bracket] at room ⊢
    simp only [List.length_append, List.length_cons] at room
    simp only [List.append_assoc, List.cons_append]
    have items := readItems_write (level + 1) level t ts each fuel [] rest
      (by rw [List.length_append]; omega)
    have opens := opens_write (level + 1) t (following (level + 1) (writeItems (level + 1) ts) ++
      .char '\n' :: (pointsOf (indent level) ++ .char ']' :: rest))
    have some := ne_cons_of_opens (d := ']') opens rfl (by decide)
    rw [← skipSpace_write (level + 1)] at items some
    exact (readValue_list some).trans items

theorem readsBack_dict {entries : List (Text × Tree)} (names : (entries.map (joined ·.1)).Nodup)
    (each : ∀ e ∈ entries, ReadsBack limit depth e.2) : ReadsBack limit (depth + 1) (.dict entries) := by
  intro level fuel rest room ends
  obtain ⟨fuel, rfl⟩ := exists_fuel room
  rw [write] at room ⊢
  cases entries with
  | nil =>
    rw [writeEntries, pointsOf_bracket_nil]
    rfl
  | cons e es =>
    rw [writeEntries_cons, pointsOf_bracket] at room ⊢
    simp only [List.length_append, List.length_cons] at room
    simp only [List.append_assoc, List.cons_append]
    rw [← Tree.names_entryValues] at names
    have entries := readEntries_write (level + 1) level e es each fuel [] names rest
      (by rw [List.length_append]; omega)
    have opens := opens_entry (level + 1) e (following (level + 1) (writeEntries (level + 1) es) ++
      .char '\n' :: (pointsOf (indent level) ++ .char '\x7d' :: rest))
    have some := ne_cons_of_opens (d := '\x7d') opens rfl (by decide)
    rw [← skipSpace_entry (level + 1)] at entries some
    exact (readValue_dict some).trans entries

/-- Every tree without long numbers and repeated names is read back. -/
theorem Tree.Readable.readsBack (readable : t.Readable limit depth) : ReadsBack limit depth t := by
  induction readable with
  | null =>
    intro level fuel rest room ends
    obtain ⟨fuel, rfl⟩ := exists_fuel room
    rw [write]
    rfl
  | bool b =>
    intro level fuel rest room ends
    obtain ⟨fuel, rfl⟩ := exists_fuel room
    rw [write]
    cases b <;> rfl
  | int short => exact readsBack_int short
  | text t =>
    intro level fuel rest room ends
    obtain ⟨fuel, rfl⟩ := exists_fuel room
    rw [write, pointsOf_quote]
    change readText ((escapes t.points ++ [.char '"']) ++ rest) >>= _ = _
    rw [List.append_assoc]
    change readText (escapes t.points ++ .char '"' :: rest) >>= _ = _
    rw [readText_escapes]
    rfl
  | list each ih => exact readsBack_list ih
  | dict names each ih => exact readsBack_dict names ih

/-- A tree is read back from its text, with the end of its last line behind it. -/
theorem read_write (readable : t.Readable limit depth) :
    read (some limit) depth (Text.ofString (write 0 t) ++ Text.ofString "\n") = .ok t.value := by
  change read (some limit) depth ⟨pointsOf (write 0 t) ++ pointsOf "\n"⟩ = _
  have opens := opens_write 0 t (pointsOf "\n")
  have back := readable.readsBack 0 (2 * (pointsOf (write 0 t) ++ pointsOf "\n").length + 2)
    (pointsOf "\n") (by rw [List.length_append]; omega) (Ends.line [])
  generalize pointsOf (write 0 t) ++ pointsOf "\n" = ps at opens back ⊢
  have mark : (ps.head? == some (.ofNat 0xFEFF)) = false := by
    obtain ⟨c, more, rfl, opening⟩ := opens
    have other : CodePoint.char c ≠ .ofNat 0xFEFF := fun same =>
      opening.ne rfl (by decide) (CodePoint.char.inj same)
    simpa using other
  unfold read
  dsimp only
  rw [mark, if_neg Bool.false_ne_true, skipSpace_of_opens opens, back]
  rfl

end Thermostat.Json
