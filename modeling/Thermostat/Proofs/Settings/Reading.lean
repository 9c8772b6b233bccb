import Thermostat.Proofs.Settings.Form
import Thermostat.Proofs.Steps

/-! Reading a text line by line: what one line can do. -/
namespace Thermostat.Settings

namespace Reading

variable {r r' : Reading} {source : Path} {number : Nat} {ps : List CodePoint}

/-- The options that lines are put among. -/
def current (r : Reading) : Pending :=
  match r.target with
  | .nowhere => []
  | .defaults => r.defaults
  | .inSection name => (Entries.get? r.sections name).getD []

/-! ## Changing options -/

theorem update_congr {f g : Pending → Pending} (same : f r.current = g r.current) :
    r.update f = r.update g := by
  cases target : r.target <;> simp_all [update, current]

@[simp] theorem update_target (f : Pending → Pending) : (r.update f).target = r.target := by
  unfold update
  split <;> rfl

@[simp] theorem update_option (f : Pending → Pending) : (r.update f).option = r.option := by
  unfold update
  split <;> rfl

@[simp] theorem update_indent (f : Pending → Pending) : (r.update f).indent = r.indent := by
  unfold update
  split <;> rfl

@[simp] theorem update_headers (f : Pending → Pending) : (r.update f).headers = r.headers := by
  unfold update
  split <;> rfl

@[simp] theorem update_options (f : Pending → Pending) : (r.update f).options = r.options := by
  unfold update
  split <;> rfl

@[simp] theorem update_malformed (f : Pending → Pending) : (r.update f).malformed = r.malformed := by
  unfold update
  split <;> rfl

theorem current_update (somewhere : r.target ≠ .nowhere) (f : Pending → Pending) :
    (r.update f).current = f r.current := by
  cases target : r.target with
  | nowhere => exact absurd target somewhere
  | defaults => simp [update, current, target]
  | inSection name => simp [update, current, target, Entries.get?_set_self]

theorem update_set_self {o : Text} {ls : List Text} (found : Entries.get? r.current o = some ls) :
    r.update (Entries.set o ls) = r := by
  unfold update
  split
  · rfl
  · next target =>
    rw [current, target] at found
    rw [Entries.set_of_get? found]
  · next name target =>
    rw [current, target] at found
    dsimp only at found
    cases known : Entries.get? r.sections name with
    | none => simp [known] at found
    | some os =>
      rw [known, Option.getD_some] at found
      rw [Option.getD_some, Entries.set_of_get? found, Entries.set_of_get? known]

theorem isOpen_iff :
    r.isOpen = true ↔ r.target ≠ .nowhere ∧ ∃ o, r.option = some o ∧ o.points ≠ [] := by
  cases option : r.option <;> simp [isOpen, Text.isEmpty, option]

/-- A line that extends a value is put before those that the option has. -/
theorem extend_eq {o line : Text} (option : r.option = some o) (isOpen : r.isOpen = true) :
    r.extend line = r.update (Entries.set o (line :: (Entries.get? r.current o).getD [])) := by
  rw [extend, option]
  simp only [isOpen, if_true]
  exact update_congr rfl

theorem extend_of_not_isOpen {line : Text} (isOpen : ¬ r.isOpen = true) : r.extend line = r := by
  rw [extend]
  split
  · exact if_neg isOpen
  · rfl

theorem extend_eq_or (r : Reading) (line : Text) :
    r.extend line = r ∨ ∃ f, r.extend line = r.update f := by
  by_cases isOpen : r.isOpen = true
  · obtain ⟨-, o, option, -⟩ := isOpen_iff.mp isOpen
    exact Or.inr ⟨_, extend_eq option isOpen⟩
  · exact Or.inl (extend_of_not_isOpen isOpen)

theorem extend_malformed (line : Text) : (r.extend line).malformed = r.malformed := by
  rcases r.extend_eq_or line with same | ⟨f, changed⟩
  · rw [same]
  · rw [changed, update_malformed]

theorem isOpen_extend (line : Text) : (r.extend line).isOpen = r.isOpen := by
  rcases r.extend_eq_or line with same | ⟨f, changed⟩
  · rw [same]
  · rw [changed, isOpen, isOpen, update_target, update_option]

theorem indent_extend (line : Text) : (r.extend line).indent = r.indent := by
  rcases r.extend_eq_or line with same | ⟨f, changed⟩
  · rw [same]
  · rw [changed, update_indent]

/-! ## Headers -/

/-- The name in a header is what stands before the last bracket. -/
theorem header?_bracket {a b : List CodePoint} (last : .char ']' ∉ b) :
    header? (.char '[' :: (a ++ .char ']' :: b)) = if a.isEmpty then none else some ⟨a⟩ := by
  have behind : ∀ p ∈ b.reverse, (p != .char ']') = true := by
    intro p mem
    rw [bne_iff_ne]
    rintro rfl
    exact last (List.mem_reverse.mp mem)
  have cut :
      (((a ++ CodePoint.char ']' :: b).reverse.dropWhile (· != .char ']')).drop 1).reverse = a := by
    rw [List.reverse_append, List.reverse_cons, List.append_assoc,
      List.dropWhile_append_of_pos behind]
    simp
  simp only [header?, cut]

theorem header?_no_bracket {ps : List CodePoint} (none : .char ']' ∉ ps) :
    header? (.char '[' :: ps) = .none := by
  have all : ∀ p ∈ ps.reverse, (p != .char ']') = true := by
    intro p mem
    rw [bne_iff_ne]
    rintro rfl
    exact none (List.mem_reverse.mp mem)
  have nothing : ps.reverse.dropWhile (· != .char ']') = [] := List.dropWhile_eq_nil_iff.mpr all
  simp [header?, nothing]

theorem header?_of_head?_ne {ps : List CodePoint} (other : ps.head? ≠ some (.char '[')) :
    header? ps = none := by
  unfold header?
  split
  · exact absurd rfl other
  · rfl

theorem content_of_header {name : Text} {content : List CodePoint} (header : header? content = some name) :
    content ≠ [] ∧ ¬ Comments content := by
  constructor
  · rintro rfl
    cases header
  · intro comment
    have other : content.head? ≠ some (.char '[') := by
      rcases comment with head | head <;>
      · rw [head]
        decide
    rw [header?_of_head?_ne other] at header
    cases header

theorem exists_last_bracket {ps : List CodePoint} (mem : .char ']' ∈ ps) :
    ∃ a b, ps = a ++ .char ']' :: b ∧ .char ']' ∉ b := by
  obtain ⟨b, a, whole, last⟩ := List.eq_append_cons_of_mem (List.mem_reverse.mpr mem)
  refine ⟨a.reverse, b.reverse, ?_, by simpa using last⟩
  rw [← List.reverse_reverse ps, whole]
  simp

theorem header?_eq_none_iff {ps : List CodePoint} :
    header? ps = none ↔ (ps.head? = some (.char '[') → .char ']' ∉ ps.drop 2) := by
  by_cases opens : ps.head? = some (.char '[')
  · obtain ⟨behind, rfl⟩ := List.head?_eq_some_iff.mp opens
    simp only [List.head?_cons, forall_const, List.drop_succ_cons]
    by_cases mem : .char ']' ∈ behind
    · obtain ⟨a, b, rfl, last⟩ := exists_last_bracket mem
      rw [header?_bracket last]
      cases a with
      | nil => simpa using last
      | cons p a => simp
    · exact iff_of_true (header?_no_bracket mem) fun there => mem (List.mem_of_mem_drop there)
  · exact iff_of_true (header?_of_head?_ne opens) fun head => absurd head opens

theorem of_header? {name : Text} (header : header? ps = some name) :
    name.points ≠ [] ∧ ∀ p ∈ name.points, p ∈ ps := by
  by_cases opens : ps.head? = some (.char '[')
  · obtain ⟨behind, rfl⟩ := List.head?_eq_some_iff.mp opens
    by_cases mem : .char ']' ∈ behind
    · obtain ⟨a, b, rfl, last⟩ := exists_last_bracket mem
      rw [header?_bracket last] at header
      split at header
      · cases header
      · next nonempty =>
        cases header
        exact ⟨by simpa using nonempty, fun p there => by simp [there]⟩
    · rw [header?_no_bracket mem] at header
      cases header
  · rw [header?_of_head?_ne opens] at header
    cases header

/-! ## What one line can do -/

theorem enter_eq_ok_iff {name : Text} : r.enter source number name = .ok r' ↔
    name = defaultsName ∧ r' = { r with target := .defaults, option := none } ∨
      name ≠ defaultsName ∧ name ∉ r.headers ∧
        r' = { r with
          sections := if Entries.has r.sections name then r.sections else r.sections ++ [(name, [])]
          target := .inSection name, option := none, headers := name :: r.headers } := by
  unfold enter
  by_cases same : name = defaultsName
  · rw [if_pos (beq_iff_eq.mpr same), Except.ok.injEq]
    constructor
    · rintro rfl
      exact Or.inl ⟨same, rfl⟩
    · rintro (⟨-, rfl⟩ | ⟨other, -⟩)
      · rfl
      · exact absurd same other
  · rw [if_neg (by simpa using same)]
    by_cases taken : name ∈ r.headers
    · rw [if_pos (by simpa using taken)]
      simp [same, taken]
    · rw [if_neg (by simpa using taken), Except.ok.injEq]
      constructor
      · rintro rfl
        exact Or.inr ⟨same, taken, rfl⟩
      · rintro (⟨equal, -⟩ | ⟨-, -, rfl⟩)
        · exact absurd equal same
        · rfl

/-- An option is begun without a fault just if it has a name that was not taken in its section. -/
theorem addOption_sound_iff {line name value : Text} :
    r.addOption source number line name value = .ok r' ∧ r'.malformed = [] ↔
      r.malformed = [] ∧ name.points ≠ [] ∧
        (r.targetName, optionName (Text.trimRight name)) ∉ r.options ∧
        r' = ({ r with
          option := some (optionName (Text.trimRight name))
          options := (r.targetName, optionName (Text.trimRight name)) :: r.options } : Reading).update
            (Entries.set (optionName (Text.trimRight name)) [Text.trim value]) := by
  by_cases empty : name.points = []
  · have unnamed : name.isEmpty = true := by simpa [Text.isEmpty] using empty
    refine iff_of_false ?_ fun sound => sound.2.1 empty
    rintro ⟨ok, sound⟩
    simp only [addOption, unnamed, if_true] at ok
    split at ok
    · cases ok
    · cases ok
      simp at sound
  · have named : name.isEmpty = false := by simpa [Text.isEmpty] using empty
    simp only [addOption, named, Bool.false_eq_true, if_false]
    by_cases taken : (r.targetName, optionName (Text.trimRight name)) ∈ r.options
    · simp [taken]
    · simp only [List.contains_iff_mem, taken, if_false, Except.ok.injEq]
      constructor
      · rintro ⟨rfl, sound⟩
        rw [update_malformed] at sound
        exact ⟨sound, empty, not_false, rfl⟩
      · rintro ⟨sound, -, -, rfl⟩
        refine ⟨rfl, ?_⟩
        rw [update_malformed]
        exact sound

/-- How far a line is indented. -/
def depth (ps : List CodePoint) : Nat := (ps.takeWhile Text.isBlankPoint).length

/-- A line that begins something: it is no comment, and not as deep as a line that continues a value. -/
structure Begins (r : Reading) (ps : List CodePoint) : Prop where
  nonempty : Text.trimPoints ps ≠ []
  noComment : ¬ Comments (Text.trimPoints ps)
  outer : r.isOpen = true → depth ps ≤ r.indent

/-- All that a line can do that has no fault. -/
inductive Does (r : Reading) (ps : List CodePoint) : Reading → Prop
  | blank (empty : Text.trimPoints ps = []) : Does r ps (r.extend "")
  | comment (comment : Comments (Text.trimPoints ps)) : Does r ps r
  | continued (nonempty : Text.trimPoints ps ≠ []) (noComment : ¬ Comments (Text.trimPoints ps))
      (isOpen : r.isOpen = true) (deeper : r.indent < depth ps) :
      Does r ps (r.extend ⟨Text.trimPoints ps⟩)
  | defaults (begins : r.Begins ps) (header : header? (Text.trimPoints ps) = some defaultsName) :
      Does r ps { r with indent := depth ps, target := .defaults, option := none }
  | entered {name : Text} (begins : r.Begins ps) (header : header? (Text.trimPoints ps) = some name)
      (notDefaults : name ≠ defaultsName) (fresh : name ∉ r.headers) :
      Does r ps { r with
        indent := depth ps
        sections := if Entries.has r.sections name then r.sections else r.sections ++ [(name, [])]
        target := .inSection name, option := none, headers := name :: r.headers }
  | option {name value : List CodePoint} (begins : r.Begins ps)
      (noHeader : header? (Text.trimPoints ps) = none) (somewhere : r.target ≠ .nowhere)
      (cut : Text.cutAt? (fun p => p == .char '=' || p == .char ':') (Text.trimPoints ps) =
        some (name, value))
      (nonempty : Text.trimRightPoints name ≠ [])
      (fresh : (r.targetName, optionName ⟨Text.trimRightPoints name⟩) ∉ r.options) :
      Does r ps (({ r with
        indent := depth ps
        option := some (optionName ⟨Text.trimRightPoints name⟩)
        options := (r.targetName, optionName ⟨Text.trimRightPoints name⟩) :: r.options } :
          Reading).update (Entries.set (optionName ⟨Text.trimRightPoints name⟩) [Text.trim ⟨value⟩]))

theorem line_blank (empty : Text.trimPoints ps = []) : r.line source number ps = .ok (r.extend "") := by
  simp only [line, empty]

theorem line_comment (comment : Comments (Text.trimPoints ps)) : r.line source number ps = .ok r := by
  rcases comment with head | head <;>
  · obtain ⟨rest, content⟩ := List.head?_eq_some_iff.mp head
    simp [line, content]

theorem line_deeper (nonempty : Text.trimPoints ps ≠ []) (noComment : ¬ Comments (Text.trimPoints ps))
    (isOpen : r.isOpen = true) (deeper : r.indent < depth ps) :
    r.line source number ps = .ok (r.extend ⟨Text.trimPoints ps⟩) := by
  obtain ⟨p, rest, content⟩ := List.exists_cons_of_ne_nil nonempty
  have other := not_comments_cons_iff.mp (content ▸ noComment)
  have continues : (r.isOpen && decide (r.indent < depth ps)) = true := by simp [isOpen, deeper]
  simp only [line, content, if_neg other]
  exact if_pos continues

/-- What begins something is a header or an option, or else it is a fault. -/
theorem line_begins (begins : r.Begins ps) : r.line source number ps =
    match header? (Text.trimPoints ps) with
    | some name => ({ r with indent := depth ps } : Reading).enter source number name
    | none =>
      if r.target = .nowhere then .error (.missingHeader source number ⟨ps⟩)
      else
        match Text.cutAt? (fun p => p == .char '=' || p == .char ':') (Text.trimPoints ps) with
        | some (name, value) => ({ r with indent := depth ps } : Reading).addOption source number ⟨ps⟩
            (Text.trimRight ⟨name⟩) ⟨value⟩
        | none => .ok { r with indent := depth ps, malformed := r.malformed ++ [(number, ⟨ps⟩)] } := by
  obtain ⟨p, rest, content⟩ := List.exists_cons_of_ne_nil begins.nonempty
  have other := not_comments_cons_iff.mp (content ▸ begins.noComment)
  have stops : ¬ (r.isOpen && decide (r.indent < depth ps)) = true := by
    rw [Bool.and_eq_true, decide_eq_true_eq]
    rintro ⟨isOpen, deeper⟩
    exact Nat.not_lt_of_le (begins.outer isOpen) deeper
  simp only [line, content, if_neg other]
  refine (if_neg stops).trans ?_
  simp only [beq_iff_eq]
  rfl

/-- A line has no fault just if it does one of these things, whatever its number. -/
theorem line_sound_iff : r.line source number ps = .ok r' ∧ r'.malformed = [] ↔
    r.malformed = [] ∧ r.Does ps r' := by
  have twice (name : List CodePoint) : Text.trimRight (Text.trimRight ⟨name⟩) =
      ⟨Text.trimRightPoints name⟩ :=
    congrArg Text.mk (Text.trimRightPoints_eq_self fun p last => Text.getLast?_dropEnd last)
  constructor
  · rintro ⟨ok, sound⟩
    by_cases empty : Text.trimPoints ps = []
    · rw [line_blank empty] at ok
      cases ok
      rw [extend_malformed] at sound
      exact ⟨sound, .blank empty⟩
    by_cases comment : Comments (Text.trimPoints ps)
    · rw [line_comment comment] at ok
      cases ok
      exact ⟨sound, .comment comment⟩
    by_cases continues : r.isOpen = true ∧ r.indent < depth ps
    · rw [line_deeper empty comment continues.1 continues.2] at ok
      cases ok
      rw [extend_malformed] at sound
      exact ⟨sound, .continued empty comment continues.1 continues.2⟩
    have begins : r.Begins ps :=
      ⟨empty, comment, fun isOpen => Nat.le_of_not_lt fun deeper => continues ⟨isOpen, deeper⟩⟩
    rw [line_begins begins] at ok
    split at ok
    · next name header =>
      rcases enter_eq_ok_iff.mp ok with ⟨rfl, rfl⟩ | ⟨notDefaults, fresh, rfl⟩
      · exact ⟨sound, .defaults begins header⟩
      · exact ⟨sound, .entered begins header notDefaults fresh⟩
    · next noHeader =>
      split at ok
      · cases ok
      next somewhere =>
      split at ok
      · next name value cut =>
        obtain ⟨unharmed, named, fresh, rfl⟩ := addOption_sound_iff.mp ⟨ok, sound⟩
        rw [twice] at fresh ⊢
        exact ⟨unharmed, .option begins noHeader somewhere cut named fresh⟩
      · cases ok
        simp at sound
  · rintro ⟨sound, does⟩
    cases does with
    | blank empty => exact ⟨line_blank empty, (extend_malformed _).trans sound⟩
    | comment comment => exact ⟨line_comment comment, sound⟩
    | continued nonempty noComment isOpen deeper =>
      exact ⟨line_deeper nonempty noComment isOpen deeper, (extend_malformed _).trans sound⟩
    | defaults begins header =>
      rw [line_begins begins, header]
      exact ⟨enter_eq_ok_iff.mpr (Or.inl ⟨rfl, rfl⟩), sound⟩
    | entered begins header notDefaults fresh =>
      rw [line_begins begins, header]
      exact ⟨enter_eq_ok_iff.mpr (Or.inr ⟨notDefaults, fresh, rfl⟩), sound⟩
    | option begins noHeader somewhere cut nonempty fresh =>
      rw [line_begins begins, noHeader]
      simp only [if_neg somewhere, cut]
      refine addOption_sound_iff.mpr ⟨sound, nonempty, ?_, ?_⟩
      · rw [twice]
        exact fresh
      · rw [twice]
        rfl

/-- A run of lines without faults. -/
inductive Reads : Reading → List (List CodePoint) → Reading → Prop
  | nil (r : Reading) : Reads r [] r
  | cons {r next last : Reading} {ps : List CodePoint} {rest : List (List CodePoint)}
      (first : r.Does ps next) (later : Reads next rest last) : Reads r (ps :: rest) last

/-- What is malformed stays so to the end: where nothing is in the end, no line had a fault. -/
theorem lines_sound_iff {lines : List (List CodePoint)} :
    r.lines source number lines = .ok r' ∧ r'.malformed = [] ↔
      r.malformed = [] ∧ r.Reads lines r' := by
  induction lines generalizing r number with
  | nil =>
    constructor
    · rintro ⟨ok, sound⟩
      cases ok
      exact ⟨sound, .nil _⟩
    · rintro ⟨sound, reads⟩
      cases reads
      exact ⟨rfl, sound⟩
  | cons ps rest ih =>
    constructor
    · rintro ⟨ok, sound⟩
      obtain ⟨next, step, ok⟩ := bind_eq_ok_iff.mp ok
      obtain ⟨unharmed, later⟩ := ih.mp ⟨ok, sound⟩
      obtain ⟨sound, first⟩ := line_sound_iff.mp ⟨step, unharmed⟩
      exact ⟨sound, .cons first later⟩
    · rintro ⟨sound, reads⟩
      cases reads with
      | cons first later =>
        obtain ⟨step, unharmed⟩ := line_sound_iff.mpr ⟨sound, first⟩
        obtain ⟨ok, sound⟩ := ih.mpr ⟨unharmed, later⟩
        exact ⟨bind_eq_ok_iff.mpr ⟨_, step, ok⟩, sound⟩

theorem reads_append {lines more : List (List CodePoint)} {r'' : Reading} :
    r.Reads (lines ++ more) r'' ↔ ∃ r', r.Reads lines r' ∧ r'.Reads more r'' := by
  induction lines generalizing r with
  | nil =>
    constructor
    · intro reads
      exact ⟨r, .nil r, reads⟩
    · rintro ⟨_, ⟨⟩, reads⟩
      exact reads
  | cons ps lines ih =>
    constructor
    · rintro (_ | ⟨first, later⟩)
      obtain ⟨r', front, back⟩ := ih.mp later
      exact ⟨r', .cons first front, back⟩
    · rintro ⟨r', _ | ⟨first, front⟩, back⟩
      exact .cons first (ih.mpr ⟨r', front, back⟩)

end Reading

/-- A text is read just if its lines are without faults, and as what they lead to. -/
theorem Store.read_eq_ok_iff {s s' : Store} {source : Path} {text : Text} :
    s.read source text = .ok s' ↔
      ∃ r, (Reading.start s).Reads (linesOf text.points) r ∧ r.finish = s' := by
  constructor
  · intro ok
    obtain ⟨r, lines, ok⟩ := bind_eq_ok_iff.mp ok
    split at ok
    · next sound =>
      cases ok
      obtain ⟨-, reads⟩ := Reading.lines_sound_iff.mp ⟨lines, List.isEmpty_iff.mp sound⟩
      exact ⟨r, reads, rfl⟩
    · cases ok
  · rintro ⟨r, reads, rfl⟩
    obtain ⟨lines, sound⟩ :
        (Reading.start s).lines source 1 (linesOf text.points) = .ok r ∧ r.malformed = [] :=
      Reading.lines_sound_iff.mpr ⟨rfl, reads⟩
    refine bind_eq_ok_iff.mpr ⟨r, lines, ?_⟩
    rw [sound]
    rfl

end Thermostat.Settings
