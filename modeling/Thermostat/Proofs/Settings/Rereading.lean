import Thermostat.Proofs.Settings.Adjust

/-! Reading what was written: lines that were written one after the other are read one after the other,
and each of them does what it was written for. -/
namespace Thermostat.Settings

namespace Reading

variable {r r' r'' : Reading} {source : Path} {number : Nat} {ps : List CodePoint}

/-! ## Lines one after the other -/

/-- Whatever follows them, points lead from one state between two lines to another one. -/
def Passes (source : Path) (r : Reading) (ps : List CodePoint) (r' : Reading) : Prop :=
  ∀ number rest, ∃ number', r.lines source number (linesOf (ps ++ rest)) =
    r'.lines source number' (linesOf rest)

theorem Passes.nil (source : Path) (r : Reading) : Passes source r [] r :=
  fun number _ => ⟨number, rfl⟩

theorem Passes.append {qs : List CodePoint} (first : Passes source r ps r')
    (second : Passes source r' qs r'') : Passes source r (ps ++ qs) r'' := by
  intro number rest
  obtain ⟨next, front⟩ := first number (qs ++ rest)
  obtain ⟨last, back⟩ := second next rest
  exact ⟨last, by rw [List.append_assoc, front, back]⟩

theorem passes_line {body : List CodePoint} (inline : ∀ p ∈ body, Inline p)
    (step : ∀ number, r.line source number (body ++ [.char '\n']) = .ok r') :
    Passes source r (body ++ [.char '\n']) r' := by
  intro number rest
  refine ⟨number + 1, ?_⟩
  rw [List.append_assoc, List.singleton_append, linesOf_line inline, lines, step]
  rfl

theorem Passes.lines_eq (passes : Passes source r ps r') (number : Nat) :
    r.lines source number (linesOf ps) = .ok r' := by
  obtain ⟨last, all⟩ := passes number []
  rw [List.append_nil] at all
  exact all

/-! ## Single lines -/

variable {p : CodePoint} {content : List CodePoint}

/-- A line without white space at its front is not indented, so it continues nothing. -/
theorem begins_of_head? (trim : Text.trimPoints ps = content) (noComment : ¬ Comments content)
    (nonempty : content ≠ []) (head : ps.head? = some p) (notBlank : Text.isBlankPoint p = false) :
    r.Begins ps ∧ depth ps = 0 := by
  have deep : depth ps = 0 := by
    obtain ⟨behind, rfl⟩ := List.head?_eq_some_iff.mp head
    rw [depth, List.takeWhile_cons_of_neg (by simp [notBlank]), List.length_nil]
  refine ⟨⟨trim ▸ nonempty, trim ▸ noComment, fun _ => ?_⟩, deep⟩
  rw [deep]
  exact Nat.zero_le _

theorem line_header {name : Text} (trim : Text.trimPoints ps = content)
    (noComment : ¬ Comments content) (nonempty : content ≠ []) (head : ps.head? = some p)
    (notBlank : Text.isBlankPoint p = false) (header : header? content = some name) :
    r.line source number ps = ({ r with indent := 0 } : Reading).enter source number name := by
  obtain ⟨begins, deep⟩ := begins_of_head? (r := r) trim noComment nonempty head notBlank
  rw [line_begins begins, trim, header, deep]

theorem line_option {name value : List CodePoint} (trim : Text.trimPoints ps = content)
    (noComment : ¬ Comments content) (nonempty : content ≠ []) (head : ps.head? = some p)
    (notBlank : Text.isBlankPoint p = false) (noHeader : header? content = none)
    (somewhere : r.target ≠ .nowhere)
    (cut : Text.cutAt? (fun p => p == .char '=' || p == .char ':') content = some (name, value)) :
    r.line source number ps = ({ r with indent := 0 } : Reading).addOption source number ⟨ps⟩
      (Text.trimRight ⟨name⟩) ⟨value⟩ := by
  obtain ⟨begins, deep⟩ := begins_of_head? (r := r) trim noComment nonempty head notBlank
  rw [line_begins begins, trim, noHeader, deep]
  simp only [if_neg somewhere, cut]

/-- A line that begins with a tab continues the value that is open. -/
theorem line_continued {l : List CodePoint} (trimmed : Text.Trimmed l) (noComment : ¬ Comments l)
    (isOpen : r.isOpen = true) (indent : r.indent = 0) :
    r.line source number ((.char '\t' :: l) ++ [.char '\n']) = .ok (r.extend ⟨l⟩) := by
  have content : Text.trimPoints ((.char '\t' :: l) ++ [.char '\n']) = l := by
    rw [Text.trimPoints_append (by decide), ← List.singleton_append,
      Text.append_trimPoints (by decide), trimmed.trimPoints_eq]
  cases l with
  | nil => exact line_blank content
  | cons p rest =>
    have deeper : r.indent < depth ((.char '\t' :: p :: rest) ++ [.char '\n']) := by
      rw [indent, depth, List.cons_append, List.takeWhile_cons_of_pos (by decide), List.length_cons]
      exact Nat.succ_pos _
    have nonempty : Text.trimPoints ((.char '\t' :: p :: rest) ++ [.char '\n']) ≠ [] := by
      rw [content]
      exact List.cons_ne_nil p rest
    rw [line_deeper nonempty (by rwa [content]) isOpen deeper, content]

/-! ## Options -/

/-- The state after an option was read with all its lines. -/
def hold (r : Reading) (option : Text) (ls : List Text) : Reading :=
  ({ r with option := some option, options := (r.targetName, option) :: r.options, indent := 0 } :
    Reading).update (Entries.set option ls)

theorem update_update (f g : Pending → Pending) :
    (r.update f).update g = r.update fun os => g (f os) := by
  cases target : r.target with
  | nowhere => simp [update, target]
  | defaults => simp [update, target]
  | inSection name => simp [update, target, Entries.get?_set_self, Entries.set_set]

theorem extend_hold {option line : Text} {ls : List Text} (somewhere : r.target ≠ .nowhere)
    (nonempty : option.points ≠ []) :
    (r.hold option ls).extend line = r.hold option (line :: ls) := by
  have held : (r.hold option ls).option = some option := update_option _
  have isOpen : (r.hold option ls).isOpen = true := by
    refine isOpen_iff.mpr ⟨?_, option, held, nonempty⟩
    rwa [hold, update_target]
  rw [extend_eq held isOpen, hold, current_update (by exact somewhere), Entries.get?_set_self,
    Option.getD_some, update_update, hold]
  simp only [Entries.set_set]

variable {option : Text} {first : List CodePoint} {lines : List (List CodePoint)}

/-- The first line of an option without the white space around it, which can take in the place of the
value. -/
theorem exists_content (named : OptionForm option) (form : LinesForm option first lines) :
    ∃ w, Text.trimPoints
          ((option.points ++ [.char ' ', .char '=', .char ' '] ++ first) ++ [.char '\n']) =
        option.points ++ .char ' ' :: .char '=' :: w ∧
      Text.trimPoints w = first ∧ ∀ p ∈ w, p = .char ' ' ∨ p ∈ first := by
  have trimmed := form.trimmed first List.mem_cons_self
  have front (w : List CodePoint) :
      (option.points ++ w).dropWhile Text.isBlankPoint = option.points ++ w := by
    refine Text.dropWhile_eq_self fun p head => named.trimmed.front p ?_
    rwa [List.head?_append_of_ne_nil _ named.nonempty] at head
  rw [Text.trimPoints_append (by decide), Text.trimPoints, List.append_assoc, front]
  -- Behind the sign of an empty value nothing but white space is left, and the blank goes with it.
  by_cases empty : first = []
  · refine ⟨[], ?_, by rw [empty]; rfl, fun p mem => absurd mem List.not_mem_nil⟩
    have blank : option.points ++ ([.char ' ', .char '=', .char ' '] ++ first) =
        (option.points ++ [.char ' ', .char '=']) ++ [.char ' '] := by
      rw [empty, List.append_nil, List.append_assoc]
      rfl
    rw [blank, Text.trimRightPoints, Text.dropEnd_append (by decide)]
    exact Text.dropEnd_eq_self (by simp; decide)
  · refine ⟨.char ' ' :: first, ?_, ?_, fun p mem => List.mem_cons.mp mem⟩
    · refine Text.trimRightPoints_eq_self fun p last => trimmed.back p ?_
      rwa [← List.append_assoc, List.getLast?_append_of_ne_nil _ empty] at last
    · rw [← List.singleton_append, Text.append_trimPoints (by decide), trimmed.trimPoints_eq]

theorem noHeader_content {w : List CodePoint} (form : LinesForm option first lines)
    (nonempty : option.points ≠ []) (inside : ∀ p ∈ w, p = .char ' ' ∨ p ∈ first) :
    header? (option.points ++ .char ' ' :: .char '=' :: w) = none := by
  refine header?_eq_none_iff.mpr fun opens mem => ?_
  rw [List.head?_append_of_ne_nil _ nonempty] at opens
  obtain ⟨before, behind⟩ := form.noHeader opens
  rw [List.drop_append] at mem
  rcases List.mem_append.mp mem with name | value
  · exact before name
  · have there := List.mem_of_mem_drop value
    simp only [List.mem_cons, CodePoint.char.injEq, Char.reduceEq, false_or] at there
    rcases inside _ there with blank | first
    · simp at blank
    · exact behind first

theorem passes_first (named : OptionForm option) (form : LinesForm option first lines)
    (somewhere : r.target ≠ .nowhere) (fresh : (r.targetName, option) ∉ r.options) :
    Passes source r ((option.points ++ [.char ' ', .char '=', .char ' '] ++ first) ++ [.char '\n'])
      (r.hold option [⟨first⟩]) := by
  have signs : ∀ p ∈ [CodePoint.char ' ', .char '=', .char ' '], Inline p := by decide
  refine passes_line (fun p mem => ?_) fun number => ?_
  · rcases List.mem_append.mp mem with front | value
    · rcases List.mem_append.mp front with name | sign
      · exact named.inline p name
      · exact signs p sign
    · exact form.inline first List.mem_cons_self p value
  · obtain ⟨w, content, value, inside⟩ := exists_content named form
    obtain ⟨p, rest, whole⟩ := List.exists_cons_of_ne_nil named.nonempty
    have front : option.points.head? = some p := by rw [whole]; rfl
    have noComment : ¬ Comments (option.points ++ .char ' ' :: .char '=' :: w) := by
      rw [Comments, List.head?_append_of_ne_nil _ named.nonempty]
      exact named.noComment
    have cut : Text.cutAt? (fun p => p == .char '=' || p == .char ':')
        (option.points ++ .char ' ' :: .char '=' :: w) = some (option.points ++ [.char ' '], w) := by
      rw [← List.singleton_append, ← List.append_assoc]
      refine Text.cutAt?_append (fun p mem => ?_) (by decide)
      rcases List.mem_append.mp mem with name | blank
      · simpa using named.noDelimiter p name
      · rw [List.mem_singleton.mp blank]
        decide
    rw [line_option content noComment (by simp) (by rw [whole]; rfl)
      (named.trimmed.front p front) (noHeader_content form named.nonempty inside) somewhere cut]
    have again : Text.trimRight option = option :=
      congrArg Text.mk (Text.dropEnd_eq_self named.trimmed.back)
    have trimmed : Text.trimRight ⟨option.points ++ [.char ' ']⟩ = option := by
      rw [Text.trimRight, Text.trimRightPoints, Text.dropEnd_append (by decide)]
      exact again
    have nonempty : option.isEmpty = false := by simpa [Text.isEmpty] using named.nonempty
    simp only [addOption, trimmed, again, named.lower, nonempty, Bool.false_eq_true, if_false]
    rw [if_neg (by simpa [targetName] using fresh)]
    simp only [Text.trim, value]
    rfl

theorem passes_continued (form : LinesForm option first lines) (ls : List Text)
    (somewhere : r.target ≠ .nowhere) (nonempty : option.points ≠ []) :
    Passes source (r.hold option ls) (lines.flatMap fun l => (.char '\t' :: l) ++ [.char '\n'])
      (r.hold option (lines.reverse.map Text.mk ++ ls)) := by
  induction lines generalizing ls with
  | nil => exact .nil source _
  | cons l lines ih =>
    have inline := form.inline l (List.mem_cons_of_mem _ List.mem_cons_self)
    have isOpen : (r.hold option ls).isOpen = true := by
      refine isOpen_iff.mpr ⟨?_, option, update_option _, nonempty⟩
      rwa [hold, update_target]
    have step : Passes source (r.hold option ls) ((.char '\t' :: l) ++ [.char '\n'])
        (r.hold option (⟨l⟩ :: ls)) := by
      refine passes_line (List.forall_mem_cons.mpr ⟨by decide, inline⟩) fun number => ?_
      rw [line_continued (form.trimmed l (List.mem_cons_of_mem _ List.mem_cons_self))
        (form.noComment l List.mem_cons_self) isOpen (update_indent _), extend_hold somewhere nonempty]
    have later := ih (form.of_subset (List.subset_cons_self l lines)) (⟨l⟩ :: ls)
    rw [List.flatMap_cons, List.reverse_cons, List.map_append,
      List.append_assoc (lines.reverse.map Text.mk)]
    exact step.append later

theorem writeValue_append (a b : List CodePoint) : (Store.writeValue ⟨a ++ b⟩).points =
    (Store.writeValue ⟨a⟩).points ++ (Store.writeValue ⟨b⟩).points := List.flatMap_append

theorem writeValue_line {l : List CodePoint} (inline : ∀ p ∈ l, Inline p) :
    (Store.writeValue ⟨l⟩).points = l := by
  have each : ∀ p ∈ l, (if p == .char '\n' then [p, .char '\t'] else [p]) = [p] := fun p mem => by
    simpa using (inline p mem).notFeed
  rw [Store.writeValue, List.flatMap_congr each, List.flatMap_singleton']

theorem writeValue_continued (inline : ∀ l ∈ lines, ∀ p ∈ l, Inline p) :
    (Store.writeValue ⟨continued lines⟩).points ++ [.char '\n'] =
      .char '\n' :: lines.flatMap fun l => (.char '\t' :: l) ++ [.char '\n'] := by
  induction lines with
  | nil => rfl
  | cons l lines ih =>
    obtain ⟨first, inline⟩ := List.forall_mem_cons.mp inline
    have split : continued (l :: lines) = [.char '\n'] ++ (l ++ continued lines) := rfl
    have feed : (Store.writeValue ⟨[.char '\n']⟩).points = [.char '\n', .char '\t'] := rfl
    rw [split, writeValue_append, writeValue_append, writeValue_line first, feed, List.append_assoc,
      List.append_assoc, ih inline, List.flatMap_cons]
    simp

theorem points_writeOption {v : Text} (form : LinesForm option first lines)
    (value : v.points = first ++ continued lines) :
    (option ++ " = " ++ Store.writeValue v ++ "\n" : Text).points =
      ((option.points ++ [.char ' ', .char '=', .char ' '] ++ first) ++ [.char '\n']) ++
        lines.flatMap fun l => (.char '\t' :: l) ++ [.char '\n'] := by
  obtain ⟨front, inline⟩ := List.forall_mem_cons.mp form.inline
  have written : (Store.writeValue v).points ++ [.char '\n'] =
      first ++ .char '\n' :: lines.flatMap fun l => (.char '\t' :: l) ++ [.char '\n'] := by
    rw [show v = ⟨first ++ continued lines⟩ from congrArg Text.mk value, writeValue_append,
      writeValue_line front, List.append_assoc, writeValue_continued inline]
  have sign : (Text.ofString " = ").points = [.char ' ', .char '=', .char ' '] := by decide
  change (option.points ++ (Text.ofString " = ").points ++ (Store.writeValue v).points) ++
    [.char '\n'] = _
  rw [sign, List.append_assoc (option.points ++ _), written]
  simp

theorem closed_lines {v : Text} (form : LinesForm option first lines)
    (back : lines.getLast? ≠ some []) (value : v.points = first ++ continued lines) :
    closed (lines.reverse.map Text.mk ++ [⟨first⟩]) = v := by
  have inOrder : (lines.reverse.map Text.mk ++ [Text.mk first]).reverse.map Text.points =
      first :: lines := by
    simp [Function.comp_def]
  have points := (closed_points inOrder).trans (trimRight_continued form.trimmed back)
  exact congrArg Text.mk (points.trans value.symm)

/-- An option that was written is read with its name and its value. -/
theorem passes_option {v : Text} (named : OptionForm option) (form : ValueForm option v)
    (somewhere : r.target ≠ .nowhere) (fresh : (r.targetName, option) ∉ r.options) :
    ∃ ls, closed ls = v ∧ Passes source r (option ++ " = " ++ Store.writeValue v ++ "\n" : Text).points
      (r.hold option ls) := by
  obtain ⟨first, lines, form, back, value⟩ := form
  refine ⟨_, closed_lines form back value, ?_⟩
  rw [points_writeOption form value]
  exact (passes_first named form somewhere fresh).append
    (passes_continued form _ somewhere named.nonempty)

end Reading

end Thermostat.Settings
