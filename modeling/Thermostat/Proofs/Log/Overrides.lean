import Thermostat.Log.Overrides
import Thermostat.Proofs.Entries
import Thermostat.Proofs.Text.Split
import Thermostat.Proofs.Text.UpperCase

/-! Overrides for loggers as text. What the entries of a text say; texts one after the other, the later
ones overriding the earlier ones; and overrides that are read back from their own text. -/
namespace Thermostat.Log

/-- What stands between two entries. -/
def separators : List CodePoint := [.char ',', .char '\n']

/-- A part of a text between two separators. -/
def Unseparated (ps : List CodePoint) : Prop := ∀ s ∈ separators, s ∉ ps

/-- An entry that is no override: it has no equals sign, or nothing but white space before the first one
or behind it. -/
inductive Malformed : List CodePoint → Prop
  | noSign {e : List CodePoint} (none : .char '=' ∉ e) : Malformed e
  | noName {n l : List CodePoint} (first : .char '=' ∉ n) (blank : Text.isBlankText ⟨n⟩ = true) :
      Malformed (n ++ .char '=' :: l)
  | noLevel {n l : List CodePoint} (first : .char '=' ∉ n) (blank : Text.isBlankText ⟨l⟩ = true) :
      Malformed (n ++ .char '=' :: l)

/-- What an entry means: a level for a name, or nothing. -/
inductive Means : List CodePoint → Entries Text Text → Prop
  | override {n l : List CodePoint} (first : .char '=' ∉ n) (name : Text.isBlankText ⟨n⟩ = false)
      (level : Text.isBlankText ⟨l⟩ = false) :
      Means (n ++ .char '=' :: l) [(Text.trim ⟨n⟩, Text.upper (Text.trim ⟨l⟩))]
  | nothing {e : List CodePoint} (malformed : Malformed e) : Means e []

/-- What the entries of a text say, one after the other. -/
inductive Lists : List CodePoint → Entries Text Text → Prop
  | last {e : List CodePoint} {os : Entries Text Text} (part : Unseparated e) (means : Means e os) :
      Lists e os
  | next {e rest : List CodePoint} {s : CodePoint} {os more : Entries Text Text}
      (part : Unseparated e) (means : Means e os) (separates : s ∈ separators)
      (behind : Lists rest more) : Lists (e ++ s :: rest) (os ++ more)

/-- The name of a logger and a level as they come out of a text. -/
structure OverrideForm (name level : Text) : Prop where
  named : name.points ≠ []
  nameTrimmed : Text.Trimmed name.points
  nameClean : Unseparated name.points ∧ .char '=' ∉ name.points
  leveled : level.points ≠ []
  levelTrimmed : Text.Trimmed level.points
  levelClean : Unseparated level.points
  capital : Text.upper level = level

/-! ## Single entries -/

variable {e n l ps : List CodePoint} {os : Entries Text Text} {s : CodePoint}

theorem readOverride?_sign (first : .char '=' ∉ n) (l : List CodePoint) :
    readOverride? (n ++ .char '=' :: l) =
      if Text.isBlankText ⟨n⟩ || Text.isBlankText ⟨l⟩ then none
      else some (Text.trim ⟨n⟩, Text.upper (Text.trim ⟨l⟩)) := by
  have clean : ∀ p ∈ n, (p == .char '=') = false := by
    intro p mem
    rw [beq_eq_false_iff_ne]
    rintro rfl
    exact first mem
  have cut : Text.cutAt? (· == .char '=') (n ++ .char '=' :: l) = some (n, l) :=
    Text.cutAt?_append clean (beq_self_eq_true _)
  unfold readOverride?
  rw [cut]
  simp only [bind, Option.bind, Text.isEmpty_trim]

theorem readOverride?_of_malformed (malformed : Malformed e) : readOverride? e = none := by
  cases malformed with
  | noSign none =>
    have clean : ∀ p ∈ e, (p == .char '=') = false := by
      intro p mem
      rw [beq_eq_false_iff_ne]
      rintro rfl
      exact none mem
    unfold readOverride?
    rw [Text.cutAt?_of_clean clean]
    rfl
  | noName first blank => rw [readOverride?_sign first, blank, Bool.true_or, if_pos rfl]
  | noLevel first blank => rw [readOverride?_sign first, blank, Bool.or_true, if_pos rfl]

theorem Means.read (means : Means e os) : [e].filterMap readOverride? = os := by
  cases means with
  | override first name level =>
    simp [readOverride?_sign first, name, level]
  | nothing malformed => simp [readOverride?_of_malformed malformed]

theorem exists_means (e : List CodePoint) : ∃ os, Means e os := by
  by_cases sign : .char '=' ∈ e
  · obtain ⟨n, l, rfl, first⟩ := List.eq_append_cons_of_mem sign
    cases name : Text.isBlankText ⟨n⟩ with
    | true => exact ⟨[], .nothing (.noName first name)⟩
    | false =>
      cases level : Text.isBlankText ⟨l⟩ with
      | true => exact ⟨[], .nothing (.noLevel first level)⟩
      | false => exact ⟨_, .override first name level⟩
  · exact ⟨[], .nothing (.noSign sign)⟩

theorem unseparated_append {a b : List CodePoint} :
    Unseparated (a ++ b) ↔ Unseparated a ∧ Unseparated b := by
  simp only [Unseparated, List.mem_append, not_or, ← forall_and]

theorem unseparated_cons {p : CodePoint} :
    Unseparated (p :: ps) ↔ p ∉ separators ∧ Unseparated ps := by
  constructor
  · intro part
    refine ⟨fun mem => part p mem List.mem_cons_self, fun s mem there => ?_⟩
    exact part s mem (List.mem_cons_of_mem p there)
  · rintro ⟨first, part⟩ s mem there
    rcases List.mem_cons.mp there with rfl | there
    · exact first mem
    · exact part s mem there

theorem unseparated_of_subset {qs : List CodePoint} (part : Unseparated ps) (sub : ∀ q ∈ qs, q ∈ ps) :
    Unseparated qs := fun s mem there => part s mem (sub s there)

theorem unseparated_upper {t : Text} (part : Unseparated t.points) :
    Unseparated (Text.upper t).points := by
  intro s mem there
  rcases (Text.mem_upper there).2 with kept | capital
  · exact part s mem kept
  · -- A capital stands above the separators, which are signs of the lowest range.
    have low : ∀ s ∈ separators, s.number < 65 := by decide
    have high := capital.high
    have := low s mem
    omega

/-- What an entry means has the form of an override. -/
theorem Means.form (means : Means e os) (part : Unseparated e) : ∀ o ∈ os, OverrideForm o.1 o.2 := by
  intro o mem
  cases means with
  | nothing malformed => cases mem
  | @override n l first name level =>
    rw [List.mem_singleton.mp mem]
    obtain ⟨front, behind⟩ := unseparated_append.mp part
    have back := (unseparated_cons.mp behind).2
    have filled {qs : List CodePoint} (some : Text.isBlankText ⟨qs⟩ = false) :
        (Text.trim ⟨qs⟩).points ≠ [] := by
      rw [← Text.isEmpty_trim] at some
      exact List.isEmpty_eq_false_iff.mp some
    have trimmed (qs : List CodePoint) : Text.Trimmed (Text.trim ⟨qs⟩).points :=
      Text.trimmed_trimPoints qs
    have inside {qs : List CodePoint} : ∀ q ∈ (Text.trim ⟨qs⟩).points, q ∈ qs :=
      fun q there => Text.mem_of_mem_trimPoints there
    constructor
    · exact filled name
    · exact trimmed n
    · exact ⟨unseparated_of_subset front inside, fun there => first (inside _ there)⟩
    · exact Text.points_upper_ne_nil (filled level)
    · exact Text.trimmed_upper (trimmed l)
    · exact unseparated_upper (unseparated_of_subset back inside)
    · exact Text.upper_upper _

/-! ## Whole texts -/

def isSeparator (p : CodePoint) : Bool := p == .char ',' || p == .char '\n'

theorem isSeparator_iff {p : CodePoint} : isSeparator p = true ↔ p ∈ separators := by
  simp [isSeparator, separators]

theorem not_isSeparator (part : Unseparated e) : ∀ p ∈ e, isSeparator p = false := by
  intro p mem
  rw [← Bool.not_eq_true, isSeparator_iff]
  exact fun separates => part p separates mem

/-- A text means what its entries mean, the later ones overriding the earlier ones. -/
theorem Lists.read (lists : Lists ps os) : readOverrides ⟨ps⟩ = Entries.setAll [] os := by
  have entries : (Text.splitAt isSeparator ps).filterMap readOverride? = os := by
    induction lists with
    | last part means => rw [Text.splitAt_of_clean (not_isSeparator part), means.read]
    | next part means separates behind ih =>
      rw [Text.splitAt_append (isSeparator_iff.mpr separates),
        Text.splitAt_of_clean (not_isSeparator part), List.filterMap_append, ih, means.read]
  rw [← entries]
  rfl

theorem unseparated_nil : Unseparated [] := fun _ _ => List.not_mem_nil

theorem exists_lists (ps : List CodePoint) : ∃ os, Lists ps os := by
  induction ps with
  | nil => exact ⟨[], .last unseparated_nil (.nothing (.noSign List.not_mem_nil))⟩
  | cons p ps ih =>
    obtain ⟨os, lists⟩ := ih
    by_cases separates : p ∈ separators
    · exact ⟨[] ++ os, .next (e := []) unseparated_nil (.nothing (.noSign List.not_mem_nil)) separates
        lists⟩
    · -- The code point belongs to the first entry, which may say something else with it.
      cases lists with
      | last part means =>
        obtain ⟨own, means⟩ := exists_means (p :: ps)
        exact ⟨own, .last (unseparated_cons.mpr ⟨separates, part⟩) means⟩
      | @next e rest s first more part means between behind =>
        obtain ⟨own, means⟩ := exists_means (p :: e)
        exact ⟨own ++ more, .next (unseparated_cons.mpr ⟨separates, part⟩) means between behind⟩

theorem Lists.form (lists : Lists ps os) : ∀ o ∈ os, OverrideForm o.1 o.2 := by
  induction lists with
  | last part means => exact means.form part
  | next part means separates behind ih =>
    intro o mem
    rcases List.mem_append.mp mem with here | there
    · exact means.form part o here
    · exact ih o there

theorem Lists.append {qs : List CodePoint} {more : Entries Text Text} (lists : Lists ps os)
    (separates : s ∈ separators) (behind : Lists qs more) : Lists (ps ++ s :: qs) (os ++ more) := by
  induction lists with
  | last part means => exact .next part means separates behind
  | next part means between rest ih =>
    rw [List.append_assoc, List.append_assoc]
    exact .next part means between ih

theorem readOverrides_form (t : Text) : ∀ o ∈ readOverrides t, OverrideForm o.1 o.2 := by
  obtain ⟨os, lists⟩ := exists_lists t.points
  intro o mem
  rw [lists.read] at mem
  exact lists.form o (Entries.mem_of_mem_setAll mem)

/-- Overrides that were read are distinct, so setting them one after the other changes nothing. -/
theorem setAll_readOverrides (t : Text) :
    Entries.setAll [] (readOverrides t) = readOverrides t := Entries.setAll_setAll [] _

theorem readOverrides_append (separates : s ∈ separators) (a b : Text) :
    readOverrides (a ++ ⟨[s]⟩ ++ b) = Entries.setAll (readOverrides a) (readOverrides b) := by
  obtain ⟨os, first⟩ := exists_lists a.points
  obtain ⟨more, second⟩ := exists_lists b.points
  have whole : (a ++ ⟨[s]⟩ ++ b : Text) = ⟨a.points ++ s :: b.points⟩ := by
    apply congrArg Text.mk
    exact List.append_assoc a.points [s] b.points
  calc readOverrides (a ++ ⟨[s]⟩ ++ b)
      = Entries.setAll [] (os ++ more) := by rw [whole, (first.append separates second).read]
    _ = Entries.setAll (Entries.setAll [] os) more := Entries.setAll_append [] os more
    _ = Entries.setAll (readOverrides a) (readOverrides b) := by
      rw [first.read, second.read, Entries.setAll_setAll]

theorem readOverrides_of_malformed (part : Unseparated e) (malformed : Malformed e) :
    readOverrides ⟨e⟩ = [] := (Lists.last part (.nothing malformed)).read

/-- Overrides compose. The overrides of two texts with a separator between them are those of the first
one updated with those of the second one. What is no override adds nothing and disturbs nothing before
or behind it. The overrides of a text are those that its entries mean, each name in the place where it
came first and with the level that it had last; all of them have the form of an override. -/
theorem readOverrides_composes (a b : Text) :
    (∀ s ∈ separators,
      readOverrides (a ++ ⟨[s]⟩ ++ b) = Entries.setAll (readOverrides a) (readOverrides b)) ∧
    (∀ e, Unseparated e → Malformed e → ∀ s ∈ separators,
      readOverrides (a ++ ⟨[s]⟩ ++ ⟨e⟩) = readOverrides a ∧
        readOverrides (⟨e⟩ ++ ⟨[s]⟩ ++ b) = readOverrides b ∧
        ∀ s' ∈ separators, readOverrides (a ++ ⟨[s]⟩ ++ ⟨e⟩ ++ ⟨[s']⟩ ++ b) =
          readOverrides (a ++ ⟨[s]⟩ ++ b)) ∧
    (∃ os, Lists a.points os) ∧
    (∀ os, Lists a.points os →
      (readOverrides a).map (·.1) = (os.map (·.1)).eraseDups ∧
        ∀ name, Entries.get? (readOverrides a) name = Entries.get? os.reverse name) ∧
    ∀ o ∈ readOverrides a, OverrideForm o.1 o.2 := by
  refine ⟨fun s separates => readOverrides_append separates a b, ?_, exists_lists a.points, ?_,
    readOverrides_form a⟩
  · intro e part malformed s separates
    have nothing : readOverrides ⟨e⟩ = [] := readOverrides_of_malformed part malformed
    have behind : readOverrides (a ++ ⟨[s]⟩ ++ ⟨e⟩) = readOverrides a := by
      rw [readOverrides_append separates, nothing]
      rfl
    have before : readOverrides (⟨e⟩ ++ ⟨[s]⟩ ++ b) = readOverrides b := by
      rw [readOverrides_append separates, nothing]
      exact setAll_readOverrides b
    refine ⟨behind, before, fun s' separates' => ?_⟩
    rw [readOverrides_append separates', behind, readOverrides_append separates]
  · intro os lists
    rw [lists.read]
    exact ⟨Entries.names_setAll os, Entries.get?_setAll os⟩

/-- A name that comes again keeps its place and takes the later level; an entry without a name between
the two texts does not count. -/
theorem readOverrides_composes_again :
    readOverrides ("app=info,db = warn" ++ Text.mk [.char ','] ++ "app=x=y") =
        ([("app", "X=Y"), ("db", "WARN")] : Entries Text Text) ∧
      readOverrides ("app=info,db = warn" ++ Text.mk [.char '\n'] ++ "=off" ++ Text.mk [.char ','] ++
          "app=x=y") =
        readOverrides ("app=info,db = warn" ++ Text.mk [.char '\n'] ++ "app=x=y") ∧
      Lists (Text.ofString "app=x=y").points [("app", "X=Y")] ∧
      (readOverrides "app=x=y").map (·.1) = ["app"] := by
  have clean (t : Text) (check : ∀ p ∈ t.points, p ∉ separators) : Unseparated t.points :=
    fun s separates mem => check s mem separates
  have nameless : Malformed (Text.ofString "=off").points :=
    .noName (n := []) List.not_mem_nil rfl
  have means : Means (Text.ofString "app=x=y").points [("app", "X=Y")] :=
    .override (n := (Text.ofString "app").points) (l := (Text.ofString "x=y").points) (by decide)
      (by decide) (by decide)
  have lists := Lists.last (clean "app=x=y" (by decide)) means
  obtain ⟨compose, undisturbed, -, -, -⟩ := readOverrides_composes "app=info,db = warn" "app=x=y"
  obtain ⟨-, -, -, listed, -⟩ := readOverrides_composes "app=x=y" ""
  have between := (undisturbed _ (clean "=off" (by decide)) nameless (.char '\n') (by decide)).2.2
  refine ⟨?_, between (.char ',') (by decide), lists, (listed _ lists).1.trans (by decide)⟩
  rw [compose (.char ',') (by decide)]
  decide +kernel

/-! ## Written overrides -/

/-- The text of overrides: a name and a level each, with an equals sign between them. -/
def written (separator : CodePoint) (os : Entries Text Text) : Text :=
  Text.intercalate ⟨[separator]⟩ (os.map fun o => o.1 ++ "=" ++ o.2)

theorem OverrideForm.means {name level : Text} (form : OverrideForm name level) :
    Means (name ++ "=" ++ level : Text).points [(name, level)] := by
  have seen {t : Text} (filled : t.points ≠ []) (trimmed : Text.Trimmed t.points) :
      Text.isBlankText t = false ∧ Text.trim t = t := by
    have same : Text.trim t = t := congrArg Text.mk trimmed.trimPoints_eq
    refine ⟨?_, same⟩
    rw [← Text.isEmpty_trim, same]
    exact List.isEmpty_eq_false_iff.mpr filled
  obtain ⟨name_seen, name_trim⟩ := seen form.named form.nameTrimmed
  obtain ⟨level_seen, level_trim⟩ := seen form.leveled form.levelTrimmed
  have points : (name ++ "=" ++ level : Text).points = name.points ++ .char '=' :: level.points :=
    List.append_assoc name.points [.char '='] level.points
  have means := Means.override form.nameClean.2 name_seen level_seen
  rw [name_trim, level_trim, form.capital] at means
  rwa [points]

theorem OverrideForm.unseparated {name level : Text} (form : OverrideForm name level) :
    Unseparated (name ++ "=" ++ level : Text).points := by
  have sign : Unseparated (Text.ofString "=").points := fun s separates mem => by
    have equals : s = .char '=' := List.mem_singleton.mp mem
    subst equals
    exact absurd separates (by decide)
  apply unseparated_append.mpr
  exact ⟨unseparated_append.mpr ⟨form.nameClean.1, sign⟩, form.levelClean⟩

/-- The text of overrides lists them. -/
theorem lists_written (separates : s ∈ separators) (form : ∀ o ∈ os, OverrideForm o.1 o.2) :
    Lists (written s os).points os := by
  induction os with
  | nil => exact .last unseparated_nil (.nothing (.noSign List.not_mem_nil))
  | cons o os ih =>
    obtain ⟨first, form⟩ := List.forall_mem_cons.mp form
    cases os with
    | nil =>
      have single : (written s [o]).points = (o.1 ++ "=" ++ o.2 : Text).points := by
        simp [written, Text.intercalate]
      rw [single]
      exact .last first.unseparated first.means
    | cons o' os =>
      have joined : (written s (o :: o' :: os)).points =
          (o.1 ++ "=" ++ o.2 : Text).points ++ s :: (written s (o' :: os)).points := by
        refine List.intercalate_cons_cons.trans ?_
        rw [List.append_assoc]
        rfl
      rw [joined]
      exact .next first.unseparated first.means separates (ih form)

/-- Overrides are read from their text as they are, whatever text they were read from before. -/
theorem readOverrides_written (t : Text) :
    readOverrides (written (.char ',') (readOverrides t)) = readOverrides t ∧
      readOverrides (written (.char '\n') (readOverrides t)) = readOverrides t := by
  have read {s : CodePoint} (separates : s ∈ separators) :
      readOverrides (written s (readOverrides t)) = readOverrides t := by
    rw [(lists_written separates (readOverrides_form t)).read]
    exact setAll_readOverrides t
  exact ⟨read (by decide), read (by decide)⟩

end Thermostat.Log
