import Mathlib.Data.List.Induction
import Mathlib.Data.List.Nodup
import Thermostat.Entries

/-! What looking up and setting do to entries: which names are there, and what each stands for. -/
namespace Thermostat.Entries

variable {κ α : Type} [DecidableEq κ]

@[simp] theorem get?_nil (name : κ) : get? ([] : Entries κ α) name = none := rfl

theorem get?_cons (k name : κ) (v : α) (es : Entries κ α) :
    get? ((k, v) :: es) name = if k = name then some v else get? es name := by
  by_cases h : k = name <;> simp [get?, h]

theorem get?_append (es more : Entries κ α) (name : κ) :
    get? (es ++ more) name = (get? es name).or (get? more name) := by
  simp [get?, List.find?_append, Option.map_or]

theorem get?_eq_none_iff {es : Entries κ α} {name : κ} :
    get? es name = none ↔ name ∉ es.map (·.1) := by
  simp only [get?, Option.map_eq_none_iff, List.find?_eq_none, beq_iff_eq, List.mem_map, not_exists,
    not_and]

theorem get?_isSome_iff {es : Entries κ α} {name : κ} :
    (get? es name).isSome = true ↔ name ∈ es.map (·.1) := by
  rw [Option.isSome_iff_ne_none, ne_eq, get?_eq_none_iff, not_not]

theorem mem_of_get? {es : Entries κ α} {name : κ} {v : α} (h : get? es name = some v) :
    (name, v) ∈ es := by
  obtain ⟨⟨k, w⟩, found, rfl⟩ := Option.map_eq_some_iff.mp h
  have same : k = name := by simpa using List.find?_some found
  exact same ▸ List.mem_of_find?_eq_some found

theorem get?_of_mem {es : Entries κ α} {name : κ} {v : α} (nodup : (es.map (·.1)).Nodup)
    (mem : (name, v) ∈ es) : get? es name = some v := by
  induction es with
  | nil => cases mem
  | cons e es ih =>
    obtain ⟨k, w⟩ := e
    obtain ⟨fresh, nodup⟩ := List.nodup_cons.mp nodup
    rw [get?_cons]
    rcases List.mem_cons.mp mem with head | tail
    · obtain ⟨rfl, rfl⟩ := Prod.mk.inj head
      exact if_pos rfl
    · have ne : k ≠ name := fun same => fresh (List.mem_map.mpr ⟨_, tail, same.symm⟩)
      rw [if_neg ne]
      exact ih nodup tail

/-- Where no name comes twice, what a name stands for does not depend on the order. -/
theorem get?_perm {es others : Entries κ α} (perm : others.Perm es) (nodup : (es.map (·.1)).Nodup)
    (name : κ) : get? others name = get? es name := by
  cases found : get? es name with
  | none =>
    have absent := get?_eq_none_iff.mp found
    exact get?_eq_none_iff.mpr fun mem => absent ((perm.map _).mem_iff.mp mem)
  | some v =>
    have mem := perm.mem_iff.mpr (mem_of_get? found)
    exact get?_of_mem ((perm.map _).nodup_iff.mpr nodup) mem

theorem has_iff {es : Entries κ α} {name : κ} : has es name = true ↔ name ∈ es.map (·.1) := by
  simp [has]

theorem get?_filter {es : Entries κ α} {name : κ} (keep : κ → Bool) (kept : keep name = true) :
    get? (es.filter fun e => keep e.1) name = get? es name := by
  induction es with
  | nil => rfl
  | cons e es ih =>
    obtain ⟨k, w⟩ := e
    by_cases h : k = name
    · subst h
      simp [List.filter_cons_of_pos, kept, get?_cons]
    · by_cases hk : keep k
      · rw [List.filter_cons_of_pos (by simpa using hk), get?_cons, get?_cons, if_neg h, if_neg h, ih]
      · rw [List.filter_cons_of_neg (by simpa using hk), get?_cons, if_neg h, ih]

/-- Names may be replaced by others that differ where they differ. -/
theorem get?_map_of_injective {ι : Type} [DecidableEq ι] {f : κ → ι} (inj : Function.Injective f)
    (es : Entries κ α) (name : κ) :
    get? (es.map fun e => (f e.1, e.2)) (f name) = get? es name := by
  induction es with
  | nil => rfl
  | cons e es ih =>
    obtain ⟨k, w⟩ := e
    simp only [List.map_cons, get?_cons, inj.eq_iff, ih]

section Set

variable {es : Entries κ α} {name : κ} {v : α}

/-- A name that is there keeps its place, and a new one comes last. -/
theorem names_set (es : Entries κ α) (name : κ) (v : α) :
    (es.set name v).map (·.1) =
      if name ∈ es.map (·.1) then es.map (·.1) else es.map (·.1) ++ [name] := by
  induction es with
  | nil => rfl
  | cons e es ih =>
    obtain ⟨k, w⟩ := e
    by_cases h : k = name
    · simp [set, h]
    · have ne : name ≠ k := fun same => h same.symm
      simp only [set, beq_iff_eq, if_neg h, List.map_cons, ih, List.mem_cons, ne, false_or]
      split <;> rfl

theorem mem_names_set {other : κ} :
    other ∈ (es.set name v).map (·.1) ↔ other = name ∨ other ∈ es.map (·.1) := by
  rw [names_set]
  split
  · next mem =>
    constructor
    · exact Or.inr
    · rintro (rfl | old)
      · exact mem
      · exact old
  · rw [List.mem_append, List.mem_singleton, or_comm]

theorem nodup_set (nodup : (es.map (·.1)).Nodup) : ((es.set name v).map (·.1)).Nodup := by
  rw [names_set]
  split
  · exact nodup
  · next fresh =>
    refine List.nodup_append.mpr ⟨nodup, List.nodup_singleton name, fun k mem k' single same => ?_⟩
    rw [List.mem_singleton.mp single] at same
    exact fresh (same ▸ mem)

theorem names_prefix_set (es : Entries κ α) (name : κ) (v : α) :
    es.map (·.1) <+: (es.set name v).map (·.1) := by
  rw [names_set]
  split
  · exact List.prefix_rfl
  · exact List.prefix_append _ _

theorem mem_set {e : κ × α} (mem : e ∈ es.set name v) : e = (name, v) ∨ e ∈ es := by
  induction es with
  | nil => exact Or.inl (List.mem_singleton.mp mem)
  | cons x es ih =>
    obtain ⟨k, w⟩ := x
    by_cases h : k = name
    · subst h
      rw [set, if_pos (beq_self_eq_true k)] at mem
      exact (List.mem_cons.mp mem).imp id (List.mem_cons_of_mem _)
    · simp only [set, beq_iff_eq, if_neg h] at mem
      rcases List.mem_cons.mp mem with first | rest
      · exact Or.inr (first ▸ List.mem_cons_self)
      · exact (ih rest).imp id (List.mem_cons_of_mem _)

theorem set_set (es : Entries κ α) (name : κ) (v w : α) :
    (es.set name v).set name w = es.set name w := by
  induction es with
  | nil => simp [set]
  | cons e es ih =>
    obtain ⟨k, x⟩ := e
    by_cases h : k = name
    · simp [set, h]
    · simp [set, h, ih]

theorem set_of_get? (found : get? es name = some v) : es.set name v = es := by
  induction es with
  | nil => cases found
  | cons e es ih =>
    obtain ⟨k, x⟩ := e
    rw [get?_cons] at found
    by_cases h : k = name
    · rw [if_pos h] at found
      cases found
      simp [set, h]
    · rw [if_neg h] at found
      simp [set, h, ih found]

theorem set_of_not_mem (fresh : name ∉ es.map (·.1)) : es.set name v = es ++ [(name, v)] := by
  induction es with
  | nil => rfl
  | cons e es ih =>
    obtain ⟨k, x⟩ := e
    rw [List.map_cons, List.mem_cons, not_or] at fresh
    have ne : k ≠ name := fun same => fresh.1 same.symm
    simp [set, ne, ih fresh.2]

/-- Among distinct names an entry that comes later is new. -/
theorem set_eq_append {more : Entries κ α} (nodup : ((es ++ (name, v) :: more).map (·.1)).Nodup) :
    es.set name v = es ++ [(name, v)] := by
  rw [List.map_append, List.nodup_append] at nodup
  exact set_of_not_mem fun mem => nodup.2.2 name mem name List.mem_cons_self rfl

theorem setAll_eq_append {more : Entries κ α} (nodup : ((es ++ more).map (·.1)).Nodup) :
    es.setAll more = es ++ more := by
  induction more generalizing es with
  | nil => exact (List.append_nil es).symm
  | cons e more ih =>
    change (es.set e.1 e.2).setAll more = _
    rw [set_eq_append nodup]
    rw [List.append_cons] at nodup
    rw [List.append_cons es e more]
    exact ih nodup

/-- Where no name comes twice, merging one after the other keeps all that is merged, in its order. -/
theorem foldl_setAll_eq_append {parts : List (Entries κ α)}
    (nodup : ((es ++ parts.flatten).map (·.1)).Nodup) :
    parts.foldl setAll es = es ++ parts.flatten := by
  induction parts generalizing es with
  | nil => exact (List.append_nil es).symm
  | cons part parts ih =>
    rw [List.flatten_cons, ← List.append_assoc] at nodup ⊢
    have front : ((es ++ part).map (·.1)).Nodup := by
      rw [List.map_append] at nodup
      exact (List.nodup_append.mp nodup).1
    rw [List.foldl_cons, setAll_eq_append front, ih nodup]

theorem set_append_cons {front back : Entries κ α} (fresh : name ∉ front.map (·.1)) (v w : α) :
    set name w (front ++ (name, v) :: back) = front ++ (name, w) :: back := by
  induction front with
  | nil => simp [set]
  | cons e front ih =>
    obtain ⟨k, x⟩ := e
    rw [List.map_cons, List.mem_cons, not_or] at fresh
    have ne : k ≠ name := fun same => fresh.1 same.symm
    simp [set, ne, ih fresh.2]

theorem map_set {β : Type} (f : α → β) (es : Entries κ α) (name : κ) (v : α) :
    (es.set name v).map (fun e => (e.1, f e.2)) =
      set name (f v) (es.map fun e => (e.1, f e.2)) := by
  induction es with
  | nil => rfl
  | cons e es ih =>
    obtain ⟨k, x⟩ := e
    by_cases h : k = name
    · simp [set, h]
    · simp [set, h, ih]

/-- Values may be replaced by others that depend on them and on their names. -/
theorem get?_map_named {β : Type} (f : κ → α → β) (es : Entries κ α) (name : κ) :
    get? (es.map fun e => (e.1, f e.1 e.2)) name = (get? es name).map (f name) := by
  induction es with
  | nil => rfl
  | cons e es ih =>
    obtain ⟨k, x⟩ := e
    rw [List.map_cons, get?_cons, get?_cons, ih]
    split
    · next here =>
      rw [← here]
      rfl
    · rfl

theorem get?_map {β : Type} (f : α → β) (es : Entries κ α) (name : κ) :
    get? (es.map fun e => (e.1, f e.2)) name = (get? es name).map f :=
  get?_map_named (fun _ => f) es name

/-- Entries that are done stand before what is left of those that others are laid over. -/
private theorem foldl_set_append_eq {combine : Option α → α → α} (es : Entries κ α) :
    ∀ (done base : Entries κ α), base.map (·.1) <+: es.map (·.1) →
      ((done ++ es).map (·.1)).Nodup → (∀ e ∈ es, combine (get? base e.1) e.2 = e.2) →
      es.foldl (fun done e => set e.1 (combine (get? done e.1) e.2) done) (done ++ base) =
        done ++ es := by
  induction es with
  | nil =>
    intro done base names nodup same
    have none : base = [] := by simpa using names
    rw [none]
    rfl
  | cons e es ih =>
    intro done base names nodup same
    obtain ⟨k, v⟩ := e
    have shifted : (done ++ [(k, v)]) ++ es = done ++ (k, v) :: es := by simp
    have fresh : k ∉ done.map (·.1) := by
      rw [List.map_append, List.map_cons] at nodup
      intro mem
      exact (List.disjoint_of_nodup_append nodup) mem List.mem_cons_self
    have later : k ∉ es.map (·.1) := by
      rw [List.map_append, List.map_cons] at nodup
      exact (List.nodup_cons.mp (List.nodup_append.mp nodup).2.1).1
    have combined := same (k, v) List.mem_cons_self
    rw [List.foldl_cons]
    cases base with
    | nil =>
      have absent : get? (done ++ []) k = none := by
        rw [List.append_nil]
        exact get?_eq_none_iff.mpr fresh
      rw [get?_nil] at combined
      rw [absent, combined, List.append_nil, set_of_not_mem fresh]
      have rest := ih (done ++ [(k, v)]) [] List.nil_prefix (shifted ▸ nodup)
        fun e mem => same e (List.mem_cons_of_mem _ mem)
      rw [List.append_nil] at rest
      rw [rest, shifted]
    | cons b base =>
      obtain ⟨k', w⟩ := b
      obtain ⟨eq, front⟩ := List.cons_prefix_cons.mp names
      change k' = k at eq
      subst eq
      have found : get? (done ++ (k', w) :: base) k' = some w := by
        rw [get?_append, get?_eq_none_iff.mpr fresh, Option.none_or, get?_cons, if_pos rfl]
      rw [get?_cons, if_pos rfl] at combined
      rw [found, combined, set_append_cons fresh]
      have tails : ∀ e ∈ es, combine (get? base e.1) e.2 = e.2 := by
        intro e mem
        have ne : k' ≠ e.1 := fun eq => later (eq ▸ List.mem_map.mpr ⟨e, mem, rfl⟩)
        have whole := same e (List.mem_cons_of_mem _ mem)
        rwa [get?_cons, if_neg ne] at whole
      have rest := ih (done ++ [(k', v)]) base front (shifted ▸ nodup) tails
      rw [shifted, List.append_assoc, List.singleton_append] at rest
      exact rest

/-- Entries laid over others, each combined with what it finds, are what comes out where the names
of the others are the first of their names, and where what is combined is as they say. -/
theorem foldl_set_eq {base es : Entries κ α} {combine : Option α → α → α}
    (names : base.map (·.1) <+: es.map (·.1)) (nodup : (es.map (·.1)).Nodup)
    (same : ∀ e ∈ es, combine (get? base e.1) e.2 = e.2) :
    es.foldl (fun done e => set e.1 (combine (get? done e.1) e.2) done) base = es :=
  foldl_set_append_eq es [] base names nodup same

theorem setAll_eq {base : Entries κ α} (names : base.map (·.1) <+: es.map (·.1))
    (nodup : (es.map (·.1)).Nodup) : base.setAll es = es :=
  @foldl_set_eq κ α _ base es (fun _ v => v) names nodup fun _ _ => rfl

end Set

/-! ## Entries set one after the other -/

theorem setAll_append (es more others : Entries κ α) :
    es.setAll (more ++ others) = (es.setAll more).setAll others := List.foldl_append

theorem setAll_concat (es more : Entries κ α) (e : κ × α) :
    es.setAll (more ++ [e]) = (es.setAll more).set e.1 e.2 := List.foldl_concat _ _ _ _

/-- Every name stands where it came first. -/
theorem names_setAll (more : Entries κ α) :
    (setAll [] more).map (·.1) = (more.map (·.1)).eraseDups := by
  induction more using List.reverseRecOn with
  | nil => rfl
  | append_singleton more e ih =>
    rw [setAll_concat, names_set, ih, List.map_append, List.eraseDups_append]
    by_cases known : e.1 ∈ more.map (·.1)
    · have nothing : (List.map (·.1) [e]).removeAll (more.map (·.1)) = [] := by
        simpa [List.removeAll] using known
      rw [if_pos (List.mem_eraseDups.mpr known), nothing, List.eraseDups_nil, List.append_nil]
    · have itself : (List.map (·.1) [e]).removeAll (more.map (·.1)) = [e.1] := by
        simpa [List.removeAll] using known
      have alone : [e.1].eraseDups = [e.1] := by simp [List.eraseDups_cons]
      have fresh : e.1 ∉ (more.map (·.1)).eraseDups := fun mem => known (List.mem_eraseDups.mp mem)
      rw [if_neg fresh, itself, alone]

/-- Every name stands for what came last for it. -/
theorem get?_setAll (more : Entries κ α) (name : κ) :
    get? (setAll [] more) name = get? more.reverse name := by
  induction more using List.reverseRecOn with
  | nil => rfl
  | append_singleton more e ih =>
    rw [setAll_concat, List.reverse_concat, get?_cons]
    by_cases same : e.1 = name
    · rw [if_pos same, ← same, get?_set_self]
    · rw [if_neg same, get?_set_of_ne _ _ (Ne.symm same), ih]

theorem nodup_setAll (more : Entries κ α) : ((setAll [] more).map (·.1)).Nodup := by
  induction more using List.reverseRecOn with
  | nil => exact List.nodup_nil
  | append_singleton more e ih =>
    rw [setAll_concat]
    exact nodup_set ih

theorem mem_of_mem_setAll {more : Entries κ α} {e : κ × α} (mem : e ∈ setAll [] more) : e ∈ more := by
  induction more using List.reverseRecOn with
  | nil => cases mem
  | append_singleton more o ih =>
    rw [setAll_concat] at mem
    rcases mem_set mem with rfl | old
    · exact List.mem_append_right _ (List.mem_singleton_self _)
    · exact List.mem_append_left _ (ih old)

/-- A name that is there already can be set before or after another one. -/
theorem set_comm {es : Entries κ α} {name other : κ} (known : name ∈ es.map (·.1))
    (ne : other ≠ name) (v w : α) :
    (es.set other w).set name v = (es.set name v).set other w := by
  induction es with
  | nil => cases known
  | cons e es ih =>
    obtain ⟨k, x⟩ := e
    by_cases here : k = name
    · subst here
      have apart : k ≠ other := Ne.symm ne
      simp [set, apart]
    · have later : name ∈ es.map (·.1) := by
        rw [List.map_cons, List.mem_cons] at known
        exact known.resolve_left (Ne.symm here)
      by_cases there : k = other
      · simp [set, there, ne]
      · simp [set, here, there, ih later]

theorem setAll_set_of_mem {es more : Entries κ α} {name : κ} (known : name ∈ es.map (·.1))
    (absent : name ∉ more.map (·.1)) (v : α) :
    (es.set name v).setAll more = (es.setAll more).set name v := by
  induction more generalizing es with
  | nil => rfl
  | cons e more ih =>
    rw [List.map_cons, List.mem_cons, not_or] at absent
    have still : name ∈ (es.set e.1 e.2).map (·.1) := mem_names_set.mpr (Or.inr known)
    calc ((es.set name v).set e.1 e.2).setAll more
        = ((es.set e.1 e.2).set name v).setAll more := by rw [set_comm known (Ne.symm absent.1)]
      _ = ((es.set e.1 e.2).setAll more).set name v := ih still absent.2

theorem setAll_set {es more : Entries κ α} (nodup : (more.map (·.1)).Nodup) (name : κ) (v : α) :
    es.setAll (more.set name v) = (es.setAll more).set name v := by
  induction more generalizing es with
  | nil => rfl
  | cons e more ih =>
    obtain ⟨k, x⟩ := e
    obtain ⟨fresh, nodup⟩ := List.nodup_cons.mp nodup
    by_cases here : k = name
    · subst here
      have known : k ∈ (es.set k x).map (·.1) := mem_names_set.mpr (Or.inl rfl)
      have first : set k v ((k, x) :: more) = (k, v) :: more := by simp [set]
      calc es.setAll (set k v ((k, x) :: more))
          = ((es.set k x).set k v).setAll more := by rw [first, set_set]; rfl
        _ = ((es.set k x).setAll more).set k v := setAll_set_of_mem known fresh v
    · have first : set name v ((k, x) :: more) = (k, x) :: set name v more := by simp [set, here]
      rw [first]
      exact ih nodup

/-- It is the same whether entries are set one after the other or all that they come to. -/
theorem setAll_setAll (es more : Entries κ α) : es.setAll (setAll [] more) = es.setAll more := by
  induction more using List.reverseRecOn with
  | nil => rfl
  | append_singleton more e ih =>
    rw [setAll_concat, setAll_set (nodup_setAll more), ih, setAll_concat]

end Thermostat.Entries
