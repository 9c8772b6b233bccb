import Thermostat.Proofs.Calendar.Wire
import Thermostat.Proofs.Entries
import Thermostat.Request.Basic

/-! What requests send: two requests send the same just if they agree on all their parts. -/
namespace Thermostat

/-- A part of a request as it is compared: flags count as the numbers zero and one, and texts are
compared by their content. -/
def Param.value : Param → Int ⊕ Text
  | .flag b => .inl b.toInt
  | .number n => .inl n
  | .text l => .inr l.content

namespace Params

def view (ps : Params) (name : String) : Option (Int ⊕ Text) := (Entries.get? ps name).map Param.value

theorem view_eq_none {ps : Params} {name : String} (absent : name ∉ ps.map (·.1)) :
    view ps name = none := by
  rw [view, Entries.get?_eq_none_iff.mpr absent, Option.map_none]

theorem view_append (ps qs : Params) (name : String) :
    view (ps ++ qs) name = (view ps name).or (view qs name) := by
  rw [view, Entries.get?_append, Option.map_or]
  rfl

/-- Where names are apart, parts that are sent one after the other are told one from the other. -/
theorem view_append_eq_iff {ps ps' qs qs' : Params} {first rest : List String}
    (hp : (ps.map (·.1)).Sublist first) (hp' : (ps'.map (·.1)).Sublist first)
    (hq : (qs.map (·.1)).Sublist rest) (hq' : (qs'.map (·.1)).Sublist rest)
    (apart : ∀ n ∈ first, n ∉ rest) :
    view (ps ++ qs) = view (ps' ++ qs') ↔ view ps = view ps' ∧ view qs = view qs' := by
  constructor
  · intro same
    have each (n : String) : view ps n = view ps' n ∧ view qs n = view qs' n := by
      have at_n := congrFun same n
      rw [view_append, view_append] at at_n
      by_cases mem : n ∈ first
      · have none := view_eq_none fun h => apart n mem (hq.subset h)
        have none' := view_eq_none fun h => apart n mem (hq'.subset h)
        rw [none, none', Option.or_none, Option.or_none] at at_n
        exact ⟨at_n, none.trans none'.symm⟩
      · have none := view_eq_none fun h => mem (hp.subset h)
        have none' := view_eq_none fun h => mem (hp'.subset h)
        rw [none, none', Option.none_or, Option.none_or] at at_n
        exact ⟨none.trans none'.symm, at_n⟩
    exact ⟨funext fun n => (each n).1, funext fun n => (each n).2⟩
  · rintro ⟨front, back⟩
    funext n
    rw [view_append, view_append, front, back]

def part (name : String) (p? : Option Param) : Params := (p?.map fun p => (name, p)).toList

theorem names_part (name : String) (p? : Option Param) :
    ((part name p?).map (·.1)).Sublist [name] := by
  cases p? with
  | none => exact List.nil_sublist _
  | some p => exact List.Sublist.refl _

theorem view_part_eq_iff {name : String} {p? q? : Option Param} :
    view (part name p?) = view (part name q?) ↔ p?.map Param.value = q?.map Param.value := by
  have self (p? : Option Param) : view (part name p?) name = p?.map Param.value := by
    cases p? with
    | none => rfl
    | some p => simp [view, part, Entries.get?_cons]
  constructor
  · intro same
    have at_name := congrFun same name
    rwa [self, self] at at_name
  · intro same
    funext n
    by_cases eq : n = name
    · rw [eq, self, self, same]
    · have none (p? : Option Param) : view (part name p?) n = none :=
        view_eq_none fun mem => eq (List.mem_singleton.mp ((names_part name p?).subset mem))
      rw [none, none]

/-- The parts that are there, of parts that may be left out. -/
def ofFields (fields : List (String × Option Param)) : Params := fields.flatMap fun f => part f.1 f.2

theorem names_ofFields (fields : List (String × Option Param)) :
    ((ofFields fields).map (·.1)).Sublist (fields.map (·.1)) := by
  induction fields with
  | nil => exact List.Sublist.refl _
  | cons f fields ih =>
    have front := (names_part f.1 f.2).append ih
    rwa [← List.map_append] at front

/-- A part is there just if its field is not left out. -/
theorem get?_ofFields {fields : List (String × Option Param)} (nodup : (fields.map (·.1)).Nodup)
    (name : String) :
    Entries.get? (ofFields fields) name = (Entries.get? fields name).join := by
  induction fields with
  | nil => rfl
  | cons f fields ih =>
    obtain ⟨first, p?⟩ := f
    obtain ⟨fresh, nodup⟩ := List.nodup_cons.mp nodup
    have split : ofFields ((first, p?) :: fields) = part first p? ++ ofFields fields := rfl
    rw [split, Entries.get?_append, ih nodup, Entries.get?_cons]
    by_cases same : first = name
    · subst same
      rw [if_pos rfl, Entries.get?_eq_none_iff.mpr fresh, Option.join_some]
      cases p? <;> simp [part, Entries.get?_cons]
    · rw [if_neg same]
      cases p? <;> simp [part, Entries.get?_cons, same]

/-- Fields of the same names, none of them twice, are told apart by what is sent of them. -/
theorem view_ofFields_eq_iff {fields others : List (String × Option Param)}
    (names : fields.map (·.1) = others.map (·.1)) (nodup : (fields.map (·.1)).Nodup) :
    view (ofFields fields) = view (ofFields others) ↔
      fields.map (·.2.map Param.value) = others.map (·.2.map Param.value) := by
  induction fields generalizing others with
  | nil =>
    cases others with
    | nil => exact iff_of_true rfl rfl
    | cons g others => cases names
  | cons f fields ih =>
    cases others with
    | nil => cases names
    | cons g others =>
      obtain ⟨name, p?⟩ := f
      obtain ⟨name', q?⟩ := g
      obtain ⟨first, rest⟩ := List.cons.inj names
      change name = name' at first
      subst first
      obtain ⟨fresh, nodup⟩ := List.nodup_cons.mp nodup
      have apart : ∀ n ∈ [name], n ∉ fields.map (·.1) := by
        intro n mem
        rw [List.mem_singleton.mp mem]
        exact fresh
      have split := view_append_eq_iff (names_part name p?) (names_part name q?)
        (names_ofFields fields) (rest ▸ names_ofFields others) apart
      rw [view_part_eq_iff, ih rest nodup] at split
      rw [List.map_cons, List.map_cons, List.cons.injEq]
      exact split

end Params

section Fields

/-- The parts of a window, left out where it is open. -/
def Window.fields (w : Window) : List (String × Option Param) :=
  [("startDate", w.start.map fun d => .text (.text d.date.wire)),
   ("startTime", w.start.map fun d => .text (.text d.time.wire)),
   ("endDate", w.finish.map fun d => .text (.text d.date.wire)),
   ("endTime", w.finish.map fun d => .text (.text d.time.wire))]

def Hold.fields (h : Hold) : List (String × Option Param) :=
  h.window.fields ++ [("holdType", h.type.map Param.word), ("holdHours", h.hours.map .number)]

def HoldSlots.fields (h : HoldSlots) : List (String × Option Param) :=
  Slot.all.map fun s => (s.wireName, (h s).map s.kind.param)

/-- All parts of a request, those that are left out too. -/
def Request.fields : Request → List (String × Option Param)
  | acknowledge thermostat ackRef ackType remindLater =>
    [("thermostatIdentifier", some (.text thermostat)), ("ackRef", some (.text ackRef)),
     ("ackType", some (.word ackType)), ("remindMeLater", remindLater.map .flag)]
  | controlPlug plug state hold =>
    ("plugName", some (.text plug)) :: ("plugState", some (.word state)) :: hold.fields
  | createVacation name cool heat window fan fanMinutes =>
    [("name", some (.text name)), ("coolHoldTemp", some (.number cool.tenths)),
     ("heatHoldTemp", some (.number heat.tenths))] ++ window.fields ++
      [("fan", fan.map Param.word), ("fanMinOnTime", fanMinutes.map .number)]
  | deleteVacation name => [("name", some (.text name))]
  | resetPreferences => []
  | resumeProgram all => [("resumeAll", all.map .flag)]
  | sendMessage text => [("text", some (.text text))]
  | setHold event hold => event.slots.fields ++ hold.fields
  | setOccupied occupied hold => ("occupied", some (.flag occupied)) :: hold.fields
  | updateSensor name deviceId sensorId =>
    [("name", some (.text name)), ("deviceId", some (.text deviceId)),
     ("sensorId", some (.text sensorId))]

theorem Window.params_eq (w : Window) : w.params = Params.ofFields w.fields := by
  obtain ⟨start, finish⟩ := w
  cases start <;> cases finish <;> rfl

theorem Params.ofFields_append (fs gs : List (String × Option Param)) :
    ofFields (fs ++ gs) = ofFields fs ++ ofFields gs := List.flatMap_append

theorem Hold.params_eq (h : Hold) : h.params = Params.ofFields h.fields := by
  unfold Hold.params Hold.fields
  rw [Params.ofFields_append, Window.params_eq, List.append_assoc]
  cases h.type <;> cases h.hours <;> rfl

theorem HoldSlots.params_eq (h : HoldSlots) : h.params = Params.ofFields h.fields := by
  unfold HoldSlots.params HoldSlots.fields Params.ofFields
  rw [List.flatMap_map, List.filterMap_eq_flatMap_toList]
  refine List.flatMap_congr fun s _ => ?_
  cases h s <;> rfl

/-- What is sent are the parts that are not left out. -/
theorem Request.params_eq (r : Request) : r.params = Params.ofFields r.fields := by
  cases r with
  | acknowledge thermostat ackRef ackType remindLater => cases remindLater <;> rfl
  | controlPlug plug state hold =>
    simp only [params, Hold.params_eq]
    rfl
  | createVacation name cool heat window fan fanMinutes =>
    simp only [params, fields, Params.ofFields_append, Window.params_eq, List.append_assoc]
    cases fan <;> cases fanMinutes <;> rfl
  | resumeProgram all => cases all <;> rfl
  | setHold event hold =>
    simp only [params, fields, Params.ofFields_append, HoldSlots.params_eq, Hold.params_eq]
  | setOccupied occupied hold =>
    simp only [params, Hold.params_eq]
    rfl
  | _ => rfl

end Fields

namespace RequestKind

theorem wireName_inj {j k : RequestKind} : j.wireName = k.wireName ↔ j = k := by
  have left (k : RequestKind) : ofWireName? k.wireName = some k := by cases k <;> decide
  constructor
  · intro same
    have found := left j
    rw [same, left k] at found
    exact (Option.some.inj found).symm
  · exact congrArg wireName

def windowNames : List String := ["startDate", "startTime", "endDate", "endTime"]
def holdNames : List String := windowNames ++ ["holdType", "holdHours"]

/-- Names of all parts of the requests of a kind. -/
def partNames : RequestKind → List String
  | .acknowledge => ["thermostatIdentifier", "ackRef", "ackType", "remindMeLater"]
  | .controlPlug => "plugName" :: "plugState" :: holdNames
  | .createVacation =>
    ["name", "coolHoldTemp", "heatHoldTemp"] ++ windowNames ++ ["fan", "fanMinOnTime"]
  | .deleteVacation => ["name"]
  | .resetPreferences => []
  | .resumeProgram => ["resumeAll"]
  | .sendMessage => ["text"]
  | .setHold => Slot.all.map Slot.wireName ++ holdNames
  | .setOccupied => "occupied" :: holdNames
  | .updateSensor => ["name", "deviceId", "sensorId"]

theorem nodup_partNames (k : RequestKind) : k.partNames.Nodup := by cases k <;> decide

end RequestKind

namespace Request

theorem names_fields (r : Request) : r.fields.map (·.1) = r.kind.partNames := by cases r <;> rfl

theorem nodup_params (r : Request) : (r.params.map (·.1)).Nodup := by
  rw [params_eq]
  have sublist := Params.names_ofFields r.fields
  rw [names_fields] at sublist
  exact sublist.nodup r.kind.nodup_partNames

end Request

/-- What is sent of a request: its kind, and its parts by name. -/
structure Payload where
  type : String
  part : String → Option (Int ⊕ Text)

def Request.payload (r : Request) : Payload := ⟨r.kind.wireName, Params.view r.params⟩

/-- Two moments in the same second on the same clock face; their offsets do not count. -/
def DateTime.SameSecond (d e : DateTime) : Prop := d.date = e.date ∧ d.time.SameSecond e.time

/-- Two windows that are open on the same sides, with ends in the same seconds. -/
def Window.Agree (w v : Window) : Prop :=
  Option.Rel DateTime.SameSecond w.start v.start ∧ Option.Rel DateTime.SameSecond w.finish v.finish

def Hold.Agree (h k : Hold) : Prop :=
  h.window.Agree k.window ∧ h.type = k.type ∧ h.hours = k.hours

/-- Two requests of one kind whose parts are the same. What a hold has set aside does not count. -/
def Request.Agree : Request → Request → Prop
  | acknowledge thermostat ackRef ackType remindLater,
      acknowledge thermostat' ackRef' ackType' remindLater' =>
    thermostat.content = thermostat'.content ∧ ackRef.content = ackRef'.content ∧
      ackType = ackType' ∧ remindLater = remindLater'
  | controlPlug plug state hold, controlPlug plug' state' hold' =>
    plug.content = plug'.content ∧ state = state' ∧ hold.Agree hold'
  | createVacation name cool heat window fan fanMinutes,
      createVacation name' cool' heat' window' fan' fanMinutes' =>
    name.content = name'.content ∧ cool = cool' ∧ heat = heat' ∧ window.Agree window' ∧
      fan = fan' ∧ fanMinutes = fanMinutes'
  | deleteVacation name, deleteVacation name' => name.content = name'.content
  | resetPreferences, resetPreferences => True
  | resumeProgram all, resumeProgram all' => all = all'
  | sendMessage text, sendMessage text' => text.content = text'.content
  | setHold event hold, setHold event' hold' =>
    event.slots.same event'.slots = true ∧ hold.Agree hold'
  | setOccupied occupied hold, setOccupied occupied' hold' =>
    occupied = occupied' ∧ hold.Agree hold'
  | updateSensor name deviceId sensorId, updateSensor name' deviceId' sensorId' =>
    name.content = name'.content ∧ deviceId.content = deviceId'.content ∧
      sensorId.content = sensorId'.content
  | _, _ => False

/-- What is compared of fields: for each of them its value, or that it is left out. -/
def Params.values (fields : List (String × Option Param)) : List (Option (Int ⊕ Text)) :=
  fields.map (·.2.map Param.value)

section Values

open Vocabulary

theorem literal_holdType_inj {v w : HoldType} : literal v = literal w ↔ v = w := by
  cases v <;> cases w <;> decide

theorem literal_fanMode_inj {v w : FanMode} : literal v = literal w ↔ v = w := by
  cases v <;> cases w <;> decide

theorem literal_ventilatorMode_inj {v w : VentilatorMode} : literal v = literal w ↔ v = w := by
  cases v <;> cases w <;> decide

theorem literal_ackType_inj {v w : AckType} : literal v = literal w ↔ v = w := by
  cases v <;> cases w <;> decide

theorem literal_plugState_inj {v w : PlugState} : literal v = literal w ↔ v = w := by
  cases v <;> cases w <;> decide

@[simp] theorem Param.value_text (l : Label) : (Param.text l).value = .inr l.content := rfl

@[simp] theorem Param.value_number (n : Int) : (Param.number n).value = .inl n := rfl

@[simp] theorem Param.value_flag_eq_iff {b c : Bool} :
    (Param.flag b).value = (Param.flag c).value ↔ b = c := by
  cases b <;> cases c <;> decide

@[simp] theorem Param.value_word_eq_iff {α : Type} [Vocabulary α] {v w : α} :
    (Param.word v).value = (Param.word w).value ↔ literal v = literal w := by
  change (Sum.inr (Text.ofString (literal v)) : Int ⊕ Text) = Sum.inr (Text.ofString (literal w)) ↔ _
  rw [Sum.inr.injEq, Text.ofString_inj]

theorem map_value_eq_iff {α : Type} {f : α → Param} (inj : ∀ a b, (f a).value = (f b).value ↔ a = b)
    {p q : Option α} : (p.map f).map Param.value = (q.map f).map Param.value ↔ p = q := by
  cases p <;> cases q <;> simp [inj]

theorem Window.values_eq_iff {w v : Window} :
    Params.values w.fields = Params.values v.fields ↔ w.Agree v := by
  have moment {d? e? : Option DateTime} :
      (d?.map fun d => Param.text (.text d.date.wire)).map Param.value =
          (e?.map fun d => Param.text (.text d.date.wire)).map Param.value ∧
        (d?.map fun d => Param.text (.text d.time.wire)).map Param.value =
          (e?.map fun d => Param.text (.text d.time.wire)).map Param.value ↔
      Option.Rel DateTime.SameSecond d? e? := by
    cases d? <;> cases e? <;>
      simp [Label.content, Text.ofString_inj, Date.wire_inj, TimeOfDay.wire_eq_iff,
        DateTime.SameSecond]
  unfold Agree
  rw [← moment, ← moment]
  simp only [Params.values, fields, List.map_cons, List.map_nil, List.cons.injEq, and_true, and_assoc]

theorem Hold.values_eq_iff {h k : Hold} :
    Params.values h.fields = Params.values k.fields ↔ h.Agree k := by
  have window := Window.values_eq_iff (w := h.window) (v := k.window)
  have type := map_value_eq_iff (f := Param.word)
    (fun v w => Param.value_word_eq_iff.trans literal_holdType_inj) (p := h.type) (q := k.type)
  have hours := map_value_eq_iff (f := Param.number) (fun m n => by simp) (p := h.hours)
    (q := k.hours)
  unfold Agree
  rw [← window, ← type, ← hours]
  simp only [Params.values, fields, Window.fields, List.map_cons, List.map_nil, List.cons_append,
    List.nil_append, List.cons.injEq, and_true, and_assoc]

theorem SlotKind.equal_iff {α : Type} [DecidableEq α] {a b : α} : equal a b = true ↔ a = b :=
  decide_eq_true_iff

theorem SlotKind.value_labelParam (l : Label) : (labelParam l).value = .inr l.content := by
  cases l with
  | text t => rfl
  | word w => cases w <;> rfl

theorem SlotKind.value_param_eq_iff {k : SlotKind} {a b : k.Content} :
    (k.param a).value = (k.param b).value ↔ k.same a b = true := by
  cases k with
  | flag => exact Param.value_flag_eq_iff.trans (equal_iff (α := Bool)).symm
  | temperature relative =>
    obtain ⟨m⟩ : Temperature := a
    obtain ⟨n⟩ : Temperature := b
    refine Iff.trans ?_ (equal_iff (α := Temperature)).symm
    change (Sum.inl m : Int ⊕ Text) = Sum.inl n ↔ Temperature.mk m = Temperature.mk n
    rw [Sum.inl.injEq, Temperature.mk.injEq]
  | fanMode =>
    exact (Param.value_word_eq_iff.trans literal_fanMode_inj).trans (equal_iff (α := FanMode)).symm
  | ventilatorMode =>
    exact (Param.value_word_eq_iff.trans literal_ventilatorMode_inj).trans
      (equal_iff (α := VentilatorMode)).symm
  | count => exact (Sum.inl.injEq (α := Int) _ _).to_iff.trans (equal_iff (α := Int)).symm
  | label =>
    have contents (l m : Label) : (labelParam l).value = (labelParam m).value ↔
        equal l.content m.content = true := by
      rw [value_labelParam, value_labelParam, Sum.inr.injEq, equal_iff]
    exact contents a b

theorem HoldSlots.values_eq_iff {h g : HoldSlots} :
    Params.values h.fields = Params.values g.fields ↔ h.same g = true := by
  unfold Params.values fields same
  rw [List.map_map, List.map_map, List.map_inj_left, List.all_eq_true]
  refine forall₂_congr fun s _ => ?_
  dsimp only [Function.comp]
  cases h s <;> cases g s <;> simp [SlotKind.value_param_eq_iff]

end Values

namespace Request

/-- Requests that send the same are of one kind and have the same values in all their fields. -/
theorem payload_eq_iff_values {r s : Request} : r.payload = s.payload ↔
    r.kind = s.kind ∧ Params.values r.fields = Params.values s.fields := by
  have names (kind : r.kind = s.kind) : r.fields.map (·.1) = s.fields.map (·.1) := by
    rw [names_fields, names_fields, kind]
  have nodup : (r.fields.map (·.1)).Nodup := by
    rw [names_fields]
    exact r.kind.nodup_partNames
  unfold payload
  rw [Payload.mk.injEq, RequestKind.wireName_inj, params_eq, params_eq]
  exact and_congr_right fun kind => Params.view_ofFields_eq_iff (names kind) nodup

/-- Two requests send the same just if they agree. -/
theorem payload_eq_iff (r s : Request) : r.payload = s.payload ↔ r.Agree s := by
  have flag {b? c? : Option Bool} := map_value_eq_iff (f := Param.flag)
    (fun a b => Param.value_flag_eq_iff) (p := b?) (q := c?)
  have number {m? n? : Option Int} := map_value_eq_iff (f := Param.number)
    (fun m n => by simp) (p := m?) (q := n?)
  have fanMode {v? w? : Option FanMode} := map_value_eq_iff (f := Param.word)
    (fun v w => Param.value_word_eq_iff.trans literal_fanMode_inj) (p := v?) (q := w?)
  have temperature {t u : Temperature} : t.tenths = u.tenths ↔ t = u := by
    cases t
    cases u
    rw [Temperature.mk.injEq]
  rw [payload_eq_iff_values]
  cases r <;> cases s
  case acknowledge.acknowledge =>
    simp only [Agree, fields, Params.values, List.map_cons, List.map_nil, List.cons.injEq, and_true,
      Option.map_some, Option.some.injEq, Param.value_text, Sum.inr.injEq, Param.value_word_eq_iff,
      literal_ackType_inj, flag, kind, true_and]
  case controlPlug.controlPlug =>
    simp only [Agree, ← Hold.values_eq_iff, fields, Params.values, List.map_cons, List.cons.injEq,
      Option.map_some, Option.some.injEq, Param.value_text, Sum.inr.injEq, Param.value_word_eq_iff,
      literal_plugState_inj, kind, true_and]
  case createVacation.createVacation =>
    simp only [Agree, ← Window.values_eq_iff, fields, Window.fields, Params.values, List.map_cons,
      List.map_nil, List.cons_append, List.nil_append, List.cons.injEq, and_true, Option.map_some,
      Option.some.injEq, Param.value_text, Param.value_number, Sum.inr.injEq, Sum.inl.injEq,
      temperature, fanMode, number, kind, true_and, and_assoc]
  case deleteVacation.deleteVacation => simp [Agree, fields, Params.values, kind]
  case resetPreferences.resetPreferences => simp [Agree, fields, Params.values, kind]
  case resumeProgram.resumeProgram =>
    simp only [Agree, fields, Params.values, List.map_cons, List.map_nil, List.cons.injEq, and_true,
      flag, kind, true_and]
  case sendMessage.sendMessage => simp [Agree, fields, Params.values, kind]
  case setHold.setHold =>
    simp only [Agree, ← Hold.values_eq_iff, ← HoldSlots.values_eq_iff, fields, Params.values,
      List.map_append, kind, true_and]
    constructor
    -- Every event has all slots, sent or not: the parts of the hold begin behind as many of them.
    · intro same
      exact List.append_inj same (by simp [HoldSlots.fields])
    · rintro ⟨event, hold⟩
      rw [event, hold]
  case setOccupied.setOccupied =>
    simp only [Agree, ← Hold.values_eq_iff, fields, Params.values, List.map_cons, List.cons.injEq,
      Option.map_some, Option.some.injEq, Param.value_flag_eq_iff, kind, true_and]
  case updateSensor.updateSensor => simp [Agree, fields, Params.values, kind]
  all_goals exact iff_of_false (fun same => by cases same.1) fun agree => agree.elim

end Request

end Thermostat
