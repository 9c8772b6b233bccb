import Mathlib
import Thermostat.Proofs.CommandLine.Arguments
import Thermostat.Proofs.Json.RoundTrip
import Thermostat.Proofs.Request.Numbers
import Thermostat.Proofs.Session.Delivery
import Thermostat.Proofs.Text.Whole

/-! Requests that are rendered: what the program shows is what a provider would have been sent, and
it shows nothing where a provider would have been sent nothing. -/
namespace Thermostat

namespace Session

/-- A session on a scale whose provider is found and consents to everything. -/
structure Accepting (scale : TemperatureScale) (s : Session) : Prop where
  scale_eq : s.scale = scale
  found : s.route = .provider ∨ s.route = .lookup ∧ s.service = .ready
  consents : ∃ v, s.provider = .answers v ∧ v.isTruthy = true

variable {scale : TemperatureScale} {s : Session} {action : Action} {placed : List Value}
  {named : List (Text × Value)} {selection : Value} {r : Request}

theorem Accepting.course_of_made (accepting : s.Accepting scale) {a : Arguments}
    (made : (action.makeRequest scale a).2 = .ok r) : s.course action a = .delivered r (.ok true) := by
  obtain ⟨rfl, found, v, provider, consents⟩ := accepting
  have resolved : (s.resolve (a.value "selection")).2 = .ok () := by
    unfold resolve
    rcases found with route | ⟨route, service⟩
    · rw [route]
    · rw [route, service]
  unfold course perform
  rw [made, provider]
  dsimp only
  rw [resolved, consents]

/-- What an accepting session does with a call depends on the request alone: it sends the request and
says yes, or there is none and it says no. -/
theorem Accepting.call_eq (accepting : s.Accepting scale)
    (fits : action.signature.Fits placed named) (selected : selectionOf? placed named = some selection) :
    (∀ r, (action.makeRequest scale (action.signature.bound placed named)).2 = .ok r →
      (s.call action placed named).2.outcome = .answered true ∧
        (s.call action placed named).2.sent = [(selection, r)]) ∧
    (∀ f, (action.makeRequest scale (action.signature.bound placed named)).2 = .error f →
      (s.call action placed named).2.outcome = .answered false) := by
  rw [s.call_of_fits fits, invoke_eq]
  constructor
  · intro r made
    have value := (selectionOf?_eq fits).symm.trans selected
    rw [accepting.course_of_made made, Option.some.inj value]
    exact ⟨rfl, rfl⟩
  · intro f unmade
    obtain ⟨rfl, -, -⟩ := accepting
    have course : s.course action (action.signature.bound placed named) = .unmade f := by
      unfold course
      rw [unmade]
    rw [course]
    exact report_ofFault _ _ _

end Session

namespace CommandLine

variable {depth : Nat} {scale : TemperatureScale} {action selection arguments : Text}

/-- An action by its name and its arguments by the text of an object. -/
structure Asks (depth : Nat) (action arguments : Text) (a : Action) (named : List (Text × Value)) :
    Prop where
  name : actionName action = Text.ofString a.name
  object : ∃ entries, Json.read (some digitLimit) depth arguments = .ok (.dict entries) ∧
    named = argumentsOf entries

/-- A request that an action makes of what it is asked for. -/
structure Makes (depth : Nat) (scale : TemperatureScale) (action selection arguments : Text)
    (a : Action) (named : List (Text × Value)) (r : Request) : Prop where
  asked : Asks depth action arguments a named
  fits : a.signature.Fits [.text (.text selection)] named
  made : (a.makeRequest scale (a.signature.bound [.text (.text selection)] named)).2 = .ok r

theorem session_accepting (scale : TemperatureScale) :
    ({ scale := scale, route := .provider } : Session).Accepting scale :=
  ⟨rfl, Or.inl rfl, _, rfl, rfl⟩

theorem render_of_makes {a : Action} {named : List (Text × Value)} {r : Request}
    (makes : Makes depth scale action selection arguments a named r) :
    (render depth scale action (some selection) (some arguments)).2 =
      (Ending.finished 0, Text.ofString (Json.write 0 (sentTree (some selection) r)) ++ "\n") := by
  obtain ⟨⟨name, object⟩, fits, made⟩ := makes
  obtain ⟨yes, sent⟩ := ((session_accepting scale).call_eq fits rfl).1 r made
  unfold render
  rw [findAction?_eq_some_iff.mpr name, Option.map_some, readArguments_eq_ok_iff.mpr object]
  dsimp only [selectionValue, Option.map_some, Option.getD_some]
  rw [yes, sent]

/-- Too deep arguments are a failure, and nothing is shown. -/
theorem render_of_tooDeep (tooDeep : TooDeep depth action arguments) :
    ∃ message, (render depth scale action (some selection) (some arguments)).2 =
      (Ending.failed "RecursionError" message, Text.ofString "") := by
  obtain ⟨⟨a, name⟩, c, deep⟩ := tooDeep
  have failure := readArguments_eq_failure_iff.mpr ⟨c, deep, rfl, rfl⟩
  unfold render
  rw [findAction?_eq_some_iff.mpr name, Option.map_some, failure]
  exact ⟨_, rfl⟩

theorem render_of_not_makes (shallow : ¬ TooDeep depth action arguments)
    (none : ∀ a named r, ¬ Makes depth scale action selection arguments a named r) :
    (render depth scale action (some selection) (some arguments)).2 =
      (Ending.finished 1, Text.ofString "") := by
  unfold render
  cases found : findAction? action with
  | none => rfl
  | some a =>
    have name := findAction?_eq_some_iff.mp found
    rw [Option.map_some]
    cases object : readArguments depth arguments with
    | error e =>
      cases e with
      | complaint m => rfl
      | failure kind m =>
        obtain ⟨c, deep, -⟩ := readArguments_eq_failure_iff.mp object
        exact absurd ⟨⟨a, name⟩, c, deep⟩ shallow
    | ok named =>
      have asked : Asks depth action arguments a named := ⟨name, readArguments_eq_ok_iff.mp object⟩
      dsimp only [selectionValue, Option.map_some, Option.getD_some]
      by_cases fits : a.signature.Fits [.text (.text selection)] named
      · cases made : (a.makeRequest scale (a.signature.bound [.text (.text selection)] named)).2 with
        | ok r => exact absurd ⟨asked, fits, made⟩ (none a named r)
        | error f => rw [((session_accepting scale).call_eq fits rfl).2 f made]
      · obtain ⟨m, call⟩ := Session.call_of_misfit { scale := scale, route := .provider } fits
        rw [call]

section Document

/-- The values that a request is read back as, texts as they are read. -/
def paramValue (read : Text → Text) : Param → Value
  | .flag b => .bool b
  | .number n => .int n
  | .text l => .text (.text (read l.content))

/-- The document of a selection and of the request that was sent for it, texts as they are read. -/
def document (read : Text → Text) (selection : Text) (r : Request) : Value :=
  .dict [("selection", .text (.text (read selection))),
    ("functions", .list [.dict [("type", .string r.kind.wireName),
      ("params", .dict (r.params.map fun p => (p.1, paramValue read p.2)))]])]

variable {r : Request}

theorem value_paramTree (p : Param) : (paramTree p).value = paramValue Json.joined p := by
  cases p <;> rfl

theorem entryValues_params (ps : Params) :
    Json.Tree.entryValues (ps.map fun p => (Text.ofString p.1, paramTree p.2)) =
      ps.map fun p => (Text.ofString p.1, paramValue Json.joined p.2) := by
  induction ps with
  | nil => rfl
  | cons p ps ih =>
    rw [List.map_cons, List.map_cons, Json.Tree.entryValues, ih, Json.joined_ofString, value_paramTree]

theorem value_sentTree (selection : Text) (r : Request) :
    (sentTree (some selection) r).value = document Json.joined selection r := by
  have params := entryValues_params r.params
  simp only [sentTree, requestTree, document, Option.map_some, Option.getD_some, Json.Tree.value,
    Json.Tree.values, Json.Tree.entryValues, Json.joined_ofString, Value.string, params]

/-- Texts in which no halves meet are read as they were sent. -/
theorem document_of_apart (first : Json.Apart selection)
    (rest : ∀ name l, (name, .text l) ∈ r.params → Json.Apart l.content) :
    document Json.joined selection r = document id selection r := by
  have same : ∀ p ∈ r.params, paramValue Json.joined p.2 = paramValue id p.2 := by
    rintro ⟨name, p⟩ mem
    cases p with
    | text l => rw [paramValue, Json.joined_eq_self (rest name l mem), paramValue, id]
    | _ => rfl
  have params : (r.params.map fun p => (Text.ofString p.1, paramValue Json.joined p.2)) =
      r.params.map fun p => (Text.ofString p.1, paramValue id p.2) :=
    List.map_congr_left fun p mem => by rw [same p mem]
  rw [document, params, Json.joined_eq_self first, document, id]

/-- Four lists and objects stand in one another. -/
theorem readable_sentTree (selection : Text) (room : 4 ≤ depth)
    (short : ∀ name n, (name, .number n) ∈ r.params → ShortInt n) :
    (sentTree (some selection) r).Readable digitLimit depth := by
  obtain ⟨left, rfl⟩ := Nat.exists_eq_add_of_le' room
  have params : (Json.Tree.dict (r.params.map fun p => (Text.ofString p.1, paramTree p.2))).Readable
      digitLimit (left + 1) := by
    refine .dict ?_ ?_
    · simp only [List.map_map, Function.comp_def, Json.joined_ofString]
      have names := r.nodup_params.map (f := Text.ofString) fun _ _ => Text.ofString_inj.mp
      rwa [List.map_map] at names
    · intro e mem
      obtain ⟨⟨name, p⟩, sent, rfl⟩ := List.mem_map.mp mem
      cases p with
      | flag b => exact .bool b
      | number n => exact .int (short name n sent)
      | text l => exact .text l.content
  have request : (requestTree r).Readable digitLimit (left + 2) := by
    refine .dict ?_ ?_
    · simp only [List.map_cons, List.map_nil, Json.joined_ofString]
      decide
    · simp only [List.forall_mem_cons]
      exact ⟨.text _, params, List.forall_mem_nil _⟩
  refine .dict ?_ ?_
  · simp only [List.map_cons, List.map_nil, Json.joined_ofString]
    decide
  · simp only [List.forall_mem_cons]
    exact ⟨.text selection, .list (by simpa using request), List.forall_mem_nil _⟩

end Document

/-- What an argument of a call can be: what was read from the text of the arguments, or a moment. -/
def Argument (v : Value) : Prop := Json.Data maxDigits v ∨ ∃ d, v = .dateTime d

theorem Argument.brief {v : Value} (argument : Argument v) : v.Brief := by
  rcases argument with data | ⟨d, rfl⟩
  · exact data.brief
  · exact Value.brief_dateTime d

theorem argument_readMoment (name : Text) {v : Value} (data : Json.Data maxDigits v) :
    Argument (readMoment name v) := by
  unfold readMoment
  split
  · split
    · split
      · exact Or.inr ⟨_, rfl⟩
      · exact Or.inl data
    · exact Or.inl data
  · exact Or.inl data

theorem Asks.forall_argument {a : Action} {named : List (Text × Value)}
    (asks : Asks depth action arguments a named) (selection : Text) :
    ∀ e ∈ a.signature.bound [.text (.text selection)] named, Argument e.2 := by
  obtain ⟨-, entries, read, rfl⟩ := asks
  cases Json.data_of_read read with
  | dict each =>
    refine Signature.forall_bound ?_ ?_ ?_
    · intro v mem
      rw [List.mem_singleton.mp mem]
      exact Or.inl (.text selection)
    · intro e mem
      obtain ⟨entry, old, rfl⟩ := List.mem_map.mp mem
      exact argument_readMoment _ (each entry old)
    · intro p param
      rw [a.default_eq_none param]
      exact Or.inl .none

/-- No number in a request that is rendered is too long to be written. -/
theorem Makes.shortInt {a : Action} {named : List (Text × Value)} {r : Request}
    (makes : Makes depth scale action selection arguments a named r) {name : String} {n : Int}
    (sent : (name, .number n) ∈ r.params) : ShortInt n := by
  have each := makes.asked.forall_argument selection
  have value (name : String) :=
    Arguments.value_of_forall (P := Argument) (Or.inl .none) each name
  refine Action.shortInt_of_makeRequest (fun name => (value name).brief) ?_ makes.made sent
  intro es params
  rcases params ▸ value "params" with data | ⟨d, same⟩
  · cases data with
    | dict each => exact fun e mem => (each e mem).brief
  · cases same

/-- A session says yes to an action that is asked for. -/
structure Accepts (s : Session) (depth : Nat) (action selection arguments : Text) (a : Action)
    (named : List (Text × Value)) : Prop where
  asked : Asks depth action arguments a named
  fits : a.signature.Fits [.text (.text selection)] named
  yes : (s.call a [.text (.text selection)] named).2.outcome = .answered true

theorem Accepts.exists_makes {s : Session} (accepting : s.Accepting scale) {a : Action}
    {named : List (Text × Value)} (accepts : Accepts s depth action selection arguments a named) :
    ∃ r, Makes depth scale action selection arguments a named r ∧
      (s.call a [.text (.text selection)] named).2.sent = [(.text (.text selection), r)] := by
  obtain ⟨asked, fits, yes⟩ := accepts
  obtain ⟨made, unmade⟩ := accepting.call_eq fits rfl
  cases request : (a.makeRequest scale (a.signature.bound [.text (.text selection)] named)).2 with
  | ok r => exact ⟨r, ⟨asked, fits, request⟩, (made r request).2⟩
  | error f =>
    rw [unmade f request] at yes
    cases yes

theorem Makes.accepts {s : Session} (accepting : s.Accepting scale) {a : Action}
    {named : List (Text × Value)} {r : Request}
    (makes : Makes depth scale action selection arguments a named r) :
    Accepts s depth action selection arguments a named :=
  ⟨makes.asked, makes.fits, ((accepting.call_eq makes.fits rfl).1 r makes.made).1⟩

/-- A report agrees with a session about what is to be rendered from arguments in which lists and objects
may stand so deep in one another. -/
structure Agrees (s : Session) (depth : Nat) (action selection arguments : Text) (report : Report) :
    Prop where
  /-- The program finishes by itself, unless the arguments of a known action are too deep. -/
  finishes : report.ending = .finished 0 ∨ report.ending = .finished 1 ↔
    ¬ TooDeep depth action arguments
  /-- In that case it fails, for want of more depth. -/
  fails : TooDeep depth action arguments → ∃ message, report.ending = .failed "RecursionError" message
  /-- It finishes well just if the session says yes. -/
  accepts : report.ending = .finished 0 ↔
    ∃ a named, Accepts s depth action selection arguments a named
  /-- Then it shows one document, in which all numbers can be written, and which is read as the
  selection and the request that the session sends, but for halves that meet in a text. -/
  shows : ∀ a named, Accepts s depth action selection arguments a named →
    ∃ r, (s.call a [.text (.text selection)] named).2.sent = [(.text (.text selection), r)] ∧
      (∀ name n, (name, Param.number n) ∈ r.params → ShortInt n) ∧
      ∀ room, 4 ≤ room →
        Json.read (some digitLimit) room report.out = .ok (document Json.joined selection r) ∧
        (Json.Apart selection → (∀ name l, (name, Param.text l) ∈ r.params → Json.Apart l.content) →
          Json.read (some digitLimit) room report.out = .ok (document id selection r))
  /-- Otherwise it shows nothing. -/
  silent : report.ending ≠ .finished 0 → report.out = ""

section Perform

variable (m : Machine) (p : Progress) (c : Settings.Config)

theorem ending_perform_render (action : Text) (selection arguments : Option Text) :
    (perform m p c (.render action selection arguments)).ending =
      (render m.depth c.scale action selection arguments).2.1 := rfl

theorem out_perform_render (action : Text) (selection arguments : Option Text) :
    (perform m p c (.render action selection arguments)).out =
      (render m.depth c.scale action selection arguments).2.2 := rfl

theorem ending_of_makes {a : Action} {named : List (Text × Value)} {r : Request}
    (makes : Makes m.depth c.scale action selection arguments a named r) :
    (perform m p c (.render action (some selection) (some arguments))).ending = .finished 0 := by
  rw [ending_perform_render, render_of_makes makes]

theorem read_out_of_makes {a : Action} {named : List (Text × Value)} {r : Request}
    (makes : Makes m.depth c.scale action selection arguments a named r) {room : Nat}
    (le : 4 ≤ room) :
    Json.read (some digitLimit) room (perform m p c
      (.render action (some selection) (some arguments))).out =
      .ok (document Json.joined selection r) := by
  rw [out_perform_render, render_of_makes makes, ← value_sentTree]
  exact Json.read_write (readable_sentTree selection le fun _ _ => makes.shortInt)

theorem silent_of_tooDeep (tooDeep : TooDeep m.depth action arguments) :
    (∃ message, (perform m p c (.render action (some selection) (some arguments))).ending =
        .failed "RecursionError" message) ∧
      (perform m p c (.render action (some selection) (some arguments))).out = "" := by
  obtain ⟨message, failed⟩ : ∃ message,
      (render m.depth c.scale action (some selection) (some arguments)).2 =
        (Ending.failed "RecursionError" message, Text.ofString "") := render_of_tooDeep tooDeep
  rw [ending_perform_render, out_perform_render, failed]
  exact ⟨⟨message, rfl⟩, rfl⟩

theorem silent_of_not_makes (shallow : ¬ TooDeep m.depth action arguments)
    (none : ∀ a named r, ¬ Makes m.depth c.scale action selection arguments a named r) :
    (perform m p c (.render action (some selection) (some arguments))).ending = .finished 1 ∧
      (perform m p c (.render action (some selection) (some arguments))).out = "" := by
  rw [ending_perform_render, out_perform_render, render_of_not_makes shallow none]
  exact ⟨rfl, rfl⟩

theorem Makes.not_tooDeep {a : Action} {named : List (Text × Value)} {r : Request}
    (makes : Makes depth scale action selection arguments a named r) :
    ¬ TooDeep depth action arguments := by
  rintro ⟨-, c, deep⟩
  obtain ⟨entries, read, -⟩ := makes.asked.object
  cases read.symm.trans deep

/-- Rendering agrees with every session on the same scale whose provider consents. -/
theorem perform_render_agrees (action selection arguments : Text) {s : Session}
    (accepting : s.Accepting c.scale) :
    Agrees s m.depth action selection arguments
      (perform m p c (.render action (some selection) (some arguments))) := by
  by_cases makes : ∃ a named r, Makes m.depth c.scale action selection arguments a named r
  · obtain ⟨a, named, r, makes⟩ := makes
    have finished := ending_of_makes m p c makes
    have shallow := makes.not_tooDeep
    refine ⟨iff_of_true (Or.inl finished) shallow, fun deep => absurd deep shallow,
      iff_of_true finished ⟨a, named, makes.accepts accepting⟩, ?_, fun other => absurd finished other⟩
    intro b others accepts
    obtain ⟨r, makes, sent⟩ := accepts.exists_makes accepting
    refine ⟨r, sent, fun _ _ => makes.shortInt, fun room le => ?_⟩
    have read := read_out_of_makes m p c makes le
    refine ⟨read, fun first rest => ?_⟩
    rw [read, document_of_apart first rest]
  · have none : ∀ a named r, ¬ Makes m.depth c.scale action selection arguments a named r :=
      fun a named r made => makes ⟨a, named, r, made⟩
    have refused : ∀ a named, ¬ Accepts s m.depth action selection arguments a named := by
      intro a named accepts
      obtain ⟨r, made, -⟩ := accepts.exists_makes accepting
      exact none a named r made
    have unaccepted : ¬ ∃ a named, Accepts s m.depth action selection arguments a named := by
      rintro ⟨a, named, accepts⟩
      exact refused a named accepts
    by_cases tooDeep : TooDeep m.depth action arguments
    · obtain ⟨⟨message, failed⟩, silent⟩ := silent_of_tooDeep m p c tooDeep
      refine ⟨iff_of_false ?_ (not_not.mpr tooDeep), fun _ => ⟨message, failed⟩,
        iff_of_false ?_ unaccepted, fun a named accepts => absurd accepts (refused a named),
        fun _ => silent⟩ <;> rw [failed]
      · rintro (finished | finished) <;> cases finished
      · nofun
    · obtain ⟨finished, silent⟩ := silent_of_not_makes m p c tooDeep none
      refine ⟨iff_of_true (Or.inr finished) tooDeep, fun deep => absurd deep tooDeep,
        iff_of_false ?_ unaccepted, fun a named accepts => absurd accepts (refused a named),
        fun _ => silent⟩
      rw [finished]
      nofun

end Perform

section Samples

def sampleSession : Session := { scale := .fahrenheit, route := .provider }

def sampleConfig : Settings.Config :=
  ⟨.fahrenheit, "INFO", none, false, [], .initial, Settings.defaultSource sampleMachine.accounts⟩

def sampleStart : Progress := ⟨.initial .empty, ""⟩

def greeting : Text := "\x7b\"text\": \"hi\"\x7d"

/-- A message that is accepted and rendered. -/
theorem perform_render_message :
    sampleSession.Accepting sampleConfig.scale ∧
      Accepts sampleSession 900 "send-message" "home" greeting .sendMessage [("text", .string "hi")] ∧
      Agrees sampleSession 900 "send-message" "home" greeting (perform sampleMachine sampleStart
        sampleConfig (.render "send-message" (some "home") (some greeting))) := by
  have accepting : sampleSession.Accepting sampleConfig.scale := session_accepting .fahrenheit
  have read : Json.read (some digitLimit) 900 greeting = .ok (.dict [("text", .string "hi")]) := by cbv
  have asked : Asks 900 "send-message" greeting .sendMessage [("text", .string "hi")] :=
    ⟨rfl, _, read, rfl⟩
  have fits : Action.sendMessage.signature.Fits [.string "home"] [("text", .string "hi")] :=
    ((Action.signature_distinct _).bind_eq_ok_iff _ _ _).mp rfl |>.1
  exact ⟨accepting, ⟨asked, fits, rfl⟩,
    perform_render_agrees sampleMachine sampleStart sampleConfig _ _ _ accepting⟩

/-- A first half and a second half of a pair, which are not one character. -/
def halves : Text := ⟨[.ofNat 0xD83D, .ofNat 0xDC80]⟩

/-- Arguments in which the first half is escaped, and the second is not. -/
def halvedGreeting : Text := "\x7b\"text\": \"\\ud83d" ++ (⟨[.ofNat 0xDC80]⟩ : Text) ++ "\"\x7d"

theorem document_ne_of_sendMessage (selection : Text) (l : Label)
    (ne : Json.joined l.content ≠ l.content) :
    document Json.joined selection (.sendMessage l) ≠ document id selection (.sendMessage l) := by
  intro same
  simp only [document, Request.params, paramValue, List.map_cons, List.map_nil, Value.dict.injEq,
    Value.list.injEq, Value.text.injEq, Label.text.injEq, List.cons.injEq, Prod.mk.injEq,
    true_and, and_true, id] at same
  exact ne same.2

/-- Halves that meet are sent as they are, but what is shown is read with one character for both. -/
theorem render_joins_halves :
    Accepts sampleSession 900 "send_message" "home" halvedGreeting .sendMessage
        [("text", .text (.text halves))] ∧
      ∃ r, (sampleSession.call .sendMessage [.string "home"] [("text", .text (.text halves))]).2.sent =
          [(.string "home", r)] ∧
        (perform sampleMachine sampleStart sampleConfig
          (.render "send_message" (some "home") (some halvedGreeting))).ending = .finished 0 ∧
        ∃ shown, Json.read (some digitLimit) 900 (perform sampleMachine sampleStart sampleConfig
          (.render "send_message" (some "home") (some halvedGreeting))).out = .ok shown ∧
          shown ≠ document id "home" r := by
  have read : Json.read (some digitLimit) 900 halvedGreeting =
      .ok (.dict [("text", .text (.text halves))]) := by cbv
  have fits : Action.sendMessage.signature.Fits [.string "home"] [("text", .text (.text halves))] :=
    ((Action.signature_distinct _).bind_eq_ok_iff _ _ _).mp rfl |>.1
  have makes : Makes 900 .fahrenheit "send_message" "home" halvedGreeting .sendMessage
      [("text", .text (.text halves))] (.sendMessage (.text halves)) :=
    ⟨⟨rfl, _, read, rfl⟩, fits, rfl⟩
  obtain ⟨r, made, sent⟩ := (makes.accepts (session_accepting _)).exists_makes (session_accepting _)
  have same := made.made.symm.trans makes.made
  cases same
  refine ⟨makes.accepts (session_accepting _), _, sent,
    ending_of_makes sampleMachine sampleStart sampleConfig makes, _,
    read_out_of_makes sampleMachine sampleStart sampleConfig makes (by decide), ?_⟩
  exact document_ne_of_sendMessage "home" (.text halves) (by decide)

end Samples

end CommandLine

end Thermostat
