import Thermostat.Proofs.Vocabulary
import Thermostat.Request.Build

/-! Messages. What is sent is the beginning of the text that was given; it is a text that can be sent
itself just if something can be seen in it. -/
namespace Thermostat.Request

/-- The text that is sent for one that is given. -/
def messageOf (given : Label) : Label :=
  if maxMessageLength < given.length then .text (given.content.take maxMessageLength) else given

theorem messageOf_of_le {given : Label} (short : given.length ≤ maxMessageLength) :
    messageOf given = given := if_neg (Nat.not_lt.mpr short)

theorem messageOf_of_lt {given : Label} (long : maxMessageLength < given.length) :
    messageOf given = .text (given.content.take maxMessageLength) := if_pos long

theorem points_messageOf (given : Label) :
    (messageOf given).content.points = given.content.points.take maxMessageLength := by
  by_cases long : maxMessageLength < given.length
  · rw [messageOf_of_lt long]
    rfl
  · have short := Nat.le_of_not_lt long
    rw [messageOf_of_le short, List.take_of_length_le short]

theorem length_messageOf_le (given : Label) : (messageOf given).length ≤ maxMessageLength := by
  change (messageOf given).content.points.length ≤ maxMessageLength
  rw [points_messageOf, List.length_take]
  exact Nat.min_le_left _ _

/-- What is sent is not cut again. -/
theorem messageOf_messageOf (given : Label) : messageOf (messageOf given) = messageOf given :=
  messageOf_of_le (length_messageOf_le given)

theorem ofSendMessage_eq_ok_iff {given : Label} {r : Request} :
    (ofSendMessage (.text given)).2 = .ok r ↔
      Text.isBlankText given.content = false ∧ r = .sendMessage (messageOf given) := by
  cases blank : Text.isBlankText given.content with
  | true => simp [ofSendMessage, Field.requireText, blank, refuse]
  | false =>
    have accepted : Field.requireText (.text given) "text" = .ok given :=
      Field.requireText_eq_ok_iff.mpr ⟨rfl, blank⟩
    unfold ofSendMessage messageOf
    rw [accepted]
    dsimp only
    split <;> simp [eq_comm]

theorem requireText_of_isBlankText {given : Label} (blank : Text.isBlankText given.content = true)
    (parameter : Text) : Field.requireText (.text given) parameter = refuse (.missing parameter) :=
  if_pos blank

theorem ofSendMessage_of_isBlankText {given : Label} (blank : Text.isBlankText given.content = true) :
    (ofSendMessage (.text given)).2 = refuse (.missing "text") := by
  unfold ofSendMessage
  rw [requireText_of_isBlankText blank]
  rfl

/-- A message that is long enough hides what comes behind it. -/
theorem ofSendMessage_of_append {front rest : List CodePoint} {p : CodePoint}
    (length : front.length = maxMessageLength) (mem : p ∈ rest)
    (visible : Text.isBlankPoint p = false) :
    (ofSendMessage (.text (.text ⟨front ++ rest⟩))).2 = .ok (.sendMessage (.text ⟨front⟩)) := by
  have positive := List.length_pos_of_mem mem
  have long : maxMessageLength < Label.length (.text ⟨front ++ rest⟩) := by
    change maxMessageLength < (front ++ rest).length
    rw [List.length_append, length]
    exact Nat.lt_add_of_pos_right positive
  have cut : (front ++ rest).take maxMessageLength = front := List.take_left' length
  refine ofSendMessage_eq_ok_iff.mpr ⟨?_, ?_⟩
  · refine List.all_eq_false.mpr ⟨p, List.mem_append_right front mem, ?_⟩
    rw [visible]
    exact Bool.false_ne_true
  · rw [messageOf_of_lt long]
    change _ = Request.sendMessage (.text ⟨(front ++ rest).take maxMessageLength⟩)
    rw [cut]

/-- A text is sent from its beginning, as far as a message may go. -/
structure Beginning (given sent : Label) : Prop where
  front : sent.content.points <+: given.content.points
  short : sent.length ≤ maxMessageLength
  whole : given.length ≤ maxMessageLength → sent = given

theorem beginning_messageOf (given : Label) : Beginning given (messageOf given) where
  front := points_messageOf given ▸ List.take_prefix _ _
  short := length_messageOf_le given
  whole := messageOf_of_le

/-- Something can be seen in the part of a text that is sent. -/
def Visible (given : Label) : Prop :=
  ∃ p ∈ given.content.points.take maxMessageLength, Text.isBlankPoint p = false

theorem visible_iff {given : Label} :
    Visible given ↔ Text.isBlankText (messageOf given).content = false := by
  rw [Text.isBlankText, points_messageOf, List.all_eq_false]
  simp only [Bool.not_eq_true, Visible]

/-- What is sent for a text is its beginning. The beginning is accepted as a text, and makes the same
message again, just if something can be seen in it. -/
theorem ofSendMessage_sends {given : Label} {r : Request}
    (made : (ofSendMessage (.text given)).2 = .ok r) :
    ∃ sent, r.params = [("text", .text sent)] ∧ Beginning given sent ∧
      (Field.requireText (.text sent) "text" = .ok sent ↔ Visible given) ∧
      ((ofSendMessage (.text sent)).2 = .ok r ↔ Visible given) := by
  obtain ⟨-, rfl⟩ := ofSendMessage_eq_ok_iff.mp made
  refine ⟨messageOf given, rfl, beginning_messageOf given, ?_, ?_⟩
  · rw [Field.requireText_eq_ok_iff, visible_iff, and_iff_right rfl]
  · rw [ofSendMessage_eq_ok_iff, messageOf_messageOf, visible_iff, and_iff_left rfl]

/-- A message that is one letter too long. -/
theorem ofSendMessage_sends_long :
    (ofSendMessage (.text (.text ⟨List.replicate maxMessageLength (.char 'x') ++ [.char 'y']⟩))).2 =
        .ok (.sendMessage (.text ⟨List.replicate maxMessageLength (.char 'x')⟩)) ∧
      ∃ sent, (Request.sendMessage (.text ⟨List.replicate maxMessageLength (.char 'x')⟩)).params =
          [("text", .text sent)] ∧
        Beginning (.text ⟨List.replicate maxMessageLength (.char 'x') ++ [.char 'y']⟩) sent ∧
        (Field.requireText (.text sent) "text" = .ok sent ↔
          Visible (.text ⟨List.replicate maxMessageLength (.char 'x') ++ [.char 'y']⟩)) ∧
        ((ofSendMessage (.text sent)).2 =
            .ok (.sendMessage (.text ⟨List.replicate maxMessageLength (.char 'x')⟩)) ↔
          Visible (.text ⟨List.replicate maxMessageLength (.char 'x') ++ [.char 'y']⟩)) := by
  have length : (List.replicate maxMessageLength (CodePoint.char 'x')).length = maxMessageLength :=
    List.length_replicate
  have made := ofSendMessage_of_append length (List.mem_singleton_self (.char 'y')) (by decide)
  exact ⟨made, ofSendMessage_sends made⟩

/-- Five hundred blanks before a letter are all that is sent, and they could not be sent by themselves. -/
theorem not_resendable_blanks :
    ∃ r sent,
      (ofSendMessage (.text (.text ⟨List.replicate maxMessageLength (.char ' ') ++ [.char 'x']⟩))).2 =
        .ok r ∧
      r.params = [("text", .text sent)] ∧
      Field.requireText (.text sent) "text" = refuse (.missing "text") ∧
      (ofSendMessage (.text sent)).2 = refuse (.missing "text") := by
  have length : (List.replicate maxMessageLength (CodePoint.char ' ')).length = maxMessageLength :=
    List.length_replicate
  have made := ofSendMessage_of_append length (List.mem_singleton_self (.char 'x')) (by decide)
  have blank : Text.isBlankText
      (Label.content (.text ⟨List.replicate maxMessageLength (.char ' ')⟩)) = true :=
    Text.isBlankText_iff.mpr fun p mem => by
      rw [List.eq_of_mem_replicate mem]
      decide
  refine ⟨_, .text ⟨List.replicate maxMessageLength (.char ' ')⟩, made, rfl, ?_, ?_⟩
  · exact requireText_of_isBlankText blank _
  · exact ofSendMessage_of_isBlankText blank

end Thermostat.Request
