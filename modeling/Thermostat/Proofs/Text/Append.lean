import Thermostat.Text.Point

/-! Texts one after the other: what is written behind or before a text can be told from the whole. -/
namespace Thermostat.Text

theorem ext_points {a b : Text} (same : a.points = b.points) : a = b := by
  cases a
  cases b
  exact congrArg Text.mk same

theorem ofString_append (s t : String) : ofString (s ++ t) = ofString s ++ ofString t := by
  refine ext_points ?_
  rw [ofString, String.toList_append, List.map_append]
  rfl

theorem append_assoc (a b c : Text) : a ++ b ++ c = a ++ (b ++ c) :=
  ext_points (List.append_assoc a.points b.points c.points)

theorem append_right_inj (a : Text) {b c : Text} : a ++ b = a ++ c ↔ b = c := by
  constructor
  · intro same
    exact ext_points (List.append_cancel_left (congrArg Text.points same))
  · exact congrArg (a ++ ·)

theorem append_left_inj (a : Text) {b c : Text} : b ++ a = c ++ a ↔ b = c := by
  constructor
  · intro same
    exact ext_points (List.append_cancel_right (congrArg Text.points same))
  · exact congrArg (· ++ a)

end Thermostat.Text
