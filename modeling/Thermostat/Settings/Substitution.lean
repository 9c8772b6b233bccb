import Thermostat.Settings.Store

/-! References between settings: a value may name another one, which then stands in its place. -/
namespace Thermostat.Settings

inductive Piece
  | point (p : CodePoint)
  | reference (name : Text)
  | flaw (f : Fault)

/-- The pieces of a value, up to the first flaw; at most so many pieces are made. -/
def pieces : Nat → List CodePoint → List Piece
  | 0, _ => []
  | fuel + 1, ps =>
    match ps with
    | [] => []
    | .char '%' :: .char '%' :: rest => .point (.char '%') :: pieces fuel rest
    | .char '%' :: .char '(' :: _ =>
      match Store.afterReference? ps with
      | some (name, rest) => .reference name :: pieces fuel rest
      | none => [.flaw (.openReference ⟨ps⟩)]
    | .char '%' :: _ => [.flaw (.strayPercent ⟨ps⟩)]
    | p :: rest => .point p :: pieces fuel rest

/-- A value with all references replaced, following them at most so many steps. -/
def expand (s : Store) (name option raw : Text) : Nat → Text → Except Fault Text
  | 0, _ => .error (.endlessReference name option raw)
  | depth + 1, value =>
    (pieces value.length value.points).foldlM (fun done piece =>
      match piece with
      | .point p => .ok (done ++ ⟨[p]⟩)
      | .flaw f => .error f
      | .reference reference =>
        let key := optionName reference
        match s.raw? name key with
        | none => .error (.unknownReference name option key raw)
        | some v =>
          if v.points.contains (.char '%') then do
            .ok (done ++ (← expand s name option raw depth v))
          else .ok (done ++ v)) ""

/-- The value of an option with all references replaced; nothing where there is no such option. -/
def Store.value (s : Store) (name option : Text) : Except Fault Text :=
  match s.raw? name option with
  | none => .ok ""
  | some raw => expand s name option raw maxDepth raw

end Thermostat.Settings
