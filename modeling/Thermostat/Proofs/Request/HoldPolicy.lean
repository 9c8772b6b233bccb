import Thermostat.Proofs.Action.Descriptor
import Thermostat.Proofs.Hold.Policy
import Thermostat.Proofs.Request.Payload

/-! One policy for the three kinds of requests that take a hold: which terms they accept, what they
send of them, and how they refuse the others. -/
namespace Thermostat

open Vocabulary

namespace RequestKind

/-- Arguments are valid, whatever they say of the hold. -/
def OwnValid (k : RequestKind) (a : Arguments) : Prop :=
  match k with
  | .controlPlug =>
    (∃ l, a.value "plug_name" = .text l ∧ Text.isBlankText l.content = false) ∧
      ∃ s : PlugState, Names (a.value "plug_state") s
  | .setHold => ∃ slots ignored, a.value "event" = .event slots ignored
  | .setOccupied => ∃ b, a.value "occupied" = .bool b
  | _ => True

end RequestKind

namespace Params

end Params

namespace Hold

theorem names_fields (h : Hold) : h.fields.map (·.1) = RequestKind.holdNames := rfl

theorem get?_params (h : Hold) (name : String) :
    Entries.get? h.params name = (Entries.get? h.fields name).join := by
  rw [params_eq]
  exact Params.get?_ofFields (by rw [names_fields]; decide) name

end Hold

/-- The making of a request that takes a hold, from arguments that fit and are valid but for what they
say of the hold. -/
structure HoldCall where
  kind : RequestKind
  placed : List Value
  named : List (Text × Value)
  takes : kind.takesHold = true
  fits : kind.signature.Fits placed named
  own : kind.OwnValid (kind.signature.bound placed named)

namespace HoldCall

def arguments (c : HoldCall) : Arguments := c.kind.signature.bound c.placed c.named

def terms (c : HoldCall) : Terms := c.arguments.terms

def Yields (c : HoldCall) (result : Except Fault Request) : Prop :=
  ∃ records, c.kind.construct c.placed c.named = .ok (records, result)

variable {c : HoldCall}

end HoldCall

end Thermostat
