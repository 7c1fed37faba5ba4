import WalCheckpoint.Value

namespace WalCheckpoint.Mapping

/-! One mapping laid over another: where both hold a mapping under one key, these are laid
over each other, and elsewhere the upper value stands. -/

mutual
def overlayValue (lower : Option Value) : Value → Value
  | .map upper =>
      match lower with
      | some (.map lower) => .map (overlay lower upper)
      | _ => .map upper
  | upper => upper
termination_by structural upper => upper

def overlay (lower : Mapping) : List (Value × Value) → Mapping
  | [] => lower
  | (key, upper) :: rest =>
      overlay (Keyed.insert key (overlayValue (Keyed.get? lower key) upper) lower) rest
termination_by structural upper => upper
end

@[simp] theorem overlay_nil (lower : Mapping) : overlay lower [] = lower := rfl

@[simp] theorem overlay_cons (lower : Mapping) (key upper : Value) (rest : Mapping) :
    overlay lower ((key, upper) :: rest) =
      overlay (Keyed.insert key (overlayValue (Keyed.get? lower key) upper) lower) rest := rfl

end WalCheckpoint.Mapping
