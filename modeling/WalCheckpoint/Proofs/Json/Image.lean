import WalCheckpoint.Proofs.Value.Numerals

namespace WalCheckpoint

/-! What keeps a value out of JSON: a number with too many digits, or a key that is no name. -/

namespace Value

/-- Keys that have a name in JSON. -/
def isName : Value → Bool
  | .null | .bool _ | .int _ | .float _ | .string _ | .broken _ => true
  | _ => false

mutual
def hasNames : Value → Bool
  | .list items => haveNames items
  | .pair first second => hasNames first && hasNames second
  | .map entries => haveNamesEntries entries
  | _ => true
termination_by structural value => value

def haveNames : List Value → Bool
  | [] => true
  | item :: rest => hasNames item && haveNames rest
termination_by structural items => items

def haveNamesEntries : List (Value × Value) → Bool
  | [] => true
  | (key, value) :: rest => isName key && hasNames value && haveNamesEntries rest
termination_by structural entries => entries
end

theorem haveNames_iff (items : List Value) :
    haveNames items = true ↔ ∀ item ∈ items, item.hasNames = true := by
  induction items with
  | nil => simp [haveNames]
  | cons item rest induction => simp [haveNames, induction]

end Value

namespace Mapping

theorem ofFields_cons (field : String × Value) (fields : List (String × Value)) :
    ofFields (field :: fields) = (.string field.1, field.2) :: ofFields fields := rfl

theorem isTellable_ofFields (fields : List (String × Value)) :
    (Value.map (ofFields fields)).isTellable = fields.all fun field => field.2.isTellable := by
  induction fields with
  | nil => rfl
  | cons field rest induction =>
      rw [List.all_cons, ← induction]
      rfl

theorem hasNames_ofFields (fields : List (String × Value)) :
    (Value.map (ofFields fields)).hasNames = fields.all fun field => field.2.hasNames := by
  induction fields with
  | nil => rfl
  | cons field rest induction =>
      rw [List.all_cons, ← induction]
      rfl

end Mapping

namespace Json

theorem keyName?_eq {key : Value} (named : key.isName = true) :
    ∃ name, keyName? key = if key.isTellable then .ok name else .error .numeral := by
  cases key with
  | int n =>
      rw [Value.isTellable_int]
      unfold keyName?
      dsimp only
      cases Text.Numeral.write? n with
      | none => exact ⟨.null, rfl⟩
      | some text => exact ⟨.string text, rfl⟩
  | null => exact ⟨_, rfl⟩
  | bool b => exact ⟨_, rfl⟩
  | float x => exact ⟨_, rfl⟩
  | string s => exact ⟨_, rfl⟩
  | broken text => exact ⟨_, rfl⟩
  | _ => contradiction

theorem image?_int (n : Int) :
    image? (.int n) = if (Value.int n).isTellable then .ok (.int n) else .error .numeral := by
  rw [Value.isTellable_int, image?.eq_def]
  dsimp only
  cases Text.Numeral.write? n with
  | none => rfl
  | some text => rfl

theorem image?_set (members : List Value) :
    ∃ image, image? (.set members) =
      if (Value.set members).isTellable then .ok image else .error .numeral := by
  rw [image?.eq_def, ← Value.display?_isSome]
  dsimp only
  cases (Value.set members).display? with
  | none => exact ⟨.null, rfl⟩
  | some text => exact ⟨.string text, rfl⟩

mutual
theorem image?_eq : (v : Value) → v.hasNames = true →
    ∃ image, image? v = if v.isTellable then .ok image else .error .numeral
  | .null, _ => ⟨_, rfl⟩
  | .bool _, _ => ⟨_, rfl⟩
  | .int n, _ => ⟨_, image?_int n⟩
  | .float _, _ => ⟨_, rfl⟩
  | .string _, _ => ⟨_, rfl⟩
  | .broken _, _ => ⟨_, rfl⟩
  | .bytes _, _ => ⟨_, rfl⟩
  | .pair first second, named => by
      obtain ⟨here, there⟩ := Bool.and_eq_true_iff.mp named
      obtain ⟨image, written⟩ := image?_eq first here
      obtain ⟨image', written'⟩ := image?_eq second there
      refine ⟨.list [image, image'], ?_⟩
      rw [image?.eq_def]
      dsimp only
      rw [written, written', Value.isTellable]
      cases first.isTellable <;> cases second.isTellable <;> rfl
  | .set members, _ => image?_set members
  | .list items, named => by
      obtain ⟨images, written⟩ := imageItems?_eq items named
      refine ⟨.list images, ?_⟩
      rw [image?.eq_def]
      dsimp only
      rw [written, Value.isTellable]
      cases Value.areTellable items <;> rfl
  | .map entries, named => by
      obtain ⟨images, written⟩ := imageEntries?_eq entries named
      refine ⟨.map (Mapping.ofEntries images), ?_⟩
      rw [image?.eq_def]
      dsimp only
      rw [written, Value.isTellable]
      cases Value.areTellableEntries entries <;> rfl
  | .date _, _ => ⟨_, rfl⟩
  | .dateTime _, _ => ⟨_, rfl⟩
  | .enclosing _, _ => ⟨_, rfl⟩

theorem imageItems?_eq : (items : List Value) → Value.haveNames items = true →
    ∃ images, imageItems? items = if Value.areTellable items then .ok images else .error .numeral
  | [], _ => ⟨_, rfl⟩
  | item :: rest, named => by
      obtain ⟨here, later⟩ := Bool.and_eq_true_iff.mp named
      obtain ⟨image, written⟩ := image?_eq item here
      obtain ⟨images, others⟩ := imageItems?_eq rest later
      refine ⟨image :: images, ?_⟩
      rw [imageItems?, written, others, Value.areTellable]
      cases item.isTellable <;> cases Value.areTellable rest <;> rfl

theorem imageEntries?_eq : (entries : List (Value × Value)) →
    Value.haveNamesEntries entries = true → ∃ images, imageEntries? entries =
      if Value.areTellableEntries entries then .ok images else .error .numeral
  | [], _ => ⟨_, rfl⟩
  | (key, value) :: rest, named => by
      obtain ⟨here, later⟩ := Bool.and_eq_true_iff.mp named
      obtain ⟨hkey, hvalue⟩ := Bool.and_eq_true_iff.mp here
      obtain ⟨name, told⟩ := keyName?_eq hkey
      obtain ⟨image, written⟩ := image?_eq value hvalue
      obtain ⟨images, others⟩ := imageEntries?_eq rest later
      refine ⟨(name, image) :: images, ?_⟩
      rw [imageEntries?, told, written, others, Value.areTellableEntries]
      cases key.isTellable <;> cases value.isTellable <;>
        cases Value.areTellableEntries rest <;> rfl
end

end Json

end WalCheckpoint
