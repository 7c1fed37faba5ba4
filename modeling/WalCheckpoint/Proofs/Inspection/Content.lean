import WalCheckpoint.Inspection.StoredOffset
import WalCheckpoint.Proofs.Log.Telling
import WalCheckpoint.Proofs.Document

namespace WalCheckpoint

/-! What a file holds for an inspection, and what reading it makes of that. -/

theorem Value.hasNames_of_isScalar {v : Value} (scalar : v.isScalar = true) :
    v.hasNames = true := by
  cases v <;> first | rfl | contradiction

namespace StoredOffset

inductive Content where
  | unreadable (error : Files.OpenError)
  | malformed (fault : Yaml.Fault)
  | other (document : Value)
  | offset (stored : Mapping)

/-- An empty document stands for an empty offset. -/
def Content.ofValue : Value → Content
  | .null => .offset []
  | .map stored => .offset stored
  | document => .other document

def content (documents : Yaml.Reader) (files : Files) (path : String) : Content :=
  match files.bytes path with
  | .error error => .unreadable error
  | .ok bytes =>
      match documents.read bytes with
      | .error fault => .malformed fault
      | .ok document => .ofValue document.value

/-- The outcome of reading a file, by what it holds. -/
def Content.outcome (path : String) : Content → Outcome
  | .unreadable error => ⟨[], .error (.unreadable error)⟩
  | .malformed fault => ⟨[], .error (.malformed fault)⟩
  | .other _ => ⟨[], .error (.notMapping path)⟩
  | .offset stored => ofMapping path stored

theorem ofMapping_of_known {stored : Mapping} (known : unknownKeys stored = []) (path : String) :
    ofMapping path stored = ⟨[], .ok stored⟩ := by
  have none : Value.sort? [] = some [] := by
    rw [Value.sort?, if_pos (by rfl)]
    exact congrArg some List.mergeSort_nil
  rw [ofMapping, known, none]

theorem outcome_ofValue (path : String) (v : Value) :
    (Content.ofValue v).outcome path = ofValue path v := by
  cases v with
  | null => exact ofMapping_of_known rfl path
  | _ => rfl

section Read

variable {documents : Yaml.Reader} {files : Files} {path : String}

theorem read_eq_outcome (documents : Yaml.Reader) (files : Files) (path : String) :
    read documents files path = (content documents files path).outcome path := by
  rw [read, content]
  cases files.bytes path with
  | error error => rfl
  | ok bytes =>
      dsimp only
      cases documents.read bytes with
      | error fault => rfl
      | ok document => exact (outcome_ofValue path document.value).symm

theorem content_of_read {bytes : ByteArray} {document : Document} {stored : Mapping}
    (found : files.bytes path = .ok bytes) (read : documents.read bytes = .ok document)
    (held : document.value = .map stored) :
    content documents files path = .offset stored := by
  rw [content, found]
  dsimp only
  rw [read]
  dsimp only
  rw [held]
  rfl

theorem Content.ofValue_eq_offset {v : Value} {stored : Mapping}
    (held : ofValue v = .offset stored) : v = .null ∧ stored = [] ∨ v = .map stored := by
  cases v with
  | null => exact .inl ⟨rfl, (Content.offset.inj held).symm⟩
  | map m => exact .inr (congrArg Value.map (Content.offset.inj held))
  | _ => contradiction

theorem hasScalarKeys_of_content (held : content documents files path = .offset stored) :
    Keyed.HasScalarKeys stored := by
  rw [content] at held
  cases found : files.bytes path with
  | error error => rw [found] at held; contradiction
  | ok bytes =>
      rw [found] at held
      dsimp only at held
      cases read : documents.read bytes with
      | error fault => rw [read] at held; contradiction
      | ok document =>
          rw [read] at held
          obtain ⟨-, rfl⟩ | mapping := Content.ofValue_eq_offset held
          · exact .nil
          · exact documents.hasScalarKeys bytes document stored read mapping

end Read

/-- The warning about keys that no offset has can be told as far as they can. -/
theorem ofMapping_of_comparable {stored : Mapping} (scalar : Keyed.HasScalarKeys stored)
    (comparable : Value.areComparable (unknownKeys stored) = true) (path : String) :
    ∃ events, ofMapping path stored = ⟨events, .ok stored⟩ ∧
      (∀ event ∈ events, Log.Ordinary event.fields) ∧
      events.all Log.Event.isTellable = Value.areTellable (unknownKeys stored) := by
  have perm := List.mergeSort_perm (unknownKeys stored) Value.notAfter
  rw [ofMapping, Value.sort?, if_pos comparable, ← Value.areTellable_eq_of_perm perm]
  cases sorted : (unknownKeys stored).mergeSort Value.notAfter with
  | nil => exact ⟨[], rfl, nofun, rfl⟩
  | cons key rest =>
      rw [sorted] at perm
      have named : (Value.list (key :: rest)).hasNames = true := by
        refine (Value.haveNames_iff _).mpr fun v member => ?_
        have unknown : v ∈ unknownKeys stored := perm.mem_iff.mp member
        obtain ⟨entry, held, rfl⟩ := List.mem_map.mp (List.mem_filter.mp unknown).1
        exact Value.hasNames_of_isScalar (scalar entry held)
      refine ⟨_, rfl, ?_, ?_⟩
      · intro event member
        obtain rfl := List.mem_singleton.mp member
        exact .cons (by decide) rfl (.cons (by decide) named .nil)
      · simp only [List.all_cons, List.all_nil, Log.Event.isTellable, hasUnknownKeys, Bool.and_true]
        exact Bool.true_and _

theorem ofMapping_of_incomparable {stored : Mapping}
    (incomparable : Value.areComparable (unknownKeys stored) = false) (path : String) :
    ofMapping path stored = ⟨[], .error .incomparableKeys⟩ := by
  rw [ofMapping, Value.sort?, if_neg (by simp [incomparable])]

end StoredOffset

end WalCheckpoint
