import WalCheckpoint.Proofs.Document
import WalCheckpoint.Proofs.Yaml.FlowMapping

namespace WalCheckpoint.Yaml

open Json.Layout (Blank)

/-! The nodes that the tokens of a mapping's fields give, and the document that these nodes make
up. -/

namespace Node

/-- The nodes of the fields of a mapping, whatever their numbers. -/
inductive Fields : List (String × Value) → List Entry → Prop
  | nil : Fields [] []
  | cons {name : String} {value : Value} {fields : List (String × Value)} {entries : List Entry}
      (number number' : Nat) (more : Fields fields entries) :
      Fields ((name, value) :: fields)
        ((.scalar number .text (.sound name),
          .scalar number' (.ofPlain (valueText value)) (.sound (valueText value))) :: entries)

section Reading

variable (fuel : Nat) (tokens : List Token) (anchors : List (String × Nat))
  (handles : List (String × String))

theorem readFlowEntries_end (isFirst : Bool) :
    readFlowEntries (fuel + 1) isFirst ⟨.flowMappingEnd :: tokens, anchors, handles⟩ =
      .ok ([], ⟨tokens, anchors, handles⟩) := rfl

theorem readFlowEntries_comma :
    readFlowEntries (fuel + 1) false ⟨.flowEntry :: .key :: tokens, anchors, handles⟩ =
      readFlowEntries (fuel + 1) true ⟨.key :: tokens, anchors, handles⟩ := rfl

theorem read_scalar (text : Text.Loose) (isPlain : Bool) :
    ∃ number, read (fuel + 2) .flow ⟨.scalar text isPlain :: tokens, anchors, handles⟩ =
      .ok (.scalar number (scalarTag none text isPlain) text, ⟨tokens, anchors, handles⟩) :=
  ⟨_, rfl⟩

theorem readUnless_scalar (text : Text.Loose) (isPlain : Bool) {isEnd : Token → Bool}
    (goesOn : isEnd (.scalar text isPlain) = false) :
    ∃ number, readUnless (fuel + 3) isEnd .flow ⟨.scalar text isPlain :: tokens, anchors, handles⟩ =
      .ok (.scalar number (scalarTag none text isPlain) text, ⟨tokens, anchors, handles⟩) := by
  obtain ⟨number, read⟩ := read_scalar fuel tokens anchors handles text isPlain
  refine ⟨number, ?_⟩
  rw [readUnless, ← read]
  exact if_neg (by rw [Reading.head]; simp [goesOn])

/-- The value of an entry lies four steps deeper than the entry. -/
theorem readFlowEntries_entry (name text : String) :
    ∃ number number', readFlowEntries (fuel + 5) true ⟨.key :: .scalar (.sound name) false ::
        .value :: .scalar (.sound text) true :: tokens, anchors, handles⟩ =
      (readFlowEntries (fuel + 4) false ⟨tokens, anchors, handles⟩).map fun read =>
        ((.scalar number .text (.sound name),
          .scalar number' (.ofPlain text) (.sound text)) :: read.1, read.2) := by
  obtain ⟨number, key⟩ := readUnless_scalar (fuel + 1)
    (.value :: .scalar (.sound text) true :: tokens) anchors handles (.sound name) false
    (show endsFlowPart .flowMappingEnd _ = false from rfl)
  obtain ⟨number', value⟩ := readUnless_scalar fuel tokens anchors handles (.sound text) true
    (show endsFlowValue .flowMappingEnd _ = false from rfl)
  refine ⟨number, number', ?_⟩
  have parts : readFlowEntries (fuel + 5) true ⟨.key :: .scalar (.sound name) false ::
      .value :: .scalar (.sound text) true :: tokens, anchors, handles⟩ =
        (readUnless (fuel + 4) (endsFlowPart .flowMappingEnd) .flow
            ⟨.scalar (.sound name) false :: .value :: .scalar (.sound text) true :: tokens,
              anchors, handles⟩ >>= fun key =>
          readValue (fuel + 4) (endsFlowValue .flowMappingEnd) .flow key.2 >>= fun value =>
          (readFlowEntries (fuel + 4) false value.2).map fun read =>
            ((key.1, value.1) :: read.1, read.2)) := rfl
  rw [parts, key]
  have toValue : readValue (fuel + 4) (endsFlowValue .flowMappingEnd) .flow
      ⟨.value :: .scalar (.sound text) true :: tokens, anchors, handles⟩ =
        readUnless (fuel + 3) (endsFlowValue .flowMappingEnd) .flow
          ⟨.scalar (.sound text) true :: tokens, anchors, handles⟩ := rfl
  simp only [bind, Except.bind, toValue, value, scalarTag, Tag.ofLoose, Bool.false_eq_true,
    if_false, if_true]

/-- A mapping without an anchor and a tag is its content. -/
theorem read_flowMapping :
    ∃ number, read (fuel + 2) .item ⟨.flowMappingStart :: tokens, anchors, handles⟩ =
      (readFlowEntries fuel true ⟨tokens, anchors, handles⟩).map fun read =>
        (.mapping number .mapping read.1, read.2) := ⟨_, rfl⟩

end Reading

theorem readFlowEntries_fieldTokens (fields : List (String × Value)) (fuel : Nat)
    (rest : List Token) (anchors : List (String × Nat)) (handles : List (String × String)) :
    ∃ entries, Fields fields entries ∧
      readFlowEntries (fields.length + fuel + 4) true
          ⟨fieldTokens fields ++ .flowMappingEnd :: rest, anchors, handles⟩ =
        .ok (entries, ⟨rest, anchors, handles⟩) := by
  induction fields with
  | nil => exact ⟨[], .nil, readFlowEntries_end _ rest anchors handles true⟩
  | cons field more induction =>
      have deeper : (field :: more).length + fuel + 4 = more.length + fuel + 5 := by
        rw [List.length_cons]
        omega
      rw [deeper]
      obtain ⟨entries, later, read⟩ := induction
      cases more with
      | nil =>
          cases later
          rw [fieldTokens]
          simp only [List.cons_append, List.nil_append]
          obtain ⟨number, number', entry⟩ := readFlowEntries_entry ([].length + fuel)
            (.flowMappingEnd :: rest) anchors handles field.1 (valueText field.2)
          rw [entry, readFlowEntries_end]
          exact ⟨_, .cons number number' .nil, rfl⟩
      | cons next more =>
          obtain ⟨tokens, begins⟩ : ∃ tokens, fieldTokens (next :: more) = .key :: tokens := by
            cases more <;> exact ⟨_, rfl⟩
          rw [begins, List.cons_append] at read
          rw [fieldTokens, begins]
          simp only [List.cons_append]
          obtain ⟨number, number', entry⟩ := readFlowEntries_entry ((next :: more).length + fuel)
            (.flowEntry :: .key :: (tokens ++ .flowMappingEnd :: rest)) anchors handles field.1
            (valueText field.2)
          rw [entry, readFlowEntries_comma, read]
          exact ⟨_, .cons number number' later, rfl⟩

theorem length_fieldTokens (fields : List (String × Value)) :
    fields.length ≤ (fieldTokens fields).length := by
  induction fields with
  | nil => exact Nat.le_refl _
  | cons field more induction =>
      cases more with
      | nil => exact Nat.le_add_left 1 3
      | cons next more =>
          rw [fieldTokens]
          simp only [List.length_cons] at induction ⊢
          omega

theorem ofTokens?_fieldTokens (fields : List (String × Value)) :
    ∃ number entries, Fields fields entries ∧
      ofTokens? (.flowMappingStart :: (fieldTokens fields ++ [.flowMappingEnd, .streamEnd])) =
        .ok (some (.mapping number .mapping entries)) := by
  obtain ⟨spare, enough⟩ := Nat.exists_eq_add_of_le (length_fieldTokens fields)
  obtain ⟨fuel, deep⟩ : ∃ fuel, 3 * (Token.flowMappingStart ::
      (fieldTokens fields ++ [.flowMappingEnd, .streamEnd])).length + 3 =
        fields.length + fuel + 4 + 2 := by
    refine ⟨2 * fields.length + 3 * spare + 6, ?_⟩
    simp only [List.length_cons, List.length_append, List.length_nil]
    omega
  obtain ⟨entries, named, read⟩ :=
    readFlowEntries_fieldTokens fields fuel [.streamEnd] [] defaultHandles
  rw [ofTokens?, deep, if_neg (by simp)]
  simp only [List.head?_cons, Option.any_some, beginsDocument, Bool.false_eq_true, if_false]
  obtain ⟨number, mapping⟩ := read_flowMapping (fields.length + fuel + 4)
    (fieldTokens fields ++ [.flowMappingEnd, .streamEnd]) [] defaultHandles
  rw [mapping, read]
  exact ⟨number, entries, named, rfl⟩

end Node

/-! The document of a mapping whose fields have no parts. -/

namespace Builder

open Node (Entry Fields)

variable {b : Builder} {fields : List (String × Value)} {entries : List Entry}

theorem tag_scalar {number : Nat} {tag : Tag} {text : Text.Loose} (other : tag ≠ .value) :
    b.tag (.scalar number tag text) = tag := by
  rw [Builder.tag]
  exact if_neg fun both => other both.1

theorem make_scalar {number : Nat} {tag : Tag} {text : Text.Loose} {v : Value}
    (read : scalarValue tag text = .ok v) :
    b.make (.scalar number tag text) = .ok (.value v, b) := by
  have kinds : tag ≠ .value ∧ tag.isCollection = false ∧ tag.isScalar = true := by
    cases tag <;> first | exact ⟨nofun, rfl, rfl⟩ | (cases text <;> contradiction)
  obtain ⟨other, part, scalar⟩ := kinds
  rw [make, tag_scalar other, part, scalar, if_neg Bool.false_ne_true, if_pos rfl]
  exact congrArg (Except.map _) read

theorem merge_fields (named : Fields fields entries) {number : Nat}
    (held : b.entries number = entries) : b.merge number = .ok b := by
  have none : entries.any b.needsMerging = false := by
    refine List.any_eq_false.mpr ?_
    clear held
    induction named with
    | nil => exact List.forall_mem_nil _
    | cons number number' more induction =>
        refine List.forall_mem_cons.mpr ⟨?_, induction⟩
        rw [needsMerging, tag_scalar (by decide)]
        decide
  rw [merge, held, none]
  rfl

def fieldItems (fields : List (String × Value)) : List (Scalar × Item) :=
  fields.map fun field => (⟨.string field.1, rfl⟩, .value field.2)

theorem makeEntries_fields (named : Fields fields entries)
    (plain : ∀ field ∈ fields, PlainField field) :
    b.makeEntries entries = .ok (fieldItems fields, b) := by
  induction named with
  | nil => rfl
  | @cons name value fields entries number number' more induction =>
      obtain ⟨here, later⟩ := List.forall_mem_cons.mp plain
      obtain ⟨word, spells⟩ := here.flat.spells
      have read := spells.read
      rw [← spells.valueText] at read
      have key := @make_scalar b number .text (.sound name) (.string name) rfl
      have held := @make_scalar b number' _ _ _ read
      rw [makeEntries, key]
      simp only [bind, Except.bind, scalar]
      rw [held]
      simp only [dif_pos (show (Value.string name).isScalar = true from rfl), induction later]
      rfl

theorem entryValues_keyed (fields : List (String × Value)) :
    Document.entryValues (keyed (fields.map fun field =>
        ((⟨.string field.1, rfl⟩ : Scalar), Document.alone field.2))) =
      Mapping.ofEntries (Mapping.ofFields fields) := by
  have inserted (m : Keyed Document) : Document.entryValues ((fields.map fun field =>
      ((⟨.string field.1, rfl⟩ : Scalar), Document.alone field.2)).foldl
        (fun m entry => Keyed.insert entry.1.val entry.2 m) m) =
      (Mapping.ofFields fields).foldl (fun m entry => Keyed.insert entry.1 entry.2 m)
        (Document.entryValues m) := by
    induction fields generalizing m with
    | nil => rfl
    | cons field more induction =>
        refine (induction _).trans ?_
        rw [Document.entryValues_eq_map, Keyed.map_insert Document.value,
          ← Document.entryValues_eq_map]
        rfl
  exact inserted []

theorem contents_fields (named : Fields fields entries)
    (plain : ∀ field ∈ fields, PlainField field) {number : Nat}
    (held : b.entries number = entries) :
    contents (.mapping number .mapping entries) b = .ok (.mapping (fieldItems fields), b) := by
  have tagged : b.tag (.mapping number .mapping entries) = .mapping := by
    rw [Builder.tag]
    exact if_neg fun both => nomatch both.1
  rw [contents.eq_def, tagged]
  simp only [merge_fields named held, bind, Except.bind, held, makeEntries_fields named plain]
  rfl

/-- What is known of a document while only its root is made. -/
def begun (root : Node) (empty : List Node) (filled : List (Nat × Collection)) : Builder :=
  ⟨root.numbered, [], [], [], empty, [root.number], filled⟩

theorem make_start {number : Nat} {entries : List Entry} :
    (start (.mapping number .mapping entries)).make (.mapping number .mapping entries) =
      .ok (.collection number,
        begun (.mapping number .mapping entries) [.mapping number .mapping entries] []) := rfl

theorem entries_begun {number : Nat} {entries : List Entry} :
    (begun (.mapping number .mapping entries) [] []).entries number = entries := by
  have node : (begun (.mapping number .mapping entries) [] []).nodes.lookup number =
      some (.mapping number .mapping entries) := List.lookup_cons_self
  rw [Builder.entries, node]
  rfl

theorem fill_begun {root : Node} {collection : Collection}
    (held : contents root (begun root [] []) = .ok (collection, begun root [] [])) (fuel : Nat) :
    (begun root [root] []).fill (fuel + 1) = .ok (begun root [] [(root.number, collection)]) := by
  have step : (begun root [root] []).fill (fuel + 1) =
      (contents root (begun root [] []) >>= fun made =>
        fill fuel { made.2 with filled := (root.number, made.1) :: made.2.filled }) := rfl
  rw [step, held]
  cases fuel <;> rfl

theorem value_whole_fields {number : Nat} (distinct : (fields.map Prod.fst).Nodup)
    (held : b.filled.lookup number = some (.mapping (fieldItems fields))) :
    (b.whole (.collection number)).value = .map (Mapping.ofFields fields) := by
  have documents : (fieldItems fields).map
      (fun entry => (entry.1, b.document (b.nodes.length + 1) [] entry.2)) =
        fields.map fun field => ((⟨.string field.1, rfl⟩ : Scalar), Document.alone field.2) := by
    rw [fieldItems, List.map_map]
    rfl
  rw [whole, held]
  dsimp only
  rw [documents, Document.value, entryValues_keyed, Json.ofEntries_ofFields distinct]

end Builder

namespace Node

open Builder (fieldItems)

theorem hasAlias_fields {fields : List (String × Value)} {entries : List Entry}
    (named : Fields fields entries) : entriesHaveAlias entries = false := by
  induction named with
  | nil => rfl
  | cons number number' more induction => exact induction

/-- The document is a mapping of the fields, which stands at one place. -/
theorem document_fields {fields : List (String × Value)} {entries : List Entry}
    (named : Fields fields entries) (plain : ∀ field ∈ fields, PlainField field)
    (distinct : (fields.map Prod.fst).Nodup) (number : Nat) :
    (Node.mapping number .mapping entries).document =
      .ok (.alone (.map (Mapping.ofFields fields))) := by
  have filled := Builder.fill_begun
    (Builder.contents_fields named plain (@Builder.entries_begun number _))
  have value := @Builder.value_whole_fields
    (Builder.begun (.mapping number .mapping entries) [] [(number, .mapping (fieldItems fields))])
    fields number distinct List.lookup_cons_self
  have lacks : (Node.mapping number .mapping entries).hasAlias = false := hasAlias_fields named
  rw [document, Builder.make_start]
  simp only [bind, Except.bind]
  rw [filled]
  simp only [lacks]
  exact congrArg (fun v => Except.ok (Document.alone v)) value

end Node

/-- A mapping that is written as JSON text is read as that mapping, its entries in their order,
whatever the layout and the blanks after it. -/
theorem readText_write {fields : List (String × Value)}
    (plain : ∀ field ∈ fields, PlainField field) (distinct : (fields.map Prod.fst).Nodup)
    (layout : Json.Layout) {blanks : List Char} (blank : Blank blanks) :
    readText (String.ofList (Json.write layout 0 (.map (Mapping.ofFields fields)) ++ blanks)) =
      .ok (.alone (.map (Mapping.ofFields fields))) := by
  obtain ⟨number, entries, named, read⟩ := Node.ofTokens?_fieldTokens fields
  rw [readText, Token.ofText_write plain layout blank, read]
  exact Node.document_fields named plain distinct number

end WalCheckpoint.Yaml
