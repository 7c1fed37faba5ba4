import WalCheckpoint.Proofs.Yaml.Lexeme
import WalCheckpoint.Yaml.Outline

namespace WalCheckpoint.Yaml.Outline

open Json.Layout (Blank)

/-! The tokens of a mapping in brackets, whose names are words in quotes and whose values are
words. -/

/-- Reading on by some tokens, each of which uses up a character at least. -/
inductive Reaches : Outline → Outline → Prop
  | refl (o : Outline) : Reaches o o
  | step {o next last : Outline} (incomplete : o.isComplete = false) (read : o.next = .ok next)
      (shorter : next.cursor.rest.length < o.cursor.rest.length) (more : Reaches next last) :
      Reaches o last

theorem Reaches.trans {o middle last : Outline} (first : Reaches o middle)
    (second : Reaches middle last) : Reaches o last := by
  induction first with
  | refl => exact second
  | step incomplete read shorter _ induction =>
      exact .step incomplete read shorter (induction second)

theorem Reaches.tokensWithin {o last : Outline} (reaches : Reaches o last) {fuel : Nat}
    (enough : o.cursor.rest.length + 2 ≤ fuel) :
    ∃ left, last.cursor.rest.length + 2 ≤ left ∧ o.tokensWithin fuel = last.tokensWithin left := by
  induction reaches generalizing fuel with
  | refl => exact ⟨fuel, enough, rfl⟩
  | step incomplete read shorter _ induction =>
      obtain ⟨fuel, rfl⟩ := Nat.exists_eq_add_one_of_ne_zero (n := fuel) (by omega)
      obtain ⟨left, more, same⟩ := @induction fuel (by omega)
      refine ⟨left, more, ?_⟩
      rw [Outline.tokensWithin, incomplete, if_neg Bool.false_ne_true, read]
      exact same

/-- Whether the names of a mapping or what stands around it is read, how the text goes on and what
was read of it. -/
structure At (o : Outline) (depth : Nat) (cs : List Char) (tokens : List Token) : Prop where
  depth : o.depth = depth
  indent : o.indent = -1
  incomplete : o.isComplete = false
  rest : o.cursor.rest = cs
  tokens : o.tokens = tokens
  optional : ∀ entry ∈ o.candidates, entry.2.isRequired = false

section Gaps

variable {o : Outline} {blanks cs : List Char}

theorem isBreak_head_of_solid {c : Cursor} (solid : Solid cs) (held : c.rest = cs) :
    isBreak c.head = false := by
  cases cs with
  | nil => rw [Cursor.head, held]; decide
  | cons x rest => rw [Cursor.head_eq held]; exact (solid x rfl).2.2.1

theorem skipGapWithin_blank (blank : Blank blanks) (solid : Solid cs)
    (held : o.cursor.rest = blanks ++ cs) {fuel : Nat} (enough : blanks.length ≤ fuel) :
    ∃ c allows, skipGapWithin fuel o = (o.moveTo c).allow allows ∧ c.rest = cs ∧
      (o.inFlow = true → allows = o.allowsKey) := by
  induction fuel generalizing o blanks with
  | zero =>
      obtain rfl := List.eq_nil_of_length_eq_zero (Nat.le_zero.mp enough)
      have spaces : o.cursor.skipSpaces = o.cursor :=
        Cursor.skipSpaces_of_ne (by rw [held]; exact fun x first => (solid x first).1)
      have comment : o.cursor.skipComment = o.cursor :=
        Cursor.skipComment_of_ne (by rw [held]; exact fun x first => (solid x first).2.1)
      refine ⟨o.cursor, o.allowsKey, ?_, held, fun _ => rfl⟩
      rw [skipGapWithin, spaces, comment]
      rfl
  | succ fuel induction =>
      obtain ⟨left, blank', shorter, after, first⟩ := o.cursor.skipSpaces_blank blank solid held
      have comment : o.cursor.skipSpaces.skipComment = o.cursor.skipSpaces := by
        refine Cursor.skipComment_of_ne ?_
        rw [after]
        cases left with
        | nil => exact fun x held => (solid x held).2.1
        | cons x left =>
            obtain rfl := first x rfl
            exact fun y same => (Option.some.inj same) ▸ by decide
      rw [skipGapWithin, comment]
      cases left with
      | nil =>
          rw [if_neg (by rw [isBreak_head_of_solid solid after]; exact Bool.false_ne_true)]
          exact ⟨_, o.allowsKey, rfl, after, fun _ => rfl⟩
      | cons x left =>
          obtain rfl := first x rfl
          have later : o.cursor.skipSpaces.next.rest = left ++ cs := by
            rw [Cursor.rest_next, after]
            rfl
          rw [Cursor.head_eq after, if_pos (by decide)]
          obtain ⟨c, allows, skipped, rest, kept⟩ := @induction
            ((o.moveTo o.cursor.skipSpaces.next).allow (o.allowsKey || !o.inFlow)) left blank'.tail
            later (by simp only [List.length_cons] at shorter; omega)
          refine ⟨c, allows, skipped, rest, fun inside => ?_⟩
          rw [kept inside]
          simp [allow, inside]

theorem skipGap_blank (blank : Blank blanks) (solid : Solid cs)
    (held : o.cursor.rest = blanks ++ cs) :
    ∃ c allows, o.skipGap = (o.moveTo c).allow allows ∧ c.rest = cs ∧
      (o.inFlow = true → allows = o.allowsKey) := by
  have marked : o.cursor.head ≠ byteOrderMark := by
    cases blanks with
    | nil =>
        cases cs with
        | nil => rw [Cursor.head, held]; decide
        | cons x rest => rw [Cursor.head_eq held]; exact (solid x rfl).2.2.2
    | cons x blanks =>
        rw [Cursor.head_eq held]
        rcases blank x List.mem_cons_self with rfl | rfl <;> decide
  have enough : blanks.length ≤ o.cursor.rest.length := by
    rw [held, List.length_append]
    omega
  rw [skipGap, if_neg (fun both => marked both.2)]
  exact skipGapWithin_blank blank solid held enough

theorem skipGap_solid (solid : Solid o.cursor.rest) : o.skipGap = o := by
  have spaces : o.cursor.skipSpaces = o.cursor :=
    Cursor.skipSpaces_of_ne fun x first => (solid x first).1
  have comment : o.cursor.skipComment = o.cursor :=
    Cursor.skipComment_of_ne fun x first => (solid x first).2.1
  have marked : o.cursor.head ≠ byteOrderMark := by
    cases held : o.cursor.rest with
    | nil => rw [Cursor.head, held]; decide
    | cons x rest => rw [Cursor.head_eq held]; exact (solid x (by rw [held]; rfl)).2.2.2
  have breaks := isBreak_head_of_solid solid rfl
  rw [skipGap, if_neg (fun both => marked both.2), skipGapWithin.eq_def]
  simp only [spaces, comment, breaks]
  cases o.cursor.rest.length <;> rfl

end Gaps

section Next

variable {o : Outline} {depth : Nat} {blanks cs : List Char} {tokens : List Token}

/-- With only the candidates that a colon may still make keys. -/
def unstale (o : Outline) : Outline :=
  { o with candidates := o.candidates.filter fun entry => !isStale o.cursor entry.2 }

theorem dropStale_optional (optional : ∀ entry ∈ o.candidates, entry.2.isRequired = false) :
    o.dropStale = .ok o.unstale := by
  have none : ((o.candidates.filter fun entry => isStale o.cursor entry.2).any
      fun entry => entry.2.isRequired) = false := by
    refine List.any_eq_false.mpr fun entry member => ?_
    rw [optional entry (List.mem_filter.mp member).1]
    exact Bool.false_ne_true
  rw [dropStale, none]
  rfl

theorem unwind_of_indent (indent : o.indent = -1) {column : Int} (within : -1 ≤ column) :
    o.unwind column = o := by
  rw [unwind]
  split
  · rfl
  · have same : unwindTo column o.indent o.outer o.tokens = (o.indent, o.outer, o.tokens) := by
      rw [indent, unwindTo.eq_def, if_neg (by omega)]
    rw [same]

theorem At.unstale (at_ : o.At depth cs tokens) : o.unstale.At depth cs tokens :=
  ⟨at_.depth, at_.indent, at_.incomplete, at_.rest, at_.tokens,
    fun entry member => at_.optional entry (List.mem_filter.mp member).1⟩

theorem At.next_eq {passed : Outline} (skipped : o.skipGap = passed)
    (at_ : passed.At depth cs tokens) : o.next = passed.unstale.readToken := by
  rw [Outline.next, skipped, dropStale_optional at_.optional]
  have indented : -1 ≤ (passed.cursor.column : Int) := by omega
  exact congrArg readToken (unwind_of_indent (o := passed.unstale) at_.indent indented)

theorem At.next (at_ : o.At depth (blanks ++ cs) tokens) (blank : Blank blanks)
    (solid : Solid cs) :
    ∃ o' : Outline, o.next = o'.readToken ∧ o'.At depth cs tokens ∧
      (depth ≠ 0 → o'.allowsKey = o.allowsKey) := by
  obtain ⟨c, allows, skipped, rest, kept⟩ := skipGap_blank blank solid at_.rest
  have here : ((o.moveTo c).allow allows).At depth cs tokens :=
    ⟨at_.depth, at_.indent, at_.incomplete, rest, at_.tokens, at_.optional⟩
  refine ⟨_, here.next_eq skipped, here.unstale, fun inside => kept ?_⟩
  rw [inFlow, at_.depth]
  exact bne_iff_ne.mpr inside

end Next

section Dispatch

variable {o : Outline} {rest : List Char}

theorem readToken_end (held : o.cursor.rest = []) : o.readToken = o.readEnd := by
  rw [readToken, held]
  rfl

theorem readToken_opening (held : o.cursor.rest = '\x7b' :: rest) :
    o.readToken = o.readFlowStart .flowMappingStart := by
  simp [readToken, Cursor.atMarker, Cursor.peek_zero, Cursor.head_eq held, held]

theorem readToken_closing (held : o.cursor.rest = '\x7d' :: rest) :
    o.readToken = o.readFlowEnd .flowMappingEnd := by
  simp [readToken, Cursor.atMarker, Cursor.peek_zero, Cursor.head_eq held, held]

theorem readToken_comma (held : o.cursor.rest = ',' :: rest) : o.readToken = o.readFlowEntry := by
  simp [readToken, Cursor.atMarker, Cursor.peek_zero, Cursor.head_eq held, held]

theorem readToken_colon (held : o.cursor.rest = ':' :: rest) (inside : o.inFlow = true) :
    o.readToken = o.readValue := by
  simp [readToken, Cursor.atMarker, Cursor.peek_zero, Cursor.head_eq held, held, inside]

theorem readToken_quote (held : o.cursor.rest = '"' :: rest) :
    o.readToken = o.readAtom (readQuoted .double) := by
  simp [readToken, Cursor.atMarker, Cursor.peek_zero, Cursor.head_eq held, held]

/-- A word begins with a letter or a digit, or with a minus sign and one of these. -/
def BeginsWord (cs : List Char) : Prop :=
  ∃ x rest, cs = x :: rest ∧ isWordChar x = true ∧
    (x = '-' → ∃ y more, rest = y :: more ∧ isWordChar y = true ∧ y ≠ '-')

theorem readToken_word (begins : BeginsWord o.cursor.rest) : o.readToken = o.readPlain := by
  obtain ⟨x, rest, held, word, signed⟩ := begins
  have other {d : Char} (special : isWordChar d = false) : x ≠ d := ne_of_isWordChar word special
  by_cases minus : x = '-'
  · obtain ⟨y, more, rfl, word', unsigned⟩ := signed minus
    subst minus
    have ends : endsIndicator (o.cursor.peek 1) = false := by
      rw [Cursor.peek_succ held]
      exact endsIndicator_of_isWordChar word'
    have second : o.cursor.peek 1 = y := Cursor.peek_succ held 0
    rw [second] at ends
    simp [readToken, Cursor.atMarker, Cursor.peek_zero, Cursor.head_eq held, held, atIndicator,
      second, ends, unsigned, Plain.startsAt]
  · have starts : Plain.startsAt o.inFlow o.cursor = true := by
      have unmarked (marks : List Char)
          (all : marks.all (fun d => d == '-' || !isWordChar d) = true) :
          marks.contains x = false := by
        rw [List.contains_eq_mem, decide_eq_false_iff_not]
        intro member
        have kind := List.all_eq_true.mp all x member
        simp [minus, word] at kind
      rw [Plain.startsAt, Cursor.head_eq held, endsIndicator_of_isWordChar word, unmarked]
      · rfl
      · decide
    simp [readToken, Cursor.atMarker, Cursor.peek_zero, Cursor.head_eq held, held, minus, starts,
      other (d := '%') (by decide), other (d := '.') (by decide), other (d := '[') (by decide),
      other (d := '\x7b') (by decide), other (d := ']') (by decide),
      other (d := '\x7d') (by decide), other (d := ',') (by decide), other (d := '?') (by decide),
      other (d := ':') (by decide), other (d := '*') (by decide), other (d := '&') (by decide),
      other (d := '!') (by decide), other (d := '|') (by decide), other (d := '>') (by decide),
      other (d := '\'') (by decide), other (d := '"') (by decide)]

end Dispatch

section Steps

variable {o : Outline} {depth : Nat} {blanks cs rest : List Char} {tokens : List Token}

theorem dropCandidate_optional (optional : ∀ entry ∈ o.candidates, entry.2.isRequired = false) :
    ∃ left, o.dropCandidate = .ok { o with candidates := left } ∧
      ∀ entry ∈ left, entry ∈ o.candidates := by
  rw [dropCandidate]
  cases found : o.candidate? with
  | none => exact ⟨o.candidates, rfl, fun entry member => member⟩
  | some candidate =>
      obtain ⟨entry, held, rfl⟩ := Option.map_eq_some_iff.mp found
      have spare : entry.2.isRequired = false := optional entry (List.mem_of_find?_eq_some held)
      dsimp only
      rw [spare]
      exact ⟨_, rfl, fun entry member => (List.mem_filter.mp member).1⟩

theorem At.reaches {last : Outline} {depth' : Nat} {cs' : List Char} {tokens' : List Token}
    (at_ : o.At depth cs tokens) (read : o.next = .ok last) (later : last.At depth' cs' tokens')
    (shorter : cs'.length < cs.length) : o.Reaches last :=
  .step at_.incomplete read (by rwa [later.rest, at_.rest]) (.refl last)

theorem rest_move_one {x : Char} (held : o.cursor.rest = x :: rest) :
    (o.move 1).cursor.rest = rest := by
  rw [move, Cursor.rest_advance, held]
  rfl

/-- The candidate for a key that begins here. -/
def newCandidate (o : Outline) : Candidate where
  token := o.tokens.length
  isRequired := !o.inFlow && o.indent == o.cursor.column
  index := o.cursor.index
  line := o.cursor.line
  column := o.cursor.column

theorem saveCandidate_of_allows (allows : o.allowsKey = true)
    (optional : ∀ entry ∈ o.candidates, entry.2.isRequired = false) :
    ∃ left, o.saveCandidate = .ok { o with candidates := (o.depth, o.newCandidate) :: left } ∧
      ∀ entry ∈ left, entry.2.isRequired = false := by
  obtain ⟨left, dropped, within⟩ := dropCandidate_optional optional
  refine ⟨left, ?_, fun entry member => optional entry (within entry member)⟩
  rw [saveCandidate, if_pos allows, dropped]
  rfl

/-- Outside of brackets a candidate is required only where it sets the indentation. -/
theorem isRequired_newCandidate (indent : o.indent = -1) : o.newCandidate.isRequired = false := by
  rw [newCandidate, indent, Bool.and_eq_false_iff]
  exact .inr (beq_eq_false_iff_ne.mpr (by omega))

theorem saveCandidate_optional (indent : o.indent = -1)
    (optional : ∀ entry ∈ o.candidates, entry.2.isRequired = false) :
    ∃ left, o.saveCandidate = .ok { o with candidates := left } ∧
      ∀ entry ∈ left, entry.2.isRequired = false := by
  by_cases allows : o.allowsKey = true
  · obtain ⟨left, saved, spare⟩ := saveCandidate_of_allows allows optional
    exact ⟨_, saved, List.forall_mem_cons.mpr ⟨isRequired_newCandidate indent, spare⟩⟩
  · exact ⟨o.candidates, by rw [saveCandidate, if_neg allows], optional⟩

/-- A candidate stays one within its line, as far as a key may be from its colon. -/
theorem isStale_advance {word : List Char} (held : o.cursor.rest = word ++ rest)
    (unbroken : ∀ x ∈ word, isBreak x = false) (short : word.length ≤ keyLimit) :
    isStale (o.cursor.advance word.length) o.newCandidate = false := by
  obtain ⟨line, index⟩ := Cursor.place_advance held unbroken
  have near : o.newCandidate.line = o.cursor.line ∧ o.newCandidate.index = o.cursor.index :=
    ⟨rfl, rfl⟩
  rw [isStale, line, index, near.1, near.2, bne_self_eq_false, Bool.false_or,
    Nat.add_sub_cancel_left, decide_eq_false_iff_not]
  exact Nat.not_lt.mpr short

theorem At.opening (at_ : o.At 0 ('\x7b' :: rest) tokens) :
    ∃ o', o.Reaches o' ∧ o'.At 1 rest (.flowMappingStart :: tokens) ∧ o'.allowsKey = true := by
  have here : o.At 0 ([] ++ '\x7b' :: rest) tokens := at_
  obtain ⟨o', read, here, -⟩ := here.next .nil (.cons (by decide))
  obtain ⟨left, saved, optional⟩ := saveCandidate_optional here.indent here.optional
  have result : o.next = .ok { ((({ o' with candidates := left }.allow true).push
      .flowMappingStart).move 1) with depth := o'.depth + 1 } := by
    rw [read, readToken_opening here.rest, readFlowStart, saved]
    rfl
  have after := rest_move_one
    (o := ({ o' with candidates := left }.allow true).push .flowMappingStart) here.rest
  suffices later : At _ 1 rest (.flowMappingStart :: tokens) from
    ⟨_, at_.reaches result later (Nat.lt_succ_self _), later, rfl⟩
  exact ⟨congrArg (· + 1) here.depth, here.indent, here.incomplete, after,
    congrArg _ here.tokens, optional⟩

theorem At.closing (at_ : o.At 1 ('\x7d' :: rest) tokens) :
    ∃ o', o.Reaches o' ∧ o'.At 0 rest (.flowMappingEnd :: tokens) := by
  have here : o.At 1 ([] ++ '\x7d' :: rest) tokens := at_
  obtain ⟨o', read, here, -⟩ := here.next .nil (.cons (by decide))
  obtain ⟨left, dropped, within⟩ := dropCandidate_optional here.optional
  have result : o.next = .ok { ((({ o' with candidates := left }.allow false).push
      .flowMappingEnd).move 1) with depth := o'.depth - 1 } := by
    rw [read, readToken_closing here.rest, readFlowEnd, dropped]
    rfl
  have after := rest_move_one
    (o := ({ o' with candidates := left }.allow false).push .flowMappingEnd) here.rest
  suffices later : At _ 0 rest (.flowMappingEnd :: tokens) from
    ⟨_, at_.reaches result later (Nat.lt_succ_self _), later⟩
  exact ⟨congrArg (· - 1) here.depth, here.indent, here.incomplete, after,
    congrArg _ here.tokens, fun entry member => here.optional entry (within entry member)⟩

theorem At.comma (at_ : o.At 1 (',' :: rest) tokens) :
    ∃ o', o.Reaches o' ∧ o'.At 1 rest (.flowEntry :: tokens) ∧ o'.allowsKey = true := by
  have here : o.At 1 ([] ++ ',' :: rest) tokens := at_
  obtain ⟨o', read, here, -⟩ := here.next .nil (.cons (by decide))
  obtain ⟨left, dropped, within⟩ := dropCandidate_optional here.optional
  have result : o.next =
      .ok ((({ o' with candidates := left }.allow true).push .flowEntry).move 1) := by
    rw [read, readToken_comma here.rest, readFlowEntry, dropped]
    rfl
  have after := rest_move_one (o := ({ o' with candidates := left }.allow true).push .flowEntry)
    here.rest
  suffices later : At _ 1 rest (.flowEntry :: tokens) from
    ⟨_, at_.reaches result later (Nat.lt_succ_self _), later, rfl⟩
  exact ⟨here.depth, here.indent, here.incomplete, after, congrArg _ here.tokens,
    fun entry member => here.optional entry (within entry member)⟩

/-- A name that was read and that a colon would make a key. -/
structure AtColon (o : Outline) (name : String) (rest : List Char) (tokens : List Token) :
    Prop where
  at_ : o.At 1 (':' :: rest) (.scalar (.sound name) false :: tokens)
  candidate : ∃ candidate others, o.candidates = (1, candidate) :: others ∧
    candidate.token = tokens.length ∧ isStale o.cursor candidate = false

theorem AtColon.key {name : String} (colon : o.AtColon name rest tokens) :
    ∃ o', o.Reaches o' ∧ o'.At 1 rest (.value :: .scalar (.sound name) false :: .key :: tokens) := by
  obtain ⟨at_, candidate, others, held, token, fresh⟩ := colon
  have solid : Solid o.cursor.rest := by
    rw [at_.rest]
    exact .cons (by decide)
  have inside : o.inFlow = true := by rw [inFlow, at_.depth]; rfl
  -- Nothing is passed over before the colon, so the candidate is as it was saved.
  have read : o.next = o.unstale.readToken := at_.next_eq (skipGap_solid solid)
  have found : o.unstale.candidate? = some candidate := by
    have pending : o.unstale.candidates =
        (1, candidate) :: others.filter fun entry => !isStale o.cursor entry.2 := by
      simp [unstale, held, fresh]
    rw [candidate?, pending, show o.unstale.depth = 1 from at_.depth]
    rfl
  have inserted : o.unstale.withoutCandidate.insertAt candidate.token [.key] =
      { o.unstale.withoutCandidate with tokens := .scalar (.sound name) false :: .key :: tokens } := by
    have spread : o.unstale.withoutCandidate.tokens = .scalar (.sound name) false :: tokens := at_.tokens
    rw [insertAt, spread, token, List.length_cons, Nat.add_sub_cancel_left]
    rfl
  have flat : o.unstale.withoutCandidate.opensBlock candidate.column = false := by
    rw [opensBlock, show o.unstale.withoutCandidate.inFlow = true from inside]
    rfl
  have result : o.next = .ok (((({ o.unstale.withoutCandidate with
      tokens := .scalar (.sound name) false :: .key :: tokens }).allow false).push .value).move 1) := by
    rw [read, readToken_colon at_.unstale.rest inside, readValue, found]
    dsimp only
    rw [flat, if_neg Bool.false_ne_true, inserted]
    rfl
  have after := rest_move_one (o := (({ o.unstale.withoutCandidate with
      tokens := .scalar (.sound name) false :: .key :: tokens }).allow false).push .value) at_.rest
  suffices later : At _ 1 rest (.value :: .scalar (.sound name) false :: .key :: tokens) from
    ⟨_, at_.reaches result later (Nat.lt_succ_self _), later⟩
  refine ⟨at_.depth, at_.indent, at_.incomplete, after, rfl, fun entry member => ?_⟩
  exact at_.unstale.optional entry (List.mem_filter.mp member).1

theorem unbroken_quoted {word : List Char} (chars : ∀ x ∈ word, isWordChar x = true) :
    ∀ x ∈ '"' :: (word ++ ['"']), isBreak x = false := by
  intro x member
  simp only [List.mem_cons, List.mem_append, List.not_mem_nil, or_false] at member
  rcases member with rfl | member | rfl
  · decide
  · exact isBreak_of_isWordChar (chars x member)
  · decide

theorem At.name {name : String}
    (at_ : o.At 1 (blanks ++ '"' :: (name.toList ++ '"' :: ':' :: rest)) tokens)
    (blank : Blank blanks) (allows : o.allowsKey = true)
    (word : ∀ x ∈ name.toList, isWordChar x = true) (short : name.length ≤ 1000) :
    ∃ o', o.Reaches o' ∧ o'.AtColon name rest tokens := by
  obtain ⟨o', read, here, kept⟩ := at_.next blank (.cons (by decide))
  have allows : o'.allowsKey = true := by rw [kept (by decide), allows]
  obtain ⟨left, saved, spare⟩ := saveCandidate_of_allows allows here.optional
  have opened : o'.cursor.next.rest = name.toList ++ '"' :: ':' :: rest := by
    rw [Cursor.rest_next, here.rest]
    rfl
  have result : o.next = .ok (((({ o' with
      candidates := (o'.depth, o'.newCandidate) :: left }.allow false).push
        (.scalar (.sound name) false)).moveTo (o'.cursor.next.advance (name.toList.length + 1)))) := by
    rw [read, readToken_quote here.rest, readAtom, saved]
    simp only [bind, Except.bind, readQuoted, Quoted.content_word opened word, Except.map,
      String.ofList_toList]
    rfl
  have quoted : o'.cursor.rest = ('"' :: (name.toList ++ ['"'])) ++ ':' :: rest := by
    rw [here.rest]
    simp
  have length : ('"' :: (name.toList ++ ['"'])).length = name.toList.length + 1 + 1 := by simp
  have after := Cursor.rest_advance_append quoted
  have fresh := isStale_advance quoted (unbroken_quoted word) (by
    rw [length, String.length_toList, keyLimit]
    omega)
  rw [length] at after fresh
  have spare : ∀ entry ∈ (o'.depth, o'.newCandidate) :: left, entry.2.isRequired = false :=
    List.forall_mem_cons.mpr ⟨isRequired_newCandidate here.indent, spare⟩
  suffices later : At _ 1 (':' :: rest) (.scalar (.sound name) false :: tokens) from
    ⟨_, at_.reaches result later
      (by simp only [List.length_append, List.length_cons]; omega), later, o'.newCandidate, left,
      by rw [← here.depth]; rfl, congrArg List.length here.tokens, fresh⟩
  exact ⟨here.depth, here.indent, here.incomplete, after, congrArg _ here.tokens, spare⟩

theorem At.word {word : List Char} {mark : Char} {left : List Char}
    (at_ : o.At 1 (blanks ++ (word ++ (left ++ mark :: rest))) tokens) (blank : Blank blanks)
    (begins : BeginsWord word) (chars : ∀ x ∈ word, isWordChar x = true) (blank' : Blank left)
    (isMark : Plain.IsMark mark) :
    ∃ o', o.Reaches o' ∧
      o'.At 1 (mark :: rest) (.scalar (.sound (String.ofList word)) true :: tokens) := by
  obtain ⟨x, more, rfl, word, signed⟩ := begins
  have solid : Solid (x :: more ++ (left ++ mark :: rest)) :=
    .cons ⟨ne_of_isWordChar word (by decide), ne_of_isWordChar word (by decide),
      isBreak_of_isWordChar word, ne_of_isWordChar word (by decide)⟩
  obtain ⟨o', read, here, -⟩ := at_.next blank solid
  obtain ⟨candidates, saved, optional⟩ := saveCandidate_optional here.indent here.optional
  have starts : BeginsWord o'.cursor.rest := by
    rw [here.rest]
    refine ⟨x, _, rfl, word, fun minus => ?_⟩
    obtain ⟨y, later, rfl, word', other⟩ := signed minus
    exact ⟨y, _, rfl, word', other⟩
  have inside : o'.inFlow = true := by rw [inFlow, here.depth]; rfl
  obtain ⟨text, after⟩ := Plain.lexeme_word (List.cons_ne_nil x more) chars blank' isMark here.rest
    (o'.indent + 1)
  have result : o.next = .ok (((({ o' with candidates := candidates }.allow
      (Plain.lexeme true (o'.indent + 1) o'.cursor).brokeLine).push
        (.scalar (.sound (String.ofList (x :: more))) true)).moveTo
          (Plain.lexeme true (o'.indent + 1) o'.cursor).after)) := by
    rw [read, readToken_word starts, readPlain, saved, ← text, ← inside]
    rfl
  suffices later : At _ 1 (mark :: rest) (.scalar (.sound (String.ofList (x :: more))) true :: tokens) from
    ⟨_, at_.reaches result later
      (by simp only [List.length_append, List.length_cons]; omega), later⟩
  exact ⟨here.depth, here.indent, here.incomplete, after, congrArg _ here.tokens, optional⟩

theorem At.end_ (at_ : o.At 0 blanks tokens) (blank : Blank blanks) {fuel : Nat}
    (enough : 2 ≤ fuel) : o.tokensWithin fuel = (.streamEnd :: tokens).reverse := by
  have at_ : o.At 0 (blanks ++ []) tokens := by rwa [List.append_nil]
  obtain ⟨o', read, here, -⟩ := at_.next blank .nil
  obtain ⟨fuel, rfl⟩ := Nat.exists_eq_add_of_le enough
  obtain ⟨left, dropped, -⟩ := dropCandidate_optional here.optional
  have unwound : o'.unwind (-1) = o' := unwind_of_indent here.indent (Int.le_refl _)
  have result : o.next = .ok { (({ o' with candidates := left }.allow false).push .streamEnd) with
      candidates := [], isComplete := true } := by
    rw [read, readToken_end here.rest, readEnd, unwound, dropped]
    rfl
  rw [Nat.add_comm, tokensWithin, at_.incomplete, if_neg Bool.false_ne_true, result]
  simp only [tokensWithin, if_true]
  exact congrArg List.reverse (congrArg _ here.tokens)

end Steps

end WalCheckpoint.Yaml.Outline
