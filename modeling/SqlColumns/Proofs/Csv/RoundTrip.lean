import SqlColumns.Csv.Reader
import SqlColumns.Csv.Writer
import SqlColumns.Proofs.Text.Utf8

/-!
# Round trip of records

Reading printed records gives them back. The reader is followed field by field: behind the bytes of
a field it holds that field, in a mode in which a comma goes on to the next field and a line feed
ends the record.
-/

set_option autoImplicit false

namespace SqlColumns.Csv

variable {state next : State} {offset : Offset} {done : List Record} {byte : UInt8}
  {field bytes rest : List UInt8} {fields : List (List UInt8)}

def Offset.behind (offset : Offset) (bytes : List UInt8) : Offset :=
  bytes.foldl Offset.past offset

theorem Offset.behind_append (offset : Offset) (left right : List UInt8) :
    offset.behind (left ++ right) = (offset.behind left).behind right :=
  List.foldl_append

theorem readFrom_of_step (stepped : step state byte = (next, false)) :
    readFrom state offset done (byte :: rest) = readFrom next (offset.past byte) done rest := by
  simp only [readFrom, stepped, Bool.false_eq_true, if_false]

theorem readFrom_of_end (stepped : step state byte = (next, true)) :
    readFrom state offset done (byte :: rest) =
      readFrom (.fresh (offset.past byte)) (offset.past byte) (next.record :: done) rest := by
  simp only [readFrom, stepped, if_true]

/-!
## One field
-/

theorem needsQuotes_eq_false_iff :
    needsQuotes byte = false ↔ byte ≠ comma ∧ byte ≠ quote ∧ endsRecord byte = false := by
  simp [needsQuotes, and_assoc]

def Mode.opens : Mode → Bool
  | .betweenRecords | .fieldStart => true
  | _ => false

theorem step_plain (outside : state.mode.opens = true ∨ state.mode = .inField)
    (plain : needsQuotes byte = false) : step state byte = (state.keep byte .inField, false) := by
  obtain ⟨noComma, noQuote, noEnd⟩ := needsQuotes_eq_false_iff.mp plain
  cases mode : state.mode <;> simp_all [Mode.opens, step, plainByte]

theorem readFrom_plain (inside : state.mode = .inField)
    (plain : ∀ byte ∈ bytes, needsQuotes byte = false) :
    readFrom state offset done (bytes ++ rest) =
      readFrom { state with field := bytes.reverse ++ state.field } (offset.behind bytes) done
        rest := by
  induction bytes generalizing state offset with
  | nil => rfl
  | cons byte bytes ih =>
      obtain ⟨first, others⟩ := List.forall_mem_cons.mp plain
      rw [List.cons_append, readFrom_of_step (step_plain (.inr inside) first), ih rfl others]
      simp [State.keep, inside, Offset.behind]

def doubled (byte : UInt8) : List UInt8 :=
  if byte == quote then [quote, quote] else [byte]

theorem readFrom_doubled (inside : state.mode = .inQuotes) :
    readFrom state offset done (bytes.flatMap doubled ++ rest) =
      readFrom { state with field := bytes.reverse ++ state.field }
        (offset.behind (bytes.flatMap doubled)) done rest := by
  induction bytes generalizing state offset with
  | nil => rfl
  | cons byte bytes ih =>
      rw [List.flatMap_cons, List.append_assoc, Offset.behind_append, doubled]
      by_cases same : byte = quote
      · have first : step state quote = ({ state with mode := .behindQuote }, false) := by
          simp [step, inside]
        have second : step { state with mode := .behindQuote } quote =
            (state.keep quote .inQuotes, false) := by
          simp [step, State.keep]
        simp only [same, BEq.rfl, if_true, List.cons_append, List.nil_append]
        rw [readFrom_of_step first, readFrom_of_step second, ih rfl]
        simp [State.keep, inside, Offset.behind]
      · have kept : step state byte = (state.keep byte .inQuotes, false) := by
          simp [step, inside, same]
        simp only [same, beq_iff_eq, if_false, List.cons_append, List.nil_append]
        rw [readFrom_of_step kept, ih rfl]
        simp [State.keep, inside, Offset.behind]

def State.holding (state : State) (field : List UInt8) : State :=
  { state with
    field := field.reverse
    mode :=
      if field.any needsQuotes then .behindQuote else if field = [] then state.mode else .inField }

theorem readFrom_writeField (opens : state.mode.opens = true) (empty : state.field = []) :
    readFrom state offset done (writeField field ++ rest) =
      readFrom (state.holding field) (offset.behind (writeField field)) done rest := by
  unfold writeField
  by_cases quoted : field.any needsQuotes = true
  · have opening : step state quote = ({ state with mode := .inQuotes }, false) := by
      cases mode : state.mode <;> simp_all [Mode.opens, step, endsRecord, quote, lineFeed,
        carriageReturn]
    have closing : ∀ state : State, state.mode = .inQuotes →
        step state quote = ({ state with mode := .behindQuote }, false) := by
      intro state inside
      simp [step, inside]
    have text : field.flatMap (fun byte => if byte == quote then [quote, quote] else [byte]) =
        field.flatMap doubled := rfl
    rw [if_pos quoted, List.append_assoc, List.cons_append, List.singleton_append, text,
      readFrom_of_step opening, readFrom_doubled rfl, readFrom_of_step (closing _ rfl)]
    simp [State.holding, quoted, empty, Offset.behind]
  · have plain : ∀ byte ∈ field, needsQuotes byte = false := by
      simpa using quoted
    rw [if_neg quoted]
    cases field with
    | nil =>
        have same : state.holding [] = state := by
          cases state
          subst empty
          rfl
        rw [same]
        rfl
    | cons byte bytes =>
        obtain ⟨first, others⟩ := List.forall_mem_cons.mp plain
        rw [List.cons_append, readFrom_of_step (step_plain (.inl opens) first),
          readFrom_plain rfl others]
        simp [State.holding, State.keep, quoted, empty, Offset.behind]

/-!
## One record
-/

theorem mode_holding (state : State) (field : List UInt8) :
    (state.holding field).mode = .behindQuote ∨ (state.holding field).mode = .inField ∨
      field = [] ∧ (state.holding field).mode = state.mode := by
  simp only [State.holding]
  split
  · exact .inl rfl
  · split
    · next empty => exact .inr (.inr ⟨empty, rfl⟩)
    · exact .inr (.inl rfl)

theorem step_comma (opens : state.mode.opens = true) :
    step (state.holding field) comma =
      ({ state with mode := .fieldStart, field := [], fields := field :: state.fields },
        false) := by
  have ended : (state.holding field).nextField =
      { state with mode := .fieldStart, field := [], fields := field :: state.fields } := by
    simp [State.holding, State.nextField]
  have apart : (comma == quote) = false ∧ endsRecord comma = false := by decide
  rw [← ended]
  rcases mode_holding state field with mode | mode | ⟨-, mode⟩
  · simp [step, mode, apart, plainByte]
  · simp [step, mode, plainByte]
  · cases own : state.mode <;> simp_all [Mode.opens, step, plainByte]

theorem step_lineFeed (opens : state.mode.opens = true)
    (begun : field = [] → state.mode ≠ .betweenRecords) :
    step (state.holding field) lineFeed = (state.holding field, true) := by
  have apart : (lineFeed == quote) = false ∧ (lineFeed == comma) = false ∧
      endsRecord lineFeed = true := by decide
  rcases mode_holding state field with mode | mode | ⟨empty, mode⟩
  · simp [step, mode, apart, plainByte]
  · simp [step, mode, apart, plainByte]
  · have begins := begun empty
    cases own : state.mode <;> simp_all [Mode.opens, step, plainByte]

theorem writeFields_cons_cons (first second : List UInt8) (others : List (List UInt8)) :
    writeFields (first :: second :: others) =
      writeField first ++ comma :: writeFields (second :: others) :=
  rfl

/-- The fields of a line are read to its end. At the start of a record the line must not be empty,
or it would not count. -/
theorem readFrom_writeFields (opens : state.mode.opens = true) (empty : state.field = [])
    (some : fields ≠ []) (begun : state.mode = .betweenRecords → writeFields fields ≠ []) :
    readFrom state offset done (writeFields fields ++ lineFeed :: rest) =
      readFrom (.fresh (offset.behind (writeFields fields ++ [lineFeed])))
        (offset.behind (writeFields fields ++ [lineFeed]))
        (⟨state.start, state.fields.reverse ++ fields⟩ :: done) rest := by
  induction fields generalizing state offset with
  | nil => exact absurd rfl some
  | cons field others ih =>
      cases others with
      | nil =>
          have ends : field = [] → state.mode ≠ .betweenRecords := by
            rintro rfl mode
            exact begun mode rfl
          simp only [writeFields]
          rw [readFrom_writeField opens empty, readFrom_of_end (step_lineFeed opens ends),
            Offset.behind_append]
          simp [State.holding, State.record, Offset.behind]
      | cons second others =>
          rw [writeFields_cons_cons, List.append_assoc, List.cons_append,
            readFrom_writeField opens empty, readFrom_of_step (step_comma opens),
            ih rfl rfl (List.cons_ne_nil _ _) (by simp)]
          simp [Offset.behind]

theorem readFrom_writeRecord (some : fields ≠ []) (start : Offset) :
    readFrom (.fresh start) offset done (writeRecord fields ++ rest) =
      readFrom (.fresh (offset.behind (writeRecord fields))) (offset.behind (writeRecord fields))
        (⟨start, fields⟩ :: done) rest := by
  by_cases blank : writeFields fields = []
  · -- Only a single empty field leaves its line empty.
    have single : fields = [[]] := by
      cases fields with
      | nil => exact absurd rfl some
      | cons field others =>
          cases others with
          | nil =>
              rw [writeFields, writeField] at blank
              split at blank
              · cases blank
              · rw [blank]
          | cons second others => simp [writeFields_cons_cons] at blank
    rw [single]
    rfl
  · have line : writeRecord fields = writeFields fields ++ [lineFeed] := by
      simp [writeRecord, blank]
    rw [line, List.append_assoc, List.singleton_append,
      readFrom_writeFields rfl rfl some fun _ => blank]
    rfl

/-!
## All records
-/

theorem fields_readFrom_print {records : List (List String)}
    (written : ∀ record ∈ records, record ≠ []) (start offset : Offset) (done : List Record) :
    (readFrom (.fresh start) offset done (print records)).map Record.fields =
      done.reverse.map Record.fields ++
        records.map fun texts => texts.map Text.encodeString := by
  induction records generalizing start offset done with
  | nil =>
      rw [List.map_nil, List.append_nil]
      rfl
  | cons texts records ih =>
      obtain ⟨first, others⟩ := List.forall_mem_cons.mp written
      rw [print, List.flatMap_cons, readFrom_writeRecord (by simpa using first)]
      have rest := ih others (offset.behind (writeRecord (texts.map Text.encodeString)))
        (offset.behind (writeRecord (texts.map Text.encodeString)))
        (⟨start, texts.map Text.encodeString⟩ :: done)
      rw [print] at rest
      rw [rest]
      simp

theorem decodeFields_encodeString (number : Nat) (texts : List String) :
    decodeFields number (texts.map Text.encodeString) = .ok texts := by
  induction texts generalizing number with
  | nil => rfl
  | cons text texts ih =>
      have first : Text.decode? (Text.encodeString text) = .ok text.toList := Text.decode?_encode _
      simp only [List.map_cons, decodeFields, first, ih (number + 1), String.ofList_toList]

theorem decodeRecords_of_fields {records : List Record} {texts : List (List String)} (number : Nat)
    (held : records.map Record.fields = texts.map fun one => one.map Text.encodeString) :
    decodeRecords number records = .ok texts := by
  induction records generalizing texts number with
  | nil =>
      obtain rfl := List.map_eq_nil_iff.mp held.symm
      rfl
  | cons record records ih =>
      cases texts with
      | nil => cases held
      | cons first others =>
          obtain ⟨own, rest⟩ := List.cons.inj held
          rw [decodeRecords, own, decodeFields_encodeString, ih (number + 1) rest]

/-- No text but one that starts with the mark has bytes that start with those of the mark. -/
theorem not_mark_encodeString {text : String} {next : UInt8} (more : List UInt8)
    (unmarked : text.toList.head? ≠ some '\uFEFF') (ended : next ≠ 0xEF) :
    ¬ byteOrderMark <+: Text.encodeString text ++ next :: more := by
  rintro ⟨rest, same⟩
  unfold Text.encodeString at same
  cases chars : text.toList with
  | nil =>
      rw [chars] at same
      exact ended (List.cons.inj same).1.symm
  | cons c others =>
      have mark : byteOrderMark = String.utf8EncodeChar '\uFEFF' := by decide
      rw [chars, Text.encode, List.flatMap_cons, List.append_assoc, mark] at same
      have taken := congrArg Text.takeChar? same
      rw [Text.takeChar?_utf8EncodeChar, Text.takeChar?_utf8EncodeChar] at taken
      simp only [Option.some.injEq, Prod.mk.injEq] at taken
      rw [chars, ← taken.1] at unmarked
      exact unmarked rfl

/-- A line starts with a quote, or with the bytes of its first field and what ends it. -/
theorem writeRecord_cons (field : List UInt8) (others : List (List UInt8)) :
    (∃ more, writeRecord (field :: others) = quote :: more) ∨
      ∃ next more, writeRecord (field :: others) = field ++ next :: more ∧ next ≠ 0xEF := by
  by_cases blank : writeFields (field :: others) = []
  · exact .inl ⟨[quote, lineFeed], by simp [writeRecord, blank]⟩
  · have line : writeRecord (field :: others) = writeFields (field :: others) ++ [lineFeed] := by
      simp [writeRecord, blank]
    rw [line]
    by_cases quoted : field.any needsQuotes = true
    · have written : writeField field = quote :: (field.flatMap doubled ++ [quote]) := by
        rw [writeField, if_pos quoted]
        rfl
      refine .inl ?_
      cases others with
      | nil => exact ⟨_, by rw [writeFields, written]; rfl⟩
      | cons second others => exact ⟨_, by rw [writeFields_cons_cons, written]; rfl⟩
    · have written : writeField field = field := by rw [writeField, if_neg quoted]
      refine .inr ?_
      cases others with
      | nil => exact ⟨lineFeed, [], by rw [writeFields, written], by decide⟩
      | cons second others =>
          refine ⟨comma, writeFields (second :: others) ++ [lineFeed], ?_, by decide⟩
          rw [writeFields_cons_cons, written, List.append_assoc, List.cons_append]

/-- Printed records are read back when each has a field and the very first one does not start with a
byte order mark. -/
theorem parse_print {headers : List String} {rows : List (List String)} (some : headers ≠ [])
    (written : ∀ row ∈ rows, row ≠ [])
    (unmarked : ∀ header ∈ headers.head?, header.toList.head? ≠ .some '\uFEFF') :
    parse (print (headers :: rows)) = .ok (headers :: rows) := by
  have noMark : ¬ byteOrderMark <+: print (headers :: rows) := by
    cases headers with
    | nil => exact absurd rfl some
    | cons header others =>
        rw [print, List.flatMap_cons, List.map_cons]
        rcases writeRecord_cons (Text.encodeString header) (others.map Text.encodeString) with
          ⟨more, line⟩ | ⟨next, more, line, ended⟩
        · rw [line, List.cons_append]
          exact fun front => absurd (List.cons_prefix_cons.mp front).1 (by decide)
        · rw [line, List.append_assoc, List.cons_append]
          exact not_mark_encodeString _ (unmarked header rfl) ended
  have whole := fields_readFrom_print (List.forall_mem_cons.mpr ⟨some, written⟩) ⟨0, 0⟩ ⟨0, 0⟩ []
  rw [parse, read, if_neg (by simpa using noMark)]
  exact decodeRecords_of_fields 0 whole

end SqlColumns.Csv
