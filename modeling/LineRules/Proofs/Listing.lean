/-
Listings read back. A listing has one line for each operation. The word at the front of a line tells the kind
of operation, since no such word begins with another; quoted literals end at their closing quote, numbers
where their digits end, and names at the first blank, of which an accepted name holds none. Only the
positions are not shown, and the type of a capture is shown with its field, one line above. Main statement:
two rules of the same name and position have the same listing exactly if they have the same operations, up
to positions.
-/
import LineRules.Proofs.Recorder.Atomicity
import LineRules.Proofs.Compose.Grammar
import LineRules.Proofs.Text.Quoting

namespace LineRules

/-! ## Reading a line -/

namespace Listing

/-- What is behind a word at the front of a text. -/
def behind? (word cs : List Char) : Option (List Char) :=
  if word <+: cs then some (cs.drop word.length) else none

/-- A word may stand at the front of a text; whether it does, and the rest. -/
def readFlag (word cs : List Char) : Bool × List Char :=
  match behind? word cs with
  | some rest => (true, rest)
  | none => (false, cs)

/-- A number at the front of a text, and the rest. Without a digit it is zero. -/
def readNumber (cs : List Char) : UInt64 × List Char :=
  (UInt64.ofNat (Text.valueOf 10 (cs.takeWhile Text.isDigit)), cs.dropWhile Text.isDigit)

/-- The bounds of a window at the front of a text, and the rest. -/
def readWindow : List Char → UInt64 × UInt64 × List Char
  | '[' :: cs =>
    let (lower, cs) := readNumber cs
    let (upper, cs) := readNumber cs.tail
    (lower, upper, cs.tail)
  | cs => (0, 0, cs)

/-- A literal at the front of a text, and the rest. -/
def readLiteral : List Char → Option (Literal × List Char)
  | '\'' :: cs => (Text.readQuoted '\'' cs).bind fun (value, cs) => value.head?.map fun c => (.char c, cs)
  | '"' :: cs => (Text.readQuoted '"' cs).map fun (value, cs) => (.string (String.ofList value), cs)
  | _ => none

/-- A name at the front of a text, and the rest. -/
def readName (cs : List Char) : String × List Char :=
  (String.ofList (cs.takeWhile (· != ' ')), cs.dropWhile (· != ' '))

/-- A search, from its literal on. -/
def readLookup (ignore : Bool) (cs : List Char) : Option Op :=
  (readLiteral cs).map fun (literal, cs) =>
    match behind? " at ".toList cs with
    | some cs => .lookupFixed literal (readNumber cs).1 ignore
    | none =>
      let (lower, upper, cs) := readWindow cs
      .lookup literal lower upper (readFlag " close".toList cs).1 ignore

/-- A field, from its name on. -/
def readField (cs : List Char) : Option Op :=
  let (name, cs) := readName cs
  (FieldType.ofName? (String.ofList cs.tail)).map fun type => .declareField name type {}

/-- A capture of the given type, from its name on. -/
def readCapture (type : FieldType) (cs : List Char) : Option Op :=
  let (name, cs) := readName cs
  match behind? " before ".toList cs with
  | some cs => (readLiteral cs).map fun (literal, cs) =>
    let (lower, upper, cs) := readWindow cs
    let (close, cs) := readFlag " close".toList cs
    .takeBefore name type literal lower upper close (readFlag " or rest".toList cs).1
  | none => some (.takeRest name type)

/-- The words at the front of a line, each with what reads the rest. -/
def forms (type : FieldType) : List (List Char × (List Char → Option Op)) :=
  [("open ()".toList, fun _ => some (.openUnnamed {})),
   ("close ()".toList, fun _ => some .closeUnnamed),
   ("open ?".toList, fun cs => some (.openNamed (String.ofList cs) {})),
   ("close ?".toList, fun _ => some .closeNamed),
   ("checkpoint \"".toList, fun cs => (Text.readQuoted '"' cs).map fun (path, _) => .checkpoint (String.ofList path)),
   ("at end".toList, fun _ => some .atEnd),
   ("stress".toList, fun _ => some .stress),
   ("head ".toList, fun cs => (readLiteral cs).map fun (literal, _) => .head literal false),
   ("head? ".toList, fun cs => (readLiteral cs).map fun (literal, _) => .head literal true),
   ("pass ".toList, fun cs => some (.passFirst (readNumber cs).1)),
   ("lookup ".toList, readLookup false),
   ("lookup? ".toList, readLookup true),
   ("field ".toList, readField),
   ("take ".toList, readCapture type)]

/-- The operation of a line. If it is a capture, then of a field of the given type. -/
def readLine (type : FieldType) (line : List Char) : Option Op :=
  (forms type).findSome? fun form => (behind? form.1 line).bind form.2

/-- The type that an operation right behind the given one captures. -/
def typeAfter : Option Op → FieldType
  | some (.declareField _ type _) => type
  | _ => default

/-- The operations of lines, of which the first stands right behind the given operation. -/
def readLines (previous : Option Op) : List (List Char) → Option (List Op)
  | [] => some []
  | line :: rest =>
    (readLine (typeAfter previous) (line.dropWhile (· == ' '))).bind fun op =>
      (readLines (some op) rest).map fun ops => op :: ops

/-- The operations of a text in which every line ends with a line break. -/
def readText (cs : List Char) : Option (List Op) := readLines none (cs.splitOn '\n').dropLast

end Listing

/-! ## Parts of a line -/

namespace Listing

open Text

theorem behind?_append (word rest : List Char) : behind? word (word ++ rest) = some rest := by
  rw [behind?, if_pos (List.prefix_append word rest), List.drop_left]

theorem behind?_eq_none {word cs : List Char} (h : ¬ word <+: cs) : behind? word cs = none := if_neg h

theorem readNumber_decimal (n : UInt64) {rest : List Char} (stops : Stops isDigit rest) :
    readNumber ((decimal n.toNat).toList ++ rest) = (n, rest) := by
  have digits : ∀ c ∈ (decimal n.toNat).toList, isDigit c = true := by
    rw [decimal, String.toList_ofList]
    exact fun c hc => isDigit_of_mem_toDigits hc
  rw [readNumber, takeWhile_run digits stops, dropWhile_run digits stops, decimal, String.toList_ofList,
    valueOf_toDigits (by decide) (by decide), UInt64.ofNat_toNat]

theorem readLiteral_text (literal : Literal) (rest : List Char) :
    readLiteral (literal.text.toList ++ rest) = some (literal, rest) := by
  cases literal with
  | char c =>
    have read := readQuoted_escaped (.inl rfl : IsQuote '\'') [c] rest
    rw [List.flatMap_singleton] at read
    simp only [Literal.text, quotedChar, String.toList_ofList, List.cons_append, List.append_assoc, List.nil_append,
      readLiteral, read]
    rfl
  | string s =>
    have read := readQuoted_escaped (.inr rfl : IsQuote '"') s.toList rest
    simp only [Literal.text, quoted, String.toList_ofList, List.cons_append, List.append_assoc, List.nil_append,
      readLiteral, read, Option.map_some, String.ofList_toList]

theorem readWindow_text (lower upper : UInt64) {rest : List Char} (h : ∀ cs, rest ≠ '[' :: cs) :
    readWindow ((Op.windowText lower upper).toList ++ rest) = (lower, upper, rest) := by
  have colon : ∀ cs, Stops isDigit (':' :: cs) := by
    rintro cs c ⟨⟩
    rfl
  have bracket : ∀ cs, Stops isDigit (']' :: cs) := by
    rintro cs c ⟨⟩
    rfl
  unfold Op.windowText
  split_ifs with none half
  · obtain ⟨rfl, rfl⟩ := none
    rw [String.toList_empty, List.nil_append, readWindow]
    exact h
  · subst half
    have open' : "[".toList ++ (decimal lower.toNat).toList ++ ":]".toList ++ rest =
        '[' :: ((decimal lower.toNat).toList ++ ':' :: ']' :: rest) := by simp
    have noDigits : readNumber (']' :: rest) = (0, ']' :: rest) := rfl
    simp only [String.toList_append, open', readWindow, readNumber_decimal lower (colon _), List.tail_cons, noDigits]
  · have closed : "[".toList ++ (decimal lower.toNat).toList ++ ":".toList ++ (decimal upper.toNat).toList ++
        "]".toList ++ rest = '[' :: ((decimal lower.toNat).toList ++ ':' :: ((decimal upper.toNat).toList ++
          ']' :: rest)) := by simp
    simp only [String.toList_append, closed, readWindow, readNumber_decimal lower (colon _), List.tail_cons,
      readNumber_decimal upper (bracket _)]

theorem readFlag_text (flag : Bool) (word : String) (rest : List Char) (h : ¬ word.toList <+: rest) :
    readFlag word.toList ((Op.flagText flag word).toList ++ rest) = (flag, rest) := by
  cases flag with
  | false => simp [Op.flagText, readFlag, behind?_eq_none h]
  | true => simp [Op.flagText, readFlag, behind?_append]

theorem readName_append {name : String} (h : ' ' ∉ name.toList) (rest : List Char) :
    readName (name.toList ++ ' ' :: rest) = (name, ' ' :: rest) := by
  have all : ∀ c ∈ name.toList, (c != ' ') = true := by
    intro c hc
    rw [bne_iff_ne]
    rintro rfl
    exact h hc
  have stops : Stops (· != ' ') (' ' :: rest) := by
    rintro c ⟨⟩
    rfl
  rw [readName, takeWhile_run all stops, dropWhile_run all stops, String.ofList_toList]

theorem stops_nil (p : Char → Bool) : Stops p [] := by simp [Stops]

/-- A search at a fixed place is read back. -/
theorem readLookup_fixed (ignore : Bool) (literal : Literal) (offset : UInt64) :
    readLookup ignore (literal.text.toList ++ (" at ".toList ++ (decimal offset.toNat).toList)) =
      some (.lookupFixed literal offset ignore) := by
  have number := readNumber_decimal offset (stops_nil isDigit)
  rw [List.append_nil] at number
  simp only [readLookup, readLiteral_text, Option.map_some, behind?_append, number]

/-- A search in a window is read back: what follows its literal does not begin like a fixed place. -/
theorem readLookup_window (ignore : Bool) (literal : Literal) (lower upper : UInt64) (close : Bool) :
    readLookup ignore (literal.text.toList ++ ((Op.windowText lower upper).toList ++
      (Op.flagText close " close").toList)) = some (.lookup literal lower upper close ignore) := by
  have window : readWindow ((Op.windowText lower upper).toList ++ (Op.flagText close " close").toList) =
      (lower, upper, (Op.flagText close " close").toList) :=
    readWindow_text lower upper (by cases close <;> simp [Op.flagText])
  have flag := readFlag_text close " close" [] (by simp)
  have free : behind? " at ".toList ((Op.windowText lower upper).toList ++ (Op.flagText close " close").toList) =
      none := by
    apply behind?_eq_none
    unfold Op.windowText
    split_ifs <;> cases close <;> simp [Op.flagText]
  rw [List.append_nil] at flag
  simp only [readLookup, readLiteral_text, Option.map_some, free, window, flag]

theorem readField_text {name : String} (h : ' ' ∉ name.toList) (type : FieldType) :
    readField (name.toList ++ ' ' :: type.name.toList) = some (.declareField name type {}) := by
  simp only [readField, readName_append h, List.tail_cons, String.ofList_toList, FieldType.ofName?_name,
    Option.map_some]

/-- A capture up to a delimiter is read back. -/
theorem readCapture_before {name : String} (h : ' ' ∉ name.toList) (type : FieldType) (literal : Literal)
    (lower upper : UInt64) (close orRest : Bool) :
    readCapture type (name.toList ++ (" before ".toList ++ (literal.text.toList ++
      ((Op.windowText lower upper).toList ++ ((Op.flagText close " close").toList ++
        (Op.flagText orRest " or rest").toList))))) =
      some (.takeBefore name type literal lower upper close orRest) := by
  have window : readWindow ((Op.windowText lower upper).toList ++ ((Op.flagText close " close").toList ++
      (Op.flagText orRest " or rest").toList)) =
      (lower, upper, (Op.flagText close " close").toList ++ (Op.flagText orRest " or rest").toList) :=
    readWindow_text lower upper (by cases close <;> cases orRest <;> simp [Op.flagText])
  have closes := readFlag_text close " close" (Op.flagText orRest " or rest").toList
    (by cases orRest <;> simp [Op.flagText])
  have rests := readFlag_text orRest " or rest" [] (by simp)
  rw [List.append_nil] at rests
  have blank : " before ".toList = ' ' :: "before ".toList := by simp
  simp only [readCapture, blank, List.cons_append, readName_append h]
  simp only [← List.cons_append, ← blank, behind?_append, readLiteral_text, Option.map_some, window, closes, rests]

/-- A capture of all that is left is read back. -/
theorem readCapture_rest {name : String} (h : ' ' ∉ name.toList) (type : FieldType) :
    readCapture type (name.toList ++ " rest".toList) = some (.takeRest name type) := by
  have blank : " rest".toList = ' ' :: "rest".toList := by simp
  have free : behind? " before ".toList (' ' :: "rest".toList) = none := behind?_eq_none (by simp)
  simp only [readCapture, blank, readName_append h, free]

/-! ## Lines -/

/-- No word at the front of a line begins with another. -/
theorem forms_apart (type : FieldType) :
    (forms type).Pairwise fun f g => ¬ f.1 <+: g.1 ∧ ¬ g.1 <+: f.1 := by
  have words : (forms type).map Prod.fst = (forms default).map Prod.fst := rfl
  have apart : ((forms default).map Prod.fst).Pairwise fun v w => ¬ v <+: w ∧ ¬ w <+: v := by decide +kernel
  rw [← words] at apart
  exact List.pairwise_map.1 apart

/-- A line is read according to its word. -/
theorem readLine_form (type : FieldType) (i : Nat) {word : List Char} {read : List Char → Option Op}
    (h : (forms type)[i]? = some (word, read)) {line : List Char} (rest : List Char) (hl : line = word ++ rest) :
    readLine type line = read rest := by
  subst hl
  have other : ∀ f : List Char × (List Char → Option Op), ¬ f.1 <+: word ∧ ¬ word <+: f.1 →
      (behind? f.1 (word ++ rest)).bind f.2 = none := by
    rintro f ⟨hf, hw⟩
    rw [behind?_eq_none, Option.bind_none]
    intro front
    exact (List.prefix_or_prefix_of_prefix front (List.prefix_append word rest)).elim hf hw
  obtain ⟨before, after, split⟩ := List.append_of_mem (List.mem_of_getElem? h)
  have apart := forms_apart type
  rw [split, List.pairwise_append, List.pairwise_cons] at apart
  obtain ⟨-, ⟨behind, -⟩, across⟩ := apart
  have first : before.findSome? (fun f => (behind? f.1 (word ++ rest)).bind f.2) = none :=
    List.findSome?_eq_none_iff.2 fun f hf => other f (across f hf _ List.mem_cons_self)
  have last : after.findSome? (fun f => (behind? f.1 (word ++ rest)).bind f.2) = none :=
    List.findSome?_eq_none_iff.2 fun f hf => other f (behind f hf).symm
  rw [readLine, split, List.findSome?_append, first, Option.none_or, List.findSome?_cons, last]
  simp only [behind?_append, Option.bind_some]
  cases read rest <;> rfl

end Listing

namespace Op

/-- The operation without its position in the text. -/
def withoutPos : Op → Op
  | openUnnamed _ => openUnnamed {}
  | openNamed name _ => openNamed name {}
  | declareField name type _ => declareField name type {}
  | op => op

/-- The name that a line shows as it is. -/
def name? : Op → Option String
  | openNamed name _ => some name
  | declareField name _ _ => some name
  | takeBefore name _ _ _ _ _ _ => some name
  | takeRest name _ => some name
  | _ => none

end Op

namespace Listing

open Text

/-- The line of an operation is read back, if its name holds no blank and the type of what it captures is
known. -/
theorem readLine_text {op : Op} {type : FieldType} (plain : ∀ name, op.name? = some name → ' ' ∉ name.toList)
    (typed : ∀ name filled, op.filled? = some (name, filled) → filled = type) :
    readLine type op.text.toList = some op.withoutPos := by
  cases op with
  | openUnnamed pos => exact readLine_form type 0 rfl [] (by simp [Op.text])
  | closeUnnamed => exact readLine_form type 1 rfl [] (by simp [Op.text])
  | openNamed name pos =>
    rw [readLine_form type 2 rfl name.toList (by simp [Op.text]), String.ofList_toList]
    rfl
  | closeNamed => exact readLine_form type 3 rfl [] (by simp [Op.text])
  | checkpoint path =>
    have read := readQuoted_escaped (.inr rfl : IsQuote '"') path.toList []
    rw [readLine_form type 4 rfl _ (by simp [Op.text, quoted]; rfl), read]
    simp only [Option.map_some, String.ofList_toList]
    rfl
  | atEnd => exact readLine_form type 5 rfl [] (by simp [Op.text])
  | stress => exact readLine_form type 6 rfl [] (by simp [Op.text])
  | head literal optional =>
    have read := readLiteral_text literal []
    rw [List.append_nil] at read
    cases optional with
    | false =>
      rw [readLine_form type 7 rfl literal.text.toList (by simp [Op.text, Op.flagText]), read]
      rfl
    | true =>
      rw [readLine_form type 8 rfl literal.text.toList (by simp [Op.text, Op.flagText]), read]
      rfl
  | passFirst count =>
    have read := readNumber_decimal count (stops_nil isDigit)
    rw [List.append_nil] at read
    rw [readLine_form type 9 rfl (decimal count.toNat).toList (by simp [Op.text]), read]
    rfl
  | lookupFixed literal offset ignore =>
    have read := readLookup_fixed ignore literal offset
    cases ignore with
    | false => exact (readLine_form type 10 rfl _ (by simp [Op.text, Op.flagText])).trans read
    | true => exact (readLine_form type 11 rfl _ (by simp [Op.text, Op.flagText])).trans read
  | lookup literal lower upper close ignore =>
    have read := readLookup_window ignore literal lower upper close
    cases ignore with
    | false => exact (readLine_form type 10 rfl _ (by simp [Op.text, Op.flagText])).trans read
    | true => exact (readLine_form type 11 rfl _ (by simp [Op.text, Op.flagText])).trans read
  | declareField name declared pos =>
    exact (readLine_form type 12 rfl _ (by simp [Op.text])).trans (readField_text (plain name rfl) declared)
  | takeBefore name filled literal lower upper close orRest =>
    obtain rfl := typed name filled rfl
    exact (readLine_form filled 13 rfl _ (by simp [Op.text])).trans
      (readCapture_before (plain name rfl) filled literal lower upper close orRest)
  | takeRest name filled =>
    obtain rfl := typed name filled rfl
    exact (readLine_form filled 13 rfl _ (by simp [Op.text])).trans (readCapture_rest (plain name rfl) filled)

/-! ## Line breaks and indentation -/

theorem newline_notMem_decimal (n : Nat) : '\n' ∉ (decimal n).toList := by
  rw [decimal, String.toList_ofList]
  intro h
  exact absurd (isDigit_of_mem_toDigits h) (by decide)

theorem newline_notMem_literal (literal : Literal) : '\n' ∉ literal.text.toList := by
  cases literal with
  | char c => simpa [Literal.text, quotedChar] using newline_notMem_escaped (.inl rfl : IsQuote '\'') c
  | string s =>
    simpa [Literal.text, quoted] using fun c _ => newline_notMem_escaped (.inr rfl : IsQuote '"') c

theorem newline_notMem_window (lower upper : UInt64) : '\n' ∉ (Op.windowText lower upper).toList := by
  unfold Op.windowText
  split_ifs <;> simp [newline_notMem_decimal]

/-- An operation is shown on one line, if its name is. -/
theorem newline_notMem_text {op : Op} (plain : ∀ name, op.name? = some name → '\n' ∉ name.toList) :
    '\n' ∉ op.text.toList := by
  have flag : ∀ b, ∀ word : String, '\n' ∉ word.toList → '\n' ∉ (Op.flagText b word).toList := by
    intro b word h
    cases b
    · simp [Op.flagText]
    · exact h
  cases op with
  | openNamed name pos => simpa [Op.text] using plain name rfl
  | checkpoint path =>
    simpa [Op.text, quoted] using fun c _ => newline_notMem_escaped (.inr rfl : IsQuote '"') c
  | head literal optional => simp [Op.text, newline_notMem_literal, flag]
  | passFirst count => simp [Op.text, newline_notMem_decimal]
  | lookupFixed literal offset ignore => simp [Op.text, newline_notMem_literal, newline_notMem_decimal, flag]
  | lookup literal lower upper close ignore => simp [Op.text, newline_notMem_literal, newline_notMem_window, flag]
  | declareField name type pos =>
    have typeName : '\n' ∉ type.name.toList := by cases type <;> decide
    simp [Op.text, plain name rfl, typeName]
  | takeBefore name type literal lower upper close orRest =>
    simp [Op.text, plain name rfl, newline_notMem_literal, newline_notMem_window, flag]
  | takeRest name type => simp [Op.text, plain name rfl]
  | _ => simp [Op.text]

/-- The text of an operation does not begin with a blank. -/
theorem stops_text (op : Op) : Stops (· == ' ') op.text.toList := by
  cases op <;> simp [Op.text, Stops]

theorem dropWhile_indented (depth : Nat) (op : Op) :
    (List.replicate (2 * depth) ' ' ++ op.text.toList).dropWhile (· == ' ') = op.text.toList :=
  dropWhile_run (fun c hc => by rw [List.eq_of_mem_replicate hc]; rfl) (stops_text op)

/-- The first line of a program is that of its first operation. -/
theorem splitOn_linesText_cons {op : Op} (plain : ∀ name, op.name? = some name → '\n' ∉ name.toList) (depth : Nat)
    (ops : List Op) :
    (Plan.linesText depth (op :: ops)).toList.splitOn '\n' =
      (List.replicate (2 * Plan.shownDepth depth op) ' ' ++ op.text.toList) ::
        (Plan.linesText (Plan.depthAfter depth op) ops).toList.splitOn '\n' := by
  have whole : '\n' ∉ List.replicate (2 * Plan.shownDepth depth op) ' ' ++ op.text.toList := by
    rw [List.mem_append, not_or]
    exact ⟨fun h => absurd (List.eq_of_mem_replicate h) (by decide), newline_notMem_text plain⟩
  have text : (Plan.linesText depth (op :: ops)).toList =
      (List.replicate (2 * Plan.shownDepth depth op) ' ' ++ op.text.toList) ++
        '\n' :: (Plan.linesText (Plan.depthAfter depth op) ops).toList := by
    simp [Plan.linesText, Plan.lineText]
  rw [text, List.splitOn_append_cons_self_of_not_mem whole]

/-! ## Listings -/

theorem typeAfter_withoutPos (previous : Option Op) : typeAfter (previous.map Op.withoutPos) = typeAfter previous := by
  rcases previous with _ | op
  · rfl
  · cases op <;> rfl

/-- A capture fills the field that is declared right before it. -/
theorem typed_of_fits {op : Op} {areas : List (Option String)} {previous next : Option Op}
    (fits : op.Fits areas previous next) {name : String} {filled : FieldType}
    (h : op.filled? = some (name, filled)) : filled = typeAfter previous := by
  cases op with
  | takeBefore n t literal lower upper close orRest =>
    cases h
    obtain ⟨-, pos, rfl⟩ := fits
    rfl
  | takeRest n t =>
    cases h
    obtain ⟨-, pos, rfl⟩ := fits
    rfl
  | _ => cases h

/-- The lines of operations are read back, without positions. -/
theorem readLines_linesText {ops : List Op} {areas : List (Option String)} {previous : Option Op}
    (fits : Op.AllFit areas previous ops)
    (plain : ∀ op ∈ ops, ∀ name, op.name? = some name → ' ' ∉ name.toList ∧ '\n' ∉ name.toList) (depth : Nat) :
    readLines (previous.map Op.withoutPos) ((Plan.linesText depth ops).toList.splitOn '\n').dropLast =
      some (ops.map Op.withoutPos) := by
  induction ops generalizing areas previous depth with
  | nil => rfl
  | cons op ops ih =>
    obtain ⟨here, rest⟩ := fits
    obtain ⟨own, others⟩ := List.forall_mem_cons.1 plain
    have ih := ih rest others (Plan.depthAfter depth op)
    have line : readLine (typeAfter (previous.map Op.withoutPos)) op.text.toList = some op.withoutPos :=
      readLine_text (fun name hn => (own name hn).1)
        (fun name filled hf => (typed_of_fits here hf).trans (typeAfter_withoutPos previous).symm)
    rw [splitOn_linesText_cons (fun name hn => (own name hn).2), List.dropLast_cons_of_ne_nil (List.splitOn_ne_nil _ _),
      readLines, dropWhile_indented, line, Option.bind_some, ← Option.map_some (f := Op.withoutPos), ih]
    rfl

end Listing

/-! ## Names -/

theorem Step.name?_of_mem_program {s : Step} {names : List String} {op : Op} {name : String} (pos : Pos)
    (h : op ∈ s.program names) (hn : op.name? = some name) : (Action.step pos s).name? = some name := by
  cases s with
  | passUntil limit ignore =>
    rcases List.mem_cons.1 h with rfl | h
    · cases hn
    · obtain ⟨literal, -, rfl⟩ := List.mem_map.1 h
      split at hn <;> cases hn
  | take field limit orRest =>
    rcases List.mem_cons.1 h with rfl | h
    · cases hn
    · rcases List.mem_cons.1 h with rfl | h
      · exact hn
      · obtain ⟨literal, -, rfl⟩ := List.mem_map.1 h
        exact hn
  | takeRest field =>
    simp only [Step.program, List.mem_cons, List.not_mem_nil, or_false] at h
    rcases h with rfl | rfl | rfl
    · cases hn
    · exact hn
    · exact hn
  | _ =>
    simp only [Step.program, List.mem_cons, List.not_mem_nil, or_false] at h
    rcases h with rfl | rfl <;> cases hn

/-- The names in a program are those that its actions bring in. -/
theorem Action.name?_of_mem_programAll (acts : List Action) (names : List String) (areas : List (Option String))
    {op : Op} {name : String} (h : op ∈ programAll names acts) (hn : op.name? = some name) :
    ∃ p ∈ placesAll areas acts, p.action.name? = some name := by
  induction acts using Action.forest_induction generalizing names areas with
  | nil => simp [programAll] at h
  | unnamed pos body rest hb hr =>
    simp only [programAll, program, List.cons_append, List.mem_cons, List.mem_append, List.not_mem_nil, or_false] at h
    simp only [placesAll, places, List.cons_append, List.mem_cons, List.mem_append]
    rcases h with rfl | (h | rfl) | h
    · cases hn
    · obtain ⟨p, hp, hname⟩ := hb _ (areas ++ [none]) h
      exact ⟨p, .inr (.inl hp), hname⟩
    · cases hn
    · obtain ⟨p, hp, hname⟩ := hr _ areas h
      exact ⟨p, .inr (.inr hp), hname⟩
  | named pos area body rest hb hr =>
    simp only [programAll, program, List.cons_append, List.mem_cons, List.mem_append, List.not_mem_nil, or_false] at h
    simp only [placesAll, places, List.cons_append, List.mem_cons, List.mem_append]
    rcases h with rfl | rfl | (h | rfl) | h
    · cases hn
    · exact ⟨_, .inl rfl, hn⟩
    · obtain ⟨p, hp, hname⟩ := hb _ (areas ++ [some area]) h
      exact ⟨p, .inr (.inl hp), hname⟩
    · cases hn
    · obtain ⟨p, hp, hname⟩ := hr _ areas h
      exact ⟨p, .inr (.inr hp), hname⟩
  | step pos s rest hr =>
    simp only [programAll, program, List.mem_append] at h
    simp only [placesAll, places, List.mem_append, List.mem_singleton]
    rcases h with h | h
    · exact ⟨_, .inl rfl, Step.name?_of_mem_program pos h hn⟩
    · obtain ⟨p, hp, hname⟩ := hr _ areas h
      exact ⟨p, .inr hp, hname⟩

/-- A normal form holds neither blanks nor line breaks. -/
theorem NamingPolicy.blank_notMem_normalize (policy : NamingPolicy) (name : String) :
    ' ' ∉ (policy.normalize name).toList ∧ '\n' ∉ (policy.normalize name).toList := by
  have signs : ∀ c, Text.IsSign c → Text.isAlphanumeric c = false → c ∉ (policy.normalize name).toList := by
    intro c sign other h
    rw [isAlphanumeric_of_mem_normalize policy name sign h] at other
    cases other
  exact ⟨signs ' ' ⟨by decide, by decide⟩ (by decide +kernel), signs '\n' ⟨by decide, by decide⟩ (by decide +kernel)⟩

/-! ## Plans -/

theorem Op.text_withoutPos (op : Op) : op.withoutPos.text = op.text := by
  cases op <;> rfl

theorem Plan.depth_withoutPos (depth : Nat) (op : Op) :
    shownDepth depth op.withoutPos = shownDepth depth op ∧ depthAfter depth op.withoutPos = depthAfter depth op := by
  cases op <;> exact ⟨rfl, rfl⟩

/-- Positions are not shown. -/
theorem Plan.linesText_withoutPos (depth : Nat) (ops : List Op) :
    linesText depth (ops.map Op.withoutPos) = linesText depth ops := by
  induction ops generalizing depth with
  | nil => rfl
  | cons op ops ih =>
    obtain ⟨shown, after⟩ := depth_withoutPos depth op
    simp only [List.map_cons, linesText, lineText, shown, after, op.text_withoutPos, ih]

section

variable {σ γ : Type} {e : Emitter σ γ} {policy : NamingPolicy} {rule : Rule} {s : σ} {ops : List Op}

theorem blank_notMem_of_compose_ok (h : (compose e policy.normalize rule s).result = .ok ops) :
    ∀ op ∈ ops, ∀ name, op.name? = some name → ' ' ∉ name.toList ∧ '\n' ∉ name.toList := by
  obtain ⟨named, program, -, -⟩ := fit_of_compose_ok h
  intro op hop name hn
  rw [program] at hop
  obtain ⟨p, hp, hname⟩ := Action.name?_of_mem_programAll rule.actions [] [] hop hn
  rw [← (named p hp name hname).2]
  exact policy.blank_notMem_normalize name

/-- The lines of a rule that is composed are read back as its operations, without positions. -/
theorem Listing.readText_of_compose_ok (h : (compose e policy.normalize rule s).result = .ok ops) (depth : Nat) :
    readText (Plan.linesText depth ops).toList = some (ops.map Op.withoutPos) := by
  obtain ⟨-, -, fits, -⟩ := fit_of_compose_ok h
  exact readLines_linesText fits (blank_notMem_of_compose_ok h) depth

end

namespace Recorder

/-- Rules of the same name and position are committed as plans with the same listing exactly if they have
the same operations, up to positions. -/
theorem listing_eq_iff {policy policy' : NamingPolicy} {rule rule' : Rule} {r r' : Recorder} {ops ops' : List Op}
    (h : (compose emitter policy.normalize rule r).result = .ok ops)
    (h' : (compose emitter policy'.normalize rule' r').result = .ok ops')
    (name : rule.name = rule'.name) (pos : rule.pos = rule'.pos) :
    ∃ plan plan', (compose emitter policy.normalize rule r).state.plans = r.plans ++ [plan] ∧
      (compose emitter policy'.normalize rule' r').state.plans = r'.plans ++ [plan'] ∧
      plan.ops = ops ∧ plan'.ops = ops' ∧
      (plan.listing = plan'.listing ↔ ops.map Op.withoutPos = ops'.map Op.withoutPos) := by
  refine ⟨_, _, by rw [compose_ok_state h], by rw [compose_ok_state h'], rfl, rfl, ?_⟩
  simp only [Plan.listing, name, pos, String.append_right_inj]
  constructor
  · intro same
    have read := Listing.readText_of_compose_ok h 1
    rw [same, Listing.readText_of_compose_ok h' 1] at read
    exact (Option.some.inj read).symm
  · intro same
    rw [← Plan.linesText_withoutPos, same, Plan.linesText_withoutPos]

/-- Two rules that differ in positions alone, with literals that hold a quote, a line break and the text of a
flag. -/
theorem listing_eq_iff_moved :
    let rule (pos : Pos) : Rule := { name := "access", actions := [
      .named pos "user" [.step pos (.take { name := "id", type := .int32, pos := pos }
        { kind := .string, value := "\" close\n", lower := 2, close := true } true)],
      .step pos (.passUntil { kind := .char, value := "'", lower := 3, upper := 3 } true)] }
    ∃ ops ops', (compose emitter NamingPolicy.snake.normalize (rule ⟨1, 1⟩) {}).result = .ok ops ∧
      (compose emitter NamingPolicy.snake.normalize (rule ⟨2, 5⟩) {}).result = .ok ops' ∧ ops ≠ ops' ∧
      ∃ plan plan', (compose emitter NamingPolicy.snake.normalize (rule ⟨1, 1⟩) {}).state.plans = [plan] ∧
        (compose emitter NamingPolicy.snake.normalize (rule ⟨2, 5⟩) {}).state.plans = [plan'] ∧
        plan.ops = ops ∧ plan'.ops = ops' ∧
        (plan.listing = plan'.listing ↔ ops.map Op.withoutPos = ops'.map Op.withoutPos) := by
  intro rule
  have h : (compose emitter NamingPolicy.snake.normalize (rule ⟨1, 1⟩) {}).result = .ok (rule ⟨1, 1⟩).program := by
    decide +kernel
  have h' : (compose emitter NamingPolicy.snake.normalize (rule ⟨2, 5⟩) {}).result = .ok (rule ⟨2, 5⟩).program := by
    decide +kernel
  exact ⟨_, _, h, h', by decide +kernel, listing_eq_iff h h' rfl rfl⟩

end Recorder

end LineRules
