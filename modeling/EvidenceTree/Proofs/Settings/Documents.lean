import EvidenceTree.Proofs.Toml.Strings
import EvidenceTree.Settings.Document

/-!
# Settings that are read back

The settings are written as a document line by line: the data file, if there is one, on a line of
its own, and below it the table of matching under its header. A line is read whatever follows it,
and what follows as if it stood alone, so a document is read line by line as well. The data file is
any text; its string is read back as every string is.

* `Toml.statements?_header`, `Toml.statements?_assignment`: one line, and the statements behind it.
* `Settings.statements?_text`: the statements of the document that is written for settings.
* `Settings.ofText?_own_text`: the settings of that document are the ones that it is written for.
-/

namespace EvidenceTree

namespace Toml

open Text (Read Rest first?)

variable {key s rest behind : List Char} {c : Char} {value : Value}

/-! ## Keys -/

/-- A name that may stand as a key without quotes. -/
def IsBareKey (key : List Char) : Prop := key ≠ [] ∧ ∀ c ∈ key, isKeyChar c = true

instance : Decidable (IsBareKey key) :=
  @instDecidableAnd _ _ inferInstance (List.decidableBAll (fun c => isKeyChar c = true) key)

/-- What follows is nothing that a key without quotes could go on with. -/
def EndsKey (behind : List Char) : Prop := ∀ c, behind.head? = some c → isKeyChar c = false

theorem ne_of_isKeyChar (isChar : isKeyChar c = true) :
    isBlank c = false ∧ c ≠ '"' ∧ c ≠ '\'' ∧ c ≠ '#' ∧ c ≠ '\n' ∧ c ≠ '\r' ∧ c ≠ '[' := by
  refine ⟨?_, ?_⟩
  · by_contra blank
    rw [Bool.not_eq_false, isBlank, Bool.or_eq_true, decide_eq_true_eq, decide_eq_true_eq] at blank
    rcases blank with rfl | rfl <;> cases isChar
  · refine ⟨?_, ?_, ?_, ?_, ?_, ?_⟩ <;>
    · rintro rfl
      cases isChar

theorem dropBlanks_of_ne (visible : isBlank c = false) (s : List Char) :
    dropBlanks (c :: s) = .all (c :: s) := by
  refine Subtype.ext (List.dropWhile_cons_of_neg ?_)
  rw [visible]
  exact Bool.false_ne_true

theorem dropBlanks_space (visible : isBlank c = false) (s : List Char) :
    (dropBlanks (' ' :: c :: s)).1 = c :: s := by
  change (' ' :: c :: s).dropWhile isBlank = c :: s
  rw [List.dropWhile_cons_of_pos rfl]
  exact congrArg Subtype.val (dropBlanks_of_ne visible s)

theorem lineString?_of_ne (noQuote : c ≠ '"') (noQuote' : c ≠ '\'') (s : List Char) :
    lineString? (c :: s) = none := by
  rw [lineString?]
  · rintro rest ⟨⟩
    exact noQuote rfl
  · rintro rest ⟨⟩
    exact noQuote' rfl

theorem bareKey?_append (isKey : IsBareKey key) (ends : EndsKey behind) :
    Takes (bareKey? (key ++ behind)) (String.ofList key) behind := by
  obtain ⟨nonempty, plain⟩ := isKey
  have none : behind.takeWhile isKeyChar = [] ∧ behind.dropWhile isKeyChar = behind := by
    cases behind with
    | nil => exact ⟨rfl, rfl⟩
    | cons c behind => simp [ends c rfl]
  cases key with
  | nil => exact absurd rfl nonempty
  | cons first others =>
    obtain ⟨isFirst, plain⟩ := List.forall_mem_cons.1 plain
    have taken : (others ++ behind).takeWhile isKeyChar = others := by
      rw [List.takeWhile_append_of_pos plain, none.1, List.append_nil]
    have left : (others ++ behind).dropWhile isKeyChar = behind := by
      rw [List.dropWhile_append_of_pos plain, none.2]
    exact .of_eq (if_pos isFirst) (congrArg (fun others => String.ofList (first :: others)) taken)
      left

theorem keyPart?_bare (isKey : IsBareKey key) (ends : EndsKey behind) :
    Takes (keyPart? (key ++ behind)) (String.ofList key) (dropBlanks behind).1 := by
  obtain ⟨shorter, part⟩ := bareKey?_append isKey ends
  obtain ⟨first, others, rfl⟩ := List.exists_cons_of_ne_nil isKey.1
  obtain ⟨visible, noQuote, noQuote', -⟩ := ne_of_isKeyChar (isKey.2 first List.mem_cons_self)
  have starts : dropBlanks (first :: others ++ behind) = .all _ := dropBlanks_of_ne visible _
  have noString : lineString? (first :: others ++ behind) = none :=
    lineString?_of_ne noQuote noQuote' _
  unfold keyPart?
  rw [starts]
  dsimp only [Rest.all]
  rw [noString, Option.none_or, part]
  exact .of_eq rfl rfl rfl

/-- A key of one part is read up to what shows behind it, unless this goes on with another part. -/
theorem key?_bare (isKey : IsBareKey key) (ends : EndsKey behind)
    (left : (dropBlanks behind).1 = c :: s) (noDot : c ≠ '.') :
    Takes (key? (key ++ behind)) [String.ofList key] (c :: s) := by
  have part := keyPart?_bare isKey ends
  rw [left] at part
  obtain ⟨shorter, part⟩ := part
  have parts : Takes (keyParts? (key ++ behind)) [String.ofList key] (c :: s) := by
    rw [keyParts?, part]
    dsimp only [Option.bind_eq_bind, Option.bind_some, first?]
    split
    · rename_i same
      cases same
      exact absurd rfl noDot
    · exact ⟨shorter, rfl⟩
  obtain ⟨_, parts⟩ := parts
  unfold key?
  rw [parts]
  exact ⟨shorter, rfl⟩

/-! ## Values -/

theorem value?_string (isQuote : c = '"' ∨ c = '\'') (levels : Nat) {text : String}
    (takes : Takes (string? (c :: s)) text rest) :
    Takes (value? levels (c :: s)) (.string text) rest := by
  have scalar : Takes (scalar? (c :: s)) (.string text) rest := by
    unfold scalar?
    dsimp only
    rw [if_pos isQuote]
    exact takes.map (fun _ => rfl) fun _ => rfl
  cases levels with
  | zero => exact scalar
  | succ levels => rcases isQuote with rfl | rfl <;> exact scalar

/-- The word for a truth value. -/
def boolWord (b : Bool) : List Char := (if b then "true" else "false").toList

theorem value?_boolWord (levels : Nat) (b : Bool) (rest : List Char) :
    Takes (value? levels (boolWord b ++ rest)) (.boolean b) rest := by
  cases levels <;> cases b <;> exact .of_eq rfl rfl rfl

/-- A value is read from what is written for it, where the line ends behind it. -/
structure IsWritten (value : Value) (written : List Char) : Prop where
  visible : ∃ c s, written = c :: s ∧ isBlank c = false
  reads : ∀ levels s, Takes (value? levels (written ++ '\n' :: s)) value ('\n' :: s)

theorem isWritten_boolWord (b : Bool) : IsWritten (.boolean b) (boolWord b) where
  visible := by cases b <;> exact ⟨_, _, rfl, rfl⟩
  reads levels s := value?_boolWord levels b ('\n' :: s)

/-- A text is read from the form that it is written in, whatever it is. -/
theorem isWritten_stringText (text : String) :
    IsWritten (.string text) (stringText text).toList := by
  rw [stringText, String.toList_ofList]
  obtain ⟨c, written, starts, isQuote⟩ :=
    StringForm.exists_write_eq_cons text.toList (StringForm.of text.toList)
  refine ⟨⟨c, written, starts, by rcases isQuote with rfl | rfl <;> rfl⟩, fun levels s => ?_⟩
  have reads : Takes (string? ((StringForm.of text.toList).write text.toList ++ '\n' :: s))
      (String.ofList text.toList) ('\n' :: s) := string?_write_of text.toList ⟨nofun, nofun⟩
  rw [starts, String.ofList_toList] at reads
  rw [starts]
  exact value?_string isQuote levels reads

/-! ## Lines -/

/-- The line that assigns what is written to a key. -/
def assignmentChars (key written behind : List Char) : List Char :=
  key ++ ' ' :: '=' :: ' ' :: (written ++ '\n' :: behind)

/-- The line of a header. -/
def headerChars (key behind : List Char) : List Char := '[' :: (key ++ ']' :: '\n' :: behind)

theorem assignmentLine?_bare {written : List Char} (isKey : IsBareKey key)
    (isWritten : IsWritten value written) (s : List Char) :
    Takes (assignmentLine? (assignmentChars key written s)) ⟨[String.ofList key], value⟩ s := by
  obtain ⟨c, others, rfl, visible⟩ := isWritten.visible
  have endsKey : EndsKey (' ' :: '=' :: ' ' :: (c :: others ++ '\n' :: s)) := by
    rintro _ ⟨⟩
    rfl
  obtain ⟨_, keyRead⟩ := key?_bare isKey endsKey rfl (by decide : '=' ≠ '.')
  have shown : (dropBlanks (' ' :: (c :: others ++ '\n' :: s))).1 = c :: others ++ '\n' :: s :=
    dropBlanks_space visible _
  have valueRead := isWritten.reads (depthLimit - 1) s
  rw [← shown] at valueRead
  obtain ⟨_, valueRead⟩ := valueRead
  unfold assignmentLine? assignmentChars assignment?
  rw [keyRead]
  change Takes ((((value? (depthLimit - 1)
    (dropBlanks (' ' :: (c :: others ++ '\n' :: s))).1).bind _)).bind _) _ _
  rw [valueRead]
  exact .of_eq rfl rfl rfl

theorem header?_bare (isKey : IsBareKey key) (s : List Char) :
    Takes (header? (key ++ ']' :: '\n' :: s)) ([String.ofList key], false) s := by
  have endsKey : EndsKey (']' :: '\n' :: s) := by
    rintro _ ⟨⟩
    rfl
  obtain ⟨_, keyRead⟩ := key?_bare isKey endsKey rfl (by decide : ']' ≠ '.')
  obtain ⟨first, others, rfl⟩ := List.exists_cons_of_ne_nil isKey.1
  obtain ⟨-, -, -, -, -, -, noBracket⟩ := ne_of_isKeyChar (isKey.2 first List.mem_cons_self)
  have opensTable : ¬(first :: others ++ ']' :: '\n' :: s).head? = some '[' :=
    fun same => noBracket (Option.some.inj same)
  unfold header?
  dsimp only
  rw [if_neg opensTable, if_neg opensTable, decide_eq_false opensTable]
  change Takes ((key? (first :: others ++ ']' :: '\n' :: s)).bind _) _ _
  rw [keyRead]
  exact .of_eq rfl rfl rfl

/-- What follows an assignment is read as if it stood alone. -/
theorem statements?_assignment {written : List Char} (isKey : IsBareKey key)
    (isWritten : IsWritten value written) (s : List Char) :
    statements? (assignmentChars key written s) =
      (statements? s).map fun document =>
        document.withAssignment ⟨[String.ofList key], value⟩ := by
  have line := assignmentLine?_bare isKey isWritten s
  obtain ⟨first, others, rfl⟩ := List.exists_cons_of_ne_nil isKey.1
  obtain ⟨visible, -, -, noHash, noLine, noReturn, noBracket⟩ :=
    ne_of_isKeyChar (isKey.2 first List.mem_cons_self)
  change statements? (first :: (others ++ ' ' :: '=' :: ' ' :: (written ++ '\n' :: s))) = _
  change Takes (assignmentLine? (first :: (others ++ ' ' :: '=' :: ' ' :: (written ++ '\n' :: s))))
    _ s at line
  generalize others ++ ' ' :: '=' :: ' ' :: (written ++ '\n' :: s) = behind at line ⊢
  obtain ⟨_, line⟩ := line
  rw [statements?, dropBlanks_of_ne visible]
  dsimp only [Rest.all, first?]
  split
  · rename_i none
    cases none
  · rename_i same
    cases same
    exact absurd rfl noHash
  · rename_i same
    cases same
    exact absurd rfl noLine
  · rename_i same
    cases same
    exact absurd rfl noReturn
  · rename_i same
    cases same
    exact absurd rfl noBracket
  · rw [line]
    change (statements? s).bind _ = _
    cases statements? s <;> rfl

/-- What follows a header is read as if it stood alone. -/
theorem statements?_header (isKey : IsBareKey key) (s : List Char) :
    statements? (headerChars key s) =
      (statements? s).map fun document => document.withHeader [String.ofList key] false := by
  obtain ⟨_, header⟩ := header?_bare isKey s
  unfold headerChars
  rw [statements?, dropBlanks_of_ne rfl]
  change (header? (key ++ ']' :: '\n' :: s)).bind _ = _
  rw [header]
  change (statements? s).bind _ = _
  cases statements? s <;> rfl

theorem statements?_newline (s : List Char) : statements? ('\n' :: s) = statements? s := by
  rw [statements?, dropBlanks_of_ne rfl]
  rfl

theorem statements?_nil : statements? [] = some ⟨[], []⟩ := by
  rw [statements?]
  rfl

end Toml

namespace Settings

/-! ## The whole document -/

/-- The line for the data file, if there is one, as an assignment. -/
def dataFileAssignments (settings : Settings) : List Toml.Assignment :=
  settings.dataFile.toList.map fun path => ⟨["data_file"], .string path⟩

/-- The statements that are written for settings: the data file, if there is one, and the table of
matching. -/
def statements (settings : Settings) : Toml.Document where
  assignments := settings.dataFileAssignments
  blocks :=
    [⟨["matching"], false,
      [⟨["case_sensitive"], .boolean settings.matching.caseSensitive⟩,
        ⟨["key_policy"], .string settings.matching.keyPolicy.name⟩]⟩]

/-- The lines for the table of matching. -/
def matchingChars (settings : Settings) : List Char :=
  Toml.headerChars "matching".toList
    (Toml.assignmentChars "case_sensitive".toList (Toml.boolWord settings.matching.caseSensitive)
      (Toml.assignmentChars "key_policy".toList
        (Toml.stringText settings.matching.keyPolicy.name).toList []))

theorem toList_text (settings : Settings) : settings.text.toList =
    match settings.dataFile with
    | some path =>
      Toml.assignmentChars "data_file".toList (Toml.stringText path).toList
        ('\n' :: settings.matchingChars)
    | none => settings.matchingChars := by
  obtain ⟨dataFile, caseSensitive, keyPolicy⟩ := settings
  unfold text matchingChars
  cases dataFile <;>
    simp [String.toList_append, Toml.headerChars, Toml.assignmentChars, Toml.boolWord]

theorem statements?_matchingChars (settings : Settings) :
    Toml.statements? settings.matchingChars = some ⟨[], settings.statements.blocks⟩ := by
  unfold matchingChars
  rw [Toml.statements?_header (by decide),
    Toml.statements?_assignment (by decide) (Toml.isWritten_boolWord _),
    Toml.statements?_assignment (by decide) (Toml.isWritten_stringText _), Toml.statements?_nil]
  rfl

/-- The statements of the document that is written for settings. -/
theorem statements?_text (settings : Settings) :
    Toml.statements? settings.text.toList = some settings.statements := by
  rw [toList_text, statements, dataFileAssignments]
  cases settings.dataFile with
  | none => exact settings.statements?_matchingChars
  | some path =>
    dsimp only
    rw [Toml.statements?_assignment (by decide) (Toml.isWritten_stringText path),
      Toml.statements?_newline, statements?_matchingChars]
    rfl

/-- The table that the statements make, as its members are kept. -/
def members (settings : Settings) : List (String × Toml.Value) :=
  settings.dataFile.toList.map (fun path => ("data_file", .string path)) ++
    [("matching", .table
      [("case_sensitive", .boolean settings.matching.caseSensitive),
        ("key_policy", .string settings.matching.keyPolicy.name)])]

theorem table?_statements (settings : Settings) :
    settings.statements.table? = some (.table settings.members) := by
  obtain ⟨dataFile, caseSensitive, keyPolicy⟩ := settings
  cases dataFile <;> cbv

theorem ofValue?_members (settings : Settings) :
    (Layer.ofValue? (.table settings.members)).map (overlaid {}) = some settings := by
  obtain ⟨dataFile, caseSensitive, keyPolicy⟩ := settings
  cases dataFile <;> cases keyPolicy <;> cbv

theorem valueOfText?_text (settings : Settings) :
    Toml.Value.ofText? settings.text = some (.table settings.members) := by
  have statements := settings.statements?_text
  have noMark : ∀ rest, settings.text.toList ≠ '\ufeff' :: rest := by
    intro rest same
    rw [toList_text] at same
    cases path : settings.dataFile <;> rw [path] at same <;> cases same
  unfold Toml.Value.ofText?
  split
  · rename_i rest same
    exact absurd same (noMark rest)
  · rw [statements]
    exact settings.table?_statements

/-- Settings are read back from the document that is written for them. -/
theorem ofText?_own_text (settings : Settings) : ofText? settings.text = some settings := by
  unfold ofText? Layer.ofText?
  rw [valueOfText?_text]
  exact settings.ofValue?_members

end Settings

end EvidenceTree
