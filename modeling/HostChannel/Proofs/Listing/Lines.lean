import HostChannel.Proofs.Text.Hexadecimal
import HostChannel.Stream.Listing

/-!
# Lines of a listing

What can be told from the text of a listing alone begins with its lines. No line has a line feed
inside, so the text is cut at its line feeds into the texts of its lines. All pieces of a line are
free of the characters that set off the parts of a register write, so a line has an arrow exactly
when it shows one, and then the text of the write ends it.
-/

namespace HostChannel

/-- The lines of a text, each ended by a line feed. -/
def Text.lines (text : String) : List String :=
  (text.toList.splitOn '\n').dropLast.map String.ofList

/-- Four classes have names. -/
theorem EngineClass.name?_cases {engineClass : Word} {name : String}
    (found : name? engineClass = some name) :
    (engineClass = host ∧ name = "host1x") ∨ (engineClass = twoDimensional ∧ name = "gr2d") ∨
      (engineClass = twoDimensionalContext ∧ name = "gr2d_sb") ∨
        (engineClass = threeDimensional ∧ name = "gr3d") := by
  unfold name? at found
  split at found
  · exact .inl ⟨‹_›, (Option.some.inj found).symm⟩
  · split at found
    · exact .inr (.inl ⟨‹_›, (Option.some.inj found).symm⟩)
    · split at found
      · exact .inr (.inr (.inl ⟨‹_›, (Option.some.inj found).symm⟩))
      · split at found
        · exact .inr (.inr (.inr ⟨‹_›, (Option.some.inj found).symm⟩))
        · contradiction

namespace ListingLine

/-- The word that a line shows in front, with its index. -/
def place? : ListingLine → Option (Nat × Word)
  | .header index word _ => some (index, word)
  | .gatherBase index word => some (index, word)
  | .write source _ => source
  | .anomaly (.unknownOpcode index word _) => some (index, word)
  | .anomaly (.truncated ..) => none

/-- The register write that a line shows. -/
def write? : ListingLine → Option RegisterWrite
  | .write _ given => some given
  | _ => none

/-- Only the line of a register write shows one. -/
theorem eq_write_of_write? {line : ListingLine} {shown : RegisterWrite}
    (found : line.write? = some shown) : ∃ source, line = .write source shown := by
  cases line with
  | write source write => exact ⟨source, congrArg _ (Option.some.inj found)⟩
  | header | gatherBase | anomaly => contradiction

end ListingLine

namespace Listing

open Text.Hexadecimal

/-- The characters that end a line, or set off the parts of a register write. -/
def marks : List Char := ['\n', '[', ']', '<']

/-- A text without any of these. -/
def Plain (text : String) : Prop :=
  ∀ character ∈ text.toList, character ∉ marks

/-- A text is plain when both of its parts are. -/
theorem plain_append_iff {first second : String} :
    Plain (first ++ second) ↔ Plain first ∧ Plain second := by
  rw [Plain, String.toList_append, List.forall_mem_append]
  rfl

/-- Digits are plain. -/
theorem plain_padded (least number : Nat) : Plain (padded least number) := by
  intro character among
  rw [padded, String.toList_ofList] at among
  have others : ∀ mark ∈ marks, isDigit mark = false := by simp [marks, isDigit, digitValue?]
  intro mark
  have digit := isDigit_of_mem_digits character among
  rw [others character mark] at digit
  exact Bool.false_ne_true digit

/-- So they are with `0x` in front. -/
theorem plain_prefixed (least number : Nat) : Plain (prefixed least number) :=
  plain_append_iff.mpr ⟨by simp [Plain, marks], plain_padded least number⟩

/-- Decimal digits are plain. -/
theorem plain_toString (number : Nat) : Plain (toString number) := by
  intro character among
  have others : ∀ mark ∈ marks, mark.isDigit = false := by simp [marks]
  intro mark
  have digit := Nat.isDigit_of_mem_toDigits (by decide) (by decide) (Nat.toList_repr ▸ among)
  rw [others character mark] at digit
  exact Bool.false_ne_true digit

/-- The names of classes are plain. -/
theorem plain_of_name? {engineClass : Word} {name : String}
    (found : EngineClass.name? engineClass = some name) : Plain name := by
  rcases EngineClass.name?_cases found with ⟨-, rfl⟩ | ⟨-, rfl⟩ | ⟨-, rfl⟩ | ⟨-, rfl⟩ <;>
    simp [Plain, marks]

/-- A class is shown by plain text. -/
theorem plain_className (engineClass : Word) : Plain (className engineClass) := by
  rw [className]
  cases found : EngineClass.name? engineClass with
  | some name => exact plain_of_name? found
  | none => exact plain_append_iff.mpr ⟨by simp [Plain, marks], plain_prefixed _ _⟩

/-- So is the remark with the name of a class. -/
theorem plain_classRemark (engineClass : Word) : Plain (classRemark engineClass) := by
  rw [classRemark]
  split
  · rename_i name found
    simp only [plain_append_iff, plain_of_name? found]
    simp [Plain, marks]
  · simp [Plain, marks]

/-- An index with a word is plain. -/
theorem plain_location (index : Nat) (word : Word) : Plain (location index word) := by
  simp only [location, plain_append_iff, plain_padded]
  simp [Plain, marks]

/-- A register offset is plain. -/
theorem plain_offsetText (offset : Word) : Plain (offsetText offset) :=
  plain_append_iff.mpr ⟨by simp [Plain, marks], plain_prefixed _ _⟩

/-- A flag is plain. -/
theorem plain_flag (value : Bool) : Plain (flag value) := by
  cases value <;> simp [Plain, marks, flag]

/-- The text of a header is plain. -/
theorem plain_headerText (header : Header) : Plain (headerText header) := by
  cases header <;>
  · simp only [headerText, Header.opcode, Opcode.mnemonic, plain_append_iff, plain_offsetText,
      plain_prefixed, plain_classRemark, plain_toString, plain_flag]
    simp [Plain, marks]

/-- What an operation is called in a message is plain. -/
theorem plain_label (opcode : Opcode) : Plain opcode.label := by
  cases opcode <;> simp [Plain, marks, Opcode.label]

/-- The message about a truncated command is plain. -/
theorem plain_message (index : Nat) (opcode : Opcode) (needed available : Nat) :
    Plain (Anomaly.message (.truncated index opcode needed available)) := by
  change Plain (opcode.label ++ " at index " ++ toString index ++ " needs " ++ toString needed ++
    " payload words but only " ++ toString available ++ " remain")
  simp only [plain_append_iff, plain_toString, plain_label]
  simp [Plain, marks]

/-- What stands in front of a register write in its line: the word that is written with its index,
or blanks in their place. -/
def writeFront : Option (Nat × Word) → String
  | some (index, word) => location index word ++ "      "
  | none => "                    "

/-- It is plain in both cases. -/
theorem plain_writeFront (source : Option (Nat × Word)) : Plain (writeFront source) := by
  cases source with
  | none => simp [Plain, marks, writeFront]
  | some place => exact plain_append_iff.mpr ⟨plain_location _ _, by simp [Plain, marks]⟩

/-- The text of a line with a register write ends with the text of the write. -/
theorem lineText_write (source : Option (Nat × Word)) (write : RegisterWrite) :
    lineText (.write source write) = writeFront source ++ writeText write := by
  cases source <;> rfl

/-- A line without a register write is plain. -/
theorem plain_lineText {line : ListingLine} (none : line.write? = none) : Plain (lineText line) := by
  match line with
  | .header index word header =>
    exact plain_append_iff.mpr ⟨plain_append_iff.mpr ⟨plain_location _ _, by simp [Plain, marks]⟩,
      plain_headerText header⟩
  | .gatherBase index word => exact plain_append_iff.mpr ⟨plain_location _ _, by simp [Plain, marks]⟩
  | .write source write => contradiction
  | .anomaly (.unknownOpcode index word number) =>
    exact plain_append_iff.mpr ⟨plain_append_iff.mpr ⟨plain_location _ _, by simp [Plain, marks]⟩,
      plain_prefixed _ _⟩
  | .anomaly (.truncated index opcode needed available) =>
    exact plain_append_iff.mpr ⟨by simp [Plain, marks], plain_message _ _ _ _⟩

/-- No line has a line feed inside. -/
theorem newline_not_mem_lineText (line : ListingLine) : '\n' ∉ (lineText line).toList := by
  have mark : '\n' ∈ marks := by decide
  cases shown : line.write? with
  | none => exact fun among => plain_lineText shown _ among mark
  | some write =>
    obtain ⟨source, rfl⟩ := ListingLine.eq_write_of_write? shown
    rw [lineText_write, writeText]
    simp only [String.toList_append, List.mem_append, not_or]
    exact ⟨fun among => plain_writeFront _ _ among mark,
      ⟨⟨⟨fun among => plain_className _ _ among mark, by simp⟩,
        fun among => plain_prefixed _ _ _ among mark⟩, by simp⟩,
      fun among => plain_prefixed _ _ _ among mark⟩

/-- A line has an arrow exactly when it shows a register write. -/
theorem arrow_mem_lineText_iff (line : ListingLine) :
    '<' ∈ (lineText line).toList ↔ line.write?.isSome = true := by
  have mark : '<' ∈ marks := by decide
  cases shown : line.write? with
  | none => exact iff_of_false (fun among => plain_lineText shown _ among mark) Bool.false_ne_true
  | some write =>
    obtain ⟨source, rfl⟩ := ListingLine.eq_write_of_write? shown
    refine iff_of_true ?_ rfl
    rw [lineText_write, writeText]
    simp

/-- The characters of a text to which lines are appended. -/
theorem toList_append (text : String) (lines : List ListingLine) :
    (append text lines).toList =
      text.toList ++ lines.flatMap fun line => (lineText line).toList ++ ['\n'] := by
  induction lines generalizing text with
  | nil => exact (List.append_nil _).symm
  | cons line rest ih =>
    rw [append, List.foldl_cons]
    refine (ih _).trans ?_
    simp

/-- Lines are appended behind what is there. -/
theorem append_eq (text : String) (lines : List ListingLine) :
    append text lines = text ++ append "" lines := by
  apply String.toList_inj.mp
  rw [String.toList_append, toList_append, toList_append]
  rfl

/-- The lines of a listing's text are the texts of its lines. -/
theorem lines_append (lines : List ListingLine) :
    Text.lines (append "" lines) = lines.map lineText := by
  have pieces : (append "" lines).toList.splitOn '\n' =
      (lines.map fun line => (lineText line).toList) ++ [[]] := by
    rw [toList_append, String.toList_empty, List.nil_append]
    induction lines with
    | nil => exact List.splitOn_nil _
    | cons line rest ih =>
      rw [List.flatMap_cons, List.append_assoc, List.singleton_append,
        List.splitOn_append_cons_self_of_not_mem (newline_not_mem_lineText line), ih]
      rfl
  rw [Text.lines, pieces, List.dropLast_concat, List.map_map]
  exact List.map_congr_left fun line _ => String.ofList_toList

end Listing
end HostChannel
