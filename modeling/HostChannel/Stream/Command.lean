import HostChannel.Stream.Header
import HostChannel.Text.Hexadecimal

/-!
# Commands of a stream

A stream is cut into commands from the front: a header word and as many payload words as
the header asks for. A word that is no header is an anomaly of its own, and a header that
asks for more words than remain is an anomaly that ends the stream. `CommandCursor.next`
takes one item, and `commands` lists them all.
-/

namespace HostChannel

/-- A place where a stream cannot be cut into commands. -/
inductive Anomaly where
  /-- A word whose operation number is not assigned. -/
  | unknownOpcode (index : Nat) (word number : Word)
  /-- A header that needs more payload words than remain. -/
  | truncated (index : Nat) (opcode : Opcode) (needed available : Nat)
  deriving DecidableEq, Repr

/-- The message of an anomaly. -/
def Anomaly.message : Anomaly → String
  | .unknownOpcode index word number =>
    "unknown opcode " ++ Text.Hexadecimal.prefixed 1 number.toNat ++ " in word " ++
      Text.Hexadecimal.prefixed 8 word.toNat ++ " at index " ++ toString index
  | .truncated index opcode needed available =>
    opcode.label ++ " at index " ++ toString index ++ " needs " ++ toString needed ++
      " payload words but only " ++ toString available ++ " remain"

/-- One command of a stream. -/
structure Command where
  /-- Position of the header word in the stream. -/
  index : Nat
  /-- The header word as it stands in the stream. -/
  word : Word
  /-- The header that the word is. -/
  header : Header
  /-- The words that follow the header. -/
  payload : List Word
  deriving DecidableEq, Repr

/-- An item of a stream: a command, or the anomaly in its place. -/
abbrev StreamItem := Except Anomaly Command

/-- A position in a stream, with the words from there on. -/
structure CommandCursor where
  /-- Position of the next word. -/
  index : Nat
  /-- The words that are still to be cut; none after a truncated command. -/
  rest : List Word
  deriving DecidableEq, Repr

namespace CommandCursor

/-- The start of a stream. -/
def ofWords (words : List Word) : CommandCursor :=
  ⟨0, words⟩

/-- The next item, and the position behind it. -/
def next (cursor : CommandCursor) : Option StreamItem × CommandCursor :=
  match cursor.rest with
  | [] => (none, cursor)
  | word :: rest =>
    match Header.decode? word with
    | none =>
      (some (.error (.unknownOpcode cursor.index word (Opcode.numberOf word))),
        ⟨cursor.index + 1, rest⟩)
    | some header =>
      let needed := header.payloadWords
      let payload := rest.take needed
      if payload.length < needed then
        (some (.error (.truncated cursor.index header.opcode needed rest.length)),
          ⟨cursor.index, []⟩)
      else
        (some (.ok ⟨cursor.index, word, header, payload⟩),
          ⟨cursor.index + 1 + needed, rest.drop needed⟩)

/-- Each item uses up at least one word. -/
theorem length_rest_next {cursor behind : CommandCursor} {item : StreamItem}
    (taken : cursor.next = (some item, behind)) : behind.rest.length < cursor.rest.length := by
  unfold next at taken
  split at taken
  · simp at taken
  · rename_i word rest words
    split at taken
    · simp only [Prod.mk.injEq] at taken
      simp [← taken.2, words]
    · dsimp only at taken
      split at taken
      · simp only [Prod.mk.injEq] at taken
        simp [← taken.2, words]
      · simp only [Prod.mk.injEq] at taken
        simp only [← taken.2, words, List.length_drop, List.length_cons]
        omega

/-- Appends the items from the cursor on to those found before it, and returns the
cursor behind the last. -/
def collect (cursor : CommandCursor) (found : Array StreamItem) :
    Array StreamItem × CommandCursor :=
  match _taken : cursor.next with
  | (none, behind) => (found, behind)
  | (some item, behind) => behind.collect (found.push item)
termination_by cursor.rest.length
decreasing_by exact length_rest_next _taken

/-- All items from the cursor on. -/
def items (cursor : CommandCursor) : List StreamItem :=
  (cursor.collect #[]).1.toList

/-- The cursor behind the last item. -/
def last (cursor : CommandCursor) : CommandCursor :=
  (cursor.collect #[]).2

end CommandCursor

/-- The items of a stream. -/
def commands (words : List Word) : List StreamItem :=
  (CommandCursor.ofWords words).items

end HostChannel
