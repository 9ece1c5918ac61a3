import HostChannel.Stream.RegisterWrite

/-!
# Listings

A listing shows every word of a stream on a line of its own, in order: a header with its
fields, and behind it one line for each register write, beside the payload word that it
takes its value from. Immediate data has a line without a word. An anomaly has a line;
the listing ends behind a truncated command.
-/

namespace HostChannel

/-- One line of a listing. -/
inductive ListingLine where
  /-- A header word. -/
  | header (index : Nat) (word : Word) (header : Header)
  /-- The payload word of a gather: the address to fetch from. -/
  | gatherBase (index : Nat) (word : Word)
  /-- A register write, with the payload word it comes from, if it comes from one. -/
  | write (source : Option (Nat × Word)) (write : RegisterWrite)
  /-- A place where the stream cannot be cut. -/
  | anomaly (anomaly : Anomaly)
  deriving DecidableEq, Repr

namespace Listing

open Text.Hexadecimal

/-- The index and the word at the start of a line. -/
def location (index : Nat) (word : Word) : String :=
  padded 4 index ++ ": " ++ padded 8 word.toNat

/-- The name of a class, or its number if it has no name. -/
def className (engineClass : Word) : String :=
  (EngineClass.name? engineClass).getD ("class" ++ prefixed 1 engineClass.toNat)

/-- The name of a class in brackets, if it has one. -/
def classRemark (engineClass : Word) : String :=
  match EngineClass.name? engineClass with
  | some name => " (" ++ name ++ ")"
  | none => ""

/-- A flag as a digit. -/
def flag (value : Bool) : String :=
  if value then "1" else "0"

/-- The register offset in a header's text. -/
def offsetText (offset : Word) : String :=
  " offset=" ++ prefixed 3 offset.toNat

/-- The text of a header with its fields. -/
def headerText (header : Header) : String :=
  header.opcode.mnemonic ++
    match header with
    | .setClass offset engineClass mask =>
      offsetText offset ++ " class=" ++ prefixed 2 engineClass.toNat ++ classRemark engineClass ++
        " mask=" ++ prefixed 2 mask.toNat
    | .incrementing offset count => offsetText offset ++ " count=" ++ toString count.toNat
    | .nonIncrementing offset count => offsetText offset ++ " count=" ++ toString count.toNat
    | .masked offset mask => offsetText offset ++ " mask=" ++ prefixed 4 mask.toNat
    | .immediate offset data => offsetText offset ++ " data=" ++ prefixed 4 data.toNat
    | .restart => ""
    | .gather offset insert sequential count =>
      offsetText offset ++ " insert=" ++ flag insert ++ " incr=" ++ flag sequential ++
        " count=" ++ toString count.toNat
    | .extend operation value =>
      " subop=" ++ prefixed 1 operation.toNat ++ " value=" ++ prefixed 6 value.toNat
    | .channelDone => ""

/-- The text of a register write. -/
def writeText (write : RegisterWrite) : String :=
  className write.engineClass ++ "[" ++ prefixed 3 write.register.toNat ++ "] <- " ++
    prefixed 8 write.value.toNat

/-- The text of a line, without the line's end. -/
def lineText : ListingLine → String
  | .header index word header => location index word ++ "  " ++ headerText header
  | .gatherBase index word => location index word ++ "      base"
  | .write (some (index, word)) write => location index word ++ "      " ++ writeText write
  | .write none write => "                    " ++ writeText write
  | .anomaly (.unknownOpcode index word number) =>
    location index word ++ "  ??? opcode=" ++ prefixed 1 number.toNat
  | .anomaly anomaly => "      ; " ++ anomaly.message

/-- The lines behind a header: the register writes of the command, each beside its
payload word, or the address of a gather. -/
def body (command : Command) (active : Word) : List ListingLine :=
  match command.header with
  | .gather .. => (command.payload.take 1).map (.gatherBase (command.index + 1))
  | _ =>
    (command.writes active).mapIdx fun position write =>
      .write (command.payload[position]?.map fun word => (command.index + 1 + position, word)) write

/-- The lines of one item of a stream with the given class active, and the class after. -/
def itemLines (active : Word) (item : StreamItem) : Word × List ListingLine :=
  match item with
  | .error anomaly => (active, [.anomaly anomaly])
  | .ok command =>
    let after := command.header.classAfter active
    (after, .header command.index command.word command.header :: body command after)

/-- The lines of a stream, from class zero on. -/
def lines (words : List Word) : List ListingLine :=
  threaded itemLines 0 (commands words)

/-- Appends lines to a text, each with its end. -/
def append (text : String) (lines : List ListingLine) : String :=
  lines.foldl (fun text line => text ++ lineText line ++ "\n") text

/-- The text of a stream. -/
def text (words : List Word) : String :=
  append "" (lines words)

/-- Number of anomalies of a stream. -/
def anomalyCount (words : List Word) : Nat :=
  (commands words).countP fun item => item matches .error _

end Listing

end HostChannel
