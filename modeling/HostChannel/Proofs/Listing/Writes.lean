import HostChannel.Proofs.Listing.Lines
import HostChannel.Proofs.Stream.RegisterWrite
import Mathlib.Data.List.Forall2

/-!
# Register writes of a listing

A listing and a decoder run through the commands of a stream on ways of their own, and carry the
active class on. They agree: the lines with an arrow show the register writes that the decoder
gives, in order, and there are as many anomalies (`listing_agrees_with_decoder`).
-/

namespace HostChannel

namespace Listing

open Text.Hexadecimal

/-- A line has an arrow. -/
def hasArrow (line : String) : Bool :=
  line.toList.contains '<'

/-- A line shows a register write when the text of the write ends it, behind the word that is
written or behind blanks. -/
def Shows (line : String) (write : RegisterWrite) : Prop :=
  ∃ source, line = writeFront source ++ writeText write

/-- The lines with an arrow show the register writes of the lines. -/
theorem shows_lines (lines : List ListingLine) :
    List.Forall₂ Shows ((lines.map lineText).filter hasArrow)
      (lines.filterMap ListingLine.write?) := by
  induction lines with
  | nil => exact .nil
  | cons line rest ih =>
    have arrow : hasArrow (lineText line) = line.write?.isSome := by
      rw [hasArrow, Bool.eq_iff_iff, List.contains_iff_mem, arrow_mem_lineText_iff]
    rw [List.map_cons, List.filter_cons, arrow, List.filterMap_cons]
    cases shown : line.write? with
    | none => exact ih
    | some write =>
      obtain ⟨source, rfl⟩ := ListingLine.eq_write_of_write? shown
      exact .cons ⟨source, lineText_write source write⟩ ih

/-- The lines behind a header show the register writes of the command. -/
theorem writes_body (command : Command) (active : Word) :
    (body command active).filterMap ListingLine.write? = command.writes active := by
  have shown : ∀ (writes : List RegisterWrite) (source : Nat → Option (Nat × Word)),
      (writes.mapIdx fun position write =>
        ListingLine.write (source position) write).filterMap ListingLine.write? = writes := by
    intro writes source
    rw [List.mapIdx_eq_zipIdx_map, List.filterMap_map]
    refine Eq.trans ?_ (List.zipIdx_map_fst 0 writes)
    exact congrFun List.filterMap_eq_map' _
  obtain ⟨index, word, header, payload⟩ := command
  cases header with
  | gather offset insert sequential count => cases payload <;> rfl
  | setClass | incrementing | nonIncrementing | masked | immediate | restart | extend
  | channelDone => exact shown _ _

/-- The lines of items show the register writes that are decoded from them. -/
theorem writes_threaded (active : Word) (items : List StreamItem) :
    (threaded itemLines active items).filterMap ListingLine.write? =
      (threaded StreamItem.decoded active items).filterMap Except.toOption := by
  induction items generalizing active with
  | nil => rfl
  | cons item rest ih =>
    rw [threaded_cons, threaded_cons, List.filterMap_append, List.filterMap_append]
    cases item with
    | error anomaly => exact ih active
    | ok command =>
      have written : ∀ writes : List RegisterWrite,
          (writes.map fun write => (.ok write : DecodedItem)).filterMap Except.toOption = writes := by
        intro writes
        rw [List.filterMap_map]
        exact List.filterMap_some
      have shown := writes_body command (command.header.classAfter active)
      have given := written (command.writes (command.header.classAfter active))
      exact congrArg₂ (· ++ ·) (shown.trans given.symm) (ih _)

/-- The anomalies of a stream are the items that are no commands. -/
theorem anomalyCount_eq (words : List Word) :
    anomalyCount words = (commands words).countP fun item => !item.isOk := by
  rw [anomalyCount]
  exact List.countP_congr fun item _ => by cases item <;> rfl

/-- There are as many anomalies among decoded items as among the items of the stream. -/
theorem anomalies_threaded (active : Word) (items : List StreamItem) :
    (threaded StreamItem.decoded active items).countP (fun item => !item.isOk) =
      items.countP fun item => !item.isOk := by
  induction items generalizing active with
  | nil => rfl
  | cons item rest ih =>
    rw [threaded_cons, List.countP_append, ih, List.countP_cons, Nat.add_comm]
    cases item with
    | error anomaly => rfl
    | ok command =>
      have none : ((command.writes (command.header.classAfter active)).map fun write =>
          (.ok write : DecodedItem)).countP (fun item => !item.isOk) = 0 := by
        rw [List.countP_map, List.countP_eq_zero]
        exact fun write _ => Bool.false_ne_true
      exact congrArg _ none

/-- What follows the last blank of a text. -/
theorem eq_of_last_blank {first second front other : List Char} (plain : ' ' ∉ first)
    (unbroken : ' ' ∉ second) (same : front ++ ' ' :: first = other ++ ' ' :: second) :
    first = second := by
  have ends : ∀ {front last : List Char}, ' ' ∉ last →
      (front ++ ' ' :: last).reverse.takeWhile (· != ' ') = last.reverse := by
    intro front last whole
    rw [List.reverse_append, List.reverse_cons, List.append_assoc,
      List.takeWhile_append_of_pos, List.singleton_append, List.takeWhile_cons_of_neg (by simp),
      List.append_nil]
    intro character among
    rw [bne_iff_ne]
    exact fun blank => whole (blank ▸ List.mem_reverse.mp among)
  have backwards := congrArg (fun text => text.reverse.takeWhile (· != ' ')) same
  exact List.reverse_inj.mp ((ends plain).symm.trans (backwards.trans (ends unbroken)))

/-- The characters of a number with `0x` in front. -/
theorem toList_prefixed (least number : Nat) :
    (prefixed least number).toList = '0' :: 'x' :: digits least number := by
  simp [prefixed, padded]

/-- A word is told by its digits with `0x` in front. -/
theorem prefixed_injective {least : Nat} {first second : Word}
    (same : (prefixed least first.toNat).toList = (prefixed least second.toNat).toList) :
    first = second := by
  simp only [toList_prefixed, List.cons.injEq, true_and] at same
  exact UInt32.toNat.inj (digits_injective same)

/-- The text of a class has no blank. -/
theorem blank_not_mem_className (engineClass : Word) : ' ' ∉ (className engineClass).toList := by
  rw [className]
  cases found : EngineClass.name? engineClass with
  | some name =>
    rcases EngineClass.name?_cases found with ⟨-, rfl⟩ | ⟨-, rfl⟩ | ⟨-, rfl⟩ | ⟨-, rfl⟩ <;> simp
  | none =>
    have digit : ' ' ∉ digits 1 engineClass.toNat := fun among =>
      Bool.false_ne_true (isDigit_of_mem_digits ' ' among)
    simp [toList_prefixed, digit]

/-- The text of a class without a name begins with a letter that no name begins with. -/
theorem head?_className (engineClass : Word) :
    (className engineClass).toList.head? = some 'c' ↔ EngineClass.name? engineClass = none := by
  rw [className]
  cases found : EngineClass.name? engineClass with
  | some name =>
    rcases EngineClass.name?_cases found with ⟨-, rfl⟩ | ⟨-, rfl⟩ | ⟨-, rfl⟩ | ⟨-, rfl⟩ <;> simp
  | none => simp

/-- A class is told by its text. -/
theorem className_injective {first second : Word} (same : className first = className second) :
    first = second := by
  have heads := (head?_className first).symm.trans (same ▸ head?_className second)
  rw [className, className] at same
  cases named : EngineClass.name? first with
  | some name =>
    cases also : EngineClass.name? second with
    | some other =>
      obtain rfl : name = other := by simpa [named, also] using same
      have classes := EngineClass.name?_cases also
      rcases EngineClass.name?_cases named with ⟨rfl, rfl⟩ | ⟨rfl, rfl⟩ | ⟨rfl, rfl⟩ | ⟨rfl, rfl⟩ <;>
        exact Eq.symm (by simpa using classes)
    | none => simp [named, also] at heads
  | none =>
    have unnamed := heads.mp named
    rw [named, unnamed, Option.getD_none, Option.getD_none] at same
    have texts := congrArg String.toList same
    rw [String.toList_append, String.toList_append] at texts
    exact prefixed_injective (List.append_cancel_left texts)

/-- What stands in front of a register write ends with a blank. -/
theorem writeFront_eq (source : Option (Nat × Word)) :
    ∃ front, (writeFront source).toList = front ++ [' '] := by
  cases source with
  | none => exact ⟨List.replicate 19 ' ', by simp [writeFront]⟩
  | some place =>
    exact ⟨(location place.1 place.2).toList ++ List.replicate 5 ' ', by simp [writeFront]⟩

/-- So a class is told by its text behind that. -/
theorem className_of_front {source other : Option (Nat × Word)} {first second : Word}
    (same : (writeFront source).toList ++ (className first).toList =
      (writeFront other).toList ++ (className second).toList) : first = second := by
  obtain ⟨before, blank⟩ := writeFront_eq source
  obtain ⟨ahead, space⟩ := writeFront_eq other
  rw [blank, space, List.append_assoc, List.append_assoc] at same
  have texts := eq_of_last_blank (blank_not_mem_className _) (blank_not_mem_className _) same
  exact className_injective (String.toList_inj.mp texts)

/-- The line of a register write is put together of these pieces. -/
theorem toList_write (source : Option (Nat × Word)) (write : RegisterWrite) :
    (writeFront source ++ writeText write).toList =
      ((writeFront source).toList ++ (className write.engineClass).toList) ++
        '[' :: ((prefixed 3 write.register.toNat).toList ++
          ']' :: (" <- ".toList ++ (prefixed 8 write.value.toNat).toList)) := by
  simp [writeText]

/-- A line shows no other register write. -/
theorem Shows.unique {line : String} {first second : RegisterWrite} (shown : Shows line first)
    (also : Shows line second) : first = second := by
  obtain ⟨source, rfl⟩ := shown
  obtain ⟨other, same⟩ := also
  have opening : '[' ∈ marks := by decide
  have closing : ']' ∈ marks := by decide
  -- The brackets are in no piece, so the pieces of both texts are the same.
  have outside : '[' ∉ (writeFront source).toList ++ (className first.engineClass).toList := by
    rw [List.mem_append, not_or]
    exact ⟨fun among => plain_writeFront _ _ among opening,
      fun among => plain_className _ _ among opening⟩
  have behind : ']' ∉ " <- ".toList ++ (prefixed 8 first.value.toNat).toList := by
    rw [List.mem_append, not_or]
    exact ⟨by simp, fun among => plain_prefixed _ _ _ among closing⟩
  have inside : '[' ∉ (prefixed 3 first.register.toNat).toList ++
      ']' :: (" <- ".toList ++ (prefixed 8 first.value.toNat).toList) := by
    simp only [List.mem_append, List.mem_cons, not_or]
    exact ⟨fun among => plain_prefixed _ _ _ among opening, by decide, by simp,
      fun among => plain_prefixed _ _ _ among opening⟩
  have texts := congrArg String.toList same
  rw [toList_write, toList_write] at texts
  obtain ⟨fronts, -, backs⟩ := (List.append_cons_inj_of_notMem outside inside).mp texts
  obtain ⟨registers, -, values⟩ := (List.append_cons_inj_of_notMem
    (fun among => plain_prefixed _ _ _ among closing) behind).mp backs
  obtain ⟨engineClass, register, value⟩ := first
  obtain ⟨_, _, _⟩ := second
  exact RegisterWrite.mk.injEq .. ▸ ⟨className_of_front fronts, prefixed_injective registers,
    prefixed_injective (List.append_cancel_left values)⟩

/-- A listing is appended behind what is there, and has as many anomalies as the decoder gives. Its
lines with an arrow show, in order, the register writes that the decoder gives, and each shows only
the one: the class, the register and the value are told by the line. -/
theorem listing_agrees_with_decoder (words : List Word) :
    (∀ start, append start (lines words) = start ++ text words) ∧
      anomalyCount words = (Decoder.given words).countP (fun item => !item.isOk) ∧
      List.Forall₂ Shows ((Text.lines (text words)).filter hasArrow)
        ((Decoder.given words).filterMap Except.toOption) ∧
      ∀ line first second, Shows line first → Shows line second → first = second := by
  rw [Decoder.given_eq]
  refine ⟨fun start => append_eq start _, ?_, ?_, fun _ _ _ => Shows.unique⟩
  · rw [anomalyCount_eq]
    exact (anomalies_threaded 0 _).symm
  · rw [text, lines_append, registerWrites, ← writes_threaded]
    exact shows_lines _

end Listing

end HostChannel
