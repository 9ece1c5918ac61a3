import HostChannel.Proofs.Stream.RegisterWrite
import HostChannel.Stream.Builder

/-!
# Built streams read back

What a list of steps puts into a stream is said here without encoding and decoding anything: each
accepted step is one command (`commandsOf`) and writes registers of the class that was selected
last (`writesOf`). The stream that a builder makes of the steps is cut into exactly these commands
and decodes to exactly these writes, and a refused step leaves no trace.
-/

namespace HostChannel

namespace Builder

namespace Step

/-- The header of a step, with the fields as they were given; none if the step adds words as they
are. -/
def header? : Step → Option Header
  | push _ => none
  | pushSingle _ => none
  | setClass offset engineClass mask _ => some (.setClass offset engineClass mask)
  | incrementing offset values => some (.incrementing offset (UInt32.ofNat values.length))
  | nonIncrementing offset values => some (.nonIncrementing offset (UInt32.ofNat values.length))
  | masked offset mask _ => some (.masked offset mask)
  | immediate offset data => some (.immediate offset data)
  | extend operation value => some (.extend operation value)
  | restart => some .restart
  | channelDone => some .channelDone
  | incrementSyncpoint _ => some (.nonIncrementing SyncpointIncrement.register 1)

/-- The values of a step. -/
def values : Step → List Word
  | setClass _ _ _ values => values
  | incrementing _ values => values
  | nonIncrementing _ values => values
  | masked _ _ values => values
  | incrementSyncpoint increment => [increment.encode]
  | _ => []

/-- The step adds a command. -/
def structured (step : Step) : Bool :=
  step.header?.isSome

/-- The step is accepted. -/
def accepted (step : Step) : Bool :=
  step.words.toBool

/-- The class after a step and the registers that it writes, given the class before. Offsets keep
twelve bits, classes ten, and masks and data as many as the operation has room for. -/
def expansion (active : Word) : Step → Word × List RegisterWrite
  | setClass offset engineClass mask values =>
    (engineClass &&& 0x3ff,
      Command.selectedWrites (engineClass &&& 0x3ff) (offset &&& 0xfff) (mask &&& 0x3f) values)
  | incrementing offset values =>
    (active, values.mapIdx fun index value =>
      ⟨active, (offset &&& 0xfff) + UInt32.ofNat index, value⟩)
  | nonIncrementing offset values =>
    (active, values.map fun value => ⟨active, offset &&& 0xfff, value⟩)
  | masked offset mask values =>
    (active, Command.selectedWrites active (offset &&& 0xfff) (mask &&& 0xffff) values)
  | immediate offset data => (active, [⟨active, offset &&& 0xfff, data &&& 0xffff⟩])
  | incrementSyncpoint increment =>
    (active, [⟨active, SyncpointIncrement.register, increment.encode⟩])
  | _ => (active, [])

end Step

/-- The commands of the accepted steps, the first at an index: each has the header of its step, cut
down to the widths of its fields, and the values of the step behind it. -/
def commandsOf (index : Nat) : List Step → List Command
  | [] => []
  | step :: rest =>
    match step.header? with
    | some header =>
      if step.accepted then
        ⟨index, header.encode, header.truncate, step.values⟩ ::
          commandsOf (index + (step.values.length + 1)) rest
      else commandsOf index rest
    | none => commandsOf index rest

/-- The register writes of the accepted steps, from an active class on. -/
def writesOf (active : Word) : List Step → List RegisterWrite
  | [] => []
  | step :: rest =>
    if step.accepted then (step.expansion active).2 ++ writesOf (step.expansion active).1 rest
    else writesOf active rest

namespace Step

/-- A number of values that is accepted is what the count says. -/
theorem toNat_truncate_count {values : List Word} (few : values.length ≤ maxCount) :
    (Header.countField.truncate (UInt32.ofNat values.length)).toNat = values.length := by
  have bound : values.length ≤ 0xffff := few
  rw [BitField.toNat_truncate, UInt32.toNat_ofNat']
  change values.length % 2 ^ 32 % 2 ^ 16 = values.length
  omega

/-- An accepted step adds its header and its values, as many as the header's word asks for. -/
theorem words_of_accepted {step : Step} {header : Header} (found : step.header? = some header)
    (accepted : step.accepted = true) :
    step.words = .ok (header.encode :: step.values) ∧
      step.values.length = header.truncate.payloadWords := by
  cases step with
  | push word => contradiction
  | pushSingle number => contradiction
  | setClass offset engineClass mask values =>
    obtain rfl := Option.some.inj found
    by_cases fits : values.length = Word.bitCount (Header.classMaskField.truncate mask)
    · exact ⟨if_pos fits, fits⟩
    · simp [Step.accepted, words, fits, Except.toBool] at accepted
  | incrementing offset values =>
    obtain rfl := Option.some.inj found
    by_cases fits : values.length ≤ maxCount
    · exact ⟨if_pos fits, (toNat_truncate_count fits).symm⟩
    · simp [Step.accepted, words, fits, Except.toBool] at accepted
  | nonIncrementing offset values =>
    obtain rfl := Option.some.inj found
    by_cases fits : values.length ≤ maxCount
    · exact ⟨if_pos fits, (toNat_truncate_count fits).symm⟩
    · simp [Step.accepted, words, fits, Except.toBool] at accepted
  | masked offset mask values =>
    obtain rfl := Option.some.inj found
    by_cases fits : values.length = Word.bitCount (Header.maskField.truncate mask)
    · exact ⟨if_pos fits, fits⟩
    · simp [Step.accepted, words, fits, Except.toBool] at accepted
  | immediate offset data => exact Option.some.inj found ▸ ⟨rfl, rfl⟩
  | extend operation value => exact Option.some.inj found ▸ ⟨rfl, rfl⟩
  | restart => exact Option.some.inj found ▸ ⟨rfl, rfl⟩
  | channelDone => exact Option.some.inj found ▸ ⟨rfl, rfl⟩
  | incrementSyncpoint increment => exact Option.some.inj found ▸ ⟨rfl, rfl⟩

/-- The command of a step is decoded to the registers that the step writes. -/
theorem decoded_command {step : Step} {header : Header} (found : step.header? = some header)
    (active : Word) (index : Nat) :
    StreamItem.decoded active (.ok ⟨index, header.encode, header.truncate, step.values⟩) =
      ((step.expansion active).1, (step.expansion active).2.map .ok) := by
  have offset : ∀ value, Header.offsetField.truncate value = value &&& 0xfff :=
    fun value => BitField.truncate_eq_and _ value _ rfl
  have engineClass : ∀ value, Header.classField.truncate value = value &&& 0x3ff :=
    fun value => BitField.truncate_eq_and _ value _ rfl
  have classMask : ∀ value, Header.classMaskField.truncate value = value &&& 0x3f :=
    fun value => BitField.truncate_eq_and _ value _ rfl
  have mask : ∀ value, Header.maskField.truncate value = value &&& 0xffff :=
    fun value => BitField.truncate_eq_and _ value _ rfl
  have data : ∀ value, Header.dataField.truncate value = value &&& 0xffff :=
    fun value => BitField.truncate_eq_and _ value _ rfl
  cases step with
  | push | pushSingle => simp [header?] at found
  | setClass | incrementing | nonIncrementing | masked | immediate | extend | restart | channelDone
  | incrementSyncpoint =>
    obtain rfl := Option.some.inj found
    simp [StreamItem.decoded, Header.truncate, Header.classAfter, Command.writes, expansion, values,
      SyncpointIncrement.register, offset, engineClass, classMask, mask, data]

end Step

/-- The words that the accepted steps add. -/
def streamOf (steps : List Step) : List Word :=
  steps.flatMap fun step => step.words.toOption.getD []

/-- A builder adds the words of the accepted steps at the end. -/
theorem toList_performAll (builder : Builder) (steps : List Step) :
    (builder.performAll steps).words.toList = builder.words.toList ++ streamOf steps := by
  induction steps generalizing builder with
  | nil => exact (List.append_nil _).symm
  | cons step rest ih =>
    rw [performAll, List.foldl_cons]
    refine (ih _).trans ?_
    rw [streamOf, streamOf, List.flatMap_cons, ← List.append_assoc]
    congr 1
    cases made : step.words with
    | ok words => exact toList_perform_of_ok builder made
    | error refusal =>
      rw [perform_of_error builder made]
      exact (List.append_nil _).symm

variable {steps : List Step}

/-- The stream of a list of steps begins with the command of the first, if it is accepted. -/
theorem streamOf_cons {step : Step} {header : Header} (found : step.header? = some header)
    (rest : List Step) :
    streamOf (step :: rest) =
      (if step.accepted then header.encode :: step.values else []) ++ streamOf rest := by
  rw [streamOf, streamOf, List.flatMap_cons]
  congr 1
  cases accepted : step.accepted with
  | false =>
    cases made : step.words with
    | ok words => simp [Step.accepted, made, Except.toBool] at accepted
    | error refusal => rfl
  | true =>
    obtain ⟨words, -⟩ := Step.words_of_accepted found accepted
    rw [words]
    rfl

/-- The stream of structured steps is cut into their commands. -/
theorem items_streamOf (structured : ∀ step ∈ steps, step.structured = true) (index : Nat) :
    CommandCursor.items ⟨index, streamOf steps⟩ = (commandsOf index steps).map .ok := by
  induction steps generalizing index with
  | nil => exact CommandCursor.items_of_none rfl
  | cons step rest ih =>
    obtain ⟨first, others⟩ := List.forall_mem_cons.mp structured
    obtain ⟨header, found⟩ := Option.isSome_iff_exists.mp first
    rw [streamOf_cons found]
    simp only [commandsOf, found]
    cases accepted : step.accepted with
    | false => exact ih others index
    | true =>
      obtain ⟨-, framed⟩ := Step.words_of_accepted found accepted
      rw [if_pos rfl, if_pos rfl, CommandCursor.items_encode _ _ _ _ framed, ih others,
        List.map_cons]

/-- It decodes to the register writes of the steps. -/
theorem threaded_commandsOf (structured : ∀ step ∈ steps, step.structured = true) (active : Word)
    (index : Nat) :
    threaded StreamItem.decoded active ((commandsOf index steps).map .ok) =
      (writesOf active steps).map .ok := by
  induction steps generalizing active index with
  | nil => rfl
  | cons step rest ih =>
    obtain ⟨first, others⟩ := List.forall_mem_cons.mp structured
    obtain ⟨header, found⟩ := Option.isSome_iff_exists.mp first
    simp only [commandsOf, writesOf, found]
    cases accepted : step.accepted with
    | false => exact ih others active index
    | true =>
      rw [if_pos rfl, if_pos rfl, List.map_cons, threaded_cons, Step.decoded_command found,
        ih others, List.map_append]

/-- There is one command for each accepted step. -/
theorem length_commandsOf (structured : ∀ step ∈ steps, step.structured = true) (index : Nat) :
    (commandsOf index steps).length = steps.countP Step.accepted := by
  induction steps generalizing index with
  | nil => rfl
  | cons step rest ih =>
    obtain ⟨first, others⟩ := List.forall_mem_cons.mp structured
    obtain ⟨header, found⟩ := Option.isSome_iff_exists.mp first
    simp only [commandsOf, found]
    cases accepted : step.accepted with
    | false =>
      rw [List.countP_cons_of_neg (by simp [accepted])]
      exact ih others index
    | true =>
      rw [List.countP_cons_of_pos accepted, if_pos rfl, List.length_cons, ih others]

/-- A stream that is built by structured steps, of which some may be refused, is cut into one
command for each accepted step, with the header of the step cut down to the widths of its fields
and the values of the step, and decodes to the register writes of the accepted steps, in order. A
refused step leaves the words as they are. -/
theorem built_stream_reads_back {steps : List Step}
    (structured : ∀ step ∈ steps, step.structured = true) :
    (∀ builder : Builder, ∀ step ∈ steps, (builder.perform step).2 ≠ none →
        (builder.perform step).1 = builder) ∧
      commands (empty.performAll steps).words.toList = (commandsOf 0 steps).map .ok ∧
      (commandsOf 0 steps).length = steps.countP Step.accepted ∧
      (Decoder.ofWords (empty.performAll steps).words.toList).takeAll.1.toList.map Prod.fst =
        (writesOf 0 steps).map .ok ∧
      (Decoder.ofWords (empty.performAll steps).words.toList).takeAll.2.next.1 = none := by
  have words : (empty.performAll steps).words.toList = streamOf steps := toList_performAll empty steps
  obtain ⟨decoded, exhausted⟩ := Decoder.takeAll_eq (streamOf steps)
  rw [words]
  refine ⟨?_, items_streamOf structured 0, length_commandsOf structured 0, ?_, exhausted⟩
  · intro builder step _ refused
    cases made : step.words with
    | ok added => simp [perform, made] at refused
    | error refusal => rw [perform_of_error builder made]
  · rw [decoded, registerWrites, commands, CommandCursor.ofWords, items_streamOf structured,
      threaded_commandsOf structured]

/-- Steps of every kind, with fields that are too wide and two steps that are refused. -/
def mixedSteps : List Step :=
  [.immediate 0x1002b 0x51234,
    .setClass 0x7010 0x460 0xc5 [7, 9],
    .setClass 0 0x51 1 [],
    .incrementing 0xffff [1, 2],
    .masked 0x20 0x50009 [3, 4],
    .masked 0x20 3 [5],
    .nonIncrementing 0x30 [6, 8],
    .extend 0x11 0x2000003,
    .incrementSyncpoint ⟨1, 3⟩,
    .restart,
    .channelDone]

/-- They are nine commands, and decode to the writes of the steps that were accepted. -/
theorem mixed_steps_read_back :
    (commands (empty.performAll mixedSteps).words.toList).length = 9 ∧
      (Decoder.ofWords (empty.performAll mixedSteps).words.toList).takeAll.1.toList.map Prod.fst =
        [⟨0, 0x2b, 0x1234⟩, ⟨0x60, 0x10, 7⟩, ⟨0x60, 0x12, 9⟩, ⟨0x60, 0xfff, 1⟩, ⟨0x60, 0x1000, 2⟩,
          ⟨0x60, 0x20, 3⟩, ⟨0x60, 0x23, 4⟩, ⟨0x60, 0x30, 6⟩, ⟨0x60, 0x30, 8⟩,
          ⟨0x60, 0, 0x103⟩].map .ok := by
  obtain ⟨-, cut, count, decoded, -⟩ := @built_stream_reads_back mixedSteps (by decide)
  refine ⟨?_, decoded.trans (congrArg _ ?_)⟩
  · rw [cut, List.length_map, count]
    decide
  · decide

end Builder

end HostChannel
