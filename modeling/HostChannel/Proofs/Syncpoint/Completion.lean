import HostChannel.Proofs.Syncpoint.Fences

/-!
# A reached fence means that the work is done

Where work waits in the queue, streams make no more than the declared increments of their own
syncpoint and none of another, and nobody increments a syncpoint directly, the counter of a
syncpoint is what executed submissions declare on it and its reserved value what all accepted
ones declare (`Moment.Served`). The queue is in the order of acceptance, so the fence of a
submission is reached exactly when the submission has been executed: on the device between two
requests, and between two executions while it executes its queue
(`Moment.reached_exactly_when_executed`). Channels play no part in this: a closed channel's work
stays in the queue, and its syncpoint goes on counting for the next channel that has it.
-/

namespace HostChannel

namespace Simulator

/-- The streams of a submission make no more than the declared increments of its own syncpoint,
and none of another. -/
structure Keeps (simulator : Simulator) (submission : Submission) : Prop where
  /-- The streams make at most the declared increments. -/
  own : (simulator.performed submission).count submission.syncpoint ≤ submission.increments.toNat
  /-- They increment no other syncpoint of the device. -/
  others : ∀ index : Word, index.toNat < simulator.syncpoints.size →
    index ≠ submission.syncpoint → (simulator.performed submission).count index = 0

/-- A submission declares an increment, streams keep to what is declared when they are executed,
and nobody increments a syncpoint directly. -/
def Orderly (simulator : Simulator) : Request → Prop
  | .call (.submit submission) =>
    simulator.Accepts submission → 0 < submission.increments.toNat
  | .runPending => ∀ submission ∈ simulator.pending, simulator.Keeps submission
  | .increment _ _ => False
  | _ => True

/-- Each of the requests is orderly when its turn comes. -/
def AllOrderly (simulator : Simulator) : List Request → Prop
  | [] => True
  | request :: rest => simulator.Orderly request ∧ (simulator.respond request).AllOrderly rest

/-- The first part of requests that are orderly in their turn are so by themselves. -/
theorem AllOrderly.of_append {simulator : Simulator} {first second : List Request}
    (orderly : simulator.AllOrderly (first ++ second)) : simulator.AllOrderly first := by
  induction first generalizing simulator with
  | nil => trivial
  | cons request rest ih => exact ⟨orderly.1, ih orderly.2⟩

/-- An execution that keeps to what is declared makes exactly the declared increments. -/
theorem Keeps.count_incrementsMade {simulator : Simulator} {submission : Submission}
    (keeps : simulator.Keeps submission) {index : Word}
    (present : index.toNat < simulator.syncpoints.size) :
    (simulator.incrementsMade submission).count index = declared index [submission] := by
  by_cases own : submission.syncpoint = index
  · subst own
    have enough := simulator.count_incrementsMade_self submission
    have most := keeps.own
    simp only [declared, if_true]
    omega
  · rw [count_incrementsMade_of_ne simulator submission (Ne.symm own),
      keeps.others index present (Ne.symm own)]
    simp only [declared, if_neg own, Nat.add_zero]

/-- Streams that increment no syncpoint but the submission's own, and not too often, keep to what
is declared. -/
theorem keeps_of_only {simulator : Simulator} {submission : Submission}
    (only : ∀ index ∈ simulator.performed submission, index = submission.syncpoint)
    (few : (simulator.performed submission).length ≤ submission.increments.toNat) :
    simulator.Keeps submission where
  own := Nat.le_trans List.count_le_length few
  others index _ other := List.count_eq_zero.mpr fun made => other (only index made)

end Simulator

namespace Moment

/-- The submissions accepted so far, in order. -/
def submissions (moment : Moment) : List Submission :=
  moment.promises.map Promise.submission

/-- The counters are what executed submissions declare, with the increments that the first
unfinished one has made; the reserved numbers are what all submissions declare. -/
structure Served (moment : Moment) : Prop where
  /-- Only accepted submissions have been executed. -/
  ordered : moment.executed ≤ moment.promises.length
  /-- A counter is what executed submissions declare, and what is made since. -/
  counted : ∀ index : Word, index.toNat < moment.syncpoints.size →
    (moment.tallies index).value =
      declared index (moment.submissions.take moment.executed) + moment.recent.count index
  /-- A reserved number is what all submissions declare. -/
  reserved : ∀ index : Word, index.toNat < moment.syncpoints.size →
    (moment.tallies index).reserved = declared index moment.submissions
  /-- A fence is what submissions up to its own declare on the syncpoint. -/
  numbers : ∀ position promise, moment.promises[position]? = some promise →
    promise.number =
      declared promise.submission.syncpoint (moment.submissions.take (position + 1))
  /-- Every submission declares an increment of a syncpoint of the device. -/
  declares : ∀ promise ∈ moment.promises, 0 < promise.submission.increments.toNat ∧
    promise.submission.syncpoint.toNat < moment.syncpoints.size
  /-- What is made since is declared by the first of the unfinished submissions. -/
  making : ∀ index : Word, index.toNat < moment.syncpoints.size →
    moment.recent.count index ≤ declared index (moment.unfinished.take 1)

/-- What is unfinished comes behind what has been executed. -/
theorem unfinished_eq_drop (moment : Moment) :
    moment.unfinished = moment.submissions.drop moment.executed :=
  List.map_drop

/-- One more submission is executed when the first unfinished one is. -/
theorem declared_take_succ (moment : Moment) (index : Word) :
    declared index (moment.submissions.take (moment.executed + 1)) =
      declared index (moment.submissions.take moment.executed) +
        declared index (moment.unfinished.take 1) := by
  rw [List.take_add, declared_append, unfinished_eq_drop]

/-- Fewer of the submissions declare no more. -/
theorem declared_take_le (index : Word) (submissions : List Submission) {fewer more : Nat}
    (less : fewer ≤ more) :
    declared index (submissions.take fewer) ≤ declared index (submissions.take more) := by
  obtain ⟨difference, rfl⟩ := Nat.exists_eq_add_of_le less
  rw [List.take_add, declared_append]
  exact Nat.le_add_right _ _

/-- A counter is not past what all submissions declare. -/
theorem Served.inOrder {moment : Moment} (served : moment.Served) {index : Word}
    (present : index.toNat < moment.syncpoints.size) : (moment.tallies index).InOrder := by
  have making := served.making index present
  have next := declared_take_succ moment index
  have whole := declared_append index (moment.submissions.take (moment.executed + 1))
    (moment.submissions.drop (moment.executed + 1))
  rw [List.take_append_drop] at whole
  rw [Tally.InOrder, served.counted index present, served.reserved index present]
  omega

/-- Nothing has been served before anything has happened. -/
theorem served_initial (settings : SimulatorSettings) : (initial settings).Served where
  ordered := Nat.le_refl 0
  counted _ _ := rfl
  reserved _ _ := rfl
  numbers _ _ found := by simp [initial] at found
  declares _ accepted := absurd accepted List.not_mem_nil
  making _ _ := Nat.zero_le _

/-- An accepted submission is the last of all, and its fence is what all of them declare. -/
theorem served_accepted {moment : Moment} (served : moment.Served) (idle : moment.recent = [])
    {submission : Submission} (positive : 0 < submission.increments.toNat)
    (present : submission.syncpoint.toNat < moment.syncpoints.size) (fence : Word) :
    (moment.next (.accepted submission fence)).Served := by
  have ordered := served.ordered
  have length : moment.submissions.length = moment.promises.length := List.length_map _
  have all : (moment.next (.accepted submission fence)).submissions =
      moment.submissions ++ [submission] := by
    simp only [submissions, next, List.map_append, List.map_cons, List.map_nil]
  have size : (moment.next (.accepted submission fence)).syncpoints.size =
      moment.syncpoints.size := Array.size_modify
  refine ⟨?_, ?_, ?_, ?_, ?_, ?_⟩
  · simp only [next, List.length_append, List.length_singleton]
    omega
  · intro index inside
    rw [size] at inside
    have counted := served.counted index inside
    rw [idle] at counted
    rw [all]
    simp only [next, changeTally, Tally.reserve]
    rw [List.take_append_of_le_length (by omega)]
    split
    · exact counted
    · exact counted
  · intro index inside
    rw [size] at inside
    have reserved := served.reserved index inside
    rw [all, declared_append]
    simp only [next, changeTally, Tally.reserve, declared, Nat.add_zero]
    by_cases same : index = submission.syncpoint
    · rw [if_pos same, if_pos same.symm, reserved]
    · rw [if_neg same, if_neg (Ne.symm same), reserved, Nat.add_zero]
  · intro position promise found
    rw [all]
    simp only [next] at found
    by_cases earlier : position < moment.promises.length
    · rw [List.getElem?_append_left earlier] at found
      rw [served.numbers position promise found, List.take_append_of_le_length (by omega)]
    · rw [List.getElem?_append_right (by omega)] at found
      rw [List.getElem?_singleton, Option.ite_none_right_eq_some, Option.some.injEq] at found
      obtain ⟨last, rfl⟩ := found
      rw [List.take_of_length_le (by rw [List.length_append, List.length_singleton]; omega),
        declared_append]
      simp only [Tally.reserve, declared, if_true, Nat.add_zero]
      rw [served.reserved _ present]
  · intro promise accepted
    rw [size]
    simp only [next, List.mem_append, List.mem_singleton] at accepted
    rcases accepted with earlier | rfl
    · exact served.declares promise earlier
    · exact ⟨positive, present⟩
  · intro index inside
    exact Nat.zero_le _

/-- Increments that the first unfinished submission declares are counted for it. -/
theorem served_incremented {moment : Moment} (served : moment.Served) (idle : moment.recent = [])
    {indices : List Word}
    (declares : ∀ index : Word, index.toNat < moment.syncpoints.size →
      indices.count index ≤ declared index (moment.unfinished.take 1)) :
    (moment.along (indices.map .incremented)).Served := by
  have tallies : ∀ index : Word, index.toNat < moment.syncpoints.size →
      (moment.along (indices.map .incremented)).tallies index =
        (moment.tallies index).advance (indices.count index) := by
    intro index inside
    rw [along_incremented]
    exact foldl_changeTally indices moment.tallies (served.inOrder inside)
  have size : (moment.along (indices.map .incremented)).syncpoints.size =
      moment.syncpoints.size := by
    rw [along_incremented]
    exact Simulator.size_incremented indices moment.syncpoints
  have recent : (moment.along (indices.map .incremented)).recent = indices := by
    rw [along_incremented, idle, List.nil_append]
  have promises : (moment.along (indices.map .incremented)).promises = moment.promises := by
    rw [along_incremented]
  have executed : (moment.along (indices.map .incremented)).executed = moment.executed := by
    rw [along_incremented]
  refine ⟨?_, ?_, ?_, ?_, ?_, ?_⟩
  · rw [promises, executed]
    exact served.ordered
  · intro index inside
    rw [size] at inside
    have counted := served.counted index inside
    rw [idle, List.count_nil, Nat.add_zero] at counted
    rw [tallies index inside, recent, executed, submissions, promises]
    simp only [Tally.advance, counted, submissions]
  · intro index inside
    rw [size] at inside
    have counted := served.counted index inside
    have reserved := served.reserved index inside
    have few := declares index inside
    have next := declared_take_succ moment index
    have whole := declared_append index (moment.submissions.take (moment.executed + 1))
      (moment.submissions.drop (moment.executed + 1))
    rw [List.take_append_drop] at whole
    rw [idle, List.count_nil, Nat.add_zero] at counted
    rw [tallies index inside, submissions, promises, ← submissions]
    simp only [Tally.advance]
    omega
  · intro position promise found
    rw [promises] at found
    rw [submissions, promises]
    exact served.numbers position promise found
  · intro promise accepted
    rw [promises] at accepted
    rw [size]
    exact served.declares promise accepted
  · intro index inside
    rw [size] at inside
    rw [recent, unfinished, promises, executed]
    exact declares index inside

/-- A submission is executed when all that it declares has been made. -/
theorem served_finished {moment : Moment} (served : moment.Served)
    (waiting : moment.executed < moment.promises.length)
    (made : ∀ index : Word, index.toNat < moment.syncpoints.size →
      moment.recent.count index = declared index (moment.unfinished.take 1)) :
    (moment.next .finished).Served := by
  refine ⟨waiting, fun index inside => ?_, served.reserved, served.numbers, served.declares,
    fun index inside => Nat.zero_le _⟩
  have counted := served.counted index inside
  have next := declared_take_succ moment index
  have all := made index inside
  change (moment.tallies index).value =
    declared index (moment.submissions.take (moment.executed + 1)) + 0
  omega

/-- The execution of the first unfinished submission is counted for it alone, if it keeps to
what is declared. -/
theorem always_served_execution {moment : Moment} (served : moment.Served)
    (idle : moment.recent = []) {simulator : Simulator} {submission : Submission}
    {rest : List Submission} (first : moment.unfinished = submission :: rest)
    (size : moment.syncpoints.size = simulator.syncpoints.size)
    (keeps : simulator.Keeps submission) :
    Always Served moment (simulator.execution submission) := by
  have alone : moment.unfinished.take 1 = [submission] := by
    rw [first, List.take_succ_cons, List.take_zero]
  have exactly : ∀ index : Word, index.toNat < moment.syncpoints.size →
      (simulator.incrementsMade submission).count index =
        declared index (moment.unfinished.take 1) := by
    intro index inside
    rw [size] at inside
    rw [alone, keeps.count_incrementsMade inside]
  have during : Always Served moment
      ((simulator.incrementsMade submission).map .incremented) := by
    intro past early
    obtain ⟨part, shorter, rfl⟩ := List.prefix_map_iff.mp early
    apply served_incremented served idle
    intro index inside
    rw [← exactly index inside]
    exact shorter.sublist.count_le index
  have behind : ((moment.along
      ((simulator.incrementsMade submission).map .incremented)).next .finished).Served := by
    apply served_finished during.finish
    · have left := length_unfinished moment
      rw [first, List.length_cons] at left
      rw [along_incremented]
      simp only
      omega
    · intro index inside
      rw [along_incremented, Simulator.size_incremented] at inside
      rw [along_incremented, idle, List.nil_append]
      exact exactly index inside
  rw [Simulator.execution, always_append]
  exact ⟨during, always_cons.mpr ⟨during.finish, always_nil.mpr behind⟩⟩

/-- Behind an execution, its submission is no longer unfinished, and nothing has been made for
the next. -/
theorem behind_execution (moment : Moment) (simulator : Simulator) (submission : Submission) :
    (moment.along (simulator.execution submission)).unfinished = moment.unfinished.tail ∧
      (moment.along (simulator.execution submission)).recent = [] ∧
      (moment.along (simulator.execution submission)).syncpoints.size =
        moment.syncpoints.size := by
  rw [along_execution, along_incremented]
  exact ⟨unfinished_finished moment, rfl, Simulator.size_incremented _ _⟩

/-- Executions of all that is unfinished are counted for one submission after the other. -/
theorem always_served_executions {simulator : Simulator} {submissions : List Submission}
    (keeps : ∀ submission ∈ submissions, simulator.Keeps submission) {moment : Moment}
    (served : moment.Served) (idle : moment.recent = [])
    (all : moment.unfinished = submissions)
    (size : moment.syncpoints.size = simulator.syncpoints.size) :
    Always Served moment (submissions.flatMap simulator.execution) ∧
      (moment.along (submissions.flatMap simulator.execution)).recent = [] := by
  induction submissions generalizing moment with
  | nil => exact ⟨always_nil.mpr served, idle⟩
  | cons submission rest ih =>
    obtain ⟨own, others⟩ := List.forall_mem_cons.mp keeps
    obtain ⟨later, quiet, same⟩ := behind_execution moment simulator submission
    have one := always_served_execution served idle all size own
    rw [all, List.tail_cons] at later
    obtain ⟨next, still⟩ := ih others one.finish quiet later (same.trans size)
    rw [List.flatMap_cons, always_append, along_append]
    exact ⟨⟨one, next⟩, still⟩

/-- An orderly request to a device that queues its work is served in order. -/
theorem always_served_events {simulator : Simulator} {moment : Moment}
    (follows : Follows simulator moment) (served : moment.Served) (idle : moment.recent = [])
    (deferred : simulator.settings.completion = .deferred) {request : Request}
    (orderly : simulator.Orderly request) :
    Always Served moment (simulator.events request) ∧
      (moment.along (simulator.events request)).recent = [] := by
  have size := congrArg Array.size follows.syncpoints
  cases request with
  | runPending => exact always_served_executions orderly served idle follows.unfinished size
  | increment index times => exact absurd orderly not_false
  | write region position data => exact ⟨always_nil.mpr served, idle⟩
  | call call =>
    cases call with
    | submit submission =>
      by_cases accepts : simulator.Accepts submission
      · obtain ⟨syncpoint, found, run⟩ := Simulator.submit_of_accepts accepts
        have present := accepts.syncpoint
        rw [← size] at present
        simp only [Simulator.events, Simulator.acceptance, run, deferred, always_cons, always_nil]
        exact ⟨⟨served, served_accepted served idle (orderly accepts) present _⟩, rfl⟩
      · obtain ⟨failure, run⟩ := Simulator.submit_of_not_accepts accepts
        simp only [Simulator.events, Simulator.acceptance, run]
        exact ⟨always_nil.mpr served, idle⟩
    | _ => exact ⟨always_nil.mpr served, idle⟩

/-- An orderly run on a device that queues its work is served in order. -/
theorem always_served_history {simulator : Simulator} {moment : Moment}
    (follows : Follows simulator moment) (served : moment.Served) (idle : moment.recent = [])
    (deferred : simulator.settings.completion = .deferred) {requests : List Request}
    (orderly : simulator.AllOrderly requests) :
    Always Served moment (simulator.history requests) ∧
      (moment.along (simulator.history requests)).recent = [] := by
  induction requests generalizing simulator moment with
  | nil => exact ⟨always_nil.mpr served, idle⟩
  | cons request rest ih =>
    obtain ⟨first, others⟩ := orderly
    obtain ⟨one, quiet⟩ := always_served_events follows served idle deferred first
    have kept : (simulator.respond request).settings.completion = .deferred := by
      rw [Simulator.settings_respond, deferred]
    obtain ⟨next, still⟩ := ih (follows.respond request) one.finish quiet kept others
    rw [Simulator.history, always_append, along_append]
    exact ⟨⟨one, next⟩, still⟩

/-- The counter has come to the number of a fence when the submission is executed, or about to
be and all that it declares has been made. -/
theorem Served.number_le_iff {moment : Moment} (served : moment.Served) {position : Nat}
    {promise : Promise} (found : moment.promises[position]? = some promise) :
    promise.number ≤ (moment.tallies promise.submission.syncpoint).value ↔
      position < moment.executed ∨ position = moment.executed ∧
        promise.submission.increments.toNat ≤
          moment.recent.count promise.submission.syncpoint := by
  obtain ⟨positive, present⟩ := served.declares promise (List.mem_of_getElem? found)
  have counted := served.counted _ present
  have making := served.making _ present
  have next := declared_take_succ moment promise.submission.syncpoint
  have number : promise.number =
      declared promise.submission.syncpoint (moment.submissions.take position) +
        promise.submission.increments.toNat := by
    have listed : moment.submissions[position]? = some promise.submission := by
      rw [submissions, List.getElem?_map, found, Option.map_some]
    rw [served.numbers position promise found, List.take_add_one, declared_append, listed]
    simp [declared]
  rcases Nat.lt_trichotomy position moment.executed with before | same | behind
  · have whole := served.numbers position promise found
    have most := declared_take_le promise.submission.syncpoint moment.submissions
      (Nat.succ_le_of_lt before)
    simp only [Nat.succ_eq_add_one] at most
    constructor
    · exact fun _ => .inl before
    · intro _
      omega
  · subst same
    constructor
    · intro reached
      exact .inr ⟨rfl, by omega⟩
    · rintro (never | ⟨-, enough⟩)
      · exact absurd never (Nat.lt_irrefl _)
      · omega
  · have most := declared_take_le promise.submission.syncpoint moment.submissions
      (Nat.succ_le_of_lt behind)
    simp only [Nat.succ_eq_add_one] at most
    constructor
    · intro reached
      omega
    · rintro (before | ⟨same, -⟩)
      · omega
      · omega

/-- The fence of a submission is reached when it has been executed, and in the midst of its
execution from where all that it declares has been made. Between executions that is exactly
when it has been executed. All this is so while the counter is less than half the range past
the fence. -/
def Truthful (moment : Moment) : Prop :=
  ∀ position promise, moment.promises[position]? = some promise →
    ∃ syncpoint, moment.syncpoints[promise.submission.syncpoint.toNat]? = some syncpoint ∧
      ((moment.tallies promise.submission.syncpoint).value < promise.number + Word.half →
        (reached syncpoint.value promise.fence = true ↔
          position < moment.executed ∨ position = moment.executed ∧
            promise.submission.increments.toNat ≤
              moment.recent.count promise.submission.syncpoint) ∧
        (moment.recent = [] →
          (reached syncpoint.value promise.fence = true ↔ position < moment.executed)))

/-- The counters have reached the fences of the submissions executed, a number of those accepted
first, and no others. All this is so while a counter is less than half the range past the fence. -/
def Tells (moment : Moment) (syncpoints : Array Syncpoint) (executed : Nat) : Prop :=
  ∀ position promise, moment.promises[position]? = some promise →
    ∃ syncpoint, syncpoints[promise.submission.syncpoint.toNat]? = some syncpoint ∧
      ((moment.tallies promise.submission.syncpoint).value < promise.number + Word.half →
        (reached syncpoint.value promise.fence = true ↔ position < executed))

/-- So it is with the counters of the moment itself, when nothing is being executed. -/
theorem Truthful.tells {moment : Moment} (truthful : moment.Truthful) (idle : moment.recent = []) :
    moment.Tells moment.syncpoints moment.executed := by
  intro position promise found
  obtain ⟨syncpoint, held, exactly⟩ := truthful position promise found
  exact ⟨syncpoint, held, fun near => (exactly near).2 idle⟩

/-- Words compare as the numbers that were cut to them do, so what holds of the numbers holds of
the fences. -/
theorem Served.truthful {moment : Moment} (served : moment.Served) (sound : moment.Sound)
    (bounded : moment.Bounded) : moment.Truthful := by
  intro position promise found
  have accepted := List.mem_of_getElem? found
  obtain ⟨positive, present⟩ := served.declares promise accepted
  obtain ⟨fence, promised⟩ := sound.fences promise accepted
  have held := Array.getElem?_eq_getElem present
  refine ⟨_, held, fun near => ?_⟩
  have wrapped := sound.wrapped _ _ held
  have covered := sound.covered promise.submission.syncpoint
  have half := bounded promise.submission.syncpoint
  have words : reached moment.syncpoints[promise.submission.syncpoint.toNat].value promise.fence =
      true ↔ promise.number ≤ (moment.tallies promise.submission.syncpoint).value := by
    rw [wrapped, fence]
    exact Tally.reached_ofNat near (by omega)
  rw [words, served.number_le_iff found]
  refine ⟨Iff.rfl, fun idle => ?_⟩
  rw [idle, List.count_nil]
  constructor
  · rintro (before | ⟨-, none⟩)
    · exact before
    · omega
  · exact .inl

/-- Where work is queued, a fence is reached exactly when its submission has been executed: at
every point of every orderly run, whatever has become of the channels since. The counters are those
of the device before and after every request, and also between two executions of the submissions
that were pending. -/
theorem reached_exactly_when_executed (settings : SimulatorSettings) (requests : List Request)
    (deferred : settings.completion = .deferred)
    (orderly : (Simulator.initial settings).AllOrderly requests)
    (bounded : Always Bounded (initial settings)
      ((Simulator.initial settings).history requests)) :
    Always (fun moment => moment.Sound ∧ moment.Truthful) (initial settings)
        ((Simulator.initial settings).history requests) ∧
      ∀ past rest, requests = past ++ rest →
        let device := (Simulator.initial settings).after past
        let moment := (initial settings).along ((Simulator.initial settings).history past)
        Follows device moment ∧ moment.recent = [] ∧
          moment.Tells device.syncpoints moment.executed ∧
          ∀ later, rest = .runPending :: later →
            device.respond .runPending = device.midway device.pending.length ∧
              (∀ count submission, device.pending[count]? = some submission →
                device.midway (count + 1) = (device.midway count).execute submission) ∧
              ∀ count ≤ device.pending.length,
                let executions := (device.pending.take count).flatMap device.execution
                (Simulator.initial settings).history past ++ executions <+:
                    (Simulator.initial settings).history requests ∧
                  Amid device count moment (moment.along executions) ∧
                  (moment.along executions).recent = [] ∧
                  (moment.along executions).Tells (device.midway count).syncpoints
                    (moment.executed + count) := by
  have start := follows_initial settings
  have sound := always_sound_history start (sound_initial settings) requests bounded
  obtain ⟨served, -⟩ := always_served_history start (served_initial settings) rfl deferred orderly
  have truthful : Always Truthful (initial settings)
      ((Simulator.initial settings).history requests) :=
    fun past early => (served past early).truthful (sound past early) (bounded past early)
  refine ⟨fun past early => ⟨sound past early, truthful past early⟩, ?_⟩
  rintro past rest rfl device moment
  have follows : Follows device moment := start.history past
  obtain ⟨-, idle⟩ :=
    always_served_history start (served_initial settings) rfl deferred orderly.of_append
  have told : moment.Tells moment.syncpoints moment.executed := by
    refine (truthful _ ?_).tells idle
    rw [history_append]
    exact List.prefix_append _ _
  refine ⟨follows, idle, follows.syncpoints ▸ told, ?_⟩
  rintro later rfl
  refine ⟨rfl, fun count submission => Simulator.midway_succ, ?_⟩
  intro count within executions
  have early := history_midway (Simulator.initial settings) past later count
  have amid := follows.amid within
  have between : (moment.along executions).recent = [] :=
    (along_executions moment device _).2.2.2 idle
  have exactly := truthful _ early
  rw [along_append] at exactly
  have reaching := exactly.tells between
  rw [amid.syncpoints, amid.executed] at reaching
  exact ⟨early, amid, between, reaching⟩

/-- A channel is closed with work pending, and its only syncpoint is handed to a new channel that
gets work of its own. The stream of the first submission makes one of the three increments that
it declares, that of the second makes none. -/
def handedOn : List Request :=
  [.call (.openChannel 1), .call (.allocate 8 ⟨0⟩), .write (.buffer 1) 0 (Word.bytes 0x40000000),
    .call (.submit ⟨0, 0, 3, [⟨1, 0, 1⟩], []⟩), .call (.closeChannel 0), .call (.openChannel 1),
    .call (.submit ⟨1, 0, 2, [⟨1, 4, 1⟩], []⟩), .runPending]

/-- The fences on a syncpoint that was handed on are truthful. When the first of the two submissions
has been executed and the second has not, the counter of the device has reached the fence of the
first and not that of the second. -/
theorem handed_on_reached_when_executed :
    let device := (Simulator.initial ⟨.deferred, 1, 1⟩).after (handedOn.take 7)
    (Simulator.initial ⟨.deferred, 1, 1⟩).AllOrderly handedOn ∧
      Always Bounded (initial ⟨.deferred, 1, 1⟩)
        ((Simulator.initial ⟨.deferred, 1, 1⟩).history handedOn) ∧
      Always (fun moment => moment.Sound ∧ moment.Truthful) (initial ⟨.deferred, 1, 1⟩)
        ((Simulator.initial ⟨.deferred, 1, 1⟩).history handedOn) ∧
      (device.midway 1).syncpoints = #[⟨3, 5⟩] ∧
      ∃ moment : Moment, moment.Tells (device.midway 1).syncpoints 1 ∧
        moment.promises.map Promise.fence = [3, 5] := by
  intro device
  have keeping : ∀ submission ∈ device.pending,
      (device.performed submission).all (fun index => index == submission.syncpoint) = true ∧
      (device.performed submission).length ≤ submission.increments.toNat := by decide +kernel
  have orderly : (Simulator.initial ⟨.deferred, 1, 1⟩).AllOrderly handedOn := by
    refine ⟨trivial, trivial, trivial, fun _ => by decide, trivial, trivial, fun _ => by decide,
      fun submission waiting => ?_, trivial⟩
    obtain ⟨only, few⟩ := keeping submission waiting
    rw [List.all_eq_true] at only
    exact Simulator.keeps_of_only (fun index member => beq_iff_eq.mp (only index member)) few
  have few : declaredAlong ((Simulator.initial ⟨.deferred, 1, 1⟩).history handedOn) ≤
      Word.half := by decide +kernel
  have bounded := always_bounded few ⟨.deferred, 1, 1⟩
  obtain ⟨truthful, telling⟩ :=
    reached_exactly_when_executed ⟨.deferred, 1, 1⟩ handedOn rfl orderly bounded
  obtain ⟨-, -, -, running⟩ := telling (handedOn.take 7) [.runPending] rfl
  obtain ⟨-, -, between⟩ := running [] rfl
  obtain ⟨-, amid, -, tells⟩ := between 1 (by decide +kernel)
  have none : ((initial ⟨.deferred, 1, 1⟩).along
      ((Simulator.initial ⟨.deferred, 1, 1⟩).history (handedOn.take 7))).executed = 0 := by
    decide +kernel
  rw [none] at tells
  refine ⟨orderly, bounded, truthful, by decide +kernel, _, tells, ?_⟩
  rw [amid.promises]
  decide +kernel

end Moment

end HostChannel
