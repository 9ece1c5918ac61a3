import HostChannel.Proofs.Session.Reach
import HostChannel.Proofs.Slots
import HostChannel.Proofs.Simulator.Channels
import HostChannel.Proofs.Triple

/-!
# Channels of clients

A client of a session has a channel of the simulated device, and no other client has the same one.
So the channel is open as long as the client is there, if nobody else closes channels: giving a
client up closes its own channel only, and a new client gets a channel that has never been open
before (`served_perform`).
-/

namespace HostChannel

open HostChannel.Action (Leads Moves Preserves Upholds)

/-- The operation closes no channel of the simulated device past the clients. -/
def Operation.keepsChannels : Operation → Bool
  | .simulator (.closeChannel _) => false
  | _ => true

namespace Simulator

/-- The clients have open channels, each its own. -/
structure Serves (clients : Slots Client) (simulator : Simulator) : Prop where
  /-- The channel of a client is open. -/
  opened : ∀ (name : String) (client : Client), clients[name]? = some client →
    client.channel.id ∈ simulator.channels
  /-- No two clients have the same channel. -/
  apart : ∀ (first second : String) (one other : Client), clients[first]? = some one →
    clients[second]? = some other → one.channel.id = other.channel.id → first = second

variable {clients : Slots Client} {simulator : Simulator}

/-- Channels that are all still open go on to serve. -/
theorem Serves.mono (serves : simulator.Serves clients) {after : Simulator}
    (kept : ∀ channel ∈ simulator.channels, channel ∈ after.channels) : after.Serves clients :=
  ⟨fun name client found => kept _ (serves.opened name client found), serves.apart⟩

/-- A client may be forgotten. -/
theorem Serves.erase (serves : simulator.Serves clients) (name : String) :
    simulator.Serves (clients.erase name) :=
  ⟨fun other client found => serves.opened other client (Slots.of_getElem?_erase found).2,
    fun first second one other inFirst inSecond =>
      serves.apart first second one other (Slots.of_getElem?_erase inFirst).2
        (Slots.of_getElem?_erase inSecond).2⟩

/-- A client may be named if its channel is open and no client of another name has it. -/
theorem Serves.insert (serves : simulator.Serves clients) {name : String} {client : Client}
    (isOpen : client.channel.id ∈ simulator.channels)
    (own : ∀ (other : String) (held : Client), clients[other]? = some held →
      held.channel.id ≠ client.channel.id) :
    simulator.Serves (clients.insert name client) := by
  refine ⟨fun other held found => ?_, fun first second one other inFirst inSecond same => ?_⟩
  · rcases Slots.of_getElem?_insert found with ⟨-, rfl⟩ | before
    · exact isOpen
    · exact serves.opened other held before
  · rcases Slots.of_getElem?_insert inFirst with ⟨rfl, rfl⟩ | foundOne
    · rcases Slots.of_getElem?_insert inSecond with ⟨rfl, -⟩ | foundOther
      · rfl
      · exact absurd same.symm (own second other foundOther)
    · rcases Slots.of_getElem?_insert inSecond with ⟨rfl, rfl⟩ | foundOther
      · exact absurd same (own first one foundOne)
      · exact serves.apart first second one other foundOne foundOther same

/-- Opening a channel closes none. -/
theorem openChannel_serves (engineClass : Word) :
    Moves (Preserves (Serves clients)) (openChannel engineClass) := by
  intro simulator serves
  rcases openChannel_cases engineClass simulator with ⟨-, _, run⟩ | ⟨-, -, run⟩ | ⟨-, -, run⟩
  · rw [run]
    exact serves
  · rw [run]
    exact serves.mono fun _ isOpen => isOpen
  · rw [run]
    exact serves.mono fun _ isOpen => Std.ExtTreeMap.mem_insert.mpr (.inr isOpen)

/-- Closing a channel closes that of no client that has another. -/
theorem closeChannel_serves {name : ChannelId}
    (unused : ∀ (other : String) (client : Client), clients[other]? = some client →
      client.channel.id ≠ name) :
    Moves (Preserves (Serves clients)) (closeChannel name) := by
  intro simulator serves
  rcases closeChannel_cases name simulator with ⟨-, run⟩ | ⟨closed, -, run⟩
  · rw [run]
    exact serves
  · rw [run]
    refine ⟨fun other client found => ?_, serves.apart⟩
    exact Std.ExtTreeMap.mem_erase.mpr
      ⟨fun same => unused other client found (Std.LawfulEqCmp.eq_of_compare same).symm,
        serves.opened other client found⟩

/-- A channel that is opened has a name that no channel has had, and is open then. -/
theorem openChannel_fresh {settings : SimulatorSettings} {simulator after : Simulator}
    (reached : (initial settings).Reaches simulator) {engineClass : Word} {channel : Channel}
    (made : openChannel engineClass simulator = (.ok channel, after)) :
    channel.id ∉ simulator.channels ∧ channel.id ∈ after.channels := by
  obtain ⟨_, _, pooled⟩ := reached.pooled
  rcases openChannel_cases engineClass simulator with ⟨-, _, run⟩ | ⟨-, -, run⟩ | ⟨-, -, run⟩
  · simp [run] at made
  · simp [run] at made
  · obtain ⟨given, rfl⟩ := Prod.mk.inj (run.symm.trans made)
    obtain rfl := Except.ok.inj given
    refine ⟨fun isOpen => ?_, Std.ExtTreeMap.mem_insert_self⟩
    obtain ⟨held, found⟩ := Option.isSome_iff_exists.mp
      (Std.ExtTreeMap.mem_iff_isSome_getElem?.mp isOpen)
    exact UInt64.lt_irrefl _ (pooled.named _ held found).2.1

end Simulator

namespace Session

/-- The clients of the session have open channels, each its own. -/
def Served (session : Session) : Prop :=
  session.simulator.Serves session.clients

/-- A new client has a channel that is open and that no client has. -/
structure Welcomes (session : Session) (client : Client) : Prop where
  /-- The clients are served. -/
  served : session.Served
  /-- The channel is open. -/
  isOpen : client.channel.id ∈ session.simulator.channels
  /-- No client has it. -/
  own : ∀ (name : String) (other : Client), session.clients[name]? = some other →
    other.channel.id ≠ client.channel.id

/-- Opening a channel for a client leaves the others served, and welcomes it. -/
theorem connect_leads {settings : SimulatorSettings} (engineClass : Word) :
    Leads (fun session => session.Served ∧ (Simulator.initial settings).Reaches session.simulator)
      (onHost (Client.connect engineClass)) (fun client session => session.Welcomes client)
      Served := by
  rintro session ⟨served, reached⟩
  have still := Instrumented.observe_moves (.openChannel engineClass)
    (Instrumented.passOn_moves (Simulator.openChannel_serves engineClass)) session.device served
  have run : onHost (Client.connect engineClass) session =
      ((Device.openChannel engineClass session.device).1.map fun channel =>
          ⟨channel, session.host.configuration.defaultTimeout⟩,
        { session with host := { session.host with
          device := (Device.openChannel engineClass session.device).2 } }) := by
    rw [onHost, Action.within_apply, Client.connect_apply]
    rfl
  refine ⟨fun client after made => ?_, fun failure after made => ?_⟩
  · obtain ⟨given, rfl⟩ := Prod.mk.inj (run.symm.trans made)
    cases answered : (Device.openChannel engineClass session.device).1 with
    | error failure => simp [answered, Except.map] at given
    | ok channel =>
      rw [answered] at given
      obtain rfl := Except.ok.inj given
      obtain ⟨fresh, isOpen⟩ := Simulator.openChannel_fresh reached
        (Instrumented.observe_eq_ok (Prod.ext answered rfl))
      exact ⟨still, isOpen, fun name other found same =>
        fresh (same ▸ served.opened name other found)⟩
  · obtain ⟨-, rfl⟩ := Prod.mk.inj (run.symm.trans made)
    exact still

/-- Giving a client up closes its channel, which no other client has. -/
theorem releaseClient_served {session : Session} (served : session.Served) {client : Client}
    (unused : ∀ (name : String) (other : Client), session.clients[name]? = some other →
      other.channel.id ≠ client.channel.id) : (releaseClient client session).2.Served :=
  Instrumented.observe_moves (.closeChannel client.channel.id)
    (Instrumented.passOn_moves (Simulator.closeChannel_serves unused)) session.device served

/-- A client that is welcome may be named; the client that had the name before is given up. -/
theorem keepClient_served {session : Session} {client : Client} (welcome : session.Welcomes client)
    (name : String) : (keepClient name client session).2.Served := by
  have named : ({ session with clients := session.clients.insert name client }).Served :=
    welcome.served.insert welcome.isOpen welcome.own
  have run : keepClient name client session =
      giveUp releaseClient session.clients[name]?
        { session with clients := session.clients.insert name client } := rfl
  rw [run]
  cases before : session.clients[name]? with
  | none => exact named
  | some old =>
    refine releaseClient_served named fun other held found same => ?_
    rw [Std.ExtTreeMap.getElem?_insert] at found
    split at found
    · obtain rfl := Option.some.inj found
      exact welcome.own name old before same.symm
    · rename_i different
      have equal := welcome.served.apart other name held old found before same
      exact different (equal ▸ Std.ReflCmp.compare_self)

/-- Opening a channel for a client leaves all clients served. -/
theorem openClient_served {settings : SimulatorSettings} {session : Session}
    (served : session.Served) (reached : (Simulator.initial settings).Reaches session.simulator)
    (name : String) (engineClass : Word) :
    (jobOperation (.openClient name engineClass) session).2.Served := by
  obtain ⟨given, lost⟩ := connect_leads engineClass session ⟨served, reached⟩
  refine Action.bind_leaves Served lost fun client between made => ?_
  rw [Action.bind_pure_leaves]
  exact keepClient_served (given client between made) name

/-- Giving a client up leaves the others served. -/
theorem giveUpClient_served {session : Session} (served : session.Served) (name : String) :
    (jobOperation (.releaseClient name) session).2.Served := by
  cases found : session.clients[name]? with
  | none =>
    have run : jobOperation (.releaseClient name) session = (.error .absent, session) :=
      Action.bind_apply_of_error (find_of_none found) _
    rwa [run]
  | some client =>
    have run : jobOperation (.releaseClient name) session =
        (releaseClient client >>= fun _ => pure .nothing)
          { session with clients := session.clients.erase name } :=
      Action.bind_apply_of_ok (find_of_some found) _
    have erased : ({ session with clients := session.clients.erase name }).Served :=
      served.erase name
    rw [run, Action.bind_pure_leaves]
    refine releaseClient_served erased fun other held listed same => ?_
    obtain ⟨different, before⟩ := Slots.of_getElem?_erase listed
    exact different (served.apart other name held client before found same)

/-- An operation that closes no channel past the clients leaves them served. -/
theorem served_perform {settings : SimulatorSettings} {operation : Operation}
    (keeps : operation.keepsChannels = true) {session : Session} (served : session.Served)
    (reached : (Simulator.initial settings).Reaches session.simulator) :
    (perform operation session).2.Served := by
  by_cases beside : operation.besideClients = true
  · have step : ∀ (simulator : Simulator) (request : Request), request.besideChannels = true →
        Preserves (Simulator.Serves session.clients) simulator (simulator.respond request) :=
      fun simulator request beside serves => serves.mono fun channel isOpen =>
        (Simulator.respond_samePool simulator request beside).channels ▸ isOpen
    have moves := Simulator.besideChannelsBy_of_respond step
    have moved := perform_sameClients (Instrumented.besideChannelsBy moves) operation beside
      (fun name size flags pretending _ => allocateBuffer_moves moves size flags pretending)
      (fun inner same => Instrumented.passOn_moves (Simulator.operation_moves
        (fun simulator request _ => step simulator request) inner
        (fun size flags _ => moves.allocate size flags) (fun handle _ => moves.release handle)
        (fun engineClass _ => Simulator.openChannel_serves engineClass)
        fun channel equal => by simp [same, equal, Operation.keepsChannels] at keeps))
      (fun inner _ => instrumentOperation_moves inner) session
    rw [Served, moved.clients]
    exact moved.device served
  · cases operation with
    | job operation =>
      cases operation with
      | openClient name engineClass => exact openClient_served served reached name engineClass
      | releaseClient name => exact giveUpClient_served served name
      | _ => exact absurd rfl beside
    | _ => exact absurd rfl beside

/-- A session on a fresh device has no clients to serve. -/
theorem served_initial (configuration : Configuration) : (initial configuration).Served := by
  refine ⟨fun name client found => ?_, fun first second one other found => ?_⟩
  · simp [initial] at found
  · simp [initial] at found

end Session

end HostChannel
