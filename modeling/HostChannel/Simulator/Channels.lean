import HostChannel.Action
import HostChannel.Simulator.State

/-!
# Channels of the simulated device

A channel gets the number of syncpoints that the settings ask for: first those that closed
channels have given back, the lowest first, then those that no channel has had.
-/

namespace HostChannel.Simulator

/-- Puts a syncpoint in its place among those given back. -/
def insertReturned (syncpoint : Word) : List Word → List Word
  | [] => [syncpoint]
  | head :: rest =>
    if syncpoint < head then syncpoint :: head :: rest
    else if syncpoint = head then head :: rest
    else head :: insertReturned syncpoint rest

/-- The syncpoints of the next channel: those given back, then those never used. -/
def nextSyncpoints (simulator : Simulator) : List Word :=
  let wanted := simulator.settings.syncpointsPerChannel.toNat
  simulator.returned.take wanted ++
    (List.range' simulator.nextSyncpoint (wanted - simulator.returned.length)).map UInt32.ofNat

/-- Opens a channel to the engine of a class. Its syncpoints are taken before its name is. -/
def openChannel (engineClass : Word) : Action Simulator Channel := fun simulator =>
  let wanted := simulator.settings.syncpointsPerChannel.toNat
  let unused := simulator.syncpoints.size - simulator.nextSyncpoint
  if simulator.returned.length + unused < wanted then
    (.error (.refused (.device "open_channel" outOfSpaceCode "out of syncpoints")), simulator)
  else
    let channel : Channel := ⟨simulator.nextChannel, engineClass, simulator.nextSyncpoints⟩
    let taken : Simulator :=
      { simulator with
        nextSyncpoint := simulator.nextSyncpoint + (wanted - simulator.returned.length)
        returned := simulator.returned.drop wanted }
    if simulator.nextChannel = lastChannel then (.error .aborted, taken)
    else
      (.ok channel,
        { taken with
          nextChannel := simulator.nextChannel + 1
          channels := simulator.channels.insert channel.id channel })

/-- A channel that is not open cannot be used. -/
def notOpen (operation : String) (channel : ChannelId) : Error :=
  .device operation invalidCode ("channel ChannelId(" ++ toString channel.toNat ++ ") is not open")

/-- Closes a channel and takes its syncpoints back. -/
def closeChannel (channel : ChannelId) : Action Simulator Unit := fun simulator =>
  match simulator.channels[channel]? with
  | none => (.error (.refused (notOpen "close_channel" channel)), simulator)
  | some closed =>
    (.ok (),
      { simulator with
        channels := simulator.channels.erase channel
        returned := closed.syncpoints.foldl (fun rest syncpoint => insertReturned syncpoint rest)
          simulator.returned })

end HostChannel.Simulator
