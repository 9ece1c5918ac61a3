import HostChannel.Job
import HostChannel.Stream.Listing

/-!
# Listings of jobs

The listing of a job has a section for each pushbuffer, in order: a line that names the
pushbuffer, and the listing of the words that its range holds in memory. Each section
starts again from class zero.
-/

namespace HostChannel.Job

variable {σ : Type}

/-- The line that names a pushbuffer. -/
def sectionText (index : Nat) (pushbuffer : PushBuffer) : String :=
  "; pushbuffer " ++ toString index ++ ": bo " ++ Error.handleText pushbuffer.buffer.handle ++ " +" ++
    Text.Hexadecimal.prefixed 1 (pushbuffer.buffer.offset + pushbuffer.start).toNat ++ ", " ++
    toString pushbuffer.length ++ " words, " ++ toString pushbuffer.relocations.length ++
    " relocations\n"

/-- Appends the sections of pushbuffers, numbered from an index on, to a text. -/
def appendSections [Device σ] (text : String) (index : Nat) :
    List PushBuffer → Action σ String
  | [] => pure text
  | pushbuffer :: rest => do
    let words ← pushbuffer.words
    appendSections (Listing.append (text ++ sectionText index pushbuffer) (Listing.lines words))
      (index + 1) rest

/-- The listing of a job. -/
def listing [Device σ] (job : Job) : Action σ String :=
  appendSections "" 0 job.pushbuffers

end HostChannel.Job
