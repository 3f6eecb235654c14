import CertConsole.Port

/-!
# Ports that are played back

A playback is a port whose input is a record of what was heard on a line. It writes down what would
have been done to the line, and it runs dry where the record does not tell what a read finds. So an
upload over a line that cannot be a value is still one: it is played from the start with what was
heard, the deeds that are new are done, more is heard, and so on until no read runs dry.
-/
namespace CertConsole

/-- Something done to a line. -/
inductive Deed where
  /-- Bytes are sent. -/
  | send (bytes : List UInt8)
  /-- Input that has arrived is discarded. -/
  | discard
  /-- Time passes. -/
  | wait (span : Milliseconds)
  deriving DecidableEq, Repr

/-- A port with recorded input. -/
structure Playback where
  /-- The name that the port is known by. -/
  name : String
  /-- What the next reads find. -/
  heard : List ReadResult := []
  /-- What was done, in order. -/
  deeds : List Deed := []
  /-- A read found nothing in the record. What comes after it is not known. -/
  isDry : Bool := false
  /-- The port was closed. -/
  isClosed : Bool := false
  deriving DecidableEq, Repr

namespace Playback

/-- The error of a read that the record does not cover. -/
def dryError : ChannelError := ⟨.fatal, "nothing more was recorded"⟩

/-- Write down a deed, as long as the record covers what goes before. -/
def act (deed : Deed) (playback : Playback) : Playback :=
  if playback.isDry || playback.isClosed then playback
  else { playback with deeds := playback.deeds ++ [deed] }

/-- Read what the record has next. -/
def read (playback : Playback) : ReadResult × Playback :=
  if playback.isClosed then (.failed .portClosed, playback)
  else match playback.heard with
  | [] => (.failed dryError, { playback with isDry := true })
  | found :: rest => (found, { playback with heard := rest })

/-- Closing a port that ran dry tells nothing, because the upload is not over. -/
def closeEvents (playback : Playback) : List Event :=
  if playback.isDry || playback.isClosed then [] else [.portClosed playback.name]

/-- Discarding input is told like closing. -/
def clearEvents (playback : Playback) : List Event :=
  if playback.isDry || playback.isClosed then [] else [.discardingInput playback.name]

end Playback

instance : Port Playback where
  name := Playback.name
  patience playback := playback.heard.length
  read := Playback.read
  write bytes playback :=
    if playback.isClosed then (.failed .portClosed, playback)
    else (.accepted bytes.length, playback.act (.send bytes))
  flush playback := (if playback.isClosed then .error .portClosed else .ok (), playback)
  clear playback := (.ok (), playback.act .discard)
  clearEvents := Playback.clearEvents
  close playback := (.ok (), { playback with isClosed := true })
  closeEvents := Playback.closeEvents
  pause span playback := playback.act (.wait span)
  stalls _ := 0
  stalls_of_interrupted bytes playback error playback' written interrupted := by
    split at written
    · simp only [Prod.mk.injEq, WriteResult.failed.injEq] at written
      obtain ⟨rfl, rfl⟩ := written
      simp [ChannelError.portClosed] at interrupted
    · simp at written
  stalls_of_accepted _ _ _ _ _ := Nat.le_refl 0

end CertConsole
