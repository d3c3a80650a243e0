/-
Channels that put prompts to a user.

A channel works in a monad of its own: a terminal in `IO`, a prepared list of
replies in a state (`Script`).  Either way it replies to a prompt with one answer
for each field, with nothing if the user cancels, or with an error.
-/
import CommandTemplates.Settings.Basic

namespace CommandTemplates

/-- Why a channel cannot reply. -/
inductive PromptError where
  | io (reason : String)
  | closed
  deriving DecidableEq, Repr

/-- The wording of a channel's failure. -/
def PromptError.message : PromptError → String
  | .io reason => "prompt input failed: " ++ reason
  | .closed => "prompt channel closed"

/-- The reply to a prompt: answers in the order of the fields, or `none` if it is cancelled. -/
abbrev PromptReply := Except PromptError (Option (List String))

/-- A way to put prompts to a user. -/
structure PromptChannel (m : Type → Type) where
  ask : PromptConfig → m PromptReply

/-- Replies prepared in advance, and the prompts that got one without an error. -/
structure Script where
  replies : List PromptReply := []
  asked : List PromptId := []

namespace Script

/-- The reply to a prompt: the next one, or a cancellation if there is none left. -/
def reply (s : Script) (prompt : PromptConfig) : PromptReply × Script :=
  match s.replies with
  | [] => (.ok none, { s with asked := s.asked ++ [prompt.id] })
  | .ok answers :: rest => (.ok answers, ⟨rest, s.asked ++ [prompt.id]⟩)
  | .error e :: rest => (.error e, ⟨rest, s.asked⟩)

/-- The channel of prepared replies. -/
def channel : PromptChannel (StateM Script) where
  ask prompt := fun s => s.reply prompt

end Script

end CommandTemplates
