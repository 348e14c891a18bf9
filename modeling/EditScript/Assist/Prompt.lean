import EditScript.Assist.Message
import EditScript.Text.Blank

/-!
# Prompt

The request that is made from an instruction.

* `instructions`: what the assistant is told about the commands, unless the settings say
  something else.
* `Request.build`: first the instructions, then the editor state and what the user wants.
-/

namespace EditScript.Assist

/-- What the assistant is told about the commands. -/
def instructions : Text := Text.unlines <| List.map String.toList [
  "You edit a text buffer by emitting commands, one per line, and nothing else.",
  "",
  "Commands:",
  "  MOVE <offset>          put the cursor at an absolute character offset",
  "  SELECT <start> <end>   select characters start..end (the cursor does not move)",
  "  INSERT <text>          insert at the cursor, or replace the selection",
  "  DELETE                 delete the selection, or the character before the cursor",
  "",
  "Offsets count characters from 0 at the start of the buffer; each line break",
  "is one character. Use the numbered listing to compute offsets on other lines.",
  "Wrap INSERT text in double quotes to keep leading or trailing spaces. There",
  "are no escape sequences. After INSERT the cursor sits after the inserted text;",
  "after DELETE it sits where the removed text started."]

/-- What the user says: the editor state and the instruction, without blanks around it. -/
def userMessage (context instruction : Text) : Text :=
  "Editor state:\n".toList ++ context ++ "\nInstruction: ".toList ++ Text.trim instruction

/-- The request for an instruction. -/
def Request.build (systemPrompt context instruction : Text) : Request :=
  ⟨[⟨.system, systemPrompt⟩, ⟨.user, userMessage context instruction⟩]⟩

end EditScript.Assist
