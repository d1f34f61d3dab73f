import ContainerWatch.Engine.Error
import ContainerWatch.Engine.Message
import ContainerWatch.Json.Reader
import ContainerWatch.Text.Split
/-!
# The stream of the engine

The engine writes its messages one after another, each in a line of its own.  A line that holds only the
beginning of a message waits for more text, with which it is joined; the end of the stream is the one
time when more text is asked for and none comes.  Where no continuation makes a message the stream fails,
and nothing after that is read.
-/

namespace ContainerWatch

/-- What the stream of the engine gives when it is read. -/
inductive Reading where
  | message (m : Engine.Message)
  | failure (e : Engine.Error)
  deriving DecidableEq

namespace Engine

/-- What stands at the front of a stream. -/
inductive Front where
  /-- a message, and the text after it -/
  | message (m : Message) (rest : List Char)
  /-- text that waits for more -/
  | waiting (text : List Char)
  /-- a line that no message starts with -/
  | unreadable (line : List Char)

/-- What stands at the front of a text, a null being no message yet.  Values may be nested as deep as
a line can write them. -/
def front (s : List Char) : Front :=
  let (line, rest) := (Text.cutAt '\n' s).getD (s, [])
  match Json.read line.length (String.ofList line) with
  | .error .incomplete | .ok .null => .waiting (line ++ rest)
  | .error .malformed => .unreadable line
  | .ok v =>
    match Message.ofJson? v with
    | some m => .message m rest
    | none => .unreadable line

/-- Why no further message is read for now. -/
inductive Halt where
  | waiting (text : List Char)
  | unreadable (line : List Char)

/-- The messages at the front of a text, and why they end. -/
def messages : Nat → List Char → List Message × Halt
  | 0, s => ([], .waiting s)
  | fuel + 1, s =>
    match front s with
    | .message m rest => let (ms, halt) := messages fuel rest; (m :: ms, halt)
    | .waiting text => ([], .waiting text)
    | .unreadable line => ([], .unreadable line)

namespace Client

/-- The failure of a line that is no message. -/
def unreadableLine (c : Client) (line : List Char) : Reading := .failure (c.notMessage (String.ofList line))

/-- What the end of the stream gives, with the text that waits for more. -/
def readingsAtEnd (c : Client) (text : List Char) : List Reading :=
  match messages (text.length + 1) text with
  | (ms, .waiting []) => ms.map .message
  | (ms, .waiting _) => ms.map .message ++ [.failure (.io "bytes remaining on stream")]
  | (ms, .unreadable line) => ms.map .message ++ [c.unreadableLine line]

/-- What the whole text of a stream gives. -/
def readings (c : Client) (text : String) : List Reading :=
  match messages (text.toList.length + 1) text.toList with
  | (ms, .waiting rest) => ms.map .message ++ c.readingsAtEnd rest
  | (ms, .unreadable line) => ms.map .message ++ [c.unreadableLine line]

end Client

end Engine

end ContainerWatch
