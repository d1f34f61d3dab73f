import ContainerWatch.Engine.Stream
/-!
# Replies to the request for messages

The engine is asked over HTTP for its messages, and a reply with a success as its status holds them.
Any other reply is a refusal, which the engine explains in its body: by an object with a text named
`message`, or else by the body as it stands.
-/

namespace ContainerWatch.Engine

/-- The first line of the request for the messages about containers. -/
def requestLine : String :=
  "GET /events?filters=%7B%22type%22%3A%5B%22container%22%5D%7D HTTP/1.1"

/-- A reply of the engine. -/
structure Reply where
  status : UInt16
  body : String
  deriving DecidableEq, Repr

namespace Reply

/-! ## Explanations -/

/-- The name under which a refusal is explained. -/
def explanationName : String := "message"

/-- The text at the front and what follows it; nothing where a value of another kind stands. -/
def textAt (s : List Char) : Except Json.Fault (Option (String × List Char)) :=
  match Json.skipSpace s with
  | '"' :: rest => (Json.stringBody rest).map some
  | '[' :: _ | '\x7b' :: _ => .ok none
  | s => (Json.value 1 0 s).map fun _ => none

/-- The explanation among the members of an object from here on, and what follows the object; nothing
where there is none, or one that is no text, or a second one. -/
def explanationIn :
    Nat → Option String → List Char → Except Json.Fault (Option (String × List Char))
  | 0, _, _ => .error .incomplete
  | fuel + 1, found, s =>
    match Json.skipSpace s with
    | '"' :: rest => do
      let (name, rest) ← Json.stringBody rest
      let rest ← Json.afterWord [':'] (Json.skipSpace rest)
      if name = explanationName then
        if found.isSome then .ok none
        else
          match ← textAt rest with
          | none => .ok none
          | some (text, rest) => afterMember fuel (some text) (Json.skipSpace rest)
      else do
        let (_, rest) ← Json.value (2 * rest.length + 2) rest.length rest
        afterMember fuel found (Json.skipSpace rest)
    | _ => .error .malformed
where
  /-- The explanation after a member. -/
  afterMember (fuel : Nat) (found : Option String) :
      List Char → Except Json.Fault (Option (String × List Char))
    | '\x7d' :: rest => .ok (found.map fun text => (text, rest))
    | ',' :: rest => explanationIn fuel found rest
    | _ => .error .malformed

/-- The explanation in a body that is not empty, and what follows it; nothing where the body is not of
the shape of an explanation. -/
def explanationAt (s : List Char) : Except Json.Fault (Option (String × List Char)) :=
  match Json.skipSpace s with
  | '\x7b' :: rest =>
    if (Json.skipSpace rest).head? = some '\x7d' then .ok none
    else explanationIn (rest.length + 1) none rest
  | '[' :: rest =>
    if (Json.skipSpace rest).head? = some ']' then .ok none
    else do
      match ← textAt rest with
      | none => .ok none
      | some (text, rest) => (Json.afterWord [']'] (Json.skipSpace rest)).map fun rest => (text, rest)
  | s => textAt s |>.map fun _ => none

/-- The explanation in a body, none where it cannot be read. -/
def explanation? (body : String) : Option String :=
  if body.isEmpty then some ""
  else
    match explanationAt body.toList with
    | .ok (some (text, rest)) => if (Json.skipSpace rest).isEmpty then some text else none
    | .ok none => some body
    | .error _ => none

/-! ## Readings -/

/-- Whether a status is a success. -/
def isSuccess (status : UInt16) : Bool :=
  200 ≤ status && status < 300 || status == 101 || status == 304

/-- Whether a reply with a status has no body. -/
def isBodiless (status : UInt16) : Bool := status == 101 || status == 204 || status == 304

/-- Whether a status ends an exchange. -/
def isFinal (status : UInt16) : Bool := status == 101 || 200 ≤ status && status < 1000

/-- What the stream gives after a reply. -/
def readings (r : Reply) (c : Client) : List Reading :=
  if !isFinal r.status then [.failure c.unanswered]
  else if isBodiless r.status then []
  else if isSuccess r.status then c.readings r.body
  else
    match explanation? r.body with
    | some text => [.failure (.server r.status text)]
    | none => [.failure c.unanswered]

end Reply

end ContainerWatch.Engine
