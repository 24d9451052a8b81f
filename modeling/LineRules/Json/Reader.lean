/-
Reading a JSON text. The reader takes one token after another and keeps the arrays and objects that
are still open on a stack. The tree it builds is complete up to the first token that does not fit.
-/
import LineRules.Json.Token

namespace LineRules.Json

/-- An array or object that is still open, with what has been read of it, latest first. -/
inductive Frame
  | array (items : List Json)
  | object (members : List (Key × Json))
  /-- An object whose latest member still lacks its value. -/
  | member (members : List (Key × Json)) (key : Key)

/-- What may come next. -/
inductive Expected
  /-- A value. -/
  | value
  /-- A value, or the end of an array that is empty so far. -/
  | valueOrEnd
  /-- The name of a member. -/
  | key
  /-- The name of a member, or the end of an object that is empty so far. -/
  | keyOrEnd
  /-- The colon after a member's name. -/
  | colon
  /-- A comma, or the end of the innermost array or object. -/
  | commaOrEnd

/-- A text that has been read: its tree, and whether something else follows it. -/
structure Document where
  root : Json
  trailing : Bool := false
  deriving Inhabited

/-- The reader's state: inside the text, after a complete value, or after a break. -/
inductive Reader
  | running (stack : List Frame) (expected : Expected)
  | complete (root : Json)
  | stopped (document : Document)

/-- Adds a value to the innermost frame. -/
def Frame.add (v : Json) : Frame → Frame
  | array items => array (v :: items)
  | object members => object members
  | member members key => object ((key, v) :: members)

/-- Closes a frame. -/
def Frame.close (stop : Option Break) : Frame → Json
  | array items => .array items.reverse stop
  | object members => .object members.reverse stop
  | member members key =>
    .object ((key, .broken (stop.getD (.both .malformed))) :: members).reverse stop

/-- The tree of a text that breaks with the innermost value `v`. -/
def unwind (b : Break) (v : Json) : List Frame → Json
  | [] => v
  | frame :: stack => unwind b ((frame.add v).close (some b)) stack

/-- The state after a complete value. -/
def accept (v : Json) : List Frame → Reader
  | [] => .complete v
  | frame :: stack => .running (frame.add v :: stack) .commaOrEnd

/-- The text breaks where a value is expected. -/
def breakValue (b : Break) (stack : List Frame) : Reader :=
  .stopped { root := unwind b (.broken b) stack }

/-- The text breaks between two values. -/
def breakFrame (b : Break) : List Frame → Reader
  | [] => .stopped { root := .broken b }
  | frame :: stack => .stopped { root := unwind b (frame.close (some b)) stack }

/-- Closes the innermost frame. -/
def closeFrame : List Frame → Reader
  | [] => breakValue (.both .malformed) []
  | frame :: stack => accept (frame.close none) stack

/-- The state after a token where a value is expected. -/
def takeValue (stack : List Frame) : Token → Reader
  | .openArray => .running (.array [] :: stack) .valueOrEnd
  | .openObject => .running (.object [] :: stack) .keyOrEnd
  | .text (.name s) => accept (.string s) stack
  | .text .unfit => accept .unfit stack
  | .brokenText b => breakValue b stack
  | .scalar (.broken b) => breakValue b stack
  | .scalar v => accept v stack
  | _ => breakValue (.both .malformed) stack

/-- The state after a token where a member's name is expected. -/
def takeKey : List Frame → Token → Reader
  | .object members :: stack, .text key => .running (.member members key :: stack) .colon
  | stack, .brokenText b => breakFrame b stack
  | stack, _ => breakFrame (.both .malformed) stack

/-- The state after a token where a comma or an end is expected. -/
def takeComma : List Frame → Token → Reader
  | .array items :: stack, .comma => .running (.array items :: stack) .value
  | .object members :: stack, .comma => .running (.object members :: stack) .key
  | .array items :: stack, .closeArray => closeFrame (.array items :: stack)
  | .object members :: stack, .closeObject => closeFrame (.object members :: stack)
  | stack, _ => breakFrame (.both .malformed) stack

namespace Reader

/-- The state after a token. -/
def feed : Reader → Token → Reader
  | stopped d, _ => stopped d
  | complete root, _ => stopped { root := root, trailing := true }
  | running stack .value, token => takeValue stack token
  | running stack .valueOrEnd, .closeArray => closeFrame stack
  | running stack .valueOrEnd, token => takeValue stack token
  | running stack .key, token => takeKey stack token
  | running stack .keyOrEnd, .closeObject => closeFrame stack
  | running stack .keyOrEnd, token => takeKey stack token
  | running stack .colon, .colon => running stack .value
  | running stack .colon, _ => breakValue (.both .malformed) stack
  | running stack .commaOrEnd, token => takeComma stack token

/-- The end of the text. -/
def stop : Reader → Reader
  | running stack .value | running stack .colon => breakValue (.both .truncated) stack
  | running stack _ => breakFrame (.both .truncated) stack
  | r => r

/-- The document, once the text has ended. -/
def document (r : Reader) : Document :=
  match r.stop with
  | stopped d => d
  | complete root => { root := root }
  | running _ _ => { root := .broken (.both .truncated) }

end Reader

/-- Reads a text. -/
def read (text : String) : Document :=
  ((tokens text.toList).foldl Reader.feed (.running [] .value)).document

end LineRules.Json
