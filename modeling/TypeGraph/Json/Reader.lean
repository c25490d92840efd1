import TypeGraph.Json.Token

/-!
# TypeGraph.Json.Reader

From tokens to a value.  A `State` is what has been read so far and what may
come next; each token takes one state to the next.  The arrays and objects
that are still open are a stack of frames, so a value may nest to any depth.
-/

namespace TypeGraph.Json

/-- An array or object that has been opened, up to a value still to come. -/
inductive Frame where
  /-- The items so far, last first. -/
  | array (items : List Json)
  /-- The fields so far, last first, and the key of the value to come. -/
  | object (fields : List (Option String × Json)) (key : Option String)

/-- What may come next, inside the frames that are open (innermost first). -/
inductive State where
  /-- A value. -/
  | value (stack : List Frame)
  /-- The first item of an array, or its end. -/
  | firstItem (stack : List Frame)
  /-- The first key of an object, or its end. -/
  | firstKey (stack : List Frame)
  /-- A key after the given fields. -/
  | key (fields : List (Option String × Json)) (stack : List Frame)
  /-- The colon after a key. -/
  | colon (fields : List (Option String × Json)) (key : Option String) (stack : List Frame)
  /-- What follows a complete value. -/
  | ended (value : Json) (stack : List Frame)

namespace State

/-- The state after the first token of a value. -/
def begin (stack : List Frame) : Token → Option State
  | .literal v => some (.ended v stack)
  | .text v => some (.ended (.text v) stack)
  | .openArray => some (.firstItem stack)
  | .openObject => some (.firstKey stack)
  | _ => none

/-- The state after the token that follows the value `v` in a frame. -/
def leave (v : Json) (frame : Frame) (stack : List Frame) (token : Token) : Option State :=
  match frame, token with
  | .array items, .comma => some (.value (.array (v :: items) :: stack))
  | .array items, .closeArray => some (.ended (.array (v :: items).reverse) stack)
  | .object fields k, .comma => some (.key ((k, v) :: fields) stack)
  | .object fields k, .closeObject => some (.ended (.object ((k, v) :: fields).reverse) stack)
  | _, _ => none

/-- The state after one more token. -/
def step (state : State) (token : Token) : Option State :=
  match state, token with
  | .value stack, token => begin stack token
  | .firstItem stack, .closeArray => some (.ended (.array []) stack)
  | .firstItem stack, token => begin (.array [] :: stack) token
  | .firstKey stack, .closeObject => some (.ended (.object []) stack)
  | .firstKey stack, .text k => some (.colon [] k stack)
  | .key fields stack, .text k => some (.colon fields k stack)
  | .colon fields k stack, .colon => some (.value (.object fields k :: stack))
  | .ended v (frame :: stack), token => leave v frame stack token
  | _, _ => none

/-- The value, once it is complete and nothing is open. -/
def result? : State → Option Json
  | .ended v [] => some v
  | _ => none

end State

/-- The value that tokens spell. -/
def ofTokens? (tokens : List Token) : Option Json :=
  (tokens.foldlM State.step (.value [])).bind State.result?

def parse? (text : String) : Option Json := (tokens? text.toList).bind ofTokens?

end TypeGraph.Json
