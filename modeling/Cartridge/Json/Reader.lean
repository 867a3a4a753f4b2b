import Cartridge.Json.Token

/-!
Reading a JSON document. The arrays and objects around the current token are kept as a stack of
frames, so documents may nest to any depth.
-/

namespace Cartridge.Json

/-- An array or object that is still open, with what it holds so far in reverse. -/
inductive Frame where
  | array (held : List Value)
  | object (held : List (Text × Value))
  | member (held : List (Text × Value)) (key : Text)

/-- What may come next. -/
inductive Expect where
  | value
  | itemOrEnd
  | keyOrEnd
  | key
  | colon (key : Text)
  | more

inductive Reading where
  | inside (expect : Expect) (frames : List Frame)
  | done (v : Value)

namespace Reading

def close (v : Value) : List Frame → Option Reading
  | [] => some (.done v)
  | .array held :: frames => some (.inside .more (.array (v :: held) :: frames))
  | .member held key :: frames => some (.inside .more (.object ((key, v) :: held) :: frames))
  | .object _ :: _ => none

def value (frames : List Frame) : Token → Option Reading
  | .openArray => some (.inside .itemOrEnd (.array [] :: frames))
  | .openObject => some (.inside .keyOrEnd (.object [] :: frames))
  | .text t => close (.string t) frames
  | .scalar v => close v frames
  | _ => none

def step : Reading → Token → Option Reading
  | .done _, _ => none
  | .inside .value frames, token => value frames token
  | .inside .itemOrEnd (.array [] :: frames), .closeArray => close (.array []) frames
  | .inside .itemOrEnd frames, token => value frames token
  | .inside .keyOrEnd (.object [] :: frames), .closeObject => close (.object []) frames
  | .inside .keyOrEnd frames, .text key => some (.inside (.colon key) frames)
  | .inside .key frames, .text key => some (.inside (.colon key) frames)
  | .inside (.colon key) (.object held :: frames), .colon =>
    some (.inside .value (.member held key :: frames))
  | .inside .more (.array held :: frames), .comma =>
    some (.inside .value (.array held :: frames))
  | .inside .more (.array held :: frames), .closeArray => close (.array held.reverse) frames
  | .inside .more (.object held :: frames), .comma =>
    some (.inside .key (.object held :: frames))
  | .inside .more (.object held :: frames), .closeObject => close (.object held.reverse) frames
  | _, _ => none

def result? : Reading → Option Value
  | .done v => some v
  | .inside _ _ => none

end Reading

def Value.ofTokens? (tokens : List Token) : Option Value :=
  (tokens.foldlM Reading.step (.inside .value [])).bind Reading.result?

/-- The document a text spells; `none` if the text is not one JSON value with nothing but blanks
around it. -/
def Value.parse? (s : String) : Option Value :=
  (tokens? s.toList).bind Value.ofTokens?

end Cartridge.Json
