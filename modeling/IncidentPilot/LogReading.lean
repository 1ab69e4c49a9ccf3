import IncidentPilot.Library.Latest
import IncidentPilot.ReadonlyServer
import IncidentPilot.StructuredOutput

/-!
# Reading the structured log

`read_logs` of `ops_readonly/server.py`.  The file is untrusted: it is decoded
with replacements, and a line may be any JSON value.  `json.loads` and `int` of
a text are parameters; `json.loads` also reads numbers that are not finite, and
fails other than on malformed JSON where a value is nested too deeply or an
integer has too many digits.
-/

namespace IncidentPilot

/-- A Python string, which may have lone surrogates. -/
abbrev CodePoints := List Nat

/-- The code points of a text. -/
def codePoints (text : String) : CodePoints :=
  text.toList.map Char.toNat

/-- What `json.loads` returns. -/
inductive LogValue where
  | null
  | bool (value : Bool)
  | int (value : Int)
  | float (value : Rat)
  | nan
  | infinity
  | string (value : CodePoints)
  | array (items : List LogValue)
  | object (fields : List (CodePoints × LogValue))

/-- What `json.loads` does with a line. -/
inductive Loaded where
  | value (value : LogValue)
  | decodeError
  | raised (error : String)

/-- Functions of Python's library. -/
structure LogTools where
  jsonLoads : String → Loaded
  parseInt : CodePoints → Except String Int
  dumps : LogValue → Except DumpsError String

/-- A character that is decoded, and the bytes that may come next. -/
structure PendingChar where
  needed : Nat
  low : Nat
  high : Nat
  value : Nat

/-- U+FFFD. -/
def replacementChar : Char :=
  Char.ofNat 65533

/-- What the first byte of a character gives. -/
def firstByte (byte : Nat) : List Char × Option PendingChar :=
  if byte ≤ 127 then ([Char.ofNat byte], none)
  else if byte < 194 then ([replacementChar], none)
  else if byte ≤ 223 then ([], some ⟨1, 128, 191, byte - 192⟩)
  else if byte = 224 then ([], some ⟨2, 160, 191, 0⟩)
  else if byte = 237 then ([], some ⟨2, 128, 159, 13⟩)
  else if byte ≤ 239 then ([], some ⟨2, 128, 191, byte - 224⟩)
  else if byte = 240 then ([], some ⟨3, 144, 191, 0⟩)
  else if byte ≤ 243 then ([], some ⟨3, 128, 191, byte - 240⟩)
  else if byte = 244 then ([], some ⟨3, 128, 143, 4⟩)
  else ([replacementChar], none)

/-- `bytes.decode("utf-8", "replace")`, with the character that is decoded. -/
def decodeReplaceFrom : Option PendingChar → List UInt8 → List Char
  | none, [] => []
  | some _, [] => [replacementChar]
  | none, byte :: rest =>
      (firstByte byte.toNat).1 ++
        decodeReplaceFrom (firstByte byte.toNat).2 rest
  | some pending, byte :: rest =>
      if pending.low ≤ byte.toNat ∧ byte.toNat ≤ pending.high then
        let value := pending.value * 64 + (byte.toNat - 128)
        if pending.needed = 1 then
          Char.ofNat value :: decodeReplaceFrom none rest
        else
          decodeReplaceFrom (some ⟨pending.needed - 1, 128, 191, value⟩) rest
      else
        -- The byte does not continue the character, but may start another.
        replacementChar ::
          ((firstByte byte.toNat).1 ++
            decodeReplaceFrom (firstByte byte.toNat).2 rest)

/-- `bytes.decode("utf-8", "replace")`. -/
def decodeReplace (bytes : List UInt8) : List Char :=
  decodeReplaceFrom none bytes

/-- The bytes that are read: the last ones, from the start of a line on. -/
def logTail (content : List UInt8) : List UInt8 :=
  let start := content.length - 128000
  let rest := content.drop start
  if start = 0 then
    rest.take 128000
  else
    ((rest.dropWhile fun byte => decide (byte ≠ 10)).drop 1).take 128000

/-- The lines that are read, without blank ones. -/
def logLines (content : List UInt8) : List String :=
  ((splitLinesFrom false [] (decodeReplace (logTail content))).map
      fun line => strip (String.ofList line)).filter
    fun line => decide (line ≠ "")

/-- The values of the lines, but for those that are malformed JSON. -/
def loadLines (tools : LogTools) :
    List String → Except String (List LogValue)
  | [] => .ok []
  | line :: rest =>
      match tools.jsonLoads line with
      | .raised error => .error error
      | .decodeError => loadLines tools rest
      | .value value =>
          match loadLines tools rest with
          | .error error => .error error
          | .ok values => .ok (value :: values)

namespace LogValue

/-- `value.get(key)` of a dictionary. -/
def get? (value : LogValue) (key : String) : Option LogValue :=
  match value with
  | object fields => fields.lookup (codePoints key)
  | _ => none

/-- `bool(value)`. -/
def truthy : LogValue → Bool
  | null => false
  | bool value => value
  | int value => value ≠ 0
  | float value => value ≠ 0
  | nan => true
  | infinity => true
  | string value => value ≠ []
  | array items => !items.isEmpty
  | object fields => !fields.isEmpty

/-- `bool(value.get(key))`. -/
def flag (value : LogValue) (key : String) : Bool :=
  (value.get? key).any truthy

/-- A dictionary. -/
def isObject : LogValue → Bool
  | object _ => true
  | _ => false

/-- `type(value).__name__`. -/
def typeName : LogValue → String
  | null => "NoneType"
  | bool _ => "bool"
  | int _ => "int"
  | float _ => "float"
  | nan => "float"
  | infinity => "float"
  | string _ => "str"
  | array _ => "list"
  | object _ => "dict"

/-- The message when a value has no `get`. -/
def noGet (value : LogValue) : String :=
  "'" ++ value.typeName ++ "' object has no attribute 'get'"

/-- Whether a field is some text. -/
def hasText (value : LogValue) (key text : String) : Bool :=
  match value.get? key with
  | some (string found) => decide (found = codePoints text)
  | _ => false

/-- The line of a request that injects a fault. -/
def isFault (value : LogValue) : Bool :=
  value.hasText "path" "/admin/fault" && value.hasText "method" "POST"

/-- `int(value)`. -/
def toInt (tools : LogTools) : LogValue → Except String Int
  | bool value => .ok (if value then 1 else 0)
  | int value => .ok value
  | float value => .ok (value.num.tdiv value.den)
  | nan => .error "cannot convert float NaN to integer"
  | infinity => .error "cannot convert float infinity to integer"
  | string value => tools.parseInt value
  | other =>
      .error
        ("int() argument must be a string, a bytes-like object or a real " ++
          "number, not '" ++ other.typeName ++ "'")

/-- `int(value.get("status", 0) or 0)`. -/
def status (tools : LogTools) (value : LogValue) : Except String Int :=
  match value.get? "status" with
  | none => .ok 0
  | some found => if found.truthy = true then found.toInt tools else .ok 0

/-- Whether a line counts as an error. -/
def isError (tools : LogTools) (value : LogValue) : Except String Bool :=
  if value.isObject = false then
    .error value.noGet
  else if value.flag "error" = true ∨ value.flag "error_type" = true then
    .ok true
  else
    match value.status tools with
    | .error error => .error error
    | .ok status => .ok (decide (500 ≤ status))

end LogValue

/-- The search for the latest fault, backwards; the place is its index. -/
def searchFault : List LogValue → Except String (Option Nat)
  | [] => .ok none
  | value :: older =>
      if value.isObject = false then
        .error value.noGet
      else if value.isFault = true then
        .ok (some older.length)
      else
        searchFault older

/-- The selected items that count as errors. -/
def errorItems (tools : LogTools) :
    List LogValue → Except String (List LogValue)
  | [] => .ok []
  | value :: rest =>
      match value.isError tools with
      | .error error => .error error
      | .ok counts =>
          match errorItems tools rest with
          | .error error => .error error
          | .ok errors =>
              .ok (if counts = true then value :: errors else errors)

/-- A dictionary of events that `read_logs` returns. -/
structure LogWindow where
  service : String
  window : String
  count : Nat
  errorCount : Nat
  events : List LogValue
  unavailable : Option (String × String) := none

/-- The dictionary of a window. -/
def LogWindow.value (window : LogWindow) : LogValue :=
  .object
    ([(codePoints "service", .string (codePoints window.service)),
        (codePoints "window", .string (codePoints window.window)),
        (codePoints "count", .int window.count),
        (codePoints "error_count", .int window.errorCount),
        (codePoints "events", .array window.events)] ++
      match window.unavailable with
      | none => []
      | some (error, source) =>
          [(codePoints "error", .string (codePoints error)),
            (codePoints "source", .string (codePoints source))])

/-- The reply of `read_logs`. -/
inductive LogReply where
  | refused (fields : List (String × Json))
  | window (window : LogWindow)

/-- `json.dumps` of a reply. -/
def LogReply.dumps
    (json : JsonTools)
    (tools : LogTools) : LogReply → Except DumpsError String
  | .refused fields => json.dumps (.object fields)
  | .window shown => tools.dumps shown.value

/-- The values of a file, if it exists. -/
def fileValues
    (tools : LogTools) : Option (List UInt8) → Except String (List LogValue)
  | none => .ok []
  | some content => loadLines tools (logLines content)

/-- The selected items of the values of the lines. -/
def selectEvents
    (limit : Nat)
    (lines : List LogValue) : Except String (List LogValue) :=
  match searchFault lines.reverse with
  | .error error => .error error
  | .ok found =>
      let start := found.getD (lines.length - limit)
      .ok ((lines.drop start).rtake limit)

/-- What is returned for the values of the lines. -/
def showEvents
    (tools : LogTools)
    (logFile service window : String)
    (limit : Nat)
    (lines : List LogValue) : Except String LogWindow :=
  if lines.isEmpty = true then
    .ok
      { service := service
        window := window
        count := 0
        errorCount := 0
        events := []
        unavailable := some ("structured log source unavailable", logFile) }
  else
    match selectEvents limit lines with
    | .error error => .error error
    | .ok selected =>
        match errorItems tools selected with
        | .error error => .error error
        | .ok errors =>
            .ok
              { service := service
                window := window
                count := selected.length
                errorCount := errors.length
                events := selected }

/-- `read_logs`, before `safe_tool`; an error is an exception. -/
def readLogs
    (tools : LogTools)
    (logFile : String)
    (file : Option (List UInt8))
    (service window : String)
    (limit : Int) : Except String LogReply :=
  if 1 ≤ limit ∧ limit ≤ 50 then
    match fileValues tools file with
    | .error error => .error error
    | .ok lines =>
        (showEvents tools logFile service window limit.toNat lines).map
          .window
  else
    .ok (.refused [("error", .string "limit must be between 1 and 50")])

/-- The arguments of a call of `read_logs`. -/
def logArguments (service window : String) (limit : Int) : Json :=
  keywordArguments
    [("service", .string service), ("window", .string window),
      ("limit", .int limit)]

/-- `read_logs` with the limits of `safe_tool`, before redaction. -/
def readLogsTool
    (json : JsonTools)
    (tools : LogTools)
    (logFile : String)
    (file : Option (List UInt8))
    (service window : String)
    (limit : Int) : Except String LogReply :=
  limitedTool json (logArguments service window limit)
    (LogReply.dumps json tools) .refused
    (readLogs tools logFile file service window limit)

end IncidentPilot
