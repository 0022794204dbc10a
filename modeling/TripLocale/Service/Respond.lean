/-
Answering a request.

An answer repeats the subject of its request and holds a value or an error text. The objects in a value
hold each name once: in a flat answer a full key met twice keeps its first place and its last text.
-/
import TripLocale.Bundle.Flatten
import TripLocale.Json.Printer
import TripLocale.MessageCode
import TripLocale.Service.Request

namespace TripLocale

/-- Why a request has no value. -/
inductive RequestError where
  /-- The path leads nowhere. -/
  | lookup (error : LookupError)
  /-- The path leads to something without keys. -/
  | notABundle (path : String) (kind : ValueKind)
  /-- The text spells no number. -/
  | badNumber (text : String) (fault : Text.NumeralFault)
  /-- The number is no message code. -/
  | unknownCode (number : UInt16)
  /-- The bundle has no text for the code. -/
  | noMessage (code : MessageCode)
deriving DecidableEq, Repr

/-- The error in words. -/
def RequestError.message : RequestError → String
  | lookup e => e.message
  | notABundle path kind => "'" ++ path ++ "' is " ++ kind.name ++ ", not a bundle"
  | badNumber text fault => "Invalid message code '" ++ text ++ "': " ++ fault.message
  | unknownCode number => MessageCode.unknownMessage number
  | noMessage code => "No message for " ++ code.display

/-- The answer to a request. -/
structure Response where
  path : String
  outcome : Except RequestError Json

namespace Response

/-- The answer as a JSON object. -/
def toJson (r : Response) : Json :=
  match r.outcome with
  | .ok value => .object [("path", .string r.path), ("value", value)]
  | .error e => .object [("path", .string r.path), ("error", .string e.message)]

/-- The answer as one line of text, without its line end. -/
def line (r : Response) : String := r.toJson.render

end Response

namespace Bundle

/-- The value at a path. -/
def answerValue (b : Bundle) (separator path : String) : Except RequestError Json :=
  match b.lookup path separator with
  | .ok r => .ok r.toJson.settled
  | .error e => .error (.lookup e)

/-- The section at a path, which is the root if the path is empty. -/
def sectionAt (b : Bundle) (separator path : String) : Except RequestError Bundle :=
  if path.isEmpty then .ok b
  else
    match b.lookup path separator with
    | .error e => .error (.lookup e)
    | .ok r =>
      match r.value?.bind Value.bundle? with
      | some s => .ok s
      | none => .error (.notABundle path r.kind)

/-- The keys of the section at a path. -/
def answerKeys (b : Bundle) (separator path : String) : Except RequestError Json :=
  (fun s => Json.ofTexts s.keys) <$> b.sectionAt separator path

/-- The texts at and below a full key. -/
def answerFlat (b : Bundle) (separator top : String) : Json :=
  let texts := if top.isEmpty then b.flatten separator else b.flattenUnder top separator
  .object (Json.withoutRepeats (texts.map fun e => (e.1, .string e.2)))

/-- The text for the message code whose number is spelled. -/
def answerCode (b : Bundle) (number : String) : Except RequestError Json :=
  match Text.word16 number.toList with
  | .error fault => .error (.badNumber number fault)
  | .ok n =>
    match MessageCode.ofNumber? n with
    | none => .error (.unknownCode n)
    | some code =>
      match b.messageFor? code with
      | some text => .ok (.string text)
      | none => .error (.noMessage code)

/-- The answer to a request, with `separator` between the keys of paths. -/
def respond (b : Bundle) (separator : String) (request : Request) : Response :=
  ⟨request.subject,
    match request with
    | .value path => b.answerValue separator path
    | .keys path => b.answerKeys separator path
    | .flat top => .ok (b.answerFlat separator top)
    | .code number => b.answerCode number⟩

end Bundle

end TripLocale
