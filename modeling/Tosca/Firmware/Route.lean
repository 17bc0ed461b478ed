/-
# Routes, responses and request paths of the firmware

What the `tosca-esp32c3` server reads of a route, what it answers, and the three string
operations of `core::str` its router is built from.

`RouteConfig` comes from `tosca::route`, which is not among the sources: it is modelled
from what `analyze_route`, `parse_get_parameters` and `route_func_manager` read of it (the
REST kind, the path, the declared parameters and the advertised response kind). Whether two
configurations are equal is left to the `BEq` instance the modules above take.

The firmware's responses are kept up to their JSON serialization: `serde_json` is not
modelled, so a response records which constructor built it and from what.
-/

import Mathlib.Data.String.Basic
import Mathlib.Data.List.Basic
import Tosca.IndexSet
import Tosca.Parameters

namespace Tosca.Firmware

/-! ## Routes -/

/-- `RestKind`: the REST method a route answers to. -/
inductive RestKind
  | get | put | post | delete
  deriving DecidableEq, Repr

/-- The request methods of `edge_http`: the four a route can have, and any other by name. -/
inductive Method
  | get | put | post | delete
  | other (name : String)
  deriving DecidableEq, Repr

/-- `method_map`. -/
def methodMap : RestKind → Method
  | .get => .get
  | .put => .put
  | .post => .post
  | .delete => .delete

/-- `ResponseKind`: the family of response a route advertises. The `Stream` kind sits
behind a feature the firmware has no handler type for, and is left out. -/
inductive ResponseKind
  | ok | serial | info
  deriving DecidableEq, Repr

/-- The data of a route the firmware reads: its path and the parameters it declares. -/
structure RouteData where
  path : String
  parameters : Parameters
  deriving DecidableEq

/-- `RouteConfig`: a route as the device description advertises it. -/
structure RouteConfig where
  restKind : RestKind
  data : RouteData
  responseKind : ResponseKind
  deriving DecidableEq

/-- `change_response_kind`. -/
def RouteConfig.changeResponseKind (config : RouteConfig) (responseKind : ResponseKind) :
    RouteConfig :=
  { config with responseKind }

/-- `RouteConfigs`: the routes of a device, in insertion order and without duplicates. -/
abbrev RouteConfigs [BEq RouteConfig] := IndexSet RouteConfig

/-! ## Responses -/

/-- `ErrorKind` of `tosca::response`. -/
inductive ErrorKind
  | invalidData | internal
  deriving DecidableEq, Repr

/-- `ErrorResponse`: an error kind, a description, and what went wrong when known. -/
structure ErrorResponse where
  error : ErrorKind
  description : String
  info : Option String
  deriving DecidableEq, Repr

/-- `OkResponse`: an operation completed. -/
structure OkResponse where
  deriving DecidableEq, Repr

/-- `SerialResponse`: the serialized data an operation produced. -/
structure SerialResponse where
  value : String
  deriving DecidableEq, Repr

/-- `InfoResponse`: the serialized energy and economy information of a device. -/
structure InfoResponse where
  deviceInfo : String
  deriving DecidableEq, Repr

/-- `Response`: what the server writes back, by the constructor that built it. -/
inductive Response
  | notFound
  | notAllowed
  | ok
  | serial (value : String)
  | info (deviceInfo : String)
  | error (response : ErrorResponse)
  | json (value : String)
  deriving DecidableEq, Repr

namespace Response

/-- The `From<Result<_, ErrorResponse>>` conversions: a handler's success or its error. -/
def ofResult {α : Type} (success : α → Response) : Except ErrorResponse α → Response
  | .ok value => success value
  | .error response => .error response

/-- `From<Result<OkResponse, ErrorResponse>>`. -/
def ofOk : Except ErrorResponse OkResponse → Response := ofResult fun _ => .ok

/-- `From<Result<SerialResponse, ErrorResponse>>`. -/
def ofSerial : Except ErrorResponse SerialResponse → Response := ofResult (.serial ·.value)

/-- `From<Result<InfoResponse, ErrorResponse>>`. -/
def ofInfo : Except ErrorResponse InfoResponse → Response := ofResult (.info ·.deviceInfo)

end Response

/-! ## Request paths -/

/-- `path.strip_suffix('/').unwrap_or(path)`: one trailing `/` removed. -/
def stripSuffixSlash (path : String) : String :=
  if path.data.getLast? = some '/' then ⟨path.data.dropLast⟩ else path

/-- `split_terminator('/')`: the pieces between the `/`s, except that an empty last piece
is skipped. -/
def splitTerminator (path : String) : List String :=
  let pieces := path.data.splitOn '/'
  (if pieces.getLast? = some [] then pieces.dropLast else pieces).map String.mk

/-- `s[1..]`: everything after the first byte; `none` where Rust panics, on an empty string
or one whose first character takes more than one byte. -/
def sliceFrom1 (s : String) : Option String :=
  match s.data with
  | [] => none
  | c :: rest => if c.utf8Size = 1 then some ⟨rest⟩ else none

example : splitTerminator "/light/on/" = ["", "light", "on"] := by decide
example : splitTerminator "" = [] := by decide

/-! ## Paths made of segments -/

/-- The path `/s₁/s₂/…` of the segments `s₁, s₂, …`. -/
def joinSegments (segments : List String) : String :=
  String.join (segments.map ("/" ++ ·))

/-- A segment of a path: not empty, with no `/` in it. -/
def IsSegment (segment : String) : Prop := segment ≠ "" ∧ '/' ∉ segment.data

instance : DecidablePred IsSegment := fun _ => inferInstanceAs (Decidable (_ ∧ _))

private theorem append_flatten_slash (x : List Char) (xs : List (List Char)) :
    x ++ (xs.map ('/' :: ·)).flatten = ['/'].intercalate (x :: xs) := by
  induction xs generalizing x with
  | nil => simp [List.intercalate]
  | cons y ys ih =>
    rw [List.map_cons, List.flatten_cons, List.cons_append, ih y]
    simp [List.intercalate, List.intersperse_cons₂]

theorem data_joinSegments {segment : String} {segments : List String} :
    (joinSegments (segment :: segments)).data =
      '/' :: ['/'].intercalate ((segment :: segments).map String.data) := by
  simp [joinSegments, String.data_join, ← append_flatten_slash, Function.comp_def]

theorem splitTerminator_intercalate {segments : List String} (nonempty : segments ≠ [])
    (wellFormed : ∀ segment ∈ segments, IsSegment segment) :
    splitTerminator ⟨['/'].intercalate (segments.map String.data)⟩ = segments := by
  have pieces : (['/'].intercalate (segments.map String.data)).splitOn '/' =
      segments.map String.data := by
    refine List.splitOn_intercalate _ '/' ?_ (by simpa using nonempty)
    simp only [List.mem_map]
    rintro _ ⟨segment, mem, rfl⟩
    exact (wellFormed segment mem).2
  have lastPiece : (segments.map String.data).getLast? ≠ some [] := by
    rw [List.getLast?_map]
    intro last
    obtain ⟨segment, at_last, empty⟩ := Option.map_eq_some'.1 last
    exact (wellFormed segment (List.mem_of_getLast?_eq_some at_last)).1 (String.ext empty)
  simp only [splitTerminator, pieces, if_neg lastPiece, List.map_map]
  exact (List.map_congr_left fun _ _ => rfl).trans (List.map_id _)

theorem sliceFrom1_slash_cons (cs : List Char) : sliceFrom1 ⟨'/' :: cs⟩ = some ⟨cs⟩ := rfl

theorem sliceFrom1_isSome {s : String} (rooted : s.data.head? = some '/') :
    (sliceFrom1 s).isSome := by
  obtain ⟨cs⟩ := s
  cases cs with
  | nil => cases rooted
  | cons c cs =>
    cases rooted
    rfl

/-- A leading `/` splits off an empty piece. -/
theorem splitTerminator_slash_cons (cs : List Char) :
    splitTerminator ⟨'/' :: cs⟩ = "" :: splitTerminator ⟨cs⟩ := by
  obtain ⟨first, rest, pieces⟩ := List.exists_cons_of_ne_nil (List.splitOnP_ne_nil (· == '/') cs)
  have split : ('/' :: cs).splitOn '/' = [] :: first :: rest := by
    simpa [List.splitOn] using pieces
  simp only [splitTerminator, split, show cs.splitOn '/' = first :: rest from pieces,
    List.getLast?_cons_cons, List.dropLast_cons₂]
  split_ifs <;> rfl

/-- A path made of segments splits back into them, after its leading empty piece. -/
theorem splitTerminator_joinSegments {segments : List String} (nonempty : segments ≠ [])
    (wellFormed : ∀ segment ∈ segments, IsSegment segment) :
    splitTerminator (joinSegments segments) = "" :: segments := by
  obtain ⟨segment, segments, rfl⟩ := List.exists_cons_of_ne_nil nonempty
  rw [String.ext data_joinSegments, splitTerminator_slash_cons,
    splitTerminator_intercalate nonempty wellFormed]

/-- A path made of segments does not end with a `/`. -/
theorem stripSuffixSlash_joinSegments {segments : List String}
    (wellFormed : ∀ segment ∈ segments, IsSegment segment) :
    stripSuffixSlash (joinSegments segments) = joinSegments segments := by
  refine if_neg fun ends => ?_
  rcases List.eq_nil_or_concat segments with rfl | ⟨init, last, rfl⟩
  · simp [joinSegments] at ends
  · obtain ⟨nonempty, noSlash⟩ := wellFormed last (by simp)
    simp [joinSegments, String.data_join, List.getLast?_append, List.getLast?_cons] at ends
    cases lastChar : last.data.getLast? with
    | none => exact nonempty (String.ext (List.getLast?_eq_none_iff.1 lastChar))
    | some c =>
      rw [lastChar, Option.getD_some] at ends
      exact noSlash (ends ▸ List.mem_of_getLast?_eq_some lastChar)

end Tosca.Firmware
